import Perimeter.Storage.Table

/-!
# Handles of tables

A table by itself lies at a place of a depot, and is read and written through handles. A handle
holds no rows, it names the place where they lie. So a copy of a handle leads to the same rows, and
what is written through the one is read through the other.
-/

namespace Perimeter

inductive Table.Query (α κ : Type) where
  | find (key : κ)
  | all
  | count
  | create (row : α)
  | update (row : α)
  | delete (key : κ)

inductive Table.Reply (α : Type) where
  | found (row : Option α)
  | listed (rows : List α)
  | counted (rows : Nat)
  | entered (outcome : Except Fault α)
  | deleted (present : Bool)

namespace Table

variable {α κ : Type} [Ord κ] [Std.TransOrd κ] [Stored α κ]

/-- The answer to a row that was to be entered, and the table after it. -/
def afterEntry (t : Table α κ) (row : α) : Except Fault (Table α κ) → Reply α × Table α κ
  | .ok t' => (.entered (.ok row), t')
  | .error e => (.entered (.error e), t)

/-- The answer to a query, and the table after it. -/
def answer (t : Table α κ) : Query α κ → Reply α × Table α κ
  | .find k => (.found (t.find? k), t)
  | .all => (.listed t.all, t)
  | .count => (.counted t.count, t)
  | .create row => t.afterEntry row (t.create row)
  | .update row => t.afterEntry row (t.update row)
  | .delete k => (.deleted (t.delete k).1, (t.delete k).2)

end Table

/-- The name of the place where a table lies. -/
structure Handle where
  place : Nat
deriving DecidableEq

namespace Handle

/-- A copy is a handle of its own. It leads where the original leads. -/
def copy (h : Handle) : Handle := ⟨h.place⟩

/-- The handles that are made of one by copying, and by copying copies. -/
inductive CopyOf (h : Handle) : Handle → Prop
  | self : CopyOf h h
  | copy {g : Handle} (copied : CopyOf h g) : CopyOf h g.copy

end Handle

/-- Tables at their places. -/
structure Depot (α κ : Type) [Ord κ] [Std.TransOrd κ] [Stored α κ] where
  tables : List (Table α κ)

namespace Depot

variable {α κ : Type} [Ord κ] [Std.TransOrd κ] [Stored α κ]

def empty : Depot α κ := ⟨[]⟩

/-- Puts an empty table at a new place. -/
def newTable (d : Depot α κ) : Handle × Depot α κ :=
  (⟨d.tables.length⟩, ⟨d.tables ++ [.empty]⟩)

/-- Asks the table that a handle leads to; no answer if no table lies there. -/
def ask (d : Depot α κ) (h : Handle) (q : Table.Query α κ) :
    Option (Table.Reply α) × Depot α κ :=
  match d.tables[h.place]? with
  | some t => (some (t.answer q).1, ⟨d.tables.set h.place (t.answer q).2⟩)
  | none => (none, d)

/-- Asks one query after another. Every answer comes with the handle it was asked through. -/
def askAll (d : Depot α κ) :
    List (Handle × Table.Query α κ) → List (Handle × Option (Table.Reply α)) × Depot α κ
  | [] => ([], d)
  | (h, q) :: rest =>
    let (reply, d) := d.ask h q
    let (replies, d) := d.askAll rest
    ((h, reply) :: replies, d)

end Depot

end Perimeter
