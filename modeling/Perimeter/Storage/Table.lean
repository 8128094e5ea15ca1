import Perimeter.Fault
import Perimeter.Folder
import Perimeter.Group
import Perimeter.Role
import Perimeter.User

/-!
# Tables

A table holds rows under unique keys and hands them out in the order of their arrival. Every
holder of a table sees the same rows. Rows carry the number of their arrival, so that a row
which was deleted and came again goes to the end.
-/

namespace Perimeter

/-- Rows that are stored in tables: what they are called, and the key they are known by. -/
class Stored (α : Type) (κ : outParam Type) where
  entity : String
  key : α → κ
  keyText : κ → String

instance : Stored Folder FolderId := ⟨"Folder", Folder.id, Id.debug⟩

instance : Stored User UserId := ⟨"User", User.id, Id.debug⟩

instance : Stored Role RoleId := ⟨"Role", Role.id, Id.debug⟩

instance : Stored Group GroupId := ⟨"User group", Group.id, Id.debug⟩

instance : Stored Membership MemberKey :=
  ⟨"Membership", Membership.key, fun k => s!"({k.user.debug}, {k.group.debug})"⟩

instance : Stored Assignment AssignmentId := ⟨"Role assignment", Assignment.id, Id.debug⟩

/-- Rows by key, each with the number of its arrival, and the number of the next arrival. -/
structure Table (α κ : Type) [Ord κ] [Std.TransOrd κ] [Stored α κ] where
  rows : Std.ExtTreeMap κ (Nat × α)
  arrivals : Nat
  /-- Every row lies under its own key. -/
  keyed : ∀ (k : κ) (p : Nat × α), rows[k]? = some p → compare (Stored.key p.2) k = .eq

namespace Table

variable {α κ : Type} [Ord κ] [Std.TransOrd κ] [Stored α κ]

def empty : Table α κ := ⟨∅, 0, by simp⟩

/-- The fault of creating a row under a key in use. -/
def taken (α : Type) {κ : Type} [Stored α κ] (k : κ) : Fault :=
  .rowTaken (Stored.entity α) (Stored.keyText α k)

/-- The fault of changing a row that is not there. -/
def missing (α : Type) {κ : Type} [Stored α κ] (k : κ) : Fault :=
  .rowMissing (Stored.entity α) (Stored.keyText α k)

def find? (t : Table α κ) (k : κ) : Option α := (t.rows[k]?).map Prod.snd

/-- Every row, in the order of arrival. -/
def all (t : Table α κ) : List α :=
  (t.rows.values.mergeSort fun a b => decide (a.1 ≤ b.1)).map Prod.snd

def count (t : Table α κ) : Nat := t.rows.size

/-- Lays a row under its key, with the number of its arrival. -/
def lay (t : Table α κ) (arrival : Nat) (row : α) (arrivals : Nat) : Table α κ where
  rows := t.rows.insert (Stored.key row) (arrival, row)
  arrivals := arrivals
  keyed := by
    intro k p h
    rw [Std.ExtTreeMap.getElem?_insert] at h
    split at h
    · next same =>
      cases h
      exact same
    · exact t.keyed k p h

def create (t : Table α κ) (row : α) : Except Fault (Table α κ) :=
  let k := Stored.key row
  if t.rows.contains k then .error (taken α k)
  else .ok (t.lay t.arrivals row (t.arrivals + 1))

/-- Replaces the row of a key, which keeps its place. -/
def update (t : Table α κ) (row : α) : Except Fault (Table α κ) :=
  let k := Stored.key row
  match t.rows[k]? with
  | some (arrival, _) => .ok (t.lay arrival row t.arrivals)
  | none => .error (missing α k)

/-- Removes the row of a key, and says whether there was one. -/
def delete (t : Table α κ) (k : κ) : Bool × Table α κ where
  fst := t.rows.contains k
  snd :=
    { rows := t.rows.erase k, arrivals := t.arrivals,
      keyed := by
        intro j p h
        rw [Std.ExtTreeMap.getElem?_erase] at h
        split at h
        · cases h
        · exact t.keyed j p h }

end Table

end Perimeter
