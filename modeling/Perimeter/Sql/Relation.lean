import Perimeter.Page
import Perimeter.Sql.Query

/-!
# Relations

How rows of one type are kept in a table: its columns, its key, and what a row looks like in
them. From this follow the queries that find, list, count, create, change and delete rows.
-/

namespace Perimeter.Sql

/-- How rows of a type are kept in a table. -/
structure Relation (α κ : Type) where
  table : String
  columns : List Column
  /-- The columns of the key. -/
  keyColumns : List String
  /-- The columns that a change sets. Rows of a table without any never change. -/
  changeable : List String
  /-- What one row is called, and what several are called. -/
  singular : String
  plural : String
  key : α → κ
  keyData : κ → List Datum
  toData : α → List Datum
  ofData? : List Datum → Option α
  /-- The fault of changing a row that is not there. -/
  absent : κ → Fault
  /-- The failures of creating a row that have a fault of their own. -/
  creationFault? : α → Failure → Option Fault
  /-- The failures of deleting a row that have a fault of their own. -/
  deletionFault? : κ → Failure → Option Fault

namespace Relation

variable {α κ : Type}

/-- A row as a reply gives it; `none` if a value is missing or of another type. -/
def ofRow? (r : Relation α κ) (row : Row) : Option α :=
  r.ofData? (r.columns.map fun c => row.get c.name)

/-- The first row of a reply, if it has any. -/
def first? (r : Relation α κ) (reply : Reply) : Option (Option α) :=
  match reply.rows with
  | row :: _ => (r.ofRow? row).map some
  | [] => some none

def valuesOf (r : Relation α κ) (columns : List String) (a : α) : List Datum :=
  let named := (r.columns.map Column.name).zip (r.toData a)
  columns.filterMap fun c => named.lookup c

/-! ## Queries -/

def find (r : Relation α κ) (k : κ) : Query (Option α) where
  statement := ⟨.select r.table r.keyColumns, r.keyData k⟩
  read := Query.reading r.first? (.statementFailed "find" r.singular)

/-- Lists every row, oldest first, and by the first column of the key where times agree. -/
def all (r : Relation α κ) : Query (List α) where
  statement := ⟨.selectAll r.table ("created_at" :: r.keyColumns.take 1), []⟩
  read := Query.reading (fun reply => reply.rows.mapM r.ofRow?)
    (.statementFailed "load" r.plural)

/-- The number in a reply, as a 64-bit number. -/
def countOf? (reply : Reply) : Option Nat :=
  match reply.rows with
  | ((_, .int n) :: _) :: _ => some (n % (maxWord64 + 1)).toNat
  | _ => none

def count (r : Relation α κ) : Query Nat where
  statement := ⟨.count r.table, []⟩
  read := Query.reading countOf? (.statementFailed "count" r.plural)

/-- Creates a row, and answers with the row as it is stored. -/
def create (r : Relation α κ) (a : α) : Query α where
  statement := ⟨.insert r.table (r.columns.map Column.name), r.toData a⟩
  read
    | .ok reply =>
      match r.first? reply with
      | some (some row) => .ok row
      | _ => .error (.statementFailed "create" r.singular)
    | .error failure =>
      .error ((r.creationFault? a failure).getD (.statementFailed "create" r.singular))

/-- A row that has to be there. -/
def present (r : Relation α κ) (k : κ) : Option α → Except Fault α
  | some row => .ok row
  | none => .error (r.absent k)

/-- Changes the row of a key, and answers with the row as it is stored. Where no column can
change, the row is only found. -/
def update (r : Relation α κ) (a : α) : Query α :=
  let k := r.key a
  if r.changeable.isEmpty then
    { statement := (r.find k).statement
      read := fun answer => (r.find k).read answer >>= r.present k }
  else
    { statement := ⟨.update r.table r.keyColumns r.changeable,
        r.keyData k ++ r.valuesOf r.changeable a⟩
      read := fun answer =>
        Query.reading r.first? (.statementFailed "update" r.singular) answer >>= r.present k }

/-- Deletes the row of a key, and says whether there was one. -/
def delete (r : Relation α κ) (k : κ) : Query Bool where
  statement := ⟨.delete r.table r.keyColumns, r.keyData k⟩
  read
    | .ok reply => .ok (decide (0 < reply.affected))
    | .error failure =>
      .error ((r.deletionFault? k failure).getD (.statementFailed "delete" r.singular))

end Relation

end Perimeter.Sql
