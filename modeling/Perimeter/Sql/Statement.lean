import Perimeter.Wire.Rows

/-!
# Statements

What a database is asked. A statement is a command on one table with its parameters; the text
that is sent is derived from the command, and numbers the parameters from 1.
-/

namespace Perimeter.Sql

/-! ## Values -/

/-- A value of a parameter or a column. -/
inductive Datum where
  | null
  | bool (b : Bool)
  | int (n : Int)
  | id (bits : BitVec 128)
  | text (s : String)
  | texts (ss : List String)
  | time (t : Instant)
deriving DecidableEq

/-- The start of 2000, in seconds from the start of 1970. -/
def databaseEpoch : Int := 946684800

/-- A time as databases keep it: in whole microseconds from the start of 2000. What is finer is
cut off towards that start. -/
def storedTime (t : Instant) : Instant :=
  let micros := ((t.seconds - databaseEpoch) * 1000000000 + t.nanos).tdiv 1000
  .ofParts (databaseEpoch + micros / 1000000) ((micros % 1000000).toNat * 1000)

namespace Datum

def ofId {κ : Kind} (i : Id κ) : Datum := id i.bits

def ofId? {κ : Kind} : Option (Id κ) → Datum
  | some i => ofId i
  | none => null

def ofText? : Option String → Datum
  | some s => text s
  | none => null

def ofTime (t : Instant) : Datum := time (storedTime t)

/-- A text that may be absent; `none` for values of other types. -/
def text? : Datum → Option (Option String)
  | text s => some (some s)
  | null => some none
  | _ => none

/-- An id that may be absent; `none` for values of other types. -/
def id? {κ : Kind} : Datum → Option (Option (Id κ))
  | id bits => some (some ⟨bits⟩)
  | null => some none
  | _ => none

def toJson : Datum → Json
  | null => .null
  | bool b => .bool b
  | int n => .int n
  | id bits => (⟨bits⟩ : Id .folder).toJson
  | text s => .string s
  | texts ss => .list .string ss
  | time t => t.toJson

end Datum

/-! ## Columns -/

/-- What a column holds. Some texts are bounded in length. -/
inductive ColumnType where
  | bool
  | id
  | text (longest : Option Nat)
  | texts
  | time
deriving DecidableEq

structure Column where
  name : String
  type : ColumnType
  nullable : Bool
deriving DecidableEq

/-! ## Commands -/

/-- A command. Rows are addressed by the columns of their key; every command that yields rows
yields all their columns. -/
inductive Command where
  | ping
  | count (table : String)
  | selectAll (table : String) (order : List String)
  | select (table : String) (keys : List String)
  | insert (table : String) (columns : List String)
  | update (table : String) (keys columns : List String)
  | delete (table : String) (keys : List String)
deriving DecidableEq

/-- A command with the values of its parameters. -/
structure Statement where
  command : Command
  parameters : List Datum
deriving DecidableEq

namespace Command

/-- The name of a parameter. -/
def parameter (number : Nat) : String := "$" ++ toString number

/-- Columns set equal to the parameters from a number on. -/
def equations (first : Nat) (columns : List String) : List String :=
  (columns.zipIdx first).map fun c => c.1 ++ " = " ++ parameter c.2

/-- The condition that a row has the key of the first parameters. -/
def keyTest (keys : List String) : String := " AND ".intercalate (equations 1 keys)

def commas (items : List String) : String := ", ".intercalate items

def text : Command → String
  | ping => "SELECT 1"
  | count table => s!"SELECT COUNT(*) FROM {table}"
  | selectAll table order =>
    s!"SELECT * FROM {table} ORDER BY " ++ commas (order.map (· ++ " ASC"))
  | select table keys => s!"SELECT * FROM {table} WHERE " ++ keyTest keys
  | insert table columns =>
    s!"INSERT INTO {table} (" ++ commas columns ++ ") VALUES ("
      ++ commas ((List.range' 1 columns.length).map parameter) ++ ") RETURNING *"
  | update table keys columns =>
    s!"UPDATE {table} SET " ++ commas (equations (keys.length + 1) columns) ++ " WHERE "
      ++ keyTest keys ++ " RETURNING *"
  | delete table keys => s!"DELETE FROM {table} WHERE " ++ keyTest keys

end Command

def Statement.toJson (s : Statement) : Json :=
  .object [("sql", .string s.command.text), ("params", .list Datum.toJson s.parameters)]

end Perimeter.Sql
