import Perimeter.Toml.Value

/-!
# Documents of TOML

A document is read line by line: a line opens a table, adds a table to an array of tables, or
adds a value to the table that was opened last. No table is opened twice and no key is set
twice.
-/

namespace Perimeter.Toml

namespace Nodes

/-- Changes the fields of the table at the end of a path. Tables on the way are made where they
are missing; of an array of tables the last is meant. -/
def within (change : Nodes → Option Nodes) : List String → Nodes → Option Nodes
  | [], fs => change fs
  | name :: path, fs =>
    match fs.lookup name with
    | none => (within change path []).map fun sub => fs.set name (.table .implied sub)
    | some (.table origin sub) =>
      (within change path sub).map fun sub => fs.set name (.table origin sub)
    | some (.tables last before) =>
      (within change path last).map fun last => fs.set name (.tables last before)
    | some (.value _) => none

/-- Opens a table. One that is there already may only be there for what it holds. -/
def openTable (name : String) (fs : Nodes) : Option Nodes :=
  match fs.lookup name with
  | none => some (fs.set name (.table .opened []))
  | some (.table .implied sub) => some (fs.set name (.table .opened sub))
  | _ => none

def addTable (name : String) (fs : Nodes) : Option Nodes :=
  match fs.lookup name with
  | none => some (fs.set name (.tables [] []))
  | some (.tables last before) => some (fs.set name (.tables [] (last :: before)))
  | _ => none

/-- Makes a change to the last table of a path that is not empty. -/
def atLast (change : String → Nodes → Option Nodes) (path : List String) (fs : Nodes) :
    Option Nodes :=
  match path.getLast? with
  | some name => within (change name) path.dropLast fs
  | none => none

end Nodes

/-- A document as read so far: its root, and the path of the table that is open. -/
structure Document where
  root : Nodes
  path : List String

namespace Document

/-- What follows the closing bracket of a heading. -/
def headingEnd? (double : Bool) : List Char → Option (List Char)
  | ']' :: ']' :: rest => if double then lineEnd? rest else none
  | ']' :: rest => if double then none else lineEnd? rest
  | _ => none

def heading (d : Document) (double : Bool) (cs : List Char) : Option (Document × List Char) := do
  let (path, rest) ← key? cs
  let rest ← headingEnd? double rest
  let root ← Nodes.atLast (if double then Nodes.addTable else Nodes.openTable) path d.root
  some (⟨root, path⟩, rest)

/-- A line that sets a key. -/
def assignment (d : Document) (cs : List Char) : Option (Document × List Char) := do
  let (key, rest) ← key? cs
  let rest ← literal? '=' rest
  let (value, rest) ← value? (cs.length + 1) deepest (skipBlanks rest)
  let rest ← lineEnd? rest
  let root ← Nodes.within (Nodes.add (.value value) key) d.path d.root
  some ({ d with root }, rest)

/-- Reads one line, or what a line begins. -/
def line (d : Document) (cs : List Char) : Option (Document × List Char) :=
  match lineEnd? cs with
  | some rest => some (d, rest)
  | none =>
    match skipBlanks cs with
    | '[' :: '[' :: rest => d.heading true rest
    | '[' :: rest => d.heading false rest
    | cs => d.assignment cs

/-- Reads at most so many lines. -/
def lines : Nat → Document → List Char → Option Document
  | 0, _, _ => none
  | _ + 1, d, [] => some d
  | n + 1, d, cs =>
    match d.line cs with
    | some (d, rest) => lines n d rest
    | none => none

end Document

/-- The layer of a text; `none` if it is no TOML. Each line takes a character at least. -/
def parse? (s : String) : Option Layer :=
  let cs := match s.toList with
    | '\uFEFF' :: rest => rest
    | cs => cs
  (Document.lines (cs.length + 1) ⟨[], []⟩ cs).map fun d => .table (Node.layers d.root)

end Perimeter.Toml
