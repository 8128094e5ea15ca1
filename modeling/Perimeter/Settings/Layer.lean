import Perimeter.Binary64
import Perimeter.Json.Decode
import Perimeter.Width

/-!
# Layers of settings

A source of settings gives a layer: a tree of values whose types are not fixed yet. Layers are
laid over one another; tables merge, and any other value hides the one below. A source may name
a value deep inside by a path of names and places.
-/

namespace Perimeter

/-- A value in a source of settings. -/
inductive Layer where
  | null
  | bool (b : Bool)
  | int (n : Int)
  | real (x : Binary64)
  | text (s : String)
  | list (items : List Layer)
  | table (fields : List (String × Layer))

namespace Layer

def empty : Layer := table []

/-- The fields of a table; other values have none. -/
def fields : Layer → List (String × Layer)
  | table fs => fs
  | _ => []

/-- The items of a list; other values have none. -/
def items : Layer → List Layer
  | list items => items
  | _ => []

def get? (l : Layer) (name : String) : Option Layer := l.fields.lookup name

/-- Puts a value in the place of a field. What was no table becomes one. -/
def set (l : Layer) (name : String) (value : Layer) : Layer :=
  if l.fields.any (·.1 == name) then
    table (l.fields.map fun f => if f.1 == name then (name, value) else f)
  else table (l.fields ++ [(name, value)])

mutual

/-- Lays a value over another. A table merges with the fields of the one below, and any other
value takes its place. -/
def lay (below : Layer) : Layer → Layer
  | table incoming => layFields (table below.fields) incoming
  | value => value

def layFields (l : Layer) : List (String × Layer) → Layer
  | [] => l
  | (name, value) :: rest => layFields (l.set name (lay ((l.get? name).getD null) value)) rest

end

/-! ## Paths -/

/-- A step of a path: to a field of a table, or to a place in a list, counted from its end where
the number is negative. -/
inductive Step where
  | field (name : String)
  | place (i : Int)

def isNameChar (c : Char) : Bool := c.isAlphanum || c = '_' || c = '-'

def stepName? (cs : List Char) : Option (String × List Char) :=
  let word := cs.takeWhile isNameChar
  if word.isEmpty then none else some (String.ofList word, cs.drop word.length)

/-- Splits off a number and the bracket that closes it, with blanks around the number. -/
def stepPlace? (cs : List Char) : Option (Int × List Char) :=
  let isBlank (c : Char) : Bool := c = ' ' || c = '\t'
  let cs := cs.dropWhile isBlank
  let (negative, cs) := match cs with
    | '-' :: rest => (true, rest)
    | _ => (false, cs)
  let ds := cs.takeWhile Char.isDigit
  let n : Int := ds.foldl (fun n c => 10 * n + (c.toNat - 48 : Nat)) 0
  let n := if negative then -n else n
  match (cs.drop ds.length).dropWhile isBlank with
  | ']' :: rest =>
    if ds.isEmpty ∨ n < -maxSigned - 1 ∨ maxSigned < n then none else some (n, rest)
  | _ => none

/-- At most so many steps after the first: names after points, and numbers in brackets. -/
def stepsAfter? : Nat → List Char → Option (List Step)
  | _, [] => some []
  | n + 1, '.' :: cs => do
    let (name, cs) ← stepName? cs
    return .field name :: (← stepsAfter? n cs)
  | n + 1, '[' :: cs => do
    let (i, cs) ← stepPlace? cs
    return .place i :: (← stepsAfter? n cs)
  | _, _ => none

/-- The path that a key writes; a key that writes none is a name itself. -/
def path (key : String) : List Step :=
  let steps? : Option (List Step) := do
    let (name, cs) ← stepName? key.toList
    return .field name :: (← stepsAfter? cs.length cs)
  steps?.getD [.field key]

/-- A list that has a place, with that place: empty items are added at its end, or at its front
where the place is counted from the end. -/
def withPlace (items : List Layer) (i : Int) : List Layer × Nat :=
  if 0 ≤ i then (items ++ List.replicate (i.toNat + 1 - items.length) null, i.toNat)
  else (List.replicate (i.natAbs - items.length) null ++ items, items.length - i.natAbs)

/-- Changes what stands at the end of a path. What is in its way gives place to tables and
lists. -/
def change (f : Layer → Layer) : List Step → Layer → Layer
  | [], l => f l
  | .field name :: path, l => l.set name (change f path ((l.get? name).getD null))
  | .place i :: path, l =>
    let (items, i) := withPlace l.items i
    list (items.set i (change f path (items[i]?.getD null)))

/-- Lays the fields of one layer over another. Their names may be paths. -/
def under (l : Layer) (fields : List (String × Layer)) : Layer :=
  fields.foldl (fun l f => change (fun below => below.lay f.2) (path f.1) l) l

/-! ## From JSON -/

def ofNumeral : Numeral → Layer
  | .int n => int n
  | n => real n.binary

mutual

def ofJson : Json → Layer
  | .null => null
  | .bool b => bool b
  | .number n => ofNumeral n
  | .string s => text s
  | .array items => list (ofItems items)
  | .object fields => table (ofFields fields)

def ofItems : List Json → List Layer
  | [] => []
  | j :: js => ofJson j :: ofItems js

def ofFields : List (String × Json) → List (String × Layer)
  | [] => []
  | (name, j) :: fs => (name, ofJson j) :: ofFields fs

end

end Layer

end Perimeter
