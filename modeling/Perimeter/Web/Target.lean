import Perimeter.Page
import Perimeter.Text.Utf8

/-!
# Targets of requests

A target is a path and, after a question mark, a query of names and values; a scheme and a host
may stand in front. Bytes may be written as a percent sign and two digits; in queries a plus sign
stands for a blank.
-/

namespace Perimeter.Web

def hexByte? (b : UInt8) : Option UInt8 :=
  if 48 ≤ b ∧ b ≤ 57 then some (b - 48)
  else if 65 ≤ b ∧ b ≤ 70 then some (b - 55)
  else if 97 ≤ b ∧ b ≤ 102 then some (b - 87)
  else none

/-- Bytes with those after percent signs restored. A percent sign without two digits stays. -/
def percentDecoded : List UInt8 → List UInt8
  | 37 :: a :: b :: rest =>
    match hexByte? a, hexByte? b with
    | some x, some y => (16 * x + y) :: percentDecoded rest
    | _, _ => 37 :: percentDecoded (a :: b :: rest)
  | b :: rest => b :: percentDecoded rest
  | [] => []

def bytes (s : String) : List UInt8 := s.toUTF8.toList

/-- A part of a path; `none` if its bytes are no text. -/
def segmentText? (s : String) : Option String := Text.ofUtf8? (percentDecoded (bytes s))

/-- A target without the scheme and the host that it may begin with. -/
def withoutHost (cs : List Char) : List Char :=
  let scheme := cs.takeWhile fun c => c.isAlphanum || "+-.".toList.contains c
  match cs.drop scheme.length with
  | ':' :: '/' :: '/' :: rest => rest.dropWhile fun c => !"/?#".toList.contains c
  | _ => cs

/-- The path and the query of a target. What follows a number sign does not count. -/
def splitTarget (target : String) : String × String :=
  let cs := (withoutHost target.toList).takeWhile (· ≠ '#')
  let path := cs.takeWhile (· ≠ '?')
  (String.ofList path, String.ofList (cs.drop (path.length + 1)))

abbrev Query := List (String × String)

def formText (cs : List Char) : String :=
  let spaced := cs.map fun c => if c = '+' then ' ' else c
  Text.ofUtf8Lossy (percentDecoded (bytes (String.ofList spaced)))

/-- One name with its value, divided at the first equals sign. -/
def pair (s : String) : String × String :=
  let cs := s.toList
  let name := cs.takeWhile (· ≠ '=')
  (formText name, formText (cs.drop (name.length + 1)))

/-- The names and values of a query's text; empty parts are passed over. -/
def Query.parse (s : String) : Query := ((s.splitOn "&").filter (!·.isEmpty)).map pair

namespace Query

def values (q : Query) (name : String) : List String := (q.filter (·.1 == name)).map Prod.snd

/-- The value of a name that may be left out, but neither repeated nor misread. -/
def optional? {α : Type} (q : Query) (name : String) (read? : String → Option α) :
    Option (Option α) :=
  match q.values name with
  | [] => some none
  | [s] => (read? s).map some
  | _ => none

/-- The value of a name that has to be there. -/
def required? {α : Type} (q : Query) (name : String) (read? : String → Option α) : Option α :=
  (q.optional? name read?).bind id

/-- Reads a number up to `most`, with or without a plus sign in front. -/
def nat? (most : Nat) (s : String) : Option Nat :=
  let ds := match s.toList with
    | '+' :: rest => rest
    | cs => cs
  if ds.isEmpty ∨ ¬ ds.all Char.isDigit then none
  else
    let n := ds.foldl (fun n c => 10 * n + (c.toNat - 48)) 0
    if n ≤ most then some n else none

def page? (q : Query) : Option PageRequest := do
  let page ← q.optional? "page" (nat? maxWord64)
  let size ← q.optional? "per_page" (nat? maxWord64)
  return .clamped (page.getD PageRequest.first.page) (size.getD PageRequest.defaultSize)

end Query

end Perimeter.Web
