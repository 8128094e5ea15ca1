import Perimeter.Idn.ClassTable
import Perimeter.Idn.MappingTable

/-!
# Reading the tables of domain names

The tables are kept as text; here their numbers are read and looked up.
-/

namespace Perimeter.Idn

/-- The value of a digit in base 36. -/
def digitOf (c : Char) : Nat := if c.isDigit then c.toNat - 48 else c.toNat - 87

/-- The number that a word writes in base 36, with a minus in front or without. -/
def numberOf (word : String) : Int :=
  let value (cs : List Char) : Nat := cs.foldl (fun n c => 36 * n + digitOf c) 0
  match word.toList with
  | '-' :: cs => -(value cs : Int)
  | cs => value cs

def numbers (line : String) : List Int := (line.splitOn " ").map numberOf

def triples : List Int → List (Int × Int × Int)
  | a :: b :: c :: rest => (a, b, c) :: triples rest
  | _ => []

/-- The characters from `first` to `last`, all or every other, and a number that goes with them. -/
structure Span where
  first : Nat
  last : Nat
  step : Nat
  value : Int

/-- The spans of groups of numbers, counted on from a character. -/
def spansFrom (start : Int) : List (Int × Int × Int) → List Span
  | [] => []
  | (distance, more, value) :: rest =>
    let first := start + distance
    let step := if more < 0 then 2 else 1
    ⟨first.toNat, first.toNat + step * more.natAbs, step, value⟩ :: spansFrom first rest

def spans (lines : List String) : List Span := spansFrom 0 (triples (lines.flatMap numbers))

def Span.holds (n : Nat) (s : Span) : Bool :=
  s.first ≤ n && n ≤ s.last && (n - s.first) % s.step = 0

def lookup? (table : List Span) (n : Nat) : Option Int :=
  (table.find? (Span.holds n)).map Span.value

/-- Characters with what they become, counted on from a character. -/
def expansionsFrom (start : Int) : List (List Int) → List (Nat × List Nat)
  | [] => []
  | [] :: rest => expansionsFrom start rest
  | (distance :: parts) :: rest =>
    let c := start + distance
    (c.toNat, parts.map Int.toNat) :: expansionsFrom c rest

/-- The characters that become several, each with what it becomes. -/
def expansions : List (Nat × List Nat) :=
  expansionsFrom 0 ((expandedLines.flatMap fun line => line.splitOn ",").map numbers)

structure Composite where
  whole : Nat
  first : Nat
  second : Nat

/-- The composites of groups of numbers, counted on from a character. -/
def compositesFrom (start : Int) : List (Int × Int × Int) → List Composite
  | [] => []
  | (distance, first, second) :: rest =>
    let whole := start + distance
    ⟨whole.toNat, first.toNat, second.toNat⟩ :: compositesFrom whole rest

def composites : List Composite := compositesFrom 0 (triples (compositionLines.flatMap numbers))

def validSpans : List Span := spans validLines ++ spans laterLines

def ignoredSpans : List Span := spans ignoredLines

def shiftedSpans : List Span := spans shiftedLines

def combiningSpans : List Span := spans combiningLines

def markSpans : List Span := spans markLines

def directionSpans : List Span := spans directionLines

def joiningSpans : List Span := spans joiningLines

end Perimeter.Idn
