import Perimeter.Text.CaseTable

/-!
# Lower case

E-mails are kept in lower case, by the full Unicode mapping: one character may become two,
and a capital sigma becomes the final form at the end of a word.
-/

namespace Perimeter.Text

def inRanges (ranges : List (Nat × Nat)) (n : Nat) : Bool :=
  ranges.any fun r => r.1 ≤ n && n ≤ r.2

def isCased (c : Char) : Bool := inRanges casedRanges c.toNat

/-- Whether a character is passed over when a word's end is looked for. -/
def isCaseIgnorable (c : Char) : Bool := inRanges caseIgnorableRanges c.toNat

def caseRun? (n : Nat) : Option CaseRun :=
  lowerRuns.find? fun r => r.first ≤ n && n ≤ r.last && (n - r.first) % r.step = 0

/-- The lower-case form of one character outside any word. -/
def lowerChar (c : Char) : List Char :=
  let n := c.toNat
  if n < 128 then [c.toLower]
  else if n = 0x130 then ['i', Char.ofNat 0x307]
  else match caseRun? n with
    | some r => [Char.ofNat (n + r.shift).toNat]
    | none => [c]

/-- Whether the next character with a case, past those that do not count, is a cased one. -/
def startsCased (cs : List Char) : Bool :=
  match cs.dropWhile isCaseIgnorable with
  | c :: _ => isCased c
  | [] => false

/-- Lower-cases the rest of a text; `before` holds the characters already passed, last first. -/
def lowerFrom (before : List Char) : List Char → List Char
  | [] => []
  | c :: rest =>
    (if c = 'Σ' then
      if startsCased before && !startsCased rest then ['ς'] else ['σ']
    else lowerChar c) ++ lowerFrom (c :: before) rest

def lower (s : String) : String := String.ofList (lowerFrom [] s.toList)

def sameIgnoringAsciiCase (s t : String) : Bool :=
  s.toList.map Char.toLower == t.toList.map Char.toLower

end Perimeter.Text
