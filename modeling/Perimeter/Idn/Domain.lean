import Perimeter.Idn.Normal
import Perimeter.Idn.Punycode

/-!
# International domain names

A domain name with characters beyond ASCII stands for one in ASCII, if its characters are
allowed and its labels are well formed. Capitals and compatibility forms are mapped first, and
composed; then each label is checked and written in ASCII.
-/

namespace Perimeter.Idn

/-! ## Mapping -/

/-- What a character becomes; `none` if it is not allowed. -/
def mapped? (c : Nat) : Option (List Nat) :=
  if 65 ≤ c ∧ c ≤ 90 then some [c + 32]
  else if c < 128 ∨ (lookup? validSpans c).isSome then some [c]
  else if (lookup? ignoredSpans c).isSome then some []
  else match lookup? shiftedSpans c with
    | some shift => some [(c + shift).toNat]
    | none => expansions.lookup c

def stays (c : Nat) : Bool := mapped? c == some [c]

/-- A text with its characters mapped, and composed. -/
def prepared? (cs : List Nat) : Option (List Nat) :=
  (cs.mapM mapped?).map fun cs => composed cs.flatten

/-! ## Joiners -/

/-- How a character joins its neighbours: 0 not at all, 1 on both sides, 2 on the right, 3 on
the left, 4 transparently. -/
def joining (c : Nat) : Int := (lookup? joiningSpans c).getD 0

/-- Whether the next character that is not transparent joins in one of the ways. -/
def meets (ways : List Int) (cs : List Nat) : Bool :=
  match cs.dropWhile fun c => joining c = 4 with
  | c :: _ => ways.contains (joining c)
  | [] => false

/-- Whether every joiner stands where it has an effect: after a sign that suppresses a vowel,
or, for the one that separates, between characters that would join. `before` holds what was
passed, last first. -/
def joinersFit (before : List Nat) : List Nat → Bool
  | [] => true
  | c :: rest =>
    let afterVirama := match before with
      | b :: _ => combiningClass b = 9
      | [] => false
    let fits :=
      if c = 0x200C then afterVirama || (meets [1, 3] before && meets [1, 2] rest)
      else if c = 0x200D then afterVirama
      else true
    fits && joinersFit (c :: before) rest

/-! ## Directions -/

inductive Direction where
  | left
  | right
  | arabicLetter
  | arabicNumber
  | number
  | separator
  | commonSeparator
  | terminator
  | neutral
  | boundary
  | mark
deriving DecidableEq

/-- The direction classes in the order of their numbers. -/
def directions : List Direction :=
  [.left, .right, .arabicLetter, .arabicNumber, .number, .separator, .commonSeparator,
    .terminator, .neutral, .boundary, .mark]

/-- The direction class of a character; letters run to the right where nothing else is known. -/
def direction (c : Nat) : Direction :=
  (directions[((lookup? directionSpans c).getD 0).toNat]?).getD .left

/-- Whether a text needs care because parts of it are written from right to left. -/
def isMixed (cs : List Nat) : Bool :=
  cs.any fun c => [Direction.right, .arabicLetter, .arabicNumber].contains (direction c)

/-- Whether a label can stand in a mixed domain without changing the order of what is around
it. -/
def directionsFit (label : List Nat) : Bool :=
  let ds := label.map direction
  let common : List Direction :=
    [.number, .separator, .commonSeparator, .terminator, .neutral, .boundary, .mark]
  let last := (ds.reverse.dropWhile (· = .mark)).head?
  let endsIn (allowed : List Direction) : Bool := last.any allowed.contains
  match ds with
  | [] => true
  | .left :: _ =>
    ds.all (fun d => d = .left || common.contains d) && endsIn [.left, .number]
  | d :: _ =>
    (d = .right || d = .arabicLetter)
      && ds.all (fun d =>
        [Direction.right, .arabicLetter, .arabicNumber].contains d || common.contains d)
      && endsIn [.right, .arabicLetter, .number, .arabicNumber]
      && !(ds.contains .number && ds.contains .arabicNumber)

/-! ## Labels -/

def isMark (c : Nat) : Bool := (lookup? markSpans c).isSome

/-- A label, as it reads and in ASCII. -/
structure Label where
  unicode : List Nat
  ascii : List Char

/-- Splits a text at points. -/
def labels : List Nat → List (List Nat)
  | [] => [[]]
  | c :: cs =>
    match labels cs with
    | [] => [[c]]
    | label :: rest => if c = 46 then [] :: label :: rest else (c :: label) :: rest

/-- How the ASCII form of a label beyond ASCII begins. -/
def encodedStart : List Nat := "xn--".toList.map Char.toNat

def isAscii (cs : List Nat) : Bool := cs.all (· < 128)

/-- A prepared label with its ASCII form. A label that claims to be in ASCII form has to read as
one that needs it. -/
def label? (cs : List Nat) : Option Label :=
  if encodedStart.isPrefixOf cs then
    if isAscii cs then
      (Punycode.decode? ((cs.drop 4).map Char.ofNat)).bind fun u =>
        if isAscii u ∨ ¬ u.all stays ∨ composed u ≠ u then none
        else some ⟨u, cs.map Char.ofNat⟩
    else none
  else if isAscii cs then some ⟨cs, cs.map Char.ofNat⟩
  else some ⟨cs, encodedStart.map Char.ofNat ++ Punycode.encode cs⟩

/-- Whether a label begins with no mark and has its joiners in their places. -/
def Label.isSound (l : Label) : Bool := !(l.unicode.head?.any isMark) && joinersFit [] l.unicode

def toAscii? (domain : List Char) : Option (List Char) := do
  let cs ← prepared? (domain.map Char.toNat)
  let ls ← (labels cs).mapM label?
  let mixed := ls.any fun l => isMixed l.unicode
  if ls.all fun l => l.isSound && (!mixed || directionsFit l.unicode) then
    some (['.'].intercalate (ls.map Label.ascii))
  else none

end Perimeter.Idn
