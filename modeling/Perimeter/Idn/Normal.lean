import Perimeter.Idn.Table

/-!
# Composed text

Two ways of writing one text, with composed characters or with marks after their letters, are
brought together: characters are taken apart, marks are put in their order, and what can be
composed is composed.
-/

namespace Perimeter.Idn

/-! ## Taking apart -/

/-- The parts of a Korean syllable. -/
def syllableParts? (c : Nat) : Option (List Nat) :=
  if 0xAC00 ≤ c ∧ c ≤ 0xD7A3 then
    let i := c - 0xAC00
    let tail := if i % 28 = 0 then [] else [0x11A7 + i % 28]
    some ((0x1100 + i / 588) :: (0x1161 + i % 588 / 28) :: tail)
  else none

/-- The parts of a character. Parts are taken apart again, at most four times. -/
def parts : Nat → Nat → List Nat
  | 0, c => [c]
  | n + 1, c =>
    match syllableParts? c with
    | some ps => ps
    | none =>
      match composites.find? (·.whole = c) with
      | some k => parts n k.first ++ [k.second]
      | none => [c]

/-! ## Ordering marks -/

/-- The combining class of a character; 0 for those that marks cannot pass. -/
def combiningClass (c : Nat) : Nat := ((lookup? combiningSpans c).getD 0).toNat

/-- Adds a character to an ordered text, which stands last first. -/
def settle (c : Nat) : List Nat → List Nat
  | [] => [c]
  | d :: rest =>
    if combiningClass c ≠ 0 ∧ combiningClass c < combiningClass d then d :: settle c rest
    else c :: d :: rest

def ordered (cs : List Nat) : List Nat := (cs.foldl (fun done c => settle c done) []).reverse

/-! ## Putting together -/

/-- The Korean syllable of two parts. -/
def syllable? (a b : Nat) : Option Nat :=
  if 0x1100 ≤ a ∧ a ≤ 0x1112 ∧ 0x1161 ≤ b ∧ b ≤ 0x1175 then
    some (0xAC00 + ((a - 0x1100) * 21 + (b - 0x1161)) * 28)
  else if 0xAC00 ≤ a ∧ a ≤ 0xD7A3 ∧ (a - 0xAC00) % 28 = 0 ∧ 0x11A8 ≤ b ∧ b ≤ 0x11C2 then
    some (a + (b - 0x11A7))
  else none

def composite? (a b : Nat) : Option Nat :=
  (syllable? a b) <|> (composites.find? fun k => k.first = a && k.second = b).map Composite.whole

/-- Composes the rest of a text after a character and the marks that stayed behind it, last
first. A mark of the same class, or of a higher one, keeps what follows from the character. -/
def composeFrom (start : Nat) (marks : List Nat) : List Nat → List Nat
  | [] => start :: marks.reverse
  | c :: rest =>
    let free := match marks with
      | [] => true
      | m :: _ => combiningClass m < combiningClass c
    match (if free then composite? start c else none) with
    | some k => composeFrom k marks rest
    | none =>
      if combiningClass c = 0 then start :: marks.reverse ++ composeFrom c [] rest
      else composeFrom start (c :: marks) rest

def composed (cs : List Nat) : List Nat :=
  match ordered (cs.flatMap (parts 4)) with
  | [] => []
  | c :: rest => composeFrom c [] rest

end Perimeter.Idn
