import Std.Data.ExtTreeMap
import Std.Data.ExtTreeSet

/-!
# Ids

Every stored row carries a 128-bit id of the kind of thing it names, so that a
role id never stands where a folder id is meant. Ids are ordered as numbers,
which is also the order of their text forms.
-/

namespace Perimeter

/-- What an id names. -/
inductive Kind where
  | folder
  | user
  | role
  | userGroup
  | roleAssignment
deriving DecidableEq

/-- The name of an id type, as diagnostics write it. -/
def Kind.label : Kind → String
  | .folder => "FolderId"
  | .user => "UserId"
  | .role => "RoleId"
  | .userGroup => "UserGroupId"
  | .roleAssignment => "RoleAssignmentId"

/-- A 128-bit identifier of one kind of row. -/
structure Id (κ : Kind) where
  bits : BitVec 128
deriving DecidableEq

abbrev FolderId := Id .folder
abbrev UserId := Id .user
abbrev RoleId := Id .role
abbrev GroupId := Id .userGroup
abbrev AssignmentId := Id .roleAssignment

namespace Id

variable {κ : Kind}

instance : Ord (Id κ) := ⟨fun a b => compare a.bits.toNat b.bits.toNat⟩

instance : Std.TransOrd (Id κ) :=
  inferInstanceAs (Std.TransCmp (compareOn fun i : Id κ => i.bits.toNat))

instance : Std.LawfulEqOrd (Id κ) where
  eq_of_compare := by
    intro a b h
    have h' : a.bits.toNat = b.bits.toNat := @Std.LawfulEqCmp.eq_of_compare Nat compare _ _ _ h
    cases a
    cases b
    simpa [BitVec.toNat_inj] using h'

instance : Inhabited (Id κ) := ⟨⟨0⟩⟩

/-! ## Text form -/

def hexDigit (n : Nat) : Char :=
  if n < 10 then Char.ofNat (48 + n) else Char.ofNat (87 + n)

/-- The last `width` hexadecimal digits of `n`, most significant first. -/
def hexDigits : Nat → Nat → List Char
  | 0, _ => []
  | width + 1, n => hexDigits width (n / 16) ++ [hexDigit (n % 16)]

/-- The digits of an id in groups of 8, 4, 4, 4 and 12, joined by hyphens. -/
def chars (i : Id κ) : List Char :=
  let ds := hexDigits 32 i.bits.toNat
  ds.take 8 ++ '-' :: (ds.drop 8).take 4 ++ '-' :: (ds.drop 12).take 4
    ++ '-' :: (ds.drop 16).take 4 ++ '-' :: ds.drop 20

/-- The text form of an id, as answers and messages write it. -/
def text (i : Id κ) : String := String.ofList i.chars

instance : ToString (Id κ) := ⟨text⟩

/-- An id with its type's name around it, as diagnostics write it. -/
def debug (i : Id κ) : String := s!"{κ.label}({i.text})"

/-- The value of a hexadecimal digit in either case. -/
def hexValue? (c : Char) : Option Nat :=
  let n := c.toNat
  if 48 ≤ n ∧ n ≤ 57 then some (n - 48)
  else if 97 ≤ n ∧ n ≤ 102 then some (n - 87)
  else if 65 ≤ n ∧ n ≤ 70 then some (n - 55)
  else none

def hexNumber? (cs : List Char) : Option Nat :=
  cs.foldlM (fun n c => (hexValue? c).map (16 * n + ·)) 0

/-- Thirty-two digits without hyphens. -/
def plain? (cs : List Char) : Option Nat :=
  if cs.length = 32 then hexNumber? cs else none

/-- Thirty-two digits with the four hyphens in their places. -/
def hyphenated? (cs : List Char) : Option Nat :=
  if cs.length = 36 ∧ cs[8]? = some '-' ∧ cs[13]? = some '-' ∧ cs[18]? = some '-'
      ∧ cs[23]? = some '-' then
    hexNumber? (cs.take 8 ++ (cs.drop 9).take 4 ++ (cs.drop 14).take 4 ++ (cs.drop 19).take 4
      ++ cs.drop 24)
  else none

/-- The number of an id in any of the accepted forms: hyphenated, plain, hyphenated in
braces, or hyphenated after `urn:uuid:` in any case. -/
def number? (cs : List Char) : Option Nat :=
  if cs.length = 32 then plain? cs
  else if cs.length = 36 then hyphenated? cs
  else if cs.length = 38 ∧ cs.head? = some '{' ∧ cs.getLast? = some '}' then
    hyphenated? (cs.drop 1).dropLast
  else if cs.length = 45 ∧ (cs.take 9).map Char.toLower = "urn:uuid:".toList then
    hyphenated? (cs.drop 9)
  else none

/-- Reads an id; `none` if the text has none of the accepted forms. -/
def parse? (s : String) : Option (Id κ) :=
  (number? s.toList).map fun n => ⟨BitVec.ofNat 128 n⟩

end Id

abbrev IdSet (κ : Kind) := Std.ExtTreeSet (Id κ)

abbrev IdMap (κ : Kind) (α : Type) := Std.ExtTreeMap (Id κ) α

end Perimeter
