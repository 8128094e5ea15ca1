/-!
# Punycode

Labels with characters beyond ASCII are written in ASCII: first their ASCII characters, then the
others in ascending order, each as the distance from the one before. Distances are written in
digits of varying weight; how the weights vary depends on the distances so far.
-/

namespace Perimeter.Idn.Punycode

/-- The letter or digit of a value below 36. -/
def digitChar (d : Nat) : Char := if d < 26 then Char.ofNat (97 + d) else Char.ofNat (22 + d)

def digitValue? (c : Char) : Option Nat :=
  let n := c.toNat
  if 97 ≤ n ∧ n ≤ 122 then some (n - 97)
  else if 65 ≤ n ∧ n ≤ 90 then some (n - 65)
  else if 48 ≤ n ∧ n ≤ 57 then some (n - 22)
  else none

/-- The least value of a digit that another follows, at position `k`. -/
def threshold (k bias : Nat) : Nat := min (max (k - bias) 1) 26

/-- Brings a distance down to the range that the bias is taken from. -/
def scaleDown (delta k : Nat) : Nat × Nat :=
  if 455 < delta then scaleDown (delta / 35) (k + 36) else (delta, k)
termination_by delta
decreasing_by omega

/-- The bias after a distance, when so many characters are written. -/
def adapt (delta count : Nat) (first : Bool) : Nat :=
  let delta := if first then delta / 700 else delta / 2
  let (delta, k) := scaleDown (delta + delta / count) 0
  k + 36 * delta / (delta + 38)

/-! ## Writing -/

/-- The digits of a distance from position `k` on. -/
def digits (bias k q : Nat) : List Char :=
  let t := threshold k bias
  if q < t then [digitChar q]
  else digitChar (t + (q - t) % (36 - t)) :: digits bias (k + 36) ((q - t) / (36 - t))
termination_by q
decreasing_by
  have h : 1 ≤ threshold k bias := by unfold threshold; omega
  have := Nat.div_le_self (q - threshold k bias) (36 - threshold k bias)
  omega

/-- What is written so far: the digits last first, the distance, the bias, and how many
characters are covered. -/
structure Writing where
  done : List Char
  delta : Nat
  bias : Nat
  covered : Nat

/-- Passes one character of the label while the character `m` is being written. -/
def Writing.pass (basic m : Nat) (w : Writing) (c : Nat) : Writing :=
  if c < m then { w with delta := w.delta + 1 }
  else if c = m then
    { done := (digits w.bias 36 w.delta).reverse ++ w.done
      delta := 0
      bias := adapt w.delta (w.covered + 1) (w.covered = basic)
      covered := w.covered + 1 }
  else w

/-- Writes the characters from `n` on that occur in the label. -/
def write (label : List Nat) (basic : Nat) : List Nat → Nat → Writing → Writing
  | [], _, w => w
  | m :: rest, n, w =>
    let w := { w with delta := w.delta + (m - n) * (w.covered + 1) }
    let w := label.foldl (Writing.pass basic m) w
    write label basic rest (m + 1) { w with delta := w.delta + 1 }

def encode (label : List Nat) : List Char :=
  let basic := label.filter (· < 128)
  let others := ((label.filter (128 ≤ ·)).mergeSort (· ≤ ·)).eraseDups
  let w := write label basic.length others 128 ⟨[], 0, 72, basic.length⟩
  basic.map Char.ofNat ++ (if basic.isEmpty then [] else ['-']) ++ w.done.reverse

/-! ## Reading -/

/-- What is read so far: the label, the last character and place, the bias, and the distance
that is being read with the weight and the position of its next digit. -/
structure Reading where
  label : List Nat
  character : Nat
  place : Nat
  bias : Nat
  delta : Nat
  weight : Nat
  position : Nat

/-- Enters the character that a whole distance leads to. -/
def Reading.enter? (r : Reading) (delta : Nat) : Option Reading :=
  let count := r.label.length + 1
  let i := r.place + delta
  let n := r.character + i / count
  let i := i % count
  if n < 0xD800 ∨ (0xDFFF < n ∧ n < 0x110000) then
    some { label := r.label.take i ++ n :: r.label.drop i
           character := n
           place := i + 1
           bias := adapt delta count (r.place = 0)
           delta := 0
           weight := 1
           position := 36 }
  else none

/-- Reads the digits of the rest of a label. -/
def readDigits (r : Reading) : List Char → Option (List Nat)
  | [] => if r.weight = 1 ∧ r.position = 36 then some r.label else none
  | c :: cs =>
    match digitValue? c with
    | none => none
    | some d =>
      let delta := r.delta + d * r.weight
      let t := threshold r.position r.bias
      if d < t then (r.enter? delta).bind fun r => readDigits r cs
      else
        readDigits { r with delta, weight := r.weight * (36 - t), position := r.position + 36 } cs

/-- The label that ASCII characters write. The last hyphen ends the ASCII characters of the
label, if there are any. -/
def decode? (cs : List Char) : Option (List Nat) :=
  let extended := (cs.reverse.takeWhile (· ≠ '-')).reverse
  let basic := cs.take (cs.length - extended.length - 1)
  readDigits ⟨basic.map Char.toNat, 128, 0, 72, 0, 1, 36⟩ (if basic.isEmpty then cs else extended)

end Perimeter.Idn.Punycode
