/-!
# Floating-point numbers

Settings may hold numbers with a fraction. They are kept as 64-bit binary numbers: a decimal is
rounded to the nearest one, and written with the fewest digits that lead back to it.
-/

namespace Perimeter

/-- A 64-bit binary number: `m` times the `q`th power of two, or beyond all numbers, or none. -/
inductive Binary64 where
  | finite (negative : Bool) (m : Nat) (q : Int)
  | infinite (negative : Bool)
  | nan
deriving DecidableEq

namespace Binary64

/-- A positive fraction, as numerator and denominator. -/
abbrev Ratio := Nat × Nat

/-- The ratio `n` times a power of a base. -/
def scale (base : Nat) (r : Ratio) (power : Int) : Ratio :=
  if 0 ≤ power then (r.1 * Nat.pow base power.toNat, r.2)
  else (r.1, r.2 * Nat.pow base power.natAbs)

/-- The nearest whole number; of two the even one. -/
def nearest (r : Ratio) : Nat :=
  let quotient := r.1 / r.2
  let rest := 2 * (r.1 % r.2)
  if rest < r.2 ∨ (rest = r.2 ∧ quotient % 2 = 0) then quotient else quotient + 1

def atMost (r s : Ratio) : Bool := r.1 * s.2 ≤ s.1 * r.2

/-- The largest power of two that a positive ratio reaches. -/
def log2 (r : Ratio) : Int :=
  let guess : Int := (Nat.log2 r.1 : Int) - Nat.log2 r.2
  if atMost (scale 2 (1, 1) guess) r then guess else guess - 1

def digitCount (n : Nat) : Nat := (toString n).length

/-- The largest power of ten that a positive ratio reaches. -/
def log10 (r : Ratio) : Int :=
  let guess : Int := (digitCount r.1 : Int) - digitCount r.2
  if atMost (scale 10 (1, 1) guess) r then guess else guess - 1

/-- The smallest power of two in use. -/
def leastPower : Int := -1074

/-- The nearest binary number to a ratio. -/
def ofRatio (negative : Bool) (r : Ratio) : Binary64 :=
  if r.1 = 0 then finite negative 0 leastPower
  else
    let q := max (log2 r - 52) leastPower
    let m := nearest (scale 2 r (-q))
    let (m, q) := if m = Nat.pow 2 53 then (Nat.pow 2 52, q + 1) else (m, q)
    if 971 < q then infinite negative else finite negative m q

/-- The nearest binary number to `digits` times a power of ten. -/
def ofDecimal (negative : Bool) (digits : Nat) (exponent : Int) : Binary64 :=
  let size : Int := digitCount digits + exponent
  if digits = 0 ∨ size < -330 then finite negative 0 leastPower
  else if 310 < size then infinite negative
  else ofRatio negative (scale 10 (digits, 1) exponent)

def ofInt (n : Int) : Binary64 := ofDecimal (n < 0) n.natAbs 0

/-- A number times a ratio, rounded. -/
def times : Binary64 → Ratio → Binary64
  | finite negative m q, r => ofRatio negative (scale 2 (m * r.1, r.2) q)
  | x, _ => x

/-- The binary number next to a power of ten. -/
def tenPower (n : Nat) : Ratio :=
  match ofDecimal false 1 n with
  | finite _ m q => scale 2 (m, 1) q
  | _ => (1, 1)

/-- The largest power of ten among the binary numbers. -/
def mostTens : Int := 308

/-- A number multiplied by a power of ten within reach, or divided by one. -/
def shifted (x : Binary64) (power : Int) : Binary64 :=
  let (n, d) := tenPower power.natAbs
  x.times (if 0 ≤ power then (n, d) else (d, n))

/-- The digits, at most 64 bits of them, times a power of ten, each step rounded on its own: the
digits are rounded first, and a power that is out of reach below is divided by in two steps. -/
def ofSteps (negative : Bool) (digits : Nat) (power : Int) : Binary64 :=
  let x := ofDecimal negative digits 0
  if digits = 0 then x
  else if mostTens < power then infinite negative
  else if -mostTens ≤ power then x.shifted power
  else if -2 * mostTens ≤ power then (x.shifted (-mostTens)).shifted (power + mostTens)
  else finite negative 0 leastPower

def isNonzero : Binary64 → Bool
  | finite _ m _ => m ≠ 0
  | _ => true

/-- The nearest natural number up to `most`; halves go up, and what lies outside goes to the
end. -/
def toNat (most : Nat) : Binary64 → Nat
  | finite true _ _ => 0
  | finite false m q =>
    let r := scale 2 (m, 1) q
    min ((2 * r.1 + r.2) / (2 * r.2)) most
  | infinite negative => if negative then 0 else most
  | nan => 0

/-! ## Writing -/

/-- The decimals with `count` digits, at most two, that lie around a ratio and round to the
binary number between `low` and `high`, nearest first; of two as near the larger. -/
def around (r low high : Ratio) (closed : Bool) (count : Nat) : List (Nat × Int) :=
  let power : Int := log10 r - (count - 1)
  let scaled := scale 10 r (-power)
  let down := scaled.1 / scaled.2
  let order := if 2 * (scaled.1 % scaled.2) < scaled.2 then [down, down + 1] else [down + 1, down]
  (order.filter fun d =>
    let x := scale 10 (d, 1) power
    if closed then atMost low x && atMost x high else !atMost x low && !atMost high x).map
      fun d => (d, power)

/-- The first of the decimals with `count` digits or more. -/
def shortestFrom (r low high : Ratio) (closed : Bool) : Nat → Nat → Nat × Int
  | 0, _ => (r.1 / r.2, 0)
  | more + 1, count =>
    match around r low high closed count with
    | d :: _ => d
    | [] => shortestFrom r low high closed more (count + 1)

/-- The shortest decimal that rounds to `m` times the `q`th power of two. -/
def shortest (m : Nat) (q : Int) : Nat × Int :=
  let below := if m = Nat.pow 2 52 ∧ leastPower < q then 1 else 2
  shortestFrom (scale 2 (m, 1) q) (scale 2 (4 * m - below, 1) (q - 2))
    (scale 2 (4 * m + 2, 1) (q - 2)) (m % 2 = 0) 17 1

/-- Digits times a power of ten, without an exponent; no zeros end a fraction. -/
def positional (digits : Nat) (power : Int) : String :=
  let ds := (toString digits).toList
  if 0 ≤ power then String.ofList (ds ++ List.replicate power.toNat '0')
  else
    let places := power.natAbs
    let ds := List.replicate (places + 1 - ds.length) '0' ++ ds
    let whole := ds.take (ds.length - places)
    let fraction := ((ds.drop (ds.length - places)).reverse.dropWhile (· = '0')).reverse
    String.ofList (if fraction.isEmpty then whole else whole ++ '.' :: fraction)

/-- A number in the fewest digits. -/
def text : Binary64 → String
  | finite negative m q =>
    let (digits, power) := if m = 0 then (0, 0) else shortest m q
    (if negative then "-" else "") ++ positional digits power
  | infinite negative => if negative then "-inf" else "inf"
  | nan => "NaN"

end Binary64

end Perimeter
