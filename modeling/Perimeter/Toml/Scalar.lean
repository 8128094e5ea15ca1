import Perimeter.Instant
import Perimeter.Settings.Layer

/-!
# Plain values of TOML

Numbers, truth values and dates are runs of characters without blanks; each kind has its own
form. Dates are kept as text.
-/

namespace Perimeter.Toml

/-- Drops the underscores of a run of digits. Each has to stand between two digits. -/
def digitRun? (isDigit : Char → Bool) : List Char → Option (List Char)
  | [] => none
  | [c] => if isDigit c then some [c] else none
  | c :: '_' :: rest => if isDigit c then (digitRun? isDigit rest).map (c :: ·) else none
  | c :: rest => if isDigit c then (digitRun? isDigit rest).map (c :: ·) else none

def digitValue (c : Char) : Nat :=
  let n := c.toNat
  if n < 65 then n - 48 else if n < 97 then n - 55 else n - 87

def numberOf (base : Nat) (cs : List Char) : Nat := cs.foldl (fun n c => base * n + digitValue c) 0

/-- A whole number, if it fits in 64 bits with a sign. -/
def fitting (n : Int) : Option Layer :=
  if -maxSigned - 1 ≤ n ∧ n ≤ maxSigned then some (.int n) else none

/-- Splits off a sign; `true` stands for minus. -/
def sign : List Char → Bool × List Char
  | '-' :: rest => (true, rest)
  | '+' :: rest => (false, rest)
  | cs => (false, cs)

def isHexDigit (c : Char) : Bool := c.isDigit || ('a' ≤ c && c ≤ 'f') || ('A' ≤ c && c ≤ 'F')

/-- Decimal digits without a zero in front. -/
def decimal? (cs : List Char) : Option (List Char) :=
  match cs with
  | '0' :: _ :: _ => none
  | _ => digitRun? Char.isDigit cs

def whole? (cs : List Char) : Option Layer :=
  match cs with
  | '0' :: 'x' :: ds => (digitRun? isHexDigit ds).bind fun ds => fitting (numberOf 16 ds)
  | '0' :: 'o' :: ds => (digitRun? (fun c => '0' ≤ c && c ≤ '7') ds).bind fun ds =>
    fitting (numberOf 8 ds)
  | '0' :: 'b' :: ds => (digitRun? (fun c => c = '0' || c = '1') ds).bind fun ds =>
    fitting (numberOf 2 ds)
  | _ =>
    let (negative, ds) := sign cs
    (decimal? ds).bind fun ds =>
      let n : Int := numberOf 10 ds
      fitting (if negative then -n else n)

/-- A number with a fraction, an exponent or both. One beyond the range has no value. -/
def real? (cs : List Char) : Option Layer := do
  let (negative, cs) := sign cs
  if cs = "inf".toList then some (.real (.infinite negative))
  else if cs = "nan".toList then some (.real .nan)
  else
    let isMark (c : Char) : Bool := c = 'e' || c = 'E'
    let digits := cs.takeWhile fun c => !isMark c
    let exponent ← match cs.drop digits.length with
      | [] => some 0
      | _ :: e =>
        let (down, e) := sign e
        (digitRun? Char.isDigit e).map fun e =>
          if down then -(numberOf 10 e : Int) else (numberOf 10 e : Int)
    let before ← decimal? (digits.takeWhile (· ≠ '.'))
    let after ← match digits.dropWhile (· ≠ '.') with
      | [] => if cs.any isMark then some [] else none
      | _ :: after => digitRun? Char.isDigit after
    match Binary64.ofDecimal negative (numberOf 10 (before ++ after)) (exponent - after.length) with
    | .infinite _ => none
    | x => some (.real x)

/-! ## Dates and times -/

/-- Splits off a number of exactly so many digits, within a range. -/
def field? (width low high : Nat) (cs : List Char) : Option (List Char) :=
  let ds := cs.take width
  if ds.length = width ∧ ds.all Char.isDigit ∧ low ≤ numberOf 10 ds ∧ numberOf 10 ds ≤ high then
    some (cs.drop width)
  else none

def literal? (c : Char) : List Char → Option (List Char)
  | d :: rest => if d = c then some rest else none
  | [] => none

def date? (cs : List Char) : Option (List Char) := do
  let rest ← field? 4 0 9999 cs >>= literal? '-' >>= field? 2 1 12 >>= literal? '-'
    >>= field? 2 1 31
  let part (start width : Nat) : Int := numberOf 10 ((cs.drop start).take width)
  if part 8 2 ≤ Instant.monthLength (part 0 4) (part 5 2) then some rest else none

/-- Splits off a fraction of a second, with the text that is kept of it: at most nine digits, and
no zeros at its end beyond the first digit. -/
def fraction? : List Char → Option (List Char × List Char)
  | '.' :: rest =>
    let ds := rest.takeWhile Char.isDigit
    let kept := ((ds.take 9).reverse.dropWhile (· = '0')).reverse
    if ds.isEmpty then none
    else some ('.' :: (if kept.isEmpty then ['0'] else kept), rest.drop ds.length)
  | cs => some ([], cs)

/-- Splits off a time of day, with the text that is kept of it. Seconds may be left out. -/
def time? (cs : List Char) : Option (List Char × List Char) := do
  let rest ← field? 2 0 23 cs >>= literal? ':' >>= field? 2 0 59
  match rest with
  | ':' :: rest =>
    let (fraction, rest) ← field? 2 0 60 rest >>= fraction?
    some (cs.take 8 ++ fraction, rest)
  | _ => some (cs.take 5, rest)

/-- The offset from UTC that ends a date, or nothing. No offset is written as one to the east. -/
def zone? : List Char → Option (List Char)
  | [] => some []
  | ['Z'] => some ['Z']
  | ['z'] => some ['Z']
  | c :: cs =>
    if c = '+' ∨ c = '-' then
      match field? 2 0 23 cs >>= literal? ':' >>= field? 2 0 59 with
      | some [] => some ((if cs = "00:00".toList then '+' else c) :: cs)
      | _ => none
    else none

/-- A date, a time, or both, as text. -/
def moment? (cs : List Char) : Option Layer :=
  match date? cs with
  | some [] => some (.text (String.ofList cs))
  | some (c :: rest) =>
    if c = 'T' ∨ c = 't' ∨ c = ' ' then do
      let (time, rest) ← time? rest
      let zone ← zone? rest
      some (.text (String.ofList (cs.take 10 ++ 'T' :: time ++ zone)))
    else none
  | none =>
    match time? cs with
    | some (time, []) => some (.text (String.ofList time))
    | _ => none

def scalar? (cs : List Char) : Option Layer :=
  if cs = "true".toList then some (.bool true)
  else if cs = "false".toList then some (.bool false)
  else (whole? cs <|> real? cs) <|> moment? cs

def isScalarChar (c : Char) : Bool := c.isAlphanum || "+-_.:".toList.contains c

/-- Splits off a plain value. A date and a time may stand apart. -/
def takeScalar (cs : List Char) : List Char × List Char :=
  let word := cs.takeWhile isScalarChar
  let rest := cs.drop word.length
  match rest with
  | ' ' :: more =>
    let second := more.takeWhile isScalarChar
    if date? word = some [] ∧ (second.take 3).getLast? = some ':' then
      (word ++ ' ' :: second, more.drop second.length)
    else (word, rest)
  | _ => (word, rest)

end Perimeter.Toml
