import Perimeter.Text.Blank

/-!
# Instants

Rows carry the times of their creation and last change. An instant counts nanoseconds on the
UTC time scale, leap seconds included, and is written in the calendar form of RFC 3339.
-/

namespace Perimeter

/-- The width of one second on the scale of instants: the second billion holds the
nanoseconds of a leap second, which belongs to the second before it. -/
def Instant.perSecond : Int := 2000000000

/-- A moment in UTC. Seconds count from the start of 1970. -/
structure Instant where
  ticks : Int
deriving DecidableEq

namespace Instant

instance : Ord Instant := ⟨fun a b => compare a.ticks b.ticks⟩

instance : Std.TransOrd Instant where
  eq_swap := by
    intro a b
    exact @Std.OrientedCmp.eq_swap Int compare _ _ _
  isLE_trans := by
    intro a b c
    exact @Std.TransCmp.isLE_trans Int compare _ _ _ _

instance : Std.LawfulEqOrd Instant where
  eq_of_compare := by
    intro a b h
    cases a
    cases b
    simpa using @Std.LawfulEqCmp.eq_of_compare Int compare _ _ _ h

/-- The instant `nanos` nanoseconds after the start of a second. -/
def ofParts (seconds : Int) (nanos : Nat) : Instant := ⟨seconds * perSecond + nanos⟩

/-- Whole seconds since the start of 1970. -/
def seconds (t : Instant) : Int := t.ticks / perSecond

/-- Nanoseconds since the start of the second. -/
def nanos (t : Instant) : Nat := (t.ticks % perSecond).toNat

/-! ## Calendar -/

/-- The day number, counted from the start of 1970, of a date in the Gregorian calendar. -/
def dayNumber (year month day : Int) : Int :=
  let y := if month ≤ 2 then year - 1 else year
  let era := y / 400
  let yearOfEra := y % 400
  let monthFromMarch := (month + 9) % 12
  let dayOfYear := (153 * monthFromMarch + 2) / 5 + day - 1
  era * 146097 + yearOfEra * 365 + yearOfEra / 4 - yearOfEra / 100 + dayOfYear - 719468

/-- Year, month and day of a day number. -/
def date (number : Int) : Int × Int × Int :=
  let z := number + 719468
  let era := z / 146097
  let dayOfEra := z % 146097
  let yearOfEra := (dayOfEra - dayOfEra / 1460 + dayOfEra / 36524 - dayOfEra / 146096) / 365
  let dayOfYear := dayOfEra - (365 * yearOfEra + yearOfEra / 4 - yearOfEra / 100)
  let monthFromMarch := (5 * dayOfYear + 2) / 153
  let day := dayOfYear - (153 * monthFromMarch + 2) / 5 + 1
  let month := if monthFromMarch < 10 then monthFromMarch + 3 else monthFromMarch - 9
  let year := yearOfEra + era * 400
  (if month ≤ 2 then year + 1 else year, month, day)

def monthLength (year month : Int) : Int :=
  if month = 2 then
    if year % 4 = 0 ∧ (year % 100 ≠ 0 ∨ year % 400 = 0) then 29 else 28
  else if month = 4 ∨ month = 6 ∨ month = 9 ∨ month = 11 then 30
  else 31

/-- The instants that have a calendar form: the years from -262143 to 262142. -/
def inCalendar (t : Instant) : Bool :=
  dayNumber (-262143) 1 1 * 86400 ≤ t.seconds && t.seconds < dayNumber 262143 1 1 * 86400

/-! ## Writing -/

/-- A number with zeros in front up to a width. -/
def padded (width n : Nat) : String :=
  let s := toString n
  String.ofList (List.replicate (width - s.length) '0') ++ s

/-- A year: four digits, or a sign and at least four digits outside 0 to 9999. -/
def yearText (year : Int) : String :=
  if 0 ≤ year ∧ year ≤ 9999 then padded 4 year.toNat
  else (if year < 0 then "-" else "+") ++ padded 4 year.natAbs

/-- The fraction of a second: none, or 3, 6 or 9 digits, as few as are exact. -/
def fractionText (nanos : Nat) : String :=
  if nanos = 0 then ""
  else if nanos % 1000000 = 0 then "." ++ padded 3 (nanos / 1000000)
  else if nanos % 1000 = 0 then "." ++ padded 6 (nanos / 1000)
  else "." ++ padded 9 nanos

/-- The calendar form of an instant, in UTC. A leap second is the 60th of its minute. -/
def text (t : Instant) : String :=
  let (year, month, day) := date (t.seconds / 86400)
  let rest := (t.seconds % 86400).toNat
  let leap := t.nanos / 1000000000
  yearText year ++ "-" ++ padded 2 month.toNat ++ "-" ++ padded 2 day.toNat ++ "T"
    ++ padded 2 (rest / 3600) ++ ":" ++ padded 2 (rest / 60 % 60) ++ ":"
    ++ padded 2 (rest % 60 + leap) ++ fractionText (t.nanos % 1000000000) ++ "Z"

instance : ToString Instant := ⟨text⟩

/-! ## Reading

Texts are read with some freedom: blanks between the parts, single digits, a blank between
date and time, and any offset from UTC.
-/

def digit? (c : Char) : Option Nat :=
  if c.isDigit then some (c.toNat - 48) else none

def digitsValue (cs : List Char) : Nat :=
  cs.foldl (fun n c => 10 * n + (c.toNat - 48)) 0

/-- Splits off one to `most` digits after blanks, with their value. -/
def number? (most : Nat) (cs : List Char) : Option (Nat × List Char) :=
  let cs := Text.trimFront cs
  let ds := (cs.take most).takeWhile Char.isDigit
  if ds.isEmpty then none else some (digitsValue ds, cs.drop ds.length)

def numberIn? (low high most : Nat) (cs : List Char) : Option (Nat × List Char) :=
  (number? most cs).filter fun r => low ≤ r.1 && r.1 ≤ high

/-- Splits off a separator after blanks. -/
def separator? (c : Char) (cs : List Char) : Option (List Char) :=
  match Text.trimFront cs with
  | d :: rest => if d = c then some rest else none
  | [] => none

/-- Splits off a year: up to four digits, or a sign and any number of digits. -/
def year? (cs : List Char) : Option (Int × List Char) :=
  let cs := Text.trimFront cs
  let signed (rest : List Char) : Option (Nat × List Char) :=
    let ds := rest.takeWhile Char.isDigit
    if ds.isEmpty then none else some (digitsValue ds, rest.drop ds.length)
  match cs with
  | '-' :: rest => (signed rest).map fun r => (-(r.1 : Int), r.2)
  | '+' :: rest => (signed rest).map fun r => ((r.1 : Int), r.2)
  | _ => (number? 4 cs).map fun r => ((r.1 : Int), r.2)

/-- Splits off a fraction of a second, in nanoseconds; digits past the ninth are dropped. -/
def fraction? : List Char → Option (Nat × List Char)
  | '.' :: rest =>
    let ds := rest.takeWhile Char.isDigit
    if ds.isEmpty then none
    else
      let kept := ds.take 9
      some (digitsValue kept * Nat.pow 10 (9 - kept.length), rest.drop ds.length)
  | cs => some (0, cs)

/-- Splits off an offset from UTC, in seconds. -/
def offset? (cs : List Char) : Option (Int × List Char) :=
  let hoursMinutes (sign : Int) : List Char → Option (Int × List Char)
    | h₁ :: h₂ :: rest => do
      let h := 10 * (← digit? h₁) + (← digit? h₂)
      match rest.dropWhile fun c => c = ':' || Text.isBlankChar c with
      | m₁ :: m₂ :: rest => do
        let m := 10 * (← digit? m₁) + (← digit? m₂)
        if m < 60 ∧ h < 24 then some (sign * (h * 3600 + m * 60 : Nat), rest) else none
      | _ => none
    | _ => none
  match cs with
  | 'Z' :: rest => some (0, rest)
  | 'z' :: rest => some (0, rest)
  | '+' :: rest => hoursMinutes 1 rest
  | '-' :: rest => hoursMinutes (-1) rest
  | '−' :: rest => hoursMinutes (-1) rest
  | _ => none

/-- Splits off a zone: the letters `UTC` in any case, or an offset. -/
def zone? (cs : List Char) : Option (Int × List Char) :=
  if (cs.take 3).map Char.toUpper = ['U', 'T', 'C'] then some (0, cs.drop 3) else offset? cs

/-- Reads an instant in calendar form; `none` if the text is not one. -/
def parse? (s : String) : Option Instant := do
  let (year, cs) ← year? s.toList
  let cs ← separator? '-' cs
  let (month, cs) ← numberIn? 1 12 2 cs
  let cs ← separator? '-' cs
  let (day, cs) ← numberIn? 1 31 2 cs
  guard (day ≤ monthLength year month ∧ -262143 ≤ year ∧ year ≤ 262142)
  let cs ← match cs with
    | 'T' :: rest => some rest
    | 't' :: rest => some rest
    | ' ' :: rest => some rest
    | _ => none
  let (hour, cs) ← numberIn? 0 23 2 cs
  let cs ← separator? ':' cs
  let (minute, cs) ← numberIn? 0 59 2 cs
  let cs ← separator? ':' cs
  let (second, cs) ← numberIn? 0 60 2 cs
  let (nanos, cs) ← fraction? cs
  let (offset, cs) ← zone? (Text.trimFront cs)
  guard (Text.trimFront cs).isEmpty
  let leap := if second = 60 then 1 else 0
  let start := dayNumber year month day * 86400 + (hour * 3600 + minute * 60 + second - leap : Nat)
  let t := ofParts (start - offset) (leap * 1000000000 + nanos)
  if t.inCalendar then some t else none

end Instant

end Perimeter
