/-!
# Characters from bytes

Bytes are read as UTF-8. What is no character is marked, one mark for each stretch that begins a
character and breaks off, and one for each other byte.
-/

namespace Perimeter.Text

/-- The length of a character by its first byte, with the range of its second byte. -/
def lead? (b : Nat) : Option (Nat × Nat × Nat) :=
  if 0xC2 ≤ b ∧ b ≤ 0xDF then some (2, 0x80, 0xBF)
  else if b = 0xE0 then some (3, 0xA0, 0xBF)
  else if b = 0xED then some (3, 0x80, 0x9F)
  else if 0xE1 ≤ b ∧ b ≤ 0xEF then some (3, 0x80, 0xBF)
  else if b = 0xF0 then some (4, 0x90, 0xBF)
  else if 0xF1 ≤ b ∧ b ≤ 0xF3 then some (4, 0x80, 0xBF)
  else if b = 0xF4 then some (4, 0x80, 0x8F)
  else none

/-- A character that is being read: its value so far, the bytes that are due, and the range of
the next. -/
structure Partial where
  value : Nat
  due : Nat
  low : Nat
  high : Nat

def beginWith (b : Nat) : List (Option Char) × Option Partial :=
  if b < 0x80 then ([some (Char.ofNat b)], none)
  else match lead? b with
    | some (2, low, high) => ([], some ⟨b % 0x20, 1, low, high⟩)
    | some (3, low, high) => ([], some ⟨b % 0x10, 2, low, high⟩)
    | some (_, low, high) => ([], some ⟨b % 0x08, 3, low, high⟩)
    | none => ([none], none)

def goOn (p : Option Partial) (b : Nat) : List (Option Char) × Option Partial :=
  match p with
  | none => beginWith b
  | some p =>
    if p.low ≤ b ∧ b ≤ p.high then
      let value := p.value * 0x40 + b % 0x40
      if p.due ≤ 1 then ([some (Char.ofNat value)], none)
      else ([], some ⟨value, p.due - 1, 0x80, 0xBF⟩)
    else
      let (chars, p) := beginWith b
      (none :: chars, p)

/-- The characters of the rest of some bytes; `none` marks what is no character. -/
def charsFrom (p : Option Partial) : List UInt8 → List (Option Char)
  | [] => if p.isSome then [none] else []
  | b :: bs =>
    let (chars, p) := goOn p b.toNat
    chars ++ charsFrom p bs

/-- The text of some bytes; `none` if they hold anything that is no character. -/
def ofUtf8? (bs : List UInt8) : Option String := ((charsFrom none bs).mapM id).map String.ofList

/-- The text of some bytes, with a replacement for what is no character. -/
def ofUtf8Lossy (bs : List UInt8) : String :=
  String.ofList ((charsFrom none bs).map fun c => c.getD '\uFFFD')

end Perimeter.Text
