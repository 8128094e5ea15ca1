import Perimeter.Json.Basic
import Perimeter.Width

/-!
# Tokens of JSON

A text is cut into tokens one character at a time. After the first character that fits no token
nothing more is read. Unpaired surrogates are told apart from other faults, because a text that
nobody looks at may hold them.
-/

namespace Perimeter.Json

/-- The parts of a JSON text. A text with an unpaired surrogate has no value. -/
inductive Token where
  | beginObject
  | endObject
  | beginArray
  | endArray
  | colon
  | comma
  | null
  | bool (b : Bool)
  | number (n : Numeral)
  | string (s : Option String)
  | bad

namespace Token

/-- A quoted text as read so far. -/
structure Quoted where
  /-- The characters, last first. -/
  done : List Char
  /-- Whether every surrogate so far has found its pair. -/
  sound : Bool
  /-- A leading surrogate that waits for its pair. -/
  lead : Option Nat

/-- A number as read so far. -/
structure Counted where
  negative : Bool
  /-- The digits, as far as 64 bits hold them. -/
  digits : Nat
  /-- The power of ten that the digits are multiplied by, before the exponent counts. -/
  power : Int
  /-- Whether a digit was left out since the start, or since the point. -/
  full : Bool
  whole : Bool
  exponentNegative : Bool
  exponent : Nat

/-- Where the reading stands between two characters. -/
inductive State where
  | idle
  | word (rest : List Char) (token : Token)
  | quoted (q : Quoted)
  | escape (q : Quoted)
  | unicode (q : Quoted) (left value : Nat)
  | minus
  | zero (n : Counted)
  | digits (n : Counted)
  | point (n : Counted)
  | fraction (n : Counted)
  | mark (n : Counted)
  | sign (n : Counted)
  | exponent (n : Counted)
  | stopped

namespace Quoted

/-- Adds a character; a surrogate that waits stays alone. -/
def push (q : Quoted) (c : Char) : Quoted :=
  ⟨c :: q.done, q.sound && q.lead.isNone, none⟩

/-- Adds a 16-bit unit. -/
def pushUnit (q : Quoted) (n : Nat) : Quoted :=
  let leads := 0xD800 ≤ n && n ≤ 0xDBFF
  let trails := 0xDC00 ≤ n && n ≤ 0xDFFF
  match q.lead with
  | some l =>
    if trails then
      ⟨Char.ofNat (0x10000 + (l - 0xD800) * 0x400 + (n - 0xDC00)) :: q.done, q.sound, none⟩
    else ⟨q.done, false, none⟩
  | none =>
    if leads then ⟨q.done, q.sound, some n⟩
    else if trails then ⟨q.done, false, none⟩
    else ⟨Char.ofNat n :: q.done, q.sound, none⟩

/-- The text that was read, if it has a value. -/
def token (q : Quoted) : Token :=
  .string (if q.sound && q.lead.isNone then some (String.ofList q.done.reverse) else none)

end Quoted

namespace Counted

def start (negative : Bool) : Counted := ⟨negative, 0, 0, false, true, false, 0⟩

def fits (n : Counted) (d : Nat) : Bool := !n.full && 10 * n.digits + d ≤ maxWord64

/-- Adds a digit before the point. -/
def push (n : Counted) (d : Nat) : Counted :=
  if n.fits d then { n with digits := 10 * n.digits + d }
  else { n with power := n.power + 1, full := true }

def pushPoint (n : Counted) : Counted := { n with whole := false, full := false }

/-- Adds a digit after the point. -/
def pushPlace (n : Counted) (d : Nat) : Counted :=
  if n.fits d then { n with digits := 10 * n.digits + d, power := n.power - 1 }
  else { n with full := true }

def pushExponent (n : Counted) (d : Nat) : Counted :=
  { n with exponent := 10 * n.exponent + d }

/-- The number that was read. A whole number keeps its digits if 64 bits hold it, with its sign
if it has one; a zero with a sign has none. -/
def numeral (n : Counted) : Numeral :=
  let e : Int := if n.exponentNegative then -(n.exponent : Int) else n.exponent
  let fraction : Numeral := .real n.negative n.digits (n.power + e)
  if !n.whole || n.full then fraction
  else if !n.negative then .int n.digits
  else if n.digits = 0 ∨ maxSigned + 1 < n.digits then fraction
  else .int (-(n.digits : Int))

def token (n : Counted) : Token := .number n.numeral

end Counted

def digit? (c : Char) : Option Nat := if c.isDigit then some (c.toNat - 48) else none

def hex? (c : Char) : Option Nat :=
  let n := c.toNat
  if c.isDigit then some (n - 48)
  else if 97 ≤ n ∧ n ≤ 102 then some (n - 87)
  else if 65 ≤ n ∧ n ≤ 70 then some (n - 55)
  else none

/-- The character that a simple escape stands for. -/
def escaped? (c : Char) : Option Char :=
  match c with
  | '"' => some '"'
  | '\\' => some '\\'
  | '/' => some '/'
  | 'b' => some (Char.ofNat 8)
  | 'f' => some (Char.ofNat 12)
  | 'n' => some '\n'
  | 'r' => some '\r'
  | 't' => some '\t'
  | _ => none

/-- What a fault leads to. -/
def stop : List Token × State := ([.bad], .stopped)

/-- The first character of a token. -/
def begin (c : Char) : List Token × State :=
  match c with
  | ' ' | '\n' | '\r' | '\t' => ([], .idle)
  | '{' => ([.beginObject], .idle)
  | '}' => ([.endObject], .idle)
  | '[' => ([.beginArray], .idle)
  | ']' => ([.endArray], .idle)
  | ':' => ([.colon], .idle)
  | ',' => ([.comma], .idle)
  | '"' => ([], .quoted ⟨[], true, none⟩)
  | 'n' => ([], .word ['u', 'l', 'l'] .null)
  | 't' => ([], .word ['r', 'u', 'e'] (.bool true))
  | 'f' => ([], .word ['a', 'l', 's', 'e'] (.bool false))
  | '-' => ([], .minus)
  | '0' => ([], .zero (.start false))
  | _ =>
    match digit? c with
    | some d => ([], .digits ((Counted.start false).push d))
    | none => stop

/-- Ends a number at a character that does not belong to it. -/
def endNumber (n : Counted) (c : Char) : List Token × State :=
  let (tokens, state) := begin c
  (n.token :: tokens, state)

/-- The point or the exponent mark of a number, or its end. -/
def afterDigits (n : Counted) (pointAllowed : Bool) (c : Char) : List Token × State :=
  if c = '.' ∧ pointAllowed then ([], .point n.pushPoint)
  else if c = 'e' ∨ c = 'E' then ([], .mark { n with whole := false })
  else endNumber n c

def step (s : State) (c : Char) : List Token × State :=
  match s with
  | .idle => begin c
  | .word [] _ => stop
  | .word (d :: rest) token =>
    if c = d then
      if rest.isEmpty then ([token], .idle) else ([], .word rest token)
    else stop
  | .quoted q =>
    if c = '"' then ([q.token], .idle)
    else if c = '\\' then ([], .escape q)
    else if c.toNat < 32 then stop
    else ([], .quoted (q.push c))
  | .escape q =>
    if c = 'u' then ([], .unicode q 4 0)
    else match escaped? c with
      | some d => ([], .quoted (q.push d))
      | none => stop
  | .unicode q left value =>
    match hex? c with
    | some d =>
      if left ≤ 1 then ([], .quoted (q.pushUnit (16 * value + d)))
      else ([], .unicode q (left - 1) (16 * value + d))
    | none => stop
  | .minus =>
    if c = '0' then ([], .zero (.start true))
    else match digit? c with
      | some d => ([], .digits ((Counted.start true).push d))
      | none => stop
  | .zero n => if c.isDigit then stop else afterDigits n true c
  | .digits n =>
    match digit? c with
    | some d => ([], .digits (n.push d))
    | none => afterDigits n true c
  | .point n =>
    match digit? c with
    | some d => ([], .fraction (n.pushPlace d))
    | none => stop
  | .fraction n =>
    match digit? c with
    | some d => ([], .fraction (n.pushPlace d))
    | none => afterDigits n false c
  | .mark n =>
    if c = '+' then ([], .sign n)
    else if c = '-' then ([], .sign { n with exponentNegative := true })
    else match digit? c with
      | some d => ([], .exponent (n.pushExponent d))
      | none => stop
  | .sign n =>
    match digit? c with
    | some d => ([], .exponent (n.pushExponent d))
    | none => stop
  | .exponent n =>
    match digit? c with
    | some d => ([], .exponent (n.pushExponent d))
    | none => endNumber n c
  | .stopped => ([], .stopped)

def finish : State → List Token
  | .idle => []
  | .zero n => [n.token]
  | .digits n => [n.token]
  | .fraction n => [n.token]
  | .exponent n => [n.token]
  | .stopped => []
  | _ => [.bad]

/-- The tokens of the rest of a text, after those read already, which stand last first. -/
def scanFrom (read : List Token) (s : State) : List Char → List Token
  | [] => read.reverse ++ finish s
  | c :: cs =>
    let (tokens, s) := step s c
    scanFrom (tokens.reverse ++ read) s cs

def scan (s : String) : List Token := scanFrom [] .idle s.toList

end Token

end Perimeter.Json
