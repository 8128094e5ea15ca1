/-!
# JSON values

Values as answers hold them, and their compact text. Whole numbers are exact; other numbers keep
their decimal form.
-/

namespace Perimeter

/-- A number as it is written: whole, or digits times a power of ten. -/
inductive Numeral where
  | int (value : Int)
  | real (negative : Bool) (digits : Nat) (exponent : Int)
deriving DecidableEq

/-- A JSON value. Objects keep the order of their fields. -/
inductive Json where
  | null
  | bool (b : Bool)
  | number (n : Numeral)
  | string (s : String)
  | array (items : List Json)
  | object (fields : List (String × Json))

namespace Json

instance : Inhabited Json := ⟨null⟩

def int (n : Int) : Json := number (.int n)

def nat (n : Nat) : Json := number (.int n)

def option {α : Type} (f : α → Json) : Option α → Json
  | some a => f a
  | none => null

def list {α : Type} (f : α → Json) (as : List α) : Json := array (as.map f)

/-- The value of a field; of repeated fields the last counts. -/
def get? (j : Json) (name : String) : Option Json :=
  match j with
  | object fields => (fields.reverse.find? (·.1 == name)).map Prod.snd
  | _ => none

/-- The value of a field, `null` where there is none. -/
def get (j : Json) (name : String) : Json := (j.get? name).getD null

/-! ## Writing -/

/-- A character inside a quoted text. -/
def escape (c : Char) : List Char :=
  if c = '"' then ['\\', '"']
  else if c = '\\' then ['\\', '\\']
  else if c = '\n' then ['\\', 'n']
  else if c = '\r' then ['\\', 'r']
  else if c = '\t' then ['\\', 't']
  else if c = '\x08' then ['\\', 'b']
  else if c = '\x0c' then ['\\', 'f']
  else if c.toNat < 32 then
    let digit (n : Nat) : Char := if n < 10 then Char.ofNat (48 + n) else Char.ofNat (87 + n)
    ['\\', 'u', '0', '0', digit (c.toNat / 16), digit (c.toNat % 16)]
  else [c]

/-- A text in quotes, added to what is written already. -/
def quoteOnto (out : String) (s : String) : String :=
  (s.foldl (fun out c => (escape c).foldl String.push out) (out.push '"')).push '"'

/-- The digits of a number, with its power of ten. -/
def numeralText : Numeral → String
  | .int n => toString n
  | .real negative digits exponent =>
    (if negative then "-" else "") ++ toString digits ++ "e" ++ toString exponent

mutual

/-- A value's text, added to what is written already. -/
def writeOnto (out : String) : Json → String
  | null => out ++ "null"
  | bool b => out ++ (if b then "true" else "false")
  | number n => out ++ numeralText n
  | string s => quoteOnto out s
  | array [] => out ++ "[]"
  | array (j :: js) => (writeItems (writeOnto (out.push '[') j) js).push ']'
  | object [] => (out.push '{').push '}'
  | object ((name, j) :: fs) =>
    (writeFields (writeOnto ((quoteOnto (out.push '{') name).push ':') j) fs).push '}'

/-- The items after the first. -/
def writeItems (out : String) : List Json → String
  | [] => out
  | j :: js => writeItems (writeOnto (out.push ',') j) js

/-- The fields after the first. -/
def writeFields (out : String) : List (String × Json) → String
  | [] => out
  | (name, j) :: fs =>
    writeFields (writeOnto ((quoteOnto (out.push ',') name).push ':') j) fs

end

/-- A value's compact text. -/
def text (j : Json) : String := writeOnto "" j

/-! ## Nesting -/

mutual

/-- How many arrays and objects lie inside one another at most. -/
def nesting : Json → Nat
  | array js => 1 + itemsNesting js
  | object fs => 1 + fieldsNesting fs
  | _ => 0

def itemsNesting : List Json → Nat
  | [] => 0
  | j :: js => max (nesting j) (itemsNesting js)

def fieldsNesting : List (String × Json) → Nat
  | [] => 0
  | (_, j) :: fs => max (nesting j) (fieldsNesting fs)

end

end Json

end Perimeter
