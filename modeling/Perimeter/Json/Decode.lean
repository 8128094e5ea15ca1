import Perimeter.Binary64
import Perimeter.Json.Doc

/-!
# Decoding

A decoder turns a document into a value of some type, or says why it cannot: the text is no
JSON, or it is JSON of another shape. Of several faults the one that stands first in the text
decides, wherever it is found.

Records may be written as objects or as arrays of their fields. In an object unknown fields
are passed over, so long as they are JSON; repeated fields are a fault.
-/

namespace Perimeter

/-- The value of a number in 64-bit floating point. -/
def Numeral.binary : Numeral → Binary64
  | .int n => .ofInt n
  | .real negative digits exponent => .ofSteps negative digits exponent

def Numeral.isFinite (n : Numeral) : Bool :=
  match n.binary with
  | .finite _ _ _ => true
  | _ => false

namespace Json

/-- Why a text is refused. -/
inductive Rejection where
  /-- It is no JSON text. -/
  | malformed
  /-- It is JSON of another shape. -/
  | mismatched
deriving DecidableEq

/-- Reads a value from a document, with so many levels of nesting left. -/
abbrev Decoder (α : Type) := Nat → Doc → Except Rejection α

namespace Decoder

variable {α β : Type}

/-- Refuses a document that is not of the shape wanted. -/
def refuse : Doc → Except Rejection α
  | .broken => .error .malformed
  | .string none => .error .malformed
  | .number n => .error (if n.isFinite then .mismatched else .malformed)
  | _ => .error .mismatched

/-! ## Plain values -/

def string : Decoder String
  | _, .string (some s) => .ok s
  | _, d => refuse d

def bool : Decoder Bool
  | _, .bool b => .ok b
  | _, d => refuse d

/-- A whole number up to `most`, written without point and exponent. -/
def nat (most : Nat) : Decoder Nat
  | _, .number (.int n) =>
    if 0 ≤ n ∧ n ≤ most then .ok n.toNat else refuse (.number (.int n))
  | _, d => refuse d

/-- A text in some form of its own. -/
def text (parse? : String → Option α) : Decoder α := fun levels d =>
  match string levels d with
  | .ok s => (parse? s).elim (.error .mismatched) .ok
  | .error e => .error e

def option (item : Decoder α) : Decoder (Option α)
  | _, .null => .ok none
  | levels, d => (item levels d).map some

def map (f : α → β) (item : Decoder α) : Decoder β := fun levels d => (item levels d).map f

/-- Demands that a container was closed. -/
def ended (closed : Bool) (a : α) : Except Rejection α :=
  if closed then .ok a else .error .malformed

def list (item : Decoder α) : Decoder (List α)
  | 0, .array _ _ => .error .malformed
  | levels + 1, .array items closed => do ended closed (← items.mapM (item levels))
  | _, d => refuse d

def named (constants : List (String × α)) (name : String) : Except Rejection α :=
  (constants.lookup name).elim (.error .mismatched) .ok

/-- One of several named constants: its name, or an object with the name over `null`. -/
def choice (constants : List (String × α)) : Decoder α
  | _, .string (some name) => named constants name
  | 0, .object _ _ => .error .malformed
  | _ + 1, .object ((some name, .null) :: rest) closed => do
    ended (closed && rest.isEmpty) (← named constants name)
  | _ + 1, .object ((some name, d) :: _) _ => do
    let _ ← named constants name
    refuse d
  | _ + 1, .object _ _ => .error .malformed
  | _, d => refuse d

/-! ## Any value -/

/-- Puts a field among others; a field of the same name gives way. -/
def putField (name : String) (j : Json) (fields : List (String × Json)) : List (String × Json) :=
  if fields.any (·.1 == name) then
    fields.map fun f => if f.1 == name then (name, j) else f
  else fields ++ [(name, j)]

mutual

def json : Nat → Doc → Except Rejection Json
  | _, .null => .ok .null
  | _, .bool b => .ok (.bool b)
  | _, .number n => if n.isFinite then .ok (.number n) else .error .malformed
  | _, .string (some s) => .ok (.string s)
  | _, .string none => .error .malformed
  | 0, .array _ _ => .error .malformed
  | levels + 1, .array items closed => do ended closed (.array (← jsonItems levels items))
  | 0, .object _ _ => .error .malformed
  | levels + 1, .object fields closed => do
    ended closed (.object (← jsonFields [] levels fields))
  | _, .broken => .error .malformed

def jsonItems : Nat → List Doc → Except Rejection (List Json)
  | _, [] => .ok []
  | levels, d :: ds => do return (← json levels d) :: (← jsonItems levels ds)

/-- The fields of an object, after those that were read; of repeated fields the last counts. -/
def jsonFields (read : List (String × Json)) :
    Nat → List (Option String × Doc) → Except Rejection (List (String × Json))
  | _, [] => .ok read
  | _, (none, _) :: _ => .error .malformed
  | levels, (some name, d) :: fs => do
    jsonFields (putField name (← json levels d) read) levels fs

end

/-! ## Records -/

/-- What reading a part of a record comes to: the value, or a fault and its place. -/
abbrev Finding (α : Type) := Except (Nat × Rejection) α

/-- Of two findings both values, or the fault that stands first. -/
def Finding.both (f : Finding (α → β)) (x : Finding α) : Finding β :=
  match f, x with
  | .ok f, .ok a => .ok (f a)
  | .error e, .ok _ => .error e
  | .ok _, .error e => .error e
  | .error e, .error e' => .error (if e.1 ≤ e'.1 then e else e')

/-- A finding beside a test of the rest. -/
def Finding.beside (test : Finding Unit) (x : Finding α) : Finding α :=
  Finding.both (test.map fun _ a => a) x

/-- Some fields of a record: their names, and how they are read from an object, where each field
stands with its place, and from an array, from some place on. -/
structure Fields (α : Type) where
  names : List String
  ofObject : Nat → List ((Option String × Doc) × Nat) → Finding α
  ofArray : Nat → List Doc → Bool → Nat → Finding α

namespace Fields

instance : Functor Fields where
  map f x :=
    { names := x.names
      ofObject := fun levels parts => (x.ofObject levels parts).map f
      ofArray := fun levels items closed i => (x.ofArray levels items closed i).map f }

instance : Seq Fields where
  seq f x :=
    let x := x ()
    { names := f.names ++ x.names
      ofObject := fun levels parts => (f.ofObject levels parts).both (x.ofObject levels parts)
      ofArray := fun levels items closed i =>
        (f.ofArray levels items closed i).both
          (x.ofArray levels items closed (i + f.names.length)) }

/-- One field. `absent` stands for it where an object has none, `short` where an array ends
before it. -/
def one (name : String) (item : Decoder α) (absent short : Option α) : Fields α where
  names := [name]
  ofObject levels parts :=
    match parts.filter fun p => p.1.1 == some name with
    | [] => absent.elim (.error (parts.length + 1, .mismatched)) .ok
    | (part, i) :: others =>
      match item levels part.2, others with
      | .error e, _ => .error (i, e)
      | .ok a, [] => .ok a
      | .ok _, (_, j) :: _ => .error (j, .mismatched)
  ofArray levels items closed i :=
    match items[i]? with
    | some d => (item levels d).mapError fun e => (i, e)
    | none =>
      if closed then short.elim (.error (i, .mismatched)) .ok else .error (i, .malformed)

def required (name : String) (item : Decoder α) : Fields α := one name item none none

/-- A field that may be `null`, and left out of an object. -/
def optional (name : String) (item : Decoder α) : Fields (Option α) :=
  one name (option item) (some none) none

/-- A field that may be left out. -/
def defaulted (name : String) (item : Decoder α) (value : α) : Fields α :=
  one name item (some value) (some value)

end Fields

/-- The first fault of an object outside the fields with the given names. -/
def stray (names : List String) (parts : List ((Option String × Doc) × Nat)) (closed : Bool) :
    Finding Unit :=
  let bad (p : (Option String × Doc) × Nat) : Bool :=
    match p.1.1 with
    | none => true
    | some name => !names.contains name && !p.1.2.whole
  match parts.find? bad with
  | some p => .error (p.2, .malformed)
  | none => if closed then .ok () else .error (parts.length, .malformed)

/-- A record, as an object or as an array of its fields. -/
def record (fields : Fields α) : Decoder α
  | 0, .object _ _ => .error .malformed
  | levels + 1, .object given closed =>
    let parts := given.zipIdx
    (Finding.beside (stray fields.names parts closed)
      (fields.ofObject levels parts)).mapError Prod.snd
  | 0, .array _ _ => .error .malformed
  | levels + 1, .array items closed =>
    let last : Finding Unit :=
      if closed ∧ items.length ≤ fields.names.length then .ok ()
      else .error (fields.names.length, .malformed)
    (Finding.beside last (fields.ofArray levels items closed 0)).mapError Prod.snd
  | _, d => refuse d

end Decoder

/-! ## Texts -/

/-- How deep arrays and objects may lie inside one another. -/
def deepest : Nat := 127

/-- Decodes a text whose nesting is bounded. Nothing may follow the value. -/
def decodeWithin {α : Type} (levels : Nat) (item : Decoder α) (s : String) :
    Except Rejection α := do
  let (d, alone) := Doc.read s
  Decoder.ended alone (← item levels d)

def decode {α : Type} (item : Decoder α) (s : String) : Except Rejection α :=
  decodeWithin deepest item s

/-- The value of a text; `none` if it is no JSON. -/
def parse? (s : String) : Option Json := (decode Decoder.json s).toOption

end Json

end Perimeter
