import Perimeter.Toml.Scalar

/-!
# Values of TOML

Keys, quoted texts, arrays and inline tables. Each reader splits a value off the front of the
text and answers what is left.
-/

namespace Perimeter.Toml

/-- Splits something off the front of a text. -/
abbrev Reader (α : Type) := List Char → Option (α × List Char)

/-! ## Blanks, comments and lines -/

def isBlank (c : Char) : Bool := c = ' ' || c = '\t'

/-- The characters that comments and texts may hold. -/
def isTextChar (c : Char) : Bool := c = '\t' || (32 ≤ c.toNat && c.toNat ≠ 127)

def skipBlanks (cs : List Char) : List Char := cs.dropWhile isBlank

/-- What follows the end of a line. -/
def newline? : List Char → Option (List Char)
  | '\n' :: rest => some rest
  | '\r' :: '\n' :: rest => some rest
  | _ => none

/-- What follows a line, if nothing but a comment is left of it. -/
def lineEnd? (cs : List Char) : Option (List Char) :=
  let cs := match skipBlanks cs with
    | '#' :: rest => rest.dropWhile isTextChar
    | cs => cs
  if cs.isEmpty then some [] else newline? cs

/-- Skips blanks, comments and the ends of lines, inside a comment or outside. -/
def skipFiller (comment : Bool) : List Char → List Char
  | [] => []
  | '\n' :: rest => skipFiller false rest
  | '\r' :: '\n' :: rest => skipFiller false rest
  | c :: rest =>
    if comment then if isTextChar c then skipFiller true rest else c :: rest
    else if isBlank c then skipFiller false rest
    else if c = '#' then skipFiller true rest
    else c :: rest

/-! ## Texts -/

def scalarValue? (ds : List Char) : Option Char :=
  let n := numberOf 16 ds
  if ds.all isHexDigit ∧ (n < 0xD800 ∨ (0xDFFF < n ∧ n < 0x110000)) then some (Char.ofNat n)
  else none

def escaped? : Char → Option Char
  | 'b' => some (Char.ofNat 8)
  | 'e' => some (Char.ofNat 27)
  | 't' => some '\t'
  | 'n' => some '\n'
  | 'f' => some (Char.ofNat 12)
  | 'r' => some '\r'
  | '"' => some '"'
  | '\\' => some '\\'
  | _ => none

/-- Adds a character to a reading. -/
def push? (c : Option Char) (rest : Option (List Char × List Char)) :
    Option (List Char × List Char) :=
  c.bind fun c => rest.map fun r => (c :: r.1, r.2)

/-- The rest of a text in double quotes. -/
def basic : List Char → Option (List Char × List Char)
  | [] => none
  | '"' :: rest => some ([], rest)
  | '\\' :: 'x' :: a :: b :: rest => push? (scalarValue? [a, b]) (basic rest)
  | '\\' :: 'u' :: a :: b :: c :: d :: rest => push? (scalarValue? [a, b, c, d]) (basic rest)
  | '\\' :: 'U' :: a :: b :: c :: d :: e :: f :: g :: h :: rest =>
    push? (scalarValue? [a, b, c, d, e, f, g, h]) (basic rest)
  | '\\' :: c :: rest => push? (escaped? c) (basic rest)
  | c :: rest => if isTextChar c then push? (some c) (basic rest) else none

/-- The rest of a text of several lines in double quotes. A backslash at the end of a line skips
all blanks that follow; `folding` says that they are being skipped. -/
def basicLines (folding : Bool) : List Char → Option (List Char × List Char)
  | [] => none
  | '"' :: '"' :: '"' :: '"' :: '"' :: rest => some (['"', '"'], rest)
  | '"' :: '"' :: '"' :: '"' :: rest => some (['"'], rest)
  | '"' :: '"' :: '"' :: rest => some ([], rest)
  | '\\' :: 'x' :: a :: b :: rest => push? (scalarValue? [a, b]) (basicLines false rest)
  | '\\' :: 'u' :: a :: b :: c :: d :: rest =>
    push? (scalarValue? [a, b, c, d]) (basicLines false rest)
  | '\\' :: 'U' :: a :: b :: c :: d :: e :: f :: g :: h :: rest =>
    push? (scalarValue? [a, b, c, d, e, f, g, h]) (basicLines false rest)
  | '\\' :: c :: rest =>
    if (newline? (skipBlanks (c :: rest))).isSome then basicLines true rest
    else push? (escaped? c) (basicLines false rest)
  | '\r' :: '\n' :: rest =>
    if folding then basicLines true rest
    else push? (some '\r') (push? (some '\n') (basicLines false rest))
  | '\n' :: rest =>
    if folding then basicLines true rest else push? (some '\n') (basicLines false rest)
  | c :: rest =>
    if folding && isBlank c then basicLines true rest
    else if isTextChar c then push? (some c) (basicLines false rest)
    else none

/-- The rest of a text in single quotes. -/
def verbatim : List Char → Option (List Char × List Char)
  | [] => none
  | '\'' :: rest => some ([], rest)
  | c :: rest => if isTextChar c then push? (some c) (verbatim rest) else none

/-- The rest of a text of several lines in single quotes. -/
def verbatimLines : List Char → Option (List Char × List Char)
  | [] => none
  | '\'' :: '\'' :: '\'' :: '\'' :: '\'' :: rest => some (['\'', '\''], rest)
  | '\'' :: '\'' :: '\'' :: '\'' :: rest => some (['\''], rest)
  | '\'' :: '\'' :: '\'' :: rest => some ([], rest)
  | '\r' :: '\n' :: rest => push? (some '\r') (push? (some '\n') (verbatimLines rest))
  | '\n' :: rest => push? (some '\n') (verbatimLines rest)
  | c :: rest => if isTextChar c then push? (some c) (verbatimLines rest) else none

/-- What follows a line end at the front, which does not belong to a text of several lines. -/
def dropLine (cs : List Char) : List Char := (newline? cs).getD cs

def quoted? : Reader String := fun cs =>
  let found := match cs with
    | '"' :: '"' :: '"' :: rest => basicLines false (dropLine rest)
    | '"' :: rest => basic rest
    | '\'' :: '\'' :: '\'' :: rest => verbatimLines (dropLine rest)
    | '\'' :: rest => verbatim rest
    | _ => none
  found.map fun r => (String.ofList r.1, r.2)

/-! ## Keys -/

def isKeyChar (c : Char) : Bool := c.isAlphanum || c = '_' || c = '-'

/-- One name of a key, bare or quoted in one line. -/
def name? : Reader String := fun cs =>
  match cs with
  | '"' :: rest => (basic rest).map fun r => (String.ofList r.1, r.2)
  | '\'' :: rest => (verbatim rest).map fun r => (String.ofList r.1, r.2)
  | _ =>
    let word := cs.takeWhile isKeyChar
    if word.isEmpty then none else some (String.ofList word, cs.drop word.length)

/-- A key of at most so many names, with points between them. -/
def names? : Nat → Reader (List String)
  | 0, _ => none
  | n + 1, cs =>
    match name? (skipBlanks cs) with
    | none => none
    | some (name, rest) =>
      match skipBlanks rest with
      | '.' :: rest => (names? n rest).map fun r => (name :: r.1, r.2)
      | rest => some ([name], rest)

/-- How many names a key has at most, and how deep arrays and inline tables lie inside one
another. -/
def deepest : Nat := 80

def key? : Reader (List String) := names? deepest

/-! ## Tables -/

/-- How a table came to be. -/
inductive Origin where
  /-- It was opened under its name. -/
  | opened
  /-- It holds a table that was opened. -/
  | implied
  /-- It holds a key with points. -/
  | pointed
deriving DecidableEq

inductive Node where
  | value (l : Layer)
  | table (origin : Origin) (fields : List (String × Node))
  | tables (last : List (String × Node)) (before : List (List (String × Node)))

abbrev Nodes := List (String × Node)

namespace Node

mutual

def layer : Node → Layer
  | value l => l
  | table _ fields => .table (layers fields)
  | tables last before => .list ((.table (layers last) :: listLayers before).reverse)

def layers : List (String × Node) → List (String × Layer)
  | [] => []
  | (name, n) :: rest => (name, layer n) :: layers rest

def listLayers : List (List (String × Node)) → List Layer
  | [] => []
  | fields :: rest => .table (layers fields) :: listLayers rest

end

end Node

namespace Nodes

/-- Puts a part in the place of a field, or after the others. -/
def set (fs : Nodes) (name : String) (n : Node) : Nodes :=
  if fs.any (·.1 == name) then fs.map fun f => if f.1 == name then (name, n) else f
  else fs ++ [(name, n)]

/-- Adds a value under a key that is not in use. A key with points reaches only into tables that
such keys have made. -/
def add (value : Node) : List String → Nodes → Option Nodes
  | [], _ => none
  | [name], fs => if (fs.lookup name).isSome then none else some (fs.set name value)
  | name :: key, fs =>
    match fs.lookup name with
    | none => (add value key []).map fun sub => fs.set name (.table .pointed sub)
    | some (.table .pointed sub) =>
      (add value key sub).map fun sub => fs.set name (.table .pointed sub)
    | some _ => none

end Nodes

/-! ## Values -/

mutual

/-- A value with so many levels of arrays and inline tables left, in so many steps at most. -/
def value? : Nat → Nat → Reader Layer
  | 0, _, _ => none
  | n + 1, levels, cs =>
    match cs, levels with
    | '"' :: _, _ => (quoted? cs).map fun r => (.text r.1, r.2)
    | '\'' :: _, _ => (quoted? cs).map fun r => (.text r.1, r.2)
    | '[' :: rest, levels + 1 => items? n levels [] rest
    | '{' :: rest, levels + 1 => fields? n levels [] rest
    | _, _ =>
      let (word, rest) := takeScalar cs
      (scalar? word).map fun l => (l, rest)

/-- The rest of an array, after the items read so far, which stand last first. -/
def items? : Nat → Nat → List Layer → Reader Layer
  | 0, _, _, _ => none
  | n + 1, levels, done, cs =>
    match skipFiller false cs with
    | ']' :: rest => some (.list done.reverse, rest)
    | cs =>
      match value? n levels cs with
      | none => none
      | some (item, rest) =>
        match skipFiller false rest with
        | ',' :: rest => items? n levels (item :: done) rest
        | ']' :: rest => some (.list (item :: done).reverse, rest)
        | _ => none

/-- The rest of an inline table, after the fields read so far. -/
def fields? : Nat → Nat → Nodes → Reader Layer
  | 0, _, _, _ => none
  | n + 1, levels, done, cs =>
    match skipFiller false cs with
    | '}' :: rest => some (.table (Node.layers done), rest)
    | cs =>
      match (key? cs).map fun r => (r.1, skipFiller false r.2) with
      | some (key, '=' :: rest) =>
        match value? n levels (skipFiller false rest) with
        | none => none
        | some (item, rest) =>
          match done.add (.value item) key, skipFiller false rest with
          | some done, ',' :: rest => fields? n levels done rest
          | some done, '}' :: rest => some (.table (Node.layers done), rest)
          | _, _ => none
      | _ => none

end

end Perimeter.Toml
