/-!
# Media types

A body is read as JSON only if it is declared so: by the type `application/json`, or by another
type of applications with the suffix `json`. Parameters are read over, but have to be well formed.
-/

namespace Perimeter.Web.MediaType

/-- The characters of types and of the names and values of parameters. -/
def isNameChar (c : Char) : Bool := c.isAlphanum || "!#$%&'*+-.^_\x60|~".toList.contains c

/-- The characters between quotes. A quote may be the first of them. -/
def isQuotedChar (c : Char) : Bool := 32 ≤ c.toNat && c.toNat ≤ 126

/-- Where the reading of parameters stands. -/
inductive Stage where
  /-- Before a name. -/
  | start
  | name
  /-- Before a value. -/
  | equals
  | value
  /-- Before the first character between quotes. -/
  | opened
  | quoted
  /-- After the closing quote. -/
  | closed

/-- Reads one character of the parameters. -/
def Stage.next? (s : Stage) (c : Char) : Option Stage :=
  match s with
  | start => if c = ' ' then some start else if isNameChar c then some name else none
  | name => if c = '=' then some equals else if isNameChar c then some name else none
  | equals => if c = '"' then some opened else if isNameChar c then some value else none
  | value => if c = ';' then some start else if isNameChar c then some value else none
  | opened => if isQuotedChar c then some quoted else none
  | quoted => if c = '"' then some closed else if isQuotedChar c then some quoted else none
  | closed => if c = ';' then some start else if c = ' ' then some closed else none

def Stage.mayEnd : Stage → Bool
  | start | equals | value | closed => true
  | _ => false

/-- Whether the text after a type is a list of parameters. -/
def areParameters (cs : List Char) : Bool := (cs.foldlM Stage.next? .start).any Stage.mayEnd

/-- Whether a subtype names JSON, by itself, before its last plus sign, or after it. -/
def namesJson (subtype : List Char) : Bool :=
  let suffix := (subtype.reverse.takeWhile (· ≠ '+')).reverse
  let stem := subtype.take (subtype.length - suffix.length - 1)
  if stem.isEmpty then subtype = "json".toList
  else stem = "json".toList || suffix = "json".toList

def isJson (s : String) : Bool :=
  let cs := s.toList.map Char.toLower
  let kind := cs.takeWhile isNameChar
  match cs.drop kind.length with
  | '/' :: rest =>
    let subtype := rest.takeWhile isNameChar
    let wellFormed := match rest.drop subtype.length with
      | [] => true
      | ';' :: parameters => areParameters parameters
      | _ => false
    kind = "application".toList && namesJson subtype && wellFormed
  | _ => false

end Perimeter.Web.MediaType
