import Perimeter.Json.Token

/-!
# Documents

A JSON text read as far as it goes. Where a text breaks off or goes wrong, the document says so
in that place and keeps all that came before, so that a reader who expects values of certain
types can tell which came first: a fault of the text, or a value of the wrong type.
-/

namespace Perimeter.Json

/-- A value as read. A container that is not closed breaks off after its last part. -/
inductive Doc where
  | null
  | bool (b : Bool)
  | number (n : Numeral)
  | string (s : Option String)
  | array (items : List Doc) (closed : Bool)
  | object (fields : List (Option String × Doc)) (closed : Bool)
  | broken

namespace Doc

/-- A container that is being read. Its parts stand last first. -/
inductive Frame where
  | items (done : List Doc)
  | fields (done : List (Option String × Doc))
  | member (done : List (Option String × Doc)) (key : Option String)

/-- What may come next. -/
inductive Due where
  | value
  | itemOrEnd
  | keyOrEnd
  | key
  | colon (key : Option String)
  | commaOrEnd

/-- Puts a value that was cut short into the containers around it. -/
def wrap (v : Doc) : List Frame → Doc
  | [] => v
  | .items done :: fs => wrap (.array (v :: done).reverse false) fs
  | .fields done :: fs => wrap (.object done.reverse false) fs
  | .member done key :: fs => wrap (.object ((key, v) :: done).reverse false) fs

/-- What is left of a text that breaks off. -/
def breakOff (frames : List Frame) (due : Due) : Doc :=
  match due, frames with
  | .value, fs => wrap .broken fs
  | .colon key, .fields done :: fs => wrap .broken (.member done key :: fs)
  | _, .items done :: fs => wrap (.array done.reverse false) fs
  | _, .fields done :: fs => wrap (.object done.reverse false) fs
  | _, fs => wrap .broken fs

/-- What one token does. -/
inductive Turn where
  /-- Reading goes on. -/
  | next (frames : List Frame) (due : Due)
  /-- A value is complete. -/
  | complete (v : Doc) (frames : List Frame)
  /-- The token does not belong here. -/
  | wrong

/-- A token where a value is due. -/
def startValue (frames : List Frame) : Token → Turn
  | .null => .complete .null frames
  | .bool b => .complete (.bool b) frames
  | .number n => .complete (.number n) frames
  | .string s => .complete (.string s) frames
  | .beginArray => .next (.items [] :: frames) .itemOrEnd
  | .beginObject => .next (.fields [] :: frames) .keyOrEnd
  | _ => .wrong

def turn (frames : List Frame) (due : Due) (t : Token) : Turn :=
  match due with
  | .value => startValue frames t
  | .itemOrEnd =>
    match t, frames with
    | .endArray, .items done :: fs => .complete (.array done.reverse true) fs
    | t, fs => startValue fs t
  | .keyOrEnd =>
    match t, frames with
    | .endObject, .fields done :: fs => .complete (.object done.reverse true) fs
    | .string key, fs => .next fs (.colon key)
    | _, _ => .wrong
  | .key =>
    match t with
    | .string key => .next frames (.colon key)
    | _ => .wrong
  | .colon key =>
    match t, frames with
    | .colon, .fields done :: fs => .next (.member done key :: fs) .value
    | _, _ => .wrong
  | .commaOrEnd =>
    match t, frames with
    | .comma, .items done :: fs => .next (.items done :: fs) .value
    | .endArray, .items done :: fs => .complete (.array done.reverse true) fs
    | .comma, .fields done :: fs => .next (.fields done :: fs) .key
    | .endObject, .fields done :: fs => .complete (.object done.reverse true) fs
    | _, _ => .wrong

/-- Puts a complete value into the container around it; `none` at the outermost. -/
def settle (v : Doc) : List Frame → Option (List Frame)
  | [] => none
  | .items done :: fs => some (.items (v :: done) :: fs)
  | .fields done :: fs => some (.fields done :: fs)
  | .member done key :: fs => some (.fields ((key, v) :: done) :: fs)

/-- Reads tokens to the end of the outermost value, and says whether the text ends there. -/
def build (frames : List Frame) (due : Due) : List Token → Doc × Bool
  | [] => (breakOff frames due, true)
  | t :: ts =>
    match turn frames due t with
    | .next frames due => build frames due ts
    | .wrong => (breakOff frames due, true)
    | .complete v frames =>
      match settle v frames with
      | some frames => build frames .commaOrEnd ts
      | none => (v, ts.isEmpty)

/-- A comma in an array that leads to no item ends it unclosed. -/
def read (s : String) : Doc × Bool := build [] .value (Token.scan s)

mutual

/-- Whether a value is complete, whatever its texts hold. -/
def whole : Doc → Bool
  | broken => false
  | array items closed => closed && wholeItems items
  | object fields closed => closed && wholeFields fields
  | _ => true

def wholeItems : List Doc → Bool
  | [] => true
  | d :: ds => whole d && wholeItems ds

def wholeFields : List (Option String × Doc) → Bool
  | [] => true
  | (_, d) :: fs => whole d && wholeFields fs

end

end Doc

end Perimeter.Json
