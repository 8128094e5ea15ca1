import Perimeter.Fault
import Perimeter.Json.Basic

/-!
# Messages of the web interface

Requests and responses, and how faults become responses. Failures of the service itself are
reported without their details.
-/

namespace Perimeter

namespace Web

/-- A request. Names of headers are in lower case; the target is a path with a query. -/
structure Request where
  method : String
  target : String
  headers : List (String × String)
  body : String
deriving DecidableEq

inductive Content where
  | nothing
  | json (j : Json)
  | text (s : String)

def Content.mediaType? : Content → Option String
  | nothing => none
  | json _ => some "application/json"
  | text _ => some "text/plain; charset=utf-8"

/-- The length of a content, in bytes. -/
def Content.size : Content → Nat
  | nothing => 0
  | json j => j.text.utf8ByteSize
  | text s => s.utf8ByteSize

def Content.headers (c : Content) : List (String × String) :=
  (c.mediaType?.map fun type => ("content-type", type)).toList
    ++ [("content-length", toString c.size)]

structure Response where
  status : Nat
  headers : List (String × String)
  content : Content

def Request.header? (r : Request) (name : String) : Option String := r.headers.lookup name

/-- Whether a text can be read from a header: ASCII without control characters but tabs. -/
def isVisible (s : String) : Bool :=
  s.toList.all fun c => c = '\t' || (32 ≤ c.toNat && c.toNat ≤ 126)

def isTokenChar (c : Char) : Bool := c.isAlphanum || "!#$%&'*+-.^_\x60|~".toList.contains c

def isToken (s : String) : Bool := !s.isEmpty && s.toList.all isTokenChar

namespace Response

def empty (status : Nat) : Response := ⟨status, [], .nothing⟩

def ofText (status : Nat) (s : String) : Response := ⟨status, [], .text s⟩

def ofJson (status : Nat) (j : Json) : Response := ⟨status, [], .json j⟩

def withHeaders (r : Response) (headers : List (String × String)) : Response :=
  { r with headers := r.headers ++ headers }

def withoutContent (r : Response) : Response := { r with content := .nothing }

end Response

end Web

/-! ## Faults -/

def FaultKind.status : FaultKind → Nat
  | notFound => 404
  | validation | cycle => 400
  | protectedRoot | licenseLimit => 403
  | hasChildren | conflict => 409
  | database | configuration | serialization | internal => 500

/-- The code by which callers tell faults apart. -/
def FaultKind.code : FaultKind → String
  | notFound => "NOT_FOUND"
  | validation => "VALIDATION_ERROR"
  | cycle => "errorFolderGraphMustNotContainCycles"
  | protectedRoot => "errorProtectedRootFolder"
  | hasChildren => "errorFolderHasChildren"
  | conflict => "CONFLICT"
  | licenseLimit => "errorLicenseSeatsExceeded"
  | database | configuration | serialization | internal => "INTERNAL_ERROR"

def Fault.publicMessage (f : Fault) : String :=
  if f.kind.isRejection then f.message else "Internal server error"

namespace Web

/-- The content of a response that reports an error. -/
def errorJson (code message : String) : Json :=
  .object [("error", .string code), ("message", .string message)]

def Response.ofFault (f : Fault) : Response :=
  .ofJson f.kind.status (errorJson f.kind.code f.publicMessage)

/-- The content of a response that answers a request. -/
def successJson (data : Json) : Json := .object [("success", .bool true), ("data", data)]

end Web

end Perimeter
