import Perimeter.Settings.Basic
import Perimeter.Web.Route

/-!
# Serving requests

A request passes from the outside in: questions of other sites about what they may ask are
answered first, then bodies that are too long are turned away, then the request is routed and
carried out.
-/

namespace Perimeter.Web

/-! ## Other sites -/

/-- The values of a header that lists several; nothing where there are none. -/
def listHeader (name : String) (values : List String) : List (String × String) :=
  if values.isEmpty then [] else [(name, ",".intercalate values)]

/-- The site that may read a response: any, or the one that asks if it is allowed to. -/
def allowedOrigin (t : CorsTerms) (r : Request) : List (String × String) :=
  let name := "access-control-allow-origin"
  if t.origins.contains "*" then [(name, "*")]
  else match r.header? "origin" with
    | some origin => if isVisible origin && t.origins.contains origin then [(name, origin)] else []
    | none => []

/-- What other sites may ask for. -/
def preflight (t : CorsTerms) : Response :=
  let names := if t.headers.contains "*" then ["*"]
    else (t.headers.filter isToken).map fun s => String.ofList (s.toList.map Char.toLower)
  (Response.empty 200).withHeaders
    (listHeader "access-control-allow-methods" (t.methods.filter isToken)
      ++ listHeader "access-control-allow-headers" names
      ++ [("access-control-max-age", toString t.maxAge)])

/-! ## All responses -/

/-- From this size on, in bytes, contents are compressed for those who can read them so. -/
def compressibleSize : Nat := 32

/-- What a response depends on beside its target. A content that could be compressed depends on
the encodings that are accepted. -/
def varyHeaders (r : Request) (c : Content) : List (String × String) :=
  let compressible := r.method ≠ "HEAD" ∧ compressibleSize ≤ c.size
  (if compressible then [("vary", "accept-encoding")] else [])
    ++ [("vary", "origin, access-control-request-method, access-control-request-headers")]

/-- The number under which a request was sent, if it was given one. -/
def requestNumber (r : Request) : List (String × String) :=
  ((r.header? "x-request-id").map fun number => ("x-request-id", number)).toList

/-! ## Routing -/

/-- Carries out what a route's request asks for. -/
def carryOut (s : System) : Reading Call → Response × System
  | .error refusal => (refusal.response, s)
  | .ok call =>
    match call.perform s with
    | (.ok (status, data), s) => (.ofJson status (successJson data), s)
    | (.error fault, s) => (.ofFault fault, s)

/-- The methods that a route does know, for a request with another. -/
def allowHeader (route : Option Route) (r : Request) : List (String × String) :=
  match route with
  | some route =>
    if route.methods.contains r.method then [] else listHeader "allow" route.methods
  | none => []

def dispatch (s : System) (route : Option Route) (most : Nat) (r : Request) :
    Response × System :=
  match route with
  | none => (.empty 404, s)
  | some route =>
    match route.call? r most with
    | none => (.empty 405, s)
    | some reading => carryOut s reading

def serve (t : ServerTerms) (s : System) (r : Request) : Response × System :=
  let route := Route.ofPath? (splitTarget r.target).1
  let (response, s) :=
    if r.method = "OPTIONS" then (preflight t.cors, s)
    else if (r.declaredLength?).any (t.maxBody < ·) then
      (.ofText 413 "length limit exceeded", s)
    else dispatch s route t.maxBody r
  let content := response.content
  let response := response.withHeaders (content.headers ++ allowedOrigin t.cors r
    ++ allowHeader route r ++ varyHeaders r content ++ requestNumber r)
  (if r.method = "HEAD" then response.withoutContent else response, s)

end Perimeter.Web
