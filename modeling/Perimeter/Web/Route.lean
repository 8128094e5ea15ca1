import Perimeter.Json.Decode
import Perimeter.Text.Blank
import Perimeter.Web.Call
import Perimeter.Web.MediaType
import Perimeter.Web.Target
import Perimeter.Wire.Complaint

/-!
# Routes

A request's path and method lead to a call, once the parts of the request that the call needs
can be read. What cannot be read is refused, in a fixed order: first the caller's name, then the
ids of the path, then the query or the body.
-/

namespace Perimeter.Web

/-! ## Refusals -/

/-- Why a request is not understood. -/
inductive Refusal where
  | actorGarbled
  | actorInvalid (given : String)
  | pathInvalid
  | queryInvalid
  | permissionBlank
  | contentUntyped
  | bodyTooLong
  | bodyMalformed
  | bodyMismatched
  | bodyRejected (complaints : List Complaint)
deriving DecidableEq

def Refusal.message : Refusal → String
  | actorGarbled => "Invalid x-actor-id header"
  | actorInvalid given => s!"Invalid x-actor-id: {given}"
  | pathInvalid => "Invalid URL"
  | queryInvalid => "Failed to deserialize query string"
  | permissionBlank => "permission is required"
  | contentUntyped => "Expected request with \x60Content-Type: application/json\x60"
  | bodyTooLong => "Failed to buffer the request body"
  | bodyMalformed => "Failed to parse the request body as JSON"
  | bodyMismatched => "Failed to deserialize the JSON body into the target type"
  | bodyRejected complaints => s!"Invalid request: " ++ Complaint.summary complaints

/-- The response to a request that is not understood. Queries are refused in plain text. -/
def Refusal.response (r : Refusal) : Response :=
  match r with
  | queryInvalid => .ofText 400 r.message
  | _ => .ofFault (.plain .validation r.message)

/-! ## Paths -/

/-- The paths that lead somewhere, with their variable parts as they are written. -/
inductive Route where
  | folders
  | folder (id : String)
  | folderChildren (id : String)
  | folderDescendants (id : String)
  | folderAncestors (id : String)
  | folderTree (id : String)
  | folderBreadcrumbs (id : String)
  | users
  | user (id : String)
  | userGroups (id : String)
  | userPermissions (id : String)
  | roles
  | groups
  | groupMembers (id : String)
  | groupMember (id member : String)
  | assignments
  | assignment (id : String)
  | seats
  | editors
  | health
deriving DecidableEq

namespace Route

/-- The route of the parts of a path below `/api`. -/
def ofParts? : List String → Option Route
  | ["folders"] => some folders
  | ["folders", id] => some (folder id)
  | ["folders", id, "children"] => some (folderChildren id)
  | ["folders", id, "descendants"] => some (folderDescendants id)
  | ["folders", id, "ancestors"] => some (folderAncestors id)
  | ["folders", id, "tree"] => some (folderTree id)
  | ["folders", id, "breadcrumbs"] => some (folderBreadcrumbs id)
  | ["users"] => some users
  | ["users", id] => some (user id)
  | ["users", id, "groups"] => some (userGroups id)
  | ["users", id, "permissions"] => some (userPermissions id)
  | ["roles"] => some roles
  | ["user-groups"] => some groups
  | ["user-groups", id, "members"] => some (groupMembers id)
  | ["user-groups", id, "members", member] => some (groupMember id member)
  | ["role-assignments"] => some assignments
  | ["role-assignments", id] => some (assignment id)
  | ["license", "seats"] => some seats
  | ["license", "editors"] => some editors
  | ["health"] => some health
  | _ => none

/-- The route of a path. No part of a path is empty. -/
def ofPath? (path : String) : Option Route :=
  match (path.toList.splitOn '/').map String.ofList with
  | "" :: "api" :: parts => if parts.any String.isEmpty then none else ofParts? parts
  | _ => none

/-- The methods of a route, as they are listed for callers who use another. -/
def methods : Route → List String
  | folders | users | roles | groups | groupMembers _ | assignments => ["GET", "HEAD", "POST"]
  | folder _ => ["GET", "HEAD", "PATCH", "DELETE"]
  | user _ => ["GET", "HEAD", "PATCH"]
  | groupMember _ _ | assignment _ => ["DELETE"]
  | _ => ["GET", "HEAD"]

end Route

/-! ## Parts of requests -/

/-- What reading a part of a request comes to. -/
abbrev Reading (α : Type) := Except Refusal α

namespace Request

def query (r : Request) : Query := Query.parse (splitTarget r.target).2

/-- The caller's name, which has to be an id if it is given. -/
def actor (r : Request) : Reading (Option UserId) :=
  match r.header? "x-actor-id" with
  | none => .ok none
  | some given =>
    if isVisible given then
      match Id.parse? given with
      | some id => .ok (some id)
      | none => .error (.actorInvalid given)
    else .error .actorGarbled

def asked {α : Type} (r : Request) (read? : Query → Option α) : Reading α :=
  match read? r.query with
  | some a => .ok a
  | none => .error .queryInvalid

def declaresJson (r : Request) : Bool :=
  (r.header? "content-type").any fun s => isVisible s && MediaType.isJson s

def declaredLength? (r : Request) : Option Nat :=
  (r.header? "content-length").bind fun s => if isVisible s then Query.nat? maxWord64 s else none

/-- The longest body that is read, in bytes. -/
def bodyLimit (r : Request) (most : Nat) : Nat := min most (r.declaredLength?.getD most)

/-- Reads the body, and checks what was read. -/
def decoded {α : Type} (r : Request) (most : Nat) (item : Json.Decoder α)
    (complaints : α → List Complaint) : Reading α :=
  if ¬ r.declaresJson then .error .contentUntyped
  else if r.bodyLimit most < r.body.utf8ByteSize then .error .bodyTooLong
  else
    match Json.decode item r.body with
    | .error .malformed => .error .bodyMalformed
    | .error .mismatched => .error .bodyMismatched
    | .ok a => if (complaints a).isEmpty then .ok a else .error (.bodyRejected (complaints a))

end Request

def pathId {κ : Kind} (part : String) : Reading (Id κ) :=
  match (segmentText? part).bind Id.parse? with
  | some id => .ok id
  | none => .error .pathInvalid

/-! ## Calls of routes -/

/-- The question about a permission that a query asks. -/
def permissionAsked (r : Request) (id : UserId) : Reading Call := do
  let (codename, folder) ← r.asked fun q => do
    let codename ← q.required? "permission" some
    let folder ← q.optional? "folder" Id.parse?
    return (codename, folder)
  if Text.isBlank codename then .error .permissionBlank
  else return .permission id (Text.trim codename) folder

def AssignmentForm.call (d : AssignmentForm) : Reading Call :=
  match d.principal? with
  | some principal => .ok (.assign ⟨d.role, principal, d.folder, d.recursive⟩)
  | none => .error (.bodyRejected d.complaints)

def Route.reading (r : Request) : Route → Option (Reading Call)
  | folders => some (do return .listFolders (← r.asked Query.page?))
  | folder id => some (do return .folder (← pathId id))
  | folderChildren id => some (do return .children (← pathId id))
  | folderDescendants id => some (do return .descendants (← pathId id))
  | folderAncestors id => some (do return .ancestors (← pathId id))
  | folderTree id => some do
    let id ← pathId id
    return .outline id (← r.asked fun q => q.optional? "max_depth" (Query.nat? maxWord32))
  | folderBreadcrumbs id => some (do return .breadcrumbs (← pathId id))
  | users => some (do return .listUsers (← r.asked Query.page?))
  | user id => some (do return .user (← pathId id))
  | userGroups id => some (do return .userGroups (← pathId id))
  | userPermissions id => some (do permissionAsked r (← pathId id))
  | roles => some (.ok .listRoles)
  | groups => some (.ok .listGroups)
  | groupMembers id => some (do return .groupMembers (← pathId id))
  | assignments =>
    some (do return .listAssignments (← r.asked fun q => q.optional? "folder" Id.parse?))
  | seats => some (.ok .seats)
  | editors => some (.ok .editors)
  | health => some (.ok .health)
  | groupMember _ _ | assignment _ => none

def Route.adding (r : Request) (most : Nat) : Route → Option (Reading Call)
  | folders => some do
    let _ ← r.actor
    return .createFolder (← r.decoded most NewFolder.decoder NewFolder.complaints)
  | users => some do
    let _ ← r.actor
    return .createUser (← r.decoded most NewUser.decoder NewUser.complaints)
  | roles => some do
    let _ ← r.actor
    return .createRole (← r.decoded most NewRole.lenientDecoder NewRole.complaints)
  | groups => some do
    let _ ← r.actor
    return .createGroup (← r.decoded most NewGroup.decoder NewGroup.complaints)
  | groupMembers id => some do
    let _ ← r.actor
    let id ← pathId id
    return .addMember id (← r.decoded most NewMember.decoder NewMember.complaints).user
  | assignments => some do
    let _ ← r.actor
    AssignmentForm.call (← r.decoded most AssignmentForm.decoder AssignmentForm.complaints)
  | _ => none

def Route.changing (r : Request) (most : Nat) : Route → Option (Reading Call)
  | folder id => some do
    let _ ← r.actor
    let id ← pathId id
    return .changeFolder id (← r.decoded most FolderChange.decoder FolderChange.complaints)
  | user id => some do
    let _ ← r.actor
    let id ← pathId id
    return .changeUser id (← r.decoded most UserChange.decoder UserChange.complaints)
  | _ => none

def Route.removing (r : Request) : Route → Option (Reading Call)
  | folder id => some do
    let _ ← r.actor
    return .discardFolder (← pathId id)
  | groupMember id member => some do
    let _ ← r.actor
    let id ← pathId id
    return .removeMember id (← pathId member)
  | assignment id => some do
    let _ ← r.actor
    return .revoke (← pathId id)
  | _ => none

/-- The call of a request on a route; `none` if the route does not know the method. -/
def Route.call? (route : Route) (r : Request) (most : Nat) : Option (Reading Call) :=
  match r.method with
  | "GET" | "HEAD" => route.reading r
  | "POST" => route.adding r most
  | "PATCH" => route.changing r most
  | "DELETE" => route.removing r
  | _ => none

end Perimeter.Web
