import Perimeter.Fault
import Perimeter.Outline
import Perimeter.Seats
import Perimeter.Wire.Requests

/-!
# Answers as JSON

What callers are sent beside rows: pages, outlines, seats and permission checks.
-/

namespace Perimeter

open Json.Decoder Fields

/-! ## Pages -/

/-- A page with all that is known about its place. -/
def Page.toJson {α : Type} (item : α → Json) (p : Page α) : Json :=
  .object [("items", .list item p.items), ("page", .nat p.page), ("page_size", .nat p.size),
    ("total_items", .nat p.totalItems), ("total_pages", .nat p.totalPages),
    ("has_next", .bool p.hasNext), ("has_previous", .bool p.hasPrevious)]

/-- A page as the web interface lists it. -/
def Page.toListing {α : Type} (item : α → Json) (p : Page α) : Json :=
  .object [("items", .list item p.items), ("total", .nat p.totalItems), ("page", .nat p.page),
    ("per_page", .nat p.size), ("total_pages", .nat p.totalPages)]

/-! ## Outlines -/

namespace Outline

mutual

def toJson : Outline → Json
  | ⟨id, name, depth, childCount, children⟩ =>
    .object [("id", id.toJson), ("name", .string name), ("depth", .nat depth),
      ("child_count", .nat childCount), ("children", .array (listToJson children))]

def listToJson : List Outline → List Json
  | [] => []
  | o :: os => o.toJson :: listToJson os

end

/-- An outline with at most so many levels of children. -/
def decoderWithin : Nat → Json.Decoder Outline
  | 0 => fun _ _ => .error .malformed
  | n + 1 =>
    record (Outline.mk <$> required "id" Id.decoder <*> required "name" string
      <*> required "depth" (nat maxWord32) <*> required "child_count" (nat maxWord64)
      <*> required "children" (list (decoderWithin n)))

/-- An outline. Each level of children lies in two containers, so that no more than the deepest
nesting can occur. -/
def decoder : Json.Decoder Outline := decoderWithin Json.deepest

end Outline

/-! ## Seats -/

namespace SeatStatus

def toJson (s : SeatStatus) : Json :=
  .object [("enforced", .bool s.enforced), ("total_seats", .nat s.total),
    ("used_seats", .nat s.used), ("available_seats", .nat s.available)]

def decoder : Json.Decoder SeatStatus :=
  record (SeatStatus.mk <$> required "enforced" bool <*> required "total_seats" (nat maxWord32)
    <*> required "used_seats" (nat maxWord32) <*> required "available_seats" (nat maxWord32))

end SeatStatus

/-! ## Faults -/

namespace FaultKind

def toJson (k : FaultKind) : Json := .string k.name

def decoder : Json.Decoder FaultKind := choice (all.map fun k => (k.name, k))

end FaultKind

/-! ## The web interface -/

/-- A user as the web interface shows it. -/
def User.toProfile (u : User) : Json :=
  .object [("id", u.id.toJson), ("email", .string u.email), ("first_name", .optString u.firstName),
    ("last_name", .optString u.lastName), ("display_name", .string u.displayName),
    ("is_active", .bool u.isActive), ("created_at", u.createdAt.toJson)]

/-- The answer to a question about permissions: whether one folder is covered, or which are. -/
structure PermissionAnswer where
  user : UserId
  permission : String
  folder : Option FolderId
  allowed : Option Bool
  folders : Option (List FolderId)
deriving DecidableEq

namespace PermissionAnswer

/-- Absent values are left out. -/
def toJson (a : PermissionAnswer) : Json :=
  let field (name : String) (value : Option Json) : List (String × Json) :=
    (value.map fun j => (name, j)).toList
  .object ([("user_id", a.user.toJson), ("permission", .string a.permission)]
    ++ field "folder" (a.folder.map Id.toJson) ++ field "allowed" (a.allowed.map .bool)
    ++ field "folders" (a.folders.map (.list Id.toJson)))

def decoder : Json.Decoder PermissionAnswer :=
  record (PermissionAnswer.mk <$> required "user_id" Id.decoder <*> required "permission" string
    <*> optional "folder" Id.decoder <*> optional "allowed" bool
    <*> optional "folders" (list Id.decoder))

end PermissionAnswer

/-- Who asks, when, and under which number the request is logged. -/
structure RequestContext where
  requestId : String
  actor : Option UserId
  time : Instant
deriving DecidableEq

namespace RequestContext

def toJson (c : RequestContext) : Json :=
  .object [("request_id", .string c.requestId), ("actor", .optId c.actor),
    ("request_time", c.time.toJson)]

def decoder : Json.Decoder RequestContext :=
  record (RequestContext.mk <$> required "request_id" string <*> optional "actor" Id.decoder
    <*> required "request_time" Instant.decoder)

end RequestContext

end Perimeter
