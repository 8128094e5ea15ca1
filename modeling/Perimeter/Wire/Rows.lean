import Perimeter.Assignment
import Perimeter.Folder
import Perimeter.Group
import Perimeter.Json.Decode
import Perimeter.Role
import Perimeter.User

/-!
# Rows as JSON

How stored rows are written and read: the names of their fields and the forms of ids and times.
Absent values are written as `null`.
-/

namespace Perimeter

open Json.Decoder

/-! ## Ids and times -/

def Id.toJson {κ : Kind} (i : Id κ) : Json := .string i.text

/-- An id in any of the accepted forms. -/
def Id.decoder {κ : Kind} : Json.Decoder (Id κ) := Json.Decoder.text Id.parse?

def Instant.toJson (t : Instant) : Json := .string t.text

def Instant.decoder : Json.Decoder Instant := Json.Decoder.text Instant.parse?

namespace Json

def optString : Option String → Json := option string

def optId {κ : Kind} : Option (Id κ) → Json := option Id.toJson

end Json

open Fields

/-! ## Folders -/

namespace Folder

def toJson (f : Folder) : Json :=
  .object [("id", f.id.toJson), ("name", .string f.name), ("description", .optString f.description),
    ("parent_id", .optId f.parent), ("is_root", .bool f.isRoot), ("builtin", .bool f.builtin),
    ("created_at", f.createdAt.toJson), ("updated_at", f.updatedAt.toJson)]

def decoder : Json.Decoder Folder :=
  record (Folder.mk <$> required "id" Id.decoder <*> required "name" string
    <*> optional "description" string <*> optional "parent_id" Id.decoder
    <*> required "is_root" bool <*> required "builtin" bool
    <*> required "created_at" Instant.decoder <*> required "updated_at" Instant.decoder)

end Folder

/-! ## Users -/

namespace User

def toJson (u : User) : Json :=
  .object [("id", u.id.toJson), ("email", .string u.email), ("first_name", .optString u.firstName),
    ("last_name", .optString u.lastName), ("is_active", .bool u.isActive),
    ("created_at", u.createdAt.toJson), ("updated_at", u.updatedAt.toJson)]

def decoder : Json.Decoder User :=
  record (User.mk <$> required "id" Id.decoder <*> required "email" string
    <*> optional "first_name" string <*> optional "last_name" string
    <*> required "is_active" bool <*> required "created_at" Instant.decoder
    <*> required "updated_at" Instant.decoder)

end User

/-! ## Roles -/

namespace Role

def toJson (r : Role) : Json :=
  .object [("id", r.id.toJson), ("name", .string r.name), ("description", .optString r.description),
    ("permissions", .list .string r.permissions), ("builtin", .bool r.builtin),
    ("created_at", r.createdAt.toJson)]

def decoder : Json.Decoder Role :=
  record (Role.mk <$> required "id" Id.decoder <*> required "name" string
    <*> optional "description" string <*> required "permissions" (list string)
    <*> required "builtin" bool <*> required "created_at" Instant.decoder)

end Role

/-! ## Groups and memberships -/

namespace Group

def toJson (g : Group) : Json :=
  .object [("id", g.id.toJson), ("name", .string g.name), ("folder_id", g.folder.toJson),
    ("builtin", .bool g.builtin), ("created_at", g.createdAt.toJson)]

def decoder : Json.Decoder Group :=
  record (Group.mk <$> required "id" Id.decoder <*> required "name" string
    <*> required "folder_id" Id.decoder <*> required "builtin" bool
    <*> required "created_at" Instant.decoder)

end Group

namespace Membership

def toJson (m : Membership) : Json :=
  .object [("user_id", m.user.toJson), ("user_group_id", m.group.toJson),
    ("created_at", m.createdAt.toJson)]

def decoder : Json.Decoder Membership :=
  record (Membership.mk <$> required "user_id" Id.decoder
    <*> required "user_group_id" Id.decoder <*> required "created_at" Instant.decoder)

end Membership

/-! ## Assignments -/

namespace Principal

def toJson : Principal → Json
  | user id => .object [("type", .string "user"), ("id", id.toJson)]
  | group id => .object [("type", .string "group"), ("id", id.toJson)]

/-- The principal of a kind and the number of an id. -/
def build (isUser : Bool) (id : BitVec 128) : Principal :=
  if isUser then user ⟨id⟩ else group ⟨id⟩

/-- A kind and an id, in either order. -/
def decoder : Json.Decoder Principal :=
  record (build <$> required "type" (choice [("user", true), ("group", false)])
    <*> required "id" (map Id.bits (Id.decoder (κ := .user))))

end Principal

namespace Assignment

def toJson (a : Assignment) : Json :=
  .object [("id", a.id.toJson), ("role_id", a.role.toJson), ("user_id", .optId a.user),
    ("user_group_id", .optId a.group), ("folder_id", a.folder.toJson),
    ("is_recursive", .bool a.recursive), ("created_at", a.createdAt.toJson)]

def decoder : Json.Decoder Assignment :=
  record (Assignment.mk <$> required "id" Id.decoder <*> required "role_id" Id.decoder
    <*> optional "user_id" Id.decoder <*> optional "user_group_id" Id.decoder
    <*> required "folder_id" Id.decoder <*> required "is_recursive" bool
    <*> required "created_at" Instant.decoder)

end Assignment

end Perimeter
