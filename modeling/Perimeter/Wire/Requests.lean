import Perimeter.Page
import Perimeter.Wire.Rows

/-!
# Requests as JSON

What callers send to create and change rows.
-/

namespace Perimeter

open Json.Decoder Fields

namespace NewFolder

def toJson (d : NewFolder) : Json :=
  .object [("name", .string d.name), ("description", .optString d.description),
    ("parent_id", .optId d.parent)]

def decoder : Json.Decoder NewFolder :=
  record (NewFolder.mk <$> required "name" string <*> optional "description" string
    <*> optional "parent_id" Id.decoder)

end NewFolder

namespace FolderChange

def toJson (d : FolderChange) : Json :=
  .object [("name", .optString d.name), ("description", .optString d.description),
    ("parent_id", .optId d.parent)]

def decoder : Json.Decoder FolderChange :=
  record (FolderChange.mk <$> optional "name" string <*> optional "description" string
    <*> optional "parent_id" Id.decoder)

end FolderChange

namespace NewUser

def toJson (d : NewUser) : Json :=
  .object [("email", .string d.email), ("first_name", .optString d.firstName),
    ("last_name", .optString d.lastName)]

def decoder : Json.Decoder NewUser :=
  record (NewUser.mk <$> required "email" string <*> optional "first_name" string
    <*> optional "last_name" string)

end NewUser

namespace NewRole

def toJson (d : NewRole) : Json :=
  .object [("name", .string d.name), ("description", .optString d.description),
    ("permissions", .list .string d.permissions)]

def decoder : Json.Decoder NewRole :=
  record (NewRole.mk <$> required "name" string <*> optional "description" string
    <*> required "permissions" (list string))

/-- A role whose permissions may be left out, for none. -/
def lenientDecoder : Json.Decoder NewRole :=
  record (NewRole.mk <$> required "name" string <*> optional "description" string
    <*> defaulted "permissions" (list string) [])

end NewRole

namespace NewGroup

def toJson (d : NewGroup) : Json :=
  .object [("name", .string d.name), ("folder_id", d.folder.toJson)]

def decoder : Json.Decoder NewGroup :=
  record (NewGroup.mk <$> required "name" string <*> required "folder_id" Id.decoder)

end NewGroup

namespace NewAssignment

def toJson (d : NewAssignment) : Json :=
  .object [("role_id", d.role.toJson), ("principal", d.principal.toJson),
    ("folder_id", d.folder.toJson), ("is_recursive", .bool d.recursive)]

def decoder : Json.Decoder NewAssignment :=
  record (NewAssignment.mk <$> required "role_id" Id.decoder
    <*> required "principal" Principal.decoder <*> required "folder_id" Id.decoder
    <*> required "is_recursive" bool)

end NewAssignment

/-! ## Requests of the web interface only -/

/-- A change of a user: what is absent stays as it is. -/
structure UserChange where
  isActive : Option Bool
deriving DecidableEq

namespace UserChange

def toJson (d : UserChange) : Json := .object [("is_active", .option .bool d.isActive)]

def decoder : Json.Decoder UserChange :=
  record (UserChange.mk <$> optional "is_active" bool)

end UserChange

/-- The user whom a request adds to a group. -/
structure NewMember where
  user : UserId
deriving DecidableEq

namespace NewMember

def toJson (d : NewMember) : Json := .object [("user_id", d.user.toJson)]

def decoder : Json.Decoder NewMember := record (NewMember.mk <$> required "user_id" Id.decoder)

end NewMember

/-- An assignment as a request gives it, with a place for either kind of principal. -/
structure AssignmentForm where
  role : RoleId
  user : Option UserId
  group : Option GroupId
  folder : FolderId
  recursive : Bool
deriving DecidableEq

namespace AssignmentForm

def toJson (d : AssignmentForm) : Json :=
  .object [("role_id", d.role.toJson), ("user_id", .optId d.user),
    ("user_group_id", .optId d.group), ("folder_id", d.folder.toJson),
    ("is_recursive", .bool d.recursive)]

def decoder : Json.Decoder AssignmentForm :=
  record (AssignmentForm.mk <$> required "role_id" Id.decoder <*> optional "user_id" Id.decoder
    <*> optional "user_group_id" Id.decoder <*> required "folder_id" Id.decoder
    <*> defaulted "is_recursive" bool false)

def principal? (d : AssignmentForm) : Option Principal :=
  match d.user, d.group with
  | some u, none => some (.user u)
  | none, some g => some (.group g)
  | _, _ => none

end AssignmentForm

/-! ## Pages -/

namespace PageRequest

def toJson (r : PageRequest) : Json := .object [("page", .nat r.page), ("page_size", .nat r.size)]

/-- A request with its numbers as they are. -/
def decoder : Json.Decoder PageRequest :=
  record (PageRequest.mk <$> defaulted "page" (nat maxWord64) first.page
    <*> defaulted "page_size" (nat maxWord64) defaultSize)

/-- A request of the web interface, whose numbers are brought into range. -/
def clampedDecoder : Json.Decoder PageRequest :=
  record (clamped <$> defaulted "page" (nat maxWord64) first.page
    <*> defaulted "per_page" (nat maxWord64) defaultSize)

end PageRequest

end Perimeter
