import Perimeter.Assignment
import Perimeter.Folder
import Perimeter.Group
import Perimeter.Role
import Perimeter.Sql.Relation
import Perimeter.User

/-!
# The tables of the database

The six relations that rows are kept in, with the constraints whose violation has a fault of its
own.
-/

namespace Perimeter.Sql.Relation

/-! ## Columns -/

/-- A column that has a value in every row. -/
def filled (name : String) (type : ColumnType) : Column := ⟨name, type, false⟩

def nullable (name : String) (type : ColumnType) : Column := ⟨name, type, true⟩

def createdAt : Column := filled "created_at" .time

def onViolation (name : String) (fault : Fault) (f : Failure) : Option Fault :=
  if f.violates name then some fault else none

def onCode (code : String) (fault : Fault) (f : Failure) : Option Fault :=
  if f.hasCode code then some fault else none

/-! ## Relations -/

/-- Only one folder may be the root, and folders that are referred to stay. -/
def folders : Relation Folder FolderId where
  table := "folders"
  columns := [filled "id" .id, filled "name" (.text (some 200)),
    nullable "description" (.text none), nullable "parent_id" .id, filled "is_root" .bool,
    filled "builtin" .bool, createdAt, filled "updated_at" .time]
  keyColumns := ["id"]
  changeable := ["name", "description", "parent_id", "updated_at"]
  singular := "folder"
  plural := "folders"
  key := Folder.id
  keyData id := [.ofId id]
  toData f := [.ofId f.id, .text f.name, .ofText? f.description, .ofId? f.parent,
    .bool f.isRoot, .bool f.builtin, .ofTime f.createdAt, .ofTime f.updatedAt]
  ofData?
    | [.id id, .text name, description, parent, .bool isRoot, .bool builtin, .time created,
        .time updated] => do
      return ⟨⟨id⟩, name, ← description.text?, ← parent.id?, isRoot, builtin, created, updated⟩
    | _ => none
  absent := .folderMissing
  creationFault? _ := onViolation "folders_single_root" .rootTaken
  deletionFault? id := onCode Failure.brokenReference (.folderReferenced id)

/-- E-mails are unique. -/
def users : Relation User UserId where
  table := "users"
  columns := [filled "id" .id, filled "email" (.text (some 254)),
    nullable "first_name" (.text (some 150)), nullable "last_name" (.text (some 150)),
    filled "is_active" .bool, createdAt, filled "updated_at" .time]
  keyColumns := ["id"]
  changeable := ["first_name", "last_name", "is_active", "updated_at"]
  singular := "user"
  plural := "users"
  key := User.id
  keyData id := [.ofId id]
  toData u := [.ofId u.id, .text u.email, .ofText? u.firstName, .ofText? u.lastName,
    .bool u.isActive, .ofTime u.createdAt, .ofTime u.updatedAt]
  ofData?
    | [.id id, .text email, firstName, lastName, .bool isActive, .time created,
        .time updated] => do
      return ⟨⟨id⟩, email, ← firstName.text?, ← lastName.text?, isActive, created, updated⟩
    | _ => none
  absent := .userMissing
  creationFault? u := onViolation "users_email_key" (.addressTaken u.email)
  deletionFault? _ _ := none

/-- Role names are unique. -/
def roles : Relation Role RoleId where
  table := "roles"
  columns := [filled "id" .id, filled "name" (.text (some 200)),
    nullable "description" (.text none), filled "permissions" .texts, filled "builtin" .bool,
    createdAt]
  keyColumns := ["id"]
  changeable := ["name", "description", "permissions"]
  singular := "role"
  plural := "roles"
  key := Role.id
  keyData id := [.ofId id]
  toData r := [.ofId r.id, .text r.name, .ofText? r.description, .texts r.permissions,
    .bool r.builtin, .ofTime r.createdAt]
  ofData?
    | [.id id, .text name, description, .texts permissions, .bool builtin, .time created] => do
      return ⟨⟨id⟩, name, ← description.text?, permissions, builtin, created⟩
    | _ => none
  absent := .roleMissing
  creationFault? r := onViolation "roles_name_key" (.roleNameTaken r.name)
  deletionFault? _ _ := none

/-- Groups have no constraint of their own. -/
def groups : Relation Group GroupId where
  table := "user_groups"
  columns := [filled "id" .id, filled "name" (.text (some 200)), filled "folder_id" .id,
    filled "builtin" .bool, createdAt]
  keyColumns := ["id"]
  changeable := ["name", "folder_id"]
  singular := "user group"
  plural := "user groups"
  key := Group.id
  keyData id := [.ofId id]
  toData g := [.ofId g.id, .text g.name, .ofId g.folder, .bool g.builtin, .ofTime g.createdAt]
  ofData?
    | [.id id, .text name, .id folder, .bool builtin, .time created] =>
      some ⟨⟨id⟩, name, ⟨folder⟩, builtin, created⟩
    | _ => none
  absent := .groupMissing
  creationFault? _ _ := none
  deletionFault? _ _ := none

/-- A membership is its key and never changes. -/
def memberships : Relation Membership MemberKey where
  table := "group_memberships"
  columns := [filled "user_id" .id, filled "user_group_id" .id, createdAt]
  keyColumns := ["user_id", "user_group_id"]
  changeable := []
  singular := "membership"
  plural := "memberships"
  key := Membership.key
  keyData k := [.ofId k.user, .ofId k.group]
  toData m := [.ofId m.user, .ofId m.group, .ofTime m.createdAt]
  ofData?
    | [.id user, .id group, .time created] => some ⟨⟨user⟩, ⟨group⟩, created⟩
    | _ => none
  absent _ := .membershipMissing
  creationFault? _ := onCode Failure.repeatedValue .memberTaken
  deletionFault? _ _ := none

/-- The principal of an assignment never changes. -/
def assignments : Relation Assignment AssignmentId where
  table := "role_assignments"
  columns := [filled "id" .id, filled "role_id" .id, nullable "user_id" .id,
    nullable "user_group_id" .id, filled "folder_id" .id, filled "is_recursive" .bool, createdAt]
  keyColumns := ["id"]
  changeable := ["role_id", "folder_id", "is_recursive"]
  singular := "role assignment"
  plural := "role assignments"
  key := Assignment.id
  keyData id := [.ofId id]
  toData a := [.ofId a.id, .ofId a.role, .ofId? a.user, .ofId? a.group, .ofId a.folder,
    .bool a.recursive, .ofTime a.createdAt]
  ofData?
    | [.id id, .id role, user, group, .id folder, .bool recursive, .time created] => do
      return ⟨⟨id⟩, ⟨role⟩, ← user.id?, ← group.id?, ⟨folder⟩, recursive, created⟩
    | _ => none
  absent := .assignmentMissing
  creationFault? _ _ := none
  deletionFault? _ _ := none

end Perimeter.Sql.Relation
