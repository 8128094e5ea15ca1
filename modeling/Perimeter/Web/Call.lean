import Perimeter.System.Access
import Perimeter.Web.Message
import Perimeter.Wire.Answers

/-!
# Calls

What requests ask for, once they are understood, and what the system answers. Only the calls
that change something can leave another system behind.
-/

namespace Perimeter.Web

/-- What a request asks for. -/
inductive Call where
  | listFolders (page : PageRequest)
  | createFolder (d : NewFolder)
  | folder (id : FolderId)
  | changeFolder (id : FolderId) (d : FolderChange)
  | discardFolder (id : FolderId)
  | children (id : FolderId)
  | descendants (id : FolderId)
  | ancestors (id : FolderId)
  | outline (id : FolderId) (depth : Option Nat)
  | breadcrumbs (id : FolderId)
  | listUsers (page : PageRequest)
  | createUser (d : NewUser)
  | user (id : UserId)
  | changeUser (id : UserId) (d : UserChange)
  | userGroups (id : UserId)
  | permission (id : UserId) (codename : String) (folder : Option FolderId)
  | listRoles
  | createRole (d : NewRole)
  | listGroups
  | createGroup (d : NewGroup)
  | groupMembers (id : GroupId)
  | addMember (group : GroupId) (user : UserId)
  | removeMember (group : GroupId) (user : UserId)
  | listAssignments (folder : Option FolderId)
  | assign (d : NewAssignment)
  | revoke (id : AssignmentId)
  | seats
  | editors
  | health

def version : String := "0.1.0"

/-- The state of a membership after a request. -/
def membershipJson (group : GroupId) (user : UserId) (member : Bool) : Json :=
  .object [("user_group_id", group.toJson), ("user_id", user.toJson), ("member", .bool member)]

def userGroupsJson (user : UserId) (groups : List GroupId) : Json :=
  .object [("user_id", user.toJson), ("user_groups", .list Id.toJson groups)]

/-- The report that the service is up. The time since its start is left to the server. -/
def healthJson (folders : Nat) : Json :=
  .object [("status", .string "ok"), ("version", .string version), ("uptime_seconds", .nat 0),
    ("folders", .nat folders)]

abbrev Answer := Nat × Json

/-- A page as an answer. Pages of a request hold an item at least, so that there is one. -/
def pageAnswer {α : Type} (item : α → Json) (page : Option (Page α)) : Except Fault Answer :=
  match page with
  | some p => .ok (200, p.toListing item)
  | none => .error (.plain .internal "Pages hold nothing")

/-- Whether a user holds a permission on a folder, or on which folders. -/
def permissionAnswer (s : System) (user : UserId) (codename : String) :
    Option FolderId → Except Fault PermissionAnswer
  | some folder => (s.hasPermission user codename folder).map fun allowed =>
    ⟨user, codename, some folder, some allowed, none⟩
  | none => (s.permittedFolders user codename).map fun folders =>
    ⟨user, codename, none, none, some folders.toList⟩

namespace Call

/-- Answers with the outcome of an operation. -/
def answering {α : Type} (status : Nat) (item : α → Json) (o : Outcome α) : Outcome Answer :=
  (o.1.map fun a => (status, item a), o.2)

/-- Answers with what was found, which leaves the system as it is. -/
def finding {α : Type} (s : System) (item : α → Json) (found : Except Fault α) :
    Outcome Answer :=
  (found.map fun a => (200, item a), s)

def perform (s : System) : Call → Outcome Answer
  | listFolders page => (pageAnswer Folder.toJson (s.listFolders page), s)
  | createFolder d => answering 201 Folder.toJson (s.createFolder d)
  | folder id => finding s Folder.toJson (s.hierarchy.require id)
  | changeFolder id d => answering 200 Folder.toJson (s.changeFolder id d)
  | discardFolder id => answering 200 Folder.toJson (s.discardFolder id)
  | children id => finding s (.list Folder.toJson) (s.hierarchy.children id)
  | descendants id => finding s (.list Folder.toJson) (s.hierarchy.descendantFolders id)
  | ancestors id => finding s (.list Folder.toJson) (s.hierarchy.ancestorFolders id)
  | outline id depth => finding s Outline.toJson (s.outline id depth)
  | breadcrumbs id => finding s (.list Folder.toJson) (s.hierarchy.breadcrumbs id)
  | listUsers page => (pageAnswer User.toProfile (s.listUsers page), s)
  | createUser d => answering 201 User.toProfile (s.createUser d)
  | user id => finding s User.toProfile (s.requireUser id)
  | changeUser id d =>
    match d.isActive with
    | some active => answering 200 User.toProfile (s.setUserActive id active)
    | none => finding s User.toProfile (s.requireUser id)
  | userGroups id => finding s (userGroupsJson id) (s.userGroups id)
  | permission id codename place =>
    finding s PermissionAnswer.toJson (permissionAnswer s id codename place)
  | listRoles => finding s (.list Role.toJson) (.ok s.registry.sortedRoles)
  | createRole d => answering 201 Role.toJson (s.createRole d)
  | listGroups => finding s (.list Group.toJson) (.ok s.registry.sortedGroups)
  | createGroup d => answering 201 Group.toJson (s.createGroup d)
  | groupMembers id => finding s (.list User.toProfile) (s.groupMembers id)
  | addMember group member =>
    answering 200 (fun m : Membership => membershipJson m.group m.user true)
      (s.addMember member group)
  | removeMember group member =>
    answering 200 (fun _ => membershipJson group member false) (s.removeMember member group)
  | listAssignments place =>
    finding s (.list Assignment.toJson) (.ok (s.registry.sortedAssignments place))
  | assign d => answering 201 Assignment.toJson (s.assignRole d)
  | revoke id => answering 200 Assignment.toJson (s.revokeAssignment id)
  | seats => finding s SeatStatus.toJson (.ok s.seatStatus)
  | editors => finding s (.list User.toProfile) (.ok s.editors)
  | health => finding s healthJson (.ok s.hierarchy.size)

end Call

end Perimeter.Web
