import Perimeter.System.Folders

/-!
# Access operations

Users, roles, groups and assignments. A grant that would make new editors is checked against
the seats of the license before it is written.
-/

namespace Perimeter.System

/-! ## Users -/

/-- The user of an id, who has to exist. -/
def requireUser (s : System) (id : UserId) : Except Fault User :=
  match s.registry.users[id]? with
  | some u => .ok u
  | none => .error (.userMissing id)

/-- Creates a user. The e-mail is trimmed and put in lower case, and has to be new. -/
def createUser (s : System) (d : NewUser) : Outcome User :=
  let email := Text.lower (Text.trim d.email)
  if email.isEmpty ∨ ¬ email.contains '@' then (.error (.emailInvalid email), s)
  else if s.registry.emailTaken email then (.error (.emailTaken email), s)
  else
    let d : NewUser :=
      ⟨email, d.firstName.bind Text.nonBlank?, d.lastName.bind Text.nonBlank?⟩
    s.commit (Storage.create .users fun bits now => .ofNew d ⟨bits⟩ now)
      fun s u => { s with registry := { s.registry with users := s.registry.users.insert u.id u } }

/-- Activates or deactivates a user. Where nothing changes, nothing is written. -/
def setUserActive (s : System) (id : UserId) (active : Bool) : Outcome User :=
  s.check (s.requireUser id) fun u =>
  if u.isActive = active then (.ok u, s)
  else
    s.commit (Storage.update .users fun now => { u with isActive := active, updatedAt := now })
      fun s u => { s with registry := { s.registry with users := s.registry.users.insert id u } }

/-- One page of all users, in the order of their creation. -/
def listUsers (s : System) (r : PageRequest) : Option (Page User) :=
  Page.ofList? s.registry.sortedUsers r

def userGroups (s : System) (id : UserId) : Except Fault (List GroupId) := do
  let _ ← s.requireUser id
  return (s.registry.groupsOf id).toList

/-! ## Roles -/

/-- Creates a role with a new name and well-formed permissions. -/
def createRole (s : System) (d : NewRole) : Outcome Role :=
  let name := Text.trim d.name
  if name.isEmpty then (.error .roleNameEmpty, s)
  else
    match d.permissions.find? fun p => !Codename.isValid p with
    | some bad => (.error (.codenameInvalid bad), s)
    | none =>
      if s.registry.roleNameTaken name then (.error (.roleNameTaken name), s)
      else
        s.commit (Storage.create .roles fun bits now => .ofNew { d with name } ⟨bits⟩ now)
          fun s r =>
            { s with registry := { s.registry with roles := s.registry.roles.insert r.id r } }

/-! ## Groups -/

def requireFolder (s : System) (id : FolderId) : Except Fault Unit :=
  if s.hierarchy.contains id then .ok () else .error (.folderMissing id)

def requireGroup (s : System) (id : GroupId) : Except Fault Unit :=
  if s.registry.groups.contains id then .ok () else .error (.groupMissing id)

def createGroup (s : System) (d : NewGroup) : Outcome Group :=
  let name := Text.trim d.name
  if name.isEmpty then (.error .groupNameEmpty, s)
  else
    s.check (s.requireFolder d.folder) fun _ =>
    s.commit (Storage.create .groups fun bits now => .ofNew { d with name } ⟨bits⟩ now)
      fun s g =>
        { s with registry := { s.registry with groups := s.registry.groups.insert g.id g } }

/-- The members of a group that has to exist, by id. -/
def groupMembers (s : System) (group : GroupId) : Except Fault (List User) := do
  s.requireGroup group
  return s.registry.usersOf (s.registry.membersOf group)

/-- Admits a user to a group that makes editors, if a seat is free or none is needed. -/
def admitMember (s : System) (user : UserId) (group : GroupId) : Except Fault Unit :=
  if s.registry.groupMakesEditors s.terms.license group then
    let editors := s.registry.editors s.terms.license
    s.terms.license.checkSeats editors.size (if editors.contains user then 0 else 1)
  else .ok ()

/-- Adds a user to a group. Adding a member again changes nothing and needs no seat. -/
def addMember (s : System) (user : UserId) (group : GroupId) : Outcome Membership :=
  s.check (s.requireUser user) fun _ =>
  s.check (s.requireGroup group) fun _ =>
  match s.registry.memberships[(⟨user, group⟩ : MemberKey)]? with
  | some m => (.ok m, s)
  | none =>
    s.check (s.admitMember user group) fun _ =>
    s.commit (Storage.createTimed .memberships fun now => .ofKey ⟨user, group⟩ now)
      fun s m =>
        { s with registry :=
          { s.registry with memberships := s.registry.memberships.insert m.key m } }

/-- Removes a user from a group, and says whether the user was a member. -/
def removeMember (s : System) (user : UserId) (group : GroupId) : Outcome Bool :=
  s.check (s.requireGroup group) fun _ =>
  if s.registry.isMember user group then
    match s.commit (Storage.delete .memberships ⟨user, group⟩)
        fun s _ => { s with registry :=
          { s.registry with memberships := s.registry.memberships.erase ⟨user, group⟩ } } with
    | (.error e, s) => (.error e, s)
    | (.ok _, s) => (.ok true, s)
  else (.ok false, s)

/-! ## Assignments -/

def requireRole (s : System) (id : RoleId) : Except Fault Role :=
  match s.registry.roles[id]? with
  | some r => .ok r
  | none => .error (.roleMissing id)

def requirePrincipal (s : System) (p : Principal) : Except Fault Unit :=
  if s.registry.hasPrincipal p then .ok () else .error (.principalMissing p)

/-- How many users a principal reaches who are no editors yet. -/
def newEditors (s : System) (p : Principal) : Nat :=
  let editors := s.registry.editors s.terms.license
  (s.registry.principalUsers p).toList.countP fun u => !editors.contains u

/-- Admits a grant of a role to a principal, if there are seats for the editors it makes. -/
def admitGrant (s : System) (role : Role) (p : Principal) : Except Fault Unit :=
  if s.terms.license.grantsEdit role then
    s.terms.license.checkSeats (s.registry.editors s.terms.license).size (s.newEditors p)
  else .ok ()

def assignRole (s : System) (d : NewAssignment) : Outcome Assignment :=
  s.check (s.requireRole d.role) fun role =>
  s.check (s.requirePrincipal d.principal) fun _ =>
  s.check (s.requireFolder d.folder) fun _ =>
  s.check (s.admitGrant role d.principal) fun _ =>
  s.commit (Storage.create .assignments fun bits now => .ofNew d ⟨bits⟩ now)
    fun s a =>
      { s with registry :=
        { s.registry with assignments := s.registry.assignments.insert a.id a } }

def requireAssignment (s : System) (id : AssignmentId) : Except Fault Assignment :=
  match s.registry.assignments[id]? with
  | some a => .ok a
  | none => .error (.assignmentMissing id)

/-- Takes an assignment back. It is looked for before the write and again after it. -/
def revokeAssignment (s : System) (id : AssignmentId) : Outcome Assignment :=
  s.check (s.requireAssignment id) fun _ =>
  match s.commit (Storage.delete .assignments id) fun s _ => s with
  | (.error e, s) => (.error e, s)
  | (.ok _, s) =>
    s.check (s.requireAssignment id) fun a =>
      (.ok a, { s with registry :=
        { s.registry with assignments := s.registry.assignments.erase id } })

/-! ## Seats and permissions -/

/-- The stored users among the editors, by id. -/
def editors (s : System) : List User :=
  s.registry.usersOf (s.registry.editors s.terms.license)

def seatStatus (s : System) : SeatStatus :=
  s.terms.license.status (s.registry.editors s.terms.license).size

/-- Whether a user who has to exist holds a permission on a folder. -/
def hasPermission (s : System) (user : UserId) (codename : String) (folder : FolderId) :
    Except Fault Bool := do
  let _ ← s.requireUser user
  Grant.allow s.hierarchy (s.registry.grantsOf user) codename folder

/-- The folders on which a user who has to exist holds a permission. -/
def permittedFolders (s : System) (user : UserId) (codename : String) :
    Except Fault (IdSet .folder) := do
  let _ ← s.requireUser user
  Grant.permitted s.hierarchy (s.registry.grantsOf user) codename

end Perimeter.System
