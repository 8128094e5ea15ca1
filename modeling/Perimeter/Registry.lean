import Perimeter.Folder
import Perimeter.Grant
import Perimeter.Group
import Perimeter.Seats
import Perimeter.Text.Case
import Perimeter.User

/-!
# The registry

Users, roles, groups, memberships and assignments by id, and what follows from them: who
belongs to which group, which grants reach a user, and who is an editor. None of this is
stored; it is read off the rows each time.
-/

namespace Perimeter

/-- The rows that say who may do what. -/
structure Registry where
  users : IdMap .user User
  roles : IdMap .role Role
  groups : IdMap .userGroup Group
  memberships : Std.ExtTreeMap MemberKey Membership
  assignments : IdMap .roleAssignment Assignment

namespace Registry

def empty : Registry := ⟨∅, ∅, ∅, ∅, ∅⟩

/-- The registry of stored rows; of rows with one id the last counts. -/
def ofRows (users : List User) (roles : List Role) (groups : List Group)
    (memberships : List Membership) (assignments : List Assignment) : Registry where
  users := users.foldl (fun m u => m.insert u.id u) ∅
  roles := roles.foldl (fun m r => m.insert r.id r) ∅
  groups := groups.foldl (fun m g => m.insert g.id g) ∅
  memberships := memberships.foldl (fun m x => m.insert x.key x) ∅
  assignments := assignments.foldl (fun m a => m.insert a.id a) ∅

/-! ## Groups -/

def membersOf (r : Registry) (group : GroupId) : IdSet .user :=
  Std.ExtTreeSet.ofList
    (r.memberships.keys.filterMap fun k => if k.group = group then some k.user else none) compare

def groupsOf (r : Registry) (user : UserId) : IdSet .userGroup :=
  Std.ExtTreeSet.ofList
    (r.memberships.keys.filterMap fun k => if k.user = user then some k.group else none) compare

def isMember (r : Registry) (user : UserId) (group : GroupId) : Bool :=
  r.memberships.contains ⟨user, group⟩

/-! ## Principals -/

/-- The users that an assignment to a principal reaches. -/
def principalUsers (r : Registry) : Principal → IdSet .user
  | .user u => (∅ : IdSet .user).insert u
  | .group g => r.membersOf g

def hasPrincipal (r : Registry) : Principal → Bool
  | .user u => r.users.contains u
  | .group g => r.groups.contains g

/-- Whether an assignment reaches a user who belongs to the given groups, directly or through
one of them. -/
def reaches (user : UserId) (groups : IdSet .userGroup) (a : Assignment) : Bool :=
  match a.principal? with
  | some (.user u) => u = user
  | some (.group g) => groups.contains g
  | none => false

def assignmentsOf (r : Registry) (user : UserId) : List Assignment :=
  r.assignments.values.filter (reaches user (r.groupsOf user))

/-! ## Editors -/

/-- Whether an assignment gives a stored role that makes editors. -/
def makesEditors (r : Registry) (l : License) (a : Assignment) : Bool :=
  match r.roles[a.role]? with
  | some role => l.grantsEdit role
  | none => false

/-- The users reached by one assignment, if it makes editors. -/
def editorsBy (r : Registry) (l : License) (a : Assignment) : List UserId :=
  if r.makesEditors l a then
    match a.principal? with
    | some p => (r.principalUsers p).toList
    | none => []
  else []

/-- Every user with a permission that makes an editor. Inactive users count: they keep their
seats until their grants are revoked. -/
def editors (r : Registry) (l : License) : IdSet .user :=
  Std.ExtTreeSet.ofList (r.assignments.values.flatMap (r.editorsBy l)) compare

/-- Whether some assignment names a group and makes editors. -/
def groupMakesEditors (r : Registry) (l : License) (group : GroupId) : Bool :=
  r.assignments.values.any fun a => a.group = some group && r.makesEditors l a

/-! ## Grants -/

/-- The grant that an assignment comes to, if its role is stored. -/
def grantOf? (r : Registry) (a : Assignment) : Option Grant :=
  (r.roles[a.role]?).map fun role => ⟨a.folder, a.recursive, role.permissions⟩

/-- The grants that reach a user; inactive and unknown users have none. -/
def grantsOf (r : Registry) (user : UserId) : List Grant :=
  match r.users[user]? with
  | some u => if u.isActive then (r.assignmentsOf user).filterMap r.grantOf? else []
  | none => []

/-! ## Uniqueness and references -/

/-- The number of groups and assignments on a folder. -/
def references (r : Registry) (folder : FolderId) : Nat :=
  r.groups.values.countP (·.folder = folder) + r.assignments.values.countP (·.folder = folder)

/-- Whether an e-mail is taken, up to the case of ASCII letters. -/
def emailTaken (r : Registry) (email : String) : Bool :=
  r.users.values.any fun u => Text.sameIgnoringAsciiCase u.email email

def roleNameTaken (r : Registry) (name : String) : Bool :=
  r.roles.values.any (·.name = name)

/-! ## Listings -/

/-- Every user, in the order of their creation. -/
def sortedUsers (r : Registry) : List User := User.sortByAge r.users.values

def sortedRoles (r : Registry) : List Role := Role.sortByName r.roles.values

def sortedGroups (r : Registry) : List Group := Group.sortByName r.groups.values

/-- The assignments, in the order of their creation; only those on `folder` where one is given. -/
def sortedAssignments (r : Registry) (folder : Option FolderId) : List Assignment :=
  Assignment.sortByAge (r.assignments.values.filter fun a => folder.all (a.folder = ·))

/-- The stored users of a set of ids, by id. -/
def usersOf (r : Registry) (ids : IdSet .user) : List User :=
  ids.toList.filterMap fun id => r.users[id]?

end Registry

end Perimeter
