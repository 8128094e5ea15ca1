import Perimeter.Id
import Perimeter.Instant

/-!
# Role assignments

An assignment gives a role to a user or a group on a folder, and below it if it is recursive.
-/

namespace Perimeter

/-- Who a role is given to. -/
inductive Principal where
  | user (id : UserId)
  | group (id : GroupId)
deriving DecidableEq

/-- A principal as diagnostics write it. -/
def Principal.debug : Principal → String
  | .user id => s!"User({id.debug})"
  | .group id => s!"Group({id.debug})"

/-- A role given on a folder. Stored rows may have both principals set, or neither. -/
structure Assignment where
  id : AssignmentId
  role : RoleId
  user : Option UserId
  group : Option GroupId
  folder : FolderId
  recursive : Bool
  createdAt : Instant
deriving DecidableEq

structure NewAssignment where
  role : RoleId
  principal : Principal
  folder : FolderId
  recursive : Bool
deriving DecidableEq

namespace Assignment

/-- The principal of an assignment; `none` unless exactly one of the two ids is set. -/
def principal? (a : Assignment) : Option Principal :=
  match a.user, a.group with
  | some u, none => some (.user u)
  | none, some g => some (.group g)
  | _, _ => none

def ofNew (d : NewAssignment) (id : AssignmentId) (now : Instant) : Assignment :=
  { id, role := d.role,
    user := match d.principal with
      | .user u => some u
      | .group _ => none,
    group := match d.principal with
      | .user _ => none
      | .group g => some g,
    folder := d.folder, recursive := d.recursive, createdAt := now }

/-- Assignments are listed in the order of their creation, and by id where times agree. -/
def compareByAge (a b : Assignment) : Ordering :=
  (compare a.createdAt b.createdAt).then (compare a.id b.id)

def sortByAge (as : List Assignment) : List Assignment :=
  as.mergeSort fun a b => (compareByAge a b).isLE

end Assignment

end Perimeter
