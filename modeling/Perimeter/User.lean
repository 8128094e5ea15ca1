import Perimeter.Id
import Perimeter.Instant

/-!
# Users
-/

namespace Perimeter

/-- A person known by e-mail address. Users are deactivated, never deleted. -/
structure User where
  id : UserId
  email : String
  firstName : Option String
  lastName : Option String
  isActive : Bool
  createdAt : Instant
  updatedAt : Instant
deriving DecidableEq

structure NewUser where
  email : String
  firstName : Option String
  lastName : Option String
deriving DecidableEq

namespace User

/-- An active user. -/
def ofNew (d : NewUser) (id : UserId) (now : Instant) : User :=
  { id, email := d.email, firstName := d.firstName, lastName := d.lastName, isActive := true,
    createdAt := now, updatedAt := now }

/-- Both names, or the one there is, or the e-mail address. -/
def displayName (u : User) : String :=
  match u.firstName, u.lastName with
  | some first, some last => first ++ " " ++ last
  | some first, none => first
  | none, some last => last
  | none, none => u.email

/-- Users are listed in the order of their creation, and by id where times agree. -/
def compareByAge (u v : User) : Ordering :=
  (compare u.createdAt v.createdAt).then (compare u.id v.id)

def sortByAge (us : List User) : List User :=
  us.mergeSort fun u v => (compareByAge u v).isLE

end User

end Perimeter
