import Perimeter.Codename
import Perimeter.Instant

/-!
# Roles

A role is a named set of permission codenames.
-/

namespace Perimeter

/-- A named set of permission codenames. -/
structure Role where
  id : RoleId
  name : String
  description : Option String
  permissions : List String
  builtin : Bool
  createdAt : Instant
deriving DecidableEq

structure NewRole where
  name : String
  description : Option String
  permissions : List String
deriving DecidableEq

namespace Role

/-- A role with its permissions in canonical order. -/
def ofNew (d : NewRole) (id : RoleId) (now : Instant) : Role :=
  { id, name := d.name, description := d.description,
    permissions := Codename.canonical d.permissions, builtin := false, createdAt := now }

def carries (r : Role) (codename : String) : Bool := r.permissions.contains codename

/-- Whether one of the role's permissions begins with one of the given starts. -/
def grantsEdit (starts : List String) (r : Role) : Bool :=
  r.permissions.any (Codename.beginsWithAny starts)

/-- Roles are listed by name. -/
def sortByName (rs : List Role) : List Role :=
  rs.mergeSort fun r s => (compare r.name s.name).isLE

end Role

end Perimeter
