import Perimeter.Id
import Perimeter.Instant

/-!
# User groups and their members
-/

namespace Perimeter

/-- A group of users, owned by a folder. -/
structure Group where
  id : GroupId
  name : String
  folder : FolderId
  builtin : Bool
  createdAt : Instant
deriving DecidableEq

structure NewGroup where
  name : String
  folder : FolderId
deriving DecidableEq

/-- The pair of ids that a membership is known by. -/
structure MemberKey where
  user : UserId
  group : GroupId
deriving DecidableEq

structure Membership where
  user : UserId
  group : GroupId
  createdAt : Instant
deriving DecidableEq

namespace MemberKey

instance : Ord MemberKey :=
  ⟨fun a b => (compare a.user b.user).then (compare a.group b.group)⟩

instance : Std.TransOrd MemberKey :=
  inferInstanceAs (Std.TransCmp (compareLex (compareOn MemberKey.user) (compareOn MemberKey.group)))

instance : Std.LawfulEqOrd MemberKey where
  eq_of_compare := by
    intro a b h
    have h' : compare a.user b.user = .eq ∧ compare a.group b.group = .eq :=
      Ordering.then_eq_eq.mp h
    cases a
    cases b
    simpa using h'

end MemberKey

namespace Membership

def key (m : Membership) : MemberKey := ⟨m.user, m.group⟩

/-- A membership that begins now. -/
def ofKey (k : MemberKey) (now : Instant) : Membership :=
  { user := k.user, group := k.group, createdAt := now }

end Membership

namespace Group

def ofNew (d : NewGroup) (id : GroupId) (now : Instant) : Group :=
  { id, name := d.name, folder := d.folder, builtin := false, createdAt := now }

/-- Groups are listed by name, and by id where names agree. -/
def compareByName (g h : Group) : Ordering :=
  (compare g.name h.name).then (compare g.id h.id)

def sortByName (gs : List Group) : List Group :=
  gs.mergeSort fun g h => (compareByName g h).isLE

end Group

end Perimeter
