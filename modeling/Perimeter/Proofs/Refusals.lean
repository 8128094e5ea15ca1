import Perimeter.Proofs.Operations

/-!
# Refusals

Whatever an operation of one write is asked, and whatever state it is asked in, if it answers
with a fault then memory and tables hold what they held before (`refusals_spare_all`). A removal
looks its row up in memory once more after the storage has deleted it, and could fail there with
the deletion done; it never does, since that row passed the check before the write.
-/

namespace Perimeter.System

/-- The same hierarchy, registry and tables, with any supply behind them. -/
structure SameRows (s s' : System) : Prop where
  hierarchy : s'.hierarchy = s.hierarchy
  registry : s'.registry = s.registry
  folders : s'.storage.folders = s.storage.folders
  users : s'.storage.users = s.storage.users
  roles : s'.storage.roles = s.storage.roles
  groups : s'.storage.groups = s.storage.groups
  memberships : s'.storage.memberships = s.storage.memberships
  assignments : s'.storage.assignments = s.storage.assignments

variable {α : Type} {s : System}

theorem sameRows_supplied (s : System) (p : Supply) : s.SameRows (s.supplied p) :=
  ⟨rfl, rfl, rfl, rfl, rfl, rfl, rfl, rfl⟩

/-- If the operation fails, with whatever fault, it has left every row as it was. -/
def Spares (s : System) (out : Outcome α) : Prop :=
  ∀ e s', out = (.error e, s') → s.SameRows s'

theorem Settles.spares {out : Outcome α} {answers : α → System → Prop}
    (settled : s.Settles out answers) : s.Spares out := by
  rintro e s' rfl
  cases settled with
  | refused e p => exact sameRows_supplied s p

/-- Every operation of one write spares the rows if it fails. -/
structure SparedByFailures (s : System) : Prop where
  createFolder : ∀ d, s.Spares (s.createFolder d)
  moveFolder : ∀ id parent, s.Spares (s.moveFolder id parent)
  renameFolder : ∀ id name description, s.Spares (s.renameFolder id name description)
  removeFolder : ∀ id, s.Spares (s.removeFolder id)
  discardFolder : ∀ id, s.Spares (s.discardFolder id)
  createUser : ∀ d, s.Spares (s.createUser d)
  setUserActive : ∀ id active, s.Spares (s.setUserActive id active)
  createRole : ∀ d, s.Spares (s.createRole d)
  createGroup : ∀ d, s.Spares (s.createGroup d)
  addMember : ∀ user group, s.Spares (s.addMember user group)
  removeMember : ∀ user group, s.Spares (s.removeMember user group)
  assignRole : ∀ d, s.Spares (s.assignRole d)
  revokeAssignment : ∀ id, s.Spares (s.revokeAssignment id)

/-- An operation of one write that fails, be it refused in memory or by the storage, has changed
no row, neither in memory nor in any table. -/
theorem refusals_spare_all (s : System) : s.SparedByFailures where
  createFolder d := (createFolder_settles s d).spares
  moveFolder id parent := (moveFolder_settles s id parent).spares
  renameFolder id name description := (renameFolder_settles s id name description).spares
  removeFolder id := (removeFolder_settles s id).spares
  discardFolder id := (discardFolder_settles s id).spares
  createUser d := (createUser_settles s d).spares
  setUserActive id active := (setUserActive_settles s id active).spares
  createRole d := (createRole_settles s d).spares
  createGroup d := (createGroup_settles s d).spares
  addMember user group := (addMember_settles s user group).spares
  removeMember user group := (removeMember_settles s user group).spares
  assignRole d := (assignRole_settles s d).spares
  revokeAssignment id := (revokeAssignment_settles s id).spares

end Perimeter.System
