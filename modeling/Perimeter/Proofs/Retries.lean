import Perimeter.Proofs.Integrity
import Perimeter.Proofs.Undoing

/-!
# Retries

Four operations bring about a state of affairs: a folder lies below another, a user is active or
not, belongs to a group or does not. Each asks whether that is so already before it asks for
anything else that could be refused, such as a seat, and before it writes. What the first call has
brought about, with whatever row the storage returned, the second recognizes (`Grounded.mayMove_again`,
`setUserActive_leaves`, `addMember_leaves`, `removeMember_leaves`), so it answers the same and does
nothing.
-/

namespace Perimeter.System

variable {α : Type} {s s' : System} {id q : FolderId} {f : Folder} {u : UserId} {g : GroupId}

/-- The system under other terms, with another supply behind it. -/
def amid (s : System) (terms : Terms) (p : Supply) : System := { s.supplied p with terms }

/-- The operation answers `a` and leaves everything as it is, the number of the writes tried
included, whatever storage would make of a write and whatever the terms are. -/
def Idles (s : System) (op : System → Outcome α) (a : α) : Prop :=
  ∀ terms p, op (s.amid terms p) = (.ok a, s.amid terms p)

/-! ## Moves -/

theorem Grounded.amid (grounded : s.Grounded) (terms : Terms) (p : Supply) :
    (s.amid terms p).Grounded :=
  ⟨grounded.tree, grounded.rows⟩

/-- A folder that a move has put below another may go there, and is there. -/
theorem Grounded.mayMove_again (grounded : s.Grounded)
    (answered : s.moveFolder id q = (.ok f, s')) :
    s'.hierarchy.MayMove id q ∧ s'.hierarchy.get? id = some f ∧ s'.hierarchy.parent? id = some q := by
  obtain ⟨may, moved⟩ := grounded.relocated answered
  have tree := (grounded.grounded_of_moved answered).tree
  have there := moved.parent?_self
  refine ⟨⟨?_, ?_, ?_, ?_⟩, moved.moved, there⟩
  · exact Hierarchy.contains_of_get? moved.moved
  · rw [moved.root]
    exact may.inside
  · rw [moved.contains_eq]
    exact may.target
  · exact (tree.ends id).not_under_of_parent there

/-- A move to where the folder is finds nothing to do. -/
theorem Grounded.moveFolder_of_there (grounded : s.Grounded) (may : s.hierarchy.MayMove id q)
    (row : s.hierarchy.get? id = some f) (there : s.hierarchy.parent? id = some q) :
    s.moveFolder id q = (.ok f, s) := by
  have rule := grounded.tree.moveRule_of_mayMove may
  rw [if_pos there] at rule
  obtain ⟨g, found, rest⟩ := (grounded.moveDecided id q).kept rule
  cases row.symm.trans found
  exact rest

theorem Grounded.idles_moveFolder (grounded : s.Grounded)
    (answered : s.moveFolder id q = (.ok f, s')) : s'.Idles (·.moveFolder id q) f := by
  intro terms p
  obtain ⟨may, row, there⟩ := grounded.mayMove_again answered
  exact ((grounded.grounded_of_moved answered).amid terms p).moveFolder_of_there may row there

/-! ## Users -/

theorem setUserActive_leaves (s : System) (id : UserId) (active : Bool) :
    s.Settles (s.setUserActive id active) fun u s' =>
      s'.registry.users[id]? = some u ∧ u.isActive = active := by
  refine .check fun u found => ?_
  rw [requireUser_eq_ok] at found
  dsimp only
  split
  · next same => exact .answered ⟨found, same⟩
  · refine .update fun now t p _ _ => ⟨?_, rfl⟩
    dsimp only
    rw [lookup_insert, if_pos rfl]

theorem setUserActive_of_same {id : UserId} {u : User} (found : s.registry.users[id]? = some u) :
    s.setUserActive id u.isActive = (.ok u, s) := by
  rw [setUserActive, requireUser_eq_ok.mpr found]
  exact if_pos rfl

theorem idles_setUserActive {id : UserId} {active : Bool} {u : User}
    (answered : s.setUserActive id active = (.ok u, s')) :
    s'.Idles (·.setUserActive id active) u := by
  intro terms p
  obtain ⟨found, rfl⟩ := (answered ▸ setUserActive_leaves s id active).answer
  exact setUserActive_of_same (s := s'.amid terms p) found

/-! ## Members -/

/-- The user and the group are there, and the membership is a row of theirs. -/
structure Belongs (s : System) (u : UserId) (g : GroupId) (m : Membership) : Prop where
  user : ∃ row, s.registry.users[u]? = some row
  group : s.registry.groups.contains g = true
  member : s.registry.memberships[(⟨u, g⟩ : MemberKey)]? = some m

theorem addMember_leaves (s : System) (u : UserId) (g : GroupId) :
    s.Settles (s.addMember u g) fun m s' => s'.Belongs u g m := by
  refine .check fun row found => .check fun _ known => ?_
  rw [requireUser_eq_ok] at found
  rw [requireGroup_eq_ok] at known
  split
  · next m already => exact .answered ⟨⟨row, found⟩, known, already⟩
  · refine .check fun _ _ => .createTimed fun now t p _ => ⟨⟨row, found⟩, known, ?_⟩
    dsimp only
    rw [lookup_insert]
    exact if_pos rfl

/-- Whoever belongs to a group is not asked for a seat. -/
theorem addMember_of_belongs {m : Membership} (belongs : s.Belongs u g m) :
    s.addMember u g = (.ok m, s) := by
  obtain ⟨⟨row, found⟩, known, member⟩ := belongs
  rw [addMember, requireUser_eq_ok.mpr found, requireGroup_eq_ok.mpr known]
  dsimp only [check]
  rw [member]

theorem idles_addMember {m : Membership} (answered : s.addMember u g = (.ok m, s')) :
    s'.Idles (·.addMember u g) m := by
  intro terms p
  obtain ⟨user, group, member⟩ := (answered ▸ addMember_leaves s u g).answer
  exact addMember_of_belongs (s := s'.amid terms p) ⟨user, group, member⟩

theorem removeMember_leaves (s : System) (u : UserId) (g : GroupId) :
    s.Settles (s.removeMember u g) fun _ s' =>
      s'.registry.groups.contains g = true ∧ s'.registry.isMember u g = false := by
  refine .check fun _ known => ?_
  rw [requireGroup_eq_ok] at known
  split
  · have dropped : s.Settles (s.commit (Storage.delete .memberships ⟨u, g⟩)
        fun s _ => { s with registry :=
          { s.registry with memberships := s.registry.memberships.erase ⟨u, g⟩ } })
        fun _ s' => s'.registry.groups.contains g = true ∧ s'.registry.isMember u g = false := by
      refine .delete fun _ p => ⟨known, ?_⟩
      simp [Registry.isMember]
    split
    · next outcome => exact (outcome ▸ dropped).fail
    · next outcome => exact .answered (outcome ▸ dropped).answer
  · next stranger => exact .answered ⟨known, Bool.eq_false_iff.mpr stranger⟩

theorem removeMember_of_stranger (known : s.registry.groups.contains g = true)
    (stranger : s.registry.isMember u g = false) : s.removeMember u g = (.ok false, s) := by
  rw [removeMember, requireGroup_eq_ok.mpr known]
  dsimp only [check]
  rw [stranger]
  rfl

theorem idles_removeMember {was : Bool} (answered : s.removeMember u g = (.ok was, s')) :
    s'.Idles (·.removeMember u g) false := by
  intro terms p
  obtain ⟨known, stranger⟩ := (answered ▸ removeMember_leaves s u g).answer
  exact removeMember_of_stranger (s := s'.amid terms p) known stranger

/-! ## Every state of a run -/

/-- Once a call of one of the four operations has answered, the same call idles. -/
structure Repeatable (s : System) : Prop where
  moves : ∀ id q f s', s.moveFolder id q = (.ok f, s') → s'.Idles (·.moveFolder id q) f
  switches : ∀ id active u s', s.setUserActive id active = (.ok u, s') →
    s'.Idles (·.setUserActive id active) u
  joins : ∀ u g m s', s.addMember u g = (.ok m, s') → s'.Idles (·.addMember u g) m
  leaves : ∀ u g was s', s.removeMember u g = (.ok was, s') →
    s'.Idles (·.removeMember u g) false

/-- In every state of a run, a call of one of the four operations that has answered may be made
again, even where no write would be carried out and no seat is left. -/
theorem retries_are_idle {terms : Terms} {storage storage' : Storage} {s₀ : System}
    (started : start terms storage = (.ok s₀, storage')) (events : List Event) :
    (s₀.afterAll events).Repeatable := by
  have grounded := ((mirrored_of_start started).1.afterAll events).1.toGrounded
  constructor
  · exact fun _ _ _ _ => grounded.idles_moveFolder
  · exact fun _ _ _ _ => idles_setUserActive
  · exact fun _ _ _ _ => idles_addMember
  · exact fun _ _ _ _ => idles_removeMember

/-- A user takes the last seat by coming back to a group, and comes back once more while no seat is
free and no write is carried out. -/
theorem last_seat_taken_once :
    let s₀ := founded ⟨"Root", ⟨2, 8⟩, ⟨true, 1, ["change_"]⟩⟩ staffOnRoot
    let s := s₀.afterAll [.call (.removeMember ⟨1⟩ ⟨3⟩)]
    let down : Supply := { Supply.fresh with refuses := fun _ => true }
    ∃ m s₁, s.addMember ⟨1⟩ ⟨3⟩ = (.ok m, s₁) ∧ s₁.seatStatus.available = 0 ∧
      (s₁.supplied down).addMember ⟨1⟩ ⟨3⟩ = (.ok m, s₁.supplied down) := by
  intro s₀ s down
  have repeatable := retries_are_idle (start_founded s₀.terms staffOnRoot rfl rfl)
    [.call (.removeMember ⟨1⟩ ⟨3⟩)]
  obtain ⟨m, joined⟩ := exists_answer (s.addMember ⟨1⟩ ⟨3⟩) (by decide +kernel)
  exact ⟨m, _, joined, by decide +kernel, repeatable.joins _ _ _ _ joined _ down⟩

end Perimeter.System
