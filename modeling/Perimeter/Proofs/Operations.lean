import Perimeter.Proofs.Upkeep
import Perimeter.Proofs.Writes

/-!
# Operations

Each operation is refused, finds that nothing is to be done, or carries out one write. Only
`changeFolder` may carry out two, and then the first stands even if the second is refused.
-/

namespace Perimeter.System

/-! ## Folders -/

theorem createFolder_settles (s : System) (d : NewFolder) :
    s.Settles (s.createFolder d) fun f s' => s.Wrote (.addFolder f) s' := by
  refine .check fun name named => .check fun parent placed => .create fun bits now t p entered => ?_
  exact .of_entry ⟨rfl, ⟨_, parent, placed, rfl⟩, _, named⟩ rfl entered rfl

/-- The new folder is found. -/
theorem get?_of_created {s s' : System} {d : NewFolder} {f : Folder}
    (created : s.createFolder d = (.ok f, s')) :
    s'.hierarchy.get? f.id = some f := by
  have wrote := (created ▸ createFolder_settles s d).answer
  rw [wrote.hierarchy_eq, Change.applyTree,
    Hierarchy.get?_of_rows_insert (Hierarchy.rows_insert s.hierarchy f), if_pos rfl]

theorem saveFolder_settles {s : System} {id : FolderId} {g f : Folder}
    (row : s.hierarchy.get? id = some g) (same : f.id = g.id) (flag : f.isRoot = g.isRoot)
    (place : f.parent = g.parent ∨
      ∃ p, f.parent = some p ∧ s.hierarchy.checkMove id p = .ok (.to p))
    (named : f.name = g.name ∨ IsFolderName f.name) :
    s.Settles (s.saveFolder f) fun f s' => s.Wrote (.saveFolder id f) s' := by
  refine .update fun now t p _ entered => ?_
  exact .of_entry ⟨g, row, same, flag, place, named⟩ rfl entered rfl

theorem moveFolder_settles (s : System) (id parent : FolderId) :
    s.Settles (s.moveFolder id parent) fun f s' =>
      s' = s ∧ s.hierarchy.get? id = some f ∨ s.Wrote (.saveFolder id f) s' := by
  refine .check fun m passed => ?_
  obtain ⟨g, row, _, _, _, cases⟩ := Hierarchy.checkMove_eq_ok passed
  obtain ⟨rfl, _⟩ | ⟨rfl, _⟩ := cases
  · simp only [Hierarchy.require_eq_ok.mpr row]
    exact .answered (Or.inl ⟨rfl, row⟩)
  · refine .check fun f found => ?_
    rw [Hierarchy.require_eq_ok] at found
    refine Settles.imp (saveFolder_settles found ?_ ?_ (Or.inr ⟨parent, ?_, passed⟩) (Or.inl ?_))
      fun _ _ => Or.inr
    · rfl
    · rfl
    · rfl
    · rfl

/-- A move answers with the row as it was, but for the parent and the time of change. -/
theorem moveFolder_answers (s : System) (id parent : FolderId) :
    s.Settles (s.moveFolder id parent) fun f _ => ∃ g, s.hierarchy.get? id = some g ∧
      f = { g with parent := f.parent, updatedAt := f.updatedAt } := by
  refine .check fun m passed => ?_
  obtain ⟨g, row, _, _, _, cases⟩ := Hierarchy.checkMove_eq_ok passed
  obtain ⟨rfl, _⟩ | ⟨rfl, _⟩ := cases
  · simp only [Hierarchy.require_eq_ok.mpr row]
    exact .answered ⟨g, row, rfl⟩
  · refine .check fun f found => ?_
    rw [Hierarchy.require_eq_ok] at found
    exact .update fun _ _ _ _ _ => ⟨f, found, rfl⟩

theorem renameFolder_settles (s : System) (id : FolderId) (name description : Option String) :
    s.Settles (s.renameFolder id name description) fun f s' =>
      s' = s ∧ s.hierarchy.get? id = some f ∨ s.Wrote (.saveFolder id f) s' := by
  refine .check fun given normalized => .check fun f found => ?_
  rw [Hierarchy.require_eq_ok] at found
  have named : given.getD f.name = f.name ∨ IsFolderName (given.getD f.name) := by
    cases name with
    | none =>
      cases normalized
      exact Or.inl rfl
    | some t =>
      obtain ⟨n, normal, rfl⟩ := map_eq_ok.mp normalized
      exact Or.inr ⟨t, normal⟩
  split
  · exact .answered (Or.inl ⟨rfl, found⟩)
  · refine Settles.imp (saveFolder_settles found ?_ ?_ (Or.inl ?_) named) fun _ _ => Or.inr
    · rfl
    · rfl
    · rfl

/-- A renaming answers with the row as it was, but for what was asked for and the time of
change. -/
theorem renameFolder_answers (s : System) (id : FolderId) (name description : Option String) :
    s.Settles (s.renameFolder id name description) fun f _ =>
      ∃ g given, s.hierarchy.get? id = some g ∧ name.mapM normalizeName = .ok given ∧
        f = { g with
          name := given.getD g.name
          description := description.elim g.description Text.nonBlank?
          updatedAt := f.updatedAt } := by
  refine .check fun given normalized => .check fun g found => ?_
  rw [Hierarchy.require_eq_ok] at found
  split
  · next idle =>
    obtain ⟨unnamed, undescribed⟩ := idle
    rw [Option.isNone_iff_eq_none] at unnamed undescribed
    subst unnamed undescribed
    exact .answered ⟨g, none, found, normalized, rfl⟩
  · refine .update fun _ _ _ _ _ => ⟨g, given, found, normalized, ?_⟩
    cases description <;> rfl

theorem removeFolder_settles (s : System) (id : FolderId) :
    s.Settles (s.removeFolder id) fun f s' =>
      s.hierarchy.get? id = some f ∧ s.Wrote (.dropFolder id) s' := by
  refine .check fun _ passed => ?_
  obtain ⟨f, row⟩ := Hierarchy.contains_iff.mp (Hierarchy.checkRemoval_eq_ok passed).1
  have deleted : s.Settles (s.commit (Storage.delete .folders id) fun s _ => s)
      fun _ s' => ∃ p, s' = { s with storage :=
        (Shelf.folders.set s.storage (s.storage.folders.delete id).2).supplied p } :=
    .delete fun _ p => ⟨p, rfl⟩
  split
  · next outcome => exact (outcome ▸ deleted).fail
  · next outcome =>
    obtain ⟨p, rfl⟩ := (outcome ▸ deleted).answer
    -- the write left the hierarchy alone, so the folder that passed the check is still there
    dsimp only
    rw [Hierarchy.require_eq_ok.mpr row]
    exact .answered ⟨row, passed, _, p, rfl, rfl⟩

theorem discardFolder_settles (s : System) (id : FolderId) :
    s.Settles (s.discardFolder id) fun f s' =>
      s.hierarchy.get? id = some f ∧ s.registry.references id = 0 ∧
        s.Wrote (.dropFolder id) s' := by
  unfold discardFolder
  dsimp only
  split
  · next free => exact (removeFolder_settles s id).imp fun f s' ⟨row, wrote⟩ => ⟨row, free, wrote⟩
  · exact .unchanged _

theorem require_settles (s : System) (id : FolderId) :
    s.Settles (s.hierarchy.require id, s) fun f s' =>
      s' = s ∧ s.hierarchy.get? id = some f ∨ s.Wrote (.saveFolder id f) s' := by
  cases found : s.hierarchy.require id with
  | error e => exact .unchanged e
  | ok f => exact .answered (Or.inl ⟨rfl, Hierarchy.require_eq_ok.mp found⟩)

/-- A change of a folder may stop half way: the renaming settles from where the move left the
system. -/
theorem changeFolder_settles (s : System) (id : FolderId) (d : FolderChange) :
    ∃ s₁, (s₁ = s ∨ ∃ f, s.Wrote (.saveFolder id f) s₁) ∧
      s₁.Settles (s.changeFolder id d) fun f s' =>
        s' = s₁ ∧ s₁.hierarchy.get? id = some f ∨ s₁.Wrote (.saveFolder id f) s' := by
  unfold changeFolder
  split
  · exact ⟨s, Or.inl rfl, .unchanged _⟩
  · dsimp only
    split
    · next e s' outcome =>
      refine ⟨s, Or.inl rfl, ?_⟩
      rw [← outcome]
      split
      · exact moveFolder_settles s id _
      · exact require_settles s id
    · next f s₁ outcome =>
      have moved : s.Settles (.ok f, s₁) fun f s' =>
          s' = s ∧ s.hierarchy.get? id = some f ∨ s.Wrote (.saveFolder id f) s' := by
        rw [← outcome]
        split
        · exact moveFolder_settles s id _
        · exact require_settles s id
      split
      · refine ⟨s₁, ?_, renameFolder_settles s₁ id d.name d.description⟩
        obtain ⟨rfl, _⟩ | wrote := moved.answer
        · exact Or.inl rfl
        · exact Or.inr ⟨f, wrote⟩
      · exact ⟨s, Or.inl rfl, moved⟩

/-! ## Users, roles and groups -/

theorem requireUser_eq_ok {s : System} {id : UserId} {u : User} :
    s.requireUser id = .ok u ↔ s.registry.users[id]? = some u := by
  unfold requireUser
  cases s.registry.users[id]? <;> simp

theorem requireFolder_eq_ok {s : System} {id : FolderId} :
    s.requireFolder id = .ok () ↔ s.hierarchy.contains id = true := by
  unfold requireFolder
  split <;> simp_all

theorem requireGroup_eq_ok {s : System} {id : GroupId} :
    s.requireGroup id = .ok () ↔ s.registry.groups.contains id = true := by
  unfold requireGroup
  split <;> simp_all

theorem createUser_settles (s : System) (d : NewUser) :
    s.Settles (s.createUser d) fun u s' => s.Wrote (.addUser u) s' := by
  unfold createUser
  generalize normal : Text.lower (Text.trim d.email) = email
  dsimp only
  split
  · exact .unchanged _
  · next formed =>
    rw [not_or, not_not] at formed
    split
    · exact .unchanged _
    · next free =>
      refine .create fun bits now t p entered => ?_
      exact .of_entry ⟨Bool.eq_false_iff.mpr free, ⟨_, normal⟩, formed.2⟩ rfl entered rfl

theorem setUserActive_settles (s : System) (id : UserId) (active : Bool) :
    s.Settles (s.setUserActive id active) fun u s' =>
      s' = s ∧ s.registry.users[id]? = some u ∨ s.Wrote (.saveUser id u) s' := by
  refine .check fun u found => ?_
  rw [requireUser_eq_ok] at found
  dsimp only
  split
  · exact .answered (Or.inl ⟨rfl, found⟩)
  · refine .update fun now t p _ entered => Or.inr ?_
    exact .of_entry ⟨u, found, rfl, rfl⟩ rfl entered rfl

theorem createRole_settles (s : System) (d : NewRole) :
    s.Settles (s.createRole d) fun r s' => s.Wrote (.addRole r) s' := by
  unfold createRole
  dsimp only
  split
  · exact .unchanged _
  · split
    · exact .unchanged _
    · split
      · exact .unchanged _
      · next free =>
        refine .create fun bits now t p entered => ?_
        exact .of_entry (Bool.eq_false_iff.mpr free) rfl entered rfl

theorem createGroup_settles (s : System) (d : NewGroup) :
    s.Settles (s.createGroup d) fun g s' => s.Wrote (.addGroup g) s' := by
  unfold createGroup
  dsimp only
  split
  · exact .unchanged _
  · refine .check fun _ present => .create fun bits now t p entered => ?_
    exact .of_entry (requireFolder_eq_ok.mp present) rfl entered rfl

/-! ## Members -/

theorem addMember_settles (s : System) (user : UserId) (group : GroupId) :
    s.Settles (s.addMember user group) fun m s' =>
      s' = s ∧ s.registry.memberships[(⟨user, group⟩ : MemberKey)]? = some m ∨
        m.key = ⟨user, group⟩ ∧ s.Wrote (.addMember m) s' := by
  refine .check fun u found => .check fun _ known => ?_
  rw [requireUser_eq_ok] at found
  rw [requireGroup_eq_ok] at known
  split
  · next m already => exact .answered (Or.inl ⟨rfl, already⟩)
  · next free =>
    refine .check fun _ admitted => .createTimed fun now t p entered => Or.inr ⟨rfl, ?_⟩
    exact .of_entry ⟨⟨u, found⟩, known, free, admitted⟩ rfl entered rfl

theorem removeMember_settles (s : System) (user : UserId) (group : GroupId) :
    s.Settles (s.removeMember user group) fun removed s' =>
      removed = s.registry.isMember user group ∧
        if removed then s.Wrote (.dropMember ⟨user, group⟩) s' else s' = s := by
  refine .check fun _ _ => ?_
  split
  · next member =>
    have dropped : s.Settles (s.commit (Storage.delete .memberships ⟨user, group⟩)
        fun s _ => { s with registry :=
          { s.registry with memberships := s.registry.memberships.erase ⟨user, group⟩ } })
        fun _ s' => s.Wrote (.dropMember ⟨user, group⟩) s' :=
      .delete fun _ p => ⟨member, _, p, rfl, rfl⟩
    split
    · next outcome => exact (outcome ▸ dropped).fail
    · next outcome =>
      exact .answered ⟨member.symm, (outcome ▸ dropped).answer⟩
  · next stranger => exact .answered ⟨(Bool.eq_false_iff.mpr stranger).symm, rfl⟩

/-! ## Assignments -/

theorem requireRole_eq_ok {s : System} {id : RoleId} {r : Role} :
    s.requireRole id = .ok r ↔ s.registry.roles[id]? = some r := by
  unfold requireRole
  cases s.registry.roles[id]? <;> simp

theorem requirePrincipal_eq_ok {s : System} {p : Principal} :
    s.requirePrincipal p = .ok () ↔ s.registry.hasPrincipal p = true := by
  unfold requirePrincipal
  split <;> simp_all

theorem principal?_ofNew (d : NewAssignment) (id : AssignmentId) (now : Instant) :
    (Assignment.ofNew d id now).principal? = some d.principal := by
  unfold Assignment.principal? Assignment.ofNew
  cases d.principal <;> rfl

theorem assignRole_settles (s : System) (d : NewAssignment) :
    s.Settles (s.assignRole d) fun a s' => s.Wrote (.addAssignment a) s' := by
  refine .check fun role found => .check fun _ principal => .check fun _ folder =>
    .check fun _ admitted => .create fun bits now t p entered => ?_
  rw [requireRole_eq_ok] at found
  rw [requirePrincipal_eq_ok] at principal
  rw [requireFolder_eq_ok] at folder
  have checked : (Change.addAssignment (.ofNew d ⟨bits⟩ now)).Checked s :=
    ⟨role, d.principal, found, principal?_ofNew d _ now, principal, folder, admitted⟩
  exact .of_entry checked rfl entered rfl

theorem requireAssignment_eq_ok {s : System} {id : AssignmentId} {a : Assignment} :
    s.requireAssignment id = .ok a ↔ s.registry.assignments[id]? = some a := by
  unfold requireAssignment
  cases s.registry.assignments[id]? <;> simp

theorem revokeAssignment_settles (s : System) (id : AssignmentId) :
    s.Settles (s.revokeAssignment id) fun a s' =>
      s.registry.assignments[id]? = some a ∧ s.Wrote (.dropAssignment id) s' := by
  refine .check fun a found => ?_
  have stored := requireAssignment_eq_ok.mp found
  have deleted : s.Settles (s.commit (Storage.delete .assignments id) fun s _ => s)
      fun _ s' => ∃ p, s' = { s with storage :=
        (Shelf.assignments.set s.storage (s.storage.assignments.delete id).2).supplied p } :=
    .delete fun _ p => ⟨p, rfl⟩
  split
  · next outcome => exact (outcome ▸ deleted).fail
  · next outcome =>
    obtain ⟨p, rfl⟩ := (outcome ▸ deleted).answer
    -- the write left the registry alone, so what was found before it is found again
    have again : ∀ t, requireAssignment ⟨s.terms, s.hierarchy, s.registry, t⟩ id = .ok a :=
      fun _ => found
    rw [again]
    exact .answered ⟨stored, ⟨a, stored⟩, _, p, rfl, rfl⟩

end Perimeter.System
