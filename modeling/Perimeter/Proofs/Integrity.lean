import Perimeter.Proofs.Entitlement
import Perimeter.Proofs.Requests
import Perimeter.Proofs.SeatCap

/-!
# Integrity of references

Rows name other rows: a membership its user and its group, an assignment its principal, its role
and its folder, a group its folder. Ids come into use and stay in use, except those of folders,
and the removal that the services offer asks first whether the folder is used. So every
reference leads to a row, in memory and in the tables, wherever a run of offered calls ends
(`references_stay_intact`). It follows that every editor is a stored user, and the seats that
are reported are the editors that are listed.
-/

namespace Perimeter

/-- The ids in use. -/
structure Ids where
  user : UserId → Prop
  group : GroupId → Prop
  role : RoleId → Prop
  folder : FolderId → Prop

/-- What a membership names is in use. -/
structure Membership.Resolves (m : Membership) (ids : Ids) : Prop where
  user : ids.user m.user
  group : ids.group m.group

/-- What an assignment names is in use, and it names one principal, a user or a group. -/
structure Assignment.Resolves (a : Assignment) (ids : Ids) : Prop where
  principal : (∃ u, a.user = some u ∧ a.group = none ∧ ids.user u) ∨
    ∃ g, a.user = none ∧ a.group = some g ∧ ids.group g
  role : ids.role a.role
  folder : ids.folder a.folder

/-- What the rows of a registry name is in use. -/
structure Registry.Resolves (r : Registry) (ids : Ids) : Prop where
  memberships : ∀ (k : MemberKey) m, r.memberships[k]? = some m → m.Resolves ids
  assignments : ∀ (id : AssignmentId) a, r.assignments[id]? = some a → a.Resolves ids
  groups : ∀ (id : GroupId) g, r.groups[id]? = some g → ids.folder g.folder

/-- The ids that the rows in memory lie under. -/
def System.ids (s : System) : Ids where
  user u := u ∈ s.registry.users
  group g := g ∈ s.registry.groups
  role r := r ∈ s.registry.roles
  folder f := s.hierarchy.contains f = true

/-- Every reference in memory leads to a row in memory. -/
def System.Intact (s : System) : Prop := s.registry.Resolves s.ids

/-- The ids of the rows in the tables. -/
def Storage.ids (s : Storage) : Ids where
  user u := ∃ row ∈ s.users.all, row.id = u
  group g := ∃ row ∈ s.groups.all, row.id = g
  role r := ∃ row ∈ s.roles.all, row.id = r
  folder f := ∃ row ∈ s.folders.all, row.id = f

/-- Every reference in the tables leads to a row in the tables. -/
structure Storage.Intact (s : Storage) : Prop where
  memberships : ∀ m ∈ s.memberships.all, m.Resolves s.ids
  assignments : ∀ a ∈ s.assignments.all, a.Resolves s.ids
  groups : ∀ g ∈ s.groups.all, s.ids.folder g.folder

/-! ## Memory and tables -/

namespace System

variable {s s' : System} {c : Change}

theorem Mirrored.ids_eq (mirrored : s.Mirrored) : s.storage.ids = s.ids := by
  obtain ⟨⟨_, folders⟩, ⟨users, roles, groups, _, _⟩⟩ := mirrored
  simp only [ids, Storage.ids, Ids.mk.injEq, ← Hierarchy.mem_rows, folders, users, roles, groups,
    Table.mem_contents]
  exact ⟨rfl, rfl, rfl, rfl⟩

/-- What holds of the rows in memory holds of the rows in the tables. -/
theorem Mirrored.intact_iff (mirrored : s.Mirrored) : s.storage.Intact ↔ s.Intact := by
  have ids := mirrored.ids_eq
  obtain ⟨_, ⟨_, _, groups, memberships, assignments⟩⟩ := mirrored
  constructor
  · rintro ⟨members, grants, owners⟩
    rw [ids] at members grants owners
    refine ⟨?_, ?_, ?_⟩
    · rw [memberships]
      exact Table.forall_contents.mpr members
    · rw [assignments]
      exact Table.forall_contents.mpr grants
    · rw [groups]
      exact Table.forall_contents.mpr owners
  · rintro ⟨members, grants, owners⟩
    rw [memberships] at members
    rw [assignments] at grants
    rw [groups] at owners
    refine ⟨?_, ?_, ?_⟩
    · rw [ids]
      exact Table.forall_contents.mp members
    · rw [ids]
      exact Table.forall_contents.mp grants
    · rw [ids]
      exact Table.forall_contents.mp owners

end System

/-! ## One write -/

namespace Registry

/-- A group or an assignment is on the folder. -/
def Uses (r : Registry) (f : FolderId) : Prop :=
  (∃ (id : GroupId) (g : Group), r.groups[id]? = some g ∧ g.folder = f) ∨
    ∃ (id : AssignmentId) (a : Assignment), r.assignments[id]? = some a ∧ a.folder = f

theorem references_eq_zero {r : Registry} {f : FolderId} : r.references f = 0 ↔ ¬ r.Uses f := by
  simp only [references, Nat.add_eq_zero_iff, List.countP_eq_zero, mem_values,
    decide_eq_true_eq, Uses, not_or, not_exists, not_and, forall_exists_index]
  constructor
  · rintro ⟨groups, assignments⟩
    exact ⟨fun id g => groups g id, fun id a => assignments a id⟩
  · rintro ⟨groups, assignments⟩
    exact ⟨fun g id => groups id g, fun a id => assignments id a⟩

end Registry

namespace System

variable {s s' : System} {c : Change}

namespace Wrote

theorem user_kept (wrote : s.Wrote c s') {u : UserId} (used : s.ids.user u) : s'.ids.user u := by
  obtain ⟨_, _, _, _, rfl⟩ := wrote
  cases c with
  | addUser | saveUser => exact Std.ExtTreeMap.mem_insert.mpr (Or.inr used)
  | _ => exact used

theorem group_kept (wrote : s.Wrote c s') {g : GroupId} (used : s.ids.group g) :
    s'.ids.group g := by
  obtain ⟨_, _, _, _, rfl⟩ := wrote
  cases c with
  | addGroup => exact Std.ExtTreeMap.mem_insert.mpr (Or.inr used)
  | _ => exact used

theorem role_kept (wrote : s.Wrote c s') {r : RoleId} (used : s.ids.role r) : s'.ids.role r := by
  obtain ⟨_, _, _, _, rfl⟩ := wrote
  cases c with
  | addRole => exact Std.ExtTreeMap.mem_insert.mpr (Or.inr used)
  | _ => exact used

/-- A folder that a group or an assignment is on stays where it is. -/
theorem folder_kept (wrote : s.Wrote c s') (unreferenced : c.Unreferenced s) {f : FolderId}
    (referred : s.registry.Uses f) (used : s.ids.folder f) : s'.ids.folder f := by
  have present : f ∈ s.hierarchy.rows := Hierarchy.mem_rows.mpr used
  apply Hierarchy.mem_rows.mp
  rw [wrote.hierarchy_eq]
  cases c with
  | addFolder g =>
    rw [Change.applyTree, Hierarchy.rows_insert]
    exact Std.ExtTreeMap.mem_insert.mpr (Or.inr present)
  | saveFolder id g =>
    rw [Change.applyTree, Hierarchy.rows_replace]
    exact Std.ExtTreeMap.mem_insert.mpr (Or.inr present)
  | dropFolder id =>
    have other : id ≠ f := by
      rintro rfl
      exact Registry.references_eq_zero.mp unreferenced referred
    rw [Change.applyTree, Hierarchy.rows_remove (Hierarchy.checkRemoval_eq_ok wrote.1).1,
      Std.ExtTreeMap.mem_erase, ne_eq, Std.LawfulEqCmp.compare_eq_iff_eq]
    exact ⟨other, present⟩
  | _ => exact present

end Wrote

/-- After a write, what the rows of before name is still in use. -/
theorem Intact.resolves (intact : s.Intact) (wrote : s.Wrote c s')
    (unreferenced : c.Unreferenced s) : s.registry.Resolves s'.ids := by
  constructor
  case memberships =>
    intro k m stored
    obtain ⟨user, group⟩ := intact.memberships k m stored
    exact ⟨wrote.user_kept user, wrote.group_kept group⟩
  case assignments =>
    intro id a stored
    obtain ⟨principal, role, folder⟩ := intact.assignments id a stored
    have kept := wrote.folder_kept unreferenced (Or.inr ⟨id, a, stored, rfl⟩) folder
    refine ⟨?_, wrote.role_kept role, kept⟩
    obtain ⟨u, named, sole, used⟩ | ⟨g, sole, named, used⟩ := principal
    · exact Or.inl ⟨u, named, sole, wrote.user_kept used⟩
    · exact Or.inr ⟨g, sole, named, wrote.group_kept used⟩
  case groups =>
    intro id g stored
    exact wrote.folder_kept unreferenced (Or.inl ⟨id, g, stored, rfl⟩) (intact.groups id g stored)

theorem resolves_addMember {m : Membership} (checked : (Change.addMember m).Checked s) :
    m.Resolves s.ids := by
  obtain ⟨⟨u, user⟩, group, _⟩ := checked
  refine ⟨?_, Std.ExtTreeMap.contains_iff_mem.mp group⟩
  exact Std.ExtTreeMap.mem_iff_isSome_getElem?.mpr (Option.isSome_of_eq_some user)

theorem resolves_addAssignment {a : Assignment} (checked : (Change.addAssignment a).Checked s) :
    a.Resolves s.ids := by
  obtain ⟨r, p, role, principal, stored, folder, _⟩ := checked
  refine ⟨?_, ?_, folder⟩
  · cases p with
    | user u =>
      obtain ⟨named, sole⟩ := Registry.principal?_eq_user.mp principal
      exact Or.inl ⟨u, named, sole, Std.ExtTreeMap.contains_iff_mem.mp stored⟩
    | group g =>
      obtain ⟨sole, named⟩ := Registry.principal?_eq_group.mp principal
      exact Or.inr ⟨g, sole, named, Std.ExtTreeMap.contains_iff_mem.mp stored⟩
  · exact Std.ExtTreeMap.mem_iff_isSome_getElem?.mpr (Option.isSome_of_eq_some role)

/-- A write keeps every reference, unless it takes away a folder that is used. -/
theorem Intact.wrote (intact : s.Intact) (wrote : s.Wrote c s')
    (unreferenced : c.Unreferenced s) : s'.Intact := by
  obtain ⟨memberships, assignments, groups⟩ := intact.resolves wrote unreferenced
  obtain ⟨checked, _, _, _, rfl⟩ := wrote
  -- the rows afterwards are those of before, or the new one, whose references were checked
  cases c with
  | addGroup g => exact ⟨memberships, assignments, forall_insert groups checked g.id⟩
  | addMember m =>
    have new : m.Resolves s.ids := resolves_addMember checked
    exact ⟨forall_insert memberships new m.key, assignments, groups⟩
  | dropMember k => exact ⟨forall_erase memberships k, assignments, groups⟩
  | addAssignment a =>
    have new : a.Resolves s.ids := resolves_addAssignment checked
    exact ⟨memberships, forall_insert assignments new a.id, groups⟩
  | dropAssignment id => exact ⟨memberships, forall_erase assignments id, groups⟩
  | _ => exact ⟨memberships, assignments, groups⟩

/-! ## Seats -/

/-- Every editor is a stored user: the assignment behind it names the user, or a group of which a
membership names the user. -/
theorem Intact.mem_users (intact : s.Intact) (mirrored : s.Mirrored) {u : UserId}
    (editor : u ∈ s.editorSet) : u ∈ s.registry.users := by
  obtain ⟨id, a, stored, _, reached⟩ := Registry.mem_editors.mp editor
  obtain ⟨named, sole⟩ | ⟨g, _, _, m, member⟩ := Registry.mem_principalUsers.mp reached
  · obtain ⟨v, named', _, used⟩ | ⟨g, _, named', _⟩ := (intact.assignments id a stored).principal
    · cases named.symm.trans named'
      exact used
    · cases sole.symm.trans named'
  · have key : m.key = ⟨u, g⟩ := by
      rw [mirrored.registry.memberships, Table.getElem?_contents] at member
      exact Table.key_of_find? member
    have user : m.user = u := congrArg MemberKey.user key
    exact user ▸ (intact.memberships _ m member).user

theorem length_editors (stored : ∀ u ∈ s.editorSet, u ∈ s.registry.users) :
    s.editors.length = s.editorSet.size := by
  have found : ∀ u ∈ s.editorSet.toList, (s.registry.users[u]?).isSome = true := by
    intro u mem
    exact Std.ExtTreeMap.mem_iff_isSome_getElem?.mp (stored u (Std.ExtTreeSet.mem_toList.mp mem))
  calc s.editors.length
      = s.editorSet.toList.countP fun u => (s.registry.users[u]?).isSome :=
        List.length_filterMap_eq_countP
    _ = s.editorSet.toList.length := List.countP_eq_length.mpr found
    _ = s.editorSet.size := Std.ExtTreeSet.length_toList

theorem used_seats (stored : ∀ u ∈ s.editorSet, u ∈ s.registry.users)
    (few : s.registry.users.size ≤ maxWord32) : s.seatStatus.used = s.editors.length := by
  have within : s.editorSet.size ≤ s.registry.users.size := by
    rw [← Std.ExtTreeMap.length_keys]
    exact size_le_length fun u editor => Std.ExtTreeMap.mem_keys.mpr (stored u editor)
  rw [length_editors stored]
  exact Nat.min_eq_left (Nat.le_trans within few)

/-! ## Runs -/

theorem Intact.afterAll (intact : s.Intact) (events : List Event)
    (offered : ∀ c, Event.call c ∈ events → c.isOffered = true) : (s.afterAll events).Intact := by
  refine afterAll_of_offered intact ?_ ?_ events offered
  · rintro t p ⟨memberships, assignments, groups⟩
    exact ⟨memberships, assignments, groups⟩
  · intro t t' change held wrote unreferenced
    exact held.wrote wrote unreferenced

theorem Intact.offers (intact : s.Intact) (offers : s.Offers s') : s'.Intact := by
  obtain rfl | ⟨c, offered, rfl⟩ := offers
  · exact intact
  · apply intact.afterAll [.call c]
    intro c' mem
    cases List.mem_singleton.mp mem
    exact offered

/-- If the references of the loaded rows are intact, they are so in memory and in the tables
after any run of offered calls, whichever writes fail, and no request breaks them. And the seats
that are reported as used are the editors that are listed. -/
theorem references_stay_intact {terms : Terms} {storage storage' : Storage} {s₀ : System}
    (started : start terms storage = (.ok s₀, storage')) (loaded : storage'.Intact)
    (events : List Event) (offered : ∀ c, Event.call c ∈ events → c.isOffered = true) :
    let s := s₀.afterAll events
    s.Intact ∧ s.storage.Intact ∧ (∀ t r, (Web.serve t s r).2.Intact) ∧
      (s.registry.users.size ≤ maxWord32 → s.seatStatus.used = s.editors.length) := by
  intro s
  obtain ⟨mirrored₀, _, rfl, _⟩ := mirrored_of_start started
  have mirrored : s.Mirrored := (mirrored₀.afterAll events).1
  have intact : s.Intact := (mirrored₀.intact_iff.mp loaded).afterAll events offered
  refine ⟨intact, mirrored.intact_iff.mpr intact, ?_, ?_⟩
  · intro t r
    exact intact.offers (offers_serve t s r)
  · exact used_seats fun u editor => intact.mem_users mirrored editor

/-- One user, who edits everything through a group on the first folder that is founded. -/
def staffOnRoot : Storage :=
  let now := Instant.ofParts 1704067200 0
  { Storage.empty with
    users := .lay .empty 0 ⟨⟨1⟩, "ann@example.org", none, none, true, now, now⟩ 1
    roles := .lay .empty 0 ⟨⟨2⟩, "Editor", none, ["change_asset"], false, now⟩ 1
    groups := .lay .empty 0 ⟨⟨3⟩, "Staff", ⟨Supply.counted 1⟩, false, now⟩ 1
    memberships := .lay .empty 0 ⟨⟨1⟩, ⟨3⟩, now⟩ 1
    assignments := .lay .empty 0 ⟨⟨4⟩, ⟨2⟩, none, some ⟨3⟩, ⟨Supply.counted 1⟩, true, now⟩ 1 }

theorem staffOnRoot_intact : (founded ⟨"Root", ⟨2, 8⟩, .standard⟩ staffOnRoot).storage.Intact := by
  let t := (founded ⟨"Root", ⟨2, 8⟩, .standard⟩ staffOnRoot).storage
  have members : ∀ m ∈ t.memberships.all, (∃ row ∈ t.users.all, row.id = m.user) ∧
      ∃ row ∈ t.groups.all, row.id = m.group := by
    decide +kernel
  have grants : ∀ a ∈ t.assignments.all, (a.user = none ∧ a.group = some ⟨3⟩ ∧
      ∃ row ∈ t.groups.all, row.id = ⟨3⟩) ∧ (∃ row ∈ t.roles.all, row.id = a.role) ∧
      ∃ row ∈ t.folders.all, row.id = a.folder := by
    decide +kernel
  have owners : ∀ g ∈ t.groups.all, ∃ row ∈ t.folders.all, row.id = g.folder := by
    decide +kernel
  refine ⟨?_, ?_, owners⟩
  · intro m listed
    exact ⟨(members m listed).1, (members m listed).2⟩
  · intro a listed
    obtain ⟨principal, role, folder⟩ := grants a listed
    exact ⟨Or.inr ⟨⟨3⟩, principal⟩, role, folder⟩

theorem owned_folder_stays :
    let s := (founded ⟨"Root", ⟨2, 8⟩, .standard⟩ staffOnRoot).afterAll
      [.call (.createFolder ⟨"Assets", none, none⟩),
        .call (.createGroup ⟨"Owners", ⟨Supply.counted 2⟩⟩),
        .call (.discardFolder ⟨Supply.counted 2⟩)]
    s.registry.references ⟨Supply.counted 2⟩ = 1 ∧
      s.hierarchy.contains ⟨Supply.counted 2⟩ = true ∧ s.storage.Intact ∧
      s.seatStatus.used = 1 ∧ s.editors.length = 1 := by
  intro s
  have owned : s.registry.references ⟨Supply.counted 2⟩ = 1 ∧
      s.hierarchy.contains ⟨Supply.counted 2⟩ = true := by
    decide +kernel
  have few : s.registry.users.size ≤ maxWord32 := by
    decide +kernel
  have used : s.seatStatus.used = 1 := by
    decide +kernel
  have started := start_founded ⟨"Root", ⟨2, 8⟩, .standard⟩ staffOnRoot rfl rfl
  have offered : ∀ c, Event.call c ∈
      [.call (.createFolder ⟨"Assets", none, none⟩),
        .call (.createGroup ⟨"Owners", ⟨Supply.counted 2⟩⟩),
        Event.call (.discardFolder ⟨Supply.counted 2⟩)] → c.isOffered = true := by
    simp [Call.isOffered]
  obtain ⟨_, tables, _, seats⟩ := references_stay_intact started staffOnRoot_intact _ offered
  exact ⟨owned.1, owned.2, tables, used, (seats few).symm.trans used⟩

end System

end Perimeter
