import Perimeter.Proofs.Editors
import Perimeter.Proofs.Permissions

/-!
# Entitlement

What it means to hold a permission, in the terms of the stored rows: the user is active, and
some stored assignment `Gives` the permission on the folder. Editors are found from assignments
to users and grants from users to assignments; `reaches_iff` and `mem_principalUsers` say that
both ask whether the assignment `Addresses` the user. From that `hasPermission_iff` reads the
answer of the query on every tree, and `permission_means_entitlement` for every registry over
every hierarchy that a run leads to.
-/

namespace Perimeter

namespace Registry

variable {r : Registry} {u : UserId} {a : Assignment}

/-- The assignment names the user and no group, or no user and a group that the user is in. -/
def Addresses (r : Registry) (a : Assignment) (u : UserId) : Prop :=
  a.user = some u ∧ a.group = none ∨
    ∃ g, a.user = none ∧ a.group = some g ∧ ∃ m, r.memberships[(⟨u, g⟩ : MemberKey)]? = some m

theorem principal?_eq_user : a.principal? = some (.user u) ↔ a.user = some u ∧ a.group = none := by
  unfold Assignment.principal?
  cases a.user <;> cases a.group <;> simp

theorem principal?_eq_group {g : GroupId} :
    a.principal? = some (.group g) ↔ a.user = none ∧ a.group = some g := by
  unfold Assignment.principal?
  cases a.user <;> cases a.group <;> simp

theorem mem_groupsOf {g : GroupId} :
    g ∈ r.groupsOf u ↔ ∃ m, r.memberships[(⟨u, g⟩ : MemberKey)]? = some m := by
  rw [groupsOf, mem_ofList_keys]
  simp only [Option.ite_none_right_eq_some, Option.some.injEq]
  constructor
  · rintro ⟨k, member, rfl, rfl⟩
    exact member
  · intro member
    exact ⟨⟨u, g⟩, member, rfl, rfl⟩

/-- Seen from the user, an assignment reaches whom it addresses. -/
theorem reaches_iff : reaches u (r.groupsOf u) a = true ↔ r.Addresses a u := by
  unfold reaches Addresses
  split
  · next v named =>
    obtain ⟨user, group⟩ := principal?_eq_user.mp named
    simp [user, group]
  · next g named =>
    obtain ⟨user, group⟩ := principal?_eq_group.mp named
    simp [user, group, Std.ExtTreeSet.contains_iff_mem, mem_groupsOf]
  · next malformed =>
    simp only [Bool.false_eq_true, false_iff]
    rintro (direct | ⟨g, user, group, _⟩)
    · exact absurd (principal?_eq_user.mpr direct) (by simp [malformed])
    · exact absurd (principal?_eq_group.mpr ⟨user, group⟩) (by simp [malformed])

/-- Seen from the assignment, it reaches whom it addresses. -/
theorem mem_principalUsers :
    (∃ p, a.principal? = some p ∧ u ∈ r.principalUsers p) ↔ r.Addresses a u := by
  constructor
  · rintro ⟨p, named, reached⟩
    cases p with
    | user v =>
      rw [principalUsers, mem_insert_iff] at reached
      obtain rfl := reached.resolve_right Std.ExtTreeSet.not_mem_empty
      exact Or.inl (principal?_eq_user.mp named)
    | group g =>
      obtain ⟨user, group⟩ := principal?_eq_group.mp named
      exact Or.inr ⟨g, user, group, mem_membersOf.mp reached⟩
  · rintro (direct | ⟨g, user, group, member⟩)
    · exact ⟨.user u, principal?_eq_user.mpr direct, mem_insert_iff.mpr (Or.inl rfl)⟩
    · exact ⟨.group g, principal?_eq_group.mpr ⟨user, group⟩, mem_membersOf.mpr member⟩

/-- The grants of a user are those of the assignments that address the user, if the user is
active and the roles are stored. -/
theorem mem_grantsOf {g : Grant} :
    g ∈ r.grantsOf u ↔ (∃ row, r.users[u]? = some row ∧ row.isActive = true) ∧
      ∃ (id : AssignmentId) (a : Assignment), r.assignments[id]? = some a ∧ r.Addresses a u ∧
        ∃ role, r.roles[a.role]? = some role ∧
          g = ⟨a.folder, a.recursive, role.permissions⟩ := by
  have granted : g ∈ (r.assignmentsOf u).filterMap r.grantOf? ↔
      ∃ (id : AssignmentId) (a : Assignment), r.assignments[id]? = some a ∧ r.Addresses a u ∧
        ∃ role, r.roles[a.role]? = some role ∧
          g = ⟨a.folder, a.recursive, role.permissions⟩ := by
    simp only [List.mem_filterMap, assignmentsOf, List.mem_filter, mem_values, reaches_iff,
      grantOf?, Option.map_eq_some_iff]
    constructor
    · rintro ⟨a, ⟨⟨id, stored⟩, addressed⟩, role, known, rfl⟩
      exact ⟨id, a, stored, addressed, role, known, rfl⟩
    · rintro ⟨id, a, stored, addressed, role, known, rfl⟩
      exact ⟨a, ⟨⟨id, stored⟩, addressed⟩, role, known, rfl⟩
  unfold grantsOf
  cases r.users[u]? with
  | none => simp
  | some row =>
    cases active : row.isActive with
    | false => simp [active]
    | true => simp [active, granted]

end Registry

namespace System

variable {s : System} {u : UserId} {codename : String} {f : FolderId}

/-- What makes an assignment give a user a permission on a folder. -/
structure Gives (s : System) (u : UserId) (codename : String) (f : FolderId)
    (a : Assignment) : Prop where
  addressed : s.registry.Addresses a u
  listed : ∃ role, s.registry.roles[a.role]? = some role ∧ codename ∈ role.permissions
  covered : a.folder = f ∨ a.recursive = true ∧ s.hierarchy.Above a.folder f

/-- The user is active, and a stored assignment gives the permission on the folder. -/
def Entitled (s : System) (u : UserId) (codename : String) (f : FolderId) : Prop :=
  (∃ row, s.registry.users[u]? = some row ∧ row.isActive = true) ∧
    ∃ (id : AssignmentId) (a : Assignment),
      s.registry.assignments[id]? = some a ∧ s.Gives u codename f a

theorem entitled_iff_grant :
    s.Entitled u codename f ↔
      ∃ g ∈ s.registry.grantsOf u, g.carries codename = true ∧ g.Reaches s.hierarchy f := by
  simp only [Registry.mem_grantsOf]
  constructor
  · rintro ⟨active, id, a, stored, addressed, ⟨role, known, listed⟩, covered⟩
    refine ⟨_, ⟨active, id, a, stored, addressed, role, known, rfl⟩, ?_, covered⟩
    exact List.contains_iff_mem.mpr listed
  · rintro ⟨g, ⟨active, id, a, stored, addressed, role, known, rfl⟩, carries, reaches⟩
    refine ⟨active, id, a, stored, addressed, ⟨role, known, ?_⟩, reaches⟩
    exact List.contains_iff_mem.mp carries

theorem hasPermission_of_absent (absent : s.registry.users[u]? = none) :
    s.hasPermission u codename f = .error (.userMissing u) := by
  unfold hasPermission requireUser
  rw [absent]
  rfl

theorem hasPermission_of_stored {row : User} (stored : s.registry.users[u]? = some row) :
    s.hasPermission u codename f =
      Grant.allow s.hierarchy (s.registry.grantsOf u) codename f := by
  unfold hasPermission requireUser
  rw [stored]
  rfl

/-- On a tree the query answers for every stored user and folder, and the answer is whether the
user is entitled. -/
theorem hasPermission_iff (tree : s.hierarchy.IsTree) (codename : String) {row : User}
    (stored : s.registry.users[u]? = some row) (present : s.hierarchy.contains f = true) :
    ∃ b, s.hasPermission u codename f = .ok b ∧ (b = true ↔ s.Entitled u codename f) := by
  rw [hasPermission_of_stored stored, entitled_iff_grant]
  exact Grant.allow_iff tree (s.registry.grantsOf u) codename present

/-- A user or a folder that is not there is what the query fails for, and nothing else. -/
theorem hasPermission_notFound_iff (tree : s.hierarchy.IsTree) (codename : String) :
    (∃ e, s.hasPermission u codename f = .error e ∧ e.kind = .notFound) ↔
      s.registry.users[u]? = none ∨ s.hierarchy.contains f = false := by
  cases known : s.registry.users[u]? with
  | none =>
    simp only [true_or, iff_true]
    exact ⟨_, hasPermission_of_absent known, rfl⟩
  | some row =>
    cases present : s.hierarchy.contains f with
    | false =>
      simp only [or_true, iff_true]
      refine ⟨.folderMissing f, ?_, rfl⟩
      rw [hasPermission_of_stored known, Grant.allow, present]
      rfl
    | true =>
      obtain ⟨b, answered, _⟩ := hasPermission_iff tree codename known present
      simp [answered]

/-- Over the hierarchy of every state of a run from a boot, and over any registry, a permission
is asked for in vain only of a user or a folder that is not there, and otherwise the answer says
whether the user is entitled. -/
theorem permission_means_entitlement {terms : Terms} {storage storage' : Storage}
    {h : Hierarchy} (booted : bootHierarchy terms.rootName storage = (.ok h, storage'))
    (first r : Registry) (events : List Event) (u : UserId) (codename : String) (f : FolderId) :
    let reached := (⟨terms, h, first, storage'⟩ : System).afterAll events
    let s : System := { reached with registry := r }
    let missing := s.registry.users[u]? = none ∨ s.hierarchy.contains f = false
    ((∃ e, s.hasPermission u codename f = .error e ∧ e.kind = .notFound) ↔ missing) ∧
      (¬ missing →
        ∃ b, s.hasPermission u codename f = .ok b ∧ (b = true ↔ s.Entitled u codename f)) := by
  intro reached s missing
  have tree : s.hierarchy.IsTree :=
    ((grounded_of_boot booted terms first).1.afterAll events).1.tree
  refine ⟨hasPermission_notFound_iff tree codename, ?_⟩
  intro there
  rw [not_or, Bool.not_eq_false] at there
  obtain ⟨row, stored⟩ := Option.ne_none_iff_exists'.mp there.1
  exact hasPermission_iff tree codename stored there.2

/-- One user who reads through a group, on a folder and everything below. -/
def staffReads (folder : FolderId) : Registry :=
  let now := Instant.ofParts 1704067200 0
  .ofRows [⟨⟨1⟩, "ann@example.org", none, none, true, now, now⟩]
    [⟨⟨2⟩, "Reader", none, ["view_asset"], false, now⟩] [⟨⟨3⟩, "Staff", folder, false, now⟩]
    [⟨⟨1⟩, ⟨3⟩, now⟩] [⟨⟨4⟩, ⟨2⟩, none, some ⟨3⟩, folder, true, now⟩]

theorem staff_entitled_below_root :
    let reached := (founded ⟨"Root", ⟨2, 8⟩, .standard⟩ .empty).afterAll
      [.call (.createFolder ⟨"Assets", none, none⟩)]
    let s : System := { reached with registry := staffReads ⟨Supply.counted 1⟩ }
    s.hasPermission ⟨1⟩ "view_asset" ⟨Supply.counted 2⟩ = .ok true ∧
      s.Entitled ⟨1⟩ "view_asset" ⟨Supply.counted 2⟩ := by
  intro reached s
  have asked : s.hasPermission ⟨1⟩ "view_asset" ⟨Supply.counted 2⟩ = .ok true := by
    decide +kernel
  have there : ¬ (s.registry.users[(⟨1⟩ : UserId)]? = none ∨
      s.hierarchy.contains ⟨Supply.counted 2⟩ = false) := by
    decide +kernel
  have booted := boot_founded ⟨"Root", ⟨2, 8⟩, .standard⟩ .empty rfl rfl
  obtain ⟨b, answered, meaning⟩ := (permission_means_entitlement booted
    (founded ⟨"Root", ⟨2, 8⟩, .standard⟩ .empty).registry (staffReads ⟨Supply.counted 1⟩)
    [.call (.createFolder ⟨"Assets", none, none⟩)] ⟨1⟩ "view_asset" ⟨Supply.counted 2⟩).2 there
  cases asked.symm.trans answered
  exact ⟨asked, meaning.mp rfl⟩

end System

end Perimeter
