import Perimeter.Proofs.Entitlement
import Perimeter.Proofs.Pages
import Perimeter.Proofs.Reordering

/-!
# Listings

What is listed is gathered from maps, whose rows come in an order of their own, and is one list all
the same (`Listed`): it is sorted by a comparison that tells the rows apart, or gathered in a sorted
set. All comparisons but one have the ids at their end, or nothing else. Roles are compared by their
names alone, and these differ in every state of a run because a new role takes a new name
(`rolesNamed_afterAll`). So what is listed follows from which rows are stored
(`listings_depend_on_rows_alone`).
-/

namespace Perimeter

variable {α β κ : Type}

/-- A listing of what `P` holds of: it goes through that in strictly ascending order, and is
gathered from the stored rows in whatever order these come. -/
structure Listed (cmp : α → α → Ordering) (P : α → Prop) (gather : List β → List α)
    (stored : List β) (l : List α) : Prop where
  enumerates : Enumerates cmp P l
  gathered : ∀ rows, rows.Perm stored → gather rows = l

theorem Listed.of_iff {cmp : α → α → Ordering} {P Q : α → Prop} {gather : List β → List α}
    {stored : List β} {l : List α} (listed : Listed cmp P gather stored l)
    (same : ∀ a, P a ↔ Q a) : Listed cmp Q gather stored l :=
  ⟨listed.enumerates.of_iff same, listed.gathered⟩

/-! ## Sorted listings -/

namespace Table

variable [Ord κ] [Std.TransOrd κ] [Std.LawfulEqOrd κ] [Stored α κ] {t : Table α κ}
  {cmp : α → α → Ordering} [Std.TransCmp cmp]

/-- Sorting the rows that pass a test makes a listing, if the comparison tells the rows apart. -/
theorem listed_filter (apart : Apart cmp t.all) (p : α → Bool) :
    Listed cmp (fun a => a ∈ t.all ∧ p a = true) (fun rows => sortBy cmp (rows.filter p)) t.all
      (sortBy cmp (t.contents.values.filter p)) where
  enumerates := by
    have perm := t.contents_values_perm
    apply enumerates_sortBy
    · exact apart.of_subset fun a ha => perm.mem_iff.mp (List.mem_of_mem_filter ha)
    · exact (perm.nodup_iff.mpr t.nodup_all).filter p
    · intro a
      rw [List.mem_filter, perm.mem_iff]
  gathered := by
    intro rows perm
    apply sortBy_congr
    · exact apart.of_subset fun a ha => perm.mem_iff.mp (List.mem_of_mem_filter ha)
    · exact (perm.trans t.contents_values_perm.symm).filter p

theorem listed (apart : Apart cmp t.all) :
    Listed cmp (· ∈ t.all) (sortBy cmp) t.all (sortBy cmp t.contents.values) := by
  simpa only [List.filter_true, and_true] using listed_filter apart fun _ => true

end Table

namespace Registry

variable {r : Registry}

/-! ## Names of roles -/

/-- No two roles have one name. -/
def RolesNamed (r : Registry) : Prop :=
  ∀ (i j : RoleId) a b, r.roles[i]? = some a → r.roles[j]? = some b → a.name = b.name → a = b

theorem roleNameTaken_eq_false {name : String} :
    r.roleNameTaken name = false ↔
      ∀ (id : RoleId) role, r.roles[id]? = some role → role.name ≠ name := by
  simp only [roleNameTaken, List.any_eq_false, mem_values, decide_eq_true_eq]
  constructor
  · exact fun free id role stored => free role ⟨id, stored⟩
  · rintro free role ⟨id, stored⟩
    exact free id role stored

theorem RolesNamed.insert {role : Role} (named : r.RolesNamed)
    (free : r.roleNameTaken role.name = false) :
    ({ r with roles := r.roles.insert role.id role } : Registry).RolesNamed := by
  rw [roleNameTaken_eq_false] at free
  intro i j a b ha hb same
  simp only [lookup_insert] at ha hb
  split at ha
  · cases ha
    split at hb
    · cases hb
      rfl
    · exact absurd same.symm (free j b hb)
  · split at hb
    · cases hb
      exact absurd same (free i a ha)
    · exact named i j a b ha hb same

end Registry

namespace System

variable {s : System}

theorem rolesNamed_afterAll (named : s.registry.RolesNamed) (events : List Event) :
    (s.afterAll events).registry.RolesNamed := by
  refine afterAll_of_writes (P := fun t => t.registry.RolesNamed) named (fun _ _ held => held) ?_
    events
  intro t t' c held wrote
  rw [wrote.registry_eq]
  obtain ⟨checked, _⟩ := wrote
  cases c with
  | addRole role => exact held.insert checked
  | _ => exact held

end System

/-! ## Sets of ids -/

namespace Storage

/-- The user is stored as a member of the group. -/
def Member (s : Storage) (u : UserId) (g : GroupId) : Prop :=
  ∃ m ∈ s.memberships.all, m.user = u ∧ m.group = g

/-- Some stored assignment gives a stored role that makes editors to the user, or to a group that
the user is stored as a member of. -/
def MakesEditor (s : Storage) (l : License) (u : UserId) : Prop :=
  ∃ a ∈ s.assignments.all, (∃ role ∈ s.roles.all, role.id = a.role ∧ l.grantsEdit role = true) ∧
    (a.principal? = some (.user u) ∨ ∃ g, a.principal? = some (.group g) ∧ s.Member u g)

end Storage

namespace System.Mirrored

variable {s : System} {u : UserId} {g : GroupId}

theorem member_iff (mirrored : s.Mirrored) :
    (∃ m, s.registry.memberships[(⟨u, g⟩ : MemberKey)]? = some m) ↔ s.storage.Member u g := by
  rw [mirrored.registry.memberships]
  simp only [Table.getElem?_contents, Table.find?_eq_some]
  refine exists_congr fun m => and_congr_right fun _ => ?_
  exact iff_of_eq (MemberKey.mk.injEq _ _ _ _)

theorem mem_membersOf (mirrored : s.Mirrored) :
    u ∈ s.registry.membersOf g ↔ s.storage.Member u g :=
  Registry.mem_membersOf.trans mirrored.member_iff

theorem mem_groupsOf (mirrored : s.Mirrored) :
    g ∈ s.registry.groupsOf u ↔ s.storage.Member u g :=
  Registry.mem_groupsOf.trans mirrored.member_iff

theorem makes_iff (mirrored : s.Mirrored) {a : Assignment} :
    s.registry.Makes s.terms.license a u ↔
      (∃ role ∈ s.storage.roles.all, role.id = a.role ∧ s.terms.license.grantsEdit role = true) ∧
        (a.principal? = some (.user u) ∨
          ∃ g, a.principal? = some (.group g) ∧ s.storage.Member u g) := by
  rw [Registry.Makes, Registry.makesEditors_iff, mirrored.registry.roles]
  simp only [Table.getElem?_contents, Table.find?_eq_some, and_assoc]
  refine and_congr_right fun _ => ?_
  simp only [Registry.mem_principalUsers, Registry.Addresses, mirrored.member_iff,
    Registry.principal?_eq_user, Registry.principal?_eq_group, and_assoc]

theorem mem_editors (mirrored : s.Mirrored) :
    u ∈ s.registry.editors s.terms.license ↔ s.storage.MakesEditor s.terms.license u := by
  rw [Registry.mem_editors, mirrored.registry.assignments]
  simp only [Table.getElem?_contents, Table.find?_eq_some, mirrored.makes_iff]
  constructor
  · rintro ⟨_, a, ⟨stored, _⟩, makes⟩
    exact ⟨a, stored, makes⟩
  · rintro ⟨a, stored, makes⟩
    exact ⟨_, a, ⟨stored, rfl⟩, makes⟩

/-- The users of a set of ids are listed by these. -/
theorem enumerates_usersOf (mirrored : s.Mirrored) (ids : IdSet .user) :
    Enumerates (compareOn User.id) (fun u => u ∈ s.storage.users.all ∧ u.id ∈ ids)
      (s.registry.usersOf ids) := by
  have row : ∀ (k : UserId) u, s.registry.users[k]? = some u ↔
      u ∈ s.storage.users.all ∧ u.id = k := by
    intro k u
    rw [mirrored.registry.users, Table.getElem?_contents, Table.find?_eq_some]
    rfl
  refine (enumerates_filterMap (fun k u found => ((row k u).mp found).2) ids).of_iff fun u => ?_
  rw [row, and_comm]
  simp

end System.Mirrored

/-! ## The listings of a system -/

namespace System

variable {s : System}

/-- What each listing goes through, and in which order. The folders and the users are handed out
in pages of theirs. -/
structure Lists (s : System) : Prop where
  folders : ∃ l, (∀ r, s.listFolders r = Page.ofList? l r) ∧
    Listed Folder.compareByName (· ∈ s.storage.folders.all) Folder.sortByName
      s.storage.folders.all l
  children : ∀ f ∈ s.storage.folders.all, ∃ l, s.hierarchy.children f.id = .ok l ∧
    Listed Folder.compareByName (fun c => c ∈ s.storage.folders.all ∧ c.parent = some f.id)
      (fun rows => Folder.sortByName (rows.filter (·.parent = some f.id)))
      s.storage.folders.all l
  users : ∃ l, (∀ r, s.listUsers r = Page.ofList? l r) ∧
    Listed User.compareByAge (· ∈ s.storage.users.all) User.sortByAge s.storage.users.all l
  roles : Listed (compareOn Role.name) (· ∈ s.storage.roles.all) Role.sortByName
    s.storage.roles.all s.registry.sortedRoles
  groups : Listed Group.compareByName (· ∈ s.storage.groups.all) Group.sortByName
    s.storage.groups.all s.registry.sortedGroups
  assignments : ∀ folder : Option FolderId,
    Listed Assignment.compareByAge
      (fun a => a ∈ s.storage.assignments.all ∧ ∀ f ∈ folder, a.folder = f)
      (fun rows => Assignment.sortByAge (rows.filter fun a => folder.all (a.folder = ·)))
      s.storage.assignments.all (s.registry.sortedAssignments folder)
  members : ∀ g ∈ s.storage.groups.all, ∃ l, s.groupMembers g.id = .ok l ∧
    Listed (compareOn User.id) (fun u => u ∈ s.storage.users.all ∧ s.storage.Member u.id g.id)
      (fun rows => s.registry.usersOf (.ofList
        (rows.filterMap fun m => if m.group = g.id then some m.user else none) compare))
      s.storage.memberships.all l
  memberOf : ∀ u ∈ s.storage.users.all, ∃ l, s.userGroups u.id = .ok l ∧
    Listed compare (s.storage.Member u.id)
      (fun rows => (Std.ExtTreeSet.ofList
        (rows.filterMap fun m => if m.user = u.id then some m.group else none) compare).toList)
      s.storage.memberships.all l
  editors : Listed (compareOn User.id)
    (fun u => u ∈ s.storage.users.all ∧ s.storage.MakesEditor s.terms.license u.id)
    (fun rows => s.registry.usersOf (.ofList
      (rows.flatMap (s.registry.editorsBy s.terms.license)) compare))
    s.storage.assignments.all s.editors

/-- Two systems answer the same wherever something is listed. -/
structure SameListings (s s' : System) : Prop where
  folders : ∀ r, s'.listFolders r = s.listFolders r
  children : ∀ id, s'.hierarchy.children id = s.hierarchy.children id
  users : ∀ r, s'.listUsers r = s.listUsers r
  roles : s'.registry.sortedRoles = s.registry.sortedRoles
  groups : s'.registry.sortedGroups = s.registry.sortedGroups
  assignments : ∀ folder,
    s'.registry.sortedAssignments folder = s.registry.sortedAssignments folder
  members : ∀ g, s'.groupMembers g = s.groupMembers g
  memberOf : ∀ u, s'.userGroups u = s.userGroups u
  editors : s'.editors = s.editors

/-- The listings do not look at the storage. -/
theorem sameListings_upon (s : System) (t : Storage) : s.SameListings (s.upon t) :=
  ⟨fun _ => rfl, fun _ => rfl, fun _ => rfl, rfl, rfl, fun _ => rfl, fun _ => rfl, fun _ => rfl, rfl⟩

namespace Mirrored

theorem listed_folders (mirrored : s.Mirrored) :
    Listed Folder.compareByName (· ∈ s.storage.folders.all) Folder.sortByName
      s.storage.folders.all s.hierarchy.sorted := by
  have apart : Apart Folder.compareByName s.storage.folders.all :=
    Table.apart_of_key fun _ _ => eq_of_then_compare
  rw [Hierarchy.sorted, mirrored.rows]
  exact Table.listed apart

theorem listed_children (mirrored : s.Mirrored) {f : Folder}
    (stored : f ∈ s.storage.folders.all) :
    ∃ l, s.hierarchy.children f.id = .ok l ∧
      Listed Folder.compareByName (fun c => c ∈ s.storage.folders.all ∧ c.parent = some f.id)
        (fun rows => Folder.sortByName (rows.filter (·.parent = some f.id)))
        s.storage.folders.all l := by
  have apart : Apart Folder.compareByName s.storage.folders.all :=
    Table.apart_of_key fun _ _ => eq_of_then_compare
  have row : s.hierarchy.get? f.id = some f := by
    rw [Hierarchy.get?_of_rows mirrored.rows]
    exact Table.mem_all.mp stored
  refine ⟨s.hierarchy.childFolders f.id, ?_, ?_⟩
  · rw [Hierarchy.children, Hierarchy.require_eq_ok.mpr row]
    rfl
  · rw [mirrored.tree.childFolders_eq, mirrored.rows]
    refine (Table.listed_filter apart _).of_iff ?_
    intro c
    rw [decide_eq_true_iff]

theorem listed_users (mirrored : s.Mirrored) :
    Listed User.compareByAge (· ∈ s.storage.users.all) User.sortByAge s.storage.users.all
      s.registry.sortedUsers := by
  have apart : Apart User.compareByAge s.storage.users.all :=
    Table.apart_of_key fun _ _ => eq_of_then_compare
  rw [Registry.sortedUsers, mirrored.registry.users]
  exact Table.listed apart

/-- Roles are told apart by their names as long as these differ. -/
theorem listed_roles (mirrored : s.Mirrored) (named : s.registry.RolesNamed) :
    Listed (compareOn Role.name) (· ∈ s.storage.roles.all) Role.sortByName s.storage.roles.all
      s.registry.sortedRoles := by
  have apart : Apart (compareOn Role.name) s.storage.roles.all := by
    intro a ha b hb level
    rw [Table.mem_all, ← Table.getElem?_contents, ← mirrored.registry.roles] at ha hb
    exact named _ _ a b ha hb (Std.LawfulEqCmp.compare_eq_iff_eq.mp level)
  rw [Registry.sortedRoles, mirrored.registry.roles]
  exact Table.listed apart

theorem listed_groups (mirrored : s.Mirrored) :
    Listed Group.compareByName (· ∈ s.storage.groups.all) Group.sortByName s.storage.groups.all
      s.registry.sortedGroups := by
  have apart : Apart Group.compareByName s.storage.groups.all :=
    Table.apart_of_key fun _ _ => eq_of_then_compare
  rw [Registry.sortedGroups, mirrored.registry.groups]
  exact Table.listed apart

theorem listed_assignments (mirrored : s.Mirrored) (folder : Option FolderId) :
    Listed Assignment.compareByAge
      (fun a => a ∈ s.storage.assignments.all ∧ ∀ f ∈ folder, a.folder = f)
      (fun rows => Assignment.sortByAge (rows.filter fun a => folder.all (a.folder = ·)))
      s.storage.assignments.all (s.registry.sortedAssignments folder) := by
  have apart : Apart Assignment.compareByAge s.storage.assignments.all :=
    Table.apart_of_key fun _ _ => eq_of_then_compare
  rw [Registry.sortedAssignments, mirrored.registry.assignments]
  refine (Table.listed_filter apart _).of_iff ?_
  intro a
  cases folder <;> simp

theorem listed_members (mirrored : s.Mirrored) {g : Group} (stored : g ∈ s.storage.groups.all) :
    ∃ l, s.groupMembers g.id = .ok l ∧
      Listed (compareOn User.id) (fun u => u ∈ s.storage.users.all ∧ s.storage.Member u.id g.id)
        (fun rows => s.registry.usersOf (.ofList
          (rows.filterMap fun m => if m.group = g.id then some m.user else none) compare))
        s.storage.memberships.all l := by
  have known : s.registry.groups.contains g.id = true := by
    rw [mirrored.registry.groups, Std.ExtTreeMap.contains_iff_mem, Table.mem_contents]
    exact ⟨g, stored, rfl⟩
  refine ⟨s.registry.usersOf (s.registry.membersOf g.id), ?_, ?_, ?_⟩
  · rw [groupMembers, requireGroup_eq_ok.mpr known]
    rfl
  · refine (mirrored.enumerates_usersOf _).of_iff fun u => ?_
    rw [mirrored.mem_membersOf]
  · intro rows perm
    apply congrArg s.registry.usersOf
    apply Std.ExtTreeSet.ext_mem
    intro u
    rw [mem_gathered, mirrored.mem_membersOf]
    simp only [perm.mem_iff, Option.ite_none_right_eq_some, Option.some.injEq, Storage.Member,
      and_comm]

theorem listed_groupsOf (mirrored : s.Mirrored) {u : User} (stored : u ∈ s.storage.users.all) :
    ∃ l, s.userGroups u.id = .ok l ∧
      Listed compare (s.storage.Member u.id)
        (fun rows => (Std.ExtTreeSet.ofList
          (rows.filterMap fun m => if m.user = u.id then some m.group else none) compare).toList)
        s.storage.memberships.all l := by
  have known : s.registry.users[u.id]? = some u := by
    rw [mirrored.registry.users, Table.getElem?_contents]
    exact Table.mem_all.mp stored
  refine ⟨(s.registry.groupsOf u.id).toList, ?_, ?_, ?_⟩
  · rw [userGroups, requireUser_eq_ok.mpr known]
    rfl
  · exact (enumerates_toList _).of_iff fun g => mirrored.mem_groupsOf
  · intro rows perm
    apply congrArg Std.ExtTreeSet.toList
    apply Std.ExtTreeSet.ext_mem
    intro g
    rw [mem_gathered, mirrored.mem_groupsOf]
    simp only [perm.mem_iff, Option.ite_none_right_eq_some, Option.some.injEq, Storage.Member]

theorem listed_editors (mirrored : s.Mirrored) :
    Listed (compareOn User.id)
      (fun u => u ∈ s.storage.users.all ∧ s.storage.MakesEditor s.terms.license u.id)
      (fun rows => s.registry.usersOf (.ofList
        (rows.flatMap (s.registry.editorsBy s.terms.license)) compare))
      s.storage.assignments.all s.editors where
  enumerates := by
    refine (mirrored.enumerates_usersOf _).of_iff fun u => ?_
    rw [mirrored.mem_editors]
  gathered := by
    intro rows perm
    apply congrArg s.registry.usersOf
    apply Std.ExtTreeSet.ext_mem
    intro u
    rw [mirrored.mem_editors, Std.ExtTreeSet.mem_ofList, List.contains_iff_mem, List.mem_flatMap]
    simp only [perm.mem_iff, Registry.mem_editorsBy, mirrored.makes_iff]
    rfl

theorem lists (mirrored : s.Mirrored) (named : s.registry.RolesNamed) : s.Lists where
  folders := ⟨_, fun _ => rfl, mirrored.listed_folders⟩
  children _ := mirrored.listed_children
  users := ⟨_, fun _ => rfl, mirrored.listed_users⟩
  roles := mirrored.listed_roles named
  groups := mirrored.listed_groups
  assignments := mirrored.listed_assignments
  members _ := mirrored.listed_members
  memberOf _ := mirrored.listed_groupsOf
  editors := mirrored.listed_editors

end Mirrored

theorem rolesNamed_of_start {terms : Terms} {storage storage' : Storage}
    (started : start terms storage = (.ok s, storage'))
    (named : (storage.roles.all.map Role.name).Nodup) : s.registry.RolesNamed := by
  obtain ⟨mirrored, _, rfl, t, p, tables⟩ := mirrored_of_start started
  have row : ∀ (id : RoleId) a, s.registry.roles[id]? = some a → a ∈ storage.roles.all := by
    intro id a stored
    rw [mirrored.registry.roles, Table.getElem?_contents, tables] at stored
    exact (Table.find?_eq_some.mp stored).1
  intro i j a b ha hb same
  exact List.inj_on_of_nodup_map named (row i a ha) (row j b hb) same

/-- What is listed does not depend on the order in which the rows were stored, nor on the order in
which they are gone through: a start and a run over the same rows in another order list the same,
and in every state of a run each listing goes once and in strictly ascending order through the rows
that match. -/
theorem listings_depend_on_rows_alone {terms : Terms} {storage storage' after : Storage}
    {s₀ : System} (started : start terms storage = (.ok s₀, after))
    (named : (storage.roles.all.map Role.name).Nodup) (alike : storage.Alike storage') :
    ∃ s₀' after', start terms storage' = (.ok s₀', after') ∧ ∀ events,
      (s₀.afterAll events).SameListings (s₀'.afterAll events) ∧ (s₀.afterAll events).Lists := by
  obtain ⟨t, alike', started'⟩ := start_upon alike started
  refine ⟨_, _, started', fun events => ⟨?_, ?_⟩⟩
  · obtain ⟨t', _, same⟩ := afterAll_upon alike' events
    rw [same]
    exact sameListings_upon _ t'
  · have mirrored := ((mirrored_of_start started).1.afterAll events).1
    exact mirrored.lists (rolesNamed_afterAll (rolesNamed_of_start started named) events)

/-- Two users and two roles, which arrived in the order of the given numbers. -/
def couples (first second : Nat) : Storage :=
  let now := Instant.ofParts 1704067200 0
  let ann : User := ⟨⟨1⟩, "ann@example.org", none, none, true, now, now⟩
  let bob : User := ⟨⟨2⟩, "bob@example.org", none, none, true, now, now⟩
  let reader : Role := ⟨⟨3⟩, "Reader", none, ["view_asset"], false, now⟩
  let editor : Role := ⟨⟨4⟩, "Editor", none, ["change_asset"], false, now⟩
  { Storage.empty with
    users := (Table.lay .empty first ann 2).lay second bob 2
    roles := (Table.lay .empty first reader 2).lay second editor 2 }

theorem couples_listed_alike :
    let terms : Terms := ⟨"Root", ⟨2, 8⟩, ⟨true, 5, ["change_"]⟩⟩
    let events : List Event := [.call (.createRole ⟨"Owner", none, ["view_log"]⟩),
      .call (.assignRole ⟨⟨4⟩, .user ⟨2⟩, ⟨Supply.counted 1⟩, true⟩)]
    let arrivals (s : Storage) := s.users.rows.values.map Prod.fst
    arrivals (couples 0 1) = [0, 1] ∧ arrivals (couples 1 0) = [1, 0] ∧
      ∃ s₀' after', start terms (couples 1 0) = (.ok s₀', after') ∧
        ((founded terms (couples 0 1)).afterAll events).SameListings (s₀'.afterAll events) ∧
        ((founded terms (couples 0 1)).afterAll events).Lists := by
  intro terms events arrivals
  have alike : (couples 0 1).Alike (couples 1 0) := by
    refine ⟨.refl _, Table.perm_iff.mpr ?_, Table.perm_iff.mpr ?_, .refl _, .refl _, .refl _, rfl⟩
    · simp only [couples, Table.contents_lay]
    · simp only [couples, Table.contents_lay]
  have named : ((couples 0 1).roles.all.map Role.name).Nodup := by
    rw [Table.all_of_sorted (by decide +kernel)]
    decide +kernel
  obtain ⟨s₀', after', started, listed⟩ := listings_depend_on_rows_alone
    (start_founded terms (couples 0 1) rfl rfl) named alike
  exact ⟨by decide +kernel, by decide +kernel, s₀', after', started, listed events⟩

end System

end Perimeter
