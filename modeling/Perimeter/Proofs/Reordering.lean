import Perimeter.Proofs.Loading
import Perimeter.Proofs.Runs
import Perimeter.Proofs.Sorting

/-!
# Rows in another order

A table keeps the order in which its rows arrived, and hands them out in it. Two storages are
`Alike` if they hold the same rows in whatever order, and have one supply. No operation tells them
apart: it answers the same over both and leaves them alike (`Agree`), since a write looks only at
what lies under its key. So a start over the one is a start over the other, with the same state in
memory (`start_upon`), and the same calls keep it so (`afterAll_upon`).
-/

namespace Perimeter

variable {α β κ : Type} [Ord κ] [Std.TransOrd κ] [Stored α κ]

/-! ## Tables -/

namespace Table

theorem contains_contents (t : Table α κ) (k : κ) : t.contents.contains k = t.rows.contains k := by
  simp only [contents, Std.ExtTreeMap.contains_map]

variable [Std.LawfulEqOrd κ]

theorem map_contents_create (t : Table α κ) (row : α) :
    (t.create row).map contents =
      if t.contents.contains (Stored.key row) then .error (taken α (Stored.key row))
      else .ok (t.contents.insert (Stored.key row) row) := by
  rw [contains_contents, create]
  split
  · rfl
  · rw [Except.map, contents_lay]

theorem map_contents_update (t : Table α κ) (row : α) :
    (t.update row).map contents =
      if t.contents.contains (Stored.key row) then
        .ok (t.contents.insert (Stored.key row) row)
      else .error (missing α (Stored.key row)) := by
  rw [contains_contents, Std.ExtTreeMap.contains_eq_isSome_getElem?, update]
  cases t.rows[Stored.key row]? with
  | none => rfl
  | some p =>
    change Except.ok (t.lay p.1 row t.arrivals).contents = _
    rw [contents_lay]
    rfl

/-- Where a row is entered, nothing counts but what lies in the table under which key. -/
def Respects (enter : Table α κ → α → Except Fault (Table α κ)) : Prop :=
  ∀ (t t' : Table α κ) (row : α), t.contents = t'.contents →
    (enter t row).map contents = (enter t' row).map contents

theorem respects_create : Respects (create (α := α) (κ := κ)) := by
  intro t t' row same
  rw [map_contents_create, map_contents_create, same]

theorem respects_update : Respects (update (α := α) (κ := κ)) := by
  intro t t' row same
  rw [map_contents_update, map_contents_update, same]

theorem delete_congr {t t' : Table α κ} (same : t.contents = t'.contents) (k : κ) :
    (t.delete k).1 = (t'.delete k).1 ∧ (t.delete k).2.contents = (t'.delete k).2.contents := by
  constructor
  · change t.rows.contains k = t'.rows.contains k
    rw [← contains_contents, same, contains_contents]
  · rw [contents_delete, contents_delete, same]

end Table

/-! ## Storages -/

/-- Every table holds the same rows, in whatever order they came, and the supply is the same. -/
structure Storage.Alike (s t : Storage) : Prop where
  folders : s.folders.all.Perm t.folders.all
  users : s.users.all.Perm t.users.all
  roles : s.roles.all.Perm t.roles.all
  groups : s.groups.all.Perm t.groups.all
  memberships : s.memberships.all.Perm t.memberships.all
  assignments : s.assignments.all.Perm t.assignments.all
  supply : s.supply = t.supply

/-- The place of one of the tables, as far as likeness goes. -/
structure Shelf.Fair (shelf : Shelf α κ) : Prop where
  get : ∀ {s t : Storage}, s.Alike t → (shelf.get s).contents = (shelf.get t).contents
  set : ∀ {s t : Storage} {u v : Table α κ}, s.Alike t → u.contents = v.contents →
    (shelf.set s u).Alike (shelf.set t v)

namespace Shelf

theorem fair_folders : folders.Fair where
  get alike := Table.perm_iff.mp alike.folders
  set alike same := { alike with folders := Table.perm_iff.mpr same }

theorem fair_users : users.Fair where
  get alike := Table.perm_iff.mp alike.users
  set alike same := { alike with users := Table.perm_iff.mpr same }

theorem fair_roles : roles.Fair where
  get alike := Table.perm_iff.mp alike.roles
  set alike same := { alike with roles := Table.perm_iff.mpr same }

theorem fair_groups : groups.Fair where
  get alike := Table.perm_iff.mp alike.groups
  set alike same := { alike with groups := Table.perm_iff.mpr same }

theorem fair_memberships : memberships.Fair where
  get alike := Table.perm_iff.mp alike.memberships
  set alike same := { alike with memberships := Table.perm_iff.mpr same }

theorem fair_assignments : assignments.Fair where
  get alike := Table.perm_iff.mp alike.assignments
  set alike same := { alike with assignments := Table.perm_iff.mpr same }

end Shelf

namespace Storage

variable {s t : Storage} {shelf : Shelf α κ}

theorem Alike.supplied (alike : s.Alike t) (p : Supply) : (s.supplied p).Alike (t.supplied p) :=
  { alike with supply := rfl }

/-- One answer, and storages that are alike. -/
def Agree (out out' : Except Fault β × Storage) : Prop := out'.1 = out.1 ∧ out.2.Alike out'.2

theorem Agree.of_eq {out out' : Except Fault β × Storage} {answer : Except Fault β}
    (agree : Agree out out') (ended : out = (answer, s)) :
    ∃ t, s.Alike t ∧ out' = (answer, t) := by
  subst ended
  exact ⟨out'.2, agree.2, Prod.ext agree.1 rfl⟩

theorem agree_put (fair : shelf.Fair) {enter : Table α κ → α → Except Fault (Table α κ)}
    (respects : Table.Respects enter) (draw : Supply → α × Supply) (alike : s.Alike t) :
    Agree (s.put shelf enter draw) (t.put shelf enter draw) := by
  unfold put
  dsimp only [tryWrite]
  rw [← alike.supply]
  split
  · exact ⟨rfl, alike.supplied _⟩
  · generalize draw _ = drawn
    have alike' := alike.supplied drawn.2
    have entered := respects _ _ drawn.1 (fair.get alike')
    cases here : enter (shelf.get (s.supplied drawn.2)) drawn.1 with
    | error e =>
      rw [here] at entered
      have there := map_eq_error.mp entered.symm
      simp only [supplied] at here there
      rw [here, there]
      exact ⟨rfl, alike'⟩
    | ok u =>
      rw [here] at entered
      obtain ⟨v, there, same⟩ := map_eq_ok.mp entered.symm
      simp only [supplied] at here there
      rw [here, there]
      exact ⟨rfl, fair.set alike' same.symm⟩

theorem agree_delete [Std.LawfulEqOrd κ] (fair : shelf.Fair) (k : κ) (alike : s.Alike t) :
    Agree (s.delete shelf k) (t.delete shelf k) := by
  unfold delete
  dsimp only [tryWrite]
  rw [← alike.supply]
  have alike' := alike.supplied { s.supply with writes := s.supply.writes + 1 }
  split
  · exact ⟨rfl, alike'⟩
  · obtain ⟨found, rest⟩ := Table.delete_congr (fair.get alike') k
    exact ⟨congrArg Except.ok found.symm, fair.set alike' rest⟩

end Storage

/-! ## Operations -/

namespace System

variable {s : System} {t : Storage}

/-- The system with another storage behind it. -/
def upon (s : System) (t : Storage) : System := { s with storage := t }

theorem hierarchy_upon (s : System) (t : Storage) : (s.upon t).hierarchy = s.hierarchy := rfl

theorem registry_upon (s : System) (t : Storage) : (s.upon t).registry = s.registry := rfl

/-- One answer, and one state in memory, over storages that are alike. -/
def Agree (out out' : Outcome α) : Prop :=
  ∃ t, out.2.storage.Alike t ∧ out' = (out.1, out.2.upon t)

namespace Agree

theorem rest (alike : s.storage.Alike t) (a : Except Fault α) : Agree (a, s) (a, s.upon t) :=
  ⟨t, alike, rfl⟩

theorem after {out out' : Outcome α} (agree : Agree out out') :
    ∃ t, out.2.storage.Alike t ∧ out'.2 = out.2.upon t := by
  obtain ⟨t, alike, rfl⟩ := agree
  exact ⟨t, alike, rfl⟩

theorem cases {out out' : Outcome α} (agree : Agree out out') :
    ∃ s t, s.storage.Alike t ∧ ((∃ e, out = (.error e, s) ∧ out' = (.error e, s.upon t)) ∨
      ∃ a, out = (.ok a, s) ∧ out' = (.ok a, s.upon t)) := by
  obtain ⟨t, alike, rfl⟩ := agree
  obtain ⟨answer, s⟩ := out
  refine ⟨s, t, alike, ?_⟩
  cases answer with
  | error e => exact Or.inl ⟨e, rfl, rfl⟩
  | ok a => exact Or.inr ⟨a, rfl, rfl⟩

theorem check (alike : s.storage.Alike t) {found : Except Fault β} {next next' : β → Outcome α}
    (go : ∀ b, Agree (next b) (next' b)) :
    Agree (s.check found next) ((s.upon t).check found next') := by
  cases found with
  | error e => exact rest alike _
  | ok b => exact go b

theorem ite {c : Prop} [Decidable c] {x x' y y' : Outcome α} (yes : Agree x x')
    (no : Agree y y') : Agree (if c then x else y) (if c then x' else y') := by
  split
  · exact yes
  · exact no

/-- What is applied to memory after a write does not look at the storage. -/
theorem commit (alike : s.storage.Alike t) {write : Storage → Except Fault α × Storage}
    {apply : System → α → System}
    (writes : ∀ {s t : Storage}, s.Alike t → Storage.Agree (write s) (write t))
    (memory : ∀ (s : System) t a, apply (s.upon t) a = (apply s a).upon t) :
    Agree (s.commit write apply) ((s.upon t).commit write apply) := by
  have agree := writes alike
  unfold System.commit
  change Storage.Agree (write s.storage) (write (s.upon t).storage) at agree
  obtain ⟨same, alike'⟩ := agree
  generalize write s.storage = out at same alike' ⊢
  generalize write (s.upon t).storage = out' at same alike' ⊢
  obtain ⟨answer, st⟩ := out
  obtain ⟨_, st'⟩ := out'
  cases same
  cases answer with
  | error e => exact ⟨st', alike', rfl⟩
  | ok a =>
    let written : System := { s with storage := st }
    have kept : (apply written a).storage = st :=
      congrArg System.storage (memory written st a)
    refine ⟨st', ?_, Prod.ext rfl (memory written st' a)⟩
    change (apply written a).storage.Alike st'
    rw [kept]
    exact alike'

variable [Std.LawfulEqOrd κ] {shelf : Shelf α κ}

theorem create (alike : s.storage.Alike t) (fair : shelf.Fair)
    {build : BitVec 128 → Instant → α} {apply : System → α → System}
    (memory : ∀ (s : System) t a, apply (s.upon t) a = (apply s a).upon t) :
    Agree (s.commit (Storage.create shelf build) apply)
      ((s.upon t).commit (Storage.create shelf build) apply) :=
  commit alike (fun alike => Storage.agree_put fair Table.respects_create _ alike) memory

theorem createTimed (alike : s.storage.Alike t) (fair : shelf.Fair) {build : Instant → α}
    {apply : System → α → System}
    (memory : ∀ (s : System) t a, apply (s.upon t) a = (apply s a).upon t) :
    Agree (s.commit (Storage.createTimed shelf build) apply)
      ((s.upon t).commit (Storage.createTimed shelf build) apply) :=
  commit alike (fun alike => Storage.agree_put fair Table.respects_create _ alike) memory

theorem update (alike : s.storage.Alike t) (fair : shelf.Fair) {build : Instant → α}
    {apply : System → α → System}
    (memory : ∀ (s : System) t a, apply (s.upon t) a = (apply s a).upon t) :
    Agree (s.commit (Storage.update shelf build) apply)
      ((s.upon t).commit (Storage.update shelf build) apply) :=
  commit alike (fun alike => Storage.agree_put fair Table.respects_update _ alike) memory

theorem delete (alike : s.storage.Alike t) (fair : shelf.Fair) {k : κ}
    {apply : System → Bool → System}
    (memory : ∀ (s : System) t a, apply (s.upon t) a = (apply s a).upon t) :
    Agree (s.commit (Storage.delete shelf k) apply)
      ((s.upon t).commit (Storage.delete shelf k) apply) :=
  commit alike (fun alike => Storage.agree_delete fair k alike) memory

end Agree

theorem agree_createFolder (alike : s.storage.Alike t) (d : NewFolder) :
    Agree (s.createFolder d) ((s.upon t).createFolder d) :=
  .check alike fun _ => .check alike fun _ =>
    .create alike Shelf.fair_folders fun _ _ _ => rfl

theorem agree_saveFolder (alike : s.storage.Alike t) (f : Folder) :
    Agree (s.saveFolder f) ((s.upon t).saveFolder f) :=
  .update alike Shelf.fair_folders fun _ _ _ => rfl

theorem agree_moveFolder (alike : s.storage.Alike t) (id parent : FolderId) :
    Agree (s.moveFolder id parent) ((s.upon t).moveFolder id parent) := by
  refine .check alike fun m => ?_
  rcases m with _ | p
  · exact .rest alike _
  · exact .check alike fun f => agree_saveFolder alike _

theorem agree_renameFolder (alike : s.storage.Alike t) (id : FolderId)
    (name description : Option String) :
    Agree (s.renameFolder id name description) ((s.upon t).renameFolder id name description) :=
  .check alike fun _ => .check alike fun _ => .ite (.rest alike _) (agree_saveFolder alike _)

theorem agree_removeFolder (alike : s.storage.Alike t) (id : FolderId) :
    Agree (s.removeFolder id) ((s.upon t).removeFolder id) := by
  refine .check alike fun _ => ?_
  have deleted : Agree (s.commit (Storage.delete .folders id) fun s _ => s)
      ((s.upon t).commit (Storage.delete .folders id) fun s _ => s) :=
    .delete alike Shelf.fair_folders fun _ _ _ => rfl
  obtain ⟨s', t', alike', ⟨e, here, there⟩ | ⟨_, here, there⟩⟩ := deleted.cases
  · rw [here, there]
    exact .rest alike' _
  · rw [here, there]
    exact .check alike' fun f => ⟨t', alike', rfl⟩

theorem agree_discardFolder (alike : s.storage.Alike t) (id : FolderId) :
    Agree (s.discardFolder id) ((s.upon t).discardFolder id) :=
  .ite (agree_removeFolder alike id) (.rest alike _)

/-- The renaming agrees from wherever the move has left the system. -/
theorem agree_changeFolder (alike : s.storage.Alike t) (id : FolderId) (d : FolderChange) :
    Agree (s.changeFolder id d) ((s.upon t).changeFolder id d) := by
  refine .ite (.rest alike _) ?_
  have renamed : ∀ {s : System} {t : Storage} (f : Folder), s.storage.Alike t →
      Agree (if d.name.isSome ∨ d.description.isSome then s.renameFolder id d.name d.description
          else (.ok f, s))
        (if d.name.isSome ∨ d.description.isSome then
            (s.upon t).renameFolder id d.name d.description
          else (.ok f, s.upon t)) :=
    fun f alike => .ite (agree_renameFolder alike id d.name d.description) (.rest alike _)
  dsimp only
  cases d.parent with
  | none =>
    simp only [hierarchy_upon]
    cases s.hierarchy.require id with
    | error e => exact .rest alike _
    | ok f => exact renamed f alike
  | some p =>
    obtain ⟨s', t', alike', ⟨e, here, there⟩ | ⟨f, here, there⟩⟩ :=
      (agree_moveFolder alike id p).cases
    · simp only [here, there]
      exact .rest alike' _
    · simp only [here, there]
      exact renamed f alike'

theorem agree_createUser (alike : s.storage.Alike t) (d : NewUser) :
    Agree (s.createUser d) ((s.upon t).createUser d) := by
  unfold createUser
  generalize Text.lower (Text.trim d.email) = email
  exact .ite (.rest alike _) (.ite (.rest alike _)
    (.create alike Shelf.fair_users fun _ _ _ => rfl))

theorem agree_setUserActive (alike : s.storage.Alike t) (id : UserId) (active : Bool) :
    Agree (s.setUserActive id active) ((s.upon t).setUserActive id active) :=
  .check alike fun _ => .ite (.rest alike _) (.update alike Shelf.fair_users fun _ _ _ => rfl)

theorem agree_createRole (alike : s.storage.Alike t) (d : NewRole) :
    Agree (s.createRole d) ((s.upon t).createRole d) := by
  refine .ite (.rest alike _) ?_
  cases d.permissions.find? fun p => !Codename.isValid p with
  | some bad => exact .rest alike _
  | none => exact .ite (.rest alike _) (.create alike Shelf.fair_roles fun _ _ _ => rfl)

theorem agree_createGroup (alike : s.storage.Alike t) (d : NewGroup) :
    Agree (s.createGroup d) ((s.upon t).createGroup d) :=
  .ite (.rest alike _) (.check alike fun _ =>
    .create alike Shelf.fair_groups fun _ _ _ => rfl)

theorem agree_addMember (alike : s.storage.Alike t) (user : UserId) (group : GroupId) :
    Agree (s.addMember user group) ((s.upon t).addMember user group) := by
  refine .check alike fun _ => .check alike fun _ => ?_
  simp only [registry_upon]
  cases s.registry.memberships[(⟨user, group⟩ : MemberKey)]? with
  | some m => exact .rest alike _
  | none =>
    exact .check alike fun _ => .createTimed alike Shelf.fair_memberships fun _ _ _ => rfl

theorem agree_removeMember (alike : s.storage.Alike t) (user : UserId) (group : GroupId) :
    Agree (s.removeMember user group) ((s.upon t).removeMember user group) := by
  refine .check alike fun _ => .ite ?_ (.rest alike _)
  have deleted : Agree
      (s.commit (Storage.delete .memberships ⟨user, group⟩) fun s _ => { s with registry :=
        { s.registry with memberships := s.registry.memberships.erase ⟨user, group⟩ } })
      ((s.upon t).commit (Storage.delete .memberships ⟨user, group⟩) fun s _ => { s with registry :=
        { s.registry with memberships := s.registry.memberships.erase ⟨user, group⟩ } }) :=
    .delete alike Shelf.fair_memberships fun _ _ _ => rfl
  obtain ⟨s', t', alike', ⟨e, here, there⟩ | ⟨_, here, there⟩⟩ := deleted.cases
  · rw [here, there]
    exact .rest alike' _
  · rw [here, there]
    exact .rest alike' _

theorem agree_assignRole (alike : s.storage.Alike t) (d : NewAssignment) :
    Agree (s.assignRole d) ((s.upon t).assignRole d) :=
  .check alike fun _ => .check alike fun _ => .check alike fun _ => .check alike fun _ =>
    .create alike Shelf.fair_assignments fun _ _ _ => rfl

theorem agree_revokeAssignment (alike : s.storage.Alike t) (id : AssignmentId) :
    Agree (s.revokeAssignment id) ((s.upon t).revokeAssignment id) := by
  refine .check alike fun _ => ?_
  have deleted : Agree (s.commit (Storage.delete .assignments id) fun s _ => s)
      ((s.upon t).commit (Storage.delete .assignments id) fun s _ => s) :=
    .delete alike Shelf.fair_assignments fun _ _ _ => rfl
  obtain ⟨s', t', alike', ⟨e, here, there⟩ | ⟨_, here, there⟩⟩ := deleted.cases
  · rw [here, there]
    exact .rest alike' _
  · rw [here, there]
    exact .check alike' fun f => ⟨t', alike', rfl⟩

/-! ## Runs -/

theorem run_upon (alike : s.storage.Alike t) (c : Call) :
    ∃ t', (c.run s).storage.Alike t' ∧ c.run (s.upon t) = (c.run s).upon t' := by
  unfold Call.run
  cases c with
  | createFolder d => exact (agree_createFolder alike d).after
  | moveFolder id parent => exact (agree_moveFolder alike id parent).after
  | renameFolder id name description =>
    exact (agree_renameFolder alike id name description).after
  | removeFolder id => exact (agree_removeFolder alike id).after
  | discardFolder id => exact (agree_discardFolder alike id).after
  | changeFolder id d => exact (agree_changeFolder alike id d).after
  | createUser d => exact (agree_createUser alike d).after
  | setUserActive id active => exact (agree_setUserActive alike id active).after
  | createRole d => exact (agree_createRole alike d).after
  | createGroup d => exact (agree_createGroup alike d).after
  | addMember user group => exact (agree_addMember alike user group).after
  | removeMember user group => exact (agree_removeMember alike user group).after
  | assignRole d => exact (agree_assignRole alike d).after
  | revokeAssignment id => exact (agree_revokeAssignment alike id).after

theorem after_upon (alike : s.storage.Alike t) (e : Event) :
    ∃ t', (s.after e).storage.Alike t' ∧ (s.upon t).after e = (s.after e).upon t' := by
  cases e with
  | supply p => exact ⟨t.supplied p, alike.supplied p, rfl⟩
  | call c => exact run_upon alike c

/-- A run over a storage that is alike keeps to the same states in memory. -/
theorem afterAll_upon (alike : s.storage.Alike t) (events : List Event) :
    ∃ t', (s.afterAll events).storage.Alike t' ∧
      (s.upon t).afterAll events = (s.afterAll events).upon t' := by
  induction events generalizing s t with
  | nil => exact ⟨t, alike, rfl⟩
  | cons e events ih =>
    obtain ⟨t₁, alike₁, next⟩ := after_upon alike e
    obtain ⟨t', alike', rest⟩ := ih alike₁
    exact ⟨t', alike', (congrArg (afterAll · events) next).trans rest⟩

/-! ## Starts -/

variable {storage storage' after : Storage}

theorem boot_upon {name : String} {h : Hierarchy} (alike : storage.Alike storage')
    (booted : bootHierarchy name storage = (.ok h, after)) :
    ∃ after', after.Alike after' ∧ bootHierarchy name storage' = (.ok h, after') := by
  obtain ⟨reads, found⟩ := boot_eq_ok.mp booted
  rw [alike.supply] at reads
  obtain ⟨none, root, created, single⟩ | ⟨loaded, rfl⟩ := found
  · have founds := Storage.agree_put Shelf.fair_folders Table.respects_create
      (Supply.drawRow fun bits now => Folder.ofRoot name ⟨bits⟩ now) alike
    obtain ⟨after', alike', created'⟩ := founds.of_eq created
    have none' := alike.folders
    rw [none, List.nil_perm] at none'
    exact ⟨after', alike', boot_eq_ok.mpr ⟨reads, Or.inl ⟨none', root, created', single⟩⟩⟩
  · have loaded' := Hierarchy.ofRows_perm alike.folders loaded
    exact ⟨storage', alike, boot_eq_ok.mpr ⟨reads, Or.inr ⟨loaded', rfl⟩⟩⟩

theorem mirrors_of_alike {r : Registry} (alike : storage.Alike storage')
    (mirrors : r.Mirrors storage) : r.Mirrors storage' where
  users := mirrors.users.trans (Shelf.fair_users.get alike)
  roles := mirrors.roles.trans (Shelf.fair_roles.get alike)
  groups := mirrors.groups.trans (Shelf.fair_groups.get alike)
  memberships := mirrors.memberships.trans (Shelf.fair_memberships.get alike)
  assignments := mirrors.assignments.trans (Shelf.fair_assignments.get alike)

/-- What starts over a storage starts over every storage that is alike, with the same state in
memory. -/
theorem start_upon {terms : Terms} (alike : storage.Alike storage')
    (started : start terms storage = (.ok s, after)) :
    ∃ t, s.storage.Alike t ∧ start terms storage' = (.ok (s.upon t), t) := by
  obtain ⟨booted, loaded, rfl, rfl⟩ := start_eq_ok.mp started
  obtain ⟨t, alike', booted'⟩ := boot_upon alike booted
  have reads := reads_of_loadRegistry loaded
  have mirrors := (loadRegistry_eq_ok reads).mp loaded
  have loaded' : loadRegistry t = .ok s.registry :=
    (loadRegistry_eq_ok (alike'.supply ▸ reads)).mpr (mirrors_of_alike alike' mirrors)
  exact ⟨t, alike', start_eq_ok.mpr ⟨booted', loaded', rfl, rfl⟩⟩

end System

end Perimeter
