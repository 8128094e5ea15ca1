import Perimeter.Proofs.Acceptance
import Perimeter.Proofs.Operations

/-!
# Memory mirrors storage

`Mirrored` says that memory holds exactly the rows of the tables, and that the folders form a
tree. A start establishes it (`mirrored_of_start`), one write keeps it (`Mirrored.wrote`), and
wherever it holds a load from scratch gives back the state in memory (`Mirrored.restart`). The
folders need nothing of the other tables, so their part stands alone as `Grounded`.
-/

namespace Perimeter

/-- The maps of the registry are the contents of the tables. -/
structure Registry.Mirrors (r : Registry) (s : Storage) : Prop where
  users : r.users = s.users.contents
  roles : r.roles = s.roles.contents
  groups : r.groups = s.groups.contents
  memberships : r.memberships = s.memberships.contents
  assignments : r.assignments = s.assignments.contents

/-- The folders form a tree, and their rows are the contents of their table. -/
structure System.Grounded (s : System) : Prop where
  tree : s.hierarchy.IsTree
  rows : s.hierarchy.rows = s.storage.folders.contents

/-- Memory holds exactly what the tables hold. -/
structure System.Mirrored (s : System) : Prop extends s.Grounded where
  registry : s.registry.Mirrors s.storage

/-! ## Rows of a table -/

namespace Hierarchy

variable {h : Hierarchy} {t : Table Folder FolderId}

theorem get?_of_rows (rows : h.rows = t.contents) (id : FolderId) : h.get? id = t.find? id := by
  rw [get?, rows, Table.getElem?_contents]

theorem lists_all (rows : h.rows = t.contents) : Lists t.all h where
  distinct := t.nodup_keys_all
  mem_iff f := by
    rw [get?_of_rows rows]
    exact Table.mem_all

theorem rows_eq_contents (tree : h.IsTree) (lists : Lists t.all h) : h.rows = t.contents := by
  apply Std.ExtTreeMap.ext_getElem?
  intro k
  apply Option.ext
  intro f
  have row : h.rows[k]? = some f ↔ f ∈ t.all ∧ f.id = k := lists.get?_iff tree
  rw [row, Table.getElem?_contents, Table.find?_eq_some]
  rfl

theorem get?_single (root : Folder) (id : FolderId) :
    (single root).get? id = if root.id = id then some root else none := by
  rw [get?, single, lookup_insert, Std.ExtTreeMap.getElem?_empty]

theorem eq_of_get?_single {root f : Folder} {id : FolderId} (row : (single root).get? id = some f) :
    root.id = id ∧ root = f := by
  rw [get?_single] at row
  split at row
  · next same => exact ⟨same, Option.some.inj row⟩
  · cases row

theorem isTree_single {root : Folder} (flag : root.isRoot = true) (top : root.parent = none) :
    (single root).IsTree := by
  have parentless : ∀ id, (single root).parent? id = none := by
    intro id
    rw [parent?, get?_single]
    split
    · exact top
    · rfl
  refine { child_iff := ?_, inhabited := ?_, rooted := ?_, keyed := ?_, inner := ?_, reaches := ?_ }
  · intro p c
    rw [parentless]
    simp [childSet, single]
  · intro p kids found
    simp [single] at found
  · exact ⟨root, by rw [rootFolder?, get?_single]; exact if_pos rfl, flag, top⟩
  · intro id f row
    obtain ⟨same, rfl⟩ := eq_of_get?_single row
    exact same
  · intro id f row other
    exact absurd (eq_of_get?_single row).1.symm other
  · intro id stored
    obtain ⟨f, row⟩ := contains_iff.mp stored
    exact ⟨0, congrArg some (eq_of_get?_single row).1.symm⟩

end Hierarchy

theorem Registry.mirrors_iff {r : Registry} {s : Storage} :
    r.Mirrors s ↔
      .ofRows s.users.all s.roles.all s.groups.all s.memberships.all s.assignments.all = r := by
  have loaded : Registry.ofRows s.users.all s.roles.all s.groups.all s.memberships.all
      s.assignments.all = ⟨s.users.contents, s.roles.contents, s.groups.contents,
        s.memberships.contents, s.assignments.contents⟩ := by
    simp only [ofRows, ← Table.foldl_insert_all]
    rfl
  rw [loaded]
  constructor
  · rintro ⟨users, roles, groups, memberships, assignments⟩
    rw [← users, ← roles, ← groups, ← memberships, ← assignments]
  · rintro rfl
    exact ⟨rfl, rfl, rfl, rfl, rfl⟩

namespace System

variable {s s' : System} {c : Change}

/-! ## One write -/

theorem isTree_saved (tree : s.hierarchy.IsTree) {id : FolderId} {f : Folder}
    (checked : (Change.saveFolder id f).Checked s) : (s.hierarchy.replace f).IsTree := by
  obtain ⟨g, row, same, flag, place, _⟩ := checked
  obtain rfl : f.id = id := same.trans (tree.keyed id g row)
  obtain stays | ⟨p, parent, passed⟩ := place
  · exact tree.replace row stays flag
  · obtain ⟨g', row', plain, inside, present, case⟩ := Hierarchy.checkMove_eq_ok passed
    cases row.symm.trans row'
    obtain ⟨other, _⟩ | ⟨_, other, clear⟩ := case
    · cases other
    · have apart : ¬ s.hierarchy.Above f.id p := by
        rw [← Hierarchy.isAbove_iff, clear]
        exact Bool.false_ne_true
      exact tree.move inside (flag.trans plain) parent present other apart

/-- A write keeps the tree and its root, whatever it changes. -/
theorem Grounded.wrote (grounded : s.Grounded) (wrote : s.Wrote c s') :
    s'.Grounded ∧ s'.hierarchy.root = s.hierarchy.root := by
  obtain ⟨checked, tables, p, entered, rfl⟩ := wrote
  obtain ⟨tree, rows⟩ := grounded
  have get := Hierarchy.get?_of_rows rows
  cases c with
  | addFolder f =>
    obtain ⟨t, created, rfl⟩ := map_eq_ok.mp entered
    obtain ⟨plain, ⟨q, above, placed, parent⟩, _⟩ := checked
    obtain ⟨fresh, contents⟩ := Table.contents_of_create created
    have free : s.hierarchy.get? f.id = none := (get f.id).trans fresh
    have grown := tree.insert free plain parent (tree.contains_of_placeFor placed)
    refine ⟨⟨grown, ?_⟩, Hierarchy.root_insert _ f⟩
    exact (Hierarchy.rows_insert _ f).trans (rows ▸ contents.symm)
  | saveFolder id f =>
    obtain ⟨t, updated, rfl⟩ := map_eq_ok.mp entered
    obtain ⟨_, contents⟩ := Table.contents_of_update updated
    refine ⟨⟨isTree_saved tree checked, ?_⟩, Hierarchy.root_replace _ f⟩
    exact (Hierarchy.rows_replace _ f).trans (rows ▸ contents.symm)
  | dropFolder id =>
    cases entered
    obtain ⟨present, inside, childless⟩ := Hierarchy.checkRemoval_eq_ok checked
    refine ⟨⟨?_, ?_⟩, Hierarchy.root_remove _ id⟩
    · exact tree.remove present inside (tree.toLinked.childCount_eq_zero.mp childless)
    · have erased := Table.contents_delete s.storage.folders id
      exact (Hierarchy.rows_remove present).trans (rows ▸ erased.symm)
  | addUser | saveUser | addRole | addGroup | addMember | addAssignment =>
    obtain ⟨t, _, rfl⟩ := map_eq_ok.mp entered
    exact ⟨⟨tree, rows⟩, rfl⟩
  | dropMember | dropAssignment =>
    cases entered
    exact ⟨⟨tree, rows⟩, rfl⟩

theorem mirrors_of_wrote (mirrors : s.registry.Mirrors s.storage) (wrote : s.Wrote c s') :
    s'.registry.Mirrors s'.storage := by
  obtain ⟨checked, tables, p, entered, rfl⟩ := wrote
  obtain ⟨users, roles, groups, memberships, assignments⟩ := mirrors
  cases c with
  | addFolder | saveFolder =>
    obtain ⟨t, _, rfl⟩ := map_eq_ok.mp entered
    exact ⟨users, roles, groups, memberships, assignments⟩
  | dropFolder =>
    cases entered
    exact ⟨users, roles, groups, memberships, assignments⟩
  | addUser u =>
    obtain ⟨t, created, rfl⟩ := map_eq_ok.mp entered
    have contents := (Table.contents_of_create created).2
    exact ⟨(users ▸ contents).symm, roles, groups, memberships, assignments⟩
  | saveUser id u =>
    obtain ⟨t, updated, rfl⟩ := map_eq_ok.mp entered
    obtain ⟨v, found, same, _⟩ := checked
    have contents := (Table.contents_of_update updated).2
    have own : u.id = id := by
      rw [users, Table.getElem?_contents] at found
      exact same.trans (Table.key_of_find? found)
    have saved : s.registry.users.insert id u = t.contents := by
      rw [users, ← own]
      exact contents.symm
    exact ⟨saved, roles, groups, memberships, assignments⟩
  | addRole r =>
    obtain ⟨t, created, rfl⟩ := map_eq_ok.mp entered
    have contents := (Table.contents_of_create created).2
    exact ⟨users, (roles ▸ contents).symm, groups, memberships, assignments⟩
  | addGroup g =>
    obtain ⟨t, created, rfl⟩ := map_eq_ok.mp entered
    have contents := (Table.contents_of_create created).2
    exact ⟨users, roles, (groups ▸ contents).symm, memberships, assignments⟩
  | addMember m =>
    obtain ⟨t, created, rfl⟩ := map_eq_ok.mp entered
    have contents := (Table.contents_of_create created).2
    exact ⟨users, roles, groups, (memberships ▸ contents).symm, assignments⟩
  | dropMember k =>
    cases entered
    have contents := Table.contents_delete s.storage.memberships k
    exact ⟨users, roles, groups, (memberships ▸ contents).symm, assignments⟩
  | addAssignment a =>
    obtain ⟨t, created, rfl⟩ := map_eq_ok.mp entered
    have contents := (Table.contents_of_create created).2
    exact ⟨users, roles, groups, memberships, (assignments ▸ contents).symm⟩
  | dropAssignment id =>
    cases entered
    have contents := Table.contents_delete s.storage.assignments id
    exact ⟨users, roles, groups, memberships, (assignments ▸ contents).symm⟩

theorem Mirrored.wrote (mirrored : s.Mirrored) (wrote : s.Wrote c s') : s'.Mirrored :=
  ⟨(mirrored.toGrounded.wrote wrote).1, mirrors_of_wrote mirrored.registry wrote⟩

/-! ## Starting -/

theorem readAll_eq_ok {α κ : Type} [Ord κ] [Std.TransOrd κ] [Stored α κ] {shelf : Shelf α κ}
    {storage : Storage} {rows : List α} :
    storage.readAll shelf = .ok rows ↔
      storage.supply.readsRefused = false ∧ (shelf.get storage).all = rows := by
  unfold Storage.readAll
  cases storage.supply.readsRefused <;> simp

theorem contents_of_all_eq_nil {t : Table Folder FolderId} (none : t.all = []) :
    t.contents = ∅ := by
  rw [← Table.foldl_insert_all, none]
  rfl

/-- A boot founds a root where no folder is stored, and else accepts the stored folders. -/
theorem boot_eq_ok {name : String} {storage storage' : Storage} {h : Hierarchy} :
    bootHierarchy name storage = (.ok h, storage') ↔
      storage.supply.readsRefused = false ∧
        ((storage.folders.all = [] ∧ ∃ root,
            storage.create .folders (fun bits now => Folder.ofRoot name ⟨bits⟩ now) =
              (.ok root, storage') ∧ h = .single root) ∨
          Hierarchy.ofRows storage.folders.all = .ok h ∧ storage' = storage) := by
  constructor
  · intro booted
    unfold bootHierarchy at booted
    split at booted
    · cases booted
    · next read =>
      obtain ⟨reads, none⟩ := readAll_eq_ok.mp read
      split at booted
      · cases booted
      · next root _ created =>
        cases booted
        exact ⟨reads, Or.inl ⟨none, root, created, rfl⟩⟩
    · next read =>
      obtain ⟨reads, rfl⟩ := readAll_eq_ok.mp read
      obtain ⟨loaded, rfl⟩ := Prod.mk.inj booted
      exact ⟨reads, Or.inr ⟨loaded, rfl⟩⟩
  · rintro ⟨reads, found⟩
    have read : storage.readAll .folders = .ok storage.folders.all :=
      readAll_eq_ok.mpr ⟨reads, rfl⟩
    unfold bootHierarchy
    rw [read]
    obtain ⟨none, root, created, rfl⟩ | ⟨loaded, rfl⟩ := found
    · rw [none]
      dsimp only
      rw [created]
    · cases stored : storage'.folders.all with
      | nil =>
        rw [stored] at loaded
        cases loaded
      | cons f fs =>
        rw [stored] at loaded
        exact Prod.ext loaded rfl

/-- What is booted is a tree of exactly the folders that are stored afterwards. -/
theorem grounded_of_boot {name : String} {storage storage' : Storage} {h : Hierarchy}
    (booted : bootHierarchy name storage = (.ok h, storage')) (terms : Terms) (r : Registry) :
    (⟨terms, h, r, storage'⟩ : System).Grounded ∧
      ∃ t p, storage' = (Shelf.folders.set storage t).supplied p := by
  obtain ⟨_, ⟨none, root, created, rfl⟩ | ⟨loaded, rfl⟩⟩ := boot_eq_ok.mp booted
  · have blank := contents_of_all_eq_nil none
    obtain ⟨e, p, done⟩ | ⟨q, t, _, entered, done⟩ := Storage.put_cases .folders Table.create
      (Supply.drawRow fun bits now => Folder.ofRoot name ⟨bits⟩ now) storage
    · cases created.symm.trans done
    · cases created.symm.trans done
      have contents := (Table.contents_of_create entered).2
      refine ⟨⟨Hierarchy.isTree_single rfl rfl, ?_⟩, t, _, rfl⟩
      exact (blank ▸ contents).symm
  · obtain ⟨tree, lists⟩ := Hierarchy.ofRows_eq_ok.mp loaded
    exact ⟨⟨tree, Hierarchy.rows_eq_contents tree lists⟩, storage'.folders, storage'.supply, rfl⟩

theorem loadRegistry_eq_ok {storage : Storage} {r : Registry}
    (reads : storage.supply.readsRefused = false) :
    loadRegistry storage = .ok r ↔ r.Mirrors storage := by
  simp only [loadRegistry, Storage.readAll, reads, Bool.false_eq_true, if_false]
  refine Iff.trans ?_ Registry.mirrors_iff.symm
  constructor
  · rintro ⟨⟩
    rfl
  · rintro rfl
    rfl

theorem reads_of_loadRegistry {storage : Storage} {r : Registry}
    (loaded : loadRegistry storage = .ok r) : storage.supply.readsRefused = false := by
  obtain ⟨_, read, _⟩ := bind_eq_ok.mp loaded
  exact (readAll_eq_ok.mp read).1

/-- What starts is a boot and the registry of what is stored after it. -/
theorem start_eq_ok {terms : Terms} {storage storage' : Storage} :
    start terms storage = (.ok s, storage') ↔
      bootHierarchy terms.rootName storage = (.ok s.hierarchy, storage') ∧
        loadRegistry storage' = .ok s.registry ∧ s.terms = terms ∧ s.storage = storage' := by
  unfold start
  constructor
  · intro started
    split at started
    · cases started
    · next h after booted =>
      split at started
      · cases started
      · next r loaded =>
        cases started
        exact ⟨booted, loaded, rfl, rfl⟩
  · rintro ⟨booted, loaded, rfl, rfl⟩
    rw [booted]
    dsimp only
    rw [loaded]

/-- A start mirrors the storage that it leaves, in which at most the folders are others. -/
theorem mirrored_of_start {terms : Terms} {storage storage' : Storage}
    (started : start terms storage = (.ok s, storage')) :
    s.Mirrored ∧ s.terms = terms ∧ s.storage = storage' ∧
      ∃ t p, storage' = (Shelf.folders.set storage t).supplied p := by
  obtain ⟨booted, loaded, rfl, rfl⟩ := start_eq_ok.mp started
  obtain ⟨grounded, frame⟩ := grounded_of_boot booted s.terms s.registry
  have registry := (loadRegistry_eq_ok (reads_of_loadRegistry loaded)).mp loaded
  exact ⟨⟨grounded, registry⟩, rfl, rfl, frame⟩

/-- The system that the first start founds on a storage without folders. -/
def founded (terms : Terms) (storage : Storage) : System where
  terms := terms
  hierarchy := .single (.ofRoot terms.rootName ⟨Supply.counted 1⟩ (.ofParts 1704067200 0))
  registry := .ofRows storage.users.all storage.roles.all storage.groups.all
    storage.memberships.all storage.assignments.all
  storage := (storage.create .folders fun bits now => .ofRoot terms.rootName ⟨bits⟩ now).2

theorem boot_founded (terms : Terms) (storage : Storage) (bare : storage.folders = .empty)
    (fresh : storage.supply = .fresh) : bootHierarchy terms.rootName storage =
      (.ok (founded terms storage).hierarchy, (founded terms storage).storage) := by
  have none : (Table.empty : Table Folder FolderId).all = [] := by decide +kernel
  have read : storage.readAll .folders = .ok [] := by
    rw [readAll_eq_ok, fresh]
    refine ⟨rfl, ?_⟩
    change storage.folders.all = []
    rw [bare, none]
  unfold bootHierarchy
  rw [read]
  obtain ⟨folders, users, roles, groups, memberships, assignments, supply⟩ := storage
  cases bare
  cases fresh
  rfl

theorem start_founded (terms : Terms) (storage : Storage) (bare : storage.folders = .empty)
    (fresh : storage.supply = .fresh) : start terms storage =
      (.ok (founded terms storage), (founded terms storage).storage) := by
  have booted := boot_founded terms storage bare fresh
  obtain ⟨folders, users, roles, groups, memberships, assignments, supply⟩ := storage
  cases bare
  cases fresh
  unfold start
  rw [booted]
  rfl

/-- A load from scratch gives back the state in memory. -/
theorem Mirrored.restart (mirrored : s.Mirrored) {p : Supply} (reads : p.readsRefused = false) :
    start s.terms (s.storage.supplied p) = (.ok (s.supplied p), s.storage.supplied p) := by
  obtain ⟨⟨tree, rows⟩, registry⟩ := mirrored
  have folders := Hierarchy.ofRows_eq_ok.mpr ⟨tree, Hierarchy.lists_all rows⟩
  have loaded : loadRegistry (s.storage.supplied p) = .ok s.registry :=
    (loadRegistry_eq_ok reads).mpr ⟨registry.users, registry.roles, registry.groups,
      registry.memberships, registry.assignments⟩
  exact start_eq_ok.mpr ⟨boot_eq_ok.mpr ⟨reads, Or.inr ⟨folders, rfl⟩⟩, loaded, rfl, rfl⟩

end System

end Perimeter
