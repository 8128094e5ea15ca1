import Perimeter.Proofs.Integrity
import Perimeter.Proofs.Paths

/-!
# Removals

Whether a folder may go is decided by two counts, of the set of its children and of the rows of the
registry that are on it. On a tree the first is zero exactly if no folder names it as its parent,
so the removal that asks first succeeds for exactly the folders that are `Disposable`. What goes is
that one row (`Discarded`): no path led through it, so the paths of the others stay, and every list
of folders below another is the old one without it (`Pruned`).
-/

namespace Perimeter

namespace Hierarchy

variable {h h' : Hierarchy} {id : FolderId}

theorem IsTree.checkRemoval_iff (tree : h.IsTree) : h.checkRemoval id = .ok () ↔
    h.contains id = true ∧ id ≠ h.root ∧ ∀ x, h.parent? x ≠ some id := by
  constructor
  · intro passed
    obtain ⟨present, inside, childless⟩ := checkRemoval_eq_ok passed
    exact ⟨present, inside, tree.toLinked.childCount_eq_zero.mp childless⟩
  · rintro ⟨present, inside, childless⟩
    obtain ⟨f, row⟩ := contains_iff.mp present
    have plain : ¬ (f.isRoot = true ∨ id = h.root) := by
      rw [tree.isRoot_iff row, or_self]
      exact inside
    have none : h.childCount id = 0 := tree.toLinked.childCount_eq_zero.mpr childless
    unfold checkRemoval
    rw [require_eq_ok.mpr row]
    change (if _ then _ else _) = _
    rw [if_neg plain, if_pos none]

/-- `h'` is `h` without one folder, which had none below it. -/
structure Pruned (h : Hierarchy) (id : FolderId) (h' : Hierarchy) : Prop where
  root : h'.root = h.root
  rows : ∀ x, h'.get? x = if x = id then none else h.get? x
  /-- The parent loses this child, and no other folder loses one. -/
  parent : ∀ p, h.parent? id = some p → h'.childSet p = (h.childSet p).erase id
  others : ∀ p, h.parent? id ≠ some p → h'.childSet p = h.childSet p
  ancestors : ∀ x, x ≠ id → h'.ancestors x = h.ancestors x
  descendants : ∀ x, x ≠ id →
    h'.descendants x = (h.descendants x).map fun found => found.filter fun y => y ≠ id

/-- A search that meets a folder without children finds the others in their order without it. -/
theorem Drains.prune {queue found : List FolderId} (drains : h.Drains queue found)
    (leaf : h.childIds id = [])
    (lists : ∀ p, h'.childIds p = (h.childIds p).filter fun y => y ≠ id) :
    h'.Drains (queue.filter fun y => y ≠ id) (found.filter fun y => y ≠ id) := by
  induction drains with
  | done => exact .done
  | @next a rest found _ ih =>
    by_cases own : a = id
    · subst own
      simpa [leaf] using ih
    · rw [List.filter_append, ← lists] at ih
      rw [List.filter_append, ← lists, List.filter_cons_of_pos (by simpa using own)]
      exact .next ih

theorem get?_remove (present : h.contains id = true) (x : FolderId) :
    (h.remove id).get? x = if x = id then none else h.get? x := by
  rw [get?, rows_remove present, lookup_erase]
  simp only [eq_comm (a := id)]
  rfl

theorem contains_remove (present : h.contains id = true) {x : FolderId} (other : x ≠ id) :
    (h.remove id).contains x = h.contains x := by
  rw [contains, get?_remove present, if_neg other]
  rfl

namespace IsTree

variable {x : FolderId}

theorem childSet_remove (tree : h.IsTree) (tree' : (h.remove id).IsTree)
    (present : h.contains id = true) (p : FolderId) :
    (h.remove id).childSet p = (h.childSet p).erase id := by
  apply Std.ExtTreeSet.ext_mem
  intro x
  rw [tree'.child_iff, parent?_remove present, mem_erase_iff, tree.child_iff]
  by_cases own : id = x
  · simp [own]
  · simp [own, Ne.symm own]

theorem ancestors_remove (tree : h.IsTree) (tree' : (h.remove id).IsTree)
    (present : h.contains id = true) (childless : ∀ x, h.parent? x ≠ some id) (other : x ≠ id) :
    (h.remove id).ancestors x = h.ancestors x := by
  have same := contains_remove present other
  cases stored : h.contains x with
  | false => rw [ancestors_of_absent stored, ancestors_of_absent (same.trans stored)]
  | true =>
    have unchanged : ∀ y, y ≠ id → (h.remove id).parent? y = h.parent? y := by
      intro y different
      rw [parent?_remove present, if_neg (Ne.symm different)]
    obtain ⟨chain, answered, places, _⟩ := (tree.ends x).ancestors_eq stored
    rw [answered, (tree'.ends x).ancestors_eq_ok_iff (same.trans stored)]
    intro i
    rw [places, up_congr unchanged other (not_above_of_childless childless x)]

theorem descendants_remove (tree : h.IsTree) (tree' : (h.remove id).IsTree)
    (present : h.contains id = true) (childless : ∀ x, h.parent? x ≠ some id) (other : x ≠ id) :
    (h.remove id).descendants x =
      (h.descendants x).map fun found => found.filter fun y => y ≠ id := by
  have same := contains_remove present other
  cases stored : h.contains x with
  | false =>
    rw [descendants, descendants, require_of_absent stored, require_of_absent (same.trans stored)]
    rfl
  | true =>
    have leaf : h.childIds id = [] := by
      rw [List.eq_nil_iff_forall_not_mem]
      intro c child
      exact childless c (tree.toLinked.mem_childIds.mp child)
    have lists : ∀ p, (h.remove id).childIds p = (h.childIds p).filter fun y => y ≠ id := by
      intro p
      rw [childIds, tree.childSet_remove tree' present, toList_erase]
      rfl
    have start : [x].filter (fun y => y ≠ id) = [x] := List.filter_cons_of_pos (by simpa using other)
    have drains := ((tree.toLinked.drains_iff (tree.ends x)).mpr rfl).prune leaf lists
    rw [start] at drains
    rw [descendants_eq stored, descendants_eq (same.trans stored),
      ← (tree'.toLinked.drains_iff (tree'.ends x)).mp drains]
    rfl

/-- A folder that is not the root and has none below it goes alone. -/
theorem pruned (tree : h.IsTree) (present : h.contains id = true) (inside : id ≠ h.root)
    (childless : ∀ x, h.parent? x ≠ some id) : h.Pruned id (h.remove id) := by
  have tree' := tree.remove present inside childless
  have sets := tree.childSet_remove tree' present
  refine ⟨root_remove h id, get?_remove present, fun p _ => sets p, ?_, ?_, ?_⟩
  · intro p elsewhere
    rw [sets]
    apply Std.ExtTreeSet.ext_mem
    intro x
    rw [mem_erase_iff, tree.child_iff, and_iff_right_iff_imp]
    rintro link rfl
    exact elsewhere link
  · exact fun x other => tree.ancestors_remove tree' present childless other
  · exact fun x other => tree.descendants_remove tree' present childless other

end IsTree

end Hierarchy

/-- No row names the folder, neither as itself nor as the folder above it or the one it is on. -/
structure Storage.Forgets (s : Storage) (id : FolderId) : Prop where
  folders : ∀ f ∈ s.folders.all, f.id ≠ id ∧ f.parent ≠ some id
  groups : ∀ g ∈ s.groups.all, g.folder ≠ id
  assignments : ∀ a ∈ s.assignments.all, a.folder ≠ id

namespace System

variable {s s' : System} {id : FolderId} {f : Folder}

/-- The folder is there, it is not the root, no folder is directly below it, and no group and no
assignment is on it. -/
structure Disposable (s : System) (id : FolderId) : Prop where
  present : s.hierarchy.contains id = true
  inside : id ≠ s.hierarchy.root
  childless : ∀ x f, s.hierarchy.get? x = some f → f.parent ≠ some id
  unused : ¬ s.registry.Uses id

/-- The row of one folder has gone, in memory and in its table, and nothing else has. -/
structure Discarded (s : System) (id : FolderId) (f : Folder) (s' : System) : Prop where
  row : s.hierarchy.get? id = some f
  hierarchy : s.hierarchy.Pruned id s'.hierarchy
  registry : s'.registry = s.registry
  table : ∀ x, s'.storage.folders.find? x = if x = id then none else s.storage.folders.find? x
  tables : s'.storage =
    { s.storage with folders := s'.storage.folders, supply := s'.storage.supply }
  unnamed : ∀ x g, s'.hierarchy.get? x = some g → g.id ≠ id ∧ g.parent ≠ some id
  unused : ¬ s'.registry.Uses id
  forgotten : s'.storage.Forgets id

theorem disposable_iff (tree : s.hierarchy.IsTree) : s.Disposable id ↔
    s.hierarchy.checkRemoval id = .ok () ∧ s.registry.references id = 0 := by
  have childless : (∀ x f, s.hierarchy.get? x = some f → f.parent ≠ some id) ↔
      ∀ x, s.hierarchy.parent? x ≠ some id := by
    constructor
    · intro unnamed x link
      obtain ⟨f, row⟩ := Hierarchy.contains_iff.mp (Hierarchy.contains_of_parent? link)
      exact unnamed x f row ((Hierarchy.parent?_of_get? row).symm.trans link)
    · intro unnamed x f row
      rw [← Hierarchy.parent?_of_get? row]
      exact unnamed x
  rw [tree.checkRemoval_iff, Registry.references_eq_zero, ← childless]
  constructor
  · rintro ⟨present, inside, unnamed, unused⟩
    exact ⟨⟨present, inside, unnamed⟩, unused⟩
  · rintro ⟨⟨present, inside, unnamed⟩, unused⟩
    exact ⟨present, inside, unnamed, unused⟩

theorem removeFolder_of_passed (passed : s.hierarchy.checkRemoval id = .ok ())
    (accepts : s.storage.Accepts) : ∃ f s', s.removeFolder id = (.ok f, s') := by
  obtain ⟨f, row⟩ := Hierarchy.contains_iff.mp (Hierarchy.checkRemoval_eq_ok passed).1
  obtain ⟨e, p, refused⟩ | ⟨p, deleted⟩ := Storage.delete_cases .folders id s.storage
  · exact absurd accepts (Storage.delete_eq_error refused).2
  · unfold removeFolder commit
    rw [passed, deleted]
    dsimp only [check]
    rw [Hierarchy.require_eq_ok.mpr row]
    exact ⟨_, _, rfl⟩

theorem Mirrored.forgets (mirrored : s.Mirrored)
    (unnamed : ∀ x g, s.hierarchy.get? x = some g → g.id ≠ id ∧ g.parent ≠ some id)
    (unused : ¬ s.registry.Uses id) : s.storage.Forgets id := by
  have groups := mirrored.registry.groups
  have assignments := mirrored.registry.assignments
  refine ⟨?_, ?_, ?_⟩
  · rw [← Table.forall_contents, ← mirrored.rows]
    exact unnamed
  · rw [← Table.forall_contents, ← groups]
    intro k g stored here
    exact unused (Or.inl ⟨k, g, stored, here⟩)
  · rw [← Table.forall_contents, ← assignments]
    intro k a stored here
    exact unused (Or.inr ⟨k, a, stored, here⟩)

theorem Mirrored.discarded (mirrored : s.Mirrored) (removed : s.discardFolder id = (.ok f, s')) :
    s.Disposable id ∧ s.Discarded id f s' := by
  obtain ⟨row, unreferenced, wrote⟩ := (removed ▸ discardFolder_settles s id).answer
  have tree := mirrored.tree
  have mirrored' := mirrored.wrote wrote
  have unused := Registry.references_eq_zero.mp unreferenced
  obtain ⟨passed, tables, p, entered, rfl⟩ := wrote
  cases entered
  obtain ⟨present, inside, childless⟩ := tree.checkRemoval_iff.mp passed
  have pruned := tree.pruned present inside childless
  have unnamed : ∀ x g, (s.hierarchy.remove id).get? x = some g →
      g.id ≠ id ∧ g.parent ≠ some id := by
    intro x g stored
    rw [pruned.rows] at stored
    split at stored
    · cases stored
    · next other =>
      refine ⟨tree.keyed x g stored ▸ other, ?_⟩
      rw [← Hierarchy.parent?_of_get? stored]
      exact childless x
  refine ⟨(disposable_iff tree).mpr ⟨passed, unreferenced⟩, row, pruned, rfl, ?_, rfl, unnamed,
    unused, mirrored'.forgets unnamed unused⟩
  intro x
  rw [← Hierarchy.get?_of_rows mirrored'.rows, ← Hierarchy.get?_of_rows mirrored.rows]
  exact pruned.rows x

/-- In every state of a run from a start, the removal that asks first succeeds for exactly the
folders that are disposable, and takes away that row and nothing else. -/
theorem discards_exactly_the_disposable {terms : Terms} {storage storage' : Storage} {s₀ : System}
    (started : start terms storage = (.ok s₀, storage')) (events : List Event) (id : FolderId) :
    let s := s₀.afterAll events
    (s.storage.Accepts → ((∃ f s', s.discardFolder id = (.ok f, s')) ↔ s.Disposable id)) ∧
      ∀ f s', s.discardFolder id = (.ok f, s') → s.Disposable id ∧ s.Discarded id f s' := by
  intro s
  have mirrored : s.Mirrored := ((mirrored_of_start started).1.afterAll events).1
  refine ⟨fun accepts => ⟨?_, ?_⟩, fun f s' => mirrored.discarded⟩
  · rintro ⟨f, s', removed⟩
    exact (mirrored.discarded removed).1
  · intro disposable
    obtain ⟨passed, unreferenced⟩ := (disposable_iff mirrored.tree).mp disposable
    obtain ⟨f, s', removed⟩ := removeFolder_of_passed passed accepts
    refine ⟨f, s', ?_⟩
    rw [discardFolder, unreferenced]
    exact removed

/-- The innermost folder goes, the one above it does not. -/
theorem founded_servers_go_before_assets :
    let s := (founded ⟨"Root", ⟨2, 8⟩, .standard⟩ staffOnRoot).afterAll
      [.call (.createFolder ⟨"Assets", none, none⟩),
        .call (.createFolder ⟨"Servers", none, some ⟨Supply.counted 2⟩⟩)]
    (∃ f s', s.discardFolder ⟨Supply.counted 3⟩ = (.ok f, s') ∧
        s.Disposable ⟨Supply.counted 3⟩ ∧ s.Discarded ⟨Supply.counted 3⟩ f s') ∧
      ¬ s.Disposable ⟨Supply.counted 2⟩ := by
  intro s
  have decided := discards_exactly_the_disposable
    (start_founded ⟨"Root", ⟨2, 8⟩, .standard⟩ staffOnRoot rfl rfl)
    [.call (.createFolder ⟨"Assets", none, none⟩),
      .call (.createFolder ⟨"Servers", none, some ⟨Supply.counted 2⟩⟩)]
  constructor
  · obtain ⟨f, removed⟩ := exists_answer (s.discardFolder ⟨Supply.counted 3⟩) (by decide +kernel)
    exact ⟨f, _, removed, (decided ⟨Supply.counted 3⟩).2 f _ removed⟩
  · intro disposable
    have stays : (s.discardFolder ⟨Supply.counted 2⟩).1.toOption.isSome = false := by
      decide +kernel
    obtain ⟨f, s', removed⟩ := ((decided ⟨Supply.counted 2⟩).1 rfl).mpr disposable
    rw [removed] at stays
    cases stays

end System

end Perimeter
