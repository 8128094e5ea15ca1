import Perimeter.Hierarchy.Load
import Perimeter.Proofs.Tree

/-!
# Accepted folders

Stored folders are accepted exactly if they are the rows of a tree, each listed once
(`ofRows_eq_ok`), and then that tree is what they are loaded as. In particular the sets of
children that a history of changes leaves are those of a load from scratch, since there is only
one family of sets that mirrors the parent links (`Linked.kids_ext`).
-/

namespace Perimeter.Hierarchy

variable {h : Hierarchy} {rows : List Folder} {root : FolderId} {table : IdMap .folder Folder}

/-- The rows list every folder of the hierarchy once. -/
structure Lists (rows : List Folder) (h : Hierarchy) : Prop where
  distinct : (rows.map Folder.id).Nodup
  mem_iff : ∀ f, f ∈ rows ↔ h.get? f.id = some f

/-! ## The parts of a load -/

theorem soleRoot_eq_ok :
    soleRoot rows = .ok root ↔ ∃ f, rows.filter Folder.isRoot = [f] ∧ f.id = root := by
  unfold soleRoot
  split
  · next none => simp [none]
  · next f one => simp [one]
  · next _ many =>
    constructor
    · intro accepted
      cases accepted
    · rintro ⟨f, one, _⟩
      exact absurd one (many f)

/-- Rows are collected if each is a root exactly where it has no parent, and no id is used
twice. -/
theorem foldlM_collectRow {t : IdMap .folder Folder} :
    rows.foldlM collectRow table = .ok t ↔
      (∀ f ∈ rows, f.isRoot ≠ f.parent.isSome) ∧ (∀ f ∈ rows, f.id ∉ table) ∧
        (rows.map Folder.id).Nodup ∧ rows.foldl (fun m f => m.insert f.id f) table = t := by
  induction rows generalizing table with
  | nil => simp [pure, Except.pure]
  | cons f rows ih =>
    have first : ∀ m, collectRow table f = .ok m ↔
        f.isRoot ≠ f.parent.isSome ∧ f.id ∉ table ∧ table.insert f.id f = m := by
      intro m
      unfold collectRow
      split
      · next clash => simp [clash]
      · next fits =>
        split
        · next used => simp [Std.ExtTreeMap.contains_iff_mem.mp used]
        · next free => simp [fits, ← Std.ExtTreeMap.contains_iff_mem, free]
    have later : ∀ g : Folder, g.id ∉ table.insert f.id f ↔ f.id ≠ g.id ∧ g.id ∉ table := by
      intro g
      rw [Std.ExtTreeMap.mem_insert, Std.LawfulEqCmp.compare_eq_iff_eq, not_or]
    simp only [List.foldlM_cons, bind_eq_ok, first, List.foldl_cons, List.forall_mem_cons,
      List.map_cons, List.nodup_cons, List.mem_map]
    constructor
    · rintro ⟨m, ⟨fits, free, rfl⟩, rest⟩
      obtain ⟨flags, unused, distinct, result⟩ := ih.mp rest
      refine ⟨⟨fits, flags⟩, ⟨free, ?_⟩, ⟨?_, distinct⟩, result⟩
      · exact fun g hg => ((later g).mp (unused g hg)).2
      · rintro ⟨g, hg, same⟩
        exact ((later g).mp (unused g hg)).1 same.symm
    · rintro ⟨⟨fits, flags⟩, ⟨free, unused⟩, ⟨apart, distinct⟩, result⟩
      refine ⟨_, ⟨fits, free, rfl⟩, ih.mpr ⟨flags, ?_, distinct, result⟩⟩
      intro g hg
      exact (later g).mpr ⟨fun same => apart ⟨g, hg, same.symm⟩, unused g hg⟩

theorem danglingRow?_eq_none :
    danglingRow? table rows = none ↔
      ∀ f ∈ rows, ∀ p, f.parent = some p → table.contains p = true := by
  rw [danglingRow?, List.findSome?_eq_none_iff]
  apply forall₂_congr
  intro f _
  cases f.parent with
  | none => simp
  | some p => simp

/-! ## The sets of children -/

theorem foldl_linkTo (rows : List Folder) (h : Hierarchy) :
    (rows.foldl (fun h f => h.linkTo f.parent f.id) h).rows = h.rows ∧
      (rows.foldl (fun h f => h.linkTo f.parent f.id) h).root = h.root := by
  induction rows generalizing h with
  | nil => exact ⟨rfl, rfl⟩
  | cons f rows ih =>
    rw [List.foldl_cons]
    exact ⟨(ih _).1.trans (rows_linkTo h f.parent f.id),
      (ih _).2.trans (root_linkTo h f.parent f.id)⟩

theorem rows_assemble (root : FolderId) (table : IdMap .folder Folder) (rows : List Folder) :
    (assemble root table rows).rows = table :=
  (foldl_linkTo rows _).1

theorem root_assemble (root : FolderId) (table : IdMap .folder Folder) (rows : List Folder) :
    (assemble root table rows).root = root :=
  (foldl_linkTo rows _).2

theorem mem_childSet_foldl (rows : List Folder) (h : Hierarchy) (p c : FolderId) :
    c ∈ (rows.foldl (fun h f => h.linkTo f.parent f.id) h).childSet p ↔
      (∃ f ∈ rows, f.parent = some p ∧ c = f.id) ∨ c ∈ h.childSet p := by
  induction rows generalizing h with
  | nil => simp
  | cons f rows ih =>
    rw [List.foldl_cons, ih, mem_childSet_linkTo, List.exists_mem_cons_iff, or_assoc]
    exact or_left_comm

theorem kids_foldl_ne_empty (rows : List Folder) (h : Hierarchy)
    (inhabited : ∀ (p : FolderId) (kids : IdSet .folder), h.kids[p]? = some kids → kids ≠ ∅) :
    ∀ (p : FolderId) (kids : IdSet .folder),
      (rows.foldl (fun h f => h.linkTo f.parent f.id) h).kids[p]? = some kids → kids ≠ ∅ := by
  induction rows generalizing h with
  | nil => exact inhabited
  | cons f rows ih => exact ih _ (kids_linkTo_ne_empty inhabited)

/-- Whether or not they form a tree, the assembled rows and their sets of children agree. -/
theorem linked_assemble (lookup : ∀ (k : FolderId) f, table[k]? = some f ↔ f ∈ rows ∧ f.id = k) :
    (assemble root table rows).Linked where
  child_iff p c := by
    rw [assemble, mem_childSet_foldl, ← assemble, parent?, get?, rows_assemble,
      Option.bind_eq_some_iff]
    simp only [lookup, childSet, Std.ExtTreeMap.getElem?_empty, Option.getD_none,
      Std.ExtTreeSet.not_mem_empty, or_false]
    constructor
    · rintro ⟨f, mem, parent, rfl⟩
      exact ⟨f, ⟨mem, rfl⟩, parent⟩
    · rintro ⟨f, ⟨mem, rfl⟩, parent⟩
      exact ⟨f, mem, parent, rfl⟩
  inhabited := kids_foldl_ne_empty rows _ (by simp)

/-- The parent links determine the sets of children. -/
theorem Linked.kids_ext {h' : Hierarchy} (linked : h.Linked) (linked' : h'.Linked)
    (parents : ∀ id, h.parent? id = h'.parent? id) : h.kids = h'.kids := by
  have sets : ∀ p, h.childSet p = h'.childSet p := by
    intro p
    apply Std.ExtTreeSet.ext_mem
    intro c
    rw [linked.child_iff, linked'.child_iff, parents]
  apply Std.ExtTreeMap.ext_getElem?
  intro p
  have same := sets p
  unfold childSet at same
  cases hk : h.kids[p]? with
  | none =>
    cases hk' : h'.kids[p]? with
    | none => rfl
    | some kids' =>
      rw [hk, hk'] at same
      exact absurd same.symm (linked'.inhabited p kids' hk')
  | some kids =>
    cases hk' : h'.kids[p]? with
    | none =>
      rw [hk, hk'] at same
      exact absurd same (linked.inhabited p kids hk)
    | some kids' =>
      rw [hk, hk'] at same
      exact congrArg some same

/-! ## The count of the folders below the root -/

/-- The root and the folders below it are some of the folders, each counted once. -/
theorem reached_subperm (linked : h.Linked) (present : h.contains h.root = true)
    (top : h.parent? h.root = none) : (h.root :: h.below h.root).Subperm h.rows.keys := by
  have ends : h.Ends h.root := ⟨1, (up_one h h.root).trans top⟩
  have distinct : (h.root :: h.below h.root).Nodup := by
    refine List.nodup_cons.mpr ⟨?_, linked.nodup_below ends⟩
    intro found
    exact ends.not_above_self (linked.above_of_mem_below found)
  have within : h.root :: h.below h.root ⊆ h.rows.keys := by
    intro id mem
    apply mem_keys_of_contains
    rcases List.mem_cons.mp mem with rfl | found
    · exact present
    · exact (linked.above_of_mem_below found).contains
  exact distinct.subperm within

theorem length_keys_rows (h : Hierarchy) : h.rows.keys.length = h.size :=
  Std.ExtTreeMap.length_keys

/-- The root and the folders below it are as many as there are folders exactly if every folder
hangs below the root. -/
theorem reached_iff (linked : h.Linked) (present : h.contains h.root = true)
    (top : h.parent? h.root = none) :
    (h.below h.root).length + 1 = h.size ↔
      ∀ id, h.contains id = true → ∃ n, h.up n id = some h.root := by
  have fewer := reached_subperm linked present top
  have size := length_keys_rows h
  -- Of two lists without repetition, one within the other, equal lengths mean equal members.
  constructor
  · intro count id stored
    have all := fewer.perm_of_length_le (Nat.le_of_eq (size.trans count.symm))
    rcases List.mem_cons.mp (all.mem_iff.mpr (mem_keys_of_contains stored)) with rfl | found
    · exact ⟨0, rfl⟩
    · obtain ⟨n, reached⟩ := linked.above_of_mem_below found
      exact ⟨n + 1, reached⟩
  · intro reaches
    have back : h.rows.keys ⊆ h.root :: h.below h.root := by
      intro id mem
      have stored : h.contains id = true := by
        rw [Std.ExtTreeMap.mem_keys, ← Std.ExtTreeMap.contains_iff_mem,
          Std.ExtTreeMap.contains_eq_isSome_getElem?] at mem
        exact mem
      obtain ⟨n, reached⟩ := reaches id stored
      cases n with
      | zero => exact List.mem_cons.mpr (Or.inl (Option.some.inj reached))
      | succ n =>
        -- Above the root there is nothing, so a chain that reaches it ends there.
        have stops : h.Ends id := by
          refine ⟨n + 1 + 1, ?_⟩
          rw [up_succ', reached]
          exact top
        exact List.mem_cons_of_mem _ ((linked.mem_below stops).mpr ⟨n, reached⟩)
    have more := (Std.ExtTreeMap.nodup_keys (t := h.rows)).subperm back
    have := more.length_le
    have := fewer.length_le
    simp only [List.length_cons] at *
    omega

/-! ## Acceptance -/

theorem Lists.get?_iff (lists : Lists rows h) (tree : h.IsTree) {id : FolderId} {f : Folder} :
    h.get? id = some f ↔ f ∈ rows ∧ f.id = id := by
  constructor
  · intro row
    have own := tree.keyed id f row
    exact ⟨(lists.mem_iff f).mpr (own.symm ▸ row), own⟩
  · rintro ⟨mem, rfl⟩
    exact (lists.mem_iff f).mp mem

/-- The rows by their ids. -/
def collected (rows : List Folder) : IdMap .folder Folder :=
  rows.foldl (fun m f => m.insert f.id f) ∅

theorem getElem?_collected (distinct : (rows.map Folder.id).Nodup) (k : FolderId) (f : Folder) :
    (collected rows)[k]? = some f ↔ f ∈ rows ∧ f.id = k := by
  rw [collected, getElem?_foldl_insert Folder.id rows distinct]
  simp

/-- What the checks of the rows, one by one, have established before the tree is counted. -/
structure Sound (rows : List Folder) (r : Folder) : Prop where
  /-- Exactly one row is marked as the root. -/
  only : rows.filter Folder.isRoot = [r]
  /-- A row has a parent exactly if it is not the root. -/
  flags : ∀ f ∈ rows, f.isRoot ≠ f.parent.isSome
  distinct : (rows.map Folder.id).Nodup
  closed : ∀ f ∈ rows, ∀ p, f.parent = some p → (collected rows).contains p = true

/-- A load goes through the checks of the rows and then counts the folders below the root. -/
theorem ofRows_eq_ok_iff_sound :
    ofRows rows = .ok h ↔ ∃ r, Sound rows r ∧ assemble r.id (collected rows) rows = h ∧
      (h.below r.id).length + 1 = h.size := by
  constructor
  · intro loaded
    obtain ⟨root, found, loaded⟩ := bind_eq_ok.mp loaded
    obtain ⟨table, entered, loaded⟩ := bind_eq_ok.mp loaded
    obtain ⟨r, only, rfl⟩ := soleRoot_eq_ok.mp found
    obtain ⟨flags, _, distinct, rfl⟩ := foldlM_collectRow.mp entered
    split at loaded
    · cases loaded
    · next closed =>
      dsimp only at loaded
      split at loaded
      · next count =>
        cases loaded
        exact ⟨r, ⟨only, flags, distinct, danglingRow?_eq_none.mp closed⟩, rfl, count⟩
      · cases loaded
  · rintro ⟨r, sound, rfl, count⟩
    have found : soleRoot rows = .ok r.id := soleRoot_eq_ok.mpr ⟨r, sound.only, rfl⟩
    have entered : rows.foldlM collectRow ∅ = .ok (collected rows) :=
      foldlM_collectRow.mpr ⟨sound.flags, by simp, sound.distinct, rfl⟩
    have closed := danglingRow?_eq_none.mpr sound.closed
    simp only [ofRows, found, entered, bind, Except.bind, closed, count, if_true]

namespace Sound

variable {r : Folder}

theorem mem_root (sound : Sound rows r) (f : Folder) : f ∈ rows ∧ f.isRoot = true ↔ f = r := by
  rw [← List.mem_filter, sound.only, List.mem_singleton]

theorem parent_root (sound : Sound rows r) : r.parent = none := by
  obtain ⟨stored, flag⟩ := (sound.mem_root r).mpr rfl
  have consistent := sound.flags r stored
  rw [flag] at consistent
  cases parent : r.parent with
  | none => rfl
  | some p => simp [parent] at consistent

theorem parent_other (sound : Sound rows r) {f : Folder} (mem : f ∈ rows) (other : f.id ≠ r.id) :
    f.isRoot = false ∧ ∃ p, f.parent = some p ∧ (collected rows).contains p = true := by
  have plain : f.isRoot = false := by
    by_contra odd
    have same := (sound.mem_root f).mp ⟨mem, eq_true_of_ne_false odd⟩
    exact other (congrArg Folder.id same)
  have below := sound.flags f mem
  rw [plain] at below
  obtain ⟨p, parent⟩ := Option.isSome_iff_exists.mp (eq_true_of_ne_false below.symm)
  exact ⟨plain, p, parent, sound.closed f mem p parent⟩

theorem get?_assemble (sound : Sound rows r) (id : FolderId) (f : Folder) :
    (assemble r.id (collected rows) rows).get? id = some f ↔ f ∈ rows ∧ f.id = id := by
  rw [get?, rows_assemble]
  exact getElem?_collected sound.distinct id f

theorem linked (sound : Sound rows r) : (assemble r.id (collected rows) rows).Linked :=
  linked_assemble (getElem?_collected sound.distinct)

/-- The root of what is assembled is there, and has no parent. -/
theorem get?_root (sound : Sound rows r) (made : assemble r.id (collected rows) rows = h) :
    h.get? h.root = some r ∧ h.parent? h.root = none := by
  subst made
  obtain ⟨stored, _⟩ := (sound.mem_root r).mpr rfl
  have root := root_assemble r.id (collected rows) rows
  have row := (sound.get?_assemble _ r).mpr ⟨stored, root.symm⟩
  exact ⟨row, (parent?_of_get? row).trans sound.parent_root⟩

/-- Sound rows, all of them below the root, are a tree. -/
theorem isTree (sound : Sound rows r) (made : assemble r.id (collected rows) rows = h)
    (count : (h.below r.id).length + 1 = h.size) : h.IsTree ∧ Lists rows h := by
  have root : h.root = r.id := made ▸ root_assemble r.id _ rows
  have get : ∀ id f, h.get? id = some f ↔ f ∈ rows ∧ f.id = id := made ▸ sound.get?_assemble
  have linked : h.Linked := made ▸ sound.linked
  have row : h.get? h.root = some r := (sound.get?_root made).1
  refine ⟨{ toLinked := linked, rooted := ?_, keyed := ?_, inner := ?_, reaches := ?_ }, ?_⟩
  · exact ⟨r, row, ((sound.mem_root r).mpr rfl).2, sound.parent_root⟩
  · exact fun id f this => ((get id f).mp this).2
  · intro id f this other
    obtain ⟨mem, rfl⟩ := (get id f).mp this
    obtain ⟨plain, p, parent, held⟩ := sound.parent_other mem (root ▸ other)
    refine ⟨plain, p, parent, ?_⟩
    rw [contains, get?, ← made, rows_assemble, ← Std.ExtTreeMap.contains_eq_isSome_getElem?]
    exact held
  · rw [← root] at count
    exact (reached_iff linked (contains_of_get? row) (sound.get?_root made).2).mp count
  · refine ⟨sound.distinct, ?_⟩
    intro f
    rw [get, eq_self, and_true]

end Sound

namespace IsTree

/-- The rows of a tree are sound. -/
theorem sound (tree : h.IsTree) (lists : Lists rows h) :
    ∃ r, Sound rows r ∧ r.id = h.root ∧ collected rows = h.rows := by
  obtain ⟨r, row, flag, top⟩ := tree.rooted
  obtain ⟨stored, own⟩ := (lists.get?_iff tree).mp row
  have same : collected rows = h.rows := by
    apply Std.ExtTreeMap.ext_getElem?
    intro k
    apply Option.ext
    intro f
    rw [getElem?_collected lists.distinct]
    exact (lists.get?_iff tree).symm
  refine ⟨r, ⟨?_, ?_, lists.distinct, ?_⟩, own, same⟩
  · have once := (List.Nodup.of_map Folder.id lists.distinct).filter Folder.isRoot
    rw [← List.perm_singleton, List.perm_ext_iff_of_nodup once (List.nodup_singleton r)]
    intro f
    rw [List.mem_filter, List.mem_singleton]
    constructor
    · rintro ⟨mem, marked⟩
      have this := (lists.mem_iff f).mp mem
      rw [(tree.isRoot_iff this).mp marked] at this
      exact Option.some.inj (this.symm.trans row)
    · rintro rfl
      exact ⟨stored, flag⟩
  · intro f mem
    have this := (lists.mem_iff f).mp mem
    by_cases here : f.id = h.root
    · rw [here, show h.get? h.root = some r from row] at this
      cases this
      simp [flag, top]
    · obtain ⟨plain, p, parent, _⟩ := tree.inner f.id f this here
      simp [plain, parent]
  · intro f mem p parent
    have this := (lists.mem_iff f).mp mem
    rw [same, Std.ExtTreeMap.contains_eq_isSome_getElem?]
    exact tree.contains_parent ((parent?_of_get? this).trans parent)

theorem assemble_eq (tree : h.IsTree) (lists : Lists rows h) :
    assemble h.root h.rows rows = h := by
  have rowsEq := rows_assemble h.root h.rows rows
  have rootEq := root_assemble h.root h.rows rows
  have kidsEq : (assemble h.root h.rows rows).kids = h.kids := by
    apply (linked_assemble fun k f => lists.get?_iff tree).kids_ext tree.toLinked
    intro id
    rw [parent?, get?, rowsEq]
    rfl
  cases made : assemble h.root h.rows rows
  rw [made] at rowsEq rootEq kidsEq
  cases rowsEq
  cases rootEq
  cases kidsEq
  rfl

end IsTree

/-- Rows are accepted exactly if they list a tree, and that tree is what they are loaded as. -/
theorem ofRows_eq_ok : ofRows rows = .ok h ↔ h.IsTree ∧ Lists rows h := by
  rw [ofRows_eq_ok_iff_sound]
  constructor
  · rintro ⟨r, sound, made, count⟩
    exact sound.isTree made count
  · rintro ⟨tree, lists⟩
    obtain ⟨r, sound, root, same⟩ := tree.sound lists
    refine ⟨r, sound, ?_, ?_⟩
    · rw [root, same]
      exact tree.assemble_eq lists
    · rw [root]
      exact (reached_iff tree.toLinked tree.contains_root tree.parent?_root).mpr tree.reaches

end Perimeter.Hierarchy
