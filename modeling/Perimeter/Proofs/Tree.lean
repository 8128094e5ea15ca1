import Perimeter.Proofs.Lineage

/-!
# The tree of folders

`IsTree` says what a sound hierarchy is: one root, every other folder below a parent that
exists, no circle of parents, and sets of children that mirror the parent links. The changes
keep it under the conditions that their checks establish: `IsTree.insert`, `IsTree.edit`,
`IsTree.move` and `IsTree.remove`.
-/

namespace Perimeter

theorem bind_eq_ok {ε α β : Type} {x : Except ε α} {f : α → Except ε β} {b : β} :
    (x >>= f) = .ok b ↔ ∃ a, x = .ok a ∧ f a = .ok b := by
  cases x with
  | error e => simp [bind, Except.bind]
  | ok a => simp [bind, Except.bind]

theorem bind_eq_error {ε α β : Type} {x : Except ε α} {f : α → Except ε β} {e : ε} :
    (x >>= f) = .error e ↔ x = .error e ∨ ∃ a, x = .ok a ∧ f a = .error e := by
  cases x with
  | error e => simp [bind, Except.bind]
  | ok a => simp [bind, Except.bind]

theorem map_eq_ok {α β : Type} {x : Except Fault α} {f : α → β} {b : β} :
    x.map f = .ok b ↔ ∃ a, x = .ok a ∧ f a = b := by
  cases x with
  | error e => simp [Except.map]
  | ok a => simp [Except.map]

theorem map_eq_error {α β : Type} {x : Except Fault α} {f : α → β} {e : Fault} :
    x.map f = .error e ↔ x = .error e := by
  cases x with
  | error e => simp [Except.map]
  | ok a => simp [Except.map]

theorem mapError_eq_ok {ε α : Type} {x : Except Fault α} {f : Fault → ε} {a : α} :
    x.mapError f = .ok a ↔ x = .ok a := by
  cases x with
  | error e => simp [Except.mapError]
  | ok b => simp [Except.mapError]

theorem mapError_eq_error {ε α : Type} {x : Except Fault α} {f : Fault → ε} {k : ε} :
    x.mapError f = .error k ↔ ∃ e, x = .error e ∧ f e = k := by
  cases x with
  | error e => simp [Except.mapError]
  | ok b => simp [Except.mapError]

namespace Hierarchy

variable {h : Hierarchy}

theorem require_eq_ok {id : FolderId} {f : Folder} :
    h.require id = .ok f ↔ h.get? id = some f := by
  unfold require
  cases h.get? id <;> simp

/-- One tree below one root, with sets of children that mirror the parent links. -/
structure IsTree (h : Hierarchy) : Prop extends h.Linked where
  /-- The root is present, is marked as the root, and has no parent. -/
  rooted : ∃ f, h.rootFolder? = some f ∧ f.isRoot = true ∧ f.parent = none
  /-- Every row lies under its own id. -/
  keyed : ∀ id f, h.get? id = some f → f.id = id
  /-- Every other folder is not marked as the root and has a parent that is present. -/
  inner : ∀ id f, h.get? id = some f → id ≠ h.root →
    f.isRoot = false ∧ ∃ p, f.parent = some p ∧ h.contains p = true
  /-- From every folder the parent links lead to the root. -/
  reaches : ∀ id, h.contains id = true → ∃ n, h.up n id = some h.root

theorem contains_iff {id : FolderId} : h.contains id = true ↔ ∃ f, h.get? id = some f :=
  Option.isSome_iff_exists

theorem contains_of_get? {id : FolderId} {f : Folder} (row : h.get? id = some f) :
    h.contains id = true :=
  contains_iff.mpr ⟨f, row⟩

theorem require_of_absent {id : FolderId} (absent : h.contains id = false) :
    h.require id = .error (.folderMissing id) := by
  have none : h.get? id = none := by simpa [contains] using absent
  rw [require, none]

theorem parent?_of_get? {id : FolderId} {f : Folder} (row : h.get? id = some f) :
    h.parent? id = f.parent := by
  rw [parent?, row]
  rfl

theorem parent?_of_absent {id : FolderId} (absent : h.get? id = none) : h.parent? id = none := by
  rw [parent?, absent]
  rfl

namespace IsTree

theorem parent?_root (tree : h.IsTree) : h.parent? h.root = none := by
  obtain ⟨f, row, _, parent⟩ := tree.rooted
  exact (parent?_of_get? row).trans parent

theorem contains_root (tree : h.IsTree) : h.contains h.root = true := by
  obtain ⟨f, row, _⟩ := tree.rooted
  exact contains_of_get? row

/-- The root is the only folder marked as such. -/
theorem isRoot_iff (tree : h.IsTree) {id : FolderId} {f : Folder} (row : h.get? id = some f) :
    f.isRoot = true ↔ id = h.root := by
  constructor
  · intro marked
    by_contra other
    rw [(tree.inner id f row other).1] at marked
    cases marked
  · rintro rfl
    obtain ⟨g, this, marked, _⟩ := tree.rooted
    cases row.symm.trans this
    exact marked

theorem contains_parent (tree : h.IsTree) {id p : FolderId} (link : h.parent? id = some p) :
    h.contains p = true := by
  obtain ⟨f, row⟩ := contains_iff.mp (contains_of_parent? link)
  have other : id ≠ h.root := by
    rintro rfl
    rw [tree.parent?_root] at link
    cases link
  obtain ⟨_, q, parent, present⟩ := tree.inner id f row other
  rw [parent?_of_get? row, parent] at link
  cases link
  exact present

theorem ends (tree : h.IsTree) (id : FolderId) : h.Ends id := by
  by_cases present : h.contains id = true
  · obtain ⟨n, reached⟩ := tree.reaches id present
    refine ⟨n + 1, ?_⟩
    rw [up_succ', reached]
    exact tree.parent?_root
  · refine ⟨1, ?_⟩
    rw [up_one]
    exact parent?_of_absent (by simpa [contains] using present)

theorem contains_of_up (tree : h.IsTree) {n : Nat} {id a : FolderId}
    (present : h.contains id = true) (reached : h.up n id = some a) : h.contains a = true := by
  cases n with
  | zero =>
    cases reached
    exact present
  | succ n =>
    obtain ⟨p, _, link⟩ := Option.bind_eq_some_iff.mp (up_succ' h n id ▸ reached)
    exact tree.contains_parent link

end IsTree

/-! ## What the changes do to rows and sets -/

theorem rows_unlink (h : Hierarchy) (p c : FolderId) : (h.unlink p c).rows = h.rows := by
  unfold unlink
  split <;> rfl

theorem root_unlink (h : Hierarchy) (p c : FolderId) : (h.unlink p c).root = h.root := by
  unfold unlink
  split <;> rfl

@[simp] theorem rows_linkTo (h : Hierarchy) (p : Option FolderId) (c : FolderId) :
    (h.linkTo p c).rows = h.rows := by
  cases p <;> rfl

@[simp] theorem root_linkTo (h : Hierarchy) (p : Option FolderId) (c : FolderId) :
    (h.linkTo p c).root = h.root := by
  cases p <;> rfl

@[simp] theorem rows_unlinkFrom (h : Hierarchy) (p : Option FolderId) (c : FolderId) :
    (h.unlinkFrom p c).rows = h.rows := by
  cases p with
  | none => rfl
  | some p => exact rows_unlink h p c

@[simp] theorem root_unlinkFrom (h : Hierarchy) (p : Option FolderId) (c : FolderId) :
    (h.unlinkFrom p c).root = h.root := by
  cases p with
  | none => rfl
  | some p => exact root_unlink h p c

@[simp] theorem rows_insert (h : Hierarchy) (f : Folder) :
    (h.insert f).rows = h.rows.insert f.id f := by
  simp [insert, setRow]

@[simp] theorem root_insert (h : Hierarchy) (f : Folder) : (h.insert f).root = h.root := by
  simp [insert, setRow]

@[simp] theorem rows_replace (h : Hierarchy) (f : Folder) :
    (h.replace f).rows = h.rows.insert f.id f := by
  simp only [replace]
  split <;> simp [setRow]

@[simp] theorem root_replace (h : Hierarchy) (f : Folder) : (h.replace f).root = h.root := by
  simp only [replace]
  split <;> simp [setRow]

theorem rows_remove {id : FolderId} (present : h.contains id = true) :
    (h.remove id).rows = h.rows.erase id := by
  obtain ⟨f, row⟩ := contains_iff.mp present
  simp [remove, row]

@[simp] theorem root_remove (h : Hierarchy) (id : FolderId) : (h.remove id).root = h.root := by
  unfold remove
  split <;> simp

theorem get?_of_rows_insert {h' : Hierarchy} {f : Folder}
    (rows : h'.rows = h.rows.insert f.id f) (id : FolderId) :
    h'.get? id = if f.id = id then some f else h.get? id := by
  rw [get?, rows, lookup_insert]
  rfl

theorem parent?_of_rows_insert {h' : Hierarchy} {f : Folder}
    (rows : h'.rows = h.rows.insert f.id f) (id : FolderId) :
    h'.parent? id = if f.id = id then f.parent else h.parent? id := by
  rw [parent?, get?_of_rows_insert rows]
  split <;> rfl

theorem mem_childSet_linkTo (h : Hierarchy) (n : Option FolderId) (c p x : FolderId) :
    x ∈ (h.linkTo n c).childSet p ↔ n = some p ∧ x = c ∨ x ∈ h.childSet p := by
  cases n with
  | none => simp [linkTo]
  | some q =>
    simp only [linkTo, link, childSet, lookup_insert, Option.some.injEq]
    by_cases same : q = p
    · rw [if_pos same, Option.getD_some, mem_insert_iff, same]
      simp only [true_and]
    · rw [if_neg same]
      simp only [same, false_and, false_or]

theorem kids_linkTo_ne_empty {n : Option FolderId} {c : FolderId}
    (inhabited : ∀ (p : FolderId) (kids : IdSet .folder), h.kids[p]? = some kids → kids ≠ ∅)
    (p : FolderId) (kids : IdSet .folder) (found : (h.linkTo n c).kids[p]? = some kids) :
    kids ≠ ∅ := by
  cases n with
  | none => exact inhabited p kids found
  | some q =>
    simp only [linkTo, link, lookup_insert] at found
    split at found
    · cases found
      exact Std.ExtTreeSet.insert_ne_empty
    · exact inhabited p kids found

theorem lookup_unlink (h : Hierarchy) (q c p : FolderId) :
    (h.unlink q c).kids[p]? =
      if q = p then (h.kids[p]?.map (·.erase c)).filter (fun kids => !kids.isEmpty)
      else h.kids[p]? := by
  unfold unlink
  cases found : h.kids[q]? with
  | none =>
    by_cases same : q = p
    · subst same
      simp [found]
    · simp [same]
  | some kids =>
    by_cases same : q = p
    · subst same
      by_cases last : (kids.erase c).isEmpty = true
      · simp [last, found, Option.filter_some]
      · simp [last, found, Option.filter_some]
    · by_cases last : (kids.erase c).isEmpty = true
      · simp [last, same, lookup_erase]
      · simp [last, same, lookup_insert]

theorem mem_childSet_unlinkFrom (h : Hierarchy) (o : Option FolderId) (c p x : FolderId) :
    x ∈ (h.unlinkFrom o c).childSet p ↔ ¬ (o = some p ∧ x = c) ∧ x ∈ h.childSet p := by
  cases o with
  | none => simp [unlinkFrom]
  | some q =>
    simp only [unlinkFrom, childSet, lookup_unlink, Option.some.injEq]
    by_cases same : q = p
    · subst same
      rw [if_pos rfl]
      cases h.kids[q]? with
      | none => simp
      | some kids =>
        rw [Option.map_some, Option.filter_some, eq_self q, true_and, Option.getD_some, ← ne_eq,
          ← mem_erase_iff]
        by_cases last : (kids.erase c).isEmpty = true
        · simp [Std.ExtTreeSet.isEmpty_iff.mp last]
        · simp [last]
    · simp [same]

theorem kids_unlinkFrom_ne_empty {o : Option FolderId} {c : FolderId}
    (inhabited : ∀ (p : FolderId) (kids : IdSet .folder), h.kids[p]? = some kids → kids ≠ ∅)
    (p : FolderId) (kids : IdSet .folder) (found : (h.unlinkFrom o c).kids[p]? = some kids) :
    kids ≠ ∅ := by
  cases o with
  | none => exact inhabited p kids found
  | some q =>
    rw [unlinkFrom, lookup_unlink] at found
    split at found
    · have kept := (Option.filter_eq_some_iff.mp found).2
      simpa [Std.ExtTreeSet.isEmpty_eq_false_iff] using kept
    · exact inhabited p kids found

/-- Taking a child from the set of its old parent to that of its new one keeps the mirror. -/
theorem Linked.relink (linked : h.Linked) {h' : Hierarchy} {c : FolderId} {n : Option FolderId}
    (kids : h'.kids = ((h.unlinkFrom (h.parent? c) c).linkTo n c).kids)
    (parents : ∀ id, h'.parent? id = if c = id then n else h.parent? id) : h'.Linked where
  child_iff p x := by
    have sets : h'.childSet p = ((h.unlinkFrom (h.parent? c) c).linkTo n c).childSet p := by
      rw [childSet, kids]
      rfl
    rw [sets, mem_childSet_linkTo, mem_childSet_unlinkFrom, linked.child_iff, parents]
    by_cases same : c = x
    · subst same
      simp
    · simp [same, Ne.symm same]
  inhabited p set found := by
    rw [kids] at found
    exact kids_linkTo_ne_empty (kids_unlinkFrom_ne_empty linked.inhabited) p set found

theorem Linked.kids_eq_none (linked : h.Linked) {p : FolderId}
    (childless : ∀ c, h.parent? c ≠ some p) : h.kids[p]? = none := by
  cases found : h.kids[p]? with
  | none => rfl
  | some kids =>
    exfalso
    apply linked.inhabited p kids found
    rw [Std.ExtTreeSet.eq_empty_iff_forall_not_mem]
    intro c child
    apply childless c
    rw [← linked.child_iff, childSet, found]
    exact child

end Hierarchy

end Perimeter
