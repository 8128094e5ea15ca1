import Perimeter.Proofs.Tree

/-!
# Upkeep of the tree

Every change of a hierarchy gives one folder a new row, or takes its row away:

* `up_congr`: a chain of parents that does not pass that folder stays as it was;
* `IsTree.insert`, `IsTree.replace`, `IsTree.move`, `IsTree.remove`: a change that passed its
  check keeps the tree.
-/

namespace Perimeter.Hierarchy

variable {h h' : Hierarchy} {c p : FolderId} {f : Folder}

/-- Where the parents differ at one folder only, a chain is the same up to there. -/
theorem up_congr_upto (parents : ∀ id, id ≠ c → h'.parent? id = h.parent? id) {id : FolderId}
    {n : Nat} (clear : ∀ m < n, h.up m id ≠ some c) : h'.up n id = h.up n id := by
  induction n with
  | zero => rfl
  | succ n ih =>
    rw [up_succ', up_succ', ih fun m lt => clear m (Nat.lt_succ_of_lt lt)]
    cases reached : h.up n id with
    | none => rfl
    | some a =>
      have passed : a ≠ c := by
        rintro rfl
        exact clear n (Nat.lt_succ_self n) reached
      exact parents a passed

/-- A chain that does not pass that folder is the same throughout. -/
theorem up_congr (parents : ∀ id, id ≠ c → h'.parent? id = h.parent? id) {id : FolderId}
    (other : id ≠ c) (apart : ¬ h.Above c id) (n : Nat) : h'.up n id = h.up n id := by
  apply up_congr_upto parents
  intro m _ reached
  cases m with
  | zero => exact other (Option.some.inj reached)
  | succ m => exact apart ⟨m, reached⟩

/-- Hung below a folder that it does not lie above, a folder takes everything below it along to
the root. -/
theorem exists_up_root (parents : ∀ id, id ≠ c → h'.parent? id = h.parent? id)
    (link : h'.parent? c = some p) (other : p ≠ c) (apart : ¬ h.Above c p) {r : FolderId}
    (ground : ∃ n, h.up n p = some r) {n : Nat} {id : FolderId} (reached : h.up n id = some r) :
    ∃ n, h'.up n id = some r := by
  obtain ⟨m, below⟩ := ground
  have moved : h'.up (m + 1) c = some r := by
    rw [up_succ, link]
    exact (up_congr parents other apart m).trans below
  -- along the old chain: it passes `c` and goes on from the new place, or keeps its first link
  induction n generalizing id with
  | zero => exact ⟨0, reached⟩
  | succ n ih =>
    by_cases same : id = c
    · exact ⟨m + 1, same ▸ moved⟩
    · obtain ⟨q, above, rest⟩ := Option.bind_eq_some_iff.mp reached
      obtain ⟨k, found⟩ := ih rest
      refine ⟨k + 1, ?_⟩
      rw [up_succ, parents id same, above]
      exact found

/-! ## Checks -/

/-- For a folder that is there, the check is a chain of questions. -/
theorem checkMove_of_get? {id q : FolderId} (row : h.get? id = some f) :
    h.checkMove id q =
      if f.isRoot = true ∨ id = h.root then .error .rootMove
      else if h.contains q = false then .error (.folderMissing q)
      else if f.parent = some q then .ok .unchanged
      else if q = id ∨ h.isAbove id q = true then .error (.moveCycle id q)
      else .ok (.to q) := by
  have found : h.require id = .ok f := require_eq_ok.mpr row
  unfold checkMove
  rw [found]
  cases present : h.contains q with
  | false =>
    rw [require_of_absent present]
    rfl
  | true =>
    obtain ⟨g, target⟩ := contains_iff.mp present
    rw [require_eq_ok.mpr target]
    rfl

theorem checkMove_eq_ok {id q : FolderId} {m : Move} (passed : h.checkMove id q = .ok m) :
    ∃ f, h.get? id = some f ∧ f.isRoot = false ∧ id ≠ h.root ∧ h.contains q = true ∧
      (m = .unchanged ∧ f.parent = some q ∨ m = .to q ∧ q ≠ id ∧ h.isAbove id q = false) := by
  obtain ⟨f, found, _⟩ := bind_eq_ok.mp passed
  have row := require_eq_ok.mp found
  rw [checkMove_of_get? row] at passed
  split_ifs at passed with marked absent there above <;> cases passed
  all_goals
    rw [not_or, Bool.not_eq_true] at marked
    rw [Bool.not_eq_false] at absent
  · exact ⟨f, row, marked.1, marked.2, absent, Or.inl ⟨rfl, there⟩⟩
  · rw [not_or, Bool.not_eq_true] at above
    exact ⟨f, row, marked.1, marked.2, absent, Or.inr ⟨rfl, above⟩⟩

theorem checkRemoval_eq_ok {id : FolderId} (passed : h.checkRemoval id = .ok ()) :
    h.contains id = true ∧ id ≠ h.root ∧ h.childCount id = 0 := by
  obtain ⟨f, row, passed⟩ := bind_eq_ok.mp passed
  rw [require_eq_ok] at row
  split at passed
  · cases passed
  · next inside =>
    rw [not_or] at inside
    split at passed
    · next childless => exact ⟨contains_of_get? row, inside.2, childless⟩
    · cases passed

theorem Linked.childCount_eq_zero (linked : h.Linked) {p : FolderId} :
    h.childCount p = 0 ↔ ∀ c, h.parent? c ≠ some p := by
  rw [childCount, ← Std.ExtTreeSet.eq_empty_iff_size_eq_zero,
    Std.ExtTreeSet.eq_empty_iff_forall_not_mem]
  simp only [linked.child_iff, ne_eq]

theorem IsTree.contains_of_placeFor (tree : h.IsTree) {q : Option FolderId}
    (placed : h.placeFor q = .ok p) : h.contains p = true := by
  cases q with
  | none =>
    cases placed
    exact tree.contains_root
  | some q =>
    obtain ⟨f, found, rfl⟩ := map_eq_ok.mp placed
    rw [require_eq_ok] at found
    rw [tree.keyed q f found]
    exact contains_of_get? found

/-! ## Changes -/

namespace IsTree

/-- A row for a new or an old id keeps the tree, if it is a root exactly under the root's id and
the links still lead there. -/
theorem of_rows_insert (tree : h.IsTree) (root : h'.root = h.root)
    (rows : h'.rows = h.rows.insert f.id f) (linked : h'.Linked)
    (atRoot : f.id = h.root → f.isRoot = true ∧ f.parent = none)
    (inside : f.id ≠ h.root → f.isRoot = false ∧ ∃ p, f.parent = some p ∧ h.contains p = true)
    (reaches : ∀ id, h'.contains id = true → ∃ n, h'.up n id = some h.root) : h'.IsTree := by
  have lookup := get?_of_rows_insert rows
  have kept : ∀ p, h.contains p = true → h'.contains p = true := by
    intro p present
    rw [contains, lookup]
    split
    · rfl
    · exact present
  refine { toLinked := linked, rooted := ?_, keyed := ?_, inner := ?_, reaches := root ▸ reaches }
  · rw [rootFolder?, root, lookup]
    split
    · next same => exact ⟨f, rfl, atRoot same⟩
    · exact tree.rooted
  · intro id g row
    rw [lookup] at row
    split at row
    · next same =>
      cases row
      exact same
    · exact tree.keyed id g row
  · intro id g row other
    rw [lookup] at row
    rw [root] at other
    split at row
    · next same =>
      cases row
      obtain ⟨plain, q, parent, present⟩ := inside (same ▸ other)
      exact ⟨plain, q, parent, kept q present⟩
    · obtain ⟨plain, q, parent, present⟩ := tree.inner id g row other
      exact ⟨plain, q, parent, kept q present⟩

/-- A row below a folder that it does not lie above keeps the tree. -/
theorem of_hung (tree : h.IsTree) (root : h'.root = h.root)
    (rows : h'.rows = h.rows.insert f.id f) (linked : h'.Linked) (inside : f.id ≠ h.root)
    (plain : f.isRoot = false) (parent : f.parent = some p) (present : h.contains p = true)
    (other : p ≠ f.id) (apart : ¬ h.Above f.id p) : h'.IsTree := by
  have lookup := parent?_of_rows_insert rows
  have parents : ∀ id, id ≠ f.id → h'.parent? id = h.parent? id := by
    intro id different
    rw [lookup, if_neg (Ne.symm different)]
  have link : h'.parent? f.id = some p := by
    rw [lookup, if_pos rfl, parent]
  have leads : ∀ {n : Nat} {id : FolderId}, h.up n id = some h.root →
      ∃ n, h'.up n id = some h.root :=
    exists_up_root parents link other apart (tree.reaches p present)
  apply tree.of_rows_insert root rows linked
  · exact fun same => absurd same inside
  · exact fun _ => ⟨plain, p, parent, present⟩
  · intro id stored
    by_cases same : id = f.id
    · obtain ⟨m, ground⟩ := tree.reaches p present
      obtain ⟨k, found⟩ := leads ground
      refine ⟨k + 1, ?_⟩
      rw [up_succ, same, link]
      exact found
    · rw [contains, get?_of_rows_insert rows, if_neg (Ne.symm same)] at stored
      obtain ⟨m, reached⟩ := tree.reaches id stored
      exact leads reached

/-- Adding a folder below one that is present keeps the tree. -/
theorem insert (tree : h.IsTree) (fresh : h.get? f.id = none) (plain : f.isRoot = false)
    (parent : f.parent = some p) (present : h.contains p = true) : (h.insert f).IsTree := by
  have absent : ¬ h.contains f.id = true := by simp [contains, fresh]
  have linked : (h.insert f).Linked := by
    apply tree.toLinked.relink (c := f.id) (n := f.parent)
    · rw [parent?_of_absent fresh]
      rfl
    · exact parent?_of_rows_insert (rows_insert h f)
  apply tree.of_hung (root_insert h f) (rows_insert h f) linked _ plain parent present
  · rintro rfl
    exact absent present
  · rintro ⟨n, reached⟩
    exact absent (tree.contains_of_up present reached)
  · intro same
    exact absent (same ▸ tree.contains_root)

end IsTree

theorem kids_unlinkFrom_setRow (h : Hierarchy) (f : Folder) (o : Option FolderId) (c : FolderId) :
    ((h.setRow f).unlinkFrom o c).kids = (h.unlinkFrom o c).kids := by
  cases o with
  | none => rfl
  | some q =>
    simp only [unlinkFrom, unlink, setRow]
    cases h.kids[q]? <;> rfl

theorem kids_linkTo_congr (kids : h'.kids = h.kids) (n : Option FolderId) (c : FolderId) :
    (h'.linkTo n c).kids = (h.linkTo n c).kids := by
  cases n with
  | none => exact kids
  | some q => simp only [linkTo, link, childSet, kids]

/-- A folder that is replaced goes from the set of its old parent to that of its new one. -/
theorem linked_replace (linked : h.Linked) (f : Folder) : (h.replace f).Linked := by
  have parents := parent?_of_rows_insert (rows_replace h f)
  by_cases stays : h.parent? f.id = f.parent
  · have same : (h.replace f).kids = h.kids := by
      simp only [replace, if_pos stays]
      rfl
    constructor
    · intro p c
      rw [childSet, same, parents]
      refine (linked.child_iff p c).trans ?_
      split
      · next here => rw [← here, stays]
      · rfl
    · exact same ▸ linked.inhabited
  · apply linked.relink (c := f.id) (n := f.parent) _ parents
    simp only [replace, if_neg stays]
    exact kids_linkTo_congr (kids_unlinkFrom_setRow h f _ f.id) f.parent f.id

namespace IsTree

/-- A change of a folder's other fields keeps the tree, also at the root. -/
theorem replace (tree : h.IsTree) {g : Folder} (row : h.get? f.id = some g)
    (parent : f.parent = g.parent) (flag : f.isRoot = g.isRoot) : (h.replace f).IsTree := by
  have rows := rows_replace h f
  have parents : ∀ id, (h.replace f).parent? id = h.parent? id := by
    intro id
    rw [parent?_of_rows_insert rows]
    split
    · next same => rw [← same, parent?_of_get? row, parent]
    · rfl
  have chains : ∀ n id, (h.replace f).up n id = h.up n id := by
    intro n
    induction n with
    | zero => exact fun _ => rfl
    | succ n ih =>
      intro id
      rw [up_succ', up_succ', ih, funext parents]
  apply tree.of_rows_insert (root_replace h f) rows (linked_replace tree.toLinked f)
  · intro same
    obtain ⟨r, this, marked, top⟩ := tree.rooted
    rw [rootFolder?, ← same, row] at this
    cases this
    exact ⟨flag.trans marked, parent.trans top⟩
  · intro other
    obtain ⟨plain, q, above, present⟩ := tree.inner f.id g row other
    exact ⟨flag.trans plain, q, parent.trans above, present⟩
  · intro id stored
    simp only [chains]
    apply tree.reaches id
    rw [contains, get?_of_rows_insert rows] at stored
    split at stored
    · next same => exact contains_of_get? (same ▸ row)
    · exact stored

/-- Moving a folder that is not the root below one that is neither itself nor below it keeps
the tree. -/
theorem move (tree : h.IsTree) (inside : f.id ≠ h.root) (plain : f.isRoot = false)
    (parent : f.parent = some p) (present : h.contains p = true) (other : p ≠ f.id)
    (apart : ¬ h.Above f.id p) : (h.replace f).IsTree :=
  tree.of_hung (root_replace h f) (rows_replace h f) (linked_replace tree.toLinked f) inside
    plain parent present other apart

end IsTree

/-! ## Removal -/

theorem kids_remove (row : h.get? c = some f) (childless : h.kids[c]? = none) :
    (h.remove c).kids = (h.unlinkFrom f.parent c).kids := by
  have emptied : (h.unlinkFrom f.parent c).kids[c]? = none := by
    cases f.parent with
    | none => exact childless
    | some q =>
      rw [unlinkFrom, lookup_unlink, childless]
      split <;> rfl
  have erased : (h.remove c).kids = (h.unlinkFrom f.parent c).kids.erase c := by
    simp only [remove, row]
    cases f.parent with
    | none => rfl
    | some q =>
      simp only [unlinkFrom, unlink]
      cases h.kids[q]? <;> rfl
  rw [erased]
  apply Std.ExtTreeMap.ext_getElem?
  intro k
  rw [lookup_erase]
  split
  · next same => rw [← same, emptied]
  · rfl

theorem parent?_remove (present : h.contains c = true) (id : FolderId) :
    (h.remove c).parent? id = if c = id then none else h.parent? id := by
  rw [parent?, get?, rows_remove present, lookup_erase]
  split <;> rfl

/-- No path leads through a folder that is the parent of none. -/
theorem not_above_of_childless (childless : ∀ id, h.parent? id ≠ some c) (id : FolderId) :
    ¬ h.Above c id := by
  rintro ⟨n, reached⟩
  obtain ⟨q, _, link⟩ := Option.bind_eq_some_iff.mp (up_succ' h n id ▸ reached)
  exact childless q link

/-- Removing a folder that is not the root and has none below it keeps the tree. -/
theorem IsTree.remove (tree : h.IsTree) (present : h.contains c = true) (inside : c ≠ h.root)
    (childless : ∀ id, h.parent? id ≠ some c) : (h.remove c).IsTree := by
  obtain ⟨f, row⟩ := contains_iff.mp present
  have parents := parent?_remove present
  have lookup : ∀ id, (h.remove c).get? id = if c = id then none else h.get? id := by
    intro id
    rw [get?, rows_remove present, lookup_erase]
    rfl
  have linked : (h.remove c).Linked := by
    apply tree.toLinked.relink (c := c) (n := none) _ parents
    rw [kids_remove row (tree.toLinked.kids_eq_none childless), parent?_of_get? row]
    rfl
  refine { toLinked := linked, rooted := ?_, keyed := ?_, inner := ?_, reaches := ?_ }
  · rw [rootFolder?, root_remove, lookup, if_neg inside]
    exact tree.rooted
  · intro id g this
    rw [lookup] at this
    split at this
    · cases this
    · exact tree.keyed id g this
  · intro id g this other
    rw [root_remove] at other
    rw [lookup] at this
    split at this
    · cases this
    · obtain ⟨plain, q, above, stored⟩ := tree.inner id g this other
      refine ⟨plain, q, above, ?_⟩
      have different : c ≠ q := by
        rintro rfl
        exact childless id ((parent?_of_get? this).trans above)
      rw [contains, lookup, if_neg different]
      exact stored
  · intro id stored
    rw [contains, lookup] at stored
    split at stored
    · cases stored
    · next different =>
      obtain ⟨n, reached⟩ := tree.reaches id stored
      refine ⟨n, ?_⟩
      have unchanged : ∀ i, i ≠ c → (h.remove c).parent? i = h.parent? i := by
        intro i other
        rw [parents, if_neg (Ne.symm other)]
      -- no chain passes a folder without children, so all of them stay
      rw [up_congr unchanged (Ne.symm different) (not_above_of_childless childless id), root_remove]
      exact reached

end Perimeter.Hierarchy
