import Mathlib.Logic.Relation
import Perimeter.Proofs.Acceptance

/-!
# Loading stored folders

A load accepts exactly the rows that are a rooted tree, in whatever order they come
(`ofRows_accepts_rooted_trees`). It looks for circles of parents only by counting: a search from
the root, which does not remember where it was, has to find as many folders as there are rows.
That search ends on every input that gets so far (`Linked.drains_iff`): it starts where the
parents end, so it passes no circle and finds no folder twice, and never more than there are.
-/

namespace Perimeter

/-- The second row is the parent of the first. -/
def ParentOf (rows : List Folder) (f g : Folder) : Prop := g ∈ rows ∧ f.parent = some g.id

/-- The rows are one tree below one root. -/
structure RootedTree (rows : List Folder) : Prop where
  /-- Exactly one row is marked as the root. -/
  only : rows.countP Folder.isRoot = 1
  /-- A row has a parent exactly if it is not the root. -/
  flags : ∀ f ∈ rows, f.parent.isSome = true ↔ f.isRoot = false
  distinct : (rows.map Folder.id).Nodup
  /-- Every parent is the id of a row. -/
  closed : ∀ f ∈ rows, ∀ p, f.parent = some p → ∃ g ∈ rows, g.id = p
  /-- From every row the parents lead to the root. -/
  reaches : ∀ f ∈ rows, ∃ r, r.isRoot = true ∧ Relation.ReflTransGen (ParentOf rows) f r

namespace Hierarchy

variable {h : Hierarchy} {rows : List Folder} {r : Folder}

/-! ## The search from the root -/

/-- What a search finds that takes folders from the front of a queue and puts their children at
its end, without looking for those it has found before. -/
inductive Drains (h : Hierarchy) : List FolderId → List FolderId → Prop where
  | done : Drains h [] []
  | next {a : FolderId} {rest found : List FolderId}
      (drains : Drains h (rest ++ h.childIds a) found) : Drains h (a :: rest) (h.childIds a ++ found)

theorem Drains.unique {queue found found' : List FolderId} (drains : h.Drains queue found)
    (drains' : h.Drains queue found') : found = found' := by
  induction drains generalizing found' with
  | done =>
    cases drains'
    rfl
  | next _ ih =>
    cases drains' with
    | next drains' => rw [ih drains']

/-- A whole level is taken from the queue, and its children are found. -/
theorem Drains.level {level rest found : List FolderId}
    (drains : h.Drains (rest ++ level.flatMap h.childIds) found) :
    h.Drains (level ++ rest) (level.flatMap h.childIds ++ found) := by
  induction level generalizing rest with
  | nil => simpa using drains
  | cons a level ih =>
    rw [List.flatMap_cons, List.append_assoc, List.cons_append]
    apply Drains.next
    rw [List.append_assoc]
    apply ih
    rw [List.append_assoc]
    exact drains

theorem Drains.last {level : List FolderId} (childless : level.flatMap h.childIds = []) :
    h.Drains level [] := by
  have drains : h.Drains ([] ++ level.flatMap h.childIds) [] := by
    rw [childless]
    exact .done
  simpa [childless] using drains.level

/-- Levels are what the queue holds one after another, down to the last that has children. -/
theorem Linked.drains_levelsBelow (linked : h.Linked) {n : Nat} {level : List FolderId}
    (deepest : ∀ x, ∀ a ∈ level, h.up (n + 1) x ≠ some a) :
    h.Drains level (h.levelsBelow n level) := by
  induction n generalizing level with
  | zero =>
    apply Drains.last
    rw [List.eq_nil_iff_forall_not_mem]
    intro c child
    obtain ⟨a, ha, link⟩ := linked.mem_next.mp child
    exact deepest c a ha ((up_one h c).trans link)
  | succ n ih =>
    rw [levelsBelow]
    split
    · next childless => exact .last (List.isEmpty_iff.mp childless)
    · have below : h.Drains ([] ++ level.flatMap h.childIds)
          (h.levelsBelow n (level.flatMap h.childIds)) := by
        apply ih
        intro x c hc reached
        obtain ⟨a, ha, link⟩ := linked.mem_next.mp hc
        refine deepest x a ha ?_
        rw [up_succ', reached]
        exact link
      simpa using below.level

/-- From a folder whose parents end, the search ends, with the folders below in their order. -/
theorem Linked.drains_iff (linked : h.Linked) {a : FolderId} (ends : h.Ends a)
    {found : List FolderId} : h.Drains [a] found ↔ found = h.below a := by
  have drains : h.Drains [a] (h.below a) := by
    apply linked.drains_levelsBelow
    intro x b hb reached
    obtain rfl := List.mem_singleton.mp hb
    exact Nat.not_succ_le_self _ (linked.le_size_kids (ends.of_reached reached) reached)
  constructor
  · intro other
    exact other.unique drains
  · rintro rfl
    exact drains

/-! ## Refused rows -/

theorem foldlM_collectRow_eq_error {table : IdMap .folder Folder} {e : Fault}
    (failed : rows.foldlM collectRow table = .error e) : e.kind = .configuration := by
  induction rows generalizing table with
  | nil => cases failed
  | cons f rows ih =>
    rw [List.foldlM_cons, bind_eq_error] at failed
    obtain refused | ⟨_, _, later⟩ := failed
    · unfold collectRow at refused
      split at refused
      · cases refused
        rfl
      · split at refused <;> cases refused
        rfl
    · exact ih later

/-- Whatever is wrong with stored rows, it is reported as a fault of what is configured. -/
theorem ofRows_eq_error {e : Fault} (failed : ofRows rows = .error e) :
    e.kind = .configuration := by
  rw [ofRows, bind_eq_error] at failed
  obtain unrooted | ⟨root, _, failed⟩ := failed
  · unfold soleRoot at unrooted
    split at unrooted <;> cases unrooted <;> rfl
  · rw [bind_eq_error] at failed
    obtain uncollected | ⟨table, _, failed⟩ := failed
    · exact foldlM_collectRow_eq_error uncollected
    · split at failed
      · cases failed
        rfl
      · dsimp only at failed
        split at failed <;> cases failed
        rfl

/-! ## Accepted rows -/

theorem Lists.perm {rows' : List Folder} (lists : Lists rows h) (perm : rows.Perm rows') :
    Lists rows' h where
  distinct := (perm.map Folder.id).nodup_iff.mp lists.distinct
  mem_iff f := perm.mem_iff.symm.trans (lists.mem_iff f)

theorem ofRows_perm {rows' : List Folder} (perm : rows.Perm rows')
    (loaded : ofRows rows = .ok h) : ofRows rows' = .ok h := by
  obtain ⟨tree, lists⟩ := ofRows_eq_ok.mp loaded
  exact ofRows_eq_ok.mpr ⟨tree, lists.perm perm⟩

theorem contains_collected (distinct : (rows.map Folder.id).Nodup) {p : FolderId} :
    (collected rows).contains p = true ↔ ∃ g ∈ rows, g.id = p := by
  rw [Std.ExtTreeMap.contains_eq_isSome_getElem?, Option.isSome_iff_exists]
  simp only [getElem?_collected distinct]

/-- The chains of parents in a hierarchy are those of its rows. -/
theorem exists_up_iff (get : ∀ id f, h.get? id = some f ↔ f ∈ rows ∧ f.id = id) {f g : Folder}
    (mem : f ∈ rows) (goal : g ∈ rows) :
    (∃ n, h.up n f.id = some g.id) ↔ Relation.ReflTransGen (ParentOf rows) f g := by
  constructor
  · rintro ⟨n, reached⟩
    induction n generalizing g with
    | zero =>
      have here := (get f.id f).mpr ⟨mem, rfl⟩
      have there := (get f.id g).mpr ⟨goal, (Option.some.inj reached).symm⟩
      cases here.symm.trans there
      exact .refl
    | succ n ih =>
      obtain ⟨q, before, link⟩ := Option.bind_eq_some_iff.mp (up_succ' h n f.id ▸ reached)
      obtain ⟨b, row, parent⟩ := Option.bind_eq_some_iff.mp link
      obtain ⟨stored, rfl⟩ := (get q b).mp row
      exact (ih stored before).tail ⟨goal, parent⟩
  · intro chain
    induction chain with
    | refl => exact ⟨0, rfl⟩
    | @tail b c reached link ih =>
      have stored : b ∈ rows := by
        cases reached with
        | refl => exact mem
        | tail _ link => exact link.1
      obtain ⟨n, before⟩ := ih stored
      refine ⟨n + 1, ?_⟩
      rw [up_succ', before, Option.bind_some, parent?_of_get? ((get b.id b).mpr ⟨stored, rfl⟩)]
      exact link.2

theorem flags_iff {f : Folder} :
    f.isRoot ≠ f.parent.isSome ↔ (f.parent.isSome = true ↔ f.isRoot = false) := by
  cases f.isRoot <;> cases f.parent.isSome <;> simp

theorem rootedTree_of_loaded (loaded : ofRows rows = .ok h) : RootedTree rows := by
  obtain ⟨r, sound, made, count⟩ := ofRows_eq_ok_iff_sound.mp loaded
  obtain ⟨tree, lists⟩ := sound.isTree made count
  have root : h.root = r.id := made ▸ root_assemble r.id _ rows
  obtain ⟨stored, flag⟩ := (sound.mem_root r).mpr rfl
  refine ⟨?_, ?_, sound.distinct, ?_, ?_⟩
  · rw [List.countP_eq_length_filter, sound.only]
    rfl
  · intro f mem
    exact flags_iff.mp (sound.flags f mem)
  · intro f mem p parent
    exact (contains_collected sound.distinct).mp (sound.closed f mem p parent)
  · intro f mem
    have present := contains_of_get? ((lists.mem_iff f).mp mem)
    refine ⟨r, flag, (exists_up_iff (fun id f => lists.get?_iff tree) mem stored).mp ?_⟩
    rw [← root]
    exact tree.reaches f.id present

theorem loaded_of_rootedTree (tree : RootedTree rows) : ∃ h, ofRows rows = .ok h := by
  obtain ⟨only, flags, distinct, closed, reaches⟩ := tree
  rw [List.countP_eq_length_filter, List.length_eq_one_iff] at only
  obtain ⟨r, only⟩ := only
  have sound : Sound rows r := by
    refine ⟨only, ?_, distinct, ?_⟩
    · intro f mem
      exact flags_iff.mpr (flags f mem)
    · intro f mem p parent
      exact (contains_collected distinct).mpr (closed f mem p parent)
  obtain ⟨row, top⟩ := sound.get?_root rfl
  have root := root_assemble r.id (collected rows) rows
  refine ⟨_, ofRows_eq_ok_iff_sound.mpr ⟨r, sound, rfl, ?_⟩⟩
  have count := reached_iff sound.linked (contains_of_get? row) top
  rw [root] at count
  refine count.mpr fun id present => ?_
  obtain ⟨f, found⟩ := contains_iff.mp present
  obtain ⟨mem, rfl⟩ := (sound.get?_assemble id f).mp found
  obtain ⟨r', flag, chain⟩ := reaches f mem
  have stored : r' ∈ rows := by
    cases chain with
    | refl => exact mem
    | tail _ link => exact link.1
  obtain rfl := (sound.mem_root r').mp ⟨stored, flag⟩
  exact (exists_up_iff sound.get?_assemble mem stored).mpr chain

/-- The search from the root ends, and finds each folder that hangs below the root once, so that
with the root there are no more of them than rows. -/
structure Searches (h : Hierarchy) : Prop where
  ends : ∀ found, h.Drains [h.root] found ↔ found = h.below h.root
  finds : ∀ id, id ∈ h.below h.root ↔ h.Above h.root id
  once : (h.below h.root).Nodup
  fits : (h.below h.root).length + 1 ≤ h.size

theorem Sound.searches (sound : Sound rows r) :
    (assemble r.id (collected rows) rows).Searches := by
  obtain ⟨row, top⟩ := sound.get?_root rfl
  have linked := sound.linked
  generalize assemble r.id (collected rows) rows = h at row top linked
  have ends : h.Ends h.root := ⟨1, (up_one h h.root).trans top⟩
  refine ⟨fun found => linked.drains_iff ends, ?_, linked.nodup_below ends, ?_⟩
  · intro id
    refine ⟨linked.above_of_mem_below, fun above => (linked.mem_below ?_).mpr above⟩
    obtain ⟨n, reached⟩ := above
    exact ends.of_reached reached
  · rw [← length_keys_rows]
    exact (reached_subperm linked (contains_of_get? row) top).length_le

/-- The rows of a rooted tree are accepted, in any order and with the same result, and no others
are; what is refused is a fault of what is stored. Where the rows have passed one by one, the
search that the last check counts comes to an end, and its count is at most that of the rows. -/
theorem ofRows_accepts_rooted_trees (rows : List Folder) :
    ((∃ h, ofRows rows = .ok h) ↔ RootedTree rows) ∧
      (∀ e, ofRows rows = .error e → e.kind = .configuration) ∧
      (∀ root table, soleRoot rows = .ok root → rows.foldlM collectRow ∅ = .ok table →
        danglingRow? table rows = none → (assemble root table rows).Searches) ∧
      ∀ h, ofRows rows = .ok h →
        (∀ f ∈ rows, f.isRoot = true → h.root = f.id) ∧
          (∀ id f, h.get? id = some f ↔ f ∈ rows ∧ f.id = id) ∧
          (∀ p c, c ∈ h.childSet p ↔ ∃ f ∈ rows, f.id = c ∧ f.parent = some p) ∧
          (∀ p : FolderId, ∀ kids, h.kids[p]? = some kids → kids ≠ ∅) ∧
          ∀ rows', rows.Perm rows' → ofRows rows' = .ok h := by
  refine ⟨⟨fun ⟨h, loaded⟩ => rootedTree_of_loaded loaded, loaded_of_rootedTree⟩,
    fun e => ofRows_eq_error, ?_, ?_⟩
  · intro root table found entered closed
    obtain ⟨r, only, rfl⟩ := soleRoot_eq_ok.mp found
    obtain ⟨flags, _, distinct, rfl⟩ := foldlM_collectRow.mp entered
    exact Sound.searches ⟨only, flags, distinct, danglingRow?_eq_none.mp closed⟩
  · intro h loaded
    obtain ⟨tree, lists⟩ := ofRows_eq_ok.mp loaded
    refine ⟨?_, fun id f => lists.get?_iff tree, ?_, tree.inhabited, fun rows' perm => ?_⟩
    · intro f mem flag
      exact ((tree.isRoot_iff ((lists.mem_iff f).mp mem)).mp flag).symm
    · intro p c
      rw [tree.child_iff, parent?, Option.bind_eq_some_iff]
      simp only [lists.get?_iff tree, and_assoc]
    · exact ofRows_perm perm loaded

end Hierarchy

end Perimeter
