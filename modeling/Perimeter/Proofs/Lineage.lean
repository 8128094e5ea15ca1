import Mathlib.Data.Nat.Find
import Mathlib.Tactic.ByContra
import Perimeter.Hierarchy.Change
import Perimeter.Proofs.Tables

/-!
# Lineage

Where the walks of a hierarchy lead, whether or not its rows form a tree:

* `up` follows the parent links for a number of steps, and `Above` is what it reaches;
* `up_injective`: a chain of parents that ends passes no folder twice, so it is no longer than
  the hierarchy has folders (`up_size_eq_none`), nor than it has sets of children
  (`Linked.le_size_kids`);
* `Above.exists_lt_size`: on any chain, a folder is met within as many steps as there are folders;
* `climb?_isSome`, `getElem?_climb`: the bounded climb finds exactly the chain, if it is short
  enough, and the bounded search finds every folder on it (`isAbove_iff`);
* `Linked.mem_levelsBelow`: the bounded descent finds exactly the folders that lie so many links
  below a level, and `Linked.nodup_levelsBelow` each of them once.
-/

namespace Perimeter.Hierarchy

variable {h : Hierarchy}

/-- The folder that lies so many parent links above one, if the chain goes so far. -/
def up (h : Hierarchy) : Nat → FolderId → Option FolderId
  | 0, id => some id
  | n + 1, id => (h.parent? id).bind (h.up n)

/-- Whether `a` lies strictly above `id`, by one link or more. -/
def Above (h : Hierarchy) (a id : FolderId) : Prop := ∃ n, h.up (n + 1) id = some a

/-- Whether the chain of parents that starts with a folder comes to an end. -/
def Ends (h : Hierarchy) (id : FolderId) : Prop := ∃ n, h.up n id = none

@[simp] theorem up_zero (h : Hierarchy) (id : FolderId) : h.up 0 id = some id := rfl

theorem up_succ (h : Hierarchy) (n : Nat) (id : FolderId) :
    h.up (n + 1) id = (h.parent? id).bind (h.up n) := rfl

theorem up_one (h : Hierarchy) (id : FolderId) : h.up 1 id = h.parent? id := by
  rw [up_succ]
  cases h.parent? id <;> rfl

theorem up_add (h : Hierarchy) (m n : Nat) (id : FolderId) :
    h.up (m + n) id = (h.up m id).bind (h.up n) := by
  induction m generalizing id with
  | zero => simp
  | succ m ih =>
    rw [Nat.succ_add, up_succ, up_succ]
    cases h.parent? id with
    | none => rfl
    | some p => exact ih p

theorem up_succ' (h : Hierarchy) (n : Nat) (id : FolderId) :
    h.up (n + 1) id = (h.up n id).bind h.parent? := by
  rw [up_add]
  congr
  funext p
  exact up_one h p

theorem up_of_le {m n : Nat} {id : FolderId} (past : h.up m id = none) (le : m ≤ n) :
    h.up n id = none := by
  obtain ⟨d, rfl⟩ := Nat.exists_eq_add_of_le le
  rw [up_add, past]
  rfl

/-- Links below a folder that the chain reaches are there too. -/
theorem exists_up_of_le {m n : Nat} {id a : FolderId} (reached : h.up n id = some a)
    (le : m ≤ n) : ∃ p, h.up m id = some p := by
  cases step : h.up m id with
  | none => simp [up_of_le step le] at reached
  | some p => exact ⟨p, rfl⟩

/-! ## Chains that end -/

theorem up_mul {d : Nat} {id : FolderId} (circle : h.up d id = some id) (k : Nat) :
    h.up (k * d) id = some id := by
  induction k with
  | zero => simp
  | succ k ih =>
    rw [Nat.succ_mul, up_add, ih]
    exact circle

theorem Ends.not_above_self {id : FolderId} (ends : h.Ends id) : ¬ h.Above id id := by
  rintro ⟨d, circle⟩
  obtain ⟨n, past⟩ := ends
  -- Often enough around the circle is past the end of the chain.
  have again := up_mul circle n
  have le : n ≤ n * (d + 1) := Nat.le_mul_of_pos_right n (Nat.succ_pos d)
  rw [up_of_le past le] at again
  cases again

theorem Ends.of_up {n : Nat} {id a : FolderId} (ends : h.Ends id) (reached : h.up n id = some a) :
    h.Ends a := by
  obtain ⟨m, past⟩ := ends
  refine ⟨m, ?_⟩
  have beyond := up_of_le past (Nat.le_add_left m n)
  rw [up_add, reached] at beyond
  exact beyond

/-- A chain that reaches one that ends comes to an end itself. -/
theorem Ends.of_reached {n : Nat} {id a : FolderId} (ends : h.Ends a)
    (reached : h.up n id = some a) : h.Ends id := by
  obtain ⟨m, past⟩ := ends
  refine ⟨n + m, ?_⟩
  rw [up_add, reached]
  exact past

/-- A chain of parents that ends passes no folder twice. -/
theorem Ends.up_injective {i j : Nat} {id a : FolderId} (ends : h.Ends id)
    (hi : h.up i id = some a) (hj : h.up j id = some a) : i = j := by
  have once : ∀ {i j : Nat}, h.up i id = some a → h.up j id = some a → ¬ i < j := by
    intro i j hi hj lt
    obtain ⟨d, rfl⟩ := Nat.exists_eq_add_of_lt lt
    rw [Nat.add_assoc, up_add, hi] at hj
    exact (ends.of_up hi).not_above_self ⟨d, hj⟩
  have := once hi hj
  have := once hj hi
  omega

/-- So many different folders on a chain are at most so many keys. -/
theorem le_length_of_apart {id : FolderId} (keys : List FolderId) (k n : Nat)
    (apart : ∀ i < n, ∀ j < n, h.up (k + i) id = h.up (k + j) id → i = j)
    (found : ∀ i < n, ∃ a ∈ keys, h.up (k + i) id = some a) : n ≤ keys.length := by
  -- The steps are all different and all among the keys, so they are no more than those.
  let steps := (List.range n).map fun i => h.up (k + i) id
  have distinct : steps.Nodup := by
    apply List.Nodup.map_on _ List.nodup_range
    intro i hi j hj same
    exact apart i (List.mem_range.mp hi) j (List.mem_range.mp hj) same
  have within : steps ⊆ keys.map some := by
    intro step hs
    obtain ⟨i, hi, rfl⟩ := List.mem_map.mp hs
    obtain ⟨a, mem, ha⟩ := found i (List.mem_range.mp hi)
    exact List.mem_map.mpr ⟨a, mem, ha.symm⟩
  simpa [steps] using (distinct.subperm within).length_le

theorem Ends.le_length {id : FolderId} (ends : h.Ends id) (keys : List FolderId) (k n : Nat)
    (found : ∀ i < n, ∃ a ∈ keys, h.up (k + i) id = some a) : n ≤ keys.length := by
  apply le_length_of_apart keys k n _ found
  intro i hi j _ same
  obtain ⟨a, _, here⟩ := found i hi
  have := ends.up_injective here (same ▸ here)
  omega

theorem contains_of_parent? {id p : FolderId} (parent : h.parent? id = some p) :
    h.contains id = true := by
  unfold contains
  unfold parent? at parent
  cases row : h.get? id with
  | none => simp [row] at parent
  | some f => rfl

theorem Above.contains {a id : FolderId} (above : h.Above a id) : h.contains id = true := by
  obtain ⟨n, reached⟩ := above
  obtain ⟨p, link, _⟩ := Option.bind_eq_some_iff.mp reached
  exact contains_of_parent? link

theorem mem_rows {id : FolderId} : id ∈ h.rows ↔ h.contains id = true :=
  Std.ExtTreeMap.mem_iff_isSome_getElem?

theorem mem_keys_of_contains {id : FolderId} (present : h.contains id = true) :
    id ∈ h.rows.keys :=
  Std.ExtTreeMap.mem_keys.mpr (mem_rows.mpr present)

/-- Up to the first place of a folder a chain meets no other folder twice. -/
theorem up_ne_of_first {a id : FolderId} {i j n : Nat} (reached : h.up (n + 1) id = some a)
    (first : ∀ m < n, h.up (m + 1) id ≠ some a) (lt : i < j) (le : j ≤ n) :
    h.up i id ≠ h.up j id := by
  intro same
  -- from two equal places as many steps lead to `a`
  obtain ⟨d, rest⟩ := Nat.exists_eq_add_of_le (Nat.le_succ_of_le le)
  have sooner : h.up (i + d) id = some a := by
    rw [up_add, same, ← up_add, ← rest]
    exact reached
  obtain ⟨m, steps⟩ : ∃ m, i + d = m + 1 := ⟨i + d - 1, by omega⟩
  rw [steps] at sooner
  exact first m (by omega) sooner

/-- A folder on a chain is met within as many steps as there are folders, also where the chain runs
in a circle further on. -/
theorem Above.exists_lt_size {a id : FolderId} (above : h.Above a id) :
    ∃ n < h.size, h.up (n + 1) id = some a := by
  classical
  let n := Nat.find above
  have reached : h.up (n + 1) id = some a := Nat.find_spec above
  have first : ∀ m < n, h.up (m + 1) id ≠ some a := fun m lt => Nat.find_min above lt
  refine ⟨n, ?_, reached⟩
  have few : n + 1 ≤ h.rows.keys.length := by
    apply le_length_of_apart h.rows.keys 0
    · intro i hi j hj same
      rw [Nat.zero_add, Nat.zero_add] at same
      by_contra other
      obtain lt | lt := Nat.lt_or_gt_of_ne other
      · exact up_ne_of_first reached first lt (Nat.le_of_lt_succ hj) same
      · exact up_ne_of_first reached first lt (Nat.le_of_lt_succ hi) same.symm
    · intro i hi
      obtain ⟨p, next⟩ := exists_up_of_le reached (Nat.succ_le_of_lt hi)
      obtain ⟨q, this, link⟩ := Option.bind_eq_some_iff.mp (up_succ' h i id ▸ next)
      exact ⟨q, mem_keys_of_contains (contains_of_parent? link), by rw [Nat.zero_add, this]⟩
  rw [Std.ExtTreeMap.length_keys] at few
  exact few

/-- A chain that ends is no longer than the hierarchy has folders, also where the last parent is
missing. -/
theorem Ends.up_size_eq_none {id : FolderId} (ends : h.Ends id) : h.up (h.size + 1) id = none := by
  cases reached : h.up (h.size + 1) id with
  | none => rfl
  | some a =>
    obtain ⟨n, few, again⟩ := Above.exists_lt_size ⟨h.size, reached⟩
    have := ends.up_injective again reached
    omega

/-! ## Climbing -/

theorem climb?_isSome (h : Hierarchy) (n : Nat) (start : Option FolderId) :
    (h.climb? n start).isSome = true ↔ start.bind (h.up n) = none := by
  induction n generalizing start with
  | zero => cases start <;> simp [climb?]
  | succ n ih =>
    cases start with
    | none => simp [climb?]
    | some p => simp [climb?, ih, up_succ]

theorem getElem?_climb {n : Nat} {start : Option FolderId} {chain : List FolderId}
    (climbed : h.climb? n start = some chain) (i : Nat) :
    chain[i]? = start.bind (h.up i) := by
  induction n generalizing start chain i with
  | zero =>
    cases start with
    | none => simp_all [climb?]
    | some p => simp [climb?] at climbed
  | succ n ih =>
    cases start with
    | none => simp_all [climb?]
    | some p =>
      rw [climb?, Option.map_eq_some_iff] at climbed
      obtain ⟨rest, hr, rfl⟩ := climbed
      cases i with
      | zero => rfl
      | succ i =>
        rw [List.getElem?_cons_succ, ih hr i]
        rfl

/-- The parents of a folder whose chain ends are found, and they are what lies above it. -/
theorem Ends.ancestors_eq {id : FolderId} (ends : h.Ends id) (present : h.contains id = true) :
    ∃ chain, h.ancestors id = .ok chain ∧ (∀ i, chain[i]? = h.up (i + 1) id) ∧
      ∀ a, a ∈ chain ↔ h.Above a id := by
  obtain ⟨f, row⟩ := Option.isSome_iff_exists.mp present
  have parent : h.parent? id = f.parent := by rw [parent?, row]; rfl
  have short : (h.climb? h.size f.parent).isSome = true := by
    rw [climb?_isSome, ← parent]
    exact ends.up_size_eq_none
  obtain ⟨chain, climbed⟩ := Option.isSome_iff_exists.mp short
  have places : ∀ i, chain[i]? = h.up (i + 1) id := by
    intro i
    rw [getElem?_climb climbed, ← parent]
    rfl
  refine ⟨chain, ?_, places, ?_⟩
  · simp only [ancestors, require, row, bind, Except.bind, climbed]
  · intro a
    simp only [List.mem_iff_getElem?, places]
    rfl

theorem occursAbove_iff (h : Hierarchy) (a : FolderId) (n : Nat) (start : Option FolderId) :
    h.occursAbove a n start = true ↔ ∃ i < n, start.bind (h.up i) = some a := by
  induction n generalizing start with
  | zero => cases start <;> simp [occursAbove]
  | succ n ih =>
    cases start with
    | none => simp [occursAbove]
    | some p =>
      simp only [occursAbove, Bool.or_eq_true, decide_eq_true_eq, ih, Option.bind_some]
      constructor
      · rintro (rfl | ⟨i, hi, found⟩)
        · exact ⟨0, Nat.succ_pos n, rfl⟩
        · exact ⟨i + 1, Nat.succ_lt_succ hi, found⟩
      · rintro ⟨i, hi, found⟩
        cases i with
        | zero => exact Or.inl (Option.some.inj found)
        | succ i => exact Or.inr ⟨i, Nat.lt_of_succ_lt_succ hi, found⟩

/-- The bounded search upwards misses nothing, also where the chain does not end. -/
theorem isAbove_iff {a id : FolderId} : h.isAbove a id = true ↔ h.Above a id := by
  rw [isAbove, occursAbove_iff]
  constructor
  · rintro ⟨i, _, found⟩
    exact ⟨i, found⟩
  · intro above
    obtain ⟨i, few, found⟩ := above.exists_lt_size
    exact ⟨i, Nat.lt_succ_of_lt few, found⟩

/-! ## Descending -/

/-- The sets of children say what the parent links say, and no empty set is kept. -/
structure Linked (h : Hierarchy) : Prop where
  child_iff : ∀ p c, c ∈ h.childSet p ↔ h.parent? c = some p
  inhabited : ∀ (p : FolderId) (kids : IdSet .folder), h.kids[p]? = some kids → kids ≠ ∅

theorem mem_childIds_iff {p c : FolderId} : c ∈ h.childIds p ↔ c ∈ h.childSet p :=
  Std.ExtTreeSet.mem_toList

namespace Linked

theorem mem_childIds (linked : h.Linked) {p c : FolderId} :
    c ∈ h.childIds p ↔ h.parent? c = some p :=
  mem_childIds_iff.trans (linked.child_iff p c)

theorem mem_next (linked : h.Linked) {level : List FolderId} {c : FolderId} :
    c ∈ level.flatMap h.childIds ↔ ∃ a ∈ level, h.parent? c = some a := by
  simp only [List.mem_flatMap, linked.mem_childIds]

/-- The descent finds what lies one link or more below a level, up to so many links. -/
theorem mem_levelsBelow (linked : h.Linked) {n : Nat} {level : List FolderId} {x : FolderId} :
    x ∈ h.levelsBelow n level ↔ ∃ d < n, ∃ a ∈ level, h.up (d + 1) x = some a := by
  induction n generalizing level with
  | zero => simp [levelsBelow]
  | succ n ih =>
    rw [levelsBelow]
    split
    · next empty =>
      simp only [List.not_mem_nil, false_iff]
      rintro ⟨d, _, a, ha, reached⟩
      obtain ⟨c, _, link⟩ := Option.bind_eq_some_iff.mp (up_succ' h d x ▸ reached)
      have child := linked.mem_next.mpr ⟨a, ha, link⟩
      rw [List.isEmpty_iff.mp empty] at child
      exact List.not_mem_nil child
    · rw [List.mem_append, ih]
      constructor
      · rintro (child | ⟨d, hd, c, hc, reached⟩)
        · obtain ⟨a, ha, link⟩ := linked.mem_next.mp child
          exact ⟨0, Nat.succ_pos n, a, ha, (up_one h x).trans link⟩
        · obtain ⟨a, ha, link⟩ := linked.mem_next.mp hc
          refine ⟨d + 1, Nat.succ_lt_succ hd, a, ha, ?_⟩
          rw [up_succ', reached]
          exact link
      · rintro ⟨d, hd, a, ha, reached⟩
        obtain ⟨c, hc, link⟩ := Option.bind_eq_some_iff.mp (up_succ' h d x ▸ reached)
        have child := linked.mem_next.mpr ⟨a, ha, link⟩
        cases d with
        | zero =>
          cases hc
          exact Or.inl child
        | succ d => exact Or.inr ⟨d, Nat.lt_of_succ_lt_succ hd, c, child, hc⟩

/-- The children of a level lie apart from one another, as the level does. -/
theorem apart_next (linked : h.Linked) {level : List FolderId}
    (apart : ∀ a ∈ level, ∀ b ∈ level, ¬ h.Above a b) :
    ∀ a ∈ level.flatMap h.childIds, ∀ b ∈ level.flatMap h.childIds, ¬ h.Above a b := by
  rintro c hc d hd ⟨n, reached⟩
  obtain ⟨a, ha, hca⟩ := linked.mem_next.mp hc
  obtain ⟨b, hb, hdb⟩ := linked.mem_next.mp hd
  refine apart a ha b hb ⟨n, ?_⟩
  rw [up_succ, hdb] at reached
  rw [up_succ', show h.up n b = some c from reached]
  exact hca

theorem nodup_next (linked : h.Linked) {level : List FolderId} (distinct : level.Nodup) :
    (level.flatMap h.childIds).Nodup := by
  rw [List.nodup_flatMap]
  refine ⟨fun p _ => nodup_toList (h.childSet p), distinct.imp ?_⟩
  intro a b different c hca hcb
  have ha := linked.mem_childIds.mp hca
  have hb := linked.mem_childIds.mp hcb
  exact different (Option.some.inj (ha.symm.trans hb))

/-- A descent from folders that lie apart finds no folder twice. -/
theorem nodup_levelsBelow (linked : h.Linked) {n : Nat} {level : List FolderId}
    (distinct : level.Nodup) (apart : ∀ a ∈ level, ∀ b ∈ level, ¬ h.Above a b) :
    (h.levelsBelow n level).Nodup := by
  induction n generalizing level with
  | zero => simp [levelsBelow]
  | succ n ih =>
    rw [levelsBelow]
    split
    · exact List.nodup_nil
    · have apartNext := linked.apart_next apart
      have distinctNext := linked.nodup_next distinct
      rw [List.nodup_append']
      refine ⟨distinctNext, ih distinctNext apartNext, ?_⟩
      intro x near far
      obtain ⟨d, _, a, ha, reached⟩ := linked.mem_levelsBelow.mp far
      exact apartNext a ha x near ⟨d, reached⟩

theorem mem_kids_of_child (linked : h.Linked) {p c : FolderId} (link : h.parent? c = some p) :
    p ∈ h.kids.keys := by
  rw [Std.ExtTreeMap.mem_keys]
  by_contra absent
  have child := (linked.child_iff p c).mpr link
  rw [childSet, Std.ExtTreeMap.getElem?_eq_none absent] at child
  exact Std.ExtTreeSet.not_mem_empty child

/-- A chain that ends has at most as many links as there are folders with children. -/
theorem le_size_kids (linked : h.Linked) {n : Nat} {id a : FolderId} (ends : h.Ends id)
    (reached : h.up n id = some a) : n ≤ h.kids.size := by
  have few : n ≤ h.kids.keys.length := by
    apply ends.le_length h.kids.keys 1
    intro i hi
    obtain ⟨p, next⟩ := exists_up_of_le reached (Nat.succ_le_of_lt hi)
    obtain ⟨c, _, link⟩ := Option.bind_eq_some_iff.mp (up_succ' h i id ▸ next)
    exact ⟨p, linked.mem_kids_of_child link, by rw [Nat.add_comm, next]⟩
  rwa [Std.ExtTreeMap.length_keys] at few

/-- Of the folders whose chains end, those below one are the ones that it lies above. -/
theorem mem_below (linked : h.Linked) {x a : FolderId} (ends : h.Ends x) :
    x ∈ h.below a ↔ h.Above a x := by
  rw [below, linked.mem_levelsBelow]
  constructor
  · rintro ⟨d, _, b, hb, reached⟩
    rw [List.mem_singleton.mp hb] at reached
    exact ⟨d, reached⟩
  · rintro ⟨d, reached⟩
    exact ⟨d, linked.le_size_kids ends reached, a, List.mem_singleton_self a, reached⟩

theorem above_of_mem_below (linked : h.Linked) {x a : FolderId} (found : x ∈ h.below a) :
    h.Above a x := by
  obtain ⟨d, _, b, hb, reached⟩ := linked.mem_levelsBelow.mp found
  rw [List.mem_singleton.mp hb] at reached
  exact ⟨d, reached⟩

theorem nodup_below (linked : h.Linked) {a : FolderId} (ends : h.Ends a) : (h.below a).Nodup := by
  apply linked.nodup_levelsBelow (List.nodup_singleton a)
  intro b hb c hc
  rw [List.mem_singleton.mp hb, List.mem_singleton.mp hc]
  exact ends.not_above_self

end Linked

end Perimeter.Hierarchy
