import Perimeter.Proofs.Tables

/-!
# Sorting

Rows lie in maps, whose order of going through them means nothing, and are listed in the order of
a comparison. What makes a listing one of a kind is that the comparison tells the rows apart:
then the sorted list does not depend on the order in which they come (`sortBy_congr`), and it is
the one list that ascends strictly through them (`Enumerates.unique`). All listings but that of
the roles compare ids last, and so tell the rows of every table apart (`Table.apart_of_key`).
-/

namespace Perimeter

section Lists
variable {α : Type} {cmp : α → α → Ordering} {l l' : List α} {P Q : α → Prop}

/-- A list in the order of a comparison. What compares as equal stays in the order it had. -/
def sortBy (cmp : α → α → Ordering) (l : List α) : List α :=
  l.mergeSort fun a b => (cmp a b).isLE

theorem sortBy_perm (cmp : α → α → Ordering) (l : List α) : (sortBy cmp l).Perm l :=
  List.mergeSort_perm _ _

theorem pairwise_sortBy [Std.TransCmp cmp] (l : List α) :
    (sortBy cmp l).Pairwise fun a b => (cmp a b).isLE = true := by
  apply List.pairwise_mergeSort
  · intro a b c
    exact Std.TransCmp.isLE_trans
  · intro a b
    have turned : cmp b a = (cmp a b).swap := Std.OrientedCmp.eq_swap
    rw [turned]
    cases cmp a b <;> rfl

/-- The comparison tells the elements of a list apart. -/
def Apart (cmp : α → α → Ordering) (l : List α) : Prop :=
  ∀ a ∈ l, ∀ b ∈ l, cmp a b = .eq → a = b

theorem Apart.of_subset (apart : Apart cmp l) (within : ∀ a ∈ l', a ∈ l) : Apart cmp l' :=
  fun a ha b hb => apart a (within a ha) b (within b hb)

/-- What is told apart is sorted to one list, however it comes. -/
theorem sortBy_congr [Std.TransCmp cmp] (apart : Apart cmp l) (perm : l.Perm l') :
    sortBy cmp l = sortBy cmp l' := by
  have same := (sortBy_perm cmp l).trans (perm.trans (sortBy_perm cmp l').symm)
  apply same.eq_of_pairwise _ (pairwise_sortBy l) (pairwise_sortBy l')
  intro a b ha hb le ge
  apply apart a ((sortBy_perm cmp l).mem_iff.mp ha) b
  · exact perm.mem_iff.mpr ((sortBy_perm cmp l').mem_iff.mp hb)
  · exact Std.OrientedCmp.isLE_antisymm le ge

/-- A list goes through what `P` holds of: each such element is in it once, and they ascend
strictly. -/
structure Enumerates (cmp : α → α → Ordering) (P : α → Prop) (l : List α) : Prop where
  ascending : l.Pairwise fun a b => cmp a b = .lt
  once : l.Nodup
  mem_iff : ∀ a, a ∈ l ↔ P a

theorem Enumerates.of_iff (goes : Enumerates cmp P l) (same : ∀ a, P a ↔ Q a) :
    Enumerates cmp Q l :=
  ⟨goes.ascending, goes.once, fun a => (goes.mem_iff a).trans (same a)⟩

theorem Enumerates.unique [Std.OrientedCmp cmp] (goes : Enumerates cmp P l)
    (goes' : Enumerates cmp P l') : l = l' := by
  have same : l.Perm l' := by
    rw [List.perm_ext_iff_of_nodup goes.once goes'.once]
    intro a
    rw [goes.mem_iff, goes'.mem_iff]
  apply same.eq_of_pairwise _ goes.ascending goes'.ascending
  intro a b _ _ before after
  exact absurd after (Std.OrientedCmp.not_lt_of_lt before)

/-- A list that ascends, without a repetition, through what the comparison tells apart. -/
theorem enumerates_of_pairwise (ordered : l.Pairwise fun a b => (cmp a b).isLE = true)
    (apart : Apart cmp l) (once : l.Nodup) (mem : ∀ a, a ∈ l ↔ P a) : Enumerates cmp P l := by
  refine ⟨?_, once, mem⟩
  refine (ordered.and once).imp_of_mem ?_
  rintro a b ha hb ⟨le, other⟩
  cases place : cmp a b with
  | lt => rfl
  | eq => exact absurd (apart a ha b hb place) other
  | gt =>
    rw [place] at le
    cases le

theorem enumerates_sortBy [Std.TransCmp cmp] (apart : Apart cmp l) (distinct : l.Nodup)
    (mem : ∀ a, a ∈ l ↔ P a) : Enumerates cmp P (sortBy cmp l) := by
  have inside : ∀ a, a ∈ sortBy cmp l ↔ a ∈ l := fun a => (sortBy_perm cmp l).mem_iff
  apply enumerates_of_pairwise (pairwise_sortBy l)
  · exact apart.of_subset fun a ha => (inside a).mp ha
  · exact (sortBy_perm cmp l).nodup_iff.mpr distinct
  · exact fun a => (inside a).trans (mem a)

end Lists

/-! ## Sets and tables -/

section Maps
variable {α κ : Type} [Ord κ] [Std.TransOrd κ] [Std.LawfulEqOrd κ]

/-- A set hands out its elements in their order. -/
theorem enumerates_toList (s : Std.ExtTreeSet κ) : Enumerates compare (· ∈ s) s.toList where
  ascending := Std.ExtTreeSet.ordered_toList
  once := nodup_toList s
  mem_iff _ := Std.ExtTreeSet.mem_toList

/-- The rows of the keys in a set are listed by these keys. -/
theorem enumerates_filterMap {m : Std.ExtTreeMap κ α} {key : α → κ}
    (keyed : ∀ (k : κ) a, m[k]? = some a → key a = k) (s : Std.ExtTreeSet κ) :
    Enumerates (compareOn key) (fun a => key a ∈ s ∧ m[key a]? = some a)
      (s.toList.filterMap (m[·]?)) where
  ascending := by
    refine Std.ExtTreeSet.ordered_toList.filterMap _ ?_
    intro j k before a ha b hb
    rw [compareOn, keyed j a ha, keyed k b hb]
    exact before
  once := by
    apply (nodup_toList s).filterMap
    intro j k a hj hk
    exact (keyed j a hj).symm.trans (keyed k a hk)
  mem_iff a := by
    rw [List.mem_filterMap]
    constructor
    · rintro ⟨k, mem, row⟩
      obtain rfl := keyed k a row
      exact ⟨Std.ExtTreeSet.mem_toList.mp mem, row⟩
    · rintro ⟨mem, row⟩
      exact ⟨key a, Std.ExtTreeSet.mem_toList.mpr mem, row⟩

namespace Table

variable [Stored α κ] {t : Table α κ}

/-- A comparison that tells keys apart tells the rows of a table apart. -/
theorem apart_of_key {cmp : α → α → Ordering}
    (keys : ∀ a b, cmp a b = .eq → Stored.key a = Stored.key b) : Apart cmp t.all := by
  intro a ha b hb level
  rw [mem_all, keys a b level] at ha
  exact Option.some.inj (ha.symm.trans (mem_all.mp hb))

end Table

end Maps

/-! ## The orders of listings -/

instance : Std.TransCmp Group.compareByName :=
  inferInstanceAs (Std.TransCmp (compareLex (compareOn Group.name) (compareOn Group.id)))

instance : Std.TransCmp User.compareByAge :=
  inferInstanceAs (Std.TransCmp (compareLex (compareOn User.createdAt) (compareOn User.id)))

instance : Std.TransCmp Assignment.compareByAge :=
  inferInstanceAs
    (Std.TransCmp (compareLex (compareOn Assignment.createdAt) (compareOn Assignment.id)))

/-- What compares as equal first by something else and then by id has one id. -/
theorem eq_of_then_compare {κ : Type} [Ord κ] [Std.LawfulEqOrd κ] {first : Ordering} {i j : κ}
    (level : first.then (compare i j) = .eq) : i = j :=
  Std.LawfulEqCmp.compare_eq_iff_eq.mp (Ordering.then_eq_eq.mp level).2

end Perimeter
