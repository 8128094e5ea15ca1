import Mathlib.Data.List.Nodup
import Mathlib.Data.List.Perm.Subperm
import Perimeter.Storage.Basic

/-!
# What tables hold

A table is known by its contents, the map from keys to rows:

* `foldl_insert_all`: the rows of a table, entered one after another, are its contents, so a
  map read off a table does not depend on the order of arrival;
* `contents_of_create`, `contents_of_update`, `contents_delete`: a write changes the contents
  at the key of its row and nowhere else.
-/

namespace Perimeter

section Maps
variable {κ β : Type} [Ord κ] [Std.TransOrd κ]

theorem values_eq_map (m : Std.ExtTreeMap κ β) : m.values = m.toList.map Prod.snd := by
  obtain ⟨m⟩ := m
  induction m using Std.ExtDTreeMap.inductionOn with
  | _ m =>
    change m.inner.values = (Std.DTreeMap.Internal.Impl.Const.toList m.inner).map Prod.snd
    rw [Std.DTreeMap.Internal.Impl.values_eq_map_snd,
      Std.DTreeMap.Internal.Impl.Const.toList_eq_toListModel_map]
    simp

theorem length_values (m : Std.ExtTreeMap κ β) : m.values.length = m.size := by
  rw [values_eq_map, List.length_map, Std.ExtTreeMap.length_toList]

variable [Std.LawfulEqOrd κ]

theorem mem_values {m : Std.ExtTreeMap κ β} {b : β} : b ∈ m.values ↔ ∃ k : κ, m[k]? = some b := by
  simp only [values_eq_map, List.mem_map, Prod.exists, exists_eq_right,
    Std.ExtTreeMap.mem_toList_iff_getElem?_eq_some]

theorem mem_keys_iff {m : Std.ExtTreeMap κ β} {k : κ} : k ∈ m.keys ↔ ∃ b, m[k]? = some b := by
  rw [Std.ExtTreeMap.mem_keys, Std.ExtTreeMap.mem_iff_isSome_getElem?, Option.isSome_iff_exists]

/-- What holds between rows under different keys holds between the rows in their order. -/
theorem pairwise_values {m : Std.ExtTreeMap κ β} {R : β → β → Prop}
    (apart : ∀ (i j : κ) a b, m[i]? = some a → m[j]? = some b → i ≠ j → R a b) :
    m.values.Pairwise R := by
  rw [values_eq_map, List.pairwise_map]
  have distinct : (m.toList.map Prod.fst).Nodup := by
    rw [Std.ExtTreeMap.map_fst_toList_eq_keys]
    exact Std.ExtTreeMap.nodup_keys
  rw [List.nodup_iff_pairwise_ne, List.pairwise_map] at distinct
  refine distinct.imp_of_mem ?_
  rintro ⟨i, a⟩ ⟨j, b⟩ ha hb other
  rw [Std.ExtTreeMap.mem_toList_iff_getElem?_eq_some] at ha hb
  exact apart i j a b ha hb other

theorem lookup_insert [DecidableEq κ] (m : Std.ExtTreeMap κ β) (a k : κ) (b : β) :
    (m.insert a b)[k]? = if a = k then some b else m[k]? := by
  simp only [Std.ExtTreeMap.getElem?_insert, Std.LawfulEqCmp.compare_eq_iff_eq]

theorem lookup_erase [DecidableEq κ] (m : Std.ExtTreeMap κ β) (a k : κ) :
    (m.erase a)[k]? = if a = k then none else m[k]? := by
  simp only [Std.ExtTreeMap.getElem?_erase, Std.LawfulEqCmp.compare_eq_iff_eq]

/-- What holds of every row and of a new one holds of every row with the new one entered. -/
theorem forall_insert [DecidableEq κ] {m : Std.ExtTreeMap κ β} {P : β → Prop}
    (held : ∀ (k : κ) c, m[k]? = some c → P c) {b : β} (new : P b) (a : κ) :
    ∀ (k : κ) c, (m.insert a b)[k]? = some c → P c := by
  intro k c found
  rw [lookup_insert] at found
  split at found
  · cases found
    exact new
  · exact held k c found

theorem forall_erase [DecidableEq κ] {m : Std.ExtTreeMap κ β} {P : β → Prop}
    (held : ∀ (k : κ) c, m[k]? = some c → P c) (a : κ) :
    ∀ (k : κ) c, (m.erase a)[k]? = some c → P c := by
  intro k c found
  rw [lookup_erase] at found
  split at found
  · cases found
  · exact held k c found

theorem mem_insert_iff {s : Std.ExtTreeSet κ} {a k : κ} : k ∈ s.insert a ↔ k = a ∨ k ∈ s := by
  rw [Std.ExtTreeSet.mem_insert, Std.LawfulEqCmp.compare_eq_iff_eq, eq_comm]

theorem mem_erase_iff {s : Std.ExtTreeSet κ} {a k : κ} : k ∈ s.erase a ↔ k ≠ a ∧ k ∈ s := by
  rw [Std.ExtTreeSet.mem_erase, ne_eq, Std.LawfulEqCmp.compare_eq_iff_eq, eq_comm]

/-- The elements of a set that is read off a list. -/
theorem mem_gathered {γ : Type} [DecidableEq κ] {rows : List γ} {read : γ → Option κ} {k : κ} :
    k ∈ Std.ExtTreeSet.ofList (rows.filterMap read) compare ↔ ∃ b ∈ rows, read b = some k := by
  rw [Std.ExtTreeSet.mem_ofList, List.contains_iff_mem, List.mem_filterMap]

theorem mem_ofList_keys {ν : Type} [Ord ν] [Std.TransOrd ν] [Std.LawfulEqOrd ν] [DecidableEq ν]
    {m : Std.ExtTreeMap κ β} {read : κ → Option ν} {v : ν} :
    v ∈ Std.ExtTreeSet.ofList (m.keys.filterMap read) compare ↔
      ∃ k, (∃ b, m[k]? = some b) ∧ read k = some v := by
  simp only [mem_gathered, mem_keys_iff]

theorem nodup_toList (s : Std.ExtTreeSet κ) : s.toList.Nodup := by
  apply Std.ExtTreeSet.distinct_toList.imp
  rintro a _ distinct rfl
  exact distinct Std.ReflCmp.compare_self

/-- A set lists its elements in their order, so without one of them the others stay in theirs. -/
theorem toList_erase [DecidableEq κ] (s : Std.ExtTreeSet κ) (a : κ) :
    (s.erase a).toList = s.toList.filter fun k => k ≠ a := by
  have listed : (s.toList.filter fun k => k ≠ a).Pairwise fun j k => compare j k = .lt :=
    Std.ExtTreeSet.ordered_toList.filter _
  have same : (s.erase a).toList.Perm (s.toList.filter fun k => k ≠ a) := by
    rw [List.perm_ext_iff_of_nodup (nodup_toList _) ((nodup_toList s).filter _)]
    intro k
    rw [Std.ExtTreeSet.mem_toList, mem_erase_iff, List.mem_filter, Std.ExtTreeSet.mem_toList,
      decide_eq_true_eq, and_comm]
  apply same.eq_of_pairwise _ Std.ExtTreeSet.ordered_toList listed
  intro j k _ _ before after
  exact absurd after (Std.OrientedCmp.not_lt_of_lt before)

/-- A set within a list has no more elements than the list. -/
theorem size_le_length {s : Std.ExtTreeSet κ} {l : List κ} (within : ∀ k ∈ s, k ∈ l) :
    s.size ≤ l.length := by
  rw [← Std.ExtTreeSet.length_toList]
  apply List.Subperm.length_le
  apply (nodup_toList s).subperm
  intro k mem
  exact within k (Std.ExtTreeSet.mem_toList.mp mem)

theorem size_le_size {s t : Std.ExtTreeSet κ} (sub : ∀ k ∈ s, k ∈ t) : s.size ≤ t.size := by
  rw [← Std.ExtTreeSet.length_toList (t := t)]
  apply size_le_length
  intro k mem
  exact Std.ExtTreeSet.mem_toList.mpr (sub k mem)

/-- A set that holds the elements of another one and those of a list is larger by the number of
those that are new. -/
theorem size_eq_add_countP {s t : Std.ExtTreeSet κ} {l : List κ} (distinct : l.Nodup)
    (union : ∀ k, k ∈ t ↔ k ∈ s ∨ k ∈ l) :
    t.size = s.size + l.countP fun k => !s.contains k := by
  have mem_new : ∀ k, k ∈ l.filter (fun k => !s.contains k) ↔ k ∈ l ∧ k ∉ s := by
    intro k
    rw [List.mem_filter, Bool.not_eq_true', ← Bool.not_eq_true, Std.ExtTreeSet.contains_iff_mem]
  have apart : (s.toList ++ l.filter fun k => !s.contains k).Nodup := by
    refine (nodup_toList s).append (distinct.filter _) ?_
    intro k old new
    exact ((mem_new k).mp new).2 (Std.ExtTreeSet.mem_toList.mp old)
  have same : t.toList.Perm (s.toList ++ l.filter fun k => !s.contains k) := by
    rw [List.perm_ext_iff_of_nodup (nodup_toList t) apart]
    intro k
    rw [Std.ExtTreeSet.mem_toList, union, List.mem_append, Std.ExtTreeSet.mem_toList, mem_new]
    by_cases old : k ∈ s <;> simp [old]
  rw [← Std.ExtTreeSet.length_toList, same.length_eq, List.length_append,
    Std.ExtTreeSet.length_toList, List.countP_eq_length_filter]

/-- Rows with distinct keys, entered one after another, are found under their keys. -/
theorem getElem?_foldl_insert [DecidableEq κ] (key : β → κ) (rows : List β)
    (distinct : (rows.map key).Nodup) (m : Std.ExtTreeMap κ β) (k : κ) (b : β) :
    (rows.foldl (fun m a => m.insert (key a) a) m)[k]? = some b ↔
      b ∈ rows ∧ key b = k ∨ (∀ a ∈ rows, key a ≠ k) ∧ m[k]? = some b := by
  induction rows generalizing m with
  | nil => simp
  | cons a as ih =>
    rw [List.map_cons, List.nodup_cons] at distinct
    rw [List.foldl_cons, ih distinct.2, lookup_insert]
    simp only [List.mem_cons, forall_eq_or_imp]
    by_cases same : key a = k
    · have others : ∀ c ∈ as, key c ≠ k := by
        intro c hc hk
        exact distinct.1 (List.mem_map.mpr ⟨c, hc, hk.trans same.symm⟩)
      rw [if_pos same]
      constructor
      · rintro (⟨hb, hk⟩ | ⟨_, hb⟩)
        · exact absurd hk (others b hb)
        · cases hb
          exact Or.inl ⟨Or.inl rfl, same⟩
      · rintro (⟨rfl | hb, hk⟩ | ⟨⟨other, _⟩, _⟩)
        · exact Or.inr ⟨others, rfl⟩
        · exact absurd hk (others b hb)
        · exact absurd same other
    · rw [if_neg same]
      constructor
      · rintro (⟨hb, hk⟩ | ⟨others, hb⟩)
        · exact Or.inl ⟨Or.inr hb, hk⟩
        · exact Or.inr ⟨⟨same, others⟩, hb⟩
      · rintro (⟨rfl | hb, hk⟩ | ⟨⟨_, others⟩, hb⟩)
        · exact absurd hk same
        · exact Or.inl ⟨hb, hk⟩
        · exact Or.inr ⟨others, hb⟩

end Maps

namespace Table
variable {α κ : Type} [Ord κ] [Std.TransOrd κ] [Stored α κ]

/-- The rows of a table by key. -/
def contents (t : Table α κ) : Std.ExtTreeMap κ α := t.rows.map fun _ p => p.2

theorem mem_all_iff {t : Table α κ} {a : α} : a ∈ t.all ↔ a ∈ t.rows.values.map Prod.snd := by
  unfold all
  exact ((List.mergeSort_perm _ _).map Prod.snd).mem_iff

/-- Where the keys are in the order of arrival, so are the rows. -/
theorem all_of_sorted {t : Table α κ}
    (sorted : t.rows.values.Pairwise fun a b => decide (a.1 ≤ b.1) = true) :
    t.all = t.rows.values.map Prod.snd := by
  rw [all, List.mergeSort_of_pairwise sorted]

variable [Std.LawfulEqOrd κ]

theorem getElem?_contents (t : Table α κ) (k : κ) : t.contents[k]? = t.find? k := by
  simp only [contents, find?, Std.ExtTreeMap.getElem?_map]

theorem key_of_getElem? {t : Table α κ} {k : κ} {p : Nat × α} (h : t.rows[k]? = some p) :
    Stored.key p.2 = k :=
  Std.LawfulEqCmp.compare_eq_iff_eq.mp (t.keyed k p h)

theorem key_of_find? {t : Table α κ} {k : κ} {a : α} (h : t.find? k = some a) :
    Stored.key a = k := by
  obtain ⟨p, hp, rfl⟩ := Option.map_eq_some_iff.mp h
  exact key_of_getElem? hp

theorem mem_all {t : Table α κ} {a : α} : a ∈ t.all ↔ t.find? (Stored.key a) = some a := by
  rw [mem_all_iff, List.mem_map, find?, Option.map_eq_some_iff]
  constructor
  · rintro ⟨p, hp, rfl⟩
    obtain ⟨k, hk⟩ := mem_values.mp hp
    rw [key_of_getElem? hk]
    exact ⟨p, hk, rfl⟩
  · rintro ⟨p, hp, rfl⟩
    exact ⟨p, mem_values.mpr ⟨_, hp⟩, rfl⟩

theorem find?_eq_some {t : Table α κ} {k : κ} {a : α} :
    t.find? k = some a ↔ a ∈ t.all ∧ Stored.key a = k := by
  rw [mem_all]
  constructor
  · intro found
    obtain rfl := key_of_find? found
    exact ⟨found, rfl⟩
  · rintro ⟨found, rfl⟩
    exact found

theorem mem_contents {t : Table α κ} {k : κ} :
    k ∈ t.contents ↔ ∃ a ∈ t.all, Stored.key a = k := by
  rw [Std.ExtTreeMap.mem_iff_isSome_getElem?, getElem?_contents, Option.isSome_iff_exists]
  simp only [find?_eq_some]

theorem forall_contents {t : Table α κ} {P : α → Prop} :
    (∀ (k : κ) a, t.contents[k]? = some a → P a) ↔ ∀ a ∈ t.all, P a := by
  simp only [getElem?_contents, find?_eq_some]
  constructor
  · intro all a listed
    exact all (Stored.key a) a ⟨listed, rfl⟩
  · rintro all k a ⟨listed, _⟩
    exact all a listed

theorem nodup_keys_all (t : Table α κ) : (t.all.map Stored.key).Nodup := by
  have perm : t.all.Perm (t.rows.values.map Prod.snd) := (List.mergeSort_perm _ _).map Prod.snd
  rw [(perm.map Stored.key).nodup_iff, values_eq_map, List.map_map, List.map_map]
  have keys : t.rows.toList.map ((Stored.key ∘ Prod.snd) ∘ Prod.snd) = t.rows.keys := by
    rw [← Std.ExtTreeMap.map_fst_toList_eq_keys]
    apply List.map_congr_left
    rintro ⟨k, p⟩ hp
    exact key_of_getElem? (Std.ExtTreeMap.mem_toList_iff_getElem?_eq_some.mp hp)
  rw [keys]
  exact Std.ExtTreeMap.nodup_keys

/-- The rows of a table, entered one after another, are its contents. -/
theorem foldl_insert_all [DecidableEq κ] (t : Table α κ) :
    t.all.foldl (fun m a => m.insert (Stored.key a) a) ∅ = t.contents := by
  apply Std.ExtTreeMap.ext_getElem?
  intro k
  rw [getElem?_contents]
  apply Option.ext
  intro a
  rw [getElem?_foldl_insert Stored.key _ t.nodup_keys_all, find?_eq_some]
  simp only [Std.ExtTreeMap.getElem?_empty, reduceCtorEq, and_false, or_false]

theorem nodup_all (t : Table α κ) : t.all.Nodup := t.nodup_keys_all.of_map

theorem contents_values_perm (t : Table α κ) : t.contents.values.Perm t.all := by
  have distinct : t.contents.values.Nodup := by
    apply pairwise_values
    rintro i j a b hi hj other rfl
    rw [getElem?_contents] at hi hj
    exact other ((key_of_find? hi).symm.trans (key_of_find? hj))
  rw [List.perm_ext_iff_of_nodup distinct t.nodup_all]
  intro a
  simp only [mem_values, getElem?_contents, find?_eq_some, exists_and_left, exists_eq',
    and_true]

/-- Tables that hold the same rows, in whatever order these came, have the same contents. -/
theorem perm_iff {t t' : Table α κ} : t.all.Perm t'.all ↔ t.contents = t'.contents := by
  rw [List.perm_ext_iff_of_nodup t.nodup_all t'.nodup_all]
  constructor
  · intro same
    apply Std.ExtTreeMap.ext_getElem?
    intro k
    apply Option.ext
    intro a
    rw [getElem?_contents, getElem?_contents, find?_eq_some, find?_eq_some, same]
  · intro same a
    rw [mem_all, mem_all, ← getElem?_contents, same, getElem?_contents]

/-! ## Writes -/

theorem contents_lay (t : Table α κ) (arrival : Nat) (row : α) (arrivals : Nat) :
    (t.lay arrival row arrivals).contents = t.contents.insert (Stored.key row) row := by
  apply Std.ExtTreeMap.ext_getElem?
  intro k
  simp only [contents, lay, Std.ExtTreeMap.getElem?_map, Std.ExtTreeMap.getElem?_insert]
  split <;> rfl

theorem contents_of_create {t t' : Table α κ} {row : α} (h : t.create row = .ok t') :
    t.find? (Stored.key row) = none ∧ t'.contents = t.contents.insert (Stored.key row) row := by
  simp only [create] at h
  split at h
  · cases h
  · next absent =>
    cases h
    have none : t.rows[Stored.key row]? = none :=
      Std.ExtTreeMap.getElem?_eq_none_of_contains_eq_false (Bool.eq_false_iff.mpr absent)
    exact ⟨by rw [find?, none]; rfl, contents_lay _ _ _ _⟩

theorem contents_of_update {t t' : Table α κ} {row : α} (h : t.update row = .ok t') :
    (∃ old, t.find? (Stored.key row) = some old) ∧
      t'.contents = t.contents.insert (Stored.key row) row := by
  simp only [update] at h
  split at h
  · next arrival old present =>
    cases h
    exact ⟨⟨old, by rw [find?, present]; rfl⟩, contents_lay _ _ _ _⟩
  · cases h

omit [Std.LawfulEqOrd κ] in
theorem create_eq_error {t : Table α κ} {row : α} {e : Fault} (h : t.create row = .error e) :
    e = taken α (Stored.key row) := by
  simp only [create] at h
  split at h
  · cases h
    rfl
  · cases h

omit [Std.LawfulEqOrd κ] in
/-- An update fails only where there is no row to replace. -/
theorem update_eq_error {t : Table α κ} {row : α} {e : Fault} (h : t.update row = .error e) :
    t.find? (Stored.key row) = none := by
  simp only [update] at h
  split at h
  · cases h
  · next absent => rw [find?, absent, Option.map_none]

omit [Std.LawfulEqOrd κ] in
theorem exists_update {t : Table α κ} {row old : α}
    (present : t.find? (Stored.key row) = some old) : ∃ t', t.update row = .ok t' := by
  cases updated : t.update row with
  | ok t' => exact ⟨t', rfl⟩
  | error e => cases present.symm.trans (update_eq_error updated)

theorem contents_delete (t : Table α κ) (k : κ) : (t.delete k).2.contents = t.contents.erase k := by
  apply Std.ExtTreeMap.ext_getElem?
  intro j
  simp only [contents, delete, Std.ExtTreeMap.getElem?_map, Std.ExtTreeMap.getElem?_erase]
  split <;> rfl

/-- A table from which a new row has gone again holds the old rows, in their old order. -/
theorem rows_delete_of_create [DecidableEq κ] {t t' : Table α κ} {row : α}
    (created : t.create row = .ok t') :
    (t'.delete (Stored.key row)).2.rows = t.rows := by
  simp only [create] at created
  split at created
  · cases created
  · next absent =>
    cases created
    have free : t.rows[Stored.key row]? = none :=
      Std.ExtTreeMap.getElem?_eq_none_of_contains_eq_false (Bool.eq_false_iff.mpr absent)
    apply Std.ExtTreeMap.ext_getElem?
    intro k
    simp only [delete, lay, lookup_erase, lookup_insert]
    split
    · next own => rw [← own, free]
    · rfl

end Table

end Perimeter
