import Perimeter.Proofs.Tables
import Perimeter.Storage.Depot

/-!
# The order of arrival

A table keeps its rows by key and finds the order of their arrival again by sorting. What makes this
right is that no two rows carry one number and that the next number is beyond all of them
(`Table.Numbered`): then the rows in order are the only list that rises and holds what the table
holds (`Numbered.inOrder_eq`). A new row goes to the end of it, a changed one stays where it was, and
a deleted one leaves the others as they were. So a table answers as a plain list does
(`Table.Keeps.answer`), through whichever copies of its handle it is asked, and whatever happens to
other tables in between (`Depot.answers_through`).
-/

namespace Perimeter

/-! ## A plain list of rows -/

namespace Roster

variable {α κ : Type} [DecidableEq κ] [Stored α κ]

/-- What a list of rows with distinct keys answers to a query, and the list after it. -/
def answer (rows : List α) : Table.Query α κ → Table.Reply α × List α
  | .find k => (.found (rows.find? fun a => Stored.key a = k), rows)
  | .all => (.listed rows, rows)
  | .count => (.counted rows.length, rows)
  | .create row =>
    if Stored.key row ∈ rows.map Stored.key then
      (.entered (.error (Table.taken α (Stored.key row))), rows)
    else (.entered (.ok row), rows ++ [row])
  | .update row =>
    if Stored.key row ∈ rows.map Stored.key then
      (.entered (.ok row), rows.map fun a => if Stored.key a = Stored.key row then row else a)
    else (.entered (.error (Table.missing α (Stored.key row))), rows)
  | .delete k => (.deleted (decide (k ∈ rows.map Stored.key)), rows.filter fun a => Stored.key a ≠ k)

/-- The answers to one query after another, and the list after them. -/
def answerAll (rows : List α) : List (Table.Query α κ) → List (Table.Reply α) × List α
  | [] => ([], rows)
  | q :: rest =>
    ((answer rows q).1 :: (answerAll (answer rows q).2 rest).1, (answerAll (answer rows q).2 rest).2)

end Roster

/-! ## Rows in order -/

namespace Table

variable {α κ : Type} [Ord κ] [Std.TransOrd κ] [Stored α κ] {t : Table α κ} {row : α}

/-- Numbered rows, in the order of their numbers. -/
def inOrder (met : List (Nat × α)) : List (Nat × α) := met.mergeSort fun a b => decide (a.1 ≤ b.1)

theorem pairwise_inOrder (met : List (Nat × α)) : (inOrder met).Pairwise fun a b => a.1 ≤ b.1 := by
  have sorted : (inOrder met).Pairwise fun a b => decide (a.1 ≤ b.1) = true := by
    apply List.pairwise_mergeSort
    · intro a b c
      simp only [decide_eq_true_eq]
      exact Nat.le_trans
    · intro a b
      simp only [Bool.or_eq_true, decide_eq_true_eq]
      exact Nat.le_total _ _
  exact sorted.imp fun le => of_decide_eq_true le

theorem inOrder_perm (met : List (Nat × α)) : (inOrder met).Perm met := List.mergeSort_perm _ _

/-- Every row came at a time of its own, before the next one. -/
structure Numbered (t : Table α κ) : Prop where
  apart : ∀ (j k : κ) p q, t.rows[j]? = some p → t.rows[k]? = some q → p.1 = q.1 → j = k
  below : ∀ (k : κ) p, t.rows[k]? = some p → p.1 < t.arrivals

theorem numbered_empty : (empty : Table α κ).Numbered where
  apart := by simp [empty]
  below := by simp [empty]

variable [Std.LawfulEqOrd κ]

theorem mem_of_perm {met : List (Nat × α)} (all : met.Perm t.rows.values) {p : Nat × α} :
    p ∈ met ↔ t.rows[Stored.key p.2]? = some p := by
  rw [all.mem_iff, mem_values]
  constructor
  · rintro ⟨k, found⟩
    rw [key_of_getElem? found]
    exact found
  · exact fun found => ⟨_, found⟩

namespace Numbered

/-- There is one rising list of what a table holds, and sorting finds it in whatever order the rows
are met. -/
theorem inOrder_eq (numbered : t.Numbered) {met rows : List (Nat × α)}
    (all : met.Perm t.rows.values) (rising : rows.Pairwise fun a b => a.1 < b.1)
    (same : ∀ p, p ∈ rows ↔ t.rows[Stored.key p.2]? = some p) : inOrder met = rows := by
  have distinct : met.Nodup := by
    rw [all.nodup_iff]
    apply pairwise_values
    rintro j k p _ hp hq other rfl
    exact other (numbered.apart j k p p hp hq rfl)
  have distinct' : rows.Nodup := by
    apply rising.imp
    rintro a _ less rfl
    exact Nat.lt_irrefl _ less
  have perm : (inOrder met).Perm rows := by
    apply (inOrder_perm met).trans
    rw [List.perm_ext_iff_of_nodup distinct distinct']
    intro p
    rw [mem_of_perm all, same]
  apply perm.eq_of_pairwise _ (pairwise_inOrder met) (rising.imp Nat.le_of_lt)
  intro p q hp hq le ge
  have hp' := (mem_of_perm ((inOrder_perm met).trans all)).mp hp
  have hq' := (same q).mp hq
  have keys := numbered.apart _ _ p q hp' hq' (Nat.le_antisymm le ge)
  rw [keys, hq'] at hp'
  exact (Option.some.inj hp').symm

/-- The rows of a table in order, without two of one number. -/
theorem rising (numbered : t.Numbered) :
    (inOrder t.rows.values).Pairwise fun a b => a.1 < b.1 := by
  have apart : t.rows.values.Pairwise fun a b => a.1 ≠ b.1 := by
    apply pairwise_values
    intro j k p q hp hq other same
    exact other (numbered.apart j k p q hp hq same)
  have apart' : (inOrder t.rows.values).Pairwise fun a b => a.1 ≠ b.1 :=
    ((inOrder_perm t.rows.values).pairwise_iff fun {_ _} => Ne.symm).mpr apart
  exact (pairwise_inOrder _).imp₂ (fun _ _ le ne => Nat.lt_of_le_of_ne le ne) apart'

variable [DecidableEq κ]

/-! ## Writes -/

/-- A row may be laid down with a number that no other row has. -/
theorem lay (numbered : t.Numbered) {n next : Nat}
    (own : ∀ (k : κ) p, t.rows[k]? = some p → p.1 = n → k = Stored.key row)
    (before : n < next) (grows : t.arrivals ≤ next) : (t.lay n row next).Numbered where
  apart j k p q hp hq same := by
    simp only [Table.lay, lookup_insert] at hp hq
    split at hp
    · next first =>
      cases hp
      split at hq
      · next second => exact first.symm.trans second
      · exact first.symm.trans (own k q hq same.symm).symm
    · split at hq
      · next second =>
        cases hq
        exact (own j p hp same).trans second
      · exact numbered.apart j k p q hp hq same
  below k p found := by
    simp only [Table.lay, lookup_insert] at found ⊢
    split at found
    · cases found
      exact before
    · exact Nat.lt_of_lt_of_le (numbered.below k p found) grows

/-- A new row goes to the end. -/
theorem lay_new (numbered : t.Numbered) (absent : t.rows[Stored.key row]? = none) :
    (t.lay t.arrivals row (t.arrivals + 1)).Numbered ∧
      inOrder (t.lay t.arrivals row (t.arrivals + 1)).rows.values =
        inOrder t.rows.values ++ [(t.arrivals, row)] := by
  have numbered' : (t.lay t.arrivals row (t.arrivals + 1)).Numbered := by
    apply numbered.lay _ (Nat.lt_succ_self _) (Nat.le_succ _)
    intro k p found same
    exact absurd same (Nat.ne_of_lt (numbered.below k p found))
  refine ⟨numbered', numbered'.inOrder_eq (List.Perm.refl _) ?_ ?_⟩
  · rw [List.pairwise_append]
    refine ⟨numbered.rising, List.pairwise_singleton _ _, ?_⟩
    intro p hp q hq
    rw [List.mem_singleton] at hq
    subst hq
    exact numbered.below _ p ((mem_of_perm (inOrder_perm _)).mp hp)
  · intro p
    rw [List.mem_append, mem_of_perm (inOrder_perm _), List.mem_singleton]
    simp only [Table.lay, lookup_insert]
    split
    · next same =>
      rw [← same, absent]
      simp [eq_comm]
    · next other =>
      constructor
      · rintro (found | rfl)
        · exact found
        · exact absurd rfl other
      · exact Or.inl

/-- A changed row keeps its number, and so its place. -/
theorem lay_old (numbered : t.Numbered) {n : Nat} {old : α}
    (present : t.rows[Stored.key row]? = some (n, old)) :
    (t.lay n row t.arrivals).Numbered ∧
      inOrder (t.lay n row t.arrivals).rows.values = (inOrder t.rows.values).map fun p =>
        if Stored.key p.2 = Stored.key row then (p.1, row) else p := by
  have numbered' : (t.lay n row t.arrivals).Numbered := by
    apply numbered.lay _ (numbered.below _ _ present) (Nat.le_refl _)
    intro k p found same
    exact numbered.apart _ _ p (n, old) found present same
  refine ⟨numbered', numbered'.inOrder_eq (List.Perm.refl _) ?_ ?_⟩
  · rw [List.pairwise_map]
    apply numbered.rising.imp
    intro p q less
    split <;> split <;> exact less
  · intro p
    rw [List.mem_map]
    simp only [Table.lay, lookup_insert, mem_of_perm (inOrder_perm _)]
    split
    · next same =>
      constructor
      · rintro ⟨q, found, rfl⟩
        split
        · next here =>
          rw [here, present] at found
          cases found
          rfl
        · next elsewhere =>
          rw [if_neg elsewhere] at same
          exact absurd same.symm elsewhere
      · intro laid
        cases laid
        have key : Stored.key old = Stored.key row := key_of_getElem? present
        exact ⟨(n, old), key.symm ▸ present, if_pos key⟩
    · next other =>
      constructor
      · rintro ⟨q, found, rfl⟩
        split
        · next here =>
          rw [if_pos here] at other
          exact absurd rfl other
        · exact found
      · intro found
        exact ⟨p, found, if_neg fun here => other here.symm⟩

/-- The rows that are not deleted keep their numbers. -/
theorem delete (numbered : t.Numbered) (k : κ) :
    (t.delete k).2.Numbered ∧
      inOrder (t.delete k).2.rows.values =
        (inOrder t.rows.values).filter fun p => Stored.key p.2 ≠ k := by
  have left : ∀ (j : κ) p, (t.delete k).2.rows[j]? = some p ↔ j ≠ k ∧ t.rows[j]? = some p := by
    intro j p
    simp only [Table.delete, lookup_erase]
    split
    · next same => simp [same]
    · next other => simp [Ne.symm other]
  have numbered' : (t.delete k).2.Numbered := by
    constructor
    · intro i j p q hp hq
      exact numbered.apart i j p q ((left i p).mp hp).2 ((left j q).mp hq).2
    · intro j p found
      exact numbered.below j p ((left j p).mp found).2
  refine ⟨numbered', numbered'.inOrder_eq (List.Perm.refl _) (numbered.rising.filter _) ?_⟩
  intro p
  rw [List.mem_filter, mem_of_perm (inOrder_perm _), left, decide_eq_true_eq, and_comm]

end Numbered

/-- A table keeps a list: sorting finds it, in whatever order the rows are met. -/
structure Keeps (t : Table α κ) (rows : List α) : Prop where
  numbered : t.Numbered
  listed : ∀ met, met.Perm t.rows.values → (inOrder met).map Prod.snd = rows

namespace Keeps

variable {rows : List α}

theorem of_inOrder (numbered : t.Numbered)
    (listed : (inOrder t.rows.values).map Prod.snd = rows) : t.Keeps rows where
  numbered := numbered
  listed met all := by
    rw [numbered.inOrder_eq all numbered.rising fun p => mem_of_perm (inOrder_perm _)]
    exact listed

theorem empty : (Table.empty : Table α κ).Keeps [] :=
  .of_inOrder numbered_empty (by
    rw [Table.empty, values_eq_map, Std.ExtTreeMap.toList_eq_nil_iff.mpr rfl]
    simp [inOrder])

omit [Std.LawfulEqOrd κ] in
theorem all_eq (keeps : t.Keeps rows) : t.all = rows := keeps.listed _ (List.Perm.refl _)

theorem find?_eq_some (keeps : t.Keeps rows) {k : κ} {a : α} :
    t.find? k = some a ↔ a ∈ rows ∧ Stored.key a = k := by
  rw [← keeps.all_eq, Table.find?_eq_some]

omit [Std.LawfulEqOrd κ] in
theorem length_eq (keeps : t.Keeps rows) : t.count = rows.length := by
  rw [← keeps.all_eq, all, List.length_map, (List.mergeSort_perm _ _).length_eq, length_values,
    count]

/-- The keys of the list are the keys in use. -/
theorem mem_keys (keeps : t.Keeps rows) {k : κ} :
    k ∈ rows.map Stored.key ↔ ∃ p, t.rows[k]? = some p := by
  rw [List.mem_map]
  constructor
  · rintro ⟨a, listed, rfl⟩
    obtain ⟨p, found, _⟩ := Option.map_eq_some_iff.mp (keeps.find?_eq_some.mpr ⟨listed, rfl⟩)
    exact ⟨p, found⟩
  · rintro ⟨p, found⟩
    refine ⟨p.2, keeps.find?_eq_some.mp ?_⟩
    rw [find?, found, Option.map_some]

theorem contains_iff (keeps : t.Keeps rows) {k : κ} :
    t.rows.contains k = true ↔ k ∈ rows.map Stored.key := by
  rw [keeps.mem_keys, Std.ExtTreeMap.contains_eq_isSome_getElem?, Option.isSome_iff_exists]

theorem absent (keeps : t.Keeps rows) {k : κ} (unused : k ∉ rows.map Stored.key) :
    t.rows[k]? = none := by
  rw [Option.eq_none_iff_forall_ne_some]
  exact fun p found => unused (keeps.mem_keys.mpr ⟨p, found⟩)

variable [DecidableEq κ]

theorem find?_eq (keeps : t.Keeps rows) (k : κ) :
    t.find? k = rows.find? fun a => Stored.key a = k := by
  cases first : rows.find? fun a => Stored.key a = k with
  | none =>
    rw [Option.eq_none_iff_forall_ne_some]
    intro a found
    obtain ⟨listed, key⟩ := keeps.find?_eq_some.mp found
    exact List.find?_eq_none.mp first a listed (decide_eq_true key)
  | some a =>
    have key : Stored.key a = k := by
      simpa only [decide_eq_true_eq] using List.find?_some first
    exact keeps.find?_eq_some.mpr ⟨List.mem_of_find?_eq_some first, key⟩

theorem create (keeps : t.Keeps rows) (row : α) :
    (t.answer (.create row)).1 = (Roster.answer rows (.create row)).1 ∧
      (t.answer (.create row)).2.Keeps (Roster.answer rows (.create row)).2 := by
  simp only [Table.answer, Roster.answer, Table.create]
  by_cases used : Stored.key row ∈ rows.map Stored.key
  · rw [if_pos used, if_pos (keeps.contains_iff.mpr used)]
    exact ⟨rfl, keeps⟩
  · obtain ⟨numbered, last⟩ := keeps.numbered.lay_new (keeps.absent used)
    rw [if_neg used, if_neg (mt keeps.contains_iff.mp used)]
    refine ⟨rfl, .of_inOrder numbered ?_⟩
    rw [afterEntry, last, List.map_append, keeps.listed _ (List.Perm.refl _)]
    rfl

theorem update (keeps : t.Keeps rows) (row : α) :
    (t.answer (.update row)).1 = (Roster.answer rows (.update row)).1 ∧
      (t.answer (.update row)).2.Keeps (Roster.answer rows (.update row)).2 := by
  simp only [Table.answer, Roster.answer, Table.update]
  by_cases used : Stored.key row ∈ rows.map Stored.key
  · obtain ⟨⟨n, old⟩, present⟩ := keeps.mem_keys.mp used
    obtain ⟨numbered, kept⟩ := keeps.numbered.lay_old present
    rw [if_pos used, present]
    refine ⟨rfl, .of_inOrder numbered ?_⟩
    rw [afterEntry, kept, ← keeps.listed _ (List.Perm.refl _), List.map_map, List.map_map]
    apply List.map_congr_left
    intro p _
    simp only [Function.comp_apply]
    split <;> rfl
  · rw [if_neg used, keeps.absent used]
    exact ⟨rfl, keeps⟩

theorem delete (keeps : t.Keeps rows) (k : κ) :
    (t.answer (.delete k)).1 = (Roster.answer rows (.delete k)).1 ∧
      (t.answer (.delete k)).2.Keeps (Roster.answer rows (.delete k)).2 := by
  obtain ⟨numbered, left⟩ := keeps.numbered.delete k
  refine ⟨congrArg Reply.deleted ?_, .of_inOrder numbered ?_⟩
  · rw [Bool.eq_iff_iff, decide_eq_true_eq]
    exact keeps.contains_iff
  · rw [Table.answer, left, Roster.answer, ← keeps.listed _ (List.Perm.refl _), List.filter_map]
    rfl

/-- A table that keeps a list answers as the list does, and keeps the list that it becomes. -/
theorem answer (keeps : t.Keeps rows) (q : Query α κ) :
    (t.answer q).1 = (Roster.answer rows q).1 ∧
      (t.answer q).2.Keeps (Roster.answer rows q).2 := by
  cases q with
  | find k => exact ⟨congrArg Reply.found (keeps.find?_eq k), keeps⟩
  | all => exact ⟨congrArg Reply.listed keeps.all_eq, keeps⟩
  | count => exact ⟨congrArg Reply.counted keeps.length_eq, keeps⟩
  | create row => exact keeps.create row
  | update row => exact keeps.update row
  | delete k => exact keeps.delete k

end Keeps

/-- Whether a query asks for a new row. -/
def Query.creates : Query α κ → Bool
  | .create _ => true
  | _ => false

omit [Std.LawfulEqOrd κ] in
theorem arrivals_answer (t : Table α κ) (q : Query α κ) :
    (t.answer q).2.arrivals ≤ t.arrivals + if q.creates then 1 else 0 := by
  cases q with
  | create row =>
    simp only [answer, create, Query.creates, if_true]
    split
    · exact Nat.le_succ _
    · exact Nat.le_refl _
  | update row =>
    simp only [answer, update]
    split <;> exact Nat.le_refl _
  | _ => exact Nat.le_refl _

end Table

/-! ## Copies of a handle -/

namespace Handle

variable {g h : Handle}

theorem copyOf_iff : h.CopyOf g ↔ g.place = h.place := by
  constructor
  · intro copied
    induction copied with
    | self => rfl
    | copy _ ih => exact ih
  · intro same
    have equal : g = h := by
      cases g
      cases h
      exact congrArg Handle.mk same
    rw [equal]
    exact .self

instance : Decidable (h.CopyOf g) := decidable_of_iff _ copyOf_iff.symm

/-- What stands by the copies of a handle. -/
def through {β : Type} (h : Handle) (steps : List (Handle × β)) : List β :=
  (steps.filter fun p => h.CopyOf p.1).map Prod.snd

variable {β : Type} {b : β} {rest : List (Handle × β)}

theorem through_copy (copied : h.CopyOf g) : h.through ((g, b) :: rest) = b :: h.through rest := by
  simp only [through, List.filter_cons, copied, decide_true, if_true, List.map_cons]

theorem through_other (other : ¬ h.CopyOf g) : h.through ((g, b) :: rest) = h.through rest := by
  simp only [through, List.filter_cons, other, decide_false, Bool.false_eq_true, if_false]

end Handle

namespace Depot

variable {α κ : Type} [Ord κ] [Std.TransOrd κ] [Std.LawfulEqOrd κ] [DecidableEq κ] [Stored α κ]
  {d : Depot α κ} {t : Table α κ} {g h : Handle} {rows : List α}

omit [Std.LawfulEqOrd κ] [DecidableEq κ] in
theorem ask_of_copy (lies : d.tables[h.place]? = some t) (copied : h.CopyOf g)
    (q : Table.Query α κ) :
    (d.ask g q).1 = some (t.answer q).1 ∧
      (d.ask g q).2.tables[h.place]? = some (t.answer q).2 := by
  have same := Handle.copyOf_iff.mp copied
  have inside : h.place < d.tables.length := (List.getElem?_eq_some_iff.mp lies).1
  simp only [ask, same, lies]
  exact ⟨trivial, List.getElem?_set_self inside⟩

omit [Std.LawfulEqOrd κ] [DecidableEq κ] in
/-- What is asked through other handles leaves a table alone. -/
theorem ask_of_not_copy (other : ¬ h.CopyOf g) (q : Table.Query α κ) :
    (d.ask g q).2.tables[h.place]? = d.tables[h.place]? := by
  rw [Handle.copyOf_iff] at other
  unfold ask
  split
  · exact List.getElem?_set_ne other
  · rfl

/-- The answers that come through the copies of a handle are those of one list, whatever is asked
through other handles in between. -/
theorem answers_through (steps : List (Handle × Table.Query α κ)) (lies : d.tables[h.place]? = some t)
    (keeps : t.Keeps rows) :
    h.through (d.askAll steps).1 = (Roster.answerAll rows (h.through steps)).1.map some ∧
      ∃ t', (d.askAll steps).2.tables[h.place]? = some t' ∧
        t'.Keeps (Roster.answerAll rows (h.through steps)).2 ∧
          t'.arrivals ≤ t.arrivals + (h.through steps).countP Table.Query.creates := by
  induction steps generalizing d t rows with
  | nil => exact ⟨rfl, t, lies, keeps, Nat.le_refl _⟩
  | cons step rest ih =>
    obtain ⟨g, q⟩ := step
    simp only [askAll]
    by_cases copied : h.CopyOf g
    · obtain ⟨replied, lies'⟩ := ask_of_copy lies copied q
      obtain ⟨same, keeps'⟩ := keeps.answer q
      obtain ⟨answers, t', there, kept, few⟩ := ih lies' keeps'
      have one := t.arrivals_answer q
      rw [Handle.through_copy copied, Handle.through_copy copied, replied, answers, same]
      refine ⟨rfl, t', there, kept, ?_⟩
      rw [List.countP_cons]
      omega
    · have lies' := (ask_of_not_copy copied q).trans lies
      rw [Handle.through_other copied, Handle.through_other copied]
      exact ih lies' keeps

/-- From the moment it is made, a table answers through the copies of its handle as a list of rows
does that is empty at first. The list has every key once, and the numbers that the table gives out
are at most as many as the rows it was asked to create. -/
theorem copies_share_one_list (d : Depot α κ) (steps : List (Handle × Table.Query α κ)) :
    let h := d.newTable.1
    let after := d.newTable.2.askAll steps
    let list := Roster.answerAll ([] : List α) (h.through steps)
    h.through after.1 = list.1.map some ∧ (list.2.map Stored.key).Nodup ∧
      (∃ t, after.2.tables[h.place]? = some t ∧ t.Keeps list.2 ∧
        t.arrivals ≤ (h.through steps).countP Table.Query.creates) ∧
      ∀ k : κ, (Table.taken α k).kind = .conflict ∧ (Table.missing α k).kind = .notFound := by
  intro h after list
  have lies : d.newTable.2.tables[h.place]? = some Table.empty := List.getElem?_concat_length
  obtain ⟨answers, t, there, keeps, few⟩ := answers_through steps lies .empty
  rw [Table.empty, Nat.zero_add] at few
  refine ⟨answers, ?_, ⟨t, there, keeps, few⟩, fun k => ⟨rfl, rfl⟩⟩
  rw [← keeps.all_eq]
  exact t.nodup_keys_all

/-- A membership that is changed keeps its place; one that is deleted and comes again goes to the
end. -/
theorem copies_of_memberships :
    let early : Membership := ⟨⟨1⟩, ⟨9⟩, .ofParts 0 0⟩
    let other : Membership := ⟨⟨2⟩, ⟨9⟩, .ofParts 0 0⟩
    let late : Membership := ⟨⟨1⟩, ⟨9⟩, .ofParts 5 0⟩
    let made := (empty : Depot Membership MemberKey).newTable
    let h := made.1
    let steps : List (Handle × Table.Query Membership MemberKey) :=
      [(h, .create early), (h.copy, .create other), (h.copy.copy, .update late), (h, .all),
        (h.copy, .delete early.key), (h, .create early), (h.copy, .all), (h, .create other)]
    h.through (made.2.askAll steps).1 = [some (.entered (.ok early)), some (.entered (.ok other)),
      some (.entered (.ok late)), some (.listed [late, other]), some (.deleted true),
      some (.entered (.ok early)), some (.listed [other, early]),
      some (.entered (.error (Table.taken Membership other.key)))] := by
  intro early other late made h steps
  exact (copies_share_one_list empty steps).1.trans rfl

end Depot

end Perimeter
