import Perimeter.Proofs.Undoing

/-!
# Exchange

Two moves of different folders, one after the other, and then in the other order. The one that came
second is refused first only if it would close a circle: its new parent lies below its folder, and
the other move takes it away from there. Else the second finds its way open as well, for a folder
lies below another in both of two hierarchies that one move apart are, unless it lies below the one
that moves (`Relocated.symm`, `Relocated.under_cases`). Each move writes one row, so both orders
lead to the same rows but for the times of change, and so to the same hierarchy.
-/

namespace Perimeter

namespace Hierarchy

variable {h h₁ h₂ : Hierarchy} {a b p q : FolderId} {f fa fb ga gb : Folder}

/-- A move that is not open only for want of a way ends in a circle. -/
theorem IsTree.moveRule_of_under (tree : h.IsTree) (present : h.contains b = true)
    (inside : b ≠ h.root) (target : h.contains q = true) (under : h.Under q b) :
    h.moveRule b q = .error .cycle := by
  have elsewhere : h.parent? b ≠ some q := fun link =>
    (tree.ends b).not_under_of_parent link under
  have beneath : q = b ∨ q ∈ h.below b := by
    by_contra apart
    exact tree.not_under_iff.mpr apart under
  simp only [moveRule, present, inside, target, elsewhere, beneath, Bool.true_eq_false, if_false,
    if_true]

namespace Relocated

/-- Seen from its end, a move comes from the old parent. -/
theorem symm (moved : h.Relocated a q f h₁) (linked : h.Linked) (link : h.parent? a = some p) :
    ∃ old, h₁.Relocated a p old h := by
  obtain ⟨old, row, same⟩ := moved.same
  have parent : old.parent = some p := (parent?_of_get? row).symm.trans link
  refine ⟨old, moved.root.symm, row, ⟨f, moved.moved, ?_⟩, ?_, ?_⟩
  · rw [same, ← parent]
  · intro x other
    exact (moved.others x other).symm
  · intro p' x
    rw [moved.children]
    split
    · next own => rw [linked.child_iff, own, link, Option.some.injEq, eq_comm]
    · rfl

/-- A way that is open after a move, and was not barred by a circle before it, was open. -/
theorem mayMove_before (moved : h.Relocated a p fa h₁) (may : h₁.MayMove b q)
    (clear : ¬ h.Under q b) : h.MayMove b q where
  present := (moved.contains_eq b).symm.trans may.present
  inside := by
    rw [← moved.root]
    exact may.inside
  target := (moved.contains_eq q).symm.trans may.target
  clear := clear

/-- Where two moves go through one after the other, the one that went first is not barred by the
other. -/
theorem mayMove_after (first : h.Relocated a p fa h₁) (tree : h.IsTree) (tree₁ : h₁.IsTree)
    (may : h.MayMove a p) (next : h₁.MayMove b q) (swapped : h.Relocated b q gb h₂) :
    h₂.MayMove a p where
  present := (swapped.contains_eq a).trans may.present
  inside := by
    rw [swapped.root]
    exact may.inside
  target := (swapped.contains_eq p).trans may.target
  clear := by
    intro under
    obtain before | ⟨below, above⟩ := swapped.under_cases under
    · exact may.clear before
    -- `p` lies below `b`, and `q` below `a`, so after the first move `q` lies below `b`
    obtain ⟨row, found⟩ := contains_iff.mp may.present
    obtain ⟨_, home, parent, _⟩ := tree.inner a row found may.inside
    obtain ⟨_, reversed⟩ := first.symm tree.toLinked ((parent?_of_get? found).trans parent)
    have up : h₁.Under q a := by
      obtain stays | ⟨stays, _⟩ := reversed.under_cases above
      · exact stays
      · exact stays
    have beneath : h₁.Under p b := by
      obtain stays | ⟨circle, _⟩ := reversed.under_cases below
      · exact stays
      · exact absurd circle ((tree₁.ends a).not_under_of_parent first.parent?_self)
    exact next.clear (up.trans (beneath.of_parent first.parent?_self))

/-- Both orders of two moves lead to one hierarchy, but for the times of change. -/
theorem exchange {k₁ k₂ : Hierarchy} (other : a ≠ b) (linked₂ : h₂.Linked) (linked : k₂.Linked)
    (first : h.Relocated a p fa h₁) (second : h₁.Relocated b q fb h₂)
    (first' : h.Relocated b q gb k₁) (second' : k₁.Relocated a p ga k₂) :
    k₂ = (h₂.touched a ga.updatedAt).touched b gb.updatedAt := by
  have roots : k₂.root = h₂.root :=
    calc k₂.root
      _ = k₁.root := second'.root
      _ = h.root := first'.root
      _ = h₁.root := first.root.symm
      _ = h₂.root := second.root.symm
  apply linked.ext ((linked₂.touched _ _).touched _ _) roots
  intro x
  simp only [get?_touched, second'.get?_eq, first'.get?_eq, second.get?_eq, first.get?_eq]
  by_cases left : a = x
  · subst left
    simp [Ne.symm other, Function.comp_def]
  · by_cases right : b = x
    · subst right
      simp [other, Function.comp_def]
    · simp [left, right]

end Relocated

end Hierarchy

namespace System

variable {s s₁ s₂ : System} {a b p q : FolderId} {fa fb : Folder}

/-- What becomes of two moves that went through one after the other, when the second is asked for
first. -/
structure Exchanges (s : System) (a p b q : FolderId) (s₂ : System) : Prop where
  /-- It is refused if it would close a circle, and then nothing has changed for the other. -/
  refused : q ∈ s.hierarchy.below b →
    ∃ e, s.moveFolder b q = (.error e, s) ∧ e.kind = .cycle
  /-- Else both go through, and lead to the same hierarchy but for the times of change. -/
  swapped : q ∉ s.hierarchy.below b →
    ∃ gb t₁, s.moveFolder b q = (.ok gb, t₁) ∧
      (t₁.storage.Accepts → ∃ ga t₂, t₁.moveFolder a p = (.ok ga, t₂) ∧
        t₂.hierarchy = (s₂.hierarchy.touched a ga.updatedAt).touched b gb.updatedAt)

theorem Grounded.exchanges (grounded : s.Grounded) (other : a ≠ b)
    (first : s.moveFolder a p = (.ok fa, s₁)) (second : s₁.moveFolder b q = (.ok fb, s₂))
    (accepts : s.storage.Accepts) : s.Exchanges a p b q s₂ := by
  have tree := grounded.tree
  have grounded₁ := grounded.grounded_of_moved first
  have tree₂ := (grounded₁.grounded_of_moved second).tree
  obtain ⟨may, moved⟩ := grounded.relocated first
  obtain ⟨next, followed⟩ := grounded₁.relocated second
  have apart : q ≠ b := by
    rintro rfl
    exact next.clear (.refl _ q)
  constructor
  · intro beneath
    have under : s.hierarchy.Under q b :=
      Hierarchy.under_iff.mpr (Or.inr (tree.toLinked.above_of_mem_below beneath))
    apply (grounded.moveDecided b q).refused
    apply tree.moveRule_of_under _ _ _ under
    · exact (moved.contains_eq b).symm.trans next.present
    · rw [← moved.root]
      exact next.inside
    · exact (moved.contains_eq q).symm.trans next.target
  · intro free
    have clear : ¬ s.hierarchy.Under q b := by
      rw [tree.not_under_iff]
      exact not_or.mpr ⟨apart, free⟩
    obtain ⟨gb, t₁, answered⟩ := grounded.exists_moved (moved.mayMove_before next clear) accepts
    refine ⟨gb, t₁, answered, ?_⟩
    intro accepts₁
    have grounded' := grounded.grounded_of_moved answered
    have moved' := (grounded.relocated answered).2
    obtain ⟨ga, t₂, answered'⟩ := grounded'.exists_moved
      (moved.mayMove_after tree grounded₁.tree may next moved') accepts₁
    have followed' := (grounded'.relocated answered').2
    have tree' := (grounded'.grounded_of_moved answered').tree
    exact ⟨ga, t₂, answered',
      moved.exchange other tree₂.toLinked tree'.toLinked followed moved' followed'⟩

/-- In every state of a run from a boot, two moves of different folders that go through in one
order go through in the other, with the same result, unless the second alone would close a
circle. -/
theorem moves_commute_unless_cyclic {terms : Terms} {storage storage' : Storage} {h : Hierarchy}
    (booted : bootHierarchy terms.rootName storage = (.ok h, storage')) (r : Registry)
    (events : List Event) :
    let s := (⟨terms, h, r, storage'⟩ : System).afterAll events
    ∀ a b p q fa fb s₁ s₂, a ≠ b → s.moveFolder a p = (.ok fa, s₁) →
      s₁.moveFolder b q = (.ok fb, s₂) → s.storage.Accepts → s.Exchanges a p b q s₂ := by
  intro s a b p q fa fb s₁ s₂ other first second accepts
  have grounded := ((grounded_of_boot booted terms r).1.afterAll events).1
  exact grounded.exchanges other first second accepts

/-- One folder goes to another, and that one on to the old parent of the first, in either order;
but a folder goes below its own child only after the child has left. -/
theorem founded_moves_change_places :
    let s := (founded ⟨"Root", ⟨2, 8⟩, .standard⟩ .empty).afterAll
      [.call (.createFolder ⟨"Assets", none, none⟩),
        .call (.createFolder ⟨"Servers", none, some ⟨Supply.counted 2⟩⟩),
        .call (.createFolder ⟨"Racks", none, none⟩)]
    (∃ gb t₁ ga t₂, s.moveFolder ⟨Supply.counted 4⟩ ⟨Supply.counted 2⟩ = (.ok gb, t₁) ∧
        t₁.moveFolder ⟨Supply.counted 3⟩ ⟨Supply.counted 4⟩ = (.ok ga, t₂)) ∧
      ∃ e, s.moveFolder ⟨Supply.counted 2⟩ ⟨Supply.counted 3⟩ = (.error e, s) ∧
        e.kind = .cycle := by
  intro s
  have exchange := moves_commute_unless_cyclic
    (boot_founded ⟨"Root", ⟨2, 8⟩, .standard⟩ .empty rfl rfl)
    (founded ⟨"Root", ⟨2, 8⟩, .standard⟩ .empty).registry
    [.call (.createFolder ⟨"Assets", none, none⟩),
      .call (.createFolder ⟨"Servers", none, some ⟨Supply.counted 2⟩⟩),
      .call (.createFolder ⟨"Racks", none, none⟩)]
  constructor
  · obtain ⟨fa, first⟩ := exists_answer
      (s.moveFolder ⟨Supply.counted 3⟩ ⟨Supply.counted 4⟩) (by decide +kernel)
    obtain ⟨fb, second⟩ := exists_answer
      ((s.moveFolder ⟨Supply.counted 3⟩ ⟨Supply.counted 4⟩).2.moveFolder
        ⟨Supply.counted 4⟩ ⟨Supply.counted 2⟩) (by decide +kernel)
    have exchanged := exchange _ _ _ _ _ _ _ _ (by decide +kernel) first second rfl
    obtain ⟨gb, t₁, moved, rest⟩ := exchanged.swapped (by decide +kernel)
    obtain rfl : (s.moveFolder ⟨Supply.counted 4⟩ ⟨Supply.counted 2⟩).2 = t₁ :=
      congrArg Prod.snd moved
    obtain ⟨ga, t₂, followed, _⟩ := rest rfl
    exact ⟨gb, _, ga, t₂, moved, followed⟩
  · obtain ⟨fa, first⟩ := exists_answer
      (s.moveFolder ⟨Supply.counted 3⟩ ⟨Supply.counted 1⟩) (by decide +kernel)
    obtain ⟨fb, second⟩ := exists_answer
      ((s.moveFolder ⟨Supply.counted 3⟩ ⟨Supply.counted 1⟩).2.moveFolder
        ⟨Supply.counted 2⟩ ⟨Supply.counted 3⟩) (by decide +kernel)
    have exchanged := exchange _ _ _ _ _ _ _ _ (by decide +kernel) first second rfl
    exact exchanged.refused (by decide +kernel)

end System

end Perimeter
