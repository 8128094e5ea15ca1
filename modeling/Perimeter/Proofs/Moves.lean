import Perimeter.Proofs.Runs

/-!
# Moves

Whether a folder may go below another is decided by a climb from its new parent. `moveRule` puts
the rule the other way round, by the folders below the one that moves, and on a tree the check
decides by that rule (`IsTree.kind_checkMove`). A move that is allowed gives one folder another
parent and another time of change, and leaves the rest of the hierarchy as it was (`Relocated`).
-/

namespace Perimeter

namespace Hierarchy

variable {h h' : Hierarchy} {id q : FolderId} {f : Folder}

/-- The rule for moving a folder below `q`. The causes of refusal count in this order. -/
def moveRule (h : Hierarchy) (id q : FolderId) : Except FaultKind Move :=
  if h.contains id = false then .error .notFound
  else if id = h.root then .error .protectedRoot
  else if h.contains q = false then .error .notFound
  else if h.parent? id = some q then .ok .unchanged
  else if q = id ∨ q ∈ h.below id then .error .cycle
  else .ok (.to q)

/-- On a tree the climb from the new parent finds the folder exactly if the descent from the
folder finds the new parent, so the check decides by the rule. -/
theorem IsTree.kind_checkMove (tree : h.IsTree) (id q : FolderId) :
    (h.checkMove id q).mapError Fault.kind = h.moveRule id q := by
  unfold moveRule
  cases present : h.contains id with
  | false =>
    rw [checkMove, require_of_absent present]
    rfl
  | true =>
    obtain ⟨f, row⟩ := contains_iff.mp present
    have above : h.isAbove id q = true ↔ q ∈ h.below id := by
      rw [isAbove_iff, tree.toLinked.mem_below (tree.ends q)]
    have marked : f.isRoot = true ∨ id = h.root ↔ id = h.root := by
      rw [tree.isRoot_iff row, or_self]
    simp only [checkMove_of_get? row, marked, above, parent?_of_get? row, Bool.true_eq_false,
      if_false]
    -- the two chains of questions are the same now, and their answers correspond
    split_ifs <;> rfl

/-- `h'` is `h` but for one folder, which is `f` now: its parent is `q`, and its time of change
may be another. -/
structure Relocated (h : Hierarchy) (id q : FolderId) (f : Folder) (h' : Hierarchy) : Prop where
  root : h'.root = h.root
  moved : h'.get? id = some f
  same : ∃ old, h.get? id = some old ∧ f = { old with parent := some q, updatedAt := f.updatedAt }
  others : ∀ x, x ≠ id → h'.get? x = h.get? x
  children : ∀ p x, x ∈ h'.childSet p ↔ if x = id then p = q else x ∈ h.childSet p

theorem relocated_replace (linked : h.Linked) {old : Folder} (row : h.get? f.id = some old)
    (same : f = { old with parent := some q, updatedAt := f.updatedAt }) :
    h.Relocated f.id q f (h.replace f) := by
  have lookup := get?_of_rows_insert (rows_replace h f)
  have parents := parent?_of_rows_insert (rows_replace h f)
  refine ⟨root_replace h f, ?_, ⟨old, row, same⟩, ?_, ?_⟩
  · rw [lookup, if_pos rfl]
  · intro x other
    rw [lookup, if_neg (Ne.symm other)]
  · intro p x
    have parent : f.parent = some q := by rw [same]
    rw [(linked_replace linked f).child_iff, parents, linked.child_iff]
    by_cases own : x = f.id
    · simp [own, parent, eq_comm]
    · simp [own, Ne.symm own]

end Hierarchy

namespace System

variable {s : System} {id q : FolderId}

/-- A move comes to what the rule says, whatever the storage does except for the last case. -/
structure MoveDecided (s : System) (id q : FolderId) : Prop where
  refused : ∀ k, s.hierarchy.moveRule id q = .error k →
    ∃ e, s.moveFolder id q = (.error e, s) ∧ e.kind = k
  kept : s.hierarchy.moveRule id q = .ok .unchanged →
    ∃ f, s.hierarchy.get? id = some f ∧ s.moveFolder id q = (.ok f, s)
  moved : s.hierarchy.moveRule id q = .ok (.to q) → s.storage.Accepts →
    ∃ f s', s.moveFolder id q = (.ok f, s') ∧ s.hierarchy.Relocated id q f s'.hierarchy

/-- A move that passed its check is one write. -/
theorem moveFolder_of_passed {old : Folder} (passed : s.hierarchy.checkMove id q = .ok (.to q))
    (row : s.hierarchy.get? id = some old) :
    s.moveFolder id q = s.saveFolder { old with parent := some q } := by
  unfold moveFolder
  rw [passed, Hierarchy.require_eq_ok.mpr row]
  rfl

theorem moveFolder_moves (grounded : s.Grounded) (accepts : s.storage.Accepts)
    (passed : s.hierarchy.checkMove id q = .ok (.to q)) :
    ∃ f s', s.moveFolder id q = (.ok f, s') ∧ s.hierarchy.Relocated id q f s'.hierarchy := by
  obtain ⟨old, row, _⟩ := Hierarchy.checkMove_eq_ok passed
  obtain rfl : old.id = id := grounded.tree.keyed id old row
  have stored := (Hierarchy.get?_of_rows grounded.rows old.id).symm.trans row
  have present : ∀ now : Instant, ∃ t, (Shelf.folders.get s.storage).update
      { old with parent := some q, updatedAt := now } = .ok t :=
    fun _ => Table.exists_update stored
  obtain ⟨now, t, p, _, saved⟩ := commit_update
    (fun s f => { s with hierarchy := s.hierarchy.replace f }) accepts present
  have moves := moveFolder_of_passed passed row
  let moved : Folder := { old with parent := some q, updatedAt := now }
  refine ⟨moved, _, moves.trans saved, ?_⟩
  exact Hierarchy.relocated_replace (f := moved) grounded.tree.toLinked row rfl

theorem Grounded.moveDecided (grounded : s.Grounded) (id q : FolderId) : s.MoveDecided id q := by
  have rule := grounded.tree.kind_checkMove id q
  constructor
  · intro k refused
    obtain ⟨e, decided, kind⟩ := mapError_eq_error.mp (rule.trans refused)
    refine ⟨e, ?_, kind⟩
    rw [moveFolder, decided]
    rfl
  · intro kept
    have decided := mapError_eq_ok.mp (rule.trans kept)
    obtain ⟨f, row, _⟩ := Hierarchy.checkMove_eq_ok decided
    refine ⟨f, row, ?_⟩
    rw [moveFolder, decided]
    exact Prod.ext (Hierarchy.require_eq_ok.mpr row) rfl
  · intro moved accepts
    exact moveFolder_moves grounded accepts (mapError_eq_ok.mp (rule.trans moved))

/-- In every state of a run from a boot, a move comes to what the rule says about the folders
below the one that moves. -/
theorem moves_follow_the_rule {terms : Terms} {storage storage' : Storage} {h : Hierarchy}
    (booted : bootHierarchy terms.rootName storage = (.ok h, storage')) (r : Registry)
    (events : List Event) (id q : FolderId) :
    ((⟨terms, h, r, storage'⟩ : System).afterAll events).MoveDecided id q :=
  ((grounded_of_boot booted terms r).1.afterAll events).1.moveDecided id q

/-- A folder does not go below its own child, but the child may go below the root. -/
theorem child_goes_up_not_parent_down :
    let s := (founded ⟨"Root", ⟨2, 8⟩, .standard⟩ .empty).afterAll
      [.call (.createFolder ⟨"Assets", none, none⟩),
        .call (.createFolder ⟨"Servers", none, some ⟨Supply.counted 2⟩⟩)]
    (∃ e, s.moveFolder ⟨Supply.counted 2⟩ ⟨Supply.counted 3⟩ = (.error e, s) ∧
        e.kind = .cycle) ∧
      ∃ f s', s.moveFolder ⟨Supply.counted 3⟩ ⟨Supply.counted 1⟩ = (.ok f, s') ∧
        s.hierarchy.Relocated ⟨Supply.counted 3⟩ ⟨Supply.counted 1⟩ f s'.hierarchy := by
  intro s
  have decided := moves_follow_the_rule (boot_founded ⟨"Root", ⟨2, 8⟩, .standard⟩ .empty rfl rfl)
    (founded ⟨"Root", ⟨2, 8⟩, .standard⟩ .empty).registry
    [.call (.createFolder ⟨"Assets", none, none⟩),
      .call (.createFolder ⟨"Servers", none, some ⟨Supply.counted 2⟩⟩)]
  constructor
  · exact (decided ⟨Supply.counted 2⟩ ⟨Supply.counted 3⟩).refused .cycle (by decide +kernel)
  · exact (decided ⟨Supply.counted 3⟩ ⟨Supply.counted 1⟩).moved (by decide +kernel) rfl

end System

end Perimeter
