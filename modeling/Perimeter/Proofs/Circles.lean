import Mathlib.Logic.Function.Basic
import Perimeter.Proofs.Walks

/-!
# Circles

The changes of a hierarchy check nothing, so with other rows than those that passed their checks
the chains of parents may run in circles or lead to folders that are missing. Both walks upwards
are bounded by the number of folders, one by a step less than the other, and both are exact all
the same. A chain that ends passes different folders that have rows, and at most one that is
missing at its end; and on a chain in a circle every folder is met before the first one comes
again. What the chains are is read off the rows (`Chain`, `OnChain`), and the rows off the changes
(`get?_editAll`).
-/

namespace Perimeter

/-! ## Changes that nothing has checked -/

/-- A change of a hierarchy, with any row or any id. -/
inductive Edit where
  | insert (f : Folder)
  | replace (f : Folder)
  | remove (id : FolderId)

/-- The rows after a change. The last row that was given for an id counts, until it is removed. -/
def Edit.after (rows : FolderId → Option Folder) : Edit → FolderId → Option Folder
  | insert f => Function.update rows f.id (some f)
  | replace f => Function.update rows f.id (some f)
  | remove id => Function.update rows id none

/-- The chain of parents above a folder, where it ends. A folder without a row has no parent, and
one that is named as a parent belongs to the chain whether or not it has a row. -/
inductive Chain (rows : FolderId → Option Folder) : FolderId → List FolderId → Prop
  | missing {id : FolderId} (absent : rows id = none) : Chain rows id []
  | top {id : FolderId} {f : Folder} (row : rows id = some f) (parentless : f.parent = none) :
      Chain rows id []
  | step {id p : FolderId} {f : Folder} {rest : List FolderId} (row : rows id = some f)
      (parent : f.parent = some p) (above : Chain rows p rest) : Chain rows id (p :: rest)

/-- The folder `a` is met on the chain of parents above a folder, whether or not the chain ends. -/
inductive OnChain (rows : FolderId → Option Folder) (a : FolderId) : FolderId → Prop
  | here {id : FolderId} {f : Folder} (row : rows id = some f) (parent : f.parent = some a) :
      OnChain rows a id
  | further {id p : FolderId} {f : Folder} (row : rows id = some f) (parent : f.parent = some p)
      (above : OnChain rows a p) : OnChain rows a id

namespace Hierarchy

variable {h : Hierarchy} {a id : FolderId} {f : Folder} {chain : List FolderId}

def edit (h : Hierarchy) : Edit → Hierarchy
  | .insert f => h.insert f
  | .replace f => h.replace f
  | .remove id => h.remove id

def editAll (h : Hierarchy) (edits : List Edit) : Hierarchy := edits.foldl edit h

theorem get?_edit (h : Hierarchy) (e : Edit) : (h.edit e).get? = e.after h.get? := by
  funext x
  cases e with
  | insert f =>
    rw [edit, get?_of_rows_insert (rows_insert h f), Edit.after, Function.update_apply]
    simp only [eq_comm]
  | replace f =>
    rw [edit, get?_of_rows_insert (rows_replace h f), Edit.after, Function.update_apply]
    simp only [eq_comm]
  | remove id =>
    rw [edit, Edit.after, Function.update_apply]
    cases present : h.contains id with
    | true =>
      rw [get?, rows_remove present, lookup_erase]
      simp only [eq_comm]
      rfl
    | false =>
      have absent : h.get? id = none := by simpa [contains] using present
      have kept : h.remove id = h := by simp only [remove, absent]
      rw [kept]
      split
      · next own => rw [own, absent]
      · rfl

/-- Whatever the changes do to the sets of children, the rows are those that they leave. -/
theorem get?_editAll (h : Hierarchy) (edits : List Edit) :
    (h.editAll edits).get? = edits.foldl Edit.after h.get? := by
  induction edits generalizing h with
  | nil => rfl
  | cons e edits ih =>
    rw [List.foldl_cons, ← get?_edit]
    exact ih (h.edit e)

/-! ## Chains -/

theorem parent?_eq_some_iff {p : FolderId} :
    h.parent? id = some p ↔ ∃ f, h.get? id = some f ∧ f.parent = some p := by
  rw [parent?, Option.bind_eq_some_iff]

theorem chain_get?_iff : Chain h.get? id chain ↔ ∀ i, chain[i]? = h.up (i + 1) id := by
  constructor
  · intro given i
    induction given generalizing i with
    | missing absent => rw [up_succ, parent?_of_absent absent, List.getElem?_nil, Option.bind_none]
    | top row parentless =>
      rw [up_succ, parent?_of_get? row, parentless, List.getElem?_nil, Option.bind_none]
    | step row parent _ ih =>
      rw [up_succ, parent?_of_get? row, parent, Option.bind_some]
      cases i with
      | zero => rfl
      | succ i => exact ih i
  · intro places
    induction chain generalizing id with
    | nil =>
      have parentless : h.parent? id = none := by
        rw [← up_one, ← places 0, List.getElem?_nil]
      cases row : h.get? id with
      | none => exact .missing row
      | some f => exact .top row ((parent?_of_get? row).symm.trans parentless)
    | cons p rest ih =>
      have link : h.parent? id = some p := by
        rw [← up_one, ← places 0, List.getElem?_cons_zero]
      obtain ⟨f, row, parent⟩ := parent?_eq_some_iff.mp link
      refine .step row parent (ih fun i => ?_)
      rw [← List.getElem?_cons_succ, places, up_succ, link, Option.bind_some]

theorem onChain_get?_iff : OnChain h.get? a id ↔ h.Above a id := by
  constructor
  · intro met
    induction met with
    | here row parent =>
      refine ⟨0, ?_⟩
      rw [up_one, parent?_of_get? row, parent]
    | further row parent _ ih =>
      obtain ⟨n, reached⟩ := ih
      refine ⟨n + 1, ?_⟩
      rw [up_succ, parent?_of_get? row, parent]
      exact reached
  · rintro ⟨n, reached⟩
    induction n generalizing id with
    | zero =>
      rw [up_one] at reached
      obtain ⟨f, row, parent⟩ := parent?_eq_some_iff.mp reached
      exact .here row parent
    | succ n ih =>
      obtain ⟨p, link, above⟩ := Option.bind_eq_some_iff.mp reached
      obtain ⟨f, row, parent⟩ := parent?_eq_some_iff.mp link
      exact .further row parent (ih above)

/-- A chain that ends is a list. -/
theorem exists_chain_iff (present : h.contains id = true) :
    (∃ chain, Chain h.get? id chain) ↔ h.Ends id := by
  constructor
  · rintro ⟨chain, given⟩
    refine ⟨chain.length + 1, ?_⟩
    rw [← chain_get?_iff.mp given, List.getElem?_eq_none (Nat.le_refl _)]
  · intro ends
    obtain ⟨chain, _, places, _⟩ := ends.ancestors_eq present
    exact ⟨chain, chain_get?_iff.mpr places⟩

theorem ancestors_of_endless (present : h.contains id = true) (endless : ¬ h.Ends id) :
    h.ancestors id = .error (.endlessParents id) := by
  obtain ⟨f, row⟩ := contains_iff.mp present
  have climbs : h.climb? h.size f.parent = none := by
    rw [← Option.not_isSome_iff_eq_none, climb?_isSome, ← parent?_of_get? row]
    exact fun past => endless ⟨h.size + 1, past⟩
  simp only [ancestors, require, row, bind, Except.bind, climbs]

/-- The climb fails exactly on a chain that does not end. -/
theorem ancestors_fails_iff (present : h.contains id = true) :
    (h.ancestors id).mapError Fault.kind = .error .internal ↔ ¬ h.Ends id := by
  by_cases ends : h.Ends id
  · obtain ⟨list, answered, _⟩ := ends.ancestors_eq present
    simp [answered, Except.mapError, ends]
  · simp [ancestors_of_endless present ends, Except.mapError, Fault.kind, ends]

/-- The list that is answered is the chain, and there is no answer to a chain that does not end. -/
theorem ancestors_eq_ok_iff (present : h.contains id = true) :
    h.ancestors id = .ok chain ↔ Chain h.get? id chain := by
  by_cases ends : h.Ends id
  · exact (ends.ancestors_eq_ok_iff present).trans chain_get?_iff.symm
  · constructor
    · intro answered
      cases answered.symm.trans (ancestors_of_endless present ends)
    · intro given
      exact absurd ((exists_chain_iff present).mp ⟨chain, given⟩) ends

/-- Whatever the rows of a hierarchy have become by changes that nothing has checked, the search
upwards finds exactly what is on the chain of parents, and the climb gives the chain, or fails where
the chain does not end. -/
theorem bounded_walks_are_exact (h₀ : Hierarchy) (edits : List Edit) :
    let h := h₀.editAll edits
    let rows := edits.foldl Edit.after h₀.get?
    (∀ a id, h.isAbove a id = true ↔ OnChain rows a id) ∧
      ∀ id, (rows id).isSome = true →
        ((h.ancestors id).mapError Fault.kind = .error .internal ↔
            ¬ ∃ chain, Chain rows id chain) ∧
          ∀ chain, h.ancestors id = .ok chain ↔ Chain rows id chain := by
  intro h rows
  have same : h.get? = rows := get?_editAll h₀ edits
  rw [← same]
  refine ⟨fun a id => isAbove_iff.trans onChain_get?_iff.symm, fun id present => ⟨?_, ?_⟩⟩
  · rw [exists_chain_iff present]
    exact ancestors_fails_iff present
  · exact fun chain => ancestors_eq_ok_iff present

/-- Two folders below each other, and one below a folder that is missing. -/
theorem circle_and_missing_parent :
    let folder (id parent : BitVec 128) := Folder.ofChild "Racks" none ⟨parent⟩ ⟨id⟩ (.ofParts 0 0)
    let first := single (.ofRoot "Root" ⟨1⟩ (.ofParts 0 0))
    let edits : List Edit := [.insert (folder 2 1), .insert (folder 3 2), .replace (folder 2 3),
      .insert (folder 4 9), .remove ⟨1⟩]
    let rows := edits.foldl Edit.after first.get?
    OnChain rows ⟨2⟩ ⟨2⟩ ∧ (¬ ∃ chain, Chain rows ⟨2⟩ chain) ∧ Chain rows ⟨4⟩ [⟨9⟩] := by
  intro folder first edits rows
  obtain ⟨search, climb⟩ := bounded_walks_are_exact first edits
  refine ⟨(search ⟨2⟩ ⟨2⟩).mp ?_, (climb ⟨2⟩ ?_).1.mp ?_, ((climb ⟨4⟩ ?_).2 [⟨9⟩]).mp ?_⟩
  all_goals decide +kernel

end Hierarchy

end Perimeter
