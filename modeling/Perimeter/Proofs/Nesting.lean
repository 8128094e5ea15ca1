import Mathlib.Data.Fintype.Card
import Mathlib.Tactic.SplitIfs
import Perimeter.Proofs.Outlines
import Perimeter.Proofs.Reading
import Perimeter.Settings.Basic
import Perimeter.Web.Message
import Perimeter.Wire.Answers

/-!
# How deep answers with outlines are nested

Each level of an outline lies in an object and in the array around it, and a node without children
still has its empty array. The depth that checked settings allow keeps every outline, with the
object that an answer puts around it, within what readers of JSON accept.
-/

namespace Perimeter

namespace Outline

open Json

variable {h : Hierarchy} {f : Folder}

/-! ## Nesting -/

theorem nesting_toJson (o : Outline) :
    o.toJson.nesting = 2 + itemsNesting (listToJson o.children) := by
  cases o
  simp [toJson, Id.toJson, nesting, fieldsNesting, Json.nat]
  omega

theorem itemsNesting_le {os : List Outline} {levels : Nat}
    (within : ∀ o ∈ os, o.toJson.nesting ≤ levels) : itemsNesting (listToJson os) ≤ levels := by
  induction os with
  | nil => exact Nat.zero_le levels
  | cons o os ih =>
    have first := within o List.mem_cons_self
    have rest := ih fun p mem => within p (List.mem_cons_of_mem o mem)
    rw [listToJson, itemsNesting]
    omega

theorem nesting_grown (h : Hierarchy) (more depth : Nat) (f : Folder) :
    (grown h more depth f).toJson.nesting ≤ 2 * (more + 1) := by
  rw [nesting_toJson]
  induction more generalizing depth f with
  | zero => exact Nat.le_refl 2
  | succ more ih =>
    have below : itemsNesting (listToJson (grown h (more + 1) depth f).children) ≤
        2 * (more + 1) := by
      apply itemsNesting_le
      intro o mem
      obtain ⟨g, _, rfl⟩ := List.mem_map.mp mem
      rw [nesting_toJson]
      exact ih (depth + 1) g
    omega

/-! ## Numbers -/

mutual

theorem legible_toJson : ∀ o : Outline,
    (∀ n ∈ o.nodes, n.depth < 10 ^ 39 ∧ n.childCount < 10 ^ 39) → o.toJson.Legible
  | ⟨id, name, depth, childCount, children⟩, few => by
    obtain ⟨own, below⟩ := List.forall_mem_cons.mp few
    have items := legible_listToJson children below
    simp [toJson, Legible, LegibleFields, Id.toJson, legible_nat own.1, legible_nat own.2, items]

theorem legible_listToJson : ∀ os : List Outline,
    (∀ n ∈ nodesOf os, n.depth < 10 ^ 39 ∧ n.childCount < 10 ^ 39) →
      LegibleItems (listToJson os)
  | [], _ => trivial
  | o :: os, few => by
    obtain ⟨first, rest⟩ := List.forall_mem_append.mp few
    exact ⟨legible_toJson o first, legible_listToJson os rest⟩

end

mutual

theorem reread_toJson : ∀ o : Outline,
    (∀ n ∈ o.nodes, n.depth ≤ maxWord64 ∧ n.childCount ≤ maxWord64) →
      o.toJson.reread = o.toJson
  | ⟨id, name, depth, childCount, children⟩, words => by
    obtain ⟨own, below⟩ := List.forall_mem_cons.mp words
    have items := reread_listToJson children below
    simp [toJson, reread, rereadFields, Id.toJson, reread_nat own.1, reread_nat own.2, items]

theorem reread_listToJson : ∀ os : List Outline,
    (∀ n ∈ nodesOf os, n.depth ≤ maxWord64 ∧ n.childCount ≤ maxWord64) →
      rereadItems (listToJson os) = listToJson os
  | [], _ => rfl
  | o :: os, words => by
    obtain ⟨first, rest⟩ := List.forall_mem_append.mp words
    rw [listToJson, rereadItems, reread_toJson o first, reread_listToJson os rest]

end

end Outline

/-! ## Bounds of counts -/

/-- There are no more rows of one kind than ids. -/
theorem size_le_of_ids {κ : Kind} (ids : IdSet κ) : ids.size ≤ 2 ^ 128 := by
  have distinct : (ids.toList.map fun i => i.bits.toFin).Nodup := by
    apply (nodup_toList ids).map
    intro i j same
    cases i
    cases j
    exact congrArg Id.mk (BitVec.toFin_inj.mp same)
  have few := distinct.length_le_card
  rw [Fintype.card_fin, List.length_map, Std.ExtTreeSet.length_toList] at few
  exact few

theorem Hierarchy.IsTree.childCount_le_size {h : Hierarchy} (tree : h.IsTree) (p : FolderId) :
    h.childCount p ≤ h.size := by
  have size : h.rows.values.length = h.size := length_values h.rows
  rw [tree.childCount_eq, ← size]
  exact List.countP_le_length

/-! ## Checked settings -/

namespace Outline

open Json

variable {h : Hierarchy} {f : Folder}

theorem nesting_successJson (data : Json) : (Web.successJson data).nesting = 1 + data.nesting := by
  simp [Web.successJson, nesting, fieldsNesting]

theorem legible_successJson {data : Json} (legible : data.Legible) :
    (Web.successJson data).Legible := by
  simp [Web.successJson, Legible, LegibleFields, legible]

theorem reread_successJson {data : Json} (same : data.reread = data) :
    (Web.successJson data).reread = Web.successJson data := by
  simp [Web.successJson, reread, rereadFields, same]

/-- An answer with an outline is read by whoever accepts 127 levels. Where the number of folders
fits 64 bits, it is read as it was. -/
theorem read_grown {d : Nat} (within : d ≤ Settings.depthCeiling) :
    ∃ j, decodeWithin 127 Decoder.json (Web.successJson (grown h d 0 f).toJson).text = .ok j ∧
      (h.IsTree → h.size ≤ maxWord64 → j = Web.successJson (grown h d 0 f).toJson) := by
  have shallow : d ≤ 60 := within
  have few : ∀ n ∈ (grown h d 0 f).nodes, n.depth < 10 ^ 39 ∧ n.childCount < 10 ^ 39 := by
    intro n mem
    obtain ⟨near, count⟩ := node_of_mem_nodes_grown mem
    have ids := size_le_of_ids (h.childSet n.id)
    rw [count, Hierarchy.childCount]
    omega
  have levels : (Web.successJson (grown h d 0 f).toJson).nesting ≤ 127 := by
    have deep := nesting_grown h d 0 f
    rw [nesting_successJson]
    omega
  refine ⟨(Web.successJson (grown h d 0 f).toJson).reread, ?_, ?_⟩
  · rw [decodeWithin_text 127 (legible_successJson (legible_toJson _ few)), if_pos levels]
  · intro tree fits
    apply reread_successJson
    apply reread_toJson
    intro n mem
    obtain ⟨near, count⟩ := node_of_mem_nodes_grown mem
    have least : 60 ≤ maxWord64 := by decide
    have children := tree.childCount_le_size n.id
    omega

end Outline

theorem Settings.depths_of_check {settings : Settings} (checked : settings.check = .ok ()) :
    settings.tree.depths.standard ≤ settings.tree.depths.most ∧
      settings.tree.depths.most ≤ depthCeiling := by
  unfold check at checked
  split_ifs at checked
  omega

namespace System

/-- Under settings that passed the check, in every state of a run from a launch, an outline is
given for every folder and every depth that the settings allow. Its answer is nested in proportion
to the depth, and a reader who refuses more than 127 levels accepts it. -/
theorem outlines_stay_readable {settings : Settings} (checked : settings.check = .ok ())
    {storage storage' : Storage} {s₀ : System}
    (launched : settings.launch storage = (.ok s₀, storage')) (events : List Event)
    (id : FolderId) :
    let s := s₀.afterAll events
    let most := settings.tree.depths.most
    s.hierarchy.contains id = true →
      (∃ o, s.outline id none = .ok o) ∧
      (∀ d, (∃ o, s.outline id (some d) = .ok o) ↔ d ≤ most) ∧
      ∀ asked o, s.outline id asked = .ok o →
        (Web.successJson o.toJson).nesting ≤ 2 * most + 3 ∧ 2 * most + 3 ≤ 123 ∧
        ∃ j, Json.decodeWithin 127 Json.Decoder.json (Web.successJson o.toJson).text = .ok j ∧
          (s.hierarchy.size ≤ maxWord64 → j = Web.successJson o.toJson) := by
  intro s most present
  obtain ⟨f, row⟩ := Hierarchy.contains_iff.mp present
  obtain ⟨standard, ceiling⟩ := Settings.depths_of_check checked
  obtain ⟨mirrored, terms, _⟩ := mirrored_of_start launched
  have tree := (mirrored.toGrounded.afterAll events).1.tree
  have limits : s.terms.depths = settings.tree.depths := by
    rw [terms_afterAll, terms]
    rfl
  have given : ∀ asked o, s.outline id asked = .ok o ↔
      asked.getD settings.tree.depths.standard ≤ most ∧
        ∃ f, s.hierarchy.get? id = some f ∧
          o = Outline.grown s.hierarchy (asked.getD settings.tree.depths.standard) 0 f := by
    intro asked o
    rw [outline, limits]
    exact Outline.outline_eq_ok
  refine ⟨⟨_, (given none _).mpr ⟨standard, f, row, rfl⟩⟩, ?_, ?_⟩
  · intro d
    constructor
    · rintro ⟨o, answered⟩
      exact ((given (some d) o).mp answered).1
    · exact fun within => ⟨_, (given (some d) _).mpr ⟨within, f, row, rfl⟩⟩
  · intro asked o answered
    obtain ⟨within, g, _, rfl⟩ := (given asked o).mp answered
    have deep := Outline.nesting_grown s.hierarchy (asked.getD settings.tree.depths.standard) 0 g
    have sixty : most ≤ 60 := ceiling
    refine ⟨by rw [Outline.nesting_successJson]; omega, by omega, ?_⟩
    obtain ⟨j, read, same⟩ := Outline.read_grown (h := s.hierarchy) (f := g)
      (within.trans ceiling)
    exact ⟨j, read, same tree⟩

theorem outlines_of_standard_settings :
    let s := (founded Settings.standard.terms .empty).afterAll
      [.call (.createFolder ⟨"Assets", none, none⟩)]
    Settings.standard.check = .ok () ∧
      Settings.standard.launch .empty = (.ok (founded Settings.standard.terms .empty),
        (founded Settings.standard.terms .empty).storage) ∧
      s.hierarchy.contains ⟨Supply.counted 1⟩ = true ∧
      (∃ o, s.outline ⟨Supply.counted 1⟩ none = .ok o) ∧
      (∀ d, (∃ o, s.outline ⟨Supply.counted 1⟩ (some d) = .ok o) ↔ d ≤ 32) ∧
      ∀ asked o, s.outline ⟨Supply.counted 1⟩ asked = .ok o →
        (Web.successJson o.toJson).nesting ≤ 2 * 32 + 3 ∧ 2 * 32 + 3 ≤ 123 ∧
        ∃ j, Json.decodeWithin 127 Json.Decoder.json (Web.successJson o.toJson).text = .ok j ∧
          (s.hierarchy.size ≤ maxWord64 → j = Web.successJson o.toJson) := by
  intro s
  have checked : Settings.standard.check = .ok () := by decide +kernel
  have launched := start_founded Settings.standard.terms .empty rfl rfl
  have present : s.hierarchy.contains ⟨Supply.counted 1⟩ = true := by decide +kernel
  refine ⟨checked, launched, present, ?_⟩
  exact outlines_stay_readable checked launched [.call (.createFolder ⟨"Assets", none, none⟩)]
    ⟨Supply.counted 1⟩ present

end System

end Perimeter
