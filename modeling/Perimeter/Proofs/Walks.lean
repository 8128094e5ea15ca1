import Perimeter.Proofs.Loading
import Perimeter.Proofs.Runs

/-!
# Walks

What the two walks of a hierarchy give on a tree. The way up from a folder is the list of its
parents up to the root (`WayUp`), and the climb finds it whatever its bound was taken from. The
way down is the list that a search with a queue finds (`WayDown`). That search keeps no marks; it
ends because no folder has two parents, and what it finds is put together from the children of the
folders in the order in which they were found (`Drains.eq_flatMap`). The two ways are dual: a
folder lies on the way down from those that lie on its way up.
-/

namespace Perimeter

namespace Hierarchy

variable {h : Hierarchy} {id : FolderId} {chain found : List FolderId}

/-! ## Upwards -/

/-- The list that is answered is the chain of parents, and no other list is. -/
theorem Ends.ancestors_eq_ok_iff (ends : h.Ends id) (present : h.contains id = true) :
    h.ancestors id = .ok chain ↔ ∀ i, chain[i]? = h.up (i + 1) id := by
  obtain ⟨list, answered, places, _⟩ := ends.ancestors_eq present
  constructor
  · intro same
    cases answered.symm.trans same
    exact places
  · intro same
    have equal : list = chain := by
      apply List.ext_getElem?
      intro i
      rw [places, same]
    rw [answered, equal]

/-- The parents of a folder, nearest first, the root last. -/
structure WayUp (h : Hierarchy) (id : FolderId) (chain : List FolderId) : Prop where
  /-- The first is the parent of the folder, and each of the others the parent of the one before. -/
  links : (id :: chain).IsChain fun a b => h.parent? a = some b
  /-- No folder is met twice, and the folder itself is not met. -/
  distinct : (id :: chain).Nodup
  last : ∀ a, chain.getLast? = some a → a = h.root
  /-- Only the root has none above it. -/
  top : chain = [] ↔ id = h.root

theorem IsTree.parent?_eq_none_iff (tree : h.IsTree) (present : h.contains id = true) :
    h.parent? id = none ↔ id = h.root := by
  constructor
  · intro parentless
    by_contra other
    obtain ⟨f, row⟩ := contains_iff.mp present
    obtain ⟨_, p, parent, _⟩ := tree.inner id f row other
    rw [parent?_of_get? row, parent] at parentless
    cases parentless
  · rintro rfl
    exact tree.parent?_root

theorem IsTree.wayUp (tree : h.IsTree) (present : h.contains id = true)
    (answered : h.ancestors id = .ok chain) : h.WayUp id chain := by
  have ends := tree.ends id
  have places := (ends.ancestors_eq_ok_iff present).mp answered
  have whole : ∀ i, (id :: chain)[i]? = h.up i id := by
    intro i
    cases i with
    | zero => rfl
    | succ i => exact places i
  constructor
  · rw [List.isChain_iff_getElem]
    intro i lt
    have here : h.up i id = some (id :: chain)[i] := by
      rw [← whole, List.getElem?_eq_getElem]
    have next : h.up (i + 1) id = some (id :: chain)[i + 1] := by
      rw [← whole, List.getElem?_eq_getElem]
    rw [up_succ', here] at next
    exact next
  · rw [List.nodup_iff_getElem?_ne_getElem?]
    intro i j lt inside same
    have there : h.up j id = some (id :: chain)[j] := by
      rw [← whole, List.getElem?_eq_getElem]
    have here : h.up i id = some (id :: chain)[j] := by
      rw [← there, ← whole, ← whole, same]
    have := ends.up_injective here there
    omega
  · intro a final
    rw [List.getLast?_eq_getElem?, places] at final
    -- one link more leads past the end of the chain
    have beyond : h.up (chain.length - 1 + 1 + 1) id = none := by
      rw [← places, List.getElem?_eq_none]
      omega
    rw [up_succ', final] at beyond
    exact (tree.parent?_eq_none_iff (tree.contains_of_up present final)).mp beyond
  · rw [← tree.parent?_eq_none_iff present, ← up_one, ← places 0]
    cases chain <;> simp

/-! ## Downwards -/

/-- What a search finds are the children of the folders in its queue, and then those of the
folders that it finds itself, in this order. -/
theorem Drains.eq_flatMap {queue : List FolderId} (drains : h.Drains queue found) :
    found = (queue ++ found).flatMap h.childIds := by
  induction drains with
  | done => rfl
  | @next a rest found _ ih =>
    -- the children of `a` stand at the end of the queue or at the front of what is found
    calc h.childIds a ++ found
      _ = h.childIds a ++ (rest ++ h.childIds a ++ found).flatMap h.childIds := by rw [← ih]
      _ = (a :: rest ++ (h.childIds a ++ found)).flatMap h.childIds := by simp

/-- How far one folder lies below another is the sum of the distances from a folder between. -/
theorem Ends.distance_add {a b x : FolderId} {d k i : Nat} (ends : h.Ends a)
    (near : h.up d x = some b) (far : h.up k b = some a) (reached : h.up i x = some a) :
    i = d + k := by
  have through : h.up (d + k) x = some a := by
    rw [up_add, near]
    exact far
  exact (ends.of_reached reached).up_injective reached through

/-- A descent from folders that are equally far from one finds the nearer folders first. -/
theorem Linked.pairwise_levelsBelow (linked : h.Linked) {a : FolderId} (ends : h.Ends a)
    {k n : Nat} {level : List FolderId} (far : ∀ b ∈ level, h.up k b = some a) :
    (h.levelsBelow n level).Pairwise
      fun x y => ∀ i j, h.up i x = some a → h.up j y = some a → i ≤ j := by
  induction n generalizing k level with
  | zero => exact List.Pairwise.nil
  | succ n ih =>
    rw [levelsBelow]
    split
    · exact List.Pairwise.nil
    · have next : ∀ c ∈ level.flatMap h.childIds, h.up (k + 1) c = some a := by
        intro c hc
        obtain ⟨b, hb, link⟩ := linked.mem_next.mp hc
        rw [up_succ, link]
        exact far b hb
      rw [List.pairwise_append]
      refine ⟨?_, ih next, ?_⟩
      · apply List.pairwise_of_forall_mem_list
        intro x hx y hy i j hi hj
        have := ends.distance_add (up_zero h x) (next x hx) hi
        have := ends.distance_add (up_zero h y) (next y hy) hj
        omega
      · intro x hx y hy i j hi hj
        obtain ⟨d, _, c, hc, reached⟩ := linked.mem_levelsBelow.mp hy
        have := ends.distance_add (up_zero h x) (next x hx) hi
        have := ends.distance_add reached (next c hc) hj
        omega

/-- The folders below one, in the order of a search level by level. -/
structure WayDown (h : Hierarchy) (id : FolderId) (found : List FolderId) : Prop where
  /-- The search with a queue ends, with this list. -/
  drains : ∀ list, h.Drains [id] list ↔ list = found
  /-- It holds the folders whose way up passes this one. -/
  finds : ∀ x, x ∈ found ↔ ∃ chain, h.ancestors x = .ok chain ∧ id ∈ chain
  /-- No folder is found twice, and the folder itself is not found. -/
  distinct : (id :: found).Nodup
  nearest : found.Pairwise fun x y => ∀ i j, h.up i x = some id → h.up j y = some id → i ≤ j
  /-- It is made up of the children of one folder after another, the folders in their order. -/
  blocks : found = (id :: found).flatMap h.childIds
  /-- The children of one folder stand in the order of their ids. -/
  siblings : ∀ p, (h.childIds p).Pairwise fun c d => compare c d = .lt
  children : ∀ p c, c ∈ h.childIds p ↔ h.parent? c = some p

theorem descendants_eq (present : h.contains id = true) :
    h.descendants id = .ok (h.below id) := by
  obtain ⟨f, row⟩ := contains_iff.mp present
  rw [descendants, require_eq_ok.mpr row]
  rfl

theorem IsTree.mem_below_iff (tree : h.IsTree) {x : FolderId} :
    x ∈ h.below id ↔ ∃ chain, h.ancestors x = .ok chain ∧ id ∈ chain := by
  rw [tree.toLinked.mem_below (tree.ends x)]
  constructor
  · intro above
    obtain ⟨chain, answered, _, mem⟩ := (tree.ends x).ancestors_eq above.contains
    exact ⟨chain, answered, (mem id).mpr above⟩
  · rintro ⟨chain, answered, passed⟩
    obtain ⟨f, row, _⟩ := bind_eq_ok.mp answered
    have present := contains_of_get? (require_eq_ok.mp row)
    have places := ((tree.ends x).ancestors_eq_ok_iff present).mp answered
    obtain ⟨i, here⟩ := List.mem_iff_getElem?.mp passed
    exact ⟨i, (places i).symm.trans here⟩

theorem IsTree.wayDown (tree : h.IsTree) : h.WayDown id (h.below id) := by
  have linked := tree.toLinked
  have ends := tree.ends id
  constructor
  · exact fun list => linked.drains_iff ends
  · exact fun x => tree.mem_below_iff
  · rw [List.nodup_cons]
    exact ⟨fun own => ends.not_above_self (linked.above_of_mem_below own), linked.nodup_below ends⟩
  · apply linked.pairwise_levelsBelow ends (k := 0)
    intro b hb
    rw [List.mem_singleton.mp hb, up_zero]
  · exact ((linked.drains_iff ends).mpr rfl).eq_flatMap
  · exact fun p => Std.ExtTreeSet.ordered_toList
  · exact fun p c => linked.mem_childIds

end Hierarchy

namespace System

/-- In every state of a run from a boot both walks answer for every folder, with the way up to
the root and with the way down from the folder. -/
theorem walks_are_exact_and_dual {terms : Terms} {storage storage' : Storage} {h : Hierarchy}
    (booted : bootHierarchy terms.rootName storage = (.ok h, storage')) (r : Registry)
    (events : List Event) (id : FolderId) :
    let s := (⟨terms, h, r, storage'⟩ : System).afterAll events
    s.hierarchy.contains id = true →
      (∃ chain, s.hierarchy.ancestors id = .ok chain ∧ s.hierarchy.WayUp id chain) ∧
        ∃ found, s.hierarchy.descendants id = .ok found ∧ s.hierarchy.WayDown id found := by
  intro s present
  have tree := ((grounded_of_boot booted terms r).1.afterAll events).1.tree
  obtain ⟨chain, answered, _⟩ := (tree.ends id).ancestors_eq present
  exact ⟨⟨chain, answered, tree.wayUp present answered⟩,
    s.hierarchy.below id, Hierarchy.descendants_eq present, tree.wayDown⟩

theorem walks_of_founded_assets :
    let s := (founded ⟨"Root", ⟨2, 8⟩, .standard⟩ .empty).afterAll
      [.call (.createFolder ⟨"Assets", none, none⟩),
        .call (.createFolder ⟨"Servers", none, some ⟨Supply.counted 2⟩⟩)]
    s.hierarchy.contains ⟨Supply.counted 2⟩ = true ∧
      (∃ chain, s.hierarchy.ancestors ⟨Supply.counted 2⟩ = .ok chain ∧
        s.hierarchy.WayUp ⟨Supply.counted 2⟩ chain) ∧
      ∃ found, s.hierarchy.descendants ⟨Supply.counted 2⟩ = .ok found ∧
        s.hierarchy.WayDown ⟨Supply.counted 2⟩ found := by
  intro s
  have present : s.hierarchy.contains ⟨Supply.counted 2⟩ = true := by decide +kernel
  refine ⟨present, ?_⟩
  exact walks_are_exact_and_dual (boot_founded ⟨"Root", ⟨2, 8⟩, .standard⟩ .empty rfl rfl)
    (founded ⟨"Root", ⟨2, 8⟩, .standard⟩ .empty).registry
    [.call (.createFolder ⟨"Assets", none, none⟩),
      .call (.createFolder ⟨"Servers", none, some ⟨Supply.counted 2⟩⟩)]
    ⟨Supply.counted 2⟩ present

end System

end Perimeter
