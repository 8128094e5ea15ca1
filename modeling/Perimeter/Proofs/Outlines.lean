import Perimeter.Outline
import Perimeter.Proofs.Sorting
import Perimeter.Proofs.Walks

/-!
# Outlines

The outline that the loop over a stack of unfinished nodes puts together is the one that a
recursion over the levels describes (`ofFolder?_eq`): what stands on the stack below a node does
not matter to it, and a node that is finished is taken over whole (`build_start`). On a tree that
recursion needs nothing but the rows (`ofRows`), and it meets the folders down to its depth, each
of them once (`Spans`).
-/

namespace Perimeter

/-! ## The order of listings -/

namespace Folder

instance : Std.TransCmp compareByName :=
  inferInstanceAs (Std.TransCmp (compareLex (compareOn Folder.name) (compareOn Folder.id)))

theorem sortByName_perm (fs : List Folder) : (sortByName fs).Perm fs := List.mergeSort_perm _ _

/-- Folders that differ in their ids are listed in one order, however they come. -/
theorem sortByName_congr {fs gs : List Folder} (perm : fs.Perm gs)
    (keyed : ∀ f ∈ fs, ∀ g ∈ fs, f.id = g.id → f = g) : sortByName fs = sortByName gs := by
  apply sortBy_congr _ perm
  intro f hf g hg level
  exact keyed f hf g hg (eq_of_then_compare level)

end Folder

namespace Outline

variable {h : Hierarchy} {most depth : Nat} {f : Folder}

/-! ## The stack -/

/-- The outline of a folder by recursion, with so many levels below it. -/
def grown (h : Hierarchy) : Nat → Nat → Folder → Outline
  | 0, depth, f => node h depth f []
  | more + 1, depth, f => node h depth f ((listed h f).map (grown h more (depth + 1)))

theorem close_grown (more depth : Nat) (f : Folder) :
    Unfinished.close h ⟨f, depth, (grown h more depth f).children.reverse, []⟩ =
      grown h more depth f := by
  cases more <;> simp [Unfinished.close, grown, node]

/-- A node that is begun gets the children of the recursion before anything below it on the stack
is touched. -/
theorem build_start (h : Hierarchy) (most depth : Nat) (f : Folder) (outer : List Unfinished) :
    build h most (.start h most depth f :: outer) =
      build h most
        (⟨f, depth, (grown h (most - depth) depth f).children.reverse, []⟩ :: outer) := by
  generalize levels : most - depth = more
  induction more generalizing depth f outer with
  | zero =>
    have last : most ≤ depth := by omega
    rw [Unfinished.start, if_pos last]
    rfl
  | succ more ih =>
    have inside : ¬ most ≤ depth := by omega
    -- one child after another is begun, finished by the hypothesis, and attached
    have children : ∀ pending done,
        build h most (⟨f, depth, done, pending⟩ :: outer) =
          build h most (⟨f, depth,
            (pending.map (grown h more (depth + 1))).reverse ++ done, []⟩ :: outer) := by
      intro pending
      induction pending with
      | nil => exact fun done => rfl
      | cons next pending rest =>
        intro done
        rw [build, ih (depth + 1) next _ (by omega), build, close_grown, Unfinished.attach, rest]
        simp
    rw [Unfinished.start, if_neg inside, children, List.append_nil]
    rfl

/-- The loop ends with a node, and it is that of the recursion. -/
theorem ofFolder?_eq (h : Hierarchy) (f : Folder) (most : Nat) :
    ofFolder? h f most = some (grown h most 0 f) := by
  rw [ofFolder?, build_start, build, Nat.sub_zero, close_grown]

theorem outline_eq_ok {limits : DepthLimits} {id : FolderId} {asked : Option Nat} {o : Outline} :
    h.outline limits id asked = .ok o ↔ asked.getD limits.standard ≤ limits.most ∧
      ∃ f, h.get? id = some f ∧ o = grown h (asked.getD limits.standard) 0 f := by
  unfold Hierarchy.outline
  by_cases deep : limits.most < asked.getD limits.standard
  · rw [if_pos deep]
    constructor
    · intro answered
      cases answered
    · rintro ⟨within, _⟩
      omega
  · rw [if_neg deep]
    cases row : h.get? id with
    | none =>
      rw [Hierarchy.require, row]
      constructor
      · intro answered
        cases answered
      · rintro ⟨_, f, found, _⟩
        cases found
    | some f =>
      rw [Hierarchy.require_eq_ok.mpr row]
      simp only [bind, Except.bind, ofFolder?_eq]
      constructor
      · rintro ⟨⟩
        exact ⟨Nat.le_of_not_lt deep, f, rfl, rfl⟩
      · rintro ⟨_, f, ⟨⟩, rfl⟩
        rfl

theorem countNodes_eq (counted : Nat) (stack : List Outline) :
    countNodes counted stack = counted + (nodesOf stack).length := by
  induction counted, stack using countNodes.induct with
  | case1 counted => simp [countNodes, nodesOf]
  | case2 counted o stack ih =>
    simp only [List.unattach_reverse, List.unattach_attach] at ih
    rw [countNodes, ih, length_nodesOf_push]
    omega

theorem size_eq (o : Outline) : o.size = o.nodes.length := by
  rw [size, countNodes_eq, nodesOf_eq_flatMap, List.flatMap_singleton, Nat.zero_add]

/-! ## Rows -/

/-- The outline of a folder among rows, with so many levels below it. Below it are those rows that
name it as their parent, by name and id; they are counted also where they are not shown. -/
def ofRows (rows : List Folder) : Nat → Nat → Folder → Outline
  | 0, depth, f => ⟨f.id, f.name, depth, rows.countP (·.parent = some f.id), []⟩
  | more + 1, depth, f =>
    ⟨f.id, f.name, depth, rows.countP (·.parent = some f.id),
      (Folder.sortByName (rows.filter (·.parent = some f.id))).map (ofRows rows more (depth + 1))⟩

end Outline

namespace Hierarchy.IsTree

variable {h : Hierarchy} {f g : Folder} {p : FolderId}

theorem mem_values (tree : h.IsTree) : f ∈ h.rows.values ↔ h.get? f.id = some f := by
  rw [Perimeter.mem_values]
  constructor
  · rintro ⟨id, row⟩
    rw [tree.keyed id f row]
    exact row
  · exact fun row => ⟨f.id, row⟩

theorem nodup_values (tree : h.IsTree) : h.rows.values.Nodup := by
  apply pairwise_values
  rintro i j a b hi hj other rfl
  exact other ((tree.keyed i a hi).symm.trans (tree.keyed j a hj))

theorem mem_childRows (tree : h.IsTree) :
    f ∈ (h.childIds p).filterMap h.get? ↔ h.get? f.id = some f ∧ f.parent = some p := by
  simp only [List.mem_filterMap, tree.toLinked.mem_childIds]
  constructor
  · rintro ⟨c, link, row⟩
    obtain rfl := tree.keyed c f row
    exact ⟨row, (parent?_of_get? row).symm.trans link⟩
  · rintro ⟨row, parent⟩
    exact ⟨f.id, (parent?_of_get? row).trans parent, row⟩

/-- The rows of the children of a folder are those that name it as their parent. -/
theorem childRows_perm (tree : h.IsTree) (p : FolderId) :
    ((h.childIds p).filterMap h.get?).Perm (h.rows.values.filter (·.parent = some p)) := by
  have distinct : ((h.childIds p).filterMap h.get?).Nodup := by
    apply (nodup_toList (h.childSet p)).filterMap
    intro c d f hc hd
    exact (tree.keyed c f hc).symm.trans (tree.keyed d f hd)
  rw [List.perm_ext_iff_of_nodup distinct (tree.nodup_values.filter _)]
  intro f
  rw [tree.mem_childRows, List.mem_filter, tree.mem_values, decide_eq_true_iff]

theorem childFolders_eq (tree : h.IsTree) (p : FolderId) :
    h.childFolders p = Folder.sortByName (h.rows.values.filter (·.parent = some p)) := by
  apply Folder.sortByName_congr (tree.childRows_perm p)
  intro f hf g hg same
  have row := (tree.mem_childRows.mp hf).1
  rw [same] at row
  exact Option.some.inj (row.symm.trans (tree.mem_childRows.mp hg).1)

theorem childCount_eq (tree : h.IsTree) (p : FolderId) :
    h.childCount p = h.rows.values.countP (·.parent = some p) := by
  have present : ∀ c ∈ h.childIds p, (h.get? c).isSome = true := by
    intro c mem
    exact contains_of_parent? (tree.toLinked.mem_childIds.mp mem)
  rw [List.countP_eq_length_filter, ← (tree.childRows_perm p).length_eq,
    List.length_filterMap_eq_countP, List.countP_eq_length.mpr present, childIds,
    Std.ExtTreeSet.length_toList, childCount]

theorem listed_eq (row : h.get? f.id = some f) : Outline.listed h f = h.childFolders f.id := by
  rw [Outline.listed, children, require_eq_ok.mpr row]
  rfl

theorem mem_listed (tree : h.IsTree) (row : h.get? f.id = some f) :
    g ∈ Outline.listed h f ↔ h.get? g.id = some g ∧ g.parent = some f.id := by
  rw [listed_eq row, childFolders, (Folder.sortByName_perm _).mem_iff, tree.mem_childRows]

end Hierarchy.IsTree

namespace Outline

variable {h : Hierarchy} {f : Folder}

theorem node_eq (tree : h.IsTree) (depth : Nat) (f : Folder) (children : List Outline) :
    node h depth f children =
      ⟨f.id, f.name, depth, h.rows.values.countP (·.parent = some f.id), children⟩ := by
  rw [node, tree.childCount_eq]

theorem grown_eq (tree : h.IsTree) (more depth : Nat) (row : h.get? f.id = some f) :
    grown h more depth f = ofRows h.rows.values more depth f := by
  induction more generalizing depth f with
  | zero => rw [grown, ofRows, node_eq tree]
  | succ more ih =>
    have below : (listed h f).map (grown h more (depth + 1)) =
        (listed h f).map (ofRows h.rows.values more (depth + 1)) := by
      apply List.map_congr_left
      intro g mem
      exact ih (depth + 1) ((tree.mem_listed row).mp mem).1
    rw [grown, ofRows, node_eq tree, below, Hierarchy.IsTree.listed_eq row, tree.childFolders_eq]

/-! ## Nodes -/

/-- No node stands deeper than the outline goes, and each tells how many children its folder
has, also where they are not shown. -/
theorem node_of_mem_nodes_grown {more depth : Nat} {o : Outline}
    (mem : o ∈ (grown h more depth f).nodes) :
    o.depth ≤ depth + more ∧ o.childCount = h.childCount o.id := by
  induction more generalizing depth f with
  | zero =>
    rw [nodes_eq] at mem
    obtain rfl : o = grown h 0 depth f := by simpa [grown, node, nodesOf] using mem
    exact ⟨Nat.le_refl depth, rfl⟩
  | succ more ih =>
    rw [nodes_eq, nodesOf_eq_flatMap] at mem
    rcases List.mem_cons.mp mem with rfl | below
    · exact ⟨Nat.le_add_right depth _, rfl⟩
    · simp only [grown, node, List.flatMap_map, List.mem_flatMap] at below
      obtain ⟨g, _, shown⟩ := below
      obtain ⟨near, count⟩ := ih shown
      exact ⟨by omega, count⟩

/-- The nodes are the folders that lie so many links below, and each stands at its distance. -/
theorem exists_mem_nodes_grown (tree : h.IsTree) {more depth d : Nat}
    (row : h.get? f.id = some f) {x : FolderId} :
    (∃ o ∈ (grown h more depth f).nodes, o.id = x ∧ o.depth = d) ↔
      ∃ n ≤ more, d = depth + n ∧ h.up n x = some f.id := by
  induction more generalizing depth f with
  | zero =>
    simp [grown, nodes_eq, node, nodesOf, eq_comm, and_comm]
  | succ more ih =>
    rw [nodes_eq, nodesOf_eq_flatMap]
    simp only [grown, node, List.mem_cons, List.flatMap_map, List.mem_flatMap, or_and_right,
      exists_or, exists_eq_left]
    constructor
    · rintro (⟨rfl, rfl⟩ | ⟨o, ⟨g, mem, below⟩, own⟩)
      · exact ⟨0, Nat.zero_le _, rfl, rfl⟩
      · obtain ⟨child, parent⟩ := (tree.mem_listed row).mp mem
        obtain ⟨n, le, rfl, reached⟩ := (ih child).mp ⟨o, below, own⟩
        refine ⟨n + 1, by omega, by omega, ?_⟩
        rw [Hierarchy.up_succ', reached]
        exact (Hierarchy.parent?_of_get? child).trans parent
    · rintro ⟨n, le, rfl, reached⟩
      cases n with
      | zero => exact Or.inl ⟨(Option.some.inj reached).symm, rfl⟩
      | succ n =>
        obtain ⟨c, near, link⟩ := Option.bind_eq_some_iff.mp (Hierarchy.up_succ' h n x ▸ reached)
        obtain ⟨g, child⟩ := Hierarchy.contains_iff.mp (Hierarchy.contains_of_parent? link)
        obtain rfl := tree.keyed c g child
        have mem := (tree.mem_listed row).mpr
          ⟨child, (Hierarchy.parent?_of_get? child).symm.trans link⟩
        obtain ⟨o, below, own⟩ : ∃ o ∈ (grown h more (depth + 1) g).nodes,
            o.id = x ∧ o.depth = depth + (n + 1) := (ih child).mpr ⟨n, by omega, by omega, near⟩
        exact Or.inr ⟨o, ⟨g, mem, below⟩, own⟩

theorem nodup_listed (tree : h.IsTree) (row : h.get? f.id = some f) : (listed h f).Nodup := by
  rw [Hierarchy.IsTree.listed_eq row, tree.childFolders_eq]
  exact (Folder.sortByName_perm _).nodup_iff.mpr (tree.nodup_values.filter _)

/-- What the outline of a child shows lies below the child, and one link further below the
parent. -/
theorem under_of_mem_listed (tree : h.IsTree) (row : h.get? f.id = some f) {g : Folder}
    (mem : g ∈ listed h f) {more depth : Nat} {x : FolderId}
    (shown : x ∈ (grown h more depth g).nodes.map Outline.id) :
    ∃ n, h.up n x = some g.id ∧ h.up (n + 1) x = some f.id := by
  obtain ⟨child, parent⟩ := (tree.mem_listed row).mp mem
  obtain ⟨o, inside, same⟩ := List.mem_map.mp shown
  obtain ⟨n, _, _, reached⟩ := (exists_mem_nodes_grown tree child).mp ⟨o, inside, same, rfl⟩
  refine ⟨n, reached, ?_⟩
  rw [Hierarchy.up_succ', reached]
  exact (Hierarchy.parent?_of_get? child).trans parent

theorem nodup_nodes_grown (tree : h.IsTree) (more depth : Nat) (row : h.get? f.id = some f) :
    ((grown h more depth f).nodes.map Outline.id).Nodup := by
  induction more generalizing depth f with
  | zero => simp [grown, nodes_eq, node, nodesOf]
  | succ more ih =>
    rw [nodes_eq, nodesOf_eq_flatMap, List.map_cons, List.nodup_cons]
    simp only [grown, node, List.flatMap_map, List.map_flatMap]
    constructor
    · intro own
      obtain ⟨g, mem, shown⟩ := List.mem_flatMap.mp own
      obtain ⟨n, _, reached⟩ := under_of_mem_listed tree row mem shown
      exact (tree.ends f.id).not_above_self ⟨n, reached⟩
    · rw [List.nodup_flatMap]
      constructor
      · intro g mem
        exact ih (depth + 1) ((tree.mem_listed row).mp mem).1
      -- two children that show one folder are one child: both lie as far above it
      · refine (nodup_listed tree row).imp_of_mem ?_
        intro g k hg hk other x left right
        obtain ⟨n, reached, top⟩ := under_of_mem_listed tree row hg left
        obtain ⟨m, reached', top'⟩ := under_of_mem_listed tree row hk right
        have level := (tree.ends x).up_injective top top'
        obtain rfl : n = m := by omega
        have ids : g.id = k.id := Option.some.inj (reached.symm.trans reached')
        have own := ((tree.mem_listed row).mp hg).1
        rw [ids] at own
        exact other (Option.some.inj (own.symm.trans ((tree.mem_listed row).mp hk).1))

/-- An outline of a folder that shows what lies at most so many links below it. -/
structure Spans (h : Hierarchy) (id : FolderId) (most : Nat) (o : Outline) : Prop where
  /-- No folder is shown twice. -/
  once : (o.nodes.map Outline.id).Nodup
  /-- Shown are the folder, and of those below it the ones that are near enough. -/
  shows : ∃ found, h.descendants id = .ok found ∧ ∀ x, x ∈ o.nodes.map Outline.id ↔
    x = id ∨ x ∈ found ∧ ∃ n ≤ most, h.up n x = some id
  /-- Each node stands at the distance of its folder. -/
  distance : ∀ n ∈ o.nodes, h.up n.depth n.id = some id
  counted : o.size = o.nodes.length

theorem spans_grown (tree : h.IsTree) (most : Nat) (row : h.get? f.id = some f) :
    (grown h most 0 f).Spans h f.id most where
  once := nodup_nodes_grown tree most 0 row
  shows := by
    refine ⟨h.below f.id, Hierarchy.descendants_eq (Hierarchy.contains_of_get? row), ?_⟩
    intro x
    have shown : x ∈ (grown h most 0 f).nodes.map Outline.id ↔
        ∃ n ≤ most, h.up n x = some f.id := by
      rw [List.mem_map]
      constructor
      · rintro ⟨o, mem, own⟩
        obtain ⟨n, le, _, reached⟩ := (exists_mem_nodes_grown tree row).mp ⟨o, mem, own, rfl⟩
        exact ⟨n, le, reached⟩
      · rintro ⟨n, le, reached⟩
        obtain ⟨o, mem, own, _⟩ := (exists_mem_nodes_grown tree row).mpr ⟨n, le, rfl, reached⟩
        exact ⟨o, mem, own⟩
    rw [shown, tree.toLinked.mem_below (tree.ends x)]
    constructor
    · rintro ⟨n, le, reached⟩
      cases n with
      | zero => exact Or.inl (Option.some.inj reached)
      | succ n => exact Or.inr ⟨⟨n, reached⟩, n + 1, le, reached⟩
    · rintro (rfl | ⟨_, near⟩)
      · exact ⟨0, Nat.zero_le most, rfl⟩
      · exact near
  distance := by
    intro n mem
    obtain ⟨d, _, depth, reached⟩ := (exists_mem_nodes_grown tree row).mp ⟨n, mem, rfl, rfl⟩
    rw [depth, Nat.zero_add]
    exact reached
  counted := size_eq _

/-- For a folder of a tree the loop ends with the outline that its rows describe. -/
theorem outline_of_within (tree : h.IsTree) {id : FolderId} (row : h.get? id = some f)
    {limits : DepthLimits} {asked : Option Nat}
    (within : asked.getD limits.standard ≤ limits.most) :
    ∃ o, h.outline limits id asked = .ok o ∧
      o = ofRows h.rows.values (asked.getD limits.standard) 0 f ∧
        o.Spans h id (asked.getD limits.standard) := by
  obtain rfl := tree.keyed id f row
  exact ⟨_, outline_eq_ok.mpr ⟨within, f, row, rfl⟩, grown_eq tree _ 0 row, spans_grown tree _ row⟩

end Outline

namespace System

theorem terms_afterAll (s : System) (events : List Event) : (s.afterAll events).terms = s.terms :=
  afterAll_of_writes (P := fun t => t.terms = s.terms) rfl (fun _ _ held => held)
    (fun held wrote => wrote.terms_eq.trans held) events

/-- In every state of a run from a boot, the outline of a folder down to a depth within the limits
is the one that the rows describe. -/
theorem outlines_follow_the_rows {terms : Terms} {storage storage' : Storage} {h : Hierarchy}
    (booted : bootHierarchy terms.rootName storage = (.ok h, storage')) (r : Registry)
    (events : List Event) (id : FolderId) (d : Nat) :
    let s := (⟨terms, h, r, storage'⟩ : System).afterAll events
    ∀ f, s.hierarchy.get? id = some f → d ≤ terms.depths.most →
      ∃ o, s.outline id (some d) = .ok o ∧
        o = Outline.ofRows s.hierarchy.rows.values d 0 f ∧ o.Spans s.hierarchy id d := by
  intro s f row within
  have tree := ((grounded_of_boot booted terms r).1.afterAll events).1.tree
  have same : s.terms = terms := terms_afterAll _ events
  have allowed : (some d).getD s.terms.depths.standard ≤ s.terms.depths.most := by
    rw [same]
    exact within
  exact Outline.outline_of_within tree row allowed

theorem outlines_of_founded_assets :
    let s := (founded ⟨"Root", ⟨2, 8⟩, .standard⟩ .empty).afterAll
      [.call (.createFolder ⟨"Assets", none, none⟩),
        .call (.createFolder ⟨"Servers", none, some ⟨Supply.counted 2⟩⟩)]
    ∃ f, s.hierarchy.get? ⟨Supply.counted 1⟩ = some f ∧ 1 ≤ 8 ∧
      ∃ o, s.outline ⟨Supply.counted 1⟩ (some 1) = .ok o ∧
        o = Outline.ofRows s.hierarchy.rows.values 1 0 f ∧
          o.Spans s.hierarchy ⟨Supply.counted 1⟩ 1 := by
  intro s
  have present : s.hierarchy.contains ⟨Supply.counted 1⟩ = true := by decide +kernel
  obtain ⟨f, row⟩ := Hierarchy.contains_iff.mp present
  refine ⟨f, row, by decide, ?_⟩
  exact outlines_follow_the_rows (boot_founded ⟨"Root", ⟨2, 8⟩, .standard⟩ .empty rfl rfl)
    (founded ⟨"Root", ⟨2, 8⟩, .standard⟩ .empty).registry
    [.call (.createFolder ⟨"Assets", none, none⟩),
      .call (.createFolder ⟨"Servers", none, some ⟨Supply.counted 2⟩⟩)]
    ⟨Supply.counted 1⟩ 1 f row (by decide)

end System

end Perimeter
