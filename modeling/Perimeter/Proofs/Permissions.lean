import Perimeter.Proofs.Runs

/-!
# Permission queries

There are two ways to ask for a permission: up the tree from one folder (`Grant.allow`), and
down the tree from the folders of the grants (`Grant.permitted`). On a tree both answer, and
both look for a grant that `Reaches` a folder (`allow_iff`, `mem_permitted`), so they agree in
every state of a run (`queries_agree`).
-/

namespace Perimeter

namespace Grant

variable {h : Hierarchy} {g : Grant} {grants : List Grant} {codename : String} {f : FolderId}

/-- A grant reaches its own folder, and if it is recursive every folder below. -/
def Reaches (h : Hierarchy) (g : Grant) (f : FolderId) : Prop :=
  g.folder = f ∨ g.recursive = true ∧ h.Above g.folder f

/-- What a grant reaches exists only if the folder of the grant does. -/
theorem Reaches.contains_folder (tree : h.IsTree) (reaches : g.Reaches h f)
    (present : h.contains f = true) : h.contains g.folder = true := by
  obtain rfl | ⟨_, n, up⟩ := reaches
  · exact present
  · exact tree.contains_of_up present up

theorem Reaches.contains (reaches : g.Reaches h f)
    (present : h.contains g.folder = true) : h.contains f = true := by
  obtain rfl | ⟨_, n, up⟩ := reaches
  · exact present
  · exact Hierarchy.Above.contains ⟨n, up⟩

/-! ## Asking upwards -/

/-- For a folder of a tree the question is answered, by any grant that reaches the folder. -/
theorem allow_iff (tree : h.IsTree) (grants : List Grant) (codename : String)
    (present : h.contains f = true) :
    ∃ b, allow h grants codename f = .ok b ∧
      (b = true ↔ ∃ g ∈ grants, g.carries codename = true ∧ g.Reaches h f) := by
  unfold allow
  rw [if_pos present]
  dsimp only
  split
  · next own =>
    refine ⟨true, rfl, ?_⟩
    obtain ⟨g, carried, here⟩ := List.any_eq_true.mp own
    obtain ⟨mem, carries⟩ := List.mem_filter.mp carried
    simp only [true_iff]
    exact ⟨g, mem, carries, Or.inl (of_decide_eq_true here)⟩
  · next foreign =>
    -- no grant lies on the folder itself, so one that reaches it comes from above
    have above : ∀ g ∈ grants, g.carries codename = true → g.Reaches h f →
        g.recursive = true ∧ h.Above g.folder f := by
      intro g mem carries reaches
      refine reaches.resolve_left fun here => foreign ?_
      exact List.any_eq_true.mpr ⟨g, List.mem_filter.mpr ⟨mem, carries⟩, decide_eq_true here⟩
    split
    · obtain ⟨chain, found, _, mem_chain⟩ := (tree.ends f).ancestors_eq present
      refine ⟨_, by rw [found]; rfl, ?_⟩
      simp only [List.any_eq_true, Bool.and_eq_true, List.contains_iff_mem, List.mem_filter,
        mem_chain]
      constructor
      · rintro ⟨g, ⟨mem, carries⟩, recursive, beyond⟩
        exact ⟨g, mem, carries, Or.inr ⟨recursive, beyond⟩⟩
      · rintro ⟨g, mem, carries, reaches⟩
        exact ⟨g, ⟨mem, carries⟩, above g mem carries reaches⟩
    · next flat =>
      refine ⟨false, rfl, ?_⟩
      simp only [Bool.false_eq_true, false_iff]
      rintro ⟨g, mem, carries, reaches⟩
      apply flat
      exact List.any_eq_true.mpr
        ⟨g, List.mem_filter.mpr ⟨mem, carries⟩, (above g mem carries reaches).1⟩

/-! ## Asking downwards -/

theorem reach_iff (tree : h.IsTree) (found : IdSet .folder) (g : Grant) :
    ∃ set, reach h found g = .ok set ∧
      ∀ x, x ∈ set ↔ x ∈ found ∨ h.contains g.folder = true ∧ g.Reaches h x := by
  unfold reach
  split
  · next present =>
    obtain ⟨row, own⟩ := Hierarchy.contains_iff.mp present
    split
    · next recursive =>
      have below : h.descendants g.folder = .ok (h.below g.folder) := by
        rw [Hierarchy.descendants, Hierarchy.require_eq_ok.mpr own]
        rfl
      refine ⟨_, by rw [below]; rfl, ?_⟩
      intro x
      rw [Std.ExtTreeSet.mem_insertMany_list, List.contains_iff_mem,
        tree.toLinked.mem_below (tree.ends x), mem_insert_iff]
      simp only [present, true_and, Reaches, recursive]
      rw [or_comm (a := x = g.folder), or_assoc, eq_comm]
    · next flat =>
      refine ⟨_, rfl, ?_⟩
      intro x
      rw [mem_insert_iff]
      rw [Bool.not_eq_true] at flat
      simp only [present, true_and, Reaches, flat, Bool.false_eq_true, false_and, or_false]
      rw [or_comm, eq_comm]
  · next absent => exact ⟨found, rfl, fun x => by simp [absent]⟩

theorem foldlM_reach (tree : h.IsTree) (grants : List Grant) (found : IdSet .folder) :
    ∃ set, grants.foldlM (reach h) found = .ok set ∧
      ∀ x, x ∈ set ↔ x ∈ found ∨ ∃ g ∈ grants, h.contains g.folder = true ∧ g.Reaches h x := by
  induction grants generalizing found with
  | nil => exact ⟨found, rfl, fun x => by simp⟩
  | cons g grants ih =>
    obtain ⟨next, reached, mem_next⟩ := reach_iff tree found g
    obtain ⟨set, rest, mem_set⟩ := ih next
    refine ⟨set, ?_, ?_⟩
    · rw [List.foldlM_cons, reached]
      exact rest
    · intro x
      rw [mem_set, mem_next, List.exists_mem_cons_iff, or_assoc]

/-- On a tree the folders with a permission are those that some grant reaches and that exist. -/
theorem mem_permitted (tree : h.IsTree) (grants : List Grant) (codename : String) :
    ∃ set, permitted h grants codename = .ok set ∧
      ∀ x, x ∈ set ↔ h.contains x = true ∧
        ∃ g ∈ grants, g.carries codename = true ∧ g.Reaches h x := by
  obtain ⟨set, found, mem_set⟩ := foldlM_reach tree (grants.filter (carries codename)) ∅
  refine ⟨set, found, ?_⟩
  intro x
  simp only [mem_set, Std.ExtTreeSet.not_mem_empty, false_or, List.mem_filter]
  constructor
  · rintro ⟨g, ⟨mem, carries⟩, present, reaches⟩
    exact ⟨reaches.contains present, g, mem, carries, reaches⟩
  · rintro ⟨present, g, mem, carries, reaches⟩
    exact ⟨g, ⟨mem, carries⟩, reaches.contains_folder tree present, reaches⟩

end Grant

/-! ## Both ways agree -/

/-- Both queries answer, the set holds folders that exist, and a folder is allowed exactly if it
is in the set. -/
def QueriesAgree (h : Hierarchy) (allow : FolderId → Except Fault Bool)
    (permitted : Except Fault (IdSet .folder)) : Prop :=
  ∃ set, permitted = .ok set ∧ (∀ x ∈ set, h.contains x = true) ∧
    ∀ f, h.contains f = true → ∃ b, allow f = .ok b ∧ (b = true ↔ f ∈ set)

theorem Hierarchy.IsTree.queries_agree {h : Hierarchy} (tree : h.IsTree) (grants : List Grant)
    (codename : String) :
    QueriesAgree h (Grant.allow h grants codename) (Grant.permitted h grants codename) := by
  obtain ⟨set, found, mem_set⟩ := Grant.mem_permitted tree grants codename
  refine ⟨set, found, fun x mem => ((mem_set x).mp mem).1, ?_⟩
  intro f present
  obtain ⟨b, answered, allowed⟩ := Grant.allow_iff tree grants codename present
  refine ⟨b, answered, allowed.trans ?_⟩
  rw [mem_set, and_iff_right present]

namespace System

theorem queries_agree_of_user {s : System} (tree : s.hierarchy.IsTree) {user : UserId} {u : User}
    (stored : s.registry.users[user]? = some u) (codename : String) :
    QueriesAgree s.hierarchy (s.hasPermission user codename)
      (s.permittedFolders user codename) := by
  have known : s.requireUser user = .ok u := requireUser_eq_ok.mpr stored
  have agree := tree.queries_agree (s.registry.grantsOf user) codename
  unfold permittedFolders
  unfold hasPermission
  rw [known]
  exact agree

/-- In every state of a run from a boot, over any registry, the two queries agree for any list
of grants, also of grants on folders that are gone, and for every stored user. -/
theorem permission_queries_agree {terms : Terms} {storage storage' : Storage} {h : Hierarchy}
    (booted : bootHierarchy terms.rootName storage = (.ok h, storage')) (r : Registry)
    (events : List Event) (codename : String) :
    let s := (⟨terms, h, r, storage'⟩ : System).afterAll events
    (∀ grants, QueriesAgree s.hierarchy (Grant.allow s.hierarchy grants codename)
        (Grant.permitted s.hierarchy grants codename)) ∧
      ∀ user u, s.registry.users[user]? = some u →
        QueriesAgree s.hierarchy (s.hasPermission user codename)
          (s.permittedFolders user codename) := by
  intro s
  have grounded := (grounded_of_boot booted terms r).1
  have tree := (grounded.afterAll events).1.tree
  refine ⟨fun grants => tree.queries_agree grants codename, ?_⟩
  intro user u stored
  exact queries_agree_of_user tree stored codename

theorem queries_agree_on_founded :
    let s := (founded ⟨"Root", ⟨2, 8⟩, .standard⟩ .empty).afterAll
      [.call (.createFolder ⟨"Assets", none, none⟩)]
    QueriesAgree s.hierarchy
      (Grant.allow s.hierarchy [⟨⟨Supply.counted 1⟩, true, ["view_asset"]⟩] "view_asset")
      (Grant.permitted s.hierarchy [⟨⟨Supply.counted 1⟩, true, ["view_asset"]⟩] "view_asset") := by
  intro s
  have booted := boot_founded ⟨"Root", ⟨2, 8⟩, .standard⟩ .empty rfl rfl
  have agree := permission_queries_agree booted
    (founded ⟨"Root", ⟨2, 8⟩, .standard⟩ .empty).registry
    [.call (.createFolder ⟨"Assets", none, none⟩)] "view_asset"
  exact agree.1 _

end System

end Perimeter
