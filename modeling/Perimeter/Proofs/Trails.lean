import Mathlib.Data.List.Chain
import Perimeter.Proofs.Walks

/-!
# Trails

The rows of a walk are read off its ids by a lookup that passes over ids without a row. On a tree
there are none to pass over: whatever lies above a folder or below it is there, so a walk has one
row for each of its ids, in their order (`RowsOf`). In particular the breadcrumbs of a folder are
the whole way from the root to it (`Trail`).
-/

namespace Perimeter

namespace Hierarchy

variable {h : Hierarchy} {id : FolderId} {f : Folder} {ids chain : List FolderId}
  {rows above : List Folder}

/-- The rows of the ids, one for each of them and in their order. -/
def RowsOf (h : Hierarchy) (ids : List FolderId) (rows : List Folder) : Prop :=
  rows.map some = ids.map h.get?

/-- The lookups lose nothing where every id has a row. -/
theorem rowsOf_foldersOf (present : ∀ a ∈ ids, h.contains a = true) :
    h.RowsOf ids (h.foldersOf ids) := by
  induction ids with
  | nil => rfl
  | cons a ids ih =>
    obtain ⟨here, rest⟩ := List.forall_mem_cons.mp present
    obtain ⟨g, row⟩ := contains_iff.mp here
    have later : (h.foldersOf ids).map some = ids.map h.get? := ih rest
    rw [foldersOf, List.filterMap_cons_some row, ← foldersOf, RowsOf, List.map_cons, List.map_cons,
      row, later]

namespace RowsOf

theorem cons (here : h.get? id = some f) (rest : h.RowsOf ids rows) :
    h.RowsOf (id :: ids) (f :: rows) := by
  rw [RowsOf, List.map_cons, List.map_cons, here, rest]

/-- Where rows lie under their own ids, the ids can be read off the rows again. -/
theorem ids_eq (of : h.RowsOf ids rows) (keyed : ∀ a g, h.get? a = some g → g.id = a) :
    rows.map Folder.id = ids := by
  induction ids generalizing rows with
  | nil =>
    have none : rows = [] := List.map_eq_nil_iff.mp of
    rw [none]
    rfl
  | cons a ids ih =>
    obtain ⟨g, rest, rfl, row, later⟩ := List.map_eq_cons_iff.mp of
    rw [List.map_cons, keyed a g row.symm, ih later]

theorem get?_of_mem (of : h.RowsOf ids rows) (keyed : ∀ a g, h.get? a = some g → g.id = a)
    (mem : f ∈ rows) : h.get? f.id = some f := by
  have listed : some f ∈ ids.map h.get? := of ▸ List.mem_map_of_mem mem
  obtain ⟨a, _, row⟩ := List.mem_map.mp listed
  rw [keyed a f row, row]

end RowsOf

/-- The rows on the way from the root to a folder, both included. -/
structure Trail (h : Hierarchy) (id : FolderId) (trail : List Folder) : Prop where
  first : trail.head? = h.rootFolder?
  last : trail.getLast? = h.get? id
  /-- Each is the parent of the next. -/
  links : trail.IsChain fun f g => g.parent = some f.id
  /-- No folder is met twice. -/
  distinct : (trail.map Folder.id).Nodup
  stored : ∀ f ∈ trail, h.get? f.id = some f

/-- The way up from a folder ends at the root, with the folder itself as its first step. -/
theorem WayUp.getLast?_cons (way : h.WayUp id chain) : (id :: chain).getLast? = some h.root := by
  cases chain with
  | nil => rw [way.top.mp rfl, List.getLast?_singleton]
  | cons a rest =>
    have final := List.getLast?_eq_some_getLast (List.cons_ne_nil a rest)
    rw [List.getLast?_cons_cons, final, way.last _ final]

namespace IsTree

theorem trail (tree : h.IsTree) (row : h.get? id = some f) (way : h.WayUp id chain)
    (of : h.RowsOf chain above) : h.Trail id (f :: above).reverse := by
  have whole : h.RowsOf (id :: chain) (f :: above) := of.cons row
  have ids := whole.ids_eq tree.keyed
  constructor
  · have ends := congrArg List.getLast? whole
    rw [List.getLast?_map, List.getLast?_map, way.getLast?_cons] at ends
    rw [List.head?_reverse]
    obtain ⟨root, top, _⟩ := tree.rooted
    rw [Option.map_some, show h.get? h.root = some root from top] at ends
    obtain ⟨g, final, same⟩ := Option.map_eq_some_iff.mp ends
    rw [final, same, top]
  · rw [List.getLast?_reverse, List.head?_cons, row]
  · have links := way.links
    rw [← ids, List.isChain_map] at links
    rw [List.isChain_reverse]
    refine links.imp_of_mem_imp ?_
    intro g p stored _ link
    rwa [parent?_of_get? (whole.get?_of_mem tree.keyed stored)] at link
  · rw [List.map_reverse, List.nodup_reverse, ids]
    exact way.distinct
  · intro g mem
    exact whole.get?_of_mem tree.keyed (List.mem_reverse.mp mem)

end IsTree

/-- What the views of a folder show: the rows above it, the rows below it, and the breadcrumbs. -/
structure Views (h : Hierarchy) (id : FolderId) (f : Folder) (above below trail : List Folder) :
    Prop where
  ancestors : ∃ chain, h.ancestors id = .ok chain ∧ h.ancestorFolders id = .ok above ∧
    h.RowsOf chain above
  descendants : ∃ found, h.descendants id = .ok found ∧ h.descendantFolders id = .ok below ∧
    h.RowsOf found below
  breadcrumbs : h.breadcrumbs id = .ok trail ∧ trail = (f :: above).reverse
  trail : h.Trail id trail

theorem IsTree.views (tree : h.IsTree) (row : h.get? id = some f) :
    ∃ above below trail, h.Views id f above below trail := by
  have present := contains_of_get? row
  obtain ⟨chain, climbed, _, mem⟩ := (tree.ends id).ancestors_eq present
  have above : h.RowsOf chain (h.foldersOf chain) := by
    apply rowsOf_foldersOf
    intro a met
    obtain ⟨n, reached⟩ := (mem a).mp met
    exact tree.contains_of_up present reached
  have below : h.RowsOf (h.below id) (h.foldersOf (h.below id)) := by
    apply rowsOf_foldersOf
    intro x found
    exact (tree.toLinked.above_of_mem_below found).contains
  have descended := descendants_eq present
  refine ⟨h.foldersOf chain, h.foldersOf (h.below id), (f :: h.foldersOf chain).reverse,
    ⟨chain, climbed, ?_, above⟩, ⟨h.below id, descended, ?_, below⟩, ⟨?_, rfl⟩,
    tree.trail row (tree.wayUp present climbed) above⟩
  · rw [ancestorFolders, climbed]
    rfl
  · rw [descendantFolders, descended]
    rfl
  · rw [Hierarchy.breadcrumbs, require_eq_ok.mpr row, climbed]
    rfl

end Hierarchy

namespace System

/-- In every state of a run from a boot, and for every folder, the rows above it and below it are
those of the two walks, one for each id, and the breadcrumbs lead from the root to it. -/
theorem views_lose_no_folder {terms : Terms} {storage storage' : Storage} {h : Hierarchy}
    (booted : bootHierarchy terms.rootName storage = (.ok h, storage')) (r : Registry)
    (events : List Event) (id : FolderId) (f : Folder) :
    let s := (⟨terms, h, r, storage'⟩ : System).afterAll events
    s.hierarchy.get? id = some f →
      ∃ above below trail, s.hierarchy.Views id f above below trail := by
  intro s row
  exact ((grounded_of_boot booted terms r).1.afterAll events).1.tree.views row

theorem views_of_founded_servers :
    let s := (founded ⟨"Root", ⟨2, 8⟩, .standard⟩ .empty).afterAll
      [.call (.createFolder ⟨"Assets", none, none⟩),
        .call (.createFolder ⟨"Servers", none, some ⟨Supply.counted 2⟩⟩)]
    ∃ f above below trail, s.hierarchy.get? ⟨Supply.counted 3⟩ = some f ∧
      s.hierarchy.Views ⟨Supply.counted 3⟩ f above below trail ∧
        trail.map Folder.name = ["Root", "Assets", "Servers"] := by
  intro s
  have present : s.hierarchy.contains ⟨Supply.counted 3⟩ = true := by decide +kernel
  obtain ⟨f, row⟩ := Hierarchy.contains_iff.mp present
  obtain ⟨above, below, trail, views⟩ : ∃ above below trail,
      s.hierarchy.Views ⟨Supply.counted 3⟩ f above below trail :=
    views_lose_no_folder (boot_founded ⟨"Root", ⟨2, 8⟩, .standard⟩ .empty rfl rfl)
      (founded ⟨"Root", ⟨2, 8⟩, .standard⟩ .empty).registry
      [.call (.createFolder ⟨"Assets", none, none⟩),
        .call (.createFolder ⟨"Servers", none, some ⟨Supply.counted 2⟩⟩)]
      ⟨Supply.counted 3⟩ f row
  have named : (s.hierarchy.breadcrumbs ⟨Supply.counted 3⟩).map (List.map Folder.name) =
      .ok ["Root", "Assets", "Servers"] := by
    decide +kernel
  rw [views.breadcrumbs.1] at named
  exact ⟨f, above, below, trail, row, views, Except.ok.inj named⟩

end System

end Perimeter
