import Perimeter.Proofs.Removals

/-!
# Undoing

A move is undone by a move back, and a creation by a removal. The way back is open, since a folder
that goes below another takes along only what lies below itself, and its old parent does not
(`Relocated.under_cases`). What it leads to is the old hierarchy, since a hierarchy is known by its
root and its rows: the sets of children, the empty ones left out, follow from these
(`Linked.ext`). Only the time of change of a folder that moved stays another.
-/

namespace Perimeter

namespace Hierarchy

variable {h h' : Hierarchy} {id p q x a : FolderId} {f : Folder}

/-! ## Rows and times -/

/-- The parent links determine the sets of children, and the rows the parent links. -/
theorem Linked.ext (linked : h.Linked) (linked' : h'.Linked) (root : h.root = h'.root)
    (rows : ∀ x, h.get? x = h'.get? x) : h = h' := by
  have kids : h.kids = h'.kids := by
    apply linked.kids_ext linked'
    intro x
    rw [parent?, rows]
    rfl
  have rows : h.rows = h'.rows := Std.ExtTreeMap.ext_getElem? fun x => rows x
  cases h
  cases h'
  cases root
  cases kids
  cases rows
  rfl

/-- The hierarchy with another time of change in one of its rows. -/
def touched (h : Hierarchy) (id : FolderId) (now : Instant) : Hierarchy :=
  { h with rows := h.rows.modify id fun f => { f with updatedAt := now } }

theorem get?_touched (h : Hierarchy) (id : FolderId) (now : Instant) (x : FolderId) :
    (h.touched id now).get? x =
      if id = x then (h.get? id).map fun f => { f with updatedAt := now } else h.get? x := by
  simp only [get?, touched, Std.ExtTreeMap.getElem?_modify, Std.LawfulEqCmp.compare_eq_iff_eq]

theorem parent?_touched (h : Hierarchy) (id : FolderId) (now : Instant) (x : FolderId) :
    (h.touched id now).parent? x = h.parent? x := by
  rw [parent?, get?_touched, parent?]
  split
  · next same =>
    rw [← same]
    cases h.get? id <;> rfl
  · rfl

theorem Linked.touched (linked : h.Linked) (id : FolderId) (now : Instant) :
    (h.touched id now).Linked where
  child_iff p c := by
    rw [parent?_touched]
    exact linked.child_iff p c
  inhabited := linked.inhabited

/-! ## Which moves go through -/

/-- The first folder is the second, or lies below it. -/
def Under (h : Hierarchy) (x a : FolderId) : Prop := ∃ n, h.up n x = some a

theorem under_iff : h.Under x a ↔ x = a ∨ h.Above a x := by
  constructor
  · rintro ⟨n, reached⟩
    cases n with
    | zero => exact Or.inl (Option.some.inj reached)
    | succ n => exact Or.inr ⟨n, reached⟩
  · rintro (rfl | ⟨n, reached⟩)
    · exact ⟨0, rfl⟩
    · exact ⟨n + 1, reached⟩

theorem Under.refl (h : Hierarchy) (x : FolderId) : h.Under x x := ⟨0, rfl⟩

theorem Under.trans {x y z : FolderId} (near : h.Under x y) (far : h.Under y z) :
    h.Under x z := by
  obtain ⟨m, reached⟩ := near
  obtain ⟨n, goes⟩ := far
  refine ⟨m + n, ?_⟩
  rw [up_add, reached]
  exact goes

theorem Under.of_parent (link : h.parent? x = some p) (under : h.Under p a) : h.Under x a := by
  obtain ⟨n, reached⟩ := under
  refine ⟨n + 1, ?_⟩
  rw [up_succ, link]
  exact reached

theorem Ends.not_under_of_parent (ends : h.Ends id) (link : h.parent? id = some p) :
    ¬ h.Under p id := by
  rintro ⟨n, reached⟩
  apply ends.not_above_self
  refine ⟨n, ?_⟩
  rw [up_succ, link]
  exact reached

/-- The folder may go below `q`, or is there already. -/
structure MayMove (h : Hierarchy) (id q : FolderId) : Prop where
  present : h.contains id = true
  inside : id ≠ h.root
  target : h.contains q = true
  clear : ¬ h.Under q id

theorem IsTree.not_under_iff (tree : h.IsTree) :
    ¬ h.Under q id ↔ ¬ (q = id ∨ q ∈ h.below id) := by
  rw [under_iff, tree.toLinked.mem_below (tree.ends q)]

theorem IsTree.mayMove_of_moveRule (tree : h.IsTree) {m : Move}
    (passed : h.moveRule id q = .ok m) : h.MayMove id q := by
  unfold moveRule at passed
  split_ifs at passed with absent top missing there above
  · rw [Bool.not_eq_false] at absent missing
    exact ⟨absent, top, missing, (tree.ends id).not_under_of_parent there⟩
  · rw [Bool.not_eq_false] at absent missing
    exact ⟨absent, top, missing, tree.not_under_iff.mpr above⟩

theorem IsTree.moveRule_of_mayMove (tree : h.IsTree) (may : h.MayMove id q) :
    h.moveRule id q = .ok (if h.parent? id = some q then .unchanged else .to q) := by
  obtain ⟨present, inside, target, clear⟩ := may
  rw [tree.not_under_iff] at clear
  simp only [moveRule, present, target, inside, clear, Bool.true_eq_false, if_false]
  split <;> rfl

/-! ## What a move does -/

/-- A folder that is there already moves to where it is. -/
theorem relocated_rest (linked : h.Linked) (row : h.get? id = some f)
    (there : h.parent? id = some q) : h.Relocated id q f h where
  root := rfl
  moved := row
  same := by
    refine ⟨f, row, ?_⟩
    rw [← there, parent?_of_get? row]
  others _ _ := rfl
  children p x := by
    split
    · next own =>
      rw [linked.child_iff, own, there, Option.some.injEq, eq_comm]
    · rfl

namespace Relocated

/-- A move changes the row of the folder that moves, and no other. -/
theorem get?_eq (moved : h.Relocated id q f h') (x : FolderId) :
    h'.get? x =
      if id = x then
        (h.get? id).map fun old => { old with parent := some q, updatedAt := f.updatedAt }
      else h.get? x := by
  split
  · next own =>
    obtain ⟨old, row, same⟩ := moved.same
    rw [← own, moved.moved, row, Option.map_some, ← same]
  · next other => exact moved.others x (Ne.symm other)

/-- What a folder lies below after a move it lay below before, unless the move took it there. -/
theorem under_cases (moved : h.Relocated id q f h') (under : h'.Under x a) :
    h.Under x a ∨ h.Under x id ∧ h.Under q a := by
  obtain ⟨n, reached⟩ := under
  -- along the new chain: it is the old one up to `id`, and goes on from `q`
  induction n generalizing x with
  | zero => exact Or.inl ⟨0, reached⟩
  | succ n ih =>
    obtain ⟨y, link, rest⟩ := Option.bind_eq_some_iff.mp reached
    by_cases own : x = id
    · rw [own, moved.parent?_self, Option.some.injEq] at link
      rw [own]
      obtain stays | ⟨_, goes⟩ := ih (link ▸ rest)
      · exact Or.inr ⟨.refl h id, stays⟩
      · exact Or.inr ⟨.refl h id, goes⟩
    · rw [moved.parent?_of_ne own] at link
      obtain stays | ⟨taken, goes⟩ := ih rest
      · exact Or.inl (stays.of_parent link)
      · exact Or.inr ⟨taken.of_parent link, goes⟩

/-- The way back to the old parent is open. -/
theorem mayMove_back (moved : h.Relocated id q f h') (tree : h.IsTree)
    (link : h.parent? id = some p) : h'.MayMove id p where
  present := contains_of_get? moved.moved
  inside := by
    rw [moved.root]
    rintro rfl
    rw [tree.parent?_root] at link
    cases link
  target := by
    rw [moved.contains_eq]
    exact tree.contains_parent link
  clear := by
    intro under
    apply (tree.ends id).not_under_of_parent link
    obtain before | ⟨before, _⟩ := moved.under_cases under
    · exact before
    · exact before

/-- And it leads to the old hierarchy. -/
theorem back {h₁ h₂ : Hierarchy} {g : Folder} (there : h.Relocated id q f h₁)
    (back : h₁.Relocated id p g h₂) (linked : h.Linked) (linked₂ : h₂.Linked)
    (link : h.parent? id = some p) : h₂ = h.touched id g.updatedAt := by
  apply linked₂.ext (linked.touched id g.updatedAt) (back.root.trans there.root)
  intro x
  rw [get?_touched, back.get?_eq, there.get?_eq, there.get?_eq, if_pos rfl]
  split
  · next own =>
    obtain ⟨old, row, _⟩ := there.same
    have parent : old.parent = some p := (parent?_of_get? row).symm.trans link
    rw [row, Option.map_some, Option.map_some, Option.map_some, ← parent]
  · rfl

end Relocated

/-! ## Creations -/

/-- A folder that was just added below another one has none below itself. -/
theorem IsTree.checkRemoval_insert (tree : h.IsTree) (grown : (h.insert f).IsTree)
    (fresh : h.get? f.id = none) (link : f.parent = some p) (present : h.contains p = true) :
    (h.insert f).checkRemoval f.id = .ok () := by
  have absent : h.contains f.id = false := by rw [contains, fresh, Option.isSome_none]
  have lookup := parent?_of_rows_insert (rows_insert h f)
  rw [grown.checkRemoval_iff]
  refine ⟨?_, ?_, ?_⟩
  · rw [contains, get?_of_rows_insert (rows_insert h f), if_pos rfl]
    rfl
  · rw [root_insert]
    intro top
    rw [top, tree.contains_root] at absent
    cases absent
  · intro x below
    rw [lookup] at below
    split at below
    · rw [link] at below
      cases below
      exact Bool.noConfusion (absent.symm.trans present)
    · exact Bool.noConfusion (absent.symm.trans (tree.contains_parent below))

/-- A folder that was added and has gone again leaves no trace. -/
theorem IsTree.remove_insert (tree : h.IsTree) (cut : ((h.insert f).remove f.id).IsTree)
    (fresh : h.get? f.id = none) : (h.insert f).remove f.id = h := by
  have lookup := get?_of_rows_insert (rows_insert h f)
  have added : (h.insert f).contains f.id = true := by
    rw [contains, lookup, if_pos rfl]
    rfl
  apply cut.toLinked.ext tree.toLinked ((root_remove _ f.id).trans (root_insert h f))
  intro x
  rw [get?_remove added, lookup]
  by_cases own : x = f.id
  · rw [if_pos own, own, fresh]
  · rw [if_neg own, if_neg (Ne.symm own)]

end Hierarchy

namespace System

variable {s s' : System} {id p q : FolderId} {f : Folder}

namespace Grounded

theorem grounded_of_moved (grounded : s.Grounded) (answered : s.moveFolder id q = (.ok f, s')) :
    s'.Grounded := by
  have after := (grounded.afterAll [.call (.moveFolder id q)]).1
  change (s.moveFolder id q).2.Grounded at after
  rwa [answered] at after

/-- A move that answers has moved a folder that may move, if only to where it is. -/
theorem relocated (grounded : s.Grounded) (answered : s.moveFolder id q = (.ok f, s')) :
    s.hierarchy.MayMove id q ∧ s.hierarchy.Relocated id q f s'.hierarchy := by
  have tree := grounded.tree
  have decided := grounded.moveDecided id q
  cases rule : s.hierarchy.moveRule id q with
  | error k =>
    obtain ⟨e, refused, _⟩ := decided.refused k rule
    cases answered.symm.trans refused
  | ok m =>
    have may := tree.mayMove_of_moveRule rule
    refine ⟨may, ?_⟩
    by_cases there : s.hierarchy.parent? id = some q
    · have kept := tree.moveRule_of_mayMove may
      rw [if_pos there] at kept
      obtain ⟨g, row, rest⟩ := decided.kept kept
      cases answered.symm.trans rest
      exact Hierarchy.relocated_rest tree.toLinked row there
    · exact (grounded.relocated_of_moved answered there).1

/-- A folder that may move does so, if the storage lets it. -/
theorem exists_moved (grounded : s.Grounded) (may : s.hierarchy.MayMove id q)
    (accepts : s.storage.Accepts) : ∃ f s', s.moveFolder id q = (.ok f, s') := by
  have decided := grounded.moveDecided id q
  have rule := grounded.tree.moveRule_of_mayMove may
  split at rule
  · obtain ⟨f, _, rest⟩ := decided.kept rule
    exact ⟨f, s, rest⟩
  · obtain ⟨f, s', answered, _⟩ := decided.moved rule accepts
    exact ⟨f, s', answered⟩

/-- The move back goes through, and leaves only another time of change. -/
theorem move_undone (grounded : s.Grounded) (link : s.hierarchy.parent? id = some p)
    (answered : s.moveFolder id q = (.ok f, s')) (accepts : s'.storage.Accepts) :
    ∃ g s₂, s'.moveFolder id p = (.ok g, s₂) ∧
      s₂.hierarchy = s.hierarchy.touched id g.updatedAt := by
  have grounded' := grounded.grounded_of_moved answered
  have there := (grounded.relocated answered).2
  obtain ⟨g, s₂, returned⟩ :=
    grounded'.exists_moved (there.mayMove_back grounded.tree link) accepts
  have back := (grounded'.relocated returned).2
  have grounded₂ := grounded'.grounded_of_moved returned
  exact ⟨g, s₂, returned,
    there.back back grounded.tree.toLinked grounded₂.tree.toLinked link⟩

end Grounded

/-- Nothing is left of a folder: the system is as it was, but for its supply and the number of
the next arrival in the table of folders. -/
structure Restored (s s' : System) : Prop where
  hierarchy : s'.hierarchy = s.hierarchy
  registry : s'.registry = s.registry
  folders : s'.storage.folders.rows = s.storage.folders.rows
  tables : s'.storage =
    { s.storage with folders := s'.storage.folders, supply := s'.storage.supply }

/-- A folder that was just created can be removed, and nothing is left of it. -/
theorem Grounded.creation_undone (grounded : s.Grounded) {d : NewFolder}
    (created : s.createFolder d = (.ok f, s')) (accepts : s'.storage.Accepts) :
    ∃ s₂, s'.removeFolder f.id = (.ok f, s₂) ∧ s.Restored s₂ := by
  have wrote := (created ▸ createFolder_settles s d).answer
  have tree := grounded.tree
  have grounded' := (grounded.wrote wrote).1
  obtain ⟨⟨_, ⟨place, above, placed, link⟩, _⟩, tables, supply, entered, rfl⟩ := wrote
  obtain ⟨t, stored, rfl⟩ := map_eq_ok.mp entered
  have fresh : s.hierarchy.get? f.id = none := by
    rw [Hierarchy.get?_of_rows grounded.rows]
    exact (Table.contents_of_create stored).1
  have passed := tree.checkRemoval_insert grounded'.tree fresh link
    (tree.contains_of_placeFor placed)
  obtain ⟨g, s₂, removed⟩ := removeFolder_of_passed passed accepts
  obtain ⟨row, gone⟩ := (removed ▸ removeFolder_settles _ f.id).answer
  have cut := (grounded'.wrote gone).1.tree
  obtain ⟨_, tables, supply, deleted, rfl⟩ := gone
  cases deleted
  obtain rfl : g = f := Option.some.inj (row.symm.trans (get?_of_created created))
  have same := tree.remove_insert cut fresh
  exact ⟨_, removed, same, rfl, Table.rows_delete_of_create stored, rfl⟩

/-- In every state of a run from a boot, a move is undone by the move back to the old parent, and
a creation by the removal of the new folder. -/
theorem moves_and_creations_come_undone {terms : Terms} {storage storage' : Storage}
    {h : Hierarchy} (booted : bootHierarchy terms.rootName storage = (.ok h, storage'))
    (r : Registry) (events : List Event) :
    let s := (⟨terms, h, r, storage'⟩ : System).afterAll events
    (∀ id p q f s₁, s.hierarchy.parent? id = some p → s.moveFolder id q = (.ok f, s₁) →
      s₁.storage.Accepts → ∃ g s₂, s₁.moveFolder id p = (.ok g, s₂) ∧
        s₂.hierarchy = s.hierarchy.touched id g.updatedAt) ∧
    ∀ d f s₁, s.createFolder d = (.ok f, s₁) → s₁.storage.Accepts →
      ∃ s₂, s₁.removeFolder f.id = (.ok f, s₂) ∧ s.Restored s₂ := by
  intro s
  have grounded := ((grounded_of_boot booted terms r).1.afterAll events).1
  exact ⟨fun id p q f s₁ => grounded.move_undone, fun d f s₁ => grounded.creation_undone⟩

/-- The only child of a folder goes away and comes back, and a folder below it comes and goes. -/
theorem founded_servers_come_back :
    let s := (founded ⟨"Root", ⟨2, 8⟩, .standard⟩ .empty).afterAll
      [.call (.createFolder ⟨"Assets", none, none⟩),
        .call (.createFolder ⟨"Servers", none, some ⟨Supply.counted 2⟩⟩)]
    (∃ f s₁ g s₂, s.moveFolder ⟨Supply.counted 3⟩ ⟨Supply.counted 1⟩ = (.ok f, s₁) ∧
        s₁.moveFolder ⟨Supply.counted 3⟩ ⟨Supply.counted 2⟩ = (.ok g, s₂) ∧
          s₂.hierarchy = s.hierarchy.touched ⟨Supply.counted 3⟩ g.updatedAt) ∧
      ∃ f s₁ s₂, s.createFolder ⟨"Racks", none, some ⟨Supply.counted 3⟩⟩ = (.ok f, s₁) ∧
        s₁.removeFolder f.id = (.ok f, s₂) ∧ s.Restored s₂ := by
  intro s
  obtain ⟨moves, creations⟩ := moves_and_creations_come_undone
    (boot_founded ⟨"Root", ⟨2, 8⟩, .standard⟩ .empty rfl rfl)
    (founded ⟨"Root", ⟨2, 8⟩, .standard⟩ .empty).registry
    [.call (.createFolder ⟨"Assets", none, none⟩),
      .call (.createFolder ⟨"Servers", none, some ⟨Supply.counted 2⟩⟩)]
  constructor
  · obtain ⟨f, moved⟩ := exists_answer
      (s.moveFolder ⟨Supply.counted 3⟩ ⟨Supply.counted 1⟩) (by decide +kernel)
    have link : s.hierarchy.parent? ⟨Supply.counted 3⟩ = some ⟨Supply.counted 2⟩ := by
      decide +kernel
    obtain ⟨g, s₂, back, same⟩ := moves _ _ _ _ _ link moved rfl
    exact ⟨f, _, g, s₂, moved, back, same⟩
  · obtain ⟨f, created⟩ := exists_answer
      (s.createFolder ⟨"Racks", none, some ⟨Supply.counted 3⟩⟩) (by decide +kernel)
    obtain ⟨s₂, removed, restored⟩ := creations _ _ _ created rfl
    exact ⟨f, _, s₂, created, removed, restored⟩

end System

end Perimeter
