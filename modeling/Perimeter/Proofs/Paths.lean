import Perimeter.Proofs.Moves
import Perimeter.Proofs.Permissions
import Perimeter.Proofs.Walks

/-!
# Paths and moves

What a move does to the paths of the other folders. The path of a folder below the one that moved
is the old one up to there and goes on from the new place, the path of any other folder is the old
one, and what lies below the folder that moved lies below it as before (`Rerouted`). So a
permission on a folder outside that subtree is given or not given as before the move.
-/

namespace Perimeter

namespace Hierarchy

variable {h h' : Hierarchy} {id q : FolderId} {f : Folder}

theorem ancestors_of_absent (absent : h.contains id = false) :
    h.ancestors id = .error (.folderMissing id) := by
  rw [ancestors, require_of_absent absent]
  rfl

/-- A search asks only for the children of the folders in its queue and of those it finds. -/
theorem Drains.congr {queue found : List FolderId} (drains : h.Drains queue found)
    (same : ∀ a, a ∈ queue ∨ a ∈ found → h'.childIds a = h.childIds a) :
    h'.Drains queue found := by
  induction drains with
  | done => exact .done
  | @next a rest found _ ih =>
    have here : h'.childIds a = h.childIds a := same a (Or.inl List.mem_cons_self)
    rw [← here]
    apply Drains.next
    rw [here]
    apply ih
    intro b asked
    apply same
    simp only [List.mem_append, List.mem_cons] at asked ⊢
    tauto

/-- The folders between one and another that lies so many links above it. -/
theorem Ends.exists_between {x a : FolderId} {k : Nat} (ends : h.Ends x)
    (reached : h.up (k + 1) x = some a) :
    ∃ near : List FolderId, near.length = k ∧ a ∉ near ∧
      ∀ i < near.length, near[i]? = h.up (i + 1) x := by
  obtain ⟨chain, _, places, _⟩ := ends.ancestors_eq (Above.contains ⟨k, reached⟩)
  have count : (chain.take k).length = k := by
    have inside : k < chain.length := by
      by_contra short
      have past := places k
      rw [List.getElem?_eq_none (by omega), reached] at past
      cases past
    exact List.length_take_of_le (by omega)
  have first : ∀ i < (chain.take k).length, (chain.take k)[i]? = h.up (i + 1) x := by
    intro i lt
    rw [List.getElem?_take_of_lt (by omega), places]
  refine ⟨chain.take k, count, ?_, first⟩
  intro met
  obtain ⟨i, here⟩ := List.mem_iff_getElem?.mp met
  obtain ⟨lt, _⟩ := List.getElem?_eq_some_iff.mp here
  rw [first i lt] at here
  have := ends.up_injective here reached
  omega

/-- The way up from a folder to another, and on from there. -/
theorem IsTree.ancestors_through (tree : h.IsTree) {x a : FolderId} {near far : List FolderId}
    (present : h.contains x = true) (places : ∀ i < near.length, near[i]? = h.up (i + 1) x)
    (reached : h.up (near.length + 1) x = some a) (beyond : h.ancestors a = .ok far) :
    h.ancestors x = .ok (near ++ a :: far) := by
  have rest := ((tree.ends a).ancestors_eq_ok_iff (tree.contains_of_up present reached)).mp beyond
  rw [(tree.ends x).ancestors_eq_ok_iff present]
  intro i
  by_cases lt : i < near.length
  · rw [List.getElem?_append_left lt, places i lt]
  · obtain ⟨j, rfl⟩ := Nat.exists_eq_add_of_le (Nat.le_of_not_lt lt)
    rw [List.getElem?_append_right (by omega), Nat.add_sub_cancel_left, Nat.add_right_comm,
      up_add, reached]
    cases j with
    | zero => rfl
    | succ j => exact rest j

namespace Relocated

theorem parent?_of_ne (moved : h.Relocated id q f h') {x : FolderId} (other : x ≠ id) :
    h'.parent? x = h.parent? x := by
  rw [parent?, moved.others x other]
  rfl

theorem parent?_self (moved : h.Relocated id q f h') : h'.parent? id = some q := by
  obtain ⟨old, _, same⟩ := moved.same
  rw [parent?_of_get? moved.moved, same]

theorem contains_eq (moved : h.Relocated id q f h') (x : FolderId) :
    h'.contains x = h.contains x := by
  by_cases own : x = id
  · obtain ⟨old, row, _⟩ := moved.same
    rw [own, contains_of_get? moved.moved, contains_of_get? row]
  · rw [contains, moved.others x own]
    rfl

theorem up_outside (moved : h.Relocated id q f h') {x : FolderId} (other : x ≠ id)
    (apart : ¬ h.Above id x) (n : Nat) : h'.up n x = h.up n x :=
  up_congr (fun _ => moved.parent?_of_ne) other apart n

theorem ancestors_outside (moved : h.Relocated id q f h') (tree : h.IsTree) (tree' : h'.IsTree)
    {x : FolderId} (other : x ≠ id) (apart : ¬ h.Above id x) : h'.ancestors x = h.ancestors x := by
  cases present : h.contains x with
  | false =>
    have absent : h'.contains x = false := (moved.contains_eq x).trans present
    rw [ancestors_of_absent present, ancestors_of_absent absent]
  | true =>
    have present' : h'.contains x = true := (moved.contains_eq x).trans present
    obtain ⟨chain, answered, places, _⟩ := (tree.ends x).ancestors_eq present
    rw [answered, (tree'.ends x).ancestors_eq_ok_iff present']
    intro i
    rw [places, moved.up_outside other apart]

/-- From its new place the folder that moved has the new parent above it, and what lies above
that one. -/
theorem ancestors_self (moved : h.Relocated id q f h') (tree : h.IsTree) (tree' : h'.IsTree)
    (other : q ≠ id) (apart : ¬ h.Above id q) {above : List FolderId}
    (target : h.ancestors q = .ok above) : h'.ancestors id = .ok (q :: above) := by
  have present' := contains_of_get? moved.moved
  have present : h.contains q = true :=
    (moved.contains_eq q).symm.trans (tree'.contains_parent moved.parent?_self)
  have places := ((tree.ends q).ancestors_eq_ok_iff present).mp target
  rw [(tree'.ends id).ancestors_eq_ok_iff present']
  intro i
  rw [up_succ, moved.parent?_self, Option.bind_some, moved.up_outside other apart]
  cases i with
  | zero => rfl
  | succ i => exact places i

/-- A folder below the one that moved keeps its path up to there. -/
theorem ancestors_inside (moved : h.Relocated id q f h') (tree : h.IsTree) (tree' : h'.IsTree)
    {far new : List FolderId} (before : h.ancestors id = .ok far)
    (after : h'.ancestors id = .ok new) {x : FolderId} (below : h.Above id x) :
    ∃ near, id ∉ near ∧ h.ancestors x = .ok (near ++ id :: far) ∧
      h'.ancestors x = .ok (near ++ id :: new) := by
  have present := below.contains
  obtain ⟨k, reached⟩ := below
  have ends := tree.ends x
  obtain ⟨near, rfl, apart, places⟩ := ends.exists_between reached
  -- the path is left as it was so far as it has not passed the folder that moved
  have same : ∀ m ≤ near.length + 1, h'.up m x = h.up m x := by
    intro m le
    apply up_congr_upto fun _ => moved.parent?_of_ne
    intro j lt hj
    have := ends.up_injective hj reached
    omega
  refine ⟨near, apart, tree.ancestors_through present places reached before, ?_⟩
  apply tree'.ancestors_through ((moved.contains_eq x).trans present) _ _ after
  · intro i lt
    rw [places i lt, same (i + 1) (by omega)]
  · rw [same (near.length + 1) (Nat.le_refl _)]
    exact reached

theorem descendants_self (moved : h.Relocated id q f h') (tree : h.IsTree) (tree' : h'.IsTree)
    (other : q ≠ id) (apart : ¬ h.Above id q) : h'.below id = h.below id := by
  have ends := tree.ends id
  have drains := (tree.toLinked.drains_iff ends).mpr rfl
  -- the search asks only for the children of folders that lie at `id` or below it
  have within : ∀ a, a ∈ [id] ∨ a ∈ h.below id → h'.childIds a = h.childIds a := by
    intro a asked
    have inside : ∃ n, h.up n a = some id := by
      obtain own | found := asked
      · exact ⟨0, congrArg some (List.mem_singleton.mp own)⟩
      · obtain ⟨n, reached⟩ := tree.toLinked.above_of_mem_below found
        exact ⟨n + 1, reached⟩
    obtain ⟨n, reached⟩ := inside
    have away : a ≠ q := by
      rintro rfl
      cases n with
      | zero => exact other (Option.some.inj reached)
      | succ n => exact apart ⟨n, reached⟩
    have unlinked : h.parent? id ≠ some a := by
      intro link
      apply ends.not_above_self
      refine ⟨n, ?_⟩
      rw [up_succ, link]
      exact reached
    have sets : h'.childSet a = h.childSet a := by
      apply Std.ExtTreeSet.ext_mem
      intro x
      rw [moved.children]
      split
      · next own =>
        rw [own, tree.child_iff]
        exact iff_of_false away unlinked
      · rfl
    rw [childIds, sets]
    rfl
  exact ((tree'.toLinked.drains_iff (tree'.ends id)).mp (drains.congr within)).symm

end Relocated

/-- What a move of `id` below `q` does to the paths. Below `id` lie the folders `found`, above it
lay `far`, and above `q` lies `above`. -/
structure Rerouted (h : Hierarchy) (id q : FolderId) (h' : Hierarchy)
    (found far above : List FolderId) : Prop where
  subtree : h.descendants id = .ok found ∧ h'.descendants id = .ok found
  before : h.ancestors id = .ok far
  target : h.ancestors q = .ok above ∧ q ≠ id ∧ q ∉ found
  /-- The folder that moved has the new parent above it, and what lies above that. -/
  moved : h'.ancestors id = .ok (q :: above)
  /-- A folder below keeps its path up to the one that moved. -/
  inside : ∀ x ∈ found, ∃ near, id ∉ near ∧ h.ancestors x = .ok (near ++ id :: far) ∧
    h'.ancestors x = .ok (near ++ id :: q :: above)
  outside : ∀ x, x ≠ id → x ∉ found → h'.ancestors x = h.ancestors x
  /-- No grant gives or takes a permission outside. -/
  allow : ∀ x, x ≠ id → x ∉ found → ∀ grants codename,
    Grant.allow h' grants codename x = Grant.allow h grants codename x

theorem Relocated.allow_outside (moved : h.Relocated id q f h') {x : FolderId}
    (same : h'.ancestors x = h.ancestors x) (grants : List Grant) (codename : String) :
    Grant.allow h' grants codename x = Grant.allow h grants codename x := by
  unfold Grant.allow
  rw [moved.contains_eq, same]

theorem Relocated.rerouted (moved : h.Relocated id q f h') (tree : h.IsTree) (tree' : h'.IsTree)
    (other : q ≠ id) (apart : ¬ h.Above id q) :
    ∃ found far above, h.Rerouted id q h' found far above := by
  obtain ⟨old, row, _⟩ := moved.same
  have present := contains_of_get? row
  have there : h.contains q = true :=
    (moved.contains_eq q).symm.trans (tree'.contains_parent moved.parent?_self)
  obtain ⟨far, before, _⟩ := (tree.ends id).ancestors_eq present
  obtain ⟨above, target, _⟩ := (tree.ends q).ancestors_eq there
  have found : ∀ x, x ∈ h.below id ↔ h.Above id x := fun x => tree.toLinked.mem_below (tree.ends x)
  have after := moved.ancestors_self tree tree' other apart target
  have outside : ∀ x, x ≠ id → x ∉ h.below id → h'.ancestors x = h.ancestors x := by
    intro x different beyond
    rw [found] at beyond
    exact moved.ancestors_outside tree tree' different beyond
  refine ⟨h.below id, far, above, ⟨descendants_eq present, ?_⟩, before, ⟨target, other, ?_⟩,
    after, ?_, outside, ?_⟩
  · rw [descendants_eq (contains_of_get? moved.moved), moved.descendants_self tree tree' other apart]
  · rwa [found]
  · intro x mem
    exact moved.ancestors_inside tree tree' before after ((found x).mp mem)
  · intro x different beyond
    exact moved.allow_outside (outside x different beyond)

end Hierarchy

namespace System

variable {s s' : System} {id q : FolderId} {f : Folder}

/-- A move that has answered, of a folder that was not there already, has moved it. -/
theorem Grounded.relocated_of_moved (grounded : s.Grounded)
    (answered : s.moveFolder id q = (.ok f, s')) (other : s.hierarchy.parent? id ≠ some q) :
    s.hierarchy.Relocated id q f s'.hierarchy ∧ q ≠ id ∧ ¬ s.hierarchy.Above id q ∧
      s'.registry = s.registry := by
  have tree := grounded.tree
  cases passed : s.hierarchy.checkMove id q with
  | error e =>
    rw [moveFolder, passed] at answered
    cases answered
  | ok m =>
    obtain ⟨old, row, _, _, _, case⟩ := Hierarchy.checkMove_eq_ok passed
    obtain ⟨rfl, there⟩ | ⟨rfl, apart, clear⟩ := case
    · exact absurd ((Hierarchy.parent?_of_get? row).trans there) other
    · have settled : s.Settles (s.saveFolder { old with parent := some q }) fun g t =>
          ∃ now, g = { old with parent := some q, updatedAt := now } ∧
            t.hierarchy = s.hierarchy.replace g ∧ t.registry = s.registry :=
        .update fun now _ _ _ _ => ⟨now, rfl, rfl, rfl⟩
      rw [← moveFolder_of_passed passed row, answered] at settled
      obtain ⟨now, same, after, registry⟩ := settled.answer
      obtain rfl : f.id = id := by
        rw [same]
        exact tree.keyed id old row
      have relocated := Hierarchy.relocated_replace (q := q) tree.toLinked row (by rw [same])
      refine ⟨after ▸ relocated, apart, ?_, registry⟩
      rw [← Hierarchy.isAbove_iff, clear]
      exact Bool.false_ne_true

theorem hasPermission_congr (registry : s'.registry = s.registry) {codename : String}
    {x : FolderId} (allow : ∀ grants, Grant.allow s'.hierarchy grants codename x =
      Grant.allow s.hierarchy grants codename x) (user : UserId) :
    s'.hasPermission user codename x = s.hasPermission user codename x := by
  unfold hasPermission requireUser
  rw [registry, allow]

/-- In every state of a run from a boot, a move changes the paths of the folder that moves and of
those below it, and no other path and no permission elsewhere. -/
theorem moves_reroute_only_the_subtree {terms : Terms} {storage storage' : Storage}
    {h : Hierarchy} (booted : bootHierarchy terms.rootName storage = (.ok h, storage'))
    (r : Registry) (events : List Event) {id q : FolderId} {f : Folder} {s' : System} :
    let s := (⟨terms, h, r, storage'⟩ : System).afterAll events
    s.moveFolder id q = (.ok f, s') → s.hierarchy.parent? id ≠ some q →
      ∃ found far above, s.hierarchy.Rerouted id q s'.hierarchy found far above ∧
        ∀ user codename x, x ≠ id → x ∉ found →
          s'.hasPermission user codename x = s.hasPermission user codename x := by
  intro s answered other
  have grounded := ((grounded_of_boot booted terms r).1.afterAll events).1
  obtain ⟨relocated, apart, clear, registry⟩ := grounded.relocated_of_moved answered other
  have tree' : s'.hierarchy.IsTree := by
    have after := (grounded.afterAll [.call (.moveFolder id q)]).1.tree
    change (s.moveFolder id q).2.hierarchy.IsTree at after
    rwa [answered] at after
  obtain ⟨found, far, above, rerouted⟩ := relocated.rerouted grounded.tree tree' apart clear
  refine ⟨found, far, above, rerouted, ?_⟩
  intro user codename x different beyond
  exact hasPermission_congr registry (fun grants => rerouted.allow x different beyond grants codename)
    user

/-- A folder with one below it goes below another. -/
theorem founded_assets_reroute_servers :
    let s := (founded ⟨"Root", ⟨2, 8⟩, .standard⟩ .empty).afterAll
      [.call (.createFolder ⟨"Assets", none, none⟩),
        .call (.createFolder ⟨"Servers", none, some ⟨Supply.counted 2⟩⟩),
        .call (.createFolder ⟨"Archive", none, none⟩)]
    ∃ f s', s.moveFolder ⟨Supply.counted 2⟩ ⟨Supply.counted 4⟩ = (.ok f, s') ∧
      s.hierarchy.parent? ⟨Supply.counted 2⟩ ≠ some ⟨Supply.counted 4⟩ ∧
      ∃ found far above, s.hierarchy.Rerouted ⟨Supply.counted 2⟩ ⟨Supply.counted 4⟩ s'.hierarchy
          found far above ∧
        ∀ user codename x, x ≠ ⟨Supply.counted 2⟩ → x ∉ found →
          s'.hasPermission user codename x = s.hasPermission user codename x := by
  intro s
  have booted := boot_founded ⟨"Root", ⟨2, 8⟩, .standard⟩ .empty rfl rfl
  have grounded : s.Grounded := ((grounded_of_boot booted ⟨"Root", ⟨2, 8⟩, .standard⟩
    (founded ⟨"Root", ⟨2, 8⟩, .standard⟩ .empty).registry).1.afterAll _).1
  obtain ⟨f, s', answered, _⟩ :=
    (grounded.moveDecided ⟨Supply.counted 2⟩ ⟨Supply.counted 4⟩).moved (by decide +kernel) rfl
  have other : s.hierarchy.parent? ⟨Supply.counted 2⟩ ≠ some ⟨Supply.counted 4⟩ := by
    decide +kernel
  exact ⟨f, s', answered, other, moves_reroute_only_the_subtree booted _ _ answered other⟩

end System

end Perimeter
