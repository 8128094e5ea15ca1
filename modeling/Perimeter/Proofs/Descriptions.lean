import Perimeter.Proofs.Names

/-!
# Descriptions

A description comes into a folder on two ways. A renaming trims it, and takes a blank one as none
(`Text.nonBlank?`); a creation leaves a blank one out too, but keeps any other as it is given. So
the two agree exactly on texts that are plain: blank, or without blanks at their ends. A renaming
makes a description tidy and a move touches none, so descriptions stay tidy along a run exactly if
the creations of the run give plain ones (`descriptions_stay_tidy_iff`), and only a tidy one is
left as it is when it is sent back. One word with blanks around it is enough for another outcome
(`padded_description_is_kept`).
-/

namespace Perimeter

/-- A description that is absent, or neither blank nor with blanks at its ends. -/
def IsTidy (description : Option String) : Prop :=
  ∀ t, description = some t → Text.isBlank t = false ∧ Text.trim t = t

/-- A text that has no blanks at its ends, unless it has nothing else. -/
def IsPlain (t : String) : Prop := Text.isBlank t = true ∨ Text.trim t = t

theorem isTidy_nonBlank? (t : String) : IsTidy (Text.nonBlank? t) := by
  unfold Text.nonBlank?
  split
  · exact nofun
  · next visible =>
    rintro _ ⟨⟩
    rw [Text.isBlank_trim, Text.trim_trim]
    exact ⟨Bool.eq_false_iff.mpr visible, rfl⟩

/-- A description stays as it is on the way around if it is tidy, and only then. -/
theorem nonBlank?_getD_eq_iff {description : Option String} :
    Text.nonBlank? (description.getD "") = description ↔ IsTidy description := by
  constructor
  · intro same
    rw [← same]
    exact isTidy_nonBlank? _
  · intro tidy
    cases description with
    | none => rfl
    | some t =>
      obtain ⟨visible, trimmed⟩ := tidy t rfl
      simp only [Option.getD_some, Text.nonBlank?, visible, trimmed, Bool.false_eq_true, if_false]

/-- What a creation keeps is what a renaming would keep exactly if the text is plain. -/
theorem filter_eq_nonBlank?_iff {t : String} :
    ((some t).filter fun t => !Text.isBlank t) = Text.nonBlank? t ↔ IsPlain t := by
  rw [Option.filter_some, Text.nonBlank?, IsPlain]
  cases Text.isBlank t <;> simp [eq_comm]

theorem isTidy_filter_iff {description : Option String} :
    IsTidy (description.filter fun t => !Text.isBlank t) ↔
      ∀ t, description = some t → IsPlain t := by
  cases description with
  | none => simp [IsTidy]
  | some t => cases blank : Text.isBlank t <;> simp [IsTidy, IsPlain, blank]

namespace System

variable {s s' : System} {id : FolderId} {f : Folder} {Q : Option String → Prop}

/-- A creation keeps the description that it is given, but for a blank one. -/
theorem description_of_created {d : NewFolder} (created : s.createFolder d = (.ok f, s')) :
    f.description = d.description.filter fun t => !Text.isBlank t := by
  have settled : s.Settles (s.createFolder d) fun f _ =>
      f.description = d.description.filter fun t => !Text.isBlank t :=
    .check fun _ _ => .check fun _ _ => .create fun _ _ _ _ _ => rfl
  exact (created ▸ settled).answer

/-! ## Steps and runs -/

/-- Every folder has a description of a kind. -/
def Described (s : System) (Q : Option String → Prop) : Prop :=
  ∀ id f, s.hierarchy.get? id = some f → Q f.description

theorem described_of_single {name : String} {bits : BitVec 128} {now : Instant}
    (single : s.hierarchy = .single (.ofRoot name ⟨bits⟩ now)) (absent : Q none) :
    s.Described Q := by
  intro id f row
  rw [single] at row
  obtain ⟨_, rfl⟩ := Hierarchy.eq_of_get?_single row
  exact absent

namespace Described

variable (held : s.Described Q)
include held

theorem entered (new : Q f.description)
    (rows : s'.hierarchy.rows = s.hierarchy.rows.insert f.id f) : s'.Described Q := by
  intro k g row
  rw [Hierarchy.get?, rows] at row
  exact forall_insert (P := fun f => Q f.description) (m := s.hierarchy.rows) held new f.id k g row

theorem added (wrote : s.Wrote (.addFolder f) s') (new : Q f.description) : s'.Described Q := by
  apply held.entered new
  rw [wrote.hierarchy_eq]
  exact Hierarchy.rows_insert s.hierarchy f

theorem saved (did : s' = s ∧ s.hierarchy.get? id = some f ∨ s.Wrote (.saveFolder id f) s')
    (new : Q f.description) : s'.Described Q := by
  obtain ⟨rfl, _⟩ | wrote := did
  · exact held
  · apply held.entered new
    rw [wrote.hierarchy_eq]
    exact Hierarchy.rows_replace s.hierarchy f

theorem dropped (wrote : s.Wrote (.dropFolder id) s') : s'.Described Q := by
  have present := (Hierarchy.checkRemoval_eq_ok wrote.1).1
  intro k g row
  rw [wrote.hierarchy_eq, Change.applyTree, Hierarchy.get?, Hierarchy.rows_remove present] at row
  exact forall_erase (P := fun f => Q f.description) (m := s.hierarchy.rows) held id k g row

/-- Most writes change no folder. -/
theorem elsewhere (same : s'.hierarchy = s.hierarchy) : s'.Described Q := by
  intro k g row
  rw [same] at row
  exact held k g row

theorem unless_wrote {row : Prop} {c : Change} (did : s' = s ∧ row ∨ s.Wrote c s')
    (same : s.Wrote c s' → s'.hierarchy = s.hierarchy) : s'.Described Q := by
  obtain ⟨rfl, _⟩ | wrote := did
  · exact held
  · exact held.elsewhere (same wrote)

theorem settled {α : Type} {out : Outcome α} {answers : α → System → Prop}
    (settles : s.Settles out answers) (go : ∀ a s', answers a s' → s'.Described Q) :
    out.2.Described Q :=
  settles.keeps (fun _ => held) go

theorem move (id parent : FolderId) : (s.moveFolder id parent).2.Described Q := by
  apply held.settled ((moveFolder_settles s id parent).both (moveFolder_answers s id parent))
  rintro f s' ⟨did, g, row, same⟩
  apply held.saved did
  rw [same]
  exact held id g row

/-- The same where a parent may be named. -/
theorem place {id : FolderId} {parent : Option FolderId} {answer : Except Fault Folder}
    (placed : (match parent with
      | some p => s.moveFolder id p
      | none => (s.hierarchy.require id, s)) = (answer, s')) : s'.Described Q := by
  cases parent with
  | some p =>
    have moved := held.move id p
    have outcome : s.moveFolder id p = (answer, s') := placed
    rwa [outcome] at moved
  | none =>
    cases placed
    exact held

/-- What the new folder has where a creation answers. -/
theorem create {d : NewFolder} (created : ∀ f s', s.createFolder d = (.ok f, s') →
    Q f.description) : (s.createFolder d).2.Described Q := by
  have settled := createFolder_settles s d
  rcases outcome : s.createFolder d with ⟨answer, s'⟩
  rw [outcome] at settled
  cases settled with
  | refused e p => exact held
  | answered wrote => exact held.added wrote (created _ _ outcome)

variable (renamed : ∀ t, Q (Text.nonBlank? t))
include renamed

theorem rename (id : FolderId) (name description : Option String) :
    (s.renameFolder id name description).2.Described Q := by
  apply held.settled ((renameFolder_settles s id name description).both
    (renameFolder_answers s id name description))
  rintro f s' ⟨did, g, given, row, _, same⟩
  apply held.saved did
  rw [same]
  cases description with
  | none => exact held id g row
  | some t => exact renamed t

theorem change (id : FolderId) (d : FolderChange) : (s.changeFolder id d).2.Described Q := by
  unfold changeFolder
  split
  · exact held
  · dsimp only
    split
    · next outcome => exact held.place outcome
    · next outcome =>
      have moved := held.place outcome
      split
      · exact moved.rename renamed id d.name d.description
      · exact moved

/-- What renamings give every description, and a creation gives its own, a call keeps. -/
theorem run {c : Call} (created : ∀ d f s', c = .createFolder d →
    s.createFolder d = (.ok f, s') → Q f.description) : (c.run s).Described Q := by
  cases c with
  | createFolder d => exact held.create fun f s' => created d f s' rfl
  | moveFolder id parent => exact held.move id parent
  | renameFolder id name description => exact held.rename renamed id name description
  | removeFolder id =>
    exact held.settled (removeFolder_settles s id) fun _ _ did => held.dropped did.2
  | discardFolder id =>
    exact held.settled (discardFolder_settles s id) fun _ _ did => held.dropped did.2.2
  | changeFolder id d => exact held.change renamed id d
  | createUser d =>
    exact held.settled (createUser_settles s d) fun _ _ wrote => held.elsewhere wrote.hierarchy_eq
  | setUserActive id active =>
    refine held.settled (setUserActive_settles s id active) fun _ _ did => ?_
    exact held.unless_wrote did fun wrote => wrote.hierarchy_eq
  | createRole d =>
    exact held.settled (createRole_settles s d) fun _ _ wrote => held.elsewhere wrote.hierarchy_eq
  | createGroup d =>
    exact held.settled (createGroup_settles s d) fun _ _ wrote => held.elsewhere wrote.hierarchy_eq
  | addMember user group =>
    refine held.settled (addMember_settles s user group) fun _ _ did => ?_
    exact held.unless_wrote (did.imp_right And.right) fun wrote => wrote.hierarchy_eq
  | removeMember user group =>
    refine held.settled (removeMember_settles s user group) fun removed s' did => ?_
    cases removed with
    | false => exact did.2 ▸ held
    | true => exact held.elsewhere (Wrote.hierarchy_eq did.2)
  | assignRole d =>
    exact held.settled (assignRole_settles s d) fun _ _ wrote => held.elsewhere wrote.hierarchy_eq
  | revokeAssignment id =>
    exact held.settled (revokeAssignment_settles s id) fun _ _ did =>
      held.elsewhere did.2.hierarchy_eq

/-- So does a run, with each of its creations in the state that it finds. -/
theorem afterAll {events : List Event} (created : ∀ past d f s',
    past ++ [.call (.createFolder d)] <+: events →
      (s.afterAll past).createFolder d = (.ok f, s') → Q f.description) :
    (s.afterAll events).Described Q := by
  induction events using List.reverseRecOn with
  | nil => exact held
  | append_singleton past e ih =>
    have before : (s.afterAll past).Described Q :=
      ih fun q d f s' early => created q d f s' (early.trans (List.prefix_append past [e]))
    rw [afterAll_concat]
    cases e with
    | supply p => exact before
    | call c =>
      apply before.run renamed
      rintro d f s' rfl answered
      exact created past d f s' (List.prefix_refl _) answered

end Described

/-- Descriptions that are tidy at first stay so along a run exactly if the creations that answer
give plain ones. -/
theorem tidy_along_iff (start : s.Described IsTidy) (events : List Event) :
    (∀ past, past <+: events → (s.afterAll past).Described IsTidy) ↔
      ∀ past d f s', past ++ [.call (.createFolder d)] <+: events →
        (s.afterAll past).createFolder d = (.ok f, s') →
          ∀ t, d.description = some t → IsPlain t := by
  constructor
  · intro tidy past d f s' early answered
    have after := tidy _ early
    rw [afterAll_concat] at after
    change ((s.afterAll past).createFolder d).2.Described IsTidy at after
    rw [answered] at after
    rw [← isTidy_filter_iff, ← description_of_created answered]
    exact after f.id f (get?_of_created answered)
  · intro plain past early
    apply start.afterAll isTidy_nonBlank?
    intro before d f s' earlier answered
    rw [description_of_created answered, isTidy_filter_iff]
    exact plain before d f s' (earlier.trans early) answered

/-- Where there are none at first, no description is ever blank, and one that is not trimmed was
given so by a creation. -/
theorem trimmed_or_given (start : s.Described (· = none)) (events : List Event) :
    (s.afterAll events).Described fun description => ∀ t, description = some t →
      Text.isBlank t = false ∧ (Text.trim t = t ∨
        ∃ d, Event.call (.createFolder d) ∈ events ∧ d.description = some t) := by
  refine Described.afterAll ?_ ?_ ?_
  · intro id f row t given
    cases (start id f row).symm.trans given
  · intro given t kept
    obtain ⟨visible, trimmed⟩ := isTidy_nonBlank? given t kept
    exact ⟨visible, Or.inl trimmed⟩
  · intro past d f s' early answered t kept
    rw [description_of_created answered, Option.filter_eq_some_iff] at kept
    obtain ⟨given, visible⟩ := kept
    have called : Event.call (.createFolder d) ∈ events := early.subset (by simp)
    exact ⟨by simpa using visible, Or.inr ⟨d, called, given⟩⟩

/-! ## The two ways, and the way around -/

/-- A creation with a description goes as one without. -/
theorem createFolder_map (s : System) (name : String) (description : Option String)
    (parent : Option FolderId) :
    (s.createFolder ⟨name, description, parent⟩).1 =
      (s.createFolder ⟨name, none, parent⟩).1.map fun f =>
        { f with description := description.filter fun t => !Text.isBlank t } := by
  unfold createFolder check
  cases normalizeName name with
  | error e => rfl
  | ok name =>
    cases s.hierarchy.placeFor parent with
    | error e => rfl
    | ok p =>
      dsimp only
      rw [commit_fst, commit_fst]
      apply Storage.create_map
      · exact fun _ _ => rfl
      · exact fun _ => rfl

theorem exists_saved {old : Folder} (stored : s.storage.folders.find? f.id = some old)
    (accepts : s.storage.Accepts) : ∃ g s', s.saveFolder f = (.ok g, s') := by
  have present : ∀ now : Instant, ∃ t, (Shelf.folders.get s.storage).update
      { f with updatedAt := now } = .ok t :=
    fun _ => Table.exists_update stored
  obtain ⟨now, t, p, _, saved⟩ := commit_update
    (fun s f => { s with hierarchy := s.hierarchy.replace f }) accepts present
  exact ⟨_, _, saved⟩

/-- A renaming to an accepted name goes through, if the storage lets it. -/
theorem Grounded.exists_renamed (grounded : s.Grounded) (row : s.hierarchy.get? id = some f)
    (accepts : s.storage.Accepts) {name given : Option String}
    (normal : name.mapM normalizeName = .ok given) (description : Option String) :
    ∃ g s', s.renameFolder id name description = (.ok g, s') := by
  obtain ⟨own, stored⟩ : f.id = id ∧ s.storage.folders.find? f.id = some f := by
    have own := grounded.tree.keyed id f row
    exact ⟨own, by rw [own, ← Hierarchy.get?_of_rows grounded.rows, row]⟩
  unfold renameFolder check
  rw [normal, Hierarchy.require_eq_ok.mpr row]
  dsimp only
  split
  · exact ⟨f, s, rfl⟩
  · exact exists_saved stored accepts

theorem eq_of_answered {α : Type} {out : Outcome α} {a : α} (answered : out.1 = .ok a) :
    out = (.ok a, out.2) :=
  Prod.ext answered rfl

/-- What becomes of descriptions in a state. -/
structure Normalizes (s : System) : Prop where
  /-- With a description a creation is refused as it is without one. -/
  refused : ∀ name parent t e, (s.createFolder ⟨name, none, parent⟩).1 = .error e →
    (s.createFolder ⟨name, some t, parent⟩).1 = .error e
  /-- Creating a folder with a description, and creating it without one and then renaming it to
  that description, come to the same exactly if the description is plain. -/
  agree : ∀ name parent t f₀ s₁, s.createFolder ⟨name, none, parent⟩ = (.ok f₀, s₁) →
    s₁.storage.Accepts → ∃ f s' g s₂, s.createFolder ⟨name, some t, parent⟩ = (.ok f, s') ∧
      s₁.renameFolder f₀.id none (some t) = (.ok g, s₂) ∧
        g = { f with description := g.description, updatedAt := g.updatedAt } ∧
          (f.description = g.description ↔ IsPlain t)
  /-- The name and the description of a folder can be sent back. This leaves the name as it is, and
  the description exactly if it is tidy. -/
  returned : ∀ id f, s.hierarchy.get? id = some f → id ≠ s.hierarchy.root → s.storage.Accepts →
    ∃ g s', s.renameFolder id (some f.name) (some (f.description.getD "")) = (.ok g, s') ∧
      g.name = f.name ∧ (g.description = f.description ↔ IsTidy f.description)

theorem Grounded.normalizes (grounded : s.Grounded)
    (named : ∀ id f, s.hierarchy.get? id = some f → id ≠ s.hierarchy.root →
      IsNormalName f.name) : s.Normalizes where
  refused name parent t e failed := by
    rw [createFolder_map, failed]
    rfl
  agree name parent t f₀ s₁ created accepts := by
    have wrote := (created ▸ createFolder_settles s ⟨name, none, parent⟩).answer
    have grounded₁ := (grounded.wrote wrote).1
    have row := get?_of_created created
    have unnamed : (none : Option String).mapM normalizeName = .ok none := rfl
    obtain ⟨g, s₂, renamed⟩ := grounded₁.exists_renamed row accepts unnamed (some t)
    obtain ⟨_, _, found, ⟨⟩, same⟩ :=
      (renamed ▸ renameFolder_answers s₁ f₀.id none (some t)).answer
    cases row.symm.trans found
    have with_text := createFolder_map s name (some t) parent
    rw [created] at with_text
    refine ⟨_, _, g, s₂, eq_of_answered with_text, renamed, ?_, ?_⟩
    · rw [same]
      rfl
    · rw [same]
      exact filter_eq_nonBlank?_iff
  returned id f row inner accepts := by
    have normal : (some f.name).mapM normalizeName = .ok (some f.name) := by
      rw [Option.mapM_some, named id f row inner]
      rfl
    obtain ⟨g, s', renamed⟩ :=
      grounded.exists_renamed row accepts normal (some (f.description.getD ""))
    obtain ⟨_, given, found, accepted, same⟩ := (renamed ▸ renameFolder_answers s id _ _).answer
    cases row.symm.trans found
    cases normal.symm.trans accepted
    refine ⟨g, s', renamed, ?_, ?_⟩
    · rw [same]
      rfl
    · rw [same]
      exact nonBlank?_getD_eq_iff

/-- From storage without folders, descriptions are tidy all along a run exactly if the creations
that answer give plain ones. Whatever they give, none is blank, and one that is not trimmed was
given so by a creation; and in every state the two ways and the way around come to what
`Normalizes` says. -/
theorem descriptions_stay_tidy_iff {terms : Terms} {storage storage' : Storage} {h : Hierarchy}
    (bare : storage.folders.all = [])
    (booted : bootHierarchy terms.rootName storage = (.ok h, storage')) (r : Registry)
    (events : List Event) :
    let s₀ : System := ⟨terms, h, r, storage'⟩
    ((∀ past, past <+: events → (s₀.afterAll past).Described IsTidy) ↔
      ∀ past d f s', past ++ [.call (.createFolder d)] <+: events →
        (s₀.afterAll past).createFolder d = (.ok f, s') →
          ∀ t, d.description = some t → IsPlain t) ∧
    (∀ id f t, (s₀.afterAll events).hierarchy.get? id = some f → f.description = some t →
      Text.isBlank t = false ∧ (Text.trim t = t ∨
        ∃ d, Event.call (.createFolder d) ∈ events ∧ d.description = some t)) ∧
    (s₀.afterAll events).Normalizes := by
  intro s₀
  obtain ⟨bits, now, single⟩ := single_of_boot bare booted
  have grounded := ((grounded_of_boot booted terms r).1.afterAll events).1
  refine ⟨tidy_along_iff (described_of_single single nofun) events, ?_, ?_⟩
  · intro id f t row
    exact trimmed_or_given (described_of_single single rfl) events id f row t
  · apply grounded.normalizes
    intro id f row inner
    obtain normal | ⟨top, _⟩ := normal_or_first_afterAll single events id f row
    · exact normal
    · exact absurd ((grounded.tree.isRoot_iff row).mp top) inner

/-- A folder gets a plain description, is renamed to a padded one, and is sent back as it is. -/
theorem plain_description_stays_tidy :
    let s₀ := founded ⟨"Root", ⟨2, 8⟩, .standard⟩ .empty
    let events : List Event := [.call (.createFolder ⟨"Assets", some "All of them", none⟩),
      .call (.renameFolder ⟨Supply.counted 2⟩ none (some " Hosts "))]
    (∀ past, past <+: events → (s₀.afterAll past).Described IsTidy) ∧
      ∃ g s', (s₀.afterAll events).renameFolder ⟨Supply.counted 2⟩ (some "Assets")
        (some "Hosts") = (.ok g, s') ∧ g.name = "Assets" ∧ g.description = some "Hosts" := by
  intro s₀ events
  have bare : Storage.empty.folders.all = [] := by decide +kernel
  obtain ⟨stays, _, normalizes⟩ := descriptions_stay_tidy_iff bare
    (boot_founded ⟨"Root", ⟨2, 8⟩, .standard⟩ .empty rfl rfl) s₀.registry events
  have tidy := stays.mpr (by
    intro past d f s' early answered t given
    have called : Event.call (.createFolder d) ∈ events := early.subset (by simp)
    simp only [events, List.mem_cons, List.not_mem_nil, or_false, Event.call.injEq,
      Call.createFolder.injEq, reduceCtorEq] at called
    rw [called, Option.some.injEq] at given
    rw [← given]
    exact Or.inr (by decide +kernel))
  refine ⟨tidy, ?_⟩
  let f : Folder := ⟨⟨Supply.counted 2⟩, "Assets", some "Hosts", some ⟨Supply.counted 1⟩, false,
    false, .ofParts 1704067201 0, .ofParts 1704067202 0⟩
  have row : (s₀.afterAll events).hierarchy.get? ⟨Supply.counted 2⟩ = some f := by decide +kernel
  obtain ⟨g, s', back, name, description⟩ :=
    normalizes.returned _ f row (by decide +kernel) rfl
  exact ⟨g, s', back, name, description.mpr (tidy events (List.prefix_refl _) _ f row)⟩

/-- A creation keeps the blanks around a description. A renaming to the same text takes them away,
and so it does when the folder is sent back as it was read. -/
theorem padded_description_is_kept :
    let s := founded ⟨"Root", ⟨2, 8⟩, .standard⟩ .empty
    (∃ f s₁ g s₂, s.createFolder ⟨"Assets", none, none⟩ = (.ok f, s₁) ∧
        s₁.renameFolder f.id none (some "  x  ") = (.ok g, s₂) ∧ g.description = some "x") ∧
      ∃ f s₁ g s₂, s.createFolder ⟨"Assets", some "  x  ", none⟩ = (.ok f, s₁) ∧
        f.description = some "  x  " ∧ ¬ IsTidy f.description ∧
          s₁.renameFolder f.id (some f.name) (some (f.description.getD "")) = (.ok g, s₂) ∧
            g.description = some "x" := by
  intro s
  let named (description : Option String) (now : Int) : Folder :=
    ⟨⟨Supply.counted 2⟩, "Assets", description, some ⟨Supply.counted 1⟩, false, false,
      .ofParts 1704067201 0, .ofParts now 0⟩
  constructor
  · refine ⟨named none 1704067201, _, named (some "x") 1704067202, _, eq_of_answered ?_,
      eq_of_answered ?_, rfl⟩
    · decide +kernel
    · decide +kernel
  · refine ⟨named (some "  x  ") 1704067201, _, named (some "x") 1704067202, _, eq_of_answered ?_,
      rfl, ?_, eq_of_answered ?_, rfl⟩
    · decide +kernel
    · intro tidy
      exact absurd (tidy _ rfl).2 (by decide +kernel)
    · decide +kernel

end System

end Perimeter
