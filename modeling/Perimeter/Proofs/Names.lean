import Perimeter.Proofs.Rejections
import Perimeter.Settings.Basic

/-!
# Folder names

A name that was accepted stays as it is if it is asked for again, since trimming twice is trimming
once (`IsFolderName.isNormal`). So the names that are given to new folders and in renamings are
normal ones, and a move does not touch a name. But the root of a new storage gets the name of the
settings, of which the check only asks that it is not blank. The names of all folders are normal
in every state that is reached exactly if that name is (`folder_names_stay_normal_iff`), and settings
with another one pass (`padded_root_name_is_taken`).
-/

namespace Perimeter

/-- A name that is accepted, and taken as it is. -/
def IsNormalName (name : String) : Prop := normalizeName name = .ok name

theorem isNormalName_iff {name : String} : IsNormalName name ↔
    Text.trim name = name ∧ name ≠ "" ∧ name.length ≤ maxNameLength :=
  normalizeName_eq_ok

theorem IsFolderName.isNormal {name : String} (accepted : IsFolderName name) :
    IsNormalName name := by
  obtain ⟨t, normal⟩ := accepted
  obtain ⟨trimmed, visible, short⟩ := normalizeName_eq_ok.mp normal
  refine isNormalName_iff.mpr ⟨?_, visible, short⟩
  rw [← trimmed, Text.trim_trim]

theorem Settings.rootName_ne_of_check {settings : Settings} (checked : settings.check = .ok ()) :
    settings.tree.rootName ≠ "" := by
  unfold check at checked
  split_ifs at checked with _ blank
  rintro empty
  rw [empty] at blank
  exact blank rfl

namespace System

/-- From storage without folders a boot makes a hierarchy of one, which is named as it was told. -/
theorem single_of_boot {name : String} {storage storage' : Storage} {h : Hierarchy}
    (bare : storage.folders.all = []) (booted : bootHierarchy name storage = (.ok h, storage')) :
    ∃ bits now, h = .single (.ofRoot name ⟨bits⟩ now) := by
  obtain ⟨_, ⟨_, root, created, rfl⟩ | ⟨loaded, _⟩⟩ := boot_eq_ok.mp booted
  · obtain ⟨bits, now, _, rfl, _⟩ := Storage.create_eq_ok (congrArg Prod.fst created)
    exact ⟨bits, now, rfl⟩
  · rw [bare] at loaded
    cases loaded

/-- Whatever the root was named at first, names that are given later are normal. -/
theorem normal_or_first_afterAll {s : System} {name : String} {bits : BitVec 128} {now : Instant}
    (single : s.hierarchy = .single (.ofRoot name ⟨bits⟩ now)) (events : List Event) :
    ∀ id f, (s.afterAll events).hierarchy.get? id = some f →
      IsNormalName f.name ∨ f.isRoot = true ∧ f.name = name := by
  refine folders_afterAll (fun f accepted => Or.inl accepted.isNormal) ?_ ?_ events
  · intro f g rank same held
    rw [rank, same]
    exact held
  · intro id f row
    rw [single] at row
    obtain ⟨_, rfl⟩ := Hierarchy.eq_of_get?_single row
    exact Or.inr ⟨rfl, rfl⟩

/-- Under settings that passed the check, and from storage without folders, every folder has a
normal name in every state that is reached exactly if the name set for the root is trimmed and not
too long. Whatever it is, no folder has a name that is not normal but the root, while it keeps the
name that was set. -/
theorem folder_names_stay_normal_iff {settings : Settings} (checked : settings.check = .ok ())
    {storage storage' : Storage} {s₀ : System} (bare : storage.folders.all = [])
    (launched : settings.launch storage = (.ok s₀, storage')) :
    ((∀ events id f, (s₀.afterAll events).hierarchy.get? id = some f → IsNormalName f.name) ↔
      Text.trim settings.tree.rootName = settings.tree.rootName ∧
        settings.tree.rootName.length ≤ maxNameLength) ∧
    ∀ events id f, (s₀.afterAll events).hierarchy.get? id = some f →
      IsNormalName f.name ∨ f.isRoot = true ∧ f.name = settings.tree.rootName := by
  obtain ⟨bits, now, single⟩ := single_of_boot bare (start_eq_ok.mp launched).1
  have named := normal_or_first_afterAll single
  refine ⟨⟨?_, ?_⟩, named⟩
  · intro normal
    have root : s₀.hierarchy.get? ⟨bits⟩ = some (.ofRoot settings.tree.rootName ⟨bits⟩ now) := by
      rw [single, Hierarchy.get?_single]
      exact if_pos rfl
    obtain ⟨trimmed, _, short⟩ := isNormalName_iff.mp (normal [] _ _ root)
    exact ⟨trimmed, short⟩
  · rintro ⟨trimmed, short⟩ events id f row
    obtain normal | ⟨_, first⟩ := named events id f row
    · exact normal
    · rw [first]
      exact isNormalName_iff.mpr ⟨trimmed, Settings.rootName_ne_of_check checked, short⟩

theorem standard_root_name_stays_normal :
    let s := (founded Settings.standard.terms .empty).afterAll
      [.call (.createFolder ⟨" Assets ", none, none⟩),
        .call (.renameFolder ⟨Supply.counted 1⟩ (some "World ") none)]
    ∀ id f, s.hierarchy.get? id = some f → IsNormalName f.name := by
  have checked : Settings.standard.check = .ok () := by decide +kernel
  have bare : Storage.empty.folders.all = [] := by decide +kernel
  have launched := start_founded Settings.standard.terms .empty rfl rfl
  have plain : Text.trim Settings.standard.tree.rootName = Settings.standard.tree.rootName ∧
      Settings.standard.tree.rootName.length ≤ maxNameLength := by
    decide +kernel
  exact (folder_names_stay_normal_iff checked bare launched).1.mpr plain
    [.call (.createFolder ⟨" Assets ", none, none⟩),
      .call (.renameFolder ⟨Supply.counted 1⟩ (some "World ") none)]

/-- A name with blanks around it passes the check, and becomes the name of the root. A renaming to
the same name would take the blanks away. -/
theorem padded_root_name_is_taken :
    let padded : Settings :=
      { Settings.standard with tree := { Settings.standard.tree with rootName := "  Global  " } }
    padded.check = .ok () ∧
      ∃ s storage f, padded.launch .empty = (.ok s, storage) ∧
        s.hierarchy.get? s.hierarchy.root = some f ∧ f.name = "  Global  " ∧
          ¬ IsNormalName f.name ∧ normalizeName f.name = .ok "Global" := by
  intro padded
  have normal : normalizeName "  Global  " = .ok "Global" := by decide +kernel
  refine ⟨by decide +kernel, founded padded.terms .empty, _,
    .ofRoot "  Global  " ⟨Supply.counted 1⟩ (.ofParts 1704067200 0),
    start_founded padded.terms .empty rfl rfl, ?_, rfl, ?_, normal⟩
  · exact (Hierarchy.get?_single _ _).trans (if_pos rfl)
  · intro same
    exact absurd (Except.ok.inj (normal.symm.trans same)) (by decide)

end System

end Perimeter
