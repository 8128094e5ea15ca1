import Mathlib.Data.Set.Card
import Perimeter.Proofs.Entitlement
import Perimeter.Proofs.SeatCap

/-!
# Who may edit holds a seat

Seats are counted over the editors, and permissions are answered from the grants. Both rest on
the assignments that address a user, so whoever holds an edit permission on some folder is an
editor (`mem_editorSet_of_entitled`), and an active editor is entitled wherever an assignment
made the user one (`exists_gives_of_mem_editorSet`). The cap on the editors is therefore a cap
on the users who may edit anything (`editing_takes_a_seat`).
-/

namespace Perimeter

theorem License.grantsEdit_iff {l : License} {role : Role} :
    l.grantsEdit role = true ↔ ∃ c ∈ role.permissions, l.isEdit c = true :=
  List.any_eq_true

theorem encard_setOf_mem (set : IdSet .user) : {u | u ∈ set}.encard = set.size := by
  classical
  have listed : {u | u ∈ set} = (set.toList.toFinset : Set UserId) := by
    ext u
    simp [Std.ExtTreeSet.mem_toList]
  rw [listed, Set.encard_coe_eq_coe_finsetCard, List.toFinset_card_of_nodup (nodup_toList set),
    Std.ExtTreeSet.length_toList]

namespace System

variable {s : System} {u : UserId} {codename : String} {f : FolderId}

/-- Either query says that the user has the permission on some folder. -/
def Holds (s : System) (u : UserId) (codename : String) : Prop :=
  (∃ f, s.hasPermission u codename f = .ok true) ∨
    ∃ set, s.permittedFolders u codename = .ok set ∧ ∃ f, f ∈ set

/-- The user holds some permission that takes a seat. -/
def Edits (s : System) (u : UserId) : Prop :=
  ∃ codename, s.terms.license.isEdit codename = true ∧ s.Holds u codename

theorem entitled_of_hasPermission (tree : s.hierarchy.IsTree)
    (answered : s.hasPermission u codename f = .ok true) : s.Entitled u codename f := by
  -- a query that answers was asked of a user and a folder that are there
  have there : ¬ (s.registry.users[u]? = none ∨ s.hierarchy.contains f = false) := by
    rw [← hasPermission_notFound_iff tree codename, answered]
    simp
  rw [not_or, Bool.not_eq_false] at there
  obtain ⟨row, stored⟩ := Option.ne_none_iff_exists'.mp there.1
  obtain ⟨b, again, meaning⟩ := hasPermission_iff tree codename stored there.2
  cases answered.symm.trans again
  exact meaning.mp rfl

theorem entitled_of_mem_permitted (tree : s.hierarchy.IsTree) {set : IdSet .folder}
    (answered : s.permittedFolders u codename = .ok set) (mem : f ∈ set) :
    s.Entitled u codename f := by
  obtain ⟨_, _, found⟩ := bind_eq_ok.mp answered
  obtain ⟨set', same, mem_set⟩ := Grant.mem_permitted tree (s.registry.grantsOf u) codename
  cases found.symm.trans same
  exact entitled_iff_grant.mpr ((mem_set f).mp mem).2

theorem Holds.exists_entitled (tree : s.hierarchy.IsTree) (holds : s.Holds u codename) :
    ∃ f, s.Entitled u codename f := by
  obtain ⟨f, answered⟩ | ⟨set, answered, f, mem⟩ := holds
  · exact ⟨f, entitled_of_hasPermission tree answered⟩
  · exact ⟨f, entitled_of_mem_permitted tree answered mem⟩

/-- An assignment that gives an edit permission makes an editor, wherever it gives it. -/
theorem mem_editorSet_of_entitled (edit : s.terms.license.isEdit codename = true)
    (entitled : s.Entitled u codename f) : u ∈ s.editorSet := by
  obtain ⟨_, id, a, stored, addressed, ⟨role, known, listed⟩, _⟩ := entitled
  have grants : s.terms.license.grantsEdit role = true :=
    License.grantsEdit_iff.mpr ⟨codename, listed, edit⟩
  apply Registry.mem_editors.mpr
  refine ⟨id, a, stored, Registry.makesEditors_iff.mpr ⟨role, known, grants⟩, ?_⟩
  exact Registry.mem_principalUsers.mpr addressed

/-- Behind every editor stands an assignment that gives an edit permission on its own folder. -/
theorem exists_gives_of_mem_editorSet (editor : u ∈ s.editorSet) :
    ∃ (codename : String) (id : AssignmentId) (a : Assignment),
      s.terms.license.isEdit codename = true ∧ s.registry.assignments[id]? = some a ∧
        s.Gives u codename a.folder a := by
  obtain ⟨id, a, stored, makes, reached⟩ := Registry.mem_editors.mp editor
  obtain ⟨role, known, grants⟩ := Registry.makesEditors_iff.mp makes
  obtain ⟨codename, listed, edit⟩ := License.grantsEdit_iff.mp grants
  have addressed := Registry.mem_principalUsers.mp reached
  exact ⟨codename, id, a, edit, stored, addressed, ⟨role, known, listed⟩, Or.inl rfl⟩

/-- Editors and edit permissions answer to each other. -/
structure SeatsFollowPermissions (s : System) : Prop where
  seated : ∀ u codename, s.terms.license.isEdit codename = true → s.Holds u codename →
    u ∈ s.editorSet
  entitled : ∀ u ∈ s.editorSet, ∀ row, s.registry.users[u]? = some row → row.isActive = true →
    ∃ (codename : String) (id : AssignmentId) (a : Assignment),
      s.terms.license.isEdit codename = true ∧ s.registry.assignments[id]? = some a ∧
        s.Gives u codename a.folder a ∧
        (s.hierarchy.contains a.folder = true →
          s.hasPermission u codename a.folder = .ok true)

theorem seatsFollowPermissions (tree : s.hierarchy.IsTree) : s.SeatsFollowPermissions where
  seated u codename edit holds := by
    obtain ⟨f, entitled⟩ := holds.exists_entitled tree
    exact mem_editorSet_of_entitled edit entitled
  entitled u editor row stored active := by
    obtain ⟨codename, id, a, edit, assigned, gives⟩ := exists_gives_of_mem_editorSet editor
    refine ⟨codename, id, a, edit, assigned, gives, ?_⟩
    intro present
    obtain ⟨b, answered, meaning⟩ := hasPermission_iff tree codename stored present
    have allowed : b = true := meaning.mpr ⟨⟨row, stored, active⟩, id, a, assigned, gives⟩
    rw [answered, allowed]

theorem encard_edits_le (tree : s.hierarchy.IsTree) :
    {u | s.Edits u}.encard ≤ s.editorSet.size := by
  rw [← encard_setOf_mem]
  apply Set.encard_le_encard
  rintro u ⟨codename, edit, holds⟩
  exact (seatsFollowPermissions tree).seated u codename edit holds

/-- Over any tree and any registry, whoever may edit something is an editor, and an active editor
may edit the folder of some assignment if it exists. So where the cap is enforced and was kept
at the start, no state that is reached has more users who may edit anything than seats. -/
theorem editing_takes_a_seat :
    (∀ s : System, s.hierarchy.IsTree → s.SeatsFollowPermissions) ∧
      ∀ {terms : Terms} {storage storage' : Storage} {s₀ : System},
        start terms storage = (.ok s₀, storage') → terms.license.enabled = true →
        (∀ a ∈ storage.assignments.all, ∃ role ∈ storage.roles.all, role.id = a.role) →
        s₀.editorSet.size ≤ terms.license.seats →
        ∀ events, {u | (s₀.afterAll events).Edits u}.encard ≤ terms.license.seats := by
  refine ⟨fun s tree => seatsFollowPermissions tree, ?_⟩
  intro terms storage storage' s₀ started enforced stored within events
  have licensed₀ := licensed_of_start started enforced stored
  obtain ⟨_, rfl, _⟩ := mirrored_of_start started
  obtain ⟨licensed, _, capped⟩ := licensed₀.leads (leads_afterAll s₀ events)
  calc {u | (s₀.afterAll events).Edits u}.encard
      ≤ (s₀.afterAll events).editorSet.size := encard_edits_le licensed.mirrored.tree
    _ ≤ s₀.terms.license.seats := Nat.cast_le.mpr (capped.size_le within)

/-- One user, who may edit the first folder that is founded and everything below it. -/
def soleEditor : Storage :=
  let now := Instant.ofParts 1704067200 0
  { Storage.empty with
    users := .lay .empty 0 ⟨⟨1⟩, "ann@example.org", none, none, true, now, now⟩ 1
    roles := .lay .empty 0 ⟨⟨3⟩, "Editor", none, ["change_asset"], false, now⟩ 1
    assignments := .lay .empty 0 ⟨⟨4⟩, ⟨3⟩, some ⟨1⟩, none, ⟨Supply.counted 1⟩, true, now⟩ 1 }

theorem sole_editor_holds_the_seat :
    let s := (founded ⟨"Root", ⟨2, 8⟩, ⟨true, 1, ["change_"]⟩⟩ soleEditor).afterAll
      [.call (.createFolder ⟨"Assets", none, none⟩),
        .call (.assignRole ⟨⟨3⟩, .user ⟨1⟩, ⟨Supply.counted 2⟩, false⟩)]
    s.hasPermission ⟨1⟩ "change_asset" ⟨Supply.counted 2⟩ = .ok true ∧
      ⟨1⟩ ∈ s.editorSet ∧ {u | s.Edits u}.encard ≤ 1 := by
  intro s
  have asked : s.hasPermission ⟨1⟩ "change_asset" ⟨Supply.counted 2⟩ = .ok true := by
    decide +kernel
  have edit : s.terms.license.isEdit "change_asset" = true := by
    decide +kernel
  have full : (founded ⟨"Root", ⟨2, 8⟩, ⟨true, 1, ["change_"]⟩⟩ soleEditor).editorSet.size = 1 := by
    decide +kernel
  have roles : ∀ a ∈ soleEditor.assignments.all,
      ∃ role ∈ soleEditor.roles.all, role.id = a.role := by
    decide +kernel
  have started := start_founded ⟨"Root", ⟨2, 8⟩, ⟨true, 1, ["change_"]⟩⟩ soleEditor rfl rfl
  have tree : s.hierarchy.IsTree :=
    ((mirrored_of_start started).1.toGrounded.afterAll _).1.tree
  refine ⟨asked, ?_, ?_⟩
  · exact (editing_takes_a_seat.1 s tree).seated ⟨1⟩ "change_asset" edit (Or.inl ⟨_, asked⟩)
  · exact editing_takes_a_seat.2 started rfl roles (Nat.le_of_eq full) _

end System

end Perimeter
