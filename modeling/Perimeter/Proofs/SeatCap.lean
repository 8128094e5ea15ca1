import Perimeter.Proofs.Editors
import Perimeter.Proofs.Runs

/-!
# The seat cap

Where a license is enforced, no step oversells its seats: either it makes nobody an editor who
was none, or the editors are at most as many as the seats afterwards (`capped_of_wrote`). The
other changes cannot make editors because every stored assignment names a stored role, so that
a new role finds no assignment waiting for it (`RolesStored`).
-/

namespace Perimeter

namespace Registry

variable {l : License} {a : Assignment} {u : UserId}

/-- Every assignment names a role that is stored. -/
def RolesStored (r : Registry) : Prop :=
  ∀ (id : AssignmentId) (a : Assignment), r.assignments[id]? = some a →
    ∃ role, r.roles[a.role]? = some role

/-- Without a membership an assignment reaches no more than with it. -/
theorem makes_of_leave {r : Registry} {k : MemberKey}
    (makes : ({ r with memberships := r.memberships.erase k } : Registry).Makes l a u) :
    r.Makes l a u := by
  obtain ⟨edits, p, principal, reached⟩ := makes
  refine ⟨edits, p, principal, ?_⟩
  cases p with
  | user v => exact reached
  | group g =>
    obtain ⟨m, stored⟩ := mem_membersOf.mp reached
    rw [lookup_erase] at stored
    split at stored
    · cases stored
    · exact mem_membersOf.mpr ⟨m, stored⟩

/-- A new role makes no editors, since no stored assignment names it. -/
theorem makes_of_addRole {r : Registry} {role : Role} (fresh : r.roles[role.id]? = none)
    (named : ∃ old, r.roles[a.role]? = some old)
    (makes : ({ r with roles := r.roles.insert role.id role } : Registry).Makes l a u) :
    r.Makes l a u := by
  obtain ⟨edits, reaches⟩ := makes
  refine ⟨?_, reaches⟩
  obtain ⟨given, found, grants⟩ := makesEditors_iff.mp edits
  rw [lookup_insert] at found
  split at found
  · next same =>
    obtain ⟨old, stored⟩ := named
    rw [← same, fresh] at stored
    cases stored
  · exact makesEditors_iff.mpr ⟨given, found, grants⟩

/-- Where every assignment that makes an editor did so before, no editor is new. -/
theorem editors_subset {r r' : Registry}
    (before : ∀ (id : AssignmentId) (a : Assignment) u, r'.assignments[id]? = some a →
      r'.Makes l a u → r.assignments[id]? = some a ∧ r.Makes l a u) :
    ∀ u ∈ r'.editors l, u ∈ r.editors l := by
  intro u mem
  obtain ⟨id, a, stored, makes⟩ := mem_editors.mp mem
  obtain ⟨stored', makes'⟩ := before id a u stored makes
  exact mem_editors.mpr ⟨id, a, stored', makes'⟩

end Registry

namespace System

variable {s s' : System} {c : Change}

/-- The users who hold a seat. -/
def editorSet (s : System) : IdSet .user := s.registry.editors s.terms.license

/-- No editor is new, or there are seats for all of them. -/
def Capped (seats : Nat) (before after : IdSet .user) : Prop :=
  (∀ u ∈ after, u ∈ before) ∨ after.size ≤ seats

theorem Capped.refl (seats : Nat) (editors : IdSet .user) : Capped seats editors editors :=
  Or.inl fun _ mem => mem

theorem Capped.size_le {seats : Nat} {before after : IdSet .user}
    (capped : Capped seats before after) (within : before.size ≤ seats) : after.size ≤ seats := by
  obtain sub | few := capped
  · exact Nat.le_trans (size_le_size sub) within
  · exact few

theorem Capped.trans {seats : Nat} {a b c : IdSet .user} (first : Capped seats a b)
    (second : Capped seats b c) : Capped seats a c := by
  obtain sub | few := first
  · obtain sub' | few' := second
    · exact Or.inl fun u mem => sub u (sub' u mem)
    · exact Or.inr few'
  · exact Or.inr (second.size_le few)

/-- Editors that were checked against the seats keep to them. -/
theorem capped_of_checked {l : License} (enforced : l.enabled = true) {before after : IdSet .user}
    {added : List UserId} (checked : l.checkSeats before.size added.length = .ok ())
    (within : ∀ u ∈ after, u ∈ before ∨ u ∈ added) : Capped l.seats before after := by
  obtain nobody | fits := (License.checkSeats_eq_ok enforced).mp checked
  · left
    intro u mem
    rw [List.length_eq_zero_iff.mp nobody] at within
    exact (within u mem).resolve_right List.not_mem_nil
  · right
    have bound : after.size ≤ (before.toList ++ added).length := by
      apply size_le_length
      intro u mem
      rw [List.mem_append, Std.ExtTreeSet.mem_toList]
      exact within u mem
    rw [List.length_append, Std.ExtTreeSet.length_toList] at bound
    omega

/-! ## The two checks -/

/-- A user who was let into a group keeps to the seats. -/
theorem capped_addMember (enforced : s.terms.license.enabled = true) {m : Membership}
    (admitted : s.admitMember m.user m.group = .ok ()) :
    Capped s.terms.license.seats s.editorSet
      ((s.registry.joined m).editors s.terms.license) := by
  unfold admitMember at admitted
  split at admitted
  -- the group makes editors, and the user was counted; or it makes none, and nothing changes
  · have checked : s.terms.license.checkSeats s.editorSet.size
        (if s.editorSet.contains m.user then [] else [m.user]).length = .ok () := by
      rw [← admitted]
      unfold editorSet
      dsimp only
      split <;> rfl
    apply capped_of_checked enforced checked
    intro u mem
    obtain ⟨id, a, stored, makes⟩ := Registry.mem_editors.mp mem
    obtain makes | ⟨rfl, _⟩ := Registry.makes_joined.mp makes
    · exact Or.inl (Registry.mem_editors.mpr ⟨id, a, stored, makes⟩)
    · split
      · next already => exact Or.inl (Std.ExtTreeSet.contains_iff_mem.mp already)
      · exact Or.inr (List.mem_singleton_self _)
  · next plain =>
    left
    apply Registry.editors_subset
    intro id a u stored makes
    refine ⟨stored, ?_⟩
    obtain makes | ⟨_, principal, edits⟩ := Registry.makes_joined.mp makes
    · exact makes
    · have named := group_of_principal? principal
      exact absurd (Registry.groupMakesEditors_iff.mpr ⟨id, a, stored, named, edits⟩) plain

/-- A grant that was admitted keeps to the seats. -/
theorem capped_addAssignment (enforced : s.terms.license.enabled = true) {a : Assignment}
    {role : Role} {p : Principal} (found : s.registry.roles[a.role]? = some role)
    (principal : a.principal? = some p) (admitted : s.admitGrant role p = .ok ()) :
    Capped s.terms.license.seats s.editorSet
      ((s.registry.granted a).editors s.terms.license) := by
  -- an editor afterwards is one because of an old assignment, or because of this one
  have sources : ∀ u ∈ (s.registry.granted a).editors s.terms.license,
      u ∈ s.editorSet ∨ s.terms.license.grantsEdit role = true ∧
        u ∈ s.registry.principalUsers p := by
    intro u mem
    obtain old | makes := Registry.of_mem_editors_granted mem
    · exact Or.inl old
    · exact Or.inr ((Registry.makes_iff found principal).mp makes)
  unfold admitGrant at admitted
  split at admitted
  · rw [newEditors_eq] at admitted
    apply capped_of_checked enforced admitted
    intro u mem
    obtain old | ⟨_, reached⟩ := sources u mem
    · exact Or.inl old
    · by_cases already : u ∈ s.editorSet
      · exact Or.inl already
      · right
        rw [List.mem_filter, Std.ExtTreeSet.mem_toList]
        refine ⟨reached, ?_⟩
        rw [Bool.not_eq_true', ← Bool.not_eq_true, Std.ExtTreeSet.contains_iff_mem]
        exact already
  · next plain =>
    left
    intro u mem
    exact (sources u mem).resolve_right fun ⟨grants, _⟩ => plain grants

/-! ## Steps and runs -/

/-- What the cap rests on beside the checks. -/
structure Licensed (s : System) : Prop where
  mirrored : s.Mirrored
  enforced : s.terms.license.enabled = true
  rolesStored : s.registry.RolesStored

theorem rolesStored_of_wrote (stored : s.registry.RolesStored) (wrote : s.Wrote c s') :
    s'.registry.RolesStored := by
  obtain ⟨checked, tables, p, entered, rfl⟩ := wrote
  cases c with
  | addRole role =>
    intro id a found
    obtain ⟨old, named⟩ := stored id a found
    change ∃ r, (s.registry.roles.insert role.id role)[a.role]? = some r
    rw [lookup_insert]
    split
    · exact ⟨role, rfl⟩
    · exact ⟨old, named⟩
  | addAssignment b =>
    obtain ⟨role, _, named, _⟩ := checked
    exact forall_insert stored ⟨role, named⟩ b.id
  | dropAssignment b => exact forall_erase stored b
  | _ => exact stored

/-- A write makes nobody an editor who was none, or leaves enough seats for all. -/
theorem capped_of_wrote (licensed : s.Licensed) (wrote : s.Wrote c s') :
    Capped s.terms.license.seats s.editorSet s'.editorSet := by
  obtain ⟨mirrored, enforced, rolesStored⟩ := licensed
  obtain ⟨checked, tables, p, entered, rfl⟩ := wrote
  cases c with
  | addFolder | saveFolder | dropFolder | addUser | saveUser | addGroup => exact .refl _ _
  | addRole role =>
    obtain ⟨t, created, rfl⟩ := map_eq_ok.mp entered
    have fresh : s.registry.roles[role.id]? = none := by
      rw [mirrored.registry.roles, Table.getElem?_contents]
      exact (Table.contents_of_create created).1
    left
    apply Registry.editors_subset
    intro id a u stored makes
    exact ⟨stored, Registry.makes_of_addRole fresh (rolesStored id a stored) makes⟩
  | addMember m => exact capped_addMember enforced checked.2.2.2
  | dropMember k =>
    left
    apply Registry.editors_subset
    intro id a u stored makes
    exact ⟨stored, Registry.makes_of_leave makes⟩
  | addAssignment a =>
    obtain ⟨role, p, found, principal, _, _, admitted⟩ := checked
    exact capped_addAssignment enforced found principal admitted
  | dropAssignment b =>
    left
    apply Registry.editors_subset
    intro id a u stored makes
    change (s.registry.assignments.erase b)[id]? = some a at stored
    rw [lookup_erase] at stored
    split at stored
    · cases stored
    · exact ⟨stored, makes⟩

theorem Licensed.step (licensed : s.Licensed) (step : Step s s') :
    s'.Licensed ∧ s'.terms = s.terms ∧
      Capped s.terms.license.seats s.editorSet s'.editorSet := by
  obtain ⟨mirrored, terms⟩ := licensed.mirrored.step step
  cases step with
  | idle p => exact ⟨⟨mirrored, licensed.enforced, licensed.rolesStored⟩, rfl, .refl _ _⟩
  | write wrote =>
    refine ⟨⟨mirrored, ?_, rolesStored_of_wrote licensed.rolesStored wrote⟩, terms,
      capped_of_wrote licensed wrote⟩
    rw [terms]
    exact licensed.enforced

theorem Licensed.leads (licensed : s.Licensed) (leads : Leads s s') :
    s'.Licensed ∧ s'.terms = s.terms ∧
      Capped s.terms.license.seats s.editorSet s'.editorSet := by
  refine leads.induction (P := fun t => t.Licensed ∧ t.terms = s.terms ∧
    Capped s.terms.license.seats s.editorSet t.editorSet) ⟨licensed, rfl, .refl _ _⟩ ?_
  rintro t t' ⟨held, terms, capped⟩ next
  obtain ⟨held', terms', capped'⟩ := held.step next
  rw [terms] at terms' capped'
  exact ⟨held', terms', capped.trans capped'⟩

theorem licensed_of_start {terms : Terms} {storage storage' : Storage} {s₀ : System}
    (started : start terms storage = (.ok s₀, storage')) (enforced : terms.license.enabled = true)
    (stored : ∀ a ∈ storage.assignments.all, ∃ role ∈ storage.roles.all, role.id = a.role) :
    s₀.Licensed := by
  obtain ⟨mirrored, rfl, rfl, t, p, tables⟩ := mirrored_of_start started
  refine ⟨mirrored, enforced, ?_⟩
  intro id a found
  rw [mirrored.registry.assignments, Table.getElem?_contents, tables] at found
  obtain ⟨role, listed, named⟩ := stored a (Table.find?_eq_some.mp found).1
  refine ⟨role, ?_⟩
  rw [mirrored.registry.roles, Table.getElem?_contents, tables, ← named]
  exact Table.mem_all.mp listed

/-- Seats are never oversold, whatever is called and whichever writes fail. No step makes an
editor beyond the seats; a system loaded within its cap stays within it, and one that is above
its cap has no editor that it was not loaded with. -/
theorem seats_never_oversold {terms : Terms} {storage storage' : Storage} {s₀ : System}
    (started : start terms storage = (.ok s₀, storage')) (enforced : terms.license.enabled = true)
    (stored : ∀ a ∈ storage.assignments.all, ∃ role ∈ storage.roles.all, role.id = a.role)
    (events : List Event) :
    let s := s₀.afterAll events
    (∀ e, Capped terms.license.seats s.editorSet (s.after e).editorSet) ∧
      (s₀.editorSet.size ≤ terms.license.seats → s.editorSet.size ≤ terms.license.seats) ∧
      (terms.license.seats < s.editorSet.size → ∀ u ∈ s.editorSet, u ∈ s₀.editorSet) := by
  have licensed₀ := licensed_of_start started enforced stored
  obtain ⟨_, rfl, _⟩ := mirrored_of_start started
  obtain ⟨licensed, terms, capped⟩ := licensed₀.leads (leads_afterAll s₀ events)
  refine ⟨?_, capped.size_le, ?_⟩
  · intro e
    rw [← terms]
    exact (licensed.leads (leads_after _ e)).2.2
  · intro above
    exact capped.resolve_right (Nat.not_le_of_gt above)

/-- Two users, the first of whom is an editor. -/
def staffed : Storage :=
  let now := Instant.ofParts 1704067200 0
  let ann : User := ⟨⟨1⟩, "ann@example.org", none, none, true, now, now⟩
  let bob : User := ⟨⟨2⟩, "bob@example.org", none, none, true, now, now⟩
  { Storage.empty with
    users := (Table.lay .empty 0 ann 1).lay 1 bob 2
    roles := .lay .empty 0 ⟨⟨3⟩, "Editor", none, ["change_asset"], false, now⟩ 1
    assignments := .lay .empty 0 ⟨⟨4⟩, ⟨3⟩, some ⟨1⟩, none, ⟨5⟩, true, now⟩ 1 }

theorem staffed_not_oversold :
    let s₀ := founded ⟨"Root", ⟨2, 8⟩, ⟨true, 1, ["change_"]⟩⟩ staffed
    let s := s₀.afterAll [.call (.assignRole ⟨⟨3⟩, .user ⟨2⟩, ⟨Supply.counted 1⟩, true⟩)]
    s₀.editorSet.size = 1 ∧ s.editorSet.size ≤ 1 := by
  intro s₀ s
  have full : s₀.editorSet.size = 1 := by decide +kernel
  have roles : ∀ a ∈ staffed.assignments.all, ∃ role ∈ staffed.roles.all, role.id = a.role := by
    decide +kernel
  have kept := seats_never_oversold (start_founded s₀.terms staffed rfl rfl) rfl roles
    [.call (.assignRole ⟨⟨3⟩, .user ⟨2⟩, ⟨Supply.counted 1⟩, true⟩)]
  exact ⟨full, kept.2.1 (Nat.le_of_eq full)⟩

end System

end Perimeter
