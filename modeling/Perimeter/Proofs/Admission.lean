import Perimeter.Proofs.Entitlement
import Perimeter.Proofs.SeatCap

/-!
# Admission

What the two seat checks decide, against the editors that there would be with the row entered.
The check of a grant counts the users of the principal who are no editors; that is by how many
the editors grow, so it refuses exactly the grants that oversell (`grants_refused_exactly`). The
check of a join asks whether the group makes editors, and reads the answer off the column of the
group alone. That agrees with the editors unless the group is named only beside users, a
`FalseAlarm` (`joins_decided_but_for_false_alarms`).
-/

namespace Perimeter

namespace License

variable {l : License} {current new : Nat}

theorem checkSeats_eq_error {e : Fault} :
    l.checkSeats current new = .error e ↔
      (l.enabled = true ∧ new ≠ 0 ∧ l.seats < current + new) ∧
        e = .seatsExhausted current l.seats new := by
  unfold checkSeats
  by_cases full : l.enabled = true ∧ new ≠ 0 ∧ l.seats < current + new
  · rw [if_pos full]
    simp [full, eq_comm]
  · rw [if_neg full]
    simp [full]

theorem kind_of_checkSeats {e : Fault} (failed : l.checkSeats current new = .error e) :
    e.kind = .licenseLimit := by
  rw [(checkSeats_eq_error.mp failed).2]
  rfl

/-- The availability that is reported, saturated as it is, says whether there are seats for new
editors. -/
theorem available_lt_iff (word : l.seats ≤ maxWord32) (some : 1 ≤ new) :
    (l.status current).available < new ↔ l.seats < current + new := by
  simp only [status]
  omega

end License

namespace Registry

variable {r : Registry} {l : License} {u : UserId} {g : GroupId}

/-- With an assignment under a new id, the editors are the old ones and those whom it makes
editors. -/
theorem mem_editors_granted {a : Assignment} (fresh : r.assignments[a.id]? = none) :
    u ∈ (r.granted a).editors l ↔ u ∈ r.editors l ∨ r.Makes l a u := by
  refine ⟨of_mem_editors_granted, ?_⟩
  rw [mem_editors, mem_editors]
  simp only [granted, lookup_insert]
  rintro (⟨id, b, stored, makes⟩ | makes)
  · have other : a.id ≠ id := by
      rintro rfl
      cases fresh.symm.trans stored
    refine ⟨id, b, ?_, makes⟩
    rw [if_neg other]
    exact stored
  · exact ⟨a.id, a, if_pos rfl, makes⟩

/-- A stored assignment gives a role that makes editors to the group. -/
def GrantsGroup (r : Registry) (l : License) (g : GroupId) : Prop :=
  ∃ (id : AssignmentId) (a : Assignment), r.assignments[id]? = some a ∧
    a.principal? = some (.group g) ∧ r.makesEditors l a = true

/-- With a membership the editors are the old ones and the new member, if a role that makes
editors is given to the group. -/
theorem mem_editors_joined {m : Membership} :
    u ∈ (r.joined m).editors l ↔ u ∈ r.editors l ∨ u = m.user ∧ r.GrantsGroup l m.group := by
  rw [mem_editors, mem_editors]
  constructor
  · rintro ⟨id, a, stored, makes⟩
    obtain makes | ⟨rfl, principal, edits⟩ := makes_joined.mp makes
    · exact Or.inl ⟨id, a, stored, makes⟩
    · exact Or.inr ⟨rfl, id, a, stored, principal, edits⟩
  · rintro (⟨id, a, stored, makes⟩ | ⟨rfl, id, a, stored, principal, edits⟩)
    · exact ⟨id, a, stored, makes_joined.mpr (Or.inl makes)⟩
    · exact ⟨id, a, stored, makes_joined.mpr (Or.inr ⟨rfl, principal, edits⟩)⟩

theorem GrantsGroup.mem_editors (grants : r.GrantsGroup l g) (member : u ∈ r.membersOf g) :
    u ∈ r.editors l := by
  obtain ⟨id, a, stored, principal, edits⟩ := grants
  exact Registry.mem_editors.mpr ⟨id, a, stored, edits, .group g, principal, member⟩

/-- Assignments of roles that make editors name the group, but each of them names a user beside
it and so reaches nobody. -/
def FalseAlarm (r : Registry) (l : License) (g : GroupId) : Prop :=
  r.groupMakesEditors l g = true ∧ ∀ (id : AssignmentId) (a : Assignment),
    r.assignments[id]? = some a → a.group = some g → r.makesEditors l a = true → a.user ≠ none

theorem falseAlarm_iff :
    r.FalseAlarm l g ↔ r.groupMakesEditors l g = true ∧ ¬ r.GrantsGroup l g := by
  unfold FalseAlarm GrantsGroup
  simp only [principal?_eq_group]
  refine and_congr_right fun _ => ?_
  constructor
  · rintro named ⟨id, a, stored, ⟨alone, group⟩, edits⟩
    exact named id a stored group edits alone
  · intro ungranted id a stored group edits alone
    exact ungranted ⟨id, a, stored, ⟨alone, group⟩, edits⟩

theorem GrantsGroup.groupMakesEditors (grants : r.GrantsGroup l g) :
    r.groupMakesEditors l g = true := by
  obtain ⟨id, a, stored, principal, edits⟩ := grants
  exact groupMakesEditors_iff.mpr ⟨id, a, stored, group_of_principal? principal, edits⟩

end Registry

namespace System

variable {α : Type} {s : System}

/-- The operation fails with a fault of this kind. -/
def Fails (k : FaultKind) (out : Outcome α) : Prop := ∃ e, out.1 = .error e ∧ e.kind = k

/-- How many of the editors afterwards were none before. -/
def gained (before after : IdSet .user) : Nat := after.toList.countP fun u => !before.contains u

theorem size_eq_add_gained {before after : IdSet .user} (kept : ∀ u ∈ before, u ∈ after) :
    after.size = before.size + gained before after := by
  apply size_eq_add_countP (nodup_toList after)
  intro u
  rw [Std.ExtTreeSet.mem_toList]
  exact ⟨Or.inr, fun mem => mem.elim (kept u) id⟩

/-! ## Grants -/

section Grants
variable {d : NewAssignment} {role : Role} {a : Assignment}

/-- The role, the principal and the folder of a request are there. -/
structure Finds (s : System) (d : NewAssignment) (role : Role) : Prop where
  role : s.registry.roles[d.role]? = some role
  principal : s.registry.hasPrincipal d.principal = true
  folder : s.hierarchy.contains d.folder = true

/-- The storage accepts the row of a request, under an id that no assignment in memory has. -/
structure AcceptsGrant (s : System) (d : NewAssignment) (a : Assignment) : Prop where
  written : (Storage.create .assignments (fun bits now => .ofNew d ⟨bits⟩ now) s.storage).1 = .ok a
  fresh : s.registry.assignments[a.id]? = none

/-- The editors that there would be with an assignment. -/
def editorsWith (s : System) (a : Assignment) : IdSet .user :=
  (s.registry.granted a).editors s.terms.license

/-- The row that the storage accepts is the one that was asked for. -/
theorem AcceptsGrant.ofNew (accepts : s.AcceptsGrant d a) :
    a.role = d.role ∧ a.principal? = some d.principal := by
  obtain ⟨bits, now, t, rfl, _⟩ := Storage.create_eq_ok accepts.written
  exact ⟨rfl, principal?_ofNew d _ _⟩

/-- Where memory mirrors the tables, an id that is new to the storage is new in memory. -/
theorem Mirrored.acceptsGrant (mirrored : s.Mirrored)
    (written : (Storage.create .assignments (fun bits now => .ofNew d ⟨bits⟩ now) s.storage).1 =
      .ok a) : s.AcceptsGrant d a := by
  refine ⟨written, ?_⟩
  obtain ⟨_, _, t, _, entered⟩ := Storage.create_eq_ok written
  rw [mirrored.registry.assignments, Table.getElem?_contents]
  exact (Table.contents_of_create entered).1

theorem mem_editorsWith (finds : s.Finds d role) (accepts : s.AcceptsGrant d a) {u : UserId} :
    u ∈ s.editorsWith a ↔ u ∈ s.editorSet ∨
      s.terms.license.grantsEdit role = true ∧ u ∈ s.registry.principalUsers d.principal := by
  obtain ⟨named, principal⟩ := accepts.ofNew
  have known : s.registry.roles[a.role]? = some role := by rw [named, finds.role]
  rw [editorsWith, Registry.mem_editors_granted accepts.fresh, Registry.makes_iff known principal]
  rfl

theorem size_editorsWith (finds : s.Finds d role) (accepts : s.AcceptsGrant d a) :
    (s.editorsWith a).size = s.editorSet.size + gained s.editorSet (s.editorsWith a) :=
  size_eq_add_gained fun _ old => (mem_editorsWith finds accepts).mpr (Or.inl old)

/-- The check counts by how many the editors would grow. -/
theorem newEditors_eq_gained (finds : s.Finds d role) (accepts : s.AcceptsGrant d a)
    (edits : s.terms.license.grantsEdit role = true) :
    s.newEditors d.principal = gained s.editorSet (s.editorsWith a) := by
  have grown : (s.editorsWith a).size = s.editorSet.size + s.newEditors d.principal := by
    apply size_eq_add_countP (nodup_toList (s.registry.principalUsers d.principal))
    intro u
    rw [mem_editorsWith finds accepts, Std.ExtTreeSet.mem_toList]
    simp only [edits, true_and]
  have total := size_editorsWith finds accepts
  omega

theorem gained_of_plain (finds : s.Finds d role) (accepts : s.AcceptsGrant d a)
    (plain : s.terms.license.grantsEdit role = false) :
    gained s.editorSet (s.editorsWith a) = 0 := by
  rw [gained, List.countP_eq_zero]
  intro u mem
  rw [Std.ExtTreeSet.mem_toList, mem_editorsWith finds accepts] at mem
  have old : u ∈ s.editorSet := mem.resolve_right fun ⟨edits, _⟩ => by simp [plain] at edits
  simp [Std.ExtTreeSet.contains_iff_mem.mpr old]

/-- The check fails for want of seats exactly if the editors would grow beyond them. -/
theorem admitGrant_eq_error (finds : s.Finds d role) (accepts : s.AcceptsGrant d a) :
    (∃ e, s.admitGrant role d.principal = .error e) ↔
      s.terms.license.enabled = true ∧ 1 ≤ gained s.editorSet (s.editorsWith a) ∧
        s.terms.license.seats < s.editorSet.size + gained s.editorSet (s.editorsWith a) := by
  unfold admitGrant
  by_cases edits : s.terms.license.grantsEdit role = true
  · rw [if_pos edits, newEditors_eq_gained finds accepts edits]
    simp only [License.checkSeats_eq_error, exists_and_left, exists_eq, and_true,
      Nat.one_le_iff_ne_zero]
    rfl
  · rw [if_neg edits, gained_of_plain finds accepts (by simpa using edits)]
    simp

theorem kind_of_admitGrant {p : Principal} {e : Fault} (failed : s.admitGrant role p = .error e) :
    e.kind = .licenseLimit := by
  unfold admitGrant at failed
  split at failed
  · exact License.kind_of_checkSeats failed
  · cases failed

/-- Once everything is found, the check of the seats decides alone. -/
theorem assignRole_of_finds (finds : s.Finds d role) : s.assignRole d =
    s.check (s.admitGrant role d.principal) fun _ =>
      s.commit (Storage.create .assignments fun bits now => .ofNew d ⟨bits⟩ now)
        fun s a => { s with registry := s.registry.granted a } := by
  unfold assignRole
  rw [requireRole_eq_ok.mpr finds.role, requirePrincipal_eq_ok.mpr finds.principal,
    requireFolder_eq_ok.mpr finds.folder]
  rfl

theorem assignRole_of_refused (finds : s.Finds d role) {e : Fault}
    (refused : s.admitGrant role d.principal = .error e) : s.assignRole d = (.error e, s) := by
  rw [assignRole_of_finds finds, refused]
  rfl

/-- A grant that is found and admitted is written. -/
theorem assignRole_of_admitted (finds : s.Finds d role) (accepts : s.AcceptsGrant d a)
    (admitted : s.admitGrant role d.principal = .ok ()) :
    ∃ s', s.assignRole d = (.ok a, s') ∧ s'.editorSet = s.editorsWith a := by
  rw [assignRole_of_finds finds, admitted]
  have written := accepts.written
  dsimp only [check, commit]
  split
  · next failed =>
    rw [failed] at written
    cases written
  · next done =>
    rw [done] at written
    cases written
    exact ⟨_, rfl, rfl⟩

/-- A grant fails for want of seats exactly if its check does. -/
theorem fails_assignRole_iff (finds : s.Finds d role) (accepts : s.AcceptsGrant d a) :
    Fails .licenseLimit (s.assignRole d) ↔ ∃ e, s.admitGrant role d.principal = .error e := by
  cases decided : s.admitGrant role d.principal with
  | error e =>
    rw [assignRole_of_refused finds decided]
    exact ⟨fun _ => ⟨e, rfl⟩, fun _ => ⟨e, rfl, kind_of_admitGrant decided⟩⟩
  | ok =>
    obtain ⟨s', done, _⟩ := assignRole_of_admitted finds accepts decided
    simp [Fails, done]

/-- What becomes of a grant: it is refused, for want of seats, exactly if the editors would grow
beyond them, and else it makes editors of its principal's users if its role does that. -/
structure GrantDecided (s : System) (d : NewAssignment) (role : Role) (a : Assignment) :
    Prop where
  oversold_iff : Fails .licenseLimit (s.assignRole d) ↔
    s.terms.license.enabled = true ∧ s.terms.license.grantsEdit role = true ∧
      s.editorSet.size < (s.editorsWith a).size ∧
        s.terms.license.seats < (s.editorsWith a).size
  unavailable_iff : Fails .licenseLimit (s.assignRole d) ↔
    s.terms.license.enabled = true ∧ 1 ≤ gained s.editorSet (s.editorsWith a) ∧
      s.seatStatus.available < gained s.editorSet (s.editorsWith a)
  granted : ¬ Fails .licenseLimit (s.assignRole d) →
    ∃ s', s.assignRole d = (.ok a, s') ∧
      ∀ u, u ∈ s'.editorSet ↔ u ∈ s.editorSet ∨
        s.terms.license.grantsEdit role = true ∧ u ∈ s.registry.principalUsers d.principal

/-- The seat check of a grant is exact, over every registry, within its cap or not. -/
theorem grants_refused_exactly (s : System) {d : NewAssignment} {role : Role} {a : Assignment}
    (word : s.terms.license.seats ≤ maxWord32) (finds : s.Finds d role)
    (accepts : s.AcceptsGrant d a) : s.GrantDecided d role a := by
  have refused_iff := (fails_assignRole_iff finds accepts).trans (admitGrant_eq_error finds accepts)
  have total := size_editorsWith finds accepts
  constructor
  · rw [refused_iff, total]
    constructor
    · rintro ⟨enforced, some, beyond⟩
      refine ⟨enforced, ?_, by omega, beyond⟩
      by_contra plain
      have none := gained_of_plain finds accepts (by simpa using plain)
      omega
    · rintro ⟨enforced, _, grows, beyond⟩
      exact ⟨enforced, by omega, beyond⟩
  · rw [refused_iff]
    refine and_congr_right fun _ => and_congr_right fun some => ?_
    exact (License.available_lt_iff word some).symm
  · intro allowed
    have admitted : s.admitGrant role d.principal = .ok () := by
      cases decided : s.admitGrant role d.principal with
      | error e => exact absurd ((fails_assignRole_iff finds accepts).mpr ⟨e, decided⟩) allowed
      | ok => rfl
    obtain ⟨s', done, editors⟩ := assignRole_of_admitted finds accepts admitted
    refine ⟨s', done, ?_⟩
    intro u
    rw [editors, mem_editorsWith finds accepts]

/-- Where the one seat is taken, a second user is refused it. -/
theorem second_editor_refused :
    let s := founded ⟨"Root", ⟨2, 8⟩, ⟨true, 1, ["change_"]⟩⟩ staffed
    let d : NewAssignment := ⟨⟨3⟩, .user ⟨2⟩, ⟨Supply.counted 1⟩, true⟩
    s.seatStatus.available = 0 ∧ Fails .licenseLimit (s.assignRole d) := by
  intro s d
  let now := Instant.ofParts 1704067200 0
  have mirrored : s.Mirrored := (mirrored_of_start (start_founded s.terms staffed rfl rfl)).1
  have finds : s.Finds d ⟨⟨3⟩, "Editor", none, ["change_asset"], false, now⟩ := by
    refine ⟨by decide +kernel, ?_, by decide +kernel⟩
    change s.registry.users.contains ⟨2⟩ = true
    rw [mirrored.registry.users]
    change staffed.users.contents.contains ⟨2⟩ = true
    decide +kernel
  have accepts : s.AcceptsGrant d (.ofNew d ⟨Supply.counted 2⟩ (.ofParts 1704067201 0)) :=
    mirrored.acceptsGrant (by decide +kernel)
  have decided := grants_refused_exactly s (by decide) finds accepts
  refine ⟨by decide +kernel, ?_⟩
  rw [decided.unavailable_iff]
  decide +kernel

end Grants

/-! ## Joins -/

section Joins
variable {user : UserId} {group : GroupId}

/-- The editors that there would be with a membership that begins at the given time. -/
def editorsJoined (s : System) (user : UserId) (group : GroupId) (now : Instant) : IdSet .user :=
  (s.registry.joined (.ofKey ⟨user, group⟩ now)).editors s.terms.license

theorem mem_editorsJoined {now : Instant} {u : UserId} :
    u ∈ s.editorsJoined user group now ↔
      u ∈ s.editorSet ∨ u = user ∧ s.registry.GrantsGroup s.terms.license group :=
  Registry.mem_editors_joined

/-- The join would make an editor of the user, for whom there is no seat. -/
structure LacksSeat (s : System) (user : UserId) (group : GroupId) (now : Instant) : Prop where
  enforced : s.terms.license.enabled = true
  new : user ∉ s.editorSet
  made : user ∈ s.editorsJoined user group now
  beyond : s.terms.license.seats < (s.editorsJoined user group now).size

theorem lacksSeat_iff {now : Instant} :
    s.LacksSeat user group now ↔
      (s.terms.license.enabled = true ∧ user ∉ s.editorSet ∧
        s.terms.license.seats ≤ s.editorSet.size) ∧
          s.registry.GrantsGroup s.terms.license group := by
  have grown (new : user ∉ s.editorSet) (grants : s.registry.GrantsGroup s.terms.license group) :
      (s.editorsJoined user group now).size = s.editorSet.size + 1 := by
    have counted := size_eq_add_countP (s := s.editorSet)
      (t := s.editorsJoined user group now) (List.nodup_singleton user) <| by
        intro u
        simp [mem_editorsJoined, grants]
    have absent : s.editorSet.contains user = false := by
      rw [← Bool.not_eq_true, Std.ExtTreeSet.contains_iff_mem]
      exact new
    simpa [absent] using counted
  constructor
  · rintro ⟨enforced, new, made, beyond⟩
    have grants := ((mem_editorsJoined.mp made).resolve_left new).2
    rw [grown new grants] at beyond
    exact ⟨⟨enforced, new, by omega⟩, grants⟩
  · rintro ⟨⟨enforced, new, full⟩, grants⟩
    refine ⟨enforced, new, mem_editorsJoined.mpr (Or.inr ⟨rfl, grants⟩), ?_⟩
    rw [grown new grants]
    omega

theorem kind_of_admitMember {e : Fault} (failed : s.admitMember user group = .error e) :
    e.kind = .licenseLimit := by
  unfold admitMember at failed
  split at failed
  · exact License.kind_of_checkSeats failed
  · cases failed

/-- The check of a join looks at the group, the user and the seats. -/
theorem admitMember_fails_iff :
    (∃ e, s.admitMember user group = .error e) ↔
      (s.terms.license.enabled = true ∧ user ∉ s.editorSet ∧
        s.terms.license.seats ≤ s.editorSet.size) ∧
          s.registry.groupMakesEditors s.terms.license group = true := by
  unfold admitMember
  by_cases alarm : s.registry.groupMakesEditors s.terms.license group = true
  · rw [if_pos alarm]
    simp only [License.checkSeats_eq_error, exists_and_left, exists_eq, and_true, alarm]
    refine and_congr_right fun _ => ?_
    change (if s.editorSet.contains user then 0 else 1) ≠ 0 ∧ s.terms.license.seats <
      s.editorSet.size + (if s.editorSet.contains user then 0 else 1) ↔ _
    rw [← Std.ExtTreeSet.contains_iff_mem]
    cases s.editorSet.contains user with
    | true => simp
    | false =>
      simp only [Bool.false_eq_true, if_false, not_false_eq_true, true_and]
      omega
  · simp [alarm]

/-- Where user and group are there, a join fails for want of seats exactly if the user is no
member yet and the check fails. -/
theorem fails_addMember_iff {row : User} (known : s.registry.users[user]? = some row)
    (present : s.registry.groups.contains group = true) :
    Fails .licenseLimit (s.addMember user group) ↔
      s.registry.memberships[(⟨user, group⟩ : MemberKey)]? = none ∧
        ∃ e, s.admitMember user group = .error e := by
  unfold addMember
  rw [requireUser_eq_ok.mpr known, requireGroup_eq_ok.mpr present]
  dsimp only [check]
  split
  · next m already => simp [Fails, already]
  · next free =>
    cases decided : s.admitMember user group with
    | error e =>
      exact ⟨fun _ => ⟨free, e, rfl⟩, fun _ => ⟨e, rfl, kind_of_admitMember decided⟩⟩
    | ok =>
      -- the write may fail as well, but not for want of seats
      simp only [reduceCtorEq, exists_false, and_false, iff_false]
      rintro ⟨e, failed, kind⟩
      obtain ⟨storage, unwritten⟩ := commit_eq_error (Prod.ext failed rfl)
      obtain ⟨rfl, _⟩ | ⟨q, full⟩ := Storage.put_eq_error unwritten
      · cases kind
      · rw [Table.create_eq_error full] at kind
        cases kind

/-- What becomes of a join: the check takes the user for a new editor, and refuses the user a
seat, exactly when the editors say so, unless the group raises a false alarm. -/
structure JoinDecided (s : System) (user : UserId) (group : GroupId) (now : Instant) : Prop where
  foreseen_iff : user ∉ s.editorSet →
    ((s.registry.groupMakesEditors s.terms.license group = true ↔
        user ∈ s.editorsJoined user group now) ↔
      ¬ s.registry.FalseAlarm s.terms.license group)
  refused_iff : (∃ row, s.registry.users[user]? = some row) →
    s.registry.groups.contains group = true →
    ((Fails .licenseLimit (s.addMember user group) ↔ s.LacksSeat user group now) ↔
      ¬ (s.registry.FalseAlarm s.terms.license group ∧
        s.registry.memberships[(⟨user, group⟩ : MemberKey)]? = none ∧
          s.terms.license.enabled = true ∧ user ∉ s.editorSet ∧
            s.terms.license.seats ≤ s.editorSet.size))

/-- A join is decided as the editors say, over every registry, but for false alarms. -/
theorem joins_decided_but_for_false_alarms (s : System) (user : UserId) (group : GroupId)
    (now : Instant) : s.JoinDecided user group now := by
  have alarms : s.registry.GrantsGroup s.terms.license group →
      s.registry.groupMakesEditors s.terms.license group = true := (·.groupMakesEditors)
  constructor
  · intro new
    rw [mem_editorsJoined, Registry.falseAlarm_iff]
    simp only [new, false_or, true_and]
    constructor
    · rintro same ⟨alarm, ungranted⟩
      exact ungranted (same.mp alarm)
    · intro quiet
      refine ⟨fun alarm => ?_, alarms⟩
      by_contra ungranted
      exact quiet ⟨alarm, ungranted⟩
  · rintro ⟨row, known⟩ present
    rw [fails_addMember_iff known present, admitMember_fails_iff, lacksSeat_iff,
      Registry.falseAlarm_iff]
    constructor
    · rintro same ⟨⟨alarm, ungranted⟩, free, full⟩
      exact ungranted (same.mp ⟨free, full, alarm⟩).2
    · intro quiet
      constructor
      · rintro ⟨free, full, alarm⟩
        refine ⟨full, ?_⟩
        by_contra ungranted
        exact quiet ⟨⟨alarm, ungranted⟩, free, full⟩
      · rintro ⟨full, grants⟩
        refine ⟨?_, full, alarms grants⟩
        -- a member would be an editor already
        rw [Option.eq_none_iff_forall_ne_some]
        intro m member
        exact full.2.1 (grants.mem_editors (Registry.mem_membersOf.mpr ⟨m, member⟩))

/-- Two groups and a role that makes editors. The role is given to one group; the row that names
the other group names a user as well. No seat is free. -/
def doubled : System :=
  let now := Instant.ofParts 1704067200 0
  let root : FolderId := ⟨Supply.counted 1⟩
  { founded ⟨"Root", ⟨2, 8⟩, ⟨true, 0, ["change_"]⟩⟩ .empty with
    registry := .ofRows [⟨⟨1⟩, "ann@example.org", none, none, true, now, now⟩]
      [⟨⟨2⟩, "Editor", none, ["change_asset"], false, now⟩]
      [⟨⟨3⟩, "Staff", root, false, now⟩, ⟨⟨4⟩, "Guests", root, false, now⟩] []
      [⟨⟨5⟩, ⟨2⟩, none, some ⟨3⟩, root, true, now⟩,
        ⟨⟨6⟩, ⟨2⟩, some ⟨7⟩, some ⟨4⟩, root, true, now⟩] }

theorem staff_refused_for_want_of_seat :
    let now := Instant.ofParts 1704067200 0
    doubled.LacksSeat ⟨1⟩ ⟨3⟩ now ∧ Fails .licenseLimit (doubled.addMember ⟨1⟩ ⟨3⟩) := by
  intro now
  have lacks : doubled.LacksSeat ⟨1⟩ ⟨3⟩ now :=
    ⟨rfl, by decide +kernel, by decide +kernel, by decide +kernel⟩
  have quiet : ¬ doubled.registry.FalseAlarm doubled.terms.license ⟨3⟩ := by
    rw [Registry.falseAlarm_iff]
    rintro ⟨_, ungranted⟩
    exact ungranted (lacksSeat_iff.mp lacks).2
  have decided := (joins_decided_but_for_false_alarms doubled ⟨1⟩ ⟨3⟩ now).refused_iff
    ⟨_, rfl⟩ (by decide +kernel)
  have refused := decided.mpr fun alarmed => quiet alarmed.1
  exact ⟨lacks, refused.mpr lacks⟩

/-- The other group raises a false alarm: it would make nobody an editor, and is refused all the
same. -/
theorem guest_refused_without_need :
    let now := Instant.ofParts 1704067200 0
    let joined := doubled.editorsJoined ⟨1⟩ ⟨4⟩ now
    (doubled.registry.isMember ⟨1⟩ ⟨4⟩ = false ∧ ⟨1⟩ ∉ doubled.editorSet) ∧
      ¬ (doubled.registry.groupMakesEditors doubled.terms.license ⟨4⟩ = true ↔ ⟨1⟩ ∈ joined) ∧
      ¬ (Fails .licenseLimit (doubled.addMember ⟨1⟩ ⟨4⟩) ↔ doubled.LacksSeat ⟨1⟩ ⟨4⟩ now) := by
  intro now joined
  have alarm : doubled.registry.groupMakesEditors doubled.terms.license ⟨4⟩ = true := by
    decide +kernel
  have unmade : ⟨1⟩ ∉ joined := by decide +kernel
  have refused : Fails .licenseLimit (doubled.addMember ⟨1⟩ ⟨4⟩) :=
    ⟨.seatsExhausted 0 0 1, by decide +kernel, rfl⟩
  refine ⟨by decide +kernel, ?_, ?_⟩
  · exact fun same => unmade (same.mp alarm)
  · exact fun same => unmade (same.mp refused).made

end Joins

end System

end Perimeter
