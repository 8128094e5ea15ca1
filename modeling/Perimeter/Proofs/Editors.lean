import Perimeter.Proofs.Tables
import Perimeter.System.Access

/-!
# Who is an editor

Editors are read off three tables at once. `mem_editors` says which users they are, and
`groupMakesEditors_iff` and `newEditors_eq` say what the two checks look at that predict how
their number changes. `makes_joined` and `of_mem_editors_granted` say how one more row changes
them.
-/

namespace Perimeter

namespace Registry

variable {r : Registry} {l : License} {u : UserId} {g : GroupId} {a : Assignment}

theorem mem_membersOf :
    u ∈ r.membersOf g ↔ ∃ m, r.memberships[(⟨u, g⟩ : MemberKey)]? = some m := by
  rw [membersOf, mem_ofList_keys]
  simp only [Option.ite_none_right_eq_some, Option.some.injEq]
  constructor
  · rintro ⟨k, member, rfl, rfl⟩
    exact member
  · intro member
    exact ⟨⟨u, g⟩, member, rfl, rfl⟩

/-- An assignment of a role that makes editors reaches the user. -/
def Makes (r : Registry) (l : License) (a : Assignment) (u : UserId) : Prop :=
  r.makesEditors l a = true ∧ ∃ p, a.principal? = some p ∧ u ∈ r.principalUsers p

theorem makesEditors_iff :
    r.makesEditors l a = true ↔
      ∃ role, r.roles[a.role]? = some role ∧ l.grantsEdit role = true := by
  unfold makesEditors
  cases r.roles[a.role]? <;> simp

/-- Where the role and the principal are known, an assignment makes editors of those whom the
principal stands for. -/
theorem makes_iff {role : Role} {p : Principal} (known : r.roles[a.role]? = some role)
    (principal : a.principal? = some p) :
    r.Makes l a u ↔ l.grantsEdit role = true ∧ u ∈ r.principalUsers p := by
  simp [Makes, makesEditors_iff, known, principal]

theorem mem_editorsBy : u ∈ r.editorsBy l a ↔ r.Makes l a u := by
  unfold editorsBy Makes
  cases r.makesEditors l a with
  | false => simp
  | true =>
    cases a.principal? with
    | none => simp
    | some p => simp

/-- The editors are the users whom a stored assignment makes editors. -/
theorem mem_editors :
    u ∈ r.editors l ↔
      ∃ (id : AssignmentId) (a : Assignment), r.assignments[id]? = some a ∧ r.Makes l a u := by
  rw [editors, Std.ExtTreeSet.mem_ofList, List.contains_iff_mem, List.mem_flatMap]
  simp only [mem_values, mem_editorsBy]
  constructor
  · rintro ⟨a, ⟨id, stored⟩, makes⟩
    exact ⟨id, a, stored, makes⟩
  · rintro ⟨id, a, stored, makes⟩
    exact ⟨a, ⟨id, stored⟩, makes⟩

theorem groupMakesEditors_iff :
    r.groupMakesEditors l g = true ↔
      ∃ (id : AssignmentId) (a : Assignment),
        r.assignments[id]? = some a ∧ a.group = some g ∧ r.makesEditors l a = true := by
  simp only [groupMakesEditors, List.any_eq_true, mem_values, Bool.and_eq_true,
    decide_eq_true_eq]
  constructor
  · rintro ⟨a, ⟨id, stored⟩, made⟩
    exact ⟨id, a, stored, made⟩
  · rintro ⟨id, a, stored, made⟩
    exact ⟨a, ⟨id, stored⟩, made⟩

/-! ## One row more -/

/-- The registry with a membership entered. -/
def joined (r : Registry) (m : Membership) : Registry :=
  { r with memberships := r.memberships.insert m.key m }

/-- The registry with an assignment entered. -/
def granted (r : Registry) (a : Assignment) : Registry :=
  { r with assignments := r.assignments.insert a.id a }

theorem mem_membersOf_joined {m : Membership} :
    u ∈ (r.joined m).membersOf g ↔ u ∈ r.membersOf g ∨ u = m.user ∧ g = m.group := by
  rw [mem_membersOf, mem_membersOf]
  simp only [joined, lookup_insert]
  by_cases same : m.key = ⟨u, g⟩
  · obtain ⟨rfl, rfl⟩ := MemberKey.mk.inj same
    simp [same]
  · have other : ¬ (u = m.user ∧ g = m.group) := by
      rintro ⟨rfl, rfl⟩
      exact same rfl
    simp [same, other]

/-- With a membership an assignment reaches, beside those it reached, the new member, if it is
to the group. -/
theorem makes_joined {m : Membership} :
    (r.joined m).Makes l a u ↔
      r.Makes l a u ∨
        u = m.user ∧ a.principal? = some (.group m.group) ∧ r.makesEditors l a = true := by
  constructor
  · rintro ⟨edits, p, principal, reached⟩
    cases p with
    | user v => exact Or.inl ⟨edits, .user v, principal, reached⟩
    | group g =>
      obtain old | ⟨rfl, rfl⟩ := mem_membersOf_joined.mp reached
      · exact Or.inl ⟨edits, .group g, principal, old⟩
      · exact Or.inr ⟨rfl, principal, edits⟩
  · rintro (⟨edits, p, principal, reached⟩ | ⟨rfl, principal, edits⟩)
    · refine ⟨edits, p, principal, ?_⟩
      cases p with
      | user v => exact reached
      | group g => exact mem_membersOf_joined.mpr (Or.inl reached)
    · exact ⟨edits, _, principal, mem_membersOf_joined.mpr (Or.inr ⟨rfl, rfl⟩)⟩

/-- An editor with an assignment is one without it, or one whom it makes an editor. -/
theorem of_mem_editors_granted {b : Assignment} (editor : u ∈ (r.granted b).editors l) :
    u ∈ r.editors l ∨ r.Makes l b u := by
  obtain ⟨id, a, stored, makes⟩ := mem_editors.mp editor
  simp only [granted, lookup_insert] at stored
  split at stored
  · cases stored
    exact Or.inr makes
  · exact Or.inl (mem_editors.mpr ⟨id, a, stored, makes⟩)

end Registry

theorem group_of_principal? {a : Assignment} {g : GroupId} (p : a.principal? = some (.group g)) :
    a.group = some g := by
  unfold Assignment.principal? at p
  split at p
  · cases p
  · next found =>
    cases p
    exact found
  · cases p

/-- Where seats are enforced, editors are added only as far as the seats go. -/
theorem License.checkSeats_eq_ok {l : License} (enforced : l.enabled = true) {current new : Nat} :
    l.checkSeats current new = .ok () ↔ new = 0 ∨ current + new ≤ l.seats := by
  unfold checkSeats
  split
  · next full =>
    obtain ⟨_, _, _⟩ := full
    simp only [reduceCtorEq, false_iff]
    omega
  · next free =>
    simp only [enforced, true_and, not_and, Nat.not_lt] at free
    simp only [true_iff]
    by_cases zero : new = 0
    · exact Or.inl zero
    · exact Or.inr (free zero)

/-- The users of a principal who are no editors yet. -/
theorem System.newEditors_eq (s : System) (p : Principal) :
    s.newEditors p = ((s.registry.principalUsers p).toList.filter
      fun u => !(s.registry.editors s.terms.license).contains u).length :=
  List.countP_eq_length_filter

end Perimeter
