import Mathlib.Data.List.Destutter
import Perimeter.Proofs.Editors
import Perimeter.Proofs.Restart
import Perimeter.Proofs.Sorting

/-!
# Roles as sets of codenames

A request for a role lists codenames, and the role holds them as a set. What a codename may look
like is decided by a split at the first underscore and one pass over all characters, and that is a
grammar (`isValid_iff`). The list is put in order and what is repeated goes
(`canonical_eq_destutter`), so two requests come to one list exactly if they name the same codenames
(`canonical_eq_iff`). Whether a role makes editors is decided by how its codenames begin, without a
look at where they are split. For starts that are a word and an underscore it is decided by the
actions all the same (`begins_iff`).
-/

namespace Perimeter

namespace Codename

variable {a m cs : List Char} {codename : String} {l l' : List String}

/-! ## The grammar -/

/-- A lower-case letter or a digit. -/
def IsPlainChar (c : Char) : Prop := 'a' ≤ c ∧ c ≤ 'z' ∨ '0' ≤ c ∧ c ≤ '9'

/-- A codename is an action, an underscore and a model, neither of them empty. Further underscores
belong to the model. -/
def WellFormed (codename : String) : Prop :=
  ∃ action model : List Char, codename.toList = action ++ '_' :: model ∧
    (action ≠ [] ∧ ∀ c ∈ action, IsPlainChar c) ∧
    model ≠ [] ∧ ∀ c ∈ model, IsPlainChar c ∨ c = '_'

theorem isWordChar_iff {c : Char} : isWordChar c = true ↔ IsPlainChar c ∨ c = '_' := by
  simp only [isWordChar, IsPlainChar, Char.isDigit, Char.le_def, UInt32.le_iff_toNat_le,
    Bool.or_eq_true, Bool.and_eq_true, decide_eq_true_eq, ge_iff_le]
  rfl

theorem underscore_not_mem (plain : ∀ c ∈ a, IsPlainChar c) : '_' ∉ a := by
  intro mem
  have within := plain '_' mem
  revert within
  unfold IsPlainChar
  decide

theorem underscore_not_mem_action (cs : List Char) : '_' ∉ action cs := by
  intro mem
  have other := List.all_eq_true.mp List.all_takeWhile '_' mem
  exact absurd other (by decide)

/-- What is free of underscores and has one after it is the action. -/
theorem action_append (free : '_' ∉ a) : action (a ++ '_' :: m) = a := by
  rw [action, List.takeWhile_append_of_pos]
  · simp
  · intro c mem
    rw [decide_eq_true_iff]
    exact ne_of_mem_of_not_mem mem free

theorem model?_eq_some_iff : model? cs = some m ↔ cs = action cs ++ '_' :: m := by
  induction cs with
  | nil => simp [model?, action]
  | cons c cs ih =>
    by_cases mark : c = '_'
    · subst mark
      simp [model?, action]
    · simpa [model?, action, mark] using ih

/-- The pass over all characters asks of the part before the first underscore that it is plain. -/
theorem forall_isWordChar_iff (free : '_' ∉ a) :
    (∀ c ∈ a ++ '_' :: m, isWordChar c = true) ↔
      (∀ c ∈ a, IsPlainChar c) ∧ ∀ c ∈ m, IsPlainChar c ∨ c = '_' := by
  have plain : (∀ c ∈ a, isWordChar c = true) ↔ ∀ c ∈ a, IsPlainChar c := by
    refine forall₂_congr fun c mem => ?_
    rw [isWordChar_iff, or_iff_left (ne_of_mem_of_not_mem mem free)]
  rw [List.forall_mem_append, List.forall_mem_cons, plain]
  simp only [isWordChar_iff, or_true, true_and]

theorem isValid_iff_split : isValid codename = true ↔
    ∃ m, codename.toList = action codename.toList ++ '_' :: m ∧ action codename.toList ≠ [] ∧
      m ≠ [] ∧ ∀ c ∈ codename.toList, isWordChar c = true := by
  unfold isValid
  simp only [← model?_eq_some_iff]
  cases model? codename.toList with
  | none => simp
  | some m => simp [and_assoc]

/-- The split and the pass over the characters decide the grammar. -/
theorem isValid_iff : isValid codename = true ↔ WellFormed codename := by
  rw [isValid_iff_split]
  constructor
  · rintro ⟨m, split, acts, nonempty, words⟩
    rw [split, forall_isWordChar_iff (underscore_not_mem_action _)] at words
    exact ⟨_, m, split, ⟨acts, words.1⟩, nonempty, words.2⟩
  · rintro ⟨a, m, split, ⟨acts, plain⟩, nonempty, words⟩
    have free := underscore_not_mem plain
    refine ⟨m, ?_⟩
    rw [split, action_append free]
    exact ⟨rfl, acts, nonempty, (forall_isWordChar_iff free).mpr ⟨plain, words⟩⟩

instance : DecidablePred WellFormed := fun _ => decidable_of_iff _ isValid_iff

theorem find?_malformed_eq_none :
    (l.find? fun c => !isValid c) = none ↔ ∀ c ∈ l, WellFormed c := by
  simp [isValid_iff]

/-! ## The canonical list -/

theorem enumerates_canonical (l : List String) : Enumerates compare (· ∈ l) (canonical l) := by
  refine (enumerates_toList _).of_iff fun c => ?_
  rw [Std.ExtTreeSet.mem_ofList, List.contains_iff_mem]

theorem canonical_eq_iff : canonical l = canonical l' ↔ ∀ c, c ∈ l ↔ c ∈ l' := by
  constructor
  · intro same c
    rw [← (enumerates_canonical l).mem_iff, same, (enumerates_canonical l').mem_iff]
  · intro same
    exact ((enumerates_canonical l).of_iff same).unique (enumerates_canonical l')

/-- The canonical list is what is left of the list in order if each element that repeats the one
before it is dropped. -/
theorem canonical_eq_destutter (l : List String) :
    canonical l = (sortBy compare l).destutter (· ≠ ·) := by
  have level : ∀ {a b : String}, compare a b = .eq → a = b := Std.LawfulEqCmp.eq_of_compare
  have : Std.Antisymm fun a b : String => (compare a b).isLE = true :=
    ⟨fun a b le ge => level (Std.OrientedCmp.isLE_antisymm le ge)⟩
  have ordered : (sortBy compare l).Pairwise fun a b => (compare a b).isLE = true :=
    pairwise_sortBy l
  rw [ordered.destutter_eq_dedup]
  apply (enumerates_canonical l).unique
  apply enumerates_of_pairwise (ordered.sublist (List.dedup_sublist _))
  · exact fun _ _ _ _ => level
  · exact List.nodup_dedup _
  · intro c
    rw [List.mem_dedup, (sortBy_perm compare l).mem_iff]

/-! ## Starts -/

/-- A codename begins with a word and an underscore exactly if the word is its action. -/
theorem begins_iff {w : String} (free : '_' ∉ w.toList) (formed : WellFormed codename) :
    (w ++ "_").toList.isPrefixOf codename.toList = true ↔
      action codename.toList = w.toList := by
  obtain ⟨a, m, split, ⟨_, plain⟩, _⟩ := formed
  have start : (w ++ "_").toList = w.toList ++ ['_'] := by simp
  rw [List.isPrefixOf_iff_prefix, start]
  constructor
  · rintro ⟨rest, whole⟩
    rw [← whole, List.append_assoc, List.singleton_append, action_append free]
  · intro same
    rw [split, action_append (underscore_not_mem plain)] at same
    rw [split, same]
    exact ⟨m, by simp⟩

theorem beginsWithAny_iff {words : List String} (free : ∀ w ∈ words, '_' ∉ w.toList)
    (formed : WellFormed codename) :
    beginsWithAny (words.map (· ++ "_")) codename = true ↔
      ∃ w ∈ words, action codename.toList = w.toList := by
  unfold beginsWithAny
  rw [List.any_map, List.any_eq_true]
  refine exists_congr fun w => and_congr_right fun mem => ?_
  exact begins_iff (free w mem) formed

end Codename

/-! ## Roles -/

namespace Role

variable {role role' : Role} {codenames : List String}

/-- A role holds the codenames of a list as a set: in ascending order and each once, as sorting and
dropping repetitions leave them. These are what it carries, and where a license starts its editors'
codenames with a word and an underscore, their actions say whether the role makes editors. -/
structure Bundles (role : Role) (codenames : List String) : Prop where
  ascends : Enumerates compare (· ∈ codenames) role.permissions
  sorted : role.permissions = (sortBy compare codenames).destutter (· ≠ ·)
  carries_iff : ∀ c, role.carries c = true ↔ c ∈ codenames
  edits_iff : ∀ (license : License) (words : List String), (∀ w ∈ words, '_' ∉ w.toList) →
    license.editorStarts = words.map (· ++ "_") →
    (license.grantsEdit role = true ↔
      ∃ c ∈ codenames, ∃ w ∈ words, Codename.action c.toList = w.toList)

theorem bundles_of_canonical (formed : ∀ c ∈ codenames, Codename.WellFormed c)
    (canonical : role.permissions = Codename.canonical codenames) : role.Bundles codenames := by
  have ascends : Enumerates compare (· ∈ codenames) role.permissions := by
    rw [canonical]
    exact Codename.enumerates_canonical codenames
  refine ⟨ascends, canonical.trans (Codename.canonical_eq_destutter codenames), ?_, ?_⟩
  · intro c
    rw [carries, List.contains_iff_mem, ascends.mem_iff]
  · intro license words free starts
    rw [License.grantsEdit, grantsEdit, List.any_eq_true, starts]
    simp only [ascends.mem_iff]
    refine exists_congr fun c => and_congr_right fun mem => ?_
    exact Codename.beginsWithAny_iff free (formed c mem)

end Role

/-! ## One role in place of another -/

namespace Registry

variable {r : Registry} {id : RoleId} {role role' : Role} {l : License}

/-- The registry with a role entered under an id. -/
def withRole (r : Registry) (id : RoleId) (role : Role) : Registry :=
  { r with roles := r.roles.insert id role }

theorem users_withRole : (r.withRole id role).users = r.users := rfl

theorem assignments_withRole : (r.withRole id role).assignments = r.assignments := rfl

theorem assignmentsOf_withRole : (r.withRole id role).assignmentsOf = r.assignmentsOf := rfl

theorem principalUsers_withRole : (r.withRole id role).principalUsers = r.principalUsers := rfl

theorem grantOf?_withRole (same : role.permissions = role'.permissions) :
    (r.withRole id role).grantOf? = (r.withRole id role').grantOf? := by
  funext a
  simp only [grantOf?, withRole, lookup_insert]
  split
  · simp [same]
  · rfl

/-- Of a role only the permissions reach its users. -/
theorem grantsOf_withRole (same : role.permissions = role'.permissions) :
    (r.withRole id role).grantsOf = (r.withRole id role').grantsOf := by
  funext u
  simp only [grantsOf, users_withRole, assignmentsOf_withRole, grantOf?_withRole same]

theorem makesEditors_withRole (same : role.permissions = role'.permissions) :
    (r.withRole id role).makesEditors l = (r.withRole id role').makesEditors l := by
  funext a
  rw [Bool.eq_iff_iff, makesEditors_iff, makesEditors_iff]
  simp only [withRole, lookup_insert]
  split
  · simp [License.grantsEdit, Role.grantsEdit, same]
  · rfl

/-- Of a role only the permissions make editors. -/
theorem editors_withRole (same : role.permissions = role'.permissions) :
    (r.withRole id role).editors l = (r.withRole id role').editors l := by
  have editorsBy : (r.withRole id role).editorsBy l = (r.withRole id role').editorsBy l := by
    funext a
    simp only [Registry.editorsBy, principalUsers_withRole, makesEditors_withRole same]
  rw [editors, editors, editorsBy, assignments_withRole, assignments_withRole]

end Registry

/-- The system with a role entered under an id. -/
def System.withRole (s : System) (id : RoleId) (role : Role) : System :=
  { s with registry := s.registry.withRole id role }

namespace System

variable {s : System} {id : RoleId} {role : Role}

theorem terms_withRole : (s.withRole id role).terms = s.terms := rfl

theorem hierarchy_withRole : (s.withRole id role).hierarchy = s.hierarchy := rfl

theorem registry_withRole : (s.withRole id role).registry = s.registry.withRole id role := rfl

end System

namespace Role

variable {role role' : Role}

/-- Roles that nothing tells apart by what they allow. They list and carry the same permissions,
and either may be known under an id: users hold the same permissions by it, and a grant of it
needs the same seats. -/
structure Alike (role role' : Role) : Prop where
  permissions : role.permissions = role'.permissions
  carries : ∀ c, role.carries c = role'.carries c
  answers : ∀ (s : System) id user c folder,
    (s.withRole id role).hasPermission user c folder =
      (s.withRole id role').hasPermission user c folder
  seats : ∀ (s : System) id p,
    (s.withRole id role).admitGrant role p = (s.withRole id role').admitGrant role' p

theorem alike_iff : role.Alike role' ↔ role.permissions = role'.permissions := by
  refine ⟨Alike.permissions, fun same => ⟨same, ?_, ?_, ?_⟩⟩
  · intro c
    rw [carries, carries, same]
  · intro s id user c folder
    simp only [System.hasPermission, System.requireUser, System.registry_withRole,
      System.hierarchy_withRole, Registry.users_withRole, Registry.grantsOf_withRole same]
  · intro s id p
    have edits : s.terms.license.grantsEdit role = s.terms.license.grantsEdit role' := by
      rw [License.grantsEdit, License.grantsEdit, grantsEdit, grantsEdit, same]
    have new : (s.withRole id role).newEditors p = (s.withRole id role').newEditors p := by
      simp only [System.newEditors, System.registry_withRole, System.terms_withRole,
        Registry.principalUsers_withRole, Registry.editors_withRole same]
    rw [System.admitGrant, System.admitGrant, System.terms_withRole, System.terms_withRole,
      System.registry_withRole, System.registry_withRole, Registry.editors_withRole same, edits, new]

end Role

namespace System

variable {s s' t : System} {d d' : NewRole} {role role' : Role}

/-- The storage accepts the row of a request. -/
def StoresRole (s : System) (d : NewRole) (role : Role) : Prop :=
  (Storage.create .roles (fun bits now => .ofNew { d with name := Text.trim d.name } ⟨bits⟩ now)
    s.storage).1 = .ok role

theorem StoresRole.canonical (stores : s.StoresRole d role) :
    role.permissions = Codename.canonical d.permissions := by
  obtain ⟨bits, now, _, rfl, _⟩ := Storage.create_eq_ok stores
  rfl

/-- A role is created exactly if its name and its codenames pass and the storage accepts it. -/
theorem createRole_eq_ok : (s.createRole d).1 = .ok role ↔
    Text.trim d.name ≠ "" ∧ (∀ c ∈ d.permissions, Codename.WellFormed c) ∧
      s.registry.roleNameTaken (Text.trim d.name) = false ∧ s.StoresRole d role := by
  unfold createRole
  dsimp only
  split
  · next blank =>
    rw [String.isEmpty_iff] at blank
    simp [blank]
  · next visible =>
    rw [String.isEmpty_iff] at visible
    split
    · next bad found =>
      have malformed : ¬ ∀ c ∈ d.permissions, Codename.WellFormed c := by
        rw [← Codename.find?_malformed_eq_none, found]
        exact Option.some_ne_none bad
      simp [malformed]
    · next none =>
      have formed := Codename.find?_malformed_eq_none.mp none
      split
      · next taken => simp [taken]
      · next free =>
        rw [Bool.not_eq_true] at free
        rw [commit_fst]
        constructor
        · exact fun written => ⟨visible, formed, free, written⟩
        · exact fun ⟨_, _, _, written⟩ => written

/-- One of the malformed codenames is named, and nothing changes. -/
theorem createRole_of_malformed (visible : Text.trim d.name ≠ "")
    (malformed : ¬ ∀ c ∈ d.permissions, Codename.WellFormed c) :
    ∃ bad ∈ d.permissions, ¬ Codename.WellFormed bad ∧
      s.createRole d = (.error (.codenameInvalid bad), s) := by
  rw [← Codename.find?_malformed_eq_none, ← ne_eq, Option.ne_none_iff_exists'] at malformed
  obtain ⟨bad, found⟩ := malformed
  have rejected := List.find?_some found
  rw [Bool.not_eq_true', Bool.eq_false_iff, ne_eq, Codename.isValid_iff] at rejected
  have named : ¬ (Text.trim d.name).isEmpty = true := by
    rw [String.isEmpty_iff]
    exact visible
  refine ⟨bad, List.mem_of_find?_eq_some found, rejected, ?_⟩
  unfold createRole
  dsimp only
  rw [if_neg named, found]

/-- A request that names the same codenames, in another order or more than once, is answered the
same and leaves the same system. -/
theorem createRole_congr (formed : ∀ c ∈ d.permissions, Codename.WellFormed c) {l : List String}
    (same : ∀ c, c ∈ l ↔ c ∈ d.permissions) :
    s.createRole { d with permissions := l } = s.createRole d := by
  have formed' : ∀ c ∈ l, Codename.WellFormed c := fun c mem => formed c ((same c).mp mem)
  unfold createRole
  simp only [Codename.find?_malformed_eq_none.mpr formed,
    Codename.find?_malformed_eq_none.mpr formed', Role.ofNew, Codename.canonical_eq_iff.mpr same]

/-- The role that is answered is the one that is stored. -/
theorem holds_of_createRole (created : s.createRole d = (.ok role, s')) :
    Side.roles.Holds s' role.id role := by
  obtain ⟨_, tables, p, entered, rfl⟩ := (created ▸ createRole_settles s d).answer
  obtain ⟨t, fits, rfl⟩ := map_eq_ok.mp entered
  refine ⟨Std.ExtTreeMap.getElem?_insert_self, ?_⟩
  change t.find? role.id = some role
  rw [← Table.getElem?_contents, (Table.contents_of_create fits).2]
  exact Std.ExtTreeMap.getElem?_insert_self

/-- What becomes of a request for a role: its codenames alone decide whether it is granted, and as a
set they are what the role is made of, here and wherever else a role was made of the same. -/
structure RoleDecided (s : System) (d : NewRole) : Prop where
  created_iff :
    (∃ role s', s.createRole d = (.ok role, s')) ↔ ∀ c ∈ d.permissions, Codename.WellFormed c
  refused : (¬ ∀ c ∈ d.permissions, Codename.WellFormed c) →
    ∃ bad ∈ d.permissions, ¬ Codename.WellFormed bad ∧
      s.createRole d = (.error (.codenameInvalid bad), s)
  bundles : ∀ role s', s.createRole d = (.ok role, s') →
    Side.roles.Holds s' role.id role ∧ role.Bundles d.permissions
  reordered : (∀ c ∈ d.permissions, Codename.WellFormed c) → ∀ l : List String,
    (∀ c, c ∈ l ↔ c ∈ d.permissions) → s.createRole { d with permissions := l } = s.createRole d
  alike_iff : ∀ (t : System) d' role role' s' t', s.createRole d = (.ok role, s') →
    t.createRole d' = (.ok role', t') →
      (role.Alike role' ↔ ∀ c, c ∈ d.permissions ↔ c ∈ d'.permissions)

/-- A role with a visible and new name is created exactly if all its codenames are well formed, and
is the set of them. -/
theorem roles_are_sets_of_codenames (visible : Text.trim d.name ≠ "")
    (free : s.registry.roleNameTaken (Text.trim d.name) = false)
    (accepted : ∃ role, s.StoresRole d role) : s.RoleDecided d := by
  have made : ∀ {s s' : System} {d : NewRole} {role : Role}, s.createRole d = (.ok role, s') →
      (∀ c ∈ d.permissions, Codename.WellFormed c) ∧
        role.permissions = Codename.canonical d.permissions := by
    intro s s' d role created
    obtain ⟨_, formed, _, stores⟩ := createRole_eq_ok.mp (congrArg Prod.fst created)
    exact ⟨formed, stores.canonical⟩
  constructor
  · constructor
    · rintro ⟨role, s', created⟩
      exact (made created).1
    · intro formed
      obtain ⟨role, stores⟩ := accepted
      have created := createRole_eq_ok.mpr ⟨visible, formed, free, stores⟩
      exact ⟨role, (s.createRole d).2, by rw [← created]⟩
  · exact createRole_of_malformed visible
  · intro role s' created
    obtain ⟨formed, canonical⟩ := made created
    exact ⟨holds_of_createRole created, Role.bundles_of_canonical formed canonical⟩
  · exact fun formed l => createRole_congr formed
  · intro t d' role role' s' t' created created'
    rw [Role.alike_iff, (made created).2, (made created').2, Codename.canonical_eq_iff]

/-- A request with a codename twice, one with two underscores in a row, and one whose action only
begins like an action of editors. Without the second of these the role makes no editors, and with
an action that has no model it is not created. -/
theorem analyst_bundles_three_codenames :
    let s := founded ⟨"Root", ⟨2, 8⟩, ⟨true, 5, ["add_", "change_"]⟩⟩ .empty
    let asked (l : List String) : NewRole := ⟨" Analyst ", none, l⟩
    let codenames := ["view_risk_2", "change__risk", "changelog_x", "view_risk_2"]
    (∃ role s', s.createRole (asked codenames) = (.ok role, s') ∧
      role.permissions = ["change__risk", "changelog_x", "view_risk_2"] ∧
      s.terms.license.grantsEdit role = true ∧
      s.createRole (asked ["changelog_x", "view_risk_2", "change__risk"]) = (.ok role, s')) ∧
    (∃ role s', s.createRole (asked ["view_risk_2", "changelog_x"]) = (.ok role, s') ∧
      s.terms.license.grantsEdit role = false) ∧
    ¬ ∃ role s', s.createRole (asked ["view_risk_2", "change_"]) = (.ok role, s') := by
  intro s asked codenames
  have visible : Text.trim " Analyst " ≠ "" := by decide +kernel
  have free : s.registry.roleNameTaken (Text.trim " Analyst ") = false := by decide +kernel
  have stores : ∀ l, ∃ role, s.StoresRole (asked l) role := fun _ => ⟨_, rfl⟩
  have decided (l : List String) : s.RoleDecided (asked l) :=
    roles_are_sets_of_codenames visible free (stores l)
  have starts : s.terms.license.editorStarts = ["add", "change"].map (· ++ "_") := rfl
  refine ⟨?_, ?_, ?_⟩
  · have formed : ∀ c ∈ codenames, Codename.WellFormed c := by decide +kernel
    have listed : ["change__risk", "changelog_x", "view_risk_2"] ⊆ codenames ∧
        codenames ⊆ ["change__risk", "changelog_x", "view_risk_2"] := by
      decide +kernel
    have again : ["changelog_x", "view_risk_2", "change__risk"] ⊆ codenames ∧
        codenames ⊆ ["changelog_x", "view_risk_2", "change__risk"] := by
      decide +kernel
    obtain ⟨role, s', created⟩ := (decided codenames).created_iff.mpr formed
    obtain ⟨_, bundles⟩ := (decided codenames).bundles role s' created
    refine ⟨role, s', created, ?_, ?_, ?_⟩
    · refine bundles.ascends.unique ⟨by decide +kernel, by decide +kernel, fun c => ?_⟩
      exact ⟨@listed.1 c, @listed.2 c⟩
    · rw [bundles.edits_iff _ _ (by decide) starts]
      decide +kernel
    · rw [← created]
      refine (decided codenames).reordered formed _ fun c => ?_
      exact ⟨@again.1 c, @again.2 c⟩
  · obtain ⟨role, s', created⟩ :=
      (decided ["view_risk_2", "changelog_x"]).created_iff.mpr (by decide +kernel)
    obtain ⟨_, bundles⟩ := (decided _).bundles role s' created
    refine ⟨role, s', created, ?_⟩
    rw [Bool.eq_false_iff, ne_eq, bundles.edits_iff _ _ (by decide) starts]
    decide +kernel
  · rw [(decided _).created_iff]
    decide +kernel

end System

end Perimeter
