import Mathlib.Data.List.Pairwise
import Perimeter.Proofs.Runs
import Perimeter.Proofs.Texts

/-!
# E-mail addresses

A new address is put in lower case by the mapping of all of Unicode, and compared with the stored
ones by that of ASCII. The two agree on an address that has capitals in ASCII only. So e-mails
stay unique up to case, and every request for a known one is refused, exactly if the addresses
that were loaded have no other capitals (`emails_stay_unique_iff`); where one has, it can be
taken a second time (`wide_capital_taken_twice`).
-/

namespace Perimeter

/-- Lower-casing the text changes letters of ASCII only. -/
def Text.IsAsciiCased (s : String) : Prop := (lower s).toList = s.toList.map Char.toLower

instance (s : String) : Decidable (Text.IsAsciiCased s) := inferInstanceAs (Decidable (_ = _))

/-- No two users have e-mails that agree up to case. -/
def EmailsDiffer (us : List User) : Prop :=
  us.Pairwise fun u v => Text.lower u.email ≠ Text.lower v.email

instance (us : List User) : Decidable (EmailsDiffer us) :=
  inferInstanceAs (Decidable (us.Pairwise _))

namespace Registry

variable {r : Registry}

/-- What `EmailsDiffer` says, by the ids of the users. -/
def Unique (r : Registry) : Prop :=
  ∀ (i j : UserId) u v, r.users[i]? = some u → r.users[j]? = some v →
    Text.lower u.email = Text.lower v.email → i = j

theorem Unique.emailsDiffer (unique : r.Unique) : EmailsDiffer r.users.values := by
  apply pairwise_values
  intro i j u v hu hv other same
  exact other (unique i j u v hu hv same)

theorem emailTaken_iff {email : String} : r.emailTaken email = true ↔
    ∃ u ∈ r.users.values, u.email.toList.map Char.toLower = email.toList.map Char.toLower := by
  simp only [emailTaken, List.any_eq_true, Text.sameIgnoringAsciiCase, beq_iff_eq]

/-- An address in lower case is taken if the capitals of ASCII are all that sets it apart from a
stored one. -/
theorem emailTaken_lower_iff {t : String} : r.emailTaken (Text.lower t) = true ↔
    ∃ u ∈ r.users.values, u.email.toList.map Char.toLower = (Text.lower t).toList := by
  rw [emailTaken_iff, Text.map_toLower_lower]

/-- The e-mails of the users differ, and those that a request could ask for have capitals in
ASCII only. -/
structure Addressed (r : Registry) : Prop where
  unique : r.Unique
  cased : ∀ (i : UserId) u, r.users[i]? = some u → IsAddress (Text.lower u.email) →
    Text.IsAsciiCased u.email

/-- Of addressed users, the address of one is taken whatever the case of its letters. -/
theorem Addressed.emailTaken (addressed : r.Addressed) {i : UserId} {u : User} {email : String}
    (stored : r.users[i]? = some u) (formed : IsAddress email)
    (same : Text.lower u.email = email) : r.emailTaken email = true := by
  subst same
  rw [emailTaken_lower_iff]
  exact ⟨u, mem_values.mpr ⟨i, stored⟩, (addressed.cased i u stored formed).symm⟩

end Registry

/-! ## Runs -/

namespace System

variable {s s' : System} {c : Change}

theorem addressed_addUser {u : User} (addressed : s.registry.Addressed)
    (checked : (Change.addUser u).Checked s) :
    Registry.Addressed { s.registry with users := s.registry.users.insert u.id u } := by
  obtain ⟨free, formed⟩ := checked
  obtain ⟨⟨t, normal⟩, _⟩ := id formed
  have settled : Text.lower u.email = u.email := by
    rw [← normal]
    exact Text.lower_lower _
  have other : ∀ (j : UserId) v, s.registry.users[j]? = some v →
      Text.lower v.email ≠ Text.lower u.email := by
    intro j v stored same
    rw [addressed.emailTaken stored formed (same.trans settled)] at free
    cases free
  constructor
  · intro i j v w hv hw same
    rw [lookup_insert] at hv hw
    split at hv <;> split at hw
    · next here there => exact here.symm.trans there
    · cases hv
      exact absurd same.symm (other j w hw)
    · cases hw
      exact absurd same (other i v hv)
    · exact addressed.unique i j v w hv hw same
  · apply forall_insert addressed.cased
    intro _
    rw [Text.IsAsciiCased, ← normal, Text.lower_lower, Text.map_toLower_lower]

theorem addressed_saveUser {id : UserId} {u : User} (addressed : s.registry.Addressed)
    (checked : (Change.saveUser id u).Checked s) :
    Registry.Addressed { s.registry with users := s.registry.users.insert id u } := by
  obtain ⟨old, stored, _, email⟩ := checked
  have kept : ∀ (i : UserId) v, (s.registry.users.insert id u)[i]? = some v →
      ∃ w, s.registry.users[i]? = some w ∧ v.email = w.email := by
    intro i v found
    rw [lookup_insert] at found
    split at found
    · next here =>
      cases found
      exact ⟨old, here ▸ stored, email⟩
    · exact ⟨v, found, rfl⟩
  constructor
  · intro i j v w hv hw same
    obtain ⟨v', hv', ev⟩ := kept i v hv
    obtain ⟨w', hw', ew⟩ := kept j w hw
    rw [ev, ew] at same
    exact addressed.unique i j v' w' hv' hw' same
  · intro i v hv
    obtain ⟨w, hw, ew⟩ := kept i v hv
    rw [ew]
    exact addressed.cased i w hw

theorem addressed_of_wrote (addressed : s.registry.Addressed) (wrote : s.Wrote c s') :
    s'.registry.Addressed := by
  obtain ⟨checked, tables, p, entered, rfl⟩ := wrote
  cases c with
  | addUser u => exact addressed_addUser addressed checked
  | saveUser id u => exact addressed_saveUser addressed checked
  | _ => exact ⟨addressed.unique, addressed.cased⟩

theorem addressed_afterAll (addressed : s.registry.Addressed) (events : List Event) :
    (s.afterAll events).registry.Addressed :=
  afterAll_of_writes (P := fun t => t.registry.Addressed) addressed (fun _ _ held => held)
    addressed_of_wrote events

/-! ## Requests for an address -/

/-- Every request for an address that equals a stored one up to case is refused as a conflict,
and changes nothing. A text without `@` is no address, and is refused before. -/
def RefusesKnown (s : System) : Prop :=
  ∀ d : NewUser, ∀ u ∈ s.registry.users.values,
    Text.lower u.email = Text.lower (Text.trim d.email) → IsAddress (Text.lower u.email) →
      s.createUser d = (.error (.emailTaken (Text.lower u.email)), s)

/-- The write that a creation comes to once its address has passed. -/
def enterUser (s : System) (d : NewUser) (email : String) : Outcome User :=
  s.commit
    (Storage.create .users fun bits now => User.ofNew
      ⟨email, d.firstName.bind Text.nonBlank?, d.lastName.bind Text.nonBlank?⟩ ⟨bits⟩ now)
    fun s u => { s with registry := { s.registry with users := s.registry.users.insert u.id u } }

/-- Once the address is formed, a creation depends on whether it is taken. -/
theorem createUser_of_formed {d : NewUser} {email : String}
    (normal : Text.lower (Text.trim d.email) = email) (sign : email.contains '@' = true) :
    s.createUser d =
      if s.registry.emailTaken email then (.error (.emailTaken email), s)
      else s.enterUser d email := by
  subst normal
  have formed : ¬ ((Text.lower (Text.trim d.email)).isEmpty = true ∨
      ¬ (Text.lower (Text.trim d.email)).contains '@' = true) := by
    rintro (blank | missing)
    · rw [String.isEmpty_iff.mp blank, String.contains_char_eq] at sign
      simp at sign
    · exact missing sign
  unfold createUser
  rw [if_neg formed]
  rfl

theorem createUser_of_free {d : NewUser} {email : String}
    (normal : Text.lower (Text.trim d.email) = email) (sign : '@' ∈ email.toList)
    (free : s.registry.emailTaken email = false) : s.createUser d = s.enterUser d email := by
  have formed : email.contains '@' = true := by
    rw [String.contains_char_eq, decide_eq_true_iff]
    exact sign
  rw [createUser_of_formed normal formed, if_neg (Bool.eq_false_iff.mp free)]

/-- Only an address that is taken is refused as such. -/
theorem emailTaken_of_refused {d : NewUser} {email : String}
    (refused : s.createUser d = (.error (.emailTaken email), s'))
    (normal : Text.lower (Text.trim d.email) = email) (sign : email.contains '@' = true) :
    s.registry.emailTaken email = true := by
  rw [createUser_of_formed normal sign] at refused
  split at refused
  · next taken => exact taken
  · obtain ⟨storage, failed⟩ := commit_eq_error refused
    obtain ⟨down, _⟩ | ⟨q, entry⟩ := Storage.put_eq_error failed
    · cases down
    · simp only [Table.create] at entry
      split at entry <;> cases entry

/-- Users with different e-mails are addressed exactly if every request for a known address is
refused. -/
theorem refusesKnown_iff (unique : s.registry.Unique) :
    s.RefusesKnown ↔ s.registry.Addressed := by
  constructor
  · intro refuses
    refine ⟨unique, ?_⟩
    intro i u stored formed
    obtain ⟨⟨t, normal⟩, sign⟩ := id formed
    have refused := refuses ⟨t, none, none⟩ u (mem_values.mpr ⟨i, stored⟩) normal.symm formed
    have taken := emailTaken_of_refused refused normal sign
    obtain ⟨v, listed, same⟩ := Registry.emailTaken_lower_iff.mp taken
    obtain ⟨j, found⟩ := mem_values.mp listed
    -- the stored e-mail that was found is that of the same user
    have alike : Text.lower v.email = Text.lower u.email := by
      rw [← Text.lower_lower u.email]
      apply Text.lower_eq_of_toLower
      rw [same, Text.map_toLower_lower]
    obtain rfl := unique j i v u found stored alike
    cases found.symm.trans stored
    exact same.symm
  · intro addressed d u listed same formed
    obtain ⟨i, stored⟩ := mem_values.mp listed
    rw [createUser_of_formed same.symm formed.2, if_pos (addressed.emailTaken stored formed rfl)]

theorem unique_of_emailsDiffer {us : Table User UserId} {r : Registry}
    (rows : r.users = us.contents) (differ : EmailsDiffer us.all) : r.Unique := by
  intro i j u v hu hv same
  rw [rows, Table.getElem?_contents] at hu hv
  have own : u.id = i := Table.key_of_find? hu
  have own' : v.id = j := Table.key_of_find? hv
  subst own own'
  by_contra other
  have : Std.Symm fun u v : User => Text.lower u.email ≠ Text.lower v.email :=
    ⟨fun _ _ => Ne.symm⟩
  exact differ.forall (Table.mem_all.mpr hu) (Table.mem_all.mpr hv)
    (fun equal => other (congrArg User.id equal)) same

/-- From users whose e-mails differ up to case, they differ in every state that is reached, and
every request for a known address is refused there, exactly if the stored addresses that can be
asked for have capitals in ASCII only. -/
theorem emails_stay_unique_iff {terms : Terms} {storage storage' : Storage} {s₀ : System}
    (started : start terms storage = (.ok s₀, storage')) (differ : EmailsDiffer storage.users.all) :
    (∀ events, let s := s₀.afterAll events
      EmailsDiffer s.registry.users.values ∧ s.RefusesKnown) ↔
      ∀ u ∈ storage.users.all, IsAddress (Text.lower u.email) → Text.IsAsciiCased u.email := by
  obtain ⟨mirrored, _, rfl, t, p, tables⟩ := mirrored_of_start started
  have users : s₀.registry.users = storage.users.contents := by
    rw [mirrored.registry.users, tables]
    rfl
  have unique := unique_of_emailsDiffer users differ
  have cased : (∀ (i : UserId) u, s₀.registry.users[i]? = some u → IsAddress (Text.lower u.email) →
      Text.IsAsciiCased u.email) ↔
      ∀ u ∈ storage.users.all, IsAddress (Text.lower u.email) → Text.IsAsciiCased u.email := by
    rw [users]
    exact Table.forall_contents
  constructor
  · intro holds
    exact cased.mp ((refusesKnown_iff unique).mp (holds []).2).cased
  · intro plain events
    have addressed := addressed_afterAll ⟨unique, cased.mpr plain⟩ events
    exact ⟨addressed.unique.emailsDiffer, (refusesKnown_iff addressed.unique).mpr addressed⟩

/-- A storage with the users of some e-mails, in their order. -/
def enlisted (emails : List String) : Storage :=
  let now := Instant.ofParts 1704067200 0
  { Storage.empty with
    users := emails.foldl (fun t email =>
      t.lay t.arrivals ⟨⟨Supply.counted (100 + t.arrivals)⟩, email, none, none, true, now, now⟩
        (t.arrivals + 1)) .empty }

theorem mixed_case_stays_unique :
    let storage := enlisted ["Dana@Example.ORG", "éva@example.org"]
    let s := (founded ⟨"Root", ⟨2, 8⟩, .standard⟩ storage).afterAll
      [.call (.createUser ⟨" IVO@example.org ", none, none⟩),
        .call (.createUser ⟨"dana@EXAMPLE.org", none, none⟩)]
    EmailsDiffer s.registry.users.values ∧ s.RefusesKnown := by
  intro storage
  have listed : storage.users.all = storage.users.rows.values.map Prod.snd :=
    Table.all_of_sorted (by decide +kernel)
  have differ : EmailsDiffer storage.users.all := by
    rw [listed]
    decide +kernel
  have cased : ∀ u ∈ storage.users.all, Text.IsAsciiCased u.email := by
    rw [listed]
    decide +kernel
  have started := start_founded ⟨"Root", ⟨2, 8⟩, .standard⟩ storage rfl rfl
  exact (emails_stay_unique_iff started differ).mpr (fun u stored _ => cased u stored)
    [.call (.createUser ⟨" IVO@example.org ", none, none⟩),
      .call (.createUser ⟨"dana@EXAMPLE.org", none, none⟩)]

/-- A stored address with a capital beyond ASCII is not found again, and is taken twice. -/
theorem wide_capital_taken_twice :
    let s := founded ⟨"Root", ⟨2, 8⟩, .standard⟩ (enlisted ["dana@BÜCHER.example"])
    EmailsDiffer s.registry.users.values ∧
      ∃ u s', s.createUser ⟨"dana@bücher.example", none, none⟩ = (.ok u, s') ∧
        ¬ EmailsDiffer s'.registry.users.values := by
  intro s
  have free : s.registry.emailTaken "dana@bücher.example" = false := by decide +kernel
  have created := createUser_of_free (d := ⟨"dana@bücher.example", none, none⟩)
    (by decide +kernel) (by decide +kernel) free
  refine ⟨by decide +kernel, _, _, created.trans rfl, ?_⟩
  decide +kernel

end System

end Perimeter
