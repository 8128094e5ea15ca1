import Perimeter.System.Access

/-!
# Writes

What an operation can do to a system. It is refused, and then only the supply has moved, or it
answers; `Settles` says both at once. The storage carries a write out in full or not at all
(`Settles.create` and its siblings), and `Wrote` is a write of either kind with the checks that
came before it and the same change in memory.
-/

namespace Perimeter

variable {α β κ : Type} [Ord κ] [Std.TransOrd κ] [Stored α κ]

namespace Storage

/-- The storage with another supply. -/
def supplied (s : Storage) (p : Supply) : Storage := { s with supply := p }

theorem get_supplied (shelf : Shelf α κ) (s : Storage) (p : Supply) :
    shelf.get (s.supplied p) = shelf.get s :=
  shelf.get_supply s p

theorem set_supplied (shelf : Shelf α κ) (s : Storage) (p : Supply) (t : Table α κ) :
    shelf.set (s.supplied p) t = (shelf.set s t).supplied p :=
  shelf.set_supply s p t

/-- A write that enters a row in a table is refused, or the row is entered there and the write
counted. -/
theorem put_cases (shelf : Shelf α κ) (enter : Table α κ → α → Except Fault (Table α κ))
    (draw : Supply → α × Supply) (s : Storage) :
    (∃ e p, s.put shelf enter draw = (.error e, s.supplied p)) ∨
      ∃ q t, q.writes = s.supply.writes + 1 ∧ enter (shelf.get s) (draw q).1 = .ok t ∧
        s.put shelf enter draw = (.ok (draw q).1, (shelf.set s t).supplied (draw q).2) := by
  let q : Supply := { s.supply with writes := s.supply.writes + 1 }
  unfold put
  dsimp only [tryWrite]
  split
  · exact Or.inl ⟨refused, q, rfl⟩
  · split
    · next e _ => exact Or.inl ⟨e, (draw q).2, rfl⟩
    · next t entry =>
      replace entry : enter (shelf.get (s.supplied (draw q).2)) (draw q).1 = .ok t := entry
      rw [get_supplied] at entry
      exact Or.inr ⟨q, t, rfl, entry, by rw [← set_supplied]; rfl⟩

/-- The next write is not refused. -/
def Accepts (s : Storage) : Prop := s.supply.refuses s.supply.writes = false

/-- A write that enters a row fails because it is refused, or because the row has no place in the
table. -/
theorem put_eq_error {shelf : Shelf α κ} {enter : Table α κ → α → Except Fault (Table α κ)}
    {draw : Supply → α × Supply} {s s' : Storage} {e : Fault}
    (failed : s.put shelf enter draw = (.error e, s')) :
    e = refused ∧ ¬ s.Accepts ∨ ∃ q, enter (shelf.get s) (draw q).1 = .error e := by
  let q : Supply := { s.supply with writes := s.supply.writes + 1 }
  unfold put at failed
  dsimp only [tryWrite] at failed
  split at failed
  · next no =>
    cases failed
    exact Or.inl ⟨rfl, by simp [Accepts, no]⟩
  · split at failed
    · next entry =>
      cases failed
      replace entry : enter (shelf.get (s.supplied (draw q).2)) (draw q).1 = .error e := entry
      rw [get_supplied] at entry
      exact Or.inr ⟨q, entry⟩
    · cases failed

/-- A write that is not refused enters its row, if the row has a place in the table. -/
theorem put_of_accepts {shelf : Shelf α κ} {enter : Table α κ → α → Except Fault (Table α κ)}
    (draw : Supply → α × Supply) {s : Storage} (accepts : s.Accepts)
    (room : ∀ q, ∃ t, enter (shelf.get s) (draw q).1 = .ok t) :
    ∃ q t, enter (shelf.get s) (draw q).1 = .ok t ∧
      s.put shelf enter draw = (.ok (draw q).1, (shelf.set s t).supplied (draw q).2) := by
  obtain ⟨e, p, failed⟩ | ⟨q, t, _, entered⟩ := put_cases shelf enter draw s
  · obtain ⟨_, refused⟩ | ⟨q, full⟩ := put_eq_error failed
    · exact absurd accepts refused
    · obtain ⟨t, entered⟩ := room q
      cases full.symm.trans entered
  · exact ⟨q, t, entered⟩

/-- A row that was created is one as it was to be built, and was entered in its table. -/
theorem create_eq_ok {shelf : Shelf α κ} {build : BitVec 128 → Instant → α} {s : Storage} {a : α}
    (created : (s.create shelf build).1 = .ok a) :
    ∃ bits now t, a = build bits now ∧ (shelf.get s).create a = .ok t := by
  unfold create at created
  obtain ⟨e, p, done⟩ | ⟨q, t, _, entered, done⟩ :=
    put_cases shelf Table.create (Supply.drawRow build) s
  · rw [done] at created
    cases created
  · rw [done] at created
    cases created
    exact ⟨q.takeId.1, q.takeId.2.takeTime.1, t, rfl, entered⟩

/-- Rows that are built alike but for what is no key are created alike. -/
theorem create_map {shelf : Shelf α κ} {build build' : BitVec 128 → Instant → α} {g : α → α}
    (built : ∀ bits now, build' bits now = g (build bits now))
    (keyed : ∀ a, Stored.key (g a) = Stored.key a) (s : Storage) :
    (s.create shelf build').1 = (s.create shelf build).1.map g := by
  have drawn : ∀ q, Supply.drawRow build' q =
      (g (Supply.drawRow build q).1, (Supply.drawRow build q).2) := fun q =>
    Prod.ext (built q.takeId.1 q.takeId.2.takeTime.1) rfl
  unfold create put
  dsimp only [tryWrite]
  split
  · rfl
  · rw [drawn]
    generalize Supply.drawRow build _ = row
    dsimp only
    generalize shelf.get _ = t
    by_cases taken : t.rows.contains (Stored.key row.1) = true
    · simp only [Table.create, keyed, taken, if_true]
      rfl
    · simp only [Table.create, keyed, taken]
      rfl

/-- A deletion is refused, or the key is free afterwards, whether or not there was a row. -/
theorem delete_cases (shelf : Shelf α κ) (k : κ) (s : Storage) :
    (∃ e p, s.delete shelf k = (.error e, s.supplied p)) ∨
      ∃ p, s.delete shelf k = (.ok ((shelf.get s).delete k).1,
        (shelf.set s ((shelf.get s).delete k).2).supplied p) := by
  let q : Supply := { s.supply with writes := s.supply.writes + 1 }
  have unfolded : s.delete shelf k =
      if s.supply.refuses s.supply.writes then (.error refused, s.supplied q)
      else (.ok ((shelf.get (s.supplied q)).delete k).1,
        shelf.set (s.supplied q) ((shelf.get (s.supplied q)).delete k).2) := rfl
  by_cases no : s.supply.refuses s.supply.writes = true
  · left
    exact ⟨refused, q, by rw [unfolded, if_pos no]⟩
  · right
    rw [if_neg no, get_supplied, set_supplied] at unfolded
    exact ⟨q, unfolded⟩

/-- A deletion fails only because it is refused. -/
theorem delete_eq_error {shelf : Shelf α κ} {k : κ} {s s' : Storage} {e : Fault}
    (failed : s.delete shelf k = (.error e, s')) : e = refused ∧ ¬ s.Accepts := by
  unfold delete at failed
  dsimp only [tryWrite] at failed
  split at failed
  · next no =>
    cases failed
    exact ⟨rfl, by simp [Accepts, no]⟩
  · cases failed

end Storage

namespace System

variable {s : System}

/-- The system with another supply behind it. -/
def supplied (s : System) (p : Supply) : System := { s with storage := s.storage.supplied p }

/-- What has not failed has answered. -/
theorem exists_answer (out : Outcome α) (ok : out.1.toOption.isSome = true) :
    ∃ a, out = (.ok a, out.2) := by
  obtain ⟨answer, after⟩ := out
  cases answer with
  | error e => cases ok
  | ok a => exact ⟨a, rfl⟩

theorem commit_fst (s : System) (write : Storage → Except Fault α × Storage)
    (apply : System → α → System) : (s.commit write apply).1 = (write s.storage).1 := by
  unfold commit
  split <;> next outcome => rw [outcome]

/-- An operation of one write fails only as the write does. -/
theorem commit_eq_error {write : Storage → Except Fault α × Storage} {apply : System → α → System}
    {e : Fault} {s' : System} (failed : s.commit write apply = (.error e, s')) :
    ∃ storage, write s.storage = (.error e, storage) := by
  unfold commit at failed
  split at failed
  · next outcome =>
    cases failed
    exact ⟨_, outcome⟩
  · cases failed

/-- An update that is not refused replaces the row that is there, and answers with the new one. -/
theorem commit_update {shelf : Shelf α κ} {build : Instant → α} (apply : System → α → System)
    (accepts : s.storage.Accepts)
    (present : ∀ now, ∃ t, (shelf.get s.storage).update (build now) = .ok t) :
    ∃ now t p, (shelf.get s.storage).update (build now) = .ok t ∧
      s.commit (Storage.update shelf build) apply = (.ok (build now),
        apply { s with storage := (shelf.set s.storage t).supplied p } (build now)) := by
  obtain ⟨q, t, entered, done⟩ := Storage.put_of_accepts (Supply.drawTimed build) accepts
    fun q => present q.takeTime.1
  refine ⟨q.takeTime.1, t, q.takeTime.2, entered, ?_⟩
  unfold commit Storage.update
  rw [done]
  rfl

/-- A refused operation has moved nothing but the supply; one that answers does so as stated. -/
inductive Settles (s : System) : Outcome α → (α → System → Prop) → Prop where
  | refused (e : Fault) (p : Supply) {answers : α → System → Prop} :
      Settles s (.error e, s.supplied p) answers
  | answered {a : α} {s' : System} {answers : α → System → Prop} (answer : answers a s') :
      Settles s (.ok a, s') answers

namespace Settles

variable {answers : α → System → Prop}

theorem unchanged (e : Fault) : s.Settles (.error e, s) answers := .refused e s.storage.supply

theorem imp {out : Outcome α} {other : α → System → Prop} (settled : s.Settles out answers)
    (weaker : ∀ a s', answers a s' → other a s') : s.Settles out other := by
  cases settled with
  | refused e p => exact .refused e p
  | answered answer => exact .answered (weaker _ _ answer)

theorem answer {a : α} {s' : System} (settled : s.Settles (.ok a, s') answers) :
    answers a s' := by
  cases settled with
  | answered answer => exact answer

theorem both {out : Outcome α} {other : α → System → Prop} (first : s.Settles out answers)
    (second : s.Settles out other) : s.Settles out fun a s' => answers a s' ∧ other a s' := by
  cases first with
  | refused e p => exact .refused e p
  | answered answer => exact .answered ⟨answer, second.answer⟩

/-- What an operation would have answered does not matter where it is refused. -/
theorem fail {e : Fault} {s' : System} {other : β → System → Prop}
    (settled : s.Settles (.error e, s') answers) : s.Settles (.error e, s') other := by
  cases settled with
  | refused e p => exact .refused e p

theorem check {found : Except Fault β} {next : β → Outcome α}
    (go : ∀ b, found = .ok b → s.Settles (next b) answers) :
    s.Settles (s.check found next) answers := by
  cases found with
  | error e => exact unchanged e
  | ok b => exact go b rfl

theorem put {shelf : Shelf α κ} {enter : Table α κ → α → Except Fault (Table α κ)}
    {draw : Supply → α × Supply} {apply : System → α → System}
    (entered : ∀ q t, q.writes = s.storage.supply.writes + 1 →
      enter (shelf.get s.storage) (draw q).1 = .ok t →
        answers (draw q).1 (apply
          { s with storage := (shelf.set s.storage t).supplied (draw q).2 } (draw q).1)) :
    s.Settles (s.commit (Storage.put shelf enter draw) apply) answers := by
  unfold commit
  obtain ⟨e, p, done⟩ | ⟨q, t, counted, entry, done⟩ := Storage.put_cases shelf enter draw s.storage
  · rw [done]
    exact .refused e p
  · rw [done]
    exact .answered (entered q t counted entry)

theorem create {shelf : Shelf α κ} {build : BitVec 128 → Instant → α}
    {apply : System → α → System}
    (entered : ∀ bits now t p, (shelf.get s.storage).create (build bits now) = .ok t →
      answers (build bits now)
        (apply { s with storage := (shelf.set s.storage t).supplied p } (build bits now))) :
    s.Settles (s.commit (Storage.create shelf build) apply) answers :=
  put fun q t _ => entered q.takeId.1 q.takeId.2.takeTime.1 t _

theorem createTimed {shelf : Shelf α κ} {build : Instant → α} {apply : System → α → System}
    (entered : ∀ now t p, (shelf.get s.storage).create (build now) = .ok t →
      answers (build now)
        (apply { s with storage := (shelf.set s.storage t).supplied p } (build now))) :
    s.Settles (s.commit (Storage.createTimed shelf build) apply) answers :=
  put fun q t _ => entered q.takeTime.1 t _

theorem update {shelf : Shelf α κ} {build : Instant → α} {apply : System → α → System}
    (entered : ∀ now t p, p.writes = s.storage.supply.writes + 1 →
      (shelf.get s.storage).update (build now) = .ok t →
        answers (build now)
          (apply { s with storage := (shelf.set s.storage t).supplied p } (build now))) :
    s.Settles (s.commit (Storage.update shelf build) apply) answers :=
  put fun q t counted => entered q.takeTime.1 t q.takeTime.2 counted

theorem delete {shelf : Shelf α κ} {k : κ} {apply : System → Bool → System}
    {answers : Bool → System → Prop}
    (deleted : ∀ found p, answers found (apply
      { s with storage := (shelf.set s.storage ((shelf.get s.storage).delete k).2).supplied p }
      found)) :
    s.Settles (s.commit (Storage.delete shelf k) apply) answers := by
  unfold commit
  obtain ⟨e, p, done⟩ | ⟨p, done⟩ := Storage.delete_cases shelf k s.storage
  · rw [done]
    exact .refused e p
  · rw [done]
    exact .answered (deleted _ p)

end Settles

end System

/-! ## Changes -/

/-- A folder name that some text was normalized to. -/
def IsFolderName (name : String) : Prop := ∃ t, normalizeName t = .ok name

/-- An e-mail that some text was normalized to: it is trimmed and in lower case, and has an at
sign. -/
def IsAddress (email : String) : Prop :=
  (∃ t, Text.lower (Text.trim t) = email) ∧ email.contains '@' = true

/-- What one write changes. -/
inductive Change where
  | addFolder (f : Folder)
  | saveFolder (id : FolderId) (f : Folder)
  | dropFolder (id : FolderId)
  | addUser (u : User)
  | saveUser (id : UserId) (u : User)
  | addRole (r : Role)
  | addGroup (g : Group)
  | addMember (m : Membership)
  | dropMember (k : MemberKey)
  | addAssignment (a : Assignment)
  | dropAssignment (id : AssignmentId)

namespace Change

/-- The change in the tables. -/
def enter (s : Storage) : Change → Except Fault Storage
  | addFolder f => (s.folders.create f).map (Shelf.folders.set s)
  | saveFolder _ f => (s.folders.update f).map (Shelf.folders.set s)
  | dropFolder id => .ok (Shelf.folders.set s (s.folders.delete id).2)
  | addUser u => (s.users.create u).map (Shelf.users.set s)
  | saveUser _ u => (s.users.update u).map (Shelf.users.set s)
  | addRole r => (s.roles.create r).map (Shelf.roles.set s)
  | addGroup g => (s.groups.create g).map (Shelf.groups.set s)
  | addMember m => (s.memberships.create m).map (Shelf.memberships.set s)
  | dropMember k => .ok (Shelf.memberships.set s (s.memberships.delete k).2)
  | addAssignment a => (s.assignments.create a).map (Shelf.assignments.set s)
  | dropAssignment id => .ok (Shelf.assignments.set s (s.assignments.delete id).2)

/-- The change in the hierarchy. -/
def applyTree (h : Hierarchy) : Change → Hierarchy
  | addFolder f => h.insert f
  | saveFolder _ f => h.replace f
  | dropFolder id => h.remove id
  | _ => h

/-- The change in the registry. -/
def applyRegistry (r : Registry) : Change → Registry
  | addUser u => { r with users := r.users.insert u.id u }
  | saveUser id u => { r with users := r.users.insert id u }
  | addRole role => { r with roles := r.roles.insert role.id role }
  | addGroup g => { r with groups := r.groups.insert g.id g }
  | addMember m => { r with memberships := r.memberships.insert m.key m }
  | dropMember k => { r with memberships := r.memberships.erase k }
  | addAssignment a => { r with assignments := r.assignments.insert a.id a }
  | dropAssignment id => { r with assignments := r.assignments.erase id }
  | _ => r

/-- What the checks in memory have established before the write. -/
def Checked (s : System) : Change → Prop
  | addFolder f => f.isRoot = false ∧
      (∃ q p, s.hierarchy.placeFor q = .ok p ∧ f.parent = some p) ∧ IsFolderName f.name
  | saveFolder id f => ∃ g, s.hierarchy.get? id = some g ∧ f.id = g.id ∧ f.isRoot = g.isRoot ∧
      (f.parent = g.parent ∨ ∃ p, f.parent = some p ∧ s.hierarchy.checkMove id p = .ok (.to p)) ∧
      (f.name = g.name ∨ IsFolderName f.name)
  | dropFolder id => s.hierarchy.checkRemoval id = .ok ()
  | addUser u => s.registry.emailTaken u.email = false ∧ IsAddress u.email
  | saveUser id u => ∃ v, s.registry.users[id]? = some v ∧ u.id = v.id ∧ u.email = v.email
  | addRole r => s.registry.roleNameTaken r.name = false
  | addGroup g => s.hierarchy.contains g.folder = true
  | addMember m => (∃ u, s.registry.users[m.user]? = some u) ∧
      s.registry.groups.contains m.group = true ∧ s.registry.memberships[m.key]? = none ∧
      s.admitMember m.user m.group = .ok ()
  | dropMember k => s.registry.memberships.contains k = true
  | addAssignment a => ∃ role p, s.registry.roles[a.role]? = some role ∧ a.principal? = some p ∧
      s.registry.hasPrincipal p = true ∧ s.hierarchy.contains a.folder = true ∧
      s.admitGrant role p = .ok ()
  | dropAssignment id => ∃ a, s.registry.assignments[id]? = some a

end Change

/-- A write that was checked and carried out, in the tables and in memory alike. -/
def System.Wrote (s : System) (c : Change) (s' : System) : Prop :=
  c.Checked s ∧ ∃ tables p, c.enter s.storage = .ok tables ∧
    s' = ⟨s.terms, c.applyTree s.hierarchy, c.applyRegistry s.registry, tables.supplied p⟩

namespace System

variable {s s' : System}

theorem Wrote.of_entry {t : Table α κ} {entry : Except Fault (Table α κ)} {shelf : Shelf α κ}
    {c : Change} {p : Supply} (checked : c.Checked s)
    (enter : c.enter s.storage = entry.map (shelf.set s.storage)) (entered : entry = .ok t)
    (after : s' = ⟨s.terms, c.applyTree s.hierarchy, c.applyRegistry s.registry,
      (shelf.set s.storage t).supplied p⟩) : s.Wrote c s' := by
  refine ⟨checked, shelf.set s.storage t, p, ?_, after⟩
  rw [enter, entered]
  rfl

theorem Wrote.terms_eq {c : Change} (wrote : s.Wrote c s') : s'.terms = s.terms := by
  obtain ⟨_, _, _, _, rfl⟩ := wrote
  rfl

theorem Wrote.hierarchy_eq {c : Change} (wrote : s.Wrote c s') :
    s'.hierarchy = c.applyTree s.hierarchy := by
  obtain ⟨_, _, _, _, rfl⟩ := wrote
  rfl

theorem Wrote.registry_eq {c : Change} (wrote : s.Wrote c s') :
    s'.registry = c.applyRegistry s.registry := by
  obtain ⟨_, _, _, _, rfl⟩ := wrote
  rfl

end System

end Perimeter
