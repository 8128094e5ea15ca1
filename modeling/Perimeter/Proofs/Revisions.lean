import Perimeter.Proofs.Database
import Perimeter.Proofs.Restart

/-!
# Revisions

The operations that change a row in place, with a database beside the tables. The tables replace
the whole row, the database sets some of its columns, and the two go on alike because what is
replaced is always an earlier version of the row (`Folder.SameOrigin`, `User.SameOrigin`). A run of
revisions leaves the database with the rows of the tables, and each update returns what the table
has, but for what is finer than a microsecond in its times (`revisions_come_out_alike`).
-/

namespace Perimeter

open Sql

/-! ## Versions of a row -/

/-- Two versions of one folder: they have what a folder has from its creation on. -/
structure Folder.SameOrigin (f old : Folder) : Prop where
  id : f.id = old.id
  isRoot : f.isRoot = old.isRoot
  builtin : f.builtin = old.builtin
  createdAt : f.createdAt = old.createdAt

/-- Two versions of one user. -/
structure User.SameOrigin (u old : User) : Prop where
  id : u.id = old.id
  email : u.email = old.email
  createdAt : u.createdAt = old.createdAt

theorem Folder.SameOrigin.refl (f : Folder) : f.SameOrigin f := ⟨rfl, rfl, rfl, rfl⟩

theorem User.SameOrigin.refl (u : User) : u.SameOrigin u := ⟨rfl, rfl, rfl⟩

/-- The columns that an update of a folder does not set are those of its origin. -/
theorem Folder.SameOrigin.agree {f old : Folder} (same : f.SameOrigin old) :
    Relation.folders.Agree f old := by
  intro c known unset
  have fixed : c ∈ Relation.folders.names.filter (· ∉ Relation.folders.changeable) :=
    List.mem_filter.mpr ⟨known, by simpa using unset⟩
  change c ∈ ["id", "is_root", "builtin", "created_at"] at fixed
  simp only [List.mem_cons, List.not_mem_nil, or_false] at fixed
  obtain rfl | rfl | rfl | rfl := fixed
  · exact congrArg Datum.ofId same.id
  · exact congrArg Datum.bool same.isRoot
  · exact congrArg Datum.bool same.builtin
  · exact congrArg Datum.ofTime same.createdAt

theorem User.SameOrigin.agree {u old : User} (same : u.SameOrigin old) :
    Relation.users.Agree u old := by
  intro c known unset
  have fixed : c ∈ Relation.users.names.filter (· ∉ Relation.users.changeable) :=
    List.mem_filter.mpr ⟨known, by simpa using unset⟩
  change c ∈ ["id", "email", "created_at"] at fixed
  simp only [List.mem_cons, List.not_mem_nil, or_false] at fixed
  obtain rfl | rfl | rfl := fixed
  · exact congrArg Datum.ofId same.id
  · exact congrArg Datum.text same.email
  · exact congrArg Datum.ofTime same.createdAt

/-- A table beside the relation that a database keeps its rows in. -/
structure Twin (α κ : Type) [Ord κ] [Std.TransOrd κ] [Stored α κ] where
  shelf : Shelf α κ
  relation : Relation α κ
  /-- A row as the database keeps it, and whether that is the row itself. -/
  cut : α → α
  exact : α → Prop
  /-- Whether two rows are versions of one. -/
  same : α → α → Prop
  sound : relation.Sound cut
  cut_eq_iff : ∀ a, cut a = a ↔ exact a
  same_refl : ∀ a, same a a
  agree : ∀ {a old}, same a old → relation.Agree a old
  keyed : ∀ a, relation.key a = Stored.key a
  get_set : ∀ s t, shelf.get (shelf.set s t) = t

namespace Twin

def folders : Twin Folder FolderId where
  shelf := .folders
  relation := .folders
  cut := Relation.storedFolder
  exact f := IsStorable f.createdAt ∧ IsStorable f.updatedAt
  same := Folder.SameOrigin
  sound := Relation.folders_sound
  cut_eq_iff _ := Relation.storedFolder_eq_iff
  same_refl := Folder.SameOrigin.refl
  agree := Folder.SameOrigin.agree
  keyed _ := rfl
  get_set _ _ := rfl

def users : Twin User UserId where
  shelf := .users
  relation := .users
  cut := Relation.storedUser
  exact u := IsStorable u.createdAt ∧ IsStorable u.updatedAt
  same := User.SameOrigin
  sound := Relation.users_sound
  cut_eq_iff _ := Relation.storedUser_eq_iff
  same_refl := User.SameOrigin.refl
  agree := User.SameOrigin.agree
  keyed _ := rfl
  get_set _ _ := rfl

variable {α κ δ : Type} [Ord κ] [Std.TransOrd κ] [Stored α κ] {w : Twin α κ} {s : System}
  {out : Outcome α} {db : Database δ} {d d' : δ}

/-- An operation writes a row: the row takes the place of another version of it. -/
structure Writes (w : Twin α κ) (s : System) (a : α) (s' : System) : Prop where
  version : ∃ old, (w.shelf.get s.storage).find? (Stored.key a) = some old ∧ w.same a old
  entered : ∃ t p, (w.shelf.get s.storage).update a = .ok t ∧
    p.writes = s.storage.supply.writes + 1 ∧ s'.storage = (w.shelf.set s.storage t).supplied p

/-- An operation is refused, or answers with the row that is there, or writes one. -/
def Revises (w : Twin α κ) (s : System) (out : Outcome α) : Prop :=
  s.Settles out fun a s' =>
    s' = s ∧ (w.shelf.get s.storage).find? (Stored.key a) = some a ∨ w.Writes s a s'

/-- The row that an operation answers with, and has written if it has written any, is a version
of the row that is stored under its key. -/
def KeepsOrigin (w : Twin α κ) (s : System) (out : Outcome α) : Prop :=
  ∀ a s', out = (.ok a, s') →
    ∃ old, (w.shelf.get s.storage).find? (Stored.key a) = some old ∧ w.same a old

/-- The row that an operation writes comes back from the database, if that answers, as it is kept
there, and so unchanged exactly if it can be kept so. -/
def Repeats (w : Twin α κ) (db : Database δ) (s : System) (d : δ) (out : Outcome α) : Prop :=
  ∀ a s', out = (.ok a, s') → s'.storage.supply.writes ≠ s.storage.supply.writes →
    db.Answers w.relation a d →
      (db.update w.relation a d).1 = .ok (w.cut a) ∧
        ((db.update w.relation a d).1 = .ok a ↔ w.exact a)

/-- The database after an operation: the update that the operation has written, if it has written
one, is sent to the database as well. `none` if that does not answer. -/
def follow (w : Twin α κ) (db : Database δ) (s : System) (out : Outcome α) (d : δ) : Option δ :=
  if out.2.storage.supply.writes = s.storage.supply.writes then some d
  else out.1.toOption.elim (some d) fun a => db.updated? w.relation a d

theorem Revises.keepsOrigin (revises : w.Revises s out) : w.KeepsOrigin s out := by
  rintro a s' rfl
  obtain ⟨_, stored⟩ | writes := System.Settles.answer revises
  · exact ⟨a, stored, w.same_refl a⟩
  · exact writes.version

/-- An operation that answers after it tried a write has written its row. -/
theorem Revises.writes (revises : w.Revises s out) {a : α} {s' : System} (ok : out = (.ok a, s'))
    (tried : s'.storage.supply.writes ≠ s.storage.supply.writes) : w.Writes s a s' := by
  subst ok
  obtain ⟨rfl, _⟩ | writes := System.Settles.answer revises
  · exact absurd rfl tried
  · exact writes

/-- Nothing is touched but the table of the row. -/
theorem Revises.storage_eq (revises : w.Revises s out) :
    ∃ p, out.2.storage = s.storage.supplied p ∨
      ∃ t, out.2.storage = (w.shelf.set s.storage t).supplied p := by
  cases revises with
  | refused e p => exact ⟨p, Or.inl rfl⟩
  | @answered a s' _ answer =>
    obtain ⟨rfl, _⟩ | ⟨_, t, p, _, _, after⟩ := answer
    · exact ⟨s'.storage.supply, Or.inl rfl⟩
    · exact ⟨p, Or.inr ⟨t, after⟩⟩

/-- A database that is asked beside the table either stands still, as the table does, or is asked
for the update that is written. -/
theorem Revises.of_follow (revises : w.Revises s out) (followed : w.follow db s out d = some d') :
    w.shelf.get out.2.storage = w.shelf.get s.storage ∧ d' = d ∨
      ∃ a, w.Writes s a out.2 ∧ db.Answers w.relation a d ∧
        (db.update w.relation a d).2 = d' := by
  unfold follow at followed
  cases revises with
  | refused e p =>
    left
    refine ⟨Storage.get_supplied w.shelf s.storage p, ?_⟩
    split at followed <;> exact (Option.some.inj followed).symm
  | @answered a s' _ answer =>
    obtain ⟨rfl, _⟩ | writes := answer
    · rw [if_pos rfl] at followed
      exact Or.inl ⟨rfl, (Option.some.inj followed).symm⟩
    · have tried : s'.storage.supply.writes ≠ s.storage.supply.writes := by
        obtain ⟨t, p, _, counted, after⟩ := writes.entered
        rw [after]
        change p.writes ≠ _
        omega
      rw [if_neg tried] at followed
      exact Or.inr ⟨a, writes, Database.updated?_eq_some.mp followed⟩

variable [Std.LawfulEqOrd κ] [DecidableEq κ]

theorem Writes.update_database {a : α} {s' : System} (writes : w.Writes s a s')
    (law : db.SetsListed w.relation) (shows : db.Shows w.relation d (w.shelf.get s.storage))
    (answers : db.Answers w.relation a d) :
    (db.update w.relation a d).1 = .ok (w.cut a) ∧
      db.Shows w.relation (db.update w.relation a d).2 (w.shelf.get s'.storage) ∧
        ∀ table key, table ≠ w.relation.table →
          db.row? (db.update w.relation a d).2 table key = db.row? d table key := by
  obtain ⟨⟨old, stored, same⟩, t, p, updated, _, after⟩ := writes
  rw [after, Storage.get_supplied, w.get_set]
  exact Database.update_of_agree law w.sound shows (w.keyed a) stored (w.agree same) updated answers

theorem Revises.repeats (revises : w.Revises s out) (law : db.SetsListed w.relation)
    (shows : db.Shows w.relation d (w.shelf.get s.storage)) : w.Repeats db s d out := by
  intro a s' ok tried answers
  have returned := ((revises.writes ok tried).update_database law shows answers).1
  refine ⟨returned, ?_⟩
  rw [returned, Except.ok.injEq, w.cut_eq_iff]

/-- The database goes on with the rows of the table, and its other tables stay as they are. -/
theorem Revises.shows (revises : w.Revises s out) (law : db.SetsListed w.relation)
    (shows : db.Shows w.relation d (w.shelf.get s.storage))
    (followed : w.follow db s out d = some d') :
    db.Shows w.relation d' (w.shelf.get out.2.storage) ∧
      ∀ table key, table ≠ w.relation.table → db.row? d' table key = db.row? d table key := by
  obtain ⟨still, rfl⟩ | ⟨a, writes, answers, rfl⟩ := revises.of_follow followed
  · rw [still]
    exact ⟨shows, fun _ _ _ => rfl⟩
  · exact (writes.update_database law shows answers).2

end Twin

namespace System

variable {s s' : System}

/-! ## Operations -/

theorem Grounded.find?_of_get? (grounded : s.Grounded) {id : FolderId} {f : Folder}
    (row : s.hierarchy.get? id = some f) :
    f.id = id ∧ s.storage.folders.find? f.id = some f := by
  have own : f.id = id := grounded.tree.keyed id f row
  refine ⟨own, ?_⟩
  rw [own, ← Hierarchy.get?_of_rows grounded.rows, row]

theorem saveFolder_revises {f old : Folder} (stored : s.storage.folders.find? old.id = some old)
    (same : f.SameOrigin old) : Twin.folders.Revises s (s.saveFolder f) := by
  refine .update fun now t p counted entered => Or.inr ⟨⟨old, ?_, ?_⟩, ?_⟩
  · change s.storage.folders.find? f.id = some old
    rw [same.id, stored]
  · exact ⟨same.id, same.isRoot, same.builtin, same.createdAt⟩
  · exact ⟨t, p, entered, counted, rfl⟩

theorem moveFolder_revises (grounded : s.Grounded) (id q : FolderId) :
    Twin.folders.Revises s (s.moveFolder id q) := by
  refine .check fun m passed => ?_
  obtain ⟨f, row, _, _, _, cases⟩ := Hierarchy.checkMove_eq_ok passed
  obtain ⟨rfl, stored⟩ := grounded.find?_of_get? row
  obtain ⟨rfl, _⟩ | ⟨rfl, _⟩ := cases
  · simp only [Hierarchy.require_eq_ok.mpr row]
    exact .answered (Or.inl ⟨rfl, stored⟩)
  · simp only [Hierarchy.require_eq_ok.mpr row]
    exact saveFolder_revises stored ⟨rfl, rfl, rfl, rfl⟩

theorem renameFolder_revises (grounded : s.Grounded) (id : FolderId)
    (name description : Option String) :
    Twin.folders.Revises s (s.renameFolder id name description) := by
  refine .check fun given _ => .check fun f found => ?_
  obtain ⟨rfl, stored⟩ := grounded.find?_of_get? (Hierarchy.require_eq_ok.mp found)
  split
  · exact .answered (Or.inl ⟨rfl, stored⟩)
  · exact saveFolder_revises stored ⟨rfl, rfl, rfl, rfl⟩

theorem setUserActive_revises (mirrored : s.Mirrored) (id : UserId) (active : Bool) :
    Twin.users.Revises s (s.setUserActive id active) := by
  refine .check fun u found => ?_
  rw [requireUser_eq_ok, mirrored.registry.users, Table.getElem?_contents] at found
  obtain rfl : u.id = id := Table.key_of_find? found
  dsimp only
  split
  · exact .answered (Or.inl ⟨rfl, found⟩)
  · refine .update fun now t p counted entered => Or.inr ⟨⟨u, found, ?_⟩, ?_⟩
    · exact ⟨rfl, rfl, rfl⟩
    · exact ⟨t, p, entered, counted, rfl⟩

/-! ## Runs -/

/-- A call of an operation that changes a row in place, or a change of the supply. -/
inductive Revision where
  | supply (p : Supply)
  | moveFolder (id parent : FolderId)
  | renameFolder (id : FolderId) (name description : Option String)
  | setUserActive (id : UserId) (active : Bool)

variable {δ : Type} {db : Database δ} {d d' : δ}

namespace Revision

/-- A revision as what happens to the system. -/
def event : Revision → Event
  | supply p => .supply p
  | moveFolder id parent => .call (.moveFolder id parent)
  | renameFolder id name description => .call (.renameFolder id name description)
  | setUserActive id active => .call (.setUserActive id active)

/-- The database after a revision. -/
def follow (db : Database δ) (s : System) (d : δ) : Revision → Option δ
  | supply _ => some d
  | moveFolder id parent => Twin.folders.follow db s (s.moveFolder id parent) d
  | renameFolder id name description =>
    Twin.folders.follow db s (s.renameFolder id name description) d
  | setUserActive id active => Twin.users.follow db s (s.setUserActive id active) d

/-- The system and the database after a revision. -/
def run (db : Database δ) (x : System × δ) (c : Revision) : Option (System × δ) :=
  (c.follow db x.1 x.2).map (x.1.after c.event, ·)

/-- The system and the database after revisions; `none` if the database leaves one of the updates
without an answer. -/
def runAll (db : Database δ) (x : System × δ) (cs : List Revision) : Option (System × δ) :=
  cs.foldlM (run db) x

end Revision

/-- The database has the rows of the folders and of the users. -/
structure Beside (s : System) (db : Database δ) (d : δ) : Prop where
  folders : db.Shows Relation.folders d s.storage.folders
  users : db.Shows Relation.users d s.storage.users

/-- What is written in place is a version of what is stored. -/
structure KeepsOrigins (s : System) : Prop where
  moveFolder : ∀ id parent, Twin.folders.KeepsOrigin s (s.moveFolder id parent)
  renameFolder : ∀ id name description,
    Twin.folders.KeepsOrigin s (s.renameFolder id name description)
  setUserActive : ∀ id active, Twin.users.KeepsOrigin s (s.setUserActive id active)

/-- What is written in place comes back from the database as it is kept there. -/
structure RepeatedBy (s : System) (db : Database δ) (d : δ) : Prop where
  moveFolder : ∀ id parent, Twin.folders.Repeats db s d (s.moveFolder id parent)
  renameFolder : ∀ id name description,
    Twin.folders.Repeats db s d (s.renameFolder id name description)
  setUserActive : ∀ id active, Twin.users.Repeats db s d (s.setUserActive id active)

theorem Mirrored.keepsOrigins (mirrored : s.Mirrored) : s.KeepsOrigins where
  moveFolder id parent := (moveFolder_revises mirrored.toGrounded id parent).keepsOrigin
  renameFolder id name description :=
    (renameFolder_revises mirrored.toGrounded id name description).keepsOrigin
  setUserActive id active := (setUserActive_revises mirrored id active).keepsOrigin

section Beside
variable (folders : db.SetsListed Relation.folders) (users : db.SetsListed Relation.users)

include folders in
theorem Beside.revise_folders (beside : s.Beside db d) {out : Outcome Folder}
    (revises : Twin.folders.Revises s out)
    (followed : Twin.folders.follow db s out d = some d') : out.2.Beside db d' := by
  obtain ⟨shows, others⟩ := revises.shows folders beside.folders followed
  have same : out.2.storage.users = s.storage.users := by
    obtain ⟨p, after | ⟨t, after⟩⟩ := revises.storage_eq <;> rw [after] <;> rfl
  refine ⟨shows, fun k => ?_⟩
  rw [others _ _ (by decide), beside.users, same]

include users in
theorem Beside.revise_users (beside : s.Beside db d) {out : Outcome User}
    (revises : Twin.users.Revises s out)
    (followed : Twin.users.follow db s out d = some d') : out.2.Beside db d' := by
  obtain ⟨shows, others⟩ := revises.shows users beside.users followed
  have same : out.2.storage.folders = s.storage.folders := by
    obtain ⟨p, after | ⟨t, after⟩⟩ := revises.storage_eq <;> rw [after] <;> rfl
  refine ⟨fun k => ?_, shows⟩
  rw [others _ _ (by decide), beside.folders, same]

include folders users

theorem Mirrored.repeatedBy (mirrored : s.Mirrored) (beside : s.Beside db d) :
    s.RepeatedBy db d where
  moveFolder id parent :=
    (moveFolder_revises mirrored.toGrounded id parent).repeats folders beside.folders
  renameFolder id name description :=
    (renameFolder_revises mirrored.toGrounded id name description).repeats folders beside.folders
  setUserActive id active := (setUserActive_revises mirrored id active).repeats users beside.users

/-- One revision keeps the database beside the system. -/
theorem Beside.revise (beside : s.Beside db d) (mirrored : s.Mirrored) {c : Revision}
    (followed : c.follow db s d = some d') : (s.after c.event).Beside db d' := by
  cases c with
  | supply p =>
    cases followed
    exact ⟨beside.folders, beside.users⟩
  | moveFolder id parent =>
    exact beside.revise_folders folders (moveFolder_revises mirrored.toGrounded id parent) followed
  | renameFolder id name description =>
    exact beside.revise_folders folders
      (renameFolder_revises mirrored.toGrounded id name description) followed
  | setUserActive id active =>
    exact beside.revise_users users (setUserActive_revises mirrored id active) followed

/-- So does a run of them. -/
theorem Beside.revise_all (beside : s.Beside db d) (mirrored : s.Mirrored) {cs : List Revision}
    (ran : Revision.runAll db (s, d) cs = some (s', d')) :
    s' = s.afterAll (cs.map Revision.event) ∧ s'.Beside db d' := by
  induction cs generalizing s d with
  | nil =>
    cases ran
    exact ⟨rfl, beside⟩
  | cons c cs ih =>
    obtain ⟨x, first, rest⟩ := Option.bind_eq_some_iff.mp ran
    obtain ⟨d₁, followed, rfl⟩ := Option.map_eq_some_iff.mp first
    have mirrored₁ : (s.after c.event).Mirrored := (mirrored.afterAll [c.event]).1
    exact ih (beside.revise folders users mirrored followed) mirrored₁ rest

end Beside

/-- In every state of a run, what is written in place is a version of what is stored. So a database
whose updates set the columns they list, and which starts with the rows of the tables, goes on
with them through every run of revisions, and returns each row as it is kept there. -/
theorem revisions_come_out_alike {terms : Terms} {storage storage' : Storage} {s₀ : System}
    (started : start terms storage = (.ok s₀, storage')) (events : List Event) :
    let s := s₀.afterAll events
    s.KeepsOrigins ∧
      ∀ {δ : Type} (db : Database δ) (d : δ), db.SetsListed Relation.folders →
        db.SetsListed Relation.users → s.Beside db d →
          ∀ cs s' d', Revision.runAll db (s, d) cs = some (s', d') →
            s'.Beside db d' ∧ s'.KeepsOrigins ∧ s'.RepeatedBy db d' := by
  intro s
  have mirrored : s.Mirrored := ((mirrored_of_start started).1.afterAll events).1
  refine ⟨mirrored.keepsOrigins, ?_⟩
  intro δ db d folders users beside cs s' d' ran
  obtain ⟨rfl, beside'⟩ := beside.revise_all folders users mirrored ran
  have mirrored' := (mirrored.afterAll (cs.map Revision.event)).1
  exact ⟨beside', mirrored'.keepsOrigins, mirrored'.repeatedBy folders users beside'⟩

theorem beside_rowsOf (s : System) : s.Beside .byKey (Database.rowsOf s.storage) :=
  ⟨fun _ => rfl, fun _ => rfl⟩

theorem founded_revised_alike :
    let s := (founded ⟨"Root", ⟨2, 8⟩, .standard⟩ .empty).afterAll
      [.call (.createFolder ⟨"Assets", none, none⟩)]
    let d := Database.rowsOf s.storage
    (∃ f, (s.renameFolder ⟨Supply.counted 2⟩ (some "Inventory") none).1 = .ok f ∧
        f.name = "Inventory" ∧ (Database.byKey.update Relation.folders f d).1 = .ok f) ∧
      ∃ s' d', Revision.runAll .byKey (s, d)
          [.renameFolder ⟨Supply.counted 2⟩ (some "Inventory") none] = some (s', d') ∧
        s'.Beside .byKey d' := by
  intro s d
  obtain ⟨_, alike⟩ := revisions_come_out_alike
    (start_founded ⟨"Root", ⟨2, 8⟩, .standard⟩ .empty rfl rfl)
    [.call (.createFolder ⟨"Assets", none, none⟩)]
  have lawful := alike .byKey d (Database.byKey_setsListed fun _ => rfl)
    (Database.byKey_setsListed fun _ => rfl) (beside_rowsOf s)
  constructor
  · let f : Folder := ⟨⟨Supply.counted 2⟩, "Inventory", none, some ⟨Supply.counted 1⟩, false, false,
      Instant.ofParts 1704067201 0, Instant.ofParts 1704067202 0⟩
    have answered : (s.renameFolder ⟨Supply.counted 2⟩ (some "Inventory") none).1 = .ok f := by
      decide +kernel
    obtain ⟨_, _, repeated⟩ := lawful [] s d rfl
    have returned := repeated.renameFolder ⟨Supply.counted 2⟩ (some "Inventory") none f _
      (Prod.ext answered rfl) (by decide +kernel) ⟨_, rfl⟩
    have whole : IsStorable f.createdAt ∧ IsStorable f.updatedAt :=
      ⟨⟨by decide, by decide⟩, by decide, by decide⟩
    exact ⟨f, answered, rfl, returned.2.mpr whole⟩
  · have ran : (Revision.runAll .byKey (s, d)
        [.renameFolder ⟨Supply.counted 2⟩ (some "Inventory") none]).isSome = true := by
      decide +kernel
    obtain ⟨⟨s', d'⟩, ran⟩ := Option.isSome_iff_exists.mp ran
    exact ⟨s', d', ran, (lawful _ s' d' ran).1⟩

/-- A time that is finer than microseconds is stored by the table and cut by the database. -/
theorem finer_time_comes_back_cut :
    let s := (founded ⟨"Root", ⟨2, 8⟩, .standard⟩ .empty).afterAll
      [.supply { Supply.fresh with nanos := 1 }]
    let d := Database.rowsOf s.storage
    (Database.byKey.SetsListed Relation.folders ∧ s.Beside .byKey d) ∧
      ∃ f s', s.renameFolder ⟨Supply.counted 1⟩ (some "Top") none = (.ok f, s') ∧
        s'.storage.folders.find? f.id = some f ∧
          (Database.byKey.update Relation.folders f d).1 = .ok (Relation.storedFolder f) ∧
            Relation.storedFolder f ≠ f := by
  intro s d
  refine ⟨⟨Database.byKey_setsListed fun _ => rfl, beside_rowsOf s⟩, ?_⟩
  let f : Folder := ⟨⟨Supply.counted 1⟩, "Top", none, none, true, true,
    Instant.ofParts 1704067200 0, Instant.ofParts 1704067200 1⟩
  have answered : (s.renameFolder ⟨Supply.counted 1⟩ (some "Top") none).1 = .ok f := by
    decide +kernel
  refine ⟨f, _, Prod.ext answered rfl, ?_, ?_, ?_⟩
  · decide +kernel
  · decide +kernel
  · decide +kernel

end System

end Perimeter
