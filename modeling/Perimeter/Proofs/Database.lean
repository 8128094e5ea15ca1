import Mathlib.Data.List.Nodup
import Perimeter.Proofs.Tables
import Perimeter.Sql.Tables

/-!
# Updates in a database

What becomes of a row that is updated in a database, if an update sets the listed columns of the
addressed row and nothing else (`Database.SetsListed`). The columns that are not listed keep what
the database has in them, so the row comes out as it was passed exactly because it agrees with the
stored one there (`Relation.Sound.set_rowOf`). What comes back is read from the stored values, in
which times are whole microseconds (`Database.update_of_agree`, `storedTime_eq_iff`).
-/

namespace Perimeter.Sql

/-! ## Times -/

/-- Databases keep the time as it is: in whole microseconds, and outside a leap second. -/
def IsStorable (t : Instant) : Prop := t.nanos < 1000000000 ∧ t.nanos % 1000 = 0

theorem storedTime_eq_iff {t : Instant} : storedTime t = t ↔ IsStorable t := by
  obtain ⟨ticks⟩ := t
  simp only [storedTime, IsStorable, Instant.ofParts, Instant.seconds, Instant.nanos,
    Instant.perSecond, databaseEpoch, Instant.mk.injEq, Int.tdiv_eq_ediv]
  constructor
  · intro same
    omega
  · rintro ⟨short, whole⟩
    split <;> omega

/-! ## Rows -/

/-- The row with some columns set. -/
def Row.set (row : Row) (columns : List String) (values : List Datum) : Row :=
  row.map fun c => (c.1, ((columns.zip values).lookup c.1).getD c.2)

theorem lookup_zip_map {β : Type} (names : List String) (f : String → β) (c : String) :
    (names.zip (names.map f)).lookup c = if c ∈ names then some (f c) else none := by
  induction names with
  | nil => rfl
  | cons name names ih =>
    rw [List.map_cons, List.zip_cons_cons, List.lookup_cons, ih]
    by_cases same : c = name
    · simp [same]
    · have other : (c == name) = false := by simpa using same
      simp [same, other]

/-- Values under distinct names are read back in their order. -/
theorem map_get_zip {names : List String} {values : List Datum} (distinct : names.Nodup)
    (len : values.length = names.length) :
    names.map (fun c => Row.get (names.zip values) c) = values := by
  induction names generalizing values with
  | nil => exact (List.length_eq_zero_iff.mp len).symm
  | cons name names ih =>
    obtain ⟨v, vs, rfl⟩ := List.exists_cons_of_length_eq_add_one len
    rw [List.nodup_cons] at distinct
    have first : Row.get ((name :: names).zip (v :: vs)) name = v := by simp [Row.get]
    have rest : ∀ c ∈ names,
        Row.get ((name :: names).zip (v :: vs)) c = Row.get (names.zip vs) c := by
      intro c mem
      have other : (c == name) = false := by
        rw [beq_eq_false_iff_ne]
        rintro rfl
        exact distinct.1 mem
      simp [Row.get, List.lookup_cons, other]
    rw [List.map_cons, first, List.map_congr_left rest, ih distinct.2 (by simpa using len)]

namespace Relation

variable {α κ : Type} {r : Relation α κ} {cut : α → α} {a old : α}

/-- The names of the columns. -/
def names (r : Relation α κ) : List String := r.columns.map Column.name

/-- A row with the names of its columns. -/
def rowOf (r : Relation α κ) (a : α) : Row := r.names.zip (r.toData a)

/-- Two rows agree in every column that an update does not set. -/
def Agree (r : Relation α κ) (a old : α) : Prop :=
  ∀ c ∈ r.names, c ∉ r.changeable → (r.rowOf a).get c = (r.rowOf old).get c

/-- What makes updates of a relation's rows come out right. A row that is read back is as `cut`
makes it. -/
structure Sound (r : Relation α κ) (cut : α → α) : Prop where
  distinct : r.names.Nodup
  length_toData : ∀ a, (r.toData a).length = r.names.length
  changes : r.changeable.isEmpty = false
  known : ∀ c ∈ r.changeable, c ∈ r.names
  apart : ∀ c ∈ r.changeable, c ∉ r.keyColumns
  keyData_injective : ∀ k j, r.keyData k = r.keyData j → k = j
  ofData?_toData : ∀ a, r.ofData? (r.toData a) = some (cut a)

namespace Sound

theorem toData_eq_map (sound : r.Sound cut) (a : α) :
    r.toData a = r.names.map fun c => (r.rowOf a).get c :=
  (map_get_zip sound.distinct (sound.length_toData a)).symm

theorem lookup_rowOf (sound : r.Sound cut) {c : String} (known : c ∈ r.names) :
    (r.rowOf a).lookup c = some ((r.rowOf a).get c) := by
  have found := lookup_zip_map r.names (fun c => (r.rowOf a).get c) c
  rw [← sound.toData_eq_map, if_pos known] at found
  exact found

theorem rowOf_eq_map (sound : r.Sound cut) (a : α) :
    r.rowOf a = r.names.map fun c => (c, (r.rowOf a).get c) := by
  rw [List.map_prod_left_eq_zip, ← sound.toData_eq_map, rowOf]

theorem valuesOf_changeable (sound : r.Sound cut) (a : α) :
    r.valuesOf r.changeable a = r.changeable.map fun c => (r.rowOf a).get c := by
  have found : ∀ c ∈ r.changeable, (r.rowOf a).lookup c = some ((r.rowOf a).get c) :=
    fun c listed => sound.lookup_rowOf (sound.known c listed)
  rw [← List.filterMap_eq_map]
  exact List.filterMap_congr found

/-- A stored row that an update is sent for is the row of the update afterwards, if the two agree
in what the update does not set. -/
theorem set_rowOf (sound : r.Sound cut) (agree : r.Agree a old) :
    (r.rowOf old).set r.changeable (r.valuesOf r.changeable a) = r.rowOf a := by
  rw [sound.valuesOf_changeable, sound.rowOf_eq_map old, Row.set, List.map_map]
  conv_rhs => rw [sound.rowOf_eq_map a]
  apply List.map_congr_left
  intro c known
  simp only [Function.comp_apply, lookup_zip_map, Prod.mk.injEq, true_and]
  by_cases listed : c ∈ r.changeable
  · simp [listed]
  · simp [listed, agree c known listed]

theorem ofRow?_rowOf (sound : r.Sound cut) (a : α) : r.ofRow? (r.rowOf a) = some (cut a) := by
  have data : r.columns.map (fun c => (r.rowOf a).get c.name) = r.toData a := by
    rw [sound.toData_eq_map, names, List.map_map]
    rfl
  rw [ofRow?, data, sound.ofData?_toData]

end Sound

/-! ## Folders and users -/

/-- A folder as it is read back. -/
def storedFolder (f : Folder) : Folder :=
  { f with createdAt := storedTime f.createdAt, updatedAt := storedTime f.updatedAt }

/-- A user as it is read back. -/
def storedUser (u : User) : User :=
  { u with createdAt := storedTime u.createdAt, updatedAt := storedTime u.updatedAt }

theorem storedFolder_eq_iff {f : Folder} :
    storedFolder f = f ↔ IsStorable f.createdAt ∧ IsStorable f.updatedAt := by
  rw [← storedTime_eq_iff, ← storedTime_eq_iff]
  cases f
  simp [storedFolder]

theorem storedUser_eq_iff {u : User} :
    storedUser u = u ↔ IsStorable u.createdAt ∧ IsStorable u.updatedAt := by
  rw [← storedTime_eq_iff, ← storedTime_eq_iff]
  cases u
  simp [storedUser]

theorem keyData_id_injective {ι : Kind} {k j : Id ι} (same : [Datum.ofId k] = [Datum.ofId j]) :
    k = j := by
  cases k
  cases j
  simpa [Datum.ofId] using same

theorem folders_sound : folders.Sound storedFolder where
  distinct := by decide
  length_toData _ := rfl
  changes := rfl
  known := by decide
  apart := by decide
  keyData_injective _ _ := keyData_id_injective
  ofData?_toData f := by
    obtain ⟨id, name, description, parent, isRoot, builtin, created, updated⟩ := f
    cases description <;> cases parent <;> rfl

theorem users_sound : users.Sound storedUser where
  distinct := by decide
  length_toData _ := rfl
  changes := rfl
  known := by decide
  apart := by decide
  keyData_injective _ _ := keyData_id_injective
  ofData?_toData u := by
    obtain ⟨id, email, firstName, lastName, isActive, created, updated⟩ := u
    cases firstName <;> cases lastName <;> rfl

end Relation

/-! ## Databases -/

/-- A database in its states: how it carries out statements, and which row of a table has the
values of a key. -/
structure Database (δ : Type) where
  execute : Statement → δ → Answer × δ
  row? : δ → String → List Datum → Option Row

namespace Database

variable {δ α κ : Type} {db : Database δ} {r : Relation α κ} {d d' : δ}

/-- What an update of one row comes to. Where the row is there, it has the listed columns set and
is all that is returned; no other row is touched. -/
structure SetRow (db : Database δ) (table : String) (key : List Datum) (columns : List String)
    (values : List Datum) (d : δ) (reply : Reply) (d' : δ) : Prop where
  returned : reply.rows = ((db.row? d table key).map (·.set columns values)).toList
  addressed : db.row? d' table key = (db.row? d table key).map (·.set columns values)
  others : ∀ table' key', (table', key') ≠ (table, key) →
    db.row? d' table' key' = db.row? d table' key'

/-- `UPDATE .. SET .. WHERE .. RETURNING *`, addressed by the key of a relation, sets exactly the
listed columns of the addressed row, whenever it is answered. -/
def SetsListed (db : Database δ) (r : Relation α κ) : Prop :=
  ∀ k columns values d reply d', values.length = columns.length →
    (∀ c ∈ columns, c ∉ r.keyColumns) →
      db.execute ⟨.update r.table r.keyColumns columns, r.keyData k ++ values⟩ d = (.ok reply, d') →
        db.SetRow r.table (r.keyData k) columns values d reply d'

/-- The update of a row: what the repository makes of the answer, and the state afterwards. -/
def update (db : Database δ) (r : Relation α κ) (a : α) (d : δ) : Except Fault α × δ :=
  let done := db.execute (r.update a).statement d
  ((r.update a).read done.1, done.2)

/-- The database answers the update of a row, be it that there is none. -/
def Answers (db : Database δ) (r : Relation α κ) (a : α) (d : δ) : Prop :=
  ∃ reply, (db.execute (r.update a).statement d).1 = .ok reply

/-- The state after the update of a row; `none` if the database does not answer. -/
def updated? (db : Database δ) (r : Relation α κ) (a : α) (d : δ) : Option δ :=
  (db.execute (r.update a).statement d).1.toOption.map fun _ => (db.update r a d).2

theorem updated?_eq_some {a : α} :
    db.updated? r a d = some d' ↔ db.Answers r a d ∧ (db.update r a d).2 = d' := by
  unfold updated? Answers
  cases (db.execute (r.update a).statement d).1 <;> simp [Except.toOption]

variable {cut : α → α} {a old : α}

/-- An update that is answered has set the columns that can change. -/
theorem setRow_of_answered (law : db.SetsListed r) (sound : r.Sound cut) {reply : Reply}
    (answered : (db.execute (r.update a).statement d).1 = .ok reply) :
    db.SetRow r.table (r.keyData (r.key a)) r.changeable (r.valuesOf r.changeable a) d reply
      (db.update r a d).2 := by
  have sent : (r.update a).statement = ⟨.update r.table r.keyColumns r.changeable,
      r.keyData (r.key a) ++ r.valuesOf r.changeable a⟩ := by
    simp [Relation.update, sound.changes]
  have len : (r.valuesOf r.changeable a).length = r.changeable.length := by
    rw [sound.valuesOf_changeable, List.length_map]
  apply law (r.key a) r.changeable (r.valuesOf r.changeable a) d reply _ len sound.apart
  rw [← sent]
  exact Prod.ext answered rfl

theorem read_update (sound : r.Sound cut) {reply : Reply} (returned : reply.rows = [r.rowOf a]) :
    (r.update a).read (.ok reply) = .ok (cut a) := by
  have first : r.first? reply = some (some (cut a)) := by
    simp [Relation.first?, returned, sound.ofRow?_rowOf]
  simp only [Relation.update, sound.changes, Bool.false_eq_true, if_false, Query.reading, first]
  rfl

variable [Ord κ] [Std.TransOrd κ] [Std.LawfulEqOrd κ] [DecidableEq κ] [Stored α κ]

/-- The database has the rows of a table, and no others in its place. -/
def Shows (db : Database δ) (r : Relation α κ) (d : δ) (t : Table α κ) : Prop :=
  ∀ k, db.row? d r.table (r.keyData k) = (t.find? k).map r.rowOf

/-- An update that agrees with the stored row in the columns it does not set is carried out in a
table and in a database alike, if the database answers: they go on with the same rows, the
database returns the row as it can keep it, and its other tables stay as they are. -/
theorem update_of_agree (law : db.SetsListed r) (sound : r.Sound cut) {t t' : Table α κ}
    (shows : db.Shows r d t) (keyed : r.key a = Stored.key a)
    (stored : t.find? (Stored.key a) = some old) (agree : r.Agree a old)
    (updated : t.update a = .ok t') (answers : db.Answers r a d) :
    (db.update r a d).1 = .ok (cut a) ∧ db.Shows r (db.update r a d).2 t' ∧
      ∀ table key, table ≠ r.table →
        db.row? (db.update r a d).2 table key = db.row? d table key := by
  obtain ⟨reply, answered⟩ := answers
  have set := setRow_of_answered law sound answered
  -- the row that is there becomes the row that was passed
  have becomes : (db.row? d r.table (r.keyData (r.key a))).map
      (·.set r.changeable (r.valuesOf r.changeable a)) = some (r.rowOf a) := by
    rw [keyed, shows, stored, Option.map_some, Option.map_some, sound.set_rowOf agree]
  refine ⟨?_, ?_, ?_⟩
  · have returned : reply.rows = [r.rowOf a] := by rw [set.returned, becomes, Option.toList_some]
    rw [update, answered]
    exact read_update sound returned
  · intro k
    obtain ⟨_, contents⟩ := Table.contents_of_update updated
    rw [← Table.getElem?_contents t', contents, lookup_insert]
    by_cases same : Stored.key a = k
    · rw [if_pos same, ← same, ← keyed, set.addressed, becomes, Option.map_some]
    · have other : (r.table, r.keyData k) ≠ (r.table, r.keyData (r.key a)) := by
        intro equal
        exact same (keyed.symm.trans (sound.keyData_injective _ _ (Prod.mk.inj equal).2).symm)
      rw [if_neg same, set.others _ _ other, shows, Table.getElem?_contents]
  · intro table key other
    exact set.others table key fun equal => other (Prod.mk.inj equal).1

/-! ## Rows by key -/

/-- A database that keeps rows under the values of their keys, and carries out updates. -/
def byKey : Database (String → List Datum → Option Row) where
  row? d := d
  execute statement d :=
    match statement.command with
    | .update table keys columns =>
      let key := statement.parameters.take keys.length
      let row := (d table key).map (·.set columns (statement.parameters.drop keys.length))
      (.ok ⟨row.toList, row.toList.length⟩, fun t k => if t = table ∧ k = key then row else d t k)
    | _ => (.error .lost, d)

omit [Ord κ] [Std.TransOrd κ] [Std.LawfulEqOrd κ] [DecidableEq κ] [Stored α κ] in
theorem byKey_setsListed (len : ∀ k, (r.keyData k).length = r.keyColumns.length) :
    byKey.SetsListed r := by
  intro k columns values d reply d' _ _ carried
  simp only [byKey, List.take_left' (len k), List.drop_left' (len k), Prod.mk.injEq,
    Except.ok.injEq] at carried
  obtain ⟨rfl, rfl⟩ := carried
  refine ⟨rfl, if_pos ⟨rfl, rfl⟩, ?_⟩
  intro table key other
  exact if_neg fun same => other (Prod.ext same.1 same.2)

/-- The rows of the folders and the users of a storage, by the values of their keys. -/
def rowsOf (s : Storage) (table : String) (key : List Datum) : Option Row :=
  match key with
  | [.id bits] =>
    if table = "folders" then (s.folders.find? ⟨bits⟩).map Relation.folders.rowOf
    else if table = "users" then (s.users.find? ⟨bits⟩).map Relation.users.rowOf
    else none
  | _ => none

end Database

end Perimeter.Sql
