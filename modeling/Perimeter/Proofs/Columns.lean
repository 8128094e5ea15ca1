import Perimeter.Proofs.Addresses
import Perimeter.Proofs.Rejections
import Perimeter.Sql.Schema.Initial

/-!
# Widths of columns

The schema limits the width of some columns, and the rules of the bodies and of the service limit
the texts that are written. Every row that a request writes fits its columns, except for e-mails
(`written_rows_fit_iff`): the rule of the body allows for addresses of up to 320 characters, and
lower-casing may add some, but the column has 254 (`long_address_written`).
-/

namespace Perimeter

/-! ## Addresses -/

namespace Mailbox

/-- A user part and a domain name, each within its length, are an address. -/
theorem isAddress_of_domain {user host : List Char} (named : user ≠ [])
    (short : user.length ≤ 64) (within : host.length ≤ 255)
    (plain : user.all isUserChar = true) (apart : '@' ∉ host)
    (domain : (host.splitOn '.').all isLabel = true) :
    isAddress (String.ofList (user ++ '@' :: host)) = true := by
  have last : (host.reverse ++ '@' :: user.reverse).takeWhile (· ≠ '@') = host.reverse := by
    rw [List.takeWhile_append_of_pos]
    · simp
    · intro c mem
      simpa using fun same : c = '@' => apart (same ▸ List.mem_reverse.mp mem)
  have parts : split? (String.ofList (user ++ '@' :: host)) =
      some (String.ofList user, String.ofList host) := by
    have front : (user ++ '@' :: host).length - host.length - 1 = user.length := by
      rw [List.length_append, List.length_cons]
      omega
    unfold split?
    simp only [String.toList_ofList, List.reverse_append, List.reverse_cons, List.append_assoc,
      List.singleton_append, last, List.reverse_reverse, front, List.take_left]
    exact if_pos (by simp)
  have isHost : isHost (String.ofList host) = true := by
    simp only [isHost, isPlainHost, isDomain, String.toList_ofList, domain,
      Bool.true_or]
  unfold isAddress
  rw [parts]
  simp [isHost, named, short, within, plain]

end Mailbox

/-! ## Widths in the schema -/

namespace Sql.Schema

/-- The lines that define the columns of a table. -/
def columnLines (table : String) : List String :=
  ((initialLines.dropWhile (· ≠ "CREATE TABLE " ++ table ++ " (")).drop 1).takeWhile (· ≠ ");")

/-- The width of a type, if it is limited. -/
def typeWidth? (type : List Char) : Option Nat :=
  let limited := "VARCHAR(".toList
  if limited.isPrefixOf type then
    some (((type.drop limited.length).takeWhile Char.isDigit).foldl
      (fun n c => 10 * n + (c.toNat - 48)) 0)
  else none

/-- The width of a column, if it is limited. -/
def width? (table column : String) : Option Nat :=
  (columnLines table).findSome? fun line =>
    let words := (line.toList.splitOn ' ').filter (!·.isEmpty)
    match words with
    | name :: type :: _ => if name = column.toList then typeWidth? type else none
    | _ => none

end Sql.Schema

/-- The text fits a column of limited width. -/
def FitsColumn (table column text : String) : Prop :=
  ∃ w, Sql.Schema.width? table column = some w ∧ text.length ≤ w

theorem fitsColumn_iff {table column text : String} {w : Nat}
    (width : Sql.Schema.width? table column = some w) :
    FitsColumn table column text ↔ text.length ≤ w := by
  constructor
  · rintro ⟨_, same, short⟩
    cases same.symm.trans width
    exact short
  · intro short
    exact ⟨w, width, short⟩

def Folder.Fits (f : Folder) : Prop := FitsColumn "folders" "name" f.name

def Role.Fits (r : Role) : Prop := FitsColumn "roles" "name" r.name

def Group.Fits (g : Group) : Prop := FitsColumn "user_groups" "name" g.name

structure User.Fits (u : User) : Prop where
  email : FitsColumn "users" "email" u.email
  firstName : ∀ t, u.firstName = some t → FitsColumn "users" "first_name" t
  lastName : ∀ t, u.lastName = some t → FitsColumn "users" "last_name" t

theorem Folder.fits_iff {f : Folder} : f.Fits ↔ f.name.length ≤ 200 :=
  fitsColumn_iff (by decide +kernel)

theorem Role.fits_iff {r : Role} : r.Fits ↔ r.name.length ≤ 200 :=
  fitsColumn_iff (by decide +kernel)

theorem Group.fits_iff {g : Group} : g.Fits ↔ g.name.length ≤ 200 :=
  fitsColumn_iff (by decide +kernel)

theorem User.fits_iff {u : User} : u.Fits ↔ u.email.length ≤ 254 ∧
    (∀ t, u.firstName = some t → t.length ≤ 150) ∧
    ∀ t, u.lastName = some t → t.length ≤ 150 := by
  have email : ∀ t, FitsColumn "users" "email" t ↔ t.length ≤ 254 :=
    fun _ => fitsColumn_iff (by decide +kernel)
  have first : ∀ t, FitsColumn "users" "first_name" t ↔ t.length ≤ 150 :=
    fun _ => fitsColumn_iff (by decide +kernel)
  have last : ∀ t, FitsColumn "users" "last_name" t ↔ t.length ≤ 150 :=
    fun _ => fitsColumn_iff (by decide +kernel)
  constructor
  · rintro ⟨e, f, l⟩
    exact ⟨(email _).mp e, fun t given => (first t).mp (f t given),
      fun t given => (last t).mp (l t given)⟩
  · rintro ⟨e, f, l⟩
    exact ⟨(email _).mpr e, fun t given => (first t).mpr (f t given),
      fun t given => (last t).mpr (l t given)⟩

theorem IsFolderName.length_le {name : String} (named : IsFolderName name) :
    name.length ≤ maxNameLength := by
  obtain ⟨t, normal⟩ := named
  exact (normalizeName_eq_ok.mp normal).2.2

/-- A name that may be absent, and is so if it is blank, keeps to the rule it passed. -/
theorem length_nonBlank_of_passed {field : String} {least most : Nat}
    {message given : Option String}
    (passed : Complaint.length field least most message given = []) {t : String}
    (kept : given.bind Text.nonBlank? = some t) : t.length ≤ most := by
  obtain ⟨s, rfl, visible⟩ := Option.bind_eq_some_iff.mp kept
  unfold Text.nonBlank? at visible
  split at visible
  · cases visible
  · cases visible
    exact length_trim_of_passed passed

namespace System

variable {s s' : System}

/-! ## What is written -/

theorem createUser_writes (s : System) (d : NewUser) :
    s.Settles (s.createUser d) fun u _ => u.email = Text.lower (Text.trim d.email) ∧
      u.firstName = d.firstName.bind Text.nonBlank? ∧
      u.lastName = d.lastName.bind Text.nonBlank? := by
  unfold createUser
  generalize Text.lower (Text.trim d.email) = email
  dsimp only
  split
  · exact .unchanged _
  · split
    · exact .unchanged _
    · exact .create fun _ _ _ _ _ => ⟨rfl, rfl, rfl⟩

theorem createRole_writes (s : System) (d : NewRole) :
    s.Settles (s.createRole d) fun r _ => r.name = Text.trim d.name := by
  unfold createRole
  dsimp only
  split
  · exact .unchanged _
  · split
    · exact .unchanged _
    · split
      · exact .unchanged _
      · exact .create fun _ _ _ _ _ => rfl

theorem createGroup_writes (s : System) (d : NewGroup) :
    s.Settles (s.createGroup d) fun g _ => g.name = Text.trim d.name := by
  unfold createGroup
  dsimp only
  split
  · exact .unchanged _
  · exact .check fun _ _ => .create fun _ _ _ _ _ => rfl

theorem require_writes (s : System) (id : FolderId) :
    s.Settles (s.hierarchy.require id, s) fun f _ =>
      ∃ g, s.hierarchy.get? id = some g ∧ f.name = g.name := by
  cases found : s.hierarchy.require id with
  | error e => exact .unchanged e
  | ok f => exact .answered ⟨f, Hierarchy.require_eq_ok.mp found, rfl⟩

theorem moveFolder_writes (s : System) (id parent : FolderId) :
    s.Settles (s.moveFolder id parent) fun f _ =>
      ∃ g, s.hierarchy.get? id = some g ∧ f.name = g.name := by
  refine (moveFolder_answers s id parent).imp ?_
  rintro f s' ⟨g, row, same⟩
  refine ⟨g, row, ?_⟩
  rw [same]

/-- The name of a folder after it was changed: the one that was given, or the one it had. -/
def Named (s : System) (id : FolderId) (name : Option String) (f : Folder) : Prop :=
  (∀ t, name = some t → normalizeName t = .ok f.name) ∧
    (name = none → ∃ g, s.hierarchy.get? id = some g ∧ f.name = g.name)

theorem renameFolder_writes (s : System) (id : FolderId) (name description : Option String) :
    s.Settles (s.renameFolder id name description) fun f _ => s.Named id name f := by
  refine (renameFolder_answers s id name description).imp ?_
  rintro f s' ⟨g, given, row, normalized, same⟩
  rw [same]
  cases name with
  | none =>
    cases normalized
    exact ⟨nofun, fun _ => ⟨g, row, rfl⟩⟩
  | some t =>
    obtain ⟨n, normal, rfl⟩ := map_eq_ok.mp normalized
    refine ⟨?_, nofun⟩
    rintro _ ⟨⟩
    exact normal

theorem changeFolder_writes (mirrored : s.Mirrored) {id : FolderId} {d : FolderChange} {f : Folder}
    (changed : s.changeFolder id d = (.ok f, s')) : s.Named id d.name f := by
  unfold changeFolder at changed
  split at changed
  · cases changed
  · dsimp only at changed
    split at changed
    · cases changed
    · next f₁ s₁ outcome =>
      have kept : ∃ g, s.hierarchy.get? id = some g ∧ f₁.name = g.name := by
        revert outcome
        split
        · exact fun outcome => (outcome ▸ moveFolder_writes s id _).answer
        · exact fun outcome => (outcome ▸ require_writes s id).answer
      split at changed
      · obtain ⟨given, absent⟩ := (changed ▸ renameFolder_writes s₁ id d.name d.description).answer
        refine ⟨given, fun none => ?_⟩
        obtain ⟨g₁, row₁, same₁⟩ := absent none
        cases (mirrored.place outcome).2.symm.trans row₁
        obtain ⟨g, row, same⟩ := kept
        exact ⟨g, row, same₁.trans same⟩
      · next idle =>
        cases changed
        rw [not_or, Option.not_isSome_iff_eq_none] at idle
        rw [idle.1]
        exact ⟨nofun, fun _ => kept⟩

/-- A folder that was changed fits if its name was given, or did fit before. -/
theorem Named.fits_iff {id : FolderId} {name : Option String} {f : Folder}
    (named : s.Named id name f) :
    f.Fits ↔ name.isSome = true ∨ ∃ g, s.hierarchy.get? id = some g ∧ g.Fits := by
  cases name with
  | some t =>
    have fits : f.Fits := Folder.fits_iff.mpr (IsFolderName.length_le ⟨t, named.1 t rfl⟩)
    simp [fits]
  | none =>
    obtain ⟨g, row, same⟩ := named.2 rfl
    simp only [row, Folder.fits_iff, same, Option.isSome_none, Bool.false_eq_true, false_or,
      Option.some.injEq, exists_eq_left']

/-- A user that was created from a body that passed, whatever counts as an address there, fits if
the e-mail does. Its length is that of the trimmed one and one more for each `İ`. -/
theorem createUser_fits_iff {isAddress : String → Bool} {d : NewUser} {u : User}
    (passed : d.complaintsBy isAddress = []) (created : s.createUser d = (.ok u, s')) :
    u.Fits ↔ (Text.trim d.email).length + (Text.trim d.email).toList.count 'İ' ≤ 254 := by
  obtain ⟨email, firstName, lastName⟩ := (created ▸ createUser_writes s d).answer
  obtain ⟨rest, last⟩ := List.append_eq_nil_iff.mp passed
  obtain ⟨_, first⟩ := List.append_eq_nil_iff.mp rest
  rw [User.fits_iff, email, Text.length_lower, firstName, lastName]
  refine and_iff_left ⟨fun t given => ?_, fun t given => ?_⟩
  · exact length_nonBlank_of_passed first given
  · exact length_nonBlank_of_passed last given

/-! ## Runs -/

/-- Every folder fits. -/
def FoldersFit (s : System) : Prop :=
  ∀ (id : FolderId) (f : Folder), s.hierarchy.rows[id]? = some f → f.Fits

theorem foldersFit_afterAll (fit : s.FoldersFit) (events : List Event) :
    (s.afterAll events).FoldersFit := by
  refine folders_afterAll (fun f named => Folder.fits_iff.mpr named.length_le) ?_ fit events
  intro f g _ same fits
  rw [Folder.fits_iff, same]
  exact Folder.fits_iff.mp fits

theorem foldersFit_iff (mirrored : s.Mirrored) :
    s.FoldersFit ↔ ∀ f ∈ s.storage.folders.all, f.Fits := by
  rw [FoldersFit, mirrored.rows]
  exact Table.forall_contents

/-- What requests write is what they return, and fits the columns, with two exceptions: an e-mail
may be too long, and a folder that is changed but not named keeps a name that was too long. Which
e-mails the body of a request may hold makes no difference: of its rules only those for names
are needed. -/
structure WritesFit (s : System) : Prop where
  createFolder : ∀ d f s', s.createFolder d = (.ok f, s') →
    Side.folders.Holds s' f.id f ∧ f.Fits
  changeFolder : ∀ id d f s', s.changeFolder id d = (.ok f, s') →
    Side.folders.Holds s' id f ∧
      (f.Fits ↔ d.name.isSome = true ∨ ∃ g, s.hierarchy.get? id = some g ∧ g.Fits)
  createUser : ∀ (isAddress : String → Bool) d u s', d.complaintsBy isAddress = [] →
    s.createUser d = (.ok u, s') →
    Side.users.Holds s' u.id u ∧
      (u.Fits ↔ (Text.trim d.email).length + (Text.trim d.email).toList.count 'İ' ≤ 254)
  createRole : ∀ d r s', d.complaints = [] → s.createRole d = (.ok r, s') →
    Side.roles.Holds s' r.id r ∧ r.Fits
  createGroup : ∀ d g s', d.complaints = [] → s.createGroup d = (.ok g, s') →
    Side.groups.Holds s' g.id g ∧ g.Fits

theorem Mirrored.writesFit (mirrored : s.Mirrored) : s.WritesFit where
  createFolder d f s' created := by
    obtain ⟨⟨_, _, named⟩, _⟩ := (created ▸ createFolder_settles s d).answer
    exact ⟨mirrored.truthful.createFolder d f s' created, Folder.fits_iff.mpr named.length_le⟩
  changeFolder id d f s' changed :=
    ⟨mirrored.truthful.changeFolder id d f s' changed,
      (changeFolder_writes mirrored changed).fits_iff⟩
  createUser isAddress d u s' passed created :=
    ⟨mirrored.truthful.createUser d u s' created, createUser_fits_iff passed created⟩
  createRole d r s' passed created := by
    refine ⟨mirrored.truthful.createRole d r s' created, ?_⟩
    have name := (created ▸ createRole_writes s d).answer
    rw [Role.fits_iff, name]
    exact length_trim_of_passed passed
  createGroup d g s' passed created := by
    refine ⟨mirrored.truthful.createGroup d g s' created, ?_⟩
    have name := (created ▸ createGroup_writes s d).answer
    rw [Group.fits_iff, name]
    exact length_trim_of_passed passed

/-- In every state that a run reaches, the rows that requests write fit their columns exactly as
far as `WritesFit` says, and folders that fitted at the start have not stopped to. -/
theorem written_rows_fit_iff {terms : Terms} {storage storage' : Storage} {s₀ : System}
    (started : start terms storage = (.ok s₀, storage')) (events : List Event) :
    let s := s₀.afterAll events
    s.WritesFit ∧
      ((∀ f ∈ storage'.folders.all, f.Fits) → ∀ f ∈ s.storage.folders.all, f.Fits) := by
  intro s
  obtain ⟨mirrored₀, _, rfl, _⟩ := mirrored_of_start started
  have mirrored : s.Mirrored := (mirrored₀.afterAll events).1
  refine ⟨mirrored.writesFit, fun fit => ?_⟩
  rw [← foldersFit_iff mirrored]
  exact foldersFit_afterAll ((foldersFit_iff mirrored₀).mpr fit) events

/-- A folder that keeps its name while it is changed, and a user, a role and a group whose names
have blanks around them. All of them are written, and fit. -/
theorem founded_rows_fit :
    let s := (founded ⟨"Root", ⟨2, 8⟩, .standard⟩ .empty).afterAll
      [.call (.createFolder ⟨" Assets ", none, none⟩)]
    let user : NewUser := ⟨"Ann@Example.org", some " Ann ", some " "⟩
    (∀ f ∈ s.storage.folders.all, f.Fits) ∧
      (∃ f s', s.changeFolder ⟨Supply.counted 2⟩ ⟨none, some "All assets", none⟩ = (.ok f, s') ∧
        Side.folders.Holds s' ⟨Supply.counted 2⟩ f ∧ f.Fits) ∧
      (∃ u s', s.createUser user = (.ok u, s') ∧ Side.users.Holds s' u.id u ∧ u.Fits) ∧
      (∃ r s', s.createRole ⟨" Reader ", none, ["view_asset"]⟩ = (.ok r, s') ∧
        Side.roles.Holds s' r.id r ∧ r.Fits) ∧
      ∃ g s', s.createGroup ⟨" Crew ", ⟨Supply.counted 2⟩⟩ = (.ok g, s') ∧
        Side.groups.Holds s' g.id g ∧ g.Fits := by
  intro s user
  have started := start_founded ⟨"Root", ⟨2, 8⟩, .standard⟩ .empty rfl rfl
  have short : ∀ f ∈ (founded ⟨"Root", ⟨2, 8⟩, .standard⟩ .empty).storage.folders.all,
      f.name.length ≤ 200 := by
    decide +kernel
  obtain ⟨writes, kept⟩ := written_rows_fit_iff started
    [.call (.createFolder ⟨" Assets ", none, none⟩)]
  have fit : ∀ f ∈ s.storage.folders.all, f.Fits :=
    kept fun f stored => Folder.fits_iff.mpr (short f stored)
  refine ⟨fit, ?_, ?_, ?_, ?_⟩
  · obtain ⟨f, changed⟩ := exists_answer
      (s.changeFolder ⟨Supply.counted 2⟩ ⟨none, some "All assets", none⟩) (by decide +kernel)
    obtain ⟨held, fits⟩ := writes.changeFolder _ _ f _ changed
    have row : (s.hierarchy.get? ⟨Supply.counted 2⟩).any (·.name.length ≤ 200) = true := by
      decide +kernel
    obtain ⟨g, found, short⟩ := (Option.any_eq_true _ _).mp row
    have named : g.Fits := Folder.fits_iff.mpr (of_decide_eq_true short)
    exact ⟨f, _, changed, held, fits.mpr (Or.inr ⟨g, found, named⟩)⟩
  · have passed : user.complaintsBy Mailbox.isAddress = [] := by decide +kernel
    have free : s.registry.emailTaken "ann@example.org" = false := by decide +kernel
    have created := createUser_of_free (d := user) (by decide +kernel) (by decide +kernel) free
    obtain ⟨held, fits⟩ := writes.createUser _ _ _ _ passed (created.trans rfl)
    exact ⟨_, _, created.trans rfl, held, fits.mpr (by decide +kernel)⟩
  · obtain ⟨r, created⟩ := exists_answer
      (s.createRole ⟨" Reader ", none, ["view_asset"]⟩) (by decide +kernel)
    obtain ⟨held, fits⟩ := writes.createRole _ r _ (by decide +kernel) created
    exact ⟨r, _, created, held, fits⟩
  · obtain ⟨g, created⟩ := exists_answer
      (s.createGroup ⟨" Crew ", ⟨Supply.counted 2⟩⟩) (by decide +kernel)
    obtain ⟨held, fits⟩ := writes.createGroup _ g _ (by decide +kernel) created
    exact ⟨g, _, created, held, fits⟩

/-- An address of 255 characters, of which no part is too long. -/
def longAddress : List Char :=
  let part (c : Char) := List.replicate 63 c
  part 'u' ++ '@' :: (part 'a' ++ '.' :: part 'b' ++ '.' :: part 'c')

/-- An address that passes the rule of the body, and is too long for its column. -/
theorem long_address_written :
    let d : NewUser := ⟨String.ofList longAddress, none, none⟩
    d.complaints = [] ∧ ∃ u s',
      (founded ⟨"Root", ⟨2, 8⟩, .standard⟩ .empty).createUser d = (.ok u, s') ∧ ¬ u.Fits := by
  intro d
  have address : Mailbox.isAddress d.email = true :=
    Mailbox.isAddress_of_domain (by decide +kernel) (by decide +kernel) (by decide +kernel)
      (by decide +kernel) (by decide +kernel) (by decide +kernel)
  have passed : d.complaints = [] := by
    simp only [NewUser.complaints, NewUser.complaintsBy, address, if_true, d]
    rfl
  have sign : '@' ∈ (Text.lower (Text.trim d.email)).toList := by
    simp only [d, Text.lower, Text.trim, String.toList_ofList]
    decide +kernel
  have none : (founded ⟨"Root", ⟨2, 8⟩, .standard⟩ .empty).registry.users.values = [] := by
    decide +kernel
  have created := createUser_of_free rfl sign (by rw [Registry.emailTaken, none]; rfl)
  have long : ¬ (Text.trim d.email).length + (Text.trim d.email).toList.count 'İ' ≤ 254 := by
    simp only [d, Text.trim, String.toList_ofList, String.length_ofList]
    decide +kernel
  generalize d = d at created passed long
  refine ⟨passed, _, _, created.trans rfl, ?_⟩
  rw [createUser_fits_iff passed (created.trans rfl)]
  exact long

end System

end Perimeter
