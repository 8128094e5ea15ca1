import Perimeter.Proofs.Runs

/-!
# Restarts

In every state that a run reaches, memory is what a load of the tables from scratch gives, so a
restart finds nothing to write and changes no answer, and the row that a successful operation
returns is the one that is stored (`memory_mirrors_storage`).
-/

namespace Perimeter

/-- A table beside the map in memory that mirrors it. -/
structure Side (α κ : Type) [Ord κ] [Std.TransOrd κ] [Stored α κ] where
  shelf : Shelf α κ
  index : System → Std.ExtTreeMap κ α
  agrees : ∀ {s}, s.Mirrored → index s = (shelf.get s.storage).contents

namespace Side

def folders : Side Folder FolderId := ⟨.folders, fun s => s.hierarchy.rows, fun m => m.rows⟩

def users : Side User UserId := ⟨.users, fun s => s.registry.users, fun m => m.registry.users⟩

def roles : Side Role RoleId := ⟨.roles, fun s => s.registry.roles, fun m => m.registry.roles⟩

def groups : Side Group GroupId :=
  ⟨.groups, fun s => s.registry.groups, fun m => m.registry.groups⟩

def memberships : Side Membership MemberKey :=
  ⟨.memberships, fun s => s.registry.memberships, fun m => m.registry.memberships⟩

def assignments : Side Assignment AssignmentId :=
  ⟨.assignments, fun s => s.registry.assignments, fun m => m.registry.assignments⟩

variable {α κ : Type} [Ord κ] [Std.TransOrd κ] [Stored α κ]

/-- The row of a key, in memory and in storage. -/
def Holds (side : Side α κ) (s : System) (k : κ) (row : α) : Prop :=
  (side.index s)[k]? = some row ∧ (side.shelf.get s.storage).find? k = some row

/-- An operation returns, if it succeeds, the row that is held afterwards under the key. -/
def Returns (side : Side α κ) (key : α → κ) (out : Outcome α) : Prop :=
  ∀ row s', out = (.ok row, s') → side.Holds s' (key row) row

/-- A row that a write entered in the map in memory is found there. -/
theorem entered (side : Side α κ) {s s' : System} {c : Change} (mirrored : s.Mirrored)
    (wrote : s.Wrote c s') {m : Std.ExtTreeMap κ α} {k : κ} {row : α}
    (index : side.index s' = m.insert k row) : s'.Mirrored ∧ (side.index s')[k]? = some row := by
  refine ⟨mirrored.wrote wrote, ?_⟩
  rw [index]
  exact Std.ExtTreeMap.getElem?_insert_self

variable [Std.LawfulEqOrd κ]

theorem holds_of_index (side : Side α κ) {s : System} (mirrored : s.Mirrored) {k : κ} {row : α}
    (indexed : (side.index s)[k]? = some row) : side.Holds s k row := by
  refine ⟨indexed, ?_⟩
  rw [side.agrees mirrored, Table.getElem?_contents] at indexed
  exact indexed

theorem returns_of_settles (side : Side α κ) {key : α → κ} {s : System} {out : Outcome α}
    {answers : α → System → Prop} (settled : s.Settles out answers)
    (indexed : ∀ row s', answers row s' → s'.Mirrored ∧ (side.index s')[key row]? = some row) :
    side.Returns key out := by
  rintro row s' rfl
  obtain ⟨mirrored, found⟩ := indexed row s' settled.answer
  exact side.holds_of_index mirrored found

end Side

namespace System

variable {s s' : System}

/-- What a successful creation, move, renaming or activation returns is exactly the row that
memory and storage then hold. -/
structure Truthful (s : System) : Prop where
  createFolder : ∀ d, Side.folders.Returns Folder.id (s.createFolder d)
  moveFolder : ∀ id parent, Side.folders.Returns (fun _ => id) (s.moveFolder id parent)
  renameFolder : ∀ id name description,
    Side.folders.Returns (fun _ => id) (s.renameFolder id name description)
  changeFolder : ∀ id d, Side.folders.Returns (fun _ => id) (s.changeFolder id d)
  createUser : ∀ d, Side.users.Returns User.id (s.createUser d)
  setUserActive : ∀ id active, Side.users.Returns (fun _ => id) (s.setUserActive id active)
  createRole : ∀ d, Side.roles.Returns Role.id (s.createRole d)
  createGroup : ∀ d, Side.groups.Returns Group.id (s.createGroup d)
  addMember : ∀ user group,
    Side.memberships.Returns (fun _ => ⟨user, group⟩) (s.addMember user group)
  assignRole : ∀ d, Side.assignments.Returns Assignment.id (s.assignRole d)

/-- A folder that was found or saved for an id lies under it in the hierarchy. -/
theorem folder_held (mirrored : s.Mirrored) {id : FolderId} {f : Folder}
    (did : s' = s ∧ s.hierarchy.get? id = some f ∨ s.Wrote (.saveFolder id f) s') :
    s'.Mirrored ∧ s'.hierarchy.rows[id]? = some f := by
  obtain ⟨rfl, row⟩ | wrote := did
  · exact ⟨mirrored, row⟩
  · obtain ⟨g, row, same, _⟩ := wrote.1
    have own : f.id = id := same.trans (mirrored.tree.keyed id g row)
    rw [← own]
    apply Side.folders.entered mirrored wrote
    exact (congrArg Hierarchy.rows wrote.hierarchy_eq).trans (Hierarchy.rows_replace _ f)

theorem Mirrored.truthful (mirrored : s.Mirrored) : s.Truthful where
  createFolder d := by
    refine Side.folders.returns_of_settles (createFolder_settles s d) fun f s' wrote => ?_
    apply Side.folders.entered mirrored wrote
    exact (congrArg Hierarchy.rows wrote.hierarchy_eq).trans (Hierarchy.rows_insert _ f)
  moveFolder id parent :=
    Side.folders.returns_of_settles (moveFolder_settles s id parent)
      fun _ _ => folder_held mirrored
  renameFolder id name description :=
    Side.folders.returns_of_settles (renameFolder_settles s id name description)
      fun _ _ => folder_held mirrored
  changeFolder id d := by
    obtain ⟨s₁, moved, settled⟩ := changeFolder_settles s id d
    have mirrored₁ : s₁.Mirrored := by
      obtain rfl | ⟨f, wrote⟩ := moved
      · exact mirrored
      · exact mirrored.wrote wrote
    exact Side.folders.returns_of_settles settled fun _ _ => folder_held mirrored₁
  createUser d :=
    Side.users.returns_of_settles (createUser_settles s d) fun _ _ wrote =>
      Side.users.entered mirrored wrote (congrArg Registry.users wrote.registry_eq)
  setUserActive id active := by
    refine Side.users.returns_of_settles (setUserActive_settles s id active) fun u s' did => ?_
    obtain ⟨rfl, found⟩ | wrote := did
    · exact ⟨mirrored, found⟩
    · exact Side.users.entered mirrored wrote (congrArg Registry.users wrote.registry_eq)
  createRole d :=
    Side.roles.returns_of_settles (createRole_settles s d) fun _ _ wrote =>
      Side.roles.entered mirrored wrote (congrArg Registry.roles wrote.registry_eq)
  createGroup d :=
    Side.groups.returns_of_settles (createGroup_settles s d) fun _ _ wrote =>
      Side.groups.entered mirrored wrote (congrArg Registry.groups wrote.registry_eq)
  addMember user group := by
    refine Side.memberships.returns_of_settles (addMember_settles s user group) fun m s' did => ?_
    obtain ⟨rfl, found⟩ | ⟨key, wrote⟩ := did
    · exact ⟨mirrored, found⟩
    · rw [← key]
      exact Side.memberships.entered mirrored wrote
        (congrArg Registry.memberships wrote.registry_eq)
  assignRole d :=
    Side.assignments.returns_of_settles (assignRole_settles s d) fun _ _ wrote =>
      Side.assignments.entered mirrored wrote (congrArg Registry.assignments wrote.registry_eq)

/-- Wherever a run has led, the tables are accepted and give back the state in memory, a restart
writes nothing and finds that same state, and successful operations return what is stored. -/
theorem memory_mirrors_storage {terms : Terms} {storage storage' : Storage} {s₀ : System}
    (started : start terms storage = (.ok s₀, storage')) (events : List Event) :
    let s := s₀.afterAll events
    Hierarchy.ofRows s.storage.folders.all = .ok s.hierarchy ∧
      Registry.ofRows s.storage.users.all s.storage.roles.all s.storage.groups.all
        s.storage.memberships.all s.storage.assignments.all = s.registry ∧
      (∀ p, p.readsRefused = false →
        start terms (s.storage.supplied p) = (.ok (s.supplied p), s.storage.supplied p)) ∧
      s.Truthful := by
  obtain ⟨mirrored₀, rfl, _, _⟩ := mirrored_of_start started
  obtain ⟨mirrored, terms⟩ := mirrored₀.afterAll events
  refine ⟨?_, ?_, ?_, mirrored.truthful⟩
  · exact Hierarchy.ofRows_eq_ok.mpr ⟨mirrored.tree, Hierarchy.lists_all mirrored.rows⟩
  · exact Registry.mirrors_iff.mp mirrored.registry
  · intro p reads
    rw [← terms]
    exact mirrored.restart reads

theorem founded_mirrors_storage :
    let terms : Terms := ⟨"Root", ⟨2, 8⟩, .standard⟩
    let s := (founded terms .empty).afterAll
      [.call (.createFolder ⟨"Assets", none, none⟩),
        .call (.createRole ⟨"Reader", none, ["view_asset"]⟩),
        .call (.renameFolder ⟨Supply.counted 2⟩ (some "Inventory") none)]
    Hierarchy.ofRows s.storage.folders.all = .ok s.hierarchy ∧
      start terms (s.storage.supplied .fresh) =
        (.ok (s.supplied .fresh), s.storage.supplied .fresh) := by
  intro terms s
  obtain ⟨folders, _, restarts, _⟩ := memory_mirrors_storage (start_founded terms .empty rfl rfl)
    [.call (.createFolder ⟨"Assets", none, none⟩),
      .call (.createRole ⟨"Reader", none, ["view_asset"]⟩),
      .call (.renameFolder ⟨Supply.counted 2⟩ (some "Inventory") none)]
  exact ⟨folders, restarts .fresh rfl⟩

end System

end Perimeter
