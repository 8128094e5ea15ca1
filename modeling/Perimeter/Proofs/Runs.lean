import Mathlib.Logic.Relation
import Perimeter.Proofs.Mirror

/-!
# Runs

A run is a sequence of calls with any arguments. Between the calls the supply may become any
other: which ids and times the storage hands out next, and which writes it refuses. A call
leads through steps, each of which moves only the supply or carries out one write, so what
every step keeps holds in every state reached (`afterAll_induction`). In particular the folders
stay one tree below one root (`folders_stay_a_tree`). What rests on the removal that asks first
holds in the states that are reached without the other one (`afterAll_of_offered`).
-/

namespace Perimeter

/-- A call of an operation that may write. -/
inductive Call where
  | createFolder (d : NewFolder)
  | moveFolder (id parent : FolderId)
  | renameFolder (id : FolderId) (name description : Option String)
  | removeFolder (id : FolderId)
  | discardFolder (id : FolderId)
  | changeFolder (id : FolderId) (d : FolderChange)
  | createUser (d : NewUser)
  | setUserActive (id : UserId) (active : Bool)
  | createRole (d : NewRole)
  | createGroup (d : NewGroup)
  | addMember (user : UserId) (group : GroupId)
  | removeMember (user : UserId) (group : GroupId)
  | assignRole (d : NewAssignment)
  | revokeAssignment (id : AssignmentId)

/-- What happens to a system: a call, or a change of its supply. -/
inductive Event where
  | supply (p : Supply)
  | call (c : Call)

/-- The system that a call leaves, whether it succeeds or fails. -/
def Call.run (s : System) : Call → System
  | createFolder d => (s.createFolder d).2
  | moveFolder id parent => (s.moveFolder id parent).2
  | renameFolder id name description => (s.renameFolder id name description).2
  | removeFolder id => (s.removeFolder id).2
  | discardFolder id => (s.discardFolder id).2
  | changeFolder id d => (s.changeFolder id d).2
  | createUser d => (s.createUser d).2
  | setUserActive id active => (s.setUserActive id active).2
  | createRole d => (s.createRole d).2
  | createGroup d => (s.createGroup d).2
  | addMember user group => (s.addMember user group).2
  | removeMember user group => (s.removeMember user group).2
  | assignRole d => (s.assignRole d).2
  | revokeAssignment id => (s.revokeAssignment id).2

/-- Whether the services offer a call. The hierarchy's own removal asks nobody who refers to the
folder, and what is offered is the removal that asks first. -/
def Call.isOffered : Call → Bool
  | removeFolder _ => false
  | _ => true

/-- The change takes away no folder that a group or an assignment is on. -/
def Change.Unreferenced (s : System) : Change → Prop
  | dropFolder id => s.registry.references id = 0
  | _ => True

namespace System

def after (s : System) : Event → System
  | .supply p => s.supplied p
  | .call c => c.run s

def afterAll (s : System) (events : List Event) : System := events.foldl after s

theorem afterAll_concat (s : System) (past : List Event) (e : Event) :
    s.afterAll (past ++ [e]) = (s.afterAll past).after e :=
  List.foldl_append

/-- A step moves only the supply, or carries out one write. -/
inductive Step (s : System) : System → Prop where
  | idle (p : Supply) : Step s (s.supplied p)
  | write {c : Change} {s' : System} (wrote : s.Wrote c s') : Step s s'

/-- Steps one after another. -/
def Leads : System → System → Prop := Relation.ReflTransGen Step

variable {s s' : System}

theorem Leads.rest (s : System) : Leads s s := .refl

theorem Settles.keeps {α : Type} {answers : α → System → Prop} {out : Outcome α}
    {P : System → Prop} (settled : s.Settles out answers) (idle : ∀ p, P (s.supplied p))
    (go : ∀ a s', answers a s' → P s') : P out.2 := by
  cases settled with
  | refused e p => exact idle p
  | answered answer => exact go _ _ answer

theorem keeps_of_rest_or_wrote {P : System → Prop} {row : Prop} {c : Change} (start : P s)
    (write : s.Wrote c s' → P s') (did : s' = s ∧ row ∨ s.Wrote c s') : P s' := by
  obtain ⟨rfl, _⟩ | wrote := did
  · exact start
  · exact write wrote

/-- A call keeps what a moved supply keeps and each of its writes keeps. -/
theorem run_keeps {P : System → Prop} (start : P s) (c : Call)
    (idle : ∀ t p, P t → P (t.supplied p))
    (write : ∀ {t t' change}, P t → t.Wrote change t' →
      (c.isOffered = true → change.Unreferenced t) → P t') : P (c.run s) := by
  have supplied : ∀ p, P (s.supplied p) := fun p => idle s p start
  cases c with
  | createFolder d =>
    exact (createFolder_settles s d).keeps supplied fun _ _ wrote =>
      write start wrote fun _ => trivial
  | moveFolder id parent =>
    exact (moveFolder_settles s id parent).keeps supplied fun _ _ =>
      keeps_of_rest_or_wrote start fun wrote => write start wrote fun _ => trivial
  | renameFolder id name description =>
    exact (renameFolder_settles s id name description).keeps supplied fun _ _ =>
      keeps_of_rest_or_wrote start fun wrote => write start wrote fun _ => trivial
  | removeFolder id =>
    exact (removeFolder_settles s id).keeps supplied fun _ _ ⟨_, wrote⟩ =>
      write start wrote fun offered => absurd offered Bool.false_ne_true
  | discardFolder id =>
    exact (discardFolder_settles s id).keeps supplied fun _ _ ⟨_, free, wrote⟩ =>
      write start wrote fun _ => free
  | changeFolder id d =>
    -- the one call with two writes: the move may be stored and the renaming refused
    obtain ⟨s₁, moved, settled⟩ := changeFolder_settles s id d
    have between : P s₁ := by
      obtain rfl | ⟨f, wrote⟩ := moved
      · exact start
      · exact write start wrote fun _ => trivial
    exact settled.keeps (fun p => idle s₁ p between) fun _ _ =>
      keeps_of_rest_or_wrote between fun wrote => write between wrote fun _ => trivial
  | createUser d =>
    exact (createUser_settles s d).keeps supplied fun _ _ wrote =>
      write start wrote fun _ => trivial
  | setUserActive id active =>
    exact (setUserActive_settles s id active).keeps supplied fun _ _ =>
      keeps_of_rest_or_wrote start fun wrote => write start wrote fun _ => trivial
  | createRole d =>
    exact (createRole_settles s d).keeps supplied fun _ _ wrote =>
      write start wrote fun _ => trivial
  | createGroup d =>
    exact (createGroup_settles s d).keeps supplied fun _ _ wrote =>
      write start wrote fun _ => trivial
  | addMember user group =>
    refine (addMember_settles s user group).keeps supplied fun _ _ did => ?_
    refine keeps_of_rest_or_wrote start ?_ (did.imp_right And.right)
    exact fun wrote => write start wrote fun _ => trivial
  | removeMember user group =>
    refine (removeMember_settles s user group).keeps supplied fun removed s' ⟨_, did⟩ => ?_
    cases removed with
    | false => exact did ▸ start
    | true => exact write start did fun _ => trivial
  | assignRole d =>
    exact (assignRole_settles s d).keeps supplied fun _ _ wrote =>
      write start wrote fun _ => trivial
  | revokeAssignment id =>
    exact (revokeAssignment_settles s id).keeps supplied fun _ _ ⟨_, wrote⟩ =>
      write start wrote fun _ => trivial

theorem leads_call (s : System) (c : Call) : Leads s (c.run s) :=
  run_keeps (.rest s) c (fun _ p leads => leads.tail (.idle p))
    fun leads wrote _ => leads.tail (.write wrote)

theorem leads_after (s : System) (e : Event) : Leads s (s.after e) := by
  cases e with
  | supply p => exact .single (.idle p)
  | call c => exact leads_call s c

theorem leads_afterAll (s : System) (events : List Event) : Leads s (s.afterAll events) := by
  induction events generalizing s with
  | nil => exact .rest s
  | cons e events ih => exact (leads_after s e).trans (ih (s.after e))

/-- What every step keeps holds wherever steps lead. -/
theorem Leads.induction {P : System → Prop} (leads : Leads s s') (start : P s)
    (step : ∀ s s', P s → Step s s' → P s') : P s' := by
  induction leads with
  | refl => exact start
  | tail _ next ih => exact step _ _ ih next

/-- What every step keeps holds in every state of a run. -/
theorem afterAll_induction {P : System → Prop} (start : P s)
    (step : ∀ s s', P s → Step s s' → P s') (events : List Event) : P (s.afterAll events) :=
  (leads_afterAll s events).induction start step

/-- What a moved supply keeps, and every write, holds in every state of a run. -/
theorem afterAll_of_writes {P : System → Prop} (start : P s)
    (idle : ∀ t p, P t → P (t.supplied p))
    (write : ∀ {t t' change}, P t → t.Wrote change t' → P t') (events : List Event) :
    P (s.afterAll events) := by
  refine afterAll_induction start ?_ events
  intro t t' held next
  cases next with
  | idle p => exact idle t p held
  | write wrote => exact write held wrote

/-- What every folder with an accepted name has, and a folder keeps as long as it keeps its name
and its rank, every folder has in every state of a run. -/
theorem folders_afterAll {P : Folder → Prop} (named : ∀ f, IsFolderName f.name → P f)
    (kept : ∀ f g, f.isRoot = g.isRoot → f.name = g.name → P g → P f)
    (start : ∀ (id : FolderId) f, s.hierarchy.rows[id]? = some f → P f) (events : List Event) :
    ∀ (id : FolderId) f, (s.afterAll events).hierarchy.rows[id]? = some f → P f := by
  refine afterAll_of_writes (P := fun t => ∀ (id : FolderId) f, t.hierarchy.rows[id]? = some f → P f)
    start (fun _ _ held => held) ?_ events
  intro t t' c held wrote
  obtain ⟨checked, tables, p, entered, rfl⟩ := wrote
  cases c with
  | addFolder f =>
    have grown := forall_insert held (named f checked.2.2) f.id
    rw [← Hierarchy.rows_insert] at grown
    exact grown
  | saveFolder id f =>
    obtain ⟨g, row, _, rank, _, name⟩ := checked
    have new : P f := by
      obtain same | accepted := name
      · exact kept f g rank same (held id g row)
      · exact named f accepted
    have saved := forall_insert held new f.id
    rw [← Hierarchy.rows_replace] at saved
    exact saved
  | dropFolder id =>
    obtain ⟨present, _⟩ := Hierarchy.checkRemoval_eq_ok checked
    have rest := forall_erase held id
    rw [← Hierarchy.rows_remove present] at rest
    exact rest
  | _ => exact held

/-- What a moved supply keeps, and every write that takes no used folder away, is kept by every
run of offered calls. -/
theorem afterAll_of_offered {P : System → Prop} (start : P s)
    (idle : ∀ t p, P t → P (t.supplied p))
    (write : ∀ {t t' change}, P t → t.Wrote change t' → change.Unreferenced t → P t')
    (events : List Event) (offered : ∀ c, Event.call c ∈ events → c.isOffered = true) :
    P (s.afterAll events) := by
  induction events generalizing s with
  | nil => exact start
  | cons e events ih =>
    have next : P (s.after e) := by
      cases e with
      | supply p => exact idle s p start
      | call c =>
        have careful := offered c List.mem_cons_self
        exact run_keeps start c idle fun held wrote unreferenced =>
          write held wrote (unreferenced careful)
    exact ih next fun c mem => offered c (List.mem_cons_of_mem e mem)

theorem Grounded.step (grounded : s.Grounded) (step : Step s s') :
    s'.Grounded ∧ s'.hierarchy.root = s.hierarchy.root := by
  cases step with
  | idle p => exact ⟨⟨grounded.tree, grounded.rows⟩, rfl⟩
  | write wrote => exact grounded.wrote wrote

theorem Mirrored.step (mirrored : s.Mirrored) (step : Step s s') :
    s'.Mirrored ∧ s'.terms = s.terms := by
  cases step with
  | idle p =>
    obtain ⟨⟨tree, rows⟩, ⟨users, roles, groups, memberships, assignments⟩⟩ := mirrored
    exact ⟨⟨⟨tree, rows⟩, ⟨users, roles, groups, memberships, assignments⟩⟩, rfl⟩
  | write wrote => exact ⟨mirrored.wrote wrote, wrote.terms_eq⟩

theorem Mirrored.afterAll (mirrored : s.Mirrored) (events : List Event) :
    (s.afterAll events).Mirrored ∧ (s.afterAll events).terms = s.terms := by
  refine afterAll_induction (P := fun t => t.Mirrored ∧ t.terms = s.terms) ⟨mirrored, rfl⟩ ?_ events
  rintro t t' ⟨held, same⟩ next
  obtain ⟨held', same'⟩ := held.step next
  exact ⟨held', same'.trans same⟩

theorem Grounded.afterAll (grounded : s.Grounded) (events : List Event) :
    (s.afterAll events).Grounded ∧ (s.afterAll events).hierarchy.root = s.hierarchy.root := by
  refine afterAll_induction (P := fun t => t.Grounded ∧ t.hierarchy.root = s.hierarchy.root)
    ⟨grounded, rfl⟩ ?_ events
  rintro t t' ⟨held, same⟩ next
  obtain ⟨held', same'⟩ := held.step next
  exact ⟨held', same'.trans same⟩

/-- From a boot on, the folders are one tree below the root that the boot chose, whatever is
called and whichever writes fail. -/
theorem folders_stay_a_tree {terms : Terms} {storage storage' : Storage} {h : Hierarchy}
    (booted : bootHierarchy terms.rootName storage = (.ok h, storage')) (r : Registry)
    (events : List Event) :
    let s := (⟨terms, h, r, storage'⟩ : System).afterAll events
    s.hierarchy.root = h.root ∧ s.hierarchy.IsTree := by
  intro s
  obtain ⟨grounded, root⟩ := (grounded_of_boot booted terms r).1.afterAll events
  exact ⟨root, grounded.tree⟩

theorem founded_stays_a_tree :
    let s := (founded ⟨"Root", ⟨2, 8⟩, .standard⟩ .empty).afterAll
      [.call (.createFolder ⟨"Assets", none, none⟩),
        .call (.createFolder ⟨"Servers", none, some ⟨Supply.counted 2⟩⟩),
        .call (.moveFolder ⟨Supply.counted 2⟩ ⟨Supply.counted 3⟩)]
    s.hierarchy.root = ⟨Supply.counted 1⟩ ∧ s.hierarchy.IsTree := by
  intro s
  have booted := boot_founded ⟨"Root", ⟨2, 8⟩, .standard⟩ .empty rfl rfl
  exact folders_stay_a_tree booted (founded ⟨"Root", ⟨2, 8⟩, .standard⟩ .empty).registry _

end System

end Perimeter
