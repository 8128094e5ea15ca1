import Perimeter.Proofs.Refusals
import Perimeter.Proofs.Restart
import Perimeter.Proofs.Texts
import Perimeter.Web.Serve

/-!
# Rejected requests

A request that is rejected, with a status that puts it down to the caller, has changed no row
(`rejections_commit_nothing`). What could break this is the change of a folder, which is two
writes: the move stands even if the renaming fails. But a name that passed the rule of the body
and is not blank can be normalized (`normalizeName_of_passed`), and the folder that was moved is
still there, so the renaming fails only where the storage refuses the write
(`renameFolder_eq_error`), and then the request is not rejected but fails.
-/

namespace Perimeter

/-! ## Names -/

theorem normalizeName_eq_ok {t name : String} : normalizeName t = .ok name ↔
    Text.trim t = name ∧ name ≠ "" ∧ name.length ≤ maxNameLength := by
  unfold normalizeName
  dsimp only
  split
  · next blank =>
    rw [String.isEmpty_iff] at blank
    simp only [reduceCtorEq, false_iff, not_and]
    rintro rfl nonempty
    exact absurd blank nonempty
  · next visible =>
    rw [String.isEmpty_iff] at visible
    split
    · next long =>
      simp only [reduceCtorEq, false_iff, not_and]
      rintro rfl _
      exact Nat.not_le_of_gt long
    · next short =>
      simp only [Except.ok.injEq]
      constructor
      · rintro rfl
        exact ⟨rfl, visible, Nat.le_of_not_gt short⟩
      · exact And.left

theorem normalizeName_eq_error {t : String} {e : Fault} (failed : normalizeName t = .error e) :
    e.kind = .validation := by
  unfold normalizeName at failed
  dsimp only at failed
  split at failed
  · cases failed
    rfl
  · split at failed
    · cases failed
      rfl
    · cases failed

theorem Complaint.length_eq_nil {field t : String} {least most : Nat} {message : Option String} :
    Complaint.length field least most message (some t) = [] ↔
      least ≤ t.length ∧ t.length ≤ most := by
  unfold Complaint.length
  split <;> simp_all

/-- A name that passed a rule of at most so many characters is no longer once it is trimmed. -/
theorem length_trim_of_passed {field t : String} {least most : Nat} {message : Option String}
    (passed : Complaint.length field least most message (some t) = []) :
    (Text.trim t).length ≤ most :=
  (Text.length_trim_le t).trans (Complaint.length_eq_nil.mp passed).2

/-- A name that passed the rule of the body is only refused if it is blank: trimming makes no
text longer, and leaves something of a text that is not blank. -/
theorem normalizeName_of_passed {t : String} (passed : nameComplaints (some t) = [])
    (visible : Text.isBlank t = false) : normalizeName t = .ok (Text.trim t) := by
  rw [normalizeName_eq_ok]
  refine ⟨rfl, ?_, ?_⟩
  · rw [ne_eq, Text.trim_eq_empty, visible]
    exact Bool.false_ne_true
  · exact length_trim_of_passed passed

namespace System

variable {s s' : System} {e : Fault}

/-! ## Renaming a folder that is there -/

theorem saveFolder_eq_error (mirrored : s.Mirrored) {f g : Folder}
    (row : s.hierarchy.get? f.id = some g) (failed : s.saveFolder f = (.error e, s')) :
    e = Storage.refused := by
  obtain ⟨storage, unwritten⟩ := commit_eq_error failed
  obtain ⟨refused, _⟩ | ⟨q, absent⟩ := Storage.put_eq_error unwritten
  · exact refused
  · -- the table has a row of this id, so the update cannot miss it
    have missing := Table.update_eq_error absent
    change s.storage.folders.find? f.id = none at missing
    rw [Hierarchy.get?_of_rows mirrored.rows, missing] at row
    cases row

/-- The renaming of a folder that is there fails for the name that it was given, or because the
storage refuses the write. -/
theorem renameFolder_eq_error (mirrored : s.Mirrored) {id : FolderId} {f : Folder}
    {name description : Option String} (row : s.hierarchy.get? id = some f)
    (failed : s.renameFolder id name description = (.error e, s')) :
    (∃ t, name = some t ∧ normalizeName t = .error e) ∨ e = Storage.refused := by
  unfold renameFolder check at failed
  split at failed
  · next unnamed =>
    cases failed
    cases name with
    | none => cases unnamed
    | some t => exact Or.inl ⟨t, rfl, map_eq_error.mp unnamed⟩
  · rw [Hierarchy.require_eq_ok.mpr row] at failed
    dsimp only at failed
    split at failed
    · cases failed
    · have own : f.id = id := mirrored.tree.keyed id f row
      exact Or.inr (saveFolder_eq_error mirrored (own ▸ row) failed)

/-- After a move that succeeded the moved folder is there, and all is as mirrored as before. -/
theorem Mirrored.move (mirrored : s.Mirrored) {id parent : FolderId} {f : Folder}
    (moved : s.moveFolder id parent = (.ok f, s')) :
    s'.Mirrored ∧ s'.hierarchy.get? id = some f :=
  folder_held mirrored (moved ▸ moveFolder_settles s id parent).answer

/-- The same where no parent was named and nothing moved. -/
theorem Mirrored.place (mirrored : s.Mirrored) {id : FolderId} {parent : Option FolderId}
    {f : Folder} (placed : (match parent with
      | some p => s.moveFolder id p
      | none => (s.hierarchy.require id, s)) = (.ok f, s')) :
    s'.Mirrored ∧ s'.hierarchy.get? id = some f := by
  cases parent with
  | some p => exact mirrored.move placed
  | none =>
    have found : (s.hierarchy.require id, s) = (.ok f, s') := placed
    exact folder_held mirrored (found ▸ require_settles s id).answer

/-- A change of a folder that passed the rule of its body is rejected only before anything is
written. -/
theorem changeFolder_rejected (mirrored : s.Mirrored) {id : FolderId} {d : FolderChange}
    (passed : d.complaints = []) (failed : s.changeFolder id d = (.error e, s'))
    (rejected : e.kind.isRejection = true) : s.SameRows s' := by
  unfold changeFolder at failed
  split at failed
  · cases failed
    exact sameRows_supplied s s.storage.supply
  · next visible =>
    dsimp only at failed
    split at failed
    · next e s₁ outcome =>
      cases failed
      revert outcome
      split
      · exact (moveFolder_settles s id _).spares _ _
      · exact (require_settles s id).spares _ _
    · next f s₁ outcome =>
      obtain ⟨mirrored₁, row⟩ := mirrored.place outcome
      split at failed
      · exfalso
        obtain ⟨t, given, invalid⟩ | rfl := renameFolder_eq_error mirrored₁ row failed
        · have named : nameComplaints (some t) = [] := by
            rw [← given]
            exact (List.append_eq_nil_iff.mp passed).1
          rw [given, Option.any_some, Bool.not_eq_true] at visible
          rw [normalizeName_of_passed named visible] at invalid
          cases invalid
        · cases rejected
      · cases failed

/-! ## Calls -/

theorem fault_of_answering {α : Type} {o : Outcome α} {status : Nat} {item : α → Json}
    (failed : Web.Call.answering status item o = (.error e, s')) : o = (.error e, s') := by
  obtain ⟨outcome, rfl⟩ := Prod.mk.inj failed
  exact Prod.ext (map_eq_error.mp outcome) rfl

theorem Settles.answering {α : Type} {o : Outcome α} {answers : α → System → Prop} {status : Nat}
    {item : α → Json} (settled : s.Settles o answers)
    (failed : Web.Call.answering status item o = (.error e, s')) : s.SameRows s' :=
  settled.spares e s' (fault_of_answering failed)

theorem status_of_map {α : Type} {x : Except Fault α} {status code : Nat} {item : α → Json}
    {data : Json} (answered : x.map (fun a => (status, item a)) = .ok (code, data)) :
    code = status := by
  obtain ⟨_, _, answer⟩ := map_eq_ok.mp answered
  exact (Prod.mk.inj answer).1.symm

end System

namespace Web

variable {s s' : System}

/-- The body that came with a call, where one came, passed its rule. -/
def Call.Passed : Call → Prop
  | createFolder d => d.complaints = []
  | changeFolder _ d => d.complaints = []
  | createUser d => d.complaints = []
  | createRole d => d.complaints = []
  | createGroup d => d.complaints = []
  | _ => True

theorem decoded_eq_ok {α : Type} {r : Request} {most : Nat} {item : Json.Decoder α}
    {complaints : α → List Complaint} {a : α} (read : r.decoded most item complaints = .ok a) :
    complaints a = [] := by
  unfold Request.decoded at read
  split at read
  · cases read
  · split at read
    · cases read
    · split at read
      · cases read
      · cases read
      · split at read
        · next silent =>
          cases read
          exact List.isEmpty_iff.mp silent
        · cases read

variable {r : Request} {route : Route} {call : Call} {most : Nat}

theorem passed_of_reading (read : route.reading r = some (.ok call)) : call.Passed := by
  cases route with
  | folders | users | folder | folderChildren | folderDescendants | folderAncestors
  | folderBreadcrumbs | user | userGroups | groupMembers | assignments =>
    obtain ⟨_, _, done⟩ := bind_eq_ok.mp (Option.some.inj read)
    cases done
    trivial
  | folderTree =>
    obtain ⟨_, _, rest⟩ := bind_eq_ok.mp (Option.some.inj read)
    obtain ⟨_, _, done⟩ := bind_eq_ok.mp rest
    cases done
    trivial
  | userPermissions =>
    obtain ⟨_, _, asked⟩ := bind_eq_ok.mp (Option.some.inj read)
    obtain ⟨_, _, done⟩ := bind_eq_ok.mp asked
    dsimp only at done
    split at done
    · cases done
    · cases done
      trivial
  | roles | groups | seats | editors | health =>
    cases read
    trivial
  | groupMember | assignment => cases read

theorem passed_of_adding (read : route.adding r most = some (.ok call)) : call.Passed := by
  cases route with
  | folders | users | roles | groups =>
    obtain ⟨_, _, body⟩ := bind_eq_ok.mp (Option.some.inj read)
    obtain ⟨d, decoded, done⟩ := bind_eq_ok.mp body
    cases done
    exact decoded_eq_ok decoded
  | groupMembers =>
    obtain ⟨_, _, rest⟩ := bind_eq_ok.mp (Option.some.inj read)
    obtain ⟨_, _, body⟩ := bind_eq_ok.mp rest
    obtain ⟨_, _, done⟩ := bind_eq_ok.mp body
    cases done
    trivial
  | assignments =>
    obtain ⟨_, _, body⟩ := bind_eq_ok.mp (Option.some.inj read)
    obtain ⟨_, _, formed⟩ := bind_eq_ok.mp body
    unfold AssignmentForm.call at formed
    split at formed
    · cases formed
      trivial
    · cases formed
  | _ => cases read

theorem passed_of_changing (read : route.changing r most = some (.ok call)) : call.Passed := by
  cases route with
  | folder =>
    obtain ⟨_, _, rest⟩ := bind_eq_ok.mp (Option.some.inj read)
    obtain ⟨_, _, body⟩ := bind_eq_ok.mp rest
    obtain ⟨d, decoded, done⟩ := bind_eq_ok.mp body
    cases done
    exact decoded_eq_ok decoded
  | user =>
    obtain ⟨_, _, rest⟩ := bind_eq_ok.mp (Option.some.inj read)
    obtain ⟨_, _, body⟩ := bind_eq_ok.mp rest
    obtain ⟨_, _, done⟩ := bind_eq_ok.mp body
    cases done
    trivial
  | _ => cases read

theorem passed_of_removing (read : route.removing r = some (.ok call)) : call.Passed := by
  cases route with
  | folder | assignment =>
    obtain ⟨_, _, rest⟩ := bind_eq_ok.mp (Option.some.inj read)
    obtain ⟨_, _, done⟩ := bind_eq_ok.mp rest
    cases done
    trivial
  | groupMember =>
    obtain ⟨_, _, rest⟩ := bind_eq_ok.mp (Option.some.inj read)
    obtain ⟨_, _, rest⟩ := bind_eq_ok.mp rest
    obtain ⟨_, _, done⟩ := bind_eq_ok.mp rest
    cases done
    trivial
  | _ => cases read

/-- A call reaches the system only once its body has passed. -/
theorem passed_of_call (read : route.call? r most = some (.ok call)) : call.Passed := by
  unfold Route.call? at read
  split at read
  · exact passed_of_reading read
  · exact passed_of_reading read
  · exact passed_of_adding read
  · exact passed_of_changing read
  · exact passed_of_removing read
  · cases read

/-- What is answered without a fault has a status of success. -/
theorem status_of_perform {status : Nat} {data : Json}
    (performed : call.perform s = (.ok (status, data), s')) : status < 400 := by
  have success : status = 200 ∨ status = 201 := by
    cases call with
    | createFolder | createUser | createRole | createGroup | assign =>
      exact Or.inr (System.status_of_map (Prod.mk.inj performed).1)
    | changeUser id d =>
      unfold Call.perform at performed
      dsimp only at performed
      split at performed <;> exact Or.inl (System.status_of_map (Prod.mk.inj performed).1)
    | listFolders page | listUsers page =>
      obtain ⟨answered, _⟩ := Prod.mk.inj performed
      unfold pageAnswer at answered
      split at answered <;> cases answered
      exact Or.inl rfl
    | _ => exact Or.inl (System.status_of_map (Prod.mk.inj performed).1)
  omega

theorem perform_rejected {e : Fault} (mirrored : s.Mirrored) (passed : call.Passed)
    (failed : call.perform s = (.error e, s')) (rejected : e.kind.isRejection = true) :
    s.SameRows s' := by
  cases call with
  | createFolder d => exact (System.createFolder_settles s d).answering failed
  | changeFolder id d =>
    exact System.changeFolder_rejected mirrored passed (System.fault_of_answering failed) rejected
  | discardFolder id => exact (System.discardFolder_settles s id).answering failed
  | createUser d => exact (System.createUser_settles s d).answering failed
  | changeUser id d =>
    unfold Call.perform at failed
    dsimp only at failed
    split at failed
    · exact (System.setUserActive_settles s id _).answering failed
    · obtain ⟨_, rfl⟩ := Prod.mk.inj failed
      exact System.sameRows_supplied s s.storage.supply
  | createRole d => exact (System.createRole_settles s d).answering failed
  | createGroup d => exact (System.createGroup_settles s d).answering failed
  | addMember group user => exact (System.addMember_settles s user group).answering failed
  | removeMember group user =>
    exact (System.removeMember_settles s user group).answering failed
  | assign d => exact (System.assignRole_settles s d).answering failed
  | revoke id => exact (System.revokeAssignment_settles s id).answering failed
  | _ =>
    obtain ⟨_, rfl⟩ := Prod.mk.inj failed
    exact System.sameRows_supplied s s.storage.supply

/-! ## Responses -/

/-- If the response puts an error down to the caller, no row has changed. -/
def Harmless (s : System) (out : Response × System) : Prop :=
  400 ≤ out.1.status → out.1.status < 500 → s.SameRows out.2

theorem harmless_rest (s : System) (response : Response) : Harmless s (response, s) :=
  fun _ _ => System.sameRows_supplied s s.storage.supply

theorem isRejection_of_status {kind : FaultKind} (client : kind.status < 500) :
    kind.isRejection = true := by
  revert client
  cases kind <;> decide

theorem harmless_carryOut (mirrored : s.Mirrored) (reading : Reading Call)
    (passed : ∀ call, reading = .ok call → call.Passed) :
    Harmless s (carryOut s reading) := by
  cases reading with
  | error refusal => exact harmless_rest s _
  | ok call =>
    unfold carryOut
    dsimp only
    split
    · next performed =>
      intro least _
      exact absurd (status_of_perform performed) (Nat.not_lt_of_ge least)
    · next failed =>
      intro _ client
      exact perform_rejected mirrored (passed call rfl) failed (isRejection_of_status client)

theorem harmless_dispatch (mirrored : s.Mirrored) (route : Option Route) (most : Nat)
    (r : Request) : Harmless s (dispatch s route most r) := by
  unfold dispatch
  split
  · exact harmless_rest s _
  · split
    · exact harmless_rest s _
    · next reading read =>
      refine harmless_carryOut mirrored reading fun call ok => ?_
      subst ok
      exact passed_of_call read

theorem harmless_serve (mirrored : s.Mirrored) (t : ServerTerms) (r : Request) :
    Harmless s (serve t s r) := by
  have answered : Harmless s
      (if r.method = "OPTIONS" then (preflight t.cors, s)
      else if (r.declaredLength?).any (t.maxBody < ·) then
        (.ofText 413 "length limit exceeded", s)
      else dispatch s (Route.ofPath? (splitTarget r.target).1) t.maxBody r) := by
    split
    · exact harmless_rest s _
    · split
      · exact harmless_rest s _
      · exact harmless_dispatch mirrored _ _ _
  -- the headers, and the content that is taken away, leave the status as it is
  unfold serve
  dsimp only
  split <;> exact answered

end Web

namespace System

/-- In every state that a run reaches, a request that is rejected changes no row. In particular
a change of a folder whose body passed is not rejected after its move: its name, unless it is
blank, can be normalized, and the moved folder does not go missing. -/
theorem rejections_commit_nothing {terms : Terms} {storage storage' : Storage} {s₀ : System}
    (started : start terms storage = (.ok s₀, storage')) (events : List Event) :
    let s := s₀.afterAll events
    (∀ t r, Web.Harmless s (Web.serve t s r)) ∧
      (∀ id d e s', d.complaints = [] → s.changeFolder id d = (.error e, s') →
        e.kind.isRejection = true → s.SameRows s') ∧
      (∀ name, nameComplaints (some name) = [] → Text.isBlank name = false →
        normalizeName name = .ok (Text.trim name)) ∧
      ∀ id parent f s₁ name description e s₂, s.moveFolder id parent = (.ok f, s₁) →
        s₁.renameFolder id name description = (.error e, s₂) → e.kind ≠ .notFound := by
  intro s
  have mirrored : s.Mirrored := ((mirrored_of_start started).1.afterAll events).1
  refine ⟨fun t r => Web.harmless_serve mirrored t r, ?_, ?_, ?_⟩
  · intro id d e s'
    exact changeFolder_rejected mirrored
  · intro name
    exact normalizeName_of_passed
  · intro id parent f s₁ name description e s₂ moved failed
    obtain ⟨mirrored₁, row⟩ := mirrored.move moved
    obtain ⟨t, _, invalid⟩ | rfl := renameFolder_eq_error mirrored₁ row failed
    · rw [normalizeName_eq_error invalid]
      decide
    · decide

/-- Requests that name a new parent and a new name for a folder at once, and are rejected once
their bodies have been read: below its own child, below a folder that is not there, and with a
blank name although the folder could move. -/
theorem rejected_changes_commit_nothing :
    let terms : Terms := ⟨"Root", ⟨2, 8⟩, .standard⟩
    let s := (founded terms .empty).afterAll
      [.call (.createFolder ⟨"Assets", none, none⟩),
        .call (.createFolder ⟨"Servers", none, some ⟨Supply.counted 2⟩⟩)]
    let change (folder parent name : String) : Web.Request :=
      ⟨"PATCH", "/api/folders/00000000-0000-4000-8000-00000000000" ++ folder,
        [("content-type", "application/json")],
        "\x7b\"parent_id\": \"00000000-0000-4000-8000-00000000000" ++ parent ++
          "\", \"name\": \"" ++ name ++ "\"\x7d"⟩
    let Rejected (status : Nat) (r : Web.Request) : Prop :=
      (Web.serve .standard s r).1.status = status ∧ s.SameRows (Web.serve .standard s r).2
    Rejected 400 (change "2" "3" "Fleet") ∧ Rejected 404 (change "3" "9" "Fleet") ∧
      Rejected 400 (change "3" "1" " ") ∧
      (Web.serve .standard s (change "3" "1" "Fleet")).1.status = 200 := by
  intro terms s change Rejected
  have kept := (rejections_commit_nothing (start_founded terms .empty rfl rfl)
    [.call (.createFolder ⟨"Assets", none, none⟩),
      .call (.createFolder ⟨"Servers", none, some ⟨Supply.counted 2⟩⟩)]).1
  have rejected : ∀ {status r}, 400 ≤ status ∧ status < 500 →
      (Web.serve .standard s r).1.status = status → Rejected status r := by
    rintro status r ⟨least, most⟩ rfl
    exact ⟨rfl, kept .standard r least most⟩
  refine ⟨rejected (by decide) ?_, rejected (by decide) ?_, rejected (by decide) ?_, ?_⟩
  all_goals decide +kernel

end System

end Perimeter
