import Perimeter.Storage.Table

/-!
# Storage

The six tables, and the supply that new rows take their ids and times from. A write is either
refused, and then nothing happens, or it is carried out. Which writes are refused is part of
the storage, so that statements can range over every pattern of failures.
-/

namespace Perimeter

/-- Where ids and times come from, and which calls are refused. -/
structure Supply where
  /-- The id that the next created row takes; afterwards ids are counted up. -/
  requested : Option (BitVec 128)
  /-- The number of the next id that is counted up. -/
  serial : Nat
  /-- The time of the next write, in seconds from the start of 2024. -/
  clock : Int
  /-- The nanoseconds past the second of the clock. -/
  nanos : Nat
  /-- The number of writes tried so far. -/
  writes : Nat
  /-- Which of the writes, by number, are refused. -/
  refuses : Nat → Bool
  /-- Whether reads are refused. -/
  readsRefused : Bool

namespace Supply

/-- A supply that counts ids from 1 and seconds from 0, and refuses nothing. -/
def fresh : Supply := ⟨none, 1, 0, 0, 0, fun _ => false, false⟩

def counted (n : Nat) : BitVec 128 := BitVec.ofNat 128 (0x40008000000000000000 + n)

/-- Takes an id: the requested one, else the next by number. -/
def takeId (s : Supply) : BitVec 128 × Supply :=
  match s.requested with
  | some bits => (bits, { s with requested := none })
  | none => (counted s.serial, { s with serial := s.serial + 1 })

/-- Takes the time of the clock, which advances by one second. -/
def takeTime (s : Supply) : Instant × Supply :=
  (.ofParts (1704067200 + s.clock) s.nanos, { s with clock := s.clock + 1 })

/-- A row built from a new id and the time. -/
def drawRow {α : Type} (build : BitVec 128 → Instant → α) (s : Supply) : α × Supply :=
  let (bits, s) := s.takeId
  let (now, s) := s.takeTime
  (build bits now, s)

/-- A row built from the time alone. -/
def drawTimed {α : Type} (build : Instant → α) (s : Supply) : α × Supply :=
  let (now, s) := s.takeTime
  (build now, s)

end Supply

structure Storage where
  folders : Table Folder FolderId
  users : Table User UserId
  roles : Table Role RoleId
  groups : Table Group GroupId
  memberships : Table Membership MemberKey
  assignments : Table Assignment AssignmentId
  supply : Supply

/-- The place of one table in the storage. The supply lies elsewhere. -/
structure Shelf (α κ : Type) [Ord κ] [Std.TransOrd κ] [Stored α κ] where
  get : Storage → Table α κ
  set : Storage → Table α κ → Storage
  get_supply : ∀ s p, get { s with supply := p } = get s := by intros; rfl
  set_supply : ∀ s p t, set { s with supply := p } t = { set s t with supply := p } := by
    intros; rfl

namespace Shelf

def folders : Shelf Folder FolderId where
  get := Storage.folders
  set s t := { s with folders := t }

def users : Shelf User UserId where
  get := Storage.users
  set s t := { s with users := t }

def roles : Shelf Role RoleId where
  get := Storage.roles
  set s t := { s with roles := t }

def groups : Shelf Group GroupId where
  get := Storage.groups
  set s t := { s with groups := t }

def memberships : Shelf Membership MemberKey where
  get := Storage.memberships
  set s t := { s with memberships := t }

def assignments : Shelf Assignment AssignmentId where
  get := Storage.assignments
  set s t := { s with assignments := t }

end Shelf

namespace Storage

variable {α κ : Type} [Ord κ] [Std.TransOrd κ] [Stored α κ]

def empty : Storage := ⟨.empty, .empty, .empty, .empty, .empty, .empty, .fresh⟩

/-- The fault of a call that the storage refuses. -/
def refused : Fault := .storageDown "connection reset"

/-- Tries the next write: whether it is refused, and the storage with the write counted. -/
def tryWrite (s : Storage) : Bool × Storage :=
  (s.supply.refuses s.supply.writes,
    { s with supply := { s.supply with writes := s.supply.writes + 1 } })

/-- Draws a row and enters it in a table. A refused write draws nothing. -/
def put (shelf : Shelf α κ) (enter : Table α κ → α → Except Fault (Table α κ))
    (draw : Supply → α × Supply) (s : Storage) : Except Fault α × Storage :=
  let (no, s) := s.tryWrite
  if no then (.error refused, s)
  else
    let (row, supply) := draw s.supply
    let s := { s with supply }
    match enter (shelf.get s) row with
    | .error e => (.error e, s)
    | .ok t => (.ok row, shelf.set s t)

/-- Creates a row with a new id and the time. -/
def create (shelf : Shelf α κ) (build : BitVec 128 → Instant → α) (s : Storage) :
    Except Fault α × Storage :=
  s.put shelf Table.create (Supply.drawRow build)

/-- Creates a row that has its key already. -/
def createTimed (shelf : Shelf α κ) (build : Instant → α) (s : Storage) :
    Except Fault α × Storage :=
  s.put shelf Table.create (Supply.drawTimed build)

/-- Replaces a row by one with the time in it. -/
def update (shelf : Shelf α κ) (build : Instant → α) (s : Storage) :
    Except Fault α × Storage :=
  s.put shelf Table.update (Supply.drawTimed build)

/-- Deletes the row of a key, and says whether there was one. -/
def delete (shelf : Shelf α κ) (k : κ) (s : Storage) : Except Fault Bool × Storage :=
  let (no, s) := s.tryWrite
  if no then (.error refused, s)
  else
    let (found, t) := (shelf.get s).delete k
    (.ok found, shelf.set s t)

def readAll (shelf : Shelf α κ) (s : Storage) : Except Fault (List α) :=
  if s.supply.readsRefused then .error refused else .ok (shelf.get s).all

end Storage

end Perimeter
