import Perimeter.Hierarchy.Load
import Perimeter.Outline
import Perimeter.Registry
import Perimeter.Storage.Basic

/-!
# The live system

The hierarchy and the registry in memory, and the storage behind them. Every change is checked
in memory, written to storage, and applied in memory only after the write succeeded, with the
row that the storage returned. A change that is refused, or whose write fails, leaves memory
and tables as they were.
-/

namespace Perimeter

/-- What the rules of the service depend on. -/
structure Terms where
  rootName : String
  depths : DepthLimits
  license : License
deriving DecidableEq

/-- The terms of the service, the state in memory, and the storage. -/
structure System where
  terms : Terms
  hierarchy : Hierarchy
  registry : Registry
  storage : Storage

/-- What an operation answers, with the system after it. -/
abbrev Outcome (α : Type) := Except Fault α × System

namespace System

/-- Goes on with what a check found; a failed check changes nothing. -/
def check {α β : Type} (s : System) (found : Except Fault β) (next : β → Outcome α) : Outcome α :=
  match found with
  | .error e => (.error e, s)
  | .ok b => next b

/-- Writes to storage, and applies to memory what was written; a failed write applies nothing. -/
def commit {α : Type} (s : System) (write : Storage → Except Fault α × Storage)
    (apply : System → α → System) : Outcome α :=
  match write s.storage with
  | (.error e, storage) => (.error e, { s with storage })
  | (.ok a, storage) => (.ok a, apply { s with storage } a)

/-! ## Starting -/

/-- The hierarchy of the stored folders. Where none is stored, a root is created. -/
def bootHierarchy (rootName : String) (storage : Storage) : Except Fault Hierarchy × Storage :=
  match storage.readAll .folders with
  | .error e => (.error e, storage)
  | .ok [] =>
    match storage.create .folders (fun bits now => Folder.ofRoot rootName ⟨bits⟩ now) with
    | (.error e, storage) => (.error e, storage)
    | (.ok root, storage) => (.ok (.single root), storage)
  | .ok rows => (Hierarchy.ofRows rows, storage)

def loadRegistry (storage : Storage) : Except Fault Registry := do
  let users ← storage.readAll .users
  let roles ← storage.readAll .roles
  let groups ← storage.readAll .groups
  let memberships ← storage.readAll .memberships
  let assignments ← storage.readAll .assignments
  return .ofRows users roles groups memberships assignments

def start (terms : Terms) (storage : Storage) : Except Fault System × Storage :=
  match bootHierarchy terms.rootName storage with
  | (.error e, storage) => (.error e, storage)
  | (.ok hierarchy, storage) =>
    match loadRegistry storage with
    | .error e => (.error e, storage)
    | .ok registry => (.ok { terms, hierarchy, registry, storage }, storage)

end System

end Perimeter
