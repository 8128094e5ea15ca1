import Perimeter.Fault
import Perimeter.Folder

/-!
# The folder hierarchy

Folders store only their parent. A hierarchy keeps every folder by id, together with the set of
children of each folder that has some, so that the tree is walked downwards without a search.
This file holds the lookups and the walks; the walks end on every hierarchy, also on one whose
parent links run in a circle.
-/

namespace Perimeter

/-- The folders by id, the sets of their children, and which of them is the root. -/
structure Hierarchy where
  root : FolderId
  rows : IdMap .folder Folder
  kids : IdMap .folder (IdSet .folder)

namespace Hierarchy

def single (root : Folder) : Hierarchy :=
  { root := root.id, rows := (∅ : IdMap .folder Folder).insert root.id root, kids := ∅ }

/-! ## Lookups -/

def get? (h : Hierarchy) (id : FolderId) : Option Folder := h.rows[id]?

/-- The folder of an id, which has to exist. -/
def require (h : Hierarchy) (id : FolderId) : Except Fault Folder :=
  match h.get? id with
  | some f => .ok f
  | none => .error (.folderMissing id)

def contains (h : Hierarchy) (id : FolderId) : Bool := (h.get? id).isSome

/-- The number of folders, the root included. -/
def size (h : Hierarchy) : Nat := h.rows.size

def rootFolder? (h : Hierarchy) : Option Folder := h.get? h.root

/-- The parent that a folder names; `none` also for an id without a folder. -/
def parent? (h : Hierarchy) (id : FolderId) : Option FolderId := (h.get? id).bind Folder.parent

/-- The ids of the folders directly below one. -/
def childSet (h : Hierarchy) (id : FolderId) : IdSet .folder := (h.kids[id]?).getD ∅

def childIds (h : Hierarchy) (id : FolderId) : List FolderId := (h.childSet id).toList

def childCount (h : Hierarchy) (id : FolderId) : Nat := (h.childSet id).size

/-- Every folder, in listing order. -/
def sorted (h : Hierarchy) : List Folder := Folder.sortByName h.rows.values

/-- The folders directly below one, in listing order. -/
def childFolders (h : Hierarchy) (id : FolderId) : List Folder :=
  Folder.sortByName ((h.childIds id).filterMap h.get?)

/-- The folders directly below one that has to exist. -/
def children (h : Hierarchy) (id : FolderId) : Except Fault (List Folder) := do
  let _ ← h.require id
  return h.childFolders id

/-! ## Walking down -/

/-- The folders below a level of the tree, level by level, for at most so many levels. -/
def levelsBelow (h : Hierarchy) : Nat → List FolderId → List FolderId
  | 0, _ => []
  | n + 1, level =>
    let next := level.flatMap h.childIds
    if next.isEmpty then [] else next ++ h.levelsBelow n next

/-- Every folder below one, nearest levels first. A path downwards passes only folders that have
children, so it has at most as many steps as there are such folders. -/
def below (h : Hierarchy) (id : FolderId) : List FolderId := h.levelsBelow h.kids.size [id]

/-- Every folder below one that has to exist. -/
def descendants (h : Hierarchy) (id : FolderId) : Except Fault (List FolderId) := do
  let _ ← h.require id
  return h.below id

/-! ## Walking up -/

/-- The chain of parents that starts with `current`; `none` if it has more than so many. -/
def climb? (h : Hierarchy) : Nat → Option FolderId → Option (List FolderId)
  | _, none => some []
  | 0, some _ => none
  | n + 1, some p => (h.climb? n (h.parent? p)).map (p :: ·)

/-- The parents of a folder that has to exist, nearest first, the root last. A chain longer than
the hierarchy has folders runs in a circle. -/
def ancestors (h : Hierarchy) (id : FolderId) : Except Fault (List FolderId) := do
  let f ← h.require id
  match h.climb? h.size f.parent with
  | some chain => .ok chain
  | none => .error (.endlessParents id)

/-- Whether a folder occurs among the first so many of the parents that start with `current`. -/
def occursAbove (h : Hierarchy) (a : FolderId) : Nat → Option FolderId → Bool
  | _, none => false
  | 0, some _ => false
  | n + 1, some p => p = a || h.occursAbove a n (h.parent? p)

/-- Whether `a` lies strictly above `id`. One step more than there are folders reaches also a
parent that is missing from the hierarchy. -/
def isAbove (h : Hierarchy) (a id : FolderId) : Bool :=
  h.occursAbove a (h.size + 1) (h.parent? id)

/-! ## Rows of a walk -/

def foldersOf (h : Hierarchy) (ids : List FolderId) : List Folder := ids.filterMap h.get?

def descendantFolders (h : Hierarchy) (id : FolderId) : Except Fault (List Folder) :=
  (h.descendants id).map h.foldersOf

def ancestorFolders (h : Hierarchy) (id : FolderId) : Except Fault (List Folder) :=
  (h.ancestors id).map h.foldersOf

/-- The way from the root down to a folder, both included. -/
def breadcrumbs (h : Hierarchy) (id : FolderId) : Except Fault (List Folder) := do
  let f ← h.require id
  let above ← h.ancestors id
  return (f :: h.foldersOf above).reverse

end Hierarchy

end Perimeter
