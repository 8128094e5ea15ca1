import Perimeter.Hierarchy.Basic

/-!
# Changing a hierarchy

Each change comes in two parts: a check, which decides whether the change keeps one tree, and
the change itself, which adjusts the folders and the sets of children and checks nothing.
-/

namespace Perimeter.Hierarchy

/-- What moving a folder comes to. -/
inductive Move where
  /-- The folder is already there. -/
  | unchanged
  /-- The folder goes below the given parent. -/
  | to (parent : FolderId)
deriving DecidableEq

/-! ## Checks -/

/-- The folder below which a new one goes; the root where none is named. -/
def placeFor (h : Hierarchy) (parent : Option FolderId) : Except Fault FolderId :=
  match parent with
  | some p => (h.require p).map Folder.id
  | none => .ok h.root

/-- Decides a move. The causes of refusal are looked for in a fixed order: the folder is
missing, it is the root, the parent is missing, the parent is the folder or lies below it. -/
def checkMove (h : Hierarchy) (id parent : FolderId) : Except Fault Move := do
  let f ← h.require id
  if f.isRoot ∨ id = h.root then .error .rootMove
  else
    let _ ← h.require parent
    if f.parent = some parent then .ok .unchanged
    else if parent = id ∨ h.isAbove id parent then .error (.moveCycle id parent)
    else .ok (.to parent)

/-- Decides a removal: the root stays, and so does a folder with others below it. -/
def checkRemoval (h : Hierarchy) (id : FolderId) : Except Fault Unit := do
  let f ← h.require id
  if f.isRoot ∨ id = h.root then .error .rootDeletion
  else if h.childCount id = 0 then .ok ()
  else .error (.folderHasChildren id (h.childCount id))

/-! ## Changes -/

/-- Enters a child in the set of its parent. -/
def link (h : Hierarchy) (parent child : FolderId) : Hierarchy :=
  { h with kids := h.kids.insert parent ((h.childSet parent).insert child) }

/-- Takes a child out of the set of its parent. No empty set is kept. -/
def unlink (h : Hierarchy) (parent child : FolderId) : Hierarchy :=
  match h.kids[parent]? with
  | none => h
  | some set =>
    let rest := set.erase child
    { h with kids := if rest.isEmpty then h.kids.erase parent else h.kids.insert parent rest }

def linkTo (h : Hierarchy) (parent : Option FolderId) (child : FolderId) : Hierarchy :=
  match parent with
  | some p => h.link p child
  | none => h

def unlinkFrom (h : Hierarchy) (parent : Option FolderId) (child : FolderId) : Hierarchy :=
  match parent with
  | some p => h.unlink p child
  | none => h

def setRow (h : Hierarchy) (f : Folder) : Hierarchy := { h with rows := h.rows.insert f.id f }

def insert (h : Hierarchy) (f : Folder) : Hierarchy := (h.linkTo f.parent f.id).setRow f

/-- Replaces a folder, and moves it where its parent changed. -/
def replace (h : Hierarchy) (f : Folder) : Hierarchy :=
  let old := h.parent? f.id
  let h := h.setRow f
  if old = f.parent then h else (h.unlinkFrom old f.id).linkTo f.parent f.id

/-- Drops a folder, its place below its parent, and its set of children. -/
def remove (h : Hierarchy) (id : FolderId) : Hierarchy :=
  match h.get? id with
  | none => h
  | some f =>
    let h := ({ h with rows := h.rows.erase id } : Hierarchy).unlinkFrom f.parent id
    { h with kids := h.kids.erase id }

end Perimeter.Hierarchy
