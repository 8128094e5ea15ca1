import Perimeter.Page
import Perimeter.System.Basic

/-!
# Folder operations

Creating, moving, renaming and removing folders. A move and a renaming are separate writes, also
where one request asks for both.
-/

namespace Perimeter

def maxNameLength : Nat := 200

/-- A folder name without blanks at its ends; blank and overlong names are refused. -/
def normalizeName (name : String) : Except Fault String :=
  let name := Text.trim name
  if name.isEmpty then .error .folderNameEmpty
  else if maxNameLength < name.length then .error (.folderNameTooLong maxNameLength)
  else .ok name

namespace System

/-- Creates a folder below the parent that is named, else below the root. The description is
kept as it is given, unless it is blank. -/
def createFolder (s : System) (d : NewFolder) : Outcome Folder :=
  s.check (normalizeName d.name) fun name =>
  s.check (s.hierarchy.placeFor d.parent) fun parent =>
  let description := d.description.filter fun t => !Text.isBlank t
  s.commit
    (Storage.create .folders fun bits now => .ofChild name description parent ⟨bits⟩ now)
    fun s f => { s with hierarchy := s.hierarchy.insert f }

/-- Writes a changed folder and replaces it in the hierarchy. -/
def saveFolder (s : System) (f : Folder) : Outcome Folder :=
  s.commit (Storage.update .folders fun now => { f with updatedAt := now })
    fun s f => { s with hierarchy := s.hierarchy.replace f }

/-- Moves a folder below another. Where it is there already, nothing is written. -/
def moveFolder (s : System) (id parent : FolderId) : Outcome Folder :=
  s.check (s.hierarchy.checkMove id parent) fun
    | .unchanged => (s.hierarchy.require id, s)
    | .to p => s.check (s.hierarchy.require id) fun f => s.saveFolder { f with parent := some p }

/-- Changes the name, the description or both; a blank description clears it. Where neither is
given, nothing is written. -/
def renameFolder (s : System) (id : FolderId) (name description : Option String) :
    Outcome Folder :=
  s.check (name.mapM normalizeName) fun name =>
  s.check (s.hierarchy.require id) fun f =>
  if name.isNone ∧ description.isNone then (.ok f, s)
  else
    s.saveFolder { f with
      name := name.getD f.name
      description := match description with
        | some t => Text.nonBlank? t
        | none => f.description }

/-- Removes a folder that is not the root and has none below it. The folder is taken out of the
hierarchy only after the write, and whether it is there is asked once more at that point. -/
def removeFolder (s : System) (id : FolderId) : Outcome Folder :=
  s.check (s.hierarchy.checkRemoval id) fun _ =>
  match s.commit (Storage.delete .folders id) fun s _ => s with
  | (.error e, s) => (.error e, s)
  | (.ok _, s) =>
    s.check (s.hierarchy.require id) fun f => (.ok f, { s with hierarchy := s.hierarchy.remove id })

/-- Removes a folder unless a group or an assignment is on it. -/
def discardFolder (s : System) (id : FolderId) : Outcome Folder :=
  let count := s.registry.references id
  if count = 0 then s.removeFolder id else (.error (.folderInUse id count), s)

/-- Applies a partial change. The move comes first and stands even if the renaming fails. -/
def changeFolder (s : System) (id : FolderId) (d : FolderChange) : Outcome Folder :=
  if d.name.any Text.isBlank then (.error .folderNameEmpty, s)
  else
    let moved := match d.parent with
      | some p => s.moveFolder id p
      | none => (s.hierarchy.require id, s)
    match moved with
    | (.error e, s) => (.error e, s)
    | (.ok f, s) =>
      if d.name.isSome ∨ d.description.isSome then s.renameFolder id d.name d.description
      else (.ok f, s)

/-- One page of all folders, in listing order. -/
def listFolders (s : System) (r : PageRequest) : Option (Page Folder) :=
  Page.ofList? s.hierarchy.sorted r

def outline (s : System) (id : FolderId) (depth : Option Nat) : Except Fault Outline :=
  s.hierarchy.outline s.terms.depths id depth

end System

end Perimeter
