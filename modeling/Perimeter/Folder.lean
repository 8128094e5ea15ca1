import Perimeter.Id
import Perimeter.Instant

/-!
# Folders

A folder scopes the records stored in it. Folders name their parents only; the root is the one
folder without a parent.
-/

namespace Perimeter

structure Folder where
  id : FolderId
  name : String
  description : Option String
  parent : Option FolderId
  isRoot : Bool
  builtin : Bool
  createdAt : Instant
  updatedAt : Instant
deriving DecidableEq

/-- What a caller gives to create a folder; without a parent it goes below the root. -/
structure NewFolder where
  name : String
  description : Option String
  parent : Option FolderId
deriving DecidableEq

/-- A partial change of a folder: what is absent stays as it is. -/
structure FolderChange where
  name : Option String
  description : Option String
  parent : Option FolderId
deriving DecidableEq

namespace Folder

def ofRoot (name : String) (id : FolderId) (now : Instant) : Folder :=
  { id, name, description := none, parent := none, isRoot := true, builtin := true,
    createdAt := now, updatedAt := now }

def ofChild (name : String) (description : Option String) (parent : FolderId) (id : FolderId)
    (now : Instant) : Folder :=
  { id, name, description, parent := some parent, isRoot := false, builtin := false,
    createdAt := now, updatedAt := now }

/-- Folders are listed by name, and by id where names agree. -/
def compareByName (f g : Folder) : Ordering :=
  (compare f.name g.name).then (compare f.id g.id)

def sortByName (fs : List Folder) : List Folder :=
  fs.mergeSort fun f g => (compareByName f g).isLE

end Folder

end Perimeter
