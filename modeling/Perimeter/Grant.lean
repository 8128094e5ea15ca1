import Perimeter.Hierarchy.Basic

/-!
# Grants

What a user may do follows from the grants that reach the user. A grant on a folder covers the
records stored in that folder; a recursive one covers also every folder below.
-/

namespace Perimeter

/-- A role assignment as seen by one user, with the role's permissions. -/
structure Grant where
  folder : FolderId
  recursive : Bool
  permissions : List String
deriving DecidableEq

namespace Grant

def carries (codename : String) (g : Grant) : Bool := g.permissions.contains codename

/-- Whether some grant gives a permission on a folder, which has to exist. The grants on the
folder itself decide first; the folders above are asked for only if a grant may come from
there. -/
def allow (h : Hierarchy) (grants : List Grant) (codename : String) (folder : FolderId) :
    Except Fault Bool :=
  if h.contains folder then
    let relevant := grants.filter (carries codename)
    if relevant.any (·.folder = folder) then .ok true
    else if relevant.any Grant.recursive then
      (h.ancestors folder).map fun above =>
        relevant.any fun g => g.recursive && above.contains g.folder
    else .ok false
  else .error (.folderMissing folder)

/-- Adds the folders that one grant reaches, if its folder still exists. -/
def reach (h : Hierarchy) (found : IdSet .folder) (g : Grant) : Except Fault (IdSet .folder) :=
  if h.contains g.folder then
    if g.recursive then
      (h.descendants g.folder).map fun ids => (found.insert g.folder).insertMany ids
    else .ok (found.insert g.folder)
  else .ok found

/-- Every folder on which some grant gives a permission. -/
def permitted (h : Hierarchy) (grants : List Grant) (codename : String) :
    Except Fault (IdSet .folder) :=
  (grants.filter (carries codename)).foldlM (reach h) ∅

end Grant

end Perimeter
