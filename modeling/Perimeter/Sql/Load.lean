import Perimeter.Hierarchy.Load
import Perimeter.Registry
import Perimeter.Sql.Tables

/-!
# Loading from a database

The hierarchy and the registry of the rows that a database holds. The folders are loaded and
judged first; a database without folders is given a root.
-/

namespace Perimeter.Sql.Session

/-- The hierarchy of the stored folders; where there are none, of a new root. -/
def loadHierarchy (s : Session) (root : Folder) : Exchange Statement Hierarchy := do
  let rows ← s.ask Relation.folders.all
  if rows.isEmpty then
    let root ← s.ask (Relation.folders.create root)
    return .single root
  else Exchange.done (Hierarchy.ofRows rows)

def loadRegistry (s : Session) : Exchange Statement Registry := do
  let users ← s.ask Relation.users.all
  let roles ← s.ask Relation.roles.all
  let groups ← s.ask Relation.groups.all
  let memberships ← s.ask Relation.memberships.all
  let assignments ← s.ask Relation.assignments.all
  return .ofRows users roles groups memberships assignments

def load (s : Session) (root : Folder) : Exchange Statement (Hierarchy × Registry) := do
  let hierarchy ← s.loadHierarchy root
  let registry ← s.loadRegistry
  return (hierarchy, registry)

end Perimeter.Sql.Session
