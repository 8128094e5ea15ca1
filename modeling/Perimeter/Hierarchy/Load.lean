import Perimeter.Hierarchy.Change

/-!
# Loading a hierarchy

Stored folders are accepted only if they form one tree below one root. What is wrong is looked
for in a fixed order: the number of roots, then folder by folder the root flag and repeated
ids, then missing parents, and last folders that do not hang below the root.
-/

namespace Perimeter.Hierarchy

def soleRoot (rows : List Folder) : Except Fault FolderId :=
  match rows.filter Folder.isRoot with
  | [] => .error .rootAbsent
  | [f] => .ok f.id
  | _ => .error .rootRepeated

/-- Enters one more row by its id. -/
def collectRow (table : IdMap .folder Folder) (f : Folder) :
    Except Fault (IdMap .folder Folder) :=
  if f.isRoot = f.parent.isSome then .error (.rootFlagInconsistent f.id)
  else if table.contains f.id then .error (.folderRepeated f.id)
  else .ok (table.insert f.id f)

/-- The first row whose parent is not among the rows. -/
def danglingRow? (table : IdMap .folder Folder) (rows : List Folder) :
    Option (FolderId × FolderId) :=
  rows.findSome? fun f => f.parent.bind fun p => if table.contains p then none else some (f.id, p)

/-- The hierarchy with the given rows, whether or not they form a tree. -/
def assemble (root : FolderId) (table : IdMap .folder Folder) (rows : List Folder) : Hierarchy :=
  rows.foldl (fun h f => h.linkTo f.parent f.id) { root, rows := table, kids := ∅ }

def ofRows (rows : List Folder) : Except Fault Hierarchy := do
  let root ← soleRoot rows
  let table ← rows.foldlM collectRow ∅
  match danglingRow? table rows with
  | some (id, parent) => .error (.parentMissing id parent)
  | none =>
    let h := assemble root table rows
    let reached := (h.below root).length + 1
    if reached = h.size then .ok h else .error (.foldersOffRoot (h.size - reached))

end Perimeter.Hierarchy
