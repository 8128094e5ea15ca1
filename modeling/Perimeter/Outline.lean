import Perimeter.Hierarchy.Basic

/-!
# Outlines

A nested view of the folders below one, down to a limit of depth. Outlines are put together, and
their nodes counted, with a stack of what is not finished, so that a deep tree needs no deep
recursion.
-/

namespace Perimeter

/-- A folder with the folders below it, as far as the view goes. -/
structure Outline where
  id : FolderId
  name : String
  depth : Nat
  childCount : Nat
  children : List Outline

/-- How deep outlines go where no depth is asked for, and at most. -/
structure DepthLimits where
  standard : Nat
  most : Nat
deriving DecidableEq

namespace Outline

def node (h : Hierarchy) (depth : Nat) (f : Folder) (children : List Outline) : Outline :=
  { id := f.id, name := f.name, depth, childCount := h.childCount f.id, children }

/-! ## Putting together -/

/-- The folders directly below one, in listing order; none if it is gone. -/
def listed (h : Hierarchy) (f : Folder) : List Folder := (h.children f.id).toOption.getD []

/-- A node that is not finished: its children so far, last first, and the folders of those that
are still to come. -/
structure Unfinished where
  folder : Folder
  depth : Nat
  done : List Outline
  pending : List Folder

namespace Unfinished

/-- Begins the node of a folder. At the last depth it gets no children. -/
def start (h : Hierarchy) (most depth : Nat) (f : Folder) : Unfinished :=
  { folder := f, depth, done := [], pending := if most ≤ depth then [] else listed h f }

def attach (u : Unfinished) (child : Outline) : Unfinished := { u with done := child :: u.done }

/-- The node with its children so far. -/
def close (h : Hierarchy) (u : Unfinished) : Outline := node h u.depth u.folder u.done.reverse

end Unfinished

def total {α : Type} (count : α → Nat) : List α → Nat
  | [] => 0
  | a :: as => count a + total count as

/-- The number of steps that the node of a folder takes, with so many levels below it. -/
def steps (h : Hierarchy) : Nat → Folder → Nat
  | 0, _ => 2
  | more + 1, f => 2 + total (steps h more) (listed h f)

/-- The number of steps that an unfinished node still takes. -/
def Unfinished.stepsLeft (h : Hierarchy) (most : Nat) (u : Unfinished) : Nat :=
  1 + total (steps h (most - (u.depth + 1))) u.pending

theorem Unfinished.stepsLeft_start (h : Hierarchy) (most depth : Nat) (f : Folder) :
    (start h most depth f).stepsLeft h most + 1 = steps h (most - depth) f := by
  unfold start stepsLeft
  split
  · next last =>
    rw [Nat.sub_eq_zero_of_le last]
    rfl
  · next inside =>
    obtain ⟨more, rest⟩ : ∃ more, most - depth = more + 1 := ⟨most - depth - 1, by omega⟩
    have below : most - (depth + 1) = more := by omega
    rw [rest, steps]
    simp only [below]
    omega

/-- Puts an outline together. On the stack are the nodes that are not finished, each above the one
that it belongs to: the node on top gets its next child, or it is finished and goes to the node
below it. -/
def build (h : Hierarchy) (most : Nat) : List Unfinished → Option Outline
  | [] => none
  | ⟨f, depth, done, next :: pending⟩ :: outer =>
    build h most (.start h most (depth + 1) next :: ⟨f, depth, done, pending⟩ :: outer)
  | [⟨f, depth, done, []⟩] => some (Unfinished.close h ⟨f, depth, done, []⟩)
  | ⟨f, depth, done, []⟩ :: u :: outer =>
    build h most (u.attach (Unfinished.close h ⟨f, depth, done, []⟩) :: outer)
termination_by stack => total (Unfinished.stepsLeft h most) stack
decreasing_by
  · have begun := Unfinished.stepsLeft_start h most (depth + 1) next
    simp only [total, Unfinished.stepsLeft] at begun ⊢
    omega
  · simp only [total, Unfinished.stepsLeft, Unfinished.attach]
    omega

/-- The outline of a folder, down to a depth. -/
def ofFolder? (h : Hierarchy) (f : Folder) (most : Nat) : Option Outline :=
  build h most [.start h most 0 f]

/-! ## Counting -/

mutual

/-- The nodes of an outline, each before those below it. -/
def nodes : Outline → List Outline
  | ⟨id, name, depth, childCount, children⟩ =>
    ⟨id, name, depth, childCount, children⟩ :: nodesOf children

def nodesOf : List Outline → List Outline
  | [] => []
  | o :: os => o.nodes ++ nodesOf os

end

theorem nodes_eq (o : Outline) : o.nodes = o :: nodesOf o.children := by
  cases o
  rw [nodes]

theorem nodesOf_eq_flatMap (os : List Outline) : nodesOf os = os.flatMap nodes := by
  induction os with
  | nil => rfl
  | cons o os ih => rw [nodesOf, ih, List.flatMap_cons]

theorem length_nodesOf_push (o : Outline) (stack : List Outline) :
    (nodesOf (o :: stack)).length = 1 + (nodesOf (o.children.reverse ++ stack)).length := by
  have turned := (List.reverse_perm o.children).flatMap_right nodes
  simp only [nodesOf_eq_flatMap, List.flatMap_cons, List.flatMap_append, List.length_append,
    turned.length_eq, nodes_eq o, List.length_cons]
  omega

/-- Counts the nodes of the outlines on a stack. A node that is counted gives way to its children,
of which the last is on top. -/
def countNodes (counted : Nat) : List Outline → Nat
  | [] => counted
  | o :: stack => countNodes (counted + 1) (o.children.reverse ++ stack)
termination_by stack => (nodesOf stack).length
decreasing_by
  simp only [List.unattach_reverse, List.unattach_attach, length_nodesOf_push]
  omega

def size (o : Outline) : Nat := countNodes 0 [o]

end Outline

/-- The outline of a folder that has to exist; deeper than the limit none is given. -/
def Hierarchy.outline (h : Hierarchy) (limits : DepthLimits) (id : FolderId)
    (depth : Option Nat) : Except Fault Outline := do
  let most := depth.getD limits.standard
  if limits.most < most then .error (.treeTooDeep limits.most)
  else
    let f ← h.require id
    match Outline.ofFolder? h f most with
    | some o => .ok o
    | none => .error (.plain .internal "Folder tree construction produced no root")

end Perimeter
