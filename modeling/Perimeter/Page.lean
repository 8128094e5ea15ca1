import Perimeter.Fault
import Perimeter.Width

/-!
# Pages

Long lists are handed out page by page. Page numbers and sizes are 64-bit; the position of a
page saturates instead of wrapping.
-/

namespace Perimeter

/-- Which page of a list is wanted, counted from 1, and how many items it holds. -/
structure PageRequest where
  page : Nat
  size : Nat
deriving DecidableEq

/-- One page of a list, with its place in the whole. -/
structure Page (α : Type) where
  items : List α
  page : Nat
  size : Nat
  totalItems : Nat
  totalPages : Nat
  hasNext : Bool
  hasPrevious : Bool

namespace PageRequest

def defaultSize : Nat := 25

def maxSize : Nat := 100

def first : PageRequest := ⟨1, defaultSize⟩

/-- A request with its numbers brought into range: pages from 1, sizes from 1 to 100. -/
def clamped (page size : Nat) : PageRequest := ⟨max page 1, min (max size 1) maxSize⟩

/-- How many items come before the page. -/
def offset (r : PageRequest) : Nat := min ((r.page - 1) * r.size) maxWord64

def limit (r : PageRequest) : Nat := r.size

end PageRequest

namespace Page

/-- The number of pages of a list: at least one, and none where pages hold nothing. -/
def count? (total size : Nat) : Option Nat :=
  if total = 0 then some 1
  else if size = 0 then none
  else some ((total + size - 1) / size)

/-- A page of the given items of a list of `total`; `none` where pages hold nothing. -/
def make? {α : Type} (items : List α) (r : PageRequest) (total : Nat) : Option (Page α) :=
  (count? total r.size).map fun pages =>
    { items, page := r.page, size := r.size, totalItems := total, totalPages := pages,
      hasNext := decide (r.page < pages), hasPrevious := decide (1 < r.page) }

def ofList? {α : Type} (all : List α) (r : PageRequest) : Option (Page α) :=
  make? ((all.drop r.offset).take r.limit) r all.length

end Page

end Perimeter
