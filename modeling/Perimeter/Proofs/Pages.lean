import Perimeter.Proofs.Outlines
import Perimeter.Web.Target

/-!
# Pages

The pages of a list are its pieces of one length, of which the last may be shorter. How many there
are is the least number that holds all items (`Page.exists_count`), and from that follow which pages
are full, which of them have another one after them, and that the pieces put together are the list
(`Pagination`). A position that saturates lies past the end of every list that there is room for
(`Page.drop_offset`), so no number is cut off. In particular whoever walks through the listing of
all folders page by page meets every folder once, in listing order.
-/

namespace Perimeter

/-! ## The page of a list -/

/-- No step on the way to a page leaves the numbers of 64 bits: one can be taken from the number of
the page, nothing is divided by zero, and the number of pages is a quotient with at most one added
to it. -/
structure PageRequest.InWords (r : PageRequest) (total pages : Nat) : Prop where
  page : 1 ≤ r.page ∧ r.page ≤ maxWord64
  size : 1 ≤ r.size ∧ r.size ≤ maxWord64
  offset : r.offset ≤ maxWord64
  counts : total ≤ maxWord64 ∧ pages ≤ maxWord64
  quotient : total ≠ 0 → pages = total / r.size + if total % r.size = 0 then 0 else 1

namespace Page

variable {α : Type} {all : List α} {total s : Nat}

/-- The items of the pages one after another, from the first page to the last. -/
def walk (pages : Nat → Page α) : List α :=
  (List.range (pages 1).totalPages).flatMap fun i => (pages (i + 1)).items

/-- The number of pages is the least one, from one on, whose pages have room for all items. -/
theorem exists_count (total : Nat) (positive : 0 < s) :
    ∃ pages, count? total s = some pages ∧ (∀ n, pages ≤ n ↔ 1 ≤ n ∧ total ≤ n * s) ∧
      (total ≠ 0 → pages = total / s + if total % s = 0 then 0 else 1) := by
  by_cases empty : total = 0
  · subst empty
    exact ⟨1, rfl, by simp, by simp⟩
  · refine ⟨(total + s - 1) / s, ?_, ?_, fun _ => ?_⟩
    · rw [count?, if_neg empty, if_neg (by omega)]
    · intro n
      rw [Nat.div_le_iff_le_mul_add_pred positive, Nat.mul_comm s n]
      cases n with
      | zero => omega
      | succ n => omega
    · have parts := Nat.div_add_mod total s
      have less := Nat.mod_lt total positive
      rw [Nat.mul_comm] at parts
      by_cases exact : total % s = 0
      · rw [if_pos exact, Nat.add_zero]
        apply Nat.div_eq_of_lt_le
        · omega
        · rw [Nat.succ_mul]
          omega
      · rw [if_neg exact]
        apply Nat.div_eq_of_lt_le
        · rw [Nat.succ_mul]
          omega
        · rw [Nat.succ_mul, Nat.succ_mul]
          omega

/-- A position that saturates lies past the end of the list, as the true one does. -/
theorem drop_offset (room : all.length ≤ maxWord64) (r : PageRequest) :
    all.drop r.offset = all.drop ((r.page - 1) * r.size) := by
  by_cases inside : (r.page - 1) * r.size ≤ maxWord64
  · rw [PageRequest.offset, Nat.min_eq_left inside]
  · have past : all.length ≤ (r.page - 1) * r.size := by omega
    rw [PageRequest.offset, Nat.min_eq_right (by omega), List.drop_of_length_le room,
      List.drop_of_length_le past]

/-- The first pages put together are as much of the list as they have room for. -/
theorem flatMap_pieces (all : List α) (s n : Nat) :
    (List.range n).flatMap (fun i => (all.drop (i * s)).take s) = all.take (n * s) := by
  induction n with
  | zero => simp
  | succ n ih =>
    rw [List.range_succ, List.flatMap_append, ih, Nat.succ_mul, List.take_add]
    simp

end Page

/-- The pages of a list, by their numbers, with `s` items on each but the last. -/
structure Pagination {α : Type} (all : List α) (s : Nat) (pages : Nat → Page α) : Prop where
  /-- The page before the first is the first. -/
  numbered : ∀ n, (pages n).page = max n 1 ∧ (pages n).size = s
  totals : ∀ n, (pages n).totalItems = all.length ∧ (pages n).totalPages = (pages 1).totalPages
  items : ∀ n i, (pages n).items[i]? = if i < s then all[(max n 1 - 1) * s + i]? else none
  whole : Page.walk pages = all
  full : ∀ n, max n 1 < (pages n).totalPages → (pages n).items.length = s
  next : ∀ n, (pages n).hasNext = true ↔
    ∃ m, max n 1 < m ∧ m ≤ maxWord64 ∧ (pages m).items ≠ []

namespace Page

variable {α : Type} {all : List α} {total s : Nat}

/-- The page of a number, cut from a list whose number of pages is known. -/
def piece (all : List α) (s total n : Nat) : Page α where
  items := (all.drop ((max n 1 - 1) * s)).take s
  page := max n 1
  size := s
  totalItems := all.length
  totalPages := total
  hasNext := decide (max n 1 < total)
  hasPrevious := decide (1 < max n 1)

/-- There are no more pages than items, but for the one page of an empty list. -/
theorem count_le (positive : 0 < s) (least : ∀ n, total ≤ n ↔ 1 ≤ n ∧ all.length ≤ n * s) :
    total ≤ max all.length 1 := by
  rw [least]
  refine ⟨Nat.le_max_right _ _, ?_⟩
  calc all.length ≤ max all.length 1 := Nat.le_max_left _ _
    _ ≤ max all.length 1 * s := Nat.le_mul_of_pos_right _ positive

/-- A page holds something exactly if the items before it are not all. -/
theorem items_piece_ne_nil (positive : 0 < s) (n : Nat) :
    (piece all s total n).items ≠ [] ↔ (max n 1 - 1) * s < all.length := by
  rw [← List.length_pos_iff]
  simp only [piece, List.length_take, List.length_drop]
  omega

theorem walk_piece (enough : all.length ≤ total * s) : walk (piece all s total) = all := by
  have pieces : walk (piece all s total) =
      (List.range total).flatMap fun i => (all.drop (i * s)).take s := by
    unfold walk piece
    dsimp only
    congr 1
    funext i
    rw [show max (i + 1) 1 - 1 = i by omega]
  rw [pieces, flatMap_pieces, List.take_of_length_le enough]

theorem pagination_piece (positive : 0 < s) (room : all.length ≤ maxWord64)
    (least : ∀ n, total ≤ n ↔ 1 ≤ n ∧ all.length ≤ n * s) :
    Pagination all s (piece all s total) := by
  have some : 1 ≤ total := ((least total).mp (Nat.le_refl total)).1
  have enough : all.length ≤ total * s := ((least total).mp (Nat.le_refl total)).2
  have few := count_le positive least
  -- a page is followed by another exactly if the items go on after it
  have more : ∀ n, 1 ≤ n → (n < total ↔ n * s < all.length) := by
    intro n first
    have := least n
    omega
  refine ⟨fun _ => ⟨rfl, rfl⟩, fun _ => ⟨rfl, rfl⟩, ?_, walk_piece enough, ?_, ?_⟩
  · intro n i
    simp only [piece, List.getElem?_take, List.getElem?_drop]
  · intro n before
    have beyond := (more (max n 1) (Nat.le_max_right n 1)).mp before
    have split : max n 1 * s = (max n 1 - 1) * s + s := by
      rw [← Nat.succ_mul]
      congr 1
      omega
    simp only [piece, List.length_take, List.length_drop]
    omega
  · intro n
    simp only [items_piece_ne_nil positive]
    rw [piece, decide_eq_true_iff, more _ (Nat.le_max_right n 1)]
    constructor
    · intro beyond
      have before := (more (max n 1) (Nat.le_max_right n 1)).mpr beyond
      refine ⟨max n 1 + 1, Nat.lt_succ_self _, by omega, ?_⟩
      rw [show max (max n 1 + 1) 1 - 1 = max n 1 by omega]
      exact beyond
    · rintro ⟨m, later, _, inside⟩
      calc max n 1 * s ≤ (max m 1 - 1) * s := Nat.mul_le_mul_right s (by omega)
        _ < all.length := inside

theorem ofList?_clamped (room : all.length ≤ maxWord64) (size n : Nat) {total : Nat}
    (counted : count? all.length (min (max size 1) PageRequest.maxSize) = some total) :
    ofList? all (.clamped n size) =
      some (piece all (min (max size 1) PageRequest.maxSize) total n) := by
  unfold ofList? make?
  rw [drop_offset room]
  simp only [PageRequest.clamped, counted, Option.map_some]
  rfl

/-- The pages of a list that there is room for, of whatever size they are asked. -/
theorem exists_pagination (all : List α) (room : all.length ≤ maxWord64) (size : Nat) :
    ∃ pages : Nat → Page α, (∀ n, ofList? all (.clamped n size) = some (pages n)) ∧
      Pagination all (min (max size 1) PageRequest.maxSize) pages ∧
      ∀ n ≤ maxWord64, (PageRequest.clamped n size).InWords all.length (pages n).totalPages := by
  have positive : 0 < min (max size 1) PageRequest.maxSize := by
    have : 0 < PageRequest.maxSize := by decide
    omega
  obtain ⟨total, counted, least, quotient⟩ := exists_count all.length positive
  refine ⟨piece all _ total, fun n => ofList?_clamped room size n counted,
    pagination_piece positive room least, fun n word => ?_⟩
  have one : 1 ≤ maxWord64 := by decide
  have most : PageRequest.maxSize ≤ maxWord64 := by decide
  have few := count_le positive least
  refine ⟨⟨Nat.le_max_right n 1, ?_⟩, ⟨positive, ?_⟩, Nat.min_le_right _ _, ⟨room, ?_⟩, quotient⟩
  · exact Nat.max_le.mpr ⟨word, one⟩
  · exact Nat.le_trans (Nat.min_le_right _ _) most
  · exact Nat.le_trans few (Nat.max_le.mpr ⟨room, one⟩)

end Page

/-! ## Requests over the web -/

theorem Web.Query.le_of_nat? {most n : Nat} {s : String} (read : nat? most s = some n) :
    n ≤ most := by
  unfold nat? at read
  dsimp only at read
  split_ifs at read with bad within
  cases read
  exact within

/-- A page that is asked for over the web is asked for with numbers of 64 bits, and these are
brought into range. -/
theorem Web.Query.clamped_of_page? {q : Web.Query} {r : PageRequest} (read : q.page? = some r) :
    ∃ n ≤ maxWord64, ∃ size ≤ maxWord64, r = .clamped n size := by
  have within : ∀ (name : String) (given : Option Nat) (standard : Nat), standard ≤ maxWord64 →
      q.optional? name (nat? maxWord64) = some given → given.getD standard ≤ maxWord64 := by
    intro name given standard small found
    unfold optional? at found
    split at found
    · cases found
      exact small
    · obtain ⟨n, value, rfl⟩ := Option.map_eq_some_iff.mp found
      exact le_of_nat? value
    · cases found
  obtain ⟨page, pageFound, rest⟩ := Option.bind_eq_some_iff.mp read
  obtain ⟨size, sizeFound, same⟩ := Option.bind_eq_some_iff.mp rest
  cases same
  exact ⟨_, within _ _ _ (by decide) pageFound, _, within _ _ _ (by decide) sizeFound, rfl⟩

/-! ## The listing of all folders -/

/-- The listing is as long as the index is large. -/
theorem Hierarchy.length_sorted (h : Hierarchy) : h.sorted.length = h.size := by
  rw [sorted, (Folder.sortByName_perm _).length_eq, length_values, size]

namespace Hierarchy.IsTree

variable {h : Hierarchy}

theorem mem_sorted (tree : h.IsTree) {f : Folder} : f ∈ h.sorted ↔ h.get? f.id = some f := by
  rw [sorted, (Folder.sortByName_perm _).mem_iff, tree.mem_values]

theorem apart_values (tree : h.IsTree) : Apart Folder.compareByName h.rows.values := by
  intro f hf g hg level
  have row := tree.mem_values.mp hf
  rw [eq_of_then_compare level] at row
  exact Option.some.inj (row.symm.trans (tree.mem_values.mp hg))

/-- No two folders stand at the same place in the order of listings. -/
theorem pairwise_sorted (tree : h.IsTree) :
    h.sorted.Pairwise fun f g => Folder.compareByName f g = .lt :=
  (enumerates_sortBy tree.apart_values tree.nodup_values fun _ => Iff.rfl).ascending

theorem nodup_ids_sorted (tree : h.IsTree) : (h.sorted.map Folder.id).Nodup := by
  rw [List.Nodup, List.pairwise_map]
  apply tree.pairwise_sorted.imp_of_mem
  intro f g hf hg lt ids
  have row := tree.mem_sorted.mp hf
  rw [ids, tree.mem_sorted.mp hg] at row
  obtain rfl := Option.some.inj row
  exact absurd (Std.ReflCmp.compare_self.symm.trans lt) (by decide)

end Hierarchy.IsTree

/-- A list goes through the rows of a hierarchy: every folder is in it once, and they are ordered by
name, those of one name by id. -/
structure Hierarchy.Listing (h : Hierarchy) (fs : List Folder) : Prop where
  ordered : fs.Pairwise fun f g => Folder.compareByName f g = .lt
  once : (fs.map Folder.id).Nodup
  all : ∀ f, f ∈ fs ↔ h.get? f.id = some f

theorem Hierarchy.IsTree.listing {h : Hierarchy} (tree : h.IsTree) : h.Listing h.sorted where
  ordered := tree.pairwise_sorted
  once := tree.nodup_ids_sorted
  all _ := tree.mem_sorted

namespace System

/-- The pages of a list are its pieces, whatever the numbers of 64 bits they are asked with, and the
web asks with no others. The folders of a state of a run from a boot are such a list, so a walk
through its pages goes through the folders. -/
theorem pages_partition_lists :
    (∀ (α : Type) (all : List α), all.length ≤ maxWord64 → ∀ size,
      ∃ pages : Nat → Page α, (∀ n, Page.ofList? all (.clamped n size) = some (pages n)) ∧
        Pagination all (min (max size 1) PageRequest.maxSize) pages ∧
        ∀ n ≤ maxWord64,
          (PageRequest.clamped n size).InWords all.length (pages n).totalPages) ∧
      (∀ (q : Web.Query) (asked : PageRequest), q.page? = some asked →
        ∃ n ≤ maxWord64, ∃ size ≤ maxWord64, asked = .clamped n size) ∧
      ∀ (terms : Terms) (storage storage' : Storage) (h : Hierarchy) (r : Registry)
        (events : List Event), bootHierarchy terms.rootName storage = (.ok h, storage') →
        let s := (⟨terms, h, r, storage'⟩ : System).afterAll events
        s.hierarchy.size ≤ maxWord64 → ∀ size, ∃ pages : Nat → Page Folder,
          (∀ n, s.listFolders (.clamped n size) = some (pages n)) ∧
            s.hierarchy.Listing (Page.walk pages) := by
  refine ⟨fun α => Page.exists_pagination, fun q asked => Web.Query.clamped_of_page?, ?_⟩
  intro terms storage storage' h r events booted s room size
  have tree := ((grounded_of_boot booted terms r).1.afterAll events).1.tree
  rw [← s.hierarchy.length_sorted] at room
  obtain ⟨pages, served, paged, _⟩ := Page.exists_pagination s.hierarchy.sorted room size
  refine ⟨pages, served, ?_⟩
  rw [paged.whole]
  exact tree.listing

/-- Seven items on pages of three, a page that a query asks for, and the folders of a started
system. -/
theorem pages_of_seven_and_of_founded :
    (∃ pages : Nat → Page Nat,
      (∀ n, Page.ofList? [1, 2, 3, 4, 5, 6, 7] (.clamped n 3) = some (pages n)) ∧
        Pagination [1, 2, 3, 4, 5, 6, 7] 3 pages ∧ Page.walk pages = [1, 2, 3, 4, 5, 6, 7] ∧
        (pages 2).items = [4, 5, 6] ∧ (pages maxWord64).items = []) ∧
      (Web.Query.page? [("page", "2"), ("per_page", "3")] = some (.clamped 2 3) ∧
        ∃ n ≤ maxWord64, ∃ size ≤ maxWord64, PageRequest.clamped 2 3 = .clamped n size) ∧
      let s := (founded ⟨"Root", ⟨2, 8⟩, .standard⟩ .empty).afterAll
        [.call (.createFolder ⟨"Servers", none, none⟩),
          .call (.createFolder ⟨"Assets", none, none⟩)]
      ∃ pages : Nat → Page Folder, (∀ n, s.listFolders (.clamped n 2) = some (pages n)) ∧
        s.hierarchy.Listing (Page.walk pages) := by
  refine ⟨?_, ?_, ?_⟩
  · obtain ⟨pages, served, paged, _⟩ :=
      pages_partition_lists.1 Nat [1, 2, 3, 4, 5, 6, 7] (by decide) 3
    refine ⟨pages, served, paged, paged.whole, ?_, ?_⟩
    · exact (Option.some.inj (congrArg (Option.map Page.items) (served 2))).symm
    · exact (Option.some.inj (congrArg (Option.map Page.items) (served maxWord64))).symm
  · have read : Web.Query.page? [("page", "2"), ("per_page", "3")] = some (.clamped 2 3) := by
      decide +kernel
    exact ⟨read, pages_partition_lists.2.1 [("page", "2"), ("per_page", "3")] (.clamped 2 3) read⟩
  · have room : ((founded ⟨"Root", ⟨2, 8⟩, .standard⟩ .empty).afterAll
        [.call (.createFolder ⟨"Servers", none, none⟩),
          .call (.createFolder ⟨"Assets", none, none⟩)]).hierarchy.size ≤ maxWord64 := by
      decide +kernel
    exact pages_partition_lists.2.2 ⟨"Root", ⟨2, 8⟩, .standard⟩ .empty _ _
      (founded ⟨"Root", ⟨2, 8⟩, .standard⟩ .empty).registry
      [.call (.createFolder ⟨"Servers", none, none⟩),
        .call (.createFolder ⟨"Assets", none, none⟩)]
      (boot_founded ⟨"Root", ⟨2, 8⟩, .standard⟩ .empty rfl rfl) room 2

end System

end Perimeter
