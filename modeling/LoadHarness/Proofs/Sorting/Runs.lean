import Mathlib
import LoadHarness.Proofs.Sorting
import LoadHarness.Proofs.Sorting.Gallop

/-!
# Runs are the sorted forms of the pieces they are cut from

The sort cuts its list into runs from the front.  A natural run that does not descend is
already in order; one that descends strictly is reversed, which is its sorted form since its
keys are pairwise distinct (`leadingRun_sorted`).  A short run is extended by binary insertion,
and each insertion puts the item after every item whose key is not above its own, which is the
stable merge of the run with that one item (`insertEach_sorted`).  So every run handed to the
merging stage is the stable sort of a piece cut from the front of the list (`nextRun_sorted`).
-/

namespace LoadHarness

namespace Sorting

variable {ε α β : Type} [LinearOrder β] {less : α → α → Except ε Bool} {key : α → β} {pool : α → Prop}

theorem insertIdx_eq_take_drop :
    ∀ (items : List α) (place : Nat) (x : α), place ≤ items.length →
      items.insertIdx place x = items.take place ++ x :: items.drop place
  | items, 0, x, _ => by simp [List.insertIdx_zero]
  | [], _ + 1, _, outside => absurd outside (by simp)
  | a :: items, place + 1, x, inside => by
      rw [List.insertIdx_succ_cons, insertIdx_eq_take_drop items place x (by simpa using inside)]
      rfl

/-! ### Natural runs -/

section Natural

variable (orders : OrdersBy less key pool)
include orders

/-- The items that follow `last` without going below it form a run in order. -/
theorem ascendingPart_sorted :
    ∀ (items : List α) (last : α), pool last → (∀ a ∈ items, pool a) →
      ∃ run rest, ascendingPart less last items = .ok (run, rest) ∧ items = run ++ rest ∧
        (last :: run).Pairwise (fun a b => key a ≤ key b)
  | [], last, _, _ => ⟨[], [], rfl, rfl, List.pairwise_singleton _ _⟩
  | item :: items, last, lastIn, itemsIn => by
      rw [List.forall_mem_cons] at itemsIn
      rw [ascendingPart, orders item itemsIn.1 last lastIn]
      by_cases smaller : key item < key last
      · exact ⟨[], item :: items, by simp [smaller, pure, Except.pure], rfl, List.pairwise_singleton _ _⟩
      · obtain ⟨run, rest, ran, split, sorted⟩ := ascendingPart_sorted items item itemsIn.1 itemsIn.2
        refine ⟨item :: run, rest, by simp [smaller, ran, pure, Except.pure], by rw [split, List.cons_append], ?_⟩
        -- the last item is not above `item`, which is not above the rest of the run
        refine List.Pairwise.cons (fun b member => ?_) sorted
        rcases List.mem_cons.1 member with rfl | later
        · exact not_lt.1 smaller
        · exact le_trans (not_lt.1 smaller) (List.rel_of_pairwise_cons sorted later)

/-- The items that follow `last` each strictly below the one before form a strictly descending
run. -/
theorem descendingPart_sorted :
    ∀ (items : List α) (last : α), pool last → (∀ a ∈ items, pool a) →
      ∃ run rest, descendingPart less last items = .ok (run, rest) ∧ items = run ++ rest ∧
        (last :: run).Pairwise (fun a b => key b < key a)
  | [], last, _, _ => ⟨[], [], rfl, rfl, List.pairwise_singleton _ _⟩
  | item :: items, last, lastIn, itemsIn => by
      rw [List.forall_mem_cons] at itemsIn
      rw [descendingPart, orders item itemsIn.1 last lastIn]
      by_cases smaller : key item < key last
      · obtain ⟨run, rest, ran, split, sorted⟩ := descendingPart_sorted items item itemsIn.1 itemsIn.2
        refine ⟨item :: run, rest, by simp [smaller, ran, pure, Except.pure], by rw [split, List.cons_append], ?_⟩
        refine List.Pairwise.cons (fun b member => ?_) sorted
        rcases List.mem_cons.1 member with rfl | later
        · exact smaller
        · exact lt_trans (List.rel_of_pairwise_cons sorted later) smaller
      · exact ⟨[], item :: items, by simp [smaller, pure, Except.pure], rfl, List.pairwise_singleton _ _⟩

/-- The natural run at the front of a list is the sorted form of the piece it is cut from. -/
theorem leadingRun_sorted (items : List α) (itemsIn : ∀ a ∈ items, pool a) :
    ∃ run rest, leadingRun less items = .ok (run, rest) ∧
      ∃ piece, items = piece ++ rest ∧ run = piece.mergeSort (byKey key) := by
  rcases items with _ | ⟨first, _ | ⟨second, items⟩⟩
  · exact ⟨[], [], rfl, [], rfl, by simp⟩
  · exact ⟨[first], [], rfl, [first], rfl, by simp⟩
  simp only [List.forall_mem_cons] at itemsIn
  obtain ⟨firstIn, secondIn, itemsIn⟩ := itemsIn
  rw [leadingRun, orders second secondIn first firstIn]
  by_cases smaller : key second < key first
  · -- a strictly descending run, reversed
    obtain ⟨run, rest, ran, split, descending⟩ := descendingPart_sorted orders items second secondIn itemsIn
    refine ⟨(first :: second :: run).reverse, rest, by simp [smaller, ran, pure, Except.pure],
      first :: second :: run, by simp [split], ?_⟩
    refine (mergeSort_of_descending (List.Pairwise.cons (fun b member => ?_) descending)).symm
    rcases List.mem_cons.1 member with rfl | later
    · exact smaller
    · exact lt_trans (List.rel_of_pairwise_cons descending later) smaller
  · -- a run in order
    obtain ⟨run, rest, ran, split, ascending⟩ := ascendingPart_sorted orders items second secondIn itemsIn
    refine ⟨first :: second :: run, rest, by simp [smaller, ran, pure, Except.pure],
      first :: second :: run, by simp [split], ?_⟩
    refine (List.mergeSort_of_pairwise (pairwise_byKey_iff.2 (List.Pairwise.cons (fun b member => ?_)
      ascending))).symm
    rcases List.mem_cons.1 member with rfl | later
    · exact not_lt.1 smaller
    · exact le_trans (not_lt.1 smaller) (List.rel_of_pairwise_cons ascending later)

end Natural

/-! ### Runs extended by insertion -/

/-- Inserting items one by one into the sorted form of a piece gives the sorted form of the
piece with the items appended. -/
theorem insertEach_sorted (orders : OrdersBy less key pool) :
    ∀ (settled items : List α), (∀ a ∈ settled, pool a) → (∀ a ∈ items, pool a) →
      insertEach less (settled.mergeSort (byKey key)).toArray items =
        .ok ((settled ++ items).mergeSort (byKey key)).toArray
  | settled, [], _, _ => by simp [insertEach, pure, Except.pure]
  | settled, item :: items, settledIn, itemsIn => by
      rw [List.forall_mem_cons] at itemsIn
      have sortedIn : ∀ a ∈ (settled.mergeSort (byKey key)).toArray, pool a := by
        intro a member
        exact settledIn a (by simpa using member)
      obtain ⟨place, searched, inside, below, above⟩ := insertionPoint_window orders sortedIn
        (by simpa using pairwise_mergeSort_byKey settled) itemsIn.1
      rw [insertEach, searched]
      dsimp only
      simp only [List.size_toArray] at inside below above
      -- the item goes in after every item not above it: that is the merge with the item alone
      have inserted : (settled.mergeSort (byKey key)).toArray.insertIdxIfInBounds place item =
          ((settled ++ [item]).mergeSort (byKey key)).toArray := by
        rw [Array.insertIdxIfInBounds, dif_pos (by simpa using inside)]
        apply Array.toList_inj.1
        rw [Array.toList_insertIdx, List.toList_toArray, List.toList_toArray,
          insertIdx_eq_take_drop _ _ _ inside, mergeSort_append_singleton, merge_singleton_of_split place below above]
      have grownIn : ∀ a ∈ settled ++ [item], pool a := by
        intro a member
        rcases List.mem_append.1 member with old | new
        · exact settledIn a old
        · rw [List.mem_singleton.1 new]
          exact itemsIn.1
      rw [inserted, insertEach_sorted orders (settled ++ [item]) items grownIn itemsIn.2]
      simp

/-- Every run the sort cuts is the sorted form of a piece at the front of what is left. -/
theorem nextRun_sorted (orders : OrdersBy less key pool) (minimum : Nat) (items : List α)
    (itemsIn : ∀ a ∈ items, pool a) :
    ∃ run rest, nextRun less minimum items = .ok (run, rest) ∧
      ∃ piece, items = piece ++ rest ∧ run.toList = piece.mergeSort (byKey key) := by
  obtain ⟨natural, after, leading, piece, split, sorted⟩ := leadingRun_sorted orders items itemsIn
  have pieceIn : ∀ a ∈ piece, pool a := fun a member => itemsIn a (by simp [split, member])
  have afterIn : ∀ a ∈ after, pool a := fun a member => itemsIn a (by simp [split, member])
  unfold nextRun
  rw [leading]
  simp only [bind, Except.bind]
  split
  · -- a short run takes the next items in by insertion
    have taken := insertEach_sorted orders piece (after.take (min minimum items.length - natural.length))
      pieceIn (fun a member => afterIn a (List.mem_of_mem_take member))
    rw [← sorted] at taken
    rw [taken]
    refine ⟨_, _, rfl, piece ++ after.take (min minimum items.length - natural.length), ?_, by simp⟩
    rw [split, List.append_assoc, List.take_append_drop]
  · exact ⟨_, _, rfl, piece, split, by simp [sorted]⟩

end Sorting

end LoadHarness
