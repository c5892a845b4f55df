import Mathlib
import LoadHarness.Sorting

/-!
# Stable merges by a key

The sort places items by a key in a linear order, and keeps items of equal keys in the order
they were given: `byKey key` is that order as the library's `List.merge` and `List.mergeSort`
take it.  This module gathers the facts about those two functions that the run-by-run sort
needs, stated for lists:

* a stretch at the front of one side that belongs before the other side's head leaves a merge
  unchanged behind it (`merge_prefix_left`, `merge_prefix_right`), and a stretch at the back
  that belongs after all of the other side stays behind the merge (`merge_suffix_left`,
  `merge_suffix_right`): these are the steps a galloping merge takes;
* merging the sorted forms of two adjacent pieces of a list gives the sorted form of the
  whole (`merge_mergeSort_append`), since a stable sort is unique;
* a run that is already in order, or strictly descending, has its own sorted form or that of
  its reverse (`mergeSort_of_descending`).
-/

namespace LoadHarness

namespace Sorting

variable {α β : Type} [LinearOrder β]

/-- The order a stable sort by `key` leaves items in: `a` stays before `b` unless `b` has the
smaller key. -/
def byKey (key : α → β) (a b : α) : Bool := decide (key a ≤ key b)

variable {key : α → β}

@[simp] theorem byKey_eq_true {a b : α} : byKey key a b = true ↔ key a ≤ key b := by
  simp [byKey]

@[simp] theorem byKey_eq_false {a b : α} : byKey key a b = false ↔ key b < key a := by
  simp [byKey]

theorem byKey_trans (a b c : α) (first : byKey key a b = true) (second : byKey key b c = true) :
    byKey key a c = true := by
  simp only [byKey_eq_true] at *
  exact le_trans first second

theorem byKey_total (a b : α) : (byKey key a b || byKey key b a) = true := by
  simp only [Bool.or_eq_true, byKey_eq_true]
  exact le_total _ _

/-- A list sorted by key, as a relation on its items. -/
theorem pairwise_byKey_iff {items : List α} :
    items.Pairwise (fun a b => byKey key a b = true) ↔ items.Pairwise (fun a b => key a ≤ key b) := by
  simp

/-- The sorted form of a list is sorted by key. -/
theorem pairwise_mergeSort_byKey (items : List α) :
    (items.mergeSort (byKey key)).Pairwise (fun a b => key a ≤ key b) :=
  pairwise_byKey_iff.1 (List.pairwise_mergeSort byKey_trans byKey_total items)

/-! ### Stretches a merge passes over -/

/-- Items at the front of the left side that the right side's head does not undercut come out
first. -/
theorem merge_prefix_left {front xs ys : List α} {y : α} (before : ∀ a ∈ front, key a ≤ key y) :
    List.merge (front ++ xs) (y :: ys) (byKey key) = front ++ List.merge xs (y :: ys) (byKey key) := by
  induction front with
  | nil => rfl
  | cons a front ih =>
      rw [List.forall_mem_cons] at before
      rw [List.cons_append, List.cons_merge_cons_pos _ _ _ (byKey_eq_true.2 before.1), ih before.2]
      rfl

/-- Items at the front of the right side with smaller keys than the left side's head come out
first. -/
theorem merge_prefix_right {front xs ys : List α} {x : α} (before : ∀ b ∈ front, key b < key x) :
    List.merge (x :: xs) (front ++ ys) (byKey key) = front ++ List.merge (x :: xs) ys (byKey key) := by
  induction front with
  | nil => rfl
  | cons b front ih =>
      rw [List.forall_mem_cons] at before
      have undercut : ¬byKey key x b = true := by simpa using before.1
      rw [List.cons_append, List.cons_merge_cons_neg _ _ _ undercut, ih before.2]
      rfl

/-- A left side whose every item is larger than the whole right side follows it. -/
theorem merge_of_lt {xs ys : List α} (after : ∀ b ∈ ys, ∀ a ∈ xs, key b < key a) :
    List.merge xs ys (byKey key) = ys ++ xs := by
  cases xs with
  | nil => simp
  | cons x xs =>
      have merged : List.merge (x :: xs) (ys ++ []) (byKey key) = ys ++ List.merge (x :: xs) [] (byKey key) :=
        merge_prefix_right fun b member => after b member x (by simp)
      simpa using merged

/-- A stretch at the back of the left side, above every item of the right side, stays at the
back. -/
theorem merge_suffix_left {back : List α} (after : ∀ b ∈ ys, ∀ s ∈ back, key b < key s) :
    ∀ xs : List α, List.merge (xs ++ back) ys (byKey key) = List.merge xs ys (byKey key) ++ back := by
  induction ys with
  | nil => simp
  | cons y ys ihY =>
      intro xs
      induction xs with
      | nil => simpa using merge_of_lt after
      | cons x xs ihX =>
          have afterTail : ∀ b ∈ ys, ∀ s ∈ back, key b < key s := fun b member =>
            after b (List.mem_cons_of_mem _ member)
          rw [List.cons_append, List.cons_merge_cons, List.cons_merge_cons]
          -- the heads decide the same way with or without the stretch behind
          split
          · rw [ihX]
            rfl
          · rw [← List.cons_append, ihY afterTail]
            rfl

/-- A stretch at the back of the right side, not below any item of the left side, stays at the
back. -/
theorem merge_suffix_right {back : List α} (after : ∀ a ∈ xs, ∀ s ∈ back, key a ≤ key s) :
    ∀ ys : List α, List.merge xs (ys ++ back) (byKey key) = List.merge xs ys (byKey key) ++ back := by
  induction xs with
  | nil => simp
  | cons x xs ihX =>
      intro ys
      induction ys with
      | nil =>
          have appended : List.merge (x :: xs) back (byKey key) = x :: xs ++ back :=
            List.merge_of_le fun a s memberA memberS => byKey_eq_true.2 (after a memberA s memberS)
          simpa using appended
      | cons y ys ihY =>
          have afterTail : ∀ a ∈ xs, ∀ s ∈ back, key a ≤ key s := fun a member =>
            after a (List.mem_cons_of_mem _ member)
          rw [List.cons_append, List.cons_merge_cons, List.cons_merge_cons]
          split
          · rw [← List.cons_append, ihX afterTail]
            rfl
          · rw [ihY]
            rfl

/-- A sorted list with one item inserted after all items not above it is their merge. -/
theorem merge_singleton_of_split {sorted : List α} {x : α} (place : Nat)
    (below : ∀ a ∈ sorted.take place, key a ≤ key x) (above : ∀ a ∈ sorted.drop place, key x < key a) :
    List.merge sorted [x] (byKey key) = sorted.take place ++ x :: sorted.drop place := by
  conv_lhs => rw [← List.take_append_drop place sorted]
  rw [merge_prefix_left below]
  congr 1
  have merged : List.merge (sorted.drop place) [x] (byKey key) = [x] ++ sorted.drop place :=
    merge_of_lt (by simpa using above)
  simpa using merged

/-! ### Sorted forms of pieces -/

/-- Sorting by key and position orders the items of a numbered list strictly, so the sorted
form of a numbered list is the only sorted permutation of it. -/
theorem eq_mergeSort_zipIdx {tagged sorted : List (α × Nat)} (distinct : (tagged.map Prod.snd).Nodup)
    (pairwise : sorted.Pairwise (fun a b => List.zipIdxLE (byKey key) a b = true))
    (perm : sorted.Perm tagged) :
    sorted = tagged.mergeSort (List.zipIdxLE (byKey key)) := by
  have sortedForm := List.mergeSort_perm tagged (List.zipIdxLE (byKey key))
  apply List.Perm.eq_of_pairwise _ pairwise
    (List.pairwise_mergeSort (List.zipIdxLE_trans byKey_trans) (List.zipIdxLE_total byKey_total) _)
    (perm.trans sortedForm.symm)
  -- two numbered items that each come first in the order have the same number, hence are one
  intro a b memberA memberB first second
  have memberA' : a ∈ tagged := perm.subset memberA
  have memberB' : b ∈ tagged := sortedForm.subset memberB
  have sameNumber : a.2 = b.2 := by
    simp only [List.zipIdxLE] at first second
    split at first <;> split at second <;> simp_all
    omega
  exact List.inj_on_of_nodup_map distinct memberA' memberB' sameNumber

/-- Numbering a list from any position and sorting by key and number sorts the list itself. -/
theorem mergeSort_zipIdx_from (start : Nat) (items : List α) :
    ((items.zipIdx start).mergeSort (List.zipIdxLE (byKey key))).map Prod.fst =
      items.mergeSort (byKey key) := by
  rw [List.zipIdx_eq_map_add, ← List.map_mergeSort (r := List.zipIdxLE (byKey key)), List.map_map]
  · have unshifted : (Prod.fst ∘ fun p : α × Nat => (p.1, start + p.2)) = Prod.fst := rfl
    rw [unshifted, List.mergeSort_zipIdx]
  · -- shifting every number by `start` keeps the order of numbered items
    rintro ⟨a, i⟩ - ⟨b, j⟩ -
    simp [List.zipIdxLE]

/-- The sorted form of a list is the merge of the sorted forms of any two pieces it is cut
into. -/
theorem merge_mergeSort_append (front back : List α) :
    List.merge (front.mergeSort (byKey key)) (back.mergeSort (byKey key)) (byKey key) =
      (front ++ back).mergeSort (byKey key) := by
  let order := List.zipIdxLE (byKey key)
  let left := (front.zipIdx).mergeSort order
  let right := (back.zipIdx front.length).mergeSort order
  -- numbered, the two sorted pieces merge into the sorted numbered whole
  have numbered : List.merge left right order = (front ++ back).zipIdx.mergeSort order := by
    rw [List.zipIdx_append, Nat.zero_add]
    apply eq_mergeSort_zipIdx
    · rw [← Nat.zero_add front.length, ← List.zipIdx_append, List.zipIdx_map_snd]
      exact List.nodup_range'
    · exact List.pairwise_merge (List.zipIdxLE_trans byKey_trans) (List.zipIdxLE_total byKey_total) _ _
        (List.pairwise_mergeSort (List.zipIdxLE_trans byKey_trans) (List.zipIdxLE_total byKey_total) _)
        (List.pairwise_mergeSort (List.zipIdxLE_trans byKey_trans) (List.zipIdxLE_total byKey_total) _)
    · exact (List.merge_perm_append _).trans
        ((List.mergeSort_perm _ _).append (List.mergeSort_perm _ _))
  -- every number of the front is below every number of the back
  have ordered : ∀ a b, a ∈ left → b ∈ right → a.2 ≤ b.2 := by
    intro a b memberA memberB
    have inFront := List.snd_lt_add_of_mem_zipIdx ((List.mergeSort_perm _ _).subset memberA)
    have inBack := List.le_snd_of_mem_zipIdx ((List.mergeSort_perm _ _).subset memberB)
    omega
  have unnumbered := congrArg (List.map Prod.fst) numbered
  rw [List.merge_stable left right ordered, List.mergeSort_zipIdx, mergeSort_zipIdx_from,
    List.mergeSort_zipIdx] at unnumbered
  exact unnumbered

/-- Adding one item to a list inserts it into the sorted form after all items not above it. -/
theorem mergeSort_append_singleton (items : List α) (x : α) :
    (items ++ [x]).mergeSort (byKey key) = List.merge (items.mergeSort (byKey key)) [x] (byKey key) := by
  rw [← merge_mergeSort_append, List.mergeSort_singleton]

/-- Items of a strictly descending list have pairwise different keys. -/
theorem key_injective_of_descending {run : List α} (descending : run.Pairwise (fun a b => key b < key a)) :
    ∀ a ∈ run, ∀ b ∈ run, key a = key b → a = b := by
  induction run with
  | nil => simp
  | cons c run ih =>
      rw [List.pairwise_cons] at descending
      intro a memberA b memberB same
      rcases List.mem_cons.1 memberA with rfl | inA <;> rcases List.mem_cons.1 memberB with rfl | inB
      · rfl
      · exact absurd same (descending.1 b inB).ne'
      · exact absurd same (descending.1 a inA).ne
      · exact ih descending.2 a inA b inB same

/-- A strictly descending run sorts to its reverse. -/
theorem mergeSort_of_descending {run : List α} (descending : run.Pairwise (fun a b => key b < key a)) :
    run.mergeSort (byKey key) = run.reverse := by
  refine @List.Perm.eq_of_pairwise _ (fun a b => byKey key a b = true) _ _ ?_ ?_ ?_ ?_
  · intro a b memberA memberB first second
    rw [List.mem_mergeSort] at memberA
    rw [List.mem_reverse] at memberB
    simp only [byKey_eq_true] at first second
    exact key_injective_of_descending descending a memberA b memberB (le_antisymm first second)
  · exact List.pairwise_mergeSort byKey_trans byKey_total run
  · rw [List.pairwise_reverse]
    exact descending.imp fun less => byKey_eq_true.2 less.le
  · exact (List.mergeSort_perm _ _).trans (List.reverse_perm _).symm

/-- Two orders of a list in which no two different items share a key sort alike. -/
theorem mergeSort_eq_of_perm {items items' : List α}
    (distinct : ∀ a ∈ items, ∀ b ∈ items, key a = key b → a = b) (reordered : items.Perm items') :
    items.mergeSort (byKey key) = items'.mergeSort (byKey key) := by
  refine @List.Perm.eq_of_pairwise _ (fun a b => byKey key a b = true) _ _ ?_ ?_ ?_ ?_
  · intro a b memberA memberB first second
    rw [List.mem_mergeSort] at memberA memberB
    simp only [byKey_eq_true] at first second
    exact distinct a memberA b (reordered.symm.subset memberB) (le_antisymm first second)
  · exact List.pairwise_mergeSort byKey_trans byKey_total items
  · exact List.pairwise_mergeSort byKey_trans byKey_total items'
  · exact (List.mergeSort_perm _ _).trans (reordered.trans (List.mergeSort_perm _ _).symm)

end Sorting

end LoadHarness
