import Mathlib
import LoadHarness.Proofs.Sorting
import LoadHarness.Proofs.Sorting.Runs
import LoadHarness.Proofs.Sorting.Merging

/-!
# The sort is the stable sort

The runs waiting on the stack are, from the bottom, the sorted forms of consecutive pieces of the
part of the list cut so far (`Stacked`).  Merging two adjacent runs gives the sorted form of the
two pieces joined (`mergeRuns_sorted`), so every merge keeps that invariant, in whatever order
the boundary powers ask for the merges (`collapseAbove_stacked`); cutting the next run pushes
the sorted form of the next piece (`pushRuns_stacked`).  When the list is used up and the stack
collapsed to one run, that run is the sorted form of the whole list (`collapseAll_sorted`).

So whenever `less` compares by a key, the sort returns the library's merge sort by that key
(`sortBy_eq_mergeSort`): sorted, a permutation of its input, and with the items of equal keys
in their input order.
-/

namespace LoadHarness

namespace Sorting

variable {ε α β : Type} [LinearOrder β] {less : α → α → Except ε Bool} {key : α → β} {pool : α → Prop}

/-- A stack of pending runs, top first, holding from the bottom the sorted forms of consecutive
pieces of `done`. -/
inductive Stacked (key : α → β) : List (Pending α) → List α → Prop where
  | nil : Stacked key [] []
  | push {stack : List (Pending α)} {done : List α} (run : Pending α) (piece : List α) :
      Stacked key stack done → run.items.toList = piece.mergeSort (byKey key) →
      Stacked key (run :: stack) (done ++ piece)

/-- The power of a boundary plays no part in what a run holds. -/
theorem Stacked.mark {top : Pending α} {rest : List (Pending α)} {done : List α} (power : Nat)
    (stacked : Stacked key (top :: rest) done) :
    Stacked key ({ top with power := power } :: rest) done := by
  cases stacked with
  | push _ piece below sorted => exact .push _ piece below sorted

variable [Inhabited α]

/-- Merging the sorted forms of two pieces gives the sorted form of the pieces joined. -/
theorem mergeRuns_sorted (orders : OrdersBy less key pool) {lower upper : Array α} {front back : List α}
    (lowerSorted : lower.toList = front.mergeSort (byKey key))
    (upperSorted : upper.toList = back.mergeSort (byKey key))
    (inPool : ∀ a ∈ front ++ back, pool a) (threshold : Nat) :
    ∃ t, mergeRuns less threshold lower upper = .ok (((front ++ back).mergeSort (byKey key)).toArray, t) := by
  have input : MergeInput less key lower upper := by
    refine ⟨orders.mono fun a member => inPool a ?_, ?_, ?_⟩
    · rcases member with inLower | inUpper
      · rw [← Array.mem_toList_iff, lowerSorted, List.mem_mergeSort] at inLower
        exact List.mem_append_left _ inLower
      · rw [← Array.mem_toList_iff, upperSorted, List.mem_mergeSort] at inUpper
        exact List.mem_append_right _ inUpper
    · rw [lowerSorted]
      exact pairwise_mergeSort_byKey front
    · rw [upperSorted]
      exact pairwise_mergeSort_byKey back
  obtain ⟨t, ran⟩ := mergeRuns_eq_merge input threshold
  rw [lowerSorted, upperSorted, merge_mergeSort_append] at ran
  exact ⟨t, ran⟩

/-- Merging the two runs on top leaves one run fewer, holding the same pieces. -/
theorem mergeTop_stacked (orders : OrdersBy less key pool) {upper lower : Pending α}
    {rest : List (Pending α)} (threshold : Nat) {done : List α}
    (stacked : Stacked key (upper :: lower :: rest) done) (doneIn : ∀ a ∈ done, pool a) :
    ∃ merged, mergeTop less ⟨upper :: lower :: rest, threshold⟩ = .ok merged ∧
      Stacked key merged.stack done ∧ merged.stack.length = rest.length + 1 := by
  cases stacked with
  | push _ back below upperSorted =>
      cases below with
      | push _ front base lowerSorted =>
          obtain ⟨t, ran⟩ := mergeRuns_sorted orders lowerSorted upperSorted
            (fun a member => doneIn a (by rw [List.append_assoc]; exact List.mem_append_right _ member)) threshold
          refine ⟨⟨{ lower with items := ((front ++ back).mergeSort (byKey key)).toArray } :: rest, t⟩, ?_, ?_, rfl⟩
          · simp [mergeTop, ran, bind, Except.bind, pure, Except.pure]
          · rw [List.append_assoc]
            exact .push _ _ base (by simp)

/-- Merging on top while the boundaries below ask for it keeps the stack the sorted forms of the
same pieces. -/
theorem collapseAbove_stacked (orders : OrdersBy less key pool) (power : Nat) {done : List α}
    (doneIn : ∀ a ∈ done, pool a) :
    ∀ fuel (state : Merging α), Stacked key state.stack done →
      ∃ collapsed, collapseAbove less power fuel state = .ok collapsed ∧ Stacked key collapsed.stack done
  | 0, state, stacked => ⟨state, rfl, stacked⟩
  | fuel + 1, ⟨stack, threshold⟩, stacked => by
      rcases stack with _ | ⟨upper, _ | ⟨lower, rest⟩⟩
      · exact ⟨_, rfl, stacked⟩
      · exact ⟨_, rfl, stacked⟩
      by_cases larger : lower.power > power
      · obtain ⟨merged, ran, mergedStacked, -⟩ := mergeTop_stacked orders threshold stacked doneIn
        obtain ⟨collapsed, collapsedRan, collapsedStacked⟩ :=
          collapseAbove_stacked orders power doneIn fuel merged mergedStacked
        refine ⟨collapsed, ?_, collapsedStacked⟩
        simp only [collapseAbove, if_pos larger, ran, bind, Except.bind, collapsedRan]
      · exact ⟨_, by simp [collapseAbove, larger, pure, Except.pure], stacked⟩

/-- Cutting the rest of the list into runs, with the merges the boundaries ask for, leaves a stack
of the sorted forms of consecutive pieces of the whole list. -/
theorem pushRuns_stacked (orders : OrdersBy less key pool) (total minimum : Nat) :
    ∀ fuel (state : Merging α) (start : Nat) (done items : List α), Stacked key state.stack done →
      (∀ a ∈ done ++ items, pool a) → items.length ≤ fuel →
      ∃ final, pushRuns less total minimum fuel state start items = .ok final ∧
        Stacked key final.stack (done ++ items)
  | 0, state, start, done, items, stacked, _, short => by
      obtain rfl : items = [] := List.eq_nil_of_length_eq_zero (by omega)
      exact ⟨state, by rw [pushRuns]; rfl, by simpa using stacked⟩
  | fuel + 1, state, start, done, [], stacked, _, _ =>
      ⟨state, by rw [pushRuns]; rfl, by simpa using stacked⟩
  | fuel + 1, ⟨stack, threshold⟩, start, done, item :: items, stacked, inPool, short => by
      have doneIn : ∀ a ∈ done, pool a := fun a member => inPool a (List.mem_append_left _ member)
      obtain ⟨run, rest, ran, piece, split, sorted⟩ :=
        nextRun_sorted orders minimum (item :: items) fun a member => inPool a (List.mem_append_right _ member)
      -- the run is not empty, so the rest is shorter than the fuel left
      have shorter : rest.length ≤ fuel := by
        have positive : 0 < run.size := nextRun_size_pos less minimum (List.cons_ne_nil _ _) ran
        have pieceLength : piece.length = run.size := by
          rw [← Array.length_toList, sorted, List.length_mergeSort]
        have lengths := congrArg List.length split
        simp only [List.length_cons, List.length_append] at lengths short
        omega
      have whole : done ++ item :: items = done ++ piece ++ rest := by
        rw [split, List.append_assoc]
      have grownIn : ∀ a ∈ done ++ piece ++ rest, pool a := by
        rw [← whole]
        exact inPool
      rw [pushRuns.eq_3 _ _ _ _ _ _ _ (List.cons_ne_nil _ _), ran, whole]
      simp only [bind, Except.bind]
      rcases stack with _ | ⟨top, below⟩
      · -- the first run goes on the empty stack
        cases stacked
        exact pushRuns_stacked orders total minimum fuel _ _ _ rest (.push _ piece .nil sorted) grownIn shorter
      · -- the runs below are merged as the new boundary asks, and the run goes on top
        obtain ⟨⟨collapsedStack, collapsedThreshold⟩, collapsedRan, collapsedStacked⟩ :=
          collapseAbove_stacked orders (boundaryPower top.start top.items.size run.size total) doneIn
            (top :: below).length _ stacked
        dsimp only
        rw [collapsedRan]
        rcases collapsedStack with _ | ⟨collapsedTop, collapsedBelow⟩
        · exact pushRuns_stacked orders total minimum fuel _ _ _ rest
            (.push _ piece collapsedStacked sorted) grownIn shorter
        · exact pushRuns_stacked orders total minimum fuel _ _ _ rest
            (.push _ piece (collapsedStacked.mark _) sorted) grownIn shorter

/-- Merging what is left on the stack gives the sorted form of all it holds. -/
theorem collapseAll_sorted (orders : OrdersBy less key pool) :
    ∀ fuel (state : Merging α) (done : List α), Stacked key state.stack done → (∀ a ∈ done, pool a) →
      state.stack.length ≤ fuel → collapseAll less fuel state = .ok (done.mergeSort (byKey key)).toArray
  | 0, ⟨stack, threshold⟩, done, stacked, _, short => by
      obtain rfl : stack = [] := List.eq_nil_of_length_eq_zero (by simpa using short)
      cases stacked
      simp [collapseAll, pure, Except.pure]
  | fuel + 1, ⟨stack, threshold⟩, done, stacked, doneIn, short => by
      rcases stack with _ | ⟨top, _ | ⟨middle, _ | ⟨bottom, rest⟩⟩⟩
      · cases stacked
        simp [collapseAll, pure, Except.pure]
      · cases stacked with
        | push _ piece below sorted =>
            cases below
            simp [collapseAll, ← sorted, pure, Except.pure]
      · -- two runs left: they are merged
        obtain ⟨merged, ran, mergedStacked, mergedLength⟩ := mergeTop_stacked orders threshold stacked doneIn
        rw [collapseAll]
        simp only [ran, bind, Except.bind]
        exact collapseAll_sorted orders fuel merged done mergedStacked doneIn
          (by simp at short mergedLength; omega)
      · simp only [List.length_cons] at short
        by_cases shorter : bottom.items.size < top.items.size
        · -- the bottom two of the three top runs are merged first
          cases stacked with
          | push _ topPiece aboveMiddle topSorted =>
              cases aboveMiddle with
              | push _ middlePiece aboveBottom middleSorted =>
                  cases aboveBottom with
                  | push _ bottomPiece base bottomSorted =>
                      obtain ⟨t, ran⟩ := mergeRuns_sorted orders bottomSorted middleSorted
                        (fun a member => doneIn a (by simp only [List.mem_append] at member ⊢; tauto)) threshold
                      rw [collapseAll]
                      simp only [if_pos shorter, ran, bind, Except.bind]
                      refine collapseAll_sorted orders fuel _ _ ?_ doneIn (by simp; omega)
                      rw [List.append_assoc _ bottomPiece middlePiece]
                      exact .push _ _ (.push _ _ base (by simp)) topSorted
        · obtain ⟨merged, ran, mergedStacked, mergedLength⟩ := mergeTop_stacked orders threshold stacked doneIn
          rw [collapseAll]
          simp only [if_neg shorter, ran, bind, Except.bind]
          exact collapseAll_sorted orders fuel merged done mergedStacked doneIn (by simp at mergedLength ⊢; omega)

/-- When `less` compares by a key without failing, the sort is the stable sort by that key. -/
theorem sortBy_eq_mergeSort (items : List α) (orders : OrdersBy less key (fun a => a ∈ items)) :
    sortBy less items = .ok (items.mergeSort (byKey key)) := by
  unfold sortBy
  by_cases short : items.length < 2
  · -- a list of fewer than two items is its own sorted form
    rw [if_pos short]
    rcases items with _ | ⟨item, _ | ⟨second, rest⟩⟩
    · simp [pure, Except.pure]
    · simp [pure, Except.pure]
    · simp at short
  rw [if_neg short]
  obtain ⟨final, pushed, stacked⟩ := pushRuns_stacked orders items.length (minimumRun items.length)
    items.length ⟨[], gallopWins⟩ 0 [] items .nil (by simp) le_rfl
  rw [List.nil_append] at stacked
  rw [pushed]
  simp only [bind, Except.bind]
  rw [collapseAll_sorted orders _ final items stacked (fun _ member => member) le_rfl]
  simp [pure, Except.pure]

end Sorting

end LoadHarness
