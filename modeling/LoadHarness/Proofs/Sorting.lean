import Mathlib
import LoadHarness.Sorting

/-!
# The sort keeps a nonempty list nonempty

`Sorting.sortBy` of a nonempty list, when every comparison it makes succeeds,
returns a nonempty list (`sortBy_ne_nil`).  A merge only ever adds to the
items it has merged so far (`out` from the front, `back` from the end), so a
merge of two runs that are not both empty is not empty (`mergeRuns_size_pos`);
the first run cut from a nonempty list is not empty, and merging the runs on
the stack never empties it (`collapseAll_size_pos`).

Two items come back in the order they were given unless the second is
smaller than the first (`sortBy_pair`): the sort is stable.
-/

namespace LoadHarness

namespace Sorting

variable {ε α : Type}

theorem bind_eq_ok {β γ : Type} {x : Except ε β} {f : β → Except ε γ} {b : γ}
    (h : (x >>= f) = .ok b) : ∃ a, x = .ok a ∧ f a = .ok b := by
  cases x with
  | error _ => cases h
  | ok a => exact ⟨a, rfl, h⟩

/-! ### The first run of a nonempty list is not empty -/

section Runs

variable (less : α → α → Except ε Bool)

theorem leadingRun_ne_nil :
    ∀ {items run rest : List α}, items ≠ [] → leadingRun less items = .ok (run, rest) → run ≠ []
  | [], _, _, nonempty, _ => absurd rfl nonempty
  | [_], _, _, _, ran => by
      rw [leadingRun] at ran
      obtain ⟨rfl, -⟩ := Prod.mk.inj (Except.ok.inj ran)
      exact List.cons_ne_nil _ _
  | first :: second :: items, run, rest, _, ran => by
      rw [leadingRun] at ran
      -- a descending run is reversed, an ascending one kept: both hold the first two items
      split at ran
      · cases ran
      · split at ran
        · cases ran
        · obtain ⟨rfl, -⟩ := Prod.mk.inj (Except.ok.inj ran)
          simp
      · split at ran
        · cases ran
        · obtain ⟨rfl, -⟩ := Prod.mk.inj (Except.ok.inj ran)
          exact List.cons_ne_nil _ _

/-- Binary insertion only adds items. -/
theorem insertEach_size_ge :
    ∀ (sorted : Array α) (items : List α) {out : Array α},
      insertEach less sorted items = .ok out → sorted.size ≤ out.size
  | sorted, [], out, ran => by
      rw [insertEach] at ran
      obtain rfl := Except.ok.inj ran
      exact le_refl _
  | sorted, item :: rest, out, ran => by
      rw [insertEach] at ran
      split at ran
      · cases ran
      · rename_i place _
        have grown : sorted.size ≤ (sorted.insertIdxIfInBounds place item).size := by
          unfold Array.insertIdxIfInBounds
          split <;> simp
        exact le_trans grown (insertEach_size_ge _ rest ran)

theorem nextRun_size_pos (minimum : Nat) {items rest : List α} {run : Array α}
    (nonempty : items ≠ []) (ran : nextRun less minimum items = .ok (run, rest)) : 0 < run.size := by
  unfold nextRun at ran
  obtain ⟨⟨natural, after⟩, leading, ran⟩ := bind_eq_ok ran
  have positive : 0 < natural.toArray.size := by
    simpa [List.length_pos_iff] using leadingRun_ne_nil less nonempty leading
  dsimp only at ran
  split at ran
  · -- a short natural run is extended by insertion
    obtain ⟨forced, inserted, ran⟩ := bind_eq_ok ran
    obtain ⟨rfl, -⟩ := Prod.mk.inj (Except.ok.inj ran)
    exact lt_of_lt_of_le positive (insertEach_size_ge less _ _ inserted)
  · obtain ⟨rfl, -⟩ := Prod.mk.inj (Except.ok.inj ran)
    exact positive

end Runs

/-! ### Merges only add to what they have merged -/

theorem lowFinish_size_ge (first second out : Array α) (i j : Nat) :
    out.size ≤ (lowFinish first second out i j).size := by
  simp [lowFinish]

theorem lowLast_size_ge (first second out : Array α) (i j : Nat) :
    out.size ≤ (lowLast first second out i j).size := by
  simp [lowLast]

theorem highFinish_size_ge (first second back : Array α) (left1 left2 : Nat) :
    back.size ≤ (highFinish first second back left1 left2).size := by
  simp only [highFinish, Array.size_append, Array.size_reverse]
  omega

theorem highFirst_size_ge (first second back : Array α) (left1 : Nat) :
    back.size ≤ (highFirst first second back left1).size := by
  simp only [highFirst, Array.size_append, Array.size_reverse]
  omega

section Merge

variable [Inhabited α] (less : α → α → Except ε Bool) (first second : Array α)

/-- A merge from the front returns at least the items it was given as merged. -/
theorem low_size_ge :
    ∀ fuel, (∀ out i j threshold firstWins secondWins result,
        lowOne less first second fuel out i j threshold firstWins secondWins = .ok result →
          out.size ≤ result.1.size) ∧
      (∀ out i j threshold result, lowGallop less first second fuel out i j threshold = .ok result →
          out.size ≤ result.1.size) := by
  intro fuel
  induction fuel with
  | zero =>
      refine ⟨fun out i j threshold _ _ result ran => ?_, fun out i j threshold result ran => ?_⟩
      · rw [lowOne] at ran
        obtain rfl := Except.ok.inj ran
        exact lowFinish_size_ge ..
      · rw [lowGallop] at ran
        obtain rfl := Except.ok.inj ran
        exact lowFinish_size_ge ..
  | succ fuel induction =>
      obtain ⟨one, gallop⟩ := induction
      constructor
      · intro out i j threshold firstWins secondWins result ran
        rw [lowOne] at ran
        obtain ⟨smaller, -, ran⟩ := bind_eq_ok ran
        dsimp only at ran
        -- each branch takes one item and finishes or goes on
        split at ran
        · split at ran
          · obtain rfl := Except.ok.inj ran
            exact le_trans (by simp) (lowFinish_size_ge ..)
          · split at ran
            · exact le_trans (by simp) (gallop _ _ _ _ _ ran)
            · exact le_trans (by simp) (one _ _ _ _ _ _ _ ran)
        · split at ran
          · obtain rfl := Except.ok.inj ran
            exact le_trans (by simp) (lowLast_size_ge ..)
          · split at ran
            · exact le_trans (by simp) (gallop _ _ _ _ _ ran)
            · exact le_trans (by simp) (one _ _ _ _ _ _ _ ran)
      · intro out i j threshold result ran
        rw [lowGallop] at ran
        obtain ⟨taken, -, ran⟩ := bind_eq_ok ran
        dsimp only at ran
        -- a stretch of the first run, then an item of the second, a stretch of the second and an
        -- item of the first, finishing after any of them
        split at ran
        · obtain rfl := Except.ok.inj ran
          exact le_trans (by simp) (lowLast_size_ge ..)
        · split at ran
          · obtain rfl := Except.ok.inj ran
            exact le_trans (by simp) (lowFinish_size_ge ..)
          · split at ran
            · obtain rfl := Except.ok.inj ran
              exact le_trans (by simp) (lowFinish_size_ge ..)
            · obtain ⟨given, -, ran⟩ := bind_eq_ok ran
              split at ran
              · obtain rfl := Except.ok.inj ran
                exact le_trans (by simp) (lowFinish_size_ge ..)
              · split at ran
                · obtain rfl := Except.ok.inj ran
                  exact le_trans (by simp) (lowLast_size_ge ..)
                · split at ran
                  · exact le_trans (by simp) (gallop _ _ _ _ _ ran)
                  · exact le_trans (by simp) (one _ _ _ _ _ _ _ ran)

/-- A merge from the back returns at least the items it was given as merged. -/
theorem high_size_ge :
    ∀ fuel, (∀ back left1 left2 threshold firstWins secondWins result,
        highOne less first second fuel back left1 left2 threshold firstWins secondWins = .ok result →
          back.size ≤ result.1.size) ∧
      (∀ back left1 left2 threshold result, highGallop less first second fuel back left1 left2 threshold = .ok result →
          back.size ≤ result.1.size) := by
  intro fuel
  induction fuel with
  | zero =>
      refine ⟨fun back left1 left2 threshold _ _ result ran => ?_, fun back left1 left2 threshold result ran => ?_⟩
      · rw [highOne] at ran
        obtain rfl := Except.ok.inj ran
        exact highFinish_size_ge ..
      · rw [highGallop] at ran
        obtain rfl := Except.ok.inj ran
        exact highFinish_size_ge ..
  | succ fuel induction =>
      obtain ⟨one, gallop⟩ := induction
      constructor
      · intro back left1 left2 threshold firstWins secondWins result ran
        rw [highOne] at ran
        obtain ⟨smaller, -, ran⟩ := bind_eq_ok ran
        dsimp only at ran
        split at ran
        · split at ran
          · obtain rfl := Except.ok.inj ran
            exact le_trans (by simp) (highFinish_size_ge ..)
          · split at ran
            · exact le_trans (by simp) (gallop _ _ _ _ _ ran)
            · exact le_trans (by simp) (one _ _ _ _ _ _ _ ran)
        · split at ran
          · obtain rfl := Except.ok.inj ran
            exact le_trans (by simp) (highFirst_size_ge ..)
          · split at ran
            · exact le_trans (by simp) (gallop _ _ _ _ _ ran)
            · exact le_trans (by simp) (one _ _ _ _ _ _ _ ran)
      · intro back left1 left2 threshold result ran
        rw [highGallop] at ran
        obtain ⟨place, -, ran⟩ := bind_eq_ok ran
        dsimp only at ran
        -- the mirror image of `lowGallop`: stretches and items taken from the ends
        split at ran
        · obtain rfl := Except.ok.inj ran
          exact le_trans (by simp) (highFinish_size_ge ..)
        · split at ran
          · obtain rfl := Except.ok.inj ran
            exact le_trans (by simp) (highFirst_size_ge ..)
          · obtain ⟨place', -, ran⟩ := bind_eq_ok ran
            split at ran
            · obtain rfl := Except.ok.inj ran
              exact le_trans (by simp) (highFirst_size_ge ..)
            · split at ran
              · obtain rfl := Except.ok.inj ran
                exact le_trans (by simp) (highFinish_size_ge ..)
              · split at ran
                · obtain rfl := Except.ok.inj ran
                  exact le_trans (by simp) (highFinish_size_ge ..)
                · split at ran
                  · exact le_trans (by simp) (gallop _ _ _ _ _ ran)
                  · exact le_trans (by simp) (one _ _ _ _ _ _ _ ran)

theorem mergeLow_size_pos (threshold : Nat) {result : Array α × Nat}
    (ran : mergeLow less first second threshold = .ok result) : 0 < result.1.size := by
  unfold mergeLow at ran
  dsimp only at ran
  -- the merged items start with the head of the second run
  split at ran
  · obtain rfl := Except.ok.inj ran
    exact lt_of_lt_of_le (by simp) (lowFinish_size_ge ..)
  · split at ran
    · obtain rfl := Except.ok.inj ran
      exact lt_of_lt_of_le (by simp) (lowLast_size_ge ..)
    · exact lt_of_lt_of_le (by simp) ((low_size_ge less first second _).1 _ _ _ _ _ _ _ ran)

theorem mergeHigh_size_pos (threshold : Nat) {result : Array α × Nat}
    (ran : mergeHigh less first second threshold = .ok result) : 0 < result.1.size := by
  unfold mergeHigh at ran
  dsimp only at ran
  -- the merged tail starts with the last item of the first run
  split at ran
  · obtain rfl := Except.ok.inj ran
    exact lt_of_lt_of_le (by simp) (highFinish_size_ge ..)
  · split at ran
    · obtain rfl := Except.ok.inj ran
      exact lt_of_lt_of_le (by simp) (highFirst_size_ge ..)
    · exact lt_of_lt_of_le (by simp) ((high_size_ge less first second _).1 _ _ _ _ _ _ _ ran)

/-- Merging two runs that are not both empty gives a run that is not empty. -/
theorem mergeRuns_size_pos (threshold : Nat) {result : Array α × Nat}
    (filled : 0 < first.size + second.size) (ran : mergeRuns less threshold first second = .ok result) :
    0 < result.1.size := by
  unfold mergeRuns at ran
  split at ran
  · obtain rfl := Except.ok.inj ran
    simpa using filled
  · obtain ⟨kept, -, ran⟩ := bind_eq_ok ran
    split at ran
    · obtain rfl := Except.ok.inj ran
      simpa using filled
    · obtain ⟨reach, -, ran⟩ := bind_eq_ok ran
      split at ran
      · obtain rfl := Except.ok.inj ran
        simpa using filled
      · dsimp only at ran
        have framed : ∀ {merged : Array α}, 0 < merged.size →
            0 < (first.extract 0 kept ++ merged ++ second.extract reach second.size).size := by
          intro merged positive
          simp only [Array.size_append]
          omega
        -- the merged middle is not empty, whichever side it was merged from
        split at ran
        · obtain ⟨⟨merged, after⟩, middle, ran⟩ := bind_eq_ok ran
          obtain rfl := Except.ok.inj ran
          exact framed (mergeLow_size_pos less _ _ _ middle)
        · obtain ⟨⟨merged, after⟩, middle, ran⟩ := bind_eq_ok ran
          obtain rfl := Except.ok.inj ran
          exact framed (mergeHigh_size_pos less _ _ _ middle)

end Merge

/-! ### The run stack -/

/-- Every run on a stack holds an item. -/
def Filled (stack : List (Pending α)) : Prop := ∀ run ∈ stack, 0 < run.items.size

theorem filled_cons {run : Pending α} {stack : List (Pending α)} :
    Filled (run :: stack) ↔ 0 < run.items.size ∧ Filled stack := by
  simp [Filled]

/-- The items of the runs of a stack, appended in order. -/
theorem foldl_append_items_size (runs : List (Pending α)) (init : Array α) :
    (runs.foldl (fun all run => all ++ run.items) init).size =
      init.size + (runs.map fun run => run.items.size).sum := by
  induction runs generalizing init with
  | nil => simp
  | cons run runs induction =>
      rw [List.foldl_cons, induction]
      simp only [Array.size_append, List.map_cons, List.sum_cons]
      omega

section Stack

variable [Inhabited α] (less : α → α → Except ε Bool)

/-- Merging the top two runs keeps every run filled, and a stack that was not
empty stays so. -/
theorem mergeTop_filled {state next : Merging α} (filled : Filled state.stack)
    (ran : mergeTop less state = .ok next) :
    Filled next.stack ∧ (state.stack ≠ [] → next.stack ≠ []) := by
  unfold mergeTop at ran
  split at ran
  · rename_i upper lower rest stack
    rw [stack, filled_cons, filled_cons] at filled
    obtain ⟨⟨merged, threshold⟩, mergedRan, ran⟩ := bind_eq_ok ran
    obtain rfl := Except.ok.inj ran
    have positive := mergeRuns_size_pos less _ _ _ (by omega) mergedRan
    exact ⟨filled_cons.2 ⟨positive, filled.2.2⟩, fun _ => List.cons_ne_nil _ _⟩
  · obtain rfl := Except.ok.inj ran
    exact ⟨filled, id⟩

theorem collapseAbove_filled (power : Nat) :
    ∀ fuel {state next : Merging α}, Filled state.stack → collapseAbove less power fuel state = .ok next →
      Filled next.stack ∧ (state.stack ≠ [] → next.stack ≠ [])
  | 0, state, next, filled, ran => by
      rw [collapseAbove] at ran
      obtain rfl := Except.ok.inj ran
      exact ⟨filled, id⟩
  | fuel + 1, state, next, filled, ran => by
      rw [collapseAbove] at ran
      split at ran
      · split at ran
        · obtain ⟨merged, mergedRan, ran⟩ := bind_eq_ok ran
          obtain ⟨mergedFilled, mergedKept⟩ := mergeTop_filled less filled mergedRan
          obtain ⟨nextFilled, nextKept⟩ := collapseAbove_filled power fuel mergedFilled ran
          exact ⟨nextFilled, fun nonempty => nextKept (mergedKept nonempty)⟩
        · obtain rfl := Except.ok.inj ran
          exact ⟨filled, id⟩
      · obtain rfl := Except.ok.inj ran
        exact ⟨filled, id⟩

/-- Cutting runs keeps every run on the stack filled; the stack is not empty
after it unless it was empty and there was nothing to cut. -/
theorem pushRuns_filled (total minimum : Nat) :
    ∀ fuel {state next : Merging α} {start : Nat} {items : List α}, Filled state.stack →
      pushRuns less total minimum fuel state start items = .ok next →
      Filled next.stack ∧ (state.stack ≠ [] ∨ (items ≠ [] ∧ 0 < fuel) → next.stack ≠ [])
  | 0, state, next, start, items, filled, ran => by
      rw [pushRuns] at ran
      obtain rfl := Except.ok.inj ran
      exact ⟨filled, fun | .inl nonempty => nonempty⟩
  | fuel + 1, state, next, start, [], filled, ran => by
      rw [pushRuns] at ran
      obtain rfl := Except.ok.inj ran
      exact ⟨filled, fun | .inl nonempty => nonempty⟩
  | fuel + 1, state, next, start, item :: items, filled, ran => by
      rw [pushRuns.eq_3 _ _ _ _ _ _ _ (List.cons_ne_nil item items)] at ran
      obtain ⟨⟨run, rest⟩, cut, ran⟩ := bind_eq_ok ran
      have positive := nextRun_size_pos less _ (List.cons_ne_nil item items) cut
      dsimp only at ran
      split at ran
      · -- the first run is pushed on the empty stack
        refine (pushRuns_filled total minimum fuel ?_ ran).imp id fun kept _ => kept (.inl (List.cons_ne_nil _ _))
        exact filled_cons.2 ⟨positive, by simp [Filled]⟩
      · -- the runs below are merged first
        obtain ⟨collapsed, collapsedRan, ran⟩ := bind_eq_ok ran
        obtain ⟨collapsedFilled, -⟩ := collapseAbove_filled less _ _ filled collapsedRan
        refine (pushRuns_filled total minimum fuel ?_ ran).imp id fun kept _ => kept (.inl (List.cons_ne_nil _ _))
        refine filled_cons.2 ⟨positive, ?_⟩
        -- marking the boundary of the run below keeps its items
        split
        · rename_i top rest stack
          rw [stack, filled_cons] at collapsedFilled
          exact filled_cons.2 collapsedFilled
        · simp [Filled]

/-- Merging what is left on a filled stack that is not empty gives items. -/
theorem collapseAll_size_pos :
    ∀ fuel {state : Merging α} {merged : Array α}, Filled state.stack → state.stack ≠ [] →
      collapseAll less fuel state = .ok merged → 0 < merged.size
  | 0, state, merged, filled, nonempty, ran => by
      rw [collapseAll] at ran
      obtain rfl := Except.ok.inj ran
      -- all runs are appended, bottom first: the top run alone is not empty
      obtain ⟨top, below, stack⟩ := List.exists_cons_of_ne_nil nonempty
      have topFilled := filled top (by simp [stack])
      have counted : top.items.size ≤ (state.stack.reverse.map fun run => run.items.size).sum :=
        List.le_sum_of_mem (List.mem_map.2 ⟨top, by simp [stack], rfl⟩)
      rw [foldl_append_items_size]
      omega
  | fuel + 1, state, merged, filled, nonempty, ran => by
      rw [collapseAll] at ran
      split at ran
      · rename_i empty
        exact absurd empty nonempty
      · rename_i only stack
        obtain rfl := Except.ok.inj ran
        exact filled only (by simp [stack])
      · rename_i top middle bottom rest stack
        split at ran
        · -- the two runs below the top are merged first
          obtain ⟨⟨lower, threshold⟩, mergedRan, ran⟩ := bind_eq_ok ran
          rw [stack, filled_cons, filled_cons, filled_cons] at filled
          obtain ⟨topFilled, middleFilled, bottomFilled, restFilled⟩ := filled
          have positive := mergeRuns_size_pos less _ _ _ (by omega) mergedRan
          exact collapseAll_size_pos fuel (filled_cons.2 ⟨topFilled, filled_cons.2 ⟨positive, restFilled⟩⟩)
            (List.cons_ne_nil _ _) ran
        · obtain ⟨next, mergedRan, ran⟩ := bind_eq_ok ran
          obtain ⟨nextFilled, nextKept⟩ := mergeTop_filled less filled mergedRan
          exact collapseAll_size_pos fuel nextFilled (nextKept nonempty) ran
      · obtain ⟨next, mergedRan, ran⟩ := bind_eq_ok ran
        obtain ⟨nextFilled, nextKept⟩ := mergeTop_filled less filled mergedRan
        exact collapseAll_size_pos fuel nextFilled (nextKept nonempty) ran

/-- The sort of a nonempty list, when every comparison succeeds, is not empty. -/
theorem sortBy_ne_nil {items sorted : List α} (nonempty : items ≠ []) (ran : sortBy less items = .ok sorted) :
    sorted ≠ [] := by
  unfold sortBy at ran
  split at ran
  · obtain rfl := Except.ok.inj ran
    exact nonempty
  · rename_i long
    obtain ⟨state, pushed, ran⟩ := bind_eq_ok ran
    obtain ⟨merged, collapsed, ran⟩ := bind_eq_ok ran
    obtain rfl := Except.ok.inj ran
    obtain ⟨filled, stacked⟩ := pushRuns_filled less _ _ _ (by simp [Filled]) pushed
    have positive := collapseAll_size_pos less _ filled (stacked (.inr ⟨nonempty, by omega⟩)) collapsed
    rw [Ne, Array.toList_eq_nil_iff, ← Array.size_eq_zero_iff]
    omega

end Stack

/-! ### Two items the order does not swap -/

section Pair

theorem minimumRun_of_lt {count : Nat} (small : count < 64) : minimumRun count = count := by
  unfold minimumRun
  rw [minimumRunParts]
  simp [small]

variable [Inhabited α] {less : α → α → Except ε Bool}

/-- A list of two items is one run: unless the second is smaller, it comes back as it was,
also when the two compare equal. -/
theorem sortBy_pair {first second : α} (inOrder : less second first = .ok false) :
    sortBy less [first, second] = .ok [first, second] := by
  simp [sortBy, minimumRun_of_lt, pushRuns, nextRun, leadingRun, inOrder, ascendingPart,
    collapseAll, bind, Except.bind, pure, Except.pure]

end Pair

end Sorting

end LoadHarness
