import Mathlib
import LoadHarness.Proofs.Sorting.Gallop

/-!
# A galloping merge is the stable merge

`mergeRuns` merges two adjacent sorted runs.  It leaves in place the head of the first run that
no item of the second undercuts and the tail of the second run that is above the whole first
run, then merges the rest from the front (`mergeLow`) or from the back (`mergeHigh`), one item
at a time or by galloping.  The main result, `mergeRuns_eq_merge`, is that under an order by
keys the result is exactly the library's stable `List.merge` of the two runs.

A merge from the front is followed by what it still owes: `lowRest`, the merge of what is left
of both runs.  Each step (one item, or a stretch found by galloping) moves the head of
`lowRest` into the merged items (`lowRest_push_first`, `lowRest_push_second`,
`lowRest_take_first`, `lowRest_take_second`), so `LowState` holds between steps, and every way
the merge ends gives the whole merge (`lowFinish_eq`, `lowLast_eq`).  A merge from the back is
the mirror image, with `highRest` in front of the merged tail.  The fuel of both loops covers
the items left, so neither stops early.
-/

namespace LoadHarness

namespace Sorting

variable {ε α β : Type} [LinearOrder β] {less : α → α → Except ε Bool} {key : α → β}

theorem OrdersBy.mono {pool pool' : α → Prop} (orders : OrdersBy less key pool) (within : ∀ a, pool' a → pool a) :
    OrdersBy less key pool' :=
  fun a memberA b memberB => orders a (within a memberA) b (within b memberB)

/-! ### Arrays read as lists -/

theorem toList_extract_size (items : Array α) (i : Nat) :
    (items.extract i items.size).toList = items.toList.drop i := by
  rw [Array.toList_extract, List.extract_eq_take_drop, List.take_of_length_le]
  simp

theorem toList_extract_zero (items : Array α) (k : Nat) :
    (items.extract 0 k).toList = items.toList.take k := by
  simp [Array.toList_extract, List.extract_eq_take_drop]

theorem toList_window_rest (items : Array α) (i : Nat) :
    (window items i (items.size - i)).toList = items.toList.drop i := by
  rw [toList_window, List.take_of_length_le]
  simp

theorem mem_of_mem_extract {items : Array α} {a : α} {i j : Nat} (member : a ∈ items.extract i j) :
    a ∈ items := by
  rw [← Array.mem_toList_iff, Array.toList_extract, List.extract_eq_take_drop] at member
  exact Array.mem_toList_iff.1 (List.mem_of_mem_drop (List.mem_of_mem_take member))

theorem toList_backwards (items : Array α) (stop count : Nat) :
    (backwards items stop count).toList = ((items.toList.take stop).drop (stop - count)).reverse := by
  simp [backwards, List.extract_eq_take_drop, List.drop_take]

/-- In a sorted list, every item up to a position is not above the item there. -/
theorem le_of_mem_take_succ {items : List α} (sorted : items.Pairwise (fun a b => key a ≤ key b))
    {k : Nat} (inside : k < items.length) {a : α} (member : a ∈ items.take (k + 1)) :
    key a ≤ key items[k] := by
  obtain ⟨i, below, rfl⟩ := List.getElem_of_mem member
  rw [List.length_take] at below
  rw [List.getElem_take]
  rcases Nat.lt_or_eq_of_le (show i ≤ k by omega) with before | rfl
  · exact List.pairwise_iff_getElem.1 sorted i k (by omega) inside before
  · exact le_rfl

/-- Two runs ready to be merged: both sorted, and `less` orders their items by key without
failing. -/
structure MergeInput (less : α → α → Except ε Bool) (key : α → β) (first second : Array α) : Prop where
  orders : OrdersBy less key (fun a => a ∈ first ∨ a ∈ second)
  firstSorted : first.toList.Pairwise (fun a b => key a ≤ key b)
  secondSorted : second.toList.Pairwise (fun a b => key a ≤ key b)

variable {first second : Array α}

theorem MergeInput.firstIn (_ : MergeInput less key first second) :
    ∀ a ∈ first, (fun a => a ∈ first ∨ a ∈ second) a := fun _ member => .inl member

theorem MergeInput.secondIn (_ : MergeInput less key first second) :
    ∀ a ∈ second, (fun a => a ∈ first ∨ a ∈ second) a := fun _ member => .inr member

/-! ### Items read with a default -/

variable [Inhabited α]

/-- Two runs whose merge does not just append them: the second run starts below the first, and
the first ends above the whole second run. -/
structure Overlapping (key : α → β) (first second : Array α) : Prop where
  firstNonempty : 0 < first.size
  secondNonempty : 0 < second.size
  headBelow : key (second.getD 0 default) < key (first.getD 0 default)
  lastAbove : ∀ b ∈ second, key b < key (first.getD (first.size - 1) default)

theorem getD_eq_getElem_toList {items : Array α} {i : Nat} (inside : i < items.size) :
    items.getD i default = items.toList[i] := by
  simp [Array.getD_eq_getD_getElem?, inside]

theorem drop_eq_getD_cons {items : Array α} {i : Nat} (inside : i < items.size) :
    items.toList.drop i = items.getD i default :: items.toList.drop (i + 1) := by
  rw [getD_eq_getElem_toList inside]
  exact List.drop_eq_getElem_cons _

theorem MergeInput.compare_first_second (input : MergeInput less key first second) {i j : Nat}
    (hi : i < first.size) (hj : j < second.size) :
    less (second.getD j default) (first.getD i default) =
      .ok (decide (key (second.getD j default) < key (first.getD i default))) :=
  input.orders _ (.inr (by simp [Array.getD_eq_getD_getElem?, hj])) _
    (.inl (by simp [Array.getD_eq_getD_getElem?, hi]))

/-! ### Merging from the front -/

section Low

/-- What a merge from the front still has to place after `i` items of the first run and `j` of
the second: the merge of what is left of both. -/
def lowRest (key : α → β) (first second : Array α) (i j : Nat) : List α :=
  List.merge (first.toList.drop i) (second.toList.drop j) (byKey key)

omit [Inhabited α] in
theorem lowRest_zero : lowRest key first second 0 0 = List.merge first.toList second.toList (byKey key) := by
  simp [lowRest]

/-- The second run's next item goes first when it is below the first run's. -/
theorem lowRest_push_second {i j : Nat} (hi : i < first.size) (hj : j < second.size)
    (smaller : key (second.getD j default) < key (first.getD i default)) :
    lowRest key first second i j = second.getD j default :: lowRest key first second i (j + 1) := by
  unfold lowRest
  rw [drop_eq_getD_cons hi, drop_eq_getD_cons hj, List.cons_merge_cons_neg _ _ _ (by simpa using smaller),
    ← drop_eq_getD_cons hi]

/-- The first run's next item goes first unless the second run's is below it. -/
theorem lowRest_push_first {i j : Nat} (hi : i < first.size) (hj : j < second.size)
    (notAbove : key (first.getD i default) ≤ key (second.getD j default)) :
    lowRest key first second i j = first.getD i default :: lowRest key first second (i + 1) j := by
  unfold lowRest
  rw [drop_eq_getD_cons hi, drop_eq_getD_cons hj, List.cons_merge_cons_pos _ _ _ (by simpa using notAbove),
    ← drop_eq_getD_cons hj]

/-- A stretch of the first run that the second run's next item does not undercut goes first. -/
theorem lowRest_take_first {i j : Nat} (k : Nat) (hj : j < second.size)
    (below : ∀ a ∈ (first.toList.drop i).take k, key a ≤ key (second.getD j default)) :
    lowRest key first second i j = (first.toList.drop i).take k ++ lowRest key first second (i + k) j := by
  unfold lowRest
  conv_lhs => rw [← List.take_append_drop k (first.toList.drop i)]
  rw [drop_eq_getD_cons hj, merge_prefix_left below, List.drop_drop]

/-- A stretch of the second run below the first run's next item goes first. -/
theorem lowRest_take_second {i j : Nat} (k : Nat) (hi : i < first.size)
    (below : ∀ b ∈ (second.toList.drop j).take k, key b < key (first.getD i default)) :
    lowRest key first second i j = (second.toList.drop j).take k ++ lowRest key first second i (j + k) := by
  unfold lowRest
  conv_lhs => rw [← List.take_append_drop k (second.toList.drop j)]
  rw [drop_eq_getD_cons hi, merge_prefix_right below, List.drop_drop]

omit [Inhabited α] in
/-- A merge from the front that has used up one run appends the rest of the other. -/
theorem lowFinish_eq {out : Array α} {i j : Nat}
    (merged : out.toList ++ lowRest key first second i j = List.merge first.toList second.toList (byKey key))
    (done : first.size ≤ i ∨ second.size ≤ j) :
    lowFinish first second out i j = (List.merge first.toList second.toList (byKey key)).toArray := by
  apply Array.toList_inj.1
  rw [← merged, List.toList_toArray]
  simp only [lowFinish, lowRest, Array.toList_append, toList_extract_size, List.append_assoc]
  rcases done with firstDone | secondDone
  · have used : first.toList.drop i = [] := List.drop_eq_nil_of_le (by simpa using firstDone)
    simp [used]
  · have used : second.toList.drop j = [] := List.drop_eq_nil_of_le (by simpa using secondDone)
    simp [used]

/-- A merge from the front with only the first run's last item left places it after the rest
of the second run, which lies below it. -/
theorem lowLast_eq (overlap : Overlapping key first second) {out : Array α} {i j : Nat}
    (merged : out.toList ++ lowRest key first second i j = List.merge first.toList second.toList (byKey key))
    (last : i + 1 = first.size) :
    lowLast first second out i j = (List.merge first.toList second.toList (byKey key)).toArray := by
  apply Array.toList_inj.1
  rw [← merged, List.toList_toArray]
  have rest : first.toList.drop i = [first.getD (first.size - 1) default] := by
    rw [drop_eq_getD_cons (by omega), List.drop_eq_nil_of_le (by simp; omega)]
    congr 2
    omega
  have below : ∀ b ∈ second.toList.drop j, ∀ a ∈ first.toList.drop i, key b < key a := by
    intro b memberB a memberA
    rw [rest, List.mem_singleton] at memberA
    rw [memberA]
    exact overlap.lastAbove b (by simpa using List.mem_of_mem_drop memberB)
  simp only [lowLast, lowRest, Array.toList_append, toList_extract_size, List.append_assoc, merge_of_lt below]

/-- The state of a merge from the front between two steps: the items merged and what is left
to merge make the whole merge, at least two items of the first run and one of the second are
left, and the fuel covers the items left. -/
structure LowState (key : α → β) (first second out : Array α) (i j fuel : Nat) : Prop where
  merged : out.toList ++ lowRest key first second i j = List.merge first.toList second.toList (byKey key)
  firstLeft : i + 2 ≤ first.size
  secondLeft : j < second.size
  enough : first.size - i + (second.size - j) ≤ fuel + 2

/-- Every round of a merge from the front, one item at a time or galloping, ends in the whole
merge: by induction on the fuel, each round moves items from what is left into the merged items
and keeps `LowState`, or ends in a way that appends what is left. -/
theorem low_merges (input : MergeInput less key first second) (overlap : Overlapping key first second) :
    ∀ fuel,
      (∀ out i j threshold, LowState key first second out i j fuel →
        ∃ t, lowGallop less first second fuel out i j threshold =
          .ok ((List.merge first.toList second.toList (byKey key)).toArray, t)) ∧
      (∀ out i j threshold firstWins secondWins, LowState key first second out i j fuel →
        ∃ t, lowOne less first second fuel out i j threshold firstWins secondWins =
          .ok ((List.merge first.toList second.toList (byKey key)).toArray, t)) := by
  intro fuel
  induction fuel with
  | zero =>
      -- no fuel is left only when too few items are left to be in the middle of a merge
      refine ⟨fun out i j threshold state => ?_, fun out i j threshold _ _ state => ?_⟩ <;>
        exact absurd state.enough (by have := state.firstLeft; have := state.secondLeft; omega)
  | succ fuel ih =>
      obtain ⟨gallop, one⟩ := ih
      constructor
      · intro out i j threshold state
        have hi : i < first.size := by have := state.firstLeft; omega
        have secondAt := state.secondLeft
        -- the stretch of the first run that the second run's next item goes after
        have firstRest : (window first i (first.size - i)).toList.Pairwise (fun a b => key a ≤ key b) := by
          rw [toList_window_rest]
          exact input.firstSorted.sublist (List.drop_sublist _ _)
        obtain ⟨taken, takenRan, -, takenBelow, takenAbove⟩ :=
          gallopRight_window input.orders (getD_pool input.secondIn secondAt default) input.firstIn
            (show i + (first.size - i) ≤ first.size by omega) (show 0 < first.size - i by omega) firstRest
        rw [toList_window_rest] at takenBelow takenAbove
        have merged1 : (out ++ window first i taken).toList ++ lowRest key first second (i + taken) j =
            List.merge first.toList second.toList (byKey key) := by
          rw [← state.merged, lowRest_take_first taken secondAt takenBelow, Array.toList_append, toList_window,
            List.append_assoc]
        rw [lowGallop, takenRan]
        simp only [bind, Except.bind]
        by_cases last1 : (first.size - (i + taken) == 1) = true
        · rw [if_pos last1, lowLast_eq overlap merged1 (by simp at last1; omega)]
          exact ⟨_, rfl⟩
        rw [if_neg last1]
        by_cases done1 : (first.size - (i + taken) == 0) = true
        · rw [if_pos done1, lowFinish_eq merged1 (.inl (by simp at done1; omega))]
          exact ⟨_, rfl⟩
        rw [if_neg done1]
        simp only [beq_iff_eq] at last1 done1
        have hi' : i + taken < first.size := by omega
        -- the second run's next item is below the first run's item after the stretch
        have smaller : key (second.getD j default) < key (first.getD (i + taken) default) := by
          apply takenAbove
          rw [List.drop_drop, drop_eq_getD_cons hi']
          exact List.mem_cons_self
        have merged2 : ((out ++ window first i taken).push (second.getD j default)).toList ++
            lowRest key first second (i + taken) (j + 1) = List.merge first.toList second.toList (byKey key) := by
          rw [← merged1, lowRest_push_second hi' secondAt smaller]
          simp
        by_cases done2 : (j + 1 == second.size) = true
        · rw [if_pos done2, lowFinish_eq merged2 (.inr (by simp at done2; omega))]
          exact ⟨_, rfl⟩
        rw [if_neg done2]
        simp only [beq_iff_eq] at done2
        -- the stretch of the second run that goes before the first run's item
        have secondRest : (window second (j + 1) (second.size - (j + 1))).toList.Pairwise
            (fun a b => key a ≤ key b) := by
          rw [toList_window_rest]
          exact input.secondSorted.sublist (List.drop_sublist _ _)
        obtain ⟨given, givenRan, givenLe, givenBelow, givenAbove⟩ :=
          gallopLeft_window input.orders (getD_pool input.firstIn hi' default) input.secondIn
            (show j + 1 + (second.size - (j + 1)) ≤ second.size by omega) (show 0 < second.size - (j + 1) by omega)
            secondRest
        rw [toList_window_rest] at givenBelow givenAbove
        have merged3 : ((out ++ window first i taken).push (second.getD j default) ++
            window second (j + 1) given).toList ++ lowRest key first second (i + taken) (j + 1 + given) =
              List.merge first.toList second.toList (byKey key) := by
          rw [← merged2, lowRest_take_second given hi' givenBelow, Array.toList_append, toList_window,
            List.append_assoc]
        rw [givenRan]
        dsimp only
        by_cases done3 : (j + 1 + given == second.size) = true
        · rw [if_pos done3, lowFinish_eq merged3 (.inr (by simp at done3; omega))]
          exact ⟨_, rfl⟩
        rw [if_neg done3]
        simp only [beq_iff_eq] at done3
        have hj' : j + 1 + given < second.size := by omega
        -- the first run's item is not above the second run's item after the stretch
        have notAbove : key (first.getD (i + taken) default) ≤ key (second.getD (j + 1 + given) default) := by
          apply givenAbove
          rw [List.drop_drop, drop_eq_getD_cons hj']
          exact List.mem_cons_self
        have merged4 : (((out ++ window first i taken).push (second.getD j default) ++
            window second (j + 1) given).push (first.getD (i + taken) default)).toList ++
              lowRest key first second (i + taken + 1) (j + 1 + given) =
                List.merge first.toList second.toList (byKey key) := by
          rw [← merged3, lowRest_push_first hi' hj' notAbove]
          simp
        by_cases last4 : (first.size - (i + taken + 1) == 1) = true
        · rw [if_pos last4, lowLast_eq overlap merged4 (by simp at last4; omega)]
          exact ⟨_, rfl⟩
        rw [if_neg last4]
        simp only [beq_iff_eq] at last4
        have next : LowState key first second _ (i + taken + 1) (j + 1 + given) fuel :=
          ⟨merged4, by omega, hj', by have := state.enough; omega⟩
        by_cases switch : (decide (taken ≥ gallopWins) || decide (given ≥ gallopWins)) = true
        · rw [if_pos switch]
          exact gallop _ _ _ _ next
        · rw [if_neg switch]
          exact one _ _ _ _ _ _ next
      · intro out i j threshold firstWins secondWins state
        have hi : i < first.size := by have := state.firstLeft; omega
        rw [lowOne, input.compare_first_second hi state.secondLeft]
        simp only [bind, Except.bind]
        by_cases smaller : key (second.getD j default) < key (first.getD i default)
        · -- the second run's item goes next
          have merged : (out.push (second.getD j default)).toList ++ lowRest key first second i (j + 1) =
              List.merge first.toList second.toList (byKey key) := by
            rw [← state.merged, lowRest_push_second hi state.secondLeft smaller]
            simp
          simp only [smaller, decide_true, if_true]
          by_cases done : (j + 1 == second.size) = true
          · rw [if_pos done, lowFinish_eq merged (.inr (by simp at done; omega))]
            exact ⟨_, rfl⟩
          · rw [if_neg done]
            have secondLeft := state.secondLeft
            simp only [beq_iff_eq] at done
            have next : LowState key first second (out.push (second.getD j default)) i (j + 1) fuel :=
              ⟨merged, state.firstLeft, by omega, by have := state.enough; omega⟩
            by_cases switch : secondWins + 1 ≥ threshold
            · rw [if_pos switch]
              exact gallop _ _ _ _ next
            · rw [if_neg switch]
              exact one _ _ _ _ _ _ next
        · -- the first run's item goes next
          have merged : (out.push (first.getD i default)).toList ++ lowRest key first second (i + 1) j =
              List.merge first.toList second.toList (byKey key) := by
            rw [← state.merged, lowRest_push_first hi state.secondLeft (not_lt.1 smaller)]
            simp
          simp only [smaller, decide_false, Bool.false_eq_true, if_false]
          by_cases last : (first.size - (i + 1) == 1) = true
          · rw [if_pos last, lowLast_eq overlap merged (by simp at last; have := state.firstLeft; omega)]
            exact ⟨_, rfl⟩
          · rw [if_neg last]
            have firstLeft := state.firstLeft
            simp only [beq_iff_eq] at last
            have next : LowState key first second (out.push (first.getD i default)) (i + 1) j fuel :=
              ⟨merged, by omega, state.secondLeft, by have := state.enough; omega⟩
            by_cases switch : firstWins + 1 ≥ threshold
            · rw [if_pos switch]
              exact gallop _ _ _ _ next
            · rw [if_neg switch]
              exact one _ _ _ _ _ _ next

end Low

/-- A merge from the front of two overlapping runs is their stable merge. -/
theorem mergeLow_eq_merge (input : MergeInput less key first second) (overlap : Overlapping key first second)
    (threshold : Nat) :
    ∃ t, mergeLow less first second threshold =
      .ok ((List.merge first.toList second.toList (byKey key)).toArray, t) := by
  -- the second run's head goes first
  have merged : #[second.getD 0 default].toList ++ lowRest key first second 0 1 =
      List.merge first.toList second.toList (byKey key) := by
    rw [← lowRest_zero, lowRest_push_second overlap.firstNonempty overlap.secondNonempty overlap.headBelow]
    rfl
  have firstNonempty := overlap.firstNonempty
  have secondNonempty := overlap.secondNonempty
  unfold mergeLow
  by_cases single : (second.size == 1) = true
  · rw [if_pos single, lowFinish_eq merged (.inr (by simp at single; omega))]
    exact ⟨_, rfl⟩
  rw [if_neg single]
  by_cases last : (first.size == 1) = true
  · rw [if_pos last, lowLast_eq overlap merged (by simp at last; omega)]
    exact ⟨_, rfl⟩
  rw [if_neg last]
  simp only [beq_iff_eq] at single last
  exact (low_merges input overlap _).2 _ _ _ _ _ _ ⟨merged, by omega, by omega, by omega⟩

/-! ### Merging from the back -/

section High

/-- What a merge from the back still has to place in front of the merged tail when `left1`
items of the first run and `left2` of the second are left: the merge of those. -/
def highRest (key : α → β) (first second : Array α) (left1 left2 : Nat) : List α :=
  List.merge (first.toList.take left1) (second.toList.take left2) (byKey key)

omit [Inhabited α] in
theorem highRest_size : highRest key first second first.size second.size =
    List.merge first.toList second.toList (byKey key) := by
  rw [highRest, List.take_of_length_le (by simp), List.take_of_length_le (by simp)]

theorem take_succ_eq_concat {items : Array α} {k : Nat} (inside : k < items.size) :
    items.toList.take (k + 1) = items.toList.take k ++ [items.getD k default] := by
  rw [List.take_add_one, List.getElem?_eq_getElem (by simpa using inside), getD_eq_getElem_toList inside]
  rfl

theorem getD_mem_take {items : Array α} {k n : Nat} (before : k < n) (inside : k < items.size) :
    items.getD k default ∈ items.toList.take n := by
  rw [getD_eq_getElem_toList inside]
  exact List.mem_iff_getElem.2 ⟨k, by simp; omega, by simp⟩

/-- The first run's last item left goes behind when the second run's last item left is below
it. -/
theorem highRest_pop_first (input : MergeInput less key first second) {left1 left2 : Nat}
    (firstLeft : 0 < left1) (firstWithin : left1 ≤ first.size) (secondLeft : 0 < left2)
    (secondWithin : left2 ≤ second.size)
    (smaller : key (second.getD (left2 - 1) default) < key (first.getD (left1 - 1) default)) :
    highRest key first second left1 left2 =
      highRest key first second (left1 - 1) left2 ++ [first.getD (left1 - 1) default] := by
  unfold highRest
  obtain ⟨k, rfl⟩ : ∃ k, left1 = k + 1 := ⟨left1 - 1, by omega⟩
  rw [take_succ_eq_concat (by omega), Nat.add_sub_cancel]
  apply merge_suffix_left
  intro b member s last
  rw [List.mem_singleton.1 last]
  -- every item of the second run left is at most its last one
  have atMost := le_of_mem_take_succ input.secondSorted (k := left2 - 1) (by simp; omega)
    (by rwa [Nat.sub_add_cancel secondLeft])
  rw [← getD_eq_getElem_toList (by omega)] at atMost
  simpa using lt_of_le_of_lt atMost smaller

/-- The second run's last item left goes behind when it is not below the first run's. -/
theorem highRest_pop_second (input : MergeInput less key first second) {left1 left2 : Nat}
    (firstLeft : 0 < left1) (firstWithin : left1 ≤ first.size) (secondLeft : 0 < left2)
    (secondWithin : left2 ≤ second.size)
    (notBelow : key (first.getD (left1 - 1) default) ≤ key (second.getD (left2 - 1) default)) :
    highRest key first second left1 left2 =
      highRest key first second left1 (left2 - 1) ++ [second.getD (left2 - 1) default] := by
  unfold highRest
  obtain ⟨k, rfl⟩ : ∃ k, left2 = k + 1 := ⟨left2 - 1, by omega⟩
  rw [take_succ_eq_concat (by omega), Nat.add_sub_cancel]
  apply merge_suffix_right
  intro a member s last
  rw [List.mem_singleton.1 last]
  have atMost := le_of_mem_take_succ input.firstSorted (k := left1 - 1) (by simp; omega)
    (by rwa [Nat.sub_add_cancel firstLeft])
  rw [← getD_eq_getElem_toList (by omega)] at atMost
  exact le_trans atMost notBelow

/-- A stretch at the back of the first run, above the second run's last item left, goes
behind. -/
theorem highRest_take_first (input : MergeInput less key first second) {left1 left2 : Nat} (place : Nat)
    (secondLeft : 0 < left2) (secondWithin : left2 ≤ second.size)
    (above : ∀ a ∈ (first.toList.take left1).drop place, key (second.getD (left2 - 1) default) < key a) :
    highRest key first second left1 left2 =
      highRest key first second (min place left1) left2 ++ (first.toList.take left1).drop place := by
  unfold highRest
  conv_lhs => rw [← List.take_append_drop place (first.toList.take left1)]
  rw [List.take_take, merge_suffix_left]
  intro b member a memberA
  have atMost := le_of_mem_take_succ input.secondSorted (k := left2 - 1) (by simp; omega)
    (by rwa [Nat.sub_add_cancel secondLeft])
  rw [← getD_eq_getElem_toList (by omega)] at atMost
  exact lt_of_le_of_lt atMost (above a memberA)

/-- A stretch at the back of the second run, not below the first run's last item left, goes
behind. -/
theorem highRest_take_second (input : MergeInput less key first second) {left1 left2 : Nat} (place : Nat)
    (firstLeft : 0 < left1) (firstWithin : left1 ≤ first.size)
    (above : ∀ b ∈ (second.toList.take left2).drop place, key (first.getD (left1 - 1) default) ≤ key b) :
    highRest key first second left1 left2 =
      highRest key first second left1 (min place left2) ++ (second.toList.take left2).drop place := by
  unfold highRest
  conv_lhs => rw [← List.take_append_drop place (second.toList.take left2)]
  rw [List.take_take, merge_suffix_right]
  intro a member b memberB
  have atMost := le_of_mem_take_succ input.firstSorted (k := left1 - 1) (by simp; omega)
    (by rwa [Nat.sub_add_cancel firstLeft])
  rw [← getD_eq_getElem_toList (by omega)] at atMost
  exact le_trans atMost (above b memberB)

omit [Inhabited α] in
/-- A merge from the back that has used up one run puts the rest of the other in front. -/
theorem highFinish_eq {back : Array α} {left1 left2 : Nat}
    (merged : highRest key first second left1 left2 ++ back.toList.reverse =
      List.merge first.toList second.toList (byKey key))
    (done : left1 = 0 ∨ left2 = 0) :
    highFinish first second back left1 left2 = (List.merge first.toList second.toList (byKey key)).toArray := by
  apply Array.toList_inj.1
  rw [← merged, List.toList_toArray]
  simp only [highFinish, highRest, Array.toList_append, toList_extract_zero, Array.toList_reverse,
    List.append_assoc]
  rcases done with rfl | rfl <;> simp

/-- A merge from the back with only the second run's head left puts it in front of the rest
of the first run, which lies above it. -/
theorem highFirst_eq (input : MergeInput less key first second) (overlap : Overlapping key first second)
    {back : Array α} {left1 left2 : Nat} (single : left2 = 1)
    (merged : highRest key first second left1 left2 ++ back.toList.reverse =
      List.merge first.toList second.toList (byKey key)) :
    highFirst first second back left1 = (List.merge first.toList second.toList (byKey key)).toArray := by
  subst single
  apply Array.toList_inj.1
  rw [← merged, List.toList_toArray]
  have head : second.toList.take 1 = [second.getD 0 default] := by
    simpa using take_succ_eq_concat (k := 0) overlap.secondNonempty
  -- the second run's head is below the first run's head, hence below all of the first run
  have below : ∀ b ∈ second.toList.take 1, ∀ a ∈ first.toList.take left1, key b < key a := by
    intro b memberB a memberA
    rw [head, List.mem_singleton] at memberB
    rw [memberB]
    obtain ⟨i, inside, rfl⟩ := List.getElem_of_mem memberA
    rw [List.getElem_take]
    refine lt_of_lt_of_le overlap.headBelow ?_
    rw [getD_eq_getElem_toList overlap.firstNonempty]
    rcases Nat.eq_zero_or_pos i with rfl | later
    · exact le_rfl
    · exact List.pairwise_iff_getElem.1 input.firstSorted 0 i _ _ later
  simp only [highFirst, highRest, Array.toList_append, toList_extract_zero, Array.toList_reverse,
    List.append_assoc, merge_of_lt below]

/-- The state of a merge from the back between two steps: what is left to merge and the merged
tail make the whole merge, at least one item of the first run and two of the second are left,
and the fuel covers the items left. -/
structure HighState (key : α → β) (first second back : Array α) (left1 left2 fuel : Nat) : Prop where
  merged : highRest key first second left1 left2 ++ back.toList.reverse =
    List.merge first.toList second.toList (byKey key)
  firstLeft : 0 < left1
  firstWithin : left1 ≤ first.size
  secondLeft : 1 < left2
  secondWithin : left2 ≤ second.size
  enough : left1 + left2 ≤ fuel + 2

/-- Every round of a merge from the back, one item at a time or galloping, ends in the whole
merge: the mirror image of `low_merges`, with `HighState` kept between rounds. -/
theorem high_merges (input : MergeInput less key first second) (overlap : Overlapping key first second) :
    ∀ fuel,
      (∀ back left1 left2 threshold, HighState key first second back left1 left2 fuel →
        ∃ t, highGallop less first second fuel back left1 left2 threshold =
          .ok ((List.merge first.toList second.toList (byKey key)).toArray, t)) ∧
      (∀ back left1 left2 threshold firstWins secondWins, HighState key first second back left1 left2 fuel →
        ∃ t, highOne less first second fuel back left1 left2 threshold firstWins secondWins =
          .ok ((List.merge first.toList second.toList (byKey key)).toArray, t)) := by
  intro fuel
  induction fuel with
  | zero =>
      refine ⟨fun back left1 left2 threshold state => ?_, fun back left1 left2 threshold _ _ state => ?_⟩ <;>
        exact absurd state.enough (by have := state.firstLeft; have := state.secondLeft; omega)
  | succ fuel ih =>
      obtain ⟨gallop, one⟩ := ih
      constructor
      · intro back left1 left2 threshold state
        have firstLeft := state.firstLeft
        have firstWithin := state.firstWithin
        have secondLeft := state.secondLeft
        have secondWithin := state.secondWithin
        -- the stretch at the back of the first run that goes after the second run's last item
        have firstPart : (window first 0 left1).toList.Pairwise (fun a b => key a ≤ key b) := by
          rw [toList_window, List.drop_zero]
          exact input.firstSorted.sublist (List.take_sublist _ _)
        obtain ⟨place, placeRan, placeLe, placeBelow, placeAbove⟩ :=
          gallopRight_window input.orders (getD_pool input.secondIn (show left2 - 1 < second.size by omega) default)
            input.firstIn (show 0 + left1 ≤ first.size by omega) (show left1 - 1 < left1 by omega) firstPart
        rw [toList_window, List.drop_zero] at placeBelow placeAbove
        have same : left1 - (left1 - place) = place := by omega
        have merged1 : highRest key first second place left2 ++
            (back ++ backwards first left1 (left1 - place)).toList.reverse =
              List.merge first.toList second.toList (byKey key) := by
          rw [← state.merged, highRest_take_first input place (by omega) secondWithin placeAbove,
            Nat.min_eq_left placeLe, Array.toList_append, toList_backwards, same]
          simp
        rw [highGallop, placeRan]
        simp only [bind, Except.bind, same]
        by_cases done1 : (place == 0) = true
        · rw [if_pos done1, highFinish_eq merged1 (.inl (by simpa using done1))]
          exact ⟨_, rfl⟩
        rw [if_neg done1]
        simp only [beq_iff_eq] at done1
        -- the first run's item before the stretch is not above the second run's last item
        have notBelow : key (first.getD (place - 1) default) ≤ key (second.getD (left2 - 1) default) := by
          apply placeBelow
          rw [List.take_take, Nat.min_eq_left placeLe]
          exact getD_mem_take (by omega) (by omega)
        have merged2 : highRest key first second place (left2 - 1) ++
            ((back ++ backwards first left1 (left1 - place)).push (second.getD (left2 - 1) default)).toList.reverse =
              List.merge first.toList second.toList (byKey key) := by
          rw [← merged1, highRest_pop_second input (by omega) (by omega) (by omega) secondWithin notBelow]
          simp
        by_cases last2 : (left2 - 1 == 1) = true
        · have one : left2 - 1 = 1 := by simpa using last2
          rw [if_pos last2, highFirst_eq input overlap one merged2]
          exact ⟨_, rfl⟩
        rw [if_neg last2]
        simp only [beq_iff_eq] at last2
        -- the stretch at the back of the second run that goes after the first run's item
        have secondPart : (window second 0 (left2 - 1)).toList.Pairwise (fun a b => key a ≤ key b) := by
          rw [toList_window, List.drop_zero]
          exact input.secondSorted.sublist (List.take_sublist _ _)
        obtain ⟨place2, place2Ran, place2Le, place2Below, place2Above⟩ :=
          gallopLeft_window input.orders (getD_pool input.firstIn (show place - 1 < first.size by omega) default)
            input.secondIn (show 0 + (left2 - 1) ≤ second.size by omega) (show left2 - 1 - 1 < left2 - 1 by omega)
            secondPart
        rw [toList_window, List.drop_zero] at place2Below place2Above
        have same2 : left2 - 1 - (left2 - 1 - place2) = place2 := by omega
        have merged3 : highRest key first second place place2 ++
            ((back ++ backwards first left1 (left1 - place)).push (second.getD (left2 - 1) default) ++
              backwards second (left2 - 1) (left2 - 1 - place2)).toList.reverse =
                List.merge first.toList second.toList (byKey key) := by
          rw [← merged2, highRest_take_second input place2 (by omega) (by omega) place2Above,
            Nat.min_eq_left place2Le]
          simp [toList_backwards, same2]
        rw [place2Ran]
        simp only [same2]
        by_cases last3 : (place2 == 1) = true
        · have one : place2 = 1 := by simpa using last3
          rw [if_pos last3, highFirst_eq input overlap one merged3]
          exact ⟨_, rfl⟩
        rw [if_neg last3]
        by_cases done3 : (place2 == 0) = true
        · rw [if_pos done3, highFinish_eq merged3 (.inr (by simpa using done3))]
          exact ⟨_, rfl⟩
        rw [if_neg done3]
        simp only [beq_iff_eq] at last3 done3
        -- the second run's item before the stretch is below the first run's item
        have smaller : key (second.getD (place2 - 1) default) < key (first.getD (place - 1) default) := by
          apply place2Below
          rw [List.take_take, Nat.min_eq_left place2Le]
          exact getD_mem_take (by omega) (by omega)
        have merged4 : highRest key first second (place - 1) place2 ++
            (((back ++ backwards first left1 (left1 - place)).push (second.getD (left2 - 1) default) ++
              backwards second (left2 - 1) (left2 - 1 - place2)).push (first.getD (place - 1) default)).toList.reverse =
                List.merge first.toList second.toList (byKey key) := by
          rw [← merged3, highRest_pop_first input (by omega) (by omega) (by omega) (by omega) smaller]
          simp
        by_cases done4 : (place - 1 == 0) = true
        · rw [if_pos done4, highFinish_eq merged4 (.inl (by simpa using done4))]
          exact ⟨_, rfl⟩
        rw [if_neg done4]
        simp only [beq_iff_eq] at done4
        have next : HighState key first second _ (place - 1) place2 fuel :=
          ⟨merged4, by omega, by omega, by omega, by omega, by have := state.enough; omega⟩
        by_cases switch : (decide (left1 - place ≥ gallopWins) || decide (left2 - 1 - place2 ≥ gallopWins)) = true
        · rw [if_pos switch]
          exact gallop _ _ _ _ next
        · rw [if_neg switch]
          exact one _ _ _ _ _ _ next
      · intro back left1 left2 threshold firstWins secondWins state
        have firstLeft := state.firstLeft
        have firstWithin := state.firstWithin
        have secondLeft := state.secondLeft
        have secondWithin := state.secondWithin
        rw [highOne, input.compare_first_second (show left1 - 1 < first.size by omega)
          (show left2 - 1 < second.size by omega)]
        simp only [bind, Except.bind]
        by_cases smaller : key (second.getD (left2 - 1) default) < key (first.getD (left1 - 1) default)
        · -- the first run's last item left goes behind
          have merged : highRest key first second (left1 - 1) left2 ++
              (back.push (first.getD (left1 - 1) default)).toList.reverse =
                List.merge first.toList second.toList (byKey key) := by
            rw [← state.merged, highRest_pop_first input firstLeft firstWithin (by omega) secondWithin smaller]
            simp
          simp only [smaller, decide_true, if_true]
          by_cases done : (left1 - 1 == 0) = true
          · rw [if_pos done, highFinish_eq merged (.inl (by simpa using done))]
            exact ⟨_, rfl⟩
          rw [if_neg done]
          simp only [beq_iff_eq] at done
          have next : HighState key first second (back.push (first.getD (left1 - 1) default)) (left1 - 1) left2 fuel :=
            ⟨merged, by omega, by omega, secondLeft, secondWithin, by have := state.enough; omega⟩
          by_cases switch : firstWins + 1 ≥ threshold
          · rw [if_pos switch]
            exact gallop _ _ _ _ next
          · rw [if_neg switch]
            exact one _ _ _ _ _ _ next
        · -- the second run's last item left goes behind
          have merged : highRest key first second left1 (left2 - 1) ++
              (back.push (second.getD (left2 - 1) default)).toList.reverse =
                List.merge first.toList second.toList (byKey key) := by
            rw [← state.merged, highRest_pop_second input firstLeft firstWithin (by omega) secondWithin
              (not_lt.1 smaller)]
            simp
          simp only [smaller, decide_false, Bool.false_eq_true, if_false]
          by_cases last : (left2 - 1 == 1) = true
          · have one : left2 - 1 = 1 := by simpa using last
            rw [if_pos last, highFirst_eq input overlap one merged]
            exact ⟨_, rfl⟩
          rw [if_neg last]
          simp only [beq_iff_eq] at last
          have next : HighState key first second (back.push (second.getD (left2 - 1) default)) left1 (left2 - 1) fuel :=
            ⟨merged, firstLeft, firstWithin, by omega, by omega, by have := state.enough; omega⟩
          by_cases switch : secondWins + 1 ≥ threshold
          · rw [if_pos switch]
            exact gallop _ _ _ _ next
          · rw [if_neg switch]
            exact one _ _ _ _ _ _ next

/-- A merge from the back of two overlapping runs is their stable merge. -/
theorem mergeHigh_eq_merge (input : MergeInput less key first second) (overlap : Overlapping key first second)
    (threshold : Nat) :
    ∃ t, mergeHigh less first second threshold =
      .ok ((List.merge first.toList second.toList (byKey key)).toArray, t) := by
  have firstNonempty := overlap.firstNonempty
  have secondNonempty := overlap.secondNonempty
  -- the first run's last item goes last
  have merged : highRest key first second (first.size - 1) second.size ++
      #[first.getD (first.size - 1) default].toList.reverse = List.merge first.toList second.toList (byKey key) := by
    rw [← highRest_size, highRest_pop_first input firstNonempty le_rfl secondNonempty le_rfl
      (overlap.lastAbove _ (by simp [Array.getD_eq_getD_getElem?, show second.size - 1 < second.size by omega]))]
    rfl
  unfold mergeHigh
  by_cases single : (first.size - 1 == 0) = true
  · rw [if_pos single, highFinish_eq merged (.inl (by simpa using single))]
    exact ⟨_, rfl⟩
  rw [if_neg single]
  by_cases last : (second.size == 1) = true
  · have one : second.size = 1 := by simpa using last
    rw [if_pos last, highFirst_eq input overlap one merged]
    exact ⟨_, rfl⟩
  rw [if_neg last]
  simp only [beq_iff_eq] at single last
  exact (high_merges input overlap _).2 _ _ _ _ _ _ ⟨merged, by omega, by omega, by omega, le_rfl, by omega⟩

end High


/-! ### Merging two adjacent runs -/

theorem getD_extract {items : Array α} {i j k : Nat} (inside : i + k < j) (within : j ≤ items.size) :
    (items.extract i j).getD k default = items.getD (i + k) default := by
  rw [getD_eq_getElem_toList (by simp; omega), getD_eq_getElem_toList (by omega)]
  simp [Array.toList_extract, List.extract_eq_take_drop]

/-- In a sorted run no item is below the head. -/
theorem getD_zero_le {items : Array α} (sorted : items.toList.Pairwise (fun a b => key a ≤ key b))
    {b : α} (member : b ∈ items) : key (items.getD 0 default) ≤ key b := by
  obtain ⟨i, inside, rfl⟩ := List.getElem_of_mem (Array.mem_toList_iff.2 member)
  rw [getD_eq_getElem_toList (by simp at inside; omega)]
  rcases Nat.eq_zero_or_pos i with rfl | later
  · exact le_rfl
  · exact List.pairwise_iff_getElem.1 sorted 0 i _ _ later

/-- In a sorted run no item is above the last. -/
theorem le_getD_last {items : Array α} (sorted : items.toList.Pairwise (fun a b => key a ≤ key b))
    {a : α} (member : a ∈ items) : key a ≤ key (items.getD (items.size - 1) default) := by
  have nonempty : 0 < items.size := Array.size_pos_of_mem member
  rw [getD_eq_getElem_toList (by omega : items.size - 1 < items.size)]
  refine le_of_mem_take_succ sorted (by simp; omega) ?_
  rw [show items.size - 1 + 1 = items.toList.length by simp; omega, List.take_length]
  exact Array.mem_toList_iff.2 member

/-- Merging two adjacent sorted runs gives their stable merge. -/
theorem mergeRuns_eq_merge (input : MergeInput less key first second) (threshold : Nat) :
    ∃ t, mergeRuns less threshold first second =
      .ok ((List.merge first.toList second.toList (byKey key)).toArray, t) := by
  unfold mergeRuns
  by_cases empty : (first.isEmpty || second.isEmpty) = true
  · -- one run is empty, and the merge is the other
    rw [if_pos empty]
    refine ⟨threshold, ?_⟩
    simp only [Bool.or_eq_true, Array.isEmpty_iff] at empty
    rcases empty with rfl | rfl <;> simp [pure, Except.pure]
  rw [if_neg empty]
  simp only [Bool.or_eq_true, Array.isEmpty_iff_size_eq_zero, not_or] at empty
  have firstNonempty : 0 < first.size := Nat.pos_of_ne_zero empty.1
  have secondNonempty : 0 < second.size := Nat.pos_of_ne_zero empty.2
  have wholeFirst : (window first 0 first.size).toList = first.toList := by
    simpa using toList_window_rest first 0
  have wholeSecond : (window second 0 second.size).toList = second.toList := by
    simpa using toList_window_rest second 0
  -- the items of the first run not above the second run's head stay in front
  obtain ⟨kept, keptRan, keptLe, keptBelow, keptAbove⟩ :=
    gallopRight_window input.orders (getD_pool input.secondIn secondNonempty default) input.firstIn
      (show 0 + first.size ≤ first.size by omega) firstNonempty (wholeFirst ▸ input.firstSorted)
  rw [wholeFirst] at keptBelow keptAbove
  rw [keptRan]
  simp only [bind, Except.bind]
  by_cases whole : (kept == first.size) = true
  · rw [if_pos whole]
    refine ⟨threshold, ?_⟩
    simp only [beq_iff_eq] at whole
    rw [whole, List.take_of_length_le (by simp)] at keptBelow
    rw [List.merge_of_le fun a b memberA memberB => byKey_eq_true.2
      (le_trans (keptBelow a memberA) (getD_zero_le input.secondSorted (Array.mem_toList_iff.1 memberB)))]
    simp [pure, Except.pure]
  rw [if_neg whole]
  simp only [beq_iff_eq] at whole
  have keptLt : kept < first.size := lt_of_le_of_ne keptLe whole
  have restLast : (first.extract kept first.size).getD ((first.extract kept first.size).size - 1) default =
      first.getD (first.size - 1) default := by
    rw [getD_extract (by simp; omega) le_rfl]
    congr 1
    simp
    omega
  -- the items of the second run below the first run's last item are the ones to merge
  obtain ⟨reach, reachRan, reachLe, reachBelow, reachAbove⟩ :=
    gallopLeft_window input.orders (getD_pool input.firstIn (show first.size - 1 < first.size by omega) default)
      input.secondIn (show 0 + second.size ≤ second.size by omega) (show second.size - 1 < second.size by omega)
      (wholeSecond ▸ input.secondSorted)
  rw [wholeSecond] at reachBelow reachAbove
  rw [restLast, reachRan]
  dsimp only
  by_cases none : (reach == 0) = true
  · rw [if_pos none]
    refine ⟨threshold, ?_⟩
    simp only [beq_iff_eq] at none
    rw [none, List.drop_zero] at reachAbove
    rw [List.merge_of_le fun a b memberA memberB => byKey_eq_true.2
      (le_trans (le_getD_last input.firstSorted (Array.mem_toList_iff.1 memberA)) (reachAbove b memberB))]
    simp [pure, Except.pure]
  rw [if_neg none]
  simp only [beq_iff_eq] at none
  -- what is left between is a pair of overlapping runs
  have inner : MergeInput less key (first.extract kept first.size) (second.extract 0 reach) :=
    ⟨input.orders.mono fun a member => member.imp mem_of_mem_extract mem_of_mem_extract,
      by rw [toList_extract_size]; exact input.firstSorted.sublist (List.drop_sublist _ _),
      by rw [toList_extract_zero]; exact input.secondSorted.sublist (List.take_sublist _ _)⟩
  have overlap : Overlapping key (first.extract kept first.size) (second.extract 0 reach) := by
    refine ⟨by simp; omega, by simp; omega, ?_, ?_⟩
    · rw [getD_extract (by omega) le_rfl, getD_extract (by omega) (by omega)]
      refine keptAbove _ ?_
      rw [drop_eq_getD_cons keptLt]
      exact List.mem_cons_self
    · intro b member
      rw [restLast]
      exact reachBelow b (by rw [← toList_extract_zero]; exact Array.mem_toList_iff.2 member)
  -- the kept front, the merge between and the second run's rest make the whole merge
  have secondSplit : second.toList = second.getD 0 default :: second.toList.drop 1 := by
    simpa using drop_eq_getD_cons (i := 0) secondNonempty
  have whole : List.merge first.toList second.toList (byKey key) =
      first.toList.take kept ++ List.merge (first.toList.drop kept) (second.toList.take reach) (byKey key) ++
        second.toList.drop reach := by
    calc List.merge first.toList second.toList (byKey key)
        = List.merge (first.toList.take kept ++ first.toList.drop kept)
            (second.getD 0 default :: second.toList.drop 1) (byKey key) := by
          rw [List.take_append_drop, ← secondSplit]
      _ = first.toList.take kept ++ List.merge (first.toList.drop kept) second.toList (byKey key) := by
          rw [merge_prefix_left keptBelow, ← secondSplit]
      _ = first.toList.take kept ++ List.merge (first.toList.drop kept)
            (second.toList.take reach ++ second.toList.drop reach) (byKey key) := by
          rw [List.take_append_drop]
      _ = _ := by
          rw [merge_suffix_right (fun a memberA s memberS => le_trans
            (le_getD_last input.firstSorted (mem_of_mem_extract (Array.mem_toList_iff.1
              (by rw [toList_extract_size]; exact memberA))))
            (reachAbove s memberS)), List.append_assoc]
  have assembled : first.extract 0 kept ++
      (List.merge (first.extract kept first.size).toList (second.extract 0 reach).toList (byKey key)).toArray ++
        second.extract reach second.size = (List.merge first.toList second.toList (byKey key)).toArray := by
    apply Array.toList_inj.1
    rw [whole]
    simp only [Array.toList_append, toList_extract_zero, toList_extract_size]
  -- the merge between is the same from either end
  by_cases shorter : (first.extract kept first.size).size ≤ reach
  · obtain ⟨t, ran⟩ := mergeLow_eq_merge inner overlap threshold
    rw [if_pos shorter, ran]
    exact ⟨t, by simp only [pure, Except.pure, assembled]⟩
  · obtain ⟨t, ran⟩ := mergeHigh_eq_merge inner overlap threshold
    rw [if_neg shorter, ran]
    exact ⟨t, by simp only [pure, Except.pure, assembled]⟩

end Sorting

end LoadHarness
