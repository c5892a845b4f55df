import Mathlib
import LoadHarness.Proofs.Sorting.StableMerge

/-!
# Galloping and binary search find the boundary of a sorted stretch

`gallopLeft` and `gallopRight` look for the place of a key among sorted items: they probe at
offsets 1, 3, 7, … from a hint until they pass the key, then search in binary between the last
two probes.  They differ only in the test made at each probe (whether the item is smaller than
the key, or whether the key is not smaller than the item), so both are `gallopBy` with their own
test (`gallopLeft_eq_gallopBy`, `gallopRight_eq_gallopBy`).

For a test that holds on an initial stretch of the positions and fails after it,
`gallopBy` returns the end of that stretch (`gallopBy_boundary`): each probe keeps the boundary
between the two offsets it returns, and the binary search keeps it between its two ends.  The
binary search that places an item in a sorted run, `insertionPoint`, finds its boundary in the
same way (`insertionPoint_boundary`).

Read on a sorted window of an array, a boundary cuts the window into the items before the key
and the items after it (`Boundary.window`); `gallopLeft_window`, `gallopRight_window` and
`insertionPoint_window` say so for the three searches.
-/

namespace LoadHarness

namespace Sorting

variable {ε : Type}

/-! ### One search for both tests -/

/-- Probe forward from `hint` at offsets 1, 3, 7, … below `reach` while `test` holds there:
the last offset where it held, and the offset where the probing stopped. -/
def probeForward (test : Nat → Except ε Bool) (hint reach : Nat) :
    Nat → Nat → Nat → Except ε (Nat × Nat)
  | 0, last, ofs => pure (last, ofs)
  | fuel + 1, last, ofs =>
      if ofs < reach then do
        if ← test (hint + ofs) then probeForward test hint reach fuel ofs (2 * ofs + 1) else pure (last, ofs)
      else pure (last, ofs)

/-- Probe backward from `hint` at offsets 1, 3, 7, … below `reach` until `test` holds there:
the last offset where it failed, and the offset where the probing stopped. -/
def probeBackward (test : Nat → Except ε Bool) (hint reach : Nat) :
    Nat → Nat → Nat → Except ε (Nat × Nat)
  | 0, last, ofs => pure (last, ofs)
  | fuel + 1, last, ofs =>
      if ofs < reach then do
        if ← test (hint - ofs) then pure (last, ofs) else probeBackward test hint reach fuel ofs (2 * ofs + 1)
      else pure (last, ofs)

/-- Binary search between `low` and `high` for the first position where `test` fails. -/
def probeSearch (test : Nat → Except ε Bool) : Nat → Nat → Nat → Except ε Nat
  | 0, _, high => pure high
  | fuel + 1, low, high =>
      if low < high then do
        let middle := low + (high - low) / 2
        if ← test middle then probeSearch test fuel (middle + 1) high else probeSearch test fuel low middle
      else pure high

/-- The first of the `count` positions where `test` fails, found by galloping from `hint` and
then searching in binary: the search both `gallopLeft` and `gallopRight` make. -/
def gallopBy (test : Nat → Except ε Bool) (count hint : Nat) : Except ε Nat := do
  let fuel := count + 1
  let (low, high) ←
    if ← test hint then
      let reach := count - hint
      let (last, ofs) ← probeForward test hint reach fuel 0 1
      pure (hint + last + 1, hint + min ofs reach)
    else
      let reach := hint + 1
      let (last, ofs) ← probeBackward test hint reach fuel 0 1
      pure (hint + 1 - min ofs reach, hint - last)
  probeSearch test fuel low high

section Equations

variable {α : Type} (less : α → α → Except ε Bool) (key : α) (at_ : Nat → α)

/-- A branch on a negated test is the branch on the test with its arms swapped. -/
theorem bind_not_ite {β : Type} (x : Except ε Bool) (yes no : Except ε β) :
    (x >>= fun b => if b = true then no else yes) = ((fun b => !b) <$> x >>= fun b => if b = true then yes else no) := by
  cases x with
  | error e => rfl
  | ok b => cases b <;> rfl

theorem gallopLeft_right_eq (hint reach : Nat) :
    ∀ fuel last ofs, gallopLeft.right less key hint at_ reach fuel last ofs =
      probeForward (fun i => less (at_ i) key) hint reach fuel last ofs := by
  intro fuel
  induction fuel with
  | zero => intro last ofs; rfl
  | succ fuel ih =>
      intro last ofs
      simp only [gallopLeft.right, probeForward, ih]

theorem gallopLeft_left_eq (hint reach : Nat) :
    ∀ fuel last ofs, gallopLeft.left less key hint at_ reach fuel last ofs =
      probeBackward (fun i => less (at_ i) key) hint reach fuel last ofs := by
  intro fuel
  induction fuel with
  | zero => intro last ofs; rfl
  | succ fuel ih =>
      intro last ofs
      simp only [gallopLeft.left, probeBackward, ih]

theorem gallopLeft_search_eq :
    ∀ fuel low high, gallopLeft.search less key at_ fuel low high =
      probeSearch (fun i => less (at_ i) key) fuel low high := by
  intro fuel
  induction fuel with
  | zero => intro low high; rfl
  | succ fuel ih =>
      intro low high
      simp only [gallopLeft.search, probeSearch, ih]

theorem gallopRight_right_eq (hint reach : Nat) :
    ∀ fuel last ofs, gallopRight.right less key hint at_ reach fuel last ofs =
      probeForward (fun i => (fun b => !b) <$> less key (at_ i)) hint reach fuel last ofs := by
  intro fuel
  induction fuel with
  | zero => intro last ofs; rfl
  | succ fuel ih =>
      intro last ofs
      simp only [gallopRight.right, probeForward, ih]
      rw [bind_not_ite]

theorem gallopRight_left_eq (hint reach : Nat) :
    ∀ fuel last ofs, gallopRight.left less key hint at_ reach fuel last ofs =
      probeBackward (fun i => (fun b => !b) <$> less key (at_ i)) hint reach fuel last ofs := by
  intro fuel
  induction fuel with
  | zero => intro last ofs; rfl
  | succ fuel ih =>
      intro last ofs
      simp only [gallopRight.left, probeBackward, ih]
      rw [bind_not_ite]

theorem gallopRight_search_eq :
    ∀ fuel low high, gallopRight.search less key at_ fuel low high =
      probeSearch (fun i => (fun b => !b) <$> less key (at_ i)) fuel low high := by
  intro fuel
  induction fuel with
  | zero => intro low high; rfl
  | succ fuel ih =>
      intro low high
      simp only [gallopRight.search, probeSearch, ih]
      rw [bind_not_ite]

/-- `gallopLeft` tests whether the item at a position is smaller than the key. -/
theorem gallopLeft_eq_gallopBy [Inhabited α] (items : Array α) (base count hint : Nat) :
    gallopLeft less key items base count hint =
      gallopBy (fun i => less (items.getD (base + i) default) key) count hint := by
  simp only [gallopLeft, gallopBy, gallopLeft_right_eq, gallopLeft_left_eq, gallopLeft_search_eq]

/-- `gallopRight` tests whether the key is not smaller than the item at a position. -/
theorem gallopRight_eq_gallopBy [Inhabited α] (items : Array α) (base count hint : Nat) :
    gallopRight less key items base count hint =
      gallopBy (fun i => (fun b => !b) <$> less key (items.getD (base + i) default)) count hint := by
  simp only [gallopRight, gallopBy, gallopRight_right_eq, gallopRight_left_eq, gallopRight_search_eq]
  cases less key (items.getD (base + hint) default) with
  | error e => rfl
  | ok b => cases b <;> rfl

end Equations

/-! ### The boundary of an initial stretch -/

/-- `p` holds on an initial stretch of the positions below `count`, and fails on the rest. -/
def InitialStretch (p : Nat → Bool) (count : Nat) : Prop :=
  ∀ i j, i ≤ j → j < count → p j = true → p i = true

/-- `b` is where the stretch of `p` ends among the positions below `count`. -/
structure Boundary (p : Nat → Bool) (count b : Nat) : Prop where
  le_count : b ≤ count
  below : ∀ i < b, p i = true
  above : ∀ i, b ≤ i → i < count → p i = false

section Search

variable {test : Nat → Except ε Bool} {p : Nat → Bool} {count : Nat}

theorem InitialStretch.false_of_le (initial : InitialStretch p count) {i j : Nat} (le : i ≤ j)
    (inside : j < count) (fails : p i = false) : p j = false := by
  cases holds : p j with
  | false => rfl
  | true => simp [initial i j le inside holds] at fails

/-- The binary search keeps the boundary between its two ends, and each probe narrows them. -/
theorem probeSearch_boundary (tests : ∀ i < count, test i = .ok (p i)) (initial : InitialStretch p count) :
    ∀ fuel low high, low ≤ high → high ≤ count → high - low ≤ fuel →
      (∀ i < low, p i = true) → (∀ i, high ≤ i → i < count → p i = false) →
      ∃ b, probeSearch test fuel low high = .ok b ∧ Boundary p count b := by
  intro fuel
  induction fuel with
  | zero =>
      intro low high ordered inside narrow below above
      obtain rfl : high = low := by omega
      exact ⟨high, rfl, ⟨inside, below, above⟩⟩
  | succ fuel ih =>
      intro low high ordered inside narrow below above
      rw [probeSearch]
      split
      · rename_i apart
        have middleInside : low + (high - low) / 2 < count := by omega
        simp only [tests (low + (high - low) / 2) middleInside, bind, Except.bind]
        cases holds : p (low + (high - low) / 2)
        · -- the stretch ends at the middle or before
          refine ih low _ (by omega) (by omega) (by omega) below fun i after inside' => ?_
          exact initial.false_of_le after inside' holds
        · -- the stretch reaches past the middle
          refine ih _ high (by omega) inside (by omega) (fun i before => ?_) above
          exact initial i _ (by omega) middleInside holds
      · obtain rfl : high = low := by omega
        exact ⟨high, rfl, ⟨inside, below, above⟩⟩

/-- Probing forward from a position inside the stretch stops at an offset past it, keeping the
last offset inside. -/
theorem probeForward_bounds (tests : ∀ i < count, test i = .ok (p i)) {hint reach : Nat}
    (fills : hint + reach = count) :
    ∀ fuel last ofs, last < ofs → last < reach → p (hint + last) = true → reach + 1 ≤ fuel + ofs →
      ∃ last' ofs', probeForward test hint reach fuel last ofs = .ok (last', ofs') ∧
        last' < ofs' ∧ last' < reach ∧ p (hint + last') = true ∧
          (reach ≤ ofs' ∨ p (hint + ofs') = false) := by
  intro fuel
  induction fuel with
  | zero =>
      intro last ofs ordered inside holds enough
      exact ⟨last, ofs, rfl, ordered, inside, holds, .inl (by omega)⟩
  | succ fuel ih =>
      intro last ofs ordered inside holds enough
      rw [probeForward]
      split
      · rename_i within
        simp only [tests (hint + ofs) (by omega), bind, Except.bind]
        cases probe : p (hint + ofs)
        · exact ⟨last, ofs, rfl, ordered, inside, holds, .inr probe⟩
        · exact ih ofs (2 * ofs + 1) (by omega) within probe (by omega)
      · exact ⟨last, ofs, rfl, ordered, inside, holds, .inl (by omega)⟩

/-- Probing backward from a position past the stretch stops at an offset inside it, keeping the
last offset past it. -/
theorem probeBackward_bounds (tests : ∀ i < count, test i = .ok (p i)) {hint : Nat} (hintInside : hint < count) :
    ∀ fuel last ofs, last < ofs → last ≤ hint → p (hint - last) = false → hint + 2 ≤ fuel + ofs →
      ∃ last' ofs', probeBackward test hint (hint + 1) fuel last ofs = .ok (last', ofs') ∧
        last' < ofs' ∧ last' ≤ hint ∧ p (hint - last') = false ∧
          (hint + 1 ≤ ofs' ∨ p (hint - ofs') = true) := by
  intro fuel
  induction fuel with
  | zero =>
      intro last ofs ordered inside fails enough
      exact ⟨last, ofs, rfl, ordered, inside, fails, .inl (by omega)⟩
  | succ fuel ih =>
      intro last ofs ordered inside fails enough
      rw [probeBackward]
      split
      · rename_i within
        simp only [tests (hint - ofs) (by omega), bind, Except.bind]
        cases probe : p (hint - ofs)
        · exact ih ofs (2 * ofs + 1) (by omega) (by omega) probe (by omega)
        · exact ⟨last, ofs, rfl, ordered, inside, fails, .inr probe⟩
      · exact ⟨last, ofs, rfl, ordered, inside, fails, .inl (by omega)⟩

/-- Galloping from any position, then searching in binary, finds the end of the stretch. -/
theorem gallopBy_boundary (tests : ∀ i < count, test i = .ok (p i)) (initial : InitialStretch p count)
    {hint : Nat} (hintInside : hint < count) :
    ∃ b, gallopBy test count hint = .ok b ∧ Boundary p count b := by
  simp only [gallopBy, tests hint hintInside, bind, Except.bind]
  cases atHint : p hint
  · -- the hint is past the stretch: probe backward to a position inside it
    obtain ⟨last, ofs, probed, ordered, inside, fails, stop⟩ :=
      probeBackward_bounds tests hintInside (count + 1) 0 1 (by omega) (by omega) (by simpa using atHint)
        (by omega)
    simp only [Bool.false_eq_true, if_false, probed, pure, Except.pure]
    refine probeSearch_boundary tests initial _ _ _ (by omega) (by omega) (by omega) (fun i before => ?_)
      (fun i after inside' => initial.false_of_le (by omega) inside' fails)
    rcases stop with passed | holds
    · omega
    · exact initial i _ (by omega) (by omega) holds
  · -- the hint is inside the stretch: probe forward to a position past it
    obtain ⟨last, ofs, probed, ordered, inside, holds, stop⟩ :=
      probeForward_bounds tests (show hint + (count - hint) = count by omega) (count + 1) 0 1
        (by omega) (by omega) (by simpa using atHint) (by omega)
    simp only [if_true, probed, pure, Except.pure]
    refine probeSearch_boundary tests initial _ _ _ (by omega) (by omega) (by omega)
      (fun i before => initial i _ (by omega) (by omega) holds) (fun i after inside' => ?_)
    rcases stop with passed | fails
    · omega
    · exact initial.false_of_le (by omega) inside' fails

end Search

/-! ### Placing one item by binary search -/

section Insertion

variable {α β : Type} [LinearOrder β] {less : α → α → Except ε Bool} {key : α → β}

/-- `less` orders the items that satisfy `pool` by `key`, and never fails on them. -/
def OrdersBy (less : α → α → Except ε Bool) (key : α → β) (pool : α → Prop) : Prop :=
  ∀ a, pool a → ∀ b, pool b → less a b = .ok (decide (key a < key b))

/-- The binary search for an item's place keeps the boundary between its two ends: the items
before `low` are not above the item, the items from `high` on are. -/
theorem insertionPoint_boundary {pool : α → Prop} (orders : OrdersBy less key pool) (sorted : Array α)
    (pivot : α) (pivotIn : pool pivot) (sortedIn : ∀ a ∈ sorted, pool a)
    (initial : InitialStretch (fun i => decide (key (sorted.getD i pivot) ≤ key pivot)) sorted.size) :
    ∀ low high, low ≤ high → high ≤ sorted.size →
      (∀ i < low, decide (key (sorted.getD i pivot) ≤ key pivot) = true) →
      (∀ i, high ≤ i → i < sorted.size → decide (key (sorted.getD i pivot) ≤ key pivot) = false) →
      ∃ b, insertionPoint less sorted pivot low high = .ok b ∧
        Boundary (fun i => decide (key (sorted.getD i pivot) ≤ key pivot)) sorted.size b := by
  intro low high
  induction low, high using insertionPoint.induct less sorted pivot with
  | case1 low high apart probe missing =>
      intro ordered inside _ _
      simp only [probe] at missing
      rw [Array.getElem?_eq_none_iff] at missing
      omega
  | case2 low high apart probe item found e failed =>
      intro ordered inside _ _
      simp only [probe] at found
      have compared := orders pivot pivotIn item (sortedIn item (Array.mem_of_getElem? found))
      rw [failed] at compared
      cases compared
  | case3 low high apart probe item found smaller ih =>
      intro ordered inside below above
      rw [insertionPoint, dif_pos apart]
      simp only [probe] at found smaller ⊢
      rw [found]
      simp only [smaller]
      have middleInside : low + (high - low) / 2 < sorted.size := by omega
      have atMiddle : sorted.getD (low + (high - low) / 2) pivot = item := by
        simp [Array.getD_eq_getD_getElem?, found]
      have fails : decide (key (sorted.getD (low + (high - low) / 2) pivot) ≤ key pivot) = false := by
        have := orders pivot pivotIn item (sortedIn item (Array.mem_of_getElem? found))
        rw [smaller] at this
        simpa [atMiddle] using (Except.ok.inj this)
      exact ih (by omega) (by omega) below fun i after inside' => initial.false_of_le after inside' fails
  | case4 low high apart probe item found larger ih =>
      intro ordered inside below above
      rw [insertionPoint, dif_pos apart]
      simp only [probe] at found larger ⊢
      rw [found]
      simp only [larger]
      have middleInside : low + (high - low) / 2 < sorted.size := by omega
      have atMiddle : sorted.getD (low + (high - low) / 2) pivot = item := by
        simp [Array.getD_eq_getD_getElem?, found]
      have holds : decide (key (sorted.getD (low + (high - low) / 2) pivot) ≤ key pivot) = true := by
        have := orders pivot pivotIn item (sortedIn item (Array.mem_of_getElem? found))
        rw [larger] at this
        simpa [atMiddle] using (Except.ok.inj this)
      exact ih (by omega) inside (fun i before => initial i _ (by omega) middleInside holds) above
  | case5 low high closed =>
      intro ordered inside below above
      rw [insertionPoint, dif_neg closed]
      obtain rfl : high = low := by omega
      exact ⟨high, rfl, ⟨inside, below, above⟩⟩

/-! ### Boundaries read on a list -/

variable {P : α → Prop} [DecidablePred P] {at_ : Nat → α} {items : List α}

/-- A boundary of a test read off a list cuts the list into the items that pass and those
that fail. -/
theorem Boundary.take_drop {b : Nat} (reads : ∀ i (h : i < items.length), at_ i = items[i])
    (boundary : Boundary (fun i => decide (P (at_ i))) items.length b) :
    (∀ a ∈ items.take b, P a) ∧ ∀ a ∈ items.drop b, ¬P a := by
  constructor
  · intro a member
    obtain ⟨i, inside, rfl⟩ := List.getElem_of_mem member
    have passes := boundary.below i (by simp at inside; omega)
    rw [List.getElem_take, ← reads i (by simp at inside; omega)]
    simpa using passes
  · intro a member
    obtain ⟨i, inside, rfl⟩ := List.getElem_of_mem member
    rw [List.length_drop] at inside
    have fails := boundary.above (b + i) (by omega) (by omega)
    rw [List.getElem_drop, ← reads (b + i) (by omega)]
    simpa using fails

/-- On a sorted list, a test that passes every item below one that passes holds on an initial
stretch. -/
theorem InitialStretch.of_sorted (reads : ∀ i (h : i < items.length), at_ i = items[i])
    (sorted : items.Pairwise (fun a b => key a ≤ key b)) (downward : ∀ a b, key a ≤ key b → P b → P a) :
    InitialStretch (fun i => decide (P (at_ i))) items.length := by
  intro i j le inside passes
  rw [decide_eq_true_iff, reads j inside] at passes
  rw [decide_eq_true_iff, reads i (by omega)]
  rcases Nat.lt_or_eq_of_le le with before | rfl
  · exact downward _ _ (List.pairwise_iff_getElem.1 sorted i j (by omega) inside before) passes
  · exact passes

theorem toList_window (items : Array α) (start count : Nat) :
    (window items start count).toList = (items.toList.drop start).take count := by
  simp [window]

theorem length_window {items : Array α} {start count : Nat} (inside : start + count ≤ items.size) :
    (window items start count).toList.length = count := by
  simp [toList_window]
  omega

/-- Inside the array, reading at an offset from the start of a window reads the window. -/
theorem getD_window {items : Array α} {start count : Nat} (d : α) (inside : start + count ≤ items.size) :
    ∀ i (h : i < (window items start count).toList.length),
      items.getD (start + i) d = (window items start count).toList[i] := by
  intro i h
  rw [length_window inside] at h
  simp [toList_window, Array.getD_eq_getD_getElem?, show start + i < items.size by omega]

theorem getD_toList {items : Array α} (d : α) :
    ∀ i (h : i < items.toList.length), items.getD i d = items.toList[i] := by
  intro i h
  simp [Array.getD_eq_getD_getElem?, show i < items.size by simpa using h]

/-! ### The three searches, read on their windows -/

variable {pool : α → Prop} {k : α}

theorem getD_pool {items : Array α} (itemsIn : ∀ a ∈ items, pool a) {i : Nat} (inside : i < items.size)
    (d : α) : pool (items.getD i d) := by
  rw [Array.getD_eq_getD_getElem?, Array.getElem?_eq_getElem inside]
  exact itemsIn _ (Array.getElem_mem inside)

/-- `gallopLeft` splits a sorted window into the items with smaller keys than `k` and the rest. -/
theorem gallopLeft_window [Inhabited α] (orders : OrdersBy less key pool) (keyIn : pool k)
    {items : Array α} (itemsIn : ∀ a ∈ items, pool a) {base count hint : Nat}
    (inside : base + count ≤ items.size) (hintInside : hint < count)
    (sorted : (window items base count).toList.Pairwise (fun a b => key a ≤ key b)) :
    ∃ b, gallopLeft less k items base count hint = .ok b ∧ b ≤ count ∧
      (∀ a ∈ (window items base count).toList.take b, key a < key k) ∧
      ∀ a ∈ (window items base count).toList.drop b, key k ≤ key a := by
  have length := length_window inside
  have reads := getD_window default inside
  have tests : ∀ i < count, less (items.getD (base + i) default) k =
      .ok (decide (key (items.getD (base + i) default) < key k)) := fun i before =>
    orders _ (getD_pool itemsIn (by omega) default) _ keyIn
  have initial := InitialStretch.of_sorted (P := fun a => key a < key k) reads sorted
    fun a b le smaller => lt_of_le_of_lt le smaller
  rw [length] at initial
  obtain ⟨b, ran, boundary⟩ := gallopBy_boundary tests initial hintInside
  rw [← length] at boundary
  obtain ⟨before, after⟩ := boundary.take_drop (P := fun a => key a < key k) reads
  refine ⟨b, (gallopLeft_eq_gallopBy ..).trans ran, length ▸ boundary.le_count, before, ?_⟩
  intro a member
  exact not_lt.1 (after a member)

/-- `gallopRight` splits a sorted window into the items with keys not above `k` and the rest. -/
theorem gallopRight_window [Inhabited α] (orders : OrdersBy less key pool) (keyIn : pool k)
    {items : Array α} (itemsIn : ∀ a ∈ items, pool a) {base count hint : Nat}
    (inside : base + count ≤ items.size) (hintInside : hint < count)
    (sorted : (window items base count).toList.Pairwise (fun a b => key a ≤ key b)) :
    ∃ b, gallopRight less k items base count hint = .ok b ∧ b ≤ count ∧
      (∀ a ∈ (window items base count).toList.take b, key a ≤ key k) ∧
      ∀ a ∈ (window items base count).toList.drop b, key k < key a := by
  have length := length_window inside
  have reads := getD_window default inside
  have tests : ∀ i < count, (fun b => !b) <$> less k (items.getD (base + i) default) =
      .ok (decide (key (items.getD (base + i) default) ≤ key k)) := by
    intro i before
    rw [orders _ keyIn _ (getD_pool itemsIn (by omega) default)]
    generalize items.getD (base + i) default = a
    by_cases smaller : key k < key a
    · simp [Functor.map, Except.map, smaller, not_le.2 smaller]
    · simp [Functor.map, Except.map, smaller, not_lt.1 smaller]
  have initial := InitialStretch.of_sorted (P := fun a => key a ≤ key k) reads sorted
    fun a b le below => le_trans le below
  rw [length] at initial
  obtain ⟨b, ran, boundary⟩ := gallopBy_boundary tests initial hintInside
  rw [← length] at boundary
  obtain ⟨before, after⟩ := boundary.take_drop (P := fun a => key a ≤ key k) reads
  refine ⟨b, (gallopRight_eq_gallopBy ..).trans ran, length ▸ boundary.le_count, before, ?_⟩
  intro a member
  exact not_le.1 (after a member)

/-- The binary search of insertion splits a sorted run into the items with keys not above the
item's and the rest. -/
theorem insertionPoint_window (orders : OrdersBy less key pool) {sorted : Array α} (sortedIn : ∀ a ∈ sorted, pool a)
    (ordered : sorted.toList.Pairwise (fun a b => key a ≤ key b)) {pivot : α} (pivotIn : pool pivot) :
    ∃ b, insertionPoint less sorted pivot 0 sorted.size = .ok b ∧ b ≤ sorted.size ∧
      (∀ a ∈ sorted.toList.take b, key a ≤ key pivot) ∧ ∀ a ∈ sorted.toList.drop b, key pivot < key a := by
  have reads : ∀ i (h : i < sorted.toList.length), sorted.getD i pivot = sorted.toList[i] := getD_toList pivot
  have initial := InitialStretch.of_sorted (P := fun a => key a ≤ key pivot) reads ordered
    fun a b le below => le_trans le below
  rw [Array.length_toList] at initial
  obtain ⟨b, ran, boundary⟩ := insertionPoint_boundary orders sorted pivot pivotIn sortedIn initial 0 sorted.size
    (Nat.zero_le _) le_rfl (fun i before => absurd before (Nat.not_lt_zero i))
    (fun i after inside => absurd inside (Nat.not_lt.2 after))
  rw [← Array.length_toList] at boundary
  obtain ⟨before, after⟩ := boundary.take_drop (P := fun a => key a ≤ key pivot) reads
  exact ⟨b, ran, by simpa using boundary.le_count, before, fun a member => not_le.1 (after a member)⟩

end Insertion

end Sorting

end LoadHarness
