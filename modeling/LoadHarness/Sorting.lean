/-!
# Stable sorting by a fallible order

`Sorting.sortBy less items` sorts `items` stably by the strict order `less`,
which may refuse to compare two items.  The comparisons are made in a fixed
sequence, so that the first refusal, and the placement of items that the order
cannot tell apart consistently (such as NaN), is determined:

1. the list is cut into natural runs: a run that starts strictly descending
   continues while each item is smaller than the one before it and is then
   reversed; otherwise it continues while no item is smaller than the one
   before it;
2. a run shorter than the minimum run length (all of a list of fewer than 64
   items) is extended to that length by inserting the following items one by
   one, each at the place found by binary search, after all items it is not
   smaller than;
3. runs are merged in the order given by the power of the boundary between
   two runs (a run stack where a boundary of larger power is merged before
   one of smaller power), as soon as the run after the boundary has been cut
   and before the next run is cut; what is left on the stack at the end is
   merged from the top;
4. a merge first leaves in place the head of the first run that is not
   larger than the second run's head and the tail of the second run that is
   larger than the first run's last item, found by galloping (probing at
   offsets 1, 3, 7, … and then searching in binary); it then merges from the
   side of the shorter remainder, one item at a time until a run wins
   repeatedly, then by galloping; the number of wins that starts galloping
   adapts from merge to merge, starting at 7.

Under a strict weak order every such sequence gives the same result: the
unique stable sort.
-/

namespace LoadHarness

namespace Sorting

variable {ε α : Type}

/-- The items following `last` while none is smaller than its predecessor,
and the rest. -/
def ascendingPart (less : α → α → Except ε Bool) (last : α) : List α → Except ε (List α × List α)
  | [] => pure ([], [])
  | item :: rest =>
      match less item last with
      | .error e => .error e
      | .ok true => pure ([], item :: rest)
      | .ok false =>
          match ascendingPart less item rest with
          | .error e => .error e
          | .ok (run, tail) => pure (item :: run, tail)

/-- The items following `last` while each is smaller than its predecessor,
and the rest. -/
def descendingPart (less : α → α → Except ε Bool) (last : α) : List α → Except ε (List α × List α)
  | [] => pure ([], [])
  | item :: rest =>
      match less item last with
      | .error e => .error e
      | .ok false => pure ([], item :: rest)
      | .ok true =>
          match descendingPart less item rest with
          | .error e => .error e
          | .ok (run, tail) => pure (item :: run, tail)

/-- The natural run at the front of a list, put in ascending order, and the rest. -/
def leadingRun (less : α → α → Except ε Bool) : List α → Except ε (List α × List α)
  | [] => pure ([], [])
  | [item] => pure ([item], [])
  | first :: second :: rest =>
      match less second first with
      | .error e => .error e
      | .ok true =>
          match descendingPart less second rest with
          | .error e => .error e
          | .ok (run, tail) => pure ((first :: second :: run).reverse, tail)
      | .ok false =>
          match ascendingPart less second rest with
          | .error e => .error e
          | .ok (run, tail) => pure (first :: second :: run, tail)

/-- The place of `pivot` among `sorted[low:high]`, found by binary search:
after every item it is not smaller than. -/
def insertionPoint (less : α → α → Except ε Bool) (sorted : Array α) (pivot : α)
    (low high : Nat) : Except ε Nat :=
  if _h : low < high then
    let probe := low + (high - low) / 2
    match sorted[probe]? with
    | none => pure low
    | some item =>
        match less pivot item with
        | .error e => .error e
        | .ok true => insertionPoint less sorted pivot low probe
        | .ok false => insertionPoint less sorted pivot (probe + 1) high
  else pure low
termination_by high - low

/-- Insert each of `items`, in order, into the sorted array at its binary-search place. -/
def insertEach (less : α → α → Except ε Bool) (sorted : Array α) : List α → Except ε (Array α)
  | [] => pure sorted
  | item :: rest =>
      match insertionPoint less sorted item 0 sorted.size with
      | .error e => .error e
      | .ok place => insertEach less (sorted.insertIdxIfInBounds place item) rest

/-- The top six bits of `count` (all of it below 64) and whether any lower bit is set. -/
def minimumRunParts (count : Nat) : Nat × Bool :=
  if count < 64 then (count, false)
  else
    let (top, lower) := minimumRunParts (count / 2)
    (top, lower || count % 2 == 1)
termination_by count
decreasing_by omega

/-- The minimum run length for a list of `count` items: `count` itself below
64, otherwise the top six bits of `count`, plus one if any lower bit is set. -/
def minimumRun (count : Nat) : Nat :=
  let (top, lower) := minimumRunParts count
  if lower then top + 1 else top

/-- The run at the front of a list: its natural run, extended to the minimum
length `minimum` (or to the whole list, if shorter) by binary insertion; and
the rest of the list. -/
def nextRun (less : α → α → Except ε Bool) (minimum : Nat) (items : List α) :
    Except ε (Array α × List α) := do
  let (run, rest) ← leadingRun less items
  if run.length < minimum then
    let extra := min minimum items.length - run.length
    let forced ← insertEach less run.toArray (rest.take extra)
    pure (forced, rest.drop extra)
  else pure (run.toArray, rest)

/-- How many wins in a row keep a merge galloping. -/
def gallopWins : Nat := 7

/-- The place of `key` among the `count` items of `items` from `base` on
(sorted), found by galloping from position `hint` and then by binary search:
the number of those items smaller than `key`, so that `key` goes before the
items it equals. -/
def gallopLeft [Inhabited α] (less : α → α → Except ε Bool) (key : α) (items : Array α)
    (base count hint : Nat) : Except ε Nat := do
  let at_ (i : Nat) : α := items.getD (base + i) default
  let fuel := count + 1
  let (low, high) ←
    if ← less (at_ hint) key then
      -- gallop right, until the item at `hint + last` is smaller and the one at `hint + ofs` is not
      let reach := count - hint
      let rec right (fuel last ofs : Nat) : Except ε (Nat × Nat) :=
        match fuel with
        | 0 => pure (last, ofs)
        | fuel + 1 =>
            if ofs < reach then do
              if ← less (at_ (hint + ofs)) key then right fuel ofs (2 * ofs + 1) else pure (last, ofs)
            else pure (last, ofs)
      let (last, ofs) ← right fuel 0 1
      pure (hint + last + 1, hint + min ofs reach)
    else
      -- gallop left, until the item at `hint - ofs` is smaller and the one at `hint - last` is not
      let reach := hint + 1
      let rec left (fuel last ofs : Nat) : Except ε (Nat × Nat) :=
        match fuel with
        | 0 => pure (last, ofs)
        | fuel + 1 =>
            if ofs < reach then do
              if ← less (at_ (hint - ofs)) key then pure (last, ofs) else left fuel ofs (2 * ofs + 1)
            else pure (last, ofs)
      let (last, ofs) ← left fuel 0 1
      pure (hint + 1 - min ofs reach, hint - last)
  let rec search (fuel low high : Nat) : Except ε Nat :=
    match fuel with
    | 0 => pure high
    | fuel + 1 =>
        if low < high then do
          let middle := low + (high - low) / 2
          if ← less (at_ middle) key then search fuel (middle + 1) high else search fuel low middle
        else pure high
  search fuel low high

/-- The place of `key` among the `count` items of `items` from `base` on
(sorted), found by galloping from position `hint` and then by binary search:
the number of those items that `key` is not smaller than, so that `key` goes
after the items it equals. -/
def gallopRight [Inhabited α] (less : α → α → Except ε Bool) (key : α) (items : Array α)
    (base count hint : Nat) : Except ε Nat := do
  let at_ (i : Nat) : α := items.getD (base + i) default
  let fuel := count + 1
  let (low, high) ←
    if ← less key (at_ hint) then
      -- gallop left, until `key` is not smaller than the item at `hint - ofs`
      let reach := hint + 1
      let rec left (fuel last ofs : Nat) : Except ε (Nat × Nat) :=
        match fuel with
        | 0 => pure (last, ofs)
        | fuel + 1 =>
            if ofs < reach then do
              if ← less key (at_ (hint - ofs)) then left fuel ofs (2 * ofs + 1) else pure (last, ofs)
            else pure (last, ofs)
      let (last, ofs) ← left fuel 0 1
      pure (hint + 1 - min ofs reach, hint - last)
    else
      -- gallop right, until `key` is smaller than the item at `hint + ofs`
      let reach := count - hint
      let rec right (fuel last ofs : Nat) : Except ε (Nat × Nat) :=
        match fuel with
        | 0 => pure (last, ofs)
        | fuel + 1 =>
            if ofs < reach then do
              if ← less key (at_ (hint + ofs)) then pure (last, ofs) else right fuel ofs (2 * ofs + 1)
            else pure (last, ofs)
      let (last, ofs) ← right fuel 0 1
      pure (hint + last + 1, hint + min ofs reach)
  let rec search (fuel low high : Nat) : Except ε Nat :=
    match fuel with
    | 0 => pure high
    | fuel + 1 =>
        if low < high then do
          let middle := low + (high - low) / 2
          if ← less key (at_ middle) then search fuel low middle else search fuel (middle + 1) high
        else pure high
  search fuel low high

/-- The items of `items` from `start`, `count` of them. -/
def window (items : Array α) (start count : Nat) : Array α := items.extract start (start + count)

/-- The end of a merge from the front, with `out` merged: the rest of the
first run, then the rest of the second (which is already in place). -/
def lowFinish (first second out : Array α) (i j : Nat) : Array α :=
  out ++ first.extract i first.size ++ second.extract j second.size

/-- The end of a merge from the front when one item of the first run is left:
it belongs after the rest of the second run. -/
def lowLast (first second out : Array α) (i j : Nat) : Array α :=
  out ++ second.extract j second.size ++ first.extract i first.size

mutual

/-- One round of galloping in a merge from the front: `out` is merged, the
first run is left from `i`, the second from `j`.  The threshold drops by one
(not below 1); the first run gives the stretch the second's head goes after,
then the second's head; the second gives the stretch the first's head goes
before, then the first's head.  Galloping goes on while either stretch has
`gallopWins` items; otherwise one item at a time resumes with the threshold
raised by one. -/
def lowGallop [Inhabited α] (less : α → α → Except ε Bool) (first second : Array α) :
    Nat → Array α → Nat → Nat → Nat → Except ε (Array α × Nat)
  | 0, out, i, j, threshold => pure (lowFinish first second out i j, threshold)
  | fuel + 1, out, i, j, threshold => do
      let threshold := if threshold > 1 then threshold - 1 else threshold
      let taken ← gallopRight less (second.getD j default) first i (first.size - i) 0
      let out := out ++ window first i taken
      let i := i + taken
      if first.size - i == 1 then return (lowLast first second out i j, threshold)
      if first.size - i == 0 then return (lowFinish first second out i j, threshold)
      let out := out.push (second.getD j default)
      let j := j + 1
      if j == second.size then return (lowFinish first second out i j, threshold)
      let given ← gallopLeft less (first.getD i default) second j (second.size - j) 0
      let out := out ++ window second j given
      let j := j + given
      if j == second.size then return (lowFinish first second out i j, threshold)
      let out := out.push (first.getD i default)
      let i := i + 1
      if first.size - i == 1 then return (lowLast first second out i j, threshold)
      if taken ≥ gallopWins || given ≥ gallopWins then lowGallop less first second fuel out i j threshold
      else lowOne less first second fuel out i j (threshold + 1) 0 0

/-- One step of a merge from the front, one item at a time: the second run
gives its head only when it is smaller than the first's.  A run that has won
`threshold` times in a row starts galloping, the threshold raised by one. -/
def lowOne [Inhabited α] (less : α → α → Except ε Bool) (first second : Array α) :
    Nat → Array α → Nat → Nat → Nat → Nat → Nat → Except ε (Array α × Nat)
  | 0, out, i, j, threshold, _, _ => pure (lowFinish first second out i j, threshold)
  | fuel + 1, out, i, j, threshold, firstWins, secondWins => do
      if ← less (second.getD j default) (first.getD i default) then
        let out := out.push (second.getD j default)
        let j := j + 1
        if j == second.size then return (lowFinish first second out i j, threshold)
        if secondWins + 1 ≥ threshold then lowGallop less first second fuel out i j (threshold + 1)
        else lowOne less first second fuel out i j threshold 0 (secondWins + 1)
      else
        let out := out.push (first.getD i default)
        let i := i + 1
        if first.size - i == 1 then return (lowLast first second out i j, threshold)
        if firstWins + 1 ≥ threshold then lowGallop less first second fuel out i j (threshold + 1)
        else lowOne less first second fuel out i j threshold (firstWins + 1) 0

end

/-- Merge two adjacent sorted runs from the front, the first no longer than
the second, its first item known to be larger than the second's first and its
last item known to belong after all of the second run but its tail.  Returns
the merged items and the gallop threshold for later merges. -/
def mergeLow [Inhabited α] (less : α → α → Except ε Bool) (first second : Array α)
    (threshold : Nat) : Except ε (Array α × Nat) :=
  let out : Array α := #[second.getD 0 default]
  if second.size == 1 then pure (lowFinish first second out 0 1, threshold)
  else if first.size == 1 then pure (lowLast first second out 0 1, threshold)
  else lowOne less first second (first.size + second.size + 1) out 0 1 threshold 0 0

/-- The end of a merge from the back, `back` holding the merged tail from its
last item: the `left1` items left of the first run (in place), the `left2`
left of the second, then the tail. -/
def highFinish (first second back : Array α) (left1 left2 : Nat) : Array α :=
  first.extract 0 left1 ++ second.extract 0 left2 ++ back.reverse

/-- The end of a merge from the back when one item of the second run is left:
it belongs before the rest of the first run. -/
def highFirst (first second back : Array α) (left1 : Nat) : Array α :=
  second.extract 0 1 ++ first.extract 0 left1 ++ back.reverse

/-- The last `count` items before position `stop`, from the back. -/
def backwards (items : Array α) (stop count : Nat) : Array α :=
  (items.extract (stop - count) stop).reverse

mutual

/-- One round of galloping in a merge from the back: the mirror image of
`lowGallop`, with `left1` and `left2` items of the runs left and the merged
tail in `back`. -/
def highGallop [Inhabited α] (less : α → α → Except ε Bool) (first second : Array α) :
    Nat → Array α → Nat → Nat → Nat → Except ε (Array α × Nat)
  | 0, back, left1, left2, threshold => pure (highFinish first second back left1 left2, threshold)
  | fuel + 1, back, left1, left2, threshold => do
      let threshold := if threshold > 1 then threshold - 1 else threshold
      let place ← gallopRight less (second.getD (left2 - 1) default) first 0 left1 (left1 - 1)
      let taken := left1 - place
      let back := back ++ backwards first left1 taken
      let left1 := left1 - taken
      if left1 == 0 then return (highFinish first second back left1 left2, threshold)
      let back := back.push (second.getD (left2 - 1) default)
      let left2 := left2 - 1
      if left2 == 1 then return (highFirst first second back left1, threshold)
      let place ← gallopLeft less (first.getD (left1 - 1) default) second 0 left2 (left2 - 1)
      let given := left2 - place
      let back := back ++ backwards second left2 given
      let left2 := left2 - given
      if left2 == 1 then return (highFirst first second back left1, threshold)
      if left2 == 0 then return (highFinish first second back left1 left2, threshold)
      let back := back.push (first.getD (left1 - 1) default)
      let left1 := left1 - 1
      if left1 == 0 then return (highFinish first second back left1 left2, threshold)
      if taken ≥ gallopWins || given ≥ gallopWins then highGallop less first second fuel back left1 left2 threshold
      else highOne less first second fuel back left1 left2 (threshold + 1) 0 0

/-- One step of a merge from the back, one item at a time: the first run
gives its last item only when the second's last item is smaller. -/
def highOne [Inhabited α] (less : α → α → Except ε Bool) (first second : Array α) :
    Nat → Array α → Nat → Nat → Nat → Nat → Nat → Except ε (Array α × Nat)
  | 0, back, left1, left2, threshold, _, _ => pure (highFinish first second back left1 left2, threshold)
  | fuel + 1, back, left1, left2, threshold, firstWins, secondWins => do
      if ← less (second.getD (left2 - 1) default) (first.getD (left1 - 1) default) then
        let back := back.push (first.getD (left1 - 1) default)
        let left1 := left1 - 1
        if left1 == 0 then return (highFinish first second back left1 left2, threshold)
        if firstWins + 1 ≥ threshold then highGallop less first second fuel back left1 left2 (threshold + 1)
        else highOne less first second fuel back left1 left2 threshold (firstWins + 1) 0
      else
        let back := back.push (second.getD (left2 - 1) default)
        let left2 := left2 - 1
        if left2 == 1 then return (highFirst first second back left1, threshold)
        if secondWins + 1 ≥ threshold then highGallop less first second fuel back left1 left2 (threshold + 1)
        else highOne less first second fuel back left1 left2 threshold 0 (secondWins + 1)

end

/-- Merge two adjacent sorted runs from the back, the first longer than the
second: the mirror image of `mergeLow`. -/
def mergeHigh [Inhabited α] (less : α → α → Except ε Bool) (first second : Array α)
    (threshold : Nat) : Except ε (Array α × Nat) :=
  let back : Array α := #[first.getD (first.size - 1) default]
  let left1 := first.size - 1
  if left1 == 0 then pure (highFinish first second back left1 second.size, threshold)
  else if second.size == 1 then pure (highFirst first second back left1, threshold)
  else highOne less first second (first.size + second.size + 1) back left1 second.size threshold 0 0

/-- Merge two adjacent sorted runs: the items of the first run not larger
than the head of the second, and the items of the second run smaller than the
last of the first, stay in place; the rest is merged from the side of the
shorter remainder.  Returns the merged items and the gallop threshold after. -/
def mergeRuns [Inhabited α] (less : α → α → Except ε Bool) (threshold : Nat) (first second : Array α) :
    Except ε (Array α × Nat) := do
  if first.isEmpty || second.isEmpty then return (first ++ second, threshold)
  let kept ← gallopRight less (second.getD 0 default) first 0 first.size 0
  if kept == first.size then return (first ++ second, threshold)
  let rest := first.extract kept first.size
  let reach ← gallopLeft less (rest.getD (rest.size - 1) default) second 0 second.size (second.size - 1)
  if reach == 0 then return (first ++ second, threshold)
  let (merged, threshold) ←
    if rest.size ≤ reach then mergeLow less rest (second.extract 0 reach) threshold
    else mergeHigh less rest (second.extract 0 reach) threshold
  pure (first.extract 0 kept ++ merged ++ second.extract reach second.size, threshold)

/-- A pending run: where it starts in the list, its items, and the power of
its boundary with the run after it. -/
structure Pending (α : Type) where
  start : Nat
  items : Array α
  power : Nat

/-- The power of the boundary between a run at `start` of length `first` and the
run of length `second` after it, in a list of `total` items: the position of
the first binary digit where the midpoints of the two runs, as fractions of
the list, differ.  `fuel` bounds the digits examined. -/
def boundaryPower (start first second total : Nat) : Nat :=
  let rec digits (fuel a b power : Nat) : Nat :=
    match fuel with
    | 0 => power
    | fuel + 1 =>
        if a ≥ total then digits fuel (2 * (a - total)) (2 * (b - total)) (power + 1)
        else if b ≥ total then power + 1
        else digits fuel (2 * a) (2 * b) (power + 1)
  let a := 2 * start + first
  digits (2 * total + 2) a (a + first + second) 0

/-- The pending runs (top first) and the gallop threshold of the next merge. -/
structure Merging (α : Type) where
  stack : List (Pending α)
  threshold : Nat

/-- Merge the two runs on top of the stack. -/
def mergeTop [Inhabited α] (less : α → α → Except ε Bool) (state : Merging α) : Except ε (Merging α) :=
  match state.stack with
  | upper :: lower :: rest => do
      let (merged, threshold) ← mergeRuns less state.threshold lower.items upper.items
      pure ⟨{ lower with items := merged } :: rest, threshold⟩
  | _ => pure state

/-- Merge top runs while the run below the top has a boundary of larger power
than `power`; `fuel` bounds the merges. -/
def collapseAbove [Inhabited α] (less : α → α → Except ε Bool) (power : Nat) :
    Nat → Merging α → Except ε (Merging α)
  | 0, state => pure state
  | fuel + 1, state =>
      match state.stack with
      | _ :: lower :: _ =>
          if lower.power > power then do
            let merged ← mergeTop less state
            collapseAbove less power fuel merged
          else pure state
      | _ => pure state

/-- Cut the list into runs from the front, one at a time; before a run is
pushed, the runs below it are merged as the power of its boundary with the
run before it requires.  `start` is the position of `items` in the whole list
of `total` items, `minimum` the minimum run length; `fuel` bounds the runs. -/
def pushRuns [Inhabited α] (less : α → α → Except ε Bool) (total minimum : Nat) :
    Nat → Merging α → Nat → List α → Except ε (Merging α)
  | 0, state, _, _ => pure state
  | _ + 1, state, _, [] => pure state
  | fuel + 1, state, start, items => do
      let (run, rest) ← nextRun less minimum items
      let next : Pending α := ⟨start, run, 0⟩
      match state.stack with
      | [] => pushRuns less total minimum fuel { state with stack := [next] } (start + run.size) rest
      | top :: _ =>
          let power := boundaryPower top.start top.items.size run.size total
          let collapsed ← collapseAbove less power state.stack.length state
          let marked := match collapsed.stack with
            | top :: rest => { top with power := power } :: rest
            | [] => []
          pushRuns less total minimum fuel { collapsed with stack := next :: marked } (start + run.size) rest

/-- Merge what is left on the stack: of the three top runs, the two adjacent
ones whose outer neighbour is longer are merged first. -/
def collapseAll [Inhabited α] (less : α → α → Except ε Bool) : Nat → Merging α → Except ε (Array α)
  | 0, state => pure (state.stack.reverse.foldl (fun all run => all ++ run.items) #[])
  | fuel + 1, state =>
      match state.stack with
      | [] => pure #[]
      | [only] => pure only.items
      | top :: middle :: bottom :: rest =>
          if bottom.items.size < top.items.size then do
            let (merged, threshold) ← mergeRuns less state.threshold bottom.items middle.items
            collapseAll less fuel ⟨top :: { bottom with items := merged } :: rest, threshold⟩
          else do
            let merged ← mergeTop less state
            collapseAll less fuel merged
      | _ => do
          let merged ← mergeTop less state
          collapseAll less fuel merged

/-- The stable sort of `items` by the fallible strict order `less`. -/
def sortBy [Inhabited α] (less : α → α → Except ε Bool) (items : List α) : Except ε (List α) :=
  if items.length < 2 then pure items
  else do
    let state ← pushRuns less items.length (minimumRun items.length) items.length ⟨[], gallopWins⟩ 0 items
    let sorted ← collapseAll less state.stack.length state
    pure sorted.toList

end Sorting

end LoadHarness
