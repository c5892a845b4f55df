import LoadHarness.Number.Binary

/-!
# Timers on a virtual clock

A virtual clock reads 0.0 at first and moves only when nothing is ready to
run: it then jumps to the earliest pending timer.  A timer is set at the
current reading plus a delay, and is due once its time lies less than the
clock's resolution, `10⁻⁹`, ahead of the reading.  Due timers fire in the
order of their times, and timers of equal time in the order they were set.

`Timers` keeps the pending timers sorted by that order, so that the due ones
are always a prefix, and the earliest is the head.
-/

namespace LoadHarness

/-- The resolution of the virtual clock: `10⁻⁹` seconds. -/
def clockResolution : Float := Binary.nearest false 1 1000000000

/-- A pending timer: when it is due, its sequence number among all timers
set, and what it wakes. -/
structure Timer (α : Type) where
  due : Float
  seq : Nat
  wakes : α
  deriving Inhabited

namespace Timer

/-- Whether timer `a` fires before timer `b`: earlier time, or equal time and
set earlier. -/
def before {α : Type} (a b : Timer α) : Bool :=
  a.due < b.due || (a.due == b.due && a.seq < b.seq)

end Timer

/-- Pending timers, in firing order. -/
abbrev Timers (α : Type) := List (Timer α)

namespace Timers

variable {α : Type}

/-- Add a timer at its place in firing order. -/
def insert (timer : Timer α) : Timers α → Timers α
  | [] => [timer]
  | first :: rest => if timer.before first then timer :: first :: rest else first :: insert timer rest

/-- Remove the timer with sequence number `seq`. -/
def cancel (seq : Nat) (timers : Timers α) : Timers α := timers.filter fun timer => timer.seq != seq

/-- The clock reading after waiting for the earliest timer: the timer's time
when it lies ahead, otherwise the reading unchanged. -/
def advance (now : Float) : Timers α → Float
  | [] => now
  | first :: _ => if first.due > now then first.due else now

/-- The timers due at reading `now`, in firing order, and the rest. -/
def takeDue (now : Float) (timers : Timers α) : List (Timer α) × Timers α :=
  let horizon := now + clockResolution
  (timers.takeWhile fun timer => timer.due < horizon, timers.dropWhile fun timer => timer.due < horizon)

end Timers

end LoadHarness
