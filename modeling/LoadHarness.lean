import LoadHarness.Address
import LoadHarness.Cli.Arguments
import LoadHarness.Cli.Help
import LoadHarness.Cli.Numeral
import LoadHarness.Cli.Program
import LoadHarness.Config
import LoadHarness.Endpoint
import LoadHarness.Failure
import LoadHarness.Header
import LoadHarness.Json.Bytes
import LoadHarness.Json.Decode
import LoadHarness.Json.Parse
import LoadHarness.Json.Write
import LoadHarness.Logging
import LoadHarness.Loop.Clock
import LoadHarness.Loop.Closed
import LoadHarness.Loop.Paced
import LoadHarness.Loop.Pool
import LoadHarness.Loop.Script
import LoadHarness.Loop.Session
import LoadHarness.Main
import LoadHarness.Measure.Recorder
import LoadHarness.Measure.Report
import LoadHarness.Measure.Sample
import LoadHarness.Measure.Tally
import LoadHarness.Number.Binary
import LoadHarness.Number.Fixed
import LoadHarness.Number.Layout
import LoadHarness.Number.Read
import LoadHarness.Number.Shortest
import LoadHarness.Order.Acceptance
import LoadHarness.Order.Basic
import LoadHarness.Order.Generator
import LoadHarness.Order.Key
import LoadHarness.Random.Seed
import LoadHarness.Random.Sha512
import LoadHarness.Random.Twister
import LoadHarness.Sorting
import LoadHarness.Target.Intake
import LoadHarness.Target.Serving
import LoadHarness.Text.Ascii
import LoadHarness.Text.Casing
import LoadHarness.Text.Conversion
import LoadHarness.Text.Idna
import LoadHarness.Text.Normalization
import LoadHarness.Text.Printable
import LoadHarness.Text.Punycode
import LoadHarness.Text.Tables.Canonical
import LoadHarness.Text.Tables.Idna
import LoadHarness.Text.Tables.Lowercase
import LoadHarness.Validation.Issue
import LoadHarness.Validation.Lax
import LoadHarness.Validation.Record
import LoadHarness.Value.Arith
import LoadHarness.Value.Basic
import LoadHarness.Value.Compare
import LoadHarness.Value.Show
import LoadHarness.Proofs.KeyParts
import LoadHarness.Proofs.OpenLoop.Moves
import LoadHarness.Proofs.Settings
import LoadHarness.Proofs.OpenLoop.Callers
import LoadHarness.Proofs.OpenLoop.Ledger
import LoadHarness.Proofs.OpenLoop.Keys
import LoadHarness.Proofs.Target.Acceptances
import LoadHarness.Proofs.ClosedLoop.Moves
import LoadHarness.Proofs.ClosedLoop.Slots
import LoadHarness.Proofs.ClosedLoop.Progress
import LoadHarness.Proofs.ClosedLoop.Calls
import LoadHarness.Proofs.Sorting
import LoadHarness.Proofs.Summary
import LoadHarness.Proofs.ClosedLoop.Run
import LoadHarness.Proofs.OpenLoop.Pacing
import LoadHarness.Proofs.Target.Statuses
import LoadHarness.Proofs.Float.Bits
import LoadHarness.Proofs.Float.Nearest
import LoadHarness.Proofs.Float.Shortest
import LoadHarness.Proofs.Float.Numeral
import LoadHarness.Proofs.Float.Written
import LoadHarness.Proofs.Json.Layout
import LoadHarness.Proofs.Json.Decoding
import LoadHarness.Proofs.Json.Parsing
import LoadHarness.Proofs.Order.RoundTrip
import LoadHarness.Proofs.OpenLoop.Checks
import LoadHarness.Proofs.Float.Rounding
import LoadHarness.Proofs.Float.Arithmetic
import LoadHarness.Proofs.Float.Places
import LoadHarness.Proofs.Order.Draws
import LoadHarness.Proofs.Order.Generation
import LoadHarness.Proofs.Float.Sign
import LoadHarness.Proofs.Endpoint.Attempts
import LoadHarness.Proofs.OpenLoop.Orders
import LoadHarness.Proofs.Cli.Reading
import LoadHarness.Proofs.Cli.Refusals
import LoadHarness.Proofs.Float.Difference
import LoadHarness.Proofs.OpenLoop.Deadline
import LoadHarness.Proofs.Sorting.StableMerge
import LoadHarness.Proofs.Sorting.Gallop
import LoadHarness.Proofs.Sorting.Runs
import LoadHarness.Proofs.Sorting.Merging
import LoadHarness.Proofs.Sorting.Stable
import LoadHarness.Proofs.Float.Order
import LoadHarness.Proofs.Value.Order
import LoadHarness.Proofs.Summary.Order
import LoadHarness.Proofs.Float.Overflow
import LoadHarness.Proofs.Float.Signed
import LoadHarness.Proofs.Summary.Percentiles
import LoadHarness.Proofs.OpenLoop.Arrivals
