import LoadHarness.Order.Basic
import LoadHarness.Random.Twister
import LoadHarness.Random.Seed
import LoadHarness.Number.Fixed
import LoadHarness.Failure

/-!
# Generating orders

A `Generator` makes plausible orders from a seeded random source.  Order
number `index` takes four draws, in this order: the side (`buy` below one
half), the kind (`limit` below 0.8), the price (`30000 + r · 40000` rounded to
cents) and the quantity (`0.01 + r · 2` rounded to thousandths).  Its client
is the prefix (as text, whatever its kind) followed by `index` modulo 100, so
that at most a hundred clients appear; an index given as text is instead a template filled with the
number 100 (see `Conversion.fill`).  The draws happen before the order is checked: an order that
fails validation still uses them up.

A batch of `n` orders is orders `0` to `n - 1`; as NDJSON it is their JSON
texts, each followed by a line feed.
-/

namespace LoadHarness

/-- A seeded source of synthetic orders. -/
structure Generator where
  source : Twister
  instrument : Value := .str "BTC-USD"
  clientPrefix : Value := .str "client-"
  deriving Inhabited

namespace Generator

/-- A generator seeded with `seed`. -/
def ofSeed (seed : Int) (instrument : Value := .str "BTC-USD") (clientPrefix : Value := .str "client-") :
    Generator :=
  ⟨Twister.ofSeed seed, instrument, clientPrefix⟩

/-- The remainder of a double modulo `m`, taking the sign of `m`: the exact
remainder toward zero, moved up by `m` (a rounded sum) when it is negative;
not a number for infinities and NaN. -/
def floatModulo (x : Float) (m : Nat) : Float :=
  match FloatShape.of x with
  | .finite value =>
      let (num, den) := value.ratio
      let remainder : Int := num.tmod ((m * den : Nat) : Int)
      if remainder == 0 then 0.0
      else
        let exact := Binary.nearest (remainder < 0) remainder.natAbs den
        if remainder < 0 then exact + Binary.ofInt m else exact
  | _ => 0.0 / 0.0

/-- The number of client buckets. -/
def bucketCount : Nat := 100

/-- The client bucket of an order index: the index modulo 100, of the index's
kind; a text index is a template filled with the number 100. -/
def bucket (index : Value) : Except Failure Value :=
  match index with
  | .int n => .ok (.int (n % bucketCount))
  | .bool truth => .ok (.int (if truth then 1 else 0))
  | .float x => .ok (.float (floatModulo x bucketCount))
  | .str template =>
      match Conversion.fill template bucketCount with
      | .ok text => .ok (.str text)
      | .error fault => .error (.template fault)
  | other => .error (.arithmetic (.unsupported ⟨"%", other.kindName, "int"⟩))

/-- One half, the chance of buying. -/
def buyChance : Float := Binary.nearest false 1 2

/-- The chance of a limit order, 0.8. -/
def limitChance : Float := Binary.nearest false 4 5

/-- The least quantity, 0.01. -/
def leastQuantity : Float := Binary.nearest false 1 100

/-- Order number `index`, or why it could not be made, and the generator after
its four draws. -/
def generate (generator : Generator) (index : Value) : Except Failure Order × Generator :=
  let (sideDraw, source) := generator.source.uniform
  let (kindDraw, source) := source.uniform
  let (priceDraw, source) := source.uniform
  let (quantityDraw, source) := source.uniform
  let advanced := { generator with source := source }
  let side := if sideDraw < buyChance then "buy" else "sell"
  let kind := if kindDraw < limitChance then "limit" else "market"
  let price := Fixed.toPlaces (30000.0 + priceDraw * 40000.0) 2
  let quantity := Fixed.toPlaces (leastQuantity + quantityDraw * 2.0) 3
  match bucket index with
  | .error failure => (.error failure, advanced)
  | .ok slot =>
      let fields : List (String × Value) :=
        [("client_id", .str (generator.clientPrefix.text ++ slot.text)),
          ("instrument", generator.instrument), ("side", .str side), ("type", .str kind),
          ("price", .float price), ("quantity", .float quantity)]
      ((Order.validate "Order" (.modelType "Order") (.obj fields)).mapError Failure.rejected, advanced)

/-- A count of orders: a whole number (a truth value counts as 0 or 1). -/
def count (value : Value) : Except Failure Int :=
  match value.int? with
  | some n => .ok n
  | none => .error (.notAnInteger value.kindName)

/-- Orders `0` to `n - 1` in turn, stopping at the first that fails. -/
def batchOf (generator : Generator) : List Nat → Except Failure (List Order) × Generator
  | [] => (.ok [], generator)
  | index :: rest =>
      match generator.generate (.int index) with
      | (.error failure, advanced) => (.error failure, advanced)
      | (.ok order, advanced) =>
          match batchOf advanced rest with
          | (.ok orders, final) => (.ok (order :: orders), final)
          | (.error failure, final) => (.error failure, final)

/-- A batch of `n` orders, numbered from 0; none when `n` is not positive. -/
def batch (generator : Generator) (n : Value) : Except Failure (List Order) × Generator :=
  match count n with
  | .error failure => (.error failure, generator)
  | .ok total => batchOf generator (List.range total.toNat)

/-- The NDJSON text of a batch: each order's JSON followed by a line feed. -/
def ndjson (orders : List Order) : String :=
  String.join (orders.map fun order => order.toJson ++ "\n")

end Generator

end LoadHarness
