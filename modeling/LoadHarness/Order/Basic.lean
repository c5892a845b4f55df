import LoadHarness.Validation.Record
import LoadHarness.Json.Write
import LoadHarness.Json.Parse

/-!
# Orders

An `Order` asks to buy or sell a quantity of an instrument, at a limit price
or at the market, on behalf of a client.  On the wire its fields are named in
camel case (`clientId`, `instrument`, `side`, `type`, `price`, `quantity`);
the client may also be given as `client_id` when `clientId` is absent.

`Order.validate` reads an order from loose data: non-empty client and
instrument, a side among `buy` and `sell`, a kind among `limit` and `market`,
and a positive price and quantity (infinity is positive, NaN is not).
`Order.validateText` reads one from JSON text: a text that is not a JSON
document is refused as invalid JSON, and a document that is not an object as
not an object.  `Order.wire` is the order as data and `Order.toJson` as
compact JSON text.
-/

namespace LoadHarness

/-- Which way an order trades. -/
inductive Side where
  | buy
  | sell
  deriving Repr, Inhabited, BEq, DecidableEq

namespace Side

/-- The wire spelling of a side. -/
def text : Side → String
  | .buy => "buy"
  | .sell => "sell"

/-- The side a wire spelling names. -/
def ofText? : String → Option Side
  | "buy" => some .buy
  | "sell" => some .sell
  | _ => none

end Side

/-- How an order is priced. -/
inductive OrderKind where
  | limit
  | market
  deriving Repr, Inhabited, BEq, DecidableEq

namespace OrderKind

/-- The wire spelling of a kind. -/
def text : OrderKind → String
  | .limit => "limit"
  | .market => "market"

/-- The kind a wire spelling names. -/
def ofText? : String → Option OrderKind
  | "limit" => some .limit
  | "market" => some .market
  | _ => none

end OrderKind

/-- A synthetic order. -/
structure Order where
  clientId : String
  instrument : String
  side : Side
  kind : OrderKind
  price : Float
  quantity : Float
  deriving Inhabited

namespace Order

/-- The keys of an order's fields, in declaration order. -/
def keys : List FieldKey :=
  [⟨"clientId", some "client_id"⟩, .plain "instrument", .plain "side", .plain "type",
    .plain "price", .plain "quantity"]

/-- A side read from loose data. -/
def readSide (value : Value) : Except Problem Side := do
  let text ← Lax.literal ["buy", "sell"] value
  match Side.ofText? text with
  | some side => pure side
  | none => throw (.literal ["buy", "sell"])

/-- A kind read from loose data. -/
def readKind (value : Value) : Except Problem OrderKind := do
  let text ← Lax.literal ["limit", "market"] value
  match OrderKind.ofText? text with
  | some kind => pure kind
  | none => throw (.literal ["limit", "market"])

/-- An order read from loose data under the schema title `title`, its price
and quantity read by `number`; an input that is not an object is reported as
`notObject`. -/
def readWith (number : Value → Except Problem Float) (title : String) (notObject : Problem)
    (input : Value) : Except Rejection Order := do
  let fields ← objectFields title notObject input
  let client := FieldRead.required input fields ⟨"clientId", some "client_id"⟩ (Lax.stringAtLeast 1)
  let instrument := FieldRead.required input fields (.plain "instrument") (Lax.stringAtLeast 1)
  let side := FieldRead.required input fields (.plain "side") readSide
  let kind := FieldRead.required input fields (.plain "type") readKind
  let price := FieldRead.required input fields (.plain "price") (Lax.above number 0.0 "0")
  let quantity := FieldRead.required input fields (.plain "quantity") (Lax.above number 0.0 "0")
  let surplus := surplusIssues fields keys
  match client, instrument, side, kind, price, quantity, surplus with
  | .ok client, .ok instrument, .ok side, .ok kind, .ok price, .ok quantity, [] =>
      pure ⟨client, instrument, side, kind, price, quantity⟩
  | _, _, _, _, _, _, _ =>
      .error ⟨title, [client.issue?, instrument.issue?, side.issue?, kind.issue?, price.issue?,
        quantity.issue?].filterMap id ++ surplus⟩

/-- An order read from loose data under the schema title `title`; an input that
is not an object is reported as `notObject`. -/
def validate (title : String) (notObject : Problem) (input : Value) : Except Rejection Order :=
  readWith Lax.float title notObject input

/-- An order read from JSON text under the schema title `title`; numbers are
read as JSON numbers, so an integer too large for a double is infinite. -/
def validateText (title : String) (text : String) : Except Rejection Order :=
  match Json.parse text with
  | .error fault => .error ⟨title, [⟨.jsonInvalid (fault.describe text.toUTF8), [], .str text⟩]⟩
  | .ok document => readWith Lax.documentFloat title .objectType document

/-- The order as data, under its wire names. -/
def wire (order : Order) : Value :=
  .obj [("clientId", .str order.clientId), ("instrument", .str order.instrument),
    ("side", .str order.side.text), ("type", .str order.kind.text),
    ("price", .float order.price), ("quantity", .float order.quantity)]

/-- The order as compact JSON text. -/
def toJson (order : Order) : String := order.wire.toJson

end Order

end LoadHarness
