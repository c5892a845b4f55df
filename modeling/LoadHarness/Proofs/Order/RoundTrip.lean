import Mathlib
import LoadHarness.Target.Intake
import LoadHarness.Proofs.Json.Parsing

/-!
# Orders read back from what is written of them

An order that reading produced is read back from its wire data as itself (`readWith_wire`).  Its
JSON text is read back by the parser and by the intake's decoder as `Order.readBack`: the wire
data, except that a price or quantity that is not finite is written, and so read, as `null`
(`parse_toJson`, `decodeWithin_toJson`).  Reading that data gives the order exactly when both are
finite (`readWith_readBack`); reading checks only that they are positive, which an infinite
double is.  `validated_order_round_trips` puts the three readings together, and
`infinite_price_breaks_text_round_trip` is an order whose text is refused.

Everything rests on one inversion lemma, `readWith_ok`: an order is read only from an object whose
six fields are each read as the order's own, with no other keys.
-/

namespace LoadHarness

theorem FieldRead.required_ok {α : Type} {object : Value} {fields : List (String × Value)}
    {key : FieldKey} {read : Value → Except Problem α} {result : α}
    (found : FieldRead.required object fields key read = .ok result) :
    ∃ name value, key.find fields = some (name, value) ∧ read value = .ok result := by
  unfold FieldRead.required at found
  split at found
  · cases found
  · rename_i name value located
    split at found
    · rename_i readOk
      cases found
      exact ⟨name, value, located, readOk⟩
    · cases found

namespace Lax

theorem stringAtLeast_ok {minimum : Nat} {value : Value} {text : String}
    (read : stringAtLeast minimum value = .ok text) : minimum ≤ text.length := by
  cases value with
  | str raw =>
    simp only [stringAtLeast, string, bind, Except.bind] at read
    split at read
    · cases read
    · rename_i long
      cases read
      omega
  | _ => cases read

theorem stringAtLeast_str {minimum : Nat} {text : String} (long : minimum ≤ text.length) :
    stringAtLeast minimum (.str text) = .ok text := by
  have notShort : ¬ text.length < minimum := by omega
  simp [stringAtLeast, string, bind, Except.bind, notShort, pure, Except.pure]

theorem above_float {read : Value → Except Problem Float} (float : ∀ x, read (.float x) = .ok x)
    {bound : Float} {shown : String} {x : Float} (larger : bound < x) :
    above read bound shown (.float x) = .ok x := by
  simp [above, float, bind, Except.bind, larger, pure, Except.pure]

theorem above_ok {read : Value → Except Problem Float} {bound : Float} {shown : String}
    {value : Value} {x : Float} (accepted : above read bound shown value = .ok x) : bound < x := by
  simp only [above, bind, Except.bind] at accepted
  split at accepted
  · cases accepted
  · split at accepted
    · rename_i larger
      cases accepted
      exact larger
    · cases accepted

end Lax

namespace Order

variable {number : Value → Except Problem Float} {title : String} {notObject : Problem}
  {input : Value} {order : Order}

theorem readWith_ok (read : readWith number title notObject input = .ok order) :
    ∃ fields, input = .obj fields ∧
      FieldRead.required input fields ⟨"clientId", some "client_id"⟩ (Lax.stringAtLeast 1) =
        .ok order.clientId ∧
      FieldRead.required input fields (.plain "instrument") (Lax.stringAtLeast 1) =
        .ok order.instrument ∧
      FieldRead.required input fields (.plain "side") readSide = .ok order.side ∧
      FieldRead.required input fields (.plain "type") readKind = .ok order.kind ∧
      FieldRead.required input fields (.plain "price") (Lax.above number 0.0 "0") = .ok order.price ∧
      FieldRead.required input fields (.plain "quantity") (Lax.above number 0.0 "0") =
        .ok order.quantity ∧
      surplusIssues fields keys = [] := by
  cases input with
  | obj fields =>
    refine ⟨fields, rfl, ?_⟩
    simp only [readWith, objectFields, bind, Except.bind] at read
    split at read
    · rename_i client instrument side kind price quantity clientRead instrumentRead sideRead kindRead
        priceRead quantityRead surplus
      simp only [pure, Except.pure, Except.ok.injEq] at read
      subst read
      exact ⟨clientRead, instrumentRead, sideRead, kindRead, priceRead, quantityRead, surplus⟩
    · cases read
  | _ => simp [readWith, objectFields, bind, Except.bind] at read

/-- What reading an order checks of its fields: a client and an instrument of at least one
character, and a positive price and quantity. -/
structure Admissible (order : Order) : Prop where
  client_nonempty : 1 ≤ order.clientId.length
  instrument_nonempty : 1 ≤ order.instrument.length
  price_positive : (0.0 : Float) < order.price
  quantity_positive : (0.0 : Float) < order.quantity

theorem readWith_admissible (read : readWith number title notObject input = .ok order) :
    order.Admissible := by
  obtain ⟨fields, -, client, instrument, -, -, price, quantity, -⟩ := readWith_ok read
  obtain ⟨_, _, _, clientRead⟩ := FieldRead.required_ok client
  obtain ⟨_, _, _, instrumentRead⟩ := FieldRead.required_ok instrument
  obtain ⟨_, _, _, priceRead⟩ := FieldRead.required_ok price
  obtain ⟨_, _, _, quantityRead⟩ := FieldRead.required_ok quantity
  exact ⟨Lax.stringAtLeast_ok clientRead, Lax.stringAtLeast_ok instrumentRead,
    Lax.above_ok priceRead, Lax.above_ok quantityRead⟩

theorem readSide_text (side : Side) : readSide (.str side.text) = .ok side := by
  cases side <;> rfl

theorem readKind_text (kind : OrderKind) : readKind (.str kind.text) = .ok kind := by
  cases kind <;> rfl

theorem readWith_wire (float : ∀ x, number (.float x) = .ok x) (admissible : order.Admissible) :
    readWith number title notObject order.wire = .ok order := by
  obtain ⟨clientId, instrument, side, kind, price, quantity⟩ := order
  obtain ⟨clientLong, instrumentLong, pricePositive, quantityPositive⟩ := admissible
  simp [readWith, wire, objectFields, FieldRead.required, FieldKey.find, FieldKey.plain, Value.lookup,
    keys, surplusIssues, Lax.stringAtLeast_str clientLong, Lax.stringAtLeast_str instrumentLong,
    readSide_text, readKind_text, Lax.above_float float pricePositive,
    Lax.above_float float quantityPositive, bind, Except.bind, pure, Except.pure]

/-- The data the JSON text of an order reads back as: its wire data, with a price or quantity
that is not finite read as `null`. -/
def readBack (order : Order) : Value :=
  .obj [("clientId", .str order.clientId), ("instrument", .str order.instrument),
    ("side", .str order.side.text), ("type", .str order.kind.text),
    ("price", Json.writtenDouble order.price), ("quantity", Json.writtenDouble order.quantity)]

theorem toJson_readBack (order : Order) : order.readBack.toJson = order.toJson := by
  simp [readBack, toJson, wire, Value.toJson, Json.render, Json.renderFields, Json.render_writtenDouble]

theorem readBack_of_finite (finite : Binary.isFinite order.price = true ∧ Binary.isFinite order.quantity = true) :
    order.readBack = order.wire := by
  simp [readBack, wire, Json.writtenDouble, finite.1, finite.2]

theorem wireFields_readBack (admissible : order.Admissible) :
    ∃ fields, order.readBack = .obj fields ∧ fields ≠ [] ∧ Json.WireFields fields := by
  have double : ∀ x : Float, (0.0 : Float) < x → (Json.writtenDouble x).WireScalar := by
    intro x positive
    unfold Json.writtenDouble
    split
    · exact ⟨by assumption, positive⟩
    · trivial
  refine ⟨_, rfl, by simp, by simp, ?_⟩
  simp only [List.mem_cons, List.not_mem_nil, or_false]
  rintro field (rfl | rfl | rfl | rfl | rfl | rfl)
  · trivial
  · trivial
  · trivial
  · trivial
  · exact double _ admissible.price_positive
  · exact double _ admissible.quantity_positive

theorem parse_toJson (admissible : order.Admissible) : Json.parse order.toJson = .ok order.readBack := by
  obtain ⟨fields, readBackEq, nonempty, wire⟩ := wireFields_readBack admissible
  rw [← toJson_readBack, readBackEq]
  exact Json.parse_record nonempty wire

theorem decodeWithin_toJson {bounds : Json.Bounds} (room : bounds.depth ≠ some 0)
    (admissible : order.Admissible) : Json.decodeWithin bounds order.toJson = .ok order.readBack := by
  obtain ⟨fields, readBackEq, nonempty, wire⟩ := wireFields_readBack admissible
  rw [← toJson_readBack, readBackEq]
  exact Json.decodeWithin_record nonempty wire room

theorem above_writtenDouble (nullRefused : ∀ x, number .null ≠ .ok x) {x y : Float}
    (read : Lax.above number 0.0 "0" (Json.writtenDouble x) = .ok y) : Binary.isFinite x = true := by
  unfold Json.writtenDouble at read
  split at read
  · assumption
  · simp only [Lax.above, bind, Except.bind] at read
    split at read
    · cases read
    · rename_i z readNull
      exact absurd readNull (nullRefused z)

theorem readWith_readBack_finite (nullRefused : ∀ x, number .null ≠ .ok x) {other : Order}
    (read : readWith number title notObject order.readBack = .ok other) :
    Binary.isFinite order.price = true ∧ Binary.isFinite order.quantity = true := by
  obtain ⟨fields, same, -, -, -, -, price, quantity, -⟩ := readWith_ok read
  obtain ⟨_, _, priceFound, priceRead⟩ := FieldRead.required_ok price
  obtain ⟨_, _, quantityFound, quantityRead⟩ := FieldRead.required_ok quantity
  simp only [readBack, Value.obj.injEq] at same
  subst same
  simp [FieldKey.find, FieldKey.plain, Value.lookup] at priceFound quantityFound
  obtain ⟨-, rfl⟩ := priceFound
  obtain ⟨-, rfl⟩ := quantityFound
  exact ⟨above_writtenDouble nullRefused priceRead, above_writtenDouble nullRefused quantityRead⟩

/-- Reading the data an order's JSON text reads back as gives the order exactly when its price
and quantity are finite: otherwise one of them is `null`, which is not a double. -/
theorem readWith_readBack (float : ∀ x, number (.float x) = .ok x)
    (nullRefused : ∀ x, number .null ≠ .ok x) (admissible : order.Admissible) :
    readWith number title notObject order.readBack = .ok order ↔
      Binary.isFinite order.price = true ∧ Binary.isFinite order.quantity = true := by
  constructor
  · exact readWith_readBack_finite nullRefused
  · intro finite
    rw [readBack_of_finite finite]
    exact readWith_wire float admissible

theorem toJson_opening (order : Order) : ∃ rest, order.toJson.toList = '{' :: '"' :: rest := by
  simp [toJson, wire, Json.toList_toJson_obj, Json.renderFields, Json.toList_quote]

theorem readBody_toJson (admissible : order.Admissible) :
    Intake.readBody (.text order.toJson) = Intake.readBody.document order.readBack := by
  have notEmpty : order.toJson.isEmpty = false := by
    obtain ⟨rest, opening⟩ := toJson_opening order
    have nonempty : order.toJson ≠ "" := fun empty => by simp [empty] at opening
    simpa using nonempty
  have depth : Intake.bodyBounds.depth ≠ some 0 := by decide
  simp only [Intake.readBody, notEmpty, Bool.false_eq_true, if_false]
  rw [Json.textOfBytes_object (toJson_opening order)]
  simp only [decodeWithin_toJson depth admissible]

theorem float_refuses_null (x : Float) : Lax.float .null ≠ .ok x := by
  simp [Lax.float]

theorem documentFloat_refuses_null (x : Float) : Lax.documentFloat .null ≠ .ok x := by
  simp [Lax.documentFloat, Lax.float]

theorem admissible_of_produced {title text : String} {input : Value}
    (produced : validate title notObject input = .ok order ∨ validateText title text = .ok order) :
    order.Admissible := by
  rcases produced with read | read
  · exact readWith_admissible read
  · unfold validateText at read
    split at read
    · cases read
    · exact readWith_admissible read

/-- An order produced by reading is read back from its wire data; from its JSON text, by the
text reader and by the intake, exactly when its price and quantity are finite. -/
theorem validated_order_round_trips {title text wireTitle textTitle : String}
    {wireNotObject : Problem} {input : Value}
    (produced : validate title notObject input = .ok order ∨ validateText title text = .ok order) :
    validate wireTitle wireNotObject order.wire = .ok order ∧
      (validateText textTitle order.toJson = .ok order ↔
        Binary.isFinite order.price = true ∧ Binary.isFinite order.quantity = true) ∧
      (Intake.readBody (.text order.toJson) = .ok order ↔
        Binary.isFinite order.price = true ∧ Binary.isFinite order.quantity = true) := by
  have admissible := admissible_of_produced produced
  refine ⟨readWith_wire (fun _ => rfl) admissible, ?_, ?_⟩
  · simp only [validateText, parse_toJson admissible]
    exact readWith_readBack (fun _ => rfl) documentFloat_refuses_null admissible
  · have document : readWith Lax.float Intake.bodyTitle .modelAttributesType order.readBack =
        .ok order ↔ _ := readWith_readBack (fun _ => rfl) float_refuses_null admissible
    rw [readBody_toJson admissible, ← document]
    cases accepted : readWith Lax.float Intake.bodyTitle .modelAttributesType order.readBack <;>
      simp [Intake.readBody.document, validate, accepted]

theorem validated_order_round_trips_limit_buy :
    let order : Order := ⟨"client-7", "ACME", .buy, .limit, 101.25, 3.0⟩
    validate "Order" (.modelType "Order") order.wire = .ok order ∧
      validate "OrderCreateRequest" .modelAttributesType order.wire = .ok order ∧
      (validateText "Order" order.toJson = .ok order ↔
        Binary.isFinite order.price = true ∧ Binary.isFinite order.quantity = true) ∧
      (Intake.readBody (.text order.toJson) = .ok order ↔
        Binary.isFinite order.price = true ∧ Binary.isFinite order.quantity = true) := by
  intro order
  have produced : validate "Order" (.modelType "Order") order.wire = .ok order :=
    readWith_wire (fun _ => rfl) ⟨by decide, by decide, by decide +kernel, by decide +kernel⟩
  exact ⟨produced,
    validated_order_round_trips (Or.inl produced : _ ∨ validateText "Order" "" = .ok order)⟩

/-- An infinite price passes the check that it is positive, but the JSON text writes it as
`null`, which neither the text reader nor the intake reads as a double. -/
theorem infinite_price_breaks_text_round_trip :
    let order : Order := ⟨"c", "X", .buy, .limit, 1.0 / 0.0, 1.0⟩
    validate "Order" (.modelType "Order") order.wire = .ok order ∧
      order.toJson = "\x7b\"clientId\":\"c\",\"instrument\":\"X\",\"side\":\"buy\",\"type\":\"limit\",\"price\":null,\"quantity\":1.0\x7d" ∧
      (∃ rejection, validateText "Order" order.toJson = .error rejection) ∧
      ∃ refusal, Intake.readBody (.text order.toJson) = .error refusal := by
  intro order
  have admissible : order.Admissible := ⟨by decide, by decide, by decide +kernel, by decide +kernel⟩
  have infinite : Binary.isFinite order.price = false := by decide +kernel
  have refused : ∀ (number : Value → Except Problem Float) title notObject,
      (∀ x, number .null ≠ .ok x) →
        ∃ rejection, readWith number title notObject order.readBack = .error rejection := by
    intro number title notObject nullRefused
    cases read : readWith number title notObject order.readBack with
    | error rejection => exact ⟨rejection, rfl⟩
    | ok other =>
      have finite := (readWith_readBack_finite nullRefused read).1
      rw [infinite] at finite
      cases finite
  refine ⟨readWith_wire (fun _ => rfl) admissible, by decide +kernel, ?_, ?_⟩
  · simp only [validateText, parse_toJson admissible]
    exact refused _ _ _ documentFloat_refuses_null
  · obtain ⟨rejection, rejected⟩ := refused Lax.float Intake.bodyTitle .modelAttributesType
      float_refuses_null
    rw [readBody_toJson admissible]
    simp [Intake.readBody.document, validate, rejected]

end Order

end LoadHarness
