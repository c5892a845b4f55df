import Mathlib
import LoadHarness.Proofs.Order.Draws
import LoadHarness.Proofs.Order.RoundTrip

/-!
# Generated orders and their NDJSON stream

Order number `index` of a generator takes four draws of its random source, whatever the index and
whether or not the order is made: the generator after them is `Generator.afterDraws`
(`generate_snd`).  Where the instrument is a non-empty string, every whole index gives an order
(`generate_ok`): its client is the prefix followed by the index modulo 100, its price a
cent-rounded double in `[30000, 70000]` and its quantity a thousandth-rounded double in
`[0.01, 2.01]` (`price_of_draw`, `quantity_of_draw`).  An empty instrument is refused by the
order's own check, at every index (`generate_empty_instrument`).

A batch is the orders of indices `0, 1, …` in turn, order `j` made from the source after `j`
orders' draws (`batchOf_range'`).  No JSON text of an order contains a line feed
(`Order.newline_not_mem_toJson`): strings are escaped and doubles are written as numerals.  So the
NDJSON text of a batch splits at line feeds into exactly the orders' texts and an empty rest
(`splitOn_ndjson`), and each text reads back as its order.
-/

namespace LoadHarness

/-! ### Line feeds in written JSON -/

namespace Json

theorem hexDigit_ne_newline :
    ∀ d < 16, (if d < 10 then Char.ofNat (48 + d) else Char.ofNat (87 + d)) ≠ '\n' := by
  decide

theorem newline_not_mem_hex4 (code : Nat) : '\n' ∉ (hex4 code).toList := by
  have digit := fun k => hexDigit_ne_newline (code / k % 16) (Nat.mod_lt _ (by decide))
  have last := hexDigit_ne_newline (code % 16) (Nat.mod_lt _ (by decide))
  simp only [hex4, String.toList_ofList, List.mem_cons, List.not_mem_nil, or_false, not_or]
  exact ⟨fun same => digit 4096 same.symm, fun same => digit 256 same.symm,
    fun same => digit 16 same.symm, fun same => last same.symm⟩

/-- The escape of a character never holds a raw line feed: a control character, the line feed
among them, is written as a backslash sequence, and any other stands for itself. -/
theorem newline_not_mem_escapeChar (c : Char) : '\n' ∉ (escapeChar c).toList := by
  by_cases isNewline : c = '\n'
  · subst isNewline
    decide
  by_cases isQuote : c = '"'
  · subst isQuote
    decide
  by_cases isBackslash : c = '\\'
  · subst isBackslash
    decide
  by_cases isReturn : c = '\r'
  · subst isReturn
    decide
  by_cases isTab : c = '\t'
  · subst isTab
    decide
  by_cases isBackspace : c.toNat = 8
  · obtain rfl : c = Char.ofNat 8 := by rw [← isBackspace, Char.ofNat_toNat]
    decide
  by_cases isFormFeed : c.toNat = 12
  · obtain rfl : c = Char.ofNat 12 := by rw [← isFormFeed, Char.ofNat_toNat]
    decide
  by_cases control : c.toNat < 32
  · have written : (escapeChar c).toList = '\\' :: 'u' :: (hex4 c.toNat).toList := by
      simp [escapeChar, isBackspace, isFormFeed, control]
    rw [written]
    simpa using newline_not_mem_hex4 c.toNat
  · have written : (escapeChar c).toList = [c] := by
      simp [escapeChar, isBackspace, isFormFeed, control]
    rw [written, List.mem_singleton]
    exact fun same => isNewline same.symm

theorem newline_not_mem_quote (text : String) : '\n' ∉ (quote text).toList := by
  simp [toList_quote, escapes, newline_not_mem_escapeChar]

end Json

namespace Decimal.Numeral

/-- A numeral is digits, a point, an exponent mark and a sign: no line feed. -/
theorem newline_not_mem_chars {n : Numeral} (wellFormed : n.WellFormed) : '\n' ∉ n.chars := by
  have notDigit : '\n'.isDigit = false := by decide
  have digitsFree : ∀ {cs : List Char}, AllDigits cs → '\n' ∉ cs := fun digits member => by
    simp [digits '\n' member] at notDigit
  simp only [chars, List.mem_append, not_or]
  refine ⟨digitsFree wellFormed.whole_digits, ?_, ?_⟩
  · cases fraction : n.fraction with
    | nil => simp [fractionChars]
    | cons c rest =>
        have digits := wellFormed.fraction_digits
        rw [fraction] at digits
        simpa [fractionChars] using digitsFree digits
  · cases n.exponent with
    | none => simp [exponentChars]
    | some e =>
        have digits : AllDigits (Nat.toDigits 10 e.natAbs) := fun c member =>
          Nat.isDigit_of_mem_toDigits (by decide) (by decide) member
        simp only [exponentChars, List.mem_cons, not_or]
        refine ⟨by decide, by split <;> decide, digitsFree digits⟩

end Decimal.Numeral

namespace Json

/-- A positive finite double is written as a numeral, with no line feed. -/
theorem newline_not_mem_render_wire {x : Float} (finite : Binary.isFinite x = true)
    (positive : (0.0 : Float) < x) : '\n' ∉ (FloatStyle.wire.render x).toList := by
  obtain ⟨n, wire, rendered, -⟩ := render_wire_reads_back finite positive
  rw [rendered, String.toList_ofList]
  exact Decimal.Numeral.newline_not_mem_chars wire.toWellFormed

theorem newline_not_mem_render_scalar {value : Value} (scalar : value.WireScalar) :
    '\n' ∉ (render FloatStyle.wire.render value).toList := by
  cases value with
  | str text => simpa [render] using newline_not_mem_quote text
  | float x => simpa [render] using newline_not_mem_render_wire scalar.1 scalar.2
  | null => simp [render]
  | _ => cases scalar

/-- The members of an object of wire scalars hold no line feed: each is a key literal, a colon
and a scalar, and they are separated by commas. -/
theorem newline_not_mem_renderFields {fields : List (String × Value)}
    (scalars : ∀ field ∈ fields, field.2.WireScalar) :
    '\n' ∉ (renderFields FloatStyle.wire.render fields).toList := by
  induction fields with
  | nil => simp [renderFields]
  | cons field rest induction =>
      obtain ⟨key, value⟩ := field
      have here := newline_not_mem_render_scalar (scalars (key, value) List.mem_cons_self)
      cases rest with
      | nil =>
          rw [toList_renderFields_single]
          simpa [newline_not_mem_quote] using here
      | cons next others =>
          have later := induction fun field member => scalars field (List.mem_cons_of_mem _ member)
          rw [toList_renderFields_cons]
          simp [newline_not_mem_quote, here, later]

end Json

/-- The JSON text of an order that reading produced holds no line feed. -/
theorem Order.newline_not_mem_toJson {order : Order} (admissible : order.Admissible) :
    '\n' ∉ order.toJson.toList := by
  obtain ⟨fields, readBack, -, wire⟩ := Order.wireFields_readBack admissible
  rw [← Order.toJson_readBack, readBack, Json.toList_toJson_obj]
  simp only [List.mem_cons, List.mem_append, not_or]
  exact ⟨by decide, Json.newline_not_mem_renderFields wire.scalars, by decide, by simp⟩

/-- The NDJSON text of orders that reading produced splits at line feeds into exactly their JSON
texts, in order, and the empty rest after the last line feed. -/
theorem splitOn_ndjson {orders : List Order} (admissible : ∀ order ∈ orders, order.Admissible) :
    (Generator.ndjson orders).toList.splitOn '\n' = orders.map (fun order => order.toJson.toList) ++ [[]] := by
  induction orders with
  | nil => simp [Generator.ndjson]
  | cons order rest induction =>
      have text : (Generator.ndjson (order :: rest)).toList =
          order.toJson.toList ++ '\n' :: (Generator.ndjson rest).toList := by
        simp [Generator.ndjson]
      rw [text, List.splitOn_append_cons_self_of_not_mem
        (Order.newline_not_mem_toJson (admissible order List.mem_cons_self)),
        induction fun other member => admissible other (List.mem_cons_of_mem _ member)]
      rfl

/-! ### One order -/

/-- An object whose instrument is the empty text is not read as an order: the instrument must
have at least one character. -/
theorem Order.validate_empty_instrument {title : String} {notObject : Problem}
    {fields : List (String × Value)}
    (empty : (FieldKey.plain "instrument").find fields = some ("instrument", .str "")) (order : Order) :
    Order.validate title notObject (.obj fields) ≠ .ok order := by
  intro read
  obtain ⟨fields', same, -, instrumentRead, -⟩ := Order.readWith_ok read
  cases same
  obtain ⟨_, _, found, text⟩ := FieldRead.required_ok instrumentRead
  rw [empty, Option.some.injEq, Prod.mk.injEq] at found
  obtain ⟨-, rfl⟩ := found
  simp [Lax.stringAtLeast, Lax.string, bind, Except.bind] at text


namespace Generator

/-- The generator after the four draws of one order. -/
def afterDraws (generator : Generator) : Generator :=
  { generator with source := generator.source.uniform.2.uniform.2.uniform.2.uniform.2 }

@[simp] theorem instrument_afterDraws (generator : Generator) :
    generator.afterDraws.instrument = generator.instrument := by
  simp only [afterDraws]

@[simp] theorem clientPrefix_afterDraws (generator : Generator) :
    generator.afterDraws.clientPrefix = generator.clientPrefix := by
  simp only [afterDraws]

/-- Every index takes the same four draws, whether or not its order is made. -/
theorem generate_snd (generator : Generator) (index : Value) :
    (generator.generate index).2 = generator.afterDraws := by
  unfold generate afterDraws
  dsimp only
  split <;> rfl

theorem text_int (k : Int) : (Value.int k).text = toString k := by
  simp [Value.text, Value.repr]

theorem length_toString_pos (k : Int) : 0 < (toString k).length := by
  rw [Int.toString_eq_repr, Int.repr_eq_if]
  split
  · exact Nat.length_repr_pos
  · simp only [String.length_append]
    have sign : 0 < "-".length := by decide
    omega

/-- The fields a generator fills in are read as the order they name, the client under its alias
`client_id`, once the texts are not empty and the price and quantity are positive. -/
theorem validate_generated {title : String} {notObject : Problem} {clientId instrument : String}
    {side : Side} {kind : OrderKind} {price quantity : Float} (clientLong : 1 ≤ clientId.length)
    (instrumentLong : 1 ≤ instrument.length) (pricePositive : (0.0 : Float) < price)
    (quantityPositive : (0.0 : Float) < quantity) :
    Order.validate title notObject (.obj [("client_id", .str clientId), ("instrument", .str instrument),
      ("side", .str side.text), ("type", .str kind.text), ("price", .float price),
      ("quantity", .float quantity)]) = .ok ⟨clientId, instrument, side, kind, price, quantity⟩ := by
  simp [Order.validate, Order.readWith, objectFields, FieldRead.required, FieldKey.find, FieldKey.plain,
    Value.lookup, Order.keys, surplusIssues, Lax.stringAtLeast_str clientLong,
    Lax.stringAtLeast_str instrumentLong, Order.readSide_text, Order.readKind_text,
    @Lax.above_float Lax.float (fun _ => rfl) _ _ _ pricePositive,
    @Lax.above_float Lax.float (fun _ => rfl) _ _ _ quantityPositive, bind,
    Except.bind, pure, Except.pure]

variable {generator : Generator} {instrument : String}

/-- A generator whose instrument is a non-empty string makes an order at every whole index, and
moves on by four draws: the side and kind from the first two, the price and quantity, rounded
to cents and thousandths and within their ranges, from the other two. -/
theorem generate_ok (named : generator.instrument = .str instrument) (long : 1 ≤ instrument.length)
    (index : Int) :
    ∃ order, generator.generate (.int index) = (.ok order, generator.afterDraws) ∧
      order.clientId = generator.clientPrefix.text ++ toString (index % 100) ∧
      order.instrument = instrument ∧
      DecimalIn order.price 30000.0 70000.0 2 ∧
      DecimalIn order.quantity leastQuantity 2.01 3 := by
  have price := price_of_draw (uniform_draw generator.source.uniform.2.uniform.2)
  have quantity := quantity_of_draw (uniform_draw generator.source.uniform.2.uniform.2.uniform.2)
  have clientLong : 1 ≤ (generator.clientPrefix.text ++ toString (index % 100)).length := by
    have := length_toString_pos (index % 100)
    simp only [String.length_append]
    omega
  -- the side and kind as texts of the values they name
  have sideText : (if generator.source.uniform.1 < buyChance then "buy" else "sell") =
      (if generator.source.uniform.1 < buyChance then Side.buy else Side.sell).text := by
    split <;> rfl
  have kindText : (if generator.source.uniform.2.uniform.1 < limitChance then "limit" else "market") =
      (if generator.source.uniform.2.uniform.1 < limitChance then OrderKind.limit else .market).text := by
    split <;> rfl
  refine ⟨⟨generator.clientPrefix.text ++ toString (index % 100), instrument,
    if generator.source.uniform.1 < buyChance then .buy else .sell,
    if generator.source.uniform.2.uniform.1 < limitChance then .limit else .market,
    Fixed.toPlaces (30000.0 + generator.source.uniform.2.uniform.2.uniform.1 * 40000.0) 2,
    Fixed.toPlaces (leastQuantity + generator.source.uniform.2.uniform.2.uniform.2.uniform.1 * 2.0) 3⟩,
    Prod.ext ?_ (generate_snd generator _), rfl, rfl, price, quantity⟩
  unfold generate
  dsimp only
  simp only [bucket, bucketCount, named, text_int, Nat.cast_ofNat, sideText, kindText]
  rw [validate_generated clientLong long price.positive quantity.positive]
  rfl

/-- An empty instrument fails the order's check at every index. -/
theorem generate_empty_instrument (empty : generator.instrument = .str "") (index : Int) :
    ∃ failure, (generator.generate (.int index)).1 = .error failure := by
  unfold generate
  dsimp only
  simp only [bucket, empty]
  generalize read : Order.validate "Order" (.modelType "Order") _ = result
  cases result with
  | error rejection => exact ⟨.rejected rejection, rfl⟩
  | ok order =>
      exact absurd read (Order.validate_empty_instrument (by simp [FieldKey.find, FieldKey.plain,
        Value.lookup]) order)

/-- Seeded with 0 and given the empty instrument, the generator makes no order 0. -/
theorem empty_instrument_refused :
    ∃ failure, ((⟨Twister.ofSeed 0, .str "", .str "client-"⟩ : Generator).generate (.int 0)).1 =
      .error failure :=
  generate_empty_instrument rfl 0

@[simp] theorem instrument_iterate_afterDraws (generator : Generator) (j : Nat) :
    (afterDraws^[j] generator).instrument = generator.instrument := by
  induction j generalizing generator with
  | zero => rfl
  | succ j induction => rw [Function.iterate_succ_apply, induction, instrument_afterDraws]

@[simp] theorem clientPrefix_iterate_afterDraws (generator : Generator) (j : Nat) :
    (afterDraws^[j] generator).clientPrefix = generator.clientPrefix := by
  induction j generalizing generator with
  | zero => rfl
  | succ j induction => rw [Function.iterate_succ_apply, induction, clientPrefix_afterDraws]

/-- An order a generator with a non-empty instrument makes is one that reading produces, with a
finite price and quantity. -/
theorem readable_of_generate (named : generator.instrument = .str instrument)
    (long : 1 ≤ instrument.length) {index : Int} {order : Order}
    (made : (generator.generate (.int index)).1 = .ok order) :
    order.Admissible ∧ Binary.isFinite order.price = true ∧ Binary.isFinite order.quantity = true := by
  obtain ⟨order', made', client, instrumentIs, price, quantity⟩ := generate_ok named long index
  rw [made', Except.ok.injEq] at made
  subst made
  have clientLong : 1 ≤ order'.clientId.length := by
    have := length_toString_pos (index % 100)
    rw [client, String.length_append]
    omega
  exact ⟨⟨clientLong, instrumentIs ▸ long, price.positive, quantity.positive⟩, price.finite,
    quantity.finite⟩

/-- Orders `start` to `start + n - 1` are made in turn: order `j` from the generator after `j`
orders' draws, and the generator ends after `n` orders' draws. -/
theorem batchOf_range' (named : generator.instrument = .str instrument) (long : 1 ≤ instrument.length)
    (start n : Nat) :
    ∃ orders, generator.batchOf (List.range' start n) = (.ok orders, afterDraws^[n] generator) ∧
      orders.length = n ∧
      ∀ j (h : j < orders.length),
        ((afterDraws^[j] generator).generate (.int (start + j : Nat))).1 = .ok orders[j] := by
  induction n generalizing start generator with
  | zero => exact ⟨[], rfl, rfl, fun j h => absurd h (Nat.not_lt_zero j)⟩
  | succ n induction =>
      obtain ⟨order, made, -⟩ := generate_ok named long start
      -- the rest of the batch comes from the generator after the first order's draws
      have namedAfter : generator.afterDraws.instrument = .str instrument := by
        rw [instrument_afterDraws, named]
      obtain ⟨orders, rest, length, each⟩ := induction namedAfter (start + 1)
      refine ⟨order :: orders, ?_, by rw [List.length_cons, length], ?_⟩
      · -- unfolding by hand: the equation lemmas of `batchOf` would evaluate the draws
        rw [show List.range' start (n + 1) = start :: List.range' (start + 1) n from List.range'_succ]
        unfold batchOf
        rw [made]
        dsimp only
        rw [rest, Function.iterate_succ_apply]
      · intro j h
        cases j with
        | zero => simpa using congrArg Prod.fst made
        | succ j =>
            have later := each j (by simpa using h)
            rw [Function.iterate_succ_apply]
            simpa [Nat.add_right_comm start 1 j, Nat.add_assoc] using later

end Generator

/-- A generator whose instrument is a non-empty string makes an order at every whole index,
negative ones included: its client is the prefix followed by the index modulo 100, its price a
double in `[30000, 70000]` already rounded to cents, its quantity one in `[0.01, 2.01]` already
rounded to thousandths.  A batch of `count` orders is orders `0` to `count - 1`, order `j` made
from the source after `j` orders' draws (none for a count below one); its NDJSON text splits at
line feeds into exactly their JSON texts, and each text reads back as its order. -/
theorem generated_orders_are_valid {generator : Generator} {instrument : String}
    (named : generator.instrument = .str instrument) (long : 1 ≤ instrument.length) :
    (∀ index : Int, ∃ order, (generator.generate (.int index)).1 = .ok order ∧
        order.clientId = generator.clientPrefix.text ++ toString (index % 100) ∧
        order.instrument = instrument ∧
        DecimalIn order.price 30000.0 70000.0 2 ∧
        DecimalIn order.quantity Generator.leastQuantity 2.01 3) ∧
      ∀ count : Int, ∃ orders, (generator.batch (.int count)).1 = .ok orders ∧
        orders.length = count.toNat ∧
        (∀ j (h : j < orders.length),
          ((Generator.afterDraws^[j] generator).generate (.int j)).1 = .ok orders[j]) ∧
        (Generator.ndjson orders).toList.splitOn '\n' =
          orders.map (fun order => order.toJson.toList) ++ [[]] ∧
        ∀ order ∈ orders, Order.validateText "Order" order.toJson = .ok order := by
  refine ⟨fun index => ?_, fun count => ?_⟩
  · obtain ⟨order, made, facts⟩ := Generator.generate_ok named long index
    exact ⟨order, by rw [made], facts⟩
  · obtain ⟨orders, made, length, each⟩ := Generator.batchOf_range' named long 0 count.toNat
    -- every order of the batch is one that reading produces, with finite numbers
    have readable : ∀ order ∈ orders, order.Admissible ∧ Binary.isFinite order.price = true ∧
        Binary.isFinite order.quantity = true := by
      intro order member
      obtain ⟨j, h, rfl⟩ := List.getElem_of_mem member
      exact Generator.readable_of_generate (by rw [Generator.instrument_iterate_afterDraws, named]) long
        (each j h)
    refine ⟨orders, ?_, length, fun j h => by simpa using each j h,
      splitOn_ndjson fun order member => (readable order member).1, fun order member => ?_⟩
    · simp only [Generator.batch, Generator.count, Value.int?, List.range_eq_range', made]
    · obtain ⟨admissible, finite⟩ := readable order member
      simp only [Order.validateText, Order.parse_toJson admissible]
      exact (Order.readWith_readBack (fun _ => rfl) Order.documentFloat_refuses_null admissible).2 finite

/-- Seeded with 0, the generator's default instrument is a non-empty string, and its order 0 has
a price in range, rounded to cents. -/
theorem generated_orders_are_valid_seed_zero :
    (Generator.ofSeed 0).instrument = .str "BTC-USD" ∧ 1 ≤ "BTC-USD".length ∧
      ∃ order, ((Generator.ofSeed 0).generate (.int 0)).1 = .ok order ∧
        DecimalIn order.price 30000.0 70000.0 2 := by
  have named : (Generator.ofSeed 0).instrument = .str "BTC-USD" := rfl
  have long : 1 ≤ "BTC-USD".length := by decide
  obtain ⟨order, made, -, -, price, -⟩ := (generated_orders_are_valid named long).1 0
  exact ⟨named, long, order, made, price⟩

end LoadHarness
