import Mathlib
import LoadHarness.Number.Layout
import LoadHarness.Proofs.Float.Numeral

/-!
# The wire text of a double reads back

`FloatStyle.wire` writes the shortest digits of a positive double in one of four layouts: the
digits padded with zeros up to the point and `.0`, the digits split by the point, `0.` with
zeros before the digits, or one digit, the rest after a point, and a signed exponent.  Each
layout is a numeral (`Decimal.Numeral`) of the same value as the digits
(`FloatStyle.WritesWire`), of the shape JSON gives doubles (`Numeral.Wire`).

Main statements:

* `render_wire_numeral`: the wire text of a positive finite double is a numeral of the value of
  its shortest digits;
* `render_wire_reads_back`: the parts of that numeral read as the double, since the shortest
  digits lie in its rounding interval;
* `readNumber_render_wire`: so the decimal reader reads the wire text of every positive finite
  double as that double.
-/

namespace LoadHarness

open Decimal

theorem eq_ofList_of_toList {text : String} {chars : List Char} (listed : text.toList = chars) :
    text = String.ofList chars := by
  rw [← listed, String.ofList_toList]

namespace FloatStyle

@[simp] theorem toList_zeros (count : Nat) : (zeros count).toList = List.replicate count '0' := by
  simp [zeros]

theorem positional_toList_of_fits {text : List Char} {leading : Int} (nonneg : 0 ≤ leading)
    (fits : text.length ≤ leading.toNat + 1) :
    (positional (String.ofList text) leading).toList =
      text ++ List.replicate (leading.toNat + 1 - text.length) '0' ++ ['.', '0'] := by
  simp [positional, nonneg, fits]

theorem positional_toList_of_splits {text : List Char} {leading : Int} (nonneg : 0 ≤ leading)
    (splits : leading.toNat + 1 < text.length) :
    (positional (String.ofList text) leading).toList =
      text.take (leading.toNat + 1) ++ '.' :: text.drop (leading.toNat + 1) := by
  simp [positional, nonneg, not_le.mpr splits]

theorem positional_toList_of_neg {text : List Char} {leading : Int} (negative : leading < 0) :
    (positional (String.ofList text) leading).toList =
      '0' :: '.' :: (List.replicate ((-leading).toNat - 1) '0' ++ text) := by
  simp [positional, not_le.mpr negative]

theorem scientific_wire_toList {first : Char} {rest : List Char} (leading : Int) :
    (wire.scientific (String.ofList (first :: rest)) leading).toList =
      first :: (Numeral.fractionChars rest ++ Numeral.exponentChars (some leading)) := by
  -- the wire style pads exponents to one digit, which every exponent has
  have unpadded : 1 - leading.natAbs.repr.length = 0 := by
    have written : 0 < leading.natAbs.repr.length := Nat.length_repr_pos
    omega
  cases rest with
  | nil =>
    by_cases negative : leading < 0 <;>
      simp [scientific, wire, Numeral.fractionChars, Numeral.exponentChars, Nat.toList_repr,
        unpadded, negative]
  | cons second more =>
    by_cases negative : leading < 0 <;>
      simp [scientific, wire, Numeral.fractionChars, Numeral.exponentChars, Nat.toList_repr,
        unpadded, negative]

/-- For a positive double, the wire style writes its shortest digits positionally when the
leading digit's exponent is within `-5 … 15`, and in scientific form otherwise. -/
theorem render_wire_positive {x : Float} {m : Nat} {q : Int}
    (shape : FloatShape.of x = .finite ⟨false, m, q⟩) (positive : 0 < m) :
    wire.render x =
      if -5 ≤ (Digits.shortest ⟨false, m, q⟩).scientificExponent ∧
          (Digits.shortest ⟨false, m, q⟩).scientificExponent ≤ 15 then
        positional (String.ofList (Nat.toDigits 10 (Digits.shortest ⟨false, m, q⟩).significand))
          (Digits.shortest ⟨false, m, q⟩).scientificExponent
      else
        wire.scientific (String.ofList (Nat.toDigits 10 (Digits.shortest ⟨false, m, q⟩).significand))
          (Digits.shortest ⟨false, m, q⟩).scientificExponent := by
  have nonzero : (m == 0) = false := by simpa using positive.ne'
  by_cases range : -5 ≤ (Digits.shortest ⟨false, m, q⟩).scientificExponent ∧
      (Digits.shortest ⟨false, m, q⟩).scientificExponent ≤ 15
  · simp [render, shape, nonzero, wire, Digits.digitText, Nat.repr_eq_ofList_toDigits, range]
  · simp [render, shape, nonzero, wire, Digits.digitText, Nat.repr_eq_ofList_toDigits, range]
    intro low high
    exact absurd ⟨of_decide_eq_true low, of_decide_eq_true high⟩ range

end FloatStyle

namespace Decimal.Numeral

/-- The numerals the wire style writes for positive doubles: well formed, with a whole part that
is `0` or starts with another digit, and marked as a double by a point or an exponent. -/
structure Wire (n : Numeral) : Prop extends n.WellFormed where
  whole_lead : n.whole = ['0'] ∨ n.whole.head? ≠ some '0'
  marked : n.fraction ≠ [] ∨ n.exponent.isSome = true

@[simp] theorem allDigits_append {front back : List Char} :
    AllDigits (front ++ back) ↔ AllDigits front ∧ AllDigits back := by
  simp [AllDigits, or_imp, forall_and]

@[simp] theorem allDigits_replicate_zero (count : Nat) : AllDigits (List.replicate count '0') := by
  intro c member
  rw [List.eq_of_mem_replicate member]
  rfl

theorem fractionChars_of_ne_nil {fraction : List Char} (nonempty : fraction ≠ []) :
    fractionChars fraction = '.' :: fraction := by
  obtain ⟨c, rest, rfl⟩ := List.exists_cons_of_ne_nil nonempty
  rfl

theorem magnitude_parts (n : Numeral) :
    n.parts.magnitude = digitsValue (n.whole ++ n.fraction) * 10 ^ (n.exponent.getD 0 - n.fraction.length) :=
  rfl

end Decimal.Numeral

namespace FloatStyle

open Decimal.Numeral

/-- `text` is a wire numeral whose value is `s · 10^e`. -/
def WritesWire (text : String) (s : Nat) (e : Int) : Prop :=
  ∃ n : Numeral, n.Wire ∧ text = String.ofList n.chars ∧ n.parts.magnitude = s * 10 ^ e

/-! Each layout of the digits `first :: rest` of `s`, with leading exponent `e + rest.length`,
writes a wire numeral of value `s · 10^e`. -/

section Layouts

variable {first : Char} {rest : List Char} {s : Nat} {e : Int}

theorem positional_fits_writes (digits : AllDigits (first :: rest)) (lead : first ≠ '0')
    (value : digitsValue (first :: rest) = s) (nonneg : 0 ≤ e + rest.length)
    (fits : (first :: rest).length ≤ (e + rest.length).toNat + 1) :
    WritesWire (positional (String.ofList (first :: rest)) (e + rest.length)) s e := by
  -- the digits, then zeros up to the point, then `.0`
  refine ⟨⟨first :: rest ++ List.replicate ((e + rest.length).toNat + 1 - (rest.length + 1)) '0',
    ['0'], none⟩, ⟨⟨?_, by simp, by simp [AllDigits]⟩, by simp [lead], by simp⟩, ?_, ?_⟩
  · exact allDigits_append.mpr ⟨digits, allDigits_replicate_zero _⟩
  · apply eq_ofList_of_toList
    rw [positional_toList_of_fits nonneg fits]
    simp [chars, fractionChars, exponentChars]
  · have scaled : e = ((e + rest.length).toNat + 1 - (rest.length + 1) : ℕ) := by
      simp at fits
      omega
    generalize (e + rest.length).toNat + 1 - (rest.length + 1) = zeros at scaled ⊢
    subst scaled
    have point : digitsValue ['0'] = 0 := rfl
    rw [magnitude_parts, digitsValue_append, digitsValue_append, value, digitsValue_replicate_zero,
      point]
    simp [zpow_natCast]

theorem positional_splits_writes (digits : AllDigits (first :: rest)) (lead : first ≠ '0')
    (value : digitsValue (first :: rest) = s) (nonneg : 0 ≤ e + rest.length)
    (splits : (e + rest.length).toNat + 1 < (first :: rest).length) :
    WritesWire (positional (String.ofList (first :: rest)) (e + rest.length)) s e := by
  -- the digits, split by the point
  have fractionNe : (first :: rest).drop ((e + rest.length).toNat + 1) ≠ [] := by
    simpa only [ne_eq, List.drop_eq_nil_iff, not_le] using splits
  obtain ⟨c, more, fraction⟩ := List.exists_cons_of_ne_nil fractionNe
  refine ⟨⟨(first :: rest).take ((e + rest.length).toNat + 1),
    (first :: rest).drop ((e + rest.length).toNat + 1), none⟩,
    ⟨⟨fun c member => digits c (List.mem_of_mem_take member), by simp,
      fun c member => digits c (List.mem_of_mem_drop member)⟩, by simp [lead], Or.inl fractionNe⟩,
    ?_, ?_⟩
  · apply eq_ofList_of_toList
    rw [positional_toList_of_splits nonneg splits]
    simp [chars, fraction, fractionChars, exponentChars]
  · have scaled : (none : Option Int).getD 0 -
        ((first :: rest).drop ((e + rest.length).toNat + 1)).length = e := by
      simp at splits ⊢
      omega
    rw [magnitude_parts, List.take_append_drop, value, scaled]

theorem positional_fraction_writes (digits : AllDigits (first :: rest))
    (value : digitsValue (first :: rest) = s) (negative : e + rest.length < 0) :
    WritesWire (positional (String.ofList (first :: rest)) (e + rest.length)) s e := by
  -- a zero, the point, zeros and the digits
  refine ⟨⟨['0'], List.replicate ((-(e + rest.length)).toNat - 1) '0' ++ first :: rest, none⟩,
    ⟨⟨by simp [AllDigits], by simp, allDigits_append.mpr ⟨allDigits_replicate_zero _, digits⟩⟩,
      Or.inl rfl, by simp⟩, ?_, ?_⟩
  · apply eq_ofList_of_toList
    rw [positional_toList_of_neg negative]
    simp [chars, fractionChars_of_ne_nil, exponentChars]
  · have scaled : (none : Option Int).getD 0 -
        (List.replicate ((-(e + rest.length)).toNat - 1) '0' ++ first :: rest).length = e := by
      simp
      omega
    have zero : digitsValue ['0'] = 0 := rfl
    rw [magnitude_parts, scaled, ← List.append_assoc, digitsValue_append, digitsValue_append,
      value, zero, digitsValue_replicate_zero]
    simp

theorem scientific_writes (digits : AllDigits (first :: rest)) (lead : first ≠ '0')
    (value : digitsValue (first :: rest) = s) :
    WritesWire (wire.scientific (String.ofList (first :: rest)) (e + rest.length)) s e := by
  -- the leading digit, the point and the other digits, the exponent
  refine ⟨⟨[first], rest, some (e + rest.length)⟩,
    ⟨⟨fun c member => digits c (by simp at member; simp [member]), by simp,
      fun c member => digits c (List.mem_cons_of_mem _ member)⟩, by simp [lead], by simp⟩, ?_, ?_⟩
  · apply eq_ofList_of_toList
    rw [scientific_wire_toList]
    simp [chars]
  · rw [magnitude_parts, List.singleton_append, value]
    simp

end Layouts

end FloatStyle

/-- The wire text of a positive finite double is a numeral of its shortest digits. -/
theorem render_wire_numeral {x : Float} {m : Nat} {q : Int}
    (shape : FloatShape.of x = .finite ⟨false, m, q⟩) (positive : 0 < m) :
    FloatStyle.WritesWire (FloatStyle.wire.render x) (Digits.shortest ⟨false, m, q⟩).significand
      (Digits.shortest ⟨false, m, q⟩).exponent := by
  obtain ⟨canonical, -⟩ := FloatShape.of_eq_finite shape
  have range := Dyadic.within_range canonical positive (Digits.shortest_within canonical positive)
  rw [FloatStyle.render_wire_positive shape positive]
  generalize Digits.shortest ⟨false, m, q⟩ = d at range ⊢
  obtain ⟨s, e⟩ := d
  have significandPos : 0 < s := by
    have valuePos : (0 : ℚ) < s * 10 ^ e := lt_of_lt_of_le (by positivity) range.1
    rcases Nat.eq_zero_or_pos s with zero | pos
    · simp [zero] at valuePos
    · exact pos
  have textNe : Nat.toDigits 10 s ≠ [] := Nat.toDigits_ne_nil
  obtain ⟨first, rest, text⟩ := List.exists_cons_of_ne_nil textNe
  have lead := toDigits_head_ne_zero significandPos text
  have digits : AllDigits (first :: rest) := text ▸ allDigits_toDigits s
  have value : digitsValue (first :: rest) = s := by rw [← text, digitsValue_toDigits]
  have leading : Digits.scientificExponent ⟨s, e⟩ = e + rest.length := by
    simp [Digits.scientificExponent, Digits.digitText, Nat.repr_eq_ofList_toDigits, text]
    omega
  simp only [leading, text]
  by_cases inRange : -5 ≤ e + rest.length ∧ e + rest.length ≤ 15
  · rw [if_pos inRange]
    by_cases nonneg : 0 ≤ e + rest.length
    · by_cases fits : (first :: rest).length ≤ (e + rest.length).toNat + 1
      · exact FloatStyle.positional_fits_writes digits lead value nonneg fits
      · exact FloatStyle.positional_splits_writes digits lead value nonneg (not_le.mp fits)
    · exact FloatStyle.positional_fraction_writes digits value (not_le.mp nonneg)
  · rw [if_neg inRange]
    exact FloatStyle.scientific_writes digits lead value

/-- A positive finite double is written on the wire as a numeral whose parts read as the double
itself. -/
theorem render_wire_reads_back {x : Float} (finite : Binary.isFinite x = true)
    (positive : (0.0 : Float) < x) :
    ∃ n : Numeral, n.Wire ∧ FloatStyle.wire.render x = String.ofList n.chars ∧ n.parts.toFloat = x := by
  rcases FloatShape.of_pos positive with ⟨m, q, mantissaPos, shape⟩ | infinite
  · obtain ⟨canonical, -⟩ := FloatShape.of_eq_finite shape
    obtain ⟨n, wire, rendered, magnitude⟩ := render_wire_numeral shape mantissaPos
    have within := Digits.shortest_within canonical mantissaPos
    rw [Digits.value, ← magnitude] at within
    have significandPos : 0 < n.parts.digits := by
      have := lt_of_lt_of_le (by positivity) (Dyadic.within_range canonical mantissaPos within).1
      rcases Nat.eq_zero_or_pos n.parts.digits with zero | pos
      · simp [DecimalParts.magnitude, zero] at this
      · exact pos
    exact ⟨n, wire, rendered, DecimalParts.toFloat_eq_of_within shape mantissaPos rfl
      (Numeral.parts_significant wire.toWellFormed significandPos) within⟩
  · simp [Binary.isFinite, infinite] at finite

/-- The wire text of a positive finite double reads back as that double. -/
theorem readNumber_render_wire {x : Float} (finite : Binary.isFinite x = true)
    (positive : (0.0 : Float) < x) : readNumber (FloatStyle.wire.render x) = some x := by
  obtain ⟨n, wire, rendered, reads⟩ := render_wire_reads_back finite positive
  rw [rendered, Numeral.readNumber_chars wire.toWellFormed, reads]

end LoadHarness
