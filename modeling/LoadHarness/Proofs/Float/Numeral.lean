import Mathlib
import LoadHarness.Number.Read
import LoadHarness.Proofs.Float.Shortest

/-!
# Decimal numerals and the doubles they read as

A numeral here is what the harness writes for a positive double: whole digits, possibly a point
with fraction digits, possibly an exponent with an explicit sign.  This module says what
`Decimal.readNumber` makes of one.

* `Numeral.readUnsigned_chars`: the parts read from a well-formed numeral hold all its digits as
  one number, the count of fraction digits, the count of significant digits and the exponent.
* `DecimalParts.toFloat_eq_of_within`: parts whose magnitude lies in the rounding interval of a
  positive double read as that double.  The count of significant digits places the magnitude
  between two powers of ten, which keeps it clear of both guards on the exponent, and `nearest`
  does the rest.
* `Numeral.readNumber_eq_of_within`: the two together.
-/

namespace LoadHarness

namespace Decimal

/-- Every character is a decimal digit. -/
def AllDigits (chars : List Char) : Prop := ∀ c ∈ chars, c.isDigit = true

theorem digitsValue_eq_ofDigitChars (chars : List Char) :
    digitsValue chars = Nat.ofDigitChars 10 chars 0 := by
  unfold digitsValue Nat.ofDigitChars
  congr 1
  funext acc c
  rw [digitValue, Nat.mul_comm]

theorem digitsValue_append (front back : List Char) :
    digitsValue (front ++ back) = digitsValue front * 10 ^ back.length + digitsValue back := by
  rw [digitsValue_eq_ofDigitChars, Nat.ofDigitChars_append, Nat.ofDigitChars_eq_ofDigitChars_zero,
    digitsValue_eq_ofDigitChars, digitsValue_eq_ofDigitChars, Nat.mul_comm]

theorem digitsValue_cons (c : Char) (rest : List Char) :
    digitsValue (c :: rest) = digitValue c * 10 ^ rest.length + digitsValue rest := by
  rw [← List.singleton_append, digitsValue_append]
  simp [digitsValue]

@[simp] theorem digitsValue_replicate_zero (count : Nat) :
    digitsValue (List.replicate count '0') = 0 := by
  simp [digitsValue_eq_ofDigitChars]

@[simp] theorem digitsValue_toDigits (n : Nat) : digitsValue (Nat.toDigits 10 n) = n := by
  rw [digitsValue_eq_ofDigitChars, Nat.ofDigitChars_toDigits (by decide) (by decide)]

theorem digitValue_le_nine {c : Char} (digit : c.isDigit = true) : digitValue c ≤ 9 := by
  simp only [Char.isDigit, Bool.and_eq_true, decide_eq_true_eq] at digit
  simp only [digitValue, Char.toNat]
  have : c.val.toNat ≤ 57 := digit.2
  have zero : ('0' : Char).val.toNat = 48 := rfl
  omega

theorem digitValue_pos {c : Char} (digit : c.isDigit = true) (nonzero : c ≠ '0') :
    0 < digitValue c := by
  simp only [Char.isDigit, Bool.and_eq_true, decide_eq_true_eq] at digit
  simp only [digitValue, Char.toNat]
  have low : 48 ≤ c.val.toNat := digit.1
  have : c.val.toNat ≠ 48 := fun h => nonzero (Char.ext (UInt32.toNat_inj.mp h))
  have zero : ('0' : Char).val.toNat = 48 := rfl
  omega

theorem digitsValue_lt {chars : List Char} (digits : AllDigits chars) :
    digitsValue chars < 10 ^ chars.length := by
  induction chars with
  | nil => simp [digitsValue]
  | cons c rest ih =>
    have head := digitValue_le_nine (digits c (by simp))
    have tail := ih fun d member => digits d (by simp [member])
    rw [digitsValue_cons, List.length_cons, pow_succ]
    nlinarith

/-- Leading zeros add nothing to the value. -/
theorem digitsValue_dropWhile_zero (chars : List Char) :
    digitsValue (chars.dropWhile (· == '0')) = digitsValue chars := by
  induction chars with
  | nil => rfl
  | cons c rest ih =>
    by_cases zero : c = '0'
    · subst zero
      rw [List.dropWhile_cons_of_pos (by decide), ih, digitsValue_cons]
      simp [digitValue]
    · rw [List.dropWhile_cons_of_neg (by simpa using zero)]

theorem pow_le_digitsValue {c : Char} {rest : List Char} (digit : c.isDigit = true)
    (nonzero : c ≠ '0') : 10 ^ rest.length ≤ digitsValue (c :: rest) := by
  rw [digitsValue_cons]
  calc 10 ^ rest.length ≤ digitValue c * 10 ^ rest.length :=
        Nat.le_mul_of_pos_left _ (digitValue_pos digit nonzero)
    _ ≤ digitValue c * 10 ^ rest.length + digitsValue rest := Nat.le_add_right _ _

/-- The significant digits of a positive number place it between two powers of ten. -/
theorem digitsValue_significant_bounds {chars : List Char} (digits : AllDigits chars)
    (positive : 0 < digitsValue chars) :
    10 ^ ((chars.dropWhile (· == '0')).length - 1) ≤ digitsValue chars ∧
      digitsValue chars < 10 ^ (chars.dropWhile (· == '0')).length := by
  rw [← digitsValue_dropWhile_zero chars] at positive ⊢
  have significantDigits : AllDigits (chars.dropWhile (· == '0')) :=
    fun c member => digits c ((List.dropWhile_sublist _).subset member)
  have leading := List.head?_dropWhile_not (· == '0') chars
  refine ⟨?_, digitsValue_lt significantDigits⟩
  cases significant : chars.dropWhile (· == '0') with
  | nil => simp [significant, digitsValue] at positive
  | cons c rest =>
    rw [significant] at leading significantDigits
    have nonzero : c ≠ '0' := by simpa using leading
    simpa using pow_le_digitsValue (significantDigits c (by simp)) nonzero

theorem allDigits_toDigits (n : Nat) : AllDigits (Nat.toDigits 10 n) :=
  fun _ member => Nat.isDigit_of_mem_toDigits (by decide) (by decide) member

/-- The decimal text of a positive number does not start with `0`. -/
theorem toDigits_head_ne_zero {n : Nat} (positive : 0 < n) {first : Char} {rest : List Char}
    (text : Nat.toDigits 10 n = first :: rest) : first ≠ '0' := by
  rintro rfl
  have large : 10 ^ rest.length ≤ n := by
    rcases Nat.eq_zero_or_pos rest.length with empty | nonempty
    · simpa [empty, Nat.one_le_iff_ne_zero] using positive.ne'
    · apply not_lt.mp
      intro small
      have short := (Nat.length_toDigits_le_iff (by decide) nonempty).mpr small
      simp [text] at short
  have restDigits : AllDigits rest := fun c member =>
    allDigits_toDigits n c (by rw [text]; exact List.mem_cons_of_mem _ member)
  have value := digitsValue_toDigits n
  rw [text, digitsValue_cons] at value
  have small := digitsValue_lt restDigits
  simp only [digitValue, Nat.sub_self, Nat.zero_mul, Nat.zero_add] at value
  omega

/-- A run of digits ends where a character that is not a digit starts. -/
theorem span_digits {digits rest : List Char} (allDigits : AllDigits digits)
    (stop : ∀ c ∈ rest.head?, c.isDigit = false) :
    span Char.isDigit (digits ++ rest) = (digits, rest) := by
  have takeRest : rest.takeWhile Char.isDigit = [] := by
    cases rest with
    | nil => rfl
    | cons c more => simp [stop c rfl]
  have dropRest : rest.dropWhile Char.isDigit = rest := by
    cases rest with
    | nil => rfl
    | cons c more => simp [stop c rfl]
  simp [span, List.takeWhile_append_of_pos allDigits, List.dropWhile_append_of_pos allDigits,
    takeRest, dropRest]

/-- An exponent written with an explicit sign reads back. -/
theorem readExponent_signed (e : Int) :
    readExponent ((if e < 0 then '-' else '+') :: Nat.toDigits 10 e.natAbs) = some e := by
  have digits : (Nat.toDigits 10 e.natAbs).all Char.isDigit = true :=
    List.all_eq_true.mpr (allDigits_toDigits _)
  by_cases negative : e < 0
  · simp [readExponent, negative, digits, Nat.toDigits_ne_nil, abs_of_neg negative]
  · simp [readExponent, negative, digits, Nat.toDigits_ne_nil, abs_of_nonneg (not_lt.mp negative)]

/-- A decimal numeral `whole.fraction`, possibly followed by an exponent `e±digits`; an empty
fraction is written without its point. -/
structure Numeral where
  whole : List Char
  fraction : List Char
  exponent : Option Int

namespace Numeral

/-- The point and the fraction digits; nothing for an empty fraction. -/
def fractionChars : List Char → List Char
  | [] => []
  | c :: rest => '.' :: c :: rest

/-- The exponent mark, an explicit sign and the digits of the magnitude. -/
def exponentChars : Option Int → List Char
  | none => []
  | some e => 'e' :: (if e < 0 then '-' else '+') :: Nat.toDigits 10 e.natAbs

/-- The characters of a numeral. -/
def chars (n : Numeral) : List Char :=
  n.whole ++ (fractionChars n.fraction ++ exponentChars n.exponent)

/-- The parts a numeral stands for. -/
def parts (n : Numeral) : DecimalParts :=
  ⟨false, digitsValue (n.whole ++ n.fraction), n.fraction.length,
    ((n.whole ++ n.fraction).dropWhile (· == '0')).length, n.exponent.getD 0⟩

/-- Whole and fraction are digits, and some digit comes before the point. -/
structure WellFormed (n : Numeral) : Prop where
  whole_digits : AllDigits n.whole
  whole_ne_nil : n.whole ≠ []
  fraction_digits : AllDigits n.fraction

theorem exponentChars_head (e : Option Int) : ∀ c ∈ (exponentChars e).head?, c = 'e' := by
  cases e <;> simp [exponentChars]

theorem fractionChars_head (fraction : List Char) (e : Option Int) :
    ∀ c ∈ (fractionChars fraction ++ exponentChars e).head?, c = '.' ∨ c = 'e' := by
  cases fraction with
  | nil =>
    simp only [fractionChars, List.nil_append]
    exact fun c member => Or.inr (exponentChars_head e c member)
  | cons d rest => simp [fractionChars]

theorem readUnsigned_chars {n : Numeral} (wellFormed : n.WellFormed) :
    readUnsigned false n.chars = some n.parts := by
  have wholeSpan : span Char.isDigit n.chars =
      (n.whole, fractionChars n.fraction ++ exponentChars n.exponent) := by
    apply span_digits wellFormed.whole_digits
    intro c member
    rcases fractionChars_head n.fraction n.exponent c member with point | mark <;> subst_vars <;> rfl
  have wholeFilled : n.whole.isEmpty = false := List.isEmpty_eq_false_iff.mpr wellFormed.whole_ne_nil
  unfold readUnsigned
  rw [wholeSpan]
  dsimp only
  cases fraction : n.fraction with
  | nil =>
    cases exponent : n.exponent <;>
      simp [fractionChars, exponentChars, readExponent_signed, parts, fraction, exponent, wholeFilled]
  | cons d rest =>
    have digits := wellFormed.fraction_digits
    rw [fraction] at digits
    have fractionSpan : span Char.isDigit (d :: rest ++ exponentChars n.exponent) =
        (d :: rest, exponentChars n.exponent) :=
      span_digits digits fun c member => by rw [exponentChars_head n.exponent c member]; rfl
    simp only [fractionChars, List.cons_append] at fractionSpan ⊢
    rw [fractionSpan]
    cases exponent : n.exponent <;>
      simp [exponentChars, readExponent_signed, parts, fraction, exponent, wholeFilled]

theorem toLower_of_isDigit {c : Char} (digit : c.isDigit = true) : c.toLower = c := by
  simp only [Char.isDigit, Bool.and_eq_true, decide_eq_true_eq] at digit
  have notUpper : ¬(c.val ≥ 'A'.val ∧ c.val ≤ 'Z'.val) := by
    rintro ⟨atLeastA, -⟩
    have belowA : c.val.toNat < ('A' : Char).val.toNat := lt_of_le_of_lt digit.2 (by decide)
    exact absurd atLeastA (not_le.mpr belowA)
  unfold Char.toLower
  rw [dif_neg notUpper]

/-- A text that starts with a digit spells none of the words read as special doubles. -/
theorem spells_of_isDigit {c : Char} (digit : c.isDigit = true) (rest : List Char) {word : String}
    {letter : Char} {more : List Char} (spelled : word.toList = letter :: more)
    (letterNotDigit : letter.isDigit = false) : spells (c :: rest) word = false := by
  have differ : c ≠ letter := by
    rintro rfl
    simp [digit] at letterNotDigit
  simp [spells, spelled, toLower_of_isDigit digit, differ]

theorem readNumber_chars {n : Numeral} (wellFormed : n.WellFormed) :
    readNumber (String.ofList n.chars) = some n.parts.toFloat := by
  obtain ⟨c, rest, whole⟩ := List.exists_cons_of_ne_nil wellFormed.whole_ne_nil
  have digit : c.isDigit = true := wellFormed.whole_digits c (by simp [whole])
  have first : n.chars = c :: (rest ++ (fractionChars n.fraction ++ exponentChars n.exponent)) := by
    simp [chars, whole]
  have notMinus : c ≠ '-' := by
    rintro rfl
    exact absurd digit (by decide)
  have notPlus : c ≠ '+' := by
    rintro rfl
    exact absurd digit (by decide)
  unfold readNumber
  rw [String.toList_ofList, first]
  dsimp only
  split
  · rename_i equal
    exact absurd (List.cons.inj equal).1 notMinus
  · rename_i equal
    exact absurd (List.cons.inj equal).1 notPlus
  · have noWord : ∀ word : String, ∀ letter more, word.toList = letter :: more →
        letter.isDigit = false → spells (c :: (rest ++ (fractionChars n.fraction ++
          exponentChars n.exponent))) word = false :=
      fun _ _ _ spelled letterNotDigit => spells_of_isDigit digit _ spelled letterNotDigit
    rw [noWord "inf" 'i' _ rfl rfl, noWord "infinity" 'i' _ rfl rfl, noWord "nan" 'n' _ rfl rfl]
    simp only [Bool.or_self, Bool.false_eq_true, if_false]
    rw [← first, readUnsigned_chars wellFormed]
    rfl

end Numeral

end Decimal

namespace DecimalParts

/-- The exact value of decimal parts, sign aside: all their digits, scaled by the exponent less
the count of fraction digits. -/
def magnitude (parts : DecimalParts) : ℚ :=
  parts.digits * 10 ^ (parts.exponent - parts.fractionLength)

/-- The count of significant digits is the length of the digits' decimal text. -/
def Significant (parts : DecimalParts) : Prop :=
  10 ^ (parts.digitCount - 1) ≤ parts.digits ∧ parts.digits < 10 ^ parts.digitCount

/-- Inside the range where the exponent is not settled by itself, the parts are rounded as the
ratio of two whole numbers equal to their magnitude. -/
theorem toFloat_eq_nearest {parts : DecimalParts} (nonzero : parts.digits ≠ 0)
    (upper : parts.exponent - parts.fractionLength + parts.digitCount ≤ 330)
    (lower : -400 ≤ parts.exponent - parts.fractionLength + parts.digitCount) :
    ∃ num den : Nat, 0 < den ∧ (num : ℚ) / den = parts.magnitude ∧
      parts.toFloat = Binary.nearest parts.negative num den := by
  have digitsNe : (parts.digits == 0) = false := by simpa using nonzero
  unfold toFloat
  simp only [digitsNe, Bool.false_eq_true, if_false, if_neg (not_lt.mpr upper),
    if_neg (not_lt.mpr lower), Nat.pow_eq]
  by_cases nonneg : 0 ≤ parts.exponent - parts.fractionLength
  · refine ⟨parts.digits * 10 ^ (parts.exponent - parts.fractionLength).toNat, 1, one_pos, ?_,
      by rw [if_pos nonneg]⟩
    push_cast
    rw [pow_toNat _ nonneg, div_one, magnitude]
  · refine ⟨parts.digits, 10 ^ (-(parts.exponent - parts.fractionLength)).toNat, by positivity, ?_,
      by rw [if_neg nonneg]⟩
    push_cast
    rw [pow_toNat _ (by omega), magnitude, zpow_neg, div_eq_mul_inv, inv_inv]

theorem magnitude_lt {parts : DecimalParts} (significant : parts.Significant) :
    parts.magnitude < 10 ^ (parts.exponent - parts.fractionLength + parts.digitCount) := by
  have below : (parts.digits : ℚ) < 10 ^ (parts.digitCount : ℤ) := by
    rw [zpow_natCast]
    exact_mod_cast significant.2
  rw [magnitude, zpow_add₀ (by norm_num), mul_comm ((10 : ℚ) ^ _)]
  exact mul_lt_mul_of_pos_right below (by positivity)

theorem le_magnitude {parts : DecimalParts} (significant : parts.Significant)
    (counted : 0 < parts.digitCount) :
    10 ^ (parts.exponent - parts.fractionLength + parts.digitCount - 1) ≤ parts.magnitude := by
  have above : (10 : ℚ) ^ ((parts.digitCount - 1 : ℕ) : ℤ) ≤ parts.digits := by
    rw [zpow_natCast]
    exact_mod_cast significant.1
  have shifted : parts.exponent - parts.fractionLength + parts.digitCount - 1 =
      (((parts.digitCount - 1 : ℕ) : ℤ) + (parts.exponent - parts.fractionLength) : ℤ) := by
    omega
  rw [magnitude, shifted, zpow_add₀ (by norm_num)]
  exact mul_le_mul_of_nonneg_right above (by positivity)

end DecimalParts

namespace Dyadic

/-- The rounding interval of a positive finite double lies between `2^-1075` and `2^1024`. -/
theorem within_range {m : Nat} {q : Int} (canonical : Canonical ⟨false, m, q⟩) (positive : 0 < m)
    {r : ℚ} (within : Within ⟨false, m, q⟩ r) :
    (2 : ℚ) ^ (-1075 : ℤ) ≤ r ∧ r < 2 ^ (1024 : ℤ) := by
  obtain ⟨lower, upper, -⟩ := within_bounds positive within
  have reach := lowerReach_le m q
  have scalePos : (0 : ℚ) < 2 ^ q := by positivity
  have mantissaOne : (1 : ℚ) ≤ m := by exact_mod_cast positive
  have mantissaBelow : (m : ℚ) + 1 / 2 < 2 ^ (53 : ℤ) := by
    have : m + 1 ≤ 2 ^ 53 := canonical.mantissa_lt
    have cast : ((m + 1 : ℕ) : ℚ) ≤ 2 ^ (53 : ℤ) := by
      rw [show (53 : ℤ) = ((53 : ℕ) : ℤ) from rfl, zpow_natCast]
      exact_mod_cast this
    push_cast at cast
    linarith
  constructor
  · -- at least half a unit of the least exponent
    calc (2 : ℚ) ^ (-1075 : ℤ) = 1 / 2 * 2 ^ (-1074 : ℤ) := by
          rw [show (-1075 : ℤ) = -1 + -1074 by norm_num, zpow_add₀ two_ne_zero]
          norm_num
      _ ≤ 1 / 2 * 2 ^ q := by
          gcongr
          · norm_num
          · exact canonical.least_le
      _ ≤ r := by
          have : (1 / 2 : ℚ) ≤ r / 2 ^ q := by linarith
          rwa [le_div_iff₀ scalePos] at this
  · calc r ≤ (m + 1 / 2) * 2 ^ q := (div_le_iff₀ scalePos).1 upper
      _ < 2 ^ (53 : ℤ) * 2 ^ q := mul_lt_mul_of_pos_right mantissaBelow scalePos
      _ ≤ 2 ^ (53 : ℤ) * 2 ^ (971 : ℤ) := by
          gcongr
          · norm_num
          · exact canonical.le_greatest
      _ = 2 ^ (1024 : ℤ) := by rw [← zpow_add₀ (by norm_num)]; norm_num

end Dyadic

theorem two_pow_lt_ten_pow : (2 : ℚ) ^ (1024 : ℤ) < 10 ^ (309 : ℤ) := by
  have whole : (2 : ℕ) ^ 1024 < 10 ^ 309 := by decide +kernel
  rw [show (1024 : ℤ) = ((1024 : ℕ) : ℤ) from rfl, show (309 : ℤ) = ((309 : ℕ) : ℤ) from rfl,
    zpow_natCast, zpow_natCast]
  exact_mod_cast whole

theorem ten_pow_lt_two_pow : (10 : ℚ) ^ (-400 : ℤ) < 2 ^ (-1075 : ℤ) := by
  have whole : (2 : ℕ) ^ 1075 < 10 ^ 400 := by decide +kernel
  rw [zpow_neg, zpow_neg, inv_lt_inv₀ (by positivity) (by positivity),
    show (1075 : ℤ) = ((1075 : ℕ) : ℤ) from rfl, show (400 : ℤ) = ((400 : ℕ) : ℤ) from rfl,
    zpow_natCast, zpow_natCast]
  exact_mod_cast whole

namespace DecimalParts

/-- Decimal parts whose magnitude lies in the rounding interval of a positive double read as that
double: the magnitude is far enough from the ends of the range of doubles for both guards on the
exponent to pass, and `nearest` does the rest. -/
theorem toFloat_eq_of_within {x : Float} {m : Nat} {q : Int}
    (shape : FloatShape.of x = .finite ⟨false, m, q⟩) (positive : 0 < m) {parts : DecimalParts}
    (unsigned : parts.negative = false) (significant : parts.Significant)
    (within : Dyadic.Within ⟨false, m, q⟩ parts.magnitude) : parts.toFloat = x := by
  obtain ⟨canonical, -⟩ := FloatShape.of_eq_finite shape
  obtain ⟨least, greatest⟩ := Dyadic.within_range canonical positive within
  have magnitudePos : 0 < parts.magnitude := lt_of_lt_of_le (by positivity) least
  have nonzero : parts.digits ≠ 0 := by
    intro zero
    simp [magnitude, zero] at magnitudePos
  have counted : 0 < parts.digitCount := by
    by_contra none
    have : parts.digits < 1 := by simpa [Nat.eq_zero_of_not_pos none] using significant.2
    omega
  have upper : parts.exponent - parts.fractionLength + parts.digitCount ≤ 330 := by
    -- past the guard the magnitude would reach `10^309`, above every finite double
    by_contra beyond
    have reached : (10 : ℚ) ^ (309 : ℤ) < 10 ^ (309 : ℤ) :=
      calc (10 : ℚ) ^ (309 : ℤ)
          ≤ 10 ^ (parts.exponent - parts.fractionLength + parts.digitCount - 1) :=
            zpow_le_zpow_right₀ (by norm_num) (by omega)
        _ ≤ parts.magnitude := le_magnitude significant counted
        _ < 2 ^ (1024 : ℤ) := greatest
        _ < 10 ^ (309 : ℤ) := two_pow_lt_ten_pow
    exact lt_irrefl _ reached
  have lower : -400 ≤ parts.exponent - parts.fractionLength + parts.digitCount := by
    -- below the guard the magnitude would stay under `10^-400`, below every positive double
    by_contra beyond
    have reached : (10 : ℚ) ^ (-400 : ℤ) < 10 ^ (-400 : ℤ) :=
      calc (10 : ℚ) ^ (-400 : ℤ) < 2 ^ (-1075 : ℤ) := ten_pow_lt_two_pow
        _ ≤ parts.magnitude := least
        _ < 10 ^ (parts.exponent - parts.fractionLength + parts.digitCount) := magnitude_lt significant
        _ ≤ 10 ^ (-400 : ℤ) := zpow_le_zpow_right₀ (by norm_num) (by omega)
    exact lt_irrefl _ reached
  obtain ⟨num, den, denPos, value, rounded⟩ := toFloat_eq_nearest nonzero upper lower
  rw [rounded, unsigned]
  rw [← value] at within
  exact Binary.nearest_eq_of_within shape positive denPos within

end DecimalParts

namespace Decimal.Numeral

theorem parts_significant {n : Numeral} (wellFormed : n.WellFormed) (positive : 0 < n.parts.digits) :
    n.parts.Significant := by
  have digits : AllDigits (n.whole ++ n.fraction) := by
    intro c member
    rcases List.mem_append.mp member with inWhole | inFraction
    · exact wellFormed.whole_digits c inWhole
    · exact wellFormed.fraction_digits c inFraction
  exact digitsValue_significant_bounds digits positive

/-- A numeral whose value lies in the rounding interval of a positive double reads as that
double. -/
theorem readNumber_eq_of_within {x : Float} {m : Nat} {q : Int}
    (shape : FloatShape.of x = .finite ⟨false, m, q⟩) (positive : 0 < m) {n : Numeral}
    (wellFormed : n.WellFormed) (within : Dyadic.Within ⟨false, m, q⟩ n.parts.magnitude) :
    readNumber (String.ofList n.chars) = some x := by
  obtain ⟨canonical, -⟩ := FloatShape.of_eq_finite shape
  have magnitudePos : 0 < n.parts.magnitude :=
    lt_of_lt_of_le (by positivity) (Dyadic.within_range canonical positive within).1
  have digitsPos : 0 < n.parts.digits := by
    rcases Nat.eq_zero_or_pos n.parts.digits with zero | pos
    · simp [DecimalParts.magnitude, zero] at magnitudePos
    · exact pos
  rw [readNumber_chars wellFormed,
    DecimalParts.toFloat_eq_of_within shape positive rfl (parts_significant wellFormed digitsPos) within]

end Decimal.Numeral

end LoadHarness
