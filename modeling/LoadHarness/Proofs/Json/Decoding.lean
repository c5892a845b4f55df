import Mathlib
import LoadHarness.Json.Decode
import LoadHarness.Proofs.Json.Layout

/-!
# The decoder reads back written records

`Json.decodeWithin` reads the text `Value.toJson` writes for an object of wire scalars with
distinct keys as that object (`decodeWithin_record`).  The reading is followed piece by piece,
each stated through what remains of the characters at a position (`chars.toList.drop pos`):

* a string literal reads as its string, one escape per step (`scanString_quote`);
* a numeral of the wire reads as the parts it stands for (`scanNumber_wire`), so a positive
  finite double reads as itself (`scanValue_scalar`);
* each member of an object adds its key and value after the fields before it
  (`scanObject_member`, `scanObject_fields`).
-/

namespace LoadHarness

namespace Json

open Decimal

theorem getElem?_of_drop {chars : Array Char} {pos : Nat} {remaining : List Char}
    (rest : chars.toList.drop pos = remaining) (offset : Nat) :
    chars[pos + offset]? = remaining[offset]? := by
  rw [← rest, List.getElem?_drop, Array.getElem?_toList]

/-- The two-character escapes, with the character each stands for. -/
def pairEscapes : List (Char × Char) :=
  [('"', '"'), ('\\', '\\'), ('n', '\n'), ('r', '\r'), ('t', '\t'), ('b', Char.ofNat 8),
    ('f', Char.ofNat 12)]

theorem scanString_go_pair {chars : Array Char} {opening pos fuel : Nat} {acc : String}
    {letter decoded : Char} (escaped : (letter, decoded) ∈ pairEscapes)
    (backslash : chars[pos]? = some '\\') (named : chars[pos + 1]? = some letter) :
    scanString.go chars opening (fuel + 1) pos acc =
      scanString.go chars opening fuel (pos + 2) (acc.push decoded) := by
  simp only [pairEscapes, List.mem_cons, Prod.mk.injEq, List.not_mem_nil, or_false] at escaped
  rcases escaped with ⟨rfl, rfl⟩ | ⟨rfl, rfl⟩ | ⟨rfl, rfl⟩ | ⟨rfl, rfl⟩ | ⟨rfl, rfl⟩ | ⟨rfl, rfl⟩ |
      ⟨rfl, rfl⟩ <;>
    simp [scanString.go, charAt, backslash, named]

theorem hexValue_digit : ∀ d < 16,
    hexValue (if d < 10 then Char.ofNat (48 + d) else Char.ofNat (87 + d)) = some d := by
  decide

theorem hex4At_hex4 {chars : Array Char} {pos code : Nat} {more : List Char}
    (rest : chars.toList.drop pos = (hex4 code).toList ++ more) (small : code < 0x10000) :
    hex4At chars pos = some code := by
  have lookup := getElem?_of_drop rest
  simp only [hex4, String.toList_ofList, List.cons_append, List.nil_append] at lookup
  have digits := fun k => hexValue_digit (code / k % 16) (Nat.mod_lt _ (by decide))
  have d0 := lookup 0
  have d1 := lookup 1
  have d2 := lookup 2
  have d3 := lookup 3
  simp only [List.getElem?_cons_zero, List.getElem?_cons_succ, Nat.add_zero] at d0 d1 d2 d3
  have last := hexValue_digit (code % 16) (Nat.mod_lt _ (by decide))
  simp only [hex4At, charAt, List.foldl_cons, List.foldl_nil, Nat.add_zero, d0, d1, d2, d3, digits,
    last, Option.bind_some, Option.some.injEq]
  omega

theorem scanString_go_escape {chars : Array Char} {opening pos fuel : Nat} {acc : String} {c : Char}
    {more : List Char} (rest : chars.toList.drop pos = (escapeChar c).toList ++ more)
    (beyond : more ≠ []) :
    scanString.go chars opening (fuel + 1) pos acc =
      scanString.go chars opening fuel (pos + (escapeChar c).toList.length) (acc.push c) := by
  have lookup := getElem?_of_drop rest
  -- a two-character escape: a backslash, then the letter naming the character
  have pair : ∀ letter, (letter, c) ∈ pairEscapes → (escapeChar c).toList = ['\\', letter] →
      scanString.go chars opening (fuel + 1) pos acc =
        scanString.go chars opening fuel (pos + (escapeChar c).toList.length) (acc.push c) := by
    intro letter escaped written
    rw [written] at lookup ⊢
    exact scanString_go_pair escaped (by simpa using lookup 0) (by simpa using lookup 1)
  by_cases isQuote : c = '"'
  · subst isQuote
    exact pair '"' (by simp [pairEscapes]) (by simp [escapeChar])
  by_cases isBackslash : c = '\\'
  · subst isBackslash
    exact pair '\\' (by simp [pairEscapes]) (by simp [escapeChar])
  by_cases isNewline : c = '\n'
  · subst isNewline
    exact pair 'n' (by simp [pairEscapes]) (by simp [escapeChar])
  by_cases isReturn : c = '\r'
  · subst isReturn
    exact pair 'r' (by simp [pairEscapes]) (by simp [escapeChar])
  by_cases isTab : c = '\t'
  · subst isTab
    exact pair 't' (by simp [pairEscapes]) (by simp [escapeChar])
  by_cases isBackspace : c.toNat = 8
  · obtain rfl : c = Char.ofNat 8 := by rw [← isBackspace, Char.ofNat_toNat]
    exact pair 'b' (by simp [pairEscapes]) (by simp [escapeChar])
  by_cases isFormFeed : c.toNat = 12
  · obtain rfl : c = Char.ofNat 12 := by rw [← isFormFeed, Char.ofNat_toNat]
    exact pair 'f' (by simp [pairEscapes]) (by simp [escapeChar])
  by_cases control : c.toNat < 32
  · -- a `\u` escape of four hexadecimal digits
    have written : (escapeChar c).toList = '\\' :: 'u' :: (hex4 c.toNat).toList := by
      simp [escapeChar, isBackspace, isFormFeed, control]
    rw [written] at rest lookup ⊢
    have hexLength : (hex4 c.toNat).toList.length = 4 := by simp [hex4]
    have digitsRest : chars.toList.drop (pos + 2) = (hex4 c.toNat).toList ++ more := by
      rw [← List.drop_drop, rest]
      rfl
    have code := hex4At_hex4 digitsRest (by omega)
    have room : ¬ pos + 6 ≥ chars.size := by
      have size := congrArg List.length rest
      simp only [List.length_drop, Array.length_toList, List.length_append, List.length_cons,
        hexLength] at size
      have : more.length ≠ 0 := by simpa using beyond
      omega
    have notSurrogate : (0xD800 ≤ c.toNat && c.toNat ≤ 0xDBFF) = false := by
      simp only [Bool.and_eq_false_iff, decide_eq_false_iff_not, not_le]
      omega
    simp [scanString.go, charAt, code, room, notSurrogate, codeChar, hexLength,
      (by simpa using lookup 0 : chars[pos]? = some '\\'),
      (by simpa using lookup 1 : chars[pos + 1]? = some 'u')]
    have plain : ¬ (55296 ≤ c.toNat ∧ c.toNat ≤ 57343) := by omega
    rw [if_neg plain]
  · -- any other character stands for itself
    have written : (escapeChar c).toList = [c] := by
      simp [escapeChar, isBackspace, isFormFeed, control]
    rw [written] at lookup ⊢
    have first : chars[pos]? = some c := by simpa using lookup 0
    have visible : ¬ c.toNat ≤ 0x1f := by omega
    simp [scanString.go, charAt, first, visible]

/-- Reading the escapes of `cs` up to the closing quote gives back `cs`: one escape per step, so
the fuel needs to exceed the count of characters. -/
theorem scanString_go_escapes {chars : Array Char} {opening : Nat} {rest : List Char}
    (cs : List Char) (fuel pos : Nat) (acc : String)
    (remaining : chars.toList.drop pos = escapes cs ++ '"' :: rest) (enough : cs.length < fuel) :
    scanString.go chars opening fuel pos acc =
      .ok (acc ++ String.ofList cs, pos + (escapes cs).length + 1) := by
  induction cs generalizing fuel pos acc with
  | nil =>
    obtain ⟨fuel, rfl⟩ : ∃ k, fuel = k + 1 := ⟨fuel - 1, by omega⟩
    have closing : chars[pos]? = some '"' := by simpa [escapes] using getElem?_of_drop remaining 0
    simp [scanString.go, charAt, closing, escapes]
  | cons c cs ih =>
    obtain ⟨fuel, rfl⟩ : ∃ k, fuel = k + 1 := ⟨fuel - 1, by omega⟩
    rw [escapes_cons, List.append_assoc] at remaining
    have later : chars.toList.drop (pos + (escapeChar c).toList.length) = escapes cs ++ '"' :: rest := by
      rw [← List.drop_drop, remaining, List.drop_left]
    rw [scanString_go_escape remaining (by simp), ih fuel _ _ later (by simpa using enough),
      escapes_cons, List.length_append]
    simp only [String.push_eq_append, String.append_assoc, String.ofList_cons, Nat.add_assoc]

/-- The decoder reads a string literal as the string it was written for. -/
theorem scanString_quote {chars : Array Char} {opening : Nat} {text : String} {rest : List Char}
    (remaining : chars.toList.drop opening = (quote text).toList ++ rest) :
    scanString chars opening = .ok (text, opening + (quote text).toList.length) := by
  rw [toList_quote] at remaining ⊢
  have body : chars.toList.drop (opening + 1) = escapes text.toList ++ '"' :: rest := by
    rw [← List.drop_drop, remaining]
    simp
  have size := congrArg List.length remaining
  simp only [List.length_drop, Array.length_toList, List.length_cons, List.length_append] at size
  have enough := length_le_escapes text.toList
  unfold scanString
  rw [scanString_go_escapes text.toList _ _ _ body (by omega)]
  simp
  omega

/-- A run of digits ends where a character that is not a digit starts. -/
theorem digitsEnd_eq {chars : Array Char} {pos : Nat} {digits more : List Char}
    (remaining : chars.toList.drop pos = digits ++ more) (allDigits : AllDigits digits)
    (stop : ∀ c ∈ more.head?, c.isDigit = false) : digitsEnd chars pos = pos + digits.length := by
  have size := congrArg List.length remaining
  simp only [List.length_drop, Array.length_toList, List.length_append] at size
  have loop : ∀ fuel pos digits, chars.toList.drop pos = digits ++ more → AllDigits digits →
      digits.length < fuel → digitsEnd.go chars fuel pos = pos + digits.length := by
    intro fuel
    induction fuel with
    | zero => intro _ _ _ _ short; omega
    | succ fuel ih =>
      intro pos digits remaining allDigits short
      cases digits with
      | nil =>
        cases more with
        | nil =>
          have past : chars[pos]? = none := by simpa using getElem?_of_drop remaining 0
          simp [digitsEnd.go, charAt, past]
        | cons c more =>
          have next : chars[pos]? = some c := by simpa using getElem?_of_drop remaining 0
          simp [digitsEnd.go, charAt, next, stop c rfl]
      | cons d digits =>
        have next : chars[pos]? = some d := by simpa using getElem?_of_drop remaining 0
        have later : chars.toList.drop (pos + 1) = digits ++ more := by
          rw [← List.drop_drop, remaining]
          rfl
        have tail : AllDigits digits := fun c member => allDigits c (List.mem_cons_of_mem _ member)
        rw [digitsEnd.go, charAt, next]
        simp only [allDigits d List.mem_cons_self, if_true]
        rw [ih (pos + 1) digits later tail (by simpa using short)]
        simp
        omega
  exact loop _ pos digits remaining allDigits (by omega)

theorem slice_of_drop {chars : Array Char} {start : Nat} {taken more : List Char}
    (remaining : chars.toList.drop start = taken ++ more) :
    slice chars start (start + taken.length) = taken := by
  simp [slice, remaining]

/-- The characters of an exponent after its mark: the sign and the digits. -/
theorem slice_exponentChars {chars : Array Char} {pos : Nat} {e : Int} {rest : List Char}
    (remaining : chars.toList.drop pos = Numeral.exponentChars (some e) ++ rest) :
    slice chars (pos + 1) (pos + (Numeral.exponentChars (some e)).length) =
      (if e < 0 then '-' else '+') :: Nat.toDigits 10 e.natAbs := by
  have signed : chars.toList.drop (pos + 1) =
      ((if e < 0 then '-' else '+') :: Nat.toDigits 10 e.natAbs) ++ rest := by
    rw [← List.drop_drop, remaining]
    rfl
  have stop : pos + (Numeral.exponentChars (some e)).length =
      pos + 1 + ((if e < 0 then '-' else '+') :: Nat.toDigits 10 e.natAbs).length := by
    simp [Numeral.exponentChars]
    omega
  rw [stop]
  exact slice_of_drop signed

/-- What follows a number cannot continue it: no digit, point or exponent mark. -/
def EndsNumber (rest : List Char) : Prop :=
  ∀ c ∈ rest.head?, c.isDigit = false ∧ c ≠ '.' ∧ c ≠ 'e' ∧ c ≠ 'E'

theorem EndsNumber.not_digit {rest : List Char} (ends : EndsNumber rest) :
    ∀ c ∈ rest.head?, c.isDigit = false :=
  fun c member => (ends c member).1

theorem exponentEnd_of_exponentChars {chars : Array Char} {pos : Nat} {e : Int} {more : List Char}
    (remaining : chars.toList.drop pos = Numeral.exponentChars (some e) ++ more)
    (stop : ∀ c ∈ more.head?, c.isDigit = false) :
    exponentEnd chars pos = some (pos + (Numeral.exponentChars (some e)).length) := by
  simp only [Numeral.exponentChars, List.cons_append] at remaining ⊢
  have mark : chars[pos]? = some 'e' := by simpa using getElem?_of_drop remaining 0
  have sign : chars[pos + 1]? = some (if e < 0 then '-' else '+') := by
    simpa using getElem?_of_drop remaining 1
  have digitsAt : chars.toList.drop (pos + 2) = Nat.toDigits 10 e.natAbs ++ more := by
    rw [← List.drop_drop, remaining]
    rfl
  have stopAt := digitsEnd_eq digitsAt (allDigits_toDigits _) stop
  have signed : afterSign chars (pos + 1) = pos + 2 := by
    by_cases negative : e < 0 <;> simp [afterSign, charAt, sign, negative]
  have nonempty : 0 < (Nat.toDigits 10 e.natAbs).length := List.length_pos_iff.mpr Nat.toDigits_ne_nil
  simp [exponentEnd, charAt, mark, signed, stopAt, nonempty]
  omega

theorem exponentEnd_of_ends {chars : Array Char} {pos : Nat} {rest : List Char}
    (remaining : chars.toList.drop pos = rest) (ends : EndsNumber rest) :
    exponentEnd chars pos = none := by
  cases rest with
  | nil =>
    have past : chars[pos]? = none := by simpa using getElem?_of_drop remaining 0
    simp [exponentEnd, charAt, past]
  | cons c more =>
    have next : chars[pos]? = some c := by simpa using getElem?_of_drop remaining 0
    obtain ⟨-, -, notE, notUpperE⟩ := ends c rfl
    simp [exponentEnd, charAt, next, notE, notUpperE]

/-- After the whole digits of a numeral comes a point, an exponent mark, or what ends it. -/
theorem head_after_whole_not_digit {fraction : List Char} {exponent : Option Int} {rest : List Char}
    (ends : EndsNumber rest) :
    ∀ c ∈ (Numeral.fractionChars fraction ++ Numeral.exponentChars exponent ++ rest).head?,
      c.isDigit = false := by
  cases fraction with
  | cons d ds => simp [Numeral.fractionChars]
  | nil =>
    cases exponent with
    | some e => simp [Numeral.fractionChars, Numeral.exponentChars]
    | none => simpa [Numeral.fractionChars, Numeral.exponentChars] using ends.not_digit

theorem scanNumber_wire {chars : Array Char} {pos : Nat} {n : Numeral} {rest : List Char}
    (wire : n.Wire) (remaining : chars.toList.drop pos = n.chars ++ rest) (ends : EndsNumber rest) :
    scanNumber chars pos = some (.float n.parts.toFloat, pos + n.chars.length) := by
  obtain ⟨whole, fraction, exponent⟩ := n
  obtain ⟨⟨wholeDigits, wholeNe, fractionDigits⟩, lead, marked⟩ := wire
  simp only [Numeral.chars] at remaining ⊢
  obtain ⟨first, others, rfl⟩ := List.exists_cons_of_ne_nil wholeNe
  have firstDigit : first.isDigit = true := wholeDigits first List.mem_cons_self
  have atFirst : chars[pos]? = some first := by simpa using getElem?_of_drop remaining 0
  have notMinus : first ≠ '-' := by
    rintro rfl
    exact absurd firstDigit (by decide)
  have notNegative : (charAt chars pos == some '-') = false := by
    simp [charAt, atFirst, notMinus]
  -- the part after the whole digits
  have afterWhole : chars.toList.drop (pos + (first :: others).length) =
      Numeral.fractionChars fraction ++ Numeral.exponentChars exponent ++ rest := by
    rw [← List.drop_drop, remaining, List.append_assoc, List.drop_left, List.append_assoc]
  have wholeSlice : slice chars pos (pos + (first :: others).length) = first :: others := by
    apply slice_of_drop
    rw [remaining, List.append_assoc]
  unfold scanNumber
  simp only [notNegative, Bool.false_eq_true, if_false]
  rw [Option.map_eq_some_iff]
  refine ⟨pos + (first :: others).length, ?_, ?_⟩
  · -- the whole part ends after its digits: it is `0`, or starts with another digit
    by_cases zero : first = '0'
    · subst zero
      have single : others = [] := by simpa using lead
      simp [charAt, atFirst, single]
    · have nonzero : ('1' ≤ first && first ≤ '9') = true := by
        simp only [Char.isDigit, Bool.and_eq_true, decide_eq_true_eq, ge_iff_le,
          UInt32.le_iff_toNat_le] at firstDigit
        have notZero : first.val.toNat ≠ 48 := fun h => zero (Char.ext (UInt32.toNat_inj.mp h))
        simp only [Bool.and_eq_true, decide_eq_true_eq, Char.le_def, UInt32.le_iff_toNat_le]
        have bounds : ('0' : Char).val.toNat = 48 ∧ ('1' : Char).val.toNat = 49 ∧
            ('9' : Char).val.toNat = 57 := ⟨rfl, rfl, rfl⟩
        omega
      have tailDigits : chars.toList.drop (pos + 1) =
          others ++ (Numeral.fractionChars fraction ++ Numeral.exponentChars exponent ++ rest) := by
        rw [← List.drop_drop, remaining]
        simp
      have tailDigits' : AllDigits others := fun c member => wholeDigits c (List.mem_cons_of_mem _ member)
      simp [charAt, atFirst, nonzero, digitsEnd_eq tailDigits tailDigits'
        (head_after_whole_not_digit ends)]
      omega
  · generalize wholeLength : pos + (first :: others).length = wholeEnd at afterWhole wholeSlice ⊢
    rcases fraction with _ | ⟨digit, digits⟩
    · -- no fraction: the exponent follows the whole digits
      obtain ⟨e, rfl⟩ : ∃ e, exponent = some e := by
        simpa [Option.isSome_iff_exists] using marked
      simp only [Numeral.fractionChars, List.nil_append] at afterWhole
      have atMark : charAt chars wholeEnd = some 'e' := by
        simpa [charAt, Numeral.exponentChars] using getElem?_of_drop afterWhole 0
      have expEnd := exponentEnd_of_exponentChars afterWhole ends.not_digit
      have expSlice := slice_exponentChars afterWhole
      simp [atMark, expEnd, expSlice, wholeSlice, readExponent_signed, Numeral.parts,
        Numeral.fractionChars]
      simp only [List.length_cons] at wholeLength
      omega
    · -- a point and the fraction digits, then possibly the exponent
      simp only [Numeral.fractionChars, List.cons_append] at afterWhole
      have atPoint : charAt chars wholeEnd = some '.' := by
        simpa [charAt] using getElem?_of_drop afterWhole 0
      have atDigit : charAt chars (wholeEnd + 1) = some digit := by
        simpa [charAt] using getElem?_of_drop afterWhole 1
      have allFraction : AllDigits (digit :: digits) := fractionDigits
      have fractionAt : chars.toList.drop (wholeEnd + 1) =
          (digit :: digits) ++ (Numeral.exponentChars exponent ++ rest) := by
        rw [← List.drop_drop, afterWhole]
        simp
      have afterFraction : chars.toList.drop (wholeEnd + 1 + (digit :: digits).length) =
          Numeral.exponentChars exponent ++ rest := by
        rw [← List.drop_drop, fractionAt, List.drop_left]
      have fractionSlice := slice_of_drop fractionAt
      have fractionEnd : digitsEnd chars (wholeEnd + 2) = wholeEnd + 1 + (digit :: digits).length := by
        have tailAt : chars.toList.drop (wholeEnd + 1 + 1) =
            digits ++ (Numeral.exponentChars exponent ++ rest) := by
          rw [← List.drop_drop, fractionAt]
          rfl
        rw [digitsEnd_eq tailAt (fun c member => allFraction c (List.mem_cons_of_mem _ member))
          (@head_after_whole_not_digit [] _ _ ends)]
        simp
        omega
      cases exponent with
      | none =>
        have expEnd := exponentEnd_of_ends afterFraction ends
        simp only [atPoint, atDigit, allFraction digit List.mem_cons_self, if_true, fractionEnd,
          expEnd, wholeSlice, fractionSlice]
        simp [Numeral.parts, Numeral.fractionChars, Numeral.exponentChars]
        simp only [List.length_cons] at wholeLength
        omega
      | some e =>
        have expEnd := exponentEnd_of_exponentChars afterFraction ends.not_digit
        have expSlice := slice_exponentChars afterFraction
        simp only [atPoint, atDigit, allFraction digit List.mem_cons_self, if_true, fractionEnd,
          expEnd, expSlice, wholeSlice, fractionSlice]
        simp [readExponent_signed, Numeral.parts, Numeral.fractionChars]
        simp only [List.length_cons] at wholeLength
        omega

/-- Blanks are skipped only where there are some. -/
theorem skipBlank_of_visible {chars : Array Char} {pos : Nat}
    (visible : ∀ c ∈ (chars.toList.drop pos).head?, isBlank c = false) : skipBlank chars pos = pos := by
  have first : chars[pos]? = (chars.toList.drop pos).head? := by
    rw [List.head?_drop, Array.getElem?_toList]
  unfold skipBlank
  cases next : chars[pos]? with
  | none => simp [skipBlank.go, next]
  | some c =>
    rw [next] at first
    simp [skipBlank.go, next, visible c first.symm]

/-- What may follow a scalar inside an object or a list. -/
def EndsScalar (rest : List Char) : Prop := ∃ c more, rest = c :: more ∧ (c = ',' ∨ c = '}')

theorem EndsScalar.endsNumber {rest : List Char} (ends : EndsScalar rest) : EndsNumber rest := by
  obtain ⟨c, more, rfl, comma | brace⟩ := ends <;> subst_vars <;> simp [EndsNumber]

theorem scanValue_scalar {chars : Array Char} {bounds : Bounds} {fuel pos : Nat} {value : Value}
    {rest : List Char} (scalar : value.WireScalar)
    (remaining : chars.toList.drop pos = (Json.render FloatStyle.wire.render value).toList ++ rest)
    (ends : EndsScalar rest) :
    scanValue chars bounds (fuel + 1) pos =
      .ok (value, pos + (Json.render FloatStyle.wire.render value).toList.length) := by
  cases value with
  | str text =>
    simp only [render] at remaining ⊢
    have opening : chars[pos]? = some '"' := by
      simpa [toList_quote] using getElem?_of_drop remaining 0
    simp [scanValue, charAt, opening, scanString_quote remaining, Except.map]
  | float x =>
    obtain ⟨finite, positive⟩ := scalar
    obtain ⟨n, wire, rendered, reads⟩ := render_wire_reads_back finite positive
    simp only [render, rendered, String.toList_ofList] at remaining ⊢
    obtain ⟨first, others, whole⟩ := List.exists_cons_of_ne_nil wire.whole_ne_nil
    have firstDigit : first.isDigit = true := wire.whole_digits first (by simp [whole])
    have atFirst : chars[pos]? = some first := by
      simpa [Numeral.chars, whole] using getElem?_of_drop remaining 0
    have notWord : first ≠ 'n' ∧ first ≠ 't' ∧ first ≠ 'f' ∧ first ≠ 'N' ∧ first ≠ 'I' ∧ first ≠ '-' ∧
        first ≠ '"' ∧ first ≠ '{' ∧ first ≠ '[' := by
      refine ⟨?_, ?_, ?_, ?_, ?_, ?_, ?_, ?_, ?_⟩ <;> rintro rfl <;> exact absurd firstDigit (by decide)
    obtain ⟨notN, notT, notF, notUpperN, notI, notMinus, notQuote, notBrace, notBracket⟩ := notWord
    simp [scanValue, charAt, atFirst, notN, notT, notF, notUpperN, notI, notMinus,
      scanNumber_wire wire remaining ends.endsNumber, reads]
  | null =>
    simp only [render] at remaining ⊢
    have atN : chars[pos]? = some 'n' := by simpa using getElem?_of_drop remaining 0
    have spelled : slice chars pos (pos + "null".toList.length) = "null".toList :=
      slice_of_drop remaining
    have four : "null".length = 4 := rfl
    simp at spelled
    simp [scanValue, charAt, atN, spellsAt, spelled, four]
  | _ => exact absurd scalar id

/-- A scalar's text starts with a quote or a digit, never with a blank. -/
theorem wireScalar_head_visible {value : Value} (scalar : value.WireScalar) (after : List Char) :
    ∀ c ∈ ((Json.render FloatStyle.wire.render value).toList ++ after).head?, isBlank c = false := by
  cases value with
  | str text => simp [render, toList_quote, isBlank]
  | float x =>
    obtain ⟨finite, positive⟩ := scalar
    obtain ⟨n, wire, rendered, -⟩ := render_wire_reads_back finite positive
    obtain ⟨first, others, whole⟩ := List.exists_cons_of_ne_nil wire.whole_ne_nil
    have firstDigit : first.isDigit = true := wire.whole_digits first (by simp [whole])
    have visible : isBlank first = false := by
      simp only [isBlank, Bool.or_eq_false_iff, beq_eq_false_iff_ne, ne_eq]
      refine ⟨⟨⟨?_, ?_⟩, ?_⟩, ?_⟩ <;> rintro rfl <;> exact absurd firstDigit (by decide)
    simp [render, rendered, Numeral.chars, whole, visible]
  | null => simp [render, isBlank]
  | _ => exact absurd scalar id

theorem insertField_fresh {fields : List (String × Value)} {key : String} {value : Value}
    (fresh : key ∉ fields.map Prod.fst) : insertField fields key value = fields ++ [(key, value)] := by
  have absent : fields.any (·.1 == key) = false := by
    simp only [List.any_eq_false, beq_iff_eq]
    intro field member same
    exact fresh (List.mem_map.mpr ⟨field, member, same⟩)
  simp [insertField, absent]

/-- One member of an object, its key and value read; with what follows the value. -/
theorem scanObject_member {chars : Array Char} {bounds : Bounds} {fuel pos : Nat}
    {acc : List (String × Value)} {first : Bool} {key : String} {value : Value} {after : List Char}
    (scalar : value.WireScalar) (fresh : key ∉ acc.map Prod.fst)
    (remaining : chars.toList.drop pos =
      (quote key).toList ++ (':' :: ((Json.render FloatStyle.wire.render value).toList ++ after)))
    (ends : EndsScalar after) :
    ∃ stop, stop = pos + (quote key).toList.length + 1 +
        (Json.render FloatStyle.wire.render value).toList.length ∧
      chars.toList.drop stop = after ∧
      scanObject chars bounds (fuel + 2) pos acc first =
        match charAt chars stop with
        | some '}' => .ok (.obj (acc ++ [(key, value)]), stop + 1)
        | some ',' => scanObject chars bounds (fuel + 1) (skipBlank chars (stop + 1))
            (acc ++ [(key, value)]) false
        | _ => .error (.invalid "Expecting ',' delimiter" stop) := by
  have keyRead := scanString_quote remaining
  have atQuote : chars[pos]? = some '"' := by
    simpa [toList_quote] using getElem?_of_drop remaining 0
  have afterKey : chars.toList.drop (pos + (quote key).toList.length) =
      ':' :: ((Json.render FloatStyle.wire.render value).toList ++ after) := by
    rw [← List.drop_drop, remaining, List.drop_left]
  have atColon : chars[pos + (quote key).toList.length]? = some ':' := by
    simpa using getElem?_of_drop afterKey 0
  have valueAt : chars.toList.drop (pos + (quote key).toList.length + 1) =
      (Json.render FloatStyle.wire.render value).toList ++ after := by
    rw [← List.drop_drop, afterKey]
    rfl
  have valueRead : scanValue chars bounds (fuel + 1) (pos + (quote key).toList.length + 1) =
      .ok (value, _) := scanValue_scalar scalar valueAt ends
  have colonSkip : skipBlank chars (pos + (quote key).toList.length) =
      pos + (quote key).toList.length := by
    apply skipBlank_of_visible
    simp [afterKey, isBlank]
  have valueSkip : skipBlank chars (pos + (quote key).toList.length + 1) =
      pos + (quote key).toList.length + 1 := by
    apply skipBlank_of_visible
    rw [valueAt]
    exact wireScalar_head_visible scalar after
  have stopSkip : skipBlank chars (pos + (quote key).toList.length + 1 +
      (Json.render FloatStyle.wire.render value).toList.length) =
      pos + (quote key).toList.length + 1 + (Json.render FloatStyle.wire.render value).toList.length := by
    apply skipBlank_of_visible
    obtain ⟨c, more, rfl, comma | brace⟩ := ends <;> subst_vars <;>
      simp [← List.drop_drop, valueAt, isBlank]
  refine ⟨_, rfl, by rw [← List.drop_drop, valueAt, List.drop_left], ?_⟩
  rw [scanObject]
  -- what is left after the reads is closed by `rfl`, or by `simp` itself where `scanObject` is
  -- elaborated with more instances in scope
  simp [charAt, atQuote, keyRead, colonSkip, atColon, valueSkip, valueRead, stopSkip,
    insertField_fresh fresh] <;> rfl

/-- The members of an object are read one by one, each taking one unit of fuel, and added after
the fields read before. -/
theorem scanObject_fields {chars : Array Char} {bounds : Bounds} {rest : List Char}
    (fields : List (String × Value)) (fuel pos : Nat) (acc : List (String × Value)) (first : Bool)
    (nonempty : fields ≠ []) (wire : WireFields fields)
    (fresh : ∀ key ∈ fields.map Prod.fst, key ∉ acc.map Prod.fst)
    (remaining : chars.toList.drop pos =
      (renderFields FloatStyle.wire.render fields).toList ++ '}' :: rest)
    (enough : fields.length < fuel) :
    scanObject chars bounds fuel pos acc first =
      .ok (.obj (acc ++ fields), pos + (renderFields FloatStyle.wire.render fields).toList.length + 1) := by
  induction fields generalizing fuel pos acc first with
  | nil => exact absurd rfl nonempty
  | cons field tail ih =>
    obtain ⟨key, value⟩ := field
    obtain ⟨fuel, rfl⟩ : ∃ k, fuel = k + 2 := ⟨fuel - 2, by simp at enough; omega⟩
    have scalar : value.WireScalar := wire.scalars (key, value) List.mem_cons_self
    have keyFresh := fresh key List.mem_cons_self
    cases tail with
    | nil =>
      rw [toList_renderFields_single] at remaining
      simp only [List.append_assoc, List.cons_append] at remaining
      obtain ⟨stop, stopEq, afterValue, step⟩ :=
        scanObject_member scalar keyFresh remaining ⟨'}', rest, rfl, Or.inr rfl⟩
      have closing : chars[stop]? = some '}' := by simpa using getElem?_of_drop afterValue 0
      rw [step]
      simp only [charAt, closing]
      simp [stopEq, toList_renderFields_single]
      omega
    | cons next tail =>
      rw [toList_renderFields_cons] at remaining
      simp only [List.append_assoc, List.cons_append] at remaining
      obtain ⟨stop, stopEq, afterValue, step⟩ :=
        scanObject_member scalar keyFresh remaining ⟨',', _, rfl, Or.inl rfl⟩
      have comma : chars[stop]? = some ',' := by simpa using getElem?_of_drop afterValue 0
      have tailAt : chars.toList.drop (stop + 1) =
          (renderFields FloatStyle.wire.render (next :: tail)).toList ++ '}' :: rest := by
        rw [← List.drop_drop, afterValue]
        simp
      have tailSkip : skipBlank chars (stop + 1) = stop + 1 := by
        apply skipBlank_of_visible
        obtain ⟨nextKey, nextValue⟩ := next
        cases tail <;> simp [tailAt, toList_renderFields_single, toList_renderFields_cons,
          toList_quote, isBlank]
      have tailWire : WireFields (next :: tail) :=
        ⟨(List.nodup_cons.mp wire.keys_nodup).2,
          fun field member => wire.scalars field (List.mem_cons_of_mem _ member)⟩
      have tailFresh : ∀ k ∈ (next :: tail).map Prod.fst, k ∉ (acc ++ [(key, value)]).map Prod.fst := by
        intro k member
        simp only [List.map_append, List.map_cons, List.map_nil, List.mem_append, List.mem_singleton,
          not_or]
        refine ⟨fresh k (List.mem_cons_of_mem _ member), ?_⟩
        rintro rfl
        exact (List.nodup_cons.mp wire.keys_nodup).1 member
      rw [step]
      simp only [charAt, comma, tailSkip]
      rw [ih (fuel + 1) (stop + 1) (acc ++ [(key, value)]) false (by simp) tailWire tailFresh tailAt
        (by simp at enough ⊢; omega)]
      simp [stopEq, toList_renderFields_cons]
      omega

theorem Bounds.deeper_isSome {bounds : Bounds} (room : bounds.depth ≠ some 0) :
    ∃ inner, bounds.deeper = some inner := by
  unfold Bounds.deeper
  split
  · contradiction
  · exact ⟨_, rfl⟩
  · exact ⟨_, rfl⟩

/-- The decoder reads the JSON text of an object of wire scalars with distinct keys as that
object, within any bounds that leave room for one level of nesting. -/
theorem decodeWithin_record {bounds : Bounds} {fields : List (String × Value)}
    (nonempty : fields ≠ []) (wire : WireFields fields) (room : bounds.depth ≠ some 0) :
    decodeWithin bounds (Value.obj fields).toJson = .ok (.obj fields) := by
  obtain ⟨inner, deeper⟩ := Bounds.deeper_isSome room
  have written := toList_toJson_obj fields
  generalize textEq : (Value.obj fields).toJson = text at written ⊢
  unfold decodeWithin
  generalize charsEq : text.toList.toArray = chars
  have whole : chars.toList = '{' :: ((renderFields FloatStyle.wire.render fields).toList ++ '}' :: []) := by
    rw [← charsEq, List.toList_toArray, written]
  have size : chars.size = (renderFields FloatStyle.wire.render fields).toList.length + 2 := by
    rw [← Array.length_toList, whole]
    simp
  have opening : chars[0]? = some '{' := by
    rw [← Array.getElem?_toList, whole]
    rfl
  have startSkip : skipBlank chars 0 = 0 := by
    apply skipBlank_of_visible
    simp [whole, isBlank]
  have membersAt : chars.toList.drop 1 = (renderFields FloatStyle.wire.render fields).toList ++ '}' :: [] := by
    rw [whole]
    rfl
  have membersSkip : skipBlank chars 1 = 1 := by
    apply skipBlank_of_visible
    rw [membersAt]
    obtain ⟨⟨key, value⟩, tail, rfl⟩ := List.exists_cons_of_ne_nil nonempty
    cases tail <;> simp [toList_renderFields_single, toList_renderFields_cons, toList_quote, isBlank]
  have endSkip : skipBlank chars chars.size = chars.size := by
    apply skipBlank_of_visible
    simp
  have fuel := length_le_renderFields fields
  have read : scanObject chars inner (chars.size + 1) 1 [] true = _ :=
    scanObject_fields fields (chars.size + 1) 1 [] true nonempty wire (by simp) membersAt (by omega)
  have stop : 1 + (renderFields FloatStyle.wire.render fields).toList.length + 1 = chars.size := by
    omega
  simp [startSkip, scanValue, charAt, opening, deeper, membersSkip, read, stop, endSkip]

end Json

end LoadHarness
