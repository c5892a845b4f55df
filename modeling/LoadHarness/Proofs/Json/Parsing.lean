import Mathlib
import LoadHarness.Json.Parse
import LoadHarness.Json.Bytes
import LoadHarness.Proofs.Json.Decoding

/-!
# The parser reads back written records

`Json.parse` reads the UTF-8 bytes of the text `Value.toJson` writes for an object of wire scalars
with distinct keys as that object (`parse_record`).  As for the decoder, the reading is followed
through what remains of the bytes at an offset (`data.data.toList.drop pos`); the bytes of written
characters are `utf8Bytes`, and the characters after a scalar are described as for the decoder
(`EndsScalar`):

* a string literal reads as its string: each escape, and each character written as its own bytes,
  adds that character's UTF-8 bytes to the text read (`parseString_go_escape`), which decodes to
  the string at the closing quote (`parseString_quote`);
* a numeral of the wire reads as the double it was written for (`parseNumber_wire`), its text
  being ASCII (`Numeral.chars_ascii`);
* each member adds its key and value after the fields before it (`member_read`,
  `parseMembers_fields`).
-/

namespace LoadHarness

namespace Decimal

theorem toNat_lt_of_isDigit {c : Char} (digit : c.isDigit = true) : c.toNat < 128 := by
  simp only [Char.isDigit, Bool.and_eq_true, decide_eq_true_eq] at digit
  have : c.val.toNat ≤ 57 := digit.2
  rw [← Char.toNat_val]
  omega

namespace Numeral

theorem chars_ascii {n : Numeral} (wellFormed : n.WellFormed) :
    ∀ c ∈ n.chars, c.toNat < 128 := by
  intro c member
  have digit : c.isDigit = true → c.toNat < 128 := toNat_lt_of_isDigit
  simp only [Numeral.chars, List.mem_append] at member
  rcases member with whole | fraction | exponent
  · exact digit (wellFormed.whole_digits c whole)
  · cases fractionEq : n.fraction with
    | nil => simp [fractionEq, Numeral.fractionChars] at fraction
    | cons d ds =>
      rw [fractionEq] at fraction
      simp only [Numeral.fractionChars, List.mem_cons] at fraction
      rcases fraction with rfl | rfl | member
      · decide
      · exact digit (wellFormed.fraction_digits _ (by simp [fractionEq]))
      · exact digit (wellFormed.fraction_digits _ (by simp [fractionEq, member]))
  · cases exponentEq : n.exponent with
    | none => simp [exponentEq, Numeral.exponentChars] at exponent
    | some e =>
      rw [exponentEq] at exponent
      simp only [Numeral.exponentChars, List.mem_cons] at exponent
      rcases exponent with rfl | rfl | member
      · decide
      · split <;> decide
      · exact digit (allDigits_toDigits _ c member)

end Numeral

end Decimal

namespace Json

open Decimal

/-- The UTF-8 bytes of a list of characters. -/
def utf8Bytes (cs : List Char) : List UInt8 := cs.flatMap String.utf8EncodeChar

@[simp] theorem utf8Bytes_nil : utf8Bytes [] = [] := rfl

@[simp] theorem utf8Bytes_cons (c : Char) (cs : List Char) :
    utf8Bytes (c :: cs) = String.utf8EncodeChar c ++ utf8Bytes cs :=
  List.flatMap_cons

@[simp] theorem utf8Bytes_append (front back : List Char) :
    utf8Bytes (front ++ back) = utf8Bytes front ++ utf8Bytes back :=
  List.flatMap_append

theorem length_le_utf8Bytes (cs : List Char) : cs.length ≤ (utf8Bytes cs).length := by
  induction cs with
  | nil => simp
  | cons c cs ih =>
    have encoded := List.length_pos_iff.mpr (String.utf8EncodeChar_ne_nil (c := c))
    simp only [utf8Bytes_cons, List.length_cons, List.length_append]
    omega

theorem toUTF8_bytes (text : String) : text.toUTF8.data.toList = utf8Bytes text.toList := by
  rw [String.toUTF8_eq_toByteArray, ← String.utf8Encode_toList]
  simp [List.utf8Encode, utf8Bytes]

theorem byteArray_toList_loop (bytes : ByteArray) (i : Nat) (r : List UInt8) :
    ByteArray.toList.loop bytes i r = r.reverse ++ bytes.data.toList.drop i := by
  fun_induction ByteArray.toList.loop bytes i r with
  | case1 i r lt ih =>
    have inside : i < bytes.data.toList.length := by simpa using lt
    have inData : i < bytes.data.size := by simpa using lt
    rw [ih, List.drop_eq_getElem_cons inside]
    simp [ByteArray.get!, getElem!_pos bytes.data i inData]
  | case2 i r ge =>
    have past : bytes.data.toList.length ≤ i := by simpa using ge
    simp [List.drop_eq_nil_of_le past]

theorem byteArray_toList (bytes : ByteArray) : bytes.toList = bytes.data.toList := by
  simp [ByteArray.toList, byteArray_toList_loop]

theorem byte_of_drop {data : ByteArray} {pos : Nat} {remaining : List UInt8}
    (rest : data.data.toList.drop pos = remaining) (offset : Nat) :
    data[pos + offset]? = remaining[offset]? := by
  rw [← rest, List.getElem?_drop]
  simp [getElem?_def, ByteArray.getElem_eq_getElem_data]

theorem utf8EncodeChar_ascii {c : Char} (ascii : c.toNat < 128) :
    String.utf8EncodeChar c = [c.toNat.toUInt8] := by
  have one : c.utf8Size = 1 := by
    rw [Char.utf8Size_eq_one_iff, UInt32.le_iff_toNat_le, Char.toNat_val]
    simpa using Nat.le_of_lt_succ ascii
  rw [String.utf8EncodeChar_eq_singleton one]
  rfl

theorem utf8Bytes_of_ascii {cs : List Char} (ascii : ∀ c ∈ cs, c.toNat < 128) :
    utf8Bytes cs = cs.map fun c => c.toNat.toUInt8 := by
  induction cs with
  | nil => rfl
  | cons c cs ih =>
    rw [utf8Bytes_cons, utf8EncodeChar_ascii (ascii c List.mem_cons_self),
      ih (fun d member => ascii d (List.mem_cons_of_mem _ member))]
    rfl

theorem utf8EncodeChar_plain {c : Char} (visible : 32 ≤ c.toNat) (notQuote : c ≠ '"')
    (notBackslash : c ≠ '\\') :
    ∀ b ∈ String.utf8EncodeChar c, 32 ≤ b.toNat ∧ b ≠ 34 ∧ b ≠ 92 := by
  intro b member
  -- the bytes of a character past ASCII all have their high bit set
  have high : 128 ≤ b.toNat → 32 ≤ b.toNat ∧ b ≠ 34 ∧ b ≠ 92 := by
    intro large
    refine ⟨by omega, ?_, ?_⟩ <;> rintro rfl <;> simp at large
  have marked : ∀ (x : UInt8) (mark : UInt8), 128 ≤ mark.toNat → 128 ≤ (x ||| mark).toNat := by
    intro x mark large
    rw [UInt8.toNat_or]
    exact le_trans large Nat.right_le_or
  rcases c.utf8Size_eq with one | two | three | four
  · rw [String.utf8EncodeChar_eq_singleton one, List.mem_singleton] at member
    subst member
    have small : c.val.toNat ≤ 127 := by
      simpa [UInt32.le_iff_toNat_le] using Char.utf8Size_eq_one_iff.mp one
    have byte : c.val.toUInt8.toNat = c.toNat := by
      rw [UInt32.toNat_toUInt8, Char.toNat_val]
      rw [Char.toNat_val] at small
      omega
    have other : ∀ d : Char, d.toNat < 128 → c ≠ d → c.val.toUInt8 ≠ d.toNat.toUInt8 := by
      intro d ascii differ equal
      apply differ
      apply Char.toNat_inj.mp
      have := congrArg UInt8.toNat equal
      simp only [byte, Nat.toUInt8_eq, UInt8.toNat_ofNat'] at this
      omega
    exact ⟨by omega, other '"' (by decide) notQuote, other '\\' (by decide) notBackslash⟩
  · rw [String.utf8EncodeChar_eq_cons_cons two] at member
    simp only [List.mem_cons, List.not_mem_nil, or_false] at member
    rcases member with rfl | rfl <;> exact high (marked _ _ (by decide))
  · rw [String.utf8EncodeChar_eq_cons_cons_cons three] at member
    simp only [List.mem_cons, List.not_mem_nil, or_false] at member
    rcases member with rfl | rfl | rfl <;> exact high (marked _ _ (by decide))
  · rw [String.utf8EncodeChar_eq_cons_cons_cons_cons four] at member
    simp only [List.mem_cons, List.not_mem_nil, or_false] at member
    rcases member with rfl | rfl | rfl | rfl <;> exact high (marked _ _ (by decide))

theorem pairEscapes_bytes : ∀ escape ∈ pairEscapes,
    simpleEscape escape.1.toNat.toUInt8 = some escape.2.toNat.toUInt8 ∧ escape.1.toNat < 128 ∧
      escape.2.toNat < 128 ∧ escape.1.toNat.toUInt8 ≠ 117 := by
  decide

theorem push_eq_append_utf8Encode {text : ByteArray} {c : Char} (ascii : c.toNat < 128) :
    text.push c.toNat.toUInt8 = text ++ [c].utf8Encode := by
  rw [List.utf8Encode_singleton, utf8EncodeChar_ascii ascii, ByteArray.append_toByteArray_singleton]

theorem parseString_go_pair {data : ByteArray} {fuel pos : Nat} {text : ByteArray}
    {letter byte : UInt8} (backslash : data[pos]? = some 92) (named : data[pos + 1]? = some letter)
    (escaped : simpleEscape letter = some byte) :
    parseString.go data (fuel + 1) pos text = parseString.go data fuel (pos + 2) (text.push byte) := by
  simp only [parseString.go, backslash, named]
  split
  · contradiction
  · rename_i unicode
    cases unicode
    simp [simpleEscape] at escaped
  · rename_i same
    obtain rfl := Option.some.inj same
    simp [escaped]

theorem parseString_go_plain {data : ByteArray} {more : List UInt8} (bytes : List UInt8)
    (plain : ∀ b ∈ bytes, 32 ≤ b.toNat ∧ b ≠ 34 ∧ b ≠ 92) (fuel pos : Nat) (text : ByteArray)
    (rest : data.data.toList.drop pos = bytes ++ more) :
    parseString.go data (fuel + bytes.length) pos text =
      parseString.go data fuel (pos + bytes.length) (text ++ bytes.toByteArray) := by
  induction bytes generalizing pos text with
  | nil => simp
  | cons b bytes ih =>
    obtain ⟨visible, notQuote, notBackslash⟩ := plain b List.mem_cons_self
    have next : data[pos]? = some b := by simpa using byte_of_drop rest 0
    have later : data.data.toList.drop (pos + 1) = bytes ++ more := by
      rw [← List.drop_drop, rest]
      rfl
    have step : parseString.go data (fuel + bytes.length + 1) pos text =
        parseString.go data (fuel + bytes.length) (pos + 1) (text.push b) := by
      have notControl : ¬ b < 32 := by
        rw [UInt8.lt_iff_toNat_lt]
        simpa using visible
      simp [parseString.go, next, notControl]
    rw [List.length_cons, ← Nat.add_assoc, step,
      ih (fun c member => plain c (List.mem_cons_of_mem _ member)) (pos + 1) _ later]
    have pushed : text.push b ++ bytes.toByteArray = text ++ (b :: bytes).toByteArray := by
      rw [← ByteArray.append_toByteArray_singleton, ByteArray.append_assoc, ← List.toByteArray_append]
      rfl
    rw [pushed, Nat.add_assoc, Nat.add_comm 1]

theorem hexByte_digit : ∀ d < 16,
    (String.utf8EncodeChar (if d < 10 then Char.ofNat (48 + d) else Char.ofNat (87 + d))).map hexByte =
      [some d] := by
  decide

theorem utf8Bytes_hex4 (code : Nat) :
    ∃ b0 b1 b2 b3, utf8Bytes (hex4 code).toList = [b0, b1, b2, b3] ∧
      hexByte b0 = some (code / 4096 % 16) ∧ hexByte b1 = some (code / 256 % 16) ∧
      hexByte b2 = some (code / 16 % 16) ∧ hexByte b3 = some (code % 16) := by
  have digit := fun k => hexByte_digit (code / k % 16) (Nat.mod_lt _ (by decide))
  obtain ⟨b0, e0, h0⟩ := List.map_eq_singleton_iff.mp (digit 4096)
  obtain ⟨b1, e1, h1⟩ := List.map_eq_singleton_iff.mp (digit 256)
  obtain ⟨b2, e2, h2⟩ := List.map_eq_singleton_iff.mp (digit 16)
  obtain ⟨b3, e3, h3⟩ :=
    List.map_eq_singleton_iff.mp (hexByte_digit (code % 16) (Nat.mod_lt _ (by decide)))
  exact ⟨b0, b1, b2, b3, by simp [hex4, e0, e1, e2, e3], h0, h1, h2, h3⟩

theorem hexQuad_hex4 {data : ByteArray} {letter code : Nat} {more : List UInt8}
    (rest : data.data.toList.drop (letter + 1) = utf8Bytes (hex4 code).toList ++ more)
    (small : code < 0x10000) :
    hexQuad data letter = .ok (code, letter + 4) := by
  obtain ⟨b0, b1, b2, b3, bytes, h0, h1, h2, h3⟩ := utf8Bytes_hex4 code
  rw [bytes] at rest
  have lookup := byte_of_drop rest
  have size := congrArg List.length rest
  simp only [List.length_drop, List.length_append, List.length_cons, List.length_nil] at size
  have room : letter + 5 ≤ data.size := by
    simp at size
    omega
  have d0 : data[letter + 1]? = some b0 := by simpa using lookup 0
  have d1 : data[letter + 2]? = some b1 := by simpa using lookup 1
  have d2 : data[letter + 3]? = some b2 := by simpa using lookup 2
  have d3 : data[letter + 4]? = some b3 := by simpa using lookup 3
  simp [hexQuad, room, List.foldlM, d0, d1, d2, d3, h0, h1, h2, h3, bind, Except.bind]
  have value : ((code / 4096 % 16 * 16 + code / 256 % 16) * 16 + code / 16 % 16) * 16 + code % 16 =
      code := by
    omega
  rw [value]
  rfl

theorem unicodeEscape_control {data : ByteArray} {letter : Nat} {c : Char} {more : List UInt8}
    (rest : data.data.toList.drop (letter + 1) = utf8Bytes (hex4 c.toNat).toList ++ more)
    (control : c.toNat < 32) : unicodeEscape data letter = .ok (c, letter + 4) := by
  have code := hexQuad_hex4 rest (by omega)
  have notLow : ¬ (0xDC00 ≤ c.toNat ∧ c.toNat ≤ 0xDFFF) := by omega
  have notHigh : ¬ (0xD800 ≤ c.toNat ∧ c.toNat ≤ 0xDBFF) := by omega
  simp [unicodeEscape, code, notLow, notHigh, bind, Except.bind]
  rfl

/-- One escape of a string literal adds its character's UTF-8 bytes to the text read, in at most
as many steps as the escape has bytes. -/
theorem parseString_go_escape {data : ByteArray} {pos : Nat} {text : ByteArray} {c : Char}
    {more : List UInt8} (rest : data.data.toList.drop pos = utf8Bytes (escapeChar c).toList ++ more) :
    ∃ steps ≤ (utf8Bytes (escapeChar c).toList).length, ∀ fuel,
      parseString.go data (fuel + steps) pos text =
        parseString.go data fuel (pos + (utf8Bytes (escapeChar c).toList).length)
          (text ++ [c].utf8Encode) := by
  have lookup := byte_of_drop rest
  -- a two-byte escape: a backslash, then the letter naming the character
  have pair : ∀ letter, (letter, c) ∈ pairEscapes → (escapeChar c).toList = ['\\', letter] →
      ∃ steps ≤ (utf8Bytes (escapeChar c).toList).length, ∀ fuel,
        parseString.go data (fuel + steps) pos text =
          parseString.go data fuel (pos + (utf8Bytes (escapeChar c).toList).length)
            (text ++ [c].utf8Encode) := by
    intro letter escaped written
    obtain ⟨named, letterAscii, ascii, -⟩ := pairEscapes_bytes _ escaped
    have bytes : utf8Bytes (escapeChar c).toList = [92, letter.toNat.toUInt8] := by
      simp [written, utf8EncodeChar_ascii letterAscii, utf8EncodeChar_ascii]
    rw [bytes] at lookup ⊢
    refine ⟨1, by simp, fun fuel => ?_⟩
    rw [parseString_go_pair (by simpa using lookup 0) (by simpa using lookup 1) named,
      push_eq_append_utf8Encode ascii]
    rfl
  by_cases isQuote : c = '"'
  · subst isQuote
    exact pair '"' (by simp [pairEscapes]) (by simp [escapeChar])
  by_cases isBackslash : c = '\\'
  · subst isBackslash
    exact pair '\\' (by simp [pairEscapes]) (by simp [escapeChar])
  by_cases isNewline : c = '\n'
  · subst isNewline
    exact pair 'n' (by simp [pairEscapes]) (by simp [escapeChar])
  by_cases isReturn : c = '\r'
  · subst isReturn
    exact pair 'r' (by simp [pairEscapes]) (by simp [escapeChar])
  by_cases isTab : c = '\t'
  · subst isTab
    exact pair 't' (by simp [pairEscapes]) (by simp [escapeChar])
  by_cases isBackspace : c.toNat = 8
  · obtain rfl : c = Char.ofNat 8 := by rw [← isBackspace, Char.ofNat_toNat]
    exact pair 'b' (by simp [pairEscapes]) (by simp [escapeChar])
  by_cases isFormFeed : c.toNat = 12
  · obtain rfl : c = Char.ofNat 12 := by rw [← isFormFeed, Char.ofNat_toNat]
    exact pair 'f' (by simp [pairEscapes]) (by simp [escapeChar])
  by_cases control : c.toNat < 32
  · -- a `\\u` escape of four hexadecimal digits
    have written : (escapeChar c).toList = '\\' :: 'u' :: (hex4 c.toNat).toList := by
      simp [escapeChar, isBackspace, isFormFeed, control]
    obtain ⟨b0, b1, b2, b3, hexBytes, -⟩ := utf8Bytes_hex4 c.toNat
    have bytes : utf8Bytes (escapeChar c).toList = 92 :: 117 :: [b0, b1, b2, b3] := by
      rw [written, utf8Bytes_cons, utf8Bytes_cons, hexBytes]
      simp [utf8EncodeChar_ascii]
    have digitsRest : data.data.toList.drop (pos + 1 + 1) = utf8Bytes (hex4 c.toNat).toList ++ more := by
      rw [← List.drop_drop, ← List.drop_drop, rest, bytes, hexBytes]
      rfl
    have escape := unicodeEscape_control digitsRest control
    rw [bytes] at lookup ⊢
    refine ⟨1, by simp, fun fuel => ?_⟩
    simp [parseString.go, (by simpa using lookup 0 : data[pos]? = some 92),
      (by simpa using lookup 1 : data[pos + 1]? = some 117), escape]
  · -- any other character is written as its own bytes
    have written : (escapeChar c).toList = [c] := by
      simp [escapeChar, isBackspace, isFormFeed, control]
    have plain := utf8EncodeChar_plain (by omega) isQuote isBackslash
    rw [written, utf8Bytes_cons, utf8Bytes_nil, List.append_nil] at rest ⊢
    refine ⟨(String.utf8EncodeChar c).length, le_refl _, fun fuel => ?_⟩
    rw [parseString_go_plain _ plain fuel pos text rest, List.utf8Encode_singleton]

/-- Reading the escapes of `cs` up to the closing quote collects the UTF-8 bytes of `cs`; an
escape takes at most as many steps as it has bytes, so fuel beyond their count is enough. -/
theorem parseString_go_escapes {data : ByteArray} {rest : List UInt8} (cs : List Char)
    (fuel pos : Nat) (text : ByteArray)
    (remaining : data.data.toList.drop pos = utf8Bytes (escapes cs) ++ 34 :: rest)
    (enough : (utf8Bytes (escapes cs)).length < fuel) :
    parseString.go data fuel pos text =
      .ok ((String.fromUTF8? (text ++ cs.utf8Encode)).getD "",
        pos + (utf8Bytes (escapes cs)).length + 1) := by
  induction cs generalizing fuel pos text with
  | nil =>
    obtain ⟨fuel, rfl⟩ : ∃ k, fuel = k + 1 := ⟨fuel - 1, by omega⟩
    have closing : data[pos]? = some 34 := by simpa [escapes] using byte_of_drop remaining 0
    simp [parseString.go, closing, escapes]
  | cons c cs ih =>
    rw [escapes_cons, utf8Bytes_append, List.append_assoc] at remaining
    rw [escapes_cons, utf8Bytes_append, List.length_append] at enough ⊢
    obtain ⟨steps, fewer, step⟩ := parseString_go_escape remaining
    have later : data.data.toList.drop (pos + (utf8Bytes (escapeChar c).toList).length) =
        utf8Bytes (escapes cs) ++ 34 :: rest := by
      rw [← List.drop_drop, remaining, List.drop_left]
    obtain ⟨fuel, rfl⟩ : ∃ k, fuel = k + steps := ⟨fuel - steps, by omega⟩
    have split : (c :: cs).utf8Encode = [c].utf8Encode ++ cs.utf8Encode := List.utf8Encode_cons
    rw [step, ih fuel _ _ later (by omega), ByteArray.append_assoc, ← split]
    simp only [Nat.add_assoc]

theorem utf8Bytes_quote (key : String) :
    utf8Bytes (quote key).toList = 34 :: (utf8Bytes (escapes key.toList) ++ [34]) := by
  simp [toList_quote, utf8EncodeChar_ascii]

/-- A string literal is read as the string it was written for. -/
theorem parseString_quote {data : ByteArray} {opening : Nat} {key : String} {rest : List UInt8}
    (remaining : data.data.toList.drop opening = utf8Bytes (quote key).toList ++ rest) :
    parseString data opening = .ok (key, opening + (utf8Bytes (quote key).toList).length) := by
  rw [utf8Bytes_quote] at remaining ⊢
  have body : data.data.toList.drop (opening + 1) = utf8Bytes (escapes key.toList) ++ 34 :: rest := by
    rw [← List.drop_drop, remaining]
    simp
  have size := congrArg List.length remaining
  simp only [List.length_drop, List.length_cons, List.length_append] at size
  have decoded : String.fromUTF8? (ByteArray.empty ++ key.toList.utf8Encode) = some key := by
    rw [ByteArray.empty_append, String.utf8Encode_toList, String.fromUTF8?, dif_pos key.isValidUTF8]
    rfl
  unfold parseString
  rw [parseString_go_escapes key.toList _ _ _ body (by simp at size ⊢; omega), decoded]
  simp
  omega

theorem isDigitByte_of_isDigit {c : Char} (digit : c.isDigit = true) :
    isDigitByte c.toNat.toUInt8 = true := by
  have ascii := toNat_lt_of_isDigit digit
  simp only [Char.isDigit, Bool.and_eq_true, decide_eq_true_eq] at digit
  have low : 48 ≤ c.val.toNat := digit.1
  have high : c.val.toNat ≤ 57 := digit.2
  rw [Char.toNat_val] at low high
  have bounds : (48 : UInt8).toNat = 48 ∧ (57 : UInt8).toNat = 57 := ⟨rfl, rfl⟩
  simp only [isDigitByte, Bool.and_eq_true, decide_eq_true_eq, UInt8.le_iff_toNat_le,
    Nat.toUInt8_eq, UInt8.toNat_ofNat']
  omega

theorem utf8Bytes_digits {digits : List Char} (allDigits : AllDigits digits) :
    utf8Bytes digits = digits.map fun c => c.toNat.toUInt8 :=
  utf8Bytes_of_ascii fun c member => toNat_lt_of_isDigit (allDigits c member)

/-- The bytes of ASCII characters read back as those characters. -/
theorem asciiSlice_of_drop {data : ByteArray} {start : Nat} {cs : List Char} {more : List UInt8}
    (ascii : ∀ c ∈ cs, c.toNat < 128) (remaining : data.data.toList.drop start = utf8Bytes cs ++ more) :
    asciiSlice data start (start + cs.length) = String.ofList cs := by
  rw [utf8Bytes_of_ascii ascii] at remaining
  have back : ∀ c ∈ cs, Char.ofNat c.toNat.toUInt8.toNat = c := by
    intro c member
    have small := ascii c member
    simp only [Nat.toUInt8_eq, UInt8.toNat_ofNat']
    rw [Nat.mod_eq_of_lt (by omega), Char.ofNat_toNat]
  simp only [asciiSlice, byteArray_toList, remaining, Nat.add_sub_cancel_left]
  rw [List.take_left' (by simp), List.map_map]
  congr 1
  exact (List.map_congr_left back).trans (List.map_id' cs)

/-- A run of digits ends where a byte that is not a digit starts. -/
theorem digitsStop_eq {data : ByteArray} {pos : Nat} {digits : List Char} {more : List UInt8}
    (remaining : data.data.toList.drop pos = utf8Bytes digits ++ more) (allDigits : AllDigits digits)
    (stop : ∀ b ∈ more.head?, isDigitByte b = false) : digitsStop data pos = pos + digits.length := by
  have size := congrArg List.length remaining
  rw [utf8Bytes_digits allDigits] at remaining
  simp only [List.length_drop, List.length_append, utf8Bytes_digits allDigits, List.length_map] at size
  have loop : ∀ fuel pos digits, data.data.toList.drop pos =
      (digits.map fun c : Char => c.toNat.toUInt8) ++ more → AllDigits digits →
      digits.length < fuel → digitsStop.go data fuel pos = pos + digits.length := by
    intro fuel
    induction fuel with
    | zero => intro _ _ _ _ short; omega
    | succ fuel ih =>
      intro pos digits remaining allDigits short
      cases digits with
      | nil =>
        cases more with
        | nil =>
          have past : data[pos]? = none := by simpa using byte_of_drop remaining 0
          simp [digitsStop.go, past]
        | cons b more =>
          have next : data[pos]? = some b := by simpa using byte_of_drop remaining 0
          simp [digitsStop.go, next, stop b rfl]
      | cons d digits =>
        have next : data[pos]? = some d.toNat.toUInt8 := by simpa using byte_of_drop remaining 0
        have later : data.data.toList.drop (pos + 1) = (digits.map fun c : Char => c.toNat.toUInt8) ++ more := by
          rw [← List.drop_drop, remaining]
          rfl
        have tail : AllDigits digits := fun c member => allDigits c (List.mem_cons_of_mem _ member)
        rw [digitsStop.go, next]
        simp only [isDigitByte_of_isDigit (allDigits d List.mem_cons_self), if_true]
        rw [ih (pos + 1) digits later tail (by simpa using short)]
        simp
        omega
  exact loop _ pos digits remaining allDigits (by simp at size ⊢; omega)

theorem requiredDigits_eq {data : ByteArray} {pos : Nat} {digits : List Char} {more : List UInt8}
    (remaining : data.data.toList.drop pos = utf8Bytes digits ++ more) (allDigits : AllDigits digits)
    (nonempty : digits ≠ []) (stop : ∀ b ∈ more.head?, isDigitByte b = false) :
    requiredDigits data pos = .ok (pos + digits.length) := by
  have count : digits.length ≠ 0 := by simpa using nonempty
  simp [requiredDigits, digitsStop_eq remaining allDigits stop, count]

theorem EndsScalar.bytes {rest : List Char} (ends : EndsScalar rest) :
    ∃ b bytes, utf8Bytes rest = b :: bytes ∧ (b = 44 ∨ b = 125) := by
  obtain ⟨c, more, rfl, rfl | rfl⟩ := ends <;> simp [utf8EncodeChar_ascii]

theorem EndsScalar.not_digit {rest : List Char} (ends : EndsScalar rest) :
    ∀ b ∈ (utf8Bytes rest).head?, isDigitByte b = false := by
  obtain ⟨b, bytes, restBytes, comma | brace⟩ := ends.bytes <;> subst_vars <;>
    simp [restBytes, isDigitByte]

/-- The exponent `e±digits` of a numeral: its mark, its sign and its digits up to the end. -/
theorem exponent_bytes {data : ByteArray} {pos : Nat} {e : Int} {rest : List Char}
    (remaining : data.data.toList.drop pos = utf8Bytes (Numeral.exponentChars (some e) ++ rest))
    (ends : EndsScalar rest) :
    data[pos]? = some 101 ∧ (data[pos + 1]? = some 43 ∨ data[pos + 1]? = some 45) ∧
      requiredDigits data (pos + 2) = .ok (pos + (Numeral.exponentChars (some e)).length) := by
  have digitsAt : data.data.toList.drop (pos + 2) =
      utf8Bytes (Nat.toDigits 10 e.natAbs) ++ utf8Bytes rest := by
    rw [← List.drop_drop, remaining]
    by_cases negative : e < 0 <;> simp [Numeral.exponentChars, negative, utf8EncodeChar_ascii]
  have mark : data[pos]? = some 101 := by
    simpa [Numeral.exponentChars, utf8EncodeChar_ascii] using byte_of_drop remaining 0
  have sign : data[pos + 1]? = some 43 ∨ data[pos + 1]? = some 45 := by
    have signAt := byte_of_drop remaining 1
    by_cases negative : e < 0 <;>
      simp [Numeral.exponentChars, negative, utf8EncodeChar_ascii] at signAt <;> simp [signAt]
  have digits := requiredDigits_eq digitsAt (allDigits_toDigits _) Nat.toDigits_ne_nil ends.not_digit
  refine ⟨mark, sign, ?_⟩
  rw [digits]
  simp [Numeral.exponentChars]
  omega

/-- After the whole digits of a numeral of the wire, its fraction and exponent are read to its
end, and the text read is the numeral itself. -/
theorem parseFraction_wire {data : ByteArray} {start : Nat} {n : Numeral} {rest : List Char}
    (wire : n.Wire) (remaining : data.data.toList.drop start = utf8Bytes (n.chars ++ rest))
    (ends : EndsScalar rest) :
    parseFraction data start (start + n.whole.length) =
      .ok (.float n.parts.toFloat, start + n.chars.length) := by
  have number : Decimal.readNumber (asciiSlice data start (start + n.chars.length)) =
      some n.parts.toFloat := by
    have charsAt : data.data.toList.drop start = utf8Bytes n.chars ++ utf8Bytes rest := by
      rw [remaining, utf8Bytes_append]
    rw [asciiSlice_of_drop (Numeral.chars_ascii wire.toWellFormed) charsAt,
      Numeral.readNumber_chars wire.toWellFormed]
  obtain ⟨whole, fraction, exponent⟩ := n
  obtain ⟨⟨wholeDigits, -, fractionDigits⟩, -, marked⟩ := wire
  have afterWhole : data.data.toList.drop (start + whole.length) =
      utf8Bytes (Numeral.fractionChars fraction ++ (Numeral.exponentChars exponent ++ rest)) := by
    rw [← List.drop_drop, remaining]
    simp only [Numeral.chars, List.append_assoc, utf8Bytes_append, utf8Bytes_digits wholeDigits]
    rw [List.drop_left' (by simp)]
  rcases fraction with _ | ⟨digit, digits⟩
  · -- no fraction: the exponent follows the whole digits
    obtain ⟨e, rfl⟩ : ∃ e, exponent = some e := by simpa [Option.isSome_iff_exists] using marked
    simp only [Numeral.fractionChars, List.nil_append] at afterWhole
    obtain ⟨mark, sign, digitsRead⟩ := exponent_bytes afterWhole ends
    have stop : start + whole.length + (Numeral.exponentChars (some e)).length =
        start + (Numeral.chars ⟨whole, [], some e⟩).length := by
      simp [Numeral.chars, Numeral.fractionChars]
      omega
    simp [parseFraction, mark, sign, digitsRead, bind, Except.bind, pure, Except.pure, stop, number]
  · -- a point and the fraction digits, then possibly the exponent
    simp only [Numeral.fractionChars, List.cons_append, utf8Bytes_cons] at afterWhole
    have point : data[start + whole.length]? = some 46 := by
      simpa [utf8EncodeChar_ascii] using byte_of_drop afterWhole 0
    have fractionAt : data.data.toList.drop (start + whole.length + 1) =
        utf8Bytes (digit :: digits) ++ utf8Bytes (Numeral.exponentChars exponent ++ rest) := by
      rw [← List.drop_drop, afterWhole]
      simp [utf8EncodeChar_ascii]
    have afterFraction :
        data.data.toList.drop (start + whole.length + 1 + (digit :: digits).length) =
          utf8Bytes (Numeral.exponentChars exponent ++ rest) := by
      rw [← List.drop_drop, fractionAt, utf8Bytes_digits fractionDigits, List.drop_left' (by simp)]
    cases exponent with
    | none =>
      have fractionRead := requiredDigits_eq fractionAt fractionDigits (by simp)
        (by simpa [Numeral.exponentChars] using ends.not_digit)
      obtain ⟨b, bytes, restBytes, endByte⟩ := ends.bytes
      have next : data[start + whole.length + 1 + (digit :: digits).length]? = some b := by
        simpa [Numeral.exponentChars, restBytes] using byte_of_drop afterFraction 0
      have notMark : ¬ (b = 101 ∨ b = 69) := by
        rcases endByte with rfl | rfl <;> decide
      have stop : start + whole.length + 1 + (digit :: digits).length =
          start + (Numeral.chars ⟨whole, digit :: digits, none⟩).length := by
        simp [Numeral.chars, Numeral.fractionChars, Numeral.exponentChars]
        omega
      generalize start + whole.length + 1 + (digit :: digits).length = afterDigits
        at fractionRead next stop
      rw [← stop] at number ⊢
      simp [parseFraction, point, fractionRead, next, notMark, bind, Except.bind, pure,
        Except.pure, number]
    | some e =>
      obtain ⟨mark, sign, digitsRead⟩ := exponent_bytes afterFraction ends
      have fractionRead := requiredDigits_eq fractionAt fractionDigits (by simp)
        (by simp [Numeral.exponentChars, utf8EncodeChar_ascii, isDigitByte])
      have stop : start + whole.length + 1 + (digit :: digits).length +
            (Numeral.exponentChars (some e)).length =
          start + (Numeral.chars ⟨whole, digit :: digits, some e⟩).length := by
        simp [Numeral.chars, Numeral.fractionChars]
        omega
      generalize start + whole.length + 1 + (digit :: digits).length = afterDigits
        at fractionRead mark sign digitsRead stop
      simp [parseFraction, point, fractionRead, mark, sign, digitsRead, bind, Except.bind, pure,
        Except.pure, stop, number]

/-- The point or exponent mark that follows the whole digits of a numeral of the wire. -/
theorem mark_after_whole {data : ByteArray} {pos : Nat} {n : Numeral} {rest : List Char}
    (wire : n.Wire) (remaining : data.data.toList.drop pos = utf8Bytes (n.chars ++ rest)) :
    data.data.toList.drop (pos + n.whole.length) =
        utf8Bytes (Numeral.fractionChars n.fraction ++ (Numeral.exponentChars n.exponent ++ rest)) ∧
      (data[pos + n.whole.length]? = some 46 ∨ data[pos + n.whole.length]? = some 101) := by
  have afterWhole : data.data.toList.drop (pos + n.whole.length) =
      utf8Bytes (Numeral.fractionChars n.fraction ++ (Numeral.exponentChars n.exponent ++ rest)) := by
    rw [← List.drop_drop, remaining]
    simp only [Numeral.chars, List.append_assoc, utf8Bytes_append,
      utf8Bytes_digits wire.whole_digits]
    rw [List.drop_left' (by simp)]
  refine ⟨afterWhole, ?_⟩
  have head := byte_of_drop afterWhole 0
  rcases fractionEq : n.fraction with _ | ⟨digit, digits⟩
  · obtain ⟨e, exponentEq⟩ : ∃ e, n.exponent = some e := by
      simpa [Option.isSome_iff_exists, fractionEq] using wire.marked
    right
    simpa [fractionEq, exponentEq, Numeral.fractionChars, Numeral.exponentChars,
      utf8EncodeChar_ascii] using head
  · left
    simpa [fractionEq, Numeral.fractionChars, utf8EncodeChar_ascii] using head

theorem parseNumber_wire {data : ByteArray} {pos : Nat} {n : Numeral} {rest : List Char}
    (wire : n.Wire) (remaining : data.data.toList.drop pos = utf8Bytes (n.chars ++ rest))
    (ends : EndsScalar rest) :
    parseNumber data pos = .ok (.float n.parts.toFloat, pos + n.chars.length) := by
  have fraction := parseFraction_wire wire remaining ends
  obtain ⟨afterWhole, marks⟩ := mark_after_whole wire remaining
  obtain ⟨first, others, wholeEq⟩ := List.exists_cons_of_ne_nil wire.whole_ne_nil
  have firstDigit : first.isDigit = true := wire.whole_digits first (by simp [wholeEq])
  have atFirst : data[pos]? = some first.toNat.toUInt8 := by
    simpa [Numeral.chars, wholeEq, utf8EncodeChar_ascii (toNat_lt_of_isDigit firstDigit)] using
      byte_of_drop remaining 0
  have digitByte := isDigitByte_of_isDigit firstDigit
  have notWord : first.toNat.toUInt8 ≠ 78 ∧ first.toNat.toUInt8 ≠ 45 ∧ first.toNat.toUInt8 ≠ 73 := by
    refine ⟨?_, ?_, ?_⟩ <;> intro same <;> rw [same] at digitByte <;> exact absurd digitByte (by decide)
  obtain ⟨notN, notMinus, notI⟩ := notWord
  by_cases zero : first = '0'
  · -- a whole part `0` is followed by the point or the exponent mark
    subst zero
    have single : others = [] := by simpa [wholeEq] using wire.whole_lead
    subst single
    rw [wholeEq, List.length_singleton] at marks fraction
    simp [parseNumber, atFirst]
    rcases marks with mark | mark <;> simp [mark, fraction]
  · -- a whole part starting with another digit runs to the point or the exponent mark
    have notZero : first.toNat.toUInt8 ≠ 48 := by
      intro same
      apply zero
      apply Char.toNat_inj.mp
      have := congrArg UInt8.toNat same
      have small := toNat_lt_of_isDigit firstDigit
      simp only [Nat.toUInt8_eq, UInt8.toNat_ofNat'] at this
      rw [Nat.mod_eq_of_lt (by omega)] at this
      rw [this]
      rfl
    have wholeAt : data.data.toList.drop pos = utf8Bytes n.whole ++
        utf8Bytes (Numeral.fractionChars n.fraction ++ (Numeral.exponentChars n.exponent ++ rest)) := by
      rw [remaining, Numeral.chars, List.append_assoc, List.append_assoc, utf8Bytes_append]
    have notDigit : ∀ b ∈ (utf8Bytes (Numeral.fractionChars n.fraction ++
        (Numeral.exponentChars n.exponent ++ rest))).head?, isDigitByte b = false := by
      intro b member
      have head := byte_of_drop afterWhole 0
      rw [Nat.add_zero, ← List.head?_eq_getElem?, member] at head
      rcases marks with mark | mark <;> rw [mark, Option.some.injEq] at head <;> subst head <;> decide
    have stop := digitsStop_eq wholeAt wire.whole_digits notDigit
    simp [parseNumber, atFirst, notN, notMinus, digitByte, stop]
    rcases marks with mark | mark <;> simp [mark, fraction]

/-- Blanks are skipped only where there are some. -/
theorem skipSpaces_of_visible {data : ByteArray} {pos : Nat}
    (visible : ∀ b ∈ data[pos]?, isSpaceByte b = false) : skipSpaces data pos = pos := by
  unfold skipSpaces
  cases next : data[pos]? with
  | none => simp [skipSpaces.go, next]
  | some b => simp [skipSpaces.go, next, visible b next]

theorem isSpaceByte_of_isDigitByte {b : UInt8} (digit : isDigitByte b = true) :
    isSpaceByte b = false := by
  simp only [isSpaceByte, Bool.or_eq_false_iff, beq_eq_false_iff_ne, ne_eq]
  refine ⟨⟨⟨?_, ?_⟩, ?_⟩, ?_⟩ <;> rintro rfl <;> exact absurd digit (by decide)

/-- A scalar's bytes start with a quote or a digit, never with a blank. -/
theorem wireScalar_head_byte {value : Value} (scalar : value.WireScalar) (after : List Char) :
    ∀ b ∈ (utf8Bytes ((Json.render FloatStyle.wire.render value).toList ++ after)).head?,
      isSpaceByte b = false := by
  cases value with
  | str text => simp [render, toList_quote, utf8EncodeChar_ascii, isSpaceByte]
  | float x =>
    obtain ⟨finite, positive⟩ := scalar
    obtain ⟨n, wire, rendered, -⟩ := render_wire_reads_back finite positive
    obtain ⟨first, others, whole⟩ := List.exists_cons_of_ne_nil wire.whole_ne_nil
    have firstDigit : first.isDigit = true := wire.whole_digits first (by simp [whole])
    simp [render, rendered, Numeral.chars, whole, utf8EncodeChar_ascii (toNat_lt_of_isDigit firstDigit),
      isSpaceByte_of_isDigitByte (isDigitByte_of_isDigit firstDigit)]
  | null => simp [render, utf8EncodeChar_ascii, isSpaceByte]
  | _ => exact absurd scalar id

theorem length_utf8Bytes_render_float {x : Float} {n : Numeral} (wire : n.Wire)
    (rendered : FloatStyle.wire.render x = String.ofList n.chars) :
    (utf8Bytes (Json.render FloatStyle.wire.render (.float x)).toList).length = n.chars.length := by
  rw [render, rendered, String.toList_ofList, utf8Bytes_of_ascii (Numeral.chars_ascii wire.toWellFormed),
    List.length_map]

/-- A scalar of the wire is read back as itself, up to its last byte. -/
theorem parseValue_scalar {data : ByteArray} {fuel room pos : Nat} {value : Value} {rest : List Char}
    (scalar : value.WireScalar)
    (remaining : data.data.toList.drop pos =
      utf8Bytes ((Json.render FloatStyle.wire.render value).toList ++ rest))
    (ends : EndsScalar rest) :
    parseValue data (fuel + 1) room pos =
      .ok (value, pos + (utf8Bytes (Json.render FloatStyle.wire.render value).toList).length) := by
  cases value with
  | str text =>
    rw [utf8Bytes_append] at remaining
    simp only [render] at remaining ⊢
    have opening : data[pos]? = some 34 := by
      simpa [utf8Bytes_quote] using byte_of_drop remaining 0
    simp [parseValue, opening, parseString_quote remaining, Except.map]
  | float x =>
    obtain ⟨finite, positive⟩ := scalar
    obtain ⟨n, wire, rendered, reads⟩ := render_wire_reads_back finite positive
    rw [length_utf8Bytes_render_float wire rendered]
    simp only [render, rendered, String.toList_ofList] at remaining
    obtain ⟨first, others, whole⟩ := List.exists_cons_of_ne_nil wire.whole_ne_nil
    have firstDigit : first.isDigit = true := wire.whole_digits first (by simp [whole])
    have atFirst : data[pos]? = some first.toNat.toUInt8 := by
      simpa [Numeral.chars, whole, utf8EncodeChar_ascii (toNat_lt_of_isDigit firstDigit)] using
        byte_of_drop remaining 0
    have digitByte := isDigitByte_of_isDigit firstDigit
    have notOpening : first.toNat.toUInt8 ≠ 91 ∧ first.toNat.toUInt8 ≠ 123 ∧
        first.toNat.toUInt8 ≠ 34 ∧ first.toNat.toUInt8 ≠ 116 ∧ first.toNat.toUInt8 ≠ 102 ∧
        first.toNat.toUInt8 ≠ 110 := by
      refine ⟨?_, ?_, ?_, ?_, ?_, ?_⟩ <;> intro same <;> rw [same] at digitByte <;>
        exact absurd digitByte (by decide)
    obtain ⟨notList, notObject, notString, notTrue, notFalse, notNull⟩ := notOpening
    simp [parseValue, atFirst, startsNumber, digitByte, parseNumber_wire wire remaining ends, reads]
  | null =>
    have word : utf8Bytes (Json.render FloatStyle.wire.render .null).toList = [110, 117, 108, 108] := by
      simp [render, utf8EncodeChar_ascii]
    rw [word]
    rw [utf8Bytes_append, word] at remaining
    have lookup := byte_of_drop remaining
    have rest : wordBytes "ull" = [117, 108, 108] := by
      rw [wordBytes, byteArray_toList, toUTF8_bytes]
      simp [utf8EncodeChar_ascii]
    simp [parseValue, parseWord, parseWord.go, rest, Except.map,
      (by simpa using lookup 0 : data[pos]? = some 110),
      (by simpa using lookup 1 : data[pos + 1]? = some 117),
      (by simpa using lookup 2 : data[pos + 2]? = some 108),
      (by simpa using lookup 3 : data[pos + 3]? = some 108)]
  | _ => exact absurd scalar id

theorem addField_fresh {fields : List (String × Value)} {key : String} {value : Value}
    (fresh : key ∉ fields.map Prod.fst) : addField fields key value = fields ++ [(key, value)] := by
  have absent : fields.any (·.1 == key) = false := by
    simp only [List.any_eq_false, beq_iff_eq]
    intro field member same
    exact fresh (List.mem_map.mpr ⟨field, member, same⟩)
  simp [addField, absent]

/-- Reading one member of an object: its key, the colon and its value, up to what follows. -/
theorem member_read {data : ByteArray} {pos : Nat} {key : String} {value : Value}
    {after : List Char} (fuel room : Nat) (scalar : value.WireScalar)
    (remaining : data.data.toList.drop pos = utf8Bytes ((quote key).toList ++
      ':' :: ((Json.render FloatStyle.wire.render value).toList ++ after)))
    (ends : EndsScalar after) :
    ∃ colon stop, parseString data pos = .ok (key, colon) ∧ skipSpaces data colon = colon ∧
      data[colon]? = some 58 ∧ skipSpaces data (colon + 1) = colon + 1 ∧
      nested data (fuel + 1) (room + 1) (colon + 1) = .ok (value, stop) ∧
      skipSpaces data stop = stop ∧ data.data.toList.drop stop = utf8Bytes after ∧
      stop = pos + (utf8Bytes ((quote key).toList ++
        ':' :: (Json.render FloatStyle.wire.render value).toList)).length := by
  rw [utf8Bytes_append] at remaining
  have keyRead := parseString_quote remaining
  have afterKey : data.data.toList.drop (pos + (utf8Bytes (quote key).toList).length) =
      58 :: utf8Bytes ((Json.render FloatStyle.wire.render value).toList ++ after) := by
    rw [← List.drop_drop, remaining, List.drop_left]
    simp [utf8EncodeChar_ascii]
  have atColon : data[pos + (utf8Bytes (quote key).toList).length]? = some 58 := by
    simpa using byte_of_drop afterKey 0
  have valueAt : data.data.toList.drop (pos + (utf8Bytes (quote key).toList).length + 1) =
      utf8Bytes ((Json.render FloatStyle.wire.render value).toList ++ after) := by
    rw [← List.drop_drop, afterKey]
    rfl
  have valueRead : nested data (fuel + 1) (room + 1) (pos + (utf8Bytes (quote key).toList).length + 1) =
      .ok (value, pos + (utf8Bytes (quote key).toList).length + 1 +
        (utf8Bytes (Json.render FloatStyle.wire.render value).toList).length) := by
    rw [nested]
    exact parseValue_scalar scalar valueAt ends
  have afterValue : data.data.toList.drop (pos + (utf8Bytes (quote key).toList).length + 1 +
      (utf8Bytes (Json.render FloatStyle.wire.render value).toList).length) = utf8Bytes after := by
    rw [← List.drop_drop, valueAt, utf8Bytes_append, List.drop_left]
  refine ⟨_, _, keyRead, ?_, atColon, ?_, valueRead, ?_, afterValue, ?_⟩
  · apply skipSpaces_of_visible
    simp [atColon, isSpaceByte]
  · apply skipSpaces_of_visible
    intro b member
    have head := byte_of_drop valueAt 0
    rw [Nat.add_zero, ← List.head?_eq_getElem?] at head
    rw [head] at member
    exact wireScalar_head_byte scalar after b member
  · apply skipSpaces_of_visible
    intro b member
    have head := byte_of_drop afterValue 0
    rw [Nat.add_zero] at head
    rw [head] at member
    obtain ⟨c, more, rfl, comma | brace⟩ := ends <;> subst_vars <;>
      simp [utf8EncodeChar_ascii] at member <;> subst member <;> decide
  · simp [utf8EncodeChar_ascii]
    omega

/-- The members of an object are read one by one, each taking one unit of fuel, and added after
the fields read before. -/
theorem parseMembers_fields {data : ByteArray} {room : Nat} {rest : List Char}
    (fields : List (String × Value)) (fuel pos : Nat) (acc : List (String × Value))
    (nonempty : fields ≠ []) (wire : WireFields fields)
    (fresh : ∀ key ∈ fields.map Prod.fst, key ∉ acc.map Prod.fst)
    (remaining : data.data.toList.drop pos =
      utf8Bytes ((renderFields FloatStyle.wire.render fields).toList ++ '}' :: rest))
    (enough : fields.length < fuel) :
    parseMembers data fuel (room + 1) pos acc =
      .ok (.obj (acc ++ fields),
        pos + (utf8Bytes (renderFields FloatStyle.wire.render fields).toList).length + 1) := by
  induction fields generalizing fuel pos acc with
  | nil => exact absurd rfl nonempty
  | cons field tail ih =>
    obtain ⟨key, value⟩ := field
    obtain ⟨fuel, rfl⟩ : ∃ k, fuel = k + 2 := ⟨fuel - 2, by simp at enough; omega⟩
    have scalar : value.WireScalar := wire.scalars (key, value) List.mem_cons_self
    have keyFresh := fresh key List.mem_cons_self
    cases tail with
    | nil =>
      rw [toList_renderFields_single] at remaining ⊢
      simp only [List.append_assoc, List.cons_append] at remaining
      obtain ⟨colon, stop, keyRead, colonSkip, atColon, valueSkip, valueRead, stopSkip, afterValue,
        stopEq⟩ := member_read fuel room scalar remaining ⟨'}', rest, rfl, Or.inr rfl⟩
      have closing : data[stop]? = some 125 := by
        simpa [utf8EncodeChar_ascii] using byte_of_drop afterValue 0
      rw [parseMembers]
      simp [keyRead, colonSkip, atColon, valueSkip, valueRead, stopSkip, closing,
        addField_fresh keyFresh]
      simp [stopEq]
    | cons next tail =>
      rw [toList_renderFields_cons] at remaining ⊢
      simp only [List.append_assoc, List.cons_append] at remaining
      obtain ⟨colon, stop, keyRead, colonSkip, atColon, valueSkip, valueRead, stopSkip, afterValue,
        stopEq⟩ := member_read fuel room scalar remaining ⟨',', _, rfl, Or.inl rfl⟩
      have comma : data[stop]? = some 44 := by
        simpa [utf8EncodeChar_ascii] using byte_of_drop afterValue 0
      have tailAt : data.data.toList.drop (stop + 1) =
          utf8Bytes ((renderFields FloatStyle.wire.render (next :: tail)).toList ++ '}' :: rest) := by
        rw [← List.drop_drop, afterValue]
        simp [utf8EncodeChar_ascii]
      have keyQuote : data[stop + 1]? = some 34 := by
        obtain ⟨nextKey, nextValue⟩ := next
        have head := byte_of_drop tailAt 0
        rw [Nat.add_zero] at head
        cases tail <;> simpa [toList_renderFields_single, toList_renderFields_cons, toList_quote,
          utf8EncodeChar_ascii] using head
      have tailSkip : skipSpaces data (stop + 1) = stop + 1 := by
        apply skipSpaces_of_visible
        simp [keyQuote, isSpaceByte]
      have tailWire : WireFields (next :: tail) :=
        ⟨(List.nodup_cons.mp wire.keys_nodup).2,
          fun field member => wire.scalars field (List.mem_cons_of_mem _ member)⟩
      have tailFresh : ∀ k ∈ (next :: tail).map Prod.fst, k ∉ (acc ++ [(key, value)]).map Prod.fst := by
        intro k member
        simp only [List.map_append, List.map_cons, List.map_nil, List.mem_append, List.mem_singleton,
          not_or]
        refine ⟨fresh k (List.mem_cons_of_mem _ member), ?_⟩
        rintro rfl
        exact (List.nodup_cons.mp wire.keys_nodup).1 member
      have tailRead := ih (fuel + 1) (stop + 1) (acc ++ [(key, value)]) (by simp) tailWire tailFresh
        tailAt (by simp at enough ⊢; omega)
      rw [parseMembers]
      simp [keyRead, colonSkip, atColon, valueSkip, valueRead, stopSkip, comma, tailSkip, keyQuote,
        addField_fresh keyFresh, tailRead]
      have widths : (':' : Char).utf8Size = 1 ∧ (',' : Char).utf8Size = 1 := ⟨rfl, rfl⟩
      simp [stopEq, widths]
      omega

/-- The parser reads the JSON text of an object of wire scalars with distinct keys as that
object. -/
theorem parse_record {fields : List (String × Value)} (nonempty : fields ≠ [])
    (wire : WireFields fields) : Json.parse (Value.obj fields).toJson = .ok (.obj fields) := by
  have written := toList_toJson_obj fields
  generalize (Value.obj fields).toJson = text at written ⊢
  unfold parse
  generalize dataEq : text.toUTF8 = data
  have whole : data.data.toList =
      utf8Bytes ('{' :: ((renderFields FloatStyle.wire.render fields).toList ++ ['}'])) := by
    rw [← dataEq, toUTF8_bytes, written]
  have size : data.size = (utf8Bytes (renderFields FloatStyle.wire.render fields).toList).length + 2 := by
    rw [← ByteArray.size_data, ← Array.length_toList, whole]
    simp [utf8EncodeChar_ascii]
  have atStart : data.data.toList.drop 0 =
      utf8Bytes ('{' :: ((renderFields FloatStyle.wire.render fields).toList ++ ['}'])) := by
    rw [List.drop_zero, whole]
  have opening : data[0]? = some 123 := by
    simpa [utf8EncodeChar_ascii] using byte_of_drop atStart 0
  have membersAt : data.data.toList.drop 1 =
      utf8Bytes ((renderFields FloatStyle.wire.render fields).toList ++ ['}']) := by
    rw [whole]
    simp [utf8EncodeChar_ascii]
  have keyQuote : data[1]? = some 34 := by
    obtain ⟨⟨key, value⟩, tail, rfl⟩ := List.exists_cons_of_ne_nil nonempty
    have head := byte_of_drop membersAt 0
    cases tail <;> simpa [toList_renderFields_single, toList_renderFields_cons, toList_quote,
      utf8EncodeChar_ascii] using head
  have startSkip : skipSpaces data 0 = 0 := by
    apply skipSpaces_of_visible
    simp [opening, isSpaceByte]
  have membersSkip : skipSpaces data 1 = 1 := by
    apply skipSpaces_of_visible
    simp [keyQuote, isSpaceByte]
  have endSkip : skipSpaces data data.size = data.size := by
    apply skipSpaces_of_visible
    simp
  have enough := (length_le_renderFields fields).trans
    (length_le_utf8Bytes (renderFields FloatStyle.wire.render fields).toList)
  have members : parseMembers data (3 * data.size + 2) (199 + 1) 1 [] = _ :=
    parseMembers_fields fields _ 1 [] nonempty wire (by simp) membersAt (by omega)
  have stop : 1 + (utf8Bytes (renderFields FloatStyle.wire.render fields).toList).length + 1 =
      data.size := by
    omega
  have read : parseMembers data (3 * data.size + 2) 200 1 [] = .ok (.obj fields, data.size) := by
    simpa [stop] using members
  simp [startSkip, parseValue, opening, membersSkip, keyQuote, nestingLimit, read, bind,
    Except.bind, endSkip, pure, Except.pure]

theorem detectEncoding_object (rest : List UInt8) : detectEncoding (123 :: 34 :: rest) = (.utf8, 0) := by
  rcases rest with _ | ⟨third, _ | ⟨fourth, rest⟩⟩ <;> rfl

/-- The bytes of a text that opens an object with a key are read back as that text. -/
theorem textOfBytes_object {text : String} (opening : ∃ rest, text.toList = '{' :: '"' :: rest) :
    textOfBytes text.toUTF8 = some text := by
  obtain ⟨rest, opening⟩ := opening
  have bytes : text.toUTF8.toList = 123 :: 34 :: utf8Bytes rest := by
    rw [byteArray_toList, toUTF8_bytes, opening]
    simp [utf8EncodeChar_ascii]
  simp only [textOfBytes]
  rw [bytes, detectEncoding_object]
  show String.fromUTF8? ⟨(123 :: 34 :: utf8Bytes rest).toArray⟩ = some text
  rw [← bytes, byteArray_toList, Array.toArray_toList, String.toUTF8_eq_toByteArray, String.fromUTF8?,
    dif_pos text.isValidUTF8]
  rfl

end Json

end LoadHarness
