import LoadHarness.Value.Basic
import LoadHarness.Number.Read

/-!
# Parsing JSON documents with located faults

`Json.parse` reads a JSON document from its UTF-8 bytes, as record schemas
read raw JSON text.  It differs from `Json.decode` in what it accepts and in
how it reports faults:

* the words `NaN`, `Infinity` and `-Infinity` are read as the special doubles,
  and a number too large for a double is infinite;
* a key that appears twice keeps the place of its first appearance and takes
  the value of its last;
* lists and objects nest at most 200 deep below the document;
* a fault names one of a fixed set of errors and the byte where it was found,
  reported as `error at line L column C`: lines are counted from 1, and the
  column of a byte is its offset from the start of its line plus one (a fault
  past the end has the column of the end, without the plus one).

Which fault is reported follows the reading order: a list reports a missing
`,` or `]` where the next item should have been, a trailing comma at the
closing bracket, an end of input as the construct that was open; a string
reports control characters, bad escapes (at the escape letter, or the bad
hexadecimal digit), and surrogates that do not pair; a number reports a
missing fraction or exponent digit as the end of input or an invalid number.
-/

namespace LoadHarness

namespace Json

/-- The errors a document can have. -/
inductive ParseError where
  | eofWhileParsingList
  | eofWhileParsingObject
  | eofWhileParsingString
  | eofWhileParsingValue
  | expectedColon
  | expectedListCommaOrEnd
  | expectedObjectCommaOrEnd
  | expectedSomeIdent
  | expectedSomeValue
  | invalidEscape
  | invalidNumber
  | controlCharacterWhileParsingString
  | keyMustBeAString
  | loneLeadingSurrogateInHexEscape
  | recursionLimitExceeded
  | trailingComma
  | trailingCharacters
  | unexpectedEndOfHexEscape
  deriving Repr, Inhabited, BEq

namespace ParseError

/-- The text of an error. -/
def text : ParseError → String
  | .eofWhileParsingList => "EOF while parsing a list"
  | .eofWhileParsingObject => "EOF while parsing an object"
  | .eofWhileParsingString => "EOF while parsing a string"
  | .eofWhileParsingValue => "EOF while parsing a value"
  | .expectedColon => "expected `:`"
  | .expectedListCommaOrEnd => "expected `,` or `]`"
  | .expectedObjectCommaOrEnd => "expected `,` or `\x7d`"
  | .expectedSomeIdent => "expected ident"
  | .expectedSomeValue => "expected value"
  | .invalidEscape => "invalid escape"
  | .invalidNumber => "invalid number"
  | .controlCharacterWhileParsingString => "control character (\\u0000-\\u001F) found while parsing a string"
  | .keyMustBeAString => "key must be a string"
  | .loneLeadingSurrogateInHexEscape => "lone leading surrogate in hex escape"
  | .recursionLimitExceeded => "recursion limit exceeded"
  | .trailingComma => "trailing comma"
  | .trailingCharacters => "trailing characters"
  | .unexpectedEndOfHexEscape => "unexpected end of hex escape"

end ParseError

/-- An error and the offset of the byte where it was found. -/
structure ParseFault where
  error : ParseError
  offset : Nat
  deriving Repr, Inhabited

/-- The line and column of a byte offset. -/
def lineColumn (data : ByteArray) (offset : Nat) : Nat × Nat :=
  let (line, lineStart) := ((data.toList.take (offset + 1)).zipIdx).foldl
    (fun (line, lineStart) (byte, index) => if byte == 10 then (line + 1, index + 1) else (line, lineStart))
    (1, 0)
  if offset < data.size then (line, offset + 1 - lineStart) else (line, data.size - lineStart)

/-- The description of a fault in a document. -/
def ParseFault.describe (data : ByteArray) (fault : ParseFault) : String :=
  let (line, column) := lineColumn data fault.offset
  fault.error.text ++ " at line " ++ toString line ++ " column " ++ toString column

/-- The result of parsing. -/
abbrev Parsing := Except ParseFault

/-- Fail with `error` at `offset`. -/
def failAt {α : Type} (error : ParseError) (offset : Nat) : Parsing α := .error ⟨error, offset⟩

/-- Whether a byte is one of the blanks between tokens: space, tab, line feed,
carriage return. -/
def isSpaceByte (byte : UInt8) : Bool := byte == 32 || byte == 9 || byte == 10 || byte == 13

/-- The offset of the first non-blank byte at or after `pos`. -/
def skipSpaces (data : ByteArray) (pos : Nat) : Nat :=
  let rec go (fuel pos : Nat) : Nat :=
    match fuel with
    | 0 => pos
    | fuel + 1 =>
        match data[pos]? with
        | some byte => if isSpaceByte byte then go fuel (pos + 1) else pos
        | none => pos
  go (data.size + 1) pos

/-- Whether a byte is a decimal digit. -/
def isDigitByte (byte : UInt8) : Bool := 48 ≤ byte && byte ≤ 57

/-- The offset after the digits starting at `pos`. -/
def digitsStop (data : ByteArray) (pos : Nat) : Nat :=
  let rec go (fuel pos : Nat) : Nat :=
    match fuel with
    | 0 => pos
    | fuel + 1 =>
        match data[pos]? with
        | some byte => if isDigitByte byte then go fuel (pos + 1) else pos
        | none => pos
  go (data.size + 1) pos

/-- The value of a hexadecimal digit byte. -/
def hexByte (byte : UInt8) : Option Nat :=
  if isDigitByte byte then some (byte.toNat - 48)
  else if 97 ≤ byte && byte ≤ 102 then some (byte.toNat - 87)
  else if 65 ≤ byte && byte ≤ 70 then some (byte.toNat - 55)
  else none

/-- The four hexadecimal digits after the `u` at `letter`: their value and the
offset of the last one. -/
def hexQuad (data : ByteArray) (letter : Nat) : Parsing (Nat × Nat) :=
  if letter + 5 ≤ data.size then
    [1, 2, 3, 4].foldlM (fun (total, _) step =>
      match data[letter + step]?.bind hexByte with
      | some digit => .ok (total * 16 + digit, letter + step)
      | none => failAt .invalidEscape (letter + step)) (0, letter)
  else failAt .eofWhileParsingString data.size

/-- The character of the escape whose `u` is at `letter`, joining a high and a
low surrogate written as two escapes; with the offset of its last byte. -/
def unicodeEscape (data : ByteArray) (letter : Nat) : Parsing (Char × Nat) := do
  let (code, last) ← hexQuad data letter
  if 0xDC00 ≤ code && code ≤ 0xDFFF then failAt .loneLeadingSurrogateInHexEscape last
  else if 0xD800 ≤ code && code ≤ 0xDBFF then
    match data[last + 1]?, data[last + 2]? with
    | some 92, some 117 =>
        let (low, lowLast) ← hexQuad data (last + 2)
        if 0xDC00 ≤ low && low ≤ 0xDFFF then
          pure (Char.ofNat (0x10000 + (code - 0xD800) * 0x400 + (low - 0xDC00)), lowLast)
        else failAt .loneLeadingSurrogateInHexEscape lowLast
    | some 92, some _ => failAt .unexpectedEndOfHexEscape (last + 2)
    | some 92, none => failAt .eofWhileParsingString (last + 2)
    | some _, _ => failAt .unexpectedEndOfHexEscape (last + 1)
    | none, _ => failAt .eofWhileParsingString (last + 1)
  else pure (Char.ofNat code, last)

/-- The character a one-letter escape stands for. -/
def simpleEscape (letter : UInt8) : Option UInt8 :=
  if letter == 34 || letter == 92 || letter == 47 then some letter
  else if letter == 98 then some 8
  else if letter == 102 then some 12
  else if letter == 110 then some 10
  else if letter == 114 then some 13
  else if letter == 116 then some 9
  else none

/-- The string whose opening quote is at `opening`: its text and the offset
after the closing quote. -/
def parseString (data : ByteArray) (opening : Nat) : Parsing (String × Nat) :=
  let rec go (fuel pos : Nat) (text : ByteArray) : Parsing (String × Nat) :=
    match fuel with
    | 0 => failAt .eofWhileParsingString pos
    | fuel + 1 =>
        match data[pos]? with
        | none => failAt .eofWhileParsingString pos
        | some 34 => .ok ((String.fromUTF8? text).getD "", pos + 1)
        | some 92 =>
            match data[pos + 1]? with
            | none => failAt .eofWhileParsingString (pos + 1)
            | some 117 =>
                match unicodeEscape data (pos + 1) with
                | .error fault => .error fault
                | .ok (c, last) => go fuel (last + 1) (text ++ (String.singleton c).toUTF8)
            | some letter =>
                match simpleEscape letter with
                | some byte => go fuel (pos + 2) (text.push byte)
                | none => failAt .invalidEscape (pos + 1)
        | some byte =>
            if byte < 32 then failAt .controlCharacterWhileParsingString pos
            else go fuel (pos + 1) (text.push byte)
  go (data.size + 1) (opening + 1) ByteArray.empty

/-- The rest of a word whose first letter is at `start`: the offset after it. -/
def parseWord (data : ByteArray) (start : Nat) (rest : List UInt8) : Parsing Nat :=
  let rec go (pos : Nat) : List UInt8 → Parsing Nat
    | [] => .ok pos
    | expected :: more =>
        match data[pos]? with
        | none => failAt .eofWhileParsingValue pos
        | some byte => if byte == expected then go (pos + 1) more else failAt .expectedSomeIdent pos
  go (start + 1) rest

/-- The bytes of a word. -/
def wordBytes (word : String) : List UInt8 := word.toUTF8.toList

/-- The text of the bytes between two offsets, which hold only ASCII. -/
def asciiSlice (data : ByteArray) (start stop : Nat) : String :=
  String.ofList (((data.toList.drop start).take (stop - start)).map fun byte => Char.ofNat byte.toNat)

/-- The offset after a required run of digits at `pos`: a missing digit is the
end of input, or an invalid number. -/
def requiredDigits (data : ByteArray) (pos : Nat) : Parsing Nat :=
  let stop := digitsStop data pos
  if stop == pos then
    match data[pos]? with
    | none => failAt .eofWhileParsingValue pos
    | some _ => failAt .invalidNumber pos
  else .ok stop

/-- A number with a fraction or an exponent, from `start`, whose integer part
ends at `wholeStop`. -/
def parseFraction (data : ByteArray) (start wholeStop : Nat) : Parsing (Value × Nat) := do
  let afterFraction ←
    if data[wholeStop]? == some 46 then requiredDigits data (wholeStop + 1) else pure wholeStop
  let afterExponent ←
    if data[afterFraction]? == some 101 || data[afterFraction]? == some 69 then
      let signed := afterFraction + 1
      let digitsAt := if data[signed]? == some 43 || data[signed]? == some 45 then signed + 1 else signed
      requiredDigits data digitsAt
    else pure afterFraction
  match Decimal.readNumber (asciiSlice data start afterExponent) with
  | some x => pure (.float x, afterExponent)
  | none => failAt .invalidNumber start

/-- Whether a byte can start a number: a minus, a digit, `I` or `N`. -/
def startsNumber (byte : UInt8) : Bool := byte == 45 || isDigitByte byte || byte == 73 || byte == 78

/-- The number starting at `start`. -/
def parseNumber (data : ByteArray) (start : Nat) : Parsing (Value × Nat) :=
  if data[start]? == some 78 then
    (parseWord data start (wordBytes "aN")).map fun stop => (.float (0.0 / 0.0), stop)
  else
    let negative := data[start]? == some 45
    let first := if negative then start + 1 else start
    match data[first]? with
    | none => failAt .eofWhileParsingValue start
    | some 73 =>
        (parseWord data first (wordBytes "nfinity")).map fun stop =>
          (.float (if negative then -1.0 / 0.0 else 1.0 / 0.0), stop)
    | some 48 =>
        match data[first + 1]? with
        | some 46 | some 101 | some 69 => parseFraction data start (first + 1)
        | some byte => if isDigitByte byte then failAt .invalidNumber (first + 1) else .ok (.int 0, first + 1)
        | none => .ok (.int 0, first + 1)
    | some byte =>
        if isDigitByte byte then
          let stop := digitsStop data first
          match data[stop]? with
          | some 46 | some 101 | some 69 => parseFraction data start stop
          | _ =>
              let magnitude : Int := Decimal.digitsValue (asciiSlice data first stop).toList
              .ok (.int (if negative then -magnitude else magnitude), stop)
        else failAt .invalidNumber first

/-- A field added to the fields read so far: a repeated key keeps the place of
its first appearance and takes the new value. -/
def addField (fields : List (String × Value)) (key : String) (value : Value) : List (String × Value) :=
  if fields.any (·.1 == key) then
    fields.map fun (name, old) => if name == key then (name, value) else (name, old)
  else fields ++ [(key, value)]

/-- How deeply lists and objects may nest below the document itself. -/
def nestingLimit : Nat := 200

mutual

/-- The value starting at `pos` (a non-blank byte), and the offset after it;
the items of a list or object it opens may nest `room` levels deeper. -/
def parseValue (data : ByteArray) (fuel room pos : Nat) : Parsing (Value × Nat) :=
  match fuel with
  | 0 => failAt .eofWhileParsingValue pos
  | fuel + 1 =>
      match data[pos]? with
      | none => failAt .eofWhileParsingValue pos
      | some 91 =>
          let first := skipSpaces data (pos + 1)
          match data[first]? with
          | none => failAt .eofWhileParsingList first
          | some 93 => .ok (.arr [], first + 1)
          | some _ => parseItems data fuel room first []
      | some 123 =>
          let first := skipSpaces data (pos + 1)
          match data[first]? with
          | none => failAt .eofWhileParsingObject first
          | some 34 => parseMembers data fuel room first []
          | some 125 => .ok (.obj [], first + 1)
          | some _ => failAt .keyMustBeAString first
      | some 34 => (parseString data pos).map fun (text, stop) => (.str text, stop)
      | some 116 => (parseWord data pos (wordBytes "rue")).map fun stop => (.bool true, stop)
      | some 102 => (parseWord data pos (wordBytes "alse")).map fun stop => (.bool false, stop)
      | some 110 => (parseWord data pos (wordBytes "ull")).map fun stop => (.null, stop)
      | some byte => if startsNumber byte then parseNumber data pos else failAt .expectedSomeValue pos

/-- A value inside a list or object: it takes one level of `room`, and with no
room left the document nests too deeply. -/
def nested (data : ByteArray) (fuel room pos : Nat) : Parsing (Value × Nat) :=
  match room with
  | 0 => failAt .recursionLimitExceeded pos
  | room + 1 => parseValue data fuel room pos

/-- The items of a list from the one starting at `pos`; `items` were read
before.  An item needs a level of `room`. -/
def parseItems (data : ByteArray) (fuel room pos : Nat) (items : List Value) : Parsing (Value × Nat) :=
  match fuel with
  | 0 => failAt .eofWhileParsingList pos
  | fuel + 1 =>
      match nested data fuel room pos with
      | .error fault => .error fault
      | .ok (item, stop) =>
          let next := skipSpaces data stop
          match data[next]? with
          | none => failAt .eofWhileParsingList next
          | some 44 =>
              let following := skipSpaces data (next + 1)
              match data[following]? with
              | none => failAt .eofWhileParsingValue following
              | some 93 => failAt .trailingComma following
              | some _ => parseItems data fuel room following (items ++ [item])
          | some 93 => .ok (.arr (items ++ [item]), next + 1)
          | some _ => failAt .expectedListCommaOrEnd next

/-- The members of an object from the key whose quote is at `pos`; `fields`
were read before.  A member's value needs a level of `room`. -/
def parseMembers (data : ByteArray) (fuel room pos : Nat) (fields : List (String × Value)) :
    Parsing (Value × Nat) :=
  match fuel with
  | 0 => failAt .eofWhileParsingObject pos
  | fuel + 1 =>
      match parseString data pos with
      | .error fault => .error fault
      | .ok (key, stop) =>
          let colon := skipSpaces data stop
          match data[colon]? with
          | none => failAt .eofWhileParsingObject colon
          | some 58 =>
              match nested data fuel room (skipSpaces data (colon + 1)) with
              | .error fault => .error fault
              | .ok (value, stop) =>
                  let fields := addField fields key value
                  let next := skipSpaces data stop
                  match data[next]? with
                  | none => failAt .eofWhileParsingObject next
                  | some 44 =>
                      let following := skipSpaces data (next + 1)
                      match data[following]? with
                      | none => failAt .eofWhileParsingValue following
                      | some 34 => parseMembers data fuel room following fields
                      | some 125 => failAt .trailingComma following
                      | some _ => failAt .keyMustBeAString following
                  | some 125 => .ok (.obj fields, next + 1)
                  | some _ => failAt .expectedObjectCommaOrEnd next
          | some _ => failAt .expectedColon colon

end

/-- Parse a whole document; blanks may surround it. -/
def parse (text : String) : Parsing Value := do
  let data := text.toUTF8
  let (value, stop) ← parseValue data (3 * data.size + 3) nestingLimit (skipSpaces data 0)
  let rest := skipSpaces data stop
  if rest < data.size then failAt .trailingCharacters rest else pure value

end Json

end LoadHarness
