import LoadHarness.Value.Basic
import LoadHarness.Number.Read

/-!
# Decoding JSON documents

`Json.decode` reads one JSON document into a `Value`.  Numbers without a point
or exponent become integers of any size, the others the nearest double; the
words `NaN`, `Infinity` and `-Infinity` are read as the special doubles.
Blanks are space, tab, line feed and carriage return.

A reader may bound the digits of integers and the nesting of lists and
objects (`Json.decodeWithin`); reading stops at the first integer or list or
object past a bound, unless the text fails before it.

A document that cannot be read gives a `DecodeFault`: a message and the
position (counted in characters) where reading stopped:

* `Expecting value` where no value starts;
* `Expecting property name enclosed in double quotes`, `Expecting ':' delimiter`
  and `Expecting ',' delimiter` inside objects and lists;
* `Unterminated string starting at` (at the opening quote), `Invalid control
  character at`, `Invalid \escape` (at the backslash) and `Invalid \uXXXX
  escape` inside strings;
* `Extra data` where something follows the document.
-/

namespace LoadHarness

namespace Json

/-- Why a document could not be decoded. -/
inductive DecodeFault where
  /-- The text is not a JSON document: the message, and the position where
  reading stopped. -/
  | invalid (message : String) (position : Nat)
  /-- An integer has more digits than the reader's bound. -/
  | tooManyDigits (digits : Nat)
  /-- Lists and objects nest deeper than the reader's bound. -/
  | tooDeep
  deriving Repr, Inhabited

namespace DecodeFault

/-- The message of a fault. -/
def message : DecodeFault → String
  | .invalid message _ => message
  | .tooManyDigits digits =>
      "Exceeds the limit (4300 digits) for integer string conversion: value has " ++
        toString digits ++ " digits"
  | .tooDeep => "maximum recursion depth exceeded while decoding a JSON document"

/-- The position where reading stopped; a bound is not tied to one. -/
def position : DecodeFault → Nat
  | .invalid _ position => position
  | _ => 0

end DecodeFault

/-- Bounds a reader may set: the most digits of an integer, and how deeply
lists and objects may nest. -/
structure Bounds where
  digits : Option Nat
  depth : Option Nat
  deriving Inhabited

namespace Bounds

/-- No bounds at all. -/
def none : Bounds := ⟨Option.none, Option.none⟩

/-- Whether an integer of `count` digits passes the bounds. -/
def digitsFit (bounds : Bounds) (count : Nat) : Bool :=
  match bounds.digits with
  | some limit => count ≤ limit
  | Option.none => true

/-- The bounds one level of nesting deeper, or nothing when that is too deep. -/
def deeper (bounds : Bounds) : Option Bounds :=
  match bounds.depth with
  | some 0 => Option.none
  | some (depth + 1) => some { bounds with depth := some depth }
  | Option.none => some bounds

end Bounds

/-- The result of decoding. -/
abbrev Decoding := Except DecodeFault

/-- The blanks allowed between tokens. -/
def isBlank (c : Char) : Bool := c == ' ' || c == '\t' || c == '\n' || c == '\r'

/-- The position of the first non-blank character at or after `pos`. -/
def skipBlank (chars : Array Char) (pos : Nat) : Nat :=
  let rec go (fuel pos : Nat) : Nat :=
    match fuel with
    | 0 => pos
    | fuel + 1 =>
        match chars[pos]? with
        | some c => if isBlank c then go fuel (pos + 1) else pos
        | none => pos
  go (chars.size + 1) pos

/-- The character at a position, if any. -/
def charAt (chars : Array Char) (pos : Nat) : Option Char := chars[pos]?

/-- The value of a hexadecimal digit. -/
def hexValue (c : Char) : Option Nat :=
  if '0' ≤ c && c ≤ '9' then some (c.toNat - '0'.toNat)
  else if 'a' ≤ c && c ≤ 'f' then some (c.toNat - 'a'.toNat + 10)
  else if 'A' ≤ c && c ≤ 'F' then some (c.toNat - 'A'.toNat + 10)
  else none

/-- Four hexadecimal digits starting at `pos`. -/
def hex4At (chars : Array Char) (pos : Nat) : Option Nat :=
  [0, 1, 2, 3].foldl (fun acc offset =>
    match acc, (charAt chars (pos + offset)).bind hexValue with
    | some total, some digit => some (total * 16 + digit)
    | _, _ => none) (some 0)

/-- The character of a code point; a lone surrogate becomes the replacement character. -/
def codeChar (code : Nat) : Char :=
  if 0xD800 ≤ code && code ≤ 0xDFFF then Char.ofNat 0xFFFD else Char.ofNat code

/-- The string whose opening quote is at `open`, read from `pos`; the result is
the text and the position after the closing quote. -/
def scanString (chars : Array Char) (opening : Nat) : Decoding (String × Nat) :=
  let rec go (fuel pos : Nat) (acc : String) : Decoding (String × Nat) :=
    match fuel with
    | 0 => .error (.invalid "Unterminated string starting at" opening)
    | fuel + 1 =>
        match charAt chars pos with
        | none => .error (.invalid "Unterminated string starting at" opening)
        | some '"' => .ok (acc, pos + 1)
        | some '\\' =>
            match charAt chars (pos + 1) with
            | none => .error (.invalid "Unterminated string starting at" opening)
            | some 'u' =>
                if pos + 6 ≥ chars.size then .error (.invalid "Invalid \\uXXXX escape" (pos + 1))
                else
                  match hex4At chars (pos + 2) with
                  | none => .error (.invalid "Invalid \\uXXXX escape" (pos + 1))
                  | some code =>
                      let after := pos + 6
                      if 0xD800 ≤ code && code ≤ 0xDBFF && after + 6 < chars.size
                          && charAt chars after == some '\\' && charAt chars (after + 1) == some 'u' then
                        match hex4At chars (after + 2) with
                        | none => .error (.invalid "Invalid \\uXXXX escape" (after + 1))
                        | some low =>
                            if 0xDC00 ≤ low && low ≤ 0xDFFF then
                              let joined := 0x10000 + (code - 0xD800) * 1024 + (low - 0xDC00)
                              go fuel (after + 6) (acc.push (Char.ofNat joined))
                            else go fuel after (acc.push (codeChar code))
                      else go fuel after (acc.push (codeChar code))
            | some c =>
                let decoded : Option Char :=
                  match c with
                  | '"' => some '"'
                  | '\\' => some '\\'
                  | '/' => some '/'
                  | 'b' => some (Char.ofNat 8)
                  | 'f' => some (Char.ofNat 12)
                  | 'n' => some '\n'
                  | 'r' => some '\r'
                  | 't' => some '\t'
                  | _ => none
                match decoded with
                | some d => go fuel (pos + 2) (acc.push d)
                | none => .error (.invalid "Invalid \\escape" pos)
        | some c =>
            if c.toNat ≤ 0x1f then .error (.invalid "Invalid control character at" pos)
            else go fuel (pos + 1) (acc.push c)
  go (chars.size + 1) (opening + 1) ""

/-- The end of a run of digits starting at `pos`. -/
def digitsEnd (chars : Array Char) (pos : Nat) : Nat :=
  let rec go (fuel pos : Nat) : Nat :=
    match fuel with
    | 0 => pos
    | fuel + 1 =>
        match charAt chars pos with
        | some c => if c.isDigit then go fuel (pos + 1) else pos
        | none => pos
  go (chars.size + 1) pos

/-- The characters between two positions. -/
def slice (chars : Array Char) (start stop : Nat) : List Char :=
  ((chars.toList.drop start).take (stop - start))

/-- The position after an optional sign at `pos`. -/
def afterSign (chars : Array Char) (pos : Nat) : Nat :=
  if charAt chars pos == some '+' || charAt chars pos == some '-' then pos + 1 else pos

/-- The end of an exponent part `e`, sign, digits starting at `pos`, when it has digits. -/
def exponentEnd (chars : Array Char) (pos : Nat) : Option Nat :=
  if charAt chars pos == some 'e' || charAt chars pos == some 'E' then
    let signEnd := afterSign chars (pos + 1)
    let stop := digitsEnd chars signEnd
    if signEnd < stop then some stop else none
  else none

/-- A number starting at `pos`: `-`? (`0` | nonzero digits) (`.` digits)? (`e` sign? digits)?;
an exponent without digits is left unread.  `none` when no number starts here. -/
def scanNumber (chars : Array Char) (pos : Nat) : Option (Value × Nat) :=
  let negative := charAt chars pos == some '-'
  let intStart := if negative then pos + 1 else pos
  let intEnd? : Option Nat :=
    match charAt chars intStart with
    | some '0' => some (intStart + 1)
    | some c => if '1' ≤ c && c ≤ '9' then some (digitsEnd chars (intStart + 1)) else none
    | none => none
  intEnd?.map fun intEnd =>
    let (fracEnd, hasFraction) : Nat × Bool :=
      match charAt chars intEnd, charAt chars (intEnd + 1) with
      | some '.', some d => if d.isDigit then (digitsEnd chars (intEnd + 2), true) else (intEnd, false)
      | _, _ => (intEnd, false)
    let (expEnd, hasExponent) : Nat × Bool :=
      match exponentEnd chars fracEnd with
      | some stop => (stop, true)
      | none => (fracEnd, false)
    let whole := slice chars intStart intEnd
    if hasFraction || hasExponent then
      let fraction := if hasFraction then slice chars (intEnd + 1) fracEnd else []
      let exponent : Int :=
        if hasExponent then (Decimal.readExponent (slice chars (fracEnd + 1) expEnd)).getD 0 else 0
      let all := whole ++ fraction
      let parts : DecimalParts :=
        ⟨negative, Decimal.digitsValue all, fraction.length, (all.dropWhile (· == '0')).length, exponent⟩
      (.float parts.toFloat, expEnd)
    else
      let magnitude : Int := Decimal.digitsValue whole
      (.int (if negative then -magnitude else magnitude), intEnd)

/-- Whether the characters at `pos` spell `word`. -/
def spellsAt (chars : Array Char) (pos : Nat) (word : String) : Bool :=
  slice chars pos (pos + word.length) == word.toList

mutual

/-- The value starting at `pos`, and the position after it; `bounds` limit its
integers and the nesting of the lists and objects it opens. -/
def scanValue (chars : Array Char) (bounds : Bounds) (fuel pos : Nat) : Decoding (Value × Nat) :=
  match fuel with
  | 0 => .error (.invalid "Expecting value" pos)
  | fuel + 1 =>
      match charAt chars pos with
      | none => .error (.invalid "Expecting value" pos)
      | some '"' => (scanString chars pos).map fun (text, next) => (.str text, next)
      | some '{' =>
          match bounds.deeper with
          | some inner => scanObject chars inner fuel (skipBlank chars (pos + 1)) [] true
          | none => .error .tooDeep
      | some '[' =>
          match bounds.deeper with
          | some inner => scanArray chars inner fuel (skipBlank chars (pos + 1)) [] true
          | none => .error .tooDeep
      | some c =>
          if c == 'n' && spellsAt chars pos "null" then .ok (.null, pos + 4)
          else if c == 't' && spellsAt chars pos "true" then .ok (.bool true, pos + 4)
          else if c == 'f' && spellsAt chars pos "false" then .ok (.bool false, pos + 5)
          else if c == 'N' && spellsAt chars pos "NaN" then .ok (.float (0.0 / 0.0), pos + 3)
          else if c == 'I' && spellsAt chars pos "Infinity" then .ok (.float (1.0 / 0.0), pos + 8)
          else if c == '-' && spellsAt chars pos "-Infinity" then .ok (.float (-1.0 / 0.0), pos + 9)
          else
            match scanNumber chars pos with
            | some (.int n, next) =>
                let digits := (toString n.natAbs).length
                if bounds.digitsFit digits then .ok (.int n, next) else .error (.tooManyDigits digits)
            | some result => .ok result
            | none => .error (.invalid "Expecting value" pos)

/-- The rest of a list after `[` or a comma; `first` when no item was read yet. -/
def scanArray (chars : Array Char) (bounds : Bounds) (fuel pos : Nat) (acc : List Value) (first : Bool) :
    Decoding (Value × Nat) :=
  match fuel with
  | 0 => .error (.invalid "Expecting value" pos)
  | fuel + 1 =>
      if first && charAt chars pos == some ']' then .ok (.arr [], pos + 1)
      else
        match scanValue chars bounds fuel pos with
        | .error fault => .error fault
        | .ok (item, next) =>
            let next := skipBlank chars next
            match charAt chars next with
            | some ']' => .ok (.arr (acc ++ [item]), next + 1)
            | some ',' => scanArray chars bounds fuel (skipBlank chars (next + 1)) (acc ++ [item]) false
            | _ => .error (.invalid "Expecting ',' delimiter" next)

/-- The rest of an object after `{` or a comma; `first` when no field was read yet. -/
def scanObject (chars : Array Char) (bounds : Bounds) (fuel pos : Nat) (acc : List (String × Value))
    (first : Bool) :
    Decoding (Value × Nat) :=
  match fuel with
  | 0 => .error (.invalid "Expecting value" pos)
  | fuel + 1 =>
      if first && charAt chars pos == some '}' then .ok (.obj [], pos + 1)
      else if charAt chars pos != some '"' then
        .error (.invalid "Expecting property name enclosed in double quotes" pos)
      else
        match scanString chars pos with
        | .error fault => .error fault
        | .ok (key, next) =>
            let colon := skipBlank chars next
            if charAt chars colon != some ':' then .error (.invalid "Expecting ':' delimiter" colon)
            else
              match scanValue chars bounds fuel (skipBlank chars (colon + 1)) with
              | .error fault => .error fault
              | .ok (value, next) =>
                  let fields := insertField acc key value
                  let next := skipBlank chars next
                  match charAt chars next with
                  | some '}' => .ok (.obj fields, next + 1)
                  | some ',' => scanObject chars bounds fuel (skipBlank chars (next + 1)) fields false
                  | _ => .error (.invalid "Expecting ',' delimiter" next)

/-- Add a field; a repeated key keeps its first place and takes the new value. -/
def insertField (fields : List (String × Value)) (key : String) (value : Value) :
    List (String × Value) :=
  if fields.any (·.1 == key) then fields.map fun field => if field.1 == key then (key, value) else field
  else fields ++ [(key, value)]

end

/-- Decode a whole document within `bounds`; blanks may surround it. -/
def decodeWithin (bounds : Bounds) (text : String) : Decoding Value :=
  let chars := text.toList.toArray
  match scanValue chars bounds (chars.size + 2) (skipBlank chars 0) with
  | .error fault => .error fault
  | .ok (value, next) =>
      let rest := skipBlank chars next
      if rest == chars.size then .ok value else .error (.invalid "Extra data" rest)

/-- Decode a whole document, without bounds. -/
def decode (text : String) : Decoding Value := decodeWithin .none text

end Json

end LoadHarness
