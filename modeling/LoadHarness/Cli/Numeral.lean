import LoadHarness.Validation.Lax

/-!
# Numbers written in arguments

An integer argument is an optional sign and decimal digits; a double argument
is written in decimal or scientific notation, or as `inf`, `infinity` or `nan`
in any case, after an optional sign.

Digits may come from any script: every character of the Unicode category Nd
(Unicode 14.0) stands for its value, and one number may mix scripts.  Before
the text is read, each non-ASCII white-space character becomes a space and
each other non-ASCII character that is no digit makes the text unreadable.
Blanks (space, tab, line feed, vertical tab, form feed, carriage return) may
then surround the number, and single underscores may stand between two
digits.  An integer has at most 4300 digits.
-/

namespace LoadHarness

namespace Cli

namespace Numeral

/-- The first code point of each run of ten decimal digits, zero to nine: the
characters of category Nd in Unicode 14.0 come in 66 such runs. -/
def digitRuns : List Nat :=
  [0x30, 0x660, 0x6F0, 0x7C0, 0x966, 0x9E6, 0xA66, 0xAE6, 0xB66, 0xBE6, 0xC66, 0xCE6, 0xD66, 0xDE6,
   0xE50, 0xED0, 0xF20, 0x1040, 0x1090, 0x17E0, 0x1810, 0x1946, 0x19D0, 0x1A80, 0x1A90, 0x1B50,
   0x1BB0, 0x1C40, 0x1C50, 0xA620, 0xA8D0, 0xA900, 0xA9D0, 0xA9F0, 0xAA50, 0xABF0, 0xFF10,
   0x104A0, 0x10D30, 0x11066, 0x110F0, 0x11136, 0x111D0, 0x112F0, 0x11450, 0x114D0, 0x11650,
   0x116C0, 0x11730, 0x118E0, 0x11950, 0x11C50, 0x11D50, 0x11DA0, 0x16A60, 0x16AC0, 0x16B50,
   0x1D7CE, 0x1D7D8, 0x1D7E2, 0x1D7EC, 0x1D7F6, 0x1E140, 0x1E2F0, 0x1E950, 0x1FBF0]

/-- The value of a decimal digit of any script. -/
def digitValue? (c : Char) : Option Nat :=
  let code := c.toNat
  (digitRuns.find? fun start => start ≤ code && code < start + 10).map fun start => code - start

/-- Whether a character is a decimal digit of any script. -/
def isDigit (c : Char) : Bool := (digitValue? c).isSome

/-- The characters of a number's text as ASCII: digits of other scripts
become ASCII digits, non-ASCII white space a space, and any other non-ASCII
character a `?`, which no number holds. -/
def asciiChars (text : String) : List Char :=
  text.toList.map fun c =>
    if c.toNat < 127 then c
    else if Lax.isSpace c then ' '
    else
      match digitValue? c with
      | some digit => Char.ofNat (48 + digit)
      | none => '?'

/-- The blanks that may surround a number. -/
def isBlank (c : Char) : Bool := c == ' ' || (9 ≤ c.toNat && c.toNat ≤ 13)

/-- The ASCII characters of a number's text without surrounding blanks. -/
def stripped (text : String) : List Char :=
  (((asciiChars text).dropWhile isBlank).reverse.dropWhile isBlank).reverse

/-- The digits of a group of ASCII digits with single underscores between them. -/
def digitGroup? (chars : List Char) : Option (List Char) :=
  let rec valid : List Char → Bool
    | [] => true
    | '_' :: d :: rest => d.isDigit && valid rest
    | '_' :: [] => false
    | c :: rest => c.isDigit && valid rest
  match chars with
  | first :: _ => if first.isDigit && valid chars then some (chars.filter (· != '_')) else none
  | [] => none

/-- A sign and the rest. -/
def splitSign : List Char → Bool × List Char
  | '-' :: rest => (true, rest)
  | '+' :: rest => (false, rest)
  | chars => (false, chars)

/-- The integer a text writes. -/
def readWhole (text : String) : Option Int :=
  let (negative, body) := splitSign (stripped text)
  (digitGroup? body).bind fun digits =>
    if digits.length > 4300 then none
    else
      let magnitude : Int := Decimal.digitsValue digits
      some (if negative then -magnitude else magnitude)

/-- The digits of a mantissa `digits [. digits]` or `. digits`. -/
def mantissa? (chars : List Char) : Option (List Char) :=
  match chars.span (· != '.') with
  | (whole, []) => digitGroup? whole
  | (whole, _ :: fraction) =>
      match whole, fraction with
      | [], [] => none
      | [], _ => (digitGroup? fraction).map fun digits => '.' :: digits
      | _, [] => (digitGroup? whole).map fun digits => digits ++ ['.']
      | _, _ => do
          let w ← digitGroup? whole
          let f ← digitGroup? fraction
          pure (w ++ ['.'] ++ f)

/-- The double a text writes, rounded to the nearest. -/
def readDouble (text : String) : Option Float :=
  let (negative, body) := splitSign (stripped text)
  let lower := String.ofList (body.map Char.toLower)
  if lower == "inf" || lower == "infinity" then some (if negative then -1.0 / 0.0 else 1.0 / 0.0)
  else if lower == "nan" then some (0.0 / 0.0)
  else
    let cleaned : Option (List Char) :=
      match body.span fun c => c != 'e' && c != 'E' with
      | (front, []) => mantissa? front
      | (front, _ :: exponent) => do
          let m ← mantissa? front
          let (expNegative, expDigits) := splitSign exponent
          let e ← digitGroup? expDigits
          pure (m ++ ['e'] ++ (if expNegative then ['-'] else []) ++ e)
    cleaned.bind fun digits =>
      Decimal.readNumber (String.ofList ((if negative then ['-'] else []) ++ digits))

end Numeral

end Cli

end LoadHarness
