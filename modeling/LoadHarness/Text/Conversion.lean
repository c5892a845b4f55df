/-!
# Templates with `%` conversions

A template is text in which `%` starts a conversion.  `Conversion.fill`
fills a template with one integer argument, read left to right:

* `%%` is a percent sign;
* otherwise a conversion is, in order, flags among `-` (pad on the right),
  `+` (always a sign), space (a space for the plus sign), `#` (the alternate
  form) and `0` (pad numbers with zeros); a width, as digits or `*` (taken
  from the argument); a precision, `.` then digits or `*`; an ignored length
  letter `h`, `l` or `L`; and the conversion letter;
* a conversion takes the argument when its letter is reached (a `*` takes it
  earlier); there is one argument, so a second taking fails;
* the letters are `d`, `i`, `u` (decimal), `o` (octal), `x` and `X`
  (hexadecimal; the alternate form adds `0o`, `0x`, `0X`), `e`, `E`, `f`,
  `F`, `g`, `G` (the argument as a double, precision 6 unless given), `c` (the
  character of that code), and `s`, `r`, `a` (its decimal text, cut to the
  precision);
* the result is padded to the width, on the left with spaces, or with zeros
  after the sign for a number with the `0` flag, or on the right with spaces;
* a template that ends inside a conversion is incomplete, and a template
  that never takes its argument leaves it unconverted.

The argument is an integer that a double holds exactly, as the decimal
expansions of the double conversions are computed from the integer.
-/

namespace LoadHarness

namespace Conversion

/-- Why a template could not be filled: the class name and the message. -/
structure Fault where
  kind : String
  message : String
  deriving Repr, Inhabited, BEq

/-- The flags of a conversion. -/
structure Flags where
  left : Bool := false
  plus : Bool := false
  blank : Bool := false
  alternate : Bool := false
  zero : Bool := false
  deriving Repr, Inhabited

/-- A flag character added to the flags, or none when it is no flag. -/
def Flags.add (flags : Flags) : Char → Option Flags
  | '-' => some { flags with left := true }
  | '+' => some { flags with plus := true }
  | ' ' => some { flags with blank := true }
  | '#' => some { flags with alternate := true }
  | '0' => some { flags with zero := true }
  | _ => none

/-- The largest width a template may ask for. -/
def widthBound : Nat := Nat.pow 2 63 - 1

/-- The largest precision a template may ask for. -/
def precisionBound : Nat := Nat.pow 2 31 - 1

/-- A read conversion: flags, width and precision when given, the letter, and
the position of the letter in the template. -/
structure Spec where
  flags : Flags
  width : Option Nat
  precision : Option Nat
  letter : Char
  position : Nat
  deriving Repr, Inhabited

/-- The state of filling: the characters still to read, the position of the
first of them, and whether the argument was taken. -/
structure Cursor where
  rest : List Char
  position : Nat
  taken : Bool
  deriving Repr, Inhabited

/-- The fault of taking the argument a second time. -/
def notEnough : Fault := ⟨"TypeError", "not enough arguments for format string"⟩

/-- The fault of a template that ends inside a conversion. -/
def incomplete : Fault := ⟨"ValueError", "incomplete format"⟩

/-- Take the argument, failing when it was taken before. -/
def Cursor.take (cursor : Cursor) : Except Fault Cursor :=
  if cursor.taken then .error notEnough else .ok { cursor with taken := true }

/-- The next character, and the cursor past it. -/
def Cursor.next? (cursor : Cursor) : Option (Char × Cursor) :=
  match cursor.rest with
  | c :: rest => some (c, { cursor with rest := rest, position := cursor.position + 1 })
  | [] => none

/-- The value of a decimal digit character. -/
def digitValue (c : Char) : Nat := c.toNat - '0'.toNat

/-- Digits after a first digit `first`: the number they make, with `bound`
as its largest allowed value, and what follows them. -/
def readNumber (first : Nat) (bound : Nat) (tooBig : Fault) (cursor : Cursor) :
    Except Fault (Nat × Option (Char × Cursor)) :=
  let rec go (fuel value : Nat) (cursor : Cursor) : Except Fault (Nat × Option (Char × Cursor)) :=
    match fuel with
    | 0 => .ok (value, none)
    | fuel + 1 =>
        match cursor.next? with
        | some (c, after) =>
            if c.isDigit then
              if value > (bound - digitValue c) / 10 then .error tooBig
              else go fuel (value * 10 + digitValue c) after
            else .ok (value, some (c, after))
        | none => .ok (value, none)
  go (cursor.rest.length + 1) first cursor

/-- The flags from the characters at the cursor, and the first character that
is no flag with the cursor past it (none when the template ends). -/
def readFlags (cursor : Cursor) : Flags × Option (Char × Cursor) :=
  let rec go (fuel : Nat) (flags : Flags) (cursor : Cursor) : Flags × Option (Char × Cursor) :=
    match fuel with
    | 0 => (flags, none)
    | fuel + 1 =>
        match cursor.next? with
        | some (c, after) =>
            match flags.add c with
            | some more => go fuel more after
            | none => (flags, some (c, after))
        | none => (flags, none)
  go (cursor.rest.length + 1) {} cursor

/-- The width of a conversion, from its first character after the flags:
digits, or `*` (which takes the argument; a negative one pads on the right).
Returns the flags, the width, and the next character with the cursor past it. -/
def readWidth (argument : Int) (flags : Flags) :
    Option (Char × Cursor) → Except Fault (Flags × Option Nat × Option (Char × Cursor))
  | some ('*', after) => do
      let after ← after.take
      let flags := if argument < 0 then { flags with left := true } else flags
      pure (flags, some argument.natAbs, after.next?)
  | some (c, after) =>
      if c.isDigit then do
        let (value, next) ← readNumber (digitValue c) widthBound ⟨"ValueError", "width too big"⟩ after
        pure (flags, some value, next)
      else pure (flags, none, some (c, after))
  | none => pure (flags, none, none)

/-- The precision of a conversion, from the character after its width: `.`
then digits or `*` (a negative argument counts as 0); a `.` alone is 0.
Returns the precision and the next character with the cursor past it. -/
def readPrecision (argument : Int) :
    Option (Char × Cursor) → Except Fault (Option Nat × Option (Char × Cursor))
  | some ('.', after) =>
      match after.next? with
      | some ('*', afterStar) => do
          let afterStar ← afterStar.take
          pure (some argument.toNat, afterStar.next?)
      | some (c, afterDigit) =>
          if c.isDigit then do
            let (value, next) ←
              readNumber (digitValue c) precisionBound ⟨"ValueError", "precision too big"⟩ afterDigit
            pure (some value, next)
          else pure (some 0, some (c, afterDigit))
      | none => pure (some 0, none)
  | other => pure (none, other)

/-- Read a conversion after its `%` (the cursor is at the character after
it): its spec and the cursor past its letter.  A `*` may take the argument. -/
def readSpec (argument : Int) (cursor : Cursor) : Except Fault (Spec × Cursor) := do
  let (flags, current) := readFlags cursor
  let (flags, width, current) ← readWidth argument flags current
  let (precision, current) ← readPrecision argument current
  let current :=
    match current with
    | some (c, after) => if c == 'h' || c == 'l' || c == 'L' then after.next? else some (c, after)
    | none => none
  match current with
  | some (letter, after) => pure (⟨flags, width, precision, letter, after.position - 1⟩, after)
  | none => throw incomplete

/-- The digits of a natural number in a base from 2 to 16, in lower case. -/
def digitsIn (base : Nat) (n : Nat) : String :=
  String.ofList (Nat.toDigits base n)

/-- The text of an integer conversion: sign, alternate prefix, and the digits
padded with zeros to the precision. -/
def integerText (spec : Spec) (n : Int) : String :=
  let base := if spec.letter == 'o' then 8 else if spec.letter == 'x' || spec.letter == 'X' then 16 else 10
  let digits := digitsIn base n.natAbs
  let padded := String.ofList (List.replicate (spec.precision.getD 0 - digits.length) '0') ++ digits
  let marker :=
    if spec.flags.alternate then
      if spec.letter == 'o' then "0o" else if spec.letter == 'x' then "0x"
      else if spec.letter == 'X' then "0X" else ""
    else ""
  let text := (if n < 0 then "-" else "") ++ marker ++ padded
  if spec.letter == 'X' then String.ofList (text.toList.map Char.toUpper) else text

/-- The decimal digits of a natural number. -/
def decimal (n : Nat) : List Char := Nat.toDigits 10 n

/-- A positive natural number rounded to `keep` significant digits (at least
one), half to even: exactly `keep` digits `d₁d₂…` and the exponent `E` with
the number close to `d₁.d₂… · 10^E`. -/
def roundSignificant (n : Nat) (keep : Nat) : List Char × Nat :=
  let digits := decimal n
  if digits.length ≤ keep then (digits ++ List.replicate (keep - digits.length) '0', digits.length - 1)
  else
    let unit := Nat.pow 10 (digits.length - keep)
    let quotient := n / unit
    let remainder := n % unit
    let up := 2 * remainder > unit || (2 * remainder == unit && quotient % 2 == 1)
    let rounded := decimal (if up then quotient + 1 else quotient)
    if rounded.length > keep then (rounded.take keep, digits.length) else (rounded, digits.length - 1)

/-- The exponent part of scientific notation: the letter, a sign, at least two digits. -/
def exponentText (letter : Char) (exponent : Nat) : String :=
  let digits := decimal exponent
  String.singleton letter ++ "+" ++ String.ofList (List.replicate (2 - digits.length) '0' ++ digits)

/-- A natural number in scientific notation with `places` digits after the
point; the point stays without digits after it in the alternate form. -/
def scientific (n : Nat) (places : Nat) (letter : Char) (alternate : Bool) : String :=
  let (kept, exponent) := if n == 0 then (List.replicate (places + 1) '0', 0) else roundSignificant n (places + 1)
  String.ofList (kept.take 1) ++ (if places > 0 || alternate then "." else "") ++
    String.ofList (kept.drop 1) ++ exponentText letter exponent

/-- A natural number in fixed notation with `places` zeros after the point. -/
def fixed (n : Nat) (places : Nat) (alternate : Bool) : String :=
  String.ofList (decimal n) ++ (if places > 0 || alternate then "." else "") ++
    String.ofList (List.replicate places '0')

/-- The digits of a general conversion without trailing zeros after the point
(and without the point when nothing follows it). -/
def trimZeros (text : String) : String :=
  let (mantissa, exponent) := (text.toList.takeWhile (fun c => c != 'e' && c != 'E'),
    text.toList.dropWhile (fun c => c != 'e' && c != 'E'))
  if mantissa.contains '.' then
    let trimmed := (mantissa.reverse.dropWhile (· == '0')).reverse
    let trimmed := if trimmed.getLast? == some '.' then trimmed.dropLast else trimmed
    String.ofList (trimmed ++ exponent)
  else text

/-- The text of a double conversion of a natural number: scientific, fixed,
or general (scientific when the exponent after rounding to the precision is
at least the precision, trailing zeros dropped unless in the alternate form). -/
def doubleText (letter : Char) (precision : Nat) (alternate : Bool) (n : Nat) : String :=
  match letter with
  | 'e' | 'E' => scientific n precision letter alternate
  | 'f' | 'F' => fixed n precision alternate
  | _ =>
      let significant := if precision == 0 then 1 else precision
      let exponentLetter := if letter == 'G' then 'E' else 'e'
      let exponent := if n == 0 then 0 else (roundSignificant n significant).2
      let text :=
        if exponent ≥ significant then scientific n (significant - 1) exponentLetter alternate
        else fixed n (significant - 1 - exponent) alternate
      if alternate then text else trimZeros text

/-- The body of a conversion of `argument`, and whether it is a number (which
takes a sign and zero padding); or the fault of an unknown letter. -/
def body (spec : Spec) (argument : Int) : Except Fault (String × Bool) :=
  match spec.letter with
  | 's' | 'r' | 'a' =>
      let text := toString argument
      .ok (match spec.precision with
        | some cut => String.ofList (text.toList.take cut)
        | none => text, false)
  | 'd' | 'i' | 'u' | 'o' | 'x' | 'X' =>
      if spec.precision.getD 0 > precisionBound - 3 then .error ⟨"OverflowError", "precision too large"⟩
      else .ok (integerText spec argument, true)
  | 'e' | 'E' | 'f' | 'F' | 'g' | 'G' =>
      let text := doubleText spec.letter (spec.precision.getD 6) spec.flags.alternate argument.natAbs
      .ok ((if argument < 0 then "-" else "") ++ text, true)
  | 'c' =>
      if argument < 0 || argument > 0x10FFFF then .error ⟨"OverflowError", "%c arg not in range(0x110000)"⟩
      else .ok (String.singleton (Char.ofNat argument.toNat), false)
  | letter =>
      let shown := if 31 ≤ letter.toNat && letter.toNat ≤ 126 then letter else '?'
      .error ⟨"ValueError", "unsupported format character '" ++ String.singleton shown ++ "' (0x" ++
        String.ofList (Nat.toDigits 16 letter.toNat) ++ ") at index " ++ toString spec.position⟩

/-- A converted body placed in its width: the sign (given, or from the `+` and
space flags for a number) and the alternate prefix stay in front of zero
padding. -/
def place (spec : Spec) (text : String) (numeric : Bool) : String :=
  let chars := text.toList
  let (sign, digits) :=
    if numeric then
      match chars with
      | '-' :: rest => ("-", rest)
      | '+' :: rest => ("+", rest)
      | _ => (if spec.flags.plus then "+" else if spec.flags.blank then " " else "", chars)
    else ("", chars)
  let hasMarker := numeric && spec.flags.alternate &&
    (spec.letter == 'o' || spec.letter == 'x' || spec.letter == 'X')
  let (marker, digits) := if hasMarker then (digits.take 2, digits.drop 2) else ([], digits)
  let width := spec.width.getD 0
  let used := sign.length + marker.length + digits.length
  let gap := width - used
  if spec.flags.left then
    sign ++ String.ofList marker ++ String.ofList digits ++ String.ofList (List.replicate gap ' ')
  else if numeric && spec.flags.zero then
    sign ++ String.ofList marker ++ String.ofList (List.replicate gap '0') ++ String.ofList digits
  else String.ofList (List.replicate gap ' ') ++ sign ++ String.ofList marker ++ String.ofList digits

/-- Fill a template with one integer argument. -/
def fill (template : String) (argument : Int) : Except Fault String :=
  let rec go (fuel : Nat) (cursor : Cursor) (out : String) : Except Fault String :=
    match fuel with
    | 0 => .ok out
    | fuel + 1 =>
        match cursor.next? with
        | none =>
            if cursor.taken then .ok out
            else .error ⟨"TypeError", "not all arguments converted during string formatting"⟩
        | some ('%', after) =>
            match after.next? with
            | some ('%', afterPercent) => go fuel afterPercent (out.push '%')
            | some ('(', _) => .error ⟨"TypeError", "format requires a mapping"⟩
            | _ =>
                match readSpec argument after with
                | .error fault => .error fault
                | .ok (spec, next) =>
                    match next.take with
                    | .error fault => .error fault
                    | .ok next =>
                        match body spec argument with
                        | .error fault => .error fault
                        | .ok (text, numeric) => go fuel next (out ++ place spec text numeric)
        | some (c, after) => go fuel after (out.push c)
  go (template.length + 1) ⟨template.toList, 0, false⟩ ""

end Conversion

end LoadHarness
