import LoadHarness.Value.Basic
import LoadHarness.Number.Layout
import LoadHarness.Text.Printable

/-!
# The text of a datum

Messages quote data in two ways.  `Value.repr` is the quoted form: strings in
quotes with escapes, lists as `[a, b]`, objects as `{'k': v}`, truth values as
`True` and `False`, null as `None`, doubles in the plain style.  `Value.text`
is the bare form, which differs only for strings: their text as it is.

A quoted string takes single quotes, or double quotes when it holds a single
quote and no double quote.  Inside, the backslash and the chosen quote are
escaped, tab, line feed and carriage return have their two-character escapes,
and other characters that are not printable become `\xhh`, `\uhhhh` or
`\Uhhhhhhhh` by the size of their code.
-/

namespace LoadHarness

namespace Quoted

/-- The code written as `width` lowercase hexadecimal digits. -/
def hexPadded (width code : Nat) : String :=
  let digits := Nat.toDigits 16 code
  String.ofList (List.replicate (width - digits.length) '0' ++ digits)

/-- The escape of a character that is not printable. -/
def codeEscape (code : Nat) : String :=
  if code < 0x100 then "\\x" ++ hexPadded 2 code
  else if code < 0x10000 then "\\u" ++ hexPadded 4 code
  else "\\U" ++ hexPadded 8 code

/-- One character of a quoted string delimited by `quote`. -/
def escapeChar (quote : Char) (c : Char) : String :=
  if c == quote || c == '\\' then String.ofList ['\\', c]
  else if c == '\t' then "\\t"
  else if c == '\n' then "\\n"
  else if c == '\r' then "\\r"
  else if Printable.isPrintable c then String.singleton c
  else codeEscape c.toNat

/-- The quote that delimits a string: double only when the text has a single
quote and no double quote. -/
def delimiter (text : String) : Char :=
  if text.contains '\x27' && !text.contains '"' then '"' else '\x27'

/-- A string in quotes, escaped. -/
def quote (text : String) : String :=
  let mark := delimiter text
  String.singleton mark ++ String.join (text.toList.map (escapeChar mark)) ++ String.singleton mark

end Quoted

namespace Value

/-- The text of a double in messages. -/
def floatText (x : Float) : String := FloatStyle.plain.render x

/-- The text of a truth value in messages. -/
def boolText (truth : Bool) : String := if truth then "True" else "False"

mutual

/-- The quoted text of a datum. -/
def repr : Value → String
  | .null => "None"
  | .bool truth => boolText truth
  | .int number => toString number
  | .float number => floatText number
  | .str text => Quoted.quote text
  | .arr items => "[" ++ reprItems items ++ "]"
  | .obj fields => "\x7b" ++ reprFields fields ++ "\x7d"

/-- Items separated by `, `. -/
def reprItems : List Value → String
  | [] => ""
  | [item] => repr item
  | item :: rest => repr item ++ ", " ++ reprItems rest

/-- Key–value pairs separated by `, `. -/
def reprFields : List (String × Value) → String
  | [] => ""
  | [(key, value)] => Quoted.quote key ++ ": " ++ repr value
  | (key, value) :: rest => Quoted.quote key ++ ": " ++ repr value ++ ", " ++ reprFields rest

end

/-- The bare text of a datum: a string as it is, anything else quoted. -/
def text : Value → String
  | .str content => content
  | value => value.repr

end Value

end LoadHarness
