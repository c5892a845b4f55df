import LoadHarness.Value.Basic
import LoadHarness.Number.Layout

/-!
# Writing JSON text

`Value.toJson` writes a datum as compact JSON: no blanks, object fields in their
order, strings with the two-character escapes `\" \\ \b \f \n \r \t`, other
control characters as `\u00xx` and everything else raw.  How a double is
written is the caller's choice (`FloatStyle.wire` for documents the harness
sends).
-/

namespace LoadHarness

namespace Json

/-- Four lowercase hexadecimal digits of a code below `0x10000`. -/
def hex4 (code : Nat) : String :=
  let digit (d : Nat) : Char := if d < 10 then Char.ofNat (48 + d) else Char.ofNat (87 + d)
  String.ofList [digit (code / 4096 % 16), digit (code / 256 % 16), digit (code / 16 % 16), digit (code % 16)]

/-- The JSON escape of one character of a string. -/
def escapeChar (c : Char) : String :=
  match c with
  | '"' => "\\\""
  | '\\' => "\\\\"
  | '\n' => "\\n"
  | '\r' => "\\r"
  | '\t' => "\\t"
  | _ =>
      if c.toNat == 8 then "\\b"
      else if c.toNat == 12 then "\\f"
      else if c.toNat < 32 then "\\u" ++ hex4 c.toNat
      else String.singleton c

/-- A string as a JSON string literal. -/
def quote (text : String) : String :=
  "\"" ++ String.join (text.toList.map escapeChar) ++ "\""

mutual

/-- A datum as compact JSON text, doubles written by `number`. -/
def render (number : Float → String) : Value → String
  | .null => "null"
  | .bool truth => if truth then "true" else "false"
  | .int value => toString value
  | .float value => number value
  | .str text => quote text
  | .arr items => "[" ++ renderItems number items ++ "]"
  | .obj fields => "\x7b" ++ renderFields number fields ++ "\x7d"

/-- The items of a list, separated by commas. -/
def renderItems (number : Float → String) : List Value → String
  | [] => ""
  | [item] => render number item
  | item :: rest => render number item ++ "," ++ renderItems number rest

/-- The fields of an object, separated by commas. -/
def renderFields (number : Float → String) : List (String × Value) → String
  | [] => ""
  | [(key, value)] => quote key ++ ":" ++ render number value
  | (key, value) :: rest => quote key ++ ":" ++ render number value ++ "," ++ renderFields number rest

end

end Json

/-- A datum as the compact JSON text the harness sends: doubles in the wire style. -/
def Value.toJson (value : Value) : String :=
  Json.render FloatStyle.wire.render value

end LoadHarness
