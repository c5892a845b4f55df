/-!
# Loose data

The harness receives its parameters as loose, dynamically typed data: the
records of a JSON document, where a number written without a point or an
exponent is an integer of any size and every other number is a double.
`Value` is that data.  Objects keep their keys in the order they were written,
because validation reports surplus keys in that order.

The module also fixes the names of the kinds of data, which appear in the
texts of type errors.
-/

namespace LoadHarness

/-- A loose datum: null, a truth value, an integer of any size, a double, a
string, a list, or an object whose keys keep their written order. -/
inductive Value where
  | null
  | bool (truth : Bool)
  | int (number : Int)
  | float (number : Float)
  | str (text : String)
  | arr (items : List Value)
  | obj (fields : List (String × Value))
  deriving Inhabited

namespace Value

/-- The name of the kind of a datum, as type errors print it. -/
def kindName : Value → String
  | .null => "NoneType"
  | .bool _ => "bool"
  | .int _ => "int"
  | .float _ => "float"
  | .str _ => "str"
  | .arr _ => "list"
  | .obj _ => "dict"

/-- The value stored under `key` in an object: the first field with that key. -/
def lookup (fields : List (String × Value)) (key : String) : Option Value :=
  (fields.find? (fun field => field.1 == key)).map Prod.snd

/-- The field `key` of a datum when it is an object that has it. -/
def field? (value : Value) (key : String) : Option Value :=
  match value with
  | .obj fields => lookup fields key
  | _ => none

/-- Whether an object has the key `key`. -/
def hasKey (value : Value) (key : String) : Bool :=
  (value.field? key).isSome

/-- The text of a datum when it is a string. -/
def str? : Value → Option String
  | .str text => some text
  | _ => none

/-- The items of a datum when it is a list. -/
def arr? : Value → Option (List Value)
  | .arr items => some items
  | _ => none

/-- A whole number, when the datum is an integer (a truth value counts as 0 or 1). -/
def int? : Value → Option Int
  | .int number => some number
  | .bool truth => some (if truth then 1 else 0)
  | _ => none

/-- A list of strings as data. -/
def ofStrings (texts : List String) : Value :=
  .arr (texts.map .str)

/-- An optional string as data: absent is null. -/
def ofOptionString : Option String → Value
  | some text => .str text
  | none => .null

/-- An optional integer as data: absent is null. -/
def ofOptionInt : Option Int → Value
  | some number => .int number
  | none => .null

end Value

end LoadHarness
