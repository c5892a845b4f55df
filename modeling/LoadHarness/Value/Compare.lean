import LoadHarness.Value.Basic
import LoadHarness.Number.Binary

/-!
# Comparing data

Loose data compares the way dynamically typed arithmetic does:

* truth values, integers and doubles are numbers and compare by their exact
  values, so `1 == 1.0`, `True == 1`, and `2 ^ 53 + 1 > 2.0 ^ 53`; a NaN is
  neither smaller, equal nor larger than anything;
* strings compare by code points, lexicographically;
* lists compare lexicographically: at the first position where the items are
  not equal, those items decide, and when one list is a prefix of the other the
  shorter one is smaller;
* every other pair can be tested for equality (objects by their keys and
  values, null only equals null) but not ordered: ordering them is an
  `OperandFault`.

`Value.truthy` is the truth of a datum in a condition: zero, empty and null
are false.
-/

namespace LoadHarness

/-- A binary operator applied to operands of kinds it does not accept. -/
structure OperandFault where
  /-- The operator, such as `<` or `+`. -/
  symbol : String
  /-- The kind of the left operand. -/
  left : String
  /-- The kind of the right operand. -/
  right : String
  deriving Repr, Inhabited, BEq

/-- The order relations that can be asked of two data. -/
inductive Relation where
  | less
  | lessEqual
  | greater
  | greaterEqual
  deriving Repr, Inhabited, BEq, DecidableEq

namespace Relation

/-- The operator that writes the relation. -/
def symbol : Relation → String
  | .less => "<"
  | .lessEqual => "<="
  | .greater => ">"
  | .greaterEqual => ">="

/-- Whether an ordering satisfies the relation. -/
def holds : Relation → Ordering → Bool
  | .less, o => o == .lt
  | .lessEqual, o => o != .gt
  | .greater, o => o == .gt
  | .greaterEqual, o => o != .lt

end Relation

/-- A number among loose data: a whole number (integers and truth values) or a double. -/
inductive Number where
  | whole (value : Int)
  | double (value : Float)
  deriving Inhabited

namespace Number

/-- The exact order of two numbers; `none` when one is not a number (NaN). -/
def order : Number → Number → Option Ordering
  | .whole a, .whole b => some (compare a b)
  | .whole a, .double y => Binary.compareIntFloat a y
  | .double x, .whole b => (Binary.compareIntFloat b x).map Ordering.swap
  | .double x, .double y =>
      if x < y then some .lt else if y < x then some .gt else if x == y then some .eq else none

end Number

namespace Value

/-- The number a datum stands for, if it is one. -/
def number? : Value → Option Number
  | .bool truth => some (.whole (if truth then 1 else 0))
  | .int value => some (.whole value)
  | .float value => some (.double value)
  | _ => none

/-- The lexicographic order of two lists of characters by code point. -/
def charsOrder : List Char → List Char → Ordering
  | [], [] => .eq
  | [], _ :: _ => .lt
  | _ :: _, [] => .gt
  | a :: rest, b :: others =>
      if a.toNat < b.toNat then .lt
      else if b.toNat < a.toNat then .gt
      else charsOrder rest others

/-- The order of two strings by code points. -/
def textOrder (a b : String) : Ordering := charsOrder a.toList b.toList

mutual

/-- Whether two data are equal. -/
def equals : Value → Value → Bool
  | .null, .null => true
  | .str a, .str b => a == b
  | .arr a, .arr b => itemsEqual a b
  | .obj a, .obj b => a.length == b.length && fieldsWithin a b
  | a, b =>
      match a.number?, b.number? with
      | some x, some y => x.order y == some .eq
      | _, _ => false

/-- Whether two lists have equal items at every position and equal lengths. -/
def itemsEqual : List Value → List Value → Bool
  | [], [] => true
  | a :: rest, b :: others => equals a b && itemsEqual rest others
  | _, _ => false

/-- Whether every field of the first object has an equal value in the second. -/
def fieldsWithin : List (String × Value) → List (String × Value) → Bool
  | [], _ => true
  | (key, value) :: rest, other =>
      (match lookup other key with
        | some found => equals value found
        | none => false) && fieldsWithin rest other

end

mutual

/-- Whether `relation` holds between two data, or why they cannot be ordered. -/
def relate (relation : Relation) : Value → Value → Except OperandFault Bool
  | .str a, .str b => .ok (relation.holds (textOrder a b))
  | .arr a, .arr b => relateItems relation a b
  | a, b =>
      match a.number?, b.number? with
      | some x, some y =>
          .ok (match x.order y with
            | some o => relation.holds o
            | none => false)
      | _, _ => .error ⟨relation.symbol, a.kindName, b.kindName⟩

/-- `relation` between two lists: decided by their first unequal items, or by
their lengths. -/
def relateItems (relation : Relation) : List Value → List Value → Except OperandFault Bool
  | a :: rest, b :: others =>
      if equals a b then relateItems relation rest others else relate relation a b
  | a, b => .ok (relation.holds (compare a.length b.length))

end

/-- Whether `a < b`, or why the two cannot be ordered. -/
def less (a b : Value) : Except OperandFault Bool := relate .less a b

/-- The truth of a datum in a condition: false for null, false, zero, the
empty string, list and object. -/
def truthy : Value → Bool
  | .null => false
  | .bool truth => truth
  | .int value => value != 0
  | .float value => !(value == 0.0)
  | .str text => !text.isEmpty
  | .arr items => !items.isEmpty
  | .obj fields => !fields.isEmpty

end Value

end LoadHarness
