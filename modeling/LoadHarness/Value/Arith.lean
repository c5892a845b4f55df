import LoadHarness.Value.Compare

/-!
# Arithmetic on data

Sums and quotients of loose data follow the arithmetic of numbers of mixed
kinds: two whole numbers add exactly; as soon as a double takes part, the
whole number is first turned into the nearest double and the operation is
that of doubles.  Strings and lists add by joining.  A true quotient of two
whole numbers is the double nearest to the exact quotient.

The ways this can fail are `ArithFault`s: operands of kinds the operator does
not take, a whole number too large for a double, and a quotient too large for
a double.
-/

namespace LoadHarness

/-- Why an arithmetic operation on data failed. -/
inductive ArithFault where
  /-- The operator does not take operands of these kinds. -/
  | unsupported (fault : OperandFault)
  /-- A whole number is too large to be turned into a double. -/
  | wholeTooLarge
  /-- The quotient of two whole numbers is too large for a double. -/
  | quotientTooLarge
  /-- Division by zero, of whole numbers or of doubles. -/
  | divisionByZero (doubles : Bool)
  deriving Repr, Inhabited

namespace Number

/-- The double nearest to a whole number, or the fault when it is too large. -/
def wholeToDouble (value : Int) : Except ArithFault Float :=
  let x := Binary.ofInt value
  if Binary.isInfinite x then .error .wholeTooLarge else .ok x

/-- A number as a double. -/
def toDouble : Number → Except ArithFault Float
  | .whole value => wholeToDouble value
  | .double value => .ok value

/-- A number as data. -/
def toValue : Number → Value
  | .whole value => .int value
  | .double value => .float value

/-- The sum of two numbers: exact for whole numbers, a double otherwise. -/
def add : Number → Number → Except ArithFault Number
  | .whole a, .whole b => .ok (.whole (a + b))
  | a, b => do
      let x ← a.toDouble
      let y ← b.toDouble
      pure (.double (x + y))

/-- The true quotient of two numbers, a double. -/
def divide : Number → Number → Except ArithFault Number
  | .whole a, .whole b =>
      if b == 0 then .error (.divisionByZero false)
      else
        let q := Binary.ofQuotient a b
        if Binary.isInfinite q then .error .quotientTooLarge else .ok (.double q)
  | a, b => do
      let x ← a.toDouble
      let y ← b.toDouble
      if y == 0.0 then .error (.divisionByZero true) else pure (.double (x / y))

end Number

namespace Value

/-- `a + b` on data. -/
def add (a b : Value) : Except ArithFault Value :=
  match a, b with
  | .str x, .str y => .ok (.str (x ++ y))
  | .arr x, .arr y => .ok (.arr (x ++ y))
  | _, _ =>
      match a.number?, b.number? with
      | some x, some y => (x.add y).map Number.toValue
      | _, _ => .error (.unsupported ⟨"+", a.kindName, b.kindName⟩)

/-- The sum of a list of data, added left to right starting from the integer zero. -/
def sum (items : List Value) : Except ArithFault Value :=
  items.foldlM add (.int 0)

/-- `a / b` on data: the true quotient. -/
def divide (a b : Value) : Except ArithFault Value :=
  match a.number?, b.number? with
  | some x, some y => (x.divide y).map Number.toValue
  | _, _ => .error (.unsupported ⟨"/", a.kindName, b.kindName⟩)

end Value

end LoadHarness
