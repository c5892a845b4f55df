import LoadHarness.Validation.Lax

/-!
# Reading records from objects

A record schema reads its fields from the keys of an object.  A field is
looked up under its key, or under a second key the schema also accepts for it
when the first is absent; whichever key supplied the field is where its issue
is reported.  Every key of the object that supplied no field is surplus and
refused.

`FieldRead` is the outcome of reading one field: its value, or the one issue
found there.  A schema reads all its fields, collects their issues in field
order followed by the surplus keys in the object's order, and builds the
record only when there are none.
-/

namespace LoadHarness

/-- The keys a field is read from: its own, and possibly a second key accepted
in its place. -/
structure FieldKey where
  primary : String
  secondary : Option String := none
  deriving Inhabited

namespace FieldKey

/-- The key and value that supply the field: the primary key if present,
otherwise the secondary one. -/
def find (key : FieldKey) (fields : List (String × Value)) : Option (String × Value) :=
  match Value.lookup fields key.primary with
  | some value => some (key.primary, value)
  | none =>
      match key.secondary with
      | some other => (Value.lookup fields other).map fun value => (other, value)
      | none => none

/-- A field known by one key. -/
def plain (name : String) : FieldKey := ⟨name, none⟩

end FieldKey

/-- The outcome of reading one field. -/
abbrev FieldRead (α : Type) := Except Issue α

namespace FieldRead

/-- The issue of a field, if reading it failed. -/
def issue? {α : Type} : FieldRead α → Option Issue
  | .error issue => some issue
  | .ok _ => none

/-- A required field: refused as missing (with the whole object as input)
when absent, otherwise read by `read`. -/
def required {α : Type} (object : Value) (fields : List (String × Value)) (key : FieldKey)
    (read : Value → Except Problem α) : FieldRead α :=
  match key.find fields with
  | none => .error ⟨.missing, [.key key.primary], object⟩
  | some (name, value) =>
      match read value with
      | .ok result => .ok result
      | .error problem => .error ⟨problem, [.key name], value⟩

/-- A field with a default: the default when absent, otherwise read by `read`. -/
def withDefault {α : Type} (fields : List (String × Value)) (key : FieldKey) (fallback : α)
    (read : Value → Except Problem α) : FieldRead α :=
  match key.find fields with
  | none => .ok fallback
  | some (name, value) =>
      match read value with
      | .ok result => .ok result
      | .error problem => .error ⟨problem, [.key name], value⟩

end FieldRead

/-- The surplus keys of an object: those that supplied none of the schema's
fields, each refused, in the object's order. -/
def surplusIssues (fields : List (String × Value)) (keys : List FieldKey) : List Issue :=
  let used := keys.filterMap fun key => (key.find fields).map Prod.fst
  fields.filterMap fun (name, value) =>
    if used.contains name then none else some ⟨.extraForbidden, [.key name], value⟩

/-- The fields of an object, or the rejection of an input that is not one;
`notObject` says how such an input is reported. -/
def objectFields (title : String) (notObject : Problem) (input : Value) :
    Except Rejection (List (String × Value)) :=
  match input with
  | .obj fields => .ok fields
  | _ => .error ⟨title, [⟨notObject, [], input⟩]⟩

end LoadHarness
