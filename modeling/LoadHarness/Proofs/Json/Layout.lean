import Mathlib
import LoadHarness.Json.Write
import LoadHarness.Proofs.Float.Written

/-!
# The layout of written JSON

What `Value.toJson` writes, as lists of characters: a string literal is a quote, the escapes of
its characters and a quote (`toList_quote`), and an object is its members, each a key literal, a
colon and a value, separated by commas (`toList_renderFields_single`, `toList_renderFields_cons`).

The records the readers are shown to read back are objects whose keys are distinct and whose
values are scalars of the wire (`Value.WireScalar`): strings, positive finite doubles and `null`,
which is what a double that is not finite is written as (`writtenDouble`).
-/

namespace LoadHarness

/-- The values that a JSON document writes as a scalar read back by both readers: strings,
positive finite doubles, and `null`. -/
def Value.WireScalar : Value → Prop
  | .str _ => True
  | .float x => Binary.isFinite x = true ∧ (0.0 : Float) < x
  | .null => True
  | _ => False

theorem FloatStyle.wire_render_of_not_finite {x : Float} (notFinite : Binary.isFinite x = false) :
    FloatStyle.wire.render x = "null" := by
  unfold Binary.isFinite at notFinite
  unfold FloatStyle.render
  split
  · rfl
  · rename_i negative shape
    cases negative <;> rfl
  · rename_i value shape
    rw [shape] at notFinite
    cases notFinite

namespace Json

/-- The datum the JSON text of a double reads back as: the double when it is finite, otherwise
`null`, which is what it is written as. -/
def writtenDouble (x : Float) : Value := if Binary.isFinite x = true then .float x else .null

theorem render_writtenDouble (x : Float) :
    render FloatStyle.wire.render (writtenDouble x) = render FloatStyle.wire.render (.float x) := by
  unfold writtenDouble
  split
  · rfl
  · rename_i notFinite
    simp only [render]
    rw [FloatStyle.wire_render_of_not_finite (by simpa using notFinite)]

/-- The characters a string literal writes for the characters of a string. -/
def escapes (cs : List Char) : List Char := cs.flatMap fun c => (escapeChar c).toList

theorem toList_quote (text : String) : (quote text).toList = '"' :: escapes text.toList ++ ['"'] := by
  simp [quote, escapes, List.flatMap_map]

theorem escapes_cons (c : Char) (cs : List Char) :
    escapes (c :: cs) = (escapeChar c).toList ++ escapes cs := by
  simp [escapes]

theorem length_le_escapes (cs : List Char) : cs.length ≤ (escapes cs).length := by
  induction cs with
  | nil => simp [escapes]
  | cons c cs ih =>
    have written : (escapeChar c).toList ≠ [] := by
      unfold escapeChar
      split <;> simp
      split_ifs <;> simp
    rw [escapes_cons, List.length_append, List.length_cons]
    have := List.length_pos_iff.mpr written
    omega

/-- Fields with distinct keys whose values are all wire scalars. -/
structure WireFields (fields : List (String × Value)) : Prop where
  keys_nodup : (fields.map Prod.fst).Nodup
  scalars : ∀ field ∈ fields, field.2.WireScalar

theorem toList_renderFields_single (key : String) (value : Value) :
    (renderFields FloatStyle.wire.render [(key, value)]).toList =
      (quote key).toList ++ ':' :: (Json.render FloatStyle.wire.render value).toList := by
  simp [renderFields]

theorem toList_renderFields_cons (key : String) (value : Value) (field : String × Value)
    (fields : List (String × Value)) :
    (renderFields FloatStyle.wire.render ((key, value) :: field :: fields)).toList =
      (quote key).toList ++ ':' :: (Json.render FloatStyle.wire.render value).toList ++
        ',' :: (renderFields FloatStyle.wire.render (field :: fields)).toList := by
  simp [renderFields]

theorem toList_toJson_obj (fields : List (String × Value)) :
    (Value.obj fields).toJson.toList =
      '{' :: ((renderFields FloatStyle.wire.render fields).toList ++ ['}']) := by
  simp [Value.toJson, render]

theorem length_le_renderFields (fields : List (String × Value)) :
    fields.length ≤ (renderFields FloatStyle.wire.render fields).toList.length := by
  induction fields with
  | nil => simp
  | cons field tail ih =>
    obtain ⟨key, value⟩ := field
    cases tail with
    | nil => simp [toList_renderFields_single, toList_quote]
    | cons next tail =>
      rw [toList_renderFields_cons]
      simp only [List.length_cons, List.length_append] at ih ⊢
      omega

end Json

end LoadHarness
