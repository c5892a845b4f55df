import LoadHarness.Value.Show

/-!
# Encoding text as ASCII

Header values travel as ASCII bytes.  A text with a character outside ASCII
cannot be encoded, and the refusal names the first run of such characters by
their positions in the text: the single character itself when the run has
one, otherwise the first and last position of the run.
-/

namespace LoadHarness

namespace Ascii

/-- Why a text cannot be encoded as ASCII: the first run of characters outside
ASCII and the position where it starts. -/
structure EncodeFault where
  start : Nat
  run : List Char
  deriving Inhabited

/-- The first run of characters outside ASCII in a text, if there is one. -/
def fault? (text : String) : Option EncodeFault :=
  let chars := text.toList
  let lead := chars.takeWhile fun c => c.toNat < 0x80
  match (chars.drop lead.length).takeWhile fun c => c.toNat ≥ 0x80 with
  | [] => none
  | run => some ⟨lead.length, run⟩

/-- The message of the refusal. -/
def EncodeFault.message (fault : EncodeFault) : String :=
  let reason := ": ordinal not in range(128)"
  match fault.run with
  | [c] =>
      "'ascii' codec can't encode character '" ++ Quoted.codeEscape c.toNat ++ "' in position " ++
        toString fault.start ++ reason
  | run =>
      "'ascii' codec can't encode characters in position " ++ toString fault.start ++ "-" ++
        toString (fault.start + run.length - 1) ++ reason

/-- A text with ASCII letters in lower case. -/
def lower (text : String) : String := String.ofList (text.toList.map Char.toLower)

end Ascii

end LoadHarness
