import LoadHarness.Order.Key

/-!
# The parts of an idempotency key

A key of two whole numbers is their decimal digits joined by a dash.  Digits
are never a dash, so the dash that joins them is the first one, and the
digits on each side read back as the number they came from.  Hence a key of
two whole numbers determines both numbers: two callers, or two submissions of
one caller, never share a key.
-/

namespace LoadHarness

namespace KeyParts

theorem toDigits_injective {a b : Nat} (same : Nat.toDigits 10 a = Nat.toDigits 10 b) :
    a = b := by
  rw [← Nat.ofDigitChars_ten_toDigits (n := a), ← Nat.ofDigitChars_ten_toDigits (n := b), same]

theorem dash_not_mem_toDigits (n : Nat) : '-' ∉ Nat.toDigits 10 n := by
  intro member
  simpa using Nat.isDigit_of_mem_toDigits (by decide) (by decide) member

/-- Two lists joined by a separator that neither left part holds split back
into their parts. -/
theorem split_at_separator {separator : Char} :
    ∀ {left left' right right' : List Char}, separator ∉ left → separator ∉ left' →
      left ++ separator :: right = left' ++ separator :: right' →
        left = left' ∧ right = right'
  | [], [], _, _, _, _, same => by simpa using same
  | [], head :: _, _, _, _, absent', same => by
      simp only [List.nil_append, List.cons_append, List.cons.injEq] at same
      exact absurd (same.1 ▸ List.mem_cons_self) absent'
  | head :: _, [], _, _, absent, _, same => by
      simp only [List.nil_append, List.cons_append, List.cons.injEq] at same
      exact absurd (same.1 ▸ List.mem_cons_self) absent
  | head :: tail, head' :: tail', _, _, absent, absent', same => by
      simp only [List.cons_append, List.cons.injEq] at same
      obtain ⟨heads, rest⟩ := same
      have parts := split_at_separator (List.not_mem_of_not_mem_cons absent)
        (List.not_mem_of_not_mem_cons absent') rest
      exact ⟨by rw [heads, parts.1], parts.2⟩

theorem text_natCast (n : Nat) : (Value.int n).text.toList = Nat.toDigits 10 n := by
  simp [Value.text, Value.repr, Int.repr]

end KeyParts

open KeyParts in
/-- A key of two whole numbers determines both of them. -/
theorem idempotencyKey_natCast_inj {caller sequence caller' sequence' : Nat}
    (same : idempotencyKey (.int caller) (.int sequence) =
      idempotencyKey (.int caller') (.int sequence')) :
    caller = caller' ∧ sequence = sequence' := by
  have characters := congrArg String.toList same
  simp only [idempotencyKey, String.toList_append, text_natCast] at characters
  have parts := split_at_separator (dash_not_mem_toDigits caller)
    (dash_not_mem_toDigits caller') (by simpa using characters)
  exact ⟨toDigits_injective parts.1, toDigits_injective parts.2⟩

end LoadHarness
