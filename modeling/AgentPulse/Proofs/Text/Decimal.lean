import AgentPulse.Text.Decimal

/-!
# Decimal digits read back

The digits of a number are read back as the number (`value_digits`), and no number but zero starts
with a zero (`eq_nil_of_leading_zero`).
-/

namespace AgentPulse.Text.Decimal

theorem isDigit_of_mem_digits {n : Nat} {c : Char} (h : c ∈ digits n) : c.isDigit = true :=
  Nat.isDigit_of_mem_toDigits (by decide) (by decide) h

theorem digits_ne_nil (n : Nat) : digits n ≠ [] := Nat.toDigits_ne_nil

theorem value_digits (n : Nat) : value (digits n) = n := by
  have h := Nat.ofDigitChars_ten_toDigits (n := n)
  rw [Nat.ofDigitChars_eq_foldl] at h
  exact h

/-- A number starts like its tenth part, if it has one. -/
theorem head?_digits {n : Nat} (h : 10 ≤ n) : (digits n).head? = (digits (n / 10)).head? := by
  rw [digits, Nat.toDigits_of_base_le (by decide) h, ← digits, List.head?_append]
  cases hhead : (digits (n / 10)).head? with
  | none => exact absurd (List.head?_eq_none_iff.mp hhead) (digits_ne_nil _)
  | some c => rfl

theorem head?_digits_ne_zero {n : Nat} (h : 0 < n) : (digits n).head? ≠ some '0' := by
  induction n using Nat.strongRecOn with
  | _ n ih =>
    rcases Nat.lt_or_ge n 10 with hlt | hge
    · have hdigit : ∀ d < 10, 0 < d → Nat.digitChar d ≠ '0' := by decide
      rw [digits, Nat.toDigits_of_lt_base hlt]
      exact fun e => hdigit n hlt h (Option.some.inj e)
    · rw [head?_digits hge]
      exact ih (n / 10) (Nat.div_lt_self h (by decide)) (Nat.div_pos hge (by decide))

/-- Only zero starts with a zero, and it has no other digit. -/
theorem eq_nil_of_leading_zero {n : Nat} {ds : List Char} (h : digits n = '0' :: ds) : ds = [] := by
  rcases Nat.eq_zero_or_pos n with rfl | hpos
  · rw [digits, Nat.toDigits_zero] at h
    exact (List.cons.inj h).2.symm
  · exact absurd (congrArg List.head? h) (head?_digits_ne_zero hpos)

/-- An integer is written as its digits, behind a minus if it is negative. -/
theorem toList_ofInt (n : Int) :
    (ofInt n).toList = (if n < 0 then ['-'] else []) ++ digits n.natAbs := by
  cases n with
  | ofNat n => simp [ofInt, ofNat, Int.not_lt.mpr (Int.natCast_nonneg n)]
  | negSucc n => simp [ofInt, ofNat, Int.negSucc_lt_zero n]

end AgentPulse.Text.Decimal
