import AgentPulse.Double.Shortest
import AgentPulse.Proofs.Text.Decimal
import Mathlib.Tactic.Ring
import Mathlib.Algebra.Order.Ring.Nat

/-!
# Whole numbers as doubles

A natural number below `2 ^ 53` is a double (`ofNat?_of_lt`), and written with no exponent the
double is the number in decimal again (`render_ofWhole`). The digits come from the coarsest power of
ten on which there is a point that reads back as the double: on a grid of whole numbers only the
number itself does (`onGrid_eq_some`), so the grid is one on which the number lies, and the zeros
that it leaves off are put back when the number is laid out.
-/

namespace AgentPulse

/-! ## Zeros at the end -/

namespace Text.Decimal

theorem digits_mul_ten {n : Nat} (h : 0 < n) : digits (n * 10) = digits n ++ ['0'] := by
  have happend := Nat.toDigits_append_toDigits (b := 10) (n := n) (d := 0) (by decide) h (by decide)
  rw [Nat.mul_comm] at happend
  exact happend.symm

theorem digits_mul_pow {n : Nat} (h : 0 < n) (j : Nat) :
    digits (n * 10 ^ j) = digits n ++ List.replicate j '0' := by
  induction j with
  | zero => rw [Nat.pow_zero, Nat.mul_one, List.replicate_zero, List.append_nil]
  | succ j ih =>
    rw [Nat.pow_succ, ← Nat.mul_assoc, digits_mul_ten (Nat.mul_pos h (Nat.pow_pos (by decide))), ih,
      List.append_assoc, List.replicate_succ']

end Text.Decimal

namespace Double

open Text.Decimal (digits)

theorem power_neg (b s : Nat) : power b (-(s : Int)) = (1, b ^ s) := by
  cases s <;> rfl

/-! ## The double of a whole number -/

/-- The double of a whole number, its significand shifted to full length. -/
def ofWhole (n s : Nat) : Double := ⟨false, n * 2 ^ s, -(s : Int)⟩

variable {n s : Nat}

theorem fraction_ofWhole : (ofWhole n s).fraction = (n * 2 ^ s, 2 ^ s) := by
  rw [fraction, ofWhole]
  dsimp only
  rw [power_neg, Nat.mul_one]

theorem exponentOf_whole (h : 0 < n) (hlt : n < 2 ^ 53) :
    exponentOf n 1 = -((52 - n.log2 : Nat) : Int) := by
  have hlog : n.log2 < 53 := (Nat.log2_lt (Nat.ne_of_gt h)).mpr hlt
  have hle : ¬ n * 1 < 1 * 2 ^ n.log2 := by
    rw [Nat.mul_one, Nat.one_mul]
    exact Nat.not_lt.mpr (Nat.log2_self_le (Nat.ne_of_gt h))
  have hexponent : (n.log2 : Int) - (Nat.log2 1 : Int) = (n.log2 : Int) := Int.sub_zero _
  have hpower : power 2 (n.log2 : Int) = (2 ^ n.log2, 1) := rfl
  rw [exponentOf]
  dsimp only
  rw [hexponent, hpower]
  dsimp only
  rw [if_neg hle, minExponent]
  omega

/-- Every natural number below `2 ^ 53` is a double. -/
theorem ofNat?_of_lt (h : 0 < n) (hlt : n < 2 ^ 53) :
    ofNat? n = some (ofWhole n (52 - n.log2)) := by
  have hsignificand : n * 2 ^ (52 - n.log2) < 2 ^ 53 := by
    have hlog : n.log2 < 53 := (Nat.log2_lt (Nat.ne_of_gt h)).mpr hlt
    have hpow : 2 ^ (n.log2 + 1) * 2 ^ (52 - n.log2) = 2 ^ 53 := by
      rw [← Nat.pow_add]
      congr 1
      omega
    rw [← hpow]
    exact Nat.mul_lt_mul_of_pos_right Nat.lt_log2_self (Nat.pow_pos (by decide))
  have hround : ∀ m, roundQuotient m (1 * 1) = m := fun m => by
    simp [roundQuotient, Nat.mod_one]
  have hlimit : significandLimit = 2 ^ 53 := by decide
  rw [ofNat?, ofFraction, if_neg (Nat.ne_of_gt h)]
  dsimp only
  rw [exponentOf_whole h hlt, power_neg]
  dsimp only
  rw [hround, hlimit, if_neg (Nat.ne_of_lt hsignificand)]
  have hmax : -((52 - n.log2 : Nat) : Int) ≤ maxExponent := by
    rw [maxExponent]
    omega
  exact if_pos hmax

/-! ## Grids of whole numbers -/

/-- On a grid of whole numbers no other number is as near to the double as the double's own. -/
theorem readsBack_ofWhole (h : 0 < n) (k x : Nat) :
    (ofWhole n s).readsBack (n * 2 ^ s) (2 ^ s * 10 ^ k) x = true ↔ x * 10 ^ k = n := by
  have hpow : 0 < 2 ^ s := Nat.pow_pos (by decide)
  have hpos : 0 < n * 2 ^ s := Nat.mul_pos h hpow
  have hhere : 4 * (n * 2 ^ s) * (2 ^ s * 10 ^ k) * x
      = n * 2 ^ s * (4 * (2 ^ s * (x * 10 ^ k))) := by ring
  have hsame : 2 ^ s * (x * 10 ^ k) = n * 2 ^ s ↔ x * 10 ^ k = n := by
    rw [Nat.mul_comm n]
    exact Nat.mul_right_inj (Nat.ne_of_gt hpow)
  rw [readsBack, ofWhole]
  dsimp only
  rw [hhere, ← hsame]
  generalize hbelow : (if n * 2 ^ s = significandLimit / 2 ∧ minExponent < -(s : Int) then 1 else 2)
    = below
  have hrange : 1 ≤ below ∧ below ≤ 2 := by
    rw [← hbelow]
    split <;> decide
  -- The bounds lie less than a step of the grid away from the double.
  generalize 2 ^ s * (x * 10 ^ k) = a
  generalize n * 2 ^ s = b at hpos
  split
  · rw [Bool.and_eq_true, decide_eq_true_iff, decide_eq_true_iff, Nat.mul_le_mul_left_iff hpos,
      Nat.mul_le_mul_left_iff hpos]
    omega
  · rw [Bool.and_eq_true, decide_eq_true_iff, decide_eq_true_iff, Nat.mul_lt_mul_left hpos,
      Nat.mul_lt_mul_left hpos]
    omega

/-- A grid of whole numbers has a point for the double if the number lies on it. -/
theorem onGrid_eq_some (h : 0 < n) {k x : Nat} :
    (ofWhole n s).onGrid k = some x ↔ x * 10 ^ k = n := by
  have hpow : 0 < 10 ^ k := Nat.pow_pos (by decide)
  have hpoint : n * 2 ^ s * 1 / (2 ^ s * 10 ^ k) = n / 10 ^ k := by
    rw [Nat.mul_one, Nat.mul_comm n, Nat.mul_div_mul_left _ _ (Nat.pow_pos (by decide))]
  have hnext : ((ofWhole n s).readsBack (n * 2 ^ s) (2 ^ s * 10 ^ k) (n / 10 ^ k + 1)) = false := by
    rw [← Bool.not_eq_true, readsBack_ofWhole h, Nat.add_mul, Nat.one_mul, Nat.mul_comm]
    exact Nat.ne_of_gt (Nat.lt_mul_div_succ n hpow)
  have hpower : power 10 (k : Int) = (10 ^ k, 1) := rfl
  rw [onGrid, fraction_ofWhole]
  dsimp only
  rw [hpower]
  dsimp only
  rw [hpoint, Nat.mul_one, hnext]
  have hunique : x * 10 ^ k = n → n / 10 ^ k = x := fun e => by
    rw [← e, Nat.mul_div_cancel _ hpow]
  cases hback : (ofWhole n s).readsBack (n * 2 ^ s) (2 ^ s * 10 ^ k) (n / 10 ^ k) with
  | true =>
    show some (n / 10 ^ k) = some x ↔ _
    rw [Option.some.injEq]
    exact ⟨fun e => e ▸ (readsBack_ofWhole h k _).mp hback, hunique⟩
  | false =>
    refine ⟨nofun, fun e => ?_⟩
    rw [hunique e, (readsBack_ofWhole h k x).mpr e] at hback
    cases hback

/-! ## The digits -/

theorem dropZeros_mul_pow (fuel : Nat) (h : 0 < n) :
    ∃ j, dropZeros fuel n * 10 ^ j = n ∧ 0 < dropZeros fuel n := by
  induction fuel generalizing n with
  | zero => exact ⟨0, Nat.mul_one _, h⟩
  | succ fuel ih =>
    rw [dropZeros]
    split
    next hzero =>
      have hten : n / 10 * 10 = n := by omega
      obtain ⟨j, hj, hpos⟩ := ih (n := n / 10) (by omega)
      exact ⟨j + 1, by rw [Nat.pow_succ, ← Nat.mul_assoc, hj, hten], hpos⟩
    next => exact ⟨0, Nat.mul_one _, h⟩

theorem length_digits_le (hlt : n < 2 ^ 53) : (digits n).length ≤ maxDigits :=
  (Nat.length_toDigits_le_iff (by decide) (by decide)).mpr (Nat.lt_trans hlt (by decide))

theorem decimalExponent_ofWhole (h : 0 < n) :
    decimalExponent (n * 2 ^ s) (2 ^ s) = ((digits n).length : Int) - 1 := by
  have hpow : 0 < 2 ^ s := Nat.pow_pos (by decide)
  rw [decimalExponent, if_pos (Nat.le_mul_of_pos_left _ h), Nat.mul_div_cancel _ hpow]
  rfl

/-- Of the grids that are tried one has a point, at the latest the grid of all whole numbers. -/
theorem exists_onGrid (h : 0 < n) (hlt : n < 2 ^ 53) :
    ∃ k x : Nat, x * 10 ^ k = n ∧
      ((List.range maxDigits).findSome? fun (i : Nat) =>
        ((ofWhole n s).onGrid (((digits n).length : Int) - 1 - i)).map
          fun x => (x, ((digits n).length : Int) - 1 - i)) = some (x, (k : Int)) := by
  have hlength : 0 < (digits n).length := List.length_pos_iff.mpr (Text.Decimal.digits_ne_nil n)
  have hmax := length_digits_le hlt
  generalize (digits n).length = len at hlength hmax
  generalize hpoint : (fun (i : Nat) => ((ofWhole n s).onGrid ((len : Int) - 1 - i)).map
    fun x => (x, (len : Int) - 1 - i)) = point
  have hgrid : ∀ i < len, point i = ((ofWhole n s).onGrid ((len - 1 - i : Nat) : Int)).map
      fun x => (x, ((len - 1 - i : Nat) : Int)) := fun i hi => by
    rw [← hpoint]
    dsimp only
    rw [show (len : Int) - 1 - i = ((len - 1 - i : Nat) : Int) by omega]
  -- The grids of whole numbers are tried before all others, and the last of them has every number.
  have hrange : List.range maxDigits
      = List.range len ++ (List.range (maxDigits - len)).map (len + ·) := by
    rw [← List.range_add, Nat.add_sub_cancel' hmax]
  have hsome : ((List.range len).findSome? point).isSome := by
    refine List.findSome?_isSome_iff.mpr ⟨len - 1, List.mem_range.mpr (by omega), ?_⟩
    rw [hgrid _ (by omega), Nat.sub_self, (onGrid_eq_some h).mpr (Nat.mul_one n)]
    rfl
  obtain ⟨found, hfound⟩ := Option.isSome_iff_exists.mp hsome
  obtain ⟨i, hi, hfirst⟩ := List.exists_of_findSome?_eq_some hfound
  rw [hgrid i (List.mem_range.mp hi)] at hfirst
  obtain ⟨x, hx, rfl⟩ := Option.map_eq_some_iff.mp hfirst
  exact ⟨_, x, (onGrid_eq_some h).mp hx, by rw [hrange, List.findSome?_append, hfound]; rfl⟩

/-- The digits of the double, and the zeros that the number has after them. -/
theorem shortest_ofWhole (h : 0 < n) (hlt : n < 2 ^ 53) :
    (ofWhole n s).shortest.exponent = ((digits n).length : Int) - 1 ∧
    ∃ j, digits n
      = digits (ofWhole n s).shortest.significand ++ List.replicate j '0' := by
  obtain ⟨k, x, hx, hfound⟩ := exists_onGrid (s := s) h hlt
  have hpos : 0 < x := Nat.pos_of_ne_zero fun e => by
    rw [e, Nat.zero_mul] at hx
    omega
  obtain ⟨j, hj, hdropped⟩ := dropZeros_mul_pow (maxDigits + 1) hpos
  have hshortest : (ofWhole n s).shortest
      = ⟨dropZeros (maxDigits + 1) x, (k : Int) + (digits x).length - 1⟩ := by
    rw [shortest, fraction_ofWhole]
    dsimp only
    rw [decimalExponent_ofWhole h, hfound]
    rfl
  rw [hshortest]
  refine ⟨?_, j + k, ?_⟩
  · rw [← hx, Text.Decimal.digits_mul_pow hpos, List.length_append, List.length_replicate]
    dsimp only
    omega
  · rw [← Text.Decimal.digits_mul_pow hdropped, Nat.pow_add, ← Nat.mul_assoc, hj, hx]

theorem plain_whole {ds : List Char} (h : ds ≠ []) (j : Nat) :
    plain false ds (((ds.length + j : Nat) : Int) - 1) = ds ++ List.replicate j '0' := by
  have hpos := List.length_pos_iff.mpr h
  have hwhole : (((ds.length + j : Nat) : Int) - 1).toNat + 1 = ds.length + j := by omega
  have hexponent : ¬ ((ds.length + j : Nat) : Int) - 1 < 0 := by omega
  rw [plain, if_neg hexponent, hwhole, if_pos (Nat.le_add_right _ _), Nat.add_sub_cancel_left]
  exact List.append_nil _

/-- Without an exponent a whole number is written in all its digits. -/
theorem render_ofWhole (h : 0 < n) (hlt : n < 2 ^ 53) {layout : Layout}
    (hfrom : layout.plainFrom ≤ 0) (hbelow : maxDigits ≤ layout.plainBelow)
    (hpoint : layout.pointZero = false) : (ofWhole n s).render layout = digits n := by
  obtain ⟨hexponent, j, hdigits⟩ := shortest_ofWhole (s := s) h hlt
  have hsignificand : (ofWhole n s).significand ≠ 0 :=
    Nat.ne_of_gt (Nat.mul_pos h (Nat.pow_pos (by decide)))
  have hmax := length_digits_le hlt
  have hlength := List.length_pos_iff.mpr (Text.Decimal.digits_ne_nil n)
  have hplain : layout.plainFrom ≤ (ofWhole n s).shortest.exponent ∧
      (ofWhole n s).shortest.exponent < layout.plainBelow := by omega
  rw [hdigits, List.length_append, List.length_replicate] at hexponent
  rw [render, if_neg hsignificand]
  dsimp only
  rw [if_pos hplain, hpoint, hexponent, plain_whole (Text.Decimal.digits_ne_nil _), ← hdigits]
  rfl

end Double

end AgentPulse
