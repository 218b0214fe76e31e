import Omniphi.Sdk

/-! Decimals of 18 places: what rounding and truncation leave as it is, and the bounds they keep. -/

namespace Omniphi.LegacyDec

section Rounding

theorem chop_nonneg {d : Int} (nonneg : 0 ≤ d) : 0 ≤ chopPrecisionAndRound d := by
  rw [chopPrecisionAndRound, if_neg (Int.not_lt.2 nonneg)]
  exact Int.natCast_nonneg _

theorem chop_whole (n : Int) : chopPrecisionAndRound (n * precisionReuse) = n := by
  have exactly (m : Nat) : chopPrecisionAndRoundNat (m * 10 ^ 18) = m := by
    simp [chopPrecisionAndRoundNat]
  have size : (n * precisionReuse).natAbs = n.natAbs * 10 ^ 18 := Int.natAbs_mul _ _
  unfold chopPrecisionAndRound
  rw [size, exactly]
  unfold precisionReuse
  split <;> omega

theorem chop_le {d : Int} (nonneg : 0 ≤ d) (small : d ≤ 10 ^ 36) : chopPrecisionAndRound d ≤ 10 ^ 18 := by
  unfold chopPrecisionAndRound chopPrecisionAndRoundNat
  rw [if_neg (Int.not_lt.2 nonneg)]
  dsimp only
  split
  · omega
  · split
    · omega
    · split <;> omega

theorem le_chop {d : Int} (great : 10 ^ 36 ≤ d) : 10 ^ 18 ≤ chopPrecisionAndRound d := by
  unfold chopPrecisionAndRound chopPrecisionAndRoundNat
  rw [if_neg (by omega)]
  dsimp only
  split
  · omega
  · split
    · omega
    · split <;> omega

/-- Rounding is off by at most half a place. -/
theorem chop_error (d : Int) :
    d - 5 * 10 ^ 17 ≤ chopPrecisionAndRound d * 10 ^ 18 ∧ chopPrecisionAndRound d * 10 ^ 18 ≤ d + 5 * 10 ^ 17 := by
  have places (m : Nat) : (m : Int) - 5 * 10 ^ 17 ≤ (chopPrecisionAndRoundNat m : Int) * 10 ^ 18 ∧
      (chopPrecisionAndRoundNat m : Int) * 10 ^ 18 ≤ m + 5 * 10 ^ 17 := by
    unfold chopPrecisionAndRoundNat
    dsimp only
    split
    · omega
    · split
      · omega
      · split <;> omega
  have size := places d.natAbs
  unfold chopPrecisionAndRound
  split <;> omega

theorem chop_mono {a b : Int} (le : a ≤ b) : chopPrecisionAndRound a ≤ chopPrecisionAndRound b := by
  rcases eq_or_lt_of_le le with rfl | less
  · exact le_refl _
  · have above := (chop_error a).2
    have below := (chop_error b).1
    omega

theorem chop_le_whole {d k : Int} (le : d ≤ k * 10 ^ 18) : chopPrecisionAndRound d ≤ k := by
  have above := (chop_error d).2
  omega

end Rounding

section Products

theorem nonneg_mul {a b : LegacyDec} (left : 0 ≤ a) (right : 0 ≤ b) : 0 ≤ mul a b :=
  chop_nonneg (Int.mul_nonneg left right)

/-- Rounding changes nothing of a product with a whole number. -/
theorem mul_ofInt (a : LegacyDec) (n : Int) : mul a (ofInt n) = mulInt a n := by
  rw [mul, ofInt, ← Int.mul_assoc, chop_whole]
  rfl

theorem ofInt_mul (n : Int) (a : LegacyDec) : mul (ofInt n) a = mulInt a n := by
  rw [mul, Int.mul_comm]
  exact mul_ofInt a n

theorem truncateInt_ofInt (n : Int) : truncateInt (ofInt n) = n := Int.mul_tdiv_cancel n (by decide)

/-- The decimals from zero to one. -/
def InUnit (d : LegacyDec) : Prop := 0 ≤ d ∧ d ≤ precisionReuse

theorem InUnit.mul {a b : LegacyDec} (left : InUnit a) (right : InUnit b) : InUnit (LegacyDec.mul a b) :=
  ⟨nonneg_mul left.1 right.1,
    chop_le (Int.mul_nonneg left.1 right.1) (Int.mul_le_mul left.2 right.2 right.1 (by decide))⟩

/-- A part of a whole number, rounded down. -/
theorem InUnit.truncateInt {d : LegacyDec} (unit : InUnit d) {n : Int} (nonneg : 0 ≤ n) :
    0 ≤ LegacyDec.truncateInt (mulInt d n) ∧ LegacyDec.truncateInt (mulInt d n) ≤ n := by
  have product : 0 ≤ mulInt d n := Int.mul_nonneg unit.1 nonneg
  refine ⟨Int.tdiv_nonneg product (by decide), ?_⟩
  rw [LegacyDec.truncateInt, Int.tdiv_eq_ediv_of_nonneg product]
  refine Int.ediv_le_of_le_mul (by decide) ?_
  rw [Int.mul_comm n]
  exact Int.mul_le_mul_of_nonneg_right unit.2 nonneg

end Products

end Omniphi.LegacyDec
