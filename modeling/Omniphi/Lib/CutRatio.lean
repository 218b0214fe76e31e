import Mathlib

/-! Scaled ratios `scale * amount / target`, cut to numbers below a modulus. Where the target is below the
scale the cut ratio falls back to less than the scale while the amount grows. -/

namespace CutRatio

variable {scale modulus target : Nat}

def ratio (scale modulus target amount : Nat) : Nat := scale * amount / target % modulus

theorem ratio_of_scale_le (covers : scale ≤ target) {amount : Nat} (small : amount < modulus) :
    ratio scale modulus target amount = scale * amount / target := by
  have below : scale * amount / target ≤ amount :=
    Nat.div_le_of_le_mul (Nat.mul_le_mul_right amount covers)
  exact Nat.mod_eq_of_lt (below.trans_lt small)

theorem ratio_mono (covers : scale ≤ target) {amount more : Nat} (le : amount ≤ more) (small : more < modulus) :
    ratio scale modulus target amount ≤ ratio scale modulus target more := by
  rw [ratio_of_scale_le covers (le.trans_lt small), ratio_of_scale_le covers small]
  exact Nat.div_le_div_right (Nat.mul_le_mul_left scale le)

/-- Just after a multiple of the modulus the cut ratio is small. -/
theorem ratio_after (positive : 0 < target) (fits : scale ≤ modulus) {turn amount : Nat}
    (reached : turn * (modulus * target) ≤ scale * amount)
    (near : scale * amount < turn * (modulus * target) + scale) : ratio scale modulus target amount < scale := by
  have above : turn * modulus ≤ scale * amount / target := by
    rw [Nat.le_div_iff_mul_le positive, Nat.mul_assoc]
    exact reached
  have below : scale * amount / target < turn * modulus + scale := by
    rw [Nat.div_lt_iff_lt_mul positive, Nat.add_mul, Nat.mul_assoc]
    exact near.trans_le (Nat.add_le_add_left (Nat.le_mul_of_pos_right scale positive) _)
  obtain ⟨rest, split⟩ := Nat.exists_eq_add_of_le above
  rw [ratio, split, Nat.mul_comm, Nat.mul_add_mod, Nat.mod_eq_of_lt (by omega)]
  omega

/-- The turns that an amount below the modulus has made when the ratio is cut. -/
def turns (scale modulus target amount : Nat) : Nat := scale * amount / target / modulus

theorem turns_mul_le (positive : 0 < target) (inside : 0 < modulus) {amount turn : Nat}
    (turned : turn ≤ turns scale modulus target amount) : turn * (modulus * target) ≤ scale * amount := by
  rw [turns, Nat.le_div_iff_mul_le inside, Nat.le_div_iff_mul_le positive, Nat.mul_assoc] at turned
  exact turned

theorem lt_turns_mul (positive : 0 < target) (inside : 0 < modulus) {amount turn : Nat}
    (short : turns scale modulus target amount < turn) : scale * amount < turn * (modulus * target) := by
  rw [turns, Nat.div_lt_iff_lt_mul inside, Nat.div_lt_iff_lt_mul positive, Nat.mul_assoc] at short
  exact short

theorem fall_later (positive : 0 < target) (some : 0 < scale) (fits : scale ≤ modulus) {amount : Nat}
    (turning : turns scale modulus target amount < turns scale modulus target (modulus - 1)) :
    ∃ later, amount ≤ later ∧ later < modulus ∧ ratio scale modulus target later < scale := by
  have inside := some.trans_le fits
  have reach := turns_mul_le positive inside turning
  have short := lt_turns_mul positive inside (Nat.lt_succ_self (turns scale modulus target amount))
  generalize bound : (turns scale modulus target amount).succ * (modulus * target) = goal at reach short
  -- The least amount whose ratio has made the next turn.
  let later := (goal + scale - 1) / scale
  have low : goal ≤ scale * later := by
    have rounded := Nat.div_add_mod (goal + scale - 1) scale
    have rest := Nat.mod_lt (goal + scale - 1) some
    show goal ≤ scale * ((goal + scale - 1) / scale)
    omega
  have high : scale * later < goal + scale := (Nat.mul_div_le (goal + scale - 1) scale).trans_lt (by omega)
  refine ⟨later, ?_, ?_, ratio_after positive fits (bound ▸ low) (bound ▸ high)⟩
  · exact (Nat.lt_of_mul_lt_mul_left (short.trans_le low)).le
  · have total : scale * (modulus - 1) + scale = scale * modulus := by
      rw [← Nat.mul_succ, Nat.succ_eq_add_one, Nat.sub_add_cancel inside]
    exact Nat.lt_of_mul_lt_mul_left (high.trans_le ((Nat.add_le_add_right reach scale).trans_eq total))

/-- In the last turn the ratio stays further from the modulus than in the first. -/
theorem last_turn_le (positive : 0 < target) (fits : scale ≤ modulus) (some : 0 < scale) {amount : Nat}
    (small : amount < modulus)
    (last : turns scale modulus target (modulus - 1) ≤ turns scale modulus target amount) :
    target * ratio scale modulus target amount + scale ≤ modulus * target := by
  have inside := some.trans_le fits
  have short := lt_turns_mul positive inside (Nat.lt_succ_of_le last)
  have total : scale * (modulus - 1) + scale = scale * modulus := by
    rw [← Nat.mul_succ, Nat.succ_eq_add_one, Nat.sub_add_cancel inside]
  have covered : scale * modulus ≤ target * (turns scale modulus target amount + 1) * modulus := by
    by_contra above
    have less : target * (turns scale modulus target amount + 1) + 1 ≤ scale :=
      Nat.lt_of_mul_lt_mul_right (Nat.not_le.1 above)
    have product := Nat.mul_le_mul_right modulus less
    rw [Nat.add_mul, Nat.one_mul] at product
    have same : (turns scale modulus target amount).succ * (modulus * target) =
        target * (turns scale modulus target amount + 1) * modulus := by
      rw [Nat.succ_eq_add_one]
      ring
    omega
  have whole : target * (scale * amount / target) ≤ scale * amount := Nat.mul_div_le _ _
  have most : scale * amount ≤ scale * (modulus - 1) := Nat.mul_le_mul_left scale (Nat.le_sub_one_of_lt small)
  have split : target * (scale * amount / target) =
      target * turns scale modulus target amount * modulus + target * ratio scale modulus target amount := by
    conv_lhs => rw [← Nat.div_add_mod (scale * amount / target) modulus]
    rw [turns, ratio]
    ring
  have parts : target * (turns scale modulus target amount + 1) * modulus =
      target * turns scale modulus target amount * modulus + modulus * target := by ring
  omega

theorem fall_first (positive : 0 < target) (below : target < scale) (fits : scale ≤ modulus) {amount : Nat}
    (small : amount < modulus)
    (last : turns scale modulus target (modulus - 1) ≤ turns scale modulus target amount) :
    ∃ first, first + 1 < modulus ∧
      ratio scale modulus target amount ≤ ratio scale modulus target first ∧
      ratio scale modulus target (first + 1) < scale := by
  have some := positive.trans below
  have inside := some.trans_le fits
  have product : 0 < modulus * target := Nat.mul_pos inside positive
  have low := last_turn_le positive fits some small last
  -- The last amount whose ratio is below the modulus.
  let first := (modulus * target - 1) / scale
  have under : scale * first < modulus * target :=
    (Nat.mul_div_le (modulus * target - 1) scale).trans_lt (by omega)
  have next : modulus * target ≤ scale * (first + 1) := by
    have rounded := Nat.div_add_mod (modulus * target - 1) scale
    have rest := Nat.mod_lt (modulus * target - 1) some
    rw [Nat.mul_succ]
    show _ ≤ scale * ((modulus * target - 1) / scale) + scale
    omega
  refine ⟨first, ?_, ?_, ?_⟩
  · have room : modulus * target + modulus ≤ scale * modulus := by
      rw [← Nat.mul_succ, Nat.mul_comm scale]
      exact Nat.mul_le_mul_left modulus below
    apply Nat.lt_of_mul_lt_mul_left (a := scale)
    rw [Nat.mul_succ]
    omega
  · have uncut : ratio scale modulus target first = scale * first / target :=
      Nat.mod_eq_of_lt ((Nat.div_lt_iff_lt_mul positive).2 under)
    rw [uncut, Nat.le_div_iff_mul_le positive, Nat.mul_comm]
    rw [Nat.mul_succ] at next
    omega
  · refine @ratio_after scale modulus target positive fits 1 (first + 1) ?_ ?_
    · rwa [Nat.one_mul]
    · rw [Nat.mul_succ, Nat.one_mul]
      omega

/-- Every ratio is reached, or passed, before a small one. -/
theorem exists_fall (positive : 0 < target) (below : target < scale) (fits : scale ≤ modulus) {amount : Nat}
    (small : amount < modulus) :
    ∃ before after, before ≤ after ∧ after < modulus ∧
      ratio scale modulus target amount ≤ ratio scale modulus target before ∧
      ratio scale modulus target after < scale := by
  by_cases turning : turns scale modulus target amount < turns scale modulus target (modulus - 1)
  · obtain ⟨later, after, inside, falls⟩ := fall_later positive (positive.trans below) fits turning
    exact ⟨amount, later, after, inside, le_rfl, falls⟩
  · obtain ⟨first, inside, reached, falls⟩ := fall_first positive below fits small (Nat.not_lt.1 turning)
    exact ⟨first, first + 1, Nat.le_succ first, inside, reached, falls⟩

end CutRatio
