import Mathlib

/-! Saturating and checked arithmetic on fixed-width unsigned integers, with the value each
operation has as a natural number. -/

namespace MachineInt

variable {w : Nat}

def saturatingAdd (a b : BitVec w) : BitVec w :=
  if a.toNat + b.toNat < 2 ^ w then a + b else BitVec.allOnes w

def saturatingSub (a b : BitVec w) : BitVec w :=
  if b.toNat ≤ a.toNat then a - b else 0

def saturatingMul (a b : BitVec w) : BitVec w :=
  if a.toNat * b.toNat < 2 ^ w then a * b else BitVec.allOnes w

def checkedAdd (a b : BitVec w) : Option (BitVec w) :=
  if a.toNat + b.toNat < 2 ^ w then some (a + b) else none

def checkedSub (a b : BitVec w) : Option (BitVec w) :=
  if b.toNat ≤ a.toNat then some (a - b) else none

def least (a b : BitVec w) : BitVec w :=
  if a ≤ b then a else b

@[simp] theorem toNat_saturatingAdd (a b : BitVec w) :
    (saturatingAdd a b).toNat = min (a.toNat + b.toNat) (2 ^ w - 1) := by
  unfold saturatingAdd
  split
  · rename_i fits
    rw [BitVec.toNat_add, Nat.mod_eq_of_lt fits]
    omega
  · rw [BitVec.toNat_allOnes]
    omega

@[simp] theorem toNat_saturatingSub (a b : BitVec w) :
    (saturatingSub a b).toNat = a.toNat - b.toNat := by
  unfold saturatingSub
  split
  · rename_i covers
    exact BitVec.toNat_sub_of_le (BitVec.le_def.mpr covers)
  · rename_i short
    simp only [BitVec.ofNat_eq_ofNat, BitVec.toNat_ofNat, Nat.zero_mod]
    omega

@[simp] theorem toNat_least (a b : BitVec w) : (least a b).toNat = min a.toNat b.toNat := by
  unfold least
  split
  · rename_i below
    exact (Nat.min_eq_left (BitVec.le_def.mp below)).symm
  · rename_i above
    exact (Nat.min_eq_right (Nat.le_of_not_le fun le => above (BitVec.le_def.mpr le))).symm

theorem checkedSub_eq_some {a b c : BitVec w} :
    checkedSub a b = some c ↔ b.toNat ≤ a.toNat ∧ c.toNat = a.toNat - b.toNat := by
  unfold checkedSub
  split
  · rename_i covers
    rw [Option.some.injEq, ← BitVec.toNat_inj, BitVec.toNat_sub_of_le (BitVec.le_def.mpr covers)]
    exact ⟨fun same => ⟨covers, same.symm⟩, fun same => same.2.symm⟩
  · rename_i short
    simp [short]

theorem checkedSub_eq_none {a b : BitVec w} : checkedSub a b = none ↔ a.toNat < b.toNat := by
  unfold checkedSub
  split <;> simp <;> omega

end MachineInt
