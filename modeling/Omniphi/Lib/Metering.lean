import Mathlib

/-! A counter with a limit and a capacity. A charge that fits the capacity is recorded before the limit is
looked at; one that does not leaves the counter as it is. Both refuse what comes after. -/

namespace Metering

/-- What the charges leave on the counter, and whether one of them was refused. -/
def spend (limit capacity : ℕ) : ℕ → List ℕ → ℕ × Bool
  | total, [] => (total, false)
  | total, charge :: charges =>
      if capacity ≤ total + charge then (total, true)
      else if limit < total + charge then (total + charge, true)
      else spend limit capacity (total + charge) charges

variable {limit capacity total : ℕ} {charges : List ℕ}

theorem spend_append (rest : List ℕ) :
    spend limit capacity total (charges ++ rest) =
      if (spend limit capacity total charges).2 then spend limit capacity total charges
      else spend limit capacity (spend limit capacity total charges).1 rest := by
  induction charges generalizing total with
  | nil => rfl
  | cons charge charges ih =>
      simp only [List.cons_append, spend]
      split
      · rfl
      · split
        · rfl
        · exact ih

theorem spend_lt (start : total < capacity) : (spend limit capacity total charges).1 < capacity := by
  induction charges generalizing total with
  | nil => exact start
  | cons charge charges ih =>
      rw [spend]
      split
      · exact start
      · split
        · omega
        · exact ih (by omega)

theorem spend_of_covered (fits : limit < capacity) (covered : total + charges.sum ≤ limit) :
    spend limit capacity total charges = (total + charges.sum, false) := by
  induction charges generalizing total with
  | nil => rfl
  | cons charge charges ih =>
      rw [List.sum_cons] at covered ⊢
      rw [spend, if_neg (by omega), if_neg (by omega), ih (by omega), Nat.add_assoc]

theorem refused_of_exceeded (within : total ≤ limit) (exceeded : limit < total + charges.sum) :
    (spend limit capacity total charges).2 = true := by
  induction charges generalizing total with
  | nil => exact absurd exceeded (Nat.not_lt.2 within)
  | cons charge charges ih =>
      rw [List.sum_cons] at exceeded
      rw [spend]
      split
      · rfl
      · split
        · rfl
        · exact ih (by omega) (by omega)

/-- A charge is refused exactly if the charges together exceed the limit. -/
theorem refused_iff (fits : limit < capacity) (within : total ≤ limit) :
    (spend limit capacity total charges).2 = true ↔ limit < total + charges.sum := by
  refine ⟨fun refused => ?_, refused_of_exceeded within⟩
  by_contra covered
  rw [spend_of_covered fits (Nat.not_lt.1 covered)] at refused
  cases refused

/-- The counter stays within the limit exactly if no part of the charges passes the limit and fits the
capacity. -/
theorem spent_le_iff (within : total ≤ limit) :
    (spend limit capacity total charges).1 ≤ limit ↔
      ∀ before, before <+: charges → total + before.sum ≤ limit ∨ capacity ≤ total + before.sum := by
  induction charges generalizing total with
  | nil =>
      refine ⟨fun _ before short => ?_, fun _ => within⟩
      rw [List.prefix_nil.1 short]
      exact .inl within
  | cons charge charges ih =>
      have first : [charge] <+: charge :: charges := ⟨charges, rfl⟩
      rw [spend]
      split
      · rename_i above
        refine ⟨fun _ before short => ?_, fun _ => within⟩
        rcases List.prefix_cons_iff.1 short with rfl | ⟨rest, rfl, -⟩
        · exact .inl within
        · rw [List.sum_cons]
          exact .inr (by omega)
      · rename_i fits
        split
        · rename_i exceeded
          refine ⟨fun covered => absurd covered (Nat.not_le.2 exceeded), fun all => ?_⟩
          rcases all _ first with covered | above
          · exact covered
          · exact absurd above fits
        · rename_i covered
          rw [ih (Nat.not_lt.1 covered)]
          constructor
          · intro all before short
            rcases List.prefix_cons_iff.1 short with rfl | ⟨rest, rfl, inner⟩
            · exact .inl within
            · rw [List.sum_cons, ← Nat.add_assoc]
              exact all rest inner
          · intro all rest short
            have longer := all (charge :: rest) ((List.prefix_cons_inj charge).2 short)
            rwa [List.sum_cons, ← Nat.add_assoc] at longer

end Metering
