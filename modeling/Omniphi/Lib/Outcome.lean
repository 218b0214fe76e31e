import Mathlib

/-! Computations that may fail, one after the other. -/

namespace Outcome

variable {ε α β : Type} {first : Except ε α} {a : α} {b : β}

theorem bind_ok (ran : first = .ok a) (next : α → Except ε β) : (first >>= next) = next a := by
  rw [ran]
  rfl

theorem bind_error {error : ε} (failed : first = .error error) (next : α → Except ε β) :
    (first >>= next) = .error error := by
  rw [failed]
  rfl

/-- What has returned did so at the first step and from there. -/
theorem of_bind_ok {next : α → Except ε β} (ran : (first >>= next) = .ok b) :
    ∃ a, first = .ok a ∧ next a = .ok b := by
  cases first with
  | error error => cases ran
  | ok a => exact ⟨a, rfl, ran⟩

theorem guard_ok {refused : Prop} [Decidable refused] {error : ε} :
    (if refused then .error error else first) = .ok a ↔ ¬ refused ∧ first = .ok a := by
  by_cases stops : refused
  · rw [if_pos stops]
    exact iff_of_false (by rintro ⟨⟩) fun passes => passes.1 stops
  · rw [if_neg stops]
    exact (and_iff_right stops).symm

end Outcome
