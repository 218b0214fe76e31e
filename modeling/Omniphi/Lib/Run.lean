import Mathlib

/-! Runs of a deterministic transition system, given as the list of actions taken. -/

namespace Run

variable {σ α : Type*} (step : σ → α → σ)

/-- Every action of the run meets `P` in the state it is taken in. -/
def Along (P : σ → α → Prop) : σ → List α → Prop
  | _, [] => True
  | s, a :: rest => P s a ∧ Along P (step s a) rest

instance Along.decidable (P : σ → α → Prop) [∀ s a, Decidable (P s a)] :
    ∀ s run, Decidable (Along step P s run)
  | _, [] => instDecidableTrue
  | s, a :: rest =>
      have := Along.decidable P (step s a) rest
      inferInstanceAs (Decidable (P s a ∧ Along step P (step s a) rest))

variable {step} {P Q : σ → α → Prop} {Inv : σ → Prop}

theorem along_append (s : σ) (run rest : List α) :
    Along step P s (run ++ rest) ↔ Along step P s run ∧ Along step P (run.foldl step s) rest := by
  induction run generalizing s with
  | nil => simp [Along]
  | cons a run ih => simp [Along, ih, and_assoc]

theorem along_of_forall (always : ∀ s a, P s a) (s : σ) (run : List α) : Along step P s run := by
  induction run generalizing s with
  | nil => trivial
  | cons a run ih => exact ⟨always s a, ih (step s a)⟩

theorem invariant (preserved : ∀ s a, Inv s → P s a → Inv (step s a)) {s : σ} (start : Inv s)
    {run : List α} (admissible : Along step P s run) : Inv (run.foldl step s) := by
  induction run generalizing s with
  | nil => exact start
  | cons a run ih => exact ih (preserved s a start admissible.1) admissible.2

theorem along_of_invariant (preserved : ∀ s a, Inv s → P s a → Inv (step s a))
    (gives : ∀ s a, Inv s → P s a → Q s a) {s : σ} (start : Inv s) {run : List α}
    (admissible : Along step P s run) : Along step Q s run := by
  induction run generalizing s with
  | nil => trivial
  | cons a run ih =>
      exact ⟨gives s a start admissible.1, ih (preserved s a start admissible.1) admissible.2⟩

theorem along_congr (same : ∀ s a, Inv s → (P s a ↔ Q s a))
    (preserved : ∀ s a, Inv s → P s a → Inv (step s a)) {s : σ} (start : Inv s) (run : List α) :
    Along step P s run ↔ Along step Q s run := by
  induction run generalizing s with
  | nil => rfl
  | cons a run ih =>
      constructor
      · rintro ⟨here, rest⟩
        exact ⟨(same s a start).1 here, (ih (preserved s a start here)).1 rest⟩
      · rintro ⟨here, rest⟩
        have here := (same s a start).2 here
        exact ⟨here, (ih (preserved s a start here)).2 rest⟩

end Run
