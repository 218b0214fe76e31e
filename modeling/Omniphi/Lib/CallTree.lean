import Mathlib

/-! Calls that call back: what a call of a contract does is what it does on entry, whatever the
calls made while it waits for code outside do, and what it does on return. A failed call leaves
no trace. -/

namespace CallTree

/-- A call, with the calls that are made on the same contract while it waits for code outside. -/
inductive Tree (κ : Type)
  | node (call : κ) (inner : List (Tree κ))

structure Machine (σ κ ε : Type) where
  enter : κ → σ → Except ε σ
  external : κ → Bool
  leave : κ → σ → σ → Except ε σ

variable {σ κ ε : Type} (m : Machine σ κ ε)

mutual

def exec : Tree κ → σ → Except ε σ
  | .node call inner, s =>
    match m.enter call s with
    | .error error => .error error
    | .ok waiting =>
        if m.external call then m.leave call s (execAll inner waiting) else m.leave call s waiting

def execAll : List (Tree κ) → σ → σ
  | [], s => s
  | tree :: trees, s =>
    match exec tree s with
    | .error _ => execAll trees s
    | .ok after => execAll trees after

end

mutual

def Tree.All (P : κ → Prop) : Tree κ → Prop
  | .node call inner => P call ∧ allOf P inner

def allOf (P : κ → Prop) : List (Tree κ) → Prop
  | [] => True
  | tree :: trees => tree.All P ∧ allOf P trees

end

section Runs

theorem execAll_cons (tree : Tree κ) (trees : List (Tree κ)) (s : σ) :
    execAll m (tree :: trees) s = execAll m trees ((exec m tree s).toOption.getD s) := by
  rw [execAll]
  cases exec m tree s <;> rfl

mutual

theorem all_of_forall {P : κ → Prop} (always : ∀ call, P call) : ∀ tree : Tree κ, tree.All P
  | .node call inner => ⟨always call, allOf_of_forall always inner⟩

theorem allOf_of_forall {P : κ → Prop} (always : ∀ call, P call) : ∀ trees : List (Tree κ), allOf P trees
  | [] => trivial
  | tree :: trees => ⟨all_of_forall always tree, allOf_of_forall always trees⟩

end

/-- What every call that does not fail keeps, all the calls of a run keep. -/
theorem execAll_invariant {P : κ → Prop} {Inv : σ → Prop}
    (preserved : ∀ (tree : Tree κ) (s s' : σ), tree.All P → Inv s → exec m tree s = .ok s' → Inv s')
    {s : σ} (start : Inv s)
    {trees : List (Tree κ)} (admissible : allOf P trees) : Inv (execAll m trees s) := by
  induction trees generalizing s with
  | nil => simpa only [execAll] using start
  | cons tree trees ih =>
      rw [execAll_cons]
      cases ran : exec m tree s with
      | error error => exact ih start admissible.2
      | ok after => exact ih (preserved tree s after admissible.1 start ran) admissible.2

end Runs

section Guards

/-- A guard against calling back: while the machine is busy no call that waits for code outside
gets in, and the others stay within `R`. -/
structure Guarded (P : κ → Prop) (Busy : σ → Prop) (R : σ → σ → Prop) : Prop where
  refl : ∀ s, R s s
  trans : ∀ s₁ s₂ s₃, R s₁ s₂ → R s₂ s₃ → R s₁ s₃
  keeps : ∀ s s', Busy s → R s s' → Busy s'
  locks : ∀ call s waiting, m.enter call s = .ok waiting → m.external call = true → ¬ Busy s ∧ Busy waiting
  within : ∀ call s waiting s', P call → Busy s → m.enter call s = .ok waiting →
    m.leave call s waiting = .ok s' → R s s'

variable {m} {P : κ → Prop} {Busy : σ → Prop} {R : σ → σ → Prop}

theorem Guarded.exec_busy (guarded : Guarded m P Busy R) {tree : Tree κ} (admissible : tree.All P)
    {s s' : σ} (busy : Busy s) (ran : exec m tree s = .ok s') : R s s' := by
  obtain ⟨call, inner⟩ := tree
  rw [exec] at ran
  cases entered : m.enter call s with
  | error error => rw [entered] at ran; cases ran
  | ok waiting =>
      rw [entered] at ran
      cases outside : m.external call with
      | true => exact absurd busy (guarded.locks call s waiting entered outside).1
      | false =>
          simp only [outside, Bool.false_eq_true, if_false] at ran
          exact guarded.within call s waiting s' admissible.1 busy entered ran

theorem Guarded.execAll_busy (guarded : Guarded m P Busy R) {trees : List (Tree κ)}
    (admissible : allOf P trees) {s : σ} (busy : Busy s) : R s (execAll m trees s) := by
  induction trees generalizing s with
  | nil => simpa only [execAll] using guarded.refl s
  | cons tree trees ih =>
      rw [execAll_cons]
      cases ran : exec m tree s with
      | error error => exact ih admissible.2 busy
      | ok after =>
          have first := guarded.exec_busy admissible.1 busy ran
          exact guarded.trans _ _ _ first (ih admissible.2 (guarded.keeps _ _ busy first))

/-- Under a guard, a call is its entry, a step within `R`, and its return, whatever is called in between. -/
theorem Guarded.exec_cases (guarded : Guarded m P Busy R) {call : κ} {inner : List (Tree κ)}
    (admissible : (Tree.node call inner).All P) {s s' : σ} (ran : exec m (.node call inner) s = .ok s') :
    ∃ waiting resumed, m.enter call s = .ok waiting ∧ R waiting resumed ∧
      (m.external call = false → resumed = waiting) ∧ m.leave call s resumed = .ok s' := by
  rw [exec] at ran
  cases entered : m.enter call s with
  | error error => rw [entered] at ran; cases ran
  | ok waiting =>
      rw [entered] at ran
      cases outside : m.external call with
      | true =>
          simp only [outside, if_true] at ran
          have busy := (guarded.locks call s waiting entered outside).2
          exact ⟨waiting, _, rfl, guarded.execAll_busy admissible.2 busy, (by rintro ⟨⟩), ran⟩
      | false =>
          simp only [outside, Bool.false_eq_true, if_false] at ran
          exact ⟨waiting, waiting, rfl, guarded.refl _, fun _ => rfl, ran⟩

end Guards

end CallTree
