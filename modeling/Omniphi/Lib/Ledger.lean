import Mathlib

/-! A ledger of one denomination. -/

structure Ledger (α : Type) where
  balance : α → Nat

namespace Ledger

variable {α : Type} [DecidableEq α] (l : Ledger α)

def empty : Ledger α := ⟨fun _ => 0⟩

def mint (dst : α) (amount : Nat) : Ledger α :=
  ⟨fun a => if a = dst then l.balance a + amount else l.balance a⟩

def burn (src : α) (amount : Nat) : Option (Ledger α) :=
  if amount ≤ l.balance src then
    some ⟨fun a => if a = src then l.balance a - amount else l.balance a⟩
  else none

def send (src dst : α) (amount : Nat) : Option (Ledger α) :=
  (l.burn src amount).map fun l => l.mint dst amount

variable {l} {l' : Ledger α} {src dst : α} {amount : Nat}

@[simp] theorem balance_mint (a : α) :
    (l.mint dst amount).balance a = l.balance a + if a = dst then amount else 0 := by
  unfold mint
  dsimp only
  split <;> rfl

/-- What is burned was there, and only the burner has less. -/
theorem burn_spec (ran : l.burn src amount = some l') :
    amount ≤ l.balance src ∧ ∀ a, l'.balance a + (if a = src then amount else 0) = l.balance a := by
  unfold burn at ran
  split at ran
  · rename_i covers
    obtain rfl := Option.some.inj ran
    refine ⟨covers, fun a => ?_⟩
    by_cases here : a = src
    · subst here
      simp only [if_pos]
      omega
    · simp [here]
  · cases ran

/-- What one account pays the other receives. -/
theorem send_spec (ran : l.send src dst amount = some l') :
    amount ≤ l.balance src ∧
      ∀ a, l'.balance a + (if a = src then amount else 0) =
        l.balance a + if a = dst then amount else 0 := by
  obtain ⟨debited, burned, rfl⟩ := Option.map_eq_some_iff.1 ran
  obtain ⟨covers, after⟩ := burn_spec burned
  refine ⟨covers, fun a => ?_⟩
  rw [balance_mint, ← after a]
  omega

theorem burn_isSome (covers : amount ≤ l.balance src) : (l.burn src amount).isSome = true := by
  rw [burn, if_pos covers]
  rfl

theorem send_isSome (covers : amount ≤ l.balance src) : (l.send src dst amount).isSome = true := by
  rw [send, Option.isSome_map]
  exact burn_isSome covers

end Ledger
