import Omniphi.Lib.Ledger

/-! The total of a ledger of which finitely many accounts hold something. -/

namespace Ledger

variable {α : Type} {l l' : Ledger α} {src dst : α} {n : Nat}

def Finite (l : Ledger α) : Prop := (Function.support l.balance).Finite

noncomputable def total (l : Ledger α) : Nat := finsum l.balance

variable [DecidableEq α]

theorem total_of_more (finite : l.Finite)
    (more : ∀ a, l'.balance a = l.balance a + if a = dst then n else 0) :
    l'.Finite ∧ l'.total = l.total + n := by
  have single : (Function.support fun a => if a = dst then n else 0) ⊆ {dst} := by
    intro a held
    by_contra elsewhere
    exact held (if_neg elsewhere)
  have same : l'.balance = fun a => l.balance a + if a = dst then n else 0 := funext more
  constructor
  · refine (finite.union (Set.finite_singleton dst)).subset ?_
    rw [same]
    exact (Function.support_add _ _).trans (Set.union_subset_union_right _ single)
  · rw [total, same, finsum_add_distrib finite ((Set.finite_singleton dst).subset single), total]
    congr 1
    rw [finsum_eq_single _ dst fun a elsewhere => if_neg elsewhere, if_pos rfl]

theorem total_mint (dst : α) (n : Nat) (finite : l.Finite) : (l.mint dst n).Finite ∧ (l.mint dst n).total = l.total + n :=
  total_of_more finite balance_mint

theorem total_burn (finite : l.Finite) (burned : l.burn src n = some l') :
    l'.Finite ∧ l'.total + n = l.total := by
  have spec := (burn_spec burned).2
  have finite' : l'.Finite := by
    refine finite.subset fun a held => ?_
    have here := spec a
    change l.balance a ≠ 0
    change l'.balance a ≠ 0 at held
    omega
  exact ⟨finite', (total_of_more finite' fun a => (spec a).symm).2.symm⟩

theorem total_send (finite : l.Finite) (sent : l.send src dst n = some l') :
    l'.Finite ∧ l'.total = l.total := by
  obtain ⟨debited, burned, rfl⟩ := Option.map_eq_some_iff.1 sent
  obtain ⟨finite', lost⟩ := total_burn finite burned
  obtain ⟨finite'', gained⟩ := total_mint dst n finite'
  exact ⟨finite'', gained.trans lost⟩

end Ledger
