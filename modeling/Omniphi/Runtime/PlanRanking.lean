import Omniphi.Lib.Ranking
import Omniphi.Runtime.SolverMarket

/-! The ranking of candidate plans, and what of it depends on the order in which they were submitted. -/

namespace Omniphi.Runtime.PlanRanker

/-- What a policy compares: the score or the output, the fee, and the solver. -/
structure Criteria where
  quality : Nat
  fee : U64
  solver : Bytes32
deriving DecidableEq

def criteria (policy : SelectionPolicy) (candidate : Evaluated) : Criteria where
  quality := match policy with
    | .bestScore | .lowestFee => candidate.2.normalizedScore.toNat
    | .bestOutput => candidate.2.validatedOutputAmount.toNat
  fee := candidate.1.feeQuote
  solver := candidate.1.solverId

namespace Criteria

def byQuality (a b : Criteria) : Ordering := compareOn quality b a

def byFee : Criteria → Criteria → Ordering := compareOn fee

def bySolver : Criteria → Criteria → Ordering := compareOn solver

/-- The documented order: the fee first for `lowestFee`, last the solver. -/
def order (policy : SelectionPolicy) : Criteria → Criteria → Ordering :=
  match policy with
  | .lowestFee => compareLex byFee (compareLex byQuality bySolver)
  | .bestScore | .bestOutput => compareLex byQuality (compareLex byFee bySolver)

instance (policy : SelectionPolicy) : Std.TransCmp (order policy) := by
  cases policy with
  | lowestFee => exact inferInstanceAs (Std.TransCmp (compareLex (compareOn fee)
      (compareLex (fun a b => compareOn quality b a) (compareOn solver))))
  | bestScore | bestOutput => exact inferInstanceAs (Std.TransCmp (compareLex (fun a b => compareOn quality b a)
      (compareLex (compareOn fee) (compareOn solver))))

theorem eq_of_order {policy : SelectionPolicy} {a b : Criteria} (same : order policy a b = .eq) : a = b := by
  have equal : byQuality a b = .eq ∧ byFee a b = .eq ∧ bySolver a b = .eq := by
    cases policy <;> simp only [order, compareLex, Ordering.then_eq_eq] at same <;> tauto
  obtain ⟨quality, fee, solver⟩ := equal
  have qualities : b.quality = a.quality := Std.LawfulEqOrd.eq_of_compare quality
  have fees : a.fee = b.fee := Std.LawfulEqOrd.eq_of_compare fee
  have solvers : a.solver = b.solver := Std.LawfulEqOrd.eq_of_compare solver
  cases a
  cases b
  exact Criteria.mk.injEq .. ▸ ⟨qualities.symm, fees, solvers⟩

instance (policy : SelectionPolicy) : Std.LawfulEqCmp (order policy) where
  eq_of_compare := eq_of_order

end Criteria

theorem compare_toNat {w : Nat} (a b : BitVec w) : compare a.toNat b.toNat = compare a b := by
  show compareOfLessAndEq a.toNat b.toNat = compareOfLessAndEq a b
  simp only [compareOfLessAndEq, BitVec.lt_def, BitVec.toNat_inj]

theorem order_eq (policy : SelectionPolicy) (a b : Evaluated) :
    order policy a b = Criteria.order policy (criteria policy a) (criteria policy b) := by
  cases policy <;>
    simp only [order, Criteria.order, compareLex, Criteria.byQuality, Criteria.byFee, Criteria.bySolver,
      compareOn, criteria, compare_toNat]

instance (policy : SelectionPolicy) : Std.TransCmp (order policy) := by
  refine @Std.TransCmp.mk _ _ ⟨fun {a b} => ?_⟩ fun {a b c} first second => ?_
  · rw [order_eq, order_eq]
    exact Std.OrientedCmp.eq_swap
  · rw [order_eq] at first second ⊢
    exact Std.TransCmp.isLE_trans first second

def ranking (validPlans : List Evaluated) (policy : SelectionPolicy) : List Evaluated :=
  (rank validPlans policy).filterMap fun i => validPlans[i]?

def winner (validPlans : List Evaluated) (policy : SelectionPolicy) : Option Evaluated :=
  (WinningPlanSelector.select validPlans policy).toOption.bind fun i => validPlans[i]?

section Ranking

variable {validPlans others : List Evaluated} {policy : SelectionPolicy}

theorem rank_perm : (rank validPlans policy).Perm (List.range validPlans.length) := by
  have indices : validPlans.zipIdx.map Prod.snd = List.range validPlans.length := by
    rw [List.zipIdx_map_snd, List.range_eq_range']
  rw [← indices]
  exact (List.perm_insertionSort _ _).map Prod.snd

theorem ranking_eq : ranking validPlans policy = Ranking.sort (order policy) validPlans := by
  have entries : ∀ entry ∈ Ranking.sort (fun a b => order policy a.1 b.1) validPlans.zipIdx,
      validPlans[entry.2]? = some entry.1 := by
    intro entry member
    exact List.mem_zipIdx_iff_getElem?.1 (Ranking.mem_sort.1 member)
  have plans := @Ranking.map_sort _ _ (fun a b : Evaluated × ℕ => order policy a.1 b.1) validPlans.zipIdx
    (order policy) Prod.fst fun _ _ => rfl
  rw [List.zipIdx_map_fst] at plans
  rw [← plans]
  show ((Ranking.sort (fun a b => order policy a.1 b.1) validPlans.zipIdx).map Prod.snd).filterMap _ = _
  rw [List.filterMap_map, ← List.filterMap_eq_map]
  exact List.filterMap_congr entries

theorem winner_eq : winner validPlans policy = (ranking validPlans policy).head? := by
  unfold winner WinningPlanSelector.select ranking
  cases ranked : rank validPlans policy with
  | nil => rfl
  | cons i rest =>
      have inside : i < validPlans.length := by
        rw [← List.mem_range, ← rank_perm.mem_iff, ranked]
        exact List.mem_cons_self
      rw [List.filterMap_cons_some (List.getElem?_eq_getElem inside)]
      exact List.getElem?_eq_getElem inside

theorem map_criteria_ranking (perm : others.Perm validPlans) :
    (ranking others policy).map (criteria policy) = (ranking validPlans policy).map (criteria policy) := by
  rw [ranking_eq, ranking_eq]
  exact Ranking.map_sort_eq_of_perm (order_eq policy) perm

theorem ranking_eq_of_perm (perm : others.Perm validPlans)
    (distinct : ∀ a ∈ validPlans, ∀ b ∈ validPlans, criteria policy a = criteria policy b → a = b) :
    ranking others policy = ranking validPlans policy := by
  rw [ranking_eq, ranking_eq]
  refine Ranking.sort_eq_of_perm perm fun a memberA b memberB tie => ?_
  rw [order_eq] at tie
  exact distinct a (perm.mem_iff.1 memberA) b (perm.mem_iff.1 memberB) (Criteria.eq_of_order tie)

theorem winner_eq_of_perm (perm : others.Perm validPlans) {best : Evaluated}
    (wins : winner validPlans policy = some best)
    (alone : ∀ a ∈ validPlans, criteria policy a = criteria policy best → a = best) :
    winner others policy = some best := by
  have same := congrArg List.head? (@map_criteria_ranking _ _ policy perm)
  rw [winner_eq] at wins ⊢
  rw [List.head?_map, List.head?_map, wins] at same
  obtain ⟨first, head, tie⟩ := Option.map_eq_some_iff.1 same
  have member : first ∈ validPlans := by
    have ranked := List.mem_of_mem_head? head
    rw [ranking_eq, Ranking.mem_sort] at ranked
    exact perm.mem_iff.1 ranked
  rw [head, alone first member tie]

/-- The ranking is a permutation of the candidates, sorted by the documented criteria. What it compares at each
place is the same for every order of submission; so is the ranking if no two candidates agree in all criteria, and
so is the winner if no other agrees with it in all of them. -/
theorem ranking_well_defined (validPlans : List Evaluated) (policy : SelectionPolicy) :
    (rank validPlans policy).Perm (List.range validPlans.length) ∧
      (ranking validPlans policy).Perm validPlans ∧
      ((ranking validPlans policy).Pairwise fun a b =>
        Criteria.order policy (criteria policy a) (criteria policy b) ≠ .gt) ∧
      ∀ others, others.Perm validPlans →
        (ranking others policy).map (criteria policy) = (ranking validPlans policy).map (criteria policy) ∧
        ((∀ a ∈ validPlans, ∀ b ∈ validPlans, criteria policy a = criteria policy b → a = b) →
          ranking others policy = ranking validPlans policy) ∧
        ∀ best, winner validPlans policy = some best →
          (∀ a ∈ validPlans, criteria policy a = criteria policy best → a = best) →
          winner others policy = some best := by
  refine ⟨rank_perm, ?_, ?_, fun others perm => ⟨map_criteria_ranking perm, ranking_eq_of_perm perm,
    fun best wins alone => winner_eq_of_perm perm wins alone⟩⟩
  · rw [ranking_eq]
    exact Ranking.sort_perm _ _
  · simp only [ranking_eq, ← order_eq]
    exact Ranking.sort_sorted

def equalOffer (planId : Bytes32) : Evaluated :=
  ({ planId, intentId := 1, solverId := 3, actions := [], requiredCapabilities := [], objectReads := []
     objectWrites := [], expectedOutputAmount := 1, feeQuote := 100, qualityScore := 5000
     constraintProofs := [], planHash := 0, submittedAtSequence := 0, explanation := none, metadata := ∅ },
    { planId, solverId := 3, passed := true, reasonCodes := [], normalizedScore := 5000
      validatedObjectReads := [], validatedObjectWrites := [], settlementFootprint := 0
      validatedOutputAmount := 1 })

/-- Of two such plans the one submitted first wins. -/
theorem first_equal_offer_wins :
    ¬ ∀ (policy : SelectionPolicy) (validPlans others : List Evaluated),
      (validPlans.map fun candidate => candidate.1.planId).Nodup → others.Perm validPlans →
      winner others policy = winner validPlans policy := by
  intro independent
  have same := independent .bestScore [equalOffer 1, equalOffer 2] [equalOffer 2, equalOffer 1] (by decide)
    (List.Perm.swap ..)
  have ids := congrArg (Option.map fun candidate => candidate.1.planId) same
  revert ids
  decide +kernel

end Ranking

end Omniphi.Runtime.PlanRanker
