import Omniphi.Runtime.PlanSteps
import Omniphi.Runtime.SolverMarket

/-! Which plans a solver batch settles, as a function of the batch alone: recording submissions on the
way changes reputations, and no check reads those. -/

namespace Omniphi.Runtime

namespace SolverRegistry

def standing (registry : SolverRegistry) (solverId : Bytes32) :
    Option (SolverStatus × SolverCapabilities) :=
  (registry.get solverId).map fun profile => (profile.status, profile.capabilities)

theorem standing_recordSubmission (registry : SolverRegistry) (solverId : Bytes32)
    (accepted won : Bool) :
    (registry.recordSubmission solverId accepted won).standing = registry.standing := by
  funext id
  simp only [standing, get, recordSubmission, BTree.getElem?_modify]
  split
  · rw [Option.map_map]
    rfl
  · rfl

end SolverRegistry

theorem PlanValidator.validate_congr (sha256 : Sha256) (plan : CandidatePlan) (intent : IntentTransaction)
    (store : ObjectStore) (policy : PlanPolicyEvaluator) {registry registry' : SolverRegistry}
    (same : registry.standing = registry'.standing) :
    validate sha256 plan intent store registry policy =
      validate sha256 plan intent store registry' policy := by
  have here := congrFun same plan.solverId
  have reasons : failures sha256 plan intent store registry policy =
      failures sha256 plan intent store registry' policy := by
    simp only [SolverRegistry.standing] at here
    unfold failures
    cases found : registry.get plan.solverId with
    | none =>
        rw [found] at here
        rw [Option.map_eq_none_iff.1 here.symm]
    | some solver =>
        rw [found] at here
        obtain ⟨solver', found', alike⟩ := Option.map_eq_some_iff.1 here.symm
        obtain ⟨status, capabilities⟩ := Prod.mk.inj alike
        simp only [found', checkSolverStatus, checkSolverEligibility, checkObjectCount, status,
          capabilities]
  simp only [validate, reasons]

namespace SolverMarketRuntime

variable (sha256 : Sha256) (runtime : SolverMarketRuntime)

section Chosen

variable (batch : SolverMarketBatch) (intent : IntentTransaction)

def candidates : List CandidatePlan := batch.candidatePlans[intent.txId]?.getD []

def accepted : List Evaluated :=
  ((candidates batch intent).map fun plan =>
    (plan, runtime.evaluate sha256 runtime.registry intent plan)).filter fun entry => entry.2.passed

/-- The plan that the market settles for an intent: the best ranked of the candidates that the
validator accepts, or the resolver's plan where there is none. -/
def choice : Resolution (Option CandidatePlan) :=
  if intent.validate matches .error _ then .ok none
  else
    match PlanRanker.rank (runtime.accepted sha256 batch intent) runtime.selectionPolicy with
    | best :: _ => .ok ((runtime.accepted sha256 batch intent)[best]?.map Prod.fst)
    | [] =>
        match IntentResolver.resolve intent runtime.base.store (runtime.base.capsOf intent.sender) with
        | .ok execPlan => .ok (some (syntheticPlan sha256 intent execPlan))
        | .error (.error _) => .ok none
        | .error .panic => .error .panic

def choices : List IntentTransaction → Resolution (List CandidatePlan)
  | [] => .ok []
  | intent :: rest => do
      let plan ← runtime.choice sha256 batch intent
      let others ← choices rest
      return plan.toList ++ others

end Chosen

variable {sha256 runtime}

theorem evaluateAll_eq (intent : IntentTransaction) (plans : List CandidatePlan)
    {registry : SolverRegistry} (same : registry.standing = runtime.registry.standing) :
    (runtime.evaluateAll sha256 intent registry plans).1 =
        plans.map (fun plan => (plan, runtime.evaluate sha256 runtime.registry intent plan)) ∧
      (runtime.evaluateAll sha256 intent registry plans).2.standing = runtime.registry.standing := by
  induction plans generalizing registry with
  | nil => exact ⟨rfl, same⟩
  | cons plan plans ih =>
      have eval : runtime.evaluate sha256 registry intent plan =
          runtime.evaluate sha256 runtime.registry intent plan :=
        PlanValidator.validate_congr sha256 plan intent _ _ same
      have kept : (if (runtime.evaluate sha256 runtime.registry intent plan).passed then registry
          else registry.recordSubmission plan.solverId false false).standing =
            runtime.registry.standing := by
        split
        · exact same
        · rw [SolverRegistry.standing_recordSubmission, same]
      obtain ⟨others, after⟩ := ih kept
      unfold evaluateAll
      simp only [eval]
      exact ⟨by rw [others, List.map_cons], after⟩

theorem standing_recordValid (registry : SolverRegistry) (evalResults : List Evaluated) (winnerIdx : Nat) :
    (recordValid registry evalResults winnerIdx).standing = registry.standing := by
  unfold recordValid
  generalize evalResults.zipIdx = entries
  induction entries generalizing registry with
  | nil => rfl
  | cons entry entries ih => rw [List.foldl_cons, ih, SolverRegistry.standing_recordSubmission]

theorem rank_nil {validPlans : List Evaluated} {policy : SelectionPolicy} :
    PlanRanker.rank validPlans policy = [] ↔ validPlans = [] := by
  rw [PlanRanker.rank, List.map_eq_nil_iff, ← List.length_eq_zero_iff, List.length_insertionSort,
    List.length_zipIdx, List.length_eq_zero_iff]

theorem fallback_plan (intent : IntentTransaction) (epoch : U64) :
    (runtime.fallback sha256 intent epoch).map (Option.map SelectedPlanResult.winningPlan) =
      match IntentResolver.resolve intent runtime.base.store (runtime.base.capsOf intent.sender) with
      | .ok execPlan => .ok (some (syntheticPlan sha256 intent execPlan))
      | .error (.error _) => .ok none
      | .error .panic => .error .panic := by
  unfold fallback fallbackToInternalResolver
  cases IntentResolver.resolve intent runtime.base.store (runtime.base.capsOf intent.sender) with
  | ok execPlan => rfl
  | error halt => cases halt <;> rfl

theorem selectPlan_valid (batch : SolverMarketBatch) {intent : IntentTransaction}
    (valid : intent.validate = .ok ()) (registry : SolverRegistry) :
    runtime.selectPlan sha256 batch registry intent =
      let (all, registry) := runtime.evaluateAll sha256 intent registry (candidates batch intent)
      let evalResults := all.filter fun entry => entry.2.passed
      match PlanRanker.rank evalResults runtime.selectionPolicy with
      | [] => (runtime.fallback sha256 intent batch.epoch, registry)
      | winnerIdx :: _ =>
          (.ok (evalResults[winnerIdx]?.map
            (runtime.selectedResult intent batch.epoch all evalResults winnerIdx)),
          recordValid registry evalResults winnerIdx) := by
  unfold selectPlan
  simp only [valid, Bool.false_eq_true, if_false]
  have given : batch.candidatePlans[intent.txId]?.getD [] = candidates batch intent := rfl
  rw [given]
  cases listed : candidates batch intent with
  | nil => rfl
  | cons plan plans =>
      dsimp only
      generalize runtime.evaluateAll sha256 intent registry (plan :: plans) = evaluated
      obtain ⟨all, registry'⟩ := evaluated
      dsimp only
      cases ranked : PlanRanker.rank (all.filter fun entry => entry.2.passed) runtime.selectionPolicy with
      | nil => simp [rank_nil.1 ranked]
      | cons best others =>
          have some : ¬ (all.filter fun entry => entry.2.passed).isEmpty = true := by
            intro none
            rw [List.isEmpty_iff.1 none] at ranked
            cases ranked
          rw [if_neg some]
          simp only [WinningPlanSelector.select, ranked]

theorem selectPlan_eq (batch : SolverMarketBatch) (intent : IntentTransaction)
    {registry : SolverRegistry} (same : registry.standing = runtime.registry.standing) :
    (runtime.selectPlan sha256 batch registry intent).1.map (Option.map SelectedPlanResult.winningPlan) =
        runtime.choice sha256 batch intent ∧
      (runtime.selectPlan sha256 batch registry intent).2.standing = runtime.registry.standing := by
  cases valid : intent.validate with
  | error e =>
      simp only [selectPlan, choice, valid, if_true]
      exact ⟨rfl, same⟩
  | ok =>
      rw [selectPlan_valid batch valid]
      have evaluated := @evaluateAll_eq sha256 runtime intent (candidates batch intent) registry same
      generalize runtime.evaluateAll sha256 intent registry (candidates batch intent) = result at evaluated
      obtain ⟨all, registry'⟩ := result
      obtain ⟨rfl, kept⟩ := evaluated
      unfold choice
      simp only [valid, Bool.false_eq_true, if_false]
      have those : ((candidates batch intent).map fun plan =>
          (plan, runtime.evaluate sha256 runtime.registry intent plan)).filter (fun entry => entry.2.passed) =
            runtime.accepted sha256 batch intent := rfl
      rw [those]
      cases ranked : PlanRanker.rank (runtime.accepted sha256 batch intent) runtime.selectionPolicy with
      | nil => exact ⟨fallback_plan intent batch.epoch, kept⟩
      | cons best others =>
          refine ⟨?_, (standing_recordValid _ _ _).trans kept⟩
          dsimp only [Except.map]
          rw [Option.map_map]
          rfl

theorem selectAll_eq (batch : SolverMarketBatch) (intents : List IntentTransaction)
    {registry : SolverRegistry} (same : registry.standing = runtime.registry.standing) :
    (runtime.selectAll sha256 batch registry intents).1.map (List.map SelectedPlanResult.winningPlan) =
      runtime.choices sha256 batch intents := by
  induction intents generalizing registry with
  | nil => rfl
  | cons intent rest ih =>
      obtain ⟨plan, kept⟩ := @selectPlan_eq sha256 runtime batch intent registry same
      unfold selectAll choices
      rw [← plan]
      generalize runtime.selectPlan sha256 batch registry intent = selected at kept
      obtain ⟨selected, registry'⟩ := selected
      cases selected with
      | error halt => rfl
      | ok selected =>
          have others := ih kept
          dsimp only at others ⊢
          rw [← others]
          generalize runtime.selectAll sha256 batch registry' rest = later
          obtain ⟨later, registry''⟩ := later
          cases later with
          | error halt => rfl
          | ok later =>
              cases selected <;> rfl

theorem choices_atEpoch (epoch : U64) (batch : SolverMarketBatch) (intents : List IntentTransaction) :
    choices sha256 { runtime with base.currentEpoch := epoch } batch intents =
      runtime.choices sha256 batch intents := by
  induction intents with
  | nil => rfl
  | cons intent rest ih =>
      unfold choices
      rw [ih]
      rfl

theorem processSolverBatch_ok {encode : BoxedObject → Bytes} {batch : SolverMarketBatch}
    {settlement : FinalSettlement} {after : SolverMarketRuntime}
    (ran : runtime.processSolverBatch sha256 encode batch = (.ok settlement, after)) :
    runtime.choices sha256 batch batch.intents =
        .ok (settlement.selectedPlans.map SelectedPlanResult.winningPlan) ∧
      (settlement.settlementResult, after.base.store) = SettlementEngine.executeGroups sha256 encode
        (ParallelScheduler.schedule (settlement.selectedPlans.map fun selected =>
          candidatePlanToExecutionPlan selected.winningPlan)) runtime.base.store batch.epoch := by
  have chosen := @selectAll_eq sha256 { runtime with base.currentEpoch := batch.epoch } batch batch.intents
    runtime.registry rfl
  rw [choices_atEpoch] at chosen
  unfold processSolverBatch at ran
  dsimp only at ran
  split at ran
  · cases (Prod.mk.inj ran).1
  · rename_i selectedPlans registry selected
    obtain ⟨same, rfl⟩ := Prod.mk.inj ran
    obtain rfl := Except.ok.inj same
    rw [selected] at chosen
    exact ⟨chosen.symm, rfl⟩

theorem processSolverBatch_error {encode : BoxedObject → Bytes} {batch : SolverMarketBatch} {halt : Halt}
    {after : SolverMarketRuntime}
    (ran : runtime.processSolverBatch sha256 encode batch = (.error halt, after)) :
    runtime.choices sha256 batch batch.intents = .error halt ∧
      after.base.store = runtime.base.store := by
  have chosen := @selectAll_eq sha256 { runtime with base.currentEpoch := batch.epoch } batch batch.intents
    runtime.registry rfl
  rw [choices_atEpoch] at chosen
  unfold processSolverBatch at ran
  dsimp only at ran
  split at ran
  · rename_i selected
    obtain ⟨same, rfl⟩ := Prod.mk.inj ran
    rw [selected, Except.error.inj same] at chosen
    exact ⟨chosen.symm, rfl⟩
  · cases (Prod.mk.inj ran).1

end SolverMarketRuntime

end Omniphi.Runtime
