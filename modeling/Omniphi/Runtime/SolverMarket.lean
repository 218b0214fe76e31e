import Omniphi.Runtime.Batch
import Omniphi.Runtime.PlanValidation

/-! The runtime with a solver market: for each intent the best of the candidate plans that pass
validation is settled, or the plan of the internal resolver where none does. -/

namespace Omniphi.Runtime

inductive SelectionPolicy
  | bestScore
  | lowestFee
  | bestOutput
deriving DecidableEq

def SelectionPolicy.debug : SelectionPolicy → String
  | bestScore => "BestScore"
  | lowestFee => "LowestFee"
  | bestOutput => "BestOutput"

abbrev Evaluated := CandidatePlan × PlanEvaluationResult

namespace PlanRanker

def order (policy : SelectionPolicy) (a b : Evaluated) : Ordering :=
  let score := compare b.2.normalizedScore a.2.normalizedScore
  let fee := compare a.1.feeQuote b.1.feeQuote
  let output := compare b.2.validatedOutputAmount a.2.validatedOutputAmount
  let solver := compare a.1.solverId b.1.solverId
  match policy with
  | .bestScore => score.then (fee.then solver)
  | .lowestFee => fee.then (score.then solver)
  | .bestOutput => output.then (fee.then solver)

def rank (validPlans : List Evaluated) (policy : SelectionPolicy) : List Nat :=
  (validPlans.zipIdx.insertionSort fun a b => order policy a.1 b.1 ≠ .gt).map Prod.snd

end PlanRanker

def WinningPlanSelector.select (validPlans : List Evaluated) (policy : SelectionPolicy) :
    Except RuntimeError Nat :=
  match PlanRanker.rank validPlans policy with
  | [] => .error .noCandidatePlans
  | best :: _ => .ok best

structure SolverAttributionRecord where
  intentId : Bytes32
  winningSolverId : Bytes32
  winningPlanId : Bytes32
  winningPlanHash : Bytes32
  totalCandidates : Nat
  validCandidates : Nat
  rejectedCandidates : Nat
  selectionPolicy : String
  selectionBasis : String
  epoch : U64

structure SelectionAuditRecord where
  intentId : Bytes32
  allPlanIds : List Bytes32
  evaluationResults : List PlanEvaluationResult
  ranking : List Nat
  winnerIndex : Nat
  policyUsed : String

structure SelectedPlanResult where
  intentId : Bytes32
  winningPlan : CandidatePlan
  evaluation : PlanEvaluationResult
  attribution : SolverAttributionRecord
  audit : SelectionAuditRecord

structure SolverMarketBatch where
  batchId : Bytes32
  epoch : U64
  sequenceNumber : U64
  intents : List IntentTransaction
  candidatePlans : BTreeMap Bytes32 (List CandidatePlan)

structure FinalSettlement where
  batchId : Bytes32
  epoch : U64
  selectedPlans : List SelectedPlanResult
  settlementResult : SettlementResult

structure SolverMarketRuntime where
  base : PoSeqRuntime
  registry : SolverRegistry
  selectionPolicy : SelectionPolicy
  policy : PlanPolicyEvaluator

def internalSolverId : Bytes32 := BitVec.allOnes 256

namespace SolverMarketRuntime

variable (sha256 : Sha256) (runtime : SolverMarketRuntime)

section Fallback

def modeIds (accesses : List ObjectAccess) (mode : AccessMode) : List ObjectId :=
  (accesses.filter fun access => access.mode = mode).map ObjectAccess.objectId

def syntheticPlan (intent : IntentTransaction) (execPlan : ExecutionPlan) : CandidatePlan :=
  let plan : CandidatePlan :=
    { planId := intent.txId
      intentId := intent.txId
      solverId := internalSolverId
      actions := execPlan.operations.map operationToPlanAction
      requiredCapabilities := execPlan.requiredCapabilities
      objectReads := modeIds execPlan.objectAccess .readOnly
      objectWrites := modeIds execPlan.objectAccess .readWrite
      expectedOutputAmount := 1
      feeQuote := intent.maxFee
      qualityScore := 5000
      constraintProofs := []
      planHash := 0
      submittedAtSequence := 0
      explanation := some "Phase 1 internal resolver fallback"
      metadata := ∅ }
  { plan with planHash := plan.computeHash sha256 }

def fallbackToInternalResolver (intent : IntentTransaction) (epoch : U64) :
    Resolution SelectedPlanResult := do
  let execPlan ← IntentResolver.resolve intent runtime.base.store (runtime.base.capsOf intent.sender)
  let plan := syntheticPlan sha256 intent execPlan
  let eval : PlanEvaluationResult :=
    { planId := plan.planId
      solverId := plan.solverId
      passed := true
      reasonCodes := [.valid]
      normalizedScore := 5000
      validatedObjectReads := plan.objectReads
      validatedObjectWrites := plan.objectWrites
      settlementFootprint := execPlan.gasEstimate
      validatedOutputAmount := 1 }
  return {
    intentId := intent.txId
    winningPlan := plan
    evaluation := eval
    attribution :=
      { intentId := intent.txId
        winningSolverId := plan.solverId
        winningPlanId := plan.planId
        winningPlanHash := plan.planHash
        totalCandidates := 0
        validCandidates := 1
        rejectedCandidates := 0
        selectionPolicy := "FallbackPhase1"
        selectionBasis := "fallback:internal_resolver"
        epoch }
    audit :=
      { intentId := intent.txId
        allPlanIds := [plan.planId]
        evaluationResults := [eval]
        ranking := [0]
        winnerIndex := 0
        policyUsed := "FallbackPhase1" } }

def fallback (intent : IntentTransaction) (epoch : U64) : Resolution (Option SelectedPlanResult) :=
  match runtime.fallbackToInternalResolver sha256 intent epoch with
  | .ok result => .ok (some result)
  | .error (.error _) => .ok none
  | .error .panic => .error .panic

end Fallback

def evaluate (registry : SolverRegistry) (intent : IntentTransaction) (plan : CandidatePlan) :
    PlanEvaluationResult :=
  PlanValidator.validate sha256 plan intent runtime.base.store registry runtime.policy

def evaluateAll (intent : IntentTransaction) (registry : SolverRegistry) :
    List CandidatePlan → List Evaluated × SolverRegistry
  | [] => ([], registry)
  | plan :: rest =>
      let eval := runtime.evaluate sha256 registry intent plan
      let registry := if eval.passed then registry else registry.recordSubmission plan.solverId false false
      let (others, registry) := evaluateAll intent registry rest
      ((plan, eval) :: others, registry)

def recordValid (registry : SolverRegistry) (evalResults : List Evaluated) (winnerIdx : Nat) :
    SolverRegistry :=
  evalResults.zipIdx.foldl (fun registry entry =>
    registry.recordSubmission entry.1.1.solverId true (entry.2 = winnerIdx)) registry

def selectedResult (intent : IntentTransaction) (epoch : U64)
    (all evalResults : List Evaluated) (winnerIdx : Nat) (winner : Evaluated) : SelectedPlanResult :=
  let (winningPlan, winningEval) := winner
  { intentId := intent.txId
    winningPlan
    evaluation := winningEval
    attribution :=
      { intentId := intent.txId
        winningSolverId := winningPlan.solverId
        winningPlanId := winningPlan.planId
        winningPlanHash := winningPlan.planHash
        totalCandidates := all.length
        validCandidates := evalResults.length
        rejectedCandidates := all.length - evalResults.length
        selectionPolicy := runtime.selectionPolicy.debug
        selectionBasis := "score:" ++ toString winningEval.normalizedScore.toNat ++ " fee:" ++
          toString winningPlan.feeQuote.toNat ++ " solver:" ++
          hexEncode ((beBytes 32 winningPlan.solverId).take 4)
        epoch }
    audit :=
      { intentId := intent.txId
        allPlanIds := all.map fun entry => entry.1.planId
        evaluationResults := all.map Prod.snd
        ranking := List.range evalResults.length
        winnerIndex := winnerIdx
        policyUsed := runtime.selectionPolicy.debug } }

def selectPlan (batch : SolverMarketBatch) (registry : SolverRegistry) (intent : IntentTransaction) :
    Resolution (Option SelectedPlanResult) × SolverRegistry :=
  if intent.validate matches .error _ then (.ok none, registry)
  else
    match batch.candidatePlans[intent.txId]?.getD [] with
    | [] => (runtime.fallback sha256 intent batch.epoch, registry)
    | candidates =>
      let (all, registry) := runtime.evaluateAll sha256 intent registry candidates
      let evalResults := all.filter fun entry => entry.2.passed
      if evalResults.isEmpty then (runtime.fallback sha256 intent batch.epoch, registry)
      else
        match WinningPlanSelector.select evalResults runtime.selectionPolicy with
        | .error e => (.error (.error e), registry)
        | .ok winnerIdx =>
          let registry := recordValid registry evalResults winnerIdx
          (.ok (evalResults[winnerIdx]?.map
            (runtime.selectedResult intent batch.epoch all evalResults winnerIdx)), registry)

def selectAll (batch : SolverMarketBatch) (registry : SolverRegistry) :
    List IntentTransaction → Resolution (List SelectedPlanResult) × SolverRegistry
  | [] => (.ok [], registry)
  | intent :: rest =>
      match runtime.selectPlan sha256 batch registry intent with
      | (.error halt, registry) => (.error halt, registry)
      | (.ok selected, registry) =>
        match selectAll batch registry rest with
        | (.error halt, registry) => (.error halt, registry)
        | (.ok others, registry) => (.ok (selected.toList ++ others), registry)

/-- The outcome, and the runtime as the call leaves it. The safety kernel of the base runtime is not
consulted. -/
def processSolverBatch (encode : BoxedObject → Bytes) (batch : SolverMarketBatch) :
    Resolution FinalSettlement × SolverMarketRuntime :=
  let runtime := { runtime with base.currentEpoch := batch.epoch }
  match runtime.selectAll sha256 batch runtime.registry batch.intents with
  | (.error halt, registry) => (.error halt, { runtime with registry })
  | (.ok selectedPlans, registry) =>
    let executionPlans := selectedPlans.map fun selected =>
      candidatePlanToExecutionPlan selected.winningPlan
    let groups := ParallelScheduler.schedule executionPlans
    let (settlementResult, store) := SettlementEngine.executeGroups sha256 encode groups
      runtime.base.store batch.epoch
    (.ok { batchId := batch.batchId, epoch := batch.epoch, selectedPlans, settlementResult },
      { runtime with registry, base.store := store })

end SolverMarketRuntime

end Omniphi.Runtime
