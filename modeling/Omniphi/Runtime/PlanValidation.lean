import Omniphi.Runtime.Intents
import Omniphi.Runtime.Market
import Omniphi.Runtime.Store

/-! The solver registry and the checks a candidate plan has to pass before it can be selected. -/

namespace Omniphi.Runtime

section Registry

inductive SolverStatus
  | pending
  | active
  | paused
  | banned
deriving DecidableEq

structure SolverCapabilities where
  capabilitySet : CapabilitySet
  maxObjectsPerPlan : Nat

structure SolverReputationRecord where
  totalPlansSubmitted : U64 := 0
  plansAccepted : U64 := 0
  plansRejected : U64 := 0
  plansWon : U64 := 0
  consecutiveValidPlans : U64 := 0
  consecutiveInvalidPlans : U64 := 0
  reputationScore : U64 := 5000
  isFlagged : Bool := false

structure SolverProfile where
  solverId : Bytes32
  status : SolverStatus
  capabilities : SolverCapabilities
  reputation : SolverReputationRecord

structure SolverRegistry where
  solvers : BTreeMap Bytes32 SolverProfile

def SolverReputationRecord.record (rep : SolverReputationRecord) (accepted won : Bool) :
    SolverReputationRecord :=
  let rep := { rep with totalPlansSubmitted := rep.totalPlansSubmitted + 1 }
  let rep :=
    if accepted then
      { rep with
        plansAccepted := rep.plansAccepted + 1
        consecutiveValidPlans := rep.consecutiveValidPlans + 1
        consecutiveInvalidPlans := 0 }
    else
      let invalid := rep.consecutiveInvalidPlans + 1
      { rep with
        plansRejected := rep.plansRejected + 1
        consecutiveInvalidPlans := invalid
        consecutiveValidPlans := 0
        isFlagged := rep.isFlagged || decide (3 ≤ invalid) }
  if won then { rep with plansWon := rep.plansWon + 1 } else rep

namespace SolverRegistry

def new : SolverRegistry := ⟨∅⟩

def get (registry : SolverRegistry) (solverId : Bytes32) : Option SolverProfile :=
  registry.solvers[solverId]?

def recordSubmission (registry : SolverRegistry) (solverId : Bytes32) (accepted won : Bool) :
    SolverRegistry :=
  ⟨registry.solvers.modify solverId fun profile =>
    { profile with reputation := profile.reputation.record accepted won }⟩

end SolverRegistry

end Registry

inductive ValidationReasonCode
  | valid
  | solverNotActive
  | solverCapabilityInsufficient
  | objectNotFound
  | insufficientBalance
  | slippageExceeded
  | constraintViolated
  | capabilityMissing
  | disallowedObject
  | planHashMismatch
  | maxObjectsExceeded
  | policyRejected
  | feeTooHigh
  | zeroOutput
  | contractConstraintRejected
  | contractSchemaNotFound
deriving DecidableEq

structure PlanEvaluationResult where
  planId : Bytes32
  solverId : Bytes32
  passed : Bool
  reasonCodes : List ValidationReasonCode
  normalizedScore : U64
  validatedObjectReads : List ObjectId
  validatedObjectWrites : List ObjectId
  settlementFootprint : U64
  validatedOutputAmount : U128

/-- The reason of a rejection, if the policy rejects the plan for the intent. -/
abbrev PlanPolicyEvaluator := CandidatePlan → IntentTransaction → Option String

def permissivePolicy : PlanPolicyEvaluator := fun _ _ => none

namespace PlanValidator

def checkPlanHash (sha256 : Sha256) (plan : CandidatePlan) : Option ValidationReasonCode :=
  if plan.validateHash sha256 then none else some .planHashMismatch

def checkSolverStatus : Option SolverProfile → Option ValidationReasonCode
  | none => some .solverNotActive
  | some solver => if solver.status = .active then none else some .solverNotActive

def checkSolverEligibility (solver : SolverProfile) (requiredCaps : List Capability) :
    Option ValidationReasonCode :=
  if requiredCaps.all fun cap => solver.capabilities.capabilitySet.contains cap then none
  else some .solverCapabilityInsufficient

def checkObjectCount (plan : CandidatePlan) (solver : SolverProfile) : Option ValidationReasonCode :=
  if solver.capabilities.maxObjectsPerPlan < plan.objectReads.length + plan.objectWrites.length then
    some .maxObjectsExceeded
  else none

def checkObjectsExist (plan : CandidatePlan) (store : ObjectStore) : Option ValidationReasonCode :=
  if (plan.objectReads ++ plan.objectWrites).all fun id => (store.get id).isSome then none
  else some .objectNotFound

/-- Only debits that name an amount are checked, and each against the store as it stands. -/
def checkBalanceSufficiency (plan : CandidatePlan) (store : ObjectStore) :
    Option ValidationReasonCode :=
  let sufficient (action : PlanAction) : Bool :=
    match action.actionType, action.amount with
    | .debitBalance, some amount =>
        match store.getBalanceById action.targetObject with
        | some balance => amount ≤ balance.available
        | none => false
    | _, _ => true
  if plan.actions.all sufficient then none else some .insufficientBalance

def checkContractAction (action : PlanAction) : List ValidationReasonCode :=
  match action.actionType, action.metadata["schema_id"]? with
  | .custom _, some schemaHex =>
      (if schemaHex.utf8ByteSize ≠ 64 ∨ hexDecode schemaHex = none then [.contractSchemaNotFound] else []) ++
        (if action.metadata.contains "proposed_state" then [] else [.contractConstraintRejected])
  | _, _ => []

def computeScore (plan : CandidatePlan) : U64 :=
  let qualityComponent := min plan.qualityScore.toNat 10000 * 6000 / 10000
  let feeComponent := (10000 - min plan.feeQuote.toNat 10000) * 3000 / 10000
  let constraintComponent :=
    if plan.constraintProofs.isEmpty then 1000
    else (plan.constraintProofs.filter (·.declaredSatisfied)).length * 1000 /
      plan.constraintProofs.length
  BitVec.ofNat 64 (min (qualityComponent + feeComponent + constraintComponent) 10000)

def failures (sha256 : Sha256) (plan : CandidatePlan) (intent : IntentTransaction)
    (store : ObjectStore) (registry : SolverRegistry) (policy : PlanPolicyEvaluator) :
    List ValidationReasonCode :=
  let solver := registry.get plan.solverId
  (checkPlanHash sha256 plan).toList ++ (checkSolverStatus solver).toList ++
    (match solver with
      | some solver =>
          (checkSolverEligibility solver plan.requiredCapabilities).toList ++
            (checkObjectCount plan solver).toList
      | none => []) ++
    (checkObjectsExist plan store).toList ++ (checkBalanceSufficiency plan store).toList ++
    (if (policy plan intent).isSome then [.policyRejected] else []) ++
    (if intent.maxFee < plan.feeQuote then [.feeTooHigh] else []) ++
    (if plan.expectedOutputAmount = 0 then [.zeroOutput] else []) ++
    plan.actions.flatMap checkContractAction

def validate (sha256 : Sha256) (plan : CandidatePlan) (intent : IntentTransaction)
    (store : ObjectStore) (registry : SolverRegistry) (policy : PlanPolicyEvaluator) :
    PlanEvaluationResult :=
  let reasonCodes := failures sha256 plan intent store registry policy
  let passed := reasonCodes.isEmpty
  { planId := plan.planId
    solverId := plan.solverId
    passed
    reasonCodes := if passed then reasonCodes ++ [.valid] else reasonCodes
    normalizedScore := if passed then computeScore plan else 0
    validatedObjectReads := plan.objectReads
    validatedObjectWrites := plan.objectWrites
    settlementFootprint := BitVec.ofNat 64 (plan.actions.length * 200 + plan.objectWrites.length * 500 +
      plan.objectReads.length * 100)
    validatedOutputAmount := plan.expectedOutputAmount }

end PlanValidator

end Omniphi.Runtime
