import Omniphi.Crx.Executor
import Omniphi.Crx.Validation

/-! Settlement of one goal: build, validate, execute, classify, and put the store back where the outcome
is a revert. -/

namespace Omniphi.Crx

open Omniphi.Runtime (ObjectId ObjectStore ObjectVersion BalanceObject LiquidityPoolObject VaultObject
  CandidatePlan RuntimeError GasCosts)

inductive FinalityClass
  | finalized
  | finalizedWithDowngrade
  | finalizedWithQuarantine
  | provisional
  | rejected
  | reverted
deriving DecidableEq

structure DomainFinalityPolicy where
  minFinalityClass : FinalityClass

structure SettlementDisposition where
  finalityClass : FinalityClass
  reason : String
  escalationRequired : Bool
  provisionalUntilEpoch : Option U64

namespace FinalityClassifier

def finalityRank : FinalityClass → U8
  | .finalized => 5
  | .finalizedWithDowngrade => 4
  | .finalizedWithQuarantine => 3
  | .provisional => 2
  | .reverted => 1
  | .rejected => 0

def baseClassify (settlementClass : ExecutionSettlementClass) (policy : PartialFailurePolicy) :
    FinalityClass × String :=
  match settlementClass with
  | .fullSuccess => (.finalized, "full success")
  | .successWithDowngrade branchId =>
      if policy = .allowBranchDowngrade ∨ policy = .downgradeAndContinue then
        (.finalizedWithDowngrade, "branch " ++ toString branchId.toNat ++ " downgraded")
      else (.reverted, "branch " ++ toString branchId.toNat ++ " downgraded but policy disallows it")
  | .successWithQuarantine objects =>
      if policy = .quarantineOnFailure then
        (.finalizedWithQuarantine, toString objects.length ++ " object(s) quarantined")
      else
        (.reverted, toString objects.length ++ " object(s) quarantined but policy disallows quarantine")
  | .partialSuccess succeededBranches failedBranches =>
      let counts := toString succeededBranches.length ++ " succeeded, " ++
        toString failedBranches.length ++ " failed"
      match policy with
      | .allowBranchDowngrade | .downgradeAndContinue =>
          (.finalizedWithDowngrade, "partial success: " ++ counts)
      | .quarantineOnFailure => (.finalizedWithQuarantine, "partial success with quarantine: " ++ counts)
      | .strictAllOrNothing => (.reverted, "strict policy: partial success triggers revert")
  | .fullRevert => (.reverted, "full revert")
  | .rejected => (.rejected, "rejected before execution")

def classify (settlementClass : ExecutionSettlementClass) (goal : GoalPacket)
    (domainPolicies : List DomainFinalityPolicy) : SettlementDisposition :=
  let base := baseClassify settlementClass goal.policy.partialFailurePolicy
  let (finalityClass, reason) :=
    if goal.policy.settlementStrictness = .provisional ∧ base.1 ≠ .rejected ∧ base.1 ≠ .reverted then
      (FinalityClass.provisional, base.2 ++ "; overridden to Provisional by strictness policy")
    else base
  { finalityClass, reason
    escalationRequired := domainPolicies.any fun policy =>
      finalityRank finalityClass < finalityRank policy.minFinalityClass
    provisionalUntilEpoch := if finalityClass = .provisional then some goal.deadlineEpoch else none }

end FinalityClassifier

structure StoreSnapshot where
  balances : KeyedMap BalanceObject.id
  pools : KeyedMap LiquidityPoolObject.id
  vaults : KeyedMap VaultObject.id

namespace StoreSnapshot

def take (store : ObjectStore) (objectIds : List ObjectId) : StoreSnapshot :=
  { balances := store.balances.pick objectIds
    pools := store.pools.pick objectIds
    vaults := store.vaults.pick objectIds }

def restore (snapshot : StoreSnapshot) (store : ObjectStore) : ObjectStore :=
  { store with
    balances := store.balances.overwrite snapshot.balances (fun balance => balance) (fun _ => rfl)
    pools := store.pools.overwrite snapshot.pools (fun pool => pool) (fun _ => rfl)
    vaults := store.vaults.overwrite snapshot.vaults (fun vault => vault) (fun _ => rfl) }

end StoreSnapshot

section Receipts

structure RightsCapsuleReceipt where
  capsuleId : Bytes32
  capsuleHash : Bytes32
  scopeSummary : String
  wasRespected : Bool

structure GraphExecutionReceipt where
  graphId : Bytes32
  graphHash : Bytes32
  totalNodes : Nat
  executedNodes : Nat
  skippedNodes : Nat
  failedNodes : Nat
  branchResults : List BranchExecutionResult

structure CausalSettlementSummary where
  causalValidity : Bool
  rightsValidity : Bool
  violationsCount : Nat
  auditHash : Bytes32

structure CRXSettlementRecord where
  goalPacketId : Bytes32
  intentId : Bytes32
  solverId : Bytes32
  planId : Bytes32
  finality : SettlementDisposition
  settlementClass : ExecutionSettlementClass
  capsuleReceipt : RightsCapsuleReceipt
  graphReceipt : GraphExecutionReceipt
  causalSummary : CausalSettlementSummary
  affectedObjects : List ObjectId
  versionTransitions : List (ObjectId × ObjectVersion × ObjectVersion)
  gasUsed : U64
  epoch : U64

end Receipts

namespace CRXSettlementEngine

def objectWriteCost : U64 := 500

section Verdict

variable (sha256 : Sha256) (plan : CandidatePlan) (goal : GoalPacket) (graph : CausalGraph)
  (capsule : RightsCapsule) (store : ObjectStore) (epoch : U64)

structure Verdict where
  rights : RightsValidationResult
  causal : CausalValidityResult

def Verdict.accepts (verdict : Verdict) : Bool := verdict.rights.allPassed && verdict.causal.isCausallyValid

def Verdict.violationsCount (verdict : Verdict) : Nat :=
  verdict.rights.violations.length + verdict.causal.violations.length

def verdictOn : Verdict :=
  { rights := RightsValidationEngine.validate graph capsule store epoch plan.solverId
    causal := CausalValidityEngine.validate graph sha256 goal }

def causalSummary (verdict : Verdict) : CausalSettlementSummary :=
  { causalValidity := verdict.causal.isCausallyValid
    rightsValidity := verdict.rights.allPassed
    violationsCount := verdict.violationsCount
    auditHash := verdict.causal.audit.auditHash }

def capsuleReceipt (verdict : Verdict) : RightsCapsuleReceipt :=
  { capsuleId := capsule.capsuleId
    capsuleHash := capsule.capsuleHash
    scopeSummary := "actions=" ++ toString capsule.scope.allowedActions.size ++ ", obj_types=" ++
      toString capsule.scope.allowedObjectTypes.size ++ ", max_spend=" ++
      toString capsule.scope.maxSpend.toNat
    wasRespected := verdict.rights.allPassed }

def rejection (verdict : Verdict) (domainPolicies : List DomainFinalityPolicy) : CRXSettlementRecord :=
  { goalPacketId := goal.packetId
    intentId := plan.intentId
    solverId := plan.solverId
    planId := plan.planId
    finality := FinalityClassifier.classify .rejected goal domainPolicies
    settlementClass := .rejected
    capsuleReceipt := capsuleReceipt capsule verdict
    graphReceipt :=
      { graphId := graph.graphId
        graphHash := graph.graphHash
        totalNodes := graph.nodes.size
        executedNodes := 0
        skippedNodes := graph.nodes.size
        failedNodes := verdict.violationsCount
        branchResults := [] }
    causalSummary := causalSummary verdict
    affectedObjects := []
    versionTransitions := []
    gasUsed := GasCosts.defaultCosts.baseTx
    epoch }

end Verdict

def objectIds (graph : CausalGraph) : List ObjectId := graph.values.filterMap CausalNode.targetObject

def versionsOf (store : ObjectStore) (ids : List ObjectId) : BTreeMap ObjectId ObjectVersion :=
  ids.foldl (fun versions id => match store.get id with
    | some object => versions.insert id object.info.version
    | none => versions) ∅

def versionTransitions (preVersions : BTreeMap ObjectId ObjectVersion) (store : ObjectStore)
    (ids : List ObjectId) : List (ObjectId × ObjectVersion × ObjectVersion) :=
  ids.map fun id =>
    let oldVersion := preVersions[id]?.getD 0
    (id, oldVersion, ((store.get id).map fun object => object.info.version).getD oldVersion)

def isReverted (finality : SettlementDisposition) (settlementClass : ExecutionSettlementClass) : Bool :=
  finality.finalityClass = .reverted ∨ settlementClass = .fullRevert

def settleGraph (sha256 : Sha256) (plan : CandidatePlan) (goal : GoalPacket) (graph : CausalGraph)
    (capsule : RightsCapsule) (store : ObjectStore) (domainPolicies : List DomainFinalityPolicy)
    (epoch : U64) : CRXSettlementRecord × ObjectStore :=
  let verdict := verdictOn sha256 plan goal graph capsule store epoch
  if !verdict.accepts then (rejection plan goal graph capsule epoch verdict domainPolicies, store)
  else
    let snapshot := StoreSnapshot.take store (objectIds graph)
    let (settlementClass, execution) := BranchAwareExecutor.execute graph capsule goal store
    let executed := execution.store.syncTypedToCanonical
    let finality := FinalityClassifier.classify settlementClass goal domainPolicies
    let reverted := isReverted finality settlementClass
    let settled := if reverted then (snapshot.restore executed).syncTypedToCanonical else executed
    let affectedObjects :=
      (Std.ExtTreeSet.ofList (execution.branchResults.flatMap fun result => result.mutatedObjects)
        compare).toList
    ({ goalPacketId := goal.packetId
       intentId := plan.intentId
       solverId := plan.solverId
       planId := plan.planId
       finality, settlementClass
       capsuleReceipt := capsuleReceipt capsule verdict
       graphReceipt :=
         { graphId := graph.graphId
           graphHash := graph.graphHash
           totalNodes := graph.nodes.size
           executedNodes := if reverted then 0 else graph.topologicalOrder.length
           skippedNodes := if reverted then graph.nodes.size else 0
           failedNodes := execution.branchResults.countP fun result => !result.success
           branchResults := execution.branchResults }
       causalSummary := causalSummary verdict
       affectedObjects
       versionTransitions :=
         if reverted then []
         else versionTransitions (versionsOf store (objectIds graph)) settled affectedObjects
       gasUsed := GasCosts.defaultCosts.baseTx +
         BitVec.ofNat 64 graph.nodes.size * (objectWriteCost + GasCosts.defaultCosts.objectRead)
       epoch }, settled)

def settle (codec : Codec) (plan : CandidatePlan) (goal : GoalPacket) (store : ObjectStore)
    (domainPolicies : List DomainFinalityPolicy) (epoch : U64) :
    Except RuntimeError CRXSettlementRecord × ObjectStore :=
  match CausalPlanBuilder.build codec plan goal epoch with
  | .error e => (.error e, store)
  | .ok (graph, capsule) =>
      let (record, settled) := settleGraph codec.sha256 plan goal graph capsule store domainPolicies epoch
      (.ok record, settled)

end CRXSettlementEngine

end Omniphi.Crx
