import Omniphi.Crx.Graph
import Omniphi.Runtime.Store
import Omniphi.Text

/-! Execution of a causal graph, branch by branch. What a node wrote before it failed stays in the store:
the executor itself undoes nothing. -/

namespace Omniphi.Crx

open Omniphi.Runtime (ObjectId ObjectStore BalanceObject LiquidityPoolObject RuntimeError)

inductive BranchFailureMode
  | revert
  | downgrade
  | quarantine
  | ignore
deriving DecidableEq

structure DowngradeAction where
  branchId : U32
  reducedAmount : U128
  skippedNodes : List NodeId
  reason : String

structure QuarantineAction where
  branchId : U32
  quarantinedObjects : List ObjectId
  reason : String

inductive ExecutionSettlementClass
  | fullSuccess
  | successWithDowngrade (branchId : U32)
  | successWithQuarantine (objects : List ObjectId)
  | partialSuccess (succeededBranches failedBranches : List U32)
  | fullRevert
  | rejected
deriving DecidableEq

structure BranchExecutionResult where
  branchId : U32
  success : Bool
  failureMode : Option BranchFailureMode
  downgrade : Option DowngradeAction
  quarantine : Option QuarantineAction
  mutatedObjects : List ObjectId
  error : Option String

namespace BranchAwareExecutor

section Node

abbrev Outcome := ObjectStore × Except RuntimeError Unit

variable (node : CausalNode) (store : ObjectStore)

def onTarget (name : String) (run : ObjectId → Outcome) : Outcome :=
  match node.targetObject with
  | some id => run id
  | none => (store, .error (.causalViolation (name ++ " node has no target_object")))

def onBalance (id : ObjectId) (run : BalanceObject → Outcome) : Outcome :=
  match store.getBalanceById id with
  | some balance => run balance
  | none => (store, .error (.objectNotFound id))

def readObject : Outcome :=
  match node.targetObject with
  | some id => (store, if (store.get id).isSome then .ok () else .error (.objectNotFound id))
  | none => (store, .ok ())

def checkBalance : Outcome :=
  match node.targetObject with
  | some id => onBalance store id fun balance =>
      let minAmount := node.amount.getD 0
      if balance.available < minAmount then (store, .error (.insufficientBalance minAmount balance.available))
      else (store, .ok ())
  | none => (store, .ok ())

def mutateBalance : Outcome :=
  onTarget node store "MutateBalance" fun id => onBalance store id fun balance =>
    let amount := node.amount.getD 0
    if node.isDebit then
      if balance.available < amount then (store, .error (.insufficientBalance amount balance.available))
      else match MachineInt.checkedSub balance.amount amount with
        | none => (store, .error (.insufficientBalance amount balance.amount))
        | some rest =>
            (store.modifyBalance id (fun b => { b with amount := rest }) (fun b => b.id_amount rest), .ok ())
    else
      (store.modifyBalance id (fun b => { b with amount := MachineInt.saturatingAdd b.amount amount })
        (fun _ => rfl), .ok ())

def delta (key : String) : I128 := (node.metadata[key]?.bind parseI128).getD 0

/-- The reserve after the delta. Like its negation in the source, `-delta` wraps at the smallest `i128`. -/
def applyDelta (reserve : U128) (delta : I128) : Except RuntimeError U128 :=
  if delta.msb then
    if reserve < -delta then .error (.insufficientBalance (-delta) reserve) else .ok (reserve - -delta)
  else .ok (MachineInt.saturatingAdd reserve delta)

def swapPoolAmounts : Outcome :=
  onTarget node store "SwapPoolAmounts" fun id =>
    match store.getPoolById id with
    | none => (store, .error (.objectNotFound id))
    | some pool =>
        match applyDelta pool.reserveA (delta node "delta_a") with
        | .error e => (store, .error e)
        | .ok reserveA =>
            let store := store.modifyPool id (fun p => { p with reserveA }) (fun p => p.id_reserveA reserveA)
            match applyDelta pool.reserveB (delta node "delta_b") with
            | .error e => (store, .error e)
            | .ok reserveB =>
                (store.modifyPool id (fun p => { p with reserveB }) (fun p => p.id_reserveB reserveB), .ok ())

def lockObject : Outcome :=
  onTarget node store "LockObject" fun id => onBalance store id fun balance =>
    let amount := node.amount.getD 0
    if balance.available < amount then (store, .error (.insufficientBalance amount balance.available))
    else
      (store.modifyBalance id
        (fun b => { b with lockedAmount := MachineInt.saturatingAdd b.lockedAmount amount }) (fun _ => rfl),
        .ok ())

def unlockObject : Outcome :=
  onTarget node store "UnlockObject" fun id => onBalance store id fun _ =>
    (store.modifyBalance id
      (fun b => { b with lockedAmount := MachineInt.saturatingSub b.lockedAmount (node.amount.getD 0) })
      (fun _ => rfl), .ok ())

def bumpTarget (id : ObjectId) : ObjectStore :=
  if (store.getBalanceById id).isSome then
    store.modifyBalance id (fun b => { b with info.version := b.info.version + 1 }) BalanceObject.id_bumped
  else if (store.getPoolById id).isSome then
    store.modifyPool id (fun p => { p with info.version := p.info.version + 1 })
      LiquidityPoolObject.id_bumped
  else store.modifyInfo id (fun info => { info with version := info.version + 1 })
    Runtime.ObjectMeta.id_bumped

def finalizeSettlement : Outcome :=
  match node.targetObject with
  | some id => (bumpTarget store id, .ok ())
  | none => (store, .ok ())

def executeNode : Outcome :=
  match node.executionClass with
  | .readObject => readObject node store
  | .checkBalance | .checkPolicy => checkBalance node store
  | .mutateBalance => mutateBalance node store
  | .swapPoolAmounts => swapPoolAmounts node store
  | .lockObject => lockObject node store
  | .unlockObject => unlockObject node store
  | .finalizeSettlement => finalizeSettlement node store
  | .contractStateTransition .. | .branchGate | .emitReceipt | .invokeSafetyHook | .createObject
  | .reserveLiquidity => (store, .ok ())

end Node

section Branch

structure BranchRun where
  store : ObjectStore
  mutatedObjects : List ObjectId
  failure : Option (NodeId × RuntimeError)

def noteMutation (mutatedObjects : List ObjectId) (node : CausalNode) : List ObjectId :=
  match node.targetObject, node.executionClass with
  | some id, .mutateBalance | some id, .swapPoolAmounts | some id, .lockObject | some id, .unlockObject
  | some id, .finalizeSettlement => if id ∈ mutatedObjects then mutatedObjects else mutatedObjects ++ [id]
  | _, _ => mutatedObjects

variable (graph : CausalGraph)

def branchNodeIds (branchId : U32) : List NodeId :=
  graph.topologicalOrder.filter fun id => (graph.nodes[id]?).any fun node => node.branchId = branchId

def runNodes : List NodeId → ObjectStore → List ObjectId → BranchRun
  | [], store, mutatedObjects => ⟨store, mutatedObjects, none⟩
  | nodeId :: rest, store, mutatedObjects =>
      match graph.nodes[nodeId]? with
      | none => runNodes rest store mutatedObjects
      | some node =>
          match executeNode node store with
          | (next, .ok ()) => runNodes rest next (noteMutation mutatedObjects node)
          | (next, .error e) => ⟨next, mutatedObjects, some (nodeId, e)⟩

def determineFailureMode (policy : PartialFailurePolicy) (capsule : RightsCapsule) (failureAllowed : Bool) :
    BranchFailureMode :=
  match policy with
  | .strictAllOrNothing => .revert
  | .allowBranchDowngrade => if capsule.scope.allowDowngrade then .downgrade else .revert
  | .quarantineOnFailure => if capsule.scope.quarantineEligible then .quarantine else .revert
  | .downgradeAndContinue =>
      if capsule.scope.allowDowngrade then .downgrade else if failureAllowed then .ignore else .revert

structure Execution where
  store : ObjectStore
  branchResults : List BranchExecutionResult
  allSucceeded : List U32
  allFailed : List U32
  allQuarantined : List ObjectId
  anyDowngrade : Option U32

variable {graph} (execution : Execution) (branchId : U32) (run : BranchRun)

def noteSuccess : Execution :=
  { execution with
    store := run.store
    allSucceeded := execution.allSucceeded ++ [branchId]
    branchResults := execution.branchResults ++
      [{ branchId, success := true, failureMode := none, downgrade := none, quarantine := none
         mutatedObjects := run.mutatedObjects, error := none }] }

variable (failedNode : NodeId) (reason : String)

/-- A reverted and an ignored branch leave the same trace, apart from the mode. -/
def noteFailed (mode : BranchFailureMode) : Execution :=
  { execution with
    store := run.store
    allFailed := execution.allFailed ++ [branchId]
    branchResults := execution.branchResults ++
      [{ branchId, success := false, failureMode := some mode, downgrade := none, quarantine := none
         mutatedObjects := run.mutatedObjects, error := some reason }] }

def noteDowngrade (skippedNodes : List NodeId) : Execution :=
  { execution with
    store := run.store
    anyDowngrade := some branchId
    allSucceeded := execution.allSucceeded ++ [branchId]
    branchResults := execution.branchResults ++
      [{ branchId, success := true, failureMode := some .downgrade
         downgrade := some { branchId, reducedAmount := 0, skippedNodes, reason }
         quarantine := none, mutatedObjects := run.mutatedObjects, error := some reason }] }

def noteQuarantine (quarantined : List ObjectId) : Execution :=
  { execution with
    store := run.store
    allFailed := execution.allFailed ++ [branchId]
    allQuarantined := execution.allQuarantined ++ quarantined
    branchResults := execution.branchResults ++
      [{ branchId, success := false, failureMode := some .quarantine, downgrade := none
         quarantine := some { branchId, quarantinedObjects := quarantined, reason }
         mutatedObjects := run.mutatedObjects, error := some reason }] }

variable (graph) in
def noteFailure (mode : BranchFailureMode) : Execution :=
  match mode with
  | .revert => noteFailed execution branchId run reason .revert
  | .ignore => noteFailed execution branchId run reason .ignore
  | .downgrade =>
      let ids := branchNodeIds graph branchId
      noteDowngrade execution branchId run reason (ids.drop (ids.idxOf failedNode + 1))
  | .quarantine =>
      noteQuarantine execution branchId run reason
        ((graph.nodes[failedNode]?).bind CausalNode.targetObject).toList

end Branch

def settlementClass (policy : PartialFailurePolicy) (execution : Execution) : ExecutionSettlementClass :=
  if execution.allFailed.isEmpty then
    match execution.anyDowngrade with
    | some branchId => .successWithDowngrade branchId
    | none =>
        if execution.allQuarantined.isEmpty then .fullSuccess
        else .successWithQuarantine execution.allQuarantined
  else if execution.allSucceeded.isEmpty then .fullRevert
  else match policy with
    | .quarantineOnFailure => .successWithQuarantine execution.allQuarantined
    | .allowBranchDowngrade | .downgradeAndContinue =>
        .partialSuccess execution.allSucceeded execution.allFailed
    | .strictAllOrNothing => .fullRevert

section Graph

variable (graph : CausalGraph) (capsule : RightsCapsule) (goal : GoalPacket)

/-- Under the strict policy the first failure ends the execution. -/
def executeBranches : List ExecutionBranch → Execution → ExecutionSettlementClass × Execution
  | [], execution => (settlementClass goal.policy.partialFailurePolicy execution, execution)
  | branch :: rest, execution =>
      let run := runNodes graph (branchNodeIds graph branch.branchId) execution.store []
      match run.failure with
      | none => executeBranches rest (noteSuccess execution branch.branchId run)
      | some (failedNode, e) =>
          let mode := determineFailureMode goal.policy.partialFailurePolicy capsule branch.failureAllowed
          let next := noteFailure graph execution branch.branchId run failedNode e.display mode
          if mode = .revert ∧ goal.policy.partialFailurePolicy = .strictAllOrNothing then (.fullRevert, next)
          else executeBranches rest next

def execute (store : ObjectStore) : ExecutionSettlementClass × Execution :=
  executeBranches graph capsule goal graph.branches
    { store, branchResults := [], allSucceeded := [], allFailed := [], allQuarantined := []
      anyDowngrade := none }

end Graph

end BranchAwareExecutor

end Omniphi.Crx
