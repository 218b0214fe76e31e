import Omniphi.Crx.Builder
import Omniphi.Runtime.Store

/-! The two checks before execution: that the capsule grants what each node does, and that the graph
keeps its own dependencies. -/

namespace Omniphi.Crx

open Omniphi.Runtime (ObjectId ObjectStore)

inductive ScopeBreachReason
  | objectNotInScope
  | actionNotAllowed
  | domainForbidden
  | spendLimitExceeded
  | capsuleExpired
  | solverMismatch
  | objectCountExceeded
deriving DecidableEq

structure RightsViolation where
  nodeId : NodeId
  breachReason : ScopeBreachReason
  detail : String

structure NodeRightsCheck where
  nodeId : NodeId
  passed : Bool
  violation : Option RightsViolation

structure RightsValidationResult where
  capsuleId : Bytes32
  allPassed : Bool
  nodeChecks : List NodeRightsCheck
  violations : List RightsViolation
  totalSpend : U128
  objectsTouched : Nat

namespace RightsValidationEngine

def nodeToActionType (node : CausalNode) : Option AllowedActionType :=
  match node.executionClass with
  | .readObject | .checkBalance | .checkPolicy | .reserveLiquidity => some .read
  | .mutateBalance => some (if node.isDebit then .debitBalance else .creditBalance)
  | .swapPoolAmounts => some .swapPoolAmounts
  | .lockObject => some .lockBalance
  | .unlockObject => some .unlockBalance
  | .createObject => some .createObject
  | .finalizeSettlement => some .updateVersion
  | .emitReceipt => some .emitReceipt
  | .invokeSafetyHook => some .invokeSafetyHook
  | .branchGate => none
  | .contractStateTransition .. => some .updateVersion

section Checks

variable (capsule : RightsCapsule) (node : CausalNode)

def checkAction : Option RightsViolation :=
  (nodeToActionType node).bind fun action =>
    if capsule.canPerformAction action then none
    else some ⟨node.nodeId, .actionNotAllowed, "action " ++ action.debug ++ " not in capsule scope"⟩

/-- An object that is not in the store has no type to check, only its id. -/
def checkObject (store : ObjectStore) : Option RightsViolation :=
  node.targetObject.bind fun id =>
    match store.get id with
    | some object =>
        if capsule.canAccessObject id object.objectType then none
        else some ⟨node.nodeId, .objectNotInScope, "object " ++ Runtime.hexOf id ++ " (type " ++
          typeDebug object.objectType ++ ") not in capsule scope"⟩
    | none =>
        if capsule.scope.allowedObjectIds.isEmpty || capsule.scope.allowedObjectIds.contains id then none
        else some ⟨node.nodeId, .objectNotInScope, "object " ++ Runtime.hexOf id ++
          " not in capsule allowed_object_ids"⟩

def checkDomain : Option RightsViolation :=
  node.domainTag.bind fun domain =>
    if capsule.scope.domainEnvelope.isDomainAllowed domain then none
    else some ⟨node.nodeId, .domainForbidden, "domain '" ++ domain ++ "' is forbidden in capsule scope"⟩

def checkSpend (cumulativeSpend : U128) : Option RightsViolation :=
  (RightsSynthesizer.spend node).bind fun amount =>
    let newSpend := MachineInt.saturatingAdd cumulativeSpend amount
    if 0 < capsule.scope.maxSpend ∧ capsule.scope.maxSpend < newSpend then
      some ⟨node.nodeId, .spendLimitExceeded, "cumulative spend " ++ toString newSpend.toNat ++
        " would exceed max_spend " ++ toString capsule.scope.maxSpend.toNat⟩
    else none

def checkNode (store : ObjectStore) (cumulativeSpend : U128) : NodeRightsCheck :=
  let violation := checkAction capsule node <|> checkObject capsule node store <|>
    checkDomain capsule node <|> checkSpend capsule node cumulativeSpend
  { nodeId := node.nodeId, passed := violation.isNone, violation }

end Checks

structure Tally where
  nodeChecks : List NodeRightsCheck
  violations : List RightsViolation
  cumulativeSpend : U128
  objectsTouched : BTreeSet ObjectId

def visit (graph : CausalGraph) (capsule : RightsCapsule) (store : ObjectStore) (tally : Tally)
    (nodeId : NodeId) : Tally :=
  match graph.nodes[nodeId]? with
  | none => tally
  | some node =>
      let check := checkNode capsule node store tally.cumulativeSpend
      match check.violation with
      | some violation =>
          { tally with
            nodeChecks := tally.nodeChecks ++ [check], violations := tally.violations ++ [violation] }
      | none =>
          let cumulativeSpend := match RightsSynthesizer.spend node with
            | some amount => MachineInt.saturatingAdd tally.cumulativeSpend amount
            | none => tally.cumulativeSpend
          let objectsTouched := match node.accessType, node.targetObject with
            | .write, some id => tally.objectsTouched.insert id
            | _, _ => tally.objectsTouched
          let limit := capsule.scope.maxObjectsTouched
          if 0 < limit ∧ limit < objectsTouched.size then
            let violation : RightsViolation := ⟨nodeId, .objectCountExceeded, "objects touched " ++
              toString objectsTouched.size ++ " exceeds max " ++ toString limit⟩
            { nodeChecks := tally.nodeChecks ++ [⟨nodeId, false, some violation⟩]
              violations := tally.violations ++ [violation], cumulativeSpend, objectsTouched }
          else { tally with nodeChecks := tally.nodeChecks ++ [check], cumulativeSpend, objectsTouched }

def refuseAll (graph : CausalGraph) (capsule : RightsCapsule) (breachReason : ScopeBreachReason)
    (detail : String) : RightsValidationResult :=
  { capsuleId := capsule.capsuleId, allPassed := false
    nodeChecks := graph.topologicalOrder.map fun nodeId =>
      ⟨nodeId, false, some ⟨nodeId, breachReason, detail⟩⟩
    violations := graph.topologicalOrder.map fun nodeId => ⟨nodeId, breachReason, detail⟩
    totalSpend := 0, objectsTouched := 0 }

def validate (graph : CausalGraph) (capsule : RightsCapsule) (store : ObjectStore) (epoch : U64)
    (requestingSolverId : Bytes32) : RightsValidationResult :=
  if capsule.authorizedSolverId ≠ requestingSolverId then
    refuseAll graph capsule .solverMismatch ("capsule authorized solver " ++
      Runtime.hexOf capsule.authorizedSolverId ++ ", got " ++ Runtime.hexOf requestingSolverId)
  else if !capsule.isValidAtEpoch epoch then
    refuseAll graph capsule .capsuleExpired ("capsule valid [" ++ toString capsule.validFromEpoch.toNat ++
      ", " ++ toString capsule.validUntilEpoch.toNat ++ "], current epoch " ++ toString epoch.toNat)
  else
    let tally := graph.topologicalOrder.foldl (visit graph capsule store) ⟨[], [], 0, ∅⟩
    { capsuleId := capsule.capsuleId, allPassed := tally.violations.isEmpty
      nodeChecks := tally.nodeChecks, violations := tally.violations, totalSpend := tally.cumulativeSpend
      objectsTouched := tally.objectsTouched.size }

end RightsValidationEngine

inductive CausalViolation
  | missingDependency (nodeId : NodeId) (missingDepKind : NodeDependencyKind) (detail : String)
  | unauthorizedPath (nodeId : NodeId) (detail : String)
  | skippedValidationNode (validationNode : NodeId)
  | branchBypass (gateNode bypassedNode : NodeId)
  | forbiddenDomain (domain : String)
  | cycleDetected

structure CausalAuditRecord where
  graphId : Bytes32
  totalNodesValidated : Nat
  causalViolations : List CausalViolation
  allDependenciesSatisfied : Bool
  noUnauthorizedPaths : Bool
  noSkippedValidation : Bool
  auditHash : Bytes32

def CausalAuditRecord.computeAuditHash (sha256 : Sha256) (graphId : Bytes32) (totalNodes violationCount : Nat)
    (allDep noUnauth noSkip : Bool) : Bytes32 :=
  sha256 (beBytes 32 graphId ++ leBytes 8 (BitVec.ofNat 64 totalNodes) ++
    leBytes 8 (BitVec.ofNat 64 violationCount) ++
    [allDep, noUnauth, noSkip].map fun flag => if flag then 1 else 0)

structure CausalValidityResult where
  graphId : Bytes32
  isCausallyValid : Bool
  violations : List CausalViolation
  audit : CausalAuditRecord

namespace CausalValidityEngine

variable (graph : CausalGraph)

def position : BTreeMap NodeId Nat :=
  graph.topologicalOrder.zipIdx.foldl (fun position entry => position.insert entry.1 entry.2) ∅

def debugNode (nodeId : NodeId) : String := "NodeId(" ++ toString nodeId.toNat ++ ")"

def isCheck (node : CausalNode) : Bool :=
  node.executionClass = .checkBalance ∨ node.executionClass = .checkPolicy ∨
    node.executionClass = .readObject

def checkOrder (edge : CausalEdge) : List CausalViolation :=
  match (position graph)[edge.fromNode]?, (position graph)[edge.toNode]? with
  | some fromPos, some toPos =>
      if toPos ≤ fromPos then
        [.missingDependency edge.toNode edge.dependencyKind ("node " ++ debugNode edge.toNode ++
          " dependency on " ++ debugNode edge.fromNode ++ " violated in topological order (from_pos=" ++
          toString fromPos ++ ", to_pos=" ++ toString toPos ++ ")")]
      else []
  | _, _ =>
      [.missingDependency edge.toNode edge.dependencyKind ("node " ++ debugNode edge.fromNode ++ " or " ++
        debugNode edge.toNode ++ " missing from topological order")]

def checkPath (edge : CausalEdge) : List CausalViolation :=
  match edge.dependencyKind, graph.nodes[edge.fromNode]?, graph.nodes[edge.toNode]? with
  | .policyDependent, some source, some node =>
      if node.accessType = .write ∧ !isCheck source then
        [.unauthorizedPath node.nodeId ("Write node " ++ debugNode node.nodeId ++
          " has PolicyDependent edge from non-check node " ++ debugNode source.nodeId)]
      else []
  | _, _, _ => []

def checkDependenciesSatisfied : List CausalViolation :=
  (graph.edges.filter fun edge => edge.isCritical).flatMap fun edge =>
    checkOrder graph edge ++ checkPath graph edge

/-- A gate that is not in the order stands after everything, a write that is not in it before. -/
def checkNoBranchBypass : List CausalViolation :=
  (graph.values.filter fun node => node.executionClass = .branchGate).flatMap fun gate =>
    (graph.values.filter fun node => node.branchId = gate.branchId ∧ node.accessType = .write ∧
        node.nodeId ≠ gate.nodeId).flatMap fun write =>
      match (position graph)[gate.nodeId]? with
      | some gatePos =>
          if (position graph)[write.nodeId]?.getD 0 < gatePos then [.branchBypass gate.nodeId write.nodeId]
          else []
      | none => [.branchBypass gate.nodeId write.nodeId]

def checkNoForbiddenDomain (goal : GoalPacket) : List CausalViolation :=
  (graph.values.filterMap CausalNode.domainTag).flatMap fun domain =>
    if domain ∈ goal.constraints.forbiddenDomains then [.forbiddenDomain domain] else []

def needsValidation (node : CausalNode) : Bool :=
  node.accessType = .write ∧
    ((node.executionClass = .mutateBalance ∧ node.metadata["debit_direction"]? ≠ some "credit") ∨
      node.executionClass = .swapPoolAmounts)

def hasValidation (node : CausalNode) : Bool :=
  graph.values.any fun other => isCheck other && other.targetObject = node.targetObject &&
    match (position graph)[other.nodeId]? with
    | some checkPos => decide (checkPos < (position graph)[node.nodeId]?.getD 0)
    | none => false

def checkValidationNodesNotSkipped : List CausalViolation :=
  (graph.values.filter fun node => needsValidation node).flatMap fun node =>
    if (graph.dependenciesOf node.nodeId).any fun edge => edge.dependencyKind = .policyDependent then []
    else if hasValidation graph node then []
    else [.skippedValidationNode node.nodeId]

def allViolations (goal : GoalPacket) : List CausalViolation :=
  (match graph.validateAcyclic with
    | .error _ => [.cycleDetected]
    | .ok () => []) ++
    checkDependenciesSatisfied graph ++ checkNoBranchBypass graph ++ checkNoForbiddenDomain graph goal ++
    checkValidationNodesNotSkipped graph

def validate (sha256 : Sha256) (goal : GoalPacket) : CausalValidityResult :=
  let violations := allViolations graph goal
  let allDep := !violations.any fun violation => violation matches .missingDependency ..
  let noUnauth := !violations.any fun violation => violation matches .unauthorizedPath ..
  let noSkip := !violations.any fun violation => violation matches .skippedValidationNode ..
  { graphId := graph.graphId
    isCausallyValid := violations.isEmpty
    violations
    audit :=
      { graphId := graph.graphId
        totalNodesValidated := graph.nodes.size
        causalViolations := violations
        allDependenciesSatisfied := allDep
        noUnauthorizedPaths := noUnauth
        noSkippedValidation := noSkip
        auditHash := CausalAuditRecord.computeAuditHash sha256 graph.graphId graph.nodes.size
          violations.length allDep noUnauth noSkip } }

end CausalValidityEngine

end Omniphi.Crx
