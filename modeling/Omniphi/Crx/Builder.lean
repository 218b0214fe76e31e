import Omniphi.Bincode
import Omniphi.Crx.Graph
import Omniphi.Runtime.Market

/-! From a candidate plan to a causal graph and the capsule that covers it. -/

namespace Omniphi.Crx

open Omniphi.Runtime (ObjectId PlanAction CandidatePlan RuntimeError decodeBytes32)

section Nodes

variable (action : PlanAction)

def shortHex (id : ObjectId) : String := hexEncode ((beBytes 32 id).take 4)

def firstBytes : Nat → List Char → List Char
  | _, [] => []
  | limit, c :: rest =>
      if c.utf8Size ≤ limit then c :: firstBytes (limit - c.utf8Size) rest else []

/-- The first eight bytes of a schema id. The source cuts the text at the eighth byte and panics when
that falls inside a character; here the text then ends before the character. -/
def shortSchema (schemaHex : String) : String := String.ofList (firstBytes 8 schemaHex.toList)

def actionNode (label : String) (executionClass : NodeExecutionClass) (accessType : NodeAccessType)
    (amount : Option U128) (domainTag : Option String) (metadata : BTreeMap String String)
    (nodeId : NodeId) : CausalNode :=
  { nodeId, label, executionClass, accessType, targetObject := some action.targetObject, amount
    branchId := 0, domainTag, metadata }

def checkNode (subject : String) (domainTag : Option String) : NodeId → CausalNode :=
  actionNode action ("CheckBalance(" ++ subject ++ ":" ++ shortHex action.targetObject ++ ")")
    .checkBalance .validationOnly action.amount domainTag ∅

def mutateNode (direction : String) (domainTag : Option String) : NodeId → CausalNode :=
  actionNode action ("MutateBalance(" ++ direction ++ ":" ++ shortHex action.targetObject ++ ")")
    .mutateBalance .write action.amount domainTag (action.metadata.insert "debit_direction" direction)

def writeNode (name : String) (executionClass : NodeExecutionClass) : NodeId → CausalNode :=
  actionNode action (name ++ "(" ++ shortHex action.targetObject ++ ")") executionClass .write
    action.amount none action.metadata

def finalizeNode : NodeId → CausalNode :=
  actionNode action ("FinalizeSettlement(" ++ shortHex action.targetObject ++ ")") .finalizeSettlement
    .settlementOnly none none ∅

def contractNode (schemaHex method : String) : NodeId → CausalNode :=
  actionNode action ("Contract(" ++ shortSchema schemaHex ++ "." ++ method ++ ")")
    (.contractStateTransition (decodeBytes32 schemaHex) method) .write action.amount
    (some ("contract." ++ shortSchema schemaHex)) action.metadata

def rootNode (nodeId : NodeId) : CausalNode :=
  { nodeId, label := "FinalizeSettlement(root)", executionClass := .finalizeSettlement
    accessType := .settlementOnly, targetObject := none, amount := none, branchId := 0
    domainTag := none, metadata := ∅ }

end Nodes

structure Assembly where
  nodes : BTreeMap NodeId CausalNode
  edges : List CausalEdge
  nextId : U32
  lastMutationNode : Option NodeId
  allMutationNodes : List NodeId

namespace Assembly

def start : Assembly :=
  { nodes := ∅, edges := [], nextId := 0, lastMutationNode := none, allMutationNodes := [] }

variable (assembly : Assembly)

def follow (node : NodeId) (dependencyKind : NodeDependencyKind) (isCritical : Bool) : List CausalEdge :=
  assembly.lastMutationNode.toList.map fun prev =>
    { fromNode := prev, toNode := node, dependencyKind, isCritical }

def pushMutation (node : NodeId → CausalNode) (dependencyKind : NodeDependencyKind)
    (isCritical : Bool) : Assembly :=
  let nodeId := assembly.nextId
  { nodes := assembly.nodes.insert nodeId (node nodeId)
    edges := assembly.edges ++ assembly.follow nodeId dependencyKind isCritical
    nextId := nodeId + 1
    lastMutationNode := some nodeId
    allMutationNodes := assembly.allMutationNodes ++ [nodeId] }

def pushChecked (check mutate : NodeId → CausalNode) (dependencyKind : NodeDependencyKind) : Assembly :=
  let checkId := assembly.nextId
  let mutateId := checkId + 1
  { nodes := (assembly.nodes.insert checkId (check checkId)).insert mutateId (mutate mutateId)
    edges := assembly.edges ++ { fromNode := checkId, toNode := mutateId, dependencyKind, isCritical := true } ::
      assembly.follow checkId .orderingOnly false
    nextId := mutateId + 1
    lastMutationNode := some mutateId
    allMutationNodes := assembly.allMutationNodes ++ [mutateId] }

def addAction (action : PlanAction) : Assembly :=
  match action.actionType with
  | .debitBalance =>
      let domainTag := action.metadata["domain_tag"]?
      assembly.pushChecked (checkNode action "debit" domainTag) (mutateNode action "debit" domainTag)
        .policyDependent
  | .creditBalance => assembly.pushMutation (mutateNode action "credit" none) .stateDependent true
  | .swapPoolAmounts =>
      assembly.pushChecked (checkNode action "pool_reserves" none)
        (writeNode action "SwapPoolAmounts" .swapPoolAmounts) .stateDependent
  | .lockBalance => assembly.pushMutation (writeNode action "LockObject" .lockObject) .orderingOnly false
  | .unlockBalance =>
      assembly.pushMutation (writeNode action "UnlockObject" .unlockObject) .orderingOnly false
  | .custom method =>
      if method = "update_version" then assembly.pushMutation (finalizeNode action) .orderingOnly false
      else match action.metadata["schema_id"]? with
        | some schemaHex => assembly.pushMutation (contractNode action schemaHex method) .stateDependent true
        | none => assembly.pushMutation (writeNode action "Custom" .emitReceipt) .stateDependent false

def needsFinalize : Bool :=
  !assembly.nodes.toList.any fun entry =>
    entry.2.executionClass = .finalizeSettlement ∧ entry.2.branchId = 0

def addRoot : Assembly :=
  if assembly.needsFinalize && !assembly.allMutationNodes.isEmpty then
    let nodeId := assembly.nextId
    { assembly with
      nodes := assembly.nodes.insert nodeId (rootNode nodeId)
      edges := assembly.edges ++ assembly.allMutationNodes.map fun mutation =>
        { fromNode := mutation, toNode := nodeId, dependencyKind := .orderingOnly, isCritical := false } }
  else assembly

end Assembly

namespace GraphAssembler

def assembly (plan : CandidatePlan) : Assembly :=
  (plan.actions.foldl Assembly.addAction .start).addRoot

/-- All nodes stand in one branch. -/
def assemble (sha256 : Sha256) (encode : CausalNode → Bytes) (plan : CandidatePlan) (goal : GoalPacket) :
    CausalGraph :=
  let assembly := assembly plan
  let topologicalOrder := CausalGraph.computeTopologicalOrder assembly.nodes assembly.edges
  let graph : CausalGraph :=
    { graphId := sha256 (beBytes 32 plan.planId ++ beBytes 32 goal.packetId)
      goalPacketId := goal.packetId
      nodes := assembly.nodes
      edges := assembly.edges
      branches :=
        [{ branchId := 0, nodes := topologicalOrder, isMain := true
           failureAllowed := goal.policy.partialFailurePolicy ≠ .strictAllOrNothing }]
      topologicalOrder
      graphHash := 0 }
  { graph with graphHash := graph.computeHash sha256 encode }

end GraphAssembler

namespace RightsSynthesizer

def coveredObject (node : CausalNode) : Option ObjectId :=
  match node.accessType with
  | .write | .settlementOnly | .validationOnly => node.targetObject
  | .read | .conditional => none

def grantedActions (node : CausalNode) : List AllowedActionType :=
  match node.executionClass with
  | .readObject | .checkBalance | .checkPolicy => [.read]
  | .mutateBalance => [if node.isDebit then .debitBalance else .creditBalance]
  | .swapPoolAmounts => [.swapPoolAmounts, .debitBalance, .creditBalance]
  | .lockObject => [.lockBalance]
  | .unlockObject => [.unlockBalance]
  | .finalizeSettlement => [.updateVersion, .emitReceipt]
  | .emitReceipt => [.emitReceipt]
  | .invokeSafetyHook => [.invokeSafetyHook]
  | .createObject => [.createObject]
  | .reserveLiquidity | .branchGate | .contractStateTransition .. => []

def spend (node : CausalNode) : Option U128 :=
  if node.executionClass = .mutateBalance ∧ node.isDebit then node.amount else none

structure FailureRights where
  allowRollback : Bool
  allowDowngrade : Bool
  quarantineEligible : Bool

def failureRights : PartialFailurePolicy → FailureRights
  | .strictAllOrNothing => ⟨true, false, false⟩
  | .allowBranchDowngrade => ⟨false, true, false⟩
  | .quarantineOnFailure => ⟨false, false, true⟩
  | .downgradeAndContinue => ⟨false, true, false⟩

/-- The goal's object types come in with each node, so an empty graph gets none of them. -/
def scopeOf (graph : CausalGraph) (goal : GoalPacket) : RightsScope :=
  let rights := failureRights goal.policy.partialFailurePolicy
  { allowedObjectIds := Std.ExtTreeSet.ofList (graph.values.filterMap coveredObject) compare
    allowedObjectTypes :=
      Std.ExtTreeSet.ofList (graph.values.flatMap fun _ => goal.constraints.allowedObjectTypes) compare
    allowedActions := Std.ExtTreeSet.ofList (.read :: graph.values.flatMap grantedActions) compare
    domainEnvelope :=
      { allowedDomains := Std.ExtTreeSet.ofList goal.constraints.allowedDomains compare
        forbiddenDomains := Std.ExtTreeSet.ofList goal.constraints.forbiddenDomains compare }
    maxSpend := (graph.values.filterMap spend).foldl MachineInt.saturatingAdd 0
    maxObjectsTouched := goal.constraints.maxObjectsTouched
    allowRollback := rights.allowRollback
    allowDowngrade := rights.allowDowngrade
    quarantineEligible := rights.quarantineEligible }

def synthesize (sha256 : Sha256) (encode : RightsScope → Bytes) (graph : CausalGraph) (goal : GoalPacket)
    (solverId : Bytes32) (epoch : U64) : RightsCapsule :=
  let capsule : RightsCapsule :=
    { capsuleId := sha256 (beBytes 32 graph.graphId ++ beBytes 32 solverId)
      goalPacketId := goal.packetId
      authorizedSolverId := solverId
      scope := scopeOf graph goal
      validFromEpoch := epoch
      validUntilEpoch := goal.deadlineEpoch
      capsuleHash := 0
      metadata := ∅ }
  { capsule with capsuleHash := capsule.computeHash sha256 encode }

end RightsSynthesizer

structure Codec where
  sha256 : Sha256
  encodeNode : CausalNode → Bytes
  encodeScope : RightsScope → Bytes

/-! The two records in the format of `bincode`. -/

namespace Bincode

open Omniphi.Bincode

def executionClass (value : NodeExecutionClass) : Bytes :=
  variant value.ctorIdx ++ match value with
    | .contractStateTransition schemaId method => beBytes 32 schemaId ++ text method
    | _ => []

def objectType (value : Runtime.ObjectType) : Bytes :=
  variant value.ctorIdx ++ match value with
    | .contract schemaId => beBytes 32 schemaId
    | _ => []

def node (value : CausalNode) : Bytes :=
  leBytes 4 value.nodeId ++ text value.label ++ executionClass value.executionClass ++
    variant value.accessType.ctorIdx ++ optional (beBytes 32) value.targetObject ++
    optional (leBytes 16) value.amount ++ leBytes 4 value.branchId ++ optional text value.domainTag ++
    leBytes 8 (0 : U64) ++ sequence (fun entry => text entry.1 ++ text entry.2) value.metadata.toList

def scope (value : RightsScope) : Bytes :=
  sequence (beBytes 32) value.allowedObjectIds.toList ++
    sequence objectType value.allowedObjectTypes.toList ++
    sequence (fun action => variant action.ctorIdx) value.allowedActions.toList ++
    sequence text value.domainEnvelope.allowedDomains.toList ++
    sequence text value.domainEnvelope.forbiddenDomains.toList ++ leBytes 16 value.maxSpend ++
    leBytes 8 (BitVec.ofNat 64 value.maxObjectsTouched) ++ flag value.allowRollback ++
    flag value.allowDowngrade ++ flag value.quarantineEligible

end Bincode

def Codec.bincode (sha256 : Sha256) : Codec :=
  { sha256, encodeNode := Bincode.node, encodeScope := Bincode.scope }

namespace CausalPlanBuilder

def build (codec : Codec) (plan : CandidatePlan) (goal : GoalPacket) (epoch : U64) :
    Except RuntimeError (CausalGraph × RightsCapsule) := do
  let graph := GraphAssembler.assemble codec.sha256 codec.encodeNode plan goal
  graph.validateAcyclic
  return (graph, RightsSynthesizer.synthesize codec.sha256 codec.encodeScope graph goal plan.solverId epoch)

end CausalPlanBuilder

end Omniphi.Crx
