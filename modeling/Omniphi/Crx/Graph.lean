import Omniphi.Lib.Kahn
import Omniphi.Runtime.Errors

/-! Goals, causal graphs and the capsules of rights that go with them. -/

namespace Omniphi.Crx

open Omniphi.Runtime (ObjectId ObjectType SchemaId RuntimeError debugBytes)

abbrev NodeId := U32

inductive PartialFailurePolicy
  | strictAllOrNothing
  | allowBranchDowngrade
  | quarantineOnFailure
  | downgradeAndContinue
deriving DecidableEq

inductive SettlementStrictness
  | strict
  | lenient
  | provisional
deriving DecidableEq

structure GoalConstraints where
  allowedObjectTypes : List ObjectType
  allowedDomains : List String
  forbiddenDomains : List String
  maxObjectsTouched : Nat

structure GoalPolicyEnvelope where
  partialFailurePolicy : PartialFailurePolicy
  settlementStrictness : SettlementStrictness

structure GoalPacket where
  packetId : Bytes32
  constraints : GoalConstraints
  policy : GoalPolicyEnvelope
  deadlineEpoch : U64

inductive NodeExecutionClass
  | readObject
  | checkPolicy
  | checkBalance
  | reserveLiquidity
  | mutateBalance
  | swapPoolAmounts
  | lockObject
  | unlockObject
  | createObject
  | emitReceipt
  | invokeSafetyHook
  | finalizeSettlement
  | branchGate
  | contractStateTransition (schemaId : SchemaId) (method : String)
deriving DecidableEq

inductive NodeAccessType
  | read
  | write
  | conditional
  | validationOnly
  | settlementOnly
deriving DecidableEq

structure CausalNode where
  nodeId : NodeId
  label : String
  executionClass : NodeExecutionClass
  accessType : NodeAccessType
  targetObject : Option ObjectId
  amount : Option U128
  branchId : U32
  domainTag : Option String
  metadata : BTreeMap String String

def CausalNode.isDebit (node : CausalNode) : Bool :=
  node.metadata["debit_direction"]? = some "debit"

inductive NodeDependencyKind
  | stateDependent
  | policyDependent
  | oracleDependent
  | rightsDependent
  | domainDependent
  | orderingOnly
deriving DecidableEq

structure CausalEdge where
  fromNode : NodeId
  toNode : NodeId
  dependencyKind : NodeDependencyKind
  isCritical : Bool
deriving DecidableEq

structure ExecutionBranch where
  branchId : U32
  nodes : List NodeId
  isMain : Bool
  failureAllowed : Bool

structure CausalGraph where
  graphId : Bytes32
  goalPacketId : Bytes32
  nodes : BTreeMap NodeId CausalNode
  edges : List CausalEdge
  branches : List ExecutionBranch
  topologicalOrder : List NodeId
  graphHash : Bytes32

namespace CausalGraph

def computeTopologicalOrder (nodes : BTreeMap NodeId CausalNode) (edges : List CausalEdge) : List NodeId :=
  Kahn.order nodes.keys (edges.map fun edge => (edge.fromNode, edge.toNode))

/-- The hash runs over the serialized nodes, so `encode` stands for the serializer. -/
def computeHash (sha256 : Sha256) (encode : CausalNode → Bytes) (graph : CausalGraph) : Bytes32 :=
  sha256 (beBytes 32 graph.graphId ++ beBytes 32 graph.goalPacketId ++
    (graph.nodes.toList.flatMap fun entry =>
      leBytes 4 entry.1 ++ leBytes 8 (BitVec.ofNat 64 (encode entry.2).length) ++ encode entry.2) ++
    graph.edges.flatMap fun edge => leBytes 4 edge.fromNode ++ leBytes 4 edge.toNode)

def validateAcyclic (graph : CausalGraph) : Except RuntimeError Unit :=
  if (computeTopologicalOrder graph.nodes graph.edges).length ≠ graph.nodes.size then
    .error (.causalViolation "cycle detected in causal graph")
  else .ok ()

def dependenciesOf (graph : CausalGraph) (nodeId : NodeId) : List CausalEdge :=
  graph.edges.filter fun edge => edge.toNode = nodeId

def values (graph : CausalGraph) : List CausalNode := graph.nodes.toList.map Prod.snd

theorem computeTopologicalOrder_complete (nodes : BTreeMap NodeId CausalNode) (edges : List CausalEdge)
    (extra : Nat) :
    let pairs := edges.map fun edge => (edge.fromNode, edge.toNode)
    let degree := Kahn.inDegree nodes.keys pairs
    Kahn.loop pairs (degree.size + extra) degree (Kahn.ready degree) [] =
      computeTopologicalOrder nodes edges :=
  Kahn.order_eq _ _ extra

end CausalGraph

section Capsule

inductive AllowedActionType
  | read
  | debitBalance
  | creditBalance
  | swapPoolAmounts
  | lockBalance
  | unlockBalance
  | createObject
  | updateVersion
  | emitReceipt
  | invokeSafetyHook
deriving DecidableEq

namespace AllowedActionType

instance : Ord AllowedActionType := ⟨compareOn AllowedActionType.ctorIdx⟩

instance : Std.TransOrd AllowedActionType :=
  inferInstanceAs (Std.TransCmp (compareOn AllowedActionType.ctorIdx))

instance : Std.LawfulEqOrd AllowedActionType :=
  BTree.lawfulEq_of_injective AllowedActionType.ctorIdx (by
    intro a b same
    cases a <;> cases b <;> first | rfl | cases same)

def debug : AllowedActionType → String
  | read => "Read"
  | debitBalance => "DebitBalance"
  | creditBalance => "CreditBalance"
  | swapPoolAmounts => "SwapPoolAmounts"
  | lockBalance => "LockBalance"
  | unlockBalance => "UnlockBalance"
  | createObject => "CreateObject"
  | updateVersion => "UpdateVersion"
  | emitReceipt => "EmitReceipt"
  | invokeSafetyHook => "InvokeSafetyHook"

end AllowedActionType

/-- Types are ordered by kind, contracts among themselves by schema. -/
def typeRank : ObjectType → Nat × Bytes32
  | .wallet => (0, 0)
  | .balance => (1, 0)
  | .token => (2, 0)
  | .liquidityPool => (3, 0)
  | .vault => (4, 0)
  | .governanceProposal => (5, 0)
  | .identity => (6, 0)
  | .executionReceipt => (7, 0)
  | .contract schemaId => (8, schemaId)

instance : Ord ObjectType := ⟨@compareOn _ _ lexOrd typeRank⟩

instance : Std.TransOrd ObjectType := inferInstanceAs (Std.TransCmp (@compareOn _ _ lexOrd typeRank))

instance : Std.LawfulEqOrd ObjectType :=
  @BTree.lawfulEq_of_injective _ _ lexOrd typeRank _ (by
    intro a b same
    cases a <;> cases b <;> simp_all [typeRank])

def typeDebug : ObjectType → String
  | .wallet => "Wallet"
  | .balance => "Balance"
  | .token => "Token"
  | .liquidityPool => "LiquidityPool"
  | .vault => "Vault"
  | .governanceProposal => "GovernanceProposal"
  | .identity => "Identity"
  | .executionReceipt => "ExecutionReceipt"
  | .contract schemaId => "Contract(" ++ debugBytes schemaId ++ ")"

structure DomainAccessEnvelope where
  allowedDomains : BTreeSet String
  forbiddenDomains : BTreeSet String

def DomainAccessEnvelope.isDomainAllowed (envelope : DomainAccessEnvelope) (domain : String) : Bool :=
  !envelope.forbiddenDomains.contains domain &&
    (envelope.allowedDomains.isEmpty || envelope.allowedDomains.contains domain)

/-- An empty id list, a `maxSpend` of zero and a `maxObjectsTouched` of zero set no limit. -/
structure RightsScope where
  allowedObjectIds : BTreeSet ObjectId
  allowedObjectTypes : BTreeSet ObjectType
  allowedActions : BTreeSet AllowedActionType
  domainEnvelope : DomainAccessEnvelope
  maxSpend : U128
  maxObjectsTouched : Nat
  allowRollback : Bool
  allowDowngrade : Bool
  quarantineEligible : Bool

structure RightsCapsule where
  capsuleId : Bytes32
  goalPacketId : Bytes32
  authorizedSolverId : Bytes32
  scope : RightsScope
  validFromEpoch : U64
  validUntilEpoch : U64
  capsuleHash : Bytes32
  metadata : BTreeMap String String

namespace RightsCapsule

variable (capsule : RightsCapsule)

def computeHash (sha256 : Sha256) (encode : RightsScope → Bytes) : Bytes32 :=
  sha256 (beBytes 32 capsule.capsuleId ++ beBytes 32 capsule.goalPacketId ++
    beBytes 32 capsule.authorizedSolverId ++
    leBytes 8 (BitVec.ofNat 64 (encode capsule.scope).length) ++ encode capsule.scope ++
    leBytes 8 capsule.validFromEpoch ++ leBytes 8 capsule.validUntilEpoch ++
    capsule.metadata.toList.flatMap fun entry => strBytes entry.1 ++ strBytes entry.2)

def isValidAtEpoch (epoch : U64) : Bool :=
  capsule.validFromEpoch ≤ epoch ∧ epoch ≤ capsule.validUntilEpoch

def canAccessObject (objectId : ObjectId) (objectType : ObjectType) : Bool :=
  (capsule.scope.allowedObjectIds.isEmpty || capsule.scope.allowedObjectIds.contains objectId) &&
    capsule.scope.allowedObjectTypes.contains objectType

def canPerformAction (action : AllowedActionType) : Bool :=
  capsule.scope.allowedActions.contains action

end RightsCapsule

end Capsule

end Omniphi.Crx
