import Omniphi.Runtime.Plan
import Omniphi.Text

/-! Candidate plans of the solver market, their hash, and the conversion between their actions and the
operations of settlement. -/

namespace Omniphi.Runtime

inductive PlanActionType
  | debitBalance
  | creditBalance
  | swapPoolAmounts
  | lockBalance
  | unlockBalance
  | custom (method : String)
deriving DecidableEq

structure PlanAction where
  actionType : PlanActionType
  targetObject : ObjectId
  amount : Option U128
  metadata : BTreeMap String String

structure PlanConstraintProof where
  constraintName : String
  declaredSatisfied : Bool
  supportingValue : Option U128
  explanation : Option String

structure CandidatePlan where
  planId : Bytes32
  intentId : Bytes32
  solverId : Bytes32
  actions : List PlanAction
  requiredCapabilities : List Capability
  objectReads : List ObjectId
  objectWrites : List ObjectId
  expectedOutputAmount : U128
  feeQuote : U64
  qualityScore : U64
  constraintProofs : List PlanConstraintProof
  planHash : Bytes32
  submittedAtSequence : U64
  explanation : Option String
  metadata : BTreeMap String String

section Hash

def capabilityTag : Capability → UInt8
  | .readObject => 0
  | .writeObject => 1
  | .transferAsset => 2
  | .swapAsset => 3
  | .provideLiquidity => 4
  | .withdrawLiquidity => 5
  | .mintAsset => 6
  | .burnAsset => 7
  | .modifyGovernance => 8
  | .updateIdentity => 9
  | .contractCall _ => 10
  | .contractAdmin _ => 11
  | .contractDeploy => 12

def amountBytes : Option U128 → Bytes
  | none => [0]
  | some amount => [1] ++ leBytes 16 amount

/-- The method of a custom action stands before the tag, without its length. -/
def PlanActionType.hashBytes : PlanActionType → Bytes
  | .debitBalance => [0]
  | .creditBalance => [1]
  | .swapPoolAmounts => [2]
  | .lockBalance => [3]
  | .unlockBalance => [4]
  | .custom method => strBytes method ++ [255]

def PlanAction.hashBytes (action : PlanAction) : Bytes :=
  action.actionType.hashBytes ++ beBytes 32 action.targetObject ++ amountBytes action.amount

def PlanConstraintProof.hashBytes (proof : PlanConstraintProof) : Bytes :=
  strBytes proof.constraintName ++ [if proof.declaredSatisfied then 1 else 0] ++
    amountBytes proof.supportingValue

namespace CandidatePlan

def hashPreimage (plan : CandidatePlan) : Bytes :=
  beBytes 32 plan.planId ++ beBytes 32 plan.intentId ++ beBytes 32 plan.solverId ++
    plan.actions.flatMap PlanAction.hashBytes ++ plan.requiredCapabilities.map capabilityTag ++
    leBytes 8 (BitVec.ofNat 64 plan.objectReads.length) ++ plan.objectReads.flatMap (beBytes 32) ++
    leBytes 8 (BitVec.ofNat 64 plan.objectWrites.length) ++ plan.objectWrites.flatMap (beBytes 32) ++
    leBytes 16 plan.expectedOutputAmount ++ leBytes 8 plan.feeQuote ++ leBytes 8 plan.qualityScore ++
    plan.constraintProofs.flatMap PlanConstraintProof.hashBytes ++ leBytes 8 plan.submittedAtSequence

def computeHash (sha256 : Sha256) (plan : CandidatePlan) : Bytes32 := sha256 plan.hashPreimage

def validateHash (sha256 : Sha256) (plan : CandidatePlan) : Bool :=
  plan.computeHash sha256 = plan.planHash

end CandidatePlan

end Hash

section Conversion

/-- Bytes that do not decode, or not to 32 of them, leave the array at zero. -/
def decodeBytes32 (text : String) : Bytes32 :=
  match hexDecode text with
  | some bytes => if bytes.length = 32 then bytes32OfList bytes else 0
  | none => 0

def planActionToOperation (action : PlanAction) : ObjectOperation :=
  let amount := action.amount.getD 0
  match action.actionType with
  | .debitBalance => .debitBalance action.targetObject amount
  | .creditBalance => .creditBalance action.targetObject amount
  | .swapPoolAmounts =>
      let deltaB := (action.metadata["delta_b"]?.bind parseI128).getD 0
      .swapPoolAmounts action.targetObject amount deltaB
  | .lockBalance => .lockBalance action.targetObject amount
  | .unlockBalance => .unlockBalance action.targetObject amount
  | .custom _ =>
      match action.metadata["schema_id"]?, action.metadata["proposed_state"]? with
      | some schemaHex, some stateHex =>
          .contractStateTransition action.targetObject (decodeBytes32 schemaHex)
            ((hexDecode stateHex).getD [])
      | _, _ =>
          match action.metadata["new_owner"]? with
          | some newOwnerHex => .transferOwnership action.targetObject (decodeBytes32 newOwnerHex)
          | none => .updateVersion action.targetObject

def metadataOf (entries : List (String × String)) : BTreeMap String String :=
  entries.foldl (fun metadata entry => metadata.insert entry.1 entry.2) ∅

def hexOf (bytes : Bytes32) : String := hexEncode (beBytes 32 bytes)

def operationToPlanAction (op : ObjectOperation) : PlanAction :=
  match op with
  | .debitBalance balanceId amount => ⟨.debitBalance, balanceId, some amount, ∅⟩
  | .creditBalance balanceId amount => ⟨.creditBalance, balanceId, some amount, ∅⟩
  | .swapPoolAmounts poolId deltaA deltaB =>
      ⟨.swapPoolAmounts, poolId, some deltaA, metadataOf [("delta_b", toString deltaB.toInt)]⟩
  | .lockBalance balanceId amount => ⟨.lockBalance, balanceId, some amount, ∅⟩
  | .unlockBalance balanceId amount => ⟨.unlockBalance, balanceId, some amount, ∅⟩
  | .transferOwnership objectId newOwner =>
      ⟨.custom "transfer_ownership", objectId, none, metadataOf [("new_owner", hexOf newOwner)]⟩
  | .updateVersion objectId => ⟨.custom "update_version", objectId, none, ∅⟩
  | .contractStateTransition contractId schemaId proposedState =>
      ⟨.custom "contract_state_transition", contractId, none,
        metadataOf [("schema_id", hexOf schemaId), ("proposed_state", hexEncode proposedState)]⟩
  | .bindContractBalance contractId balanceId schemaId assetId label =>
      ⟨.custom "bind_contract_balance", contractId, none,
        metadataOf [("balance_id", hexOf balanceId), ("schema_id", hexOf schemaId),
          ("asset_id", hexOf assetId), ("label", label)]⟩
  | .createToken creatorContract mintAuthoritySchema symbol decimals initialSupply maxSupply =>
      ⟨.custom "create_token", creatorContract, some initialSupply,
        metadataOf ([("mint_authority_schema", hexOf mintAuthoritySchema), ("symbol", symbol),
          ("decimals", toString decimals.toNat)] ++
          (maxSupply.map fun max => ("max_supply", toString max.toNat)).toList)⟩
  | .emitContractEvent contractId schemaId eventType indexed data =>
      ⟨.custom "emit_event", contractId, none,
        metadataOf ([("schema_id", hexOf schemaId), ("event_type", eventType), ("data", hexEncode data)] ++
          indexed.toList.map fun entry => ("idx_" ++ entry.1, entry.2))⟩
  | .ibcTransfer sourceContract channelId portId denom amount receiver timeoutSecs =>
      ⟨.custom "ibc_transfer", sourceContract, some amount,
        metadataOf [("channel_id", channelId), ("port_id", portId), ("denom", denom),
          ("receiver", receiver), ("timeout_secs", toString timeoutSecs.toNat)]⟩
  | .scheduleExecution contractId schemaId method params executeAtEpoch recurring intervalEpochs
      maxRecurrences =>
      ⟨.custom "schedule_execution", contractId, none,
        metadataOf [("schema_id", hexOf schemaId), ("method", method), ("params", hexEncode params),
          ("execute_at_epoch", toString executeAtEpoch.toNat), ("recurring", toString recurring),
          ("interval_epochs", toString intervalEpochs.toNat),
          ("max_recurrences", toString maxRecurrences.toNat)]⟩

def candidatePlanToExecutionPlan (plan : CandidatePlan) : ExecutionPlan :=
  let operations := plan.actions.map planActionToOperation
  { txId := plan.planId
    operations
    requiredCapabilities := plan.requiredCapabilities
    objectAccess := plan.objectReads.map .read ++ plan.objectWrites.map .write
    gasEstimate := BitVec.ofNat 64 operations.length * 300 + GasCosts.defaultCosts.baseTx
    gasLimit := MachineInt.saturatingMul plan.feeQuote 1000 }

end Conversion

end Omniphi.Runtime
