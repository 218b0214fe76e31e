import Omniphi.Runtime.Gas

/-! Execution plans and what settling one hands on to other parts of the node. -/

namespace Omniphi.Runtime

inductive ObjectOperation
  | debitBalance (balanceId : ObjectId) (amount : U128)
  | creditBalance (balanceId : ObjectId) (amount : U128)
  | swapPoolAmounts (poolId : ObjectId) (deltaA deltaB : I128)
  | lockBalance (balanceId : ObjectId) (amount : U128)
  | unlockBalance (balanceId : ObjectId) (amount : U128)
  | updateVersion (objectId : ObjectId)
  | transferOwnership (objectId : ObjectId) (newOwner : Bytes32)
  | contractStateTransition (contractId : ObjectId) (schemaId : SchemaId) (proposedState : Bytes)
  | bindContractBalance (contractId balanceId : ObjectId) (schemaId : SchemaId) (assetId : Bytes32)
      (label : String)
  | createToken (creatorContract : ObjectId) (mintAuthoritySchema : SchemaId) (symbol : String)
      (decimals : U8) (initialSupply : U128) (maxSupply : Option U128)
  | emitContractEvent (contractId : ObjectId) (schemaId : SchemaId) (eventType : String)
      (indexed : BTreeMap String String) (data : Bytes)
  | ibcTransfer (sourceContract : ObjectId) (channelId portId denom : String) (amount : U128)
      (receiver : String) (timeoutSecs : U64)
  | scheduleExecution (contractId : ObjectId) (schemaId : SchemaId) (method : String)
      (params : Bytes) (executeAtEpoch : U64) (recurring : Bool) (intervalEpochs maxRecurrences : U64)

structure ExecutionPlan where
  txId : Bytes32
  operations : List ObjectOperation
  requiredCapabilities : List Capability
  objectAccess : List ObjectAccess
  gasEstimate : U64
  gasLimit : U64

structure ContractEvent where
  contractId : ObjectId
  schemaId : SchemaId
  eventType : String
  indexed : BTreeMap String String
  data : Bytes
  epoch : U64

inductive IBCAction
  | transfer (denom : String) (amount : U128) (receiver : String)
  | sendPacket (data : Bytes)

structure IBCHook where
  sourceContract : ObjectId
  channelId : String
  portId : String
  action : IBCAction
  timeoutSecs : U64

structure ScheduledExecution where
  scheduleId : Bytes32
  contractId : ObjectId
  schemaId : SchemaId
  method : String
  params : Bytes
  executeAtEpoch : U64
  recurring : Bool
  intervalEpochs : U64
  maxRecurrences : U64
  executedCount : U64
  active : Bool

def ScheduledExecution.computeId (sha256 : Sha256) (contractId : ObjectId) (method : String)
    (executeAt : U64) : Bytes32 :=
  sha256 (strBytes "OMNIPHI_SCHEDULE_V1" ++ beBytes 32 contractId ++ strBytes method ++
    beBytes 8 executeAt)

structure ContractBalance where
  contractId : ObjectId
  balanceId : ObjectId
  withdrawalSchemaId : SchemaId
  assetId : Bytes32
  label : String

def computeAssetId (sha256 : Sha256) (creatorContract : ObjectId) (mintAuthoritySchema : SchemaId)
    (symbol : String) (decimals : U8) : Bytes32 :=
  sha256 (strBytes "OMNIPHI_TOKEN_V1" ++ beBytes 32 creatorContract ++
    beBytes 32 mintAuthoritySchema ++ strBytes symbol ++ beBytes 1 decimals)

/-- The gas for one operation: the table that both the resolver's estimate and settlement use. -/
def opGasCost (op : ObjectOperation) (costs : GasCosts) : U64 :=
  match op with
  | .debitBalance .. => costs.debitBalance
  | .creditBalance .. => costs.creditBalance
  | .swapPoolAmounts .. => costs.swapPool
  | .lockBalance .. => costs.lockBalance
  | .unlockBalance .. => costs.unlockBalance
  | .updateVersion .. => costs.updateVersion
  | .transferOwnership .. => costs.updateVersion
  | .contractStateTransition _ _ proposedState =>
      costs.contractStateWrite + costs.constraintValidationBase +
        costs.constraintValidationPerByte * BitVec.ofNat 64 proposedState.length
  | .bindContractBalance .. => costs.bindContractBalance
  | .createToken .. => costs.createToken
  | .emitContractEvent _ _ _ _ data =>
      costs.emitEvent + costs.constraintValidationPerByte * BitVec.ofNat 64 data.length
  | .ibcTransfer .. => costs.ibcTransfer
  | .scheduleExecution .. => costs.scheduleExecution

end Omniphi.Runtime
