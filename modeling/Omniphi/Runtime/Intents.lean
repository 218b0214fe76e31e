import Omniphi.Runtime.Errors

/-! Intent transactions: what a sender signs, the checks that need no state, and the fee envelope. -/

namespace Omniphi.Runtime

section Kinds

structure TransferIntent where
  assetId : Bytes32
  amount : U128
  recipient : Bytes32
  memo : Option String

structure SwapIntent where
  inputAsset : Bytes32
  outputAsset : Bytes32
  inputAmount : U128
  minOutputAmount : U128
  maxSlippageBps : U32
  allowedPoolIds : Option (List ObjectId)

structure YieldAllocateIntent where
  assetId : Bytes32
  amount : U128
  targetVaultId : ObjectId
  minApyBps : U32

structure TreasuryRebalanceIntent where
  fromAsset : Bytes32
  toAsset : Bytes32
  amount : U128
  authorizedBy : List Bytes32

structure RouteLiquidityIntent where
  sourcePool : ObjectId
  targetPool : ObjectId
  assetId : Bytes32
  amount : U128
  minReceived : U128
  maxHops : U8
  maxPriceImpactBps : U16

structure ContractConstraints where
  maxStateDeltaBytes : U64
  requiredObjectVersions : List (ObjectId × U64)
  customConstraints : Bytes

structure ContractCallIntent where
  schemaId : SchemaId
  methodSelector : String
  params : BTreeMap String Bytes
  constraints : ContractConstraints

inductive IntentType
  | transfer (intent : TransferIntent)
  | swap (intent : SwapIntent)
  | yieldAllocate (intent : YieldAllocateIntent)
  | treasuryRebalance (intent : TreasuryRebalanceIntent)
  | routeLiquidity (intent : RouteLiquidityIntent)
  | contractCall (intent : ContractCallIntent)

end Kinds

section Fees

structure FeeEnvelope where
  payer : Bytes32
  feeToken : String
  maxPoseqFee : U64
  maxRuntimeFee : U64
  priorityTip : U64
  expiryEpoch : U64
  refundAddress : Option Bytes32

namespace FeeEnvelope

def totalReserved (envelope : FeeEnvelope) : U64 :=
  MachineInt.saturatingAdd envelope.maxPoseqFee envelope.maxRuntimeFee

def validate (envelope : FeeEnvelope) (currentEpoch : U64) : Except String Unit := do
  if envelope.payer = 0 then throw "payer must be non-zero"
  if envelope.feeToken ≠ "omniphi" then
    throw ("unsupported fee token: " ++ envelope.feeToken ++ " (only omniphi accepted)")
  if envelope.maxPoseqFee = 0 ∧ envelope.maxRuntimeFee = 0 then
    throw "at least one of max_poseq_fee or max_runtime_fee must be > 0"
  if envelope.expiryEpoch ≤ currentEpoch then
    throw ("fee envelope expired at epoch " ++ toString envelope.expiryEpoch.toNat ++
      " (current: " ++ toString currentEpoch.toNat ++ ")")
  if envelope.totalReserved = 0 then throw "total reserved fee must be > 0"

def fromLegacyMaxFee (payer : Bytes32) (maxFee expiryEpoch : U64) : FeeEnvelope :=
  let poseqShare := maxFee / 5
  { payer, feeToken := "omniphi", maxPoseqFee := poseqShare, maxRuntimeFee := maxFee - poseqShare
    priorityTip := 0, expiryEpoch, refundAddress := none }

end FeeEnvelope

end Fees

inductive ExecutionMode
  | bestEffort
  | exact
  | fillOrKill
  | partialFill
deriving DecidableEq, Repr

structure IntentConstraints where
  maxSpend : Option U128 := none
  minReceived : Option U128 := none
  maxSlippageBps : Option U32 := none
  allowedObjects : List ObjectId := []
  requiredVersions : List (ObjectId × U64) := []
  pathHints : List String := []

inductive FeePolicy
  | senderPays
  | sponsorPays
  | sponsorThenSender
deriving DecidableEq, Repr

structure SponsorshipLimits where
  maxGas : Option U64 := none
  maxFeeAmount : Option U64 := none
  allowedIntentTypes : List String := []
  allowedObjects : List ObjectId := []
  expirationEpoch : Option U64 := none

structure IntentTransaction where
  txId : Bytes32
  sender : Bytes32
  intent : IntentType
  maxFee : U64
  deadlineEpoch : U64
  nonce : U64
  signature : Bytes64
  metadata : BTreeMap String String
  targetObjects : List ObjectId
  constraints : IntentConstraints
  executionMode : ExecutionMode
  sponsor : Option Bytes32
  sponsorSignature : Option Bytes64
  sponsorshipLimits : SponsorshipLimits
  feePolicy : FeePolicy
  feeEnvelope : Option FeeEnvelope

def IntentType.validate : IntentType → Except RuntimeError Unit
  | .transfer t => do
      if t.amount = 0 then throw (.invalidIntent "transfer amount must be greater than zero")
      if t.recipient = 0 then throw (.invalidIntent "recipient address must be non-zero")
      if t.assetId = 0 then throw (.invalidIntent "asset_id must be non-zero")
  | .swap s => do
      if s.inputAmount = 0 then throw (.invalidIntent "swap input_amount must be greater than zero")
      if s.inputAsset = s.outputAsset then
        throw (.invalidIntent "swap input_asset and output_asset must differ")
      if 10000 < s.maxSlippageBps then
        throw (.invalidIntent "max_slippage_bps must not exceed 10000 (100%)")
  | .yieldAllocate y => do
      if y.amount = 0 then
        throw (.invalidIntent "yield allocate amount must be greater than zero")
  | .treasuryRebalance r => do
      if r.amount = 0 then
        throw (.invalidIntent "treasury rebalance amount must be greater than zero")
      if r.authorizedBy.isEmpty then
        throw (.invalidIntent "treasury rebalance requires at least one authority")
      if r.fromAsset = r.toAsset then
        throw (.invalidIntent "treasury rebalance from_asset and to_asset must differ")
  | .routeLiquidity rl => do
      if rl.amount = 0 then
        throw (.invalidIntent "route liquidity amount must be greater than zero")
      if rl.minReceived = 0 then
        throw (.invalidIntent "route liquidity min_received must be greater than zero")
      if rl.sourcePool = rl.targetPool then
        throw (.invalidIntent "route liquidity source and target pools must differ")
      if rl.maxHops = 0 ∨ 5 < rl.maxHops then
        throw (.invalidIntent "route liquidity max_hops must be 1-5")
      if 500 < rl.maxPriceImpactBps then
        throw (.invalidIntent "route liquidity max_price_impact_bps must not exceed 500")
  | .contractCall c => do
      if c.schemaId = 0 then throw (.invalidIntent "contract call schema_id must be non-zero")
      if c.methodSelector.isEmpty then
        throw (.invalidIntent "contract call method_selector must not be empty")

namespace IntentTransaction

def validate (tx : IntentTransaction) : Except RuntimeError Unit := do
  if tx.sender = 0 then throw (.invalidIntent "sender address must be non-zero")
  if tx.txId = 0 then throw (.invalidIntent "tx_id must be non-zero")
  if tx.maxFee = 0 then throw (.invalidIntent "max_fee must be greater than zero")
  tx.intent.validate

def feePayer (tx : IntentTransaction) : Bytes32 :=
  match tx.feePolicy with
  | .senderPays => tx.sender
  | .sponsorPays | .sponsorThenSender => tx.sponsor.getD tx.sender

def effectiveFeeEnvelope (tx : IntentTransaction) : FeeEnvelope :=
  tx.feeEnvelope.getD (.fromLegacyMaxFee tx.feePayer tx.maxFee tx.deadlineEpoch)

section Signature

def intentCanonicalBytes (tx : IntentTransaction) : Bytes :=
  match tx.intent with
  | .transfer t => [0x01] ++ beBytes 32 t.assetId ++ beBytes 16 t.amount ++ beBytes 32 t.recipient
  | .swap s =>
      [0x02] ++ beBytes 32 s.inputAsset ++ beBytes 32 s.outputAsset ++ beBytes 16 s.inputAmount ++
        beBytes 16 s.minOutputAmount ++ beBytes 4 s.maxSlippageBps
  | .yieldAllocate y =>
      [0x03] ++ beBytes 32 y.assetId ++ beBytes 16 y.amount ++ beBytes 32 y.targetVaultId ++
        beBytes 4 y.minApyBps
  | .treasuryRebalance r =>
      [0x04] ++ beBytes 32 r.fromAsset ++ beBytes 32 r.toAsset ++ beBytes 16 r.amount ++
        beBytes 4 (BitVec.ofNat 32 r.authorizedBy.length) ++ r.authorizedBy.flatMap (beBytes 32)
  | .routeLiquidity rl =>
      [0x05] ++ beBytes 32 rl.sourcePool ++ beBytes 32 rl.targetPool ++ beBytes 32 rl.assetId ++
        beBytes 16 rl.amount ++ beBytes 16 rl.minReceived ++ beBytes 1 rl.maxHops ++
        beBytes 2 rl.maxPriceImpactBps
  | .contractCall c =>
      [0x06] ++ beBytes 32 c.schemaId ++ strBytes c.methodSelector ++
        beBytes 8 c.constraints.maxStateDeltaBytes ++ c.constraints.customConstraints

def signingPayload (sha256 : Sha256) (tx : IntentTransaction) : Bytes32 :=
  sha256 (strBytes "OMNIPHI_INTENT_V1" ++ beBytes 32 tx.txId ++ beBytes 32 tx.sender ++
    beBytes 8 tx.nonce ++ tx.intentCanonicalBytes ++ beBytes 8 tx.maxFee ++
    beBytes 8 tx.deadlineEpoch)

abbrev Ed25519Verify := Bytes32 → Bytes32 → Bytes64 → Bool

def verifySignature (sha256 : Sha256) (verify : Ed25519Verify) (tx : IntentTransaction) : Bool :=
  verify tx.sender (tx.signingPayload sha256) tx.signature

end Signature

end IntentTransaction

end Omniphi.Runtime
