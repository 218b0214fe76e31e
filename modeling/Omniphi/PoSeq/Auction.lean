import Omniphi.PoSeq.IntentPool
import Omniphi.Encoding

/-! The bundles of the commit-reveal auction and the hashes that tie a reveal to its commitment. -/

namespace Omniphi.PoSeq

/-- A `Vec`: its length fits the prefix under which it is serialized. -/
abbrev Vec (α : Type) := {values : List α // values.length < 2 ^ 64}

theorem fits_of_le {α : Type} {values : List α} (small : values.length ≤ 2) : values.length < 2 ^ 64 :=
  Nat.lt_of_le_of_lt small (by decide)

def Vec.empty {α : Type} : Vec α := ⟨[], fits_of_le (Nat.zero_le 2)⟩

def Vec.one {α : Type} (value : α) : Vec α := ⟨[value], fits_of_le (Nat.le_succ 1)⟩

def Vec.two {α : Type} (first second : α) : Vec α := ⟨[first, second], fits_of_le (Nat.le_refl 2)⟩

inductive AccessType where
  | read
  | write
deriving DecidableEq

structure ResourceAccess where
  resourceId : Bytes32
  accessType : AccessType
deriving DecidableEq

inductive OperationType where
  | debit
  | credit
  | swap
  | lock
  | unlock
  | create
  | destroy
  | transfer
  | contractCall
deriving DecidableEq

structure OperationParams where
  asset : Option AssetId
  amount : Option U128
  recipient : Option Bytes32
  poolId : Option Bytes32
  customData : Option (Vec UInt8)
deriving DecidableEq

structure ExecutionStep where
  stepIndex : U16
  operation : OperationType
  objectId : Bytes32
  readSet : Vec Bytes32
  writeSet : Vec Bytes32
  params : OperationParams
deriving DecidableEq

structure PredictedOutput where
  intentId : Bytes32
  assetOut : AssetId
  amountOut : U128
  feeChargedBps : U64
deriving DecidableEq

/-- The product is cut off at the largest `u128`. -/
def PredictedOutput.userOutcomeScore (output : PredictedOutput) : U128 :=
  let feeFactor := 10000 - output.feeChargedBps.toNat
  BitVec.ofNat 128 (min (output.amountOut.toNat * feeFactor) (2 ^ 128 - 1) / 10000)

structure FeeBreakdown where
  solverFeeBps : U64
  protocolFeeBps : U64
  totalFeeBps : U64
deriving DecidableEq

inductive LiquidityType where
  | pool
  | vault
  | external
deriving DecidableEq

structure LiquiditySource where
  sourceType : LiquidityType
  sourceId : Bytes32
  asset : AssetId
  amountUsed : U128
deriving DecidableEq

structure BundleCommitment where
  bundleId : Bytes32
  solverId : Bytes32
  batchWindow : U64
  targetIntentCount : U16
  commitmentHash : Bytes32
  expectedOutputsHash : Bytes32
  executionPlanHash : Bytes32
  validUntil : U64
  bondLocked : U128
  signature : Bytes
deriving DecidableEq

structure BundleReveal where
  bundleId : Bytes32
  solverId : Bytes32
  batchWindow : U64
  targetIntentIds : List Bytes32
  executionSteps : Vec ExecutionStep
  liquiditySources : List LiquiditySource
  predictedOutputs : Vec PredictedOutput
  feeBreakdown : FeeBreakdown
  resourceDeclarations : List ResourceAccess
  nonce : Bytes32
  proofData : Bytes
  signature : Bytes
deriving DecidableEq

namespace Bincode

open Omniphi.Bincode

variable {α : Type}

def vec (encode : α → Bytes) (values : Vec α) : Bytes := sequence encode values.val

def operationParams (value : OperationParams) : Bytes :=
  optional assetId value.asset ++ optional (leBytes 16) value.amount ++
    optional (beBytes 32) value.recipient ++ optional (beBytes 32) value.poolId ++
    optional (vec fun byte => [byte]) value.customData

def executionStep (value : ExecutionStep) : Bytes :=
  leBytes 2 value.stepIndex ++ variant value.operation.ctorIdx ++ beBytes 32 value.objectId ++
    vec (beBytes 32) value.readSet ++ vec (beBytes 32) value.writeSet ++ operationParams value.params

def predictedOutput (value : PredictedOutput) : Bytes :=
  beBytes 32 value.intentId ++ assetId value.assetOut ++ leBytes 16 value.amountOut ++
    leBytes 8 value.feeChargedBps

def feeBreakdown (value : FeeBreakdown) : Bytes :=
  leBytes 8 value.solverFeeBps ++ leBytes 8 value.protocolFeeBps ++ leBytes 8 value.totalFeeBps

end Bincode

section Codes

open PrefixCode Omniphi.Bincode

theorem Bincode.assetType_code : IsPrefixCode fun value : AssetType => variant value.ctorIdx :=
  variant_code (by intro a b same; cases a <;> cases b <;> first | rfl | exact absurd same (by decide))
    (by intro a; cases a <;> decide)

theorem Bincode.operationType_code : IsPrefixCode fun value : OperationType => variant value.ctorIdx :=
  variant_code (by intro a b same; cases a <;> cases b <;> first | rfl | exact absurd same (by decide))
    (by intro a; cases a <;> decide)

theorem Bincode.assetId_code : IsPrefixCode Bincode.assetId := by
  intro a b u v same
  unfold Bincode.assetId at same
  simp only [List.append_assoc] at same
  obtain ⟨chainId, same⟩ := leBytes_code (by decide) same
  obtain ⟨assetType, same⟩ := Bincode.assetType_code same
  obtain ⟨identifier, rest⟩ := beBytes_code (by decide) same
  exact ⟨by cases a; cases b; simp_all, rest⟩

theorem Bincode.operationParams_code : IsPrefixCode Bincode.operationParams := by
  intro a b u v same
  unfold Bincode.operationParams at same
  simp only [List.append_assoc] at same
  obtain ⟨asset, same⟩ := optional_code Bincode.assetId_code same
  obtain ⟨amount, same⟩ := optional_code (leBytes_code (by decide)) same
  obtain ⟨recipient, same⟩ := optional_code (beBytes_code (by decide)) same
  obtain ⟨poolId, same⟩ := optional_code (beBytes_code (by decide)) same
  obtain ⟨customData, rest⟩ := optional_code (sequence_code byte_code) same
  exact ⟨by cases a; cases b; simp_all, rest⟩

theorem Bincode.executionStep_code : IsPrefixCode Bincode.executionStep := by
  intro a b u v same
  unfold Bincode.executionStep at same
  simp only [List.append_assoc] at same
  obtain ⟨stepIndex, same⟩ := leBytes_code (by decide) same
  obtain ⟨operation, same⟩ := Bincode.operationType_code same
  obtain ⟨objectId, same⟩ := beBytes_code (by decide) same
  obtain ⟨readSet, same⟩ := sequence_code (beBytes_code (by decide)) same
  obtain ⟨writeSet, same⟩ := sequence_code (beBytes_code (by decide)) same
  obtain ⟨params, rest⟩ := Bincode.operationParams_code same
  exact ⟨by cases a; cases b; simp_all, rest⟩

theorem Bincode.predictedOutput_code : IsPrefixCode Bincode.predictedOutput := by
  intro a b u v same
  unfold Bincode.predictedOutput at same
  simp only [List.append_assoc] at same
  obtain ⟨intentId, same⟩ := beBytes_code (by decide) same
  obtain ⟨assetOut, same⟩ := Bincode.assetId_code same
  obtain ⟨amountOut, same⟩ := leBytes_code (by decide) same
  obtain ⟨feeChargedBps, rest⟩ := leBytes_code (by decide) same
  exact ⟨by cases a; cases b; simp_all, rest⟩

end Codes

inductive RevealValidationError where
  | bundleIdMismatch
  | solverIdMismatch
  | batchWindowMismatch
  | commitmentHashMismatch (expected computed : Bytes32)
  | outputsHashMismatch
  | planHashMismatch
deriving DecidableEq

namespace BundleReveal

variable (reveal : BundleReveal)

def stepsBytes : Bytes := Bincode.vec Bincode.executionStep reveal.executionSteps

def outputsBytes : Bytes := Bincode.vec Bincode.predictedOutput reveal.predictedOutputs

def commitmentPreimage : Bytes :=
  beBytes 32 reveal.bundleId ++ beBytes 32 reveal.solverId ++ reveal.stepsBytes ++ reveal.outputsBytes ++
    Bincode.feeBreakdown reveal.feeBreakdown ++ beBytes 32 reveal.nonce

def computeCommitmentHash (sha256 : Sha256) : Bytes32 := sha256 reveal.commitmentPreimage

def computeExpectedOutputsHash (sha256 : Sha256) : Bytes32 := sha256 reveal.outputsBytes

def computeExecutionPlanHash (sha256 : Sha256) : Bytes32 := sha256 reveal.stepsBytes

def verifyAgainstCommitment (sha256 : Sha256) (commitment : BundleCommitment) :
    Except RevealValidationError Unit :=
  if reveal.bundleId ≠ commitment.bundleId then .error .bundleIdMismatch
  else if reveal.solverId ≠ commitment.solverId then .error .solverIdMismatch
  else if reveal.batchWindow ≠ commitment.batchWindow then .error .batchWindowMismatch
  else if reveal.computeCommitmentHash sha256 ≠ commitment.commitmentHash then
    .error (.commitmentHashMismatch commitment.commitmentHash (reveal.computeCommitmentHash sha256))
  else if reveal.computeExpectedOutputsHash sha256 ≠ commitment.expectedOutputsHash then
    .error .outputsHashMismatch
  else if reveal.computeExecutionPlanHash sha256 ≠ commitment.executionPlanHash then
    .error .planHashMismatch
  else .ok ()

end BundleReveal

end Omniphi.PoSeq
