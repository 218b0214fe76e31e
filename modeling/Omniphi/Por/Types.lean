import Omniphi.Sdk
import Omniphi.Guard.Types
import Omniphi.Lib.KeyedMap

/-! The records of the proof-of-record module and the checks its messages make on themselves. -/

namespace Omniphi.Por

inductive BatchStatus
  | submitted
  | pending
  | finalized
  | rejected
  deriving DecidableEq

inductive ChallengeType
  | invalidRoot
  | doubleInclusion
  | missingRecord
  | invalidSchema
  | unknown (code : Nat)
  deriving DecidableEq

inductive ChallengeStatus
  | opened
  | resolvedValid
  | resolvedInvalid
  deriving DecidableEq

inductive AppStatus
  | active
  | suspended
  | deregistered
  deriving DecidableEq

structure App where
  appId : Nat
  challengePeriod : Int
  status : AppStatus

structure VerifierMember where
  address : String
  weight : Int

structure VerifierSet where
  verifierSetId : Nat
  members : List VerifierMember
  minAttestations : Nat
  quorumPct : LegacyDec
  appId : Nat

def VerifierSet.getTotalWeight (vs : VerifierSet) : Int := (vs.members.map VerifierMember.weight).sum

structure BatchCommitment where
  batchId : Nat
  epoch : Nat
  recordMerkleRoot : Bytes
  recordCount : Nat
  appId : Nat
  verifierSetId : Nat
  submitter : String
  challengeEndTime : Int
  status : BatchStatus
  submittedAt : Int
  finalizedAt : Int
  daCommitmentHash : Bytes
  poseqCommitmentHash : Bytes
  deriving DecidableEq

structure Attestation where
  batchId : Nat
  verifierAddress : String
  signature : Bytes
  confidenceWeight : LegacyDec
  timestamp : Int

def Attestation.key (att : Attestation) : Nat × String := (att.batchId, att.verifierAddress)

structure Challenge where
  challengeId : Nat
  batchId : Nat
  challenger : String
  challengeType : ChallengeType
  proofData : Bytes
  status : ChallengeStatus
  timestamp : Int
  resolvedAt : Int
  resolvedBy : String
  bondAmount : Int
  deriving DecidableEq

structure VerifierReputation where
  address : String
  totalAttestations : Nat
  correctAttestations : Nat
  slashedCount : Nat
  reputationScore : Int

structure Params where
  maxBatchesPerBlock : Nat
  slashFractionDishonest : LegacyDec
  challengerRewardRatio : LegacyDec
  baseRecordReward : Int
  maxFinalizationsPerBlock : Nat
  minReputationForAttestation : Int
  challengeResolutionTimeout : Int
  maxCreditsPerEpoch : Int
  maxCreditsPerBatch : Int
  requireDACommitment : Bool
  requireLeafHashes : Bool
  challengeBondAmount : Int
  maxChallengesPerAddress : Nat
  requirePoSeqCommitment : Bool

structure Params.Valid (p : Params) : Prop where
  maxBatchesPerBlock : p.maxBatchesPerBlock ≠ 0 ∧ p.maxBatchesPerBlock ≤ 1000
  slashFractionDishonest : 0 ≤ p.slashFractionDishonest ∧ p.slashFractionDishonest ≤ 33 * 10 ^ 16
  challengerRewardRatio : 0 ≤ p.challengerRewardRatio ∧ p.challengerRewardRatio ≤ 10 ^ 18
  baseRecordReward : 0 ≤ p.baseRecordReward
  maxFinalizationsPerBlock : p.maxFinalizationsPerBlock ≠ 0
  minReputationForAttestation : 0 ≤ p.minReputationForAttestation
  challengeResolutionTimeout : 0 < p.challengeResolutionTimeout
  maxCreditsPerEpoch : 0 ≤ p.maxCreditsPerEpoch
  maxCreditsPerBatch : 0 ≤ p.maxCreditsPerBatch
  challengeBondAmount : 0 < p.challengeBondAmount

def defaultParams : Params where
  maxBatchesPerBlock := 20
  slashFractionDishonest := 5 * 10 ^ 16
  challengerRewardRatio := 50 * 10 ^ 16
  baseRecordReward := 100
  maxFinalizationsPerBlock := 50
  minReputationForAttestation := 0
  challengeResolutionTimeout := 172800
  maxCreditsPerEpoch := 50000000000
  maxCreditsPerBatch := 1000000000
  requireDACommitment := false
  requireLeafHashes := false
  challengeBondAmount := 10000000
  maxChallengesPerAddress := 5
  requirePoSeqCommitment := false

theorem defaultParams_valid : defaultParams.Valid := by
  constructor <;> decide

def merkleRootLength : Nat := 32

def maxProofDataLength : Nat := 4096

def maxSignatureLength : Nat := 256

def maxRecordCount : Nat := 1000000

structure MsgSubmitBatch where
  submitter : String
  appId : Nat
  epoch : Nat
  recordMerkleRoot : Bytes
  recordCount : Nat
  verifierSetId : Nat
  daCommitmentHash : Bytes
  leafHashes : List Bytes
  poseqCommitmentHash : Bytes

structure MsgSubmitAttestation where
  verifier : String
  batchId : Nat
  signature : Bytes
  confidenceWeight : LegacyDec

structure MsgChallengeBatch where
  challenger : String
  batchId : Nat
  challengeType : ChallengeType
  proofData : Bytes

structure MsgFinalizeBatch where
  authority : String
  batchId : Nat

/-- The code the module calls and does not define. `canonical` is an address read from bech32 and
written back; the proofs are as `json.Unmarshal` reads them from the data of a challenge. -/
structure Library where
  sha256 : Sha256
  canonical : String → Option String
  invalidRootProof : Bytes → Option (List Bytes)
  doubleInclusionProof : Bytes → Option (Bytes × Nat)

/-- A block, with what the other keepers answer in it. -/
structure Env where
  height : Int
  now : Int
  pocKeeper : Option (String → Int → Bool)
  slashingKeeper : Option (String → LegacyDec → Option Int)
  blockedAddr : String → Bool

variable (lib : Library)

namespace MsgSubmitBatch

def validateBasic (msg : MsgSubmitBatch) : Bool :=
  (lib.canonical msg.submitter).isSome && msg.appId ≠ 0 &&
    msg.recordMerkleRoot.length = merkleRootLength &&
    !(msg.recordMerkleRoot.all (· = 0)) && !(msg.recordMerkleRoot.all (· = 0xFF)) &&
    msg.recordCount ≠ 0 && msg.recordCount ≤ maxRecordCount && msg.verifierSetId ≠ 0 &&
    (msg.daCommitmentHash.isEmpty || msg.daCommitmentHash.length = merkleRootLength) &&
    (msg.leafHashes.isEmpty || (msg.leafHashes.length = msg.recordCount &&
      msg.leafHashes.all fun h => h.length = merkleRootLength)) &&
    (msg.poseqCommitmentHash.isEmpty || msg.poseqCommitmentHash.length = merkleRootLength)

end MsgSubmitBatch

namespace MsgSubmitAttestation

def validateBasic (msg : MsgSubmitAttestation) : Bool :=
  (lib.canonical msg.verifier).isSome && msg.batchId ≠ 0 && !msg.signature.isEmpty &&
    msg.signature.length ≤ maxSignatureLength && 0 < msg.confidenceWeight &&
    msg.confidenceWeight ≤ LegacyDec.ofInt 1

end MsgSubmitAttestation

namespace MsgChallengeBatch

def validateBasic (msg : MsgChallengeBatch) : Bool :=
  (lib.canonical msg.challenger).isSome && msg.batchId ≠ 0 &&
    (match msg.challengeType with | .unknown _ => false | _ => true) &&
    !msg.proofData.isEmpty && msg.proofData.length ≤ maxProofDataLength

end MsgChallengeBatch

namespace MsgFinalizeBatch

def validateBasic (msg : MsgFinalizeBatch) : Bool :=
  (lib.canonical msg.authority).isSome && msg.batchId ≠ 0

end MsgFinalizeBatch

def computeAttestationSignBytes (batchId : Nat) (merkleRoot : Bytes) (epoch : Nat)
    (verifierAddress : String) : Bytes :=
  beBytes 32 (lib.sha256 (beBytes 8 (BitVec.ofNat 64 batchId) ++ merkleRoot ++
    beBytes 8 (BitVec.ofNat 64 epoch) ++ strBytes verifierAddress))

end Omniphi.Por
