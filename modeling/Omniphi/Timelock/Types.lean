import Omniphi.Guard.Types
import Omniphi.Lib.KeyedMap

/-! The timelock's operations, tracks and parameters. Times are Unix seconds, `int64` values like the
heights tracks are frozen until. -/

namespace Omniphi.Timelock

open Gov

inductive OperationStatus
  | unspecified
  | queued
  | executed
  | cancelled
  | expired
  | failed
  deriving DecidableEq

def OperationStatus.isTerminal (status : OperationStatus) : Bool :=
  status = .executed || status = .cancelled || status = .expired || status = .failed

inductive ExecutionError
  | messageExecutionFailed
  | operationHashMismatch
  | operationAlreadyExecuted
  deriving DecidableEq

structure QueuedOperation where
  id : Nat
  proposalId : Nat
  messages : List AnyMsg
  operationHash : Bytes32
  queuedAtUnix : Int
  executableAtUnix : Int
  expiresAtUnix : Int
  status : OperationStatus
  executor : String
  executedAtUnix : Int
  cancelledAtUnix : Int
  cancelReason : String
  executionError : Option ExecutionError
  deriving DecidableEq

namespace QueuedOperation

variable (op : QueuedOperation) (now : Int)

def computeHash (sha256 : Sha256) : Bytes32 :=
  sha256 (beBytes 8 (BitVec.ofNat 64 op.proposalId) ++ beBytes 8 (BitVec.ofNat 64 op.id) ++
    op.messages.flatMap (fun msg => strBytes msg.typeUrl ++ msg.value) ++
    beBytes 8 (BitVec.ofInt 64 op.queuedAtUnix))

def verifyHash (sha256 : Sha256) : Bool := op.computeHash sha256 = op.operationHash

def isQueued : Bool := op.status = .queued

def isExecutable : Bool :=
  op.status = .queued && decide (op.executableAtUnix ≤ now) && decide (now < op.expiresAtUnix)

def isExpired : Bool := op.expiresAtUnix ≤ now

def int64OfUint64 (n : Nat) : Int := i64 n

def canEmergencyExecute (emergencyDelaySeconds : Nat) : Bool :=
  op.status = .queued && decide (i64 (op.queuedAtUnix + int64OfUint64 emergencyDelaySeconds) ≤ now) &&
    decide (now < op.expiresAtUnix)

def markExecuted : QueuedOperation := { op with status := .executed, executedAtUnix := now }

def markCancelled (reason : String) : QueuedOperation :=
  { op with status := .cancelled, cancelledAtUnix := now, cancelReason := reason }

def markExpired : QueuedOperation := { op with status := .expired }

def markFailed (error : ExecutionError) : QueuedOperation :=
  { op with status := .failed, executedAtUnix := now, executionError := some error }

def isProtected : Bool := op.messages.any fun msg =>
  msg.typeUrl = "/pos.timelock.v1.MsgUpdateGuardian" || msg.typeUrl = "/pos.timelock.v1.MsgUpdateParams"

end QueuedOperation

def newQueuedOperation (sha256 : Sha256) (id proposalId : Nat) (messages : List AnyMsg)
    (executor : String) (queuedAt : Int) (minDelaySeconds gracePeriodSeconds : Nat) : QueuedOperation :=
  let executableAt := i64 (queuedAt + QueuedOperation.int64OfUint64 minDelaySeconds)
  let op : QueuedOperation :=
    { id := id
      proposalId := proposalId
      messages := messages
      operationHash := 0
      queuedAtUnix := queuedAt
      executableAtUnix := executableAt
      expiresAtUnix := i64 (executableAt + QueuedOperation.int64OfUint64 gracePeriodSeconds)
      status := .queued
      executor := executor
      executedAtUnix := 0
      cancelledAtUnix := 0
      cancelReason := ""
      executionError := none }
  { op with operationHash := op.computeHash sha256 }

section Tracks

def trackUpgrade : String := "TRACK_UPGRADE"
def trackTreasury : String := "TRACK_TREASURY"
def trackParamChange : String := "TRACK_PARAM_CHANGE"
def trackConsensus : String := "TRACK_CONSENSUS"
def trackOther : String := "TRACK_OTHER"

def allTrackNames : List String :=
  [trackUpgrade, trackTreasury, trackParamChange, trackConsensus, trackOther]

structure Track where
  name : String
  multiplier : Nat
  paused : Bool
  maxOutflowBps : Nat
  freezeUntilHeight : Int
  deriving DecidableEq

inductive TrackError
  | emptyName
  | unknownName (name : String)
  | multiplierTooSmall (name : String) (multiplier : Nat)
  | multiplierTooLarge (name : String) (multiplier : Nat)
  | maxOutflowTooLarge (name : String) (maxOutflowBps : Nat)
  | negativeFreeze (name : String)
  deriving DecidableEq

namespace Track

variable (t : Track)

def isFrozen (currentHeight : Int) : Bool :=
  decide (0 < t.freezeUntilHeight) && decide (currentHeight < t.freezeUntilHeight)

def validate : Except TrackError Unit :=
  if t.name = "" then .error .emptyName
  else if t.name ∉ allTrackNames then .error (.unknownName t.name)
  else if t.multiplier < 1000 then .error (.multiplierTooSmall t.name t.multiplier)
  else if t.multiplier > 5000 then .error (.multiplierTooLarge t.name t.multiplier)
  else if t.maxOutflowBps > 10000 then .error (.maxOutflowTooLarge t.name t.maxOutflowBps)
  else if t.freezeUntilHeight < 0 then .error (.negativeFreeze t.name)
  else .ok ()

end Track

-- Type URLs are ASCII, where `toLower` and the source's lower casing agree.
def classifyTrackByMessageTypes (messageTypeURLs : List String) : String :=
  let lower := messageTypeURLs.map String.toLower
  let hasUpgrade := lower.any fun url => contains url "msgsoftwareupgrade" || contains url "/upgrade." ||
    contains url "msgcancelusoftwareupgrade"
  let hasConsensus := lower.any fun url => contains url "/cosmos.staking." ||
    contains url "/cosmos.consensus." || contains url "/cosmos.slashing." || contains url "consensus"
  let hasTreasury := lower.any fun url => contains url "msgcommunityPoolspend" ||
    contains url "msgcommunitypoolspend" || contains url "/cosmos.distribution." ||
    (contains url "/cosmos.bank." && contains url "msgsend")
  let hasParamChange := lower.any fun url => contains url "msgupdateparams" ||
    contains url "parameterchangeproposal"
  if hasUpgrade then trackUpgrade
  else if hasConsensus then trackConsensus
  else if hasTreasury then trackTreasury
  else if hasParamChange then trackParamChange
  else trackOther

structure OperationTrackRecord where
  operationId : Nat
  trackName : String
  computedDelaySeconds : Nat
  deriving DecidableEq

structure TreasuryOutflowWindow where
  windowStartUnix : Int
  totalOutflowBps : Nat
  lastUpdateHeight : Nat
  deriving DecidableEq

end Tracks

section Params

structure Params where
  minDelaySeconds : Nat
  maxDelaySeconds : Nat
  gracePeriodSeconds : Nat
  emergencyDelaySeconds : Nat
  guardian : String
  deriving DecidableEq

def absoluteMinDelaySeconds : Nat := 21600
def absoluteMaxDelaySeconds : Nat := 30 * 24 * 3600
def absoluteMinGracePeriodSeconds : Nat := 3600

def minCancelReasonLength : Nat := 10
def maxCancelReasonLength : Nat := 500
def minJustificationLength : Nat := 20
def maxJustificationLength : Nat := 1000

def maxGuardianCancelsPerWindow : Nat := 3
def guardianCancelWindowBlocks : Int := 50000

def delayPrecision : Nat := 1000
def cumulativeTreasuryWindow : Int := 86400
def defaultCumulativeTreasuryEscalateBps : Nat := 3000
def maxFreezeDurationBlocks : Int := 518400
def paramChangeMutationWindowBlocks : Int := 50000
def paramChangeMutationThreshold : Nat := 5
def mutationFreqMultiplier : Nat := 1500

def maxMessagesPerOperation : Nat := 10
def maxOperationsPerBlock : Nat := 5

inductive ParamsError
  | minDelayTooShort (minDelaySeconds : Nat)
  | maxDelayTooLong (maxDelaySeconds : Nat)
  | delayOrderInvalid (minDelaySeconds maxDelaySeconds : Nat)
  | gracePeriodInvalid (gracePeriodSeconds : Nat)
  | emergencyDelayInvalid (emergencyDelaySeconds : Nat)
  | emergencyExceedsMin (emergencyDelaySeconds minDelaySeconds : Nat)
  deriving DecidableEq

namespace Params

def default : Params where
  minDelaySeconds := 24 * 3600
  maxDelaySeconds := 14 * 24 * 3600
  gracePeriodSeconds := 7 * 24 * 3600
  emergencyDelaySeconds := 21600
  guardian := ""

variable (p : Params)

def validate : Except ParamsError Unit :=
  if p.minDelaySeconds < absoluteMinDelaySeconds then .error (.minDelayTooShort p.minDelaySeconds)
  else if p.maxDelaySeconds > absoluteMaxDelaySeconds then .error (.maxDelayTooLong p.maxDelaySeconds)
  else if p.minDelaySeconds > p.maxDelaySeconds then
    .error (.delayOrderInvalid p.minDelaySeconds p.maxDelaySeconds)
  else if p.gracePeriodSeconds < absoluteMinGracePeriodSeconds then
    .error (.gracePeriodInvalid p.gracePeriodSeconds)
  else if p.emergencyDelaySeconds < absoluteMinDelaySeconds then
    .error (.emergencyDelayInvalid p.emergencyDelaySeconds)
  else if p.emergencyDelaySeconds ≥ p.minDelaySeconds then
    .error (.emergencyExceedsMin p.emergencyDelaySeconds p.minDelaySeconds)
  else .ok ()

def Valid : Prop := p.validate = .ok ()

theorem valid_iff : p.Valid ↔ absoluteMinDelaySeconds ≤ p.minDelaySeconds ∧
    p.maxDelaySeconds ≤ absoluteMaxDelaySeconds ∧ p.minDelaySeconds ≤ p.maxDelaySeconds ∧
    absoluteMinGracePeriodSeconds ≤ p.gracePeriodSeconds ∧
    absoluteMinDelaySeconds ≤ p.emergencyDelaySeconds ∧
    p.emergencyDelaySeconds < p.minDelaySeconds := by
  unfold Valid validate
  split_ifs <;> simp <;> omega

instance decidableValid : Decidable p.Valid := decidable_of_iff _ (valid_iff p).symm

end Params

/-- The lengths are in bytes. -/
def validateCancelReason (reason : String) : Bool :=
  decide (minCancelReasonLength ≤ reason.utf8ByteSize) && decide (reason.utf8ByteSize ≤ maxCancelReasonLength)

def validateJustification (justification : String) : Bool :=
  decide (minJustificationLength ≤ justification.utf8ByteSize) &&
    decide (justification.utf8ByteSize ≤ maxJustificationLength)

end Params

end Omniphi.Timelock
