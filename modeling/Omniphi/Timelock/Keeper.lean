import Omniphi.Timelock.Types

/-! The timelock keeper: tracks and the adaptive delay, queueing, execution, cancellation and the end
of a block. A call that fails may have written before it did, so results carry the keeper. -/

namespace Omniphi.Timelock

open Gov

instance transOrdBytes32 : Std.TransOrd Bytes32 := inferInstance

structure Block where
  height : Nat
  time : Int

structure GuardView where
  timelockIntegrationEnabled : Bool
  hasExecutionMarker : Nat → Bool

inductive OwnMsg
  | cancelOperation (operationId : Nat) (authority reason : String)
  | updateParams (authority : String) (params : Params)
  | updateGuardian (authority newGuardian : String)
  | freezeTrack (authority trackName : String) (freezeUntilHeight : Int) (reason : String)
  | updateTrack (authority : String) (track : Track)

/-- What running an operation's messages comes to: none when a handler is missing, fails, panics or runs
out of gas, and otherwise the messages among them that the timelock itself handles, in order. -/
abbrev Outcome := Option (List OwnMsg)

/-- The messages of an operation being run: the record that is run, the record the store holds then and
the track recorded for it, and the emergency delay where a guardian runs it. -/
structure Dispatch where
  operation : QueuedOperation
  stored : Option QueuedOperation
  record : Option OperationTrackRecord
  track : Option Track
  emergencyDelaySeconds : Option Nat
  block : Block
  succeeded : Bool

inductive Event
  | operationQueued (operation : QueuedOperation) (minDelaySeconds computedDelaySeconds : Nat)
  | dispatched (dispatch : Dispatch)

inductive TimelockError
  | noMessages
  | trackPaused (track : String)
  | operationAlreadyExists
  | executionDisabled
  | operationNotFound
  | operationAlreadyExecuted
  | executorMismatch
  | operationCancelled
  | operationExpired
  | operationNotQueued
  | operationNotExecutable
  | operationHashMismatch
  | messageExecutionFailed
  | cancelReasonRequired
  | notGuardian
  | guardianCannotCancelProtected
  | justificationRequired
  | protectedOperationEmergency
  | emergencyNotEligible
  | unauthorized
  | invalidParams (error : ParamsError)
  | minDelayReducedTooFar
  | emergencyDelayTooShort
  | trackNotFound (name : String)
  | invalidTrack (error : TrackError)
  | freezeReasonTooShort
  | freezeNotAhead
  | freezeTooLong
  deriving DecidableEq

end Omniphi.Timelock

namespace Omniphi

open Gov Timelock

/-- `events` has the latest first. -/
structure TimelockKeeper where
  authority : String
  params : Timelock.Params
  operations : KeyedMap QueuedOperation.id
  operationsByHash : BTreeMap Bytes32 Nat
  nextOperationId : Nat
  pendingProposals : BTreeSet Nat
  tracks : KeyedMap Track.name
  operationTracks : KeyedMap OperationTrackRecord.operationId
  treasuryOutflow : Option TreasuryOutflowWindow
  paramMutations : Int × Nat
  guardianCancels : BTreeMap String (Nat × Int)
  events : List Timelock.Event

namespace TimelockKeeper

variable (sha256 : Sha256) (k : TimelockKeeper) (block : Block)

def new (authority : String) (params : Timelock.Params) (nextOperationId : Nat) : TimelockKeeper where
  authority := authority
  params := params
  operations := .empty
  operationsByHash := ∅
  nextOperationId := nextOperationId
  pendingProposals := ∅
  tracks := .empty
  operationTracks := .empty
  treasuryOutflow := none
  paramMutations := (0, 0)
  guardianCancels := ∅
  events := []

def emitEvent (event : Timelock.Event) : TimelockKeeper := { k with events := event :: k.events }

def isGuardian (address : String) : Bool := k.params.guardian = address

def getOperation (operationId : Nat) : Option QueuedOperation := k.operations.get? operationId

def setOperation (op : QueuedOperation) : TimelockKeeper :=
  { k with
    operations := k.operations.insert op
    operationsByHash := k.operationsByHash.insert op.operationHash op.id }

section Tracks

def getTrack (name : String) : Option Track := k.tracks.get? name

def setTrack (t : Track) : Except TimelockError TimelockKeeper :=
  match t.validate with
  | .error error => .error (.invalidTrack error)
  | .ok () => .ok { k with tracks := k.tracks.insert t }

def trackForProposal (messageTypeURLs : List String) : Track :=
  (k.getTrack (classifyTrackByMessageTypes messageTypeURLs)).getD ⟨trackOther, 1000, false, 0, 0⟩

def trackOf (operationId : Nat) : Option Track :=
  (k.operationTracks.get? operationId).bind fun record => k.getTrack record.trackName

-- A missing record or track counts as not frozen.
def isOperationTrackFrozen (operationId : Nat) (currentHeight : Int) : Bool :=
  match k.trackOf operationId with
  | none => false
  | some t => t.isFrozen currentHeight

def isTrackFrozen (operationId : Nat) : Bool := k.isOperationTrackFrozen operationId block.height

def mulDiv (a b c : Nat) : Nat := if c = 0 then a else u64 (a * b) / c

/-- The multiplier for an unknown risk tier, which counts as medium. -/
def riskMultiplier : Nat := 1500

/-- The adaptive delay as it is queued with: no risk tier and no economic impact are known yet. -/
def computeAdaptiveDelay (minDelay : Nat) (track : Track) (cumulativeEscalate mutationFreqExceeded : Bool) :
    Nat :=
  let trackMult := if track.multiplier < delayPrecision then delayPrecision else track.multiplier
  let escalateMult := if cumulativeEscalate then 1500 else delayPrecision
  let mutMult := if mutationFreqExceeded then mutationFreqMultiplier else delayPrecision
  let delay := mulDiv minDelay riskMultiplier delayPrecision
  let delay := mulDiv delay delayPrecision delayPrecision
  let delay := mulDiv delay trackMult delayPrecision
  let delay := mulDiv delay escalateMult delayPrecision
  let delay := mulDiv delay mutMult delayPrecision
  let delay := if delay < absoluteMinDelaySeconds then absoluteMinDelaySeconds else delay
  if delay > absoluteMaxDelaySeconds then absoluteMaxDelaySeconds else delay

def recordTreasuryOutflow (outflowBps : Nat) : Bool × TimelockKeeper :=
  let fresh : TreasuryOutflowWindow := ⟨block.time, 0, block.height⟩
  let w := match k.treasuryOutflow with
    | none => fresh
    | some w =>
        if w.windowStartUnix = 0 ∨ block.time - w.windowStartUnix > cumulativeTreasuryWindow then fresh
        else w
  let total := u64 (w.totalOutflowBps + outflowBps)
  let total := if total > 10000 then 10000 else total
  (total ≥ defaultCumulativeTreasuryEscalateBps,
    { k with treasuryOutflow := some ⟨w.windowStartUnix, total, block.height⟩ })

def incrementParamMutationCount : Bool × TimelockKeeper :=
  let (windowStart, count) := k.paramMutations
  let (windowStart, count) :=
    if (block.height : Int) - windowStart > paramChangeMutationWindowBlocks then ((block.height : Int), 0)
    else (windowStart, count)
  let count := u64 (count + 1)
  (count ≥ paramChangeMutationThreshold, { k with paramMutations := (windowStart, count) })

def freezeTrack (trackName : String) (freezeUntilHeight : Int) (reason : String) :
    Except TimelockError TimelockKeeper :=
  if reason.utf8ByteSize < 10 then .error .freezeReasonTooShort
  else if freezeUntilHeight ≤ block.height then .error .freezeNotAhead
  else if freezeUntilHeight - block.height > maxFreezeDurationBlocks then .error .freezeTooLong
  else match k.getTrack trackName with
  | none => .error (.trackNotFound trackName)
  | some t => k.setTrack { t with freezeUntilHeight := freezeUntilHeight }

/-- A freeze that is set stays; a track without one takes that of the message. -/
def updateTrack (track : Track) : Except TimelockError TimelockKeeper :=
  match k.getTrack track.name with
  | none => k.setTrack track
  | some existing =>
      if existing.freezeUntilHeight > 0 then
        k.setTrack { track with freezeUntilHeight := existing.freezeUntilHeight }
      else
        k.setTrack track

end Tracks

/-- A failed call keeps the operation id it drew and the windows it advanced. -/
def queueOperation (proposalId : Nat) (messages : List AnyMsg) (executor : String) :
    TimelockKeeper × Except TimelockError Nat :=
  if messages.isEmpty then (k, .error .noMessages)
  else
    let track := k.trackForProposal (messages.map AnyMsg.typeUrl)
    if track.paused then (k, .error (.trackPaused track.name))
    else
      let (cumulativeEscalate, k) :=
        if track.name = trackTreasury then k.recordTreasuryOutflow block 500 else (false, k)
      let (mutationFreqExceeded, k) :=
        if track.name = trackParamChange ∨ track.name = trackConsensus then
          k.incrementParamMutationCount block
        else (false, k)
      let adaptiveDelay :=
        computeAdaptiveDelay k.params.minDelaySeconds track cumulativeEscalate mutationFreqExceeded
      let opId := k.nextOperationId
      let k := { k with nextOperationId := u64 (opId + 1) }
      let op := newQueuedOperation sha256 opId proposalId messages executor block.time adaptiveDelay
        k.params.gracePeriodSeconds
      if k.operationsByHash.contains op.operationHash then (k, .error .operationAlreadyExists)
      else
        let k := k.setOperation op
        let k := { k with operationTracks := k.operationTracks.insert ⟨opId, track.name, adaptiveDelay⟩ }
        (k.emitEvent (.operationQueued op k.params.minDelaySeconds adaptiveDelay), .ok opId)

section Cancel

def trackGuardianCancel (guardian : String) : TimelockKeeper :=
  let (count, windowStart) := (k.guardianCancels[guardian]?).getD (0, 0)
  if (block.height : Int) - windowStart > guardianCancelWindowBlocks then
    { k with guardianCancels := k.guardianCancels.insert guardian (1, (block.height : Int)) }
  else
    let count := u64 (count + 1)
    if count ≥ maxGuardianCancelsPerWindow then
      { k with
        params := { k.params with guardian := "" }
        guardianCancels := k.guardianCancels.insert guardian (0, 0) }
    else
      { k with guardianCancels := k.guardianCancels.insert guardian (count, windowStart) }

def cancelOperation (operationId : Nat) (canceller reason : String) :
    Except TimelockError TimelockKeeper :=
  if !validateCancelReason reason then .error .cancelReasonRequired
  else
    let isGuardian := k.isGuardian canceller
    if !isGuardian && canceller ≠ k.authority then .error .notGuardian
    else match k.getOperation operationId with
    | none => .error .operationNotFound
    | some op =>
        if !op.isQueued then .error .operationNotQueued
        else if isGuardian && canceller ≠ k.authority && op.isProtected then
          .error .guardianCannotCancelProtected
        else
          let k := k.setOperation (op.markCancelled block.time reason)
          .ok (if isGuardian && canceller ≠ k.authority then k.trackGuardianCancel block canceller else k)

end Cancel

section Settings

def updateParams (authority : String) (params : Timelock.Params) : Except TimelockError TimelockKeeper :=
  if authority ≠ k.authority then .error .unauthorized
  else match params.validate with
  | .error error => .error (.invalidParams error)
  | .ok () =>
      if params.minDelaySeconds < k.params.minDelaySeconds / 2 then .error .minDelayReducedTooFar
      else if params.emergencyDelaySeconds < absoluteMinDelaySeconds then .error .emergencyDelayTooShort
      else .ok { k with params := params }

def updateGuardian (authority newGuardian : String) : Except TimelockError TimelockKeeper :=
  if authority ≠ k.authority then .error .unauthorized
  else
    let params := { k.params with guardian := newGuardian }
    match params.validate with
    | .error error => .error (.invalidParams error)
    | .ok () => .ok { k with params := params }

end Settings

section Execution

def handle : OwnMsg → Except TimelockError TimelockKeeper
  | .cancelOperation operationId authority reason => k.cancelOperation block operationId authority reason
  | .updateParams authority params => k.updateParams authority params
  | .updateGuardian authority newGuardian => k.updateGuardian authority newGuardian
  | .freezeTrack authority trackName freezeUntilHeight reason =>
      if authority ≠ k.authority then .error .unauthorized
      else k.freezeTrack block trackName freezeUntilHeight reason
  | .updateTrack authority track =>
      if authority ≠ k.authority then .error .unauthorized else k.updateTrack track

def handleAll (k : TimelockKeeper) : List OwnMsg → Option TimelockKeeper
  | [] => some k
  | msg :: rest =>
      match k.handle block msg with
      | .error _ => none
      | .ok k => handleAll k rest

def runMessages (op : QueuedOperation) (outcome : Outcome) : Option TimelockKeeper :=
  if op.messages.any fun msg => msg.unpacked.isNone then none
  else if op.messages.length > maxMessagesPerOperation then none
  else outcome.bind (k.handleAll block)

def dispatch (op : QueuedOperation) (emergencyDelaySeconds : Option Nat) (succeeded : Bool) : Dispatch where
  operation := op
  stored := k.getOperation op.id
  record := k.operationTracks.get? op.id
  track := k.trackOf op.id
  emergencyDelaySeconds := emergencyDelaySeconds
  block := block
  succeeded := succeeded

def executeMessages (op : QueuedOperation) (emergencyDelaySeconds : Option Nat) (outcome : Outcome) :
    TimelockKeeper × Bool :=
  match k.runMessages block op outcome with
  | none => (k.emitEvent (.dispatched (k.dispatch block op emergencyDelaySeconds false)), false)
  | some ran => (ran.emitEvent (.dispatched (k.dispatch block op emergencyDelaySeconds true)), true)

def executed (op : QueuedOperation) (emergencyDelaySeconds : Option Nat) (outcome : Outcome) :
    TimelockKeeper × Except TimelockError Unit :=
  match k.executeMessages block op emergencyDelaySeconds outcome with
  | (k, false) =>
      (k.setOperation (op.markFailed block.time .messageExecutionFailed), .error .messageExecutionFailed)
  | (k, true) => (k.setOperation (op.markExecuted block.time), .ok ())

def integrationEnabled (guard : Option GuardView) : Bool :=
  match guard with
  | none => false
  | some view => view.timelockIntegrationEnabled

def executedByGuard (guard : Option GuardView) (proposalId : Nat) : Bool :=
  match guard with
  | none => false
  | some view => view.hasExecutionMarker proposalId

def executeOperation (guard : Option GuardView) (operationId : Nat) (executor : String)
    (outcome : Outcome) : TimelockKeeper × Except TimelockError Unit :=
  if integrationEnabled guard then (k, .error .executionDisabled)
  else match k.getOperation operationId with
  | none => (k, .error .operationNotFound)
  | some op =>
      if executedByGuard guard op.proposalId then (k, .error .operationAlreadyExecuted)
      else if op.executor ≠ executor then (k, .error .executorMismatch)
      else if !op.isQueued then
        (k, .error (match op.status with
          | .executed => .operationAlreadyExecuted
          | .cancelled => .operationCancelled
          | .expired => .operationExpired
          | _ => .operationNotQueued))
      else if op.isExpired block.time then (k.setOperation op.markExpired, .error .operationExpired)
      else if !op.isExecutable block.time then (k, .error .operationNotExecutable)
      else if !op.verifyHash sha256 then (k, .error .operationHashMismatch)
      else k.executed block op none outcome

def emergencyExecute (guard : Option GuardView) (operationId : Nat) (guardian justification : String)
    (outcome : Outcome) : TimelockKeeper × Except TimelockError Unit :=
  if integrationEnabled guard then (k, .error .executionDisabled)
  else if !validateJustification justification then (k, .error .justificationRequired)
  else if !k.isGuardian guardian then (k, .error .notGuardian)
  else match k.getOperation operationId with
  | none => (k, .error .operationNotFound)
  | some op =>
      if executedByGuard guard op.proposalId then (k, .error .operationAlreadyExecuted)
      else if !op.isQueued then (k, .error .operationNotQueued)
      else if op.isProtected then (k, .error .protectedOperationEmergency)
      else if !op.canEmergencyExecute block.time k.params.emergencyDelaySeconds then
        (k, .error .emergencyNotEligible)
      else if !op.verifyHash sha256 then (k, .error .operationHashMismatch)
      else k.executed block op (some k.params.emergencyDelaySeconds) outcome

/-- One step of the walk over the operations as they were at its start; `spent` counts the executed and
the failed ones. -/
def autoExecuteOne (guard : Option GuardView) (outcomes : Nat → Outcome)
    (walk : TimelockKeeper × Nat) (op : QueuedOperation) : TimelockKeeper × Nat :=
  let (k, spent) := walk
  if !op.isQueued then (k, spent)
  else if op.isExpired block.time then (k.setOperation op.markExpired, spent)
  else if !op.isExecutable block.time then (k, spent)
  else if spent ≥ maxOperationsPerBlock then (k, spent)
  else if !op.verifyHash sha256 then
    (k.setOperation (op.markFailed block.time .operationHashMismatch), spent)
  else if executedByGuard guard op.proposalId then
    (k.setOperation (op.markFailed block.time .operationAlreadyExecuted), spent + 1)
  else if k.isTrackFrozen block op.id then (k, spent)
  else ((k.executed block op none (outcomes op.id)).1, spent + 1)

-- A failed operation and an executed one count the same, so the mark alone tells them apart.
def autoExecuteReadyOperations (guard : Option GuardView) (outcomes : Nat → Outcome) : TimelockKeeper :=
  if integrationEnabled guard then k
  else (k.operations.values.foldl (autoExecuteOne sha256 block guard outcomes) (k, 0)).1

def markExpiredOperations : TimelockKeeper :=
  k.operations.values.foldl (fun k op =>
    if op.isQueued && op.isExpired block.time then k.setOperation op.markExpired else k) k

end Execution

end TimelockKeeper

end Omniphi
