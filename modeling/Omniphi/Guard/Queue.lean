import Omniphi.Guard.Risk

/-! The execution queue: a passed proposal enters it, goes through the gates block by block, and is
executed or aborted. -/

namespace Omniphi.Guard

open Gov

def isProposalExecutable (status : ProposalStatus) : Bool := status = .passed || status = .failed

def dispatchError (handler : Nat → AnyMsg → HandlerResult) : Nat → List AnyMsg → Option ExecuteError
  | _, [] => none
  | position, msg :: rest =>
      match handler position msg with
      | .missing => some (.noHandler position)
      | .failed => some (.messageFailed position)
      | .succeeded => dispatchError handler (position + 1) rest

inductive ConfirmError
  | unauthorized
  | queuedExecutionNotFound (proposalId : Nat)
  | notReady (proposalId : Nat) (gate : ExecutionGateState)
  | confirmationNotRequired
  | alreadyConfirmed
  deriving DecidableEq

inductive UpdateParamsError
  | unauthorized
  | invalidParams (text : String)
  deriving DecidableEq

end Omniphi.Guard

namespace Omniphi.GuardKeeper

open Guard

variable (k : GuardKeeper) (env : Env)

section Intake

def initialReport (proposal : Gov.Proposal) : RiskReport :=
  let report := k.applyAggregateRiskEscalation (evaluateProposal k.authority k.params env proposal)
    (k.computeAggregateRisk env)
  if k.emergencyHardening then
    let (tier, threshold, delay) :=
      applyEmergencyHardening report.tier report.computedThresholdBps report.computedDelayBlocks
    { report with tier := tier, computedThresholdBps := threshold, computedDelayBlocks := delay }
  else
    report

def initialExecution (proposalId : Nat) (report : RiskReport) : QueuedExecution where
  proposalId := proposalId
  queuedHeight := env.height
  earliestExecHeight := u64 (env.height + report.computedDelayBlocks)
  gateState := .visibility
  gateEnteredHeight := env.height
  tier := report.tier
  requiredThresholdBps := report.computedThresholdBps
  requiresSecondConfirm := k.params.criticalRequiresSecondConfirm && decide (report.tier = .critical)
  secondConfirmReceived := false
  statusNote := .queuedForGuardedExecution

def enqueue (proposalId : Nat) (report : RiskReport) : GuardKeeper :=
  ((k.setRiskReport report).setQueuedExecution (k.initialExecution env proposalId report)).emitEvent
    (.proposalQueued proposalId env.height)

def onProposalPassed (proposalId : Nat) : Option GuardKeeper :=
  match env.getProposal proposalId with
  | none => none
  | some proposal =>
      match k.getQueuedExecution proposalId with
      | some _ => some k
      | none => some (k.enqueue env proposalId (k.initialReport env proposal))

def onTimelockQueued (proposalId : Nat) : Option GuardKeeper :=
  if k.params.timelockIntegrationEnabled then
    match k.onProposalPassed env proposalId with
    | none => none
    | some k => some (k.setTimelockHandover proposalId)
  else
    some k

end Intake

section Checks

-- A failed iteration is logged and leaves the snapshot that was there.
def snapshotValidatorPower (proposalId : Nat) : GuardKeeper :=
  match env.bondedValidators with
  | none => k
  | some validators =>
      let snapshot : ValidatorPowerSnapshot :=
        { height := env.height
          totalPower := (validators.map Prod.snd).foldl (fun sum power => i64 (sum + power)) 0
          validators := validators.insertionSort fun a b => a.1 ≤ b.1 }
      { k with powerSnapshots := k.powerSnapshots.insert proposalId snapshot }

def checkStabilityConditions (proposalId : Nat) : Bool × Nat :=
  match k.powerSnapshots[proposalId]?, env.bondedValidators with
  | some snapshot, some validators =>
      (churnBps snapshot validators ≤ k.params.maxValidatorChurnBps, churnBps snapshot validators)
  | _, _ => (true, 0)

def verifyVotingThreshold (exec : QueuedExecution) : Except ThresholdError Unit :=
  match env.getProposal exec.proposalId with
  | none => .error (.proposalNotFound exec.proposalId)
  | some proposal =>
      if !isProposalExecutable proposal.status then .error (.proposalNotPassed proposal.status)
      else
        let tally := proposal.finalTallyResult
        match tally.yesCount with
        | none => .error .invalidYesCount
        | some yesCount =>
            let totalNonAbstain :=
              u64 (u64 (yesCount + tally.noCount.getD 0) + tally.noWithVetoCount.getD 0)
            if totalNonAbstain = 0 then .error .noVotesCast
            else
              let yesVoteBps := u64 (yesCount * 10000) / totalNonAbstain
              if yesVoteBps < exec.requiredThresholdBps then
                .error (.belowRequired yesVoteBps exec.requiredThresholdBps)
              else
                .ok ()

end Checks

def executeProposal (exec : QueuedExecution) : Except ExecuteError GuardKeeper :=
  if exec.gateState ≠ .ready then .error (.notReady exec.gateState)
  else if k.hasExecutionMarker exec.proposalId then .error (.doubleExecution exec.proposalId)
  else if env.isTrackFrozen exec.proposalId then .error (.deferred exec.proposalId)
  else match env.router with
  | none => .error .routerNotConfigured
  | some handler =>
      match env.getProposal exec.proposalId with
      | none => .error (.proposalNotFound exec.proposalId)
      | some proposal =>
          if proposal.status = .failed ∧ k.hasTimelockHandover exec.proposalId = false then
            .error .noTimelockHandover
          else if !isProposalExecutable proposal.status then
            .error (.proposalNotPassed exec.proposalId proposal.status)
          else if proposal.messages.isEmpty then .ok k
          else match proposal.messages.findIdx? fun msg => msg.unpacked.isNone with
          | some position => .error (.unpackFailed position)
          | none =>
              match dispatchError (handler exec.proposalId) 0 proposal.messages with
              | some error => .error error
              | none => .ok (k.emitEvent (.messagesDispatched exec.proposalId))

section Gates

variable (exec : QueuedExecution) (blocksInGate : Nat)

def visibilityGate : GuardKeeper :=
  if blocksInGate ≥ k.params.visibilityWindowBlocks then
    (k.setQueuedExecution { exec with
      gateState := .shockAbsorber
      gateEnteredHeight := env.height
      statusNote := .enteredShockAbsorber }).emitEvent
        (.gateTransition exec.proposalId .shockAbsorber env.height k.params.visibilityWindowBlocks)
  else
    k

def shockAbsorberGate : GuardKeeper :=
  if blocksInGate ≥ k.params.shockAbsorberWindowBlocks then
    let snapshotted := if k.params.enableStabilityChecks then
      k.snapshotValidatorPower env exec.proposalId else k
    (snapshotted.setQueuedExecution { exec with
      gateState := .conditionalExecution
      gateEnteredHeight := env.height
      statusNote := .enteredConditionalExecution }).emitEvent
        (.gateTransition exec.proposalId .conditionalExecution env.height k.params.shockAbsorberWindowBlocks)
  else
    k

def extension : Nat :=
  if exec.tier = .critical then k.params.extensionCriticalBlocks else k.params.extensionHighBlocks

def conditionalGate : GuardKeeper :=
  let (passed, churn) := k.checkStabilityConditions env exec.proposalId
  if k.params.enableStabilityChecks && !passed then
    (((k.deleteQueueIndexEntry exec.earliestExecHeight exec.proposalId).snapshotValidatorPower env
      exec.proposalId).setQueuedExecution { exec with
        earliestExecHeight := u64 (env.height + k.extension exec)
        gateEnteredHeight := env.height
        statusNote := .stabilityChecksFailed churn k.params.maxValidatorChurnBps (k.extension exec) }).emitEvent
          (.executionExtended exec.proposalId env.height)
  else
    (k.setQueuedExecution { exec with
      gateState := .ready
      gateEnteredHeight := env.height
      statusNote := .readyForExecution }).emitEvent
        (.gateTransition exec.proposalId .ready env.height 0)

def deferralBackoff : Nat := 10

-- The height index keeps the entry the restarted or deferred record leaves.
def readyGate : GuardKeeper :=
  if exec.needsConfirmation then
    if blocksInGate > k.params.criticalSecondConfirmWindowBlocks then
      (k.setQueuedExecution { exec with
        statusNote := .confirmationWindowExpired
        earliestExecHeight := u64 (env.height + k.params.extensionCriticalBlocks)
        gateState := .visibility
        gateEnteredHeight := env.height }).emitEvent (.gatesRestarted exec.proposalId env.height)
    else
      k
  else
    match verifyVotingThreshold env exec with
    | .error error =>
        k.setQueuedExecution { exec with gateState := .aborted, statusNote := .thresholdAborted error }
    | .ok () =>
        let k := k.emitEvent (.executionInvoked ⟨exec, env.height, k.params⟩)
        match k.executeProposal env exec with
        | .error (.deferred proposalId) =>
            k.setQueuedExecution { exec with
              earliestExecHeight := u64 (env.height + deferralBackoff)
              statusNote := .executionDeferred (.deferred proposalId) }
        | .error error =>
            k.setQueuedExecution { exec with gateState := .aborted, statusNote := .executionFailed error }
        | .ok k =>
            (k.setExecutionMarker exec.proposalId).setQueuedExecution
              { exec with gateState := .executed, statusNote := .successfullyExecuted }

def advanceGate : GuardKeeper :=
  match exec.gateState with
  | .visibility => k.visibilityGate env exec blocksInGate
  | .shockAbsorber => k.shockAbsorberGate env exec blocksInGate
  | .conditionalExecution => k.conditionalGate env exec
  | .ready => k.readyGate env exec blocksInGate
  | _ => k

def reevaluated (proposalId : Nat) : GuardKeeper :=
  match k.reevaluateRisk env proposalId with
  | .ok k => k
  | .error _ => k

def blocksSince (height entered : Nat) : Nat := u64 (height + 2 ^ 64 - entered)

-- Readiness and the blocks in the gate are read from the record before it is reevaluated.
def processGateTransition : GuardKeeper :=
  if env.height < exec.earliestExecHeight then k
  else
    let blocksInGate := blocksSince env.height exec.gateEnteredHeight
    let k := k.reevaluated env exec.proposalId
    k.advanceGate env ((k.getQueuedExecution exec.proposalId).getD exec) blocksInGate

end Gates

def visit (proposalId : Nat) : GuardKeeper :=
  match k.getQueuedExecution proposalId with
  | none => k
  | some exec => if exec.isTerminal then k else k.processGateTransition env exec

def reindex (currentHeight proposalId : Nat) : GuardKeeper :=
  let k := k.deleteQueueIndexEntry currentHeight proposalId
  match k.getQueuedExecution proposalId with
  | none => k
  | some exec =>
      if exec.isTerminal then k
      else k.setQueueIndexEntry
        (if exec.earliestExecHeight ≤ currentHeight then currentHeight + 1 else exec.earliestExecHeight)
        proposalId

def scanned : List Nat := (k.queueByHeight env.height).take k.params.maxQueueScanDepth

def processQueue : GuardKeeper :=
  (k.scanned env).foldl (fun k proposalId => k.reindex env.height proposalId)
    ((k.scanned env).foldl (fun k proposalId => k.visit env proposalId) k)

def confirmExecution (authority : String) (proposalId : Nat) (justification : String) :
    Except ConfirmError GuardKeeper :=
  if k.authority ≠ authority then .error .unauthorized
  else match k.getQueuedExecution proposalId with
  | none => .error (.queuedExecutionNotFound proposalId)
  | some exec =>
      if exec.gateState ≠ .ready then .error (.notReady proposalId exec.gateState)
      else if !exec.requiresSecondConfirm then .error .confirmationNotRequired
      else if exec.secondConfirmReceived then .error .alreadyConfirmed
      else .ok (k.setQueuedExecution { exec with
        secondConfirmReceived := true
        statusNote := .secondConfirmationReceived justification })

def updateParams (authority : String) (params : Params) : Except UpdateParamsError GuardKeeper :=
  if k.authority ≠ authority then .error .unauthorized
  else match params.validate with
  | .error text => .error (.invalidParams text)
  | .ok () => .ok { k with params := params }

end Omniphi.GuardKeeper
