import Omniphi.Lib.KeyedMap
import Omniphi.Guard.Types

/-! The guard's store: queued executions with the index by height and the index of active ones, risk
reports, markers, power snapshots and escalation records. -/

namespace Omniphi.Guard

open Gov

instance natPairOrd : Ord (Nat × Nat) := lexOrd

inductive ExecuteError
  | notReady (gate : ExecutionGateState)
  | doubleExecution (proposalId : Nat)
  | deferred (proposalId : Nat)
  | routerNotConfigured
  | proposalNotFound (proposalId : Nat)
  | noTimelockHandover
  | proposalNotPassed (proposalId : Nat) (status : ProposalStatus)
  | unpackFailed (message : Nat)
  | noHandler (message : Nat)
  | messageFailed (message : Nat)
  deriving DecidableEq

inductive ThresholdError
  | proposalNotFound (proposalId : Nat)
  | proposalNotPassed (status : ProposalStatus)
  | invalidYesCount
  | noVotesCast
  | belowRequired (yesVoteBps required : Nat)
  deriving DecidableEq

inductive StatusNote
  | queuedForGuardedExecution
  | enteredShockAbsorber
  | enteredConditionalExecution
  | stabilityChecksFailed (churnBps maxBps extension : Nat)
  | readyForExecution
  | confirmationWindowExpired
  | thresholdAborted (error : ThresholdError)
  | executionDeferred (error : ExecuteError)
  | executionFailed (error : ExecuteError)
  | successfullyExecuted
  | secondConfirmationReceived (justification : String)
  deriving DecidableEq

structure QueuedExecution where
  proposalId : Nat
  queuedHeight : Nat
  earliestExecHeight : Nat
  gateState : ExecutionGateState
  gateEnteredHeight : Nat
  tier : RiskTier
  requiredThresholdBps : Nat
  requiresSecondConfirm : Bool
  secondConfirmReceived : Bool
  statusNote : StatusNote
  deriving DecidableEq

namespace QueuedExecution

def isTerminal (exec : QueuedExecution) : Bool := exec.gateState.isTerminal

def needsConfirmation (exec : QueuedExecution) : Bool :=
  exec.requiresSecondConfirm && !exec.secondConfirmReceived

end QueuedExecution

structure RiskReport where
  proposalId : Nat
  tier : RiskTier
  score : Nat
  computedDelayBlocks : Nat
  computedThresholdBps : Nat
  reasonCodes : List String
  deriving DecidableEq

structure ValidatorPowerSnapshot where
  height : Nat
  totalPower : Int
  validators : List (String × Int)
  deriving DecidableEq

structure ThresholdEscalationRecord where
  proposalId : Nat
  originalThreshold : Nat
  currentThreshold : Nat
  escalationCount : Nat
  lastEscalatedAt : Nat
  deriving DecidableEq

/-- A call of `ExecuteProposal`: the record it is made for, as the store holds it, with the height
and the parameters it is made under. -/
structure Call where
  exec : QueuedExecution
  height : Nat
  params : Params

/-- What the guard announces of an execution on its way through the gates. A transition carries the
window that was in force for the gate it leaves. -/
inductive Event
  | proposalQueued (proposalId height : Nat)
  | gateTransition (proposalId : Nat) (entered : ExecutionGateState) (height window : Nat)
  | executionExtended (proposalId height : Nat)
  | gatesRestarted (proposalId height : Nat)
  | executionInvoked (call : Call)
  | messagesDispatched (proposalId : Nat)

end Omniphi.Guard

namespace Omniphi

open Guard

/-- `events` has the latest first. -/
structure GuardKeeper where
  authority : String
  params : Params
  queuedExecutions : KeyedMap QueuedExecution.proposalId
  queueIndex : BTreeSet (Nat × Nat)
  activeExecutions : BTreeSet Nat
  riskReports : KeyedMap RiskReport.proposalId
  executionMarkers : BTreeSet Nat
  timelockHandovers : BTreeSet Nat
  powerSnapshots : BTreeMap Nat ValidatorPowerSnapshot
  thresholdEscalations : KeyedMap ThresholdEscalationRecord.proposalId
  emergencyHardening : Bool
  events : List Event

namespace GuardKeeper

variable (k : GuardKeeper)

def new (authority : String) (params : Params) : GuardKeeper where
  authority := authority
  params := params
  queuedExecutions := .empty
  queueIndex := ∅
  activeExecutions := ∅
  riskReports := .empty
  executionMarkers := ∅
  timelockHandovers := ∅
  powerSnapshots := ∅
  thresholdEscalations := .empty
  emergencyHardening := false
  events := []

def emitEvent (event : Event) : GuardKeeper := { k with events := event :: k.events }

def getQueuedExecution (proposalId : Nat) : Option QueuedExecution :=
  k.queuedExecutions.get? proposalId

-- The entry by height is written for every record, a finished one too.
def setQueuedExecution (exec : QueuedExecution) : GuardKeeper :=
  { k with
    queuedExecutions := k.queuedExecutions.insert exec
    queueIndex := k.queueIndex.insert (exec.earliestExecHeight, exec.proposalId)
    activeExecutions :=
      if exec.isTerminal then k.activeExecutions.erase exec.proposalId
      else k.activeExecutions.insert exec.proposalId }

def setQueueIndexEntry (height proposalId : Nat) : GuardKeeper :=
  { k with queueIndex := k.queueIndex.insert (height, proposalId) }

def deleteQueueIndexEntry (height proposalId : Nat) : GuardKeeper :=
  { k with queueIndex := k.queueIndex.erase (height, proposalId) }

def queueByHeight (maxHeight : Nat) : List Nat :=
  (k.queueIndex.toList.filter fun entry => entry.1 ≤ maxHeight).map Prod.snd

def getRiskReport (proposalId : Nat) : Option RiskReport := k.riskReports.get? proposalId

def setRiskReport (report : RiskReport) : GuardKeeper :=
  { k with riskReports := k.riskReports.insert report }

def setExecutionMarker (proposalId : Nat) : GuardKeeper :=
  { k with executionMarkers := k.executionMarkers.insert proposalId }

def hasExecutionMarker (proposalId : Nat) : Bool := k.executionMarkers.contains proposalId

def setTimelockHandover (proposalId : Nat) : GuardKeeper :=
  { k with timelockHandovers := k.timelockHandovers.insert proposalId }

def hasTimelockHandover (proposalId : Nat) : Bool := k.timelockHandovers.contains proposalId

def isTimelockIntegrationEnabled : Bool := k.params.timelockIntegrationEnabled

def setEmergencyHardeningMode (enabled : Bool) : GuardKeeper := { k with emergencyHardening := enabled }

section Store

variable (exec : QueuedExecution) (event : Event) (height proposalId : Nat)

@[simp] theorem getQueuedExecution_emitEvent :
    (k.emitEvent event).getQueuedExecution proposalId = k.getQueuedExecution proposalId := rfl

@[simp] theorem getQueuedExecution_deleteQueueIndexEntry (other : Nat) :
    (k.deleteQueueIndexEntry height other).getQueuedExecution proposalId =
      k.getQueuedExecution proposalId := rfl

@[simp] theorem getQueuedExecution_setQueueIndexEntry (other : Nat) :
    (k.setQueueIndexEntry height other).getQueuedExecution proposalId =
      k.getQueuedExecution proposalId := rfl

@[simp] theorem getQueuedExecution_setRiskReport (report : RiskReport) :
    (k.setRiskReport report).getQueuedExecution proposalId = k.getQueuedExecution proposalId := rfl

@[simp] theorem getQueuedExecution_setExecutionMarker (other : Nat) :
    (k.setExecutionMarker other).getQueuedExecution proposalId = k.getQueuedExecution proposalId := rfl

theorem getQueuedExecution_setQueuedExecution :
    (k.setQueuedExecution exec).getQueuedExecution proposalId =
      if exec.proposalId = proposalId then some exec else k.getQueuedExecution proposalId :=
  k.queuedExecutions.get?_insert exec proposalId

theorem proposalId_of_getQueuedExecution {k : GuardKeeper} {exec : QueuedExecution} {proposalId : Nat}
    (found : k.getQueuedExecution proposalId = some exec) : exec.proposalId = proposalId :=
  k.queuedExecutions.key_of_get? found

theorem proposalId_of_getRiskReport {k : GuardKeeper} {report : RiskReport} {proposalId : Nat}
    (found : k.getRiskReport proposalId = some report) : report.proposalId = proposalId :=
  k.riskReports.key_of_get? found

@[simp] theorem getRiskReport_setQueuedExecution :
    (k.setQueuedExecution exec).getRiskReport proposalId = k.getRiskReport proposalId := rfl

theorem getRiskReport_setRiskReport (report : RiskReport) :
    (k.setRiskReport report).getRiskReport proposalId =
      if report.proposalId = proposalId then some report else k.getRiskReport proposalId :=
  k.riskReports.get?_insert report proposalId

end Store

section Index

variable {k} {entry : Nat × Nat} {exec : QueuedExecution}

theorem mem_insert_entry {index : BTreeSet (Nat × Nat)} {a b : Nat × Nat} :
    b ∈ index.insert a ↔ a = b ∨ b ∈ index := by
  rw [Std.ExtTreeSet.mem_insert, Std.LawfulEqCmp.compare_eq_iff_eq]

theorem mem_erase_entry {index : BTreeSet (Nat × Nat)} {a b : Nat × Nat} :
    b ∈ index.erase a ↔ a ≠ b ∧ b ∈ index := by
  rw [Std.ExtTreeSet.mem_erase, ne_eq, Std.LawfulEqCmp.compare_eq_iff_eq]

theorem mem_setQueuedExecution : entry ∈ (k.setQueuedExecution exec).queueIndex ↔
    (exec.earliestExecHeight, exec.proposalId) = entry ∨ entry ∈ k.queueIndex := mem_insert_entry

theorem mem_setQueueIndexEntry {height proposalId : Nat} :
    entry ∈ (k.setQueueIndexEntry height proposalId).queueIndex ↔
      (height, proposalId) = entry ∨ entry ∈ k.queueIndex := mem_insert_entry

theorem mem_deleteQueueIndexEntry {height proposalId : Nat} :
    entry ∈ (k.deleteQueueIndexEntry height proposalId).queueIndex ↔
      (height, proposalId) ≠ entry ∧ entry ∈ k.queueIndex := mem_erase_entry

theorem mem_queueByHeight {maxHeight proposalId : Nat} : proposalId ∈ k.queueByHeight maxHeight ↔
    ∃ height ≤ maxHeight, (height, proposalId) ∈ k.queueIndex := by
  rw [queueByHeight, List.mem_map]
  constructor
  · rintro ⟨⟨height, proposal⟩, kept, rfl⟩
    rw [List.mem_filter, Std.ExtTreeSet.mem_toList] at kept
    exact ⟨height, by simpa using kept.2, kept.1⟩
  · rintro ⟨height, due, held⟩
    exact ⟨(height, proposalId), List.mem_filter.2 ⟨Std.ExtTreeSet.mem_toList.2 held, by simpa using due⟩, rfl⟩

end Index

end GuardKeeper

end Omniphi
