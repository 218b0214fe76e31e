import Omniphi.Guard.Queue

/-! What a gate check can do: the reevaluation and the gate step each have their cases, and neither
touches another proposal. -/

namespace Omniphi

open Guard

namespace Guard

def Event.proposalId : Event → Nat
  | .proposalQueued proposalId _ => proposalId
  | .gateTransition proposalId _ _ _ => proposalId
  | .executionExtended proposalId _ => proposalId
  | .gatesRestarted proposalId _ => proposalId
  | .executionInvoked call => call.exec.proposalId
  | .messagesDispatched proposalId => proposalId

end Guard

namespace GuardKeeper

def historyOf (k : GuardKeeper) (proposalId : Nat) : List Event :=
  k.events.filter fun event => event.proposalId = proposalId

/-- Nothing the guard keeps for proposal `other` has changed. -/
structure Frame (other : Nat) (before after : GuardKeeper) : Prop where
  exec : after.getQueuedExecution other = before.getQueuedExecution other
  report : after.getRiskReport other = before.getRiskReport other
  index : ∀ height, (height, other) ∈ after.queueIndex ↔ (height, other) ∈ before.queueIndex
  active : other ∈ after.activeExecutions ↔ other ∈ before.activeExecutions
  marker : other ∈ after.executionMarkers ↔ other ∈ before.executionMarkers
  history : after.historyOf other = before.historyOf other

structure Settled (before after : GuardKeeper) : Prop where
  authority : after.authority = before.authority
  params : after.params = before.params
  handovers : after.timelockHandovers = before.timelockHandovers
  hardening : after.emergencyHardening = before.emergencyHardening

variable {k k' k'' : GuardKeeper} {env : Env} {other proposalId height : Nat} {exec : QueuedExecution}

@[refl] theorem Frame.refl (k : GuardKeeper) : Frame other k k :=
  ⟨rfl, rfl, fun _ => Iff.rfl, Iff.rfl, Iff.rfl, rfl⟩

theorem Frame.trans (first : Frame other k k') (second : Frame other k' k'') : Frame other k k'' where
  exec := second.exec.trans first.exec
  report := second.report.trans first.report
  index height := (second.index height).trans (first.index height)
  active := second.active.trans first.active
  marker := second.marker.trans first.marker
  history := second.history.trans first.history

@[refl] theorem Settled.refl (k : GuardKeeper) : Settled k k := ⟨rfl, rfl, rfl, rfl⟩

theorem Settled.trans (first : Settled k k') (second : Settled k' k'') : Settled k k'' :=
  ⟨second.authority.trans first.authority, second.params.trans first.params,
    second.handovers.trans first.handovers, second.hardening.trans first.hardening⟩

section Frames

theorem mem_active_setQueuedExecution {b : Nat} : b ∈ (k.setQueuedExecution exec).activeExecutions ↔
    if exec.proposalId = b then exec.isTerminal = false else b ∈ k.activeExecutions := by
  unfold setQueuedExecution
  by_cases here : exec.proposalId = b
  · cases finished : exec.isTerminal <;> simp [here]
  · cases finished : exec.isTerminal <;> simp [here]

theorem getQueuedExecution_written (k : GuardKeeper) {exec' : QueuedExecution}
    (named : exec'.proposalId = proposalId) :
    (k.setQueuedExecution exec').getQueuedExecution proposalId = some exec' := by
  rw [getQueuedExecution_setQueuedExecution, if_pos named]

theorem getQueuedExecution_announced (k : GuardKeeper) {exec' : QueuedExecution} (event : Event)
    (named : exec'.proposalId = proposalId) :
    ((k.setQueuedExecution exec').emitEvent event).getQueuedExecution proposalId = some exec' := by
  rw [getQueuedExecution_emitEvent, getQueuedExecution_written _ named]

theorem frame_setQueuedExecution (k : GuardKeeper) (away : exec.proposalId ≠ other) :
    Frame other k (k.setQueuedExecution exec) where
  exec := by rw [getQueuedExecution_setQueuedExecution, if_neg away]
  report := rfl
  index height := by simp [mem_setQueuedExecution, away]
  active := by rw [mem_active_setQueuedExecution, if_neg away]
  marker := Iff.rfl
  history := rfl

theorem frame_emitEvent (k : GuardKeeper) {event : Event} (away : event.proposalId ≠ other) :
    Frame other k (k.emitEvent event) where
  exec := rfl
  report := rfl
  index _ := Iff.rfl
  active := Iff.rfl
  marker := Iff.rfl
  history := by simp [historyOf, emitEvent, away]

theorem frame_deleteQueueIndexEntry (k : GuardKeeper) (height : Nat) (away : proposalId ≠ other) :
    Frame other k (k.deleteQueueIndexEntry height proposalId) where
  exec := rfl
  report := rfl
  index _ := by simp [mem_deleteQueueIndexEntry, away]
  active := Iff.rfl
  marker := Iff.rfl
  history := rfl

theorem frame_setQueueIndexEntry (k : GuardKeeper) (height : Nat) (away : proposalId ≠ other) :
    Frame other k (k.setQueueIndexEntry height proposalId) where
  exec := rfl
  report := rfl
  index _ := by simp [mem_setQueueIndexEntry, away]
  active := Iff.rfl
  marker := Iff.rfl
  history := rfl

theorem frame_setRiskReport (k : GuardKeeper) {report : RiskReport} (away : report.proposalId ≠ other) :
    Frame other k (k.setRiskReport report) where
  exec := rfl
  report := by rw [getRiskReport_setRiskReport, if_neg away]
  index _ := Iff.rfl
  active := Iff.rfl
  marker := Iff.rfl
  history := rfl

theorem frame_setExecutionMarker (k : GuardKeeper) (away : proposalId ≠ other) :
    Frame other k (k.setExecutionMarker proposalId) where
  exec := rfl
  report := rfl
  index _ := Iff.rfl
  active := Iff.rfl
  marker := by simp [setExecutionMarker, away]
  history := rfl

theorem frame_snapshotValidatorPower (k : GuardKeeper) (env : Env) :
    Frame other k (k.snapshotValidatorPower env proposalId) := by
  unfold snapshotValidatorPower
  split <;> exact ⟨rfl, rfl, fun _ => Iff.rfl, Iff.rfl, Iff.rfl, rfl⟩

theorem settled_snapshotValidatorPower (k : GuardKeeper) (env : Env) :
    Settled k (k.snapshotValidatorPower env proposalId) := by
  unfold snapshotValidatorPower
  split <;> exact ⟨rfl, rfl, rfl, rfl⟩

theorem events_snapshotValidatorPower (k : GuardKeeper) (env : Env) :
    (k.snapshotValidatorPower env proposalId).events = k.events := by
  unfold snapshotValidatorPower
  split <;> rfl

end Frames

section Reevaluation

variable (k env)

theorem computeThresholdEscalation_keeper (proposalId threshold : Nat) :
    ∃ records, (k.computeThresholdEscalation env proposalId threshold).2 =
      { k with thresholdEscalations := records } := by
  unfold computeThresholdEscalation
  dsimp only
  split
  · exact ⟨_, rfl⟩
  · exact ⟨k.thresholdEscalations, rfl⟩

theorem escalatedReport_keeper (existing : RiskReport) (proposal : Gov.Proposal) :
    ∃ records, (k.escalatedReport env existing proposal).2 =
      { k with thresholdEscalations := records } := by
  unfold escalatedReport
  exact computeThresholdEscalation_keeper k env _ _

def reassessment (proposalId : Nat) : Option (RiskReport × RiskReport) :=
  match k.getRiskReport proposalId, env.getProposal proposalId with
  | some existing, some proposal => some (existing, (k.escalatedReport env existing proposal).1)
  | _, _ => none

def reassessed (exec : QueuedExecution) : QueuedExecution :=
  match k.reassessment env exec.proposalId with
  | none => exec
  | some (existing, report) => if report = existing then exec else rescheduled k.params exec existing report

/-- The reevaluation takes the branch that moves the earliest height. -/
def RaisesDelay (proposalId : Nat) : Prop :=
  ∃ reports ∈ k.reassessment env proposalId, reports.2.computedDelayBlocks > reports.1.computedDelayBlocks

def ChangesRisk (proposalId : Nat) : Prop :=
  ∃ reports ∈ k.reassessment env proposalId, reports.2 ≠ reports.1

instance decidableRaisesDelay (proposalId : Nat) : Decidable (k.RaisesDelay env proposalId) :=
  inferInstanceAs (Decidable (∃ reports ∈ k.reassessment env proposalId,
    reports.2.computedDelayBlocks > reports.1.computedDelayBlocks))

instance decidableChangesRisk (proposalId : Nat) : Decidable (k.ChangesRisk env proposalId) :=
  inferInstanceAs (Decidable (∃ reports ∈ k.reassessment env proposalId, reports.2 ≠ reports.1))

def reassign (records : KeyedMap ThresholdEscalationRecord.proposalId) (exec : QueuedExecution)
    (existing report : RiskReport) : GuardKeeper :=
  let k := { k with thresholdEscalations := records }
  let k := if report.computedDelayBlocks > existing.computedDelayBlocks then
    k.deleteQueueIndexEntry exec.earliestExecHeight exec.proposalId else k
  (k.setRiskReport report).setQueuedExecution (rescheduled k.params exec existing report)

variable {k env}

theorem proposalId_escalatedReport (existing : RiskReport) (proposal : Gov.Proposal) :
    (k.escalatedReport env existing proposal).1.proposalId = existing.proposalId := rfl

theorem proposalId_rescheduled (params : Params) (exec : QueuedExecution) (existing report : RiskReport) :
    (rescheduled params exec existing report).proposalId = exec.proposalId := rfl

variable (env) in
theorem reevaluated_cases (found : k.getQueuedExecution proposalId = some exec)
    (live : exec.isTerminal = false) :
    (¬ k.ChangesRisk env proposalId ∧
      ∃ records, k.reevaluated env proposalId = { k with thresholdEscalations := records }) ∨
    ∃ existing report records, k.reassessment env proposalId = some (existing, report) ∧
      report ≠ existing ∧ k.getRiskReport proposalId = some existing ∧
      report.proposalId = proposalId ∧
      k.reevaluated env proposalId = k.reassign records exec existing report := by
  have named := proposalId_of_getQueuedExecution found
  unfold reevaluated reevaluateRisk
  simp only [found, live, Bool.false_eq_true, if_false]
  cases reported : k.getRiskReport proposalId with
  | none =>
      refine .inl ⟨?_, k.thresholdEscalations, rfl⟩
      rintro ⟨reports, assessed, -⟩
      simp [reassessment, reported] at assessed
  | some existing =>
      cases proposed : env.getProposal proposalId with
      | none =>
          refine .inl ⟨?_, k.thresholdEscalations, rfl⟩
          rintro ⟨reports, assessed, -⟩
          simp [reassessment, proposed] at assessed
      | some proposal =>
          have assessed : k.reassessment env proposalId =
              some (existing, (k.escalatedReport env existing proposal).1) := by
            simp [reassessment, reported, proposed]
          obtain ⟨records, keeper⟩ := escalatedReport_keeper k env existing proposal
          by_cases same : (k.escalatedReport env existing proposal).1 = existing
          · refine .inl ⟨?_, records, by simp only [same, if_true, keeper]⟩
            rintro ⟨reports, member, differs⟩
            rw [assessed, Option.mem_some_iff] at member
            subst member
            exact differs same
          · refine .inr ⟨existing, _, records, assessed, same, rfl,
              (proposalId_escalatedReport existing proposal).trans
                (proposalId_of_getRiskReport reported), ?_⟩
            simp only [same, if_false, keeper, reassign, named]

theorem reassessment_eq_some {existing report : RiskReport}
    (assessed : k.reassessment env proposalId = some (existing, report)) :
    k.getRiskReport proposalId = some existing ∧ ∃ proposal, env.getProposal proposalId = some proposal ∧
      report = (k.escalatedReport env existing proposal).1 := by
  unfold reassessment at assessed
  split at assessed
  · rename_i old proposal held proposed
    obtain ⟨rfl, rfl⟩ := Prod.mk.inj (Option.some.inj assessed)
    exact ⟨held, proposal, proposed, rfl⟩
  · cases assessed

theorem getRiskReport_reassign (records : KeyedMap ThresholdEscalationRecord.proposalId)
    (exec : QueuedExecution) (existing report : RiskReport) :
    (k.reassign records exec existing report).getRiskReport report.proposalId = some report := by
  rw [reassign, getRiskReport_setQueuedExecution, getRiskReport_setRiskReport, if_pos rfl]

theorem reassessed_height (still : ¬ k.RaisesDelay env exec.proposalId) :
    (k.reassessed env exec).earliestExecHeight = exec.earliestExecHeight := by
  unfold reassessed
  cases assessed : k.reassessment env exec.proposalId with
  | none => rfl
  | some reports =>
      have kept : ¬ reports.2.computedDelayBlocks > reports.1.computedDelayBlocks :=
        fun longer => still ⟨reports, assessed, longer⟩
      dsimp only
      split
      · rfl
      · exact if_neg kept

theorem reassessed_of_unchanged (unchanged : ¬ k.ChangesRisk env exec.proposalId) :
    k.reassessed env exec = exec := by
  unfold reassessed
  cases assessed : k.reassessment env exec.proposalId with
  | none => rfl
  | some reports =>
      by_cases equal : reports.2 = reports.1
      · exact if_pos equal
      · exact absurd ⟨reports, assessed, equal⟩ unchanged

theorem reassessed_of_changed {existing report : RiskReport}
    (assessed : k.reassessment env exec.proposalId = some (existing, report)) (differs : report ≠ existing) :
    k.reassessed env exec = rescheduled k.params exec existing report := by
  unfold reassessed
  rw [assessed]
  exact if_neg differs

variable (env) in
theorem reevaluated_record (found : k.getQueuedExecution proposalId = some exec)
    (live : exec.isTerminal = false) :
    (k.reevaluated env proposalId).getQueuedExecution proposalId = some (k.reassessed env exec) := by
  have named := proposalId_of_getQueuedExecution found
  subst named
  obtain ⟨unchanged, records, same⟩ | ⟨existing, report, records, assessed, differs, -, -, same⟩ :=
    reevaluated_cases env found live
  · rw [same, reassessed_of_unchanged unchanged]
    exact found
  · rw [same, reassign, getQueuedExecution_setQueuedExecution, proposalId_rescheduled, if_pos rfl,
      reassessed_of_changed assessed differs]
    split <;> rfl

theorem proposalId_reassessed (k : GuardKeeper) (env : Env) (exec : QueuedExecution) :
    (k.reassessed env exec).proposalId = exec.proposalId := by
  unfold reassessed
  split
  · rfl
  · split <;> rfl

theorem reassign_settled (records : KeyedMap ThresholdEscalationRecord.proposalId)
    (exec : QueuedExecution) (existing report : RiskReport) :
    Settled k (k.reassign records exec existing report) ∧
      (k.reassign records exec existing report).events = k.events ∧
      (k.reassign records exec existing report).executionMarkers = k.executionMarkers ∧
      (k.reassign records exec existing report).powerSnapshots = k.powerSnapshots := by
  unfold reassign
  dsimp only
  split <;> exact ⟨⟨rfl, rfl, rfl, rfl⟩, rfl, rfl, rfl⟩

variable (env) in
theorem reevaluated_settled (found : k.getQueuedExecution proposalId = some exec)
    (live : exec.isTerminal = false) :
    Settled k (k.reevaluated env proposalId) ∧
      (k.reevaluated env proposalId).events = k.events ∧
      (k.reevaluated env proposalId).executionMarkers = k.executionMarkers ∧
      (k.reevaluated env proposalId).powerSnapshots = k.powerSnapshots := by
  obtain ⟨-, records, same⟩ | ⟨existing, report, records, -, -, -, -, same⟩ :=
    reevaluated_cases env found live
  · rw [same]
    exact ⟨⟨rfl, rfl, rfl, rfl⟩, rfl, rfl, rfl⟩
  · rw [same]
    exact reassign_settled records exec existing report

theorem reevaluated_frame (found : k.getQueuedExecution proposalId = some exec)
    (live : exec.isTerminal = false) (away : proposalId ≠ other) :
    Frame other k (k.reevaluated env proposalId) := by
  have named := proposalId_of_getQueuedExecution found
  obtain ⟨-, records, same⟩ | ⟨existing, report, records, -, -, -, reported, same⟩ :=
    reevaluated_cases env found live
  · rw [same]
    exact ⟨rfl, rfl, fun _ => Iff.rfl, Iff.rfl, Iff.rfl, rfl⟩
  · rw [same, reassign]
    have recorded : Frame other k { k with thresholdEscalations := records } :=
      ⟨rfl, rfl, fun _ => Iff.rfl, Iff.rfl, Iff.rfl, rfl⟩
    refine Frame.trans ?_ (frame_setQueuedExecution _ (by rwa [proposalId_rescheduled, named]))
    refine Frame.trans ?_ (frame_setRiskReport _ (by rwa [reported]))
    split
    · exact recorded.trans (frame_deleteQueueIndexEntry _ _ (by rwa [named]))
    · exact recorded

theorem mem_reassign (records : KeyedMap ThresholdEscalationRecord.proposalId)
    (exec : QueuedExecution) (existing report : RiskReport) (entry : Nat × Nat) :
    entry ∈ (k.reassign records exec existing report).queueIndex ↔
      ((rescheduled k.params exec existing report).earliestExecHeight, exec.proposalId) = entry ∨
        entry ∈ k.queueIndex ∧ (report.computedDelayBlocks > existing.computedDelayBlocks →
          (exec.earliestExecHeight, exec.proposalId) ≠ entry) := by
  rw [reassign, mem_setQueuedExecution]
  split
  · rename_i longer
    refine or_congr Iff.rfl (mem_deleteQueueIndexEntry.trans ?_)
    exact ⟨fun held => ⟨held.2, fun _ => held.1⟩, fun held => ⟨held.2 longer, held.1⟩⟩
  · rename_i kept
    exact or_congr Iff.rfl ⟨fun held => ⟨held, fun longer => absurd longer kept⟩, And.left⟩

theorem RaisesDelay.changesRisk (raises : k.RaisesDelay env proposalId) :
    k.ChangesRisk env proposalId := by
  obtain ⟨reports, assessed, longer⟩ := raises
  refine ⟨reports, assessed, ?_⟩
  intro same
  rw [same] at longer
  exact Nat.lt_irrefl _ longer

theorem mem_reevaluated (found : k.getQueuedExecution proposalId = some exec)
    (live : exec.isTerminal = false) (height : Nat) :
    (height, proposalId) ∈ (k.reevaluated env proposalId).queueIndex ↔
      (k.ChangesRisk env proposalId ∧ height = (k.reassessed env exec).earliestExecHeight) ∨
        ((height, proposalId) ∈ k.queueIndex ∧
          (k.RaisesDelay env proposalId → height ≠ exec.earliestExecHeight)) := by
  have named := proposalId_of_getQueuedExecution found
  obtain ⟨unchanged, records, same⟩ | ⟨existing, report, records, assessed, differs, -, -, same⟩ :=
    reevaluated_cases env found live
  · have still : ¬ k.RaisesDelay env proposalId := fun raises => unchanged raises.changesRisk
    rw [same]
    simp [unchanged, still]
  · have record := @reassessed_of_changed k env exec _ _ (by rwa [named]) differs
    have changes : k.ChangesRisk env proposalId := ⟨(existing, report), assessed, differs⟩
    have raises : k.RaisesDelay env proposalId ↔
        report.computedDelayBlocks > existing.computedDelayBlocks := by
      simp [RaisesDelay, assessed]
    rw [same, mem_reassign, record, raises]
    simp only [named, Prod.mk.injEq, and_true, changes, true_and, ne_eq]
    rw [eq_comm, @eq_comm _ exec.earliestExecHeight]

end Reevaluation

section Gate

variable (k env) (exec) (blocksInGate : Nat)

def invoked : GuardKeeper := k.emitEvent (.executionInvoked ⟨exec, env.height, k.params⟩)

def Unstable (proposalId : Nat) : Prop :=
  k.params.enableStabilityChecks = true ∧ (k.checkStabilityConditions env proposalId).1 = false

def MessagesHandled (env : Env) (proposalId : Nat) : Prop :=
  ∃ handler ∈ env.router, ∃ proposal ∈ env.getProposal proposalId, proposal.messages ≠ [] ∧
    dispatchError (handler proposalId) 0 proposal.messages = none

instance decidableUnstable (proposalId : Nat) : Decidable (k.Unstable env proposalId) :=
  inferInstanceAs (Decidable (_ ∧ _))

inductive GateOutcome : GuardKeeper → Prop
  | waits (unconditional : exec.gateState ≠ .conditionalExecution) : GateOutcome k
  | entersShockAbsorber (gate : exec.gateState = .visibility)
      (elapsed : k.params.visibilityWindowBlocks ≤ blocksInGate) :
      GateOutcome ((k.setQueuedExecution { exec with
        gateState := .shockAbsorber
        gateEnteredHeight := env.height
        statusNote := .enteredShockAbsorber }).emitEvent
          (.gateTransition exec.proposalId .shockAbsorber env.height k.params.visibilityWindowBlocks))
  | entersConditionalExecution (gate : exec.gateState = .shockAbsorber)
      (elapsed : k.params.shockAbsorberWindowBlocks ≤ blocksInGate) (snapshotted : GuardKeeper)
      (kept : snapshotted = k ∨ snapshotted = k.snapshotValidatorPower env exec.proposalId) :
      GateOutcome ((snapshotted.setQueuedExecution { exec with
        gateState := .conditionalExecution
        gateEnteredHeight := env.height
        statusNote := .enteredConditionalExecution }).emitEvent
          (.gateTransition exec.proposalId .conditionalExecution env.height
            k.params.shockAbsorberWindowBlocks))
  | postpones (gate : exec.gateState = .conditionalExecution) (unstable : k.Unstable env exec.proposalId)
      (note : StatusNote) :
      GateOutcome ((((k.deleteQueueIndexEntry exec.earliestExecHeight exec.proposalId).snapshotValidatorPower
        env exec.proposalId).setQueuedExecution { exec with
          earliestExecHeight := u64 (env.height + k.extension exec)
          gateEnteredHeight := env.height
          statusNote := note }).emitEvent (.executionExtended exec.proposalId env.height))
  | entersReady (gate : exec.gateState = .conditionalExecution)
      (stable : ¬ k.Unstable env exec.proposalId) :
      GateOutcome ((k.setQueuedExecution { exec with
        gateState := .ready
        gateEnteredHeight := env.height
        statusNote := .readyForExecution }).emitEvent
          (.gateTransition exec.proposalId .ready env.height 0))
  | restarts (gate : exec.gateState = .ready) (needs : exec.needsConfirmation = true)
      (expired : k.params.criticalSecondConfirmWindowBlocks < blocksInGate) :
      GateOutcome ((k.setQueuedExecution { exec with
        statusNote := .confirmationWindowExpired
        earliestExecHeight := u64 (env.height + k.params.extensionCriticalBlocks)
        gateState := .visibility
        gateEnteredHeight := env.height }).emitEvent (.gatesRestarted exec.proposalId env.height))
  | aborts (gate : exec.gateState = .ready) (clear : exec.needsConfirmation = false)
      (error : ThresholdError) (rejected : verifyVotingThreshold env exec = .error error) :
      GateOutcome (k.setQueuedExecution { exec with
        gateState := .aborted
        statusNote := .thresholdAborted error })
  | defers (gate : exec.gateState = .ready) (clear : exec.needsConfirmation = false) (note : StatusNote) :
      GateOutcome ((k.invoked env exec).setQueuedExecution { exec with
        earliestExecHeight := u64 (env.height + deferralBackoff)
        statusNote := note })
  | fails (gate : exec.gateState = .ready) (clear : exec.needsConfirmation = false)
      (refused : k.hasExecutionMarker exec.proposalId = true ∨ env.isTrackFrozen exec.proposalId = false)
      (error : ExecuteError) :
      GateOutcome ((k.invoked env exec).setQueuedExecution { exec with
        gateState := .aborted
        statusNote := .executionFailed error })
  | executes (gate : exec.gateState = .ready) (clear : exec.needsConfirmation = false)
      (unmarked : k.hasExecutionMarker exec.proposalId = false)
      (unfrozen : env.isTrackFrozen exec.proposalId = false) (ran : GuardKeeper)
      (effect : ran = k.invoked env exec ∨
        ran = (k.invoked env exec).emitEvent (.messagesDispatched exec.proposalId) ∧
          MessagesHandled env exec.proposalId) :
      GateOutcome ((ran.setExecutionMarker exec.proposalId).setQueuedExecution
        { exec with gateState := .executed, statusNote := .successfullyExecuted })

variable {k env exec}

theorem executeProposal_ok {ran : GuardKeeper} (ok : k.executeProposal env exec = .ok ran) :
    k.hasExecutionMarker exec.proposalId = false ∧ env.isTrackFrozen exec.proposalId = false ∧
      (ran = k ∨ ran = k.emitEvent (.messagesDispatched exec.proposalId) ∧
        MessagesHandled env exec.proposalId) := by
  unfold executeProposal at ok
  split_ifs at ok with notReady marked frozen
  refine ⟨by simpa using marked, by simpa using frozen, ?_⟩
  split at ok
  · cases ok
  · rename_i handler routed
    split at ok
    · cases ok
    · rename_i proposal proposed
      split_ifs at ok with handover executable text
      · exact .inl (Except.ok.inj ok).symm
      · split at ok
        · cases ok
        · split at ok
          · cases ok
          · rename_i handled
            rw [List.isEmpty_iff] at text
            exact .inr ⟨(Except.ok.inj ok).symm, handler, routed, proposal, proposed, text, handled⟩

theorem executeProposal_of_frozen (gate : exec.gateState = .ready)
    (unmarked : k.hasExecutionMarker exec.proposalId = false)
    (frozen : env.isTrackFrozen exec.proposalId = true) :
    k.executeProposal env exec = .error (.deferred exec.proposalId) := by
  simp [executeProposal, gate, unmarked, frozen]

theorem advanceGate_outcome : k.GateOutcome env exec blocksInGate (k.advanceGate env exec blocksInGate) := by
  unfold advanceGate
  split
  · rename_i gate
    unfold visibilityGate
    split
    · rename_i elapsed
      exact .entersShockAbsorber gate elapsed
    · exact .waits (by simp [gate])
  · rename_i gate
    unfold shockAbsorberGate
    split
    · rename_i elapsed
      refine .entersConditionalExecution gate elapsed _ ?_
      split
      · exact .inr rfl
      · exact .inl rfl
    · exact .waits (by simp [gate])
  · rename_i gate
    unfold conditionalGate
    dsimp only
    split
    · rename_i failed
      exact .postpones gate (by simpa [Unstable] using failed) _
    · rename_i passed
      exact .entersReady gate (by simpa [Unstable] using passed)
  · rename_i gate
    unfold readyGate
    cases needs : exec.needsConfirmation with
    | true =>
        rw [if_pos rfl]
        split
        · rename_i expired
          exact .restarts gate needs expired
        · exact .waits (by simp [gate])
    | false =>
        rw [if_neg Bool.false_ne_true]
        cases verified : verifyVotingThreshold env exec with
        | error error => exact .aborts gate needs error verified
        | ok done =>
            dsimp only
            split
            · exact .defers gate needs _
            · rename_i error final ran
              refine .fails gate needs ?_ error
              by_contra refused
              rw [not_or, Bool.not_eq_true, Bool.not_eq_false] at refused
              exact final _ (Except.error.inj
                (ran.symm.trans (executeProposal_of_frozen gate refused.1 refused.2)))
            · rename_i after ran
              obtain ⟨unmarked, unfrozen, effect⟩ := executeProposal_ok ran
              exact GateOutcome.executes (k := k) gate needs unmarked unfrozen after effect
  · rename_i unconditional _
    exact .waits unconditional

variable {blocksInGate}

theorem frame_announced (k : GuardKeeper) {written : QueuedExecution} {event : Event}
    (about : event.proposalId = written.proposalId) (away : written.proposalId ≠ other) :
    Frame other k ((k.setQueuedExecution written).emitEvent event) :=
  (frame_setQueuedExecution k away).trans (frame_emitEvent _ (by rwa [about]))

theorem GateOutcome.frame (outcome : k.GateOutcome env exec blocksInGate k')
    (away : exec.proposalId ≠ other) : Frame other k k' := by
  have invokes : Frame other k (k.invoked env exec) := frame_emitEvent k away
  cases outcome with
  | waits => exact Frame.refl k
  | entersShockAbsorber => exact frame_announced k rfl away
  | entersConditionalExecution gate elapsed snapshotted kept =>
      have taken : Frame other k snapshotted := by
        obtain rfl | rfl := kept
        · exact Frame.refl _
        · exact frame_snapshotValidatorPower k env
      exact taken.trans (frame_announced _ rfl away)
  | postpones =>
      have deleted := frame_deleteQueueIndexEntry k exec.earliestExecHeight away
      exact (deleted.trans (frame_snapshotValidatorPower _ env)).trans (frame_announced _ rfl away)
  | entersReady => exact frame_announced k rfl away
  | restarts => exact frame_announced k rfl away
  | aborts => exact frame_setQueuedExecution k away
  | defers => exact invokes.trans (frame_setQueuedExecution _ away)
  | fails => exact invokes.trans (frame_setQueuedExecution _ away)
  | executes gate clear unmarked unfrozen ran effect =>
      have dispatched : Frame other k ran := by
        obtain rfl | ⟨rfl, -⟩ := effect
        · exact invokes
        · exact invokes.trans (frame_emitEvent _ (by exact away))
      exact (dispatched.trans (frame_setExecutionMarker _ away)).trans (frame_setQueuedExecution _ away)

theorem GateOutcome.settled (outcome : k.GateOutcome env exec blocksInGate k') : Settled k k' := by
  cases outcome with
  | entersConditionalExecution gate elapsed snapshotted kept =>
      have taken : Settled k snapshotted := by
        obtain rfl | rfl := kept
        · exact Settled.refl _
        · exact settled_snapshotValidatorPower k env
      exact taken.trans ⟨rfl, rfl, rfl, rfl⟩
  | postpones =>
      have deleted : Settled k (k.deleteQueueIndexEntry exec.earliestExecHeight exec.proposalId) :=
        ⟨rfl, rfl, rfl, rfl⟩
      exact (deleted.trans (settled_snapshotValidatorPower _ env)).trans ⟨rfl, rfl, rfl, rfl⟩
  | executes gate clear unmarked unfrozen ran effect =>
      obtain rfl | ⟨rfl, -⟩ := effect <;> exact ⟨rfl, rfl, rfl, rfl⟩
  | _ => exact ⟨rfl, rfl, rfl, rfl⟩

end Gate

section Visit

theorem visit_cases (k : GuardKeeper) (env : Env) (proposalId : Nat) :
    k.visit env proposalId = k ∨ ∃ exec, k.getQueuedExecution proposalId = some exec ∧
      exec.isTerminal = false ∧ exec.earliestExecHeight ≤ env.height ∧
      (k.reevaluated env proposalId).GateOutcome env (k.reassessed env exec)
        (blocksSince env.height exec.gateEnteredHeight) (k.visit env proposalId) := by
  cases found : k.getQueuedExecution proposalId with
  | none => simp [visit, found]
  | some exec =>
      have named := proposalId_of_getQueuedExecution found
      cases live : exec.isTerminal with
      | true => simp [visit, found, live]
      | false =>
          by_cases early : env.height < exec.earliestExecHeight
          · left
            simp [visit, found, live, processGateTransition, early]
          · refine .inr ⟨exec, rfl, live, Nat.le_of_not_lt early, ?_⟩
            have step : k.visit env proposalId =
                (k.reevaluated env proposalId).advanceGate env (k.reassessed env exec)
                  (blocksSince env.height exec.gateEnteredHeight) := by
              simp only [visit, found, live, Bool.false_eq_true, if_false, processGateTransition,
                early, named, reevaluated_record _ found live, Option.getD_some]
            rw [step]
            exact advanceGate_outcome _

theorem visit_frame (k : GuardKeeper) (env : Env) (away : proposalId ≠ other) :
    Frame other k (k.visit env proposalId) := by
  obtain same | ⟨exec, found, live, -, outcome⟩ := visit_cases k env proposalId
  · rw [same]
  · have named := proposalId_of_getQueuedExecution found
    refine (reevaluated_frame found live away).trans (outcome.frame ?_)
    rwa [proposalId_reassessed, named]

theorem visit_settled (k : GuardKeeper) (env : Env) (proposalId : Nat) :
    Settled k (k.visit env proposalId) := by
  obtain same | ⟨exec, found, live, -, outcome⟩ := visit_cases k env proposalId
  · rw [same]
  · exact (reevaluated_settled _ found live).1.trans outcome.settled

theorem reindex_frame (k : GuardKeeper) (height : Nat) (away : proposalId ≠ other) :
    Frame other k (k.reindex height proposalId) := by
  have deleted := frame_deleteQueueIndexEntry k height away
  unfold reindex
  dsimp only
  split
  · exact deleted
  · split
    · exact deleted
    · exact deleted.trans (frame_setQueueIndexEntry _ _ away)

end Visit

end GuardKeeper

end Omniphi
