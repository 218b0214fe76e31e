import Omniphi.Guard.Runs

/-! What stands behind every call of `ExecuteProposal`: the height, the way through the gates and the
confirmation; and that height, tier and threshold of an execution only rise. -/

namespace Omniphi

open Guard

namespace Guard

/-- A gate entered at a height, with the window that had passed in the gate before. -/
structure Stop where
  gate : ExecutionGateState
  height : Nat
  window : Nat

def Event.stop? : Event → Option Stop
  | .proposalQueued _ height => some ⟨.visibility, height, 0⟩
  | .gateTransition _ gate height window => some ⟨gate, height, window⟩
  | .gatesRestarted _ height => some ⟨.visibility, height, 0⟩
  | _ => none

def journey (events : List Event) (proposalId : Nat) : List Stop :=
  (events.filter fun event => event.proposalId = proposalId).filterMap Event.stop?

inductive Passing : ExecutionGateState → Nat → List Stop → Prop
  | visibility {height window : Nat} {older : List Stop} :
      Passing .visibility height (⟨.visibility, height, window⟩ :: older)
  | shockAbsorber {entered height window : Nat} {stops : List Stop}
      (passed : Passing .visibility entered stops) (stayed : entered + window ≤ height) :
      Passing .shockAbsorber height (⟨.shockAbsorber, height, window⟩ :: stops)
  | conditionalExecution {entered height window : Nat} {stops : List Stop}
      (passed : Passing .shockAbsorber entered stops) (stayed : entered + window ≤ height) {since : Nat}
      (extended : height ≤ since) :
      Passing .conditionalExecution since (⟨.conditionalExecution, height, window⟩ :: stops)
  | ready {entered height window : Nat} {stops : List Stop}
      (passed : Passing .conditionalExecution entered stops) (stayed : entered ≤ height) :
      Passing .ready height (⟨.ready, height, window⟩ :: stops)

def OneGatePerBlock (stops : List Stop) : Prop :=
  stops.Pairwise fun later earlier => earlier.height < later.height

structure Call.Sound (call : Call) (earlier : List Event) : Prop where
  due : call.exec.earliestExecHeight ≤ call.height
  passed : ∃ entered ≤ call.height, Passing .ready entered (journey earlier call.exec.proposalId)
  paced : OneGatePerBlock (journey earlier call.exec.proposalId)
  confirmed : call.exec.tier = .critical → call.params.criticalRequiresSecondConfirm = true →
    call.exec.secondConfirmReceived = true

def Guarded (events : List Event) : Prop :=
  ∀ later call earlier, events = later ++ .executionInvoked call :: earlier → call.Sound earlier

theorem guarded_nil : Guarded [] := by
  intro later call earlier split
  simp at split

theorem guarded_cons {event : Event} {events : List Event}
    (here : ∀ call, event = .executionInvoked call → call.Sound events) (rest : Guarded events) :
    Guarded (event :: events) := by
  intro later call earlier split
  cases later with
  | nil =>
      obtain ⟨rfl, rfl⟩ := List.cons.inj split
      exact here call rfl
  | cons first later => exact rest later call earlier (List.cons.inj split).2

theorem OneGatePerBlock.cons {next : Stop} {stops : List Stop} (paced : OneGatePerBlock stops)
    (later : ∀ top ∈ stops.head?, top.height < next.height) : OneGatePerBlock (next :: stops) := by
  refine List.pairwise_cons.2 ⟨?_, paced⟩
  intro earlier member
  cases stops with
  | nil => cases member
  | cons top stops =>
      have below := later top rfl
      obtain rfl | older := List.mem_cons.1 member
      · exact below
      · exact ((List.pairwise_cons.1 paced).1 earlier older).trans below

theorem Passing.head_le {gate : ExecutionGateState} {since : Nat} {stops : List Stop}
    (passing : Passing gate since stops) : ∀ top ∈ stops.head?, top.height ≤ since := by
  intro top member
  cases passing with
  | conditionalExecution passed stayed extended =>
      obtain rfl := Option.some.inj member
      exact extended
  | _ =>
      obtain rfl := Option.some.inj member
      exact Nat.le_refl _

theorem Passing.extend {since later : Nat} {stops : List Stop}
    (passing : Passing .conditionalExecution since stops) (after : since ≤ later) :
    Passing .conditionalExecution later stops := by
  cases passing with
  | conditionalExecution passed stayed extended =>
      exact .conditionalExecution passed stayed (extended.trans after)

end Guard

namespace GuardKeeper

variable {k k' k'' : GuardKeeper} {env : Env} {proposalId other height : Nat} {exec : QueuedExecution}

def journeyOf (k : GuardKeeper) (proposalId : Nat) : List Stop := journey k.events proposalId

theorem Frame.journeyOf (frame : Frame other k k') : k'.journeyOf other = k.journeyOf other :=
  congrArg (List.filterMap Event.stop?) frame.history

def Grows (k k' : GuardKeeper) : Prop :=
  ∀ proposalId exec, k.getQueuedExecution proposalId = some exec →
    ∃ exec', k'.getQueuedExecution proposalId = some exec' ∧
      exec.earliestExecHeight ≤ exec'.earliestExecHeight ∧ exec.tier.rank ≤ exec'.tier.rank ∧
      exec.requiredThresholdBps ≤ exec'.requiredThresholdBps

theorem Grows.refl (k : GuardKeeper) : Grows k k := fun _ exec found =>
  ⟨exec, found, Nat.le_refl _, Nat.le_refl _, Nat.le_refl _⟩

theorem Grows.trans (first : Grows k k') (second : Grows k' k'') : Grows k k'' := by
  intro proposalId exec found
  obtain ⟨exec', found', height', tier', threshold'⟩ := first proposalId exec found
  obtain ⟨exec'', found'', height'', tier'', threshold''⟩ := second proposalId exec' found'
  exact ⟨exec'', found'', height'.trans height'', tier'.trans tier'', threshold'.trans threshold''⟩

theorem Grows.of_frame (frame : ∀ other, proposalId ≠ other → Frame other k k')
    (here : ∀ exec, k.getQueuedExecution proposalId = some exec →
      ∃ exec', k'.getQueuedExecution proposalId = some exec' ∧
        exec.earliestExecHeight ≤ exec'.earliestExecHeight ∧ exec.tier.rank ≤ exec'.tier.rank ∧
        exec.requiredThresholdBps ≤ exec'.requiredThresholdBps) : Grows k k' := by
  intro other exec found
  by_cases same : proposalId = other
  · subst same
    exact here exec found
  · exact ⟨exec, ((frame other same).exec).trans found, Nat.le_refl _, Nat.le_refl _, Nat.le_refl _⟩

theorem Grows.of_record {record : QueuedExecution}
    (frame : ∀ other, proposalId ≠ other → Frame other k k')
    (found : k.getQueuedExecution proposalId = some exec)
    (written : k'.getQueuedExecution proposalId = some record)
    (height : exec.earliestExecHeight ≤ record.earliestExecHeight)
    (tier : exec.tier.rank ≤ record.tier.rank)
    (threshold : exec.requiredThresholdBps ≤ record.requiredThresholdBps) : Grows k k' := by
  refine Grows.of_frame frame ?_
  intro held same
  rw [found, Option.some.injEq] at same
  subst same
  exact ⟨record, written, height, tier, threshold⟩

structure Tracked (k : GuardKeeper) (height : Nat) (exec : QueuedExecution) : Prop where
  reported : ∃ report, k.getRiskReport exec.proposalId = some report ∧ report.tier = exec.tier ∧
    report.computedThresholdBps = exec.requiredThresholdBps
  confirms : k.params.criticalRequiresSecondConfirm = true → exec.tier = .critical →
    exec.requiresSecondConfirm = true
  passing : Passing exec.gateState exec.gateEnteredHeight (k.journeyOf exec.proposalId)
  paced : OneGatePerBlock (k.journeyOf exec.proposalId)
  entered : exec.gateEnteredHeight ≤ height

structure AllTracked (k : GuardKeeper) (height : Nat) : Prop where
  live : ∀ proposalId exec, k.getQueuedExecution proposalId = some exec → exec.isTerminal = false →
    k.Tracked height exec
  absent : ∀ proposalId, k.getQueuedExecution proposalId = none → k.journeyOf proposalId = []

section Reassessed

theorem le_maxConstraint_right (a b : Nat) : b ≤ maxConstraint a b := by
  unfold maxConstraint
  split <;> omega

theorem rank_le_maxConstraintTier_right (a b : RiskTier) : b.rank ≤ (maxConstraintTier a b).rank := by
  unfold maxConstraintTier
  split <;> omega

theorem escalatedReport_ge (k : GuardKeeper) (env : Env) (existing : RiskReport) (proposal : Gov.Proposal) :
    existing.tier.rank ≤ (k.escalatedReport env existing proposal).1.tier.rank ∧
      existing.computedThresholdBps ≤ (k.escalatedReport env existing proposal).1.computedThresholdBps :=
  ⟨rank_le_maxConstraintTier_right _ _, le_maxConstraint_right _ _⟩

theorem reassessed_fields (k : GuardKeeper) (env : Env) (exec : QueuedExecution) :
    (k.reassessed env exec).gateState = exec.gateState ∧
      (k.reassessed env exec).gateEnteredHeight = exec.gateEnteredHeight := by
  unfold reassessed
  split
  · exact ⟨rfl, rfl⟩
  · split <;> exact ⟨rfl, rfl⟩

variable (env) in
theorem reevaluated_tracked (found : k.getQueuedExecution proposalId = some exec)
    (live : exec.isTerminal = false) (tracked : k.Tracked height exec) :
    (k.reevaluated env proposalId).Tracked height (k.reassessed env exec) ∧
      exec.tier.rank ≤ (k.reassessed env exec).tier.rank ∧
      exec.requiredThresholdBps ≤ (k.reassessed env exec).requiredThresholdBps := by
  have named := proposalId_of_getQueuedExecution found
  obtain ⟨settled, events, -, -⟩ := reevaluated_settled env found live
  obtain ⟨gate, entered⟩ := reassessed_fields k env exec
  have journeys : (k.reevaluated env proposalId).journeyOf (k.reassessed env exec).proposalId =
      k.journeyOf exec.proposalId := by
    rw [proposalId_reassessed, journeyOf, events, journeyOf]
  have passing := tracked.passing
  have paced := tracked.paced
  rw [← journeys] at passing paced
  rw [← gate, ← entered] at passing
  have flag := settled.params
  subst named
  obtain ⟨unchanged, records, same⟩ | ⟨existing, report, records, assessed, differs, held, reported, same⟩ :=
    reevaluated_cases env found live
  · rw [reassessed_of_unchanged unchanged] at passing paced ⊢
    refine ⟨⟨?_, ?_, passing, paced, tracked.entered⟩, Nat.le_refl _, Nat.le_refl _⟩
    · rw [same]
      exact tracked.reported
    · rw [flag]
      exact tracked.confirms
  · obtain ⟨old, oldHeld, oldTier, oldThreshold⟩ := tracked.reported
    rw [held, Option.some.injEq] at oldHeld
    subst oldHeld
    obtain ⟨-, proposal, -, rfl⟩ := reassessment_eq_some assessed
    have raised := escalatedReport_ge k env existing proposal
    rw [reassessed_of_changed assessed differs] at passing paced ⊢
    refine ⟨⟨⟨_, ?_, rfl, rfl⟩, ?_, passing, paced, tracked.entered⟩, ?_, ?_⟩
    · rw [same, proposalId_rescheduled, ← reported]
      exact getRiskReport_reassign records exec existing _
    · rw [flag]
      intro required critical
      unfold rescheduled
      dsimp only
      split
      · rfl
      · rename_i already
        cases requires : exec.requiresSecondConfirm with
        | true => rfl
        | false => exact absurd ⟨critical, requires, required⟩ already
    · rw [← oldTier]
      exact raised.1
    · rw [← oldThreshold]
      exact raised.2

end Reassessed

section Advance

theorem journeyOf_emitEvent (k : GuardKeeper) {event : Event} {stop : Stop}
    (stops : event.stop? = some stop) :
    (k.emitEvent event).journeyOf event.proposalId = stop :: k.journeyOf event.proposalId := by
  simp [journeyOf, journey, emitEvent, stops]

theorem journeyOf_emitEvent_of_none (k : GuardKeeper) {event : Event} (stops : event.stop? = none)
    (proposalId : Nat) : (k.emitEvent event).journeyOf proposalId = k.journeyOf proposalId := by
  unfold journeyOf journey emitEvent
  by_cases about : event.proposalId = proposalId
  · simp [about, stops]
  · simp [about]

theorem blocksSince_eq {height entered : Nat} (before : entered ≤ height) (fits : height < 2 ^ 63) :
    blocksSince height entered = height - entered := by
  unfold blocksSince u64
  omega

theorem Tracked.moved {exec' : QueuedExecution} (tracked : k.Tracked height exec)
    (same : exec'.proposalId = exec.proposalId ∧ exec'.tier = exec.tier ∧
      exec'.requiredThresholdBps = exec.requiredThresholdBps ∧
      exec'.requiresSecondConfirm = exec.requiresSecondConfirm)
    (reports : k'.getRiskReport exec.proposalId = k.getRiskReport exec.proposalId)
    (params : k'.params = k.params)
    (passing : Passing exec'.gateState exec'.gateEnteredHeight (k'.journeyOf exec.proposalId))
    (paced : OneGatePerBlock (k'.journeyOf exec.proposalId))
    (entered : exec'.gateEnteredHeight ≤ height) : k'.Tracked height exec' := by
  obtain ⟨named, tier, threshold, requires⟩ := same
  refine ⟨?_, ?_, by rwa [named], by rwa [named], entered⟩
  · rw [named, tier, threshold, reports]
    exact tracked.reported
  · rw [params, tier, requires]
    exact tracked.confirms

theorem Tracked.announced {exec' : QueuedExecution} {event : Event} {stop : Stop}
    (tracked : k.Tracked height exec)
    (same : exec'.proposalId = exec.proposalId ∧ exec'.tier = exec.tier ∧
      exec'.requiredThresholdBps = exec.requiredThresholdBps ∧
      exec'.requiresSecondConfirm = exec.requiresSecondConfirm)
    (kept : Frame exec.proposalId k k' ∧ k'.params = k.params)
    (about : event.proposalId = exec.proposalId) (stops : event.stop? = some stop)
    (passing : Passing exec'.gateState exec'.gateEnteredHeight (stop :: k.journeyOf exec.proposalId))
    (later : ∀ top ∈ (k.journeyOf exec.proposalId).head?, top.height < stop.height)
    (entered : exec'.gateEnteredHeight ≤ height) :
    ((k'.setQueuedExecution exec').emitEvent event).Tracked height exec' := by
  have journeys : ((k'.setQueuedExecution exec').emitEvent event).journeyOf exec.proposalId =
      stop :: k.journeyOf exec.proposalId := by
    rw [← about, journeyOf_emitEvent _ stops, about, ← kept.1.journeyOf]
    rfl
  refine tracked.moved same kept.1.report kept.2 ?_ ?_ entered
  · rwa [journeys]
  · rw [journeys]
    exact tracked.paced.cons later

structure Advanced (k : GuardKeeper) (height : Nat) (exec : QueuedExecution) (k' : GuardKeeper)
    (exec' : QueuedExecution) : Prop where
  found : k'.getQueuedExecution exec.proposalId = some exec'
  tracked : exec'.isTerminal = false → k'.Tracked height exec'
  guarded : Guarded k'.events
  grows : exec.earliestExecHeight ≤ exec'.earliestExecHeight ∧ exec'.tier = exec.tier ∧
    exec'.requiredThresholdBps = exec.requiredThresholdBps
  conditional : exec'.gateState = .conditionalExecution →
    (exec.gateState = .conditionalExecution ∧
      k'.journeyOf exec.proposalId = k.journeyOf exec.proposalId) ∨
    (exec.gateState = .shockAbsorber ∧
      exec.gateEnteredHeight + k.params.shockAbsorberWindowBlocks ≤ height)
  shock : exec'.gateState = .shockAbsorber → exec'.gateEnteredHeight = height ∨
    exec.gateState = .shockAbsorber ∧ exec'.gateEnteredHeight = exec.gateEnteredHeight

theorem Tracked.invoked (tracked : k.Tracked env.height exec) (gate : exec.gateState = .ready)
    (due : exec.earliestExecHeight ≤ env.height) (clear : exec.needsConfirmation = false)
    (guarded : Guarded k.events) : Guarded (k.invoked env exec).events := by
  refine guarded_cons ?_ guarded
  intro call same
  obtain rfl := Event.executionInvoked.inj same
  have passing := tracked.passing
  rw [gate] at passing
  refine ⟨due, ⟨_, tracked.entered, passing⟩, tracked.paced, ?_⟩
  intro critical required
  have requires := tracked.confirms required critical
  simpa [QueuedExecution.needsConfirmation, requires] using clear

variable {blocksInGate : Nat}

theorem GateOutcome.advanced (outcome : k.GateOutcome env exec blocksInGate k')
    (found : k.getQueuedExecution exec.proposalId = some exec)
    (tracked : k.Tracked env.height exec) (valid : k.params.Valid) (guarded : Guarded k.events)
    (blocks : blocksInGate = env.height - exec.gateEnteredHeight) (fits : env.height < 2 ^ 63)
    (postponed : exec.gateState = .conditionalExecution → k.Unstable env exec.proposalId →
      exec.earliestExecHeight ≤ u64 (env.height + k.extension exec))
    (restarted : exec.gateState = .ready → exec.needsConfirmation = true →
      k.params.criticalSecondConfirmWindowBlocks < blocksInGate →
        exec.earliestExecHeight ≤ u64 (env.height + k.params.extensionCriticalBlocks))
    (due : exec.gateState = .ready → exec.needsConfirmation = false →
      exec.earliestExecHeight ≤ env.height)
    (resting : exec.gateState = .conditionalExecution →
      ∀ stop ∈ (k.journeyOf exec.proposalId).head?, stop.height < env.height) :
    ∃ exec', k.Advanced env.height exec k' exec' := by
  have before := tracked.entered
  have passing := tracked.passing
  have paced := tracked.paced
  obtain ⟨visibility, shock⟩ := valid.windows_pos
  cases outcome with
  | waits unconditional =>
      refine ⟨exec, found, fun _ => tracked, guarded, ⟨Nat.le_refl _, rfl, rfl⟩, ?_, ?_⟩
      · exact fun gate => .inl ⟨gate, rfl⟩
      · exact fun gate => .inr ⟨gate, rfl⟩
  | entersShockAbsorber gate elapsed =>
      rw [gate] at passing
      have after : exec.gateEnteredHeight < env.height := by omega
      have stayed : exec.gateEnteredHeight + k.params.visibilityWindowBlocks ≤ env.height := by omega
      refine ⟨_, getQueuedExecution_announced k _ rfl, fun _ => ?_, ?_,
        ⟨Nat.le_refl _, rfl, rfl⟩, by simp, fun _ => .inl rfl⟩
      · refine tracked.announced ⟨rfl, rfl, rfl, rfl⟩ ⟨Frame.refl k, rfl⟩ rfl rfl ?_ ?_ (Nat.le_refl _)
        · exact .shockAbsorber passing stayed
        · exact fun top member => (passing.head_le top member).trans_lt after
      · exact guarded_cons (by simp) guarded
  | entersConditionalExecution gate elapsed snapshotted kept =>
      rw [gate] at passing
      have after : exec.gateEnteredHeight < env.height := by omega
      have stayed : exec.gateEnteredHeight + k.params.shockAbsorberWindowBlocks ≤ env.height := by omega
      have taken : Frame exec.proposalId k snapshotted ∧ snapshotted.params = k.params ∧
          snapshotted.events = k.events := by
        obtain rfl | rfl := kept
        · exact ⟨Frame.refl _, rfl, rfl⟩
        · exact ⟨frame_snapshotValidatorPower k env, (settled_snapshotValidatorPower k env).params,
            events_snapshotValidatorPower k env⟩
      obtain ⟨frame, params, events⟩ := taken
      refine ⟨_, getQueuedExecution_announced _ _ rfl, fun _ => ?_, ?_,
        ⟨Nat.le_refl _, rfl, rfl⟩, fun _ => .inr ⟨gate, stayed⟩, by simp⟩
      · refine tracked.announced ⟨rfl, rfl, rfl, rfl⟩ ⟨frame, params⟩ rfl rfl ?_ ?_ (Nat.le_refl _)
        · exact .conditionalExecution passing stayed (Nat.le_refl _)
        · exact fun top member => (passing.head_le top member).trans_lt after
      · refine guarded_cons (by simp) ?_
        show Guarded snapshotted.events
        rwa [events]
  | postpones gate unstable note =>
      have height := postponed gate unstable
      rw [gate] at passing
      let deleted := k.deleteQueueIndexEntry exec.earliestExecHeight exec.proposalId
      have events : (deleted.snapshotValidatorPower env exec.proposalId).events = k.events :=
        events_snapshotValidatorPower deleted env
      have journeys : (deleted.snapshotValidatorPower env exec.proposalId).journeyOf exec.proposalId =
          k.journeyOf exec.proposalId := (frame_snapshotValidatorPower deleted env).journeyOf
      refine ⟨_, getQueuedExecution_announced _ _ rfl, fun _ => ?_, ?_, ⟨?_, rfl, rfl⟩,
        fun _ => .inl ⟨gate, (journeyOf_emitEvent_of_none _ rfl _).trans journeys⟩, by simp [gate]⟩
      · refine tracked.moved ⟨rfl, rfl, rfl, rfl⟩ (frame_snapshotValidatorPower deleted env).report
          (settled_snapshotValidatorPower deleted env).params ?_ ?_ (Nat.le_refl _)
        · rw [journeyOf_emitEvent_of_none _ rfl]
          show Passing exec.gateState _ ((deleted.snapshotValidatorPower env _).journeyOf _)
          rw [journeys, gate]
          exact passing.extend before
        · rw [journeyOf_emitEvent_of_none _ rfl]
          show OneGatePerBlock ((deleted.snapshotValidatorPower env _).journeyOf _)
          rwa [journeys]
      · refine guarded_cons (by simp) ?_
        show Guarded (deleted.snapshotValidatorPower env exec.proposalId).events
        rwa [events]
      · exact height
  | entersReady gate stable =>
      rw [gate] at passing
      refine ⟨_, getQueuedExecution_announced k _ rfl, fun _ => ?_, ?_,
        ⟨Nat.le_refl _, rfl, rfl⟩, by simp, by simp⟩
      · refine tracked.announced ⟨rfl, rfl, rfl, rfl⟩ ⟨Frame.refl k, rfl⟩ rfl rfl ?_ ?_ (Nat.le_refl _)
        · exact .ready passing before
        · exact resting gate
      · exact guarded_cons (by simp) guarded
  | restarts gate needs expired =>
      have after : exec.gateEnteredHeight < env.height := by omega
      refine ⟨_, getQueuedExecution_announced k _ rfl, fun _ => ?_, ?_,
        ⟨restarted gate needs expired, rfl, rfl⟩, by simp, by simp⟩
      · refine tracked.announced ⟨rfl, rfl, rfl, rfl⟩ ⟨Frame.refl k, rfl⟩ rfl rfl .visibility ?_
          (Nat.le_refl _)
        exact fun top member => (passing.head_le top member).trans_lt after
      · exact guarded_cons (by simp) guarded
  | aborts gate clear error rejected =>
      refine ⟨_, getQueuedExecution_written k rfl, fun live => ?_, guarded, ⟨Nat.le_refl _, rfl, rfl⟩,
        by simp, by simp⟩
      cases live
  | defers gate clear note =>
      have height := due gate clear
      refine ⟨_, getQueuedExecution_written _ rfl, fun _ => ?_,
        tracked.invoked gate height clear guarded, ⟨?_, rfl, rfl⟩, by simp [gate], by simp [gate]⟩
      · have journeys : (k.invoked env exec).journeyOf exec.proposalId = k.journeyOf exec.proposalId :=
          journeyOf_emitEvent_of_none k rfl _
        refine tracked.moved ⟨rfl, rfl, rfl, rfl⟩ rfl rfl ?_ ?_ before
        · show Passing _ _ ((k.invoked env exec).journeyOf exec.proposalId)
          rwa [journeys]
        · show OneGatePerBlock ((k.invoked env exec).journeyOf exec.proposalId)
          rwa [journeys]
      · have wraps : env.height + deferralBackoff < 2 ^ 64 := by
          unfold deferralBackoff
          omega
        rw [u64_of_lt wraps]
        exact height.trans (Nat.le_add_right _ _)
  | fails gate clear refused error =>
      refine ⟨_, getQueuedExecution_written _ rfl, fun live => ?_,
        tracked.invoked gate (due gate clear) clear guarded, ⟨Nat.le_refl _, rfl, rfl⟩,
        by simp, by simp⟩
      cases live
  | executes gate clear unmarked unfrozen ran effect =>
      have invoked := tracked.invoked gate (due gate clear) clear guarded
      refine ⟨_, getQueuedExecution_written _ rfl, fun live => ?_, ?_, ⟨Nat.le_refl _, rfl, rfl⟩,
        by simp, by simp⟩
      · cases live
      · obtain rfl | ⟨rfl, -⟩ := effect
        · exact invoked
        · exact guarded_cons (by simp) invoked

end Advance

section Scan

/-- The reevaluation at a gate check moves no height down, an extension that follows neither, and an
execution that is clear to be executed stays due. -/
def Undisturbed (env : Env) (k : GuardKeeper) (proposalId : Nat) : Prop :=
  ∀ exec ∈ k.getQueuedExecution proposalId, exec.isTerminal = false →
    exec.earliestExecHeight ≤ env.height →
    let exec' := k.reassessed env exec
    exec.earliestExecHeight ≤ exec'.earliestExecHeight ∧
      (exec'.gateState = .conditionalExecution → k.Unstable env proposalId →
        exec'.earliestExecHeight ≤ u64 (env.height + k.extension exec')) ∧
      (exec'.gateState = .ready → exec'.needsConfirmation = true →
        k.params.criticalSecondConfirmWindowBlocks < env.height - exec.gateEnteredHeight →
          exec'.earliestExecHeight ≤ u64 (env.height + k.params.extensionCriticalBlocks)) ∧
      (exec'.gateState = .ready → exec'.needsConfirmation = false →
        exec'.earliestExecHeight ≤ env.height)

instance decidableUndisturbed (env : Env) (k : GuardKeeper) (proposalId : Nat) :
    Decidable (Undisturbed env k proposalId) :=
  inferInstanceAs (Decidable (∀ exec ∈ k.getQueuedExecution proposalId, _))

def Resting (k : GuardKeeper) (height proposalId : Nat) : Prop :=
  ∀ exec ∈ k.getQueuedExecution proposalId, exec.gateState = .conditionalExecution →
    ∀ stop ∈ (k.journeyOf proposalId).head?, stop.height < height

/-- An execution whose time in `SHOCK_ABSORBER` is up is visited once more at most. -/
def Unhurried (k : GuardKeeper) (height : Nat) (rest : List Nat) (proposalId : Nat) : Prop :=
  ∀ exec ∈ k.getQueuedExecution proposalId, exec.gateState = .shockAbsorber →
    height < exec.gateEnteredHeight + k.params.shockAbsorberWindowBlocks ∨ rest.count proposalId ≤ 1

theorem Tracked.of_frame (tracked : k.Tracked height exec) (frame : Frame exec.proposalId k k')
    (params : k'.params = k.params) : k'.Tracked height exec := by
  refine tracked.moved ⟨rfl, rfl, rfl, rfl⟩ frame.report params ?_ ?_ tracked.entered
  · rw [frame.journeyOf]
    exact tracked.passing
  · rw [frame.journeyOf]
    exact tracked.paced

theorem AllTracked.of_record {record : QueuedExecution} (all : k.AllTracked height)
    (params : k'.params = k.params) (frame : ∀ other, proposalId ≠ other → Frame other k k')
    (written : k'.getQueuedExecution proposalId = some record)
    (tracked : record.isTerminal = false → k'.Tracked height record) : k'.AllTracked height := by
  refine ⟨?_, ?_⟩
  · intro other exec found live
    by_cases same : proposalId = other
    · subst same
      rw [written, Option.some.injEq] at found
      subst found
      exact tracked live
    · rw [(frame other same).exec] at found
      have named := proposalId_of_getQueuedExecution found
      exact (all.live other exec found live).of_frame (by rw [named]; exact frame other same) params
  · intro other missing
    by_cases same : proposalId = other
    · subst same
      rw [written] at missing
      cases missing
    · rw [(frame other same).exec] at missing
      rw [(frame other same).journeyOf]
      exact all.absent other missing

theorem visit_tracked (all : k.AllTracked env.height) (valid : k.params.Valid)
    (guarded : Guarded k.events) (fits : env.height < 2 ^ 63)
    (undisturbed : Undisturbed env k proposalId) (resting : k.Resting env.height proposalId) :
    (k.visit env proposalId).AllTracked env.height ∧ Guarded (k.visit env proposalId).events ∧
      Grows k (k.visit env proposalId) ∧
      ∀ rest, k.Unhurried env.height (proposalId :: rest) proposalId → proposalId ∈ rest →
        (k.visit env proposalId).Resting env.height proposalId ∧
          (k.visit env proposalId).Unhurried env.height rest proposalId := by
  obtain same | ⟨exec, found, live, due, outcome⟩ := visit_cases k env proposalId
  · rw [same]
    refine ⟨all, guarded, Grows.refl k, ?_⟩
    intro rest unhurried more
    refine ⟨resting, ?_⟩
    intro exec found gate
    refine (unhurried exec found gate).imp_right fun few => ?_
    rw [List.count_cons_self] at few
    omega
  · have named := proposalId_of_getQueuedExecution found
    subst named
    obtain ⟨settled, events, markers, snapshots⟩ := reevaluated_settled env found live
    obtain ⟨tracked, tier, threshold⟩ := reevaluated_tracked env found live (all.live _ _ found live)
    obtain ⟨gate, entered⟩ := reassessed_fields k env exec
    have name := proposalId_reassessed k env exec
    have journeys : (k.reevaluated env exec.proposalId).journeyOf exec.proposalId =
        k.journeyOf exec.proposalId := by rw [journeyOf, events, journeyOf]
    have unstable : (k.reevaluated env exec.proposalId).Unstable env exec.proposalId →
        k.Unstable env exec.proposalId := by
      unfold Unstable checkStabilityConditions
      rw [settled.params, snapshots]
      exact id
    obtain ⟨height, postponed, restarted, clear⟩ := undisturbed exec found live due
    have extension : (k.reevaluated env exec.proposalId).extension (k.reassessed env exec) =
        k.extension (k.reassessed env exec) := by
      unfold GuardKeeper.extension
      rw [settled.params]
    have blocks := blocksSince_eq (all.live _ _ found live).entered fits
    have held : (k.reevaluated env exec.proposalId).getQueuedExecution (k.reassessed env exec).proposalId =
        some (k.reassessed env exec) := by
      rw [name]
      exact reevaluated_record _ found live
    obtain ⟨exec', advanced⟩ := outcome.advanced held tracked (by rwa [settled.params])
      (by rwa [events]) (by rw [entered, blocks]) fits
      (by
        rw [extension, name]
        exact fun conditional shaken => postponed conditional (unstable shaken))
      (by rwa [blocks, settled.params]) clear
      (by
        rw [gate, name, journeys]
        exact resting exec found)
    have written := advanced.found
    rw [name] at written
    have frame : ∀ other, exec.proposalId ≠ other → Frame other k (k.visit env exec.proposalId) :=
      fun other away => visit_frame k env away
    refine ⟨?_, advanced.guarded, ?_, ?_⟩
    · exact all.of_record (visit_settled k env _).params frame written advanced.tracked
    · refine Grows.of_record frame found written (height.trans advanced.grows.1) ?_ ?_
      · rwa [advanced.grows.2.1]
      · rwa [advanced.grows.2.2]
    · intro rest unhurried more
      have few := unhurried exec found
      rw [List.count_cons_self] at few
      have window := valid.windows_pos.2
      have kept : (k.visit env exec.proposalId).params = k.params := (visit_settled k env _).params
      have again : 0 < rest.count exec.proposalId := List.count_pos_iff.2 more
      refine ⟨?_, ?_⟩
      · intro record held conditional
        rw [written, Option.mem_some_iff] at held
        subst held
        obtain ⟨stayed, same⟩ | ⟨shock, before⟩ := advanced.conditional conditional
        · rw [name, journeys] at same
          rw [gate] at stayed
          rw [same]
          exact resting exec found stayed
        · rw [gate] at shock
          rw [entered, settled.params] at before
          obtain early | once := few shock <;> omega
      · intro record held shock
        rw [written, Option.mem_some_iff] at held
        subst held
        rw [kept]
        obtain now | ⟨stayed, since⟩ := advanced.shock shock
        · exact .inl (by omega)
        · rw [gate] at stayed
          rw [since, entered]
          refine (few stayed).imp_right fun once => ?_
          omega

theorem Resting.of_frame (resting : k.Resting height other) (frame : Frame other k k') :
    k'.Resting height other := by
  intro exec found gate
  rw [frame.exec] at found
  rw [frame.journeyOf]
  exact resting exec found gate

theorem visits_tracked {pending : List Nat} (all : k.AllTracked env.height) (valid : k.params.Valid)
    (guarded : Guarded k.events) (fits : env.height < 2 ^ 63)
    (resting : ∀ proposalId ∈ pending, k.Resting env.height proposalId)
    (unhurried : ∀ proposalId ∈ pending, k.Unhurried env.height pending proposalId)
    (undisturbed : Run.Along (fun k proposalId => k.visit env proposalId) (Undisturbed env) k pending) :
    (pending.foldl (fun k proposalId => k.visit env proposalId) k).AllTracked env.height ∧
      Guarded (pending.foldl (fun k proposalId => k.visit env proposalId) k).events ∧
      Grows k (pending.foldl (fun k proposalId => k.visit env proposalId) k) := by
  induction pending generalizing k with
  | nil => exact ⟨all, guarded, Grows.refl k⟩
  | cons proposalId rest ih =>
      obtain ⟨here, onwards⟩ := undisturbed
      obtain ⟨tracked, sound, grows, again⟩ :=
        visit_tracked all valid guarded fits here (resting proposalId List.mem_cons_self)
      have params : (k.visit env proposalId).params = k.params := (visit_settled k env proposalId).params
      have next := ih tracked (by rwa [params]) sound ?_ ?_ onwards
      · exact ⟨next.1, next.2.1, grows.trans next.2.2⟩
      · intro other member
        by_cases same : proposalId = other
        · subst same
          exact (again rest (unhurried proposalId List.mem_cons_self) member).1
        · exact (resting other (List.mem_cons_of_mem _ member)).of_frame (visit_frame k env same)
      · intro other member
        by_cases same : proposalId = other
        · subst same
          exact (again rest (unhurried proposalId List.mem_cons_self) member).2
        · intro exec found gate
          rw [(visit_frame k env same).exec] at found
          have few := unhurried other (List.mem_cons_of_mem _ member) exec found gate
          rwa [List.count_cons_of_ne same, ← params] at few

theorem reindex_keeper (k : GuardKeeper) (height proposalId : Nat) :
    ∃ index, k.reindex height proposalId = { k with queueIndex := index } := by
  unfold reindex
  dsimp only
  split
  · exact ⟨_, rfl⟩
  · split
    · exact ⟨_, rfl⟩
    · exact ⟨_, rfl⟩

theorem reindexed_keeper (k : GuardKeeper) (height : Nat) (scanned : List Nat) :
    ∃ index, scanned.foldl (fun k proposalId => k.reindex height proposalId) k =
      { k with queueIndex := index } := by
  induction scanned generalizing k with
  | nil => exact ⟨k.queueIndex, rfl⟩
  | cons proposalId rest ih =>
      obtain ⟨first, same⟩ := reindex_keeper k height proposalId
      rw [List.foldl_cons, same]
      exact ih _

theorem AllTracked.of_index (all : k.AllTracked height) (index : BTreeSet (Nat × Nat)) :
    AllTracked { k with queueIndex := index } height := by
  refine ⟨?_, all.absent⟩
  intro proposalId exec found live
  obtain ⟨reported, confirms, passing, paced, entered⟩ := all.live proposalId exec found live
  exact ⟨reported, confirms, passing, paced, entered⟩

theorem AllTracked.mono {later : Nat} (all : k.AllTracked height) (after : height ≤ later) :
    k.AllTracked later := by
  refine ⟨?_, all.absent⟩
  intro proposalId exec found live
  obtain ⟨reported, confirms, passing, paced, entered⟩ := all.live proposalId exec found live
  exact ⟨reported, confirms, passing, paced, entered.trans after⟩

theorem AllTracked.resting (all : k.AllTracked height) (proposalId : Nat) :
    k.Resting (height + 1) proposalId := by
  intro exec found gate stop top
  have named := proposalId_of_getQueuedExecution found
  have live : exec.isTerminal = false := by simp [QueuedExecution.isTerminal, gate]; rfl
  have tracked := all.live proposalId exec found live
  subst named
  exact Nat.lt_succ_of_le ((tracked.passing.head_le stop top).trans tracked.entered)

end Scan

section Intake

theorem onProposalPassed_tracked (proposalId : Nat) (all : k.AllTracked env.height) (guarded : Guarded k.events) :
    ((k.onProposalPassed env proposalId).getD k).AllTracked env.height ∧
      Guarded ((k.onProposalPassed env proposalId).getD k).events ∧
      Grows k ((k.onProposalPassed env proposalId).getD k) := by
  obtain same | ⟨report, absent, reported, -, same⟩ := onProposalPassed_cases k env proposalId
  · rw [same]
    exact ⟨all, guarded, Grows.refl k⟩
  · rw [same]
    have frame : ∀ other, proposalId ≠ other → Frame other k (k.enqueue env proposalId report) :=
      fun other => frame_enqueue k env reported
    have written : (k.enqueue env proposalId report).getQueuedExecution proposalId =
        some (k.initialExecution env proposalId report) := getQueuedExecution_announced _ _ rfl
    have journeys : (k.enqueue env proposalId report).journeyOf proposalId =
        [⟨.visibility, env.height, 0⟩] := by
      have entry : (Event.proposalQueued proposalId env.height).stop? =
          some ⟨.visibility, env.height, 0⟩ := rfl
      exact (journeyOf_emitEvent _ entry).trans (congrArg (List.cons _) (all.absent proposalId absent))
    refine ⟨all.of_record rfl frame written fun _ => ?_, guarded_cons (by simp) guarded,
      Grows.of_frame frame ?_⟩
    · refine ⟨⟨report, ?_, rfl, rfl⟩, ?_, ?_, ?_, Nat.le_refl _⟩
      · show ((k.setRiskReport report).setQueuedExecution (k.initialExecution env proposalId report)).getRiskReport
          proposalId = some report
        rw [getRiskReport_setQueuedExecution, getRiskReport_setRiskReport, if_pos reported]
      · intro required critical
        show (k.params.criticalRequiresSecondConfirm && decide (report.tier = .critical)) = true
        rw [show k.params.criticalRequiresSecondConfirm = true from required,
          show report.tier = .critical from critical]
        rfl
      · show Passing _ _ ((k.enqueue env proposalId report).journeyOf proposalId)
        rw [journeys]
        exact .visibility
      · show OneGatePerBlock ((k.enqueue env proposalId report).journeyOf proposalId)
        rw [journeys]
        exact List.pairwise_singleton _ _
    · intro exec found
      rw [absent] at found
      cases found

theorem AllTracked.of_handover (all : k.AllTracked height) (proposalId : Nat) :
    (k.setTimelockHandover proposalId).AllTracked height := by
  refine ⟨?_, all.absent⟩
  intro other exec found live
  obtain ⟨reported, confirms, passing, paced, entered⟩ := all.live other exec found live
  exact ⟨reported, confirms, passing, paced, entered⟩

theorem AllTracked.of_hardening (all : k.AllTracked height) (enabled : Bool) :
    (k.setEmergencyHardeningMode enabled).AllTracked height := by
  refine ⟨?_, all.absent⟩
  intro other exec found live
  obtain ⟨reported, confirms, passing, paced, entered⟩ := all.live other exec found live
  exact ⟨reported, confirms, passing, paced, entered⟩

/-- The critical executions that are live ask for a confirmation already. -/
def CriticalsConfirm (k : GuardKeeper) : Prop :=
  ∀ exec ∈ k.queuedExecutions.values, exec.isTerminal = false → exec.tier = .critical →
    exec.requiresSecondConfirm = true

theorem AllTracked.of_params (all : k.AllTracked height) (params : Params)
    (confirm : params.criticalRequiresSecondConfirm = true → k.CriticalsConfirm) :
    AllTracked { k with params := params } height := by
  refine ⟨?_, all.absent⟩
  intro other exec found live
  obtain ⟨reported, -, passing, paced, entered⟩ := all.live other exec found live
  refine ⟨reported, ?_, passing, paced, entered⟩
  intro required critical
  have held := found
  rw [← proposalId_of_getQueuedExecution found] at held
  exact confirm required exec (KeyedMap.mem_values.2 held) live critical

theorem reevaluated_allTracked (all : k.AllTracked height) (guarded : Guarded k.events)
    (rises : ∀ exec ∈ k.getQueuedExecution proposalId, exec.isTerminal = false →
      exec.earliestExecHeight ≤ (k.reassessed env exec).earliestExecHeight) :
    (k.reevaluated env proposalId).AllTracked height ∧ Guarded (k.reevaluated env proposalId).events ∧
      Grows k (k.reevaluated env proposalId) := by
  by_cases idle : ∀ exec ∈ k.getQueuedExecution proposalId, exec.isTerminal = true
  · rw [reevaluated_idle k env idle]
    exact ⟨all, guarded, Grows.refl k⟩
  · push Not at idle
    obtain ⟨exec, found, live⟩ := idle
    rw [ne_eq, Bool.not_eq_true] at live
    obtain ⟨settled, events, -, -⟩ := reevaluated_settled env found live
    obtain ⟨tracked, tier, threshold⟩ := reevaluated_tracked env found live (all.live _ _ found live)
    have written := reevaluated_record env found live
    have frame : ∀ other, proposalId ≠ other → Frame other k (k.reevaluated env proposalId) :=
      fun other => reevaluated_frame found live
    exact ⟨all.of_record settled.params frame written fun _ => tracked, by rwa [events],
      Grows.of_record frame found written (rises exec found live) tier threshold⟩

theorem confirmed_allTracked (authority : String) (proposalId : Nat) (justification : String)
    (all : k.AllTracked height) (guarded : Guarded k.events) :
    (k.orUnchanged (k.confirmExecution authority proposalId justification)).AllTracked height ∧
      Guarded (k.orUnchanged (k.confirmExecution authority proposalId justification)).events ∧
      Grows k (k.orUnchanged (k.confirmExecution authority proposalId justification)) := by
  obtain same | ⟨-, exec, found, ready, -, same⟩ := confirmExecution_cases k authority proposalId justification
  · rw [same]
    exact ⟨all, guarded, Grows.refl k⟩
  · rw [same]
    have named := proposalId_of_getQueuedExecution found
    subst named
    have live : exec.isTerminal = false := by simp [QueuedExecution.isTerminal, ready]; rfl
    have tracked := all.live _ _ found live
    have frame : ∀ other, exec.proposalId ≠ other → Frame other k (k.setQueuedExecution { exec with
        secondConfirmReceived := true
        statusNote := .secondConfirmationReceived justification }) :=
      fun other away => frame_setQueuedExecution k away
    refine ⟨all.of_record rfl frame (getQueuedExecution_written k rfl) fun _ => ?_, guarded,
      Grows.of_record frame found (getQueuedExecution_written k rfl) (Nat.le_refl _) (Nat.le_refl _)
        (Nat.le_refl _)⟩
    exact tracked.moved ⟨rfl, rfl, rfl, rfl⟩ rfl rfl tracked.passing tracked.paced tracked.entered

end Intake

section Idle

def Idle (k k' : GuardKeeper) : Prop :=
  ∀ proposalId, ∀ exec' ∈ k'.getQueuedExecution proposalId, exec'.gateState = .conditionalExecution →
    ∃ exec ∈ k.getQueuedExecution proposalId, exec.gateState = .conditionalExecution ∧
      k'.journeyOf proposalId = k.journeyOf proposalId

theorem Idle.refl (k : GuardKeeper) : Idle k k := fun _ exec found gate => ⟨exec, found, gate, rfl⟩

theorem Idle.of_record {record : QueuedExecution}
    (frame : ∀ other, proposalId ≠ other → Frame other k k')
    (written : k'.getQueuedExecution proposalId = some record)
    (here : record.gateState = .conditionalExecution →
      ∃ exec ∈ k.getQueuedExecution proposalId, exec.gateState = .conditionalExecution ∧
        k'.journeyOf proposalId = k.journeyOf proposalId) : Idle k k' := by
  intro other exec found gate
  by_cases same : proposalId = other
  · subst same
    rw [written, Option.mem_some_iff] at found
    subst found
    exact here gate
  · rw [(frame other same).exec] at found
    exact ⟨exec, found, gate, (frame other same).journeyOf⟩

theorem Idle.resting (idle : Idle k k') (resting : ∀ proposalId, k.Resting height proposalId)
    (proposalId : Nat) : k'.Resting height proposalId := by
  intro exec' found gate
  obtain ⟨exec, held, conditional, same⟩ := idle proposalId exec' found gate
  rw [same]
  exact resting proposalId exec held conditional

theorem onProposalPassed_idle (k : GuardKeeper) (env : Env) (proposalId : Nat) :
    Idle k ((k.onProposalPassed env proposalId).getD k) := by
  obtain same | ⟨report, absent, reported, -, same⟩ := onProposalPassed_cases k env proposalId
  · rw [same]
    exact Idle.refl k
  · rw [same]
    refine Idle.of_record (fun other => frame_enqueue k env reported)
      (getQueuedExecution_announced _ _ rfl) ?_
    intro gate
    cases gate

theorem reevaluated_keepsGates (k : GuardKeeper) (env : Env) (proposalId : Nat) :
    Idle k (k.reevaluated env proposalId) := by
  by_cases idle : ∀ exec ∈ k.getQueuedExecution proposalId, exec.isTerminal = true
  · rw [reevaluated_idle k env idle]
    exact Idle.refl k
  · push Not at idle
    obtain ⟨exec, found, live⟩ := idle
    rw [ne_eq, Bool.not_eq_true] at live
    obtain ⟨-, events, -, -⟩ := reevaluated_settled env found live
    refine Idle.of_record (fun other => reevaluated_frame found live) (reevaluated_record _ found live) ?_
    intro gate
    rw [(reassessed_fields k env exec).1] at gate
    exact ⟨exec, found, gate, by rw [journeyOf, events, journeyOf]⟩

theorem confirmed_idle (k : GuardKeeper) (authority : String) (proposalId : Nat) (justification : String) :
    Idle k (k.orUnchanged (k.confirmExecution authority proposalId justification)) := by
  obtain same | ⟨-, exec, found, ready, -, same⟩ := confirmExecution_cases k authority proposalId justification
  · rw [same]
    exact Idle.refl k
  · rw [same]
    refine Idle.of_record (fun other (away : exec.proposalId ≠ other) => frame_setQueuedExecution k away)
      (getQueuedExecution_written k rfl) ?_
    intro gate
    exact absurd (ready.symm.trans gate) (by decide)

end Idle

end GuardKeeper

namespace Guard.Timeline

open GuardKeeper

/-- No reevaluation moves a height down, no gate check of a block undoes the check that let it through,
no execution leaves two gates in one block, and the second confirmation is not switched on over a
critical execution that was queued without it. -/
def Steady (t : Timeline) : Action → Prop
  | .processQueue env =>
      Run.Along (fun k proposalId => k.visit env proposalId) (Undisturbed env) t.keeper
        (t.keeper.scanned env) ∧
      ∀ proposalId ∈ t.keeper.scanned env,
        t.keeper.Unhurried env.height (t.keeper.scanned env) proposalId
  | .reevaluateRisk env proposalId =>
      ∀ exec ∈ t.keeper.getQueuedExecution proposalId, exec.isTerminal = false →
        exec.earliestExecHeight ≤ (t.keeper.reassessed env exec).earliestExecHeight
  | .updateParams authority params =>
      t.keeper.authority = authority → params.Valid → params.criticalRequiresSecondConfirm = true →
        t.keeper.CriticalsConfirm
  | _ => True

instance decidableSteady (t : Timeline) : ∀ action, Decidable (t.Steady action)
  | .onProposalPassed .. => instDecidableTrue
  | .onTimelockQueued .. => instDecidableTrue
  | .processQueue .. => by dsimp only [Steady, Unhurried]; infer_instance
  | .reevaluateRisk .. => by dsimp only [Steady]; infer_instance
  | .confirmExecution .. => instDecidableTrue
  | .setEmergencyHardeningMode .. => instDecidableTrue
  | .updateParams .. => by dsimp only [Steady, CriticalsConfirm]; infer_instance

structure Safe (t : Timeline) : Prop where
  valid : t.keeper.params.Valid
  tracked : t.keeper.AllTracked t.height
  guarded : Guarded t.keeper.events
  resting : ∀ proposalId, t.keeper.Resting (t.processed + 1) proposalId

variable {t : Timeline} {action : Action}

theorem start_safe (authority : String) {params : Params} (valid : params.Valid) :
    (start authority params).Safe := by
  have empty : ∀ proposalId, (start authority params).keeper.getQueuedExecution proposalId = none :=
    fun proposalId => KeyedMap.get?_empty proposalId
  refine ⟨valid, ⟨?_, fun _ _ => rfl⟩, guarded_nil, ?_⟩
  · intro proposalId exec found
    rw [empty] at found
    cases found
  · intro proposalId exec found
    rw [empty] at found
    cases found

theorem step_safe (safe : t.Safe) (chronological : t.Chronological action) (steady : t.Steady action) :
    (t.step action).Safe ∧ Grows t.keeper (t.step action).keeper := by
  obtain ⟨valid, tracked, guarded, resting⟩ := safe
  cases action with
  | onProposalPassed env proposalId =>
      obtain ⟨tracked, guarded, grows⟩ :=
        onProposalPassed_tracked proposalId (tracked.mono chronological.1) guarded
      have params := onProposalPassed_params t.keeper env proposalId
      exact ⟨⟨by rwa [step, params], tracked, guarded,
        (onProposalPassed_idle t.keeper env proposalId).resting resting⟩, grows⟩
  | onTimelockQueued env proposalId =>
      obtain same | same := onTimelockQueued_cases t.keeper env proposalId
      · refine ⟨⟨?_, ?_, ?_, ?_⟩, ?_⟩ <;> rw [step, same]
        · exact valid
        · exact tracked.mono chronological.1
        · exact guarded
        · exact resting
        · exact Grows.refl _
      · obtain ⟨tracked, guarded, grows⟩ :=
          onProposalPassed_tracked proposalId (tracked.mono chronological.1) guarded
        have params := onProposalPassed_params t.keeper env proposalId
        refine ⟨⟨?_, ?_, ?_, ?_⟩, ?_⟩ <;> rw [step, same]
        · show Params.Valid ((t.keeper.onProposalPassed env proposalId).getD t.keeper).params
          rwa [params]
        · exact tracked.of_handover proposalId
        · exact guarded
        · exact (onProposalPassed_idle t.keeper env proposalId).resting resting
        · exact grows
  | processQueue env =>
      obtain ⟨later, above, fits⟩ := chronological
      obtain ⟨undisturbed, unhurried⟩ := steady
      obtain ⟨tracked, guarded, grows⟩ := visits_tracked (tracked.mono later) valid guarded fits
        (fun proposalId _ exec found gate stop top =>
          (resting proposalId exec found gate stop top).trans_le above) unhurried undisturbed
      have params := visits_params t.keeper env (t.keeper.scanned env)
      obtain ⟨index, same⟩ := reindexed_keeper ((t.keeper.scanned env).foldl
        (fun k proposalId => k.visit env proposalId) t.keeper) env.height (t.keeper.scanned env)
      refine ⟨⟨?_, ?_, ?_, ?_⟩, ?_⟩ <;> rw [step, processQueue, same]
      · show Params.Valid ((t.keeper.scanned env).foldl _ t.keeper).params
        rwa [params]
      · exact tracked.of_index index
      · exact guarded
      · exact (tracked.of_index index).resting
      · exact grows
  | reevaluateRisk env proposalId =>
      obtain ⟨tracked, guarded, grows⟩ :=
        reevaluated_allTracked (tracked.mono chronological.1) guarded steady
      refine ⟨⟨?_, tracked, guarded, (reevaluated_keepsGates t.keeper env proposalId).resting resting⟩,
        grows⟩
      rwa [step, reevaluated_params]
  | confirmExecution authority proposalId justification =>
      obtain ⟨tracked, guarded, grows⟩ :=
        confirmed_allTracked authority proposalId justification tracked guarded
      refine ⟨⟨?_, tracked, guarded,
        (confirmed_idle t.keeper authority proposalId justification).resting resting⟩, grows⟩
      rwa [step, confirmed_params]
  | setEmergencyHardeningMode enabled =>
      exact ⟨⟨valid, tracked.of_hardening enabled, guarded, resting⟩, Grows.refl _⟩
  | updateParams authority params =>
      obtain same | ⟨accepted, allowed, same⟩ := updateParams_cases t.keeper authority params
      · refine ⟨⟨?_, ?_, ?_, ?_⟩, ?_⟩ <;> rw [step, same]
        · exact valid
        · exact tracked
        · exact guarded
        · exact resting
        · exact Grows.refl _
      · refine ⟨⟨?_, ?_, ?_, ?_⟩, ?_⟩ <;> rw [step, same]
        · exact allowed
        · exact tracked.of_params params (steady accepted allowed)
        · exact guarded
        · exact resting
        · exact Grows.refl _

theorem run_safe (safe : t.Safe) {run : List Action}
    (steady : Run.Along step (fun t action => t.Chronological action ∧ t.Steady action) t run) :
    (run.foldl step t).Safe ∧ Grows t.keeper (run.foldl step t).keeper := by
  induction run generalizing t with
  | nil => exact ⟨safe, Grows.refl _⟩
  | cons action run ih =>
      obtain ⟨⟨chronological, here⟩, onwards⟩ := steady
      obtain ⟨next, grown⟩ := step_safe safe chronological here
      obtain ⟨last, grows⟩ := ih next onwards
      exact ⟨last, grown.trans grows⟩

def Event.early : Event → Bool
  | .executionInvoked call => call.height < call.exec.earliestExecHeight
  | _ => false

theorem not_guarded_of_early {events : List Event} (early : events.any Event.early = true) :
    ¬ Guarded events := by
  intro guarded
  obtain ⟨event, member, early⟩ := List.any_eq_true.1 early
  obtain ⟨later, earlier, split⟩ := List.append_of_mem member
  cases event with
  | executionInvoked call =>
      have due := (guarded later call earlier split).due
      have ahead : call.height < call.exec.earliestExecHeight := by simpa [Event.early] using early
      omega
  | _ => cases early

def hardenedRun : List Action :=
  textRun ++ [.setEmergencyHardeningMode true, .processQueue (textPassed 7)]

end Guard.Timeline

end Omniphi
