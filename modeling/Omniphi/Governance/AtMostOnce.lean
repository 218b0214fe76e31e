import Omniphi.Governance.World

/-! Over a run of both modules the messages of a proposal are run at most once, and no longer once its
operation is cancelled. -/

namespace Omniphi

open Gov Timelock

namespace GuardKeeper

variable {k k' k'' : GuardKeeper} {env : Guard.Env} {proposalId : Nat} {exec : Guard.QueuedExecution}
  {blocksInGate : Nat}

structure Still (k k' : GuardKeeper) : Prop where
  markers : ∀ q, k.hasExecutionMarker q = true → k'.hasExecutionMarker q = true
  dispatches : ∀ q, k'.dispatches q = k.dispatches q

theorem Still.of_eq (markers : k'.executionMarkers = k.executionMarkers) (events : k'.events = k.events) :
    Still k k' := by
  refine ⟨?_, ?_⟩
  · intro q marked
    rwa [hasExecutionMarker, markers]
  · intro q
    rw [GuardKeeper.dispatches, events, GuardKeeper.dispatches]

theorem Still.refl (k : GuardKeeper) : Still k k := .of_eq rfl rfl

theorem Still.of_event {event : Guard.Event} (markers : k'.executionMarkers = k.executionMarkers)
    (events : k'.events = event :: k.events) (other : ∀ q, isDispatch q event = false) : Still k k' := by
  refine ⟨?_, ?_⟩
  · intro q marked
    rwa [hasExecutionMarker, markers]
  · intro q
    rw [GuardKeeper.dispatches, events, List.countP_cons_of_neg (by simp [other q]), GuardKeeper.dispatches]

theorem hasExecutionMarker_setExecutionMarker (k : GuardKeeper) (proposalId q : Nat) :
    (k.setExecutionMarker proposalId).hasExecutionMarker q =
      (decide (proposalId = q) || k.hasExecutionMarker q) := by
  simp [hasExecutionMarker, setExecutionMarker, Std.ExtTreeSet.contains_insert, beq_eq_decide]

structure Dispatched (k k' : GuardKeeper) (proposalId : Nat) : Prop where
  markers : ∀ q, k.hasExecutionMarker q = true → k'.hasExecutionMarker q = true
  unmarked : k.hasExecutionMarker proposalId = false
  marked : k'.hasExecutionMarker proposalId = true
  dispatches : ∀ q, k'.dispatches q = k.dispatches q + if proposalId = q then 1 else 0

theorem GateOutcome.still_or (outcome : k.GateOutcome env exec blocksInGate k') :
    Still k k' ∨ exec.gateState = .ready ∧ env.isTrackFrozen exec.proposalId = false ∧
      MessagesHandled env exec.proposalId ∧ Dispatched k k' exec.proposalId := by
  cases outcome with
  | waits => exact .inl (Still.refl k)
  | entersShockAbsorber => exact .inl (.of_event rfl rfl fun _ => rfl)
  | entersConditionalExecution gate elapsed snapshotted kept =>
      have same : snapshotted.events = k.events ∧ snapshotted.executionMarkers = k.executionMarkers := by
        obtain rfl | rfl := kept
        · exact ⟨rfl, rfl⟩
        · refine ⟨events_snapshotValidatorPower k env, ?_⟩
          unfold snapshotValidatorPower
          split <;> rfl
      exact .inl (.of_event same.2 (congrArg (List.cons _) same.1) fun _ => rfl)
  | postpones gate unstable note =>
      have same : ∀ k : GuardKeeper,
          (k.snapshotValidatorPower env exec.proposalId).events = k.events ∧
          (k.snapshotValidatorPower env exec.proposalId).executionMarkers = k.executionMarkers := by
        intro k
        refine ⟨events_snapshotValidatorPower k env, ?_⟩
        unfold snapshotValidatorPower
        split <;> rfl
      obtain ⟨events, markers⟩ := same (k.deleteQueueIndexEntry exec.earliestExecHeight exec.proposalId)
      exact .inl (.of_event markers (congrArg (List.cons _) events) fun _ => rfl)
  | entersReady => exact .inl (.of_event rfl rfl fun _ => rfl)
  | restarts => exact .inl (.of_event rfl rfl fun _ => rfl)
  | aborts => exact .inl (.of_eq rfl rfl)
  | defers => exact .inl (.of_event rfl rfl fun _ => rfl)
  | fails => exact .inl (.of_event rfl rfl fun _ => rfl)
  | executes gate clear unmarked unfrozen ran effect =>
      have markers : ∀ q, k.hasExecutionMarker q = true →
          ((ran.setExecutionMarker exec.proposalId).setQueuedExecution
            { exec with gateState := .executed, statusNote := .successfullyExecuted }).hasExecutionMarker q =
              true := by
        intro q marked
        have kept : ran.executionMarkers = k.executionMarkers := by
          obtain rfl | ⟨rfl, -⟩ := effect <;> rfl
        refine (hasExecutionMarker_setExecutionMarker ran exec.proposalId q).trans ?_
        rw [hasExecutionMarker, kept, Bool.or_eq_true]
        exact .inr marked
      obtain rfl | ⟨rfl, handled⟩ := effect
      · refine .inl ⟨markers, ?_⟩
        intro q
        exact List.countP_cons_of_neg (by simp [isDispatch])
      · refine .inr ⟨gate, unfrozen, handled, markers, unmarked, ?_, ?_⟩
        · refine (hasExecutionMarker_setExecutionMarker _ exec.proposalId exec.proposalId).trans ?_
          simp
        · intro q
          refine List.countP_cons.trans ?_
          rw [show List.countP (isDispatch q) (k.invoked env exec).events = k.dispatches q from
            List.countP_cons_of_neg (by simp [isDispatch])]
          simp only [isDispatch, decide_eq_true_eq]

theorem visit_still_or (k : GuardKeeper) (env : Guard.Env) (proposalId : Nat) :
    Still k (k.visit env proposalId) ∨ ∃ exec, k.getQueuedExecution proposalId = some exec ∧
      exec.gateState = .ready ∧ env.isTrackFrozen proposalId = false ∧ MessagesHandled env proposalId ∧
      Dispatched k (k.visit env proposalId) proposalId := by
  obtain same | ⟨exec, found, live, -, outcome⟩ := visit_cases k env proposalId
  · rw [same]
    exact .inl (Still.refl k)
  · have named := proposalId_of_getQueuedExecution found
    obtain ⟨-, events, markers, -⟩ := reevaluated_settled env found live
    have counts : ∀ q, (k.reevaluated env proposalId).dispatches q = k.dispatches q := by
      intro q
      rw [dispatches, events, dispatches]
    have marks : ∀ q, (k.reevaluated env proposalId).hasExecutionMarker q = k.hasExecutionMarker q := by
      intro q
      rw [hasExecutionMarker, markers, hasExecutionMarker]
    have ready : (k.reassessed env exec).gateState = exec.gateState := by
      unfold reassessed
      split
      · rfl
      · split <;> rfl
    obtain still | ⟨gate, unfrozen, handled, ran⟩ := outcome.still_or
    · refine .inl ⟨fun q marked => still.markers q (by rwa [marks]), ?_⟩
      intro q
      rw [still.dispatches, counts]
    · rw [proposalId_reassessed, named] at ran unfrozen handled
      refine .inr ⟨exec, found, ready ▸ gate, unfrozen, handled, ⟨fun q marked => ran.markers q (by rwa [marks]), ?_,
        ran.marked, ?_⟩⟩
      · rw [← marks]
        exact ran.unmarked
      · intro q
        rw [ran.dispatches, counts]

theorem onProposalPassed_still (k : GuardKeeper) (env : Guard.Env) (proposalId : Nat) :
    Still k ((k.onProposalPassed env proposalId).getD k) := by
  obtain same | ⟨report, -, -, -, same⟩ := k.onProposalPassed_cases env proposalId
  · rw [same]
    exact Still.refl k
  · rw [same]
    exact .of_event rfl rfl fun _ => rfl

theorem onTimelockQueued_still (k : GuardKeeper) (env : Guard.Env) (proposalId : Nat) :
    Still k ((k.onTimelockQueued env proposalId).getD k) := by
  obtain same | same := k.onTimelockQueued_cases env proposalId
  · rw [same]
    exact Still.refl k
  · rw [same]
    have passed := onProposalPassed_still k env proposalId
    exact ⟨passed.markers, passed.dispatches⟩

theorem reevaluated_still (k : GuardKeeper) (env : Guard.Env) (proposalId : Nat) :
    Still k (k.reevaluated env proposalId) := by
  by_cases idle : ∀ exec ∈ k.getQueuedExecution proposalId, exec.isTerminal = true
  · rw [reevaluated_idle k env idle]
    exact Still.refl k
  · push Not at idle
    obtain ⟨exec, found, live⟩ := idle
    obtain ⟨-, events, markers, -⟩ := reevaluated_settled env found (Bool.not_eq_true _ ▸ live)
    exact .of_eq markers events

theorem confirmed_still (k : GuardKeeper) (authority : String) (proposalId : Nat) (justification : String) :
    Still k (k.orUnchanged (k.confirmExecution authority proposalId justification)) := by
  obtain same | ⟨-, exec, -, -, -, same⟩ := k.confirmExecution_cases authority proposalId justification
  · rw [same]
    exact Still.refl k
  · rw [same]
    exact .of_eq rfl rfl

theorem updated_still (k : GuardKeeper) (authority : String) (params : Guard.Params) :
    Still k (k.orUnchanged (k.updateParams authority params)) := by
  obtain same | ⟨-, -, same⟩ := k.updateParams_cases authority params
  · rw [same]
    exact Still.refl k
  · rw [same]
    exact .of_eq rfl rfl

theorem reindexed_still (k : GuardKeeper) (height : Nat) (scanned : List Nat) :
    Still k (scanned.foldl (fun k proposalId => k.reindex height proposalId) k) := by
  induction scanned generalizing k with
  | nil => exact Still.refl k
  | cons proposalId rest ih =>
      have once : Still k (k.reindex height proposalId) := by
        unfold reindex
        dsimp only
        split
        · exact .of_eq rfl rfl
        · split <;> exact .of_eq rfl rfl
      exact ⟨fun q marked => (ih _).markers q (once.markers q marked),
        fun q => ((ih _).dispatches q).trans (once.dispatches q)⟩

end GuardKeeper

namespace Governance.World

variable {sha256 : Sha256} {w w' w'' : World} {block : Block} {env : Guard.Env} {proposalId : Nat}

def dispatches (w : World) (proposalId : Nat) : Nat :=
  w.guard.dispatches proposalId + w.timelock.executedProposals.count proposalId

def Failed (w : World) (proposalId : Nat) : Prop :=
  ∃ proposal, w.proposals.get? proposalId = some proposal ∧ proposal.status = .failed

structure Keeps (w w' : World) : Prop where
  failed : ∀ q, w.Failed q → w'.Failed q
  markers : ∀ q, w.guard.hasExecutionMarker q = true → w'.guard.hasExecutionMarker q = true

def Unsettled (w : World) (proposalId : Nat) : Prop :=
  ∀ op ∈ w.timelock.operations.values, op.proposalId = proposalId →
    op.status ≠ .executed ∧ op.status ≠ .cancelled

instance decidableUnsettled (w : World) (proposalId : Nat) : Decidable (w.Unsettled proposalId) :=
  inferInstanceAs (Decidable (∀ op ∈ w.timelock.operations.values, op.proposalId = proposalId →
    op.status ≠ .executed ∧ op.status ≠ .cancelled))

inductive Advance (w w' : World) : Prop
  | quiet (keeps : Keeps w w') (evolves : TimelockKeeper.Evolves w.timelock w'.timelock)
      (guardRan : w.guard.Still w'.guard)
      (timelockRan : w'.timelock.executedProposals = w.timelock.executedProposals)
  | queues (keeps : Keeps w w') (op : QueuedOperation) (queued : op.status = .queued)
      (passed : ¬ w.Failed op.proposalId) (failed : w'.Failed op.proposalId)
      (free : w.timelock.getOperation op.id = none)
      (stored : ∀ operationId, w'.timelock.getOperation operationId =
        if op.id = operationId then some op else w.timelock.getOperation operationId)
      (guardRan : w.guard.Still w'.guard)
      (timelockRan : w'.timelock.executedProposals = w.timelock.executedProposals)
  | timelockRuns (keeps : Keeps w w') (evolves : TimelockKeeper.Evolves w.timelock w'.timelock)
      (guardRan : w.guard.Still w'.guard) (op : QueuedOperation)
      (stored : w.timelock.getOperation op.id = some op) (queued : op.status = .queued)
      (unmarked : w.guard.hasExecutionMarker op.proposalId = false)
      (one : w'.timelock.executedProposals = op.proposalId :: w.timelock.executedProposals) (time : Int)
      (done : w'.timelock.getOperation op.id = some (op.markExecuted time))
  | guardRuns (keeps : Keeps w w') (evolves : TimelockKeeper.Evolves w.timelock w'.timelock)
      (proposalId : Nat) (unsettled : w.Unsettled proposalId)
      (ran : w.guard.Dispatched w'.guard proposalId)
      (timelockRan : w'.timelock.executedProposals = w.timelock.executedProposals)

/-- A proposal has at most one operation, and what has been run of it is on record. -/
structure Once (w : World) (proposalId : Nat) : Prop where
  single : ∀ operationId operationId' op op', w.timelock.getOperation operationId = some op →
    w.timelock.getOperation operationId' = some op' → op.proposalId = proposalId →
    op'.proposalId = proposalId → operationId = operationId'
  failed : ∀ operationId op, w.timelock.getOperation operationId = some op →
    op.proposalId = proposalId → w.Failed proposalId
  marked : 0 < w.guard.dispatches proposalId → w.guard.hasExecutionMarker proposalId = true
  executed : 0 < w.timelock.executedProposals.count proposalId → ∃ operationId op,
    w.timelock.getOperation operationId = some op ∧ op.proposalId = proposalId ∧ op.status = .executed
  once : w.dispatches proposalId ≤ 1

theorem Unsettled.not_executed {operationId : Nat} {op : QueuedOperation}
    (unsettled : w.Unsettled op.proposalId) (stored : w.timelock.getOperation operationId = some op) :
    op.status ≠ .executed ∧ op.status ≠ .cancelled := by
  refine unsettled op (KeyedMap.mem_values.2 ?_) rfl
  rw [← TimelockKeeper.id_of_getOperation stored] at stored
  exact stored

theorem status_of_follows {op op' : QueuedOperation} (follows : Follows op op')
    (settled : op.status ≠ .queued) : op'.status = op.status := by
  rw [follows.settled settled]

theorem Once.of_evolves (once : w.Once proposalId) (keeps : Keeps w w')
    (evolves : TimelockKeeper.Evolves w.timelock w'.timelock)
    (marked : 0 < w'.guard.dispatches proposalId → w'.guard.hasExecutionMarker proposalId = true)
    (executed : 0 < w'.timelock.executedProposals.count proposalId → ∃ operationId op,
      w'.timelock.getOperation operationId = some op ∧ op.proposalId = proposalId ∧ op.status = .executed)
    (bound : w'.dispatches proposalId ≤ 1) : w'.Once proposalId := by
  refine ⟨?_, ?_, marked, executed, bound⟩
  · intro operationId operationId' op op' stored stored' named named'
    obtain ⟨old, held, follows⟩ := evolves.back operationId op stored
    obtain ⟨old', held', follows'⟩ := evolves.back operationId' op' stored'
    exact once.single operationId operationId' old old' held held' (follows.proposalId ▸ named)
      (follows'.proposalId ▸ named')
  · intro operationId op stored named
    obtain ⟨old, held, follows⟩ := evolves.back operationId op stored
    exact keeps.failed proposalId (once.failed operationId old held (follows.proposalId ▸ named))

theorem executed_of_evolves (evolves : TimelockKeeper.Evolves w.timelock w'.timelock)
    (executed : ∃ operationId op, w.timelock.getOperation operationId = some op ∧
      op.proposalId = proposalId ∧ op.status = .executed) :
    ∃ operationId op, w'.timelock.getOperation operationId = some op ∧
      op.proposalId = proposalId ∧ op.status = .executed := by
  obtain ⟨operationId, op, stored, named, status⟩ := executed
  obtain ⟨op', stored', follows⟩ := evolves.forth operationId op stored
  refine ⟨operationId, op', stored', follows.proposalId.trans named, ?_⟩
  rw [status_of_follows follows (by simp [status]), status]

theorem dispatches_of_same (guardRan : w.guard.Still w'.guard)
    (timelockRan : w'.timelock.executedProposals = w.timelock.executedProposals) (proposalId : Nat) :
    w'.dispatches proposalId = w.dispatches proposalId := by
  rw [dispatches, guardRan.dispatches, timelockRan, dispatches]

theorem Once.marked_of_still (once : w.Once proposalId) (guardRan : w.guard.Still w'.guard)
    (ran : 0 < w'.guard.dispatches proposalId) : w'.guard.hasExecutionMarker proposalId = true := by
  rw [guardRan.dispatches] at ran
  exact guardRan.markers proposalId (once.marked ran)

theorem Advance.once (advance : Advance w w') (once : w.Once proposalId) : w'.Once proposalId := by
  cases advance with
  | quiet keeps evolves guardRan timelockRan =>
      refine once.of_evolves keeps evolves (once.marked_of_still guardRan) ?_ ?_
      · intro ran
        rw [timelockRan] at ran
        exact executed_of_evolves evolves (once.executed ran)
      · rw [dispatches_of_same guardRan timelockRan]
        exact once.once
  | queues keeps op queued passed failed free stored guardRan timelockRan =>
      have held : ∀ operationId other, w'.timelock.getOperation operationId = some other →
          (operationId = op.id ∧ other = op) ∨ w.timelock.getOperation operationId = some other := by
        intro operationId other found
        rw [stored] at found
        split at found
        · rename_i same
          exact .inl ⟨same.symm, (Option.some.inj found).symm⟩
        · exact .inr found
      refine ⟨?_, ?_, once.marked_of_still guardRan, ?_, ?_⟩
      · intro operationId operationId' first second found found' named named'
        obtain ⟨rfl, rfl⟩ | old := held operationId first found
        · obtain ⟨rfl, rfl⟩ | old' := held operationId' second found'
          · rfl
          · exact absurd (named ▸ once.failed operationId' second old' named') (named ▸ passed)
        · obtain ⟨rfl, rfl⟩ | old' := held operationId' second found'
          · exact absurd (named' ▸ once.failed operationId first old named) (named' ▸ passed)
          · exact once.single operationId operationId' first second old old' named named'
      · intro operationId other found named
        obtain ⟨rfl, rfl⟩ | old := held operationId other found
        · exact named ▸ failed
        · exact keeps.failed proposalId (once.failed operationId other old named)
      · intro ran
        rw [timelockRan] at ran
        obtain ⟨operationId, other, found, named, status⟩ := once.executed ran
        refine ⟨operationId, other, ?_, named, status⟩
        rw [stored, if_neg]
        · exact found
        · intro same
          rw [← same, free] at found
          cases found
      · rw [dispatches_of_same guardRan timelockRan]
        exact once.once
  | timelockRuns keeps evolves guardRan op stored queued unmarked one time done =>
      have away : op.proposalId = proposalId → w.dispatches proposalId = 0 := by
        intro named
        have idle : w.guard.dispatches proposalId = 0 := by
          by_contra ran
          rw [named, once.marked (Nat.pos_of_ne_zero ran)] at unmarked
          cases unmarked
        have unrun : w.timelock.executedProposals.count proposalId = 0 := by
          by_contra ran
          obtain ⟨operationId, other, found, named', status⟩ := once.executed (Nat.pos_of_ne_zero ran)
          have same := once.single op.id operationId op other stored found named named'
          subst same
          obtain rfl := Option.some.inj (stored.symm.trans found)
          rw [queued] at status
          cases status
        rw [dispatches, idle, unrun]
      refine once.of_evolves keeps evolves (once.marked_of_still guardRan) ?_ ?_
      · intro ran
        by_cases named : op.proposalId = proposalId
        · exact ⟨op.id, op.markExecuted time, done, named, rfl⟩
        · rw [one, List.count_cons_of_ne named] at ran
          exact executed_of_evolves evolves (once.executed ran)
      · rw [dispatches, one, guardRan.dispatches]
        by_cases named : op.proposalId = proposalId
        · have none := away named
          rw [dispatches] at none
          rw [named, List.count_cons_self]
          omega
        · rw [List.count_cons_of_ne named]
          exact once.once
  | guardRuns keeps evolves ranFor unsettled ran timelockRan =>
      have executed : 0 < w'.timelock.executedProposals.count proposalId → ∃ operationId op,
          w'.timelock.getOperation operationId = some op ∧ op.proposalId = proposalId ∧
            op.status = .executed := by
        intro positive
        rw [timelockRan] at positive
        exact executed_of_evolves evolves (once.executed positive)
      by_cases named : ranFor = proposalId
      · subst named
        have idle : w.guard.dispatches ranFor = 0 := by
          by_contra before
          have unmarked := ran.unmarked
          rw [once.marked (Nat.pos_of_ne_zero before)] at unmarked
          cases unmarked
        have unrun : w.timelock.executedProposals.count ranFor = 0 := by
          by_contra before
          obtain ⟨operationId, other, found, named, status⟩ := once.executed (Nat.pos_of_ne_zero before)
          exact ((named ▸ unsettled : w.Unsettled other.proposalId).not_executed found).1 status
        refine once.of_evolves keeps evolves (fun _ => ran.marked) executed ?_
        rw [dispatches, timelockRan, ran.dispatches, if_pos rfl, idle, unrun]
      · have same : w'.guard.dispatches proposalId = w.guard.dispatches proposalId := by
          rw [ran.dispatches, if_neg named, Nat.add_zero]
        refine once.of_evolves keeps evolves ?_ executed ?_
        · intro positive
          rw [same] at positive
          exact keeps.markers proposalId (once.marked positive)
        · rw [dispatches, timelockRan, same]
          exact once.once

def Cancelled (w : World) (proposalId : Nat) : Prop :=
  ∃ operationId op, w.timelock.getOperation operationId = some op ∧ op.proposalId = proposalId ∧
    op.status = .cancelled

theorem Cancelled.of_evolves (evolves : TimelockKeeper.Evolves w.timelock w'.timelock)
    (cancelled : w.Cancelled proposalId) : w'.Cancelled proposalId := by
  obtain ⟨operationId, op, stored, named, status⟩ := cancelled
  obtain ⟨op', stored', follows⟩ := evolves.forth operationId op stored
  refine ⟨operationId, op', stored', follows.proposalId.trans named, ?_⟩
  rw [status_of_follows follows (by simp [status]), status]

theorem Advance.cancelled (advance : Advance w w') (once : w.Once proposalId)
    (cancelled : w.Cancelled proposalId) :
    w'.Cancelled proposalId ∧ w'.dispatches proposalId = w.dispatches proposalId := by
  cases advance with
  | quiet keeps evolves guardRan timelockRan =>
      exact ⟨cancelled.of_evolves evolves, dispatches_of_same guardRan timelockRan proposalId⟩
  | queues keeps op queued passed failed free stored guardRan timelockRan =>
      refine ⟨?_, dispatches_of_same guardRan timelockRan proposalId⟩
      obtain ⟨operationId, old, found, named, status⟩ := cancelled
      refine ⟨operationId, old, ?_, named, status⟩
      rw [stored, if_neg]
      · exact found
      · intro same
        rw [← same, free] at found
        cases found
  | timelockRuns keeps evolves guardRan op stored queued unmarked one time done =>
      have apart : op.proposalId ≠ proposalId := by
        intro named
        obtain ⟨operationId, old, found, named', status⟩ := cancelled
        have same := once.single op.id operationId op old stored found named named'
        subst same
        obtain rfl := Option.some.inj (stored.symm.trans found)
        rw [queued] at status
        cases status
      refine ⟨cancelled.of_evolves evolves, ?_⟩
      rw [dispatches, guardRan.dispatches, one, List.count_cons_of_ne apart, dispatches]
  | guardRuns keeps evolves ranFor unsettled ran timelockRan =>
      have apart : ranFor ≠ proposalId := by
        rintro rfl
        obtain ⟨operationId, old, found, named, status⟩ := cancelled
        exact ((named ▸ unsettled : w.Unsettled old.proposalId).not_executed found).2 status
      refine ⟨cancelled.of_evolves evolves, ?_⟩
      rw [dispatches, ran.dispatches, if_neg apart, timelockRan, dispatches, Nat.add_zero]

section Steps

open Relation (ReflTransGen)

theorem Keeps.of_guard (same : w'.proposals = w.proposals)
    (markers : ∀ q, w.guard.hasExecutionMarker q = true → w'.guard.hasExecutionMarker q = true) :
    Keeps w w' := by
  refine ⟨?_, markers⟩
  rintro q ⟨proposal, found, status⟩
  exact ⟨proposal, by rw [same]; exact found, status⟩

theorem Advance.of_still {guard : GuardKeeper} (still : w.guard.Still guard) :
    Advance w { w with guard := guard } :=
  .quiet (.of_guard rfl still.markers) (.of_operations rfl) still rfl

theorem failed_insert (proposal : Gov.Proposal)
    (undecided : ∀ old ∈ w.proposals.get? proposal.id, old.status = .failed → proposal.status = .failed)
    {q : Nat} (failed : w.Failed q) : Failed { w with proposals := w.proposals.insert proposal } q := by
  obtain ⟨old, found, status⟩ := failed
  by_cases here : proposal.id = q
  · refine ⟨proposal, ?_, undecided old (by rwa [here]) status⟩
    exact (w.proposals.get?_insert proposal q).trans (if_pos here)
  · exact ⟨old, (w.proposals.get?_insert proposal q).trans ((if_neg here).trans found), status⟩

theorem setProposal_advances (w : World) (proposal : Gov.Proposal) : Advance w (w.setProposal proposal) := by
  have written : (∀ old ∈ w.proposals.get? proposal.id, old.status = .failed → proposal.status = .failed) →
      Advance w { w with proposals := w.proposals.insert proposal } := fun undecided =>
    .quiet ⟨fun q failed => failed_insert _ undecided failed, fun _ marked => marked⟩ (.of_operations rfl)
      (GuardKeeper.Still.refl _) rfl
  unfold setProposal
  cases found : w.proposals.get? proposal.id with
  | none =>
      refine written ?_
      intro old same
      rw [found] at same
      cases same
  | some old =>
      dsimp only
      split
      · exact Advance.of_still (GuardKeeper.Still.refl _)
      · rename_i open'
        refine written ?_
        intro same held status
        rw [found] at held
        obtain rfl := Option.some.inj held
        exact absurd (by simp [isDecided, status]) open'

theorem markProposalFailed_keeps (w : World) (proposalId : Nat) :
    (∀ q, w.Failed q → (w.markProposalFailed proposalId).Failed q) ∧
      (w.markProposalFailed proposalId).guard = w.guard ∧
      (w.markProposalFailed proposalId).timelock = w.timelock := by
  unfold markProposalFailed
  split
  · exact ⟨fun _ failed => failed, rfl, rfl⟩
  · rename_i proposal found
    split
    · refine ⟨?_, rfl, rfl⟩
      intro q failed
      exact failed_insert { proposal with status := .failed } (fun _ _ _ => rfl) failed
    · exact ⟨fun _ failed => failed, rfl, rfl⟩

theorem markProposalFailed_advances {timelock : TimelockKeeper}
    (evolves : TimelockKeeper.Evolves w.timelock timelock)
    (same : timelock.executedProposals = w.timelock.executedProposals) (proposalId : Nat) :
    Advance w (markProposalFailed { w with timelock := timelock } proposalId) := by
  obtain ⟨failed, guard, kept⟩ := markProposalFailed_keeps { w with timelock := timelock } proposalId
  refine .quiet ⟨fun q before => failed q before, ?_⟩ ?_ ?_ ?_
  · intro q marked
    rw [guard]
    exact marked
  · rw [kept]
    exact evolves
  · rw [guard]
    exact GuardKeeper.Still.refl _
  · rw [kept]
    exact same

theorem processProposal_advances (sound : w.timelock.Sound sha256) (inRange : InRange block.time)
    (free : w.timelock.getOperation w.timelock.nextOperationId = none) (proposalId : Nat) :
    Advance w (w.processProposal sha256 block env proposalId) ∧
      (w.processProposal sha256 block env proposalId).timelock.Sound sha256 := by
  have unchanged : Advance w w ∧ w.timelock.Sound sha256 :=
    ⟨Advance.of_still (GuardKeeper.Still.refl _), sound⟩
  unfold processProposal
  cases found : w.proposals.get? proposalId with
  | none => exact unchanged
  | some proposal =>
      have named := w.proposals.key_of_get? found
      dsimp only
      split
      · exact unchanged
      rename_i status
      rw [ne_eq, not_not] at status
      split
      · exact unchanged
      split
      · refine ⟨markProposalFailed_advances (.of_operations rfl) rfl proposalId, ?_⟩
        rw [(markProposalFailed_keeps w proposalId).2.2]
        exact sound
      obtain ⟨after, -⟩ := TimelockKeeper.queueOperation_sound sound inRange free proposalId
        proposal.messages w.timelock.authority
      obtain ⟨refused, error, kept, same⟩ | ⟨base, trackName, delay, untouched, -, same⟩ :=
        TimelockKeeper.queueOperation_cases sha256 block w.timelock proposalId
          proposal.messages w.timelock.authority
      · rw [same] at after ⊢
        refine ⟨markProposalFailed_advances (.of_operations kept.operations) ?_ proposalId, ?_⟩
        · rw [TimelockKeeper.executedProposals, kept.events, TimelockKeeper.executedProposals]
        · rw [(markProposalFailed_keeps _ proposalId).2.2]
          exact after
      · rw [same] at after ⊢
        refine ⟨?_, after⟩
        have still : w.guard.Still ((w.guard.onTimelockQueued (environment { w with
            timelock := base.queued sha256 block proposalId proposal.messages w.timelock.authority trackName
              delay } block env) proposalId).getD w.guard) :=
          GuardKeeper.onTimelockQueued_still _ _ _
        have stored : ∀ operationId, (base.queued sha256 block proposalId proposal.messages
            w.timelock.authority trackName delay).getOperation operationId =
            if base.nextOperationId = operationId then some (newQueuedOperation sha256 base.nextOperationId
              proposalId proposal.messages w.timelock.authority block.time delay
              base.params.gracePeriodSeconds)
            else w.timelock.getOperation operationId := by
          intro operationId
          rw [TimelockKeeper.getOperation_queued]
          simp only [TimelockKeeper.getOperation, untouched.operations]
        refine .queues ⟨?_, still.markers⟩ (newQueuedOperation sha256 base.nextOperationId proposalId
          proposal.messages w.timelock.authority block.time delay base.params.gracePeriodSeconds) rfl ?_ ?_
          ?_ stored still ?_
        · intro q failed
          exact failed_insert { proposal with status := .failed } (fun _ _ _ => rfl) failed
        · rintro ⟨other, held, failed⟩
          have same : other = proposal := Option.some.inj (held.symm.trans found)
          rw [same, status] at failed
          cases failed
        · refine ⟨{ proposal with status := .failed }, ?_, rfl⟩
          exact (w.proposals.get?_insert { proposal with status := .failed } proposalId).trans
            (if_pos named)
        · show w.timelock.getOperation base.nextOperationId = none
          rw [untouched.nextOperationId]
          exact free
        · show List.filterMap _ (_ :: base.events) = _
          rw [untouched.events]
          rfl

theorem applyEffect_handled {effect : Effect} (ok : w.applyEffect block effect = some w') :
    TimelockKeeper.Handled w.timelock w'.timelock ∧ w.guard.Still w'.guard ∧
      w'.proposals = w.proposals ∧ w'.guardRuns = w.guardRuns := by
  cases effect with
  | timelock msg =>
      obtain ⟨timelock, done, rfl⟩ := Option.map_eq_some_iff.1 ok
      cases handled : w.timelock.handle block msg with
      | error error =>
          rw [handled] at done
          cases done
      | ok after =>
          rw [handled] at done
          obtain rfl := Option.some.inj done
          exact ⟨(TimelockKeeper.handle_handled handled).1, GuardKeeper.Still.refl _, rfl, rfl⟩
  | updateParams authority params =>
      obtain ⟨guard, done, rfl⟩ := Option.map_eq_some_iff.1 ok
      have still := GuardKeeper.updated_still w.guard authority params
      cases updated : w.guard.updateParams authority params with
      | error error =>
          rw [updated] at done
          cases done
      | ok after =>
          rw [updated] at done still
          obtain rfl := Option.some.inj done
          exact ⟨.of_operations id rfl rfl rfl rfl, still, rfl, rfl⟩
  | confirmExecution authority proposalId justification =>
      obtain ⟨guard, done, rfl⟩ := Option.map_eq_some_iff.1 ok
      have still := GuardKeeper.confirmed_still w.guard authority proposalId justification
      cases confirmed : w.guard.confirmExecution authority proposalId justification with
      | error error =>
          rw [confirmed] at done
          cases done
      | ok after =>
          rw [confirmed] at done still
          obtain rfl := Option.some.inj done
          exact ⟨.of_operations id rfl rfl rfl rfl, still, rfl, rfl⟩

theorem applyEffects_handled {effects : List Effect} (ok : w.applyEffects block effects = some w') :
    TimelockKeeper.Handled w.timelock w'.timelock ∧ w.guard.Still w'.guard ∧
      w'.proposals = w.proposals ∧ w'.guardRuns = w.guardRuns := by
  induction effects generalizing w with
  | nil =>
      obtain rfl := Option.some.inj ok
      exact ⟨.of_operations id rfl rfl rfl rfl, GuardKeeper.Still.refl _, rfl, rfl⟩
  | cons effect rest ih =>
      obtain ⟨next, first, second⟩ := Option.bind_eq_some_iff.1 ok
      obtain ⟨handled, still, same, runs⟩ := applyEffect_handled first
      obtain ⟨handled', still', same', runs'⟩ := ih second
      refine ⟨handled.trans handled', ?_, same'.trans same, runs'.trans runs⟩
      exact ⟨fun q marked => still'.markers q (still.markers q marked),
        fun q => (still'.dispatches q).trans (still.dispatches q)⟩

/-- The guard finds no proposal ready whose operation is executed or cancelled. -/
def Coherent (w : World) (proposalId : Nat) : Prop :=
  ∀ exec ∈ w.guard.getQueuedExecution proposalId, exec.gateState = .ready → w.Unsettled proposalId

instance decidableCoherent (w : World) (proposalId : Nat) : Decidable (w.Coherent proposalId) :=
  inferInstanceAs (Decidable (∀ exec ∈ w.guard.getQueuedExecution proposalId, exec.gateState = .ready →
    w.Unsettled proposalId))

theorem guardVisit_advances (coherent : w.Coherent proposalId) (env : Guard.Env) :
    Advance w { w with guard := w.guard.visit env proposalId } := by
  obtain still | ⟨exec, found, ready, -, -, ran⟩ := GuardKeeper.visit_still_or w.guard env proposalId
  · exact Advance.of_still still
  · exact .guardRuns (.of_guard rfl ran.markers) (.of_operations rfl) proposalId
      (coherent exec found ready) ran rfl

theorem visit_advances {effects : Nat → List Effect} (sound : w.timelock.Sound sha256)
    (coherent : w.Coherent proposalId) :
    Advance w (visit block env effects w proposalId) ∧
      (visit block env effects w proposalId).timelock.Sound sha256 := by
  unfold visit
  dsimp only
  split
  · exact ⟨guardVisit_advances coherent _, sound⟩
  rename_i counted
  split
  · rename_i ran applied
    obtain ⟨handled, still, same, -⟩ := applyEffects_handled applied
    refine ⟨?_, sound.of_handled handled⟩
    obtain idle | ⟨exec, found, ready, -, -, dispatched⟩ :=
      GuardKeeper.visit_still_or w.guard (w.environment block env) proposalId
    · exact absurd (idle.dispatches proposalId) counted
    · have kept : w.guard.Dispatched ran.guard proposalId := by
        refine ⟨fun q marked => still.markers q (dispatched.markers q marked), dispatched.unmarked,
          still.markers proposalId dispatched.marked, ?_⟩
        intro q
        exact (still.dispatches q).trans (dispatched.dispatches q)
      refine .guardRuns (.of_guard same kept.markers) handled.evolves proposalId
        (coherent exec found ready) kept ?_
      rw [TimelockKeeper.executedProposals, handled.events, TimelockKeeper.executedProposals]
  · exact ⟨guardVisit_advances coherent _, sound⟩

/-- The timelock's calls do not disturb their operations, operations are queued under new ids, and at each
visit of the guard's queue the timelock has not settled the operation of a proposal that is ready. -/
def Admissible (sha256 : Sha256) (w : World) : Action → Prop
  | .processProposal block _ _ =>
      InRange block.time ∧ w.timelock.getOperation w.timelock.nextOperationId = none
  | .timelock block call => w.timelock.Undisturbed sha256 block (some w.guardView) call
  | .processQueue block env effects =>
      Run.Along (visit block env effects) Coherent w (w.scanned block env)
  | _ => True

theorem visits_advance {effects : Nat → List Effect} {pending : List Nat}
    (sound : w.timelock.Sound sha256) (coherent : Run.Along (visit block env effects) Coherent w pending) :
    ReflTransGen Advance w (pending.foldl (visit block env effects) w) ∧
      (pending.foldl (visit block env effects) w).timelock.Sound sha256 := by
  induction pending generalizing w with
  | nil => exact ⟨.refl, sound⟩
  | cons proposalId rest ih =>
      obtain ⟨here, onwards⟩ := coherent
      obtain ⟨first, next⟩ := visit_advances sound here
      obtain ⟨others, last⟩ := ih next onwards
      exact ⟨.head first others, last⟩

theorem timelock_advances {timelock timelock' : TimelockKeeper}
    (advance : TimelockKeeper.Advance (some w.guardView) timelock timelock') :
    Advance { w with timelock := timelock } { w with timelock := timelock' } := by
  have still := GuardKeeper.Still.refl w.guard
  have keeps : Keeps { w with timelock := timelock } { w with timelock := timelock' } :=
    .of_guard rfl fun _ marked => marked
  cases advance with
  | quiet evolves same => exact .quiet keeps evolves still same
  | runs op stored queued unmarked evolves one time done =>
      exact .timelockRuns keeps evolves still op stored queued unmarked one time done

theorem step_advances {action : Action} (sound : w.timelock.Sound sha256)
    (admissible : w.Admissible sha256 action) :
    ReflTransGen Advance w (w.step sha256 action) ∧ (w.step sha256 action).timelock.Sound sha256 := by
  have guarded : ∀ {guard : GuardKeeper}, w.guard.Still guard →
      ReflTransGen Advance w { w with guard := guard } ∧ w.timelock.Sound sha256 :=
    fun still => ⟨.single (Advance.of_still still), sound⟩
  cases action with
  | setProposal proposal =>
      refine ⟨.single (setProposal_advances w proposal), ?_⟩
      have same : (w.setProposal proposal).timelock = w.timelock := by
        unfold setProposal
        split
        · rfl
        · split <;> rfl
      show (w.setProposal proposal).timelock.Sound sha256
      rw [same]
      exact sound
  | processProposal block env proposalId =>
      obtain ⟨advance, after⟩ := processProposal_advances sound admissible.1 admissible.2 proposalId
      exact ⟨.single advance, after⟩
  | timelock block call =>
      refine ⟨?_, (TimelockKeeper.perform_sound sound admissible).1⟩
      exact ReflTransGen.lift (fun timelock => { w with timelock := timelock })
        (fun _ _ => timelock_advances) _ _ (TimelockKeeper.perform_advances sound admissible)
  | onProposalPassed block env proposalId => exact guarded (GuardKeeper.onProposalPassed_still _ _ _)
  | onTimelockQueued block env proposalId => exact guarded (GuardKeeper.onTimelockQueued_still _ _ _)
  | processQueue block env effects =>
      obtain ⟨visited, after⟩ := visits_advance sound admissible
      exact ⟨.tail visited (Advance.of_still (GuardKeeper.reindexed_still _ _ _)), after⟩
  | reevaluateRisk block env proposalId => exact guarded (GuardKeeper.reevaluated_still _ _ _)
  | confirmExecution authority proposalId justification =>
      exact guarded (GuardKeeper.confirmed_still _ _ _ _)
  | setEmergencyHardeningMode enabled => exact guarded (.of_eq rfl rfl)
  | updateParams authority params => exact guarded (GuardKeeper.updated_still _ _ _)

theorem run_advances {run : List Action} (sound : w.timelock.Sound sha256)
    (admissible : Run.Along (step sha256) (Admissible sha256) w run) :
    ReflTransGen Advance w (run.foldl (step sha256) w) ∧
      (run.foldl (step sha256) w).timelock.Sound sha256 := by
  induction run generalizing w with
  | nil => exact ⟨.refl, sound⟩
  | cons action rest ih =>
      obtain ⟨here, onwards⟩ := admissible
      obtain ⟨first, next⟩ := step_advances sound here
      obtain ⟨others, last⟩ := ih next onwards
      exact ⟨first.trans others, last⟩

theorem once_of_advances (advances : ReflTransGen Advance w w') (once : w.Once proposalId) :
    w'.Once proposalId := by
  induction advances with
  | refl => exact once
  | tail _ last ih => exact last.once ih

theorem cancelled_of_advances (advances : ReflTransGen Advance w w') (once : w.Once proposalId)
    (cancelled : w.Cancelled proposalId) : w'.dispatches proposalId = w.dispatches proposalId := by
  suffices kept : w'.Cancelled proposalId ∧ w'.dispatches proposalId = w.dispatches proposalId from kept.2
  induction advances with
  | refl => exact ⟨cancelled, rfl⟩
  | tail before last ih =>
      obtain ⟨still, same⟩ := last.cancelled (once_of_advances before once) ih.1
      exact ⟨still, same.trans ih.2⟩

end Steps

section Run

variable {timelockAuthority guardAuthority : String} {timelockParams : Timelock.Params}
  {guardParams : Guard.Params} {nextOperationId : Nat}

theorem start_once (proposalId : Nat) : (start timelockAuthority timelockParams nextOperationId
    guardAuthority guardParams).Once proposalId := by
  have none : ∀ operationId, (TimelockKeeper.new timelockAuthority timelockParams
      nextOperationId).getOperation operationId = none := fun operationId => KeyedMap.get?_empty operationId
  refine ⟨?_, ?_, fun ran => absurd ran (Nat.lt_irrefl 0), fun ran => absurd ran (Nat.lt_irrefl 0),
    Nat.zero_le 1⟩
  · intro operationId operationId' op op' found
    cases (none operationId).symm.trans found
  · intro operationId op found
    cases (none operationId).symm.trans found

end Run

def bankProposal : Gov.Proposal :=
  ⟨7, .passed, [TimelockKeeper.bankSend], ⟨some 1, some 0, some 0, some 0⟩⟩

def calm : Guard.Env where
  height := 0
  proposals := .empty
  bondedValidators := some []
  feePool := .keeperNotSet
  evaluateProposalAI := fun _ => none
  isTrackFrozen := fun _ => false
  router := some fun _ _ _ => .succeeded

def gatedRun : List Action :=
  [.setProposal bankProposal, .processProposal ⟨1, 1000⟩ calm 7, .processQueue ⟨5, 1040⟩ calm fun _ => [],
    .processQueue ⟨6, 1050⟩ calm fun _ => []]

def startBriefly : World := start "gov" .default 0 "gov" Guard.Timeline.briefParams

def dispatchRun : List Action := gatedRun ++ [.processQueue ⟨7, 1060⟩ calm fun _ => []]

theorem admissible_dispatchRun : Run.Along (step TimelockKeeper.polynomialHash)
    (Admissible TimelockKeeper.polynomialHash) startBriefly dispatchRun := by
  have coherent : ∀ (w : World) block, Run.Along (visit block calm fun _ => []) Coherent w (w.scanned block calm) →
      w.Admissible TimelockKeeper.polynomialHash (.processQueue block calm fun _ => []) :=
    fun _ _ along => along
  refine ⟨trivial, ⟨by decide, by decide +kernel⟩, coherent _ _ ?_, coherent _ _ ?_, coherent _ _ ?_, trivial⟩
  · decide +kernel
  · decide +kernel
  · decide +kernel

section CancelledIsRun

def cancelRun : List Action :=
  gatedRun ++ [.timelock ⟨7, 1060⟩ (.handle (.cancelOperation 0 "gov" "a reason long enough"))]

end CancelledIsRun

end Governance.World

end Omniphi
