import Omniphi.Governance.AtMostOnce

/-! Freezes over a run of both modules: on which tracks messages are run, and where the freeze is not asked
for. -/

namespace Omniphi

open Gov Timelock

namespace TimelockKeeper

variable {sha256 : Sha256} {k k' : TimelockKeeper} {block : Block} {guard : Option GuardView}
  {op : QueuedOperation}

def Thawed (k : TimelockKeeper) : Prop := ∀ d, .dispatched d ∈ k.events → d.Thawed

theorem Thawed.of_events (thawed : k.Thawed) (same : k'.events = k.events) : k'.Thawed := by
  intro d member
  rw [same] at member
  exact thawed d member

theorem thawed_dispatch (open' : k.isTrackFrozen block op.id = false) (emergencyDelaySeconds : Option Nat)
    (succeeded : Bool) : (k.dispatch block op emergencyDelaySeconds succeeded).Thawed := by
  intro t found
  have found : k.trackOf op.id = some t := found
  unfold isTrackFrozen isOperationTrackFrozen at open'
  rwa [found] at open'

theorem executed_thawed (thawed : k.Thawed) (open' : k.isTrackFrozen block op.id = false)
    (emergencyDelaySeconds : Option Nat) (outcome : Outcome) :
    (k.executed block op emergencyDelaySeconds outcome).1.Thawed := by
  obtain ⟨succeeded, logged, -⟩ := executed_logs k block op emergencyDelaySeconds outcome
  intro d member
  rw [logged] at member
  obtain same | old := List.mem_cons.1 member
  · rw [Event.dispatched.inj same]
    exact thawed_dispatch open' emergencyDelaySeconds succeeded
  · exact thawed d old

theorem executed_records (k : TimelockKeeper) (block : Block) (op : QueuedOperation)
    (emergencyDelaySeconds : Option Nat) (outcome : Outcome) :
    (k.executed block op emergencyDelaySeconds outcome).1.operationTracks = k.operationTracks := by
  unfold executed executeMessages
  cases ran : k.runMessages block op outcome with
  | none => rfl
  | some after =>
      unfold runMessages at ran
      split_ifs at ran
      obtain ⟨msgs, -, ran⟩ := Option.bind_eq_some_iff.1 ran
      exact (handleAll_handled ran).1.records

theorem settle_thawed {result : TimelockKeeper × Except TimelockError Unit} {outcome : Outcome}
    {operationId : Nat} {emergencyDelaySeconds : Option Nat} (thawed : k.Thawed)
    (open' : k.isTrackFrozen block operationId = false)
    (ends : Executes sha256 k block guard operationId emergencyDelaySeconds outcome result)
    (inTransaction : Bool) :
    (k.settle inTransaction result).Thawed ∧
      (k.settle inTransaction result).operationTracks = k.operationTracks := by
  have after : result.1.Thawed ∧ result.1.operationTracks = k.operationTracks := by
    cases ends with
    | refused error => exact ⟨thawed, rfl⟩
    | expires op found queued => exact ⟨thawed.of_events rfl, rfl⟩
    | runs op found queued disabled unmarked waited fresh =>
        have named := id_of_getOperation found
        subst named
        exact ⟨executed_thawed thawed open' emergencyDelaySeconds outcome, executed_records k block op _ _⟩
  obtain ⟨later, error | done⟩ := result
  · cases inTransaction with
    | true => exact ⟨after.1.of_events rfl, rfl⟩
    | false => exact after
  · exact after

theorem walk_thawed {outcomes : Nat → Outcome} {pending : List QueuedOperation}
    (walk : TimelockKeeper × Nat) (thawed : walk.1.Thawed) :
    (pending.foldl (autoExecuteOne sha256 block guard outcomes) walk).1.Thawed ∧
      (pending.foldl (autoExecuteOne sha256 block guard outcomes) walk).1.operationTracks =
        walk.1.operationTracks := by
  induction pending generalizing walk with
  | nil => exact ⟨thawed, rfl⟩
  | cons op rest ih =>
      have visits := autoExecuteOne_cases sha256 block op guard outcomes walk
      have once : (autoExecuteOne sha256 block guard outcomes walk op).1.Thawed ∧
          (autoExecuteOne sha256 block guard outcomes walk op).1.operationTracks =
            walk.1.operationTracks := by
        generalize autoExecuteOne sha256 block guard outcomes walk op = after at visits
        cases visits with
        | skips => exact ⟨thawed, rfl⟩
        | marks queued marked follows due spent => exact ⟨thawed.of_events rfl, rfl⟩
        | runs queued acts unexpired executable fresh unmarked open' =>
            exact ⟨executed_thawed thawed open' none (outcomes op.id), executed_records _ block op _ _⟩
      obtain ⟨last, records⟩ := ih _ once.1
      exact ⟨last, records.trans once.2⟩

theorem markExpired_records {pending : List QueuedOperation} :
    (pending.foldl (fun k op =>
      if op.isQueued && op.isExpired block.time then k.setOperation op.markExpired else k) k).operationTracks =
      k.operationTracks := by
  induction pending generalizing k with
  | nil => rfl
  | cons op rest ih =>
      rw [List.foldl_cons, ih]
      split <;> rfl

def Asked (k : TimelockKeeper) (block : Block) : Call → Prop
  | .executeOperation operationId _ _ _ => k.isTrackFrozen block operationId = false
  | .emergencyExecute operationId _ _ _ _ => k.isTrackFrozen block operationId = false
  | _ => True

variable (sha256 guard) in
theorem perform_thawed {call : Call} (thawed : k.Thawed) (asked : k.Asked block call) :
    (k.perform sha256 block guard call).Thawed ∧
      (k.perform sha256 block guard call).operationTracks = k.operationTracks := by
  cases call with
  | executeOperation operationId executor outcome inTransaction =>
      exact settle_thawed thawed asked (executeOperation_cases sha256 k executor) inTransaction
  | emergencyExecute operationId guardian justification outcome inTransaction =>
      exact settle_thawed thawed asked
        (emergencyExecute_cases sha256 k guardian justification) inTransaction
  | autoExecuteReadyOperations outcomes =>
      show (k.autoExecuteReadyOperations sha256 block guard outcomes).Thawed ∧
        (k.autoExecuteReadyOperations sha256 block guard outcomes).operationTracks = k.operationTracks
      unfold autoExecuteReadyOperations
      split
      · exact ⟨thawed, rfl⟩
      · exact walk_thawed (k, 0) thawed
  | handle msg =>
      show ((k.handle block msg).toOption.getD k).Thawed ∧
        ((k.handle block msg).toOption.getD k).operationTracks = k.operationTracks
      cases handled : k.handle block msg with
      | error error => exact ⟨thawed, rfl⟩
      | ok after =>
          obtain ⟨handled, -⟩ := handle_handled handled
          exact ⟨thawed.of_events handled.events, handled.records⟩
  | markExpiredOperations => exact ⟨thawed.of_events markExpired_events, markExpired_records⟩

variable (sha256 block) in
theorem queueOperation_thawed (thawed : k.Thawed)
    (fresh : k.operationTracks.get? k.nextOperationId = none) (proposalId : Nat)
    (messages : List AnyMsg) (executor : String) :
    (k.queueOperation sha256 block proposalId messages executor).1.Thawed ∧
      ∀ operationId record, k.operationTracks.get? operationId = some record →
        (k.queueOperation sha256 block proposalId messages executor).1.operationTracks.get? operationId =
          some record := by
  obtain ⟨refused, error, kept, same⟩ | ⟨base, trackName, delay, untouched, -, same⟩ :=
    queueOperation_cases sha256 block k proposalId messages executor
  · rw [same]
    refine ⟨thawed.of_events kept.events, ?_⟩
    intro operationId record found
    rw [kept.records, found]
  · rw [same]
    refine ⟨?_, ?_⟩
    · intro d member
      obtain same | old := List.mem_cons.1 member
      · cases same
      · have old : .dispatched d ∈ base.events := old
        rw [untouched.events] at old
        exact thawed d old
    · intro operationId record found
      refine (base.operationTracks.get?_insert _ operationId).trans ((if_neg ?_).trans ?_)
      · intro named
        have named : base.nextOperationId = operationId := named
        rw [← named, untouched.nextOperationId, fresh] at found
        cases found
      · rw [untouched.records, found]

end TimelockKeeper

namespace GuardKeeper

theorem visit_of_failing {env : Guard.Env} (failing : env.router = some fun _ _ _ => .failed)
    (k : GuardKeeper) (proposalId : Nat) : k.Still (k.visit env proposalId) := by
  obtain still | ⟨exec, -, -, -, handled, -⟩ := visit_still_or k env proposalId
  · exact still
  · obtain ⟨handler, routed, proposal, -, messages, succeeded⟩ := handled
    rw [failing] at routed
    obtain rfl := Option.some.inj routed
    cases listed : proposal.messages with
    | nil => exact absurd listed messages
    | cons msg rest =>
        rw [listed] at succeeded
        cases succeeded

end GuardKeeper

namespace Governance

def GuardRun.Thawed (run : GuardRun) : Prop :=
  ∀ track ∈ run.tracks, ∀ t ∈ track, t.isFrozen run.block.height = false

namespace World

variable {sha256 : Sha256} {w w' : World} {block : Block} {env : Guard.Env} {proposalId : Nat}

/-- No messages were run on a frozen track by either module; `guardRuns` has all that the guard ran. -/
structure Thawed (w : World) : Prop where
  timelock : w.timelock.Thawed
  guard : ∀ run ∈ w.guardRuns, run.Thawed
  logged : ∀ q, w.guardRuns.countP (fun run => run.proposalId = q) = w.guard.dispatches q

theorem Thawed.of_still {guard : GuardKeeper} (thawed : w.Thawed) (still : w.guard.Still guard) :
    Thawed { w with guard := guard } :=
  ⟨thawed.timelock, thawed.guard, fun q => (thawed.logged q).trans (still.dispatches q).symm⟩

/-- Where the guard finds a proposal ready, the tracks of its operations are not frozen, or the operation
that has the number of the proposal is on a frozen one. -/
def Asked (block : Block) (w : World) (proposalId : Nat) : Prop :=
  ∀ exec ∈ w.guard.getQueuedExecution proposalId, exec.gateState = .ready →
    w.isTrackFrozen block proposalId = true ∨ ∀ op ∈ w.timelock.operations.values,
      op.proposalId = proposalId → w.timelock.isTrackFrozen block op.id = false

instance decidableAsked (block : Block) (w : World) (proposalId : Nat) : Decidable (w.Asked block proposalId) :=
  inferInstanceAs (Decidable (∀ exec ∈ w.guard.getQueuedExecution proposalId, exec.gateState = .ready →
    w.isTrackFrozen block proposalId = true ∨ ∀ op ∈ w.timelock.operations.values,
      op.proposalId = proposalId → w.timelock.isTrackFrozen block op.id = false))

theorem thawed_tracksOf (clear : ∀ op ∈ w.timelock.operations.values, op.proposalId = proposalId →
    w.timelock.isTrackFrozen block op.id = false) :
    GuardRun.Thawed ⟨proposalId, block, w.tracksOf proposalId⟩ := by
  intro track listed t held
  obtain ⟨op, member, rfl⟩ := List.mem_map.1 listed
  rw [List.mem_filter, decide_eq_true_eq] at member
  have open' := clear op member.1 member.2
  unfold TimelockKeeper.isTrackFrozen TimelockKeeper.isOperationTrackFrozen at open'
  rwa [Option.mem_def.1 held] at open'

theorem visit_thawed {effects : Nat → List Effect} (thawed : w.Thawed) (asked : w.Asked block proposalId) :
    (visit block env effects w proposalId).Thawed ∧
      (visit block env effects w proposalId).timelock.operationTracks = w.timelock.operationTracks := by
  have visited := GuardKeeper.visit_still_or w.guard (w.environment block env) proposalId
  unfold visit
  dsimp only
  split
  · rename_i idle
    refine ⟨⟨thawed.timelock, thawed.guard, ?_⟩, rfl⟩
    obtain still | ⟨-, -, -, -, -, ran⟩ := visited
    · exact (thawed.of_still still).logged
    · have counted := ran.dispatches proposalId
      rw [idle, if_pos rfl] at counted
      omega
  rename_i counted
  split
  · rename_i ran applied
    obtain ⟨handled, still, -, runs⟩ := applyEffects_handled applied
    obtain idle | ⟨exec, found, ready, unfrozen, -, dispatched⟩ := visited
    · exact absurd (idle.dispatches proposalId) counted
    · have clear := (asked exec found ready).resolve_left (by
        rw [Bool.not_eq_true]
        exact unfrozen)
      refine ⟨⟨thawed.timelock.of_events handled.events, ?_, ?_⟩, handled.records⟩
      · intro run member
        rw [runs] at member
        obtain rfl | old := List.mem_cons.1 member
        · exact thawed_tracksOf clear
        · exact thawed.guard run old
      · intro q
        rw [runs, still.dispatches, dispatched.dispatches, List.countP_cons, thawed.logged]
        simp
  · exact ⟨thawed.of_still (GuardKeeper.visit_of_failing rfl _ _), rfl⟩

theorem visits_thawed {effects : Nat → List Effect} {pending : List Nat} (thawed : w.Thawed)
    (asked : Run.Along (visit block env effects) (Asked block) w pending) :
    (pending.foldl (visit block env effects) w).Thawed ∧
      (pending.foldl (visit block env effects) w).timelock.operationTracks = w.timelock.operationTracks := by
  induction pending generalizing w with
  | nil => exact ⟨thawed, rfl⟩
  | cons proposalId rest ih =>
      obtain ⟨here, onwards⟩ := asked
      obtain ⟨next, records⟩ := visit_thawed thawed here
      obtain ⟨last, records'⟩ := ih next onwards
      exact ⟨last, records'.trans records⟩

/-- Where the code does not ask for the freeze of an operation's track, there is none. -/
def AllAsked (w : World) : Action → Prop
  | .processProposal _ _ _ => w.timelock.operationTracks.get? w.timelock.nextOperationId = none
  | .timelock block call => w.timelock.Asked block call
  | .processQueue block env effects =>
      Run.Along (visit block env effects) (Asked block) w (w.scanned block env)
  | _ => True

def Records (w w' : World) : Prop := ∀ operationId record,
  w.timelock.operationTracks.get? operationId = some record →
    w'.timelock.operationTracks.get? operationId = some record

theorem Records.of_eq (same : w'.timelock.operationTracks = w.timelock.operationTracks) : Records w w' := by
  intro operationId record found
  rw [same, found]

theorem Thawed.of_proposals {proposals : KeyedMap Gov.Proposal.id} (thawed : w.Thawed) :
    Thawed { w with proposals := proposals } :=
  ⟨thawed.timelock, thawed.guard, thawed.logged⟩

theorem markProposalFailed_thawed (thawed : w.Thawed) (proposalId : Nat) :
    (w.markProposalFailed proposalId).Thawed := by
  unfold markProposalFailed
  split
  · exact thawed
  · split
    · exact thawed.of_proposals
    · exact thawed

theorem processProposal_thawed (thawed : w.Thawed)
    (fresh : w.timelock.operationTracks.get? w.timelock.nextOperationId = none) (proposalId : Nat) :
    (w.processProposal sha256 block env proposalId).Thawed ∧
      Records w (w.processProposal sha256 block env proposalId) := by
  have unchanged : w.Thawed ∧ Records w w := ⟨thawed, .of_eq rfl⟩
  unfold processProposal
  split
  · exact unchanged
  rename_i proposal found
  split
  · exact unchanged
  split
  · exact unchanged
  split
  · refine ⟨markProposalFailed_thawed thawed proposalId, .of_eq ?_⟩
    rw [(markProposalFailed_keeps w proposalId).2.2]
  have queued := TimelockKeeper.queueOperation_thawed sha256 block thawed.timelock
    fresh proposalId proposal.messages w.timelock.authority
  split
  · rename_i timelock error same
    rw [same] at queued
    have after : Thawed { w with timelock := timelock } := ⟨queued.1, thawed.guard, thawed.logged⟩
    refine ⟨markProposalFailed_thawed after proposalId, ?_⟩
    intro operationId record held
    rw [(markProposalFailed_keeps _ proposalId).2.2]
    exact queued.2 operationId record held
  · rename_i timelock operationId same
    rw [same] at queued
    have after : Thawed { w with timelock := timelock } := ⟨queued.1, thawed.guard, thawed.logged⟩
    exact ⟨(after.of_still (GuardKeeper.onTimelockQueued_still _ _ _)).of_proposals, queued.2⟩

variable (sha256) in
theorem step_thawed {action : Action} (thawed : w.Thawed) (asked : w.AllAsked action) :
    (w.step sha256 action).Thawed ∧ Records w (w.step sha256 action) := by
  have guarded : ∀ {guard : GuardKeeper}, w.guard.Still guard →
      Thawed { w with guard := guard } ∧ Records w { w with guard := guard } :=
    fun still => ⟨thawed.of_still still, .of_eq rfl⟩
  cases action with
  | setProposal proposal =>
      show (w.setProposal proposal).Thawed ∧ Records w (w.setProposal proposal)
      unfold setProposal
      split
      · exact ⟨thawed.of_proposals, .of_eq rfl⟩
      · split
        · exact ⟨thawed, .of_eq rfl⟩
        · exact ⟨thawed.of_proposals, .of_eq rfl⟩
  | processProposal block env proposalId => exact processProposal_thawed thawed asked proposalId
  | timelock block call =>
      obtain ⟨after, records⟩ := TimelockKeeper.perform_thawed sha256 (some w.guardView) thawed.timelock
        asked
      exact ⟨⟨after, thawed.guard, thawed.logged⟩, .of_eq records⟩
  | onProposalPassed block env proposalId => exact guarded (GuardKeeper.onProposalPassed_still _ _ _)
  | onTimelockQueued block env proposalId => exact guarded (GuardKeeper.onTimelockQueued_still _ _ _)
  | processQueue block env effects =>
      obtain ⟨visited, records⟩ := visits_thawed thawed asked
      exact ⟨visited.of_still (GuardKeeper.reindexed_still _ _ _), .of_eq records⟩
  | reevaluateRisk block env proposalId => exact guarded (GuardKeeper.reevaluated_still _ _ _)
  | confirmExecution authority proposalId justification =>
      exact guarded (GuardKeeper.confirmed_still _ _ _ _)
  | setEmergencyHardeningMode enabled => exact guarded (.of_eq rfl rfl)
  | updateParams authority params => exact guarded (GuardKeeper.updated_still _ _ _)

theorem run_thawed {run : List Action} (thawed : w.Thawed)
    (asked : Run.Along (step sha256) AllAsked w run) :
    (run.foldl (step sha256) w).Thawed ∧ Records w (run.foldl (step sha256) w) := by
  induction run generalizing w with
  | nil => exact ⟨thawed, .of_eq rfl⟩
  | cons action rest ih =>
      obtain ⟨here, onwards⟩ := asked
      obtain ⟨next, first⟩ := step_thawed sha256 thawed here
      obtain ⟨last, second⟩ := ih next onwards
      exact ⟨last, fun operationId record held => second operationId record (first operationId record held)⟩

theorem asked_dispatchRun :
    Run.Along (step TimelockKeeper.polynomialHash) AllAsked startBriefly dispatchRun := by
  have asked : ∀ (w : World) block,
      Run.Along (visit block calm fun _ => []) (Asked block) w (w.scanned block calm) →
      w.AllAsked (.processQueue block calm fun _ => []) := fun _ _ along => along
  refine ⟨trivial, KeyedMap.get?_empty 0, asked _ _ ?_, asked _ _ ?_, asked _ _ ?_, trivial⟩
  · decide +kernel
  · decide +kernel
  · decide +kernel

section FrozenIsRun

def treasuryTrack : Action :=
  .timelock ⟨1, 1000⟩ (.handle (.updateTrack "gov" ⟨trackTreasury, 1000, false, 0, 0⟩))

def treasuryFreeze : Action :=
  .timelock ⟨7, 1060⟩ (.handle (.freezeTrack "gov" trackTreasury 100 "a reason long enough"))

def executorRun : List Action :=
  [treasuryTrack, .setProposal bankProposal, .processProposal ⟨1, 1000⟩ calm 7, treasuryFreeze,
    .timelock ⟨8, 200000⟩ (.executeOperation 0 "gov" (some []) true)]

def guardRun : List Action :=
  treasuryTrack :: gatedRun ++ [treasuryFreeze, .processQueue ⟨7, 1060⟩ calm fun _ => []]

def ranFrozen (event : Timelock.Event) : Bool :=
  match event with
  | .operationQueued _ _ _ => false
  | .dispatched d => d.succeeded && d.track.any fun t => t.isFrozen d.block.height

end FrozenIsRun

end World

end Governance

end Omniphi
