import Omniphi.Lib.Run
import Omniphi.Timelock.Keeper

/-! The life of an operation over a run: when its messages are run, how long it has waited by then, and
that a finished operation stays as it is. -/

namespace Omniphi

open Gov Timelock

namespace Timelock

def minUnixSeconds : Int := -62135596800
def maxUnixSeconds : Int := 253402300799

def InRange (time : Int) : Prop := minUnixSeconds ≤ time ∧ time ≤ maxUnixSeconds

instance decidableInRange (time : Int) : Decidable (InRange time) :=
  inferInstanceAs (Decidable (minUnixSeconds ≤ time ∧ time ≤ maxUnixSeconds))

structure Follows (op op' : QueuedOperation) : Prop where
  id : op'.id = op.id
  proposalId : op'.proposalId = op.proposalId
  messages : op'.messages = op.messages
  operationHash : op'.operationHash = op.operationHash
  queuedAtUnix : op'.queuedAtUnix = op.queuedAtUnix
  executableAtUnix : op'.executableAtUnix = op.executableAtUnix
  expiresAtUnix : op'.expiresAtUnix = op.expiresAtUnix
  settled : op.status ≠ .queued → op' = op

theorem Follows.refl (op : QueuedOperation) : Follows op op :=
  ⟨rfl, rfl, rfl, rfl, rfl, rfl, rfl, fun _ => rfl⟩

theorem Follows.trans {op op' op'' : QueuedOperation} (first : Follows op op')
    (second : Follows op' op'') : Follows op op'' where
  id := second.id.trans first.id
  proposalId := second.proposalId.trans first.proposalId
  messages := second.messages.trans first.messages
  operationHash := second.operationHash.trans first.operationHash
  queuedAtUnix := second.queuedAtUnix.trans first.queuedAtUnix
  executableAtUnix := second.executableAtUnix.trans first.executableAtUnix
  expiresAtUnix := second.expiresAtUnix.trans first.expiresAtUnix
  settled := by
    intro finished
    have same := first.settled finished
    subst same
    exact second.settled finished

/-- The messages were run for the operation the store held as queued, after its delay and before it
expired; and the delay it was recorded with is no less than the minimum it was queued under. -/
structure Legit (events : List Event) (d : Dispatch) : Prop where
  stored : d.stored = some d.operation
  queued : d.operation.status = .queued
  fresh : d.block.time < d.operation.expiresAtUnix
  waited : ∃ record, d.record = some record ∧
    d.operation.queuedAtUnix + (d.emergencyDelaySeconds.getD record.computedDelaySeconds : Nat) ≤
      d.block.time ∧
    ∃ operation minDelaySeconds, operation.id = d.operation.id ∧
      .operationQueued operation minDelaySeconds record.computedDelaySeconds ∈ events ∧
      minDelaySeconds ≤ record.computedDelaySeconds

theorem Legit.mono {events events' : List Event} {d : Dispatch} (legit : Legit events d)
    (more : events ⊆ events') : Legit events' d := by
  obtain ⟨record, found, waited, operation, least, named, queued, enough⟩ := legit.waited
  exact ⟨legit.stored, legit.queued, legit.fresh,
    record, found, waited, operation, least, named, more queued, enough⟩

def OwnMsg.cancels : OwnMsg → Option Nat
  | .cancelOperation operationId _ _ => some operationId
  | _ => none

end Timelock

namespace TimelockKeeper

variable {sha256 : Sha256} {k k' k'' : TimelockKeeper} {block : Block} {op old : QueuedOperation}

def Extends (k k' : TimelockKeeper) : Prop :=
  ∀ operationId op, k.getOperation operationId = some op →
    ∃ op', k'.getOperation operationId = some op' ∧ Follows op op'

theorem Extends.refl (k : TimelockKeeper) : Extends k k := fun _ op found => ⟨op, found, Follows.refl op⟩

theorem Extends.trans (first : Extends k k') (second : Extends k' k'') : Extends k k'' := by
  intro operationId op found
  obtain ⟨op', found', follows⟩ := first operationId op found
  obtain ⟨op'', found'', follows'⟩ := second operationId op' found'
  exact ⟨op'', found'', follows.trans follows'⟩

structure Evolves (k k' : TimelockKeeper) : Prop where
  forth : Extends k k'
  back : ∀ operationId op', k'.getOperation operationId = some op' →
    ∃ op, k.getOperation operationId = some op ∧ Follows op op'

theorem Evolves.of_operations (same : k'.operations = k.operations) : Evolves k k' := by
  refine ⟨?_, ?_⟩
  · intro operationId op found
    exact ⟨op, by rw [getOperation, same]; exact found, Follows.refl op⟩
  · intro operationId op found
    rw [getOperation, same] at found
    exact ⟨op, found, Follows.refl op⟩

theorem Evolves.trans (first : Evolves k k') (second : Evolves k' k'') : Evolves k k'' := by
  refine ⟨first.forth.trans second.forth, ?_⟩
  intro operationId op'' found
  obtain ⟨op', held, follows⟩ := second.back operationId op'' found
  obtain ⟨op, old, follows'⟩ := first.back operationId op' held
  exact ⟨op, old, follows'.trans follows⟩

theorem getOperation_setOperation (k : TimelockKeeper) (op : QueuedOperation) (operationId : Nat) :
    (k.setOperation op).getOperation operationId =
      if op.id = operationId then some op else k.getOperation operationId :=
  k.operations.get?_insert op operationId

theorem id_of_getOperation {operationId : Nat} (found : k.getOperation operationId = some op) :
    op.id = operationId := k.operations.key_of_get? found

variable (op) in
theorem evolves_setOperation (found : k.getOperation op.id = some old) (follows : Follows old op) :
    Evolves k (k.setOperation op) := by
  refine ⟨?_, ?_⟩
  · intro operationId held same
    rw [getOperation_setOperation]
    split
    · rename_i here
      subst here
      obtain rfl := Option.some.inj (found.symm.trans same)
      exact ⟨op, rfl, follows⟩
    · exact ⟨held, same, Follows.refl held⟩
  · intro operationId held same
    rw [getOperation_setOperation] at same
    split at same
    · rename_i here
      subst here
      obtain rfl := Option.some.inj same
      exact ⟨old, found, follows⟩
    · exact ⟨held, same, Follows.refl held⟩

section Marks

variable {now : Int} (queued : op.status = .queued)
include queued

theorem follows_markExecuted : Follows op (op.markExecuted now) :=
  ⟨rfl, rfl, rfl, rfl, rfl, rfl, rfl, fun finished => absurd queued finished⟩

theorem follows_markCancelled {reason : String} : Follows op (op.markCancelled now reason) :=
  ⟨rfl, rfl, rfl, rfl, rfl, rfl, rfl, fun finished => absurd queued finished⟩

theorem follows_markExpired : Follows op op.markExpired :=
  ⟨rfl, rfl, rfl, rfl, rfl, rfl, rfl, fun finished => absurd queued finished⟩

theorem follows_markFailed {error : ExecutionError} : Follows op (op.markFailed now error) :=
  ⟨rfl, rfl, rfl, rfl, rfl, rfl, rfl, fun finished => absurd queued finished⟩

end Marks

structure Recorded (sha256 : Sha256) (k : TimelockKeeper) (op : QueuedOperation) : Prop where
  hash : op.verifyHash sha256 = true
  inRange : InRange op.queuedAtUnix
  delay : ∃ record, k.operationTracks.get? op.id = some record ∧
    op.executableAtUnix = op.queuedAtUnix + (record.computedDelaySeconds : Nat) ∧
    ∃ operation minDelaySeconds, operation.id = op.id ∧
      .operationQueued operation minDelaySeconds record.computedDelaySeconds ∈ k.events ∧
      minDelaySeconds ≤ record.computedDelaySeconds

structure Configured (k : TimelockKeeper) : Prop where
  params : k.params.Valid
  tracks : ∀ name t, k.getTrack name = some t → t.multiplier ≤ 5000

structure Sound (sha256 : Sha256) (k : TimelockKeeper) : Prop where
  configured : k.Configured
  recorded : ∀ operationId op, k.getOperation operationId = some op → Recorded sha256 k op
  legit : ∀ d, .dispatched d ∈ k.events → Legit k.events d

theorem Recorded.of_follows (recorded : Recorded sha256 k old) (follows : Follows old op)
    (records : k'.operationTracks = k.operationTracks) (events : k.events ⊆ k'.events) :
    Recorded sha256 k' op := by
  obtain ⟨record, found, executable, operation, least, named, queued, enough⟩ := recorded.delay
  refine ⟨?_, by rw [follows.queuedAtUnix]; exact recorded.inRange, record, ?_, ?_, operation, least, ?_,
    events queued, enough⟩
  · have hash := recorded.hash
    simp only [QueuedOperation.verifyHash, QueuedOperation.computeHash, follows.id, follows.proposalId,
      follows.messages, follows.queuedAtUnix, follows.operationHash] at hash ⊢
    exact hash
  · rw [records, follows.id, found]
  · rw [follows.executableAtUnix, follows.queuedAtUnix, executable]
  · rw [named, follows.id]

theorem Sound.of_evolves (sound : Sound sha256 k) (configured : k'.Configured) (evolves : Evolves k k')
    (records : k'.operationTracks = k.operationTracks) (events : k.events ⊆ k'.events)
    (added : ∀ d, .dispatched d ∈ k'.events → .dispatched d ∈ k.events ∨ Legit k'.events d) :
    Sound sha256 k' := by
  refine ⟨configured, ?_, ?_⟩
  · intro operationId op' found
    obtain ⟨op, held, follows⟩ := evolves.back operationId op' found
    exact (sound.recorded operationId op held).of_follows follows records events
  · intro d member
    exact (added d member).elim (fun old => (sound.legit d old).mono events) id

theorem Sound.of_quiet (sound : Sound sha256 k) (configured : k'.Configured) (evolves : Evolves k k')
    (records : k'.operationTracks = k.operationTracks) (events : k'.events = k.events) :
    Sound sha256 k' := by
  refine sound.of_evolves configured evolves records (by rw [events]; exact List.Subset.refl _) ?_
  intro d member
  rw [events] at member
  exact .inl member

section OwnMessages

structure Handled (k k' : TimelockKeeper) : Prop where
  configured : k.Configured → k'.Configured
  evolves : Evolves k k'
  records : k'.operationTracks = k.operationTracks
  events : k'.events = k.events
  next : k'.nextOperationId = k.nextOperationId

theorem Handled.trans (first : Handled k k') (second : Handled k' k'') : Handled k k'' where
  configured := fun configured => second.configured (first.configured configured)
  evolves := first.evolves.trans second.evolves
  records := second.records.trans first.records
  events := second.events.trans first.events
  next := second.next.trans first.next

theorem Handled.of_operations (configured : k.Configured → k'.Configured)
    (operations : k'.operations = k.operations) (records : k'.operationTracks = k.operationTracks)
    (events : k'.events = k.events) (next : k'.nextOperationId = k.nextOperationId) : Handled k k' :=
  ⟨configured, Evolves.of_operations operations, records, events, next⟩

theorem Sound.of_handled (sound : Sound sha256 k) (handled : Handled k k') : Sound sha256 k' :=
  sound.of_quiet (handled.configured sound.configured) handled.evolves handled.records handled.events

theorem trackGuardianCancel_handled (k : TimelockKeeper) (block : Block) (guardian : String) :
    Handled k (k.trackGuardianCancel block guardian) ∧
      (k.trackGuardianCancel block guardian).operations = k.operations := by
  have revoked : k.params.Valid → Params.Valid { k.params with guardian := "" } := by
    rw [Params.valid_iff, Params.valid_iff]
    exact id
  have kept : ∀ cancels, k.Configured → Configured { k with guardianCancels := cancels } :=
    fun _ configured => ⟨configured.params, configured.tracks⟩
  unfold trackGuardianCancel
  dsimp only
  split
  · exact ⟨.of_operations (kept _) rfl rfl rfl rfl, rfl⟩
  · split
    · exact ⟨.of_operations (fun configured => ⟨revoked configured.params, configured.tracks⟩) rfl rfl rfl rfl, rfl⟩
    · exact ⟨.of_operations (kept _) rfl rfl rfl rfl, rfl⟩

theorem cancelOperation_handled {operationId : Nat} {canceller reason : String}
    (ok : k.cancelOperation block operationId canceller reason = .ok k') :
    Handled k k' ∧ ∀ other, operationId ≠ other → k'.getOperation other = k.getOperation other := by
  unfold cancelOperation at ok
  dsimp only at ok
  split at ok
  · cases ok
  split at ok
  · cases ok
  split at ok
  · cases ok
  rename_i op found
  have named := id_of_getOperation found
  subst named
  split at ok
  · cases ok
  rename_i idle
  split at ok
  · cases ok
  have queued : op.status = .queued := by simpa [QueuedOperation.isQueued] using idle
  have marked : Handled k (k.setOperation (op.markCancelled block.time reason)) :=
    ⟨fun configured => ⟨configured.params, configured.tracks⟩,
      evolves_setOperation _ found (follows_markCancelled queued), rfl, rfl, rfl⟩
  have away : ∀ other, op.id ≠ other →
      (k.setOperation (op.markCancelled block.time reason)).getOperation other = k.getOperation other := by
    intro other apart
    rw [getOperation_setOperation]
    exact if_neg apart
  obtain rfl := Except.ok.inj ok
  split
  · obtain ⟨handled, same⟩ := trackGuardianCancel_handled
      (k.setOperation (op.markCancelled block.time reason)) block canceller
    refine ⟨marked.trans handled, ?_⟩
    intro other apart
    rw [getOperation, same]
    exact away other apart
  · exact ⟨marked, away⟩

theorem setTrack_handled {t : Track} (ok : k.setTrack t = .ok k') :
    Handled k k' ∧ k'.operations = k.operations := by
  unfold setTrack at ok
  split at ok
  · cases ok
  rename_i checked
  have bound : t.multiplier ≤ 5000 := by
    unfold Track.validate at checked
    split_ifs at checked
    omega
  obtain rfl := Except.ok.inj ok
  refine ⟨.of_operations (fun configured => ⟨configured.params, ?_⟩) rfl rfl rfl rfl, rfl⟩
  intro name other found
  have found := (k.tracks.get?_insert t name).symm.trans found
  split at found
  · rwa [← Option.some.inj found]
  · exact configured.tracks name other found

theorem handle_handled {msg : OwnMsg} (ok : k.handle block msg = .ok k') :
    Handled k k' ∧ ∀ other, msg.cancels ≠ some other → k'.getOperation other = k.getOperation other := by
  cases msg with
  | cancelOperation operationId authority reason =>
      obtain ⟨handled, away⟩ := cancelOperation_handled ok
      exact ⟨handled, fun other apart => away other fun same => apart (congrArg some same)⟩
  | updateParams authority params =>
      simp only [handle, updateParams] at ok
      split at ok
      · cases ok
      split at ok
      · cases ok
      rename_i checked
      split at ok
      · cases ok
      split at ok
      · cases ok
      obtain rfl := Except.ok.inj ok
      exact ⟨.of_operations (fun configured => ⟨checked, configured.tracks⟩) rfl rfl rfl rfl,
        fun _ _ => rfl⟩
  | updateGuardian authority newGuardian =>
      simp only [handle, updateGuardian] at ok
      split at ok
      · cases ok
      split at ok
      · cases ok
      · rename_i checked
        obtain rfl := Except.ok.inj ok
        exact ⟨.of_operations (fun configured => ⟨checked, configured.tracks⟩) rfl rfl rfl rfl,
        fun _ _ => rfl⟩
  | freezeTrack authority trackName freezeUntilHeight reason =>
      simp only [handle, freezeTrack] at ok
      repeat
        split at ok
        · cases ok
      · obtain ⟨handled, same⟩ := setTrack_handled ok
        exact ⟨handled, fun other _ => by rw [getOperation, same, getOperation]⟩
  | updateTrack authority track =>
      have set : ∃ t, k.setTrack t = .ok k' := by
        simp only [handle, updateTrack] at ok
        split at ok
        · cases ok
        split at ok
        · exact ⟨_, ok⟩
        split at ok
        · exact ⟨_, ok⟩
        · exact ⟨_, ok⟩
      obtain ⟨t, ok⟩ := set
      obtain ⟨handled, same⟩ := setTrack_handled ok
      exact ⟨handled, fun other _ => by rw [getOperation, same, getOperation]⟩

theorem handleAll_handled {msgs : List OwnMsg} (ran : k.handleAll block msgs = some k') :
    Handled k k' ∧ ∀ other, (∀ msg ∈ msgs, msg.cancels ≠ some other) →
      k'.getOperation other = k.getOperation other := by
  induction msgs generalizing k with
  | nil =>
      obtain rfl := Option.some.inj ran
      exact ⟨.of_operations id rfl rfl rfl rfl, fun _ _ => rfl⟩
  | cons msg rest ih =>
      rw [handleAll] at ran
      split at ran
      · cases ran
      · rename_i next ok
        obtain ⟨first, away⟩ := handle_handled ok
        obtain ⟨second, away'⟩ := ih ran
        refine ⟨first.trans second, ?_⟩
        intro other apart
        rw [away' other fun msg member => apart msg (List.mem_cons_of_mem _ member),
          away other (apart msg List.mem_cons_self)]

def SelfKept (k : TimelockKeeper) (block : Block) (op : QueuedOperation) (outcome : Outcome) : Prop :=
  (k.runMessages block op outcome).isSome = true → ∀ msgs ∈ outcome, ∀ msg ∈ msgs,
    msg.cancels ≠ some op.id

theorem runMessages_handled {outcome : Outcome} (ran : k.runMessages block op outcome = some k')
    (kept : k.SelfKept block op outcome) :
    Handled k k' ∧ k'.getOperation op.id = k.getOperation op.id := by
  have apart := kept (by rw [ran]; rfl)
  unfold runMessages at ran
  split_ifs at ran
  obtain ⟨msgs, same, ran⟩ := Option.bind_eq_some_iff.1 ran
  obtain ⟨handled, away⟩ := handleAll_handled ran
  exact ⟨handled, away op.id (apart msgs same)⟩

end OwnMessages

section Execution

def Waited (block : Block) (op : QueuedOperation) (emergencyDelaySeconds : Option Nat) : Prop :=
  match emergencyDelaySeconds with
  | none => op.executableAtUnix ≤ block.time
  | some delay => op.queuedAtUnix + (delay : Nat) ≤ block.time

theorem dispatch_legit (sound : Sound sha256 k) (stored : k.getOperation op.id = some op)
    (queued : op.status = .queued) (fresh : block.time < op.expiresAtUnix)
    {emergencyDelaySeconds : Option Nat} (waited : Waited block op emergencyDelaySeconds)
    (succeeded : Bool) :
    Legit k.events (k.dispatch block op emergencyDelaySeconds succeeded) := by
  obtain ⟨record, found, executable, recorded⟩ := (sound.recorded op.id op stored).delay
  refine ⟨stored, queued, fresh, record, found, ?_, recorded⟩
  show op.queuedAtUnix + ((emergencyDelaySeconds.getD record.computedDelaySeconds : Nat) : Int) ≤ block.time
  cases emergencyDelaySeconds with
  | none =>
      rw [Option.getD_none, ← executable]
      exact waited
  | some delay => exact waited

theorem executed_sound (sound : Sound sha256 k) (stored : k.getOperation op.id = some op)
    (queued : op.status = .queued) (fresh : block.time < op.expiresAtUnix)
    {emergencyDelaySeconds : Option Nat} (waited : Waited block op emergencyDelaySeconds)
    {outcome : Outcome} (kept : k.SelfKept block op outcome) :
    Sound sha256 (k.executed block op emergencyDelaySeconds outcome).1 ∧
      Evolves k (k.executed block op emergencyDelaySeconds outcome).1 := by
  unfold executed executeMessages
  cases ran : k.runMessages block op outcome with
  | none =>
      have logged : Evolves k (k.emitEvent
          (.dispatched (k.dispatch block op emergencyDelaySeconds false))) := .of_operations rfl
      have evolves := logged.trans (evolves_setOperation
        (op.markFailed block.time .messageExecutionFailed) stored (follows_markFailed queued))
      refine ⟨sound.of_evolves ⟨sound.configured.params, sound.configured.tracks⟩ evolves rfl
        (List.subset_cons_self _ _) ?_, evolves⟩
      intro d member
      obtain same | old := List.mem_cons.1 member
      · obtain rfl := Event.dispatched.inj same
        exact .inr ((dispatch_legit sound stored queued fresh waited false).mono
          (List.subset_cons_self _ _))
      · exact .inl old
  | some after =>
      obtain ⟨handled, same⟩ := runMessages_handled ran kept
      have logged : Evolves k (after.emitEvent
          (.dispatched (k.dispatch block op emergencyDelaySeconds true))) :=
        handled.evolves.trans (.of_operations rfl)
      have evolves := logged.trans (evolves_setOperation (op.markExecuted block.time)
        (same.trans stored) (follows_markExecuted queued))
      have more : k.events ⊆ .dispatched (k.dispatch block op emergencyDelaySeconds true) :: after.events := by
        rw [handled.events]
        exact List.subset_cons_self _ _
      have configured := handled.configured sound.configured
      refine ⟨sound.of_evolves ⟨configured.params, configured.tracks⟩ evolves handled.records more ?_,
        evolves⟩
      intro d member
      obtain same | old := List.mem_cons.1 member
      · obtain rfl := Event.dispatched.inj same
        exact .inr ((dispatch_legit sound stored queued fresh waited true).mono more)
      · rw [handled.events] at old
        exact .inl old

theorem marked_sound (sound : Sound sha256 k) (stored : k.getOperation op.id = some op)
    {marked : QueuedOperation} (follows : Follows op marked) :
    Sound sha256 (k.setOperation marked) ∧ Evolves k (k.setOperation marked) := by
  have evolves := evolves_setOperation marked (by rw [follows.id]; exact stored) follows
  exact ⟨sound.of_quiet ⟨sound.configured.params, sound.configured.tracks⟩ evolves rfl rfl, evolves⟩

theorem runMessages_events {outcome : Outcome} (ran : k.runMessages block op outcome = some k') :
    k'.events = k.events := by
  unfold runMessages at ran
  split_ifs at ran
  obtain ⟨msgs, -, ran⟩ := Option.bind_eq_some_iff.1 ran
  exact (handleAll_handled ran).1.events

theorem executed_logs (k : TimelockKeeper) (block : Block) (op : QueuedOperation)
    (emergencyDelaySeconds : Option Nat) (outcome : Outcome) :
    ∃ succeeded, (k.executed block op emergencyDelaySeconds outcome).1.events =
        .dispatched (k.dispatch block op emergencyDelaySeconds succeeded) :: k.events ∧
      (succeeded = true ↔ (k.executed block op emergencyDelaySeconds outcome).2 = .ok ()) ∧
      (succeeded = true → (k.executed block op emergencyDelaySeconds outcome).1.getOperation op.id =
        some (op.markExecuted block.time)) := by
  unfold executed executeMessages
  cases ran : k.runMessages block op outcome with
  | none => exact ⟨false, rfl, by simp, by simp⟩
  | some after =>
      refine ⟨true, ?_, by simp, fun _ => ?_⟩
      · show .dispatched _ :: after.events = _
        rw [runMessages_events ran]
      · exact (getOperation_setOperation _ _ _).trans (if_pos rfl)

inductive Executes (sha256 : Sha256) (k : TimelockKeeper) (block : Block) (guard : Option GuardView) (operationId : Nat)
    (emergencyDelaySeconds : Option Nat) (outcome : Outcome) :
    TimelockKeeper × Except TimelockError Unit → Prop
  | refused (error : TimelockError) :
      Executes sha256 k block guard operationId emergencyDelaySeconds outcome (k, .error error)
  | expires (op : QueuedOperation) (found : k.getOperation operationId = some op)
      (queued : op.status = .queued) :
      Executes sha256 k block guard operationId emergencyDelaySeconds outcome
        (k.setOperation op.markExpired, .error .operationExpired)
  | runs (op : QueuedOperation) (found : k.getOperation operationId = some op)
      (queued : op.status = .queued) (disabled : integrationEnabled guard = false)
      (unmarked : executedByGuard guard op.proposalId = false)
      (waited : Sound sha256 k → Waited block op emergencyDelaySeconds)
      (fresh : block.time < op.expiresAtUnix) :
      Executes sha256 k block guard operationId emergencyDelaySeconds outcome
        (k.executed block op emergencyDelaySeconds outcome)

variable {guard : Option GuardView} {operationId : Nat} {outcome : Outcome}

theorem executes_sound {emergencyDelaySeconds : Option Nat} {result : TimelockKeeper × Except TimelockError Unit}
    (sound : Sound sha256 k) (ends : Executes sha256 k block guard operationId emergencyDelaySeconds outcome result)
    (kept : ∀ op ∈ k.getOperation operationId, op.isQueued = true → k.SelfKept block op outcome) :
    Sound sha256 result.1 ∧ Evolves k result.1 ∧ k.events ⊆ result.1.events := by
  cases ends with
  | refused error => exact ⟨sound, .of_operations rfl, List.Subset.refl _⟩
  | expires op found queued =>
      have named := id_of_getOperation found
      subst named
      obtain ⟨next, evolves⟩ := marked_sound sound found (follows_markExpired queued)
      exact ⟨next, evolves, List.Subset.refl _⟩
  | runs op found queued disabled unmarked waited fresh =>
      have named := id_of_getOperation found
      subst named
      have kept := kept op found (by simpa [QueuedOperation.isQueued] using queued)
      obtain ⟨next, evolves⟩ := executed_sound sound found queued fresh (waited sound) kept
      obtain ⟨succeeded, logged, -⟩ := executed_logs k block op emergencyDelaySeconds outcome
      refine ⟨next, evolves, ?_⟩
      rw [logged]
      exact List.subset_cons_self _ _

variable (sha256) in
theorem executeOperation_cases (k : TimelockKeeper) (executor : String) :
    Executes sha256 k block guard operationId none outcome
      (k.executeOperation sha256 block guard operationId executor outcome) := by
  unfold executeOperation
  split
  · exact .refused _
  rename_i disabled
  rw [Bool.not_eq_true] at disabled
  split
  · exact .refused _
  rename_i op found
  split
  · exact .refused _
  rename_i unmarked
  rw [Bool.not_eq_true] at unmarked
  split
  · exact .refused _
  split
  · exact .refused _
  rename_i queued
  rw [Bool.not_eq_true', Bool.not_eq_false] at queued
  have status : op.status = .queued := by simpa [QueuedOperation.isQueued] using queued
  split
  · exact .expires op found status
  split
  · exact .refused _
  rename_i executable
  split
  · exact .refused _
  simp only [QueuedOperation.isExecutable, status, decide_true, Bool.true_and, Bool.not_eq_true',
    Bool.not_eq_false, Bool.and_eq_true, decide_eq_true_eq] at executable
  exact .runs op found status disabled unmarked (fun _ => executable.1) executable.2

theorem emergencyTime_eq (inRange : InRange op.queuedAtUnix) (valid : k.params.Valid) :
    i64 (op.queuedAtUnix + QueuedOperation.int64OfUint64 k.params.emergencyDelaySeconds) =
      op.queuedAtUnix + (k.params.emergencyDelaySeconds : Nat) := by
  obtain ⟨-, most, order, -, -, below⟩ := (Params.valid_iff _).1 valid
  obtain ⟨low, high⟩ := inRange
  unfold absoluteMaxDelaySeconds at most
  unfold minUnixSeconds at low
  unfold maxUnixSeconds at high
  unfold i64 QueuedOperation.int64OfUint64 i64
  rw [Int.bmod_eq_of_le (n := (k.params.emergencyDelaySeconds : Int)) (by omega) (by omega)]
  exact Int.bmod_eq_of_le (by omega) (by omega)

variable (sha256) in
theorem emergencyExecute_cases (k : TimelockKeeper) (guardian justification : String) :
    Executes sha256 k block guard operationId (some k.params.emergencyDelaySeconds) outcome
      (k.emergencyExecute sha256 block guard operationId guardian justification outcome) := by
  unfold emergencyExecute
  split
  · exact .refused _
  rename_i disabled
  rw [Bool.not_eq_true] at disabled
  split
  · exact .refused _
  split
  · exact .refused _
  split
  · exact .refused _
  rename_i op found
  split
  · exact .refused _
  rename_i unmarked
  rw [Bool.not_eq_true] at unmarked
  split
  · exact .refused _
  rename_i queued
  rw [Bool.not_eq_true', Bool.not_eq_false] at queued
  have status : op.status = .queued := by simpa [QueuedOperation.isQueued] using queued
  split
  · exact .refused _
  split
  · exact .refused _
  rename_i eligible
  split
  · exact .refused _
  simp only [QueuedOperation.canEmergencyExecute, status, decide_true, Bool.true_and, Bool.not_eq_true',
    Bool.not_eq_false, Bool.and_eq_true, decide_eq_true_eq] at eligible
  refine .runs op found status disabled unmarked (fun sound => ?_) eligible.2
  rw [emergencyTime_eq (sound.recorded operationId op found).inRange sound.configured.params] at eligible
  exact eligible.1

end Execution

section Walk

def Acts (block : Block) (guard : Option GuardView) (walk : TimelockKeeper × Nat)
    (op : QueuedOperation) : Prop :=
  op.isQueued = true ∧ (op.isExpired block.time = true ∨
    op.isExecutable block.time = true ∧ walk.2 < maxOperationsPerBlock ∧
      (executedByGuard guard op.proposalId = true ∨ walk.1.isTrackFrozen block op.id = false))

/-- An operation the walk acts on is still in the store as the walk has it, and its messages do not
cancel it. -/
def Current (block : Block) (guard : Option GuardView) (outcomes : Nat → Outcome)
    (walk : TimelockKeeper × Nat) (op : QueuedOperation) : Prop :=
  Acts block guard walk op → walk.1.getOperation op.id = some op ∧
    (op.isExpired block.time = false → walk.1.SelfKept block op (outcomes op.id))

variable {guard : Option GuardView} {outcomes : Nat → Outcome} {walk : TimelockKeeper × Nat}

inductive Visits (sha256 : Sha256) (block : Block) (guard : Option GuardView) (outcomes : Nat → Outcome)
    (walk : TimelockKeeper × Nat) (op : QueuedOperation) : TimelockKeeper × Nat → Prop
  | skips : Visits sha256 block guard outcomes walk op walk
  | marks (queued : op.status = .queued) (marked : QueuedOperation) (follows : Follows op marked)
      (due : op.verifyHash sha256 = false ∨ Acts block guard walk op) (spent : Nat) :
      Visits sha256 block guard outcomes walk op (walk.1.setOperation marked, spent)
  | runs (queued : op.status = .queued) (acts : Acts block guard walk op)
      (unexpired : op.isExpired block.time = false) (executable : op.executableAtUnix ≤ block.time)
      (fresh : block.time < op.expiresAtUnix) (unmarked : executedByGuard guard op.proposalId = false)
      (thawed : walk.1.isTrackFrozen block op.id = false) :
      Visits sha256 block guard outcomes walk op
        ((walk.1.executed block op none (outcomes op.id)).1, walk.2 + 1)

variable (sha256 block guard outcomes walk op) in
theorem autoExecuteOne_cases : Visits sha256 block guard outcomes walk op
    (autoExecuteOne sha256 block guard outcomes walk op) := by
  obtain ⟨k, spent⟩ := walk
  unfold autoExecuteOne
  dsimp only
  split
  · exact .skips
  rename_i queued
  rw [Bool.not_eq_true', Bool.not_eq_false] at queued
  have status : op.status = .queued := by simpa [QueuedOperation.isQueued] using queued
  split
  · rename_i expired
    exact .marks status _ (follows_markExpired status) (.inr ⟨queued, .inl expired⟩) spent
  rename_i unexpired
  rw [Bool.not_eq_true] at unexpired
  split
  · exact .skips
  rename_i executable
  rw [Bool.not_eq_true', Bool.not_eq_false] at executable
  split
  · exact .skips
  rename_i room
  rw [ge_iff_le, not_le] at room
  split
  · rename_i mismatch
    rw [Bool.not_eq_true'] at mismatch
    exact .marks status _ (follows_markFailed status) (.inl mismatch) spent
  split
  · rename_i marked
    exact .marks status _ (follows_markFailed status)
      (.inr ⟨queued, .inr ⟨executable, room, .inl marked⟩⟩) (spent + 1)
  rename_i unmarked
  rw [Bool.not_eq_true] at unmarked
  split
  · exact .skips
  rename_i thawed
  rw [Bool.not_eq_true] at thawed
  have due := executable
  simp only [QueuedOperation.isExecutable, status, decide_true, Bool.true_and, Bool.and_eq_true,
    decide_eq_true_eq] at due
  have acts : Acts block guard (k, spent) op := ⟨queued, .inr ⟨executable, room, .inr thawed⟩⟩
  exact Visits.runs status acts unexpired due.1 due.2 unmarked thawed

theorem visits_sound {after : TimelockKeeper × Nat} (sound : Sound sha256 walk.1)
    (hash : op.verifyHash sha256 = true) (current : Current block guard outcomes walk op)
    (visits : Visits sha256 block guard outcomes walk op after) :
    Sound sha256 after.1 ∧ Evolves walk.1 after.1 := by
  cases visits with
  | skips => exact ⟨sound, .of_operations rfl⟩
  | marks queued marked follows due spent =>
      obtain mismatch | acts := due
      · rw [hash] at mismatch
        cases mismatch
      · exact marked_sound sound (current acts).1 follows
  | runs queued acts unexpired executable fresh unmarked thawed =>
      obtain ⟨stored, kept⟩ := current acts
      exact executed_sound sound stored queued fresh (show Waited block op none from executable)
        (kept unexpired)

variable (walk) in
theorem walk_sound {pending : List QueuedOperation} (sound : Sound sha256 walk.1)
    (hashes : ∀ op ∈ pending, op.verifyHash sha256 = true)
    (current : Run.Along (autoExecuteOne sha256 block guard outcomes) (Current block guard outcomes)
      walk pending) :
    Sound sha256 (pending.foldl (autoExecuteOne sha256 block guard outcomes) walk).1 ∧
      Evolves walk.1 (pending.foldl (autoExecuteOne sha256 block guard outcomes) walk).1 := by
  induction pending generalizing walk with
  | nil => exact ⟨sound, .of_operations rfl⟩
  | cons op rest ih =>
      obtain ⟨here, onwards⟩ := current
      obtain ⟨next, first⟩ := visits_sound sound (hashes op List.mem_cons_self) here
        (autoExecuteOne_cases sha256 block op guard outcomes walk)
      obtain ⟨last, second⟩ := ih _ next (fun op member => hashes op (List.mem_cons_of_mem _ member)) onwards
      exact ⟨last, first.trans second⟩

theorem getOperation_of_mem_values (member : op ∈ k.operations.values) : k.getOperation op.id = some op :=
  KeyedMap.mem_values.1 member

variable (block) in
theorem markExpired_sound {pending : List QueuedOperation} (sound : Sound sha256 k)
    (distinct : (pending.map QueuedOperation.id).Nodup)
    (stored : ∀ op ∈ pending, k.getOperation op.id = some op) :
    Sound sha256 (pending.foldl (fun k op =>
      if op.isQueued && op.isExpired block.time then k.setOperation op.markExpired else k) k) ∧
    Evolves k (pending.foldl (fun k op =>
      if op.isQueued && op.isExpired block.time then k.setOperation op.markExpired else k) k) := by
  induction pending generalizing k with
  | nil => exact ⟨sound, .of_operations rfl⟩
  | cons op rest ih =>
      obtain ⟨fresh, distinct⟩ := List.nodup_cons.1 distinct
      rw [List.foldl_cons]
      split
      · rename_i due
        rw [Bool.and_eq_true] at due
        have status : op.status = .queued := by simpa [QueuedOperation.isQueued] using due.1
        obtain ⟨next, first⟩ :=
          marked_sound sound (stored op List.mem_cons_self) (follows_markExpired status)
        have kept : ∀ other ∈ rest, (k.setOperation op.markExpired).getOperation other.id = some other := by
          intro other member
          rw [getOperation_setOperation, if_neg]
          · exact stored other (List.mem_cons_of_mem _ member)
          · intro same
            exact fresh (List.mem_map.2 ⟨other, member, same.symm⟩)
        obtain ⟨last, second⟩ := ih next distinct kept
        exact ⟨last, first.trans second⟩
      · exact ih sound distinct fun other member => stored other (List.mem_cons_of_mem _ member)

end Walk

section Queue

theorem mulDiv_bounds {a b most bound : Nat} (below : a ≤ most) (more : delayPrecision ≤ b)
    (less : b ≤ bound) (fits : most * bound < 2 ^ 64) :
    a ≤ mulDiv a b delayPrecision ∧ mulDiv a b delayPrecision ≤ most * bound / delayPrecision := by
  have product : a * b ≤ most * bound := Nat.mul_le_mul below less
  unfold mulDiv
  unfold delayPrecision at more ⊢
  rw [if_neg (by omega), u64_of_lt (product.trans_lt fits)]
  refine ⟨?_, Nat.div_le_div_right product⟩
  rw [Nat.le_div_iff_mul_le (by omega)]
  exact Nat.mul_le_mul_left a more

theorem clamp_bounds {least delay : Nat} (most : least ≤ absoluteMaxDelaySeconds) (enough : least ≤ delay) :
    let raised := if delay < absoluteMinDelaySeconds then absoluteMinDelaySeconds else delay
    let clamped := if raised > absoluteMaxDelaySeconds then absoluteMaxDelaySeconds else raised
    least ≤ clamped ∧ clamped ≤ absoluteMaxDelaySeconds := by
  intro raised clamped
  have above : least ≤ raised := by
    unfold raised
    split <;> omega
  unfold clamped
  split <;> omega

theorem computeAdaptiveDelay_bounds {minDelay : Nat} (most : minDelay ≤ absoluteMaxDelaySeconds)
    {track : Track} (multiplier : track.multiplier ≤ 5000) (cumulativeEscalate mutationFreqExceeded : Bool) :
    minDelay ≤ computeAdaptiveDelay minDelay track cumulativeEscalate mutationFreqExceeded ∧
      computeAdaptiveDelay minDelay track cumulativeEscalate mutationFreqExceeded ≤
        absoluteMaxDelaySeconds := by
  have within := most
  unfold absoluteMaxDelaySeconds at most
  have trackMult : delayPrecision ≤ (if track.multiplier < delayPrecision then delayPrecision
      else track.multiplier) ∧ (if track.multiplier < delayPrecision then delayPrecision
      else track.multiplier) ≤ 5000 := by
    unfold delayPrecision
    split <;> omega
  have escalateMult : delayPrecision ≤ (if cumulativeEscalate = true then 1500 else delayPrecision) ∧
      (if cumulativeEscalate = true then 1500 else delayPrecision) ≤ 1500 := by
    unfold delayPrecision
    split <;> omega
  have mutMult : delayPrecision ≤ (if mutationFreqExceeded = true then mutationFreqMultiplier
      else delayPrecision) ∧ (if mutationFreqExceeded = true then mutationFreqMultiplier
      else delayPrecision) ≤ 1500 := by
    unfold delayPrecision mutationFreqMultiplier
    split <;> omega
  obtain ⟨risk, most⟩ := mulDiv_bounds (b := riskMultiplier) most (by decide) (Nat.le_refl _) (by decide)
  obtain ⟨economic, most⟩ :=
    mulDiv_bounds (b := delayPrecision) most (Nat.le_refl _) (Nat.le_refl _) (by decide)
  obtain ⟨tracked, most⟩ := mulDiv_bounds most trackMult.1 trackMult.2 (by decide)
  obtain ⟨escalated, most⟩ := mulDiv_bounds most escalateMult.1 escalateMult.2 (by decide)
  obtain ⟨mutated, -⟩ := mulDiv_bounds most mutMult.1 mutMult.2 (by decide)
  exact clamp_bounds within ((((risk.trans economic).trans tracked).trans escalated).trans mutated)

structure Untouched (k k' : TimelockKeeper) : Prop where
  operations : k'.operations = k.operations
  records : k'.operationTracks = k.operationTracks
  events : k'.events = k.events
  params : k'.params = k.params
  tracks : k'.tracks = k.tracks
  nextOperationId : k'.nextOperationId = k.nextOperationId

theorem Untouched.trans (first : Untouched k k') (second : Untouched k' k'') : Untouched k k'' :=
  ⟨second.operations.trans first.operations, second.records.trans first.records,
    second.events.trans first.events, second.params.trans first.params, second.tracks.trans first.tracks,
    second.nextOperationId.trans first.nextOperationId⟩

theorem Untouched.configured (untouched : Untouched k k') (configured : k.Configured) : k'.Configured := by
  refine ⟨by rw [untouched.params]; exact configured.params, ?_⟩
  intro name t found
  rw [getTrack, untouched.tracks] at found
  exact configured.tracks name t found

theorem multiplier_trackForProposal (configured : k.Configured) (messageTypeURLs : List String) :
    (k.trackForProposal messageTypeURLs).multiplier ≤ 5000 := by
  unfold trackForProposal
  cases found : k.getTrack (classifyTrackByMessageTypes messageTypeURLs) with
  | none => simp
  | some t => exact configured.tracks _ t found

def queued (sha256 : Sha256) (k : TimelockKeeper) (block : Block) (proposalId : Nat)
    (messages : List AnyMsg) (executor trackName : String) (delay : Nat) : TimelockKeeper :=
  let op := newQueuedOperation sha256 k.nextOperationId proposalId messages executor block.time delay
    k.params.gracePeriodSeconds
  let k := { k with nextOperationId := u64 (k.nextOperationId + 1) }
  let k := k.setOperation op
  let k := { k with operationTracks := k.operationTracks.insert ⟨op.id, trackName, delay⟩ }
  k.emitEvent (.operationQueued op k.params.minDelaySeconds delay)

theorem getOperation_queued (k : TimelockKeeper) (proposalId : Nat) (messages : List AnyMsg)
    (executor trackName : String) (delay operationId : Nat) :
    (k.queued sha256 block proposalId messages executor trackName delay).getOperation operationId =
      if k.nextOperationId = operationId then some (newQueuedOperation sha256 k.nextOperationId proposalId
        messages executor block.time delay k.params.gracePeriodSeconds)
      else k.getOperation operationId :=
  k.operations.get?_insert _ operationId

variable (block) in
theorem untouched_recordTreasuryOutflow (condition : Prop) [Decidable condition] (k : TimelockKeeper) :
    Untouched k (if condition then k.recordTreasuryOutflow block 500 else (false, k)).2 := by
  split <;> exact ⟨rfl, rfl, rfl, rfl, rfl, rfl⟩

variable (block) in
theorem untouched_incrementParamMutationCount (condition : Prop) [Decidable condition]
    (k : TimelockKeeper) :
    Untouched k (if condition then k.incrementParamMutationCount block else (false, k)).2 := by
  split <;> exact ⟨rfl, rfl, rfl, rfl, rfl, rfl⟩

structure Refused (k k' : TimelockKeeper) : Prop where
  operations : k'.operations = k.operations
  records : k'.operationTracks = k.operationTracks
  events : k'.events = k.events
  configured : k.Configured → k'.Configured

variable (sha256 block) in
theorem queueOperation_cases (k : TimelockKeeper) (proposalId : Nat) (messages : List AnyMsg)
    (executor : String) :
    (∃ refused error, Refused k refused ∧
      k.queueOperation sha256 block proposalId messages executor = (refused, .error error)) ∨
    ∃ base trackName delay, Untouched k base ∧
      (k.Configured → k.params.minDelaySeconds ≤ delay ∧ delay ≤ absoluteMaxDelaySeconds) ∧
      k.queueOperation sha256 block proposalId messages executor =
        (base.queued sha256 block proposalId messages executor trackName delay, .ok k.nextOperationId) := by
  have multiplier : k.Configured → (k.trackForProposal (messages.map AnyMsg.typeUrl)).multiplier ≤ 5000 :=
    fun configured => multiplier_trackForProposal configured (messages.map AnyMsg.typeUrl)
  unfold queueOperation
  dsimp only
  split
  · exact .inl ⟨k, _, ⟨rfl, rfl, rfl, id⟩, rfl⟩
  split
  · exact .inl ⟨k, _, ⟨rfl, rfl, rfl, id⟩, rfl⟩
  generalize k.trackForProposal (messages.map AnyMsg.typeUrl) = track at multiplier ⊢
  have recorded := untouched_recordTreasuryOutflow block (track.name = trackTreasury) k
  generalize (if track.name = trackTreasury then k.recordTreasuryOutflow block 500 else (false, k)) = first
    at recorded ⊢
  obtain ⟨cumulativeEscalate, recordedKeeper⟩ := first
  dsimp only at recorded ⊢
  have counted := untouched_incrementParamMutationCount block
    (track.name = trackParamChange ∨ track.name = trackConsensus) recordedKeeper
  generalize (if track.name = trackParamChange ∨ track.name = trackConsensus then
    recordedKeeper.incrementParamMutationCount block else (false, recordedKeeper)) = second at counted ⊢
  obtain ⟨mutationFreqExceeded, base⟩ := second
  have untouched := recorded.trans counted
  dsimp only at untouched ⊢
  split
  · refine .inl ⟨{ base with nextOperationId := u64 (base.nextOperationId + 1) }, _,
      ⟨untouched.operations, untouched.records, untouched.events, ?_⟩, rfl⟩
    intro configured
    have kept := untouched.configured configured
    exact ⟨kept.params, kept.tracks⟩
  · refine .inr ⟨base, track.name, computeAdaptiveDelay base.params.minDelaySeconds track
      cumulativeEscalate mutationFreqExceeded, untouched, ?_, ?_⟩
    · intro configured
      obtain ⟨-, most, order, -⟩ := (Params.valid_iff _).1 configured.params
      rw [← untouched.params]
      rw [← untouched.params] at most order
      exact computeAdaptiveDelay_bounds (order.trans most) (multiplier configured) cumulativeEscalate
        mutationFreqExceeded
    · rw [← untouched.nextOperationId]
      rfl

variable (sha256) in
theorem queued_recorded (inRange : InRange block.time) {delay : Nat}
    (enough : k.params.minDelaySeconds ≤ delay) (most : delay ≤ absoluteMaxDelaySeconds) (proposalId : Nat)
    (messages : List AnyMsg) (executor trackName : String) :
    Recorded sha256 (k.queued sha256 block proposalId messages executor trackName delay)
      (newQueuedOperation sha256 k.nextOperationId proposalId messages executor block.time delay
        k.params.gracePeriodSeconds) := by
  have executable : i64 (block.time + QueuedOperation.int64OfUint64 delay) = block.time + (delay : Nat) := by
    obtain ⟨low, high⟩ := inRange
    unfold minUnixSeconds at low
    unfold maxUnixSeconds at high
    unfold absoluteMaxDelaySeconds at most
    unfold QueuedOperation.int64OfUint64 i64
    rw [Int.bmod_eq_of_le (n := (delay : Int)) (by omega) (by omega)]
    exact Int.bmod_eq_of_le (by omega) (by omega)
  refine ⟨?_, inRange, ⟨k.nextOperationId, trackName, delay⟩, ?_, executable, _,
    k.params.minDelaySeconds, rfl, List.mem_cons_self, enough⟩
  · simp [QueuedOperation.verifyHash, newQueuedOperation, QueuedOperation.computeHash]
  · exact (k.operationTracks.get?_insert _ _).trans (if_pos rfl)

theorem queueOperation_sound (sound : Sound sha256 k) (inRange : InRange block.time)
    (free : k.getOperation k.nextOperationId = none) (proposalId : Nat) (messages : List AnyMsg)
    (executor : String) :
    Sound sha256 (k.queueOperation sha256 block proposalId messages executor).1 ∧
      Extends k (k.queueOperation sha256 block proposalId messages executor).1 := by
  obtain ⟨refused, error, kept, same⟩ | ⟨base, trackName, delay, untouched, bounds, same⟩ :=
    queueOperation_cases sha256 block k proposalId messages executor
  · rw [same]
    have evolves : Evolves k refused := .of_operations kept.operations
    exact ⟨sound.of_quiet (kept.configured sound.configured) evolves kept.records kept.events,
      evolves.forth⟩
  · rw [same]
    have quiet : Sound sha256 base := sound.of_quiet (untouched.configured sound.configured)
      (.of_operations untouched.operations) untouched.records untouched.events
    obtain ⟨enough, most⟩ := bounds sound.configured
    rw [← untouched.params] at enough
    have recorded := queued_recorded sha256 inRange enough most proposalId messages executor trackName
    have stored : ∀ operationId,
        (base.queued sha256 block proposalId messages executor trackName delay).getOperation operationId =
          if k.nextOperationId = operationId then some (newQueuedOperation sha256 base.nextOperationId
            proposalId messages executor block.time delay base.params.gracePeriodSeconds)
          else k.getOperation operationId := by
      intro operationId
      rw [getOperation_queued, untouched.nextOperationId]
      simp only [getOperation, untouched.operations]
    have more : base.events ⊆
        (base.queued sha256 block proposalId messages executor trackName delay).events :=
      List.subset_cons_self _ _
    refine ⟨⟨⟨quiet.configured.params, quiet.configured.tracks⟩, ?_, ?_⟩, ?_⟩
    · intro operationId op found
      rw [stored] at found
      split at found
      · obtain rfl := Option.some.inj found
        exact recorded
      · rename_i apart
        rw [getOperation, ← untouched.operations] at found
        obtain ⟨hash, inRange, record, held, executable, operation, least, named, queued, enough⟩ :=
          quiet.recorded operationId op found
        refine ⟨hash, inRange, record, ?_, executable, operation, least, named, more queued, enough⟩
        refine (base.operationTracks.get?_insert _ _).trans ((if_neg ?_).trans held)
        show ¬ base.nextOperationId = op.id
        rwa [untouched.nextOperationId, id_of_getOperation found]
    · intro d member
      obtain same | old := List.mem_cons.1 member
      · cases same
      · exact (quiet.legit d old).mono more
    · intro operationId op found
      rw [stored, if_neg]
      · exact ⟨op, found, Follows.refl op⟩
      · intro same
        rw [← same, free] at found
        cases found

end Queue

end TimelockKeeper

end Omniphi
