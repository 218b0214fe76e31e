import Omniphi.Timelock.Lifecycle

/-! Runs of the timelock: operations queued, executed by their executor, by the guardian or at the end of
a block, cancelled and expired, in any order. -/

namespace Omniphi

open Gov Timelock

namespace Timelock

/-- A message sent to the timelock runs in a transaction; `inTransaction` says so of the calls that keep
what they have written when they fail. -/
inductive Call
  | executeOperation (operationId : Nat) (executor : String) (outcome : Outcome) (inTransaction : Bool)
  | emergencyExecute (operationId : Nat) (guardian justification : String) (outcome : Outcome)
      (inTransaction : Bool)
  | autoExecuteReadyOperations (outcomes : Nat → Outcome)
  | handle (msg : OwnMsg)
  | markExpiredOperations

inductive Action
  | queueOperation (block : Block) (proposalId : Nat) (messages : List AnyMsg) (executor : String)
  | perform (block : Block) (guard : Option GuardView) (call : Call)

end Timelock

namespace TimelockKeeper

variable (sha256 : Sha256) (k : TimelockKeeper) (block : Block) (guard : Option GuardView)

/-- A transaction that fails takes back its writes. The events tell what has been run, also then. -/
def settle (inTransaction : Bool) (result : TimelockKeeper × Except TimelockError Unit) :
    TimelockKeeper :=
  match result with
  | (after, .ok ()) => after
  | (after, .error _) => if inTransaction then { k with events := after.events } else after

def perform : Call → TimelockKeeper
  | .executeOperation operationId executor outcome inTransaction =>
      k.settle inTransaction (k.executeOperation sha256 block guard operationId executor outcome)
  | .emergencyExecute operationId guardian justification outcome inTransaction =>
      k.settle inTransaction
        (k.emergencyExecute sha256 block guard operationId guardian justification outcome)
  | .autoExecuteReadyOperations outcomes => k.autoExecuteReadyOperations sha256 block guard outcomes
  | .handle msg => (k.handle block msg).toOption.getD k
  | .markExpiredOperations => k.markExpiredOperations block

def step (k : TimelockKeeper) : Action → TimelockKeeper
  | .queueOperation block proposalId messages executor =>
      (k.queueOperation sha256 block proposalId messages executor).1
  | .perform block guard call => k.perform sha256 block guard call

/-- The messages of a queued operation do not cancel it. -/
def Kept (operationId : Nat) (outcome : Outcome) : Prop :=
  ∀ op ∈ k.getOperation operationId, op.isQueued = true → k.SelfKept block op outcome

/-- The messages that are run do not cancel their own operation, and those of a walk do not change an
operation the walk has yet to act on. -/
def Undisturbed : Call → Prop
  | .executeOperation operationId _ outcome _ => k.Kept block operationId outcome
  | .emergencyExecute operationId _ _ outcome _ => k.Kept block operationId outcome
  | .autoExecuteReadyOperations outcomes => integrationEnabled guard = false →
      Run.Along (autoExecuteOne sha256 block guard outcomes) (Current block guard outcomes) (k, 0)
        k.operations.values
  | .handle _ => True
  | .markExpiredOperations => True

/-- Operations are queued at a block's time and under a new id. -/
def Admissible (k : TimelockKeeper) : Action → Prop
  | .queueOperation block _ _ _ => InRange block.time ∧ k.getOperation k.nextOperationId = none
  | .perform block guard call => k.Undisturbed sha256 block guard call

variable {sha256 : Sha256} {k : TimelockKeeper} {block : Block} {guard : Option GuardView}

theorem settle_sound {inTransaction : Bool} {result : TimelockKeeper × Except TimelockError Unit}
    (sound : Sound sha256 k)
    (after : Sound sha256 result.1 ∧ Evolves k result.1 ∧ k.events ⊆ result.1.events) :
    Sound sha256 (k.settle inTransaction result) ∧ Extends k (k.settle inTransaction result) := by
  obtain ⟨later, error | done⟩ := result
  · obtain ⟨after, evolves, more⟩ := after
    have taken : Sound sha256 { k with events := later.events } := by
      refine sound.of_evolves ⟨sound.configured.params, sound.configured.tracks⟩ (.of_operations rfl)
        rfl more ?_
      intro d member
      exact .inr (after.legit d member)
    cases inTransaction with
    | true => exact ⟨taken, Extends.refl k⟩
    | false => exact ⟨after, evolves.forth⟩
  · exact ⟨after.1, after.2.1.forth⟩

theorem perform_sound (sound : Sound sha256 k) {call : Call}
    (undisturbed : k.Undisturbed sha256 block guard call) :
    Sound sha256 (k.perform sha256 block guard call) ∧ Extends k (k.perform sha256 block guard call) := by
  cases call with
  | executeOperation operationId executor outcome inTransaction =>
      exact settle_sound sound (executes_sound sound (executeOperation_cases sha256 k executor) undisturbed)
  | emergencyExecute operationId guardian justification outcome inTransaction =>
      exact settle_sound sound
        (executes_sound sound (emergencyExecute_cases sha256 k guardian justification) undisturbed)
  | autoExecuteReadyOperations outcomes =>
      show Sound sha256 (k.autoExecuteReadyOperations sha256 block guard outcomes) ∧ Extends k _
      unfold perform autoExecuteReadyOperations
      split
      · exact ⟨sound, Extends.refl k⟩
      · rename_i disabled
        have hashes : ∀ op ∈ k.operations.values, op.verifyHash sha256 = true := fun op member =>
          (sound.recorded op.id op (getOperation_of_mem_values member)).hash
        obtain ⟨next, evolves⟩ :=
          walk_sound (k, 0) sound hashes (undisturbed (Bool.not_eq_true _ ▸ disabled))
        exact ⟨next, evolves.forth⟩
  | handle msg =>
      show Sound sha256 ((k.handle block msg).toOption.getD k) ∧
        Extends k ((k.handle block msg).toOption.getD k)
      cases handled : k.handle block msg with
      | error error => exact ⟨sound, Extends.refl k⟩
      | ok after =>
          obtain ⟨handled, -⟩ := handle_handled handled
          exact ⟨sound.of_handled handled, handled.evolves.forth⟩
  | markExpiredOperations =>
      obtain ⟨next, evolves⟩ := markExpired_sound block sound
        (KeyedMap.nodup_map_key_values k.operations) (fun op member => getOperation_of_mem_values member)
      exact ⟨next, evolves.forth⟩

theorem new_sound {authority : String} {params : Timelock.Params} {nextOperationId : Nat}
    (valid : params.Valid) : Sound sha256 (new authority params nextOperationId) := by
  refine ⟨⟨valid, ?_⟩, ?_, ?_⟩
  · intro name t found
    cases found.symm.trans (KeyedMap.get?_empty name)
  · intro operationId op found
    cases found.symm.trans (KeyedMap.get?_empty operationId)
  · intro d member
    cases member

theorem run_sound (sound : Sound sha256 k) {run : List Action}
    (admissible : Run.Along (step sha256) (Admissible sha256) k run) :
    Sound sha256 (run.foldl (step sha256) k) ∧ Extends k (run.foldl (step sha256) k) := by
  induction run generalizing k with
  | nil => exact ⟨sound, Extends.refl k⟩
  | cons action rest ih =>
      obtain ⟨here, onwards⟩ := admissible
      have stepped : Sound sha256 (step sha256 k action) ∧ Extends k (step sha256 k action) := by
        cases action with
        | queueOperation block proposalId messages executor =>
            exact queueOperation_sound sound here.1 here.2 proposalId messages executor
        | perform block guard call => exact perform_sound sound here
      obtain ⟨next, first⟩ := stepped
      obtain ⟨last, second⟩ := ih next onwards
      exact ⟨last, first.trans second⟩

theorem executed_failed (op : QueuedOperation) (emergencyDelaySeconds : Option Nat) (outcome : Outcome)
    (failed : (k.executed block op emergencyDelaySeconds outcome).2 ≠ .ok ()) :
    (k.executed block op emergencyDelaySeconds outcome).1 =
      (k.emitEvent (.dispatched (k.dispatch block op emergencyDelaySeconds false))).setOperation
        (op.markFailed block.time .messageExecutionFailed) := by
  unfold executed executeMessages at failed ⊢
  cases ran : k.runMessages block op outcome with
  | none => rfl
  | some after =>
      rw [ran] at failed
      exact absurd rfl failed

/-- As long as no message cancels an operation that is being run or that a walk has yet to act on: the
messages of an operation are run while it is queued, after its delay and before it expires, and an
operation that is finished stays as it is. -/
theorem lifecycle (authority : String) (params : Timelock.Params) (nextOperationId : Nat)
    (valid : params.Valid) (run : List Action)
    (admissible : Run.Along (step sha256) (Admissible sha256) (new authority params nextOperationId) run) :
    (∀ earlier later, run = earlier ++ later →
      let before := earlier.foldl (step sha256) (new authority params nextOperationId)
      (∀ d, .dispatched d ∈ before.events → Legit before.events d) ∧
        Extends before (run.foldl (step sha256) (new authority params nextOperationId)) ∧
        ∀ block op emergencyDelaySeconds outcome,
          (before.executed block op emergencyDelaySeconds outcome).2 ≠ .ok () →
          (before.executed block op emergencyDelaySeconds outcome).1 =
            (before.emitEvent
              (.dispatched (before.dispatch block op emergencyDelaySeconds false))).setOperation
                (op.markFailed block.time .messageExecutionFailed)) := by
  intro earlier later split
  subst split
  obtain ⟨begun, onwards⟩ := (Run.along_append _ _ _).1 admissible
  obtain ⟨sound, -⟩ := run_sound (new_sound valid) begun
  obtain ⟨-, extended⟩ := run_sound sound onwards
  rw [List.foldl_append]
  exact ⟨sound.legit, extended, fun _ op delay outcome failed => executed_failed op delay outcome failed⟩

def polynomialHash : Sha256 :=
  fun bytes => bytes.foldl (fun value byte => value * 31 + BitVec.ofNat 256 byte.toNat) 7

def bankSend : AnyMsg := ⟨"/cosmos.bank.v1beta1.MsgSend", [1], some .other⟩

def sendRun : List Action :=
  [.queueOperation ⟨1, 1000⟩ 5 [bankSend] "gov",
    .perform ⟨2, 200000⟩ none (.executeOperation 0 "gov" (some []) true)]

theorem admissible_sendRun :
    Run.Along (step polynomialHash) (Admissible polynomialHash) (new "gov" .default 0) sendRun := by
  have kept : ∀ k : TimelockKeeper, k.Kept ⟨2, 200000⟩ 0 (some []) := by
    intro k op _ _ _ msgs same msg member
    cases same
    cases member
  exact ⟨⟨by decide, KeyedMap.get?_empty 0⟩, kept _, trivial⟩

theorem lifecycle_sendRun :
    Run.Along (step polynomialHash) (Admissible polynomialHash) (new "gov" .default 0) sendRun ∧
      ∀ earlier later, sendRun = earlier ++ later →
        let before := earlier.foldl (step polynomialHash) (new "gov" .default 0)
        (∀ d, .dispatched d ∈ before.events → Legit before.events d) ∧
          Extends before (sendRun.foldl (step polynomialHash) (new "gov" .default 0)) ∧
          ∀ block op emergencyDelaySeconds outcome,
            (before.executed block op emergencyDelaySeconds outcome).2 ≠ .ok () →
            (before.executed block op emergencyDelaySeconds outcome).1 =
              (before.emitEvent
                (.dispatched (before.dispatch block op emergencyDelaySeconds false))).setOperation
                  (op.markFailed block.time .messageExecutionFailed) :=
  ⟨admissible_sendRun, lifecycle "gov" .default 0 (by decide) sendRun admissible_sendRun⟩

section BeforeItsTurn

def cancelOther : AnyMsg := ⟨"/pos.timelock.v1.MsgCancelOperation", [1], some .other⟩

def cancellingRun : List Action :=
  [.queueOperation ⟨1, 1000⟩ 5 [cancelOther] "gov", .queueOperation ⟨1, 1000⟩ 6 [bankSend] "gov",
    .perform ⟨2, 200000⟩ none (.autoExecuteReadyOperations fun operationId =>
      if operationId = 0 then some [.cancelOperation 1 "gov" "a reason long enough"] else some [])]

def ranCancelled (event : Event) : Bool :=
  match event with
  | .operationQueued _ _ _ => false
  | .dispatched d => d.succeeded && decide (d.operation.id = 1) &&
      decide (d.stored.map QueuedOperation.status = some .cancelled)

def cancelSelf : AnyMsg := ⟨"/pos.timelock.v1.MsgCancelOperation", [0], some .other⟩

def selfCancel : Outcome := some [.cancelOperation 0 "gov" "a reason long enough"]

def selfCancellingRun : List Action := [.queueOperation ⟨1, 1000⟩ 5 [cancelSelf] "gov"]

/-- The walk still runs the messages of the second operation, which the first has cancelled, and the mark
it leaves is that of an executed one. So does the mark of an operation whose messages have cancelled it. -/
theorem cancelled_is_run : Timelock.Params.Valid .default ∧
    (cancellingRun.foldl (step polynomialHash) (new "gov" .default 0)).events.any ranCancelled = true ∧
    ((cancellingRun.foldl (step polynomialHash) (new "gov" .default 0)).getOperation 1).map
      QueuedOperation.status = some .executed ∧
    let k := selfCancellingRun.foldl (step polynomialHash) (new "gov" .default 0)
    (∃ op ∈ k.getOperation 0, ∃ ran ∈ k.runMessages ⟨2, 200000⟩ op selfCancel,
      (ran.getOperation 0).map QueuedOperation.status = some .cancelled) ∧
    ((k.executeOperation polynomialHash ⟨2, 200000⟩ none 0 "gov" selfCancel).1.getOperation 0).map
      QueuedOperation.status = some .executed := by decide +kernel

end BeforeItsTurn

end TimelockKeeper

end Omniphi
