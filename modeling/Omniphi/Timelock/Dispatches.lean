import Mathlib.Logic.Relation
import Omniphi.Timelock.Runs

/-! A call of the timelock, one operation at a time: at each step at most one operation has its messages
run. -/

namespace Omniphi

open Gov Timelock

namespace Timelock

def Event.executedProposal : Event → Option Nat
  | .operationQueued _ _ _ => none
  | .dispatched d => if d.succeeded then some d.operation.proposalId else none

def Dispatch.Thawed (d : Dispatch) : Prop := ∀ t ∈ d.track, t.isFrozen d.block.height = false

end Timelock

namespace TimelockKeeper

variable {sha256 : Sha256} {k k' k'' : TimelockKeeper} {block : Block} {guard : Option GuardView}
  {op : QueuedOperation}

def executedProposals (k : TimelockKeeper) : List Nat := k.events.filterMap Event.executedProposal

inductive Advance (guard : Option GuardView) (k k' : TimelockKeeper) : Prop
  | quiet (evolves : Evolves k k') (same : k'.executedProposals = k.executedProposals)
  | runs (op : QueuedOperation) (stored : k.getOperation op.id = some op) (queued : op.status = .queued)
      (unmarked : executedByGuard guard op.proposalId = false) (evolves : Evolves k k')
      (one : k'.executedProposals = op.proposalId :: k.executedProposals) (time : Int)
      (done : k'.getOperation op.id = some (op.markExecuted time))

theorem Advance.of_events (evolves : Evolves k k') (same : k'.events = k.events) : Advance guard k k' :=
  .quiet evolves (by rw [executedProposals, same, executedProposals])

theorem executedProposals_executed (k : TimelockKeeper) (block : Block) (op : QueuedOperation)
    (emergencyDelaySeconds : Option Nat) (outcome : Outcome) :
    ((k.executed block op emergencyDelaySeconds outcome).1.executedProposals = k.executedProposals) ∨
      (k.executed block op emergencyDelaySeconds outcome).2 = .ok () ∧
        (k.executed block op emergencyDelaySeconds outcome).1.executedProposals =
          op.proposalId :: k.executedProposals ∧
        (k.executed block op emergencyDelaySeconds outcome).1.getOperation op.id =
          some (op.markExecuted block.time) := by
  obtain ⟨succeeded, logged, ok, done⟩ := executed_logs k block op emergencyDelaySeconds outcome
  unfold executedProposals
  rw [logged]
  cases succeeded with
  | false => exact .inl rfl
  | true => exact .inr ⟨ok.1 rfl, rfl, done rfl⟩

theorem executed_advances (stored : k.getOperation op.id = some op) (queued : op.status = .queued)
    (unmarked : executedByGuard guard op.proposalId = false) {emergencyDelaySeconds : Option Nat}
    {outcome : Outcome} (evolves : Evolves k (k.executed block op emergencyDelaySeconds outcome).1) :
    Advance guard k (k.executed block op emergencyDelaySeconds outcome).1 := by
  obtain same | ⟨-, one, done⟩ := executedProposals_executed k block op emergencyDelaySeconds outcome
  · exact .quiet evolves same
  · exact .runs op stored queued unmarked evolves one block.time done

theorem settle_advances {emergencyDelaySeconds : Option Nat} {outcome : Outcome} {operationId : Nat}
    {result : TimelockKeeper × Except TimelockError Unit} (sound : Sound sha256 k)
    (ends : Executes sha256 k block guard operationId emergencyDelaySeconds outcome result)
    (kept : k.Kept block operationId outcome) (inTransaction : Bool) :
    Advance guard k (k.settle inTransaction result) := by
  obtain ⟨-, evolves, -⟩ := executes_sound sound ends kept
  have advances : Advance guard k result.1 := by
    cases ends with
    | refused error => exact .of_events evolves rfl
    | expires op found queued => exact .of_events evolves rfl
    | runs op found queued disabled unmarked waited fresh =>
        have named := id_of_getOperation found
        exact executed_advances (by rwa [named]) queued unmarked evolves
  have failed : ∀ error, result.2 = .error error → result.1.executedProposals = k.executedProposals := by
    intro error same
    cases ends with
    | refused error => rfl
    | expires op found queued => rfl
    | runs op found queued disabled unmarked waited fresh =>
        obtain same | ⟨ok, -⟩ := executedProposals_executed k block op emergencyDelaySeconds outcome
        · exact same
        · cases ok.symm.trans same
  obtain ⟨after, error | done⟩ := result
  · cases inTransaction with
    | true => exact .quiet (.of_operations rfl) (failed error rfl)
    | false => exact advances
  · exact advances

theorem visits_advance {outcomes : Nat → Outcome} {walk after : TimelockKeeper × Nat}
    (sound : Sound sha256 walk.1) (hash : op.verifyHash sha256 = true)
    (current : Current block guard outcomes walk op)
    (visits : Visits sha256 block guard outcomes walk op after) : Advance guard walk.1 after.1 := by
  obtain ⟨-, evolves⟩ := visits_sound sound hash current visits
  cases visits with
  | skips => exact .of_events evolves rfl
  | marks queued marked follows due spent => exact .of_events evolves rfl
  | runs queued acts unexpired executable fresh unmarked thawed =>
      exact executed_advances (current acts).1 queued unmarked evolves

theorem walk_advances {outcomes : Nat → Outcome} {pending : List QueuedOperation}
    (walk : TimelockKeeper × Nat) (sound : Sound sha256 walk.1)
    (hashes : ∀ op ∈ pending, op.verifyHash sha256 = true)
    (current : Run.Along (autoExecuteOne sha256 block guard outcomes) (Current block guard outcomes)
      walk pending) :
    Relation.ReflTransGen (Advance guard) walk.1
      (pending.foldl (autoExecuteOne sha256 block guard outcomes) walk).1 := by
  induction pending generalizing walk with
  | nil => exact .refl
  | cons op rest ih =>
      obtain ⟨here, onwards⟩ := current
      have hash := hashes op List.mem_cons_self
      have visits := autoExecuteOne_cases sha256 block op guard outcomes walk
      obtain ⟨next, -⟩ := visits_sound sound hash here visits
      exact .head (visits_advance sound hash here visits)
        (ih _ next (fun op member => hashes op (List.mem_cons_of_mem _ member)) onwards)

theorem markExpired_events {pending : List QueuedOperation} :
    (pending.foldl (fun k op =>
      if op.isQueued && op.isExpired block.time then k.setOperation op.markExpired else k) k).events =
      k.events := by
  induction pending generalizing k with
  | nil => rfl
  | cons op rest ih =>
      rw [List.foldl_cons, ih]
      split <;> rfl

theorem perform_advances (sound : Sound sha256 k) {call : Call}
    (undisturbed : k.Undisturbed sha256 block guard call) :
    Relation.ReflTransGen (Advance guard) k (k.perform sha256 block guard call) := by
  cases call with
  | executeOperation operationId executor outcome inTransaction =>
      exact .single (settle_advances sound (executeOperation_cases sha256 k executor) undisturbed inTransaction)
  | emergencyExecute operationId guardian justification outcome inTransaction =>
      exact .single (settle_advances sound (emergencyExecute_cases sha256 k guardian justification)
        undisturbed inTransaction)
  | autoExecuteReadyOperations outcomes =>
      show Relation.ReflTransGen (Advance guard) k (k.autoExecuteReadyOperations sha256 block guard outcomes)
      unfold autoExecuteReadyOperations
      split
      · exact .refl
      · rename_i disabled
        have hashes : ∀ op ∈ k.operations.values, op.verifyHash sha256 = true := fun op member =>
          (sound.recorded op.id op (getOperation_of_mem_values member)).hash
        exact walk_advances (k, 0) sound hashes (undisturbed (Bool.not_eq_true _ ▸ disabled))
  | handle msg =>
      show Relation.ReflTransGen (Advance guard) k ((k.handle block msg).toOption.getD k)
      cases handled : k.handle block msg with
      | error error => exact .refl
      | ok after =>
          obtain ⟨handled, -⟩ := handle_handled handled
          exact .single (.of_events handled.evolves handled.events)
  | markExpiredOperations =>
      obtain ⟨-, evolves⟩ := markExpired_sound block sound
        (KeyedMap.nodup_map_key_values k.operations) (fun op member => getOperation_of_mem_values member)
      exact .single (.of_events evolves markExpired_events)

end TimelockKeeper

end Omniphi
