import Omniphi.Runtime.Cells
import Omniphi.Runtime.Duplicates
import Omniphi.Runtime.Selection

/-! The safety kernel on the two ways into settlement. Ordered batches of intents obey it; solver batches
do not ask for it. -/

namespace Omniphi.Runtime

open SettlementEngine

variable (sha256 : Sha256)

def ExecutionPlan.touchedIds (plan : ExecutionPlan) : List ObjectId :=
  plan.objectAccess.map ObjectAccess.objectId ++
    plan.operations.flatMap (ObjectOperation.touched sha256)

namespace PoSeqRuntime

def isQuarantined (runtime : PoSeqRuntime) (id : ObjectId) : Bool :=
  match runtime.safety with
  | some kernel => kernel.isObjectQuarantined id
  | none => false

def Clear (runtime : PoSeqRuntime) (plan : ExecutionPlan) : Prop :=
  ∀ id ∈ plan.touchedIds sha256, runtime.isQuarantined id = false

end PoSeqRuntime

section Intents

theorem IntentResolver.touched_declared {tx : IntentTransaction} {store : ObjectStore}
    {caps : CapabilitySet} {plan : ExecutionPlan} (resolved : resolve tx store caps = .ok plan) :
    plan.operations.flatMap (ObjectOperation.touched sha256) ⊆
      plan.objectAccess.map ObjectAccess.objectId := by
  unfold resolve at resolved
  split at resolved
  · obtain ⟨own, other, -, -, -, rfl⟩ := resolveTransfer_ok resolved
    simp [planOf, ObjectOperation.touched, ObjectOperation.target, ObjectAccess.write]
  · obtain ⟨pool, own, other, output, -, -, -, -, ⟨-, -, rfl⟩ | ⟨-, -, rfl⟩⟩ := resolveSwap_ok resolved
    · simp [planOf, ObjectOperation.touched, ObjectOperation.target, ObjectAccess.write]
    · simp [planOf, ObjectOperation.touched, ObjectOperation.target, ObjectAccess.write]
  · obtain ⟨own, -, -, rfl⟩ := resolveYieldAllocate_ok resolved
    simp [planOf, ObjectOperation.touched, ObjectOperation.target, ObjectAccess.write]
  · obtain ⟨-, own, other, -, -, -, rfl⟩ := resolveTreasuryRebalance_ok resolved
    simp [planOf, ObjectOperation.touched, ObjectOperation.target, ObjectAccess.write]
  · obtain ⟨own, -, -, rfl⟩ := resolveRouteLiquidity_ok resolved
    simp [planOf, ObjectOperation.touched, ObjectOperation.target, ObjectAccess.write]
  · cases resolved

theorem PoSeqRuntime.clear_planFor {runtime : PoSeqRuntime} {tx : IntentTransaction}
    {plan : ExecutionPlan} (brought : runtime.planFor tx = some plan) : runtime.Clear sha256 plan := by
  obtain ⟨resolved, passed⟩ := planFor_some brought
  have declared : ∀ id ∈ plan.objectAccess.map ObjectAccess.objectId, runtime.isQuarantined id = false := by
    intro id member
    obtain ⟨access, listed, rfl⟩ := List.mem_map.1 member
    unfold quarantines at passed
    unfold isQuarantined
    cases kernel : runtime.safety with
    | none => rfl
    | some kernel' =>
        rw [kernel] at passed
        simpa using List.any_eq_false.1 passed access listed
  intro id member
  rcases List.mem_append.1 member with listed | operated
  · exact declared id listed
  · exact declared id (IntentResolver.touched_declared sha256 resolved operated)

end Intents

namespace SolverMarketRuntime

variable (encode : BoxedObject → Bytes) (runtime : SolverMarketRuntime) (batch : OrderedBatch)
  (solverBatch : SolverMarketBatch)

/-- In emergency mode neither path changes the store; otherwise neither settles a plan that touches an
object in quarantine. -/
structure ObeysKernel : Prop where
  halts : runtime.base.inEmergency = true →
    (runtime.base.processBatch sha256 encode batch).2.store = runtime.base.store ∧
      (runtime.processSolverBatch sha256 encode solverBatch).2.base.store = runtime.base.store
  intents : runtime.base.inEmergency = false → ∀ result after,
    runtime.base.processBatch sha256 encode batch = (.ok result, after) →
    (result, after.store) = executeGroups sha256 encode
        (ParallelScheduler.schedule (batch.transactions.filterMap runtime.base.planFor)) runtime.base.store
        batch.epoch ∧
      ∀ plan ∈ batch.transactions.filterMap runtime.base.planFor, runtime.base.Clear sha256 plan
  solvers : runtime.base.inEmergency = false → ∀ settlement after,
    runtime.processSolverBatch sha256 encode solverBatch = (.ok settlement, after) →
    ∀ selected ∈ settlement.selectedPlans,
      runtime.base.Clear sha256 (candidatePlanToExecutionPlan selected.winningPlan)

/-- What the market would settle is refused by the settlement engine in emergency mode, and clear of
quarantined objects otherwise. -/
structure Avoids : Prop where
  emergency : runtime.base.inEmergency = true → ∀ plans,
    runtime.choices sha256 solverBatch solverBatch.intents = .ok plans →
    runtime.base.store.syncTypedToCanonical = runtime.base.store ∧
      ∀ plan ∈ plans, Refused (candidatePlanToExecutionPlan plan) runtime.base.store
  quarantine : runtime.base.inEmergency = false → ∀ plans,
    runtime.choices sha256 solverBatch solverBatch.intents = .ok plans →
    ∀ plan ∈ plans, runtime.base.Clear sha256 (candidatePlanToExecutionPlan plan)

variable {encode runtime batch solverBatch}

theorem planStep_refused {plan : ExecutionPlan} {store : ObjectStore} (epoch : U64)
    (refused : Refused plan store) : planStep sha256 epoch store plan = store := by
  rw [planStep_eq]
  rcases applyPlan_cases sha256 plan store with ⟨-, -, kept⟩ | ⟨passed, -⟩
  · exact kept
  · exact absurd refused passed

theorem foldl_planStep_refused {plans : List ExecutionPlan} {store : ObjectStore} (epoch : U64)
    (refused : ∀ plan ∈ plans, Refused plan store) :
    plans.foldl (planStep sha256 epoch) store = store := by
  induction plans with
  | nil => rfl
  | cons plan plans ih =>
      rw [List.foldl_cons, planStep_refused sha256 epoch (refused plan List.mem_cons_self)]
      exact ih fun later member => refused later (List.mem_cons_of_mem _ member)

variable {sha256}

theorem processSolverBatch_refused (avoids : Avoids sha256 runtime solverBatch)
    (emergency : runtime.base.inEmergency = true) :
    (runtime.processSolverBatch sha256 encode solverBatch).2.base.store = runtime.base.store := by
  cases ran : runtime.processSolverBatch sha256 encode solverBatch with
  | mk outcome after =>
      cases outcome with
      | error halt => exact (processSolverBatch_error ran).2
      | ok settlement =>
          obtain ⟨chosen, settled⟩ := processSolverBatch_ok ran
          obtain ⟨synced, refused⟩ := avoids.emergency emergency _ chosen
          have store := congrArg Prod.snd settled
          rw [executeGroups_store, foldl_planStep_refused sha256 _ ?_, synced] at store
          · exact store
          · intro plan member
            have listed := ParallelScheduler.mem_of_mem_executionOrder member
            obtain ⟨selected, winner, rfl⟩ := List.mem_map.1 listed
            exact refused _ (List.mem_map_of_mem winner)

theorem obeysKernel_of_avoids (avoids : Avoids sha256 runtime solverBatch) :
    ObeysKernel sha256 encode runtime batch solverBatch where
  halts emergency := by
    refine ⟨?_, processSolverBatch_refused avoids emergency⟩
    rw [PoSeqRuntime.processBatch, if_pos emergency]
  intents _ result after ran := by
    refine ⟨(PoSeqRuntime.processBatch_ok ran).2, ?_⟩
    intro plan member
    obtain ⟨tx, -, brought⟩ := List.mem_filterMap.1 member
    exact PoSeqRuntime.clear_planFor sha256 brought
  solvers calm settlement after ran selected member := by
    obtain ⟨chosen, -⟩ := processSolverBatch_ok ran
    exact avoids.quarantine calm _ chosen _ (List.mem_map_of_mem member)

theorem avoids_of_obeysKernel (calm : runtime.base.inEmergency = false)
    (obeys : ObeysKernel sha256 encode runtime batch solverBatch) :
    Avoids sha256 runtime solverBatch where
  emergency emergency := by
    rw [calm] at emergency
    cases emergency
  quarantine _ plans chosen := by
    intro plan member
    cases ran : runtime.processSolverBatch sha256 encode solverBatch with
    | mk outcome after =>
        cases outcome with
        | error halt =>
            rw [(processSolverBatch_error ran).1] at chosen
            cases chosen
        | ok settlement =>
            rw [(processSolverBatch_ok ran).1] at chosen
            obtain rfl := Except.ok.inj chosen
            obtain ⟨selected, winner, rfl⟩ := List.mem_map.1 member
            exact obeys.solvers calm settlement after ran selected winner

variable (sha256 encode runtime batch solverBatch)

/-- The kernel is obeyed where the plans that the market would settle respect it by themselves, and
outside emergency mode only there. -/
theorem kernel_obeyed :
    (Avoids sha256 runtime solverBatch → ObeysKernel sha256 encode runtime batch solverBatch) ∧
    (runtime.base.inEmergency = false →
      (ObeysKernel sha256 encode runtime batch solverBatch ↔ Avoids sha256 runtime solverBatch)) :=
  ⟨obeysKernel_of_avoids, fun calm => ⟨avoids_of_obeysKernel calm, obeysKernel_of_avoids⟩⟩

section Examples

def payingIntent : IntentTransaction :=
  { txId := 1, sender := 7
    intent := .transfer { assetId := 3, amount := 10, recipient := 8, memo := none }
    maxFee := 100, deadlineEpoch := 10, nonce := 0, signature := 0
    metadata := ∅, targetObjects := [], constraints := {}, executionMode := .bestEffort
    sponsor := none, sponsorSignature := none, sponsorshipLimits := {}, feePolicy := .senderPays
    feeEnvelope := none }

def guardedMarket (emergencyMode : Bool) (quarantined : ObjectId) : SolverMarketRuntime :=
  { base := { PoSeqRuntime.new with
      store := (ObjectStore.new.insert (.balance (.new 11 7 3 100 0))).insert
        (.balance (.new 12 8 3 0 0))
      safety := some { quarantinedObjects := .ofList [quarantined] compare, emergencyMode } }
    registry := .new, selectionPolicy := .bestScore, policy := permissivePolicy }

def payingBatch : SolverMarketBatch :=
  { batchId := 4, epoch := 1, sequenceNumber := 0, intents := [payingIntent], candidatePlans := ∅ }

def noIntents : OrderedBatch := { batchId := 5, epoch := 1, sequenceNumber := 0, transactions := [] }

theorem payment_avoids_quarantine :
    ObeysKernel (fun _ => 0) (fun _ => []) (guardedMarket false 99) noIntents payingBatch := by
  apply (kernel_obeyed (fun _ => 0) (fun _ => []) (guardedMarket false 99) noIntents payingBatch).1
  have clear : (match (guardedMarket false 99).choices (fun _ => 0) payingBatch payingBatch.intents with
      | .ok plans => plans.all fun plan =>
          ((candidatePlanToExecutionPlan plan).touchedIds fun _ => 0).all fun id =>
            !(guardedMarket false 99).base.isQuarantined id
      | .error _ => false) = true := by decide +kernel
  constructor
  · intro emergency
    cases emergency
  · intro _ plans chosen plan member id touched
    rw [chosen] at clear
    have outside := List.all_eq_true.1 (List.all_eq_true.1 clear plan member) id touched
    simpa using outside

theorem emergency_ignored :
    ¬ ∀ (sha256 : Sha256) (encode : BoxedObject → Bytes) (runtime : SolverMarketRuntime)
      (batch : OrderedBatch) (solverBatch : SolverMarketBatch),
      ObeysKernel sha256 encode runtime batch solverBatch := by
  intro obeys
  have kept := ((obeys (fun _ => 0) (fun _ => []) (guardedMarket true 99) noIntents payingBatch).halts
    rfl).2
  have paid : (((guardedMarket true 99).processSolverBatch (fun _ => 0) (fun _ => [])
      payingBatch).2.base.store.getBalanceById 11).map BalanceObject.amount = some 90 := by decide +kernel
  rw [kept] at paid
  revert paid
  decide +kernel

end Examples

end SolverMarketRuntime

end Omniphi.Runtime
