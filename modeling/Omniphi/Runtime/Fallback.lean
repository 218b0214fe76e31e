import Omniphi.Runtime.Duplicates
import Omniphi.Runtime.Selection

/-! A solver batch to which no solver has submitted a plan. Every intent falls back to the internal
resolver, whose plan goes through the format of candidate plans and back; what comes back differs in the
gas estimate alone, and settlement never reads that. -/

namespace Omniphi.Runtime

section Conversion

def ObjectOperation.IsResolved : ObjectOperation → Prop
  | debitBalance .. | creditBalance .. | swapPoolAmounts .. | lockBalance .. | updateVersion .. => True
  | _ => False

theorem planActionToOperation_operationToPlanAction {op : ObjectOperation} (resolved : op.IsResolved) :
    planActionToOperation (operationToPlanAction op) = op := by
  cases op with
  | debitBalance balanceId amount => rfl
  | creditBalance balanceId amount => rfl
  | lockBalance balanceId amount => rfl
  | swapPoolAmounts poolId deltaA deltaB =>
      have read : (metadataOf [("delta_b", toString deltaB.toInt)])["delta_b"]? =
          some (toString deltaB.toInt) := by
        simp [metadataOf]
      simp only [operationToPlanAction, planActionToOperation, read, Option.bind_some, parseI128_toString,
        Option.getD_some]
  | updateVersion objectId =>
      simp [operationToPlanAction, planActionToOperation]
  | _ => exact resolved.elim

def ExecutionPlan.reestimated (plan : ExecutionPlan) : ExecutionPlan :=
  { plan with gasEstimate := BitVec.ofNat 64 plan.operations.length * 300 + GasCosts.defaultCosts.baseTx }

structure ResolvedFor (tx : IntentTransaction) (plan : ExecutionPlan) : Prop where
  txId : plan.txId = tx.txId
  operations : ∀ op ∈ plan.operations, op.IsResolved
  writes : ∀ access ∈ plan.objectAccess, access.mode = .readWrite
  gasLimit : plan.gasLimit = MachineInt.saturatingMul tx.maxFee 1000

theorem IntentResolver.resolvedFor {tx : IntentTransaction} {store : ObjectStore} {caps : CapabilitySet}
    {plan : ExecutionPlan} (resolved : resolve tx store caps = .ok plan) : ResolvedFor tx plan := by
  unfold resolve at resolved
  split at resolved
  · obtain ⟨own, other, -, -, -, rfl⟩ := resolveTransfer_ok resolved
    exact ⟨rfl, by simp [planOf, ObjectOperation.IsResolved], by simp [planOf, ObjectAccess.write], rfl⟩
  · obtain ⟨pool, own, other, output, -, -, -, -, ⟨-, -, rfl⟩ | ⟨-, -, rfl⟩⟩ := resolveSwap_ok resolved
    · exact ⟨rfl, by simp [planOf, ObjectOperation.IsResolved], by simp [planOf, ObjectAccess.write], rfl⟩
    · exact ⟨rfl, by simp [planOf, ObjectOperation.IsResolved], by simp [planOf, ObjectAccess.write], rfl⟩
  · obtain ⟨own, -, -, rfl⟩ := resolveYieldAllocate_ok resolved
    exact ⟨rfl, by simp [planOf, ObjectOperation.IsResolved], by simp [planOf, ObjectAccess.write], rfl⟩
  · obtain ⟨-, own, other, -, -, -, rfl⟩ := resolveTreasuryRebalance_ok resolved
    exact ⟨rfl, by simp [planOf, ObjectOperation.IsResolved], by simp [planOf, ObjectAccess.write], rfl⟩
  · obtain ⟨own, -, -, rfl⟩ := resolveRouteLiquidity_ok resolved
    exact ⟨rfl, by simp [planOf, ObjectOperation.IsResolved], by simp [planOf, ObjectAccess.write], rfl⟩
  · cases resolved

open SolverMarketRuntime (modeIds syntheticPlan)

theorem modeIds_writes {accesses : List ObjectAccess}
    (writes : ∀ access ∈ accesses, access.mode = .readWrite) :
    (modeIds accesses .readOnly).map ObjectAccess.read ++ (modeIds accesses .readWrite).map .write =
      accesses := by
  have noReads : modeIds accesses .readOnly = [] := by
    rw [modeIds, List.map_eq_nil_iff, List.filter_eq_nil_iff]
    intro access member
    simp [writes access member]
  have allWrites : (accesses.filter fun access => access.mode = .readWrite) = accesses := by
    rw [List.filter_eq_self]
    intro access member
    simp [writes access member]
  rw [noReads, modeIds, allWrites, List.map_nil, List.nil_append, List.map_map]
  refine (List.map_congr_left ?_).trans (List.map_id accesses)
  intro access member
  show ObjectAccess.write access.objectId = access
  rw [ObjectAccess.write, ← writes access member]

theorem ResolvedFor.roundTrip {tx : IntentTransaction} {plan : ExecutionPlan}
    (resolved : ResolvedFor tx plan) (sha256 : Sha256) :
    candidatePlanToExecutionPlan (syntheticPlan sha256 tx plan) = plan.reestimated := by
  have operations : (plan.operations.map operationToPlanAction).map planActionToOperation =
      plan.operations := by
    rw [List.map_map]
    refine (List.map_congr_left ?_).trans (List.map_id plan.operations)
    intro op member
    exact planActionToOperation_operationToPlanAction (resolved.operations op member)
  simp only [candidatePlanToExecutionPlan, syntheticPlan, operations, modeIds_writes resolved.writes,
    ← resolved.gasLimit, ← resolved.txId]
  rfl

end Conversion

section Schedule

open ParallelScheduler SettlementEngine

structure SameFootprint (change : ExecutionPlan → ExecutionPlan) : Prop where
  txId : ∀ plan, (change plan).txId = plan.txId
  objectAccess : ∀ plan, (change plan).objectAccess = plan.objectAccess

variable {change : ExecutionPlan → ExecutionPlan} (same : SameFootprint change)

include same

omit same in
theorem map_foldl_push (plan : ExecutionPlan) (accesses : List ObjectAccess)
    (index : BTreeMap ObjectId (List (ExecutionPlan × AccessMode))) :
    (accesses.foldl (fun index access => BTree.push index access.objectId (plan, access.mode)) index).map
        (fun _ => List.map (Prod.map change id)) =
      accesses.foldl (fun index access => BTree.push index access.objectId (change plan, access.mode))
        (index.map fun _ => List.map (Prod.map change id)) := by
  induction accesses generalizing index with
  | nil => rfl
  | cons access accesses ih =>
      rw [List.foldl_cons, List.foldl_cons, ih, BTree.map_push]
      rfl

omit same in
theorem objectPlans_append (plans : List ExecutionPlan) (plan : ExecutionPlan) :
    objectPlans (plans ++ [plan]) = plan.objectAccess.foldl (fun index access =>
      BTree.push index access.objectId (plan, access.mode)) (objectPlans plans) := by
  rw [objectPlans, List.foldl_append]
  rfl

theorem SameFootprint.objectPlans (plans : List ExecutionPlan) :
    objectPlans (plans.map change) = (ParallelScheduler.objectPlans plans).map fun _ =>
      List.map (Prod.map change id) := by
  induction plans using List.reverseRecOn with
  | nil => simp [ParallelScheduler.objectPlans]
  | append_singleton plans plan ih =>
      rw [List.map_append, List.map_singleton, objectPlans_append, ih, same.objectAccess,
        objectPlans_append, map_foldl_push]

theorem SameFootprint.addPairs (refs : List (ExecutionPlan × AccessMode)) (graph : ConflictGraph) :
    ParallelScheduler.addPairs graph (refs.map (Prod.map change id)) =
      ParallelScheduler.addPairs graph refs := by
  induction refs generalizing graph with
  | nil => rfl
  | cons head refs ih =>
      obtain ⟨plan, mode⟩ := head
      show ParallelScheduler.addPairs _ (refs.map (Prod.map change id)) = ParallelScheduler.addPairs _ refs
      rw [ih, List.foldl_map]
      simp only [same.txId, Prod.map_fst, Prod.map_snd, id_eq]

theorem SameFootprint.assignAll (plans : List ExecutionPlan) :
    ParallelScheduler.assignAll (plans.map change) = ParallelScheduler.assignAll plans := by
  have graph : conflictGraph (plans.map change) = conflictGraph plans := by
    rw [conflictGraph, same.objectPlans, Std.ExtTreeMap.toList_map, List.foldl_map]
    simp only [same.addPairs]
    rfl
  rw [ParallelScheduler.assignAll, graph, List.foldl_map]
  simp only [assign, same.txId]
  rfl

theorem SameFootprint.executionOrder (plans : List ExecutionPlan) :
    executionOrder (schedule (plans.map change)) =
      (SettlementEngine.executionOrder (schedule plans)).map change := by
  rw [executionOrder_schedule, executionOrder_schedule, groupCount, groupCount, same.assignAll,
    List.map_flatMap]
  congr 1
  funext k
  rw [List.filter_map]
  congr 1
  apply List.filter_congr
  intro plan _
  simp only [Function.comp_apply, groupOf, same.assignAll, same.txId]
  rfl

end Schedule

section Equivalence

open SettlementEngine

theorem sameFootprint_reestimated : SameFootprint ExecutionPlan.reestimated where
  txId := fun plan => by rw [ExecutionPlan.reestimated]
  objectAccess := fun plan => by rw [ExecutionPlan.reestimated]

section Estimate

variable (sha256 : Sha256) (epoch : U64) (store : ObjectStore) (plan : ExecutionPlan) (gasEstimate : U64)

theorem preflight_estimate : preflight { plan with gasEstimate } store = preflight plan store := by
  unfold preflight
  dsimp only

theorem applyPlan_estimate :
    applyPlan sha256 { plan with gasEstimate } store = applyPlan sha256 plan store := by
  unfold applyPlan SettlementEngine.failure
  rw [preflight_estimate]

theorem planStep_estimate :
    planStep sha256 epoch store { plan with gasEstimate } = planStep sha256 epoch store plan := by
  unfold planStep applyPlanWithEffects
  rw [applyPlan_estimate]

end Estimate

theorem executeGroups_reestimated (sha256 : Sha256) (encode : BoxedObject → Bytes)
    (plans : List ExecutionPlan) (store : ObjectStore) (epoch : U64) :
    (executeGroups sha256 encode (ParallelScheduler.schedule (plans.map .reestimated)) store epoch).2 =
      (executeGroups sha256 encode (ParallelScheduler.schedule plans) store epoch).2 := by
  rw [executeGroups_store, executeGroups_store, sameFootprint_reestimated.executionOrder, List.foldl_map]
  simp only [ExecutionPlan.reestimated, planStep_estimate]

namespace SolverMarketRuntime

variable (sha256 : Sha256) {runtime : SolverMarketRuntime} {batch : SolverMarketBatch}

theorem choice_invalid {intent : IntentTransaction} {e : RuntimeError}
    (invalid : intent.validate = .error e) : runtime.choice sha256 batch intent = .ok none := by
  simp only [choice, invalid, if_true]

theorem choice_unsubmitted {intent : IntentTransaction} (valid : intent.validate = .ok ())
    (unsubmitted : batch.candidatePlans[intent.txId]?.getD [] = []) :
    runtime.choice sha256 batch intent =
      match IntentResolver.resolve intent runtime.base.store (runtime.base.capsOf intent.sender) with
      | .ok execPlan => .ok (some (syntheticPlan sha256 intent execPlan))
      | .error (.error _) => .ok none
      | .error .panic => .error .panic := by
  have none_accepted : runtime.accepted sha256 batch intent = [] := by
    rw [accepted, candidates, unsubmitted]
    rfl
  unfold choice
  rw [valid, none_accepted, rank_nil.2 rfl]
  refine (if_neg Bool.false_ne_true).trans ?_
  cases IntentResolver.resolve intent runtime.base.store (runtime.base.capsOf intent.sender) with
  | ok execPlan => rfl
  | error halt =>
      cases halt with
      | error e => rfl
      | panic => rfl

theorem map_bind_cons {α β : Type} (later : Resolution (List α)) (a : α) (f : α → β) :
    (later >>= fun rest => pure (a :: rest)).map (List.map f) =
      (later.map (List.map f)).map (List.cons (f a)) := by
  cases later with
  | error halt => rfl
  | ok rest => rfl

theorem choices_unsubmitted {intents : List IntentTransaction}
    (unsubmitted : ∀ intent ∈ intents, batch.candidatePlans[intent.txId]?.getD [] = []) :
    (runtime.choices sha256 batch intents).map (List.map candidatePlanToExecutionPlan) =
      (runtime.base.resolveAll (intents.filter fun tx => tx.validate matches .ok ())).map
        (List.map ExecutionPlan.reestimated) := by
  induction intents with
  | nil => rfl
  | cons intent intents ih =>
      have ih := ih fun later member => unsubmitted later (List.mem_cons_of_mem _ member)
      have unsubmitted := unsubmitted intent List.mem_cons_self
      unfold choices
      cases valid : intent.validate with
      | error e =>
          rw [choice_invalid sha256 valid, List.filter_cons_of_neg (by simp [valid]), ← ih]
          cases runtime.choices sha256 batch intents with
          | error halt => rfl
          | ok plans => rfl
      | ok =>
          rw [choice_unsubmitted sha256 valid unsubmitted, List.filter_cons_of_pos (by simp [valid]),
            PoSeqRuntime.resolveAll]
          cases resolved : IntentResolver.resolve intent runtime.base.store
              (runtime.base.capsOf intent.sender) with
          | error halt =>
              cases halt with
              | panic => rfl
              | error e =>
                  dsimp only
                  rw [← ih]
                  cases runtime.choices sha256 batch intents with
                  | error halt => rfl
                  | ok plans => rfl
          | ok plan =>
              refine (map_bind_cons _ _ _).trans ?_
              rw [ih, (IntentResolver.resolvedFor resolved).roundTrip]
              exact (map_bind_cons _ _ _).symm

theorem resolveAll_atEpoch (base : PoSeqRuntime) (epoch : U64) (txns : List IntentTransaction) :
    { base with currentEpoch := epoch }.resolveAll txns = base.resolveAll txns := by
  induction txns with
  | nil => rfl
  | cons tx txns ih =>
      unfold PoSeqRuntime.resolveAll
      rw [ih]
      rfl

theorem processBatch_store {base : PoSeqRuntime} (unguarded : base.safety = none)
    (encode : BoxedObject → Bytes) (batch : OrderedBatch) :
    (base.processBatch sha256 encode batch).2.store =
      match base.resolveAll (batch.transactions.filter fun tx => tx.validate matches .ok ()) with
      | .error _ => base.store
      | .ok plans =>
          (executeGroups sha256 encode (ParallelScheduler.schedule plans) base.store batch.epoch).2 := by
  have calm : base.inEmergency = false := by
    rw [PoSeqRuntime.inEmergency, unguarded]
  simp only [PoSeqRuntime.processBatch, calm, Bool.false_eq_true, if_false, resolveAll_atEpoch]
  cases base.resolveAll (batch.transactions.filter fun tx => tx.validate matches .ok ()) with
  | error halt => rfl
  | ok plans =>
      simp only [PoSeqRuntime.admissible, unguarded]

/-- A batch without candidates leaves the store that the ordered batch of the same intents leaves. -/
theorem processSolverBatch_store_eq (encode : BoxedObject → Bytes)
    (unguarded : runtime.base.safety = none)
    (unsubmitted : ∀ intent ∈ batch.intents, batch.candidatePlans[intent.txId]?.getD [] = []) :
    (runtime.processSolverBatch sha256 encode batch).2.base.store =
      (runtime.base.processBatch sha256 encode
        { batchId := batch.batchId, epoch := batch.epoch, sequenceNumber := batch.sequenceNumber
          transactions := batch.intents }).2.store := by
  have chosen := @choices_unsubmitted sha256 runtime batch batch.intents unsubmitted
  rw [processBatch_store sha256 unguarded]
  dsimp only
  cases ran : runtime.processSolverBatch sha256 encode batch with
  | mk outcome after =>
      cases outcome with
      | error halt =>
          obtain ⟨halted, store⟩ := processSolverBatch_error ran
          rw [halted] at chosen
          cases resolved : runtime.base.resolveAll
              (batch.intents.filter fun tx => tx.validate matches .ok ()) with
          | error halt' => exact store
          | ok plans =>
              rw [resolved] at chosen
              cases chosen
      | ok settlement =>
          obtain ⟨settled, result⟩ := processSolverBatch_ok ran
          rw [settled] at chosen
          cases resolved : runtime.base.resolveAll
              (batch.intents.filter fun tx => tx.validate matches .ok ()) with
          | error halt =>
              rw [resolved] at chosen
              cases chosen
          | ok plans =>
              rw [resolved] at chosen
              have same := Except.ok.inj chosen
              rw [List.map_map] at same
              have store := congrArg Prod.snd result
              dsimp only at store ⊢
              rw [store, ← executeGroups_reestimated sha256 encode plans, ← same]
              rfl

section Examples

def unsolvedSwap : IntentTransaction :=
  { txId := 1, sender := 7
    intent := .swap { inputAsset := 3, outputAsset := 4, inputAmount := 100, minOutputAmount := 80
                      maxSlippageBps := 500, allowedPoolIds := none }
    maxFee := 100, deadlineEpoch := 10, nonce := 0, signature := 0
    metadata := ∅, targetObjects := [], constraints := {}, executionMode := .bestEffort
    sponsor := none, sponsorSignature := none, sponsorshipLimits := {}, feePolicy := .senderPays
    feeEnvelope := none }

def idleMarket : SolverMarketRuntime :=
  { base := { PoSeqRuntime.new with
      store := ((ObjectStore.new.insert (.balance (.new 1 7 3 100 0))).insert
        (.balance (.new 2 7 4 0 0))).insert (.pool
          { info := .new 5 .liquidityPool 9 0, assetA := 3, assetB := 4, reserveA := 1000
            reserveB := 1000, feeBps := 30, lpTokenId := 6, totalLpSupply := 1000 }) }
    registry := .new, selectionPolicy := .bestScore, policy := permissivePolicy }

def unsolvedBatch : SolverMarketBatch :=
  { batchId := 4, epoch := 1, sequenceNumber := 0, intents := [unsolvedSwap], candidatePlans := ∅ }

theorem unsolvedBatch_swaps :
    (idleMarket.base.store.findBalance 7 4).map (·.amount) = some 0 ∧
    ((idleMarket.processSolverBatch (fun _ => 0) (fun _ => []) unsolvedBatch).2.base.store.findBalance
      7 4).map (·.amount) = some 90 ∧
    (idleMarket.processSolverBatch (fun _ => 0) (fun _ => []) unsolvedBatch).2.base.store =
      (idleMarket.base.processBatch (fun _ => 0) (fun _ => [])
        { batchId := 4, epoch := 1, sequenceNumber := 0, transactions := [unsolvedSwap] }).2.store := by
  refine ⟨by decide +kernel, by decide +kernel, ?_⟩
  apply @processSolverBatch_store_eq (fun _ => 0) idleMarket unsolvedBatch (fun _ => []) rfl
  intro intent _
  show (∅ : BTreeMap Bytes32 (List CandidatePlan))[intent.txId]?.getD [] = []
  simp

end Examples

end SolverMarketRuntime

end Equivalence

end Omniphi.Runtime
