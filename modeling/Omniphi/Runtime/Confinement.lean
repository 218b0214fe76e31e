import Omniphi.Runtime.Cells
import Omniphi.Runtime.PlanHash
import Omniphi.Runtime.Selection
import Omniphi.Runtime.ScheduleOrder

/-! How far a candidate plan reaches when it is settled: it changes the targets of its actions, whether
declared or not, and whatever a flush of the overlays was still due for. -/

namespace Omniphi.Runtime

open SettlementEngine

variable (sha256 : Sha256)

section Versions

def Cell.versions (cell : Cell) :
    Option ObjectVersion × Option ObjectVersion × Option ObjectVersion × Option ObjectVersion :=
  (cell.object.map fun object => object.info.version, cell.balance.map fun b => b.info.version,
    cell.pool.map fun p => p.info.version, cell.vault.map fun v => v.info.version)

def Cell.Present (cell : Cell) : Prop :=
  cell.object.isSome ∨ cell.balance.isSome ∨ cell.pool.isSome

theorem Cell.bump_sync_ne {cell before : Cell} (same : cell.versions = before.versions)
    (present : before.Present) : cell.bump.sync ≠ before := by
  intro back
  rw [← back] at same present
  rcases cell with ⟨object, b, p, v⟩
  simp only [versions, bump, sync, overlay, Prod.mk.injEq] at same
  obtain ⟨objects, balances, pools, vaults⟩ := same
  cases b with
  | some b => simp at balances
  | none =>
      cases p with
      | some p => simp at pools
      | none =>
          cases v with
          | some v => simp at vaults
          | none =>
              cases object with
              | some object => simp at objects
              | none => simp [Present, bump, sync] at present

end Versions

namespace PlanAction

theorem target_operation (action : PlanAction) :
    (planActionToOperation action).target sha256 = action.targetObject := by
  rw [planActionToOperation_eq]
  cases action.reading <;> rfl

theorem touched_operation (action : PlanAction) :
    (planActionToOperation action).touched sha256 = [action.targetObject] := by
  rw [← target_operation sha256 action, planActionToOperation_eq]
  cases action.reading <;> rfl

theorem touched_operations (actions : List PlanAction) :
    (actions.map planActionToOperation).flatMap (ObjectOperation.touched sha256) =
      actions.map PlanAction.targetObject := by
  induction actions with
  | nil => rfl
  | cons action actions ih =>
      rw [List.map_cons, List.flatMap_cons, ih, touched_operation, List.map_cons]
      rfl

theorem versions_applyCell {action : PlanAction} {cell next : Cell}
    (applied : applyCell sha256 cell (planActionToOperation action) = .ok next) :
    next.versions = cell.versions := by
  rw [planActionToOperation_eq] at applied
  cases kind : action.reading <;> rw [kind] at applied
  case debit | unlock =>
    obtain ⟨balance, -, applied⟩ := bind_ok.1 applied
    split at applied <;> cases applied
    simp [Cell.versions, Cell.modifyBalance, Function.comp_def]
  case credit | lock =>
    obtain ⟨balance, -, applied⟩ := bind_ok.1 applied
    cases applied
    simp [Cell.versions, Cell.modifyBalance, Function.comp_def]
  case swap =>
    obtain ⟨pool, -, applied⟩ := bind_ok.1 applied
    cases applied
    simp [Cell.versions, Cell.modifyPool, Function.comp_def]
  case ownership =>
    obtain ⟨object, -, applied⟩ := bind_ok.1 applied
    cases applied
    simp [Cell.versions, Cell.setOwner, Function.comp_def]
  case contract =>
    obtain ⟨object, found, applied⟩ := bind_ok.1 applied
    split at applied <;> cases applied
    rename_i contract decoded
    obtain rfl := asContract_eq_some.1 decoded
    simp [Cell.versions, orNotFound_ok.1 found, BoxedObject.info, ContractObject.setState]
  case version =>
    cases applied
    rfl

theorem present_of_valid {action : PlanAction} {store : ObjectStore}
    (valid : validateOp store (planActionToOperation action) = .ok ()) :
    (store.cell action.targetObject).Present := by
  have object {found : BoxedObject} (held : store.get action.targetObject = some found) :
      (store.cell action.targetObject).Present := .inl (Option.isSome_of_eq_some held)
  have balance {found : BalanceObject} (held : store.getBalanceById action.targetObject = some found) :
      (store.cell action.targetObject).Present := .inr (.inl (Option.isSome_of_eq_some held))
  rw [planActionToOperation_eq] at valid
  cases kind : action.reading <;> rw [kind] at valid
  case swap =>
    obtain ⟨found, held, -⟩ := bind_ok.1 valid
    exact .inr (.inr (Option.isSome_of_eq_some (orNotFound_ok.1 held)))
  case ownership | contract | version =>
    obtain ⟨found, held, -⟩ := bind_ok.1 valid
    exact object (orNotFound_ok.1 held)
  all_goals
    obtain ⟨found, held, -⟩ := bind_ok.1 valid
    exact balance (orNotFound_ok.1 held)

end PlanAction

namespace CandidatePlan

variable (candidate : CandidatePlan) (intent : IntentTransaction) (store : ObjectStore)

def settled : ExecutionReceipt × ObjectStore :=
  applyPlan sha256 (candidatePlanToExecutionPlan candidate) store

theorem settled_untouched {id : ObjectId}
    (untouched : id ∉ candidate.actions.map PlanAction.targetObject) :
    (candidate.settled sha256 store).2.cell id =
      if (candidate.settled sha256 store).1.success then (store.cell id).sync else store.cell id := by
  have outside : id ∉ (candidatePlanToExecutionPlan candidate).operations.flatMap
      (ObjectOperation.touched sha256) := by
    rw [candidatePlanToExecutionPlan, PlanAction.touched_operations]
    exact untouched
  unfold settled
  exact applyPlan_untouched sha256 (candidatePlanToExecutionPlan candidate) store outside

theorem settled_target {action : PlanAction} (member : action ∈ candidate.actions)
    (success : (candidate.settled sha256 store).1.success = true) :
    (candidate.settled sha256 store).2.cell action.targetObject ≠ store.cell action.targetObject := by
  unfold settled at success ⊢
  have listed : planActionToOperation action ∈ (candidatePlanToExecutionPlan candidate).operations :=
    List.mem_map_of_mem member
  rcases applyPlan_cases sha256 (candidatePlanToExecutionPlan candidate) store with ⟨-, failed, -⟩ |
    ⟨accepted, ⟨after, e, -, failed, -⟩ | ⟨after, affected, ran, -, left⟩⟩
  · rw [failed] at success
    cases success
  · rw [failed] at success
    cases success
  · have valid := ((not_refused_iff _ store).1 accepted).2.2 _ listed
    have present : (store.cell action.targetObject).Present := PlanAction.present_of_valid valid
    have kept : ∀ id, ((applyOps sha256 store [] (candidate.actions.map planActionToOperation)).1.cell
        id).versions = (store.cell id).versions := by
      refine applyOps_forall (P := fun id cell => cell.versions = (store.cell id).versions) ?_
        (fun _ => rfl) []
      intro op member cell next same applied
      obtain ⟨action, -, rfl⟩ := List.mem_map.1 member
      rw [PlanAction.versions_applyCell sha256 applied, same]
    have ran : applyOps sha256 store [] (candidate.actions.map planActionToOperation) =
        (after, .ok affected) := ran
    have ids := applyOps_affected sha256 ran
    rw [List.nil_append, PlanAction.touched_operations] at ids
    have once : (mutatedIds affected).count action.targetObject = 1 := by
      apply List.count_eq_one_of_mem (nodup_mutatedIds affected)
      rw [mem_mutatedIds, ids]
      exact List.mem_map_of_mem member
    rw [ran] at kept
    rw [left, ObjectStore.cell_sync, foldl_bumpVersion_cell, once]
    exact Cell.bump_sync_ne (kept _) present

/-- What changes is declared as written, and what is debited or locked is the sender's. -/
structure StaysInside : Prop where
  writes : ∀ id, (candidate.settled sha256 store).2.cell id ≠ store.cell id → id ∈ candidate.objectWrites
  owners : ∀ op ∈ (candidatePlanToExecutionPlan candidate).operations, ∀ id amount,
    op = .debitBalance id amount ∨ op = .lockBalance id amount →
    ∀ balance, store.getBalanceById id = some balance → balance.owner = intent.sender

/-- The targets are declared and those debited or locked are the sender's, and no flush of another
object is due. -/
structure DeclaresReach : Prop where
  targets : ∀ action ∈ candidate.actions, action.targetObject ∈ candidate.objectWrites
  owned : ∀ action ∈ candidate.actions,
    action.actionType = .debitBalance ∨ action.actionType = .lockBalance →
    ∀ balance, store.getBalanceById action.targetObject = some balance → balance.owner = intent.sender
  flushed : ∀ id, (store.cell id).sync ≠ store.cell id → id ∈ candidate.objectWrites

variable {candidate intent store}

theorem spends_iff {action : PlanAction} {target : ObjectId} :
    (∃ amount, planActionToOperation action = .debitBalance target amount ∨
      planActionToOperation action = .lockBalance target amount) ↔
      (action.actionType = .debitBalance ∨ action.actionType = .lockBalance) ∧
        action.targetObject = target := by
  unfold planActionToOperation
  cases action.actionType with
  | custom method =>
      cases action.metadata["schema_id"]? <;> cases action.metadata["proposed_state"]? <;>
        cases action.metadata["new_owner"]? <;> simp
  | _ => simp

theorem owners_iff :
    (∀ op ∈ (candidatePlanToExecutionPlan candidate).operations, ∀ id amount,
      op = .debitBalance id amount ∨ op = .lockBalance id amount →
      ∀ balance, store.getBalanceById id = some balance → balance.owner = intent.sender) ↔
    ∀ action ∈ candidate.actions,
      action.actionType = .debitBalance ∨ action.actionType = .lockBalance →
      ∀ balance, store.getBalanceById action.targetObject = some balance →
        balance.owner = intent.sender := by
  constructor
  · intro owners action member spends
    obtain ⟨amount, op⟩ := spends_iff.2 ⟨spends, rfl⟩
    exact owners _ (List.mem_map_of_mem member) _ amount op
  · intro owned op member id amount op_eq
    obtain ⟨action, listed, rfl⟩ := List.mem_map.1 member
    obtain ⟨spends, rfl⟩ := spends_iff.1 ⟨amount, op_eq⟩
    exact owned action listed spends

theorem staysInside_of_declaresReach (reach : DeclaresReach candidate intent store) :
    StaysInside sha256 candidate intent store where
  writes id changed := by
    by_cases touched : id ∈ candidate.actions.map PlanAction.targetObject
    · obtain ⟨action, member, rfl⟩ := List.mem_map.1 touched
      exact reach.targets action member
    · rw [settled_untouched sha256 candidate store touched] at changed
      split at changed
      · exact reach.flushed id changed
      · exact absurd rfl changed
  owners := owners_iff.2 reach.owned

theorem declaresReach_of_staysInside (success : (candidate.settled sha256 store).1.success = true)
    (inside : StaysInside sha256 candidate intent store) : DeclaresReach candidate intent store where
  targets action member := inside.writes _ (settled_target sha256 candidate store member success)
  owned := owners_iff.1 inside.owners
  flushed id due := by
    apply inside.writes
    by_cases touched : id ∈ candidate.actions.map PlanAction.targetObject
    · obtain ⟨action, member, rfl⟩ := List.mem_map.1 touched
      exact settled_target sha256 candidate store member success
    · rw [settled_untouched sha256 candidate store touched, if_pos success]
      exact due

end CandidatePlan

/-- A candidate that the validator accepts and a solver batch settles stays inside what it declared and
what its sender owns exactly when its actions do so by themselves. -/
theorem accepted_candidate_confined (encode : BoxedObject → Bytes) (runtime after : SolverMarketRuntime)
    (batch : SolverMarketBatch) (settlement : FinalSettlement) (intent : IntentTransaction)
    (candidate : CandidatePlan) (before rest : List ExecutionPlan)
    (ran : runtime.processSolverBatch sha256 encode batch = (.ok settlement, after))
    (_accepted : (PlanValidator.validate sha256 candidate intent runtime.base.store runtime.registry
      runtime.policy).passed = true)
    (placed : executionOrder (ParallelScheduler.schedule (settlement.selectedPlans.map fun selected =>
      candidatePlanToExecutionPlan selected.winningPlan)) =
        before ++ candidatePlanToExecutionPlan candidate :: rest) :
    let store := before.foldl (planStep sha256 batch.epoch) runtime.base.store
    after.base.store = (rest.foldl (planStep sha256 batch.epoch)
        (candidate.settled sha256 store).2).syncTypedToCanonical ∧
      (candidate.DeclaresReach intent store → candidate.StaysInside sha256 intent store) ∧
      ((candidate.settled sha256 store).1.success = true →
        (candidate.StaysInside sha256 intent store ↔ candidate.DeclaresReach intent store)) := by
  refine ⟨?_, CandidatePlan.staysInside_of_declaresReach sha256, fun success =>
    ⟨CandidatePlan.declaresReach_of_staysInside sha256 success,
      CandidatePlan.staysInside_of_declaresReach sha256⟩⟩
  have settled := congrArg Prod.snd (SolverMarketRuntime.processSolverBatch_ok ran).2
  rw [executeGroups_store, placed, List.foldl_append, List.foldl_cons, planStep_eq] at settled
  exact settled

section Examples

def solverMarket : SolverMarketRuntime :=
  { base := { PoSeqRuntime.new with
      store := (ObjectStore.new.insert (.balance (.new 11 7 3 100 0))).insert
        (.balance (.new 12 8 3 100 0)) }
    registry := ⟨(∅ : BTreeMap Bytes32 SolverProfile).insert 3
      { solverId := 3, status := .active
        capabilities := { capabilitySet := .userDefault, maxObjectsPerPlan := 8 }, reputation := {} }⟩
    selectionPolicy := .bestScore, policy := permissivePolicy }

def solvedIntent : IntentTransaction :=
  { txId := 1, sender := 7
    intent := .transfer { assetId := 3, amount := 50, recipient := 8, memo := none }
    maxFee := 100, deadlineEpoch := 10, nonce := 0, signature := 0
    metadata := ∅, targetObjects := [], constraints := {}, executionMode := .bestEffort
    sponsor := none, sponsorSignature := none, sponsorshipLimits := {}, feePolicy := .senderPays
    feeEnvelope := none }

def movingPlan (source target : ObjectId) (objectWrites : List ObjectId) (planHash : Bytes32) :
    CandidatePlan :=
  { planId := 1, intentId := 1, solverId := 3
    actions := [⟨.debitBalance, source, some 50, ∅⟩, ⟨.creditBalance, target, some 50, ∅⟩]
    requiredCapabilities := [], objectReads := [], objectWrites, expectedOutputAmount := 1
    feeQuote := 100, qualityScore := 5000, constraintProofs := [], planHash, submittedAtSequence := 0
    explanation := none, metadata := ∅ }

def honestPlan : CandidatePlan :=
  movingPlan 11 12 [11, 12] 0x012a46dab0af9cbde8a5562d2575061ee8be8dc08cd0b5fcbef019248f631d3e

def thievingPlan : CandidatePlan :=
  movingPlan 12 11 [11] 0x088d5eda68650479df8b940f653718f54f83ff4ce44a620094012dae1d60165d

def solvedBy (plan : CandidatePlan) : SolverMarketBatch :=
  { batchId := 4, epoch := 1, sequenceNumber := 0, intents := [solvedIntent]
    candidatePlans := (∅ : BTreeMap Bytes32 (List CandidatePlan)).insert 1 [plan] }

theorem settles_single {encode : BoxedObject → Bytes} {runtime : SolverMarketRuntime}
    {batch : SolverMarketBatch} {candidate : CandidatePlan}
    (chosen : runtime.choices sha256 batch batch.intents = .ok [candidate]) :
    ∃ settlement after, runtime.processSolverBatch sha256 encode batch = (.ok settlement, after) ∧
      executionOrder (ParallelScheduler.schedule (settlement.selectedPlans.map fun selected =>
        candidatePlanToExecutionPlan selected.winningPlan)) =
          [] ++ candidatePlanToExecutionPlan candidate :: [] := by
  cases ran : runtime.processSolverBatch sha256 encode batch with
  | mk outcome after =>
      cases outcome with
      | error halt =>
          rw [(SolverMarketRuntime.processSolverBatch_error ran).1] at chosen
          cases chosen
      | ok settlement =>
          refine ⟨settlement, after, rfl, ?_⟩
          rw [(SolverMarketRuntime.processSolverBatch_ok ran).1] at chosen
          have plans := congrArg (List.map candidatePlanToExecutionPlan) (Except.ok.inj chosen)
          rw [List.map_map] at plans
          have single := ParallelScheduler.perm_executionOrder [candidatePlanToExecutionPlan candidate]
          have listed : (settlement.selectedPlans.map fun selected =>
              candidatePlanToExecutionPlan selected.winningPlan) =
                [candidatePlanToExecutionPlan candidate] := plans
          rw [listed]
          exact List.perm_singleton.1 single

theorem flushed_insert_balance {store : ObjectStore} {balance : BalanceObject}
    (flushed : ∀ id, (store.cell id).sync = store.cell id)
    (vacant : store.pools.get? balance.id = none ∧ store.vaults.get? balance.id = none) (id : ObjectId) :
    ((store.insert (.balance balance)).cell id).sync = (store.insert (.balance balance)).cell id := by
  have cell : (store.insert (.balance balance)).cell id =
      if balance.id = id then
        { object := some (.balance balance), balance := some balance, pool := store.pools.get? id
          vault := store.vaults.get? id }
      else store.cell id := by
    simp only [ObjectStore.cell, ObjectStore.insert, KeyedMap.get?_insert, BoxedObject.id_balance]
    by_cases here : balance.id = id <;> simp only [here, if_true, if_false]
  rw [cell]
  split
  · rename_i here
    subst here
    simp [Cell.sync, Cell.overlay, vacant.1, vacant.2]
  · exact flushed id

theorem flushed_solverMarket (id : ObjectId) :
    (solverMarket.base.store.cell id).sync = solverMarket.base.store.cell id := by
  have empty (id : ObjectId) : (ObjectStore.new.cell id).sync = ObjectStore.new.cell id := by
    simp [ObjectStore.cell, ObjectStore.new, Cell.sync]
  apply flushed_insert_balance _ ⟨rfl, rfl⟩
  exact flushed_insert_balance empty ⟨rfl, rfl⟩

theorem honestPlan_confined :
    honestPlan.StaysInside (fun _ => honestPlan.planHash) solvedIntent solverMarket.base.store := by
  obtain ⟨settlement, after, ran, placed⟩ := @settles_single (fun _ => honestPlan.planHash) (fun _ => [])
    solverMarket (solvedBy honestPlan) honestPlan rfl
  have confined := accepted_candidate_confined (fun _ => honestPlan.planHash) (fun _ => []) solverMarket
    after (solvedBy honestPlan) settlement solvedIntent honestPlan [] [] ran (by decide +kernel) placed
  apply confined.2.1
  constructor
  · intro action member
    simp only [honestPlan, movingPlan, List.mem_cons, List.not_mem_nil, or_false] at member
    rcases member with rfl | rfl <;> decide
  · intro action member spends balance held
    simp only [honestPlan, movingPlan, List.mem_cons, List.not_mem_nil, or_false] at member
    rcases member with rfl | rfl
    · obtain rfl : BalanceObject.new 11 7 3 100 0 = balance := Option.some.inj held
      rfl
    · simp at spends
  · intro id due
    exact absurd (flushed_solverMarket id) due

theorem thievingPlan_escapes :
    ¬ ∀ (sha256 : Sha256) (encode : BoxedObject → Bytes) (runtime after : SolverMarketRuntime)
      (batch : SolverMarketBatch) (settlement : FinalSettlement) (intent : IntentTransaction)
      (candidate : CandidatePlan) (before rest : List ExecutionPlan),
      runtime.processSolverBatch sha256 encode batch = (.ok settlement, after) →
      (PlanValidator.validate sha256 candidate intent runtime.base.store runtime.registry
        runtime.policy).passed = true →
      executionOrder (ParallelScheduler.schedule (settlement.selectedPlans.map fun selected =>
        candidatePlanToExecutionPlan selected.winningPlan)) =
          before ++ candidatePlanToExecutionPlan candidate :: rest →
      (candidate.settled sha256
        (before.foldl (planStep sha256 batch.epoch) runtime.base.store)).1.success = true →
      candidate.StaysInside sha256 intent
        (before.foldl (planStep sha256 batch.epoch) runtime.base.store) := by
  intro confined
  obtain ⟨settlement, after, ran, placed⟩ := @settles_single (fun _ => thievingPlan.planHash) (fun _ => [])
    solverMarket (solvedBy thievingPlan) thievingPlan rfl
  have inside := confined _ _ _ _ _ _ solvedIntent _ _ _ ran (by decide +kernel) placed (by decide +kernel)
  have undeclared : (12 : ObjectId) ∈ thievingPlan.objectWrites := by
    apply inside.writes
    intro same
    have amounts := congrArg (fun cell => cell.balance.map BalanceObject.amount) same
    revert amounts
    decide +kernel
  revert undeclared
  decide

end Examples

end Omniphi.Runtime
