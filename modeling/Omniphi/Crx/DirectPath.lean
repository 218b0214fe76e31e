import Omniphi.Crx.PartialFailure
import Omniphi.Runtime.SwapSafety

/-! A plan carried out over its graph, beside the same plan applied operation by operation. Both take its
actions in their order; they part where a swap says in two places what it adds to the first reserve. -/

namespace Omniphi.Crx

open Omniphi.Runtime BranchAwareExecutor SettlementEngine

section Effect

variable (delta : PlanAction → I128)

def deltaB (action : PlanAction) : I128 := (action.metadata["delta_b"]?.bind parseI128).getD 0

def act (action : PlanAction) (cell : Cell) : Cell :=
  match action.actionType with
  | .debitBalance => cell.modifyBalance fun b => { b with amount := b.amount - quantity action }
  | .creditBalance =>
      cell.modifyBalance fun b => { b with amount := MachineInt.saturatingAdd b.amount (quantity action) }
  | .swapPoolAmounts =>
      cell.modifyPool fun p => { p with
        reserveA := shiftReserve p.reserveA (delta action)
        reserveB := shiftReserve p.reserveB (deltaB action) }
  | .lockBalance =>
      cell.modifyBalance fun b =>
        { b with lockedAmount := MachineInt.saturatingAdd b.lockedAmount (quantity action) }
  | .unlockBalance =>
      cell.modifyBalance fun b =>
        { b with lockedAmount := MachineInt.saturatingSub b.lockedAmount (quantity action) }
  | .custom _ => cell

def actOn (id : ObjectId) (cell : Cell) (action : PlanAction) : Cell :=
  if action.targetObject = id then act delta action cell else cell

def reserveAfter (id : ObjectId) (actions : List PlanAction) (reserve : U128) : U128 :=
  actions.foldl (fun reserve action =>
    if action.actionType = .swapPoolAmounts ∧ action.targetObject = id then
      shiftReserve reserve (delta action)
    else reserve) reserve

end Effect

def nodeDelta (action : PlanAction) : I128 := (action.metadata["delta_a"]?.bind parseI128).getD 0

def operationDelta (action : PlanAction) : I128 := quantity action

section Folds

variable {delta other : PlanAction → I128}

theorem balance_actOn (id : ObjectId) {cell cell' : Cell} (same : cell.balance = cell'.balance)
    (action : PlanAction) : (actOn delta id cell action).balance = (actOn other id cell' action).balance := by
  unfold actOn
  split
  · unfold act
    cases action.actionType <;> simp only [Cell.modifyBalance, Cell.modifyPool, same]
  · exact same

theorem balance_foldl_actOn (id : ObjectId) (actions : List PlanAction) {cell cell' : Cell}
    (same : cell.balance = cell'.balance) :
    (actions.foldl (actOn delta id) cell).balance = (actions.foldl (actOn other id) cell').balance := by
  induction actions generalizing cell cell' with
  | nil => exact same
  | cons action rest ih => exact ih (balance_actOn id same action)

theorem reserves_actOn (id : ObjectId) (cell : Cell) (action : PlanAction) :
    (actOn delta id cell action).reserves = cell.reserves.map fun reserves =>
      (reserveAfter delta id [action] reserves.1, reserveAfter deltaB id [action] reserves.2) := by
  rcases cell with ⟨object, balance, pool, vault⟩
  unfold actOn reserveAfter
  by_cases here : action.targetObject = id
  · rw [if_pos here]
    cases kind : action.actionType <;> cases pool <;> simp [act, kind, here, Cell.reserves,
      Cell.modifyBalance, Cell.modifyPool]
  · rw [if_neg here]
    cases pool <;> simp [here, Cell.reserves]

theorem reserves_foldl_actOn (id : ObjectId) (actions : List PlanAction) (cell : Cell) :
    (actions.foldl (actOn delta id) cell).reserves = cell.reserves.map fun reserves =>
      (reserveAfter delta id actions reserves.1, reserveAfter deltaB id actions reserves.2) := by
  induction actions generalizing cell with
  | nil =>
      simp only [List.foldl_nil, reserveAfter]
      exact Option.map_id'.symm ▸ rfl
  | cons action rest ih =>
      rw [List.foldl_cons, ih, reserves_actOn, Option.map_map]
      rfl

theorem reserveAfter_congr {id : ObjectId} {actions : List PlanAction}
    (same : ∀ action ∈ actions, action.actionType = .swapPoolAmounts → delta action = other action)
    (reserve : U128) : reserveAfter delta id actions reserve = reserveAfter other id actions reserve := by
  apply List.foldl_ext
  intro reserve action listed
  by_cases swap : action.actionType = .swapPoolAmounts ∧ action.targetObject = id
  · rw [if_pos swap, if_pos swap, same action listed swap.1]
  · rw [if_neg swap, if_neg swap]

end Folds

section Paths

variable {store next : ObjectStore} {action : PlanAction}

theorem ok_of_toOption {ε α : Type} {outcome : Except ε α} {value : α}
    (passed : outcome.toOption = some value) :
    outcome = .ok value := by
  cases outcome with
  | error e => cases passed
  | ok other => exact congrArg Except.ok (Option.some.inj passed)

theorem applyDelta_ok {reserve moved : U128} {delta : I128}
    (applied : (applyDelta reserve delta).toOption = some moved) : moved = shiftReserve reserve delta := by
  have applied := ok_of_toOption applied
  unfold applyDelta at applied
  unfold shiftReserve
  split at applied
  · rename_i negative
    rw [if_pos negative]
    split at applied
    · cases applied
    · rename_i enough
      obtain rfl := Except.ok.inj applied
      rw [BitVec.not_lt, BitVec.le_def] at enough
      apply BitVec.eq_of_toNat_eq
      rw [MachineInt.toNat_saturatingSub, BitVec.toNat_sub_of_le (BitVec.le_def.2 enough)]
  · rename_i positive
    rw [if_neg positive]
    exact (Except.ok.inj applied).symm

theorem cell_swapped (moved : swapped store action = some next) :
    next.cell = Function.update store.cell action.targetObject
      ((store.cell action.targetObject).modifyPool fun p => { p with
        reserveA := shiftReserve p.reserveA (nodeDelta action)
        reserveB := shiftReserve p.reserveB (deltaB action) }) := by
  unfold swapped at moved
  dsimp only at moved
  obtain ⟨pool, found, moved⟩ := Option.bind_eq_some_iff.1 moved
  obtain ⟨reserveA, first, moved⟩ := Option.bind_eq_some_iff.1 moved
  obtain ⟨reserveB, second, rfl⟩ := Option.map_eq_some_iff.1 moved
  obtain rfl := applyDelta_ok first
  obtain rfl := applyDelta_ok second
  rw [ObjectStore.getPoolById_eq] at found
  rw [ObjectStore.cell_modifyPool, ObjectStore.cell_modifyPool, Function.update_self, Function.update_idem]
  congr 1
  simp only [Cell.modifyPool, found, Option.map_some]
  rfl

theorem cell_perform (plain : ∀ method, action.actionType ≠ .custom method)
    (enough : covered store action = true) :
    (perform store action).cell = Function.update store.cell action.targetObject
      (act nodeDelta action (store.cell action.targetObject)) := by
  cases kind : action.actionType with
  | debitBalance | creditBalance | lockBalance | unlockBalance =>
      simp only [perform, act, kind]
      exact store.cell_modifyBalance _ _ _
  | swapPoolAmounts =>
      simp only [covered, kind, Bool.and_eq_true] at enough
      obtain ⟨next, moved⟩ := Option.isSome_iff_exists.1 enough.2
      simp only [perform, act, kind, moved, Option.getD_some]
      exact cell_swapped moved
  | custom method => exact absurd kind (plain method)

theorem target_operation (sha256 : Sha256) (plain : ∀ method, action.actionType ≠ .custom method) :
    (planActionToOperation action).target sha256 = action.targetObject := by
  unfold planActionToOperation
  cases kind : action.actionType with
  | custom method => exact absurd kind (plain method)
  | debitBalance | creditBalance | lockBalance | unlockBalance | swapPoolAmounts => rfl

theorem modifyBalance_eq {cell : Cell} {balance : BalanceObject} (found : cell.balance = some balance)
    {change other : BalanceObject → BalanceObject} (same : change balance = other balance) :
    cell.modifyBalance change = cell.modifyBalance other := by
  simp only [Cell.modifyBalance, found, Option.map_some, same]

theorem checkedSub_ok {a b rest : U128} (left : MachineInt.checkedSub a b = some rest) :
    rest = a - b ∧ rest = MachineInt.saturatingSub a b := by
  obtain ⟨covers, value⟩ := MachineInt.checkedSub_eq_some.1 left
  constructor
  · apply BitVec.eq_of_toNat_eq
    rw [value, BitVec.toNat_sub_of_le (BitVec.le_def.2 covers)]
  · apply BitVec.eq_of_toNat_eq
    rw [value, MachineInt.toNat_saturatingSub]

theorem applyCell_action {sha256 : Sha256} {cell after : Cell}
    (plain : ∀ method, action.actionType ≠ .custom method)
    (applied : applyCell sha256 cell (planActionToOperation action) = .ok after) :
    after = act operationDelta action cell := by
  unfold planActionToOperation at applied
  unfold act
  cases kind : action.actionType with
  | custom method => exact absurd kind (plain method)
  | debitBalance =>
      rw [kind] at applied
      obtain ⟨balance, found, applied⟩ := bind_ok.1 applied
      have found := orNotFound_ok.1 found
      split at applied
      · rename_i rest left
        cases applied
        obtain ⟨same, -⟩ := checkedSub_ok left
        exact modifyBalance_eq found (by rw [same]; rfl)
      · cases applied
  | unlockBalance =>
      rw [kind] at applied
      obtain ⟨balance, found, applied⟩ := bind_ok.1 applied
      have found := orNotFound_ok.1 found
      split at applied
      · rename_i rest left
        cases applied
        obtain ⟨-, same⟩ := checkedSub_ok left
        exact modifyBalance_eq found (by rw [same]; rfl)
      · cases applied
  | creditBalance | lockBalance | swapPoolAmounts =>
      rw [kind] at applied
      obtain ⟨_, -, applied⟩ := bind_ok.1 applied
      cases applied
      rfl

variable {actions : List PlanAction}

theorem update_actOn {delta : PlanAction → I128} {cells : ObjectId → Cell}
    (step : cells = Function.update store.cell action.targetObject
      (act delta action (store.cell action.targetObject))) (id : ObjectId) :
    cells id = actOn delta id (store.cell id) action := by
  rw [step, actOn]
  by_cases here : action.targetObject = id
  · subst here
    rw [Function.update_self, if_pos rfl]
  · rw [Function.update_of_ne (Ne.symm here), if_neg here]

theorem cell_foldl_perform (plain : ∀ action ∈ actions, ∀ method, action.actionType ≠ .custom method)
    (all : allCovered store actions = true) (id : ObjectId) :
    ((actions.foldl perform store).cell id) = actions.foldl (actOn nodeDelta id) (store.cell id) := by
  induction actions generalizing store with
  | nil => rfl
  | cons action rest ih =>
      rw [allCovered, Bool.and_eq_true] at all
      have step := update_actOn (cell_perform (plain action List.mem_cons_self) all.1) id
      rw [List.foldl_cons, List.foldl_cons, ← step]
      exact ih (fun other listed => plain other (List.mem_cons_of_mem _ listed)) all.2

theorem cell_applyOps {sha256 : Sha256} {affected ids : List ObjectId}
    (plain : ∀ action ∈ actions, ∀ method, action.actionType ≠ .custom method)
    (ran : applyOps sha256 store affected (actions.map planActionToOperation) = (next, .ok ids))
    (id : ObjectId) :
    next.cell id = actions.foldl (actOn operationDelta id) (store.cell id) := by
  induction actions generalizing store affected with
  | nil => rw [applyOps_nil_ok ran]; rfl
  | cons action rest ih =>
      obtain ⟨mid, last, applied, ran⟩ := applyOps_cons_ok ran
      have plainly := plain action List.mem_cons_self
      have step := applyOp_cell sha256 store affected (planActionToOperation action)
      rw [target_operation sha256 plainly] at step
      cases effect : applyCell sha256 (store.cell action.targetObject) (planActionToOperation action) with
      | error e =>
          rw [effect] at step
          cases step.symm.trans applied
      | ok cell =>
          rw [effect] at step
          obtain ⟨same, applied', cells⟩ := step
          obtain ⟨rfl, -⟩ := Prod.mk.inj (Except.ok.inj (applied'.symm.trans applied))
          rw [applyCell_action plainly effect] at cells
          rw [List.foldl_cons, ← update_actOn cells id]
          exact ih (fun other listed => plain other (List.mem_cons_of_mem _ listed)) ran

theorem run_plan_done {root : List CausalNode} (shape : root = [] ∨ ∃ rootId, root = [rootNode rootId])
    (all : allCovered store actions = true) (id : NodeId) :
    (runList (planNodes actions id ++ root) store).1 = actions.foldl perform store := by
  induction actions generalizing id store with
  | nil => rcases shape with rfl | ⟨rootId, rfl⟩ <;> rfl
  | cons action rest ih =>
      rw [allCovered, Bool.and_eq_true] at all
      rw [planNodes, List.append_assoc, runList_append, (run_action store action id).done all.1, if_pos rfl]
      exact ih all.2 _

end Paths

section Settlement

open CRXSettlementEngine

variable {codec : Codec} {plan : CandidatePlan} {goal : GoalPacket} {store : ObjectStore}
  {domainPolicies : List DomainFinalityPolicy} {epoch : U64} {record : CRXSettlementRecord}

theorem settle_success
    (ran : (CRXSettlementEngine.settle codec plan goal store domainPolicies epoch).1 = .ok record)
    (success : record.settlementClass = .fullSuccess) :
    (∃ graph capsule root, CausalPlanBuilder.build codec plan goal epoch = .ok (graph, capsule) ∧
      (root = [] ∨ ∃ rootId, root = [rootNode rootId]) ∧
      (graph.topologicalOrder.filterMap fun id => graph.nodes[id]?) = planNodes plan.actions 0 ++ root) ∧
    allCovered store plan.actions = true ∧
    (CRXSettlementEngine.settle codec plan goal store domainPolicies epoch).2 =
      (plan.actions.foldl perform store).syncTypedToCanonical := by
  unfold CRXSettlementEngine.settle at ran ⊢
  cases built : CausalPlanBuilder.build codec plan goal epoch with
  | error e =>
      rw [built] at ran
      cases ran
  | ok pair =>
      obtain ⟨graph, capsule⟩ := pair
      rw [built] at ran
      dsimp only at ran ⊢
      obtain rfl := Except.ok.inj ran
      obtain ⟨root, shape, order, left, outcome⟩ := @execute_built _ _ _ store _ _ _ built
      cases verdict : (verdictOn codec.sha256 plan goal graph capsule store epoch).accepts with
      | false =>
          rw [settleGraph_of_refused verdict] at success
          cases success
      | true =>
          obtain ⟨-, settlementClass, settled⟩ := settleGraph_of_accepted domainPolicies verdict
          rw [settlementClass, outcome] at success
          have finished : (runList (planNodes plan.actions 0 ++ root) store).2 = true := by
            cases ended : (runList (planNodes plan.actions 0 ++ root) store).2 with
            | true => rfl
            | false =>
                rw [ended] at success
                cases policy : goal.policy.partialFailurePolicy <;> rw [policy] at success <;> cases success
          have all : allCovered store plan.actions = true :=
            (run_plan plan.actions 0 shape store).1.symm.trans finished
          refine ⟨⟨graph, capsule, root, rfl, shape, order⟩, all, ?_⟩
          rw [settled, outcome, finished, left, run_plan_done shape all, if_neg]
          rw [isReverted_classOf]
          exact fun both => nomatch both.1

def SameHoldings (store other : ObjectStore) : Prop :=
  ∀ id, ((store.getBalanceById id).map fun b => (b.amount, b.lockedAmount)) =
      ((other.getBalanceById id).map fun b => (b.amount, b.lockedAmount)) ∧
    ((store.getPoolById id).map fun p => (p.reserveA, p.reserveB)) =
      ((other.getPoolById id).map fun p => (p.reserveA, p.reserveB))

theorem amounts_bump_sync (cell : Cell) (times : Nat) :
    ((Cell.bump^[times] cell).sync.balance.map fun b => (b.amount, b.lockedAmount)) =
      cell.balance.map fun b => (b.amount, b.lockedAmount) := by
  have synced (cell : Cell) : cell.sync.balance = cell.balance := rfl
  rw [synced]
  induction times generalizing cell with
  | zero => rfl
  | succ times ih =>
      rw [Function.iterate_succ_apply, ih]
      simp only [Cell.bump, Option.map_map, Function.comp_def]

variable {sha256 : Sha256} {direct : ExecutionPlan}

theorem applyPlan_holdings
    (plain : ∀ action ∈ plan.actions, ∀ method, action.actionType ≠ .custom method)
    (operations : direct.operations = plan.actions.map planActionToOperation)
    (success : (applyPlan sha256 direct store).1.success = true) (id : ObjectId) :
    (((applyPlan sha256 direct store).2.cell id).balance.map fun b => (b.amount, b.lockedAmount)) =
        ((plan.actions.foldl (actOn operationDelta id) (store.cell id)).balance.map
          fun b => (b.amount, b.lockedAmount)) ∧
      ((applyPlan sha256 direct store).2.cell id).reserves =
        (plan.actions.foldl (actOn operationDelta id) (store.cell id)).reserves := by
  rcases applyPlan_cases sha256 direct store with ⟨-, failed, -⟩ |
    ⟨-, ⟨-, -, -, failed, -⟩ | ⟨after, ids, ran, -, left⟩⟩
  · cases failed.symm.trans success
  · cases failed.symm.trans success
  · rw [operations] at ran
    rw [left, ObjectStore.cell_sync, foldl_bumpVersion_cell, amounts_bump_sync, reserves_bump_sync,
      cell_applyOps plain ran]
    exact ⟨rfl, rfl⟩

/-- A plan that both paths carry out leaves the same holdings just when the swaps of each pool move its first
reserve to one number, whether they add what their nodes read or what their operations do. -/
theorem settled_alike_iff {settled after : ObjectStore} {receipt : ExecutionReceipt}
    (plain : ∀ action ∈ plan.actions, ∀ method, action.actionType ≠ .custom method)
    (operations : direct.operations = plan.actions.map planActionToOperation)
    (ran : CRXSettlementEngine.settle codec plan goal store domainPolicies epoch = (.ok record, settled))
    (success : record.settlementClass = .fullSuccess)
    (applied : applyPlan sha256 direct store = (receipt, after)) (complete : receipt.success = true) :
    (∃ graph capsule root, CausalPlanBuilder.build codec plan goal epoch = .ok (graph, capsule) ∧
      (root = [] ∨ ∃ rootId, root = [rootNode rootId]) ∧
      (graph.topologicalOrder.filterMap fun id => graph.nodes[id]?) = planNodes plan.actions 0 ++ root) ∧
    settled = (plan.actions.foldl perform store).syncTypedToCanonical ∧
    (SameHoldings settled after ↔ ∀ id pool, store.getPoolById id = some pool →
      reserveAfter nodeDelta id plan.actions pool.reserveA =
        reserveAfter operationDelta id plan.actions pool.reserveA) ∧
    ((∀ action ∈ plan.actions, action.actionType = .swapPoolAmounts →
        nodeDelta action = operationDelta action) → SameHoldings settled after) := by
  obtain ⟨ordered, all, left⟩ := settle_success (congrArg Prod.fst ran) success
  rw [ran] at left
  obtain rfl : settled = _ := left
  have alike : SameHoldings (plan.actions.foldl perform store).syncTypedToCanonical after ↔
      ∀ id pool, store.getPoolById id = some pool →
        reserveAfter nodeDelta id plan.actions pool.reserveA =
          reserveAfter operationDelta id plan.actions pool.reserveA := by
    apply forall_congr'
    intro id
    have holdings := @applyPlan_holdings plan store sha256 direct plain operations
      (by rw [applied]; exact complete) id
    rw [applied] at holdings
    obtain ⟨amounts, reserves⟩ := holdings
    have graphCell : ((plan.actions.foldl perform store).syncTypedToCanonical.cell id) =
        (plan.actions.foldl (actOn nodeDelta id) (store.cell id)).sync := by
      rw [ObjectStore.cell_sync, cell_foldl_perform plain all]
    have balances : (plan.actions.foldl (actOn nodeDelta id) (store.cell id)).balance =
        (plan.actions.foldl (actOn operationDelta id) (store.cell id)).balance :=
      balance_foldl_actOn id plan.actions rfl
    simp only [ObjectStore.getBalanceById_eq, ObjectStore.getPoolById_eq]
    rw [amounts, ← balances, graphCell]
    show (_ ∧ Cell.reserves _ = Cell.reserves _) ↔ _
    rw [reserves, reserves_foldl_actOn]
    constructor
    · rintro ⟨-, same⟩ pool found
      have same : (plan.actions.foldl (actOn nodeDelta id) (store.cell id)).reserves = _ := same
      rw [reserves_foldl_actOn, Cell.reserves, found, Option.map_some, Option.map_some, Option.map_some] at same
      exact (Prod.mk.inj (Option.some.inj same)).1
    · intro same
      refine ⟨rfl, ?_⟩
      show (plan.actions.foldl (actOn nodeDelta id) (store.cell id)).reserves = _
      rw [reserves_foldl_actOn]
      cases found : (store.cell id).pool with
      | none => simp only [Cell.reserves, found, Option.map_none]
      | some pool =>
          simp only [Cell.reserves, found, Option.map_some]
          rw [same pool found]
  refine ⟨ordered, rfl, alike, fun same => alike.2 ?_⟩
  intro id pool _
  exact reserveAfter_congr same pool.reserveA

end Settlement

section Example

/-! A swap as the resolver's plans write it: the first delta is the amount, the second stands in the metadata.
A balance and a pool stand under one id, so that the check before the node finds what it asks for. -/

def swapPlan : CandidatePlan :=
  { planId := 1, intentId := 2, solverId := 3
    actions := [⟨.swapPoolAmounts, 7, some 100, metadataOf [("delta_b", "-90")]⟩]
    requiredCapabilities := [], objectReads := [], objectWrites := [], expectedOutputAmount := 90
    feeQuote := 0, qualityScore := 0, constraintProofs := [], planHash := 0, submittedAtSequence := 0
    explanation := none, metadata := ∅ }

def swapGoal : GoalPacket :=
  { packetId := 5
    constraints :=
      { allowedObjectTypes := [.balance, .liquidityPool], allowedDomains := [], forbiddenDomains := []
        maxObjectsTouched := 16 }
    policy := { partialFailurePolicy := .strictAllOrNothing, settlementStrictness := .strict }
    deadlineEpoch := 10 }

def swapStore : ObjectStore :=
  (ObjectStore.new.insert (.balance (.new 7 9 77 1000 0))).insert
    (.pool { info := .new 7 .liquidityPool 9 0, assetA := 77, assetB := 78, reserveA := 1000, reserveB := 1000
             feeBps := 30, lpTokenId := 79, totalLpSupply := 0 })

def swapDirect : ExecutionPlan :=
  { txId := 2, operations := swapPlan.actions.map planActionToOperation, requiredCapabilities := []
    objectAccess := [], gasEstimate := 0, gasLimit := 1000000 }

def swapSha256 : Sha256 := fun bytes =>
  match bytes.length with
  | 51 => 0xaba1224c9d6bcab8fb8f5262e7a7a688e5ff7c6c3aab665762f1a953fce62f7c
  | 64 =>
      if bytes = beBytes 32 (1 : Bytes32) ++ beBytes 32 (5 : Bytes32) then
        0x908f5df3d3667e4789aec8b40fda832f2fca5df4c25dc2cec3b3aa98778bbf78
      else 0xf4e5691216507a25721552787cf9ed439f6be44b2d97b558b6bb764ef6eb0ecb
  | 452 => 0x6188305126bc901f99b7a8058d88cab2eb6959ce6ab03ced61263b0c1a34a177
  | _ => 0x0df513ac4ca70cbab75b4505ff640a420d9805716e277f97ab4800222f1a740c

def swapSettled : Except RuntimeError CRXSettlementRecord × ObjectStore :=
  CRXSettlementEngine.settle (.bincode swapSha256) swapPlan swapGoal swapStore [] 3

def swapApplied : ExecutionReceipt × ObjectStore := applyPlan swapSha256 swapDirect swapStore

theorem swap_skips_reserve :
    (swapSettled.1.toOption.map fun record => record.settlementClass) = some .fullSuccess ∧
      swapApplied.1.success = true ∧ ¬SameHoldings swapSettled.2 swapApplied.2 := by
  refine ⟨by decide +kernel, by decide +kernel, fun same => ?_⟩
  exact absurd (same 7).2 (by decide +kernel)

theorem swap_alike_iff :
    (swapSettled.1.toOption.map fun record => record.settlementClass) = some .fullSuccess ∧
      swapApplied.1.success = true ∧ (SameHoldings swapSettled.2 swapApplied.2 ↔
        ∀ id pool, swapStore.getPoolById id = some pool →
          reserveAfter nodeDelta id swapPlan.actions pool.reserveA =
            reserveAfter operationDelta id swapPlan.actions pool.reserveA) := by
  have success : (swapSettled.1.toOption.map fun record => record.settlementClass) = some .fullSuccess := by
    decide +kernel
  have complete : swapApplied.1.success = true := by decide +kernel
  obtain ⟨record, settled, full⟩ := Option.map_eq_some_iff.1 success
  have ran : CRXSettlementEngine.settle (.bincode swapSha256) swapPlan swapGoal swapStore [] 3 =
      (.ok record, swapSettled.2) := by
    apply Prod.ext
    · exact ok_of_toOption settled
    · rfl
  have plain : ∀ action ∈ swapPlan.actions, ∀ method, action.actionType ≠ .custom method := by
    intro action listed method
    rw [List.mem_singleton.1 listed]
    exact nofun
  have applied : applyPlan swapSha256 swapDirect swapStore = (swapApplied.1, swapApplied.2) := rfl
  exact ⟨success, complete, (settled_alike_iff plain rfl ran full applied complete).2.2.1⟩

end Example

end Omniphi.Crx
