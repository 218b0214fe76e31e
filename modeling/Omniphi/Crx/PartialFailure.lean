import Omniphi.Crx.Actions
import Omniphi.Crx.Revert
import Omniphi.Runtime.Conservation

/-! What a plan does to the total of an asset over the balances, when not all of it can be carried out. -/

namespace Omniphi.Runtime

namespace ObjectStore

def balanceTotal (store : ObjectStore) (asset : Bytes32) : Nat :=
  store.balances.sum fun balance => worth balance.assetId balance.amount asset

theorem balanceTotal_modifyBalance {store : ObjectStore} {id : ObjectId} {balance : BalanceObject}
    (found : store.getBalanceById id = some balance) (change : BalanceObject → BalanceObject)
    (keeps : ∀ balance, (change balance).id = balance.id) (asset : Bytes32) :
    (store.modifyBalance id change keeps).balanceTotal asset + worth balance.assetId balance.amount asset =
      store.balanceTotal asset + worth (change balance).assetId (change balance).amount asset :=
  store.balances.sum_modify (fun b => worth b.assetId b.amount asset) found change keeps

end ObjectStore

end Omniphi.Runtime

namespace Omniphi.Crx

open Omniphi.Runtime BranchAwareExecutor

section Totals

variable (labels : ObjectId → Option Bytes32) (store : ObjectStore)

/-- What the action takes of an asset, where `labels` gives the asset of each balance. -/
def debitOf (action : PlanAction) (asset : Bytes32) : Nat :=
  if action.actionType = .debitBalance ∧ labels action.targetObject = some asset then
    (quantity action).toNat
  else 0

def creditOf (action : PlanAction) (asset : Bytes32) : Nat :=
  if action.actionType = .creditBalance ∧ labels action.targetObject = some asset then
    (quantity action).toNat
  else 0

/-- As much of a credit as the balance has room for; the rest is lost. -/
def landing (action : PlanAction) (asset : Bytes32) : Nat :=
  match store.getBalanceById action.targetObject with
  | some balance =>
      if action.actionType = .creditBalance ∧ balance.assetId = asset then
        min (quantity action).toNat (2 ^ 128 - 1 - balance.amount.toNat)
      else 0
  | none => 0

def debits (actions : List PlanAction) (asset : Bytes32) : Nat :=
  (actions.map fun action => debitOf labels action asset).sum

def credits (actions : List PlanAction) (asset : Bytes32) : Nat :=
  (actions.map fun action => creditOf labels action asset).sum

def landed : ObjectStore → List PlanAction → Bytes32 → Nat
  | _, [], _ => 0
  | store, action :: rest, asset => landing store action asset + landed (perform store action) rest asset

/-- Every credit has room in its balance when its turn comes. -/
def CreditsFit : ObjectStore → List PlanAction → Prop
  | _, [] => True
  | store, action :: rest =>
      (action.actionType = .creditBalance → ∀ balance,
        store.getBalanceById action.targetObject = some balance →
          balance.amount.toNat + (quantity action).toNat < 2 ^ 128) ∧ CreditsFit (perform store action) rest

variable {store} {action : PlanAction}

theorem total_perform_debit (kind : action.actionType = .debitBalance) (enough : covered store action = true) :
    (perform store action).assetOf = store.assetOf ∧ ∀ asset,
      (perform store action).balanceTotal asset + debitOf store.assetOf action asset =
        store.balanceTotal asset + landing store action asset := by
  simp only [covered, kind] at enough
  obtain ⟨balance, found, enough⟩ := (Option.any_eq_true _ _).1 enough
  have bound : (quantity action).toNat ≤ balance.amount.toNat :=
    (BitVec.le_def.1 (of_decide_eq_true enough)).trans (available_le balance)
  have label := ObjectStore.assetOf_eq found
  simp only [perform, kind]
  refine ⟨ObjectStore.assetOf_modifyBalance _ _ fun _ => rfl, fun asset => ?_⟩
  have moved := ObjectStore.balanceTotal_modifyBalance found
    (fun b => { b with amount := b.amount - quantity action }) (fun _ => rfl) asset
  simp only [landing, debitOf, kind, found, label, Option.some.injEq, true_and, reduceCtorEq, false_and,
    if_false]
  by_cases same : balance.assetId = asset
  · simp only [worth, same, if_true, BitVec.toNat_sub_of_le (BitVec.le_def.2 bound)] at moved ⊢
    omega
  · simpa only [worth, same, if_false, Nat.add_zero] using moved

theorem total_perform_credit (kind : action.actionType = .creditBalance)
    (enough : covered store action = true) :
    (perform store action).assetOf = store.assetOf ∧ ∀ asset,
      (perform store action).balanceTotal asset + debitOf store.assetOf action asset =
        store.balanceTotal asset + landing store action asset := by
  simp only [covered, kind] at enough
  obtain ⟨balance, found⟩ := Option.isSome_iff_exists.1 enough
  simp only [perform, kind]
  refine ⟨ObjectStore.assetOf_modifyBalance _ _ fun _ => rfl, fun asset => ?_⟩
  have moved := ObjectStore.balanceTotal_modifyBalance found
    (fun b => { b with amount := MachineInt.saturatingAdd b.amount (quantity action) }) (fun _ => rfl) asset
  have room := balance.amount.isLt
  simp only [landing, debitOf, kind, found, true_and, reduceCtorEq, false_and, if_false]
  by_cases same : balance.assetId = asset
  · simp only [worth, same, if_true, MachineInt.toNat_saturatingAdd] at moved ⊢
    omega
  · simp only [worth, same, if_false, Nat.add_zero] at moved ⊢
    exact moved

theorem total_modifyBalance_eq (store : ObjectStore) (id : ObjectId) (change : BalanceObject → BalanceObject)
    (keeps : ∀ balance, (change balance).id = balance.id)
    (label : ∀ balance, (change balance).assetId = balance.assetId)
    (amount : ∀ balance, (change balance).amount = balance.amount) :
    (store.modifyBalance id change keeps).assetOf = store.assetOf ∧
      (store.modifyBalance id change keeps).balanceTotal = store.balanceTotal := by
  refine ⟨ObjectStore.assetOf_modifyBalance _ _ label, funext fun asset => ?_⟩
  refine store.balances.sum_modify_eq _ id change keeps fun balance => ?_
  rw [label, amount]

theorem total_swapped {next : ObjectStore} (moved : swapped store action = some next) :
    next.balances = store.balances := by
  simp only [swapped, Option.bind_eq_some_iff, Option.map_eq_some_iff] at moved
  obtain ⟨pool, -, reserveA, -, reserveB, -, rfl⟩ := moved
  rfl

theorem total_perform_plain (debit : action.actionType ≠ .debitBalance)
    (credit : action.actionType ≠ .creditBalance) :
    (perform store action).assetOf = store.assetOf ∧
      (perform store action).balanceTotal = store.balanceTotal := by
  cases kind : action.actionType with
  | debitBalance => exact absurd kind debit
  | creditBalance => exact absurd kind credit
  | swapPoolAmounts =>
      simp only [perform, kind]
      cases moved : swapped store action with
      | none => exact ⟨rfl, rfl⟩
      | some next =>
          have balances := total_swapped moved
          constructor
          · funext id
            simp only [ObjectStore.assetOf, ObjectStore.getBalanceById, Option.getD_some, balances]
          · funext asset
            simp only [ObjectStore.balanceTotal, Option.getD_some, balances]
  | lockBalance | unlockBalance =>
      simp only [perform, kind]
      exact total_modifyBalance_eq store _ _ _ (fun _ => rfl) (fun _ => rfl)
  | custom method =>
      simp only [perform, kind]
      split
      · unfold bumpTarget
        split
        · exact total_modifyBalance_eq store _ _ _ (fun _ => rfl) (fun _ => rfl)
        · split
          · exact ⟨rfl, rfl⟩
          · exact ⟨rfl, rfl⟩
      · exact ⟨rfl, rfl⟩

theorem total_perform (enough : covered store action = true) :
    (perform store action).assetOf = store.assetOf ∧ ∀ asset,
      (perform store action).balanceTotal asset + debitOf store.assetOf action asset =
        store.balanceTotal asset + landing store action asset := by
  by_cases debit : action.actionType = .debitBalance
  · exact total_perform_debit debit enough
  by_cases credit : action.actionType = .creditBalance
  · exact total_perform_credit credit enough
  obtain ⟨labels, totals⟩ := @total_perform_plain store action debit credit
  refine ⟨labels, fun asset => ?_⟩
  have none : landing store action asset = 0 := by
    unfold landing
    split
    · exact if_neg fun both => credit both.1
    · rfl
  rw [totals, debitOf, if_neg fun both => debit both.1, none]

theorem total_carriedOut (actions : List PlanAction) (store : ObjectStore) (asset : Bytes32) :
    ((carriedOut store actions).foldl perform store).balanceTotal asset +
        debits store.assetOf (carriedOut store actions) asset =
      store.balanceTotal asset + landed store (carriedOut store actions) asset := by
  induction actions generalizing store with
  | nil => rfl
  | cons action rest ih =>
      rw [carriedOut]
      split
      · rename_i enough
        obtain ⟨labels, moved⟩ := total_perform enough
        have moved := moved asset
        have later := ih (perform store action)
        rw [labels] at later
        simp only [List.foldl_cons, debits, List.map_cons, List.sum_cons, landed] at later ⊢
        omega
      · rfl

theorem landing_le (store : ObjectStore) (action : PlanAction) (asset : Bytes32) :
    landing store action asset ≤ creditOf store.assetOf action asset := by
  unfold landing creditOf
  cases found : store.getBalanceById action.targetObject with
  | none => exact Nat.zero_le _
  | some balance =>
      rw [ObjectStore.assetOf_eq found]
      simp only [Option.some.injEq]
      split
      · exact Nat.min_le_left _ _
      · exact Nat.le_refl _

theorem landing_eq_iff (enough : covered store action = true) :
    (∀ asset, landing store action asset = creditOf store.assetOf action asset) ↔
      (action.actionType = .creditBalance → ∀ balance,
        store.getBalanceById action.targetObject = some balance →
          balance.amount.toNat + (quantity action).toNat < 2 ^ 128) := by
  constructor
  · intro same credit balance found
    have same := same balance.assetId
    have room := balance.amount.isLt
    simp only [landing, creditOf, found, ObjectStore.assetOf_eq found, credit, true_and, if_true] at same
    omega
  · intro fits asset
    by_cases credit : action.actionType = .creditBalance
    · simp only [covered, credit] at enough
      obtain ⟨balance, found⟩ := Option.isSome_iff_exists.1 enough
      have fits := fits credit balance found
      simp only [landing, creditOf, found, ObjectStore.assetOf_eq found, credit, true_and, Option.some.injEq]
      split
      · omega
      · rfl
    · have least := landing_le store action asset
      rw [creditOf, if_neg fun both => credit both.1] at least ⊢
      exact Nat.le_zero.1 least

theorem landed_le {actions : List PlanAction} (all : allCovered store actions = true) (asset : Bytes32) :
    landed store actions asset ≤ credits store.assetOf actions asset := by
  induction actions generalizing store with
  | nil => exact Nat.le_refl _
  | cons action rest ih =>
      rw [allCovered, Bool.and_eq_true] at all
      have later := ih all.2
      rw [(total_perform all.1).1] at later
      exact Nat.add_le_add (landing_le store action asset) later

theorem landed_eq_iff {actions : List PlanAction} (all : allCovered store actions = true) :
    (∀ asset, landed store actions asset = credits store.assetOf actions asset) ↔
      CreditsFit store actions := by
  induction actions generalizing store with
  | nil => exact ⟨fun _ => trivial, fun _ _ => rfl⟩
  | cons action rest ih =>
      rw [allCovered, Bool.and_eq_true] at all
      have labels := (total_perform all.1).1
      rw [CreditsFit, ← landing_eq_iff all.1, ← ih all.2, labels]
      constructor
      · intro same
        have parts : ∀ asset, landing store action asset = creditOf store.assetOf action asset ∧
            landed (perform store action) rest asset = credits store.assetOf rest asset := by
          intro asset
          have same := same asset
          have first := landing_le store action asset
          have later := landed_le all.2 asset
          rw [labels] at later
          simp only [landed, credits, List.map_cons, List.sum_cons] at same later ⊢
          omega
        exact ⟨fun asset => (parts asset).1, fun asset => (parts asset).2⟩
      · rintro ⟨first, later⟩ asset
        have later := later asset
        simp only [landed, credits, List.map_cons, List.sum_cons] at later ⊢
        rw [first, later]

end Totals

section Assembled

open CRXSettlementEngine

variable {codec : Codec} {plan : CandidatePlan} {goal : GoalPacket} {store : ObjectStore} {epoch : U64}
  {graph : CausalGraph} {capsule : RightsCapsule} {made : List CausalNode}

theorem build_ok (built : CausalPlanBuilder.build codec plan goal epoch = .ok (graph, capsule)) :
    graph = GraphAssembler.assemble codec.sha256 codec.encodeNode plan goal ∧
      capsule = RightsSynthesizer.synthesize codec.sha256 codec.encodeScope graph goal plan.solverId epoch ∧
      graph.validateAcyclic = .ok () := by
  unfold CausalPlanBuilder.build at built
  dsimp only at built
  cases acyclic : (GraphAssembler.assemble codec.sha256 codec.encodeNode plan goal).validateAcyclic with
  | error e =>
      rw [acyclic] at built
      cases built
  | ok passed =>
      rw [acyclic] at built
      obtain ⟨rfl, rfl⟩ := Prod.mk.inj (Except.ok.inj built)
      exact ⟨rfl, rfl, acyclic⟩

theorem fits_of_acyclic (chain : Chain made graph.nodes graph.edges)
    (acyclic : graph.validateAcyclic = .ok ()) : made.length ≤ 2 ^ 32 := by
  by_contra wraps
  have wraps := Nat.lt_of_not_le wraps
  have filled : graph.nodes ≠ ∅ := by
    apply chain.filled
    intro none
    rw [none] at wraps
    cases wraps
  rw [CausalGraph.validateAcyclic, chain.order_eq_nil wraps, if_pos] at acyclic
  · cases acyclic
  · intro empty
    exact filled (Std.ExtTreeMap.eq_empty_iff_size_eq_zero.2 empty.symm)

theorem branch_actionNodes (action : PlanAction) (id : NodeId) :
    ∀ node ∈ actionNodes action id, node.branchId = 0 := by
  intro node listed
  unfold actionNodes at listed
  dsimp only at listed
  repeat' split at listed
  all_goals
    simp only [List.mem_cons, List.not_mem_nil, or_false] at listed
    rcases listed with rfl | rfl <;> rfl

theorem branch_planNodes (actions : List PlanAction) (id : NodeId) :
    ∀ node ∈ planNodes actions id, node.branchId = 0 := by
  induction actions generalizing id with
  | nil =>
      intro node listed
      cases listed
  | cons action rest ih =>
      intro node listed
      rcases List.mem_append.1 listed with here | later
      · exact branch_actionNodes action id node here
      · exact ih _ node later

theorem branchNodeIds_eq (chain : Chain made graph.nodes graph.edges) (fits : made.length ≤ 2 ^ 32)
    (ordered : graph.topologicalOrder = CausalGraph.computeTopologicalOrder graph.nodes graph.edges)
    (branch : ∀ node ∈ made, node.branchId = 0) : branchNodeIds graph 0 = Chain.line made.length := by
  rw [branchNodeIds, ordered, chain.order_eq fits]
  apply List.filter_eq_self.2
  intro id listed
  obtain ⟨i, inside, rfl⟩ := List.mem_map.1 listed
  rw [List.mem_range] at inside
  rw [chain.lookup fits, BitVec.toNat_ofNat, Nat.mod_eq_of_lt (by omega), List.getElem?_eq_getElem inside,
    Option.any_some]
  exact decide_eq_true (branch _ (List.getElem_mem inside))

theorem isReverted_of_finalized (goal : GoalPacket) (settlementClass : ExecutionSettlementClass)
    (kept : (FinalityClassifier.baseClassify settlementClass goal.policy.partialFailurePolicy).1 ≠ .reverted)
    (partly : settlementClass ≠ .fullRevert) (domainPolicies : List DomainFinalityPolicy) :
    isReverted (FinalityClassifier.classify settlementClass goal domainPolicies) settlementClass = false := by
  apply decide_eq_false
  rintro (reverted | whole)
  · unfold FinalityClassifier.classify at reverted
    dsimp only at reverted
    split at reverted
    · cases reverted
    · exact kept reverted
  · exact partly whole

theorem isReverted_fullRevert (finality : SettlementDisposition) : isReverted finality .fullRevert = true :=
  decide_eq_true (Or.inr rfl)

def classOf (policy : PartialFailurePolicy) (failed : Bool) : ExecutionSettlementClass :=
  match failed, policy with
  | false, _ => .fullSuccess
  | true, .strictAllOrNothing | true, .quarantineOnFailure => .fullRevert
  | true, .allowBranchDowngrade | true, .downgradeAndContinue => .successWithDowngrade 0

theorem execute_single {ids order : List NodeId} {failureAllowed : Bool}
    (branch : branchNodeIds graph 0 = ids) (branches : graph.branches = [⟨0, order, true, failureAllowed⟩])
    (rights : capsule.scope.allowDowngrade =
      (RightsSynthesizer.failureRights goal.policy.partialFailurePolicy).allowDowngrade ∧
      capsule.scope.quarantineEligible =
        (RightsSynthesizer.failureRights goal.policy.partialFailurePolicy).quarantineEligible) :
    (execute graph capsule goal store).2.store = (runNodes graph ids store []).store ∧
      (execute graph capsule goal store).1 =
        classOf goal.policy.partialFailurePolicy (runNodes graph ids store []).failure.isSome := by
  rw [execute, branches]
  simp only [executeBranches, branch]
  cases failure : (runNodes graph ids store []).failure with
  | none => exact ⟨rfl, rfl⟩
  | some failed =>
      dsimp only
      cases policy : goal.policy.partialFailurePolicy with
      | strictAllOrNothing => exact ⟨rfl, rfl⟩
      | quarantineOnFailure =>
          rw [policy] at rights
          have mode : determineFailureMode .quarantineOnFailure capsule failureAllowed = .quarantine :=
            if_pos rights.2
          rw [mode, if_neg nofun]
          exact ⟨rfl, rfl⟩
      | allowBranchDowngrade =>
          rw [policy] at rights
          have mode : determineFailureMode .allowBranchDowngrade capsule failureAllowed = .downgrade :=
            if_pos rights.1
          rw [mode, if_neg nofun]
          exact ⟨rfl, rfl⟩
      | downgradeAndContinue =>
          rw [policy] at rights
          have mode : determineFailureMode .downgradeAndContinue capsule failureAllowed = .downgrade :=
            if_pos rights.1
          rw [mode, if_neg nofun]
          exact ⟨rfl, rfl⟩

theorem isReverted_classOf (failed : Bool) (domainPolicies : List DomainFinalityPolicy) :
    isReverted (FinalityClassifier.classify (classOf goal.policy.partialFailurePolicy failed) goal
        domainPolicies) (classOf goal.policy.partialFailurePolicy failed) = true ↔
      failed = true ∧ (goal.policy.partialFailurePolicy = .strictAllOrNothing ∨
        goal.policy.partialFailurePolicy = .quarantineOnFailure) := by
  cases failed with
  | false =>
      have kept := isReverted_of_finalized goal .fullSuccess nofun nofun domainPolicies
      rw [classOf, kept]
      exact ⟨nofun, fun both => nomatch both.1⟩
  | true =>
      cases policy : goal.policy.partialFailurePolicy with
      | strictAllOrNothing => exact ⟨fun _ => ⟨rfl, Or.inl rfl⟩, fun _ => isReverted_fullRevert _⟩
      | quarantineOnFailure => exact ⟨fun _ => ⟨rfl, Or.inr rfl⟩, fun _ => isReverted_fullRevert _⟩
      | allowBranchDowngrade | downgradeAndContinue =>
          have kept := isReverted_of_finalized goal (.successWithDowngrade 0) (by rw [policy]; exact nofun)
            nofun domainPolicies
          rw [classOf, kept]
          exact ⟨nofun, fun both => both.2.elim nofun nofun⟩

theorem balances_reverted {nodes : List CausalNode} {after : ObjectStore}
    (run : RunStep graph nodes store after) :
    ((StoreSnapshot.take store (objectIds graph)).restore
      after.syncTypedToCanonical).syncTypedToCanonical.balances = store.balances := by
  apply KeyedMap.ext
  intro id
  exact congrArg Cell.balance (cell_reverted run id)

theorem built_branch (built : CausalPlanBuilder.build codec plan goal epoch = .ok (graph, capsule)) :
    ∃ root, (root = [] ∨ ∃ rootId, root = [rootNode rootId]) ∧
      (graph.topologicalOrder.filterMap fun id => graph.nodes[id]?) = planNodes plan.actions 0 ++ root ∧
      branchNodeIds graph 0 = graph.topologicalOrder ∧
      graph.branches = [⟨0, graph.topologicalOrder, true,
        decide (goal.policy.partialFailurePolicy ≠ .strictAllOrNothing)⟩] := by
  obtain ⟨assembled, -, acyclic⟩ := build_ok built
  obtain ⟨root, rootId, shape, chain⟩ := assembly_chain plan
  have ordered : graph.topologicalOrder = CausalGraph.computeTopologicalOrder graph.nodes graph.edges := by
    rw [assembled]
    rfl
  have chain : Chain (planNodes plan.actions 0 ++ root) graph.nodes graph.edges := by
    rw [assembled]
    exact chain
  have fits := fits_of_acyclic chain acyclic
  have branch : ∀ node ∈ planNodes plan.actions 0 ++ root, node.branchId = 0 := by
    intro node listed
    rcases List.mem_append.1 listed with planned | last
    · exact branch_planNodes _ _ node planned
    · rcases shape with rfl | rfl
      · cases last
      · rw [List.mem_singleton.1 last]
        rfl
  refine ⟨root, shape.imp_right fun same => ⟨rootId, same⟩, ?_, ?_, ?_⟩
  · rw [ordered, chain.order_eq fits, chain.filterMap_line fits]
  · rw [branchNodeIds_eq chain fits ordered branch, ordered, chain.order_eq fits]
  · rw [assembled]
    rfl

theorem execute_built (built : CausalPlanBuilder.build codec plan goal epoch = .ok (graph, capsule)) :
    ∃ root, (root = [] ∨ ∃ rootId, root = [rootNode rootId]) ∧
      (graph.topologicalOrder.filterMap fun id => graph.nodes[id]?) = planNodes plan.actions 0 ++ root ∧
      (execute graph capsule goal store).2.store = (runList (planNodes plan.actions 0 ++ root) store).1 ∧
      (execute graph capsule goal store).1 = classOf goal.policy.partialFailurePolicy
        (!(runList (planNodes plan.actions 0 ++ root) store).2) := by
  obtain ⟨-, granted, -⟩ := build_ok built
  obtain ⟨root, shape, order, branch, branches⟩ := built_branch built
  have ran := runNodes_eq graph graph.topologicalOrder store []
  rw [order] at ran
  obtain ⟨left, outcome⟩ := @execute_single goal store graph capsule _ _ _ branch branches
    (by rw [granted]; exact ⟨rfl, rfl⟩)
  refine ⟨root, shape, order, ?_, ?_⟩
  · rw [left, ← ran]
  · rw [outcome, ← ran, ← Option.not_isSome, Bool.not_not]

theorem settleGraph_balances (domainPolicies : List DomainFinalityPolicy)
    (built : CausalPlanBuilder.build codec plan goal epoch = .ok (graph, capsule))
    (accepted : (verdictOn codec.sha256 plan goal graph capsule store epoch).accepts = true) :
    (settleGraph codec.sha256 plan goal graph capsule store domainPolicies epoch).2.balances =
      if allCovered store plan.actions = false ∧ (goal.policy.partialFailurePolicy = .strictAllOrNothing ∨
        goal.policy.partialFailurePolicy = .quarantineOnFailure) then store.balances
      else ((carriedOut store plan.actions).foldl perform store).balances := by
  obtain ⟨root, shape, -, left, outcome⟩ := @execute_built _ _ _ store _ _ _ built
  obtain ⟨all, balances⟩ := run_plan plan.actions 0 shape store
  rw [all] at outcome
  obtain ⟨-, -, settled⟩ := settleGraph_of_accepted domainPolicies accepted
  have run := @executeBranches_step graph capsule goal graph.branches
    { store, branchResults := [], allSucceeded := [], allFailed := [], allQuarantined := []
      anyDowngrade := none }
  rw [settled]
  by_cases undone : allCovered store plan.actions = false ∧
      (goal.policy.partialFailurePolicy = .strictAllOrNothing ∨
        goal.policy.partialFailurePolicy = .quarantineOnFailure)
  · have reverted := (@isReverted_classOf goal (!allCovered store plan.actions) domainPolicies).2
      ⟨by rw [undone.1]; rfl, undone.2⟩
    rw [if_pos undone, outcome, reverted, if_pos rfl]
    exact balances_reverted run
  · have kept : ¬isReverted (FinalityClassifier.classify (execute graph capsule goal store).1 goal
        domainPolicies) (execute graph capsule goal store).1 = true := by
      rw [outcome, isReverted_classOf]
      intro both
      exact undone ⟨by simpa using both.1, both.2⟩
    rw [if_neg undone, if_neg kept, ObjectStore.sync_balances, left, balances]

end Assembled

section Settlement

open CRXSettlementEngine

variable (codec : Codec) (plan : CandidatePlan) (goal : GoalPacket) (store : ObjectStore)
  (domainPolicies : List DomainFinalityPolicy) (epoch : U64)

def TurnedDown : Prop :=
  ∀ graph capsule, CausalPlanBuilder.build codec plan goal epoch = .ok (graph, capsule) →
    (verdictOn codec.sha256 plan goal graph capsule store epoch).accepts = false

def Balanced (actions : List PlanAction) : Prop :=
  ∀ asset, debits store.assetOf actions asset = credits store.assetOf actions asset

theorem settle_of_turnedDown (turned : TurnedDown codec plan goal store epoch) :
    (settle codec plan goal store domainPolicies epoch).2 = store := by
  unfold settle
  cases built : CausalPlanBuilder.build codec plan goal epoch with
  | error e => rfl
  | ok pair =>
      dsimp only
      rw [settleGraph_of_refused (turned pair.1 pair.2 built)]

theorem settle_balances (taken : ¬TurnedDown codec plan goal store epoch) :
    (settle codec plan goal store domainPolicies epoch).2.balances =
      if allCovered store plan.actions = false ∧ (goal.policy.partialFailurePolicy = .strictAllOrNothing ∨
        goal.policy.partialFailurePolicy = .quarantineOnFailure) then store.balances
      else ((carriedOut store plan.actions).foldl perform store).balances := by
  simp only [TurnedDown, not_forall, Bool.not_eq_false] at taken
  obtain ⟨graph, capsule, built, accepted⟩ := taken
  rw [← settleGraph_balances domainPolicies built accepted, settle, built]

variable {codec plan goal store epoch} {domainPolicies}

theorem carried_total_iff (asset : Bytes32) :
    ((carriedOut store plan.actions).foldl perform store).balanceTotal asset = store.balanceTotal asset ↔
      debits store.assetOf (carriedOut store plan.actions) asset =
        landed store (carriedOut store plan.actions) asset := by
  have total := total_carriedOut plan.actions store asset
  constructor
  · intro same
    omega
  · intro even
    omega

/-- A balanced plan keeps the total of every asset over the balances just when it is turned down, when all
its actions are carried out and no credit overflows, or when one is refused and either the policy undoes
the others or those before it balance by themselves. -/
theorem balances_conserved_iff (balanced : Balanced store plan.actions) :
    (∀ asset, (settle codec plan goal store domainPolicies epoch).2.balanceTotal asset =
        store.balanceTotal asset) ↔
      TurnedDown codec plan goal store epoch ∨
      allCovered store plan.actions = true ∧ CreditsFit store plan.actions ∨
      allCovered store plan.actions = false ∧
        (goal.policy.partialFailurePolicy = .strictAllOrNothing ∨
          goal.policy.partialFailurePolicy = .quarantineOnFailure ∨
          ∀ asset, debits store.assetOf (carriedOut store plan.actions) asset =
            landed store (carriedOut store plan.actions) asset) := by
  by_cases turned : TurnedDown codec plan goal store epoch
  · rw [settle_of_turnedDown codec plan goal store domainPolicies epoch turned]
    exact ⟨fun _ => Or.inl turned, fun _ _ => rfl⟩
  have balances := settle_balances codec plan goal store domainPolicies epoch turned
  have totals : ∀ next : ObjectStore,
      (settle codec plan goal store domainPolicies epoch).2.balances = next.balances → ∀ asset,
      (settle codec plan goal store domainPolicies epoch).2.balanceTotal asset = next.balanceTotal asset := by
    intro next same asset
    rw [ObjectStore.balanceTotal, same]
    rfl
  cases all : allCovered store plan.actions with
  | true =>
      rw [all, if_neg fun both => nomatch both.1] at balances
      have each : ∀ asset, (settle codec plan goal store domainPolicies epoch).2.balanceTotal asset =
          store.balanceTotal asset ↔ landed store plan.actions asset =
            credits store.assetOf plan.actions asset := by
        intro asset
        rw [totals _ balances, carried_total_iff, carriedOut_eq_self all, balanced, eq_comm]
      simp only [each, landed_eq_iff all, turned, false_or, true_and, Bool.true_eq_false, false_and,
        or_false]
  | false =>
      simp only [turned, Bool.false_eq_true, false_and, false_or, true_and]
      by_cases undone : goal.policy.partialFailurePolicy = .strictAllOrNothing ∨
          goal.policy.partialFailurePolicy = .quarantineOnFailure
      · rw [if_pos ⟨all, undone⟩] at balances
        exact ⟨fun _ => (or_assoc.1 (Or.inl undone)), fun _ => totals store balances⟩
      · rw [if_neg fun both => undone both.2] at balances
        rw [← or_assoc, or_iff_right undone]
        simp only [totals _ balances, carried_total_iff]

section Example

/-! The debit of the stranded plan is kept although its credit is never reached. -/

def downgradeCodec : Codec :=
  .bincode (strandedSha256 0x11ec89dc3b6a6f4a330cb0b62c777b87b4669cfe456ad01735ae8dca1acd85f6)

theorem strandedPlan_balanced : Balanced strandedStore strandedPlan.actions := by
  have labels : strandedStore.assetOf 8#256 = strandedStore.assetOf 6#256 := by decide +kernel
  intro asset
  simp [debits, credits, debitOf, creditOf, strandedPlan, quantity, labels]

theorem stranded_debit_lost :
    Balanced strandedStore strandedPlan.actions ∧
      (CRXSettlementEngine.settle downgradeCodec strandedPlan (strandedGoal .allowBranchDowngrade)
        strandedStore [] 3).2.balanceTotal 77 ≠ strandedStore.balanceTotal 77 :=
  ⟨strandedPlan_balanced, by decide +kernel⟩

theorem stranded_debit_iff :
    Balanced strandedStore strandedPlan.actions ∧
      ((∀ asset, (CRXSettlementEngine.settle downgradeCodec strandedPlan (strandedGoal .allowBranchDowngrade)
          strandedStore [] 3).2.balanceTotal asset = strandedStore.balanceTotal asset) ↔
        TurnedDown downgradeCodec strandedPlan (strandedGoal .allowBranchDowngrade) strandedStore 3 ∨
        allCovered strandedStore strandedPlan.actions = true ∧
          CreditsFit strandedStore strandedPlan.actions ∨
        allCovered strandedStore strandedPlan.actions = false ∧
          (PartialFailurePolicy.allowBranchDowngrade = .strictAllOrNothing ∨
            PartialFailurePolicy.allowBranchDowngrade = .quarantineOnFailure ∨
            ∀ asset, debits strandedStore.assetOf (carriedOut strandedStore strandedPlan.actions) asset =
              landed strandedStore (carriedOut strandedStore strandedPlan.actions) asset)) :=
  ⟨strandedPlan_balanced, balances_conserved_iff strandedPlan_balanced⟩

end Example

end Settlement

end Omniphi.Crx
