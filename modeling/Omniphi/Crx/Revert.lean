import Omniphi.Crx.Settlement
import Omniphi.Runtime.Cells

/-! What a settlement that reports a revert or a rejection leaves behind. The snapshot covers the typed
overlays alone, so a version that was raised on a canonical object stays raised. -/

namespace Omniphi.Crx

open Omniphi.Runtime

def bumpVersion (object : BoxedObject) : BoxedObject :=
  object.modifyInfo fun info => { info with version := info.version + 1 }

theorem iterate_bumpVersion (n : Nat) (object : BoxedObject) :
    bumpVersion^[n] object =
      object.modifyInfo fun info => { info with version := info.version + BitVec.ofNat 64 n } := by
  induction n with
  | zero =>
      show object = _
      cases object <;> simp [BoxedObject.modifyInfo]
  | succ n ih =>
      rw [Function.iterate_succ_apply', ih, BitVec.ofNat_add]
      cases object <;> simp [bumpVersion, BoxedObject.modifyInfo, BitVec.add_assoc]

theorem iterate_bumpVersion_eq_self {n : Nat} {object : BoxedObject} :
    bumpVersion^[n] object = object ↔ 2 ^ 64 ∣ n := by
  rw [iterate_bumpVersion]
  constructor
  · intro same
    have version := congrArg (fun object => object.info.version) same
    simp only [BoxedObject.info_modifyInfo] at version
    have zero : BitVec.ofNat 64 n = 0 := by
      exact (BitVec.add_right_eq_self).1 version
    have zero := congrArg BitVec.toNat zero
    rw [BitVec.toNat_ofNat] at zero
    exact Nat.dvd_of_mod_eq_zero zero
  · intro divides
    have zero : BitVec.ofNat 64 n = 0 := by
      apply BitVec.eq_of_toNat_eq
      rw [BitVec.toNat_ofNat, Nat.mod_eq_zero_of_dvd divides]
      rfl
    rw [zero]
    cases object <;> simp [BoxedObject.modifyInfo]

/-- What execution may do to one cell: overlays stay present or absent, vaults stay as they are, and an
object without an overlay changes by `bumps` versions. -/
structure Drift (bumps : Nat) (before after : Cell) : Prop where
  balance : after.balance.isSome = before.balance.isSome
  pool : after.pool.isSome = before.pool.isSome
  vault : after.vault = before.vault
  object : after.object.isSome = before.object.isSome
  bare : before.overlay = none → after.object = before.object.map bumpVersion^[bumps]

namespace Drift

variable {n m : Nat} {before mid after : Cell}

theorem refl (cell : Cell) : Drift 0 cell cell := by
  constructor
  · rfl
  · rfl
  · rfl
  · rfl
  · intro _
    exact Option.map_id'.symm

theorem overlay (drift : Drift n before after) (bare : before.overlay = none) : after.overlay = none := by
  obtain ⟨vault, typed⟩ : before.vault = none ∧ before.pool = none ∧ before.balance = none := by
    simpa [Cell.overlay] using bare
  have pool : after.pool = none := by
    rw [← Option.not_isSome_iff_eq_none, drift.pool, typed.1]
    exact Bool.false_ne_true
  have balance : after.balance = none := by
    rw [← Option.not_isSome_iff_eq_none, drift.balance, typed.2]
    exact Bool.false_ne_true
  simp [Cell.overlay, drift.vault, vault, pool, balance]

theorem trans (first : Drift n before mid) (second : Drift m mid after) : Drift (n + m) before after := by
  constructor
  · exact second.balance.trans first.balance
  · exact second.pool.trans first.pool
  · exact second.vault.trans first.vault
  · exact second.object.trans first.object
  · intro bare
    rw [second.bare (first.overlay bare), first.bare bare, Option.map_map, Nat.add_comm,
      Function.iterate_add]

theorem modifyBalance (cell : Cell) (change : BalanceObject → BalanceObject) :
    Drift 0 cell (cell.modifyBalance change) := by
  constructor
  · exact Option.isSome_map
  · rfl
  · rfl
  · rfl
  · exact (refl cell).bare

theorem modifyPool (cell : Cell) (change : LiquidityPoolObject → LiquidityPoolObject) :
    Drift 0 cell (cell.modifyPool change) := by
  constructor
  · rfl
  · exact Option.isSome_map
  · rfl
  · rfl
  · exact (refl cell).bare

theorem bumpObject (cell : Cell) : Drift 1 cell { cell with object := cell.object.map bumpVersion } := by
  constructor
  · rfl
  · rfl
  · rfl
  · exact Option.isSome_map
  · intro _
    rfl

theorem of_typed (drift : Drift n before after) (typed : before.overlay ≠ none) : Drift m before after :=
  { drift with bare := fun bare => absurd bare typed }

end Drift

def bumpsOf (node : CausalNode) (id : ObjectId) : Nat :=
  if node.executionClass = .finalizeSettlement ∧ node.targetObject = some id then 1 else 0

structure NodeStep (node : CausalNode) (store next : ObjectStore) : Prop where
  elsewhere : ∀ id, node.targetObject ≠ some id → next.cell id = store.cell id
  drift : ∀ id, Drift (bumpsOf node id) (store.cell id) (next.cell id)

namespace NodeStep

variable {node : CausalNode} {store next : ObjectStore} {id : ObjectId}

theorem of_update (target : node.targetObject = some id) {cell : Cell}
    (cells : next.cell = Function.update store.cell id cell)
    (drift : Drift (bumpsOf node id) (store.cell id) cell) : NodeStep node store next := by
  have elsewhere : ∀ other, node.targetObject ≠ some other → next.cell other = store.cell other := by
    intro other differ
    have apart : other ≠ id := by
      intro same
      exact differ (same ▸ target)
    rw [cells, Function.update_of_ne apart]
  refine ⟨elsewhere, fun other => ?_⟩
  by_cases here : other = id
  · subst here
    rw [cells, Function.update_self]
    exact drift
  · have differ : node.targetObject ≠ some other := by
      intro same
      exact here (Option.some.inj (same.symm.trans target))
    have none : bumpsOf node other = 0 := if_neg fun both => differ both.2
    rw [elsewhere other differ, none]
    exact Drift.refl _

theorem unchanged (kept : ∀ id, bumpsOf node id = 0) : NodeStep node store store := by
  refine ⟨fun _ _ => rfl, fun id => ?_⟩
  rw [kept]
  exact Drift.refl _

theorem modifyBalance (target : node.targetObject = some id) (kept : bumpsOf node id = 0)
    (change : BalanceObject → BalanceObject) (keeps : ∀ balance, (change balance).id = balance.id) :
    NodeStep node store (store.modifyBalance id change keeps) := by
  apply of_update target (store.cell_modifyBalance id change keeps)
  rw [kept]
  exact Drift.modifyBalance _ change

theorem modifyPool (target : node.targetObject = some id) (kept : bumpsOf node id = 0)
    (change : LiquidityPoolObject → LiquidityPoolObject) (keeps : ∀ pool, (change pool).id = pool.id) :
    NodeStep node store (store.modifyPool id change keeps) := by
  apply of_update target (store.cell_modifyPool id change keeps)
  rw [kept]
  exact Drift.modifyPool _ change

theorem modifyPool_twice (target : node.targetObject = some id) (kept : bumpsOf node id = 0)
    (first second : LiquidityPoolObject → LiquidityPoolObject) (keeps : ∀ pool, (first pool).id = pool.id)
    (keeps' : ∀ pool, (second pool).id = pool.id) :
    NodeStep node store ((store.modifyPool id first keeps).modifyPool id second keeps') := by
  have cells := (store.modifyPool id first keeps).cell_modifyPool id second keeps'
  rw [store.cell_modifyPool, Function.update_idem, Function.update_self] at cells
  apply of_update target cells
  rw [kept]
  exact (Drift.modifyPool _ first).trans (Drift.modifyPool _ second)

theorem bumpTarget (target : node.targetObject = some id) (finalizes : bumpsOf node id = 1) :
    NodeStep node store (BranchAwareExecutor.bumpTarget store id) := by
  unfold BranchAwareExecutor.bumpTarget
  split
  · rename_i held
    apply of_update target (store.cell_modifyBalance id _ _)
    apply (Drift.modifyBalance _ _).of_typed
    intro bare
    have absent : (store.cell id).balance = none := by
      simp only [Cell.overlay, Option.orElse_eq_none, Option.map_eq_none_iff] at bare
      exact bare.2.2
    rw [ObjectStore.getBalanceById_eq, absent] at held
    cases held
  split
  · rename_i held
    apply of_update target (store.cell_modifyPool id _ _)
    apply (Drift.modifyPool _ _).of_typed
    intro bare
    have absent : (store.cell id).pool = none := by
      simp only [Cell.overlay, Option.orElse_eq_none, Option.map_eq_none_iff] at bare
      exact bare.2.1
    rw [ObjectStore.getPoolById_eq, absent] at held
    cases held
  · apply of_update target (store.cell_modifyInfo id _ _)
    rw [finalizes]
    exact Drift.bumpObject _

end NodeStep

section Node

open BranchAwareExecutor

variable (node : CausalNode) (store : ObjectStore)

theorem bumpsOf_eq_zero (other : node.executionClass ≠ .finalizeSettlement) (id : ObjectId) :
    bumpsOf node id = 0 :=
  if_neg fun both => other both.1

theorem executeNode_step : NodeStep node store (executeNode node store).1 := by
  cases kind : node.executionClass with
  | finalizeSettlement =>
      simp only [executeNode, kind, finalizeSettlement]
      cases target : node.targetObject with
      | none =>
          apply NodeStep.unchanged
          intro id
          exact if_neg fun both => Option.some_ne_none id (both.2.symm.trans target)
      | some id => exact NodeStep.bumpTarget target (if_pos ⟨kind, target⟩)
  | mutateBalance =>
      have kept := bumpsOf_eq_zero node (by simp [kind])
      simp only [executeNode, kind, mutateBalance, onTarget, onBalance]
      cases target : node.targetObject with
      | none => exact NodeStep.unchanged kept
      | some id =>
          dsimp only
          repeat' split
          all_goals first
            | exact NodeStep.unchanged kept
            | exact NodeStep.modifyBalance target (kept id) _ _
  | swapPoolAmounts =>
      have kept := bumpsOf_eq_zero node (by simp [kind])
      simp only [executeNode, kind, swapPoolAmounts, onTarget]
      cases target : node.targetObject with
      | none => exact NodeStep.unchanged kept
      | some id =>
          dsimp only
          repeat' split
          all_goals first
            | exact NodeStep.unchanged kept
            | exact NodeStep.modifyPool target (kept id) _ _
            | exact NodeStep.modifyPool_twice target (kept id) _ _ _ _
  | lockObject | unlockObject =>
      have kept := bumpsOf_eq_zero node (by simp [kind])
      simp only [executeNode, kind, lockObject, unlockObject, onTarget, onBalance]
      cases target : node.targetObject with
      | none => exact NodeStep.unchanged kept
      | some id =>
          dsimp only
          repeat' split
          all_goals first
            | exact NodeStep.unchanged kept
            | exact NodeStep.modifyBalance target (kept id) _ _
  | readObject | checkBalance | checkPolicy =>
      have kept := bumpsOf_eq_zero node (by simp [kind])
      simp only [executeNode, kind, readObject, checkBalance, onBalance]
      repeat' split
      all_goals exact NodeStep.unchanged kept
  | _ =>
      have kept := bumpsOf_eq_zero node (by simp [kind])
      simp only [executeNode, kind]
      exact NodeStep.unchanged kept

theorem bumpsOf_failed {e : RuntimeError} (failed : (executeNode node store).2 = .error e)
    (id : ObjectId) : bumpsOf node id = 0 := by
  apply bumpsOf_eq_zero
  intro kind
  simp only [executeNode, kind, finalizeSettlement] at failed
  split at failed
  · cases failed
  · cases failed

end Node

section Run

open BranchAwareExecutor CRXSettlementEngine

def ranNodes (graph : CausalGraph) : List NodeId → ObjectStore → List CausalNode
  | [], _ => []
  | nodeId :: rest, store =>
      match graph.nodes[nodeId]? with
      | none => ranNodes graph rest store
      | some node =>
          match executeNode node store with
          | (next, .ok ()) => node :: ranNodes graph rest next
          | (_, .error _) => []

def ranBranches (graph : CausalGraph) (policy : PartialFailurePolicy) :
    List ExecutionBranch → ObjectStore → List CausalNode
  | [], _ => []
  | branch :: rest, store =>
      let ids := branchNodeIds graph branch.branchId
      let run := runNodes graph ids store []
      ranNodes graph ids store ++
        if run.failure.isSome ∧ policy = .strictAllOrNothing then []
        else ranBranches graph policy rest run.store

def finalizations (nodes : List CausalNode) (id : ObjectId) : Nat :=
  nodes.countP fun node => node.executionClass = .finalizeSettlement ∧ node.targetObject = some id

theorem finalizations_cons (node : CausalNode) (nodes : List CausalNode) (id : ObjectId) :
    finalizations (node :: nodes) id = bumpsOf node id + finalizations nodes id := by
  rw [finalizations, List.countP_cons, Nat.add_comm]
  simp only [bumpsOf, finalizations, decide_eq_true_eq]

theorem finalizations_append (nodes later : List CausalNode) (id : ObjectId) :
    finalizations (nodes ++ later) id = finalizations nodes id + finalizations later id :=
  List.countP_append

structure RunStep (graph : CausalGraph) (nodes : List CausalNode) (store next : ObjectStore) : Prop where
  elsewhere : ∀ id, id ∉ objectIds graph → next.cell id = store.cell id
  drift : ∀ id, Drift (finalizations nodes id) (store.cell id) (next.cell id)

variable {graph : CausalGraph}

theorem mem_objectIds {nodeId : NodeId} {node : CausalNode} {id : ObjectId}
    (found : graph.nodes[nodeId]? = some node) (target : node.targetObject = some id) :
    id ∈ objectIds graph := by
  have listed : node ∈ graph.values :=
    List.mem_map.2 ⟨(nodeId, node), Std.ExtTreeMap.mem_toList_iff_getElem?_eq_some.2 found, rfl⟩
  exact List.mem_filterMap.2 ⟨node, listed, target⟩

namespace RunStep

variable {nodes later : List CausalNode} {store mid next : ObjectStore}

theorem refl (store : ObjectStore) : RunStep graph [] store store :=
  ⟨fun _ _ => rfl, fun _ => Drift.refl _⟩

theorem trans (first : RunStep graph nodes store mid) (second : RunStep graph later mid next) :
    RunStep graph (nodes ++ later) store next := by
  constructor
  · intro id outside
    exact (second.elsewhere id outside).trans (first.elsewhere id outside)
  · intro id
    rw [finalizations_append]
    exact (first.drift id).trans (second.drift id)

theorem of_node {nodeId : NodeId} {node : CausalNode} (found : graph.nodes[nodeId]? = some node)
    (step : NodeStep node store next) : RunStep graph [node] store next := by
  constructor
  · intro id outside
    apply step.elsewhere
    intro target
    exact outside (mem_objectIds found target)
  · intro id
    rw [finalizations_cons]
    exact step.drift id

end RunStep

theorem runNodes_step (ids : List NodeId) (store : ObjectStore) (mutatedObjects : List ObjectId) :
    RunStep graph (ranNodes graph ids store) store (runNodes graph ids store mutatedObjects).store := by
  induction ids generalizing store mutatedObjects with
  | nil => exact RunStep.refl store
  | cons nodeId rest ih =>
      unfold ranNodes runNodes
      cases found : graph.nodes[nodeId]? with
      | none => exact ih store mutatedObjects
      | some node =>
          have step := RunStep.of_node found (executeNode_step node store)
          dsimp only
          rcases ran : executeNode node store with ⟨next, outcome⟩
          rw [ran] at step
          cases outcome with
          | ok done => exact step.trans (ih next _)
          | error e =>
              have none := bumpsOf_failed node store (congrArg Prod.snd ran)
              refine ⟨step.elsewhere, fun id => ?_⟩
              have drift := step.drift id
              rw [finalizations_cons, none] at drift
              exact drift

variable {capsule : RightsCapsule} {goal : GoalPacket}

@[simp] theorem store_noteFailure (execution : Execution) (branchId : U32) (run : BranchRun)
    (failedNode : NodeId) (reason : String) (mode : BranchFailureMode) :
    (noteFailure graph execution branchId run failedNode reason mode).store = run.store := by
  cases mode <;> rfl

theorem executeBranches_step (branches : List ExecutionBranch) (execution : Execution) :
    RunStep graph (ranBranches graph goal.policy.partialFailurePolicy branches execution.store)
      execution.store (executeBranches graph capsule goal branches execution).2.store := by
  induction branches generalizing execution with
  | nil => exact RunStep.refl execution.store
  | cons branch rest ih =>
      have step := @runNodes_step graph (branchNodeIds graph branch.branchId) execution.store []
      unfold ranBranches executeBranches
      dsimp only
      cases failure : (runNodes graph (branchNodeIds graph branch.branchId) execution.store []).failure with
      | none =>
          rw [if_neg (by simp)]
          exact step.trans (ih (noteSuccess execution branch.branchId _))
      | some failed =>
          dsimp only
          by_cases strict : goal.policy.partialFailurePolicy = .strictAllOrNothing
          · have reverts : determineFailureMode goal.policy.partialFailurePolicy capsule
                branch.failureAllowed = .revert := by
              rw [strict]
              rfl
            rw [if_pos ⟨rfl, strict⟩, if_pos ⟨reverts, strict⟩, store_noteFailure, List.append_nil]
            exact step
          · rw [if_neg fun both => strict both.2, if_neg fun both => strict both.2]
            have later := ih (noteFailure graph execution branch.branchId
              (runNodes graph (branchNodeIds graph branch.branchId) execution.store []) failed.1
              failed.2.display
              (determineFailureMode goal.policy.partialFailurePolicy capsule branch.failureAllowed))
            rw [store_noteFailure] at later
            exact step.trans later

end Run

section Restore

open BranchAwareExecutor CRXSettlementEngine

theorem map_const_eq {α β : Type} {now kept : Option α} (present : now.isSome = kept.isSome) (value : β) :
    now.map (fun _ => value) = kept.map fun _ => value := by
  cases now with
  | none =>
      cases kept with
      | none => rfl
      | some _ => cases present
  | some _ =>
      cases kept with
      | none => cases present
      | some _ => rfl

variable {graph : CausalGraph} {nodes : List CausalNode} {store after : ObjectStore}

theorem cell_restore (run : RunStep graph nodes store after) (id : ObjectId) :
    ((StoreSnapshot.take store (objectIds graph)).restore after.syncTypedToCanonical).cell id =
      { store.cell id with object := (after.cell id).sync.object } := by
  have drift := run.drift id
  apply Cell.ext
  · have flushed := congrArg Cell.object (after.cell_sync id)
    exact flushed
  · apply store.balances.get?_overwrite_pick _ drift.balance
    intro outside
    exact congrArg Cell.balance (run.elsewhere id outside)
  · apply store.pools.get?_overwrite_pick _ drift.pool
    intro outside
    exact congrArg Cell.pool (run.elsewhere id outside)
  · apply store.vaults.get?_overwrite_pick _ (congrArg Option.isSome drift.vault)
    intro _
    exact drift.vault

theorem Drift.sync_object {n : Nat} {before now : Cell} (drift : Drift n before now) :
    (now.sync.object.map fun object => before.overlay.getD object) =
      before.object.map fun object => before.overlay.getD (bumpVersion^[n] object) := by
  cases typed : before.overlay with
  | none =>
      have bare : now.sync.object = now.object := by
        rw [Cell.sync, drift.overlay typed]
        exact Option.map_id'
      rw [bare, drift.bare typed, Option.map_map]
      rfl
  | some value =>
      apply map_const_eq
      rw [Cell.sync, Option.isSome_map, drift.object]

def revertedCell (cell : Cell) (bumps : Nat) : Cell :=
  { cell with object := cell.object.map fun object => cell.overlay.getD (bumpVersion^[bumps] object) }

theorem cell_reverted (run : RunStep graph nodes store after) (id : ObjectId) :
    ((StoreSnapshot.take store (objectIds graph)).restore
        after.syncTypedToCanonical).syncTypedToCanonical.cell id =
      revertedCell (store.cell id) (finalizations nodes id) := by
  rw [ObjectStore.cell_sync, cell_restore run, revertedCell, ← (run.drift id).sync_object]
  rfl

theorem reverted_eq_self_iff (run : RunStep graph nodes store after) :
    ((StoreSnapshot.take store (objectIds graph)).restore
        after.syncTypedToCanonical).syncTypedToCanonical = store ↔
      store.syncTypedToCanonical = store ∧ ∀ id, (store.get id).isSome → store.overlay id = none →
        2 ^ 64 ∣ finalizations nodes id := by
  constructor
  · intro same
    have cells : ∀ id, revertedCell (store.cell id) (finalizations nodes id) = store.cell id := by
      intro id
      rw [← cell_reverted run, same]
    constructor
    · apply ObjectStore.ext_cell
      intro id
      rw [ObjectStore.cell_sync]
      cases typed : (store.cell id).overlay with
      | none =>
          rw [Cell.sync, typed]
          exact Cell.ext Option.map_id' rfl rfl rfl
      | some value =>
          have cell := cells id
          rw [revertedCell, typed] at cell
          rw [Cell.sync, typed]
          exact cell
    · intro id held bare
      obtain ⟨object, found⟩ := Option.isSome_iff_exists.1 held
      have bare : (store.cell id).overlay = none := bare
      have kept := congrArg Cell.object (cells id)
      simp only [revertedCell, bare, Option.getD_none, ← ObjectStore.get_eq, found] at kept
      exact iterate_bumpVersion_eq_self.1 (Option.some.inj kept)
  · rintro ⟨flushed, whole⟩
    apply ObjectStore.ext_cell
    intro id
    rw [cell_reverted run]
    have cell := store.cell_sync id
    rw [flushed] at cell
    cases typed : (store.cell id).overlay with
    | some value =>
        rw [Cell.sync, typed] at cell
        rw [revertedCell, typed]
        exact cell.symm
    | none =>
        cases found : (store.cell id).object with
        | none =>
            refine Cell.ext ?_ rfl rfl rfl
            rw [revertedCell, found]
            rfl
        | some object =>
            have held : (store.get id).isSome := by
              rw [ObjectStore.get_eq, found]
              rfl
            have divides := whole id held typed
            refine Cell.ext ?_ rfl rfl rfl
            simp only [revertedCell, typed, Option.getD_none, found]
            exact congrArg some (iterate_bumpVersion_eq_self.2 divides)

end Restore

section Settlement

open BranchAwareExecutor CRXSettlementEngine

def Undone (record : CRXSettlementRecord) : Prop :=
  record.finality.finalityClass = .reverted ∨ record.finality.finalityClass = .rejected ∨
    record.settlementClass = .fullRevert ∨ record.settlementClass = .rejected

instance (record : CRXSettlementRecord) : Decidable (Undone record) := inferInstanceAs (Decidable (_ ∨ _))

theorem baseClassify_ne_rejected {settlementClass : ExecutionSettlementClass}
    (executed : settlementClass ≠ .rejected) (policy : PartialFailurePolicy) :
    (FinalityClassifier.baseClassify settlementClass policy).1 ≠ .rejected := by
  cases settlementClass with
  | rejected => exact absurd rfl executed
  | fullSuccess => exact nofun
  | fullRevert => exact nofun
  | successWithDowngrade branchId =>
      unfold FinalityClassifier.baseClassify
      dsimp only
      split <;> exact nofun
  | successWithQuarantine objects =>
      unfold FinalityClassifier.baseClassify
      dsimp only
      split <;> exact nofun
  | partialSuccess succeeded failed => cases policy <;> exact nofun

theorem classify_ne_rejected {settlementClass : ExecutionSettlementClass}
    (executed : settlementClass ≠ .rejected) (goal : GoalPacket)
    (domainPolicies : List DomainFinalityPolicy) :
    (FinalityClassifier.classify settlementClass goal domainPolicies).finalityClass ≠ .rejected := by
  have base := baseClassify_ne_rejected executed goal.policy.partialFailurePolicy
  unfold FinalityClassifier.classify
  dsimp only
  split
  · exact nofun
  · exact base

theorem settlementClass_ne_rejected (policy : PartialFailurePolicy) (execution : Execution) :
    settlementClass policy execution ≠ .rejected := by
  unfold settlementClass
  repeat' split
  all_goals exact nofun

theorem executeBranches_ne_rejected (graph : CausalGraph) (capsule : RightsCapsule) (goal : GoalPacket)
    (branches : List ExecutionBranch) (execution : Execution) :
    (executeBranches graph capsule goal branches execution).1 ≠ .rejected := by
  induction branches generalizing execution with
  | nil => exact settlementClass_ne_rejected _ execution
  | cons branch rest ih =>
      unfold executeBranches
      dsimp only
      split
      · exact ih _
      · split
        · exact nofun
        · exact ih _

variable {sha256 : Sha256} {plan : CandidatePlan} {goal : GoalPacket} {graph : CausalGraph}
  {capsule : RightsCapsule} {store : ObjectStore} {domainPolicies : List DomainFinalityPolicy} {epoch : U64}

theorem settleGraph_of_refused
    (refused : (verdictOn sha256 plan goal graph capsule store epoch).accepts = false) :
    settleGraph sha256 plan goal graph capsule store domainPolicies epoch =
      (rejection plan goal graph capsule epoch (verdictOn sha256 plan goal graph capsule store epoch)
        domainPolicies, store) := by
  rw [settleGraph, refused]
  rfl

theorem settleGraph_of_accepted (domainPolicies : List DomainFinalityPolicy)
    (accepted : (verdictOn sha256 plan goal graph capsule store epoch).accepts = true) :
    let executed := execute graph capsule goal store
    let finality := FinalityClassifier.classify executed.1 goal domainPolicies
    let settled := settleGraph sha256 plan goal graph capsule store domainPolicies epoch
    settled.1.finality = finality ∧ settled.1.settlementClass = executed.1 ∧
      settled.2 = if isReverted finality executed.1 then
        ((StoreSnapshot.take store (objectIds graph)).restore
          executed.2.store.syncTypedToCanonical).syncTypedToCanonical
      else executed.2.store.syncTypedToCanonical := by
  simp [settleGraph, accepted]

theorem isReverted_of_undone
    (accepted : (verdictOn sha256 plan goal graph capsule store epoch).accepts = true)
    (undone : Undone (settleGraph sha256 plan goal graph capsule store domainPolicies epoch).1) :
    isReverted (FinalityClassifier.classify (execute graph capsule goal store).1 goal domainPolicies)
      (execute graph capsule goal store).1 = true := by
  obtain ⟨finality, settlementClass, -⟩ := settleGraph_of_accepted domainPolicies accepted
  have executed := executeBranches_ne_rejected graph capsule goal graph.branches
    { store, branchResults := [], allSucceeded := [], allFailed := [], allQuarantined := []
      anyDowngrade := none }
  rw [Undone, finality, settlementClass] at undone
  apply decide_eq_true
  rcases undone with reverted | rejected | reverted | rejected
  · exact Or.inl reverted
  · exact absurd rejected (classify_ne_rejected executed goal domainPolicies)
  · exact Or.inr reverted
  · exact absurd rejected executed

/-- A settlement that reports a revert or a rejection leaves the store as it was just when the checks
refused it, or when the overlays were in step before it and no `FinalizeSettlement` node that ran was on a
canonical object without an overlay (as many as bring its version round do no harm). -/
theorem undone_keeps_store_iff
    (undone : Undone (settleGraph sha256 plan goal graph capsule store domainPolicies epoch).1) :
    (settleGraph sha256 plan goal graph capsule store domainPolicies epoch).2 = store ↔
      (verdictOn sha256 plan goal graph capsule store epoch).accepts = false ∨
      store.syncTypedToCanonical = store ∧ ∀ id, (store.get id).isSome → store.overlay id = none →
        2 ^ 64 ∣ finalizations
          (ranBranches graph goal.policy.partialFailurePolicy graph.branches store) id := by
  cases verdict : (verdictOn sha256 plan goal graph capsule store epoch).accepts with
  | false =>
      rw [settleGraph_of_refused verdict]
      exact ⟨fun _ => Or.inl rfl, fun _ => rfl⟩
  | true =>
      obtain ⟨-, -, settled⟩ := settleGraph_of_accepted domainPolicies verdict
      rw [settled, isReverted_of_undone verdict undone, if_pos rfl]
      have run := @executeBranches_step graph capsule goal graph.branches
        { store, branchResults := [], allSucceeded := [], allFailed := [], allQuarantined := []
          anyDowngrade := none }
      rw [execute, reverted_eq_self_iff run]
      simp

end Settlement

section Example

/-! A plan that raises the version of a wallet, debits one balance, locks more of it than is left and
would then credit another. -/

def strandedPlan : CandidatePlan :=
  { planId := 1, intentId := 2, solverId := 3
    actions :=
      [⟨.custom "update_version", 7, none, ∅⟩, ⟨.debitBalance, 8, some 4, ∅⟩,
        ⟨.lockBalance, 8, some 100, ∅⟩, ⟨.creditBalance, 6, some 4, ∅⟩]
    requiredCapabilities := [], objectReads := [], objectWrites := [], expectedOutputAmount := 0
    feeQuote := 0, qualityScore := 0, constraintProofs := [], planHash := 0, submittedAtSequence := 0
    explanation := none, metadata := ∅ }

def strandedGoal (partialFailurePolicy : PartialFailurePolicy) : GoalPacket :=
  { packetId := 5
    constraints :=
      { allowedObjectTypes := [.wallet, .balance], allowedDomains := [], forbiddenDomains := []
        maxObjectsTouched := 0 }
    policy := { partialFailurePolicy, settlementStrictness := .strict }
    deadlineEpoch := 10 }

def strandedStore : ObjectStore :=
  ((ObjectStore.new.insert (.wallet ⟨.new 7 .wallet 9 0, 9, [], 0⟩)).insert
    (.balance (.new 8 9 77 10 0))).insert (.balance (.new 6 9 77 0 0))

def strandedSha256 (capsuleHash : Bytes32) : Sha256 := fun bytes =>
  match bytes.length with
  | 51 => 0x59350da80e922700e721306cce1c5952580ed8483f3255ae4a8143be55d25a6e
  | 64 =>
      if bytes = beBytes 32 (1 : Bytes32) ++ beBytes 32 (5 : Bytes32) then
        0x908f5df3d3667e4789aec8b40fda832f2fca5df4c25dc2cec3b3aa98778bbf78
      else 0xf4e5691216507a25721552787cf9ed439f6be44b2d97b558b6bb764ef6eb0ecb
  | 803 => 0xbdc433c590d38e6da539c2179ea78a86673e9cdfa3cd28485ea151301d8382ef
  | _ => capsuleHash

def strictCodec : Codec :=
  .bincode (strandedSha256 0xce85ed898f82fc25909b7312df22fb2fd7d9786cabdae1191bb5979f5c4a7cfd)

def strandedGraph : CausalGraph :=
  GraphAssembler.assemble strictCodec.sha256 strictCodec.encodeNode strandedPlan
    (strandedGoal .strictAllOrNothing)

def strandedCapsule : RightsCapsule :=
  RightsSynthesizer.synthesize strictCodec.sha256 strictCodec.encodeScope strandedGraph
    (strandedGoal .strictAllOrNothing) 3 3

def strandedRevert : CRXSettlementRecord × ObjectStore :=
  CRXSettlementEngine.settleGraph strictCodec.sha256 strandedPlan (strandedGoal .strictAllOrNothing)
    strandedGraph strandedCapsule strandedStore [] 3

theorem stranded_wallet_bumped :
    Undone strandedRevert.1 ∧ strandedRevert.2 ≠ strandedStore := by
  refine ⟨by decide +kernel, fun same => ?_⟩
  have version : (strandedRevert.2.get 7).map (fun object => object.info.version) =
      (strandedStore.get 7).map fun object => object.info.version := by
    rw [same]
  exact absurd version (by decide +kernel)

theorem stranded_revert_iff :
    Undone strandedRevert.1 ∧ (strandedRevert.2 = strandedStore ↔
      (CRXSettlementEngine.verdictOn strictCodec.sha256 strandedPlan (strandedGoal .strictAllOrNothing)
        strandedGraph strandedCapsule strandedStore 3).accepts = false ∨
      strandedStore.syncTypedToCanonical = strandedStore ∧ ∀ id, (strandedStore.get id).isSome →
        strandedStore.overlay id = none → 2 ^ 64 ∣ finalizations
          (ranBranches strandedGraph .strictAllOrNothing strandedGraph.branches strandedStore) id) := by
  have undone : Undone strandedRevert.1 := by decide +kernel
  exact ⟨undone, undone_keeps_store_iff undone⟩

end Example

end Omniphi.Crx
