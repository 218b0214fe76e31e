import Omniphi.Crx.Chain
import Omniphi.Crx.Executor

/-! The actions of a plan, by what they need of the store and what they do to it. The nodes that assembly
makes of a plan carry its actions out in order, until one of them is refused. -/

namespace Omniphi.Crx

open Omniphi.Runtime BranchAwareExecutor

section Actions

variable (store : ObjectStore) (action : PlanAction)

def quantity : U128 := action.amount.getD 0

def swapped : Option ObjectStore :=
  let shift (key : String) (reserve : U128) : Option U128 :=
    (applyDelta reserve ((action.metadata[key]?.bind parseI128).getD 0)).toOption
  (store.getPoolById action.targetObject).bind fun pool =>
    (shift "delta_a" pool.reserveA).bind fun reserveA =>
      (shift "delta_b" pool.reserveB).map fun reserveB =>
        (store.modifyPool action.targetObject (fun p => { p with reserveA })
          fun p => p.id_reserveA reserveA).modifyPool
          action.targetObject (fun p => { p with reserveB }) fun p => p.id_reserveB reserveB

def covered : Bool :=
  let balance := store.getBalanceById action.targetObject
  match action.actionType with
  | .debitBalance | .lockBalance => balance.any fun b => quantity action ≤ b.available
  | .creditBalance | .unlockBalance => balance.isSome
  | .swapPoolAmounts => (balance.any fun b => quantity action ≤ b.available) && (swapped store action).isSome
  | .custom _ => true

def perform : ObjectStore :=
  match action.actionType with
  | .debitBalance =>
      store.modifyBalance action.targetObject (fun b => { b with amount := b.amount - quantity action })
        (fun _ => rfl)
  | .creditBalance =>
      store.modifyBalance action.targetObject
        (fun b => { b with amount := MachineInt.saturatingAdd b.amount (quantity action) }) (fun _ => rfl)
  | .swapPoolAmounts => (swapped store action).getD store
  | .lockBalance =>
      store.modifyBalance action.targetObject
        (fun b => { b with lockedAmount := MachineInt.saturatingAdd b.lockedAmount (quantity action) })
        (fun _ => rfl)
  | .unlockBalance =>
      store.modifyBalance action.targetObject
        (fun b => { b with lockedAmount := MachineInt.saturatingSub b.lockedAmount (quantity action) })
        (fun _ => rfl)
  | .custom method => if method = "update_version" then bumpTarget store action.targetObject else store

end Actions

/-- The actions before the first that is refused. -/
def carriedOut : ObjectStore → List PlanAction → List PlanAction
  | _, [] => []
  | store, action :: rest =>
      if covered store action then action :: carriedOut (perform store action) rest else []

def allCovered : ObjectStore → List PlanAction → Bool
  | _, [] => true
  | store, action :: rest => covered store action && allCovered (perform store action) rest

section Run

def runList : List CausalNode → ObjectStore → ObjectStore × Bool
  | [], store => (store, true)
  | node :: rest, store =>
      match executeNode node store with
      | (next, .ok ()) => runList rest next
      | (next, .error _) => (next, false)

theorem runList_cons_ok {node : CausalNode} {store next : ObjectStore}
    (ran : executeNode node store = (next, .ok ())) (rest : List CausalNode) :
    runList (node :: rest) store = runList rest next := by
  rw [runList, ran]

theorem runList_cons_error {node : CausalNode} {store next : ObjectStore} {e : RuntimeError}
    (failed : executeNode node store = (next, .error e)) (rest : List CausalNode) :
    runList (node :: rest) store = (next, false) := by
  rw [runList, failed]

theorem runList_append (nodes later : List CausalNode) (store : ObjectStore) :
    runList (nodes ++ later) store =
      if (runList nodes store).2 then runList later (runList nodes store).1 else runList nodes store := by
  induction nodes generalizing store with
  | nil => rfl
  | cons node rest ih =>
      rw [List.cons_append]
      rcases ran : executeNode node store with ⟨next, outcome⟩
      cases outcome with
      | ok done => rw [runList_cons_ok ran, runList_cons_ok ran, ih next]
      | error e =>
          rw [runList_cons_error ran, runList_cons_error ran]
          rfl

theorem runNodes_eq (graph : CausalGraph) (ids : List NodeId) (store : ObjectStore)
    (mutatedObjects : List ObjectId) :
    ((runNodes graph ids store mutatedObjects).store,
        (runNodes graph ids store mutatedObjects).failure.isNone) =
      runList (ids.filterMap fun id => graph.nodes[id]?) store := by
  induction ids generalizing store mutatedObjects with
  | nil => rfl
  | cons id rest ih =>
      unfold runNodes
      rw [List.filterMap_cons]
      cases graph.nodes[id]? with
      | none => exact ih store mutatedObjects
      | some node =>
          dsimp only
          rcases ran : executeNode node store with ⟨next, outcome⟩
          cases outcome with
          | ok done =>
              rw [runList_cons_ok ran]
              exact ih next _
          | error e =>
              rw [runList_cons_error ran]
              rfl

end Run

section Refinement

variable {store : ObjectStore} {action : PlanAction}

theorem modifyBalance_congr {id : ObjectId} {balance : BalanceObject}
    (found : store.getBalanceById id = some balance) {change other : BalanceObject → BalanceObject}
    (keeps : ∀ balance, (change balance).id = balance.id)
    (keeps' : ∀ balance, (other balance).id = balance.id) (same : change balance = other balance) :
    store.modifyBalance id change keeps = store.modifyBalance id other keeps' := by
  have found : store.balances.get? id = some balance := found
  have balances : store.balances.modify id change keeps = store.balances.modify id other keeps' := by
    apply KeyedMap.ext
    intro key
    rw [KeyedMap.get?_modify, KeyedMap.get?_modify]
    split
    · rename_i here
      rw [← here, found, Option.map_some, Option.map_some, same]
    · rfl
  rw [ObjectStore.modifyBalance, balances]
  rfl

section Nodes

variable (subject : String) (domainTag : Option String) (id : NodeId)

theorem run_check_missing (missing : store.getBalanceById action.targetObject = none) :
    executeNode (checkNode action subject domainTag id) store =
      (store, .error (.objectNotFound action.targetObject)) := by
  show onBalance store action.targetObject _ = _
  rw [onBalance, missing]

theorem run_check_short {balance : BalanceObject}
    (found : store.getBalanceById action.targetObject = some balance)
    (short : balance.available < quantity action) :
    executeNode (checkNode action subject domainTag id) store =
      (store, .error (.insufficientBalance (quantity action) balance.available)) := by
  show onBalance store action.targetObject _ = _
  rw [onBalance, found]
  exact if_pos short

theorem run_check_ok {balance : BalanceObject}
    (found : store.getBalanceById action.targetObject = some balance)
    (enough : ¬balance.available < quantity action) :
    executeNode (checkNode action subject domainTag id) store = (store, .ok ()) := by
  show onBalance store action.targetObject _ = _
  rw [onBalance, found]
  exact if_neg enough

end Nodes

theorem isDebit_mutateNode (direction : String) (domainTag : Option String) (id : NodeId) :
    (mutateNode action direction domainTag id).isDebit = decide (direction = "debit") := by
  show decide ((action.metadata.insert "debit_direction" direction)["debit_direction"]? = some "debit") = _
  rw [BTree.getElem?_insert, if_pos rfl]
  simp

theorem amount_mutateNode (direction : String) (domainTag : Option String) (id : NodeId) :
    (mutateNode action direction domainTag id).amount.getD 0 = quantity action := rfl

theorem available_le (balance : BalanceObject) : balance.available.toNat ≤ balance.amount.toNat := by
  rw [BalanceObject.available, MachineInt.toNat_saturatingSub]
  exact Nat.sub_le _ _

/-- What the nodes of an action do, as the action says it. -/
structure Carries (store : ObjectStore) (action : PlanAction) (result : ObjectStore × Bool) : Prop where
  done : covered store action = true → result = (perform store action, true)
  refused : covered store action = false → result.2 = false ∧ result.1.balances = store.balances

theorem run_debit (kind : action.actionType = .debitBalance) (id : NodeId) :
    Carries store action (runList (actionNodes action id) store) := by
  simp only [actionNodes, kind]
  cases found : store.getBalanceById action.targetObject with
  | none =>
      rw [runList_cons_error (run_check_missing _ _ id found)]
      constructor
      · intro all
        simp only [covered, kind, found, Option.any_none, Bool.false_eq_true] at all
      · intro _
        exact ⟨rfl, rfl⟩
  | some balance =>
      by_cases short : balance.available < quantity action
      · rw [runList_cons_error (run_check_short _ _ id found short)]
        constructor
        · intro all
          simp only [covered, kind, found, Option.any_some, decide_eq_true_eq] at all
          exact absurd short (BitVec.not_lt.2 all)
        · intro _
          exact ⟨rfl, rfl⟩
      · rw [runList_cons_ok (run_check_ok _ _ id found short)]
        have mutated : executeNode (mutateNode action "debit" action.metadata["domain_tag"]? (id + 1)) store =
            (perform store action, .ok ()) := by
          show onBalance store action.targetObject _ = _
          rw [onBalance, found]
          dsimp only
          have enough : (quantity action).toNat ≤ balance.amount.toNat := by
            have bound := available_le balance
            rw [BitVec.not_lt, BitVec.le_def] at short
            omega
          have rest : MachineInt.checkedSub balance.amount (quantity action) =
              some (balance.amount - quantity action) := if_pos enough
          rw [isDebit_mutateNode, if_pos (decide_eq_true rfl), amount_mutateNode, if_neg short, rest]
          simp only [perform, kind]
          exact congrArg (fun next => (next, Except.ok ())) (modifyBalance_congr found _ _ rfl)
        rw [runList_cons_ok mutated]
        constructor
        · intro _
          rfl
        · intro refused
          simp only [covered, kind, found, Option.any_some, decide_eq_false_iff_not] at refused
          exact absurd (BitVec.not_lt.1 short) refused

theorem Carries.single {node : CausalNode} {enough : BalanceObject → Bool} {e : BalanceObject → RuntimeError}
    (needs : covered store action = (store.getBalanceById action.targetObject).any enough)
    (ran : executeNode node store = onBalance store action.targetObject fun balance =>
      if enough balance then (perform store action, .ok ()) else (store, .error (e balance))) :
    Carries store action (runList [node] store) := by
  rw [onBalance] at ran
  cases found : store.getBalanceById action.targetObject with
  | none =>
      rw [found] at ran needs
      rw [runList_cons_error ran]
      exact ⟨fun all => absurd (needs.symm.trans all) Bool.false_ne_true, fun _ => ⟨rfl, rfl⟩⟩
  | some balance =>
      rw [found] at ran needs
      dsimp only at ran
      rw [Option.any_some] at needs
      cases fits : enough balance with
      | true =>
          rw [fits, if_pos rfl] at ran
          rw [runList_cons_ok ran]
          exact ⟨fun _ => rfl, fun refused => absurd (refused.symm.trans (needs.trans fits)) Bool.false_ne_true⟩
      | false =>
          rw [fits, if_neg Bool.false_ne_true] at ran
          rw [runList_cons_error ran]
          exact ⟨fun all => absurd (fits.symm.trans (needs.symm.trans all)) Bool.false_ne_true,
            fun _ => ⟨rfl, rfl⟩⟩

theorem any_eq_isSome {α : Type} (value : Option α) : value.isSome = value.any fun _ => true := by
  cases value <;> rfl

theorem run_credit (kind : action.actionType = .creditBalance) (id : NodeId) :
    Carries store action (runList (actionNodes action id) store) := by
  simp only [actionNodes, kind]
  apply @Carries.single store action _ (fun _ => true) fun _ => .noCandidatePlans
  · simp only [covered, kind, any_eq_isSome]
  · show onBalance store action.targetObject _ = _
    congr 1
    funext balance
    rw [isDebit_mutateNode, if_neg (by decide), amount_mutateNode, if_pos rfl]
    simp only [perform, kind]

theorem run_unlock (kind : action.actionType = .unlockBalance) (id : NodeId) :
    Carries store action (runList (actionNodes action id) store) := by
  simp only [actionNodes, kind]
  apply @Carries.single store action _ (fun _ => true) fun _ => .noCandidatePlans
  · simp only [covered, kind, any_eq_isSome]
  · show onBalance store action.targetObject _ = _
    congr 1
    funext balance
    rw [if_pos rfl]
    simp only [perform, kind]
    rfl

theorem run_lock (kind : action.actionType = .lockBalance) (id : NodeId) :
    Carries store action (runList (actionNodes action id) store) := by
  simp only [actionNodes, kind]
  apply @Carries.single store action _ (fun balance => quantity action ≤ balance.available) fun balance =>
    .insufficientBalance (quantity action) balance.available
  · simp only [covered, kind]
  · show onBalance store action.targetObject _ = _
    congr 1
    funext balance
    show (if balance.available < quantity action then _ else _) = _
    by_cases short : balance.available < quantity action
    · rw [if_pos short, if_neg fun enough => absurd short (BitVec.not_lt.2 (of_decide_eq_true enough))]
      rfl
    · rw [if_neg short, if_pos (decide_eq_true (BitVec.not_lt.1 short))]
      simp only [perform, kind]
      rfl

theorem run_custom {method : String} (kind : action.actionType = .custom method) (id : NodeId) :
    Carries store action (runList (actionNodes action id) store) := by
  constructor
  · intro _
    simp only [actionNodes, perform, kind]
    split
    · rfl
    · cases action.metadata["schema_id"]? with
      | none => rfl
      | some schemaHex => rfl
  · intro refused
    simp only [covered, kind, Bool.true_eq_false] at refused

theorem run_swapNode (id : NodeId) :
    (∃ next, swapped store action = some next ∧
      executeNode (writeNode action "SwapPoolAmounts" .swapPoolAmounts id) store = (next, .ok ())) ∨
    ∃ next e, swapped store action = none ∧ next.balances = store.balances ∧
      executeNode (writeNode action "SwapPoolAmounts" .swapPoolAmounts id) store = (next, .error e) := by
  have ran : executeNode (writeNode action "SwapPoolAmounts" .swapPoolAmounts id) store =
    swapPoolAmounts (writeNode action "SwapPoolAmounts" .swapPoolAmounts id) store := rfl
  have target : (writeNode action "SwapPoolAmounts" .swapPoolAmounts id).targetObject =
    some action.targetObject := rfl
  have deltas : ∀ key, delta (writeNode action "SwapPoolAmounts" .swapPoolAmounts id) key =
    (action.metadata[key]?.bind parseI128).getD 0 := fun _ => rfl
  simp only [ran, swapPoolAmounts, onTarget, target, deltas, swapped]
  cases found : store.getPoolById action.targetObject with
  | none => exact Or.inr ⟨store, _, rfl, rfl, rfl⟩
  | some pool =>
      dsimp only [Option.bind_some]
      cases applyDelta pool.reserveA ((action.metadata["delta_a"]?.bind parseI128).getD 0) with
      | error e => exact Or.inr ⟨store, e, rfl, rfl, rfl⟩
      | ok reserveA =>
          dsimp only [Except.toOption, Option.bind_some]
          cases applyDelta pool.reserveB ((action.metadata["delta_b"]?.bind parseI128).getD 0) with
          | error e =>
              refine Or.inr ⟨_, e, rfl, ?_, rfl⟩
              rfl
          | ok reserveB => exact Or.inl ⟨_, rfl, rfl⟩

theorem run_swap (kind : action.actionType = .swapPoolAmounts) (id : NodeId) :
    Carries store action (runList (actionNodes action id) store) := by
  simp only [actionNodes, kind]
  cases found : store.getBalanceById action.targetObject with
  | none =>
      rw [runList_cons_error (run_check_missing _ _ id found)]
      constructor
      · intro all
        simp only [covered, kind, found, Option.any_none, Bool.false_and, Bool.false_eq_true] at all
      · intro _
        exact ⟨rfl, rfl⟩
  | some balance =>
      by_cases short : balance.available < quantity action
      · rw [runList_cons_error (run_check_short _ _ id found short)]
        constructor
        · intro all
          simp only [covered, kind, found, Option.any_some, Bool.and_eq_true, decide_eq_true_eq] at all
          exact absurd short (BitVec.not_lt.2 all.1)
        · intro _
          exact ⟨rfl, rfl⟩
      · rw [runList_cons_ok (run_check_ok _ _ id found short)]
        rcases @run_swapNode store action (id + 1) with ⟨next, moved, ran⟩ | ⟨next, e, stuck, same, ran⟩
        · rw [runList_cons_ok ran]
          constructor
          · intro _
            simp only [perform, kind, moved, Option.getD_some]
            rfl
          · intro refused
            simp only [covered, kind, found, moved, Option.any_some, Option.isSome_some, Bool.and_true,
              decide_eq_false_iff_not] at refused
            exact absurd (BitVec.not_lt.1 short) refused
        · rw [runList_cons_error ran]
          constructor
          · intro all
            simp only [covered, kind, stuck, Option.isSome_none, Bool.and_false, Bool.false_eq_true] at all
          · intro _
            exact ⟨rfl, same⟩

theorem run_action (store : ObjectStore) (action : PlanAction) (id : NodeId) :
    Carries store action (runList (actionNodes action id) store) := by
  cases kind : action.actionType with
  | debitBalance => exact run_debit kind id
  | creditBalance => exact run_credit kind id
  | swapPoolAmounts => exact run_swap kind id
  | lockBalance => exact run_lock kind id
  | unlockBalance => exact run_unlock kind id
  | custom method => exact run_custom kind id

theorem carriedOut_eq_self {actions : List PlanAction} (all : allCovered store actions = true) :
    carriedOut store actions = actions := by
  induction actions generalizing store with
  | nil => rfl
  | cons action rest ih =>
      rw [allCovered, Bool.and_eq_true] at all
      rw [carriedOut, if_pos all.1, ih all.2]

theorem run_plan (actions : List PlanAction) (id : NodeId) {root : List CausalNode}
    (shape : root = [] ∨ ∃ rootId, root = [rootNode rootId]) (store : ObjectStore) :
    (runList (planNodes actions id ++ root) store).2 = allCovered store actions ∧
      (runList (planNodes actions id ++ root) store).1.balances =
        ((carriedOut store actions).foldl perform store).balances := by
  induction actions generalizing id store with
  | nil =>
      rcases shape with rfl | ⟨rootId, rfl⟩
      · exact ⟨rfl, rfl⟩
      · exact ⟨rfl, rfl⟩
  | cons action rest ih =>
      have step := run_action store action id
      rw [planNodes, List.append_assoc, runList_append, allCovered, carriedOut]
      cases here : covered store action with
      | true =>
          rw [step.done here, if_pos rfl, if_pos rfl, Bool.true_and]
          exact ih _ _
      | false =>
          obtain ⟨stopped, same⟩ := step.refused here
          rw [stopped, if_neg Bool.false_ne_true, if_neg Bool.false_ne_true]
          exact ⟨stopped, same⟩

end Refinement

end Omniphi.Crx
