import Omniphi.Crx.DirectPath

/-! What a settlement owes the goal: the objects it may write, the output it asks for, and a right for every
mutation. Only the last of them reaches the capsule. -/

namespace Omniphi.Crx

open Omniphi.Runtime BranchAwareExecutor

/-- A packet with its sender and the two of its constraints that no step of the settlement reads. -/
structure Goal extends GoalPacket where
  sender : Bytes32
  minOutputAmount : U128
  allowedObjectIds : Option (List ObjectId)

section Trace

def steps : List CausalNode → ObjectStore → List (CausalNode × ObjectStore)
  | [], _ => []
  | node :: rest, store =>
      match executeNode node store with
      | (next, .ok ()) => (node, store) :: steps rest next
      | (_, .error _) => []

theorem steps_cons_ok {node : CausalNode} {store next : ObjectStore}
    (ran : executeNode node store = (next, .ok ())) (rest : List CausalNode) :
    steps (node :: rest) store = (node, store) :: steps rest next := by
  rw [steps, ran]

theorem steps_cons_error {node : CausalNode} {store next : ObjectStore} {e : RuntimeError}
    (failed : executeNode node store = (next, .error e)) (rest : List CausalNode) :
    steps (node :: rest) store = [] := by
  rw [steps, failed]

theorem steps_append (nodes later : List CausalNode) (store : ObjectStore) :
    steps (nodes ++ later) store =
      if (runList nodes store).2 then steps nodes store ++ steps later (runList nodes store).1
      else steps nodes store := by
  induction nodes generalizing store with
  | nil => rfl
  | cons node rest ih =>
      rw [List.cons_append]
      rcases ran : executeNode node store with ⟨next, outcome⟩
      cases outcome with
      | ok done =>
          rw [steps_cons_ok ran, steps_cons_ok ran, runList_cons_ok ran, ih next]
          split <;> rfl
      | error e =>
          rw [steps_cons_error ran, steps_cons_error ran, runList_cons_error ran]
          rfl

theorem map_fst_steps (nodes : List CausalNode) (store : ObjectStore) :
    if (runList nodes store).2 then (steps nodes store).map Prod.fst = nodes
    else ∃ node rest, nodes = (steps nodes store).map Prod.fst ++ node :: rest := by
  induction nodes generalizing store with
  | nil => rfl
  | cons node rest ih =>
      rcases ran : executeNode node store with ⟨next, outcome⟩
      cases outcome with
      | ok done =>
          rw [steps_cons_ok ran, runList_cons_ok ran, List.map_cons]
          have later := ih next
          split
          · rename_i finished
            rw [if_pos finished] at later
            rw [later]
          · rename_i stopped
            rw [if_neg stopped] at later
            obtain ⟨failed, after, split⟩ := later
            exact ⟨failed, after, congrArg (node :: ·) split⟩
      | error e =>
          rw [steps_cons_error ran, runList_cons_error ran]
          exact ⟨node, rest, rfl⟩

def mutates (node : CausalNode) : Option ObjectId :=
  match node.executionClass with
  | .mutateBalance | .swapPoolAmounts | .lockObject | .unlockObject | .finalizeSettlement => node.targetObject
  | _ => none

theorem mem_noteMutation {mutatedObjects : List ObjectId} {node : CausalNode} {id : ObjectId} :
    id ∈ noteMutation mutatedObjects node ↔ id ∈ mutatedObjects ∨ mutates node = some id := by
  unfold noteMutation mutates
  cases node.targetObject with
  | none => cases node.executionClass <;> simp
  | some target =>
      cases node.executionClass <;> dsimp only <;> try simp
      all_goals
        split
        · rename_i listed
          constructor
          · exact Or.inl
          · rintro (held | rfl)
            · exact held
            · exact listed
        · simp [eq_comm]

theorem mem_mutatedObjects (graph : CausalGraph) (ids : List NodeId) (store : ObjectStore)
    (mutatedObjects : List ObjectId) (id : ObjectId) :
    id ∈ (runNodes graph ids store mutatedObjects).mutatedObjects ↔ id ∈ mutatedObjects ∨
      ∃ step ∈ steps (ids.filterMap fun id => graph.nodes[id]?) store, mutates step.1 = some id := by
  induction ids generalizing store mutatedObjects with
  | nil => simp [runNodes, steps]
  | cons first rest ih =>
      unfold runNodes
      rw [List.filterMap_cons]
      cases graph.nodes[first]? with
      | none => exact ih store mutatedObjects
      | some node =>
          dsimp only
          rcases ran : executeNode node store with ⟨next, outcome⟩
          cases outcome with
          | ok done =>
              rw [steps_cons_ok ran]
              simp only [ih next, mem_noteMutation, List.mem_cons, exists_eq_or_imp, or_assoc]
          | error e =>
              rw [steps_cons_error ran]
              simp

def Credits (node : CausalNode) : Prop := node.executionClass = .mutateBalance ∧ node.isDebit = false

def gain (sender : Bytes32) (step : CausalNode × ObjectStore) : Nat :=
  match step.1.targetObject.bind step.2.getBalanceById,
    step.1.targetObject.bind (executeNode step.1 step.2).1.getBalanceById with
  | some before, some after =>
      if step.1.executionClass = .mutateBalance ∧ step.1.isDebit = false ∧ before.owner = sender then
        after.amount.toNat - before.amount.toNat
      else 0
  | _, _ => 0

def received (sender : Bytes32) (nodes : List CausalNode) (store : ObjectStore) : Nat :=
  ((steps nodes store).map (gain sender)).sum

end Trace

section Actions

def writes (action : PlanAction) : Bool :=
  match action.actionType with
  | .custom method => method = "update_version"
  | _ => true

/-- Whether a swap that is refused has moved the first reserve before the second turns out too small. -/
def movesFirst (store : ObjectStore) (action : PlanAction) : Bool :=
  action.actionType = .swapPoolAmounts &&
    (store.getBalanceById action.targetObject).any (fun b => quantity action ≤ b.available) &&
    (store.getPoolById action.targetObject).any fun pool =>
      (applyDelta pool.reserveA (nodeDelta action)).toOption.any fun reserveA => reserveA ≠ pool.reserveA

def halfSwapped : ObjectStore → List PlanAction → Option ObjectId
  | _, [] => none
  | store, action :: rest =>
      if covered store action then halfSwapped (perform store action) rest
      else if movesFirst store action then some action.targetObject else none

def creditTo (sender : Bytes32) (store : ObjectStore) (action : PlanAction) : Nat :=
  match store.getBalanceById action.targetObject with
  | some balance =>
      if action.actionType = .creditBalance ∧ balance.owner = sender then
        (MachineInt.saturatingAdd balance.amount (quantity action)).toNat - balance.amount.toNat
      else 0
  | none => 0

def credited (sender : Bytes32) : ObjectStore → List PlanAction → Nat
  | _, [] => 0
  | store, action :: rest =>
      if covered store action then creditTo sender store action + credited sender (perform store action) rest
      else 0

end Actions

section Observed

variable {store : ObjectStore} {action : PlanAction} {sender : Bytes32}

structure Observed (store : ObjectStore) (action : PlanAction) (sender : Bytes32)
    (trace : List (CausalNode × ObjectStore)) : Prop where
  recorded : covered store action = true → ∀ target,
    (∃ step ∈ trace, mutates step.1 = some target) ↔ writes action = true ∧ action.targetObject = target
  gained : covered store action = true → (trace.map (gain sender)).sum = creditTo sender store action
  unrecorded : covered store action = false → ∀ step ∈ trace, mutates step.1 = none
  ungained : covered store action = false → (trace.map (gain sender)).sum = 0

theorem mutates_actionNodes (action : PlanAction) (id : NodeId) (target : ObjectId) :
    (∃ node ∈ actionNodes action id, mutates node = some target) ↔
      writes action = true ∧ action.targetObject = target := by
  cases kind : action.actionType with
  | debitBalance | creditBalance | swapPoolAmounts | lockBalance | unlockBalance =>
      simp [actionNodes, kind, writes, mutates, checkNode, mutateNode, writeNode, actionNode]
  | custom method =>
      by_cases named : method = "update_version"
      · simp [actionNodes, kind, writes, mutates, named, finalizeNode, actionNode]
      · cases schema : action.metadata["schema_id"]? <;>
          simp [actionNodes, kind, writes, mutates, named, schema, contractNode, writeNode, actionNode]

theorem gain_other {node : CausalNode} (other : ¬Credits node)
    (store : ObjectStore) : gain sender (node, store) = 0 := by
  unfold gain
  split
  · rw [if_neg]
    exact fun credit => other ⟨credit.1, credit.2.1⟩
  · rfl

theorem creditTo_other (other : action.actionType ≠ .creditBalance) : creditTo sender store action = 0 := by
  unfold creditTo
  split
  · rw [if_neg]
    exact fun credit => other credit.1
  · rfl

theorem other_actionNodes (other : action.actionType ≠ .creditBalance) (id : NodeId) :
    ∀ node ∈ actionNodes action id, ¬Credits node := by
  have debit : ∀ id, (mutateNode action "debit" action.metadata["domain_tag"]? id).isDebit = true := by
    intro id
    rw [isDebit_mutateNode]
    rfl
  intro node listed
  unfold actionNodes at listed
  cases kind : action.actionType with
  | creditBalance => exact absurd kind other
  | debitBalance =>
      simp only [kind, List.mem_cons, List.not_mem_nil, or_false] at listed
      rcases listed with rfl | rfl
      · exact fun credit => nomatch credit.1
      · exact fun credit => nomatch (debit _).symm.trans credit.2
  | swapPoolAmounts =>
      simp only [kind, List.mem_cons, List.not_mem_nil, or_false] at listed
      rcases listed with rfl | rfl
      · exact fun credit => nomatch credit.1
      · exact fun credit => nomatch credit.1
  | lockBalance | unlockBalance =>
      simp only [kind, List.mem_cons, List.not_mem_nil, or_false] at listed
      rw [listed]
      exact fun credit => nomatch credit.1
  | custom method =>
      rw [kind] at listed
      dsimp only at listed
      split at listed
      · rw [List.mem_singleton.1 listed]
        exact fun credit => nomatch credit.1
      · split at listed
        · rw [List.mem_singleton.1 listed]
          exact fun credit => nomatch credit.1
        · rw [List.mem_singleton.1 listed]
          exact fun credit => nomatch credit.1

theorem gain_credit (kind : action.actionType = .creditBalance) (enough : covered store action = true)
    (id : NodeId) :
    gain sender (mutateNode action "credit" none id, store) = creditTo sender store action := by
  have nodes : actionNodes action id = [mutateNode action "credit" none id] := by
    simp only [actionNodes, kind]
  have ran := (run_action store action id).done enough
  rw [nodes, runList] at ran
  have after : (executeNode (mutateNode action "credit" none id) store).1 = perform store action := by
    split at ran
    · rename_i next ran'
      rw [ran']
      exact congrArg Prod.fst ran
    · cases ran
  simp only [covered, kind] at enough
  obtain ⟨balance, found⟩ := Option.isSome_iff_exists.1 enough
  have target : (mutateNode action "credit" none id).targetObject = some action.targetObject := rfl
  have here : (perform store action).getBalanceById action.targetObject =
      some { balance with amount := MachineInt.saturatingAdd balance.amount (quantity action) } := by
    rw [ObjectStore.getBalanceById_eq] at found
    simp only [perform, kind]
    rw [ObjectStore.getBalanceById_eq, ObjectStore.cell_modifyBalance, Function.update_self, Cell.modifyBalance,
      found]
    rfl
  have credit : (mutateNode action "credit" none id).executionClass = .mutateBalance := rfl
  rw [ObjectStore.getBalanceById_eq] at found here
  simp [gain, creditTo, target, after, found, here, isDebit_mutateNode, kind, credit]

theorem sum_gain_other {trace : List (CausalNode × ObjectStore)}
    (other : ∀ node ∈ trace.map Prod.fst, ¬Credits node) :
    (trace.map (gain sender)).sum = 0 := by
  apply List.sum_eq_zero
  intro amount listed
  obtain ⟨step, member, rfl⟩ := List.mem_map.1 listed
  exact gain_other (other step.1 (List.mem_map_of_mem member)) step.2

theorem before_failed {id : NodeId} {done rest : List CausalNode} {failed : CausalNode}
    (split : actionNodes action id = done ++ failed :: rest) :
    ∀ node ∈ done, mutates node = none ∧ ¬Credits node := by
  have alone : ∀ last, actionNodes action id = [last] → ∀ node ∈ done,
      mutates node = none ∧ ¬Credits node := by
    intro last single node listed
    have length := congrArg List.length (single.symm.trans split)
    cases done with
    | nil => cases listed
    | cons first more => simp at length
  have checked : ∀ subject domainTag last,
      actionNodes action id = [checkNode action subject domainTag id, last] →
      ∀ node ∈ done, mutates node = none ∧ ¬Credits node := by
    intro subject domainTag last pair node listed
    rw [pair] at split
    cases done with
    | nil => cases listed
    | cons first more =>
        obtain ⟨rfl, later⟩ := List.cons.inj split
        cases more with
        | nil =>
            rw [List.mem_singleton.1 listed]
            exact ⟨rfl, fun credit => nomatch credit.1⟩
        | cons second others =>
            have length := congrArg List.length later
            simp at length
  cases kind : action.actionType with
  | debitBalance => exact checked "debit" action.metadata["domain_tag"]? _ (by simp only [actionNodes, kind]; rfl)
  | swapPoolAmounts => exact checked "pool_reserves" none _ (by simp only [actionNodes, kind]; rfl)
  | creditBalance | lockBalance | unlockBalance => exact alone _ (by simp only [actionNodes, kind]; rfl)
  | custom method =>
      by_cases named : method = "update_version"
      · exact alone (finalizeNode action id) (by simp [actionNodes, kind, named])
      · cases schema : action.metadata["schema_id"]? with
        | none =>
            exact alone (writeNode action "Custom" .emitReceipt id) (by simp [actionNodes, kind, named, schema])
        | some schemaHex =>
            exact alone (contractNode action schemaHex method id) (by simp [actionNodes, kind, named, schema])

theorem observed (store : ObjectStore) (action : PlanAction) (sender : Bytes32) (id : NodeId) :
    Observed store action sender (steps (actionNodes action id) store) := by
  have all := map_fst_steps (actionNodes action id) store
  have outcome := run_action store action id
  constructor
  · intro enough target
    rw [outcome.done enough, if_pos rfl] at all
    rw [← mutates_actionNodes action id target]
    constructor
    · rintro ⟨step, listed, mutated⟩
      exact ⟨step.1, all ▸ List.mem_map_of_mem listed, mutated⟩
    · rintro ⟨node, listed, mutated⟩
      rw [← all] at listed
      obtain ⟨step, member, rfl⟩ := List.mem_map.1 listed
      exact ⟨step, member, mutated⟩
  · intro enough
    by_cases kind : action.actionType = .creditBalance
    · have nodes : actionNodes action id = [mutateNode action "credit" none id] := by
        simp only [actionNodes, kind]
      have ran := outcome.done enough
      rw [nodes, runList] at ran
      rw [nodes, ← gain_credit kind enough id]
      obtain ⟨next, result⟩ : ∃ next, executeNode (mutateNode action "credit" none id) store = (next, .ok ()) := by
        split at ran
        · rename_i next done
          exact ⟨next, done⟩
        · cases ran
      rw [steps_cons_ok result]
      simp [steps]
    · rw [creditTo_other kind]
      apply sum_gain_other
      rw [outcome.done enough, if_pos rfl] at all
      rw [all]
      exact other_actionNodes kind id
  · intro refused step listed
    rw [(outcome.refused refused).1, if_neg Bool.false_ne_true] at all
    obtain ⟨failed, rest, split⟩ := all
    exact (before_failed split step.1 (List.mem_map_of_mem listed)).1
  · intro refused
    rw [(outcome.refused refused).1, if_neg Bool.false_ne_true] at all
    obtain ⟨failed, rest, split⟩ := all
    exact sum_gain_other fun node listed => (before_failed split node listed).2

theorem mutates_root {root : List CausalNode} (shape : root = [] ∨ ∃ rootId, root = [rootNode rootId]) :
    ∀ node ∈ root, mutates node = none ∧ ¬Credits node := by
  intro node listed
  rcases shape with rfl | ⟨rootId, rfl⟩
  · cases listed
  · rw [List.mem_singleton.1 listed]
    exact ⟨rfl, fun credit => nomatch credit.1⟩

theorem fst_mem_of_step {nodes : List CausalNode} {store : ObjectStore} {step : CausalNode × ObjectStore}
    (listed : step ∈ steps nodes store) : step.1 ∈ nodes := by
  have all := map_fst_steps nodes store
  have member : step.1 ∈ (steps nodes store).map Prod.fst := List.mem_map_of_mem listed
  split at all
  · rwa [all] at member
  · obtain ⟨failed, rest, split⟩ := all
    rw [split]
    exact List.mem_append_left _ member

theorem observed_plan (actions : List PlanAction) (id : NodeId) {root : List CausalNode}
    (shape : root = [] ∨ ∃ rootId, root = [rootNode rootId]) (store : ObjectStore) :
    (∀ target, (∃ step ∈ steps (planNodes actions id ++ root) store, mutates step.1 = some target) ↔
      ∃ action ∈ carriedOut store actions, writes action = true ∧ action.targetObject = target) ∧
    received sender (planNodes actions id ++ root) store = credited sender store actions := by
  induction actions generalizing id store with
  | nil =>
      rw [planNodes, List.nil_append]
      constructor
      · intro target
        constructor
        · rintro ⟨step, listed, mutated⟩
          rw [(mutates_root shape step.1 (fst_mem_of_step listed)).1] at mutated
          cases mutated
        · rintro ⟨action, listed, -⟩
          cases listed
      · apply sum_gain_other
        intro node listed
        obtain ⟨step, member, rfl⟩ := List.mem_map.1 listed
        exact (mutates_root shape step.1 (fst_mem_of_step member)).2
  | cons action rest ih =>
      have here := observed store action sender id
      have outcome := run_action store action id
      rw [planNodes, List.append_assoc, received, steps_append, carriedOut, credited]
      cases enough : covered store action with
      | true =>
          rw [outcome.done enough, if_pos rfl, if_pos rfl, if_pos rfl]
          obtain ⟨recorded, gained⟩ := ih (id + BitVec.ofNat 32 (actionNodes action id).length)
            (perform store action)
          constructor
          · intro target
            simp only [List.mem_append, List.mem_cons, or_and_right, exists_or, here.recorded enough, recorded,
              exists_eq_left]
          · rw [List.map_append, List.sum_append, here.gained enough]
            exact congrArg _ gained
      | false =>
          rw [(outcome.refused enough).1, if_neg Bool.false_ne_true, if_neg Bool.false_ne_true,
            if_neg Bool.false_ne_true]
          constructor
          · intro target
            constructor
            · rintro ⟨step, listed, mutated⟩
              rw [here.unrecorded enough step listed] at mutated
              cases mutated
            · rintro ⟨other, listed, -⟩
              cases listed
          · exact here.ungained enough

end Observed

section Changes

variable {store : ObjectStore} {action : PlanAction}

theorem cell_bumpTarget_of_ne {target id : ObjectId} (apart : target ≠ id) :
    (bumpTarget store target).cell id = store.cell id := by
  unfold bumpTarget
  split
  · rw [ObjectStore.cell_modifyBalance, Function.update_of_ne (Ne.symm apart)]
  · split
    · rw [ObjectStore.cell_modifyPool, Function.update_of_ne (Ne.symm apart)]
    · rw [ObjectStore.cell_modifyInfo, Function.update_of_ne (Ne.symm apart)]

theorem cell_perform_of_ne {id : ObjectId} (enough : covered store action = true)
    (apart : ¬(writes action = true ∧ action.targetObject = id)) :
    (perform store action).cell id = store.cell id := by
  by_cases plain : ∀ method, action.actionType ≠ .custom method
  · rw [cell_perform plain enough, Function.update_of_ne]
    rintro rfl
    apply apart ⟨_, rfl⟩
    unfold writes
    cases kind : action.actionType with
    | custom method => exact absurd kind (plain method)
    | debitBalance | creditBalance | swapPoolAmounts | lockBalance | unlockBalance => rfl
  · simp only [not_forall, not_not] at plain
    obtain ⟨method, kind⟩ := plain
    simp only [perform, kind]
    split
    · rename_i named
      apply cell_bumpTarget_of_ne
      intro same
      exact apart ⟨by simp [writes, kind, named], same⟩
    · rfl

theorem executeNode_failed {node : CausalNode} {next : ObjectStore} {e : RuntimeError}
    (other : node.executionClass ≠ .swapPoolAmounts) (failed : executeNode node store = (next, .error e)) :
    next = store := by
  have kept : ∀ after : ObjectStore, ∀ outcome : Except RuntimeError Unit,
      (after, outcome) = (next, .error e) → (after = store ∨ outcome = .ok ()) → next = store := by
    intro after outcome same kept
    obtain ⟨rfl, rfl⟩ := Prod.mk.inj same
    rcases kept with rfl | passed
    · rfl
    · cases passed
  cases kind : node.executionClass with
  | swapPoolAmounts => exact absurd kind other
  | _ =>
      simp only [executeNode, kind, readObject, checkBalance, mutateBalance, lockObject, unlockObject,
        finalizeSettlement, onTarget, onBalance] at failed
      repeat' split at failed
      all_goals first
        | exact kept _ _ failed (Or.inl rfl)
        | exact kept _ _ failed (Or.inr rfl)

theorem runList_single_failed {node : CausalNode} (other : node.executionClass ≠ .swapPoolAmounts)
    (stopped : (runList [node] store).2 = false) : (runList [node] store).1 = store := by
  rcases ran : executeNode node store with ⟨next, outcome⟩
  cases outcome with
  | ok done =>
      rw [runList_cons_ok ran] at stopped
      cases stopped
  | error e =>
      rw [runList_cons_error ran]
      exact executeNode_failed other ran

theorem runList_check (subject : String) (domainTag : Option String) (id : NodeId) (rest : List CausalNode) :
    (store.getBalanceById action.targetObject).any (fun b => quantity action ≤ b.available) = true ∧
        runList (checkNode action subject domainTag id :: rest) store = runList rest store ∨
      (store.getBalanceById action.targetObject).any (fun b => quantity action ≤ b.available) = false ∧
        runList (checkNode action subject domainTag id :: rest) store = (store, false) := by
  cases found : store.getBalanceById action.targetObject with
  | none => exact Or.inr ⟨rfl, runList_cons_error (run_check_missing subject domainTag id found) rest⟩
  | some balance =>
      by_cases short : balance.available < quantity action
      · exact Or.inr ⟨decide_eq_false (BitVec.not_le.2 short),
          runList_cons_error (run_check_short subject domainTag id found short) rest⟩
      · exact Or.inl ⟨decide_eq_true (BitVec.not_lt.1 short),
          runList_cons_ok (run_check_ok subject domainTag id found short) rest⟩

/-- What a refused action leaves: the store as it was, or a pool with its first reserve set anew. -/
def Left (store : ObjectStore) (action : PlanAction) (after : ObjectStore) : Prop :=
  after = store ∧ movesFirst store action = false ∨
    ∃ pool reserveA, store.getPoolById action.targetObject = some pool ∧
      after = store.modifyPool action.targetObject (fun p => { p with reserveA })
        (fun p => p.id_reserveA reserveA) ∧
      movesFirst store action = decide (reserveA ≠ pool.reserveA)

theorem left_swapNode (kind : action.actionType = .swapPoolAmounts)
    (covers : (store.getBalanceById action.targetObject).any (fun b => quantity action ≤ b.available) = true)
    (id : NodeId)
    (stopped : (runList [writeNode action "SwapPoolAmounts" .swapPoolAmounts id] store).2 = false) :
    Left store action (runList [writeNode action "SwapPoolAmounts" .swapPoolAmounts id] store).1 := by
  have ran : executeNode (writeNode action "SwapPoolAmounts" .swapPoolAmounts id) store =
    swapPoolAmounts (writeNode action "SwapPoolAmounts" .swapPoolAmounts id) store := rfl
  have target : (writeNode action "SwapPoolAmounts" .swapPoolAmounts id).targetObject =
    some action.targetObject := rfl
  have deltas : ∀ key, BranchAwareExecutor.delta (writeNode action "SwapPoolAmounts" .swapPoolAmounts id) key =
    (action.metadata[key]?.bind parseI128).getD 0 := fun _ => rfl
  simp only [swapPoolAmounts, onTarget, target, deltas] at ran
  have moves : movesFirst store action = (store.getPoolById action.targetObject).any fun pool =>
      (applyDelta pool.reserveA (nodeDelta action)).toOption.any fun reserveA => reserveA ≠ pool.reserveA := by
    rw [movesFirst, covers, kind]
    rfl
  cases found : store.getPoolById action.targetObject with
  | none =>
      rw [found] at ran
      rw [runList_cons_error ran]
      exact Or.inl ⟨rfl, by rw [moves, found]; rfl⟩
  | some pool =>
      rw [found] at ran moves
      dsimp only at ran
      cases first : applyDelta pool.reserveA ((action.metadata["delta_a"]?.bind parseI128).getD 0) with
      | error e =>
          rw [first] at ran
          rw [runList_cons_error ran]
          exact Or.inl ⟨rfl, by rw [moves, Option.any_some, nodeDelta, first]; rfl⟩
      | ok reserveA =>
          rw [first] at ran
          dsimp only at ran
          cases second : applyDelta pool.reserveB ((action.metadata["delta_b"]?.bind parseI128).getD 0) with
          | error e =>
              rw [second] at ran
              rw [runList_cons_error ran]
              refine Or.inr ⟨pool, reserveA, found, rfl, ?_⟩
              rw [moves, Option.any_some, nodeDelta, first]
              rfl
          | ok reserveB =>
              rw [second] at ran
              rw [runList_cons_ok ran] at stopped
              cases stopped

theorem run_refused (refused : covered store action = false) (id : NodeId) :
    Left store action (runList (actionNodes action id) store).1 := by
  have stopped := ((run_action store action id).refused refused).1
  have still : action.actionType ≠ .swapPoolAmounts → movesFirst store action = false := by
    intro other
    rw [movesFirst, decide_eq_false other]
    rfl
  cases kind : action.actionType with
  | swapPoolAmounts =>
      simp only [actionNodes, kind] at stopped ⊢
      rcases @runList_check store action "pool_reserves" none id
        [writeNode action "SwapPoolAmounts" .swapPoolAmounts (id + 1)] with ⟨covers, same⟩ | ⟨short, same⟩
      · rw [same] at stopped ⊢
        exact left_swapNode kind covers _ stopped
      · rw [same]
        refine Or.inl ⟨rfl, ?_⟩
        rw [movesFirst, short, Bool.and_false, Bool.false_and]
  | debitBalance =>
      simp only [actionNodes, kind] at stopped ⊢
      rcases @runList_check store action "debit" action.metadata["domain_tag"]? id
        [mutateNode action "debit" action.metadata["domain_tag"]? (id + 1)] with ⟨-, same⟩ | ⟨-, same⟩
      · rw [same] at stopped ⊢
        exact Or.inl ⟨runList_single_failed (by simp [mutateNode, actionNode]) stopped, still (by simp [kind])⟩
      · rw [same]
        exact Or.inl ⟨rfl, still (by simp [kind])⟩
  | creditBalance | lockBalance | unlockBalance =>
      simp only [actionNodes, kind] at stopped ⊢
      exact Or.inl ⟨runList_single_failed (by simp [mutateNode, writeNode, actionNode]) stopped, still (by simp [kind])⟩
  | custom method => simp only [covered, kind, Bool.true_eq_false] at refused

theorem changed_plan (actions : List PlanAction) (id : NodeId) {root : List CausalNode}
    (shape : root = [] ∨ ∃ rootId, root = [rootNode rootId]) (store : ObjectStore) {target : ObjectId}
    (apart : ¬∃ action ∈ carriedOut store actions, writes action = true ∧ action.targetObject = target) :
    ((runList (planNodes actions id ++ root) store).1.cell target).balance = (store.cell target).balance ∧
      (((runList (planNodes actions id ++ root) store).1.cell target).pool = (store.cell target).pool ↔
        halfSwapped store actions ≠ some target) := by
  induction actions generalizing id store with
  | nil =>
      have kept : (runList (planNodes [] id ++ root) store).1 = store := by
        rcases shape with rfl | ⟨rootId, rfl⟩ <;> rfl
      rw [kept]
      exact ⟨rfl, iff_of_true rfl (Option.some_ne_none target).symm⟩
  | cons action rest ih =>
      have outcome := run_action store action id
      rw [planNodes, List.append_assoc, runList_append, halfSwapped]
      rw [carriedOut] at apart
      cases enough : covered store action with
      | true =>
          rw [enough, if_pos rfl] at apart
          rw [outcome.done enough, if_pos rfl, if_pos rfl]
          have same := cell_perform_of_ne enough fun here => apart ⟨action, List.mem_cons_self, here⟩
          have later := ih (id + BitVec.ofNat 32 (actionNodes action id).length) (perform store action) (by
            rintro ⟨other, listed, here⟩
            exact apart ⟨other, List.mem_cons_of_mem _ listed, here⟩)
          rw [same] at later
          exact later
      | false =>
          rw [(outcome.refused enough).1, if_neg Bool.false_ne_true, if_neg Bool.false_ne_true]
          rcases run_refused enough id with ⟨same, still⟩ | ⟨pool, reserveA, found, same, moves⟩
          · rw [same, still, if_neg Bool.false_ne_true]
            exact ⟨rfl, iff_of_true rfl (Option.some_ne_none target).symm⟩
          · rw [same, moves, ObjectStore.cell_modifyPool]
            rw [ObjectStore.getPoolById_eq] at found
            by_cases here : target = action.targetObject
            · subst here
              rw [Function.update_self]
              refine ⟨rfl, ?_⟩
              simp only [Cell.modifyPool, found, Option.map_some]
              by_cases unmoved : reserveA = pool.reserveA
              · subst unmoved
                simp
              · simp only [ne_eq, unmoved, not_false_eq_true, decide_true, if_true, not_true, iff_false]
                intro equal
                exact unmoved (congrArg LiquidityPoolObject.reserveA (Option.some.inj equal))
            · rw [Function.update_of_ne here]
              refine ⟨rfl, iff_of_true rfl ?_⟩
              split
              · exact fun same => here (Option.some.inj same).symm
              · exact (Option.some_ne_none target).symm

end Changes

section Rights

open RightsValidationEngine

variable {graph : CausalGraph} {capsule : RightsCapsule} {store : ObjectStore}

structure CoveredBy (capsule : RightsCapsule) (store : ObjectStore) (epoch : U64) (node : CausalNode) : Prop where
  valid : capsule.isValidAtEpoch epoch = true
  action : ∀ action, nodeToActionType node = some action → action ∈ capsule.scope.allowedActions
  object : ∀ id, node.targetObject = some id → id ∈ capsule.scope.allowedObjectIds
  type : ∀ id object, node.targetObject = some id → store.get id = some object →
    object.objectType ∈ capsule.scope.allowedObjectTypes

theorem violations_visit (tally : Tally) (id : NodeId) :
    ∃ more, (visit graph capsule store tally id).violations = tally.violations ++ more ∧
      (more = [] → ∀ node, graph.nodes[id]? = some node →
        checkAction capsule node = none ∧ checkObject capsule node store = none) := by
  unfold visit
  cases graph.nodes[id]? with
  | none => exact ⟨[], (List.append_nil _).symm, fun _ node found => nomatch found⟩
  | some node =>
      dsimp only
      cases check : (RightsValidationEngine.checkNode capsule node store tally.cumulativeSpend).violation with
      | some violation => exact ⟨[violation], rfl, fun none => nomatch none⟩
      | none =>
          have passed : checkAction capsule node = none ∧ checkObject capsule node store = none := by
            simp only [RightsValidationEngine.checkNode, Option.orElse_eq_orElse, Option.orElse_eq_or,
              Option.or_eq_none_iff] at check
            exact ⟨check.1, check.2.1⟩
          dsimp only
          split_ifs
          · exact ⟨_, rfl, fun none => nomatch none⟩
          · refine ⟨[], (List.append_nil _).symm, fun _ other found => ?_⟩
            rw [← Option.some.inj found]
            exact passed

theorem visit_clean {ids : List NodeId} {tally : Tally}
    (clean : (ids.foldl (visit graph capsule store) tally).violations = []) :
    tally.violations = [] ∧ ∀ id ∈ ids, ∀ node, graph.nodes[id]? = some node →
      checkAction capsule node = none ∧ checkObject capsule node store = none := by
  induction ids generalizing tally with
  | nil => exact ⟨clean, nofun⟩
  | cons first rest ih =>
      obtain ⟨here, later⟩ := ih clean
      obtain ⟨more, same, passed⟩ := @violations_visit graph capsule store tally first
      rw [same, List.append_eq_nil_iff] at here
      refine ⟨here.1, fun id listed => ?_⟩
      rcases List.mem_cons.1 listed with rfl | listed
      · exact passed here.2
      · exact later id listed

theorem coveredObject_actionNodes (action : PlanAction) (id : NodeId) :
    ∀ node ∈ actionNodes action id, RightsSynthesizer.coveredObject node = node.targetObject := by
  intro node listed
  unfold actionNodes at listed
  dsimp only at listed
  repeat' split at listed
  all_goals
    simp only [List.mem_cons, List.not_mem_nil, or_false] at listed
    rcases listed with rfl | rfl <;> rfl

theorem coveredObject_planNodes (actions : List PlanAction) (id : NodeId) :
    ∀ node ∈ planNodes actions id, RightsSynthesizer.coveredObject node = node.targetObject := by
  induction actions generalizing id with
  | nil => exact fun node listed => absurd listed List.not_mem_nil
  | cons action rest ih =>
      intro node listed
      rcases List.mem_append.1 listed with here | later
      · exact coveredObject_actionNodes action id node here
      · exact ih _ node later

variable {codec : Codec} {plan : CandidatePlan} {goal : GoalPacket} {epoch : U64}

theorem covered_of_accepted (built : CausalPlanBuilder.build codec plan goal epoch = .ok (graph, capsule))
    (accepted : (CRXSettlementEngine.verdictOn codec.sha256 plan goal graph capsule store epoch).accepts = true) :
    ∀ id ∈ graph.topologicalOrder, ∀ node, graph.nodes[id]? = some node →
      CoveredBy capsule store epoch node := by
  obtain ⟨-, granted, -⟩ := build_ok built
  obtain ⟨root, shape, order, -, -⟩ := built_branch built
  have passed : (RightsValidationEngine.validate graph capsule store epoch plan.solverId).allPassed = true := by
    rw [CRXSettlementEngine.Verdict.accepts, Bool.and_eq_true] at accepted
    exact accepted.1
  have solver : ¬capsule.authorizedSolverId ≠ plan.solverId := by
    rw [granted]
    exact fun differ => differ rfl
  rw [RightsValidationEngine.validate, if_neg solver] at passed
  cases valid : capsule.isValidAtEpoch epoch with
  | false =>
      rw [valid, Bool.not_false, if_pos rfl] at passed
      cases passed
  | true =>
      rw [valid, Bool.not_true, if_neg Bool.false_ne_true] at passed
      obtain ⟨-, clean⟩ := visit_clean (List.isEmpty_iff.1 passed)
      intro id listed node found
      obtain ⟨action, object⟩ := clean id listed node found
      have made : node ∈ planNodes plan.actions 0 ++ root := by
        rw [← order]
        exact List.mem_filterMap.2 ⟨id, listed, found⟩
      have target : RightsSynthesizer.coveredObject node = node.targetObject := by
        rcases List.mem_append.1 made with planned | last
        · exact coveredObject_planNodes _ _ node planned
        · rcases shape with rfl | ⟨rootId, rfl⟩
          · cases last
          · rw [List.mem_singleton.1 last]
            rfl
      have reach : ∀ object, node.targetObject = some object → object ∈ capsule.scope.allowedObjectIds := by
        intro object aimed
        rw [granted]
        show object ∈ Std.ExtTreeSet.ofList (graph.values.filterMap RightsSynthesizer.coveredObject) compare
        rw [Std.ExtTreeSet.mem_ofList, List.contains_iff_mem]
        refine List.mem_filterMap.2 ⟨node, ?_, target.trans aimed⟩
        exact List.mem_map.2 ⟨(id, node), Std.ExtTreeMap.mem_toList_iff_getElem?_eq_some.2 found, rfl⟩
      constructor
      · exact valid
      · intro needed named
        rw [checkAction, named, Option.bind_some] at action
        split at action
        · rename_i able
          exact able
        · cases action
      · exact reach
      · intro target stored aimed held
        rw [checkObject, aimed, Option.bind_some, held] at object
        dsimp only at object
        split at object
        · rename_i reached
          rw [RightsCapsule.canAccessObject, Bool.and_eq_true] at reached
          exact reached.2
        · cases object

end Rights

section Settlement

open CRXSettlementEngine

def ExecutionSettlementClass.isSuccess : ExecutionSettlementClass → Bool
  | .fullSuccess | .successWithDowngrade _ | .successWithQuarantine _ | .partialSuccess .. => true
  | .fullRevert | .rejected => false

variable {codec : Codec} {plan : CandidatePlan} {goal : Goal} {store settled : ObjectStore}
  {domainPolicies : List DomainFinalityPolicy} {epoch : U64} {record : CRXSettlementRecord}
  {graph : CausalGraph} {capsule : RightsCapsule}

theorem mutated_execute {ids order : List NodeId} {failureAllowed : Bool} (packet : GoalPacket)
    (branch : branchNodeIds graph 0 = ids) (branches : graph.branches = [⟨0, order, true, failureAllowed⟩]) :
    (execute graph capsule packet store).2.branchResults.flatMap (fun result => result.mutatedObjects) =
      (runNodes graph ids store []).mutatedObjects := by
  rw [execute, branches]
  simp only [executeBranches, branch]
  cases (runNodes graph ids store []).failure with
  | none => simp [noteSuccess]
  | some failed =>
      dsimp only
      split
      · cases determineFailureMode packet.policy.partialFailurePolicy capsule failureAllowed <;>
          simp [noteFailure, noteFailed, noteDowngrade, noteQuarantine]
      · cases determineFailureMode packet.policy.partialFailurePolicy capsule failureAllowed <;>
          simp [noteFailure, noteFailed, noteDowngrade, noteQuarantine]

theorem isReverted_of_success {packet : GoalPacket} {failed : Bool}
    (success : (classOf packet.policy.partialFailurePolicy failed).isSuccess = true) :
    isReverted (FinalityClassifier.classify (classOf packet.policy.partialFailurePolicy failed) packet
      domainPolicies) (classOf packet.policy.partialFailurePolicy failed) = false := by
  rw [← Bool.not_eq_true, isReverted_classOf]
  rintro ⟨rfl, strict | quarantine⟩
  · rw [strict] at success
    cases success
  · rw [quarantine] at success
    cases success

theorem settle_taken
    (ran : CRXSettlementEngine.settle codec plan goal.toGoalPacket store domainPolicies epoch =
      (.ok record, settled)) (success : record.settlementClass.isSuccess = true) :
    ∃ graph capsule root, CausalPlanBuilder.build codec plan goal.toGoalPacket epoch = .ok (graph, capsule) ∧
      (verdictOn codec.sha256 plan goal.toGoalPacket graph capsule store epoch).accepts = true ∧
      (root = [] ∨ ∃ rootId, root = [rootNode rootId]) ∧
      (graph.topologicalOrder.filterMap fun id => graph.nodes[id]?) = planNodes plan.actions 0 ++ root ∧
      settled = (runList (planNodes plan.actions 0 ++ root) store).1.syncTypedToCanonical ∧
      ∀ id, id ∈ record.affectedObjects ↔
        ∃ step ∈ steps (planNodes plan.actions 0 ++ root) store, mutates step.1 = some id := by
  unfold CRXSettlementEngine.settle at ran
  cases built : CausalPlanBuilder.build codec plan goal.toGoalPacket epoch with
  | error e =>
      rw [built] at ran
      cases (Prod.mk.inj ran).1
  | ok pair =>
      obtain ⟨graph, capsule⟩ := pair
      rw [built] at ran
      obtain ⟨rfl, rfl⟩ : (settleGraph codec.sha256 plan goal.toGoalPacket graph capsule store domainPolicies
            epoch).1 = record ∧
          (settleGraph codec.sha256 plan goal.toGoalPacket graph capsule store domainPolicies epoch).2 =
            settled :=
        ⟨Except.ok.inj (Prod.mk.inj ran).1, (Prod.mk.inj ran).2⟩
      cases verdict : (verdictOn codec.sha256 plan goal.toGoalPacket graph capsule store epoch).accepts with
      | false =>
          rw [settleGraph_of_refused verdict] at success
          cases success
      | true =>
          obtain ⟨root, shape, order, branch, branches⟩ := built_branch built
          obtain ⟨root', -, order', left, outcome⟩ := @execute_built _ _ _ store _ _ _ built
          obtain rfl : root' = root := List.append_cancel_left (order'.symm.trans order)
          obtain ⟨-, settlementClass, settled⟩ := settleGraph_of_accepted domainPolicies verdict
          rw [settlementClass, outcome] at success
          refine ⟨graph, capsule, root', rfl, verdict, shape, order, ?_, fun id => ?_⟩
          · rw [settled, outcome, isReverted_of_success success, if_neg Bool.false_ne_true, left]
          · have affected : (settleGraph codec.sha256 plan goal.toGoalPacket graph capsule store domainPolicies
                epoch).1.affectedObjects = (Std.ExtTreeSet.ofList ((execute graph capsule goal.toGoalPacket
                  store).2.branchResults.flatMap fun result => result.mutatedObjects) compare).toList := by
              simp [settleGraph, verdict]
            rw [affected, Std.ExtTreeSet.mem_toList, Std.ExtTreeSet.mem_ofList, List.contains_iff_mem,
              mutated_execute goal.toGoalPacket branch branches, mem_mutatedObjects, order]
            simp

structure Respected (goal : Goal) (graph : CausalGraph) (capsule : RightsCapsule) (record : CRXSettlementRecord)
    (store settled : ObjectStore) (epoch : U64) : Prop where
  objects : ∀ ids, goal.allowedObjectIds = some ids → ∀ id,
    id ∈ record.affectedObjects ∨ settled.getBalanceById id ≠ store.getBalanceById id ∨
      settled.getPoolById id ≠ store.getPoolById id → id ∈ ids
  output : goal.minOutputAmount.toNat ≤
    received goal.sender (graph.topologicalOrder.filterMap fun id => graph.nodes[id]?) store
  rights : ∀ id ∈ graph.topologicalOrder, ∀ node, graph.nodes[id]? = some node →
    CoveredBy capsule store epoch node

structure Goal.Allows (goal : Goal) (store : ObjectStore) (actions : List PlanAction) : Prop where
  objects : ∀ ids, goal.allowedObjectIds = some ids →
    (∀ action ∈ carriedOut store actions, writes action = true → action.targetObject ∈ ids) ∧
      ∀ id, halfSwapped store actions = some id → id ∈ ids
  output : goal.minOutputAmount.toNat ≤ credited goal.sender store actions

/-- A settlement with a success verdict has a right for every node. It respects the other constraints of the
goal just when the plan does so by itself. -/
theorem respects_goal_iff
    (ran : CRXSettlementEngine.settle codec plan goal.toGoalPacket store domainPolicies epoch =
      (.ok record, settled)) (success : record.settlementClass.isSuccess = true) :
    ∃ graph capsule, CausalPlanBuilder.build codec plan goal.toGoalPacket epoch = .ok (graph, capsule) ∧
      (∀ id ∈ graph.topologicalOrder, ∀ node, graph.nodes[id]? = some node →
        CoveredBy capsule store epoch node) ∧
      (Respected goal graph capsule record store settled epoch ↔ goal.Allows store plan.actions) := by
  obtain ⟨graph, capsule, root, built, accepted, shape, order, rfl, recorded⟩ := settle_taken ran success
  have rights := covered_of_accepted built accepted
  obtain ⟨observed, gained⟩ := @observed_plan goal.sender plan.actions 0 root shape store
  have changed := fun id => @changed_plan plan.actions 0 root shape store id
  refine ⟨graph, capsule, built, rights, ?_⟩
  simp only [observed] at recorded
  constructor
  · intro respected
    constructor
    · intro ids given
      constructor
      · intro action listed writing
        exact respected.objects ids given _ (Or.inl ((recorded _).2 ⟨action, listed, writing, rfl⟩))
      · intro id half
        by_cases carried : ∃ action ∈ carriedOut store plan.actions,
            writes action = true ∧ action.targetObject = id
        · exact respected.objects ids given id (Or.inl ((recorded id).2 carried))
        · apply respected.objects ids given id
          right; right
          intro same
          exact (changed id carried).2.1 same half
    · have output := respected.output
      rwa [order, gained] at output
  · intro allows
    constructor
    · intro ids given id written
      obtain ⟨targets, half⟩ := allows.objects ids given
      by_cases carried : ∃ action ∈ carriedOut store plan.actions,
          writes action = true ∧ action.targetObject = id
      · obtain ⟨action, listed, writing, rfl⟩ := carried
        exact targets action listed writing
      · obtain ⟨balance, pool⟩ := changed id carried
        rcases written with listed | moved | moved
        · exact absurd ((recorded id).1 listed) carried
        · exact absurd balance moved
        · apply half id
          by_contra still
          exact moved (pool.2 still)
    · rw [order, gained]
      exact allows.output
    · exact rights

end Settlement

section Example

/-! A goal that allows one object and asks for an output, and a plan that debits another and credits nothing. -/

def strayPlan : CandidatePlan :=
  { swapPlan with actions := [⟨.debitBalance, 8, some 100, ∅⟩] }

def strayGoal : Goal :=
  { swapGoal with sender := 9, minOutputAmount := 90, allowedObjectIds := some [7] }

def strayStore : ObjectStore := ObjectStore.new.insert (.balance (.new 8 9 77 1000 0))

def straySha256 : Sha256 := fun bytes =>
  match bytes.length with
  | 458 => 0x2ac61338c4086780d43908a8e9be149390fdddcc3ec8c7e893fc4b815d7e22fe
  | 243 => 0xcfdbcbeaa99b0606152a9d2828cd265ee7eceddee1398d741088272091a3edc3
  | _ => swapSha256 bytes

def straySettled : Except RuntimeError CRXSettlementRecord × ObjectStore :=
  CRXSettlementEngine.settle (.bincode straySha256) strayPlan strayGoal.toGoalPacket strayStore [] 3

theorem strayed : ∃ record, straySettled.1 = .ok record ∧ record.settlementClass = .fullSuccess ∧
    8 ∈ record.affectedObjects := by
  have settled : straySettled.1.toOption.any (fun record =>
      record.settlementClass = .fullSuccess ∧ 8 ∈ record.affectedObjects) = true := by decide +kernel
  obtain ⟨record, found, facts⟩ := (Option.any_eq_true ..).1 settled
  exact ⟨record, ok_of_toOption found, of_decide_eq_true facts⟩

/-- The settlement is a full success, though it wrote what the goal does not allow and credited nothing. -/
theorem stray_debit_settles : ∃ record, straySettled.1 = .ok record ∧ record.settlementClass = .fullSuccess ∧
    ∀ graph capsule, ¬Respected strayGoal graph capsule record strayStore straySettled.2 3 := by
  obtain ⟨record, ran, full, written⟩ := strayed
  refine ⟨record, ran, full, fun graph capsule respected => ?_⟩
  exact absurd (respected.objects [7] rfl 8 (Or.inl written)) (by decide)

theorem stray_respects_iff : ∃ record graph capsule, straySettled.1 = .ok record ∧
    CausalPlanBuilder.build (.bincode straySha256) strayPlan strayGoal.toGoalPacket 3 = .ok (graph, capsule) ∧
    (Respected strayGoal graph capsule record strayStore straySettled.2 3 ↔
      strayGoal.Allows strayStore strayPlan.actions) := by
  obtain ⟨record, ran, full, -⟩ := strayed
  have settled : CRXSettlementEngine.settle (.bincode straySha256) strayPlan strayGoal.toGoalPacket strayStore []
      3 = (.ok record, straySettled.2) := Prod.ext ran rfl
  obtain ⟨graph, capsule, built, -, respects⟩ := respects_goal_iff settled (by rw [full]; rfl)
  exact ⟨record, graph, capsule, ran, built, respects⟩

end Example

end Omniphi.Crx
