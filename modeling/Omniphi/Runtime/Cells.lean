import Omniphi.Runtime.PlanSteps

/-! The store seen object by object. A cell is what the four maps hold under one id; each operation
rewrites the cell of one object, a version bump rewrites one cell, and a flush of the overlays
rewrites every cell by itself. -/

namespace Omniphi.Runtime

@[ext]
structure Cell where
  object : Option BoxedObject
  balance : Option BalanceObject
  pool : Option LiquidityPoolObject
  vault : Option VaultObject

namespace Cell

def modifyBalance (cell : Cell) (change : BalanceObject → BalanceObject) : Cell :=
  { cell with balance := cell.balance.map change }

def modifyPool (cell : Cell) (change : LiquidityPoolObject → LiquidityPoolObject) : Cell :=
  { cell with pool := cell.pool.map change }

def setOwner (cell : Cell) (newOwner : Bytes32) : Cell :=
  { object := cell.object.map (BoxedObject.modifyInfo fun info => { info with owner := newOwner })
    balance := cell.balance.map fun b => { b with info.owner := newOwner, owner := newOwner }
    pool := cell.pool.map fun p => { p with info.owner := newOwner }
    vault := cell.vault.map fun v => { v with info.owner := newOwner } }

def bump (cell : Cell) : Cell :=
  { object := cell.object.map
      (BoxedObject.modifyInfo fun info => { info with version := info.version + 1 })
    balance := cell.balance.map fun b => { b with info.version := b.info.version + 1 }
    pool := cell.pool.map fun p => { p with info.version := p.info.version + 1 }
    vault := cell.vault.map fun v => { v with info.version := v.info.version + 1 } }

def overlay (cell : Cell) : Option BoxedObject :=
  (cell.vault.map .vault) <|> (cell.pool.map .pool) <|> (cell.balance.map .balance)

def sync (cell : Cell) : Cell :=
  { cell with object := cell.object.map fun object => cell.overlay.getD object }

theorem sync_sync (cell : Cell) : cell.sync.sync = cell.sync := by
  rcases cell with ⟨object, b, p, v⟩
  cases object <;> cases b <;> cases p <;> cases v <;> rfl

theorem bump_sync (cell : Cell) : cell.sync.bump.sync = cell.bump.sync := by
  rcases cell with ⟨object, b, p, v⟩
  cases object <;> cases b <;> cases p <;> cases v <;> rfl

end Cell

namespace ObjectStore

variable (store : ObjectStore)

def cell (id : ObjectId) : Cell :=
  { object := store.objects.get? id, balance := store.balances.get? id
    pool := store.pools.get? id, vault := store.vaults.get? id }

variable {store} in
theorem ext_cell {other : ObjectStore} (same : ∀ id, store.cell id = other.cell id) :
    store = other := by
  apply ObjectStore.ext
  · exact KeyedMap.ext fun id => congrArg Cell.object (same id)
  · exact KeyedMap.ext fun id => congrArg Cell.balance (same id)
  · exact KeyedMap.ext fun id => congrArg Cell.pool (same id)
  · exact KeyedMap.ext fun id => congrArg Cell.vault (same id)

@[simp] theorem get_eq (id : ObjectId) : store.get id = (store.cell id).object := rfl
@[simp] theorem getBalanceById_eq (id : ObjectId) :
    store.getBalanceById id = (store.cell id).balance := rfl
@[simp] theorem getPoolById_eq (id : ObjectId) : store.getPoolById id = (store.cell id).pool := rfl

theorem cell_sync (id : ObjectId) : store.syncTypedToCanonical.cell id = (store.cell id).sync := by
  simp only [cell, sync_get?, Cell.sync, sync_balances, sync_pools, sync_vaults]
  rfl

theorem cell_modifyBalance (id : ObjectId) (change : BalanceObject → BalanceObject)
    (keeps : ∀ balance, (change balance).id = balance.id) :
    (store.modifyBalance id change keeps).cell =
      Function.update store.cell id ((store.cell id).modifyBalance change) := by
  funext other
  by_cases here : other = id
  · subst here
    simp [cell, modifyBalance, Cell.modifyBalance, KeyedMap.get?_modify]
  · simp [cell, modifyBalance, KeyedMap.get?_modify, Ne.symm here, Function.update_of_ne here]

theorem cell_modifyPool (id : ObjectId) (change : LiquidityPoolObject → LiquidityPoolObject)
    (keeps : ∀ pool, (change pool).id = pool.id) :
    (store.modifyPool id change keeps).cell =
      Function.update store.cell id ((store.cell id).modifyPool change) := by
  funext other
  by_cases here : other = id
  · subst here
    simp [cell, modifyPool, Cell.modifyPool, KeyedMap.get?_modify]
  · simp [cell, modifyPool, KeyedMap.get?_modify, Ne.symm here, Function.update_of_ne here]

theorem cell_modifyInfo (id : ObjectId) (change : ObjectMeta → ObjectMeta)
    (keeps : ∀ info, (change info).id = info.id) :
    (store.modifyInfo id change keeps).cell = Function.update store.cell id
      { store.cell id with object := (store.cell id).object.map (BoxedObject.modifyInfo change) } := by
  funext other
  by_cases here : other = id
  · subst here
    simp [cell, modifyInfo, KeyedMap.get?_modify]
  · simp [cell, modifyInfo, KeyedMap.get?_modify, Ne.symm here, Function.update_of_ne here]

theorem cell_setOwner (id : ObjectId) (newOwner : Bytes32) :
    (SettlementEngine.setOwner store id newOwner).cell =
      Function.update store.cell id ((store.cell id).setOwner newOwner) := by
  funext other
  by_cases here : other = id
  · subst here
    simp [cell, SettlementEngine.setOwner, modifyInfo, modifyBalance, modifyPool, modifyVault,
      Cell.setOwner, KeyedMap.get?_modify]
  · simp [cell, SettlementEngine.setOwner, modifyInfo, modifyBalance, modifyPool, modifyVault,
      KeyedMap.get?_modify, Ne.symm here, Function.update_of_ne here]

theorem cell_bumpVersion (id : ObjectId) :
    (SettlementEngine.bumpVersion store id).cell =
      Function.update store.cell id (store.cell id).bump := by
  funext other
  by_cases here : other = id
  · subst here
    simp [cell, SettlementEngine.bumpVersion, modifyInfo, modifyBalance, modifyPool, modifyVault,
      Cell.bump, KeyedMap.get?_modify]
  · simp [cell, SettlementEngine.bumpVersion, modifyInfo, modifyBalance, modifyPool, modifyVault,
      KeyedMap.get?_modify, Ne.symm here, Function.update_of_ne here]

theorem cell_insert {object : BoxedObject}
    (plain : (store.insert object).balances = store.balances ∧
      (store.insert object).pools = store.pools ∧ (store.insert object).vaults = store.vaults) :
    (store.insert object).cell =
      Function.update store.cell object.id { store.cell object.id with object := some object } := by
  have objects : (store.insert object).objects = store.objects.insert object := by
    cases object <;> rfl
  obtain ⟨balances, pools, vaults⟩ := plain
  funext other
  by_cases here : other = object.id
  · subst here
    simp [cell, objects, balances, pools, vaults, KeyedMap.get?_insert]
  · simp [cell, objects, balances, pools, vaults, KeyedMap.get?_insert, Ne.symm here,
      Function.update_of_ne here]

end ObjectStore

namespace ObjectOperation

variable (sha256 : Sha256)

def target : ObjectOperation → ObjectId
  | debitBalance balanceId _ | creditBalance balanceId _ | lockBalance balanceId _
  | unlockBalance balanceId _ => balanceId
  | swapPoolAmounts poolId _ _ => poolId
  | updateVersion objectId | transferOwnership objectId _ => objectId
  | contractStateTransition contractId _ _ => contractId
  | bindContractBalance _ balanceId _ _ _ => balanceId
  | createToken creatorContract mintAuthoritySchema symbol decimals _ _ =>
      computeAssetId sha256 creatorContract mintAuthoritySchema symbol decimals
  | emitContractEvent contractId _ _ _ _ => contractId
  | ibcTransfer sourceContract _ _ _ _ _ _ => sourceContract
  | scheduleExecution contractId _ _ _ _ _ _ _ => contractId

def touched (op : ObjectOperation) : List ObjectId :=
  match op with
  | createToken creatorContract _ _ _ _ _ => [op.target sha256, creatorContract]
  | _ => [op.target sha256]

def checked (op : ObjectOperation) : List ObjectId :=
  match op with
  | bindContractBalance contractId balanceId _ _ _ => [contractId, balanceId]
  | createToken .. => []
  | _ => [op.target sha256]

theorem target_mem_touched (op : ObjectOperation) : op.target sha256 ∈ op.touched sha256 := by
  cases op <;> simp [touched]

end ObjectOperation

namespace SettlementEngine

variable (sha256 : Sha256)

def applyCell (cell : Cell) : ObjectOperation → Except RuntimeError Cell
  | .debitBalance balanceId amount => do
      let balance ← orNotFound cell.balance balanceId
      match MachineInt.checkedSub balance.amount amount with
      | some rest => return cell.modifyBalance fun balance => { balance with amount := rest }
      | none => throw (.insufficientBalance amount balance.amount)
  | .creditBalance balanceId amount => do
      let _ ← orNotFound cell.balance balanceId
      return cell.modifyBalance fun balance =>
        { balance with amount := MachineInt.saturatingAdd balance.amount amount }
  | .swapPoolAmounts poolId deltaA deltaB => do
      let _ ← orNotFound cell.pool poolId
      return cell.modifyPool fun pool => { pool with
        reserveA := shiftReserve pool.reserveA deltaA
        reserveB := shiftReserve pool.reserveB deltaB }
  | .lockBalance balanceId amount => do
      let _ ← orNotFound cell.balance balanceId
      return cell.modifyBalance fun balance =>
        { balance with lockedAmount := MachineInt.saturatingAdd balance.lockedAmount amount }
  | .unlockBalance balanceId amount => do
      let balance ← orNotFound cell.balance balanceId
      match MachineInt.checkedSub balance.lockedAmount amount with
      | some rest => return cell.modifyBalance fun balance => { balance with lockedAmount := rest }
      | none => throw (.constraintViolation "unlock exceeds locked_amount")
  | .transferOwnership objectId newOwner => do
      let _ ← orNotFound cell.object objectId
      return cell.setOwner newOwner
  | .contractStateTransition contractId _ proposedState => do
      let object ← orNotFound cell.object contractId
      match object.asContract with
      | some contract =>
          let updated := contract.setState sha256 proposedState
          return { cell with object := some (.contract
            { updated with info.updatedAt := updated.info.updatedAt + 1 }) }
      | none =>
          throw (.contractValidatorError "failed to deserialize contract object for state update")
  | .createToken creatorContract mintAuthoritySchema symbol decimals initialSupply maxSupply =>
      return { cell with object := some (.token (newToken sha256 creatorContract mintAuthoritySchema
        symbol decimals initialSupply maxSupply)) }
  | _ => return cell

theorem applyOp_cell (store : ObjectStore) (affected : List ObjectId) (op : ObjectOperation) :
    match applyCell sha256 (store.cell (op.target sha256)) op with
    | .error e => applyOp sha256 store affected op = .error e
    | .ok cell => ∃ next, applyOp sha256 store affected op = .ok (next, affected ++ op.touched sha256) ∧
        next.cell = Function.update store.cell (op.target sha256) cell := by
  cases op with
  | debitBalance balanceId amount =>
      simp only [applyCell, applyOp, ObjectOperation.target, ObjectStore.getBalanceById_eq]
      cases found : (store.cell balanceId).balance with
      | none => rfl
      | some balance =>
          simp only [orNotFound, bind, Except.bind]
          cases MachineInt.checkedSub balance.amount amount with
          | none => rfl
          | some rest => exact ⟨_, rfl, store.cell_modifyBalance _ _ _⟩
  | unlockBalance balanceId amount =>
      simp only [applyCell, applyOp, ObjectOperation.target, ObjectStore.getBalanceById_eq]
      cases found : (store.cell balanceId).balance with
      | none => rfl
      | some balance =>
          simp only [orNotFound, bind, Except.bind]
          cases MachineInt.checkedSub balance.lockedAmount amount with
          | none => rfl
          | some rest => exact ⟨_, rfl, store.cell_modifyBalance _ _ _⟩
  | creditBalance balanceId amount | lockBalance balanceId amount =>
      simp only [applyCell, applyOp, ObjectOperation.target, ObjectStore.getBalanceById_eq]
      cases found : (store.cell balanceId).balance with
      | none => rfl
      | some balance => exact ⟨_, rfl, store.cell_modifyBalance _ _ _⟩
  | swapPoolAmounts poolId deltaA deltaB =>
      simp only [applyCell, applyOp, ObjectOperation.target, ObjectStore.getPoolById_eq]
      cases found : (store.cell poolId).pool with
      | none => rfl
      | some pool => exact ⟨_, rfl, store.cell_modifyPool _ _ _⟩
  | transferOwnership objectId newOwner =>
      simp only [applyCell, applyOp, ObjectOperation.target, ObjectStore.get_eq]
      cases found : (store.cell objectId).object with
      | none => rfl
      | some object => exact ⟨_, rfl, store.cell_setOwner _ _⟩
  | contractStateTransition contractId schemaId proposedState =>
      simp only [applyCell, applyOp, ObjectOperation.target, ObjectStore.get_eq]
      cases found : (store.cell contractId).object with
      | none => rfl
      | some object =>
          simp only [orNotFound, bind, Except.bind]
          cases decoded : object.asContract with
          | none => rfl
          | some contract =>
              obtain rfl := asContract_eq_some.1 decoded
              -- The insert goes under the contract's own id, which is the one it was found under.
              have keyed : contract.info.id = contractId := store.objects.key_of_get? found
              refine ⟨_, rfl, ?_⟩
              rw [store.cell_insert ⟨rfl, rfl, rfl⟩]
              simp only [BoxedObject.id, BoxedObject.info, ContractObject.setState, keyed]
  | createToken creatorContract mintAuthoritySchema symbol decimals initialSupply maxSupply =>
      refine ⟨_, rfl, ?_⟩
      rw [store.cell_insert ⟨rfl, rfl, rfl⟩]
      rfl
  | _ => exact ⟨store, rfl, (Function.update_eq_self _ _).symm⟩

theorem applyOp_affected (store : ObjectStore) (affected : List ObjectId) (op : ObjectOperation) :
    applyOp sha256 store affected op =
      (applyOp sha256 store [] op).map fun result => (result.1, affected ++ result.2) := by
  have step := applyOp_cell sha256 store affected op
  have alone := applyOp_cell sha256 store [] op
  cases effect : applyCell sha256 (store.cell (op.target sha256)) op with
  | error e =>
      rw [effect] at step alone
      rw [step, alone]
      rfl
  | ok cell =>
      rw [effect] at step alone
      obtain ⟨next, applied, cells⟩ := step
      obtain ⟨same, applied', cells'⟩ := alone
      obtain rfl : same = next := ObjectStore.ext_cell fun id => by rw [cells, cells']
      rw [applied, applied']
      rfl

section Invariant

/-! What the operations keep of every cell, a plan keeps. -/

variable {sha256} {P : ObjectId → Cell → Prop}

theorem applyOps_forall {ops : List ObjectOperation}
    (keeps : ∀ op ∈ ops, ∀ cell next, P (op.target sha256) cell → applyCell sha256 cell op = .ok next →
      P (op.target sha256) next)
    {store : ObjectStore} (start : ∀ id, P id (store.cell id)) (affected : List ObjectId) :
    ∀ id, P id ((applyOps sha256 store affected ops).1.cell id) := by
  induction ops generalizing store affected with
  | nil => exact start
  | cons op ops ih =>
      have step := applyOp_cell sha256 store affected op
      rw [applyOps]
      cases effect : applyCell sha256 (store.cell (op.target sha256)) op with
      | error e =>
          rw [effect] at step
          rw [step]
          exact start
      | ok cell =>
          rw [effect] at step
          obtain ⟨next, applied, cells⟩ := step
          rw [applied]
          refine ih (fun other member => keeps other (List.mem_cons_of_mem _ member)) ?_ _
          intro id
          rw [cells]
          by_cases here : id = op.target sha256
          · subst here
            rw [Function.update_self]
            exact keeps op List.mem_cons_self _ _ (start _) effect
          · rw [Function.update_of_ne here]
            exact start id

theorem foldl_bumpVersion_forall (bumps : ∀ id cell, P id cell → P id cell.bump) (ids : List ObjectId)
    {store : ObjectStore} (start : ∀ id, P id (store.cell id)) :
    ∀ id, P id ((ids.foldl bumpVersion store).cell id) := by
  induction ids generalizing store with
  | nil => exact start
  | cons first ids ih =>
      refine ih fun id => ?_
      rw [store.cell_bumpVersion]
      by_cases here : id = first
      · subst here
        rw [Function.update_self]
        exact bumps _ _ (start _)
      · rw [Function.update_of_ne here]
        exact start id

theorem applyPlan_forall {plan : ExecutionPlan}
    (keeps : ∀ op ∈ plan.operations, ∀ cell next, P (op.target sha256) cell →
      applyCell sha256 cell op = .ok next → P (op.target sha256) next)
    (bumps : ∀ id cell, P id cell → P id cell.bump) (syncs : ∀ id cell, P id cell → P id cell.sync)
    {store : ObjectStore} (start : ∀ id, P id (store.cell id)) :
    ∀ id, P id ((applyPlan sha256 plan store).2.cell id) := by
  have applied := applyOps_forall keeps start []
  rcases applyPlan_cases sha256 plan store with ⟨-, -, same⟩ |
    ⟨-, ⟨after, e, ran, -, left⟩ | ⟨after, affected, ran, -, left⟩⟩
  · rwa [same]
  · rw [left]
    rwa [ran] at applied
  · intro id
    rw [left, ObjectStore.cell_sync]
    rw [ran] at applied
    exact syncs id _ (foldl_bumpVersion_forall bumps _ applied id)

end Invariant

section Simulation

/-! Two stores whose cells are related stay so under a plan that treats related cells alike. -/

variable {sha256} {R : ObjectId → Cell → Cell → Prop}

def Related (R : Cell → Cell → Prop) : Except RuntimeError Cell → Except RuntimeError Cell → Prop
  | .ok one, .ok other => R one other
  | .error e, .error e' => e = e'
  | _, _ => False

theorem applyOps_simulates {ops : List ObjectOperation}
    (alike : ∀ op ∈ ops, ∀ one other, R (op.target sha256) one other →
      Related (R (op.target sha256)) (applyCell sha256 one op) (applyCell sha256 other op))
    {store mirror : ObjectStore} (start : ∀ id, R id (store.cell id) (mirror.cell id))
    (affected : List ObjectId) :
    (applyOps sha256 store affected ops).2 = (applyOps sha256 mirror affected ops).2 ∧
    ∀ id, R id ((applyOps sha256 store affected ops).1.cell id)
      ((applyOps sha256 mirror affected ops).1.cell id) := by
  induction ops generalizing store mirror affected with
  | nil => exact ⟨rfl, start⟩
  | cons op ops ih =>
      have step := applyOp_cell sha256 store affected op
      have step' := applyOp_cell sha256 mirror affected op
      have related := alike op List.mem_cons_self _ _ (start (op.target sha256))
      rw [applyOps, applyOps]
      cases effect : applyCell sha256 (store.cell (op.target sha256)) op with
      | error e =>
          cases effect' : applyCell sha256 (mirror.cell (op.target sha256)) op with
          | ok cell' =>
              rw [effect, effect'] at related
              exact related.elim
          | error e' =>
              rw [effect, effect'] at related
              rw [effect] at step
              rw [effect'] at step'
              obtain rfl : e = e' := related
              rw [step, step']
              exact ⟨rfl, start⟩
      | ok cell =>
          cases effect' : applyCell sha256 (mirror.cell (op.target sha256)) op with
          | error e' =>
              rw [effect, effect'] at related
              exact related.elim
          | ok cell' =>
              rw [effect, effect'] at related
              rw [effect] at step
              rw [effect'] at step'
              obtain ⟨next, applied, cells⟩ := step
              obtain ⟨next', applied', cells'⟩ := step'
              rw [applied, applied']
              refine ih (fun other member => alike other (List.mem_cons_of_mem _ member)) ?_ _
              intro id
              rw [cells, cells']
              by_cases here : id = op.target sha256
              · subst here
                rw [Function.update_self, Function.update_self]
                exact related
              · rw [Function.update_of_ne here, Function.update_of_ne here]
                exact start id

theorem foldl_bumpVersion_cell (ids : List ObjectId) (store : ObjectStore) (id : ObjectId) :
    (ids.foldl bumpVersion store).cell id = Cell.bump^[ids.count id] (store.cell id) := by
  induction ids generalizing store with
  | nil => rfl
  | cons first ids ih =>
      rw [List.foldl_cons, ih, store.cell_bumpVersion]
      by_cases here : id = first
      · subst here
        rw [Function.update_self, List.count_cons_self, Function.iterate_succ_apply]
      · rw [Function.update_of_ne here, List.count_cons_of_ne (Ne.symm here)]

theorem applyPlan_simulates {plan : ExecutionPlan}
    (alike : ∀ op ∈ plan.operations, ∀ one other, R (op.target sha256) one other →
      Related (R (op.target sha256)) (applyCell sha256 one op) (applyCell sha256 other op))
    (bumps : ∀ id one other, R id one other → R id one.bump other.bump)
    (syncs : ∀ id one other, R id one other → R id one.sync other.sync)
    {store mirror : ObjectStore} (start : ∀ id, R id (store.cell id) (mirror.cell id))
    (refused : Refused plan store ↔ Refused plan mirror) :
    ∀ id, R id ((applyPlan sha256 plan store).2.cell id)
      ((applyPlan sha256 plan mirror).2.cell id) := by
  obtain ⟨outcome, related⟩ := applyOps_simulates alike start []
  rcases applyPlan_cases sha256 plan store with ⟨no, -, same⟩ | ⟨yes, settled⟩ <;>
    rcases applyPlan_cases sha256 plan mirror with ⟨no', -, same'⟩ | ⟨yes', settled'⟩
  · rwa [same, same']
  · exact absurd (refused.1 no) yes'
  · exact absurd (refused.2 no') yes
  · rcases settled with ⟨after, e, ran, -, left⟩ | ⟨after, affected, ran, -, left⟩ <;>
      rcases settled' with ⟨after', e', ran', -, left'⟩ | ⟨after', affected', ran', -, left'⟩ <;>
      rw [ran, ran'] at outcome related
    · rwa [left, left']
    · cases outcome
    · cases outcome
    · obtain rfl : affected = affected' := Except.ok.inj outcome
      intro id
      rw [left, left', ObjectStore.cell_sync, ObjectStore.cell_sync, foldl_bumpVersion_cell,
        foldl_bumpVersion_cell]
      apply syncs
      generalize (mutatedIds affected).count id = times
      induction times with
      | zero => exact related id
      | succ times ih =>
          rw [Function.iterate_succ_apply', Function.iterate_succ_apply']
          exact bumps id _ _ ih

end Simulation

section Frame

theorem applyOps_affected {ops : List ObjectOperation} {store after : ObjectStore}
    {affected ids : List ObjectId} (ran : applyOps sha256 store affected ops = (after, .ok ids)) :
    ids = affected ++ ops.flatMap (ObjectOperation.touched sha256) := by
  induction ops generalizing store affected with
  | nil =>
      rw [List.flatMap_nil, List.append_nil]
      exact (Except.ok.inj (Prod.mk.inj ran).2).symm
  | cons op ops ih =>
      have step := applyOp_cell sha256 store affected op
      rw [applyOps] at ran
      cases effect : applyCell sha256 (store.cell (op.target sha256)) op with
      | error e =>
          rw [effect] at step
          rw [step] at ran
          cases (Prod.mk.inj ran).2
      | ok cell =>
          rw [effect] at step
          obtain ⟨next, applied, -⟩ := step
          rw [applied] at ran
          rw [ih ran, List.flatMap_cons, List.append_assoc]

theorem mem_mutatedIds {affected : List ObjectId} {id : ObjectId} :
    id ∈ mutatedIds affected ↔ id ∈ affected := by
  simp [mutatedIds, Std.ExtTreeSet.mem_toList, Std.ExtTreeSet.mem_ofList]

theorem nodup_mutatedIds (affected : List ObjectId) : (mutatedIds affected).Nodup := by
  refine Std.ExtTreeSet.distinct_toList.imp ?_
  intro a b differ same
  exact differ (Std.compare_eq_iff_eq.2 same)

theorem applyOps_frame {ops : List ObjectOperation} (store : ObjectStore) {id : ObjectId}
    (untouched : id ∉ ops.flatMap (ObjectOperation.touched sha256)) :
    (applyOps sha256 store [] ops).1.cell id = store.cell id := by
  refine applyOps_forall (P := fun other cell => other = id → cell = store.cell id) ?_ ?_ [] id rfl
  · rintro op member cell next - - rfl
    exact absurd (List.mem_flatMap.2 ⟨op, member, op.target_mem_touched sha256⟩) untouched
  · rintro _ rfl
    rfl

theorem applyPlan_untouched (plan : ExecutionPlan) (store : ObjectStore) {id : ObjectId}
    (untouched : id ∉ plan.operations.flatMap (ObjectOperation.touched sha256)) :
    (applyPlan sha256 plan store).2.cell id =
      if (applyPlan sha256 plan store).1.success then (store.cell id).sync else store.cell id := by
  have kept := applyOps_frame sha256 store untouched
  rcases applyPlan_cases sha256 plan store with ⟨-, failed, same⟩ |
    ⟨-, ⟨after, e, ran, failed, left⟩ | ⟨after, affected, ran, success, left⟩⟩
  · rw [failed, same]
    rfl
  · rw [ran] at kept
    rw [failed, left, kept]
    rfl
  · rw [ran] at kept
    have ids := applyOps_affected sha256 ran
    rw [List.nil_append] at ids
    have none : (mutatedIds affected).count id = 0 := by
      rw [List.count_eq_zero, mem_mutatedIds, ids]
      exact untouched
    rw [success, if_pos rfl, left, ObjectStore.cell_sync, foldl_bumpVersion_cell, none,
      Function.iterate_zero_apply, kept]

theorem applyPlan_frame (plan : ExecutionPlan) (store : ObjectStore) {id : ObjectId}
    (untouched : id ∉ plan.operations.flatMap (ObjectOperation.touched sha256)) :
    ((applyPlan sha256 plan store).2.cell id).sync = (store.cell id).sync := by
  rw [applyPlan_untouched sha256 plan store untouched]
  split
  · exact Cell.sync_sync _
  · rfl

end Frame

section Collect

theorem applyCell_object {cell next : Cell} {op : ObjectOperation}
    (applied : applyCell sha256 cell op = .ok next) (present : cell.object.isSome) :
    next.object.isSome := by
  cases op with
  | debitBalance balanceId amount =>
      obtain ⟨balance, -, applied⟩ := bind_ok.1 applied
      split at applied <;> cases applied
      exact present
  | unlockBalance balanceId amount =>
      obtain ⟨balance, -, applied⟩ := bind_ok.1 applied
      split at applied <;> cases applied
      exact present
  | creditBalance balanceId amount | lockBalance balanceId amount =>
      obtain ⟨balance, -, applied⟩ := bind_ok.1 applied
      cases applied
      exact present
  | swapPoolAmounts poolId deltaA deltaB =>
      obtain ⟨pool, -, applied⟩ := bind_ok.1 applied
      cases applied
      exact present
  | transferOwnership objectId newOwner =>
      obtain ⟨object, -, applied⟩ := bind_ok.1 applied
      cases applied
      simpa [Cell.setOwner] using present
  | contractStateTransition contractId schemaId proposedState =>
      obtain ⟨object, -, applied⟩ := bind_ok.1 applied
      split at applied <;> cases applied
      rfl
  | createToken creatorContract mintAuthoritySchema symbol decimals initialSupply maxSupply =>
      cases applied
      rfl
  | _ =>
      cases applied
      exact present

theorem collect_store (epoch : U64) (ops : List ObjectOperation) (acc : Collected)
    (bound : ∀ contractId balanceId schemaId assetId label,
      .bindContractBalance contractId balanceId schemaId assetId label ∈ ops →
        (acc.store.get balanceId).isSome) :
    (ops.foldl (collect sha256 epoch) acc).store = acc.store := by
  induction ops generalizing acc with
  | nil => rfl
  | cons op ops ih =>
      have same : (collect sha256 epoch acc op).store = acc.store := by
        cases op with
        | bindContractBalance contractId balanceId schemaId assetId label =>
            obtain ⟨object, found⟩ := Option.isSome_iff_exists.1
              (bound contractId balanceId schemaId assetId label List.mem_cons_self)
            simp only [collect, found]
        | _ => rfl
      rw [List.foldl_cons, ih, same]
      intro contractId balanceId schemaId assetId label member
      rw [same]
      exact bound contractId balanceId schemaId assetId label (List.mem_cons_of_mem _ member)

theorem planStep_eq (epoch : U64) (store : ObjectStore) (plan : ExecutionPlan) :
    planStep sha256 epoch store plan = (applyPlan sha256 plan store).2 := by
  rw [planStep, applyPlanWithEffects]
  cases ran : applyPlan sha256 plan store with
  | mk receipt after =>
      dsimp only
      split
      · rfl
      · rename_i success
        refine collect_store sha256 epoch plan.operations _ ?_
        intro contractId balanceId schemaId assetId label member
        have accepted : ¬ Refused plan store := by
          rcases applyPlan_cases sha256 plan store with ⟨-, failed, -⟩ | ⟨accepted, -⟩
          · rw [ran] at failed
            exact absurd failed (by simpa using success)
          · exact accepted
        have valid := ((not_refused_iff plan store).1 accepted).2.2 _ member
        obtain ⟨contract, -, valid⟩ := bind_ok.1 valid
        obtain ⟨balance, found, -⟩ := bind_ok.1 valid
        have found : (store.cell balanceId).object = some balance := orNotFound_ok.1 found
        have kept : ((applyPlan sha256 plan store).2.cell balanceId).object.isSome := by
          refine applyPlan_forall (P := fun id cell => id = balanceId → cell.object.isSome)
            ?_ ?_ ?_ ?_ balanceId rfl
          · intro op _ cell next present applied here
            exact applyCell_object sha256 applied (present here)
          · intro id cell present here
            simpa [Cell.bump] using present here
          · intro id cell present here
            simpa [Cell.sync] using present here
          · intro id here
            rw [here, found]
            rfl
        rw [ran] at kept
        exact kept

end Collect

end SettlementEngine

end Omniphi.Runtime
