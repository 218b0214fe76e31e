import Omniphi.Runtime.Resolved

/-! The total of an asset over balances and pool reserves, and what a settled intent does to it. -/

namespace Omniphi.Runtime

def worth (held : Bytes32) (amount : U128) (asset : Bytes32) : Nat :=
  if held = asset then amount.toNat else 0

theorem worth_mono {amount more : U128} (less : amount.toNat ≤ more.toNat) (held asset : Bytes32) :
    worth held amount asset ≤ worth held more asset := by
  unfold worth
  split
  · exact less
  · rfl

namespace ObjectStore

def total (store : ObjectStore) (asset : Bytes32) : Nat :=
  store.balances.sum (fun balance => worth balance.assetId balance.amount asset) +
    store.pools.sum fun pool =>
      worth pool.assetA pool.reserveA asset + worth pool.assetB pool.reserveB asset

def assetOf (store : ObjectStore) (id : ObjectId) : Option Bytes32 :=
  (store.getBalanceById id).map BalanceObject.assetId

variable {store : ObjectStore}

theorem assetOf_eq {id : ObjectId} {balance : BalanceObject}
    (found : store.getBalanceById id = some balance) : store.assetOf id = some balance.assetId := by
  rw [assetOf, found, Option.map_some]

theorem amount_le_total {id : ObjectId} {balance : BalanceObject}
    (found : store.getBalanceById id = some balance) :
    balance.amount.toNat ≤ store.total balance.assetId := by
  have part := store.balances.le_sum (fun b => worth b.assetId b.amount balance.assetId) found
  simp only [worth, if_true] at part
  exact part.trans (Nat.le_add_right _ _)

theorem reserves_le_total {id : ObjectId} {pool : LiquidityPoolObject}
    (found : store.getPoolById id = some pool) (asset : Bytes32) :
    worth pool.assetA pool.reserveA asset + worth pool.assetB pool.reserveB asset ≤
      store.total asset :=
  (store.pools.le_sum (fun p => worth p.assetA p.reserveA asset + worth p.assetB p.reserveB asset)
    found).trans (Nat.le_add_left _ _)

section Modify

variable {id : ObjectId} (change : BalanceObject → BalanceObject)
  (keeps : ∀ balance, (change balance).id = balance.id)

theorem total_modifyBalance {balance : BalanceObject} (found : store.getBalanceById id = some balance)
    (asset : Bytes32) :
    (store.modifyBalance id change keeps).total asset + worth balance.assetId balance.amount asset =
      store.total asset + worth (change balance).assetId (change balance).amount asset := by
  have moved := store.balances.sum_modify
    (fun b => worth b.assetId b.amount asset) found change keeps
  simp only [total, modifyBalance]
  omega

theorem assetOf_modifyBalance (same : ∀ balance, (change balance).assetId = balance.assetId) :
    (store.modifyBalance id change keeps).assetOf = store.assetOf := by
  funext other
  simp only [assetOf, getBalanceById, modifyBalance, KeyedMap.get?_modify]
  split
  · rw [Option.map_map]
    exact congrArg (fun label => Option.map label _) (funext same)
  · rfl

theorem total_modifyPool (change : LiquidityPoolObject → LiquidityPoolObject)
    (keeps : ∀ pool, (change pool).id = pool.id) {pool : LiquidityPoolObject}
    (found : store.getPoolById id = some pool) (asset : Bytes32) :
    (store.modifyPool id change keeps).total asset +
        (worth pool.assetA pool.reserveA asset + worth pool.assetB pool.reserveB asset) =
      store.total asset + (worth (change pool).assetA (change pool).reserveA asset +
        worth (change pool).assetB (change pool).reserveB asset) := by
  have moved := store.pools.sum_modify
    (fun p => worth p.assetA p.reserveA asset + worth p.assetB p.reserveB asset) found change keeps
  simp only [total, modifyPool]
  omega

end Modify

theorem total_bumpVersion (store : ObjectStore) (id : ObjectId) :
    (SettlementEngine.bumpVersion store id).total = store.total := by
  funext asset
  have balances := store.balances.sum_modify_eq
    (fun b => worth b.assetId b.amount asset) id
    (fun b => { b with info.version := b.info.version + 1 }) (fun _ => rfl) (fun _ => rfl)
  have pools := store.pools.sum_modify_eq
    (fun p => worth p.assetA p.reserveA asset + worth p.assetB p.reserveB asset) id
    (fun p => { p with info.version := p.info.version + 1 }) (fun _ => rfl) (fun _ => rfl)
  exact congrArg₂ (· + ·) balances pools

end ObjectStore

namespace SettlementEngine

variable {sha256 : Sha256} {store mid next after : ObjectStore} {affected ids last : List ObjectId}

section Steps

variable {id other : ObjectId} {amount received : U128} {held wanted : Bytes32}

def BalancesOnly (store next : ObjectStore) : Prop :=
  next.assetOf = store.assetOf ∧ next.pools = store.pools

theorem debited (applied : applyOp sha256 store affected (.debitBalance id amount) = .ok (next, ids))
    (label : store.assetOf id = some held) : BalancesOnly store next ∧
      ∀ asset, next.total asset + worth held amount asset = store.total asset := by
  obtain ⟨balance, found, applied⟩ := bind_ok.1 applied
  rw [orNotFound_ok] at found
  obtain rfl := Option.some.inj ((ObjectStore.assetOf_eq found).symm.trans label)
  split at applied
  · rename_i rest left
    obtain ⟨rfl, -⟩ := Prod.mk.inj (Except.ok.inj applied)
    rw [MachineInt.checkedSub_eq_some] at left
    refine ⟨⟨ObjectStore.assetOf_modifyBalance _ _ fun _ => rfl, rfl⟩, fun asset => ?_⟩
    have moved := ObjectStore.total_modifyBalance
      (fun balance => { balance with amount := rest }) (fun _ => rfl) found asset
    by_cases same : balance.assetId = asset
    · simp only [worth, same, if_true] at moved ⊢
      omega
    · simpa only [worth, same, if_false, Nat.add_zero] using moved
  · cases applied

theorem credited (applied : applyOp sha256 store affected (.creditBalance id amount) = .ok (next, ids))
    (label : store.assetOf id = some held) (room : store.total held + amount.toNat < 2 ^ 128) :
    BalancesOnly store next ∧ ∀ asset, next.total asset = store.total asset + worth held amount asset := by
  obtain ⟨balance, found, applied⟩ := bind_ok.1 applied
  rw [orNotFound_ok] at found
  obtain rfl := Option.some.inj ((ObjectStore.assetOf_eq found).symm.trans label)
  obtain ⟨rfl, -⟩ := Prod.mk.inj (Except.ok.inj applied)
  refine ⟨⟨ObjectStore.assetOf_modifyBalance _ _ fun _ => rfl, rfl⟩, fun asset => ?_⟩
  have moved := ObjectStore.total_modifyBalance
    (fun balance => { balance with amount := MachineInt.saturatingAdd balance.amount amount })
    (fun _ => rfl) found asset
  have part := ObjectStore.amount_le_total found
  by_cases same : balance.assetId = asset
  · simp only [worth, same, if_true, MachineInt.toNat_saturatingAdd] at moved ⊢
    omega
  · simpa only [worth, same, if_false, Nat.add_zero] using moved

theorem debited_credited
    (debit : applyOp sha256 store affected (.debitBalance id amount) = .ok (mid, ids))
    (credit : applyOp sha256 mid ids (.creditBalance other received) = .ok (next, last))
    (label : store.assetOf id = some held) (label' : store.assetOf other = some wanted)
    (room : store.total wanted + received.toNat < 2 ^ 128) :
    BalancesOnly store next ∧ ∀ asset, next.total asset + worth held amount asset =
      store.total asset + worth wanted received asset := by
  obtain ⟨⟨labels, pools⟩, less⟩ := debited debit label
  have room : mid.total wanted + received.toNat < 2 ^ 128 := by
    have := less wanted
    omega
  obtain ⟨⟨labels', pools'⟩, more⟩ := credited credit (labels ▸ label') room
  refine ⟨⟨labels'.trans labels, pools'.trans pools⟩, fun asset => ?_⟩
  rw [more, ← less]
  omega

theorem locked (applied : applyOp sha256 store affected (.lockBalance id amount) = .ok (next, ids)) :
    next.total = store.total := by
  obtain ⟨balance, found, applied⟩ := bind_ok.1 applied
  rw [orNotFound_ok] at found
  obtain ⟨rfl, -⟩ := Prod.mk.inj (Except.ok.inj applied)
  funext asset
  have moved := ObjectStore.total_modifyBalance
    (fun balance =>
      { balance with lockedAmount := MachineInt.saturatingAdd balance.lockedAmount amount })
    (fun _ => rfl) found asset
  exact Nat.add_right_cancel moved

theorem swapped {deltaA deltaB : I128} {pool : LiquidityPoolObject}
    (applied : applyOp sha256 store affected (.swapPoolAmounts id deltaA deltaB) = .ok (next, ids))
    (found : store.getPoolById id = some pool) (asset : Bytes32) :
    next.total asset +
        (worth pool.assetA pool.reserveA asset + worth pool.assetB pool.reserveB asset) =
      store.total asset + (worth pool.assetA (shiftReserve pool.reserveA deltaA) asset +
        worth pool.assetB (shiftReserve pool.reserveB deltaB) asset) := by
  obtain ⟨-, -, applied⟩ := bind_ok.1 applied
  obtain ⟨rfl, -⟩ := Prod.mk.inj (Except.ok.inj applied)
  exact ObjectStore.total_modifyPool _ _ found asset

theorem shiftReserve_in {reserve input : U128} (small : input.toNat < 2 ^ 127)
    (room : reserve.toNat + input.toNat < 2 ^ 128) :
    (shiftReserve reserve input).toNat = reserve.toNat + input.toNat := by
  have positive : input.msb = false := by
    rw [BitVec.msb_eq_false_iff_two_mul_lt]
    omega
  rw [shiftReserve, if_neg (by simp [positive]), MachineInt.toNat_saturatingAdd]
  omega

theorem worth_shiftReserve_in {reserve input : U128} (small : input.toNat < 2 ^ 127)
    (room : reserve.toNat + input.toNat < 2 ^ 128) (held asset : Bytes32) :
    worth held (shiftReserve reserve input) asset = worth held reserve asset + worth held input asset := by
  unfold worth
  split
  · exact shiftReserve_in small room
  · rfl

theorem shiftReserve_out {reserve output : U128} (small : output.toNat < 2 ^ 127)
    (covered : output.toNat ≤ reserve.toNat) :
    (shiftReserve reserve (-output)).toNat = reserve.toNat - output.toNat := by
  unfold shiftReserve
  by_cases nothing : output = 0
  · subst nothing
    have room := reserve.isLt
    simp only [BitVec.ofNat_eq_ofNat, BitVec.neg_zero, BitVec.msb_zero, Bool.false_eq_true, if_false,
      MachineInt.toNat_saturatingAdd, BitVec.toNat_ofNat]
    omega
  · have negative : (-output).msb = true := by
      have positive : output.toNat ≠ 0 := fun zero => nothing (BitVec.eq_of_toNat_eq (by simpa using zero))
      rw [BitVec.msb_eq_true_iff_two_mul_ge, BitVec.toNat_neg]
      omega
    rw [if_pos negative, BitVec.neg_neg, MachineInt.toNat_saturatingSub]

theorem worth_shiftReserve_out {reserve output : U128} (small : output.toNat < 2 ^ 127)
    (covered : output.toNat ≤ reserve.toNat) (held asset : Bytes32) :
    worth held (shiftReserve reserve (-output)) asset + worth held output asset =
      worth held reserve asset := by
  unfold worth
  split
  · rw [shiftReserve_out small covered]
    omega
  · rfl

end Steps

section Plan

theorem applyOps_cons_ok {op : ObjectOperation} {ops : List ObjectOperation}
    (ran : applyOps sha256 store affected (op :: ops) = (after, .ok ids)) :
    ∃ next last, applyOp sha256 store affected op = .ok (next, last) ∧
      applyOps sha256 next last ops = (after, .ok ids) := by
  rw [applyOps] at ran
  cases applied : applyOp sha256 store affected op with
  | error e =>
      rw [applied] at ran
      cases (Prod.mk.inj ran).2
  | ok result =>
      rw [applied] at ran
      exact ⟨result.1, result.2, rfl, ran⟩

theorem applyOps_nil_ok (ran : applyOps sha256 store affected [] = (after, .ok ids)) :
    after = store :=
  (Prod.mk.inj ran).1.symm

theorem total_foldl_bumpVersion (ids : List ObjectId) (store : ObjectStore) :
    (ids.foldl bumpVersion store).total = store.total := by
  induction ids generalizing store with
  | nil => rfl
  | cons id ids ih => rw [List.foldl_cons, ih, store.total_bumpVersion]

theorem total_settled {plan : ExecutionPlan} (settled : (applyPlan sha256 plan store).1.success = true) :
    ∃ after ids, applyOps sha256 store [] plan.operations = (after, .ok ids) ∧
      (applyPlan sha256 plan store).2.total = after.total := by
  rcases applyPlan_cases sha256 plan store with ⟨-, failed, -⟩ |
    ⟨-, ⟨-, -, -, failed, -⟩ | ⟨after, ids, ran, -, left⟩⟩
  · cases failed.symm.trans settled
  · cases failed.symm.trans settled
  · refine ⟨after, ids, ran, ?_⟩
    rw [left]
    exact total_foldl_bumpVersion _ after

end Plan

section Intents

variable {txId : Bytes32} {maxFee : U64} {sender : Bytes32} {caps : CapabilitySet}
  {plan : ExecutionPlan}

def SmallTotals (store : ObjectStore) : Prop := ∀ asset, store.total asset < 2 ^ 127

theorem assetOf_findBalance {owner assetId : Bytes32} {balance : BalanceObject}
    (found : store.findBalance owner assetId = some balance) :
    store.assetOf balance.id = some assetId := by
  obtain ⟨held, -, label⟩ := ObjectStore.findBalance_spec found
  rw [ObjectStore.assetOf_eq held, label]

theorem amount_small (small : SmallTotals store) {owner assetId : Bytes32} {balance : BalanceObject}
    {amount : U128} (found : store.findBalance owner assetId = some balance)
    (enough : amount ≤ balance.available) : amount.toNat < 2 ^ 127 := by
  have part := ObjectStore.amount_le_total (ObjectStore.findBalance_spec found).1
  have bound := small balance.assetId
  rw [BitVec.le_def, BalanceObject.available, MachineInt.toNat_saturatingSub] at enough
  omega

theorem total_debit_credit (small : SmallTotals store) {id other : ObjectId} {amount received : U128}
    {held wanted : Bytes32} (label : store.assetOf id = some held)
    (label' : store.assetOf other = some wanted) (modest : received.toNat < 2 ^ 127)
    (settled : (applyPlan sha256 plan store).1.success = true)
    (operations : plan.operations = [.debitBalance id amount, .creditBalance other received])
    (asset : Bytes32) :
    (applyPlan sha256 plan store).2.total asset + worth held amount asset =
      store.total asset + worth wanted received asset := by
  obtain ⟨after, ids, ran, same⟩ := total_settled settled
  rw [operations] at ran
  obtain ⟨mid, _, debit, ran⟩ := applyOps_cons_ok ran
  obtain ⟨next, _, credit, ran⟩ := applyOps_cons_ok ran
  obtain rfl := applyOps_nil_ok ran
  rw [same]
  have bound := small wanted
  exact (debited_credited debit credit label label' (by omega)).2 asset

theorem reserveA_small (small : SmallTotals store) {id : ObjectId} {pool : LiquidityPoolObject}
    (found : store.getPoolById id = some pool) : pool.reserveA.toNat < 2 ^ 127 := by
  have part := ObjectStore.reserves_le_total found pool.assetA
  have bound := small pool.assetA
  simp only [worth, if_true] at part
  omega

theorem reserveB_small (small : SmallTotals store) {id : ObjectId} {pool : LiquidityPoolObject}
    (found : store.getPoolById id = some pool) : pool.reserveB.toNat < 2 ^ 127 := by
  have part := ObjectStore.reserves_le_total found pool.assetB
  have bound := small pool.assetB
  simp only [worth, if_true] at part
  omega

theorem total_debit_credit_swap {id other poolId : ObjectId} {amount received : U128}
    {deltaA deltaB : I128} {held wanted : Bytes32} {pool : LiquidityPoolObject}
    (label : store.assetOf id = some held) (label' : store.assetOf other = some wanted)
    (room : store.total wanted + received.toNat < 2 ^ 128)
    (found : store.getPoolById poolId = some pool)
    (ran : applyOps sha256 store affected [.debitBalance id amount, .creditBalance other received,
      .swapPoolAmounts poolId deltaA deltaB] = (after, .ok ids)) (asset : Bytes32) :
    after.total asset + worth held amount asset +
        (worth pool.assetA pool.reserveA asset + worth pool.assetB pool.reserveB asset) =
      store.total asset + worth wanted received asset +
        (worth pool.assetA (shiftReserve pool.reserveA deltaA) asset +
          worth pool.assetB (shiftReserve pool.reserveB deltaB) asset) := by
  obtain ⟨_, _, debit, ran⟩ := applyOps_cons_ok ran
  obtain ⟨mid, _, credit, ran⟩ := applyOps_cons_ok ran
  obtain ⟨_, _, swap, ran⟩ := applyOps_cons_ok ran
  obtain rfl := applyOps_nil_ok ran
  obtain ⟨⟨-, pools⟩, paid⟩ := debited_credited debit credit label label' room
  have found : mid.getPoolById poolId = some pool := by
    rw [ObjectStore.getPoolById, pools]
    exact found
  have moved := swapped swap found asset
  have paid := paid asset
  omega

theorem total_swap (small : SmallTotals store) {s : SwapIntent}
    (resolved : IntentResolver.resolveSwap txId maxFee sender store caps s = .ok plan)
    (settled : (applyPlan sha256 plan store).1.success = true) (asset : Bytes32) :
    (applyPlan sha256 plan store).2.total asset = store.total asset := by
  obtain ⟨pool, own, other, output, eligible, found, enough, found', direction⟩ :=
    IntentResolver.resolveSwap_ok resolved
  obtain ⟨held, pair⟩ := ObjectStore.findPool_spec eligible
  -- All amounts are below `2^127`, so no cast changes a sign and nothing saturates.
  have modest := amount_small small found enough
  have smallA := reserveA_small small held
  have smallB := reserveB_small small held
  have bound := small s.outputAsset
  obtain ⟨after, ids, ran, same⟩ := total_settled settled
  rw [same]
  rcases direction with ⟨inputIsA, covered, rfl⟩ | ⟨inputIsB, covered, rfl⟩
  · rw [BitVec.le_def] at covered
    have moved := total_debit_credit_swap (assetOf_findBalance found) (assetOf_findBalance found')
      (by omega) held ran asset
    rw [worth_shiftReserve_in modest (by omega)] at moved
    have gives := worth_shiftReserve_out (by omega) covered pool.assetB asset
    have assetB : pool.assetB = s.outputAsset := by grind
    rw [inputIsA] at moved
    rw [assetB] at moved gives
    omega
  · rw [BitVec.le_def] at covered
    have moved := total_debit_credit_swap (assetOf_findBalance found) (assetOf_findBalance found')
      (by omega) held ran asset
    rw [worth_shiftReserve_in modest (by omega)] at moved
    have gives := worth_shiftReserve_out (by omega) covered pool.assetA asset
    obtain ⟨assetA, assetB⟩ := pair.resolve_left fun fits => inputIsB fits.1
    rw [assetA] at moved gives
    rw [assetB] at moved
    omega

theorem total_yieldAllocate {y : YieldAllocateIntent}
    (resolved : IntentResolver.resolveYieldAllocate txId maxFee sender store caps y = .ok plan)
    (settled : (applyPlan sha256 plan store).1.success = true) :
    (applyPlan sha256 plan store).2.total = store.total := by
  obtain ⟨own, -, -, rfl⟩ := IntentResolver.resolveYieldAllocate_ok resolved
  obtain ⟨after, ids, ran, same⟩ := total_settled settled
  obtain ⟨next, _, lock, ran⟩ := applyOps_cons_ok ran
  obtain ⟨_, _, version, ran⟩ := applyOps_cons_ok ran
  obtain rfl := applyOps_nil_ok ran
  obtain ⟨rfl, -⟩ := Prod.mk.inj (Except.ok.inj version)
  rw [same, locked lock]

theorem total_routeLiquidity (small : SmallTotals store) {rl : RouteLiquidityIntent}
    (resolved : IntentResolver.resolveRouteLiquidity txId maxFee sender store caps rl = .ok plan)
    (settled : (applyPlan sha256 plan store).1.success = true)
    (modest : rl.minReceived ≤ rl.amount) (asset : Bytes32) :
    (applyPlan sha256 plan store).2.total asset ≤ store.total asset := by
  obtain ⟨own, found, enough, rfl⟩ := IntentResolver.resolveRouteLiquidity_ok resolved
  obtain ⟨after, ids, ran, same⟩ := total_settled settled
  obtain ⟨mid, _, debit, ran⟩ := applyOps_cons_ok ran
  obtain ⟨_, _, source, ran⟩ := applyOps_cons_ok ran
  obtain ⟨_, _, target, ran⟩ := applyOps_cons_ok ran
  obtain ⟨_, _, credit, ran⟩ := applyOps_cons_ok ran
  obtain rfl := applyOps_nil_ok ran
  obtain ⟨rfl, rfl⟩ := Prod.mk.inj (Except.ok.inj source)
  obtain ⟨rfl, rfl⟩ := Prod.mk.inj (Except.ok.inj target)
  have label := assetOf_findBalance found
  have paid := amount_small small found enough
  have bound := small rl.assetId
  rw [BitVec.le_def] at modest
  obtain ⟨⟨labels, -⟩, less⟩ := debited debit label
  have lower := less rl.assetId
  obtain ⟨-, more⟩ := credited credit (labels ▸ label) (by omega)
  have here := less asset
  have returned := worth_mono modest rl.assetId asset
  rw [same, more]
  omega

/-- Settling an intent raises no total, but for a treasury rebalance, which takes from one asset what
it adds to the other. A route that asks for more than it gives is not covered. -/
theorem settled_totals (sha256 : Sha256) (tx : IntentTransaction) (store : ObjectStore)
    (caps : CapabilitySet) (plan : ExecutionPlan) (small : SmallTotals store)
    (resolved : IntentResolver.resolve tx store caps = .ok plan)
    (settled : (applyPlan sha256 plan store).1.success = true) :
    match tx.intent with
    | .treasuryRebalance r => ∀ asset,
        (applyPlan sha256 plan store).2.total asset + worth r.fromAsset r.amount asset =
          store.total asset + worth r.toAsset r.amount asset
    | .routeLiquidity rl => rl.minReceived ≤ rl.amount →
        ∀ asset, (applyPlan sha256 plan store).2.total asset ≤ store.total asset
    | _ => ∀ asset, (applyPlan sha256 plan store).2.total asset ≤ store.total asset := by
  unfold IntentResolver.resolve at resolved
  split at resolved
  · rename_i t kind
    rw [kind]
    intro asset
    obtain ⟨own, other, found, enough, found', rfl⟩ := IntentResolver.resolveTransfer_ok resolved
    have moved := total_debit_credit small (assetOf_findBalance found) (assetOf_findBalance found')
      (amount_small small found enough) settled rfl asset
    omega
  · rename_i s kind
    rw [kind]
    intro asset
    exact (total_swap small resolved settled asset).le
  · rename_i y kind
    rw [kind]
    intro asset
    exact (congrFun (total_yieldAllocate resolved settled) asset).le
  · rename_i r kind
    rw [kind]
    intro asset
    obtain ⟨-, own, other, found, enough, found', rfl⟩ :=
      IntentResolver.resolveTreasuryRebalance_ok resolved
    exact total_debit_credit small (assetOf_findBalance found) (assetOf_findBalance found')
      (amount_small small found enough) settled rfl asset
  · rename_i rl kind
    rw [kind]
    intro modest asset
    exact total_routeLiquidity small resolved settled modest asset
  · cases resolved

section Examples

def someIntent (intent : IntentType) : IntentTransaction :=
  { txId := 1, sender := 7, intent, maxFee := 100, deadlineEpoch := 10, nonce := 0, signature := 0
    metadata := ∅, targetObjects := [], constraints := {}, executionMode := .bestEffort
    sponsor := none, sponsorSignature := none, sponsorshipLimits := {}, feePolicy := .senderPays
    feeEnvelope := none }

def treasury : ObjectStore :=
  (ObjectStore.new.insert (.balance (.new 1 7 3 100 0))).insert (.balance (.new 2 7 4 0 0))

def rebalance : IntentTransaction :=
  someIntent (.treasuryRebalance { fromAsset := 3, toAsset := 4, amount := 60, authorizedBy := [7] })

def rebalancePlan : ExecutionPlan :=
  IntentResolver.planOf 1 100 [.modifyGovernance] [.debitBalance 1 60, .creditBalance 2 60]
    [.write 1, .write 2]

theorem smallTotals_treasury : SmallTotals treasury := by
  intro asset
  have listed : treasury.total asset = worth 3 100 asset + (worth 4 0 asset + 0) + 0 := rfl
  rw [listed]
  simp only [worth]
  split <;> split <;> decide

theorem rebalance_creates :
    ¬ ∀ (sha256 : Sha256) (tx : IntentTransaction) (store : ObjectStore) (caps : CapabilitySet)
      (plan : ExecutionPlan), SmallTotals store → tx.validate = .ok () →
      IntentResolver.resolve tx store caps = .ok plan →
      (applyPlan sha256 plan store).1.success = true →
      ∀ asset, (applyPlan sha256 plan store).2.total asset ≤ store.total asset := by
  intro conserved
  have bound := conserved (fun _ => 0) rebalance treasury
    (Std.ExtTreeSet.ofList [.modifyGovernance] compare) rebalancePlan smallTotals_treasury rfl rfl
    (by decide +kernel) 4
  revert bound
  decide +kernel

def market : ObjectStore :=
  treasury.insert (.pool
    { info := .new 5 .liquidityPool 9 0, assetA := 3, assetB := 4, reserveA := 1000, reserveB := 1000
      feeBps := 30, lpTokenId := 6, totalLpSupply := 1000 })

def swapIntent : IntentTransaction :=
  someIntent (.swap { inputAsset := 3, outputAsset := 4, inputAmount := 100, minOutputAmount := 80
                      maxSlippageBps := 500, allowedPoolIds := none })

def swapPlan : ExecutionPlan :=
  IntentResolver.planOf 1 100 [.swapAsset]
    [.debitBalance 1 100, .creditBalance 2 90, .swapPoolAmounts 5 100 (-90)]
    [.write 1, .write 2, .write 5]

theorem smallTotals_market : SmallTotals market := by
  intro asset
  have listed : market.total asset = worth 3 100 asset + (worth 4 0 asset + 0) +
      (worth 3 1000 asset + worth 4 1000 asset + 0) := rfl
  rw [listed]
  simp only [worth]
  split <;> split <;> decide

theorem swap_keeps_totals :
    swapIntent.validate = .ok () ∧ IntentResolver.resolve swapIntent market .userDefault = .ok swapPlan ∧
    ∀ asset, (applyPlan (fun _ => 0) swapPlan market).2.total asset ≤ market.total asset :=
  ⟨rfl, rfl, settled_totals (fun _ => 0) swapIntent market .userDefault swapPlan smallTotals_market rfl
    (by decide +kernel)⟩

end Examples

end Intents

end SettlementEngine

end Omniphi.Runtime
