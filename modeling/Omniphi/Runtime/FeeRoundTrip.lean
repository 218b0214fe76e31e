import Omniphi.Runtime.FeeExecutor

/-! When reserving, charging and settling a fee brings the payer's lock back to where it was. -/

namespace Omniphi.Runtime

open MachineInt

namespace BalanceObject

variable {balance : BalanceObject} (fee : U64)

theorem toNat_fee : (fee.setWidth 128).toNat = fee.toNat := by
  rw [BitVec.toNat_setWidth]
  exact Nat.mod_eq_of_lt (by have := fee.isLt; omega)

theorem debitFee_covered (covered : balance.lockedAmount ≤ balance.amount) :
    (balance.debitFee fee).lockedAmount ≤ (balance.debitFee fee).amount := by
  simp only [debitFee, BitVec.le_def, toNat_saturatingSub] at *
  omega

theorem creditFee_covered (covered : balance.lockedAmount ≤ balance.amount) :
    (balance.creditFee fee).lockedAmount ≤ (balance.creditFee fee).amount := by
  have := balance.amount.isLt
  simp only [creditFee, BitVec.le_def, toNat_saturatingAdd] at *
  omega

theorem unlock_covered (covered : balance.lockedAmount ≤ balance.amount) :
    (balance.unlock fee).lockedAmount ≤ (balance.unlock fee).amount := by
  simp only [unlock, BitVec.le_def, toNat_saturatingSub] at *
  omega

theorem creditFee_zero : balance.creditFee 0 = balance := by
  have : saturatingAdd balance.amount ((0 : U64).setWidth 128) = balance.amount := by
    rw [← BitVec.toNat_inj, toNat_saturatingAdd, toNat_fee]
    have := balance.amount.isLt
    simp only [BitVec.ofNat_eq_ofNat, BitVec.toNat_ofNat, Nat.zero_mod]
    omega
  rw [creditFee, this]

theorem unlock_zero : balance.unlock 0 = balance := by
  have : saturatingSub balance.lockedAmount ((0 : U64).setWidth 128) = balance.lockedAmount := by
    rw [← BitVec.toNat_inj, toNat_saturatingSub, toNat_fee]
    simp
  rw [unlock, this]

end BalanceObject

namespace ObjectStore

def Covered (store : ObjectStore) : Prop :=
  ∀ id balance, store.balances.get? id = some balance → balance.lockedAmount ≤ balance.amount

section UpdateFound

variable {store after : ObjectStore} {owner assetId : Bytes32}
  {change : BalanceObject → BalanceObject} {keeps : ∀ balance, (change balance).id = balance.id}

theorem updateFound_eq_some :
    store.updateFound owner assetId change keeps = some after ↔
      ∃ balance, store.findBalance owner assetId = some balance ∧
        store.modifyBalance balance.id change keeps = after :=
  Option.map_eq_some_iff

theorem updateFound_of_found {balance : BalanceObject}
    (found : store.findBalance owner assetId = some balance) :
    ∃ after, store.updateFound owner assetId change keeps = some after :=
  ⟨_, updateFound_eq_some.2 ⟨balance, found, rfl⟩⟩

theorem updateFound_eq_none :
    store.updateFound owner assetId change keeps = none ↔ store.findBalance owner assetId = none :=
  Option.map_eq_none_iff

theorem get?_updateFound (updated : store.updateFound owner assetId change keeps = some after)
    {balance : BalanceObject} (found : store.findBalance owner assetId = some balance) (id : ObjectId) :
    after.balances.get? id = if balance.id = id then some (change balance) else store.balances.get? id := by
  obtain ⟨again, search, rfl⟩ := updateFound_eq_some.1 updated
  obtain rfl := Option.some.inj (search.symm.trans found)
  obtain ⟨held, -, -⟩ := findBalance_spec found
  simp only [modifyBalance, KeyedMap.get?_modify]
  split
  · rename_i here
    rw [← here, show store.balances.get? again.id = some again from held, Option.map_some]
  · rfl

theorem covered_updateFound_iff (covered : store.Covered)
    (updated : store.updateFound owner assetId change keeps = some after)
    {balance : BalanceObject} (found : store.findBalance owner assetId = some balance) :
    after.Covered ↔ (change balance).lockedAmount ≤ (change balance).amount := by
  constructor
  · intro after
    exact after balance.id _ (by rw [get?_updateFound updated found, if_pos rfl])
  · intro fits id other held
    rw [get?_updateFound updated found] at held
    split at held
    · cases held
      exact fits
    · exact covered id other held

theorem covered_updateFound (covered : store.Covered)
    (updated : store.updateFound owner assetId change keeps = some after)
    (coversChange : ∀ balance, balance.lockedAmount ≤ balance.amount →
      (change balance).lockedAmount ≤ (change balance).amount) : after.Covered := by
  obtain ⟨found, search, -⟩ := updateFound_eq_some.1 updated
  rw [covered_updateFound_iff covered updated search]
  exact coversChange found (covered found.id found (findBalance_spec search).1)

theorem id_ne_of_owner_ne {payer : Bytes32} {balance own : BalanceObject}
    (found : store.findBalance owner assetId = some balance)
    (ownFound : store.findBalance payer assetId = some own) (different : owner ≠ payer) :
    balance.id ≠ own.id := by
  obtain ⟨held, ownedBy, -⟩ := findBalance_spec found
  obtain ⟨ownHeld, ownOwnedBy, -⟩ := findBalance_spec ownFound
  intro same
  rw [same, ownHeld] at held
  cases held
  exact different (ownedBy.symm.trans ownOwnedBy)

theorem findBalance_updateFound (updated : store.updateFound owner assetId change keeps = some after)
    (keepsOwner : ∀ balance, (change balance).owner = balance.owner)
    (keepsAsset : ∀ balance, (change balance).assetId = balance.assetId) (address : Bytes32) :
    after.findBalance address assetId =
      (store.findBalance address assetId).map fun balance =>
        if owner = address then change balance else balance := by
  obtain ⟨found, search, rfl⟩ := updateFound_eq_some.1 updated
  show (store.balances.modify found.id change keeps).values.find? _ = _
  rw [KeyedMap.find?_values_modify _ _ _ _ _ (by simp [keepsOwner, keepsAsset])]
  cases here : store.findBalance address assetId with
  | none =>
      rw [findBalance] at here
      simp only [here, Option.map_none]
  | some balance =>
      by_cases same : owner = address
      · subst same
        obtain rfl := Option.some.inj (here.symm.trans search)
        rw [findBalance] at here
        simp only [here, Option.map_some, if_true]
      · have distinct := id_ne_of_owner_ne here search (Ne.symm same)
        rw [findBalance] at here
        simp only [here, Option.map_some, if_neg distinct, if_neg same]

end UpdateFound

def adjustFound (store : ObjectStore) (owner assetId : Bytes32)
    (change : U64 → BalanceObject → BalanceObject)
    (keeps : ∀ amount balance, (change amount balance).id = balance.id) (amount : U64) : ObjectStore :=
  if amount = 0 then store
  else (store.updateFound owner assetId (change amount) (keeps amount)).getD store

section AdjustFound

variable {store : ObjectStore} {owner assetId : Bytes32} {change : U64 → BalanceObject → BalanceObject}
  {keeps : ∀ amount balance, (change amount balance).id = balance.id} {amount : U64}

theorem adjustFound_cases :
    (store.adjustFound owner assetId change keeps amount = store ∧
      (amount = 0 ∨ store.findBalance owner assetId = none)) ∨
    store.updateFound owner assetId (change amount) (keeps amount) =
      some (store.adjustFound owner assetId change keeps amount) := by
  unfold adjustFound
  split
  · rename_i zero
    exact .inl ⟨rfl, .inl zero⟩
  · cases updated : store.updateFound owner assetId (change amount) (keeps amount) with
    | none => exact .inl ⟨rfl, .inr (updateFound_eq_none.1 updated)⟩
    | some after => exact .inr rfl

theorem covered_adjustFound (covered : store.Covered)
    (coversChange : ∀ balance, balance.lockedAmount ≤ balance.amount →
      (change amount balance).lockedAmount ≤ (change amount balance).amount) :
    (store.adjustFound owner assetId change keeps amount).Covered := by
  obtain ⟨same, -⟩ | updated := @adjustFound_cases store owner assetId change keeps amount
  · rw [same]
    exact covered
  · exact covered_updateFound covered updated coversChange

theorem findBalance_adjustFound
    (keepsOwner : ∀ balance, (change amount balance).owner = balance.owner)
    (keepsAsset : ∀ balance, (change amount balance).assetId = balance.assetId)
    (changeZero : ∀ balance, change 0 balance = balance) (address : Bytes32) :
    (store.adjustFound owner assetId change keeps amount).findBalance address assetId =
      (store.findBalance address assetId).map
        (change (if owner = address then amount else 0)) := by
  obtain ⟨same, rfl | missing⟩ | updated := @adjustFound_cases store owner assetId change keeps amount
  · rw [same, ite_self, funext changeZero, Option.map_id']
  · rw [same]
    split
    · rename_i here
      rw [← here, missing, Option.map_none]
    · rw [funext changeZero, Option.map_id']
  · rw [findBalance_updateFound updated keepsOwner keepsAsset]
    split
    · rfl
    · rw [funext changeZero]

theorem locked_adjustFound
    (keepsLock : ∀ balance, (change amount balance).lockedAmount = balance.lockedAmount)
    (id : ObjectId) :
    ((store.adjustFound owner assetId change keeps amount).balances.get? id).map
        BalanceObject.lockedAmount =
      (store.balances.get? id).map BalanceObject.lockedAmount := by
  obtain ⟨same, -⟩ | updated := @adjustFound_cases store owner assetId change keeps amount
  · rw [same]
  · obtain ⟨balance, found, -⟩ := updateFound_eq_some.1 updated
    rw [get?_updateFound updated found]
    split
    · rename_i here
      rw [← here, show store.balances.get? balance.id = some balance from (findBalance_spec found).1,
        Option.map_some, Option.map_some, keepsLock]
    · rfl

theorem unlock_keeps_others_iff {payer : Bytes32} {own : BalanceObject}
    (ownFound : store.findBalance payer assetId = some own) :
    (∀ id, id ≠ own.id →
      ((store.adjustFound owner assetId .unlock (fun _ _ => rfl) amount).balances.get? id).map
          BalanceObject.lockedAmount = (store.balances.get? id).map BalanceObject.lockedAmount) ↔
      amount = 0 ∨ owner = payer ∨
        ∀ other, store.findBalance owner assetId = some other → other.lockedAmount = 0 := by
  obtain ⟨same, zero | missing⟩ | updated :=
    @adjustFound_cases store owner assetId .unlock (fun _ _ => rfl) amount
  · rw [same]
    exact iff_of_true (fun _ _ => rfl) (.inl zero)
  · rw [same]
    exact iff_of_true (fun _ _ => rfl) (.inr (.inr (by simp [missing])))
  · obtain ⟨other, found, -⟩ := updateFound_eq_some.1 updated
    have lock (id : ObjectId) := get?_updateFound updated found id
    have held : store.balances.get? other.id = some other := (findBalance_spec found).1
    have locked : (BalanceObject.unlock amount other).lockedAmount = other.lockedAmount ↔
        amount = 0 ∨ other.lockedAmount = 0 := by
      simp only [BalanceObject.unlock, ← BitVec.toNat_inj, toNat_saturatingSub,
        BalanceObject.toNat_fee, BitVec.ofNat_eq_ofNat, BitVec.toNat_ofNat, Nat.zero_mod]
      omega
    constructor
    · intro kept
      by_cases same : owner = payer
      · exact .inr (.inl same)
      · have here := kept other.id (id_ne_of_owner_ne found ownFound same)
        rw [lock, if_pos rfl, held] at here
        rcases locked.1 (Option.some.inj here) with zero | zero
        · exact .inl zero
        · refine .inr (.inr ?_)
          intro again search
          obtain rfl := Option.some.inj (search.symm.trans found)
          exact zero
    · intro allowed id distinct
      rw [lock]
      split
      · rename_i here
        rw [← here, held, Option.map_some, Option.map_some, Option.some.injEq, locked]
        rcases allowed with zero | rfl | zero
        · exact .inl zero
        · obtain rfl := Option.some.inj (ownFound.symm.trans found)
          exact absurd here.symm distinct
        · exact .inr (zero other found)
      · rfl

end AdjustFound

end ObjectStore

namespace FeeExecutor

open ObjectStore

section Credit

variable {store : ObjectStore} {address feeToken : Bytes32} {amount : U64}

theorem covered_creditIfExists (covered : store.Covered) :
    (creditIfExists store address feeToken amount).Covered :=
  covered_adjustFound covered fun _ => BalanceObject.creditFee_covered amount

theorem findBalance_creditIfExists (owner : Bytes32) :
    (creditIfExists store address feeToken amount).findBalance owner feeToken =
      (store.findBalance owner feeToken).map
        (.creditFee (if address = owner then amount else 0)) :=
  findBalance_adjustFound (fun _ => rfl) (fun _ => rfl)
    (fun _ => BalanceObject.creditFee_zero) owner

theorem locked_creditIfExists (id : ObjectId) :
    ((creditIfExists store address feeToken amount).balances.get? id).map BalanceObject.lockedAmount =
      (store.balances.get? id).map BalanceObject.lockedAmount :=
  locked_adjustFound (fun _ => rfl) id

end Credit

section Charges

variable {store : ObjectStore} {accounting : FeeAccounting} {feeResult : PoSeqFeeResult}
  {routingParams : FeeRoutingParams} {destinations : FeeDestinations} {feeToken : Bytes32}
  {actualGasFee : U64}

def AcceptsSequencing (accounting : FeeAccounting) (feeResult : PoSeqFeeResult) : Prop :=
  accounting.state = .reserved ∧ feeResult.totalFee ≤ accounting.envelope.maxPoseqFee

def AcceptsRuntime (accounting : FeeAccounting) (actualGasFee : U64) : Prop :=
  accounting.state = .sequencingCharged ∧ actualGasFee ≤ accounting.envelope.maxRuntimeFee

def creditDestinations (store : ObjectStore) (destinations : FeeDestinations) (feeToken : Bytes32)
    (routed : RoutedFees) : ObjectStore :=
  creditIfExists
    (creditIfExists
      (creditIfExists store destinations.sequencer feeToken routed.sequencerReward)
      destinations.sharedSecurity feeToken routed.sharedSecurity)
    destinations.treasury feeToken routed.treasury

theorem chargeSequencing_refused (refuses : ¬ AcceptsSequencing accounting feeResult) :
    ∃ e, chargeSequencing store accounting feeResult routingParams destinations feeToken =
      (.error e, store, accounting) := by
  simp only [chargeSequencing, FeeAccounting.chargeSequencing]
  by_cases ready : accounting.state = .reserved
  · have much : accounting.envelope.maxPoseqFee < feeResult.totalFee := by
      rw [← BitVec.not_le]
      exact fun enough => refuses ⟨ready, enough⟩
    simp only [ready, ne_eq, not_true_eq_false, if_false, much, if_true]
    exact ⟨_, rfl⟩
  · simp only [ready, ne_eq, not_false_eq_true, if_true]
    exact ⟨_, rfl⟩

theorem chargeSequencing_accepted (accepts : AcceptsSequencing accounting feeResult) :
    chargeSequencing store accounting feeResult routingParams destinations feeToken =
      match store.updateFound accounting.envelope.payer feeToken (.debitFee feeResult.totalFee)
          fun _ => rfl with
      | none => (.error "payer balance not found", store,
          { accounting with chargedPoseq := feeResult.totalFee, state := .sequencingCharged })
      | some debited => (.ok (FeeRouting.route feeResult.totalFee routingParams),
          creditDestinations debited destinations feeToken
            (FeeRouting.route feeResult.totalFee routingParams),
          { accounting with chargedPoseq := feeResult.totalFee, state := .sequencingCharged }) := by
  have enough : ¬ accounting.envelope.maxPoseqFee < feeResult.totalFee := by
    rw [BitVec.not_lt]
    exact accepts.2
  simp only [chargeSequencing, FeeAccounting.chargeSequencing, accepts.1, ne_eq, not_true_eq_false,
    if_false, enough]
  rfl

theorem chargeRuntime_refused (refuses : ¬ AcceptsRuntime accounting actualGasFee) :
    ∃ e, chargeRuntime store accounting actualGasFee feeToken = (.error e, store, accounting) := by
  simp only [chargeRuntime, FeeAccounting.chargeRuntime]
  by_cases ready : accounting.state = .sequencingCharged
  · have much : accounting.envelope.maxRuntimeFee < actualGasFee := by
      rw [← BitVec.not_le]
      exact fun enough => refuses ⟨ready, enough⟩
    simp only [ready, ne_eq, not_true_eq_false, if_false, much, if_true]
    exact ⟨_, rfl⟩
  · simp only [ready, ne_eq, not_false_eq_true, if_true]
    exact ⟨_, rfl⟩

theorem chargeRuntime_accepted (accepts : AcceptsRuntime accounting actualGasFee) :
    chargeRuntime store accounting actualGasFee feeToken =
      match store.updateFound accounting.envelope.payer feeToken (.debitFee actualGasFee)
          fun _ => rfl with
      | none => (.error "payer balance not found", store,
          { accounting with chargedRuntime := actualGasFee, state := .fullyCharged })
      | some debited => (.ok (), debited,
          { accounting with chargedRuntime := actualGasFee, state := .fullyCharged }) := by
  have enough : ¬ accounting.envelope.maxRuntimeFee < actualGasFee := by
    rw [BitVec.not_lt]
    exact accepts.2
  simp only [chargeRuntime, FeeAccounting.chargeRuntime, accepts.1, ne_eq, not_true_eq_false,
    if_false, enough]
  rfl

end Charges

end FeeExecutor

structure FeeTrip where
  store : ObjectStore
  envelope : FeeEnvelope
  feeToken : Bytes32
  feeResult : PoSeqFeeResult
  routingParams : FeeRoutingParams
  destinations : FeeDestinations
  actualGasFee : U64

namespace FeeTrip

open ObjectStore FeeExecutor

variable (trip : FeeTrip)

def reserve : Except String FeeAccounting × ObjectStore :=
  FeeExecutor.reserve trip.store trip.envelope trip.feeToken

def chargeSequencing (store : ObjectStore) (accounting : FeeAccounting) :
    Except String RoutedFees × ObjectStore × FeeAccounting :=
  FeeExecutor.chargeSequencing store accounting trip.feeResult trip.routingParams trip.destinations
    trip.feeToken

def chargeRuntime (store : ObjectStore) (accounting : FeeAccounting) :
    Except String Unit × ObjectStore × FeeAccounting :=
  FeeExecutor.chargeRuntime store accounting trip.actualGasFee trip.feeToken

def settleRefund (store : ObjectStore) (accounting : FeeAccounting) :
    U64 × ObjectStore × FeeAccounting :=
  FeeExecutor.settleRefund store accounting trip.feeToken

def ownShare : Nat :=
  let routed := FeeRouting.route trip.feeResult.totalFee trip.routingParams
  (if trip.destinations.sequencer = trip.envelope.payer then routed.sequencerReward.toNat else 0) +
  (if trip.destinations.sharedSecurity = trip.envelope.payer then routed.sharedSecurity.toNat else 0) +
  (if trip.destinations.treasury = trip.envelope.payer then routed.treasury.toNat else 0)

/-- The payer's lock is back where it was, its amount has fallen by the charges, and no other lock has
changed. -/
def Restored (settled : ObjectStore) (accounting : FeeAccounting) : Prop :=
  ∀ balance, trip.store.findBalance trip.envelope.payer trip.feeToken = some balance →
    (∃ after, settled.findBalance trip.envelope.payer trip.feeToken = some after ∧
      after.lockedAmount = balance.lockedAmount ∧
      after.amount.toNat + accounting.chargedPoseq.toNat + accounting.chargedRuntime.toNat =
        balance.amount.toNat + trip.ownShare) ∧
    ∀ id, id ≠ balance.id →
      (settled.balances.get? id).map BalanceObject.lockedAmount =
        (trip.store.balances.get? id).map BalanceObject.lockedAmount

/-- The four operations in order, each on what the one before it left even where that failed. -/
def RoundTrip : Prop :=
  match trip.reserve with
  | (.error _, store) => store = trip.store
  | (.ok accounting, reserved) =>
      let (sequencing, charged, accounting₁) := trip.chargeSequencing reserved accounting
      let (runtime, spent, accounting₂) := trip.chargeRuntime charged accounting₁
      let (_, settled, accounting₃) := trip.settleRefund spent accounting₂
      (reserved.Covered ∧ charged.Covered ∧ spent.Covered ∧ settled.Covered) ∧
      (sequencing.isOk = false → charged = reserved ∧ accounting₁ = accounting) ∧
      (runtime.isOk = false → spent = charged ∧ accounting₂ = accounting₁) ∧
      (sequencing.isOk = true → runtime.isOk = true → trip.Restored settled accounting₃)

/-- The lock comes back: the whole reserve is free when it is locked, what is left of it goes back to
the payer, and the charges stay within it. The second case is the one in which the lock stops at the
largest number and is short by just what the foreign refund address keeps. -/
def LockReturns (balance : BalanceObject) : Prop :=
  let total := trip.envelope.totalReserved.toNat
  let charges := trip.feeResult.totalFee.toNat + trip.actualGasFee.toNat
  let refundAddress := trip.envelope.effectiveRefundAddress
  (balance.lockedAmount.toNat + total ≤ balance.amount.toNat ∧
    (refundAddress = trip.envelope.payer ∨ total ≤ charges) ∧
    (charges ≤ total ∨ balance.lockedAmount = 0)) ∨
  (balance.amount.toNat = 2 ^ 128 - 1 ∧ balance.amount.toNat < balance.lockedAmount.toNat + total ∧
    balance.lockedAmount.toNat + charges = balance.amount.toNat ∧
    refundAddress ≠ trip.envelope.payer ∧
    ∀ other, trip.store.findBalance refundAddress trip.feeToken = some other →
      other.lockedAmount = 0)

/-- What the round trip needs of its arguments where the reserve is taken at all. -/
def Solvent : Prop :=
  ∀ balance, trip.store.findBalance trip.envelope.payer trip.feeToken = some balance →
    trip.envelope.totalReserved ≠ 0 → trip.envelope.totalReserved.toNat ≤ balance.amount.toNat →
    (balance.lockedAmount.toNat + trip.envelope.totalReserved.toNat ≤ balance.amount.toNat ∨
      balance.amount.toNat = 2 ^ 128 - 1) ∧
    (trip.feeResult.totalFee ≤ trip.envelope.maxPoseqFee →
      trip.actualGasFee ≤ trip.envelope.maxRuntimeFee →
      trip.LockReturns balance ∧
      balance.amount.toNat + trip.ownShare < 2 ^ 128 + trip.feeResult.totalFee.toNat ∧
      trip.feeResult.totalFee.toNat + trip.actualGasFee.toNat ≤ balance.amount.toNat + trip.ownShare)

section Reserve

variable {trip} {balance : BalanceObject} {reserved : ObjectStore}

theorem reserve_refused
    (refuses : ∀ balance, trip.store.findBalance trip.envelope.payer trip.feeToken = some balance →
      trip.envelope.totalReserved ≠ 0 →
      ¬ trip.envelope.totalReserved.toNat ≤ balance.amount.toNat) :
    ∃ e, trip.reserve = (.error e, trip.store) := by
  simp only [reserve, FeeExecutor.reserve]
  split
  · exact ⟨_, rfl⟩
  · rename_i positive
    split
    · exact ⟨_, rfl⟩
    · rename_i balance found
      have short : balance.amount < trip.envelope.totalReserved.setWidth 128 := by
        rw [BitVec.lt_def, BalanceObject.toNat_fee]
        exact Nat.lt_of_not_le (refuses balance found positive)
      rw [if_pos short]
      exact ⟨_, rfl⟩

theorem reserve_taken
    (found : trip.store.findBalance trip.envelope.payer trip.feeToken = some balance)
    (positive : trip.envelope.totalReserved ≠ 0)
    (enough : trip.envelope.totalReserved.toNat ≤ balance.amount.toNat) :
    ∃ reserved, trip.store.updateFound trip.envelope.payer trip.feeToken
        (.lock trip.envelope.totalReserved) (fun _ => rfl) = some reserved ∧
      trip.reserve = (.ok (.reserve trip.envelope), reserved) := by
  have enough : ¬ balance.amount < trip.envelope.totalReserved.setWidth 128 := by
    rw [BitVec.lt_def, BalanceObject.toNat_fee]
    exact Nat.not_lt.2 enough
  have updated : trip.store.updateFound trip.envelope.payer trip.feeToken
      (.lock trip.envelope.totalReserved) (fun _ => rfl) =
      some (trip.store.modifyBalance balance.id (.lock trip.envelope.totalReserved) fun _ => rfl) :=
    updateFound_eq_some.2 ⟨balance, found, rfl⟩
  refine ⟨_, updated, ?_⟩
  simp only [reserve, FeeExecutor.reserve, if_neg positive, found, if_neg enough, updated]

theorem covered_reserved_iff (covered : trip.store.Covered)
    (found : trip.store.findBalance trip.envelope.payer trip.feeToken = some balance)
    (locks : trip.store.updateFound trip.envelope.payer trip.feeToken
      (.lock trip.envelope.totalReserved) (fun _ => rfl) = some reserved) :
    reserved.Covered ↔
      balance.lockedAmount.toNat + trip.envelope.totalReserved.toNat ≤ balance.amount.toNat ∨
        balance.amount.toNat = 2 ^ 128 - 1 := by
  have := balance.amount.isLt
  rw [covered_updateFound_iff covered locks found]
  simp only [BalanceObject.lock, BitVec.le_def, toNat_saturatingAdd, BalanceObject.toNat_fee]
  omega

end Reserve

section Settle

variable {trip} {store : ObjectStore} {accounting : FeeAccounting}

theorem settled_eq : (trip.settleRefund store accounting).2.1 =
    store.adjustFound accounting.envelope.effectiveRefundAddress trip.feeToken .unlock (fun _ _ => rfl)
      accounting.settleRefund.1 :=
  rfl

theorem covered_settled (covered : store.Covered) :
    (trip.settleRefund store accounting).2.1.Covered := by
  rw [settled_eq]
  exact covered_adjustFound covered fun _ => BalanceObject.unlock_covered _

theorem findBalance_settled (owner : Bytes32) :
    (trip.settleRefund store accounting).2.1.findBalance owner trip.feeToken =
      (store.findBalance owner trip.feeToken).map
        (.unlock (if accounting.envelope.effectiveRefundAddress = owner then accounting.settleRefund.1
          else 0)) := by
  rw [settled_eq]
  exact findBalance_adjustFound (fun _ => rfl) (fun _ => rfl) (fun _ => BalanceObject.unlock_zero) owner

end Settle

structure Passage (balance : BalanceObject) (reserved debited spent : ObjectStore) : Prop where
  found : trip.store.findBalance trip.envelope.payer trip.feeToken = some balance
  lock : trip.store.updateFound trip.envelope.payer trip.feeToken
    (.lock trip.envelope.totalReserved) (fun _ => rfl) = some reserved
  sequencing : reserved.updateFound trip.envelope.payer trip.feeToken
    (.debitFee trip.feeResult.totalFee) (fun _ => rfl) = some debited
  runtime : (creditDestinations debited trip.destinations trip.feeToken
      (FeeRouting.route trip.feeResult.totalFee trip.routingParams)).updateFound trip.envelope.payer
    trip.feeToken (.debitFee trip.actualGasFee) (fun _ => rfl) = some spent

section Passage

variable {trip} {balance : BalanceObject} {reserved debited spent : ObjectStore}

def chargedRecord (trip : FeeTrip) : FeeAccounting :=
  { FeeAccounting.reserve trip.envelope with
    chargedPoseq := trip.feeResult.totalFee
    chargedRuntime := trip.actualGasFee
    state := .fullyCharged }

theorem toNat_refund :
    trip.chargedRecord.settleRefund.1.toNat =
      trip.envelope.totalReserved.toNat -
        (trip.feeResult.totalFee.toNat + trip.actualGasFee.toNat) := by
  have := trip.envelope.totalReserved.isLt
  simp only [FeeAccounting.settleRefund, chargedRecord, FeeAccounting.reserve, toNat_saturatingSub,
    toNat_saturatingAdd, BitVec.ofNat_eq_ofNat, BitVec.toNat_ofNat, Nat.zero_mod]
  omega

theorem Passage.findBalance_spent (passage : trip.Passage balance reserved debited spent)
    (owner : Bytes32) :
    ∃ first second third : U64,
      spent.findBalance owner trip.feeToken =
        ((trip.store.findBalance owner trip.feeToken).map fun own =>
          if trip.envelope.payer = owner then
            ((((own.lock trip.envelope.totalReserved).debitFee trip.feeResult.totalFee).creditFee
              first).creditFee second).creditFee third |>.debitFee trip.actualGasFee
          else ((own.creditFee first).creditFee second).creditFee third) ∧
      (trip.envelope.payer = owner → first.toNat + second.toNat + third.toNat = trip.ownShare) := by
  let routed := FeeRouting.route trip.feeResult.totalFee trip.routingParams
  refine ⟨if trip.destinations.sequencer = owner then routed.sequencerReward else 0,
    if trip.destinations.sharedSecurity = owner then routed.sharedSecurity else 0,
    if trip.destinations.treasury = owner then routed.treasury else 0, ?_, ?_⟩
  · rw [findBalance_updateFound passage.runtime (fun _ => rfl) (fun _ => rfl), creditDestinations,
      findBalance_creditIfExists, findBalance_creditIfExists, findBalance_creditIfExists,
      findBalance_updateFound passage.sequencing (fun _ => rfl) (fun _ => rfl),
      findBalance_updateFound passage.lock (fun _ => rfl) (fun _ => rfl)]
    simp only [Option.map_map]
    congr 1
    funext own
    simp only [Function.comp_apply]
    by_cases pays : trip.envelope.payer = owner
    · simp only [pays, if_true, routed]
    · simp only [pays, if_false, routed]
  · intro same
    simp only [routed, ownShare, same, apply_ite BitVec.toNat, BitVec.ofNat_eq_ofNat, BitVec.toNat_ofNat,
      Nat.zero_mod]

theorem Passage.spent_payer (passage : trip.Passage balance reserved debited spent) :
    ∃ own, spent.findBalance trip.envelope.payer trip.feeToken = some own ∧ own.id = balance.id ∧
      own.lockedAmount.toNat = min (balance.lockedAmount.toNat + trip.envelope.totalReserved.toNat)
        (2 ^ 128 - 1) - trip.feeResult.totalFee.toNat - trip.actualGasFee.toNat ∧
      own.amount.toNat = min (balance.amount.toNat - trip.feeResult.totalFee.toNat + trip.ownShare)
        (2 ^ 128 - 1) - trip.actualGasFee.toNat := by
  obtain ⟨first, second, third, spent, shares⟩ := passage.findBalance_spent trip.envelope.payer
  rw [passage.found, Option.map_some, if_pos rfl] at spent
  refine ⟨_, spent, rfl, ?_, ?_⟩
  · simp only [BalanceObject.debitFee, BalanceObject.creditFee, BalanceObject.lock,
      toNat_saturatingSub, toNat_saturatingAdd, BalanceObject.toNat_fee]
  · simp only [BalanceObject.debitFee, BalanceObject.creditFee, BalanceObject.lock,
      toNat_saturatingSub, toNat_saturatingAdd, BalanceObject.toNat_fee, ← shares rfl]
    omega

theorem Passage.spent_other (passage : trip.Passage balance reserved debited spent) {owner : Bytes32}
    (other : trip.envelope.payer ≠ owner) :
    (spent.findBalance owner trip.feeToken).map BalanceObject.lockedAmount =
      (trip.store.findBalance owner trip.feeToken).map BalanceObject.lockedAmount := by
  obtain ⟨first, second, third, spent, -⟩ := passage.findBalance_spent owner
  rw [spent, Option.map_map]
  congr 1
  funext own
  simp only [Function.comp_apply, if_neg other]
  rfl

theorem Passage.locked_spent (passage : trip.Passage balance reserved debited spent) {id : ObjectId}
    (other : id ≠ balance.id) :
    (spent.balances.get? id).map BalanceObject.lockedAmount =
      (trip.store.balances.get? id).map BalanceObject.lockedAmount := by
  have reservedOwn : reserved.findBalance trip.envelope.payer trip.feeToken =
      some (balance.lock trip.envelope.totalReserved) := by
    rw [findBalance_updateFound passage.lock (fun _ => rfl) (fun _ => rfl), passage.found,
      Option.map_some, if_pos rfl]
  have chargedOwn : ∃ own, (creditDestinations debited trip.destinations trip.feeToken
      (FeeRouting.route trip.feeResult.totalFee trip.routingParams)).findBalance trip.envelope.payer
        trip.feeToken = some own ∧ own.id = balance.id := by
    rw [creditDestinations, findBalance_creditIfExists, findBalance_creditIfExists,
      findBalance_creditIfExists,
      findBalance_updateFound passage.sequencing (fun _ => rfl) (fun _ => rfl), reservedOwn]
    simp only [Option.map_some, if_true]
    exact ⟨_, rfl, rfl⟩
  obtain ⟨own, chargedOwn, sameId⟩ := chargedOwn
  rw [get?_updateFound passage.runtime chargedOwn, if_neg (by rw [sameId]; exact other.symm),
    creditDestinations, locked_creditIfExists, locked_creditIfExists, locked_creditIfExists,
    get?_updateFound passage.sequencing reservedOwn, if_neg, get?_updateFound passage.lock passage.found,
    if_neg other.symm]
  exact other.symm

theorem Passage.other_locks_iff (passage : trip.Passage balance reserved debited spent) :
    (∀ id, id ≠ balance.id →
      ((trip.settleRefund spent trip.chargedRecord).2.1.balances.get? id).map
          BalanceObject.lockedAmount =
        (trip.store.balances.get? id).map BalanceObject.lockedAmount) ↔
    trip.chargedRecord.settleRefund.1 = 0 ∨
      trip.envelope.effectiveRefundAddress = trip.envelope.payer ∨
      ∀ other, trip.store.findBalance trip.envelope.effectiveRefundAddress trip.feeToken = some other →
        other.lockedAmount = 0 := by
  obtain ⟨own, ownFound, ownId, -, -⟩ := passage.spent_payer
  have unlocked : _ ↔ trip.chargedRecord.settleRefund.1 = 0 ∨
      trip.envelope.effectiveRefundAddress = trip.envelope.payer ∨ _ :=
    unlock_keeps_others_iff ownFound
  have kept : (∀ id, id ≠ balance.id →
      ((trip.settleRefund spent trip.chargedRecord).2.1.balances.get? id).map
          BalanceObject.lockedAmount =
        (trip.store.balances.get? id).map BalanceObject.lockedAmount) ↔
      ∀ id, id ≠ own.id → ((trip.settleRefund spent trip.chargedRecord).2.1.balances.get? id).map
        BalanceObject.lockedAmount = (spent.balances.get? id).map BalanceObject.lockedAmount := by
    rw [ownId]
    exact forall₂_congr fun id distinct => by rw [passage.locked_spent distinct]
  rw [kept, settled_eq]
  refine unlocked.trans (or_congr_right ?_)
  by_cases same : trip.envelope.effectiveRefundAddress = trip.envelope.payer
  · simp only [same, true_or]
  · have locks := passage.spent_other (Ne.symm same)
    refine or_congr_right ?_
    cases before : trip.store.findBalance trip.envelope.effectiveRefundAddress trip.feeToken with
    | none =>
        rw [before, Option.map_none, Option.map_eq_none_iff] at locks
        simp [locks]
    | some other =>
        rw [before, Option.map_some] at locks
        obtain ⟨now, nowFound, lock⟩ := Option.map_eq_some_iff.1 locks
        simp [nowFound, lock]

theorem Passage.restored_iff (passage : trip.Passage balance reserved debited spent)
    (enough : trip.envelope.totalReserved.toNat ≤ balance.amount.toNat)
    (fits : balance.lockedAmount.toNat + trip.envelope.totalReserved.toNat ≤ balance.amount.toNat ∨
      balance.amount.toNat = 2 ^ 128 - 1)
    (sequencing : trip.feeResult.totalFee ≤ trip.envelope.maxPoseqFee) :
    trip.Restored (trip.settleRefund spent trip.chargedRecord).2.1
        (trip.settleRefund spent trip.chargedRecord).2.2 ↔
      trip.LockReturns balance ∧
      balance.amount.toNat + trip.ownShare < 2 ^ 128 + trip.feeResult.totalFee.toNat ∧
      trip.feeResult.totalFee.toNat + trip.actualGasFee.toNat ≤
        balance.amount.toNat + trip.ownShare := by
  obtain ⟨own, ownFound, ownId, ownLock, ownAmount⟩ := passage.spent_payer
  have others := passage.other_locks_iff
  have settledOwn := @findBalance_settled trip spent trip.chargedRecord trip.envelope.payer
  rw [ownFound, Option.map_some] at settledOwn
  have feeWithin : trip.feeResult.totalFee.toNat ≤ trip.envelope.totalReserved.toNat := by
    have := BitVec.le_def.1 sequencing
    have := trip.envelope.maxPoseqFee.isLt
    simp only [FeeEnvelope.totalReserved, toNat_saturatingAdd]
    omega
  have amounts : own.amount.toNat + trip.feeResult.totalFee.toNat + trip.actualGasFee.toNat =
      balance.amount.toNat + trip.ownShare ↔
      balance.amount.toNat + trip.ownShare < 2 ^ 128 + trip.feeResult.totalFee.toNat ∧
      trip.feeResult.totalFee.toNat + trip.actualGasFee.toNat ≤
        balance.amount.toNat + trip.ownShare := by
    have := trip.actualGasFee.isLt
    rw [ownAmount]
    omega
  have locks : (own.unlock (if trip.envelope.effectiveRefundAddress = trip.envelope.payer then
        trip.chargedRecord.settleRefund.1 else 0)).lockedAmount = balance.lockedAmount ∧
      (trip.chargedRecord.settleRefund.1 = 0 ∨
        trip.envelope.effectiveRefundAddress = trip.envelope.payer ∨
        ∀ other, trip.store.findBalance trip.envelope.effectiveRefundAddress trip.feeToken =
          some other → other.lockedAmount = 0) ↔ trip.LockReturns balance := by
    have := balance.amount.isLt
    have := trip.actualGasFee.isLt
    have := trip.feeResult.totalFee.isLt
    by_cases same : trip.envelope.effectiveRefundAddress = trip.envelope.payer
    · simp only [LockReturns, same, if_true, true_or, or_true, and_true, true_and, ne_eq,
        not_true_eq_false, false_and, and_false, or_false, ← BitVec.toNat_inj, BalanceObject.unlock,
        toNat_saturatingSub, BalanceObject.toNat_fee, ownLock, toNat_refund, BitVec.ofNat_eq_ofNat,
        BitVec.toNat_ofNat, Nat.zero_mod]
      omega
    · simp only [LockReturns, same, if_false, false_or, ne_eq, not_false_eq_true, true_and]
      generalize (∀ other, trip.store.findBalance trip.envelope.effectiveRefundAddress trip.feeToken =
        some other → other.lockedAmount = 0) = unlockedThere
      simp only [← BitVec.toNat_inj, BalanceObject.unlock, toNat_saturatingSub,
        BalanceObject.toNat_fee, ownLock, toNat_refund, BitVec.ofNat_eq_ofNat, BitVec.toNat_ofNat,
        Nat.zero_mod]
      constructor
      · rintro ⟨returned, nothing | untouched⟩
        · omega
        · by_cases free : balance.lockedAmount.toNat + trip.envelope.totalReserved.toNat ≤
              balance.amount.toNat
          · omega
          · exact .inr ⟨by omega, by omega, by omega, untouched⟩
      · rintro (⟨free, nothing, within⟩ | ⟨top, above, short, untouched⟩)
        · omega
        · exact ⟨by omega, .inr untouched⟩
  rw [← locks, ← amounts, ← others]
  constructor
  · intro restored
    obtain ⟨⟨after, found, lock, amount⟩, kept⟩ := restored balance passage.found
    rw [settledOwn] at found
    obtain rfl := Option.some.inj found
    exact ⟨⟨lock, kept⟩, amount⟩
  · intro ⟨⟨lock, kept⟩, amount⟩ again search
    obtain rfl := Option.some.inj (passage.found.symm.trans search)
    exact ⟨⟨_, settledOwn, lock, amount⟩, kept⟩

end Passage

section RoundTrip

variable {trip}

theorem roundTrip_iff_of_steps {accounting accounting₁ accounting₂ : FeeAccounting}
    {reserved charged spent : ObjectStore} {sequencing : Except String RoutedFees}
    {runtime : Except String Unit} (reserves : trip.reserve = (.ok accounting, reserved))
    (sequences : trip.chargeSequencing reserved accounting = (sequencing, charged, accounting₁))
    (runs : trip.chargeRuntime charged accounting₁ = (runtime, spent, accounting₂)) :
    trip.RoundTrip ↔
      (reserved.Covered ∧ charged.Covered ∧ spent.Covered ∧
        (trip.settleRefund spent accounting₂).2.1.Covered) ∧
      (sequencing.isOk = false → charged = reserved ∧ accounting₁ = accounting) ∧
      (runtime.isOk = false → spent = charged ∧ accounting₂ = accounting₁) ∧
      (sequencing.isOk = true → runtime.isOk = true →
        trip.Restored (trip.settleRefund spent accounting₂).2.1
          (trip.settleRefund spent accounting₂).2.2) := by
  simp only [RoundTrip, reserves, sequences, runs]

theorem covered_creditDestinations {store : ObjectStore} (covered : store.Covered)
    (routed : RoutedFees) :
    (creditDestinations store trip.destinations trip.feeToken routed).Covered :=
  covered_creditIfExists (covered_creditIfExists (covered_creditIfExists covered))

section Steps

variable {store debited : ObjectStore}

def sequencedRecord (trip : FeeTrip) : FeeAccounting :=
  { FeeAccounting.reserve trip.envelope with
    chargedPoseq := trip.feeResult.totalFee
    state := .sequencingCharged }

theorem sequencing_refused (above : ¬ trip.feeResult.totalFee ≤ trip.envelope.maxPoseqFee) :
    ∃ e, trip.chargeSequencing store (.reserve trip.envelope) =
      (.error e, store, .reserve trip.envelope) :=
  chargeSequencing_refused fun accepts => above accepts.2

theorem sequencing_charged (within : trip.feeResult.totalFee ≤ trip.envelope.maxPoseqFee)
    (debits : store.updateFound trip.envelope.payer trip.feeToken (.debitFee trip.feeResult.totalFee)
      (fun _ => rfl) = some debited) :
    trip.chargeSequencing store (.reserve trip.envelope) =
      (.ok (FeeRouting.route trip.feeResult.totalFee trip.routingParams),
        creditDestinations debited trip.destinations trip.feeToken
          (FeeRouting.route trip.feeResult.totalFee trip.routingParams),
        trip.sequencedRecord) := by
  have accepts : AcceptsSequencing (.reserve trip.envelope) trip.feeResult := ⟨rfl, within⟩
  refine (chargeSequencing_accepted accepts).trans ?_
  show (match store.updateFound trip.envelope.payer trip.feeToken
    (.debitFee trip.feeResult.totalFee) (fun _ => rfl) with | none => _ | some debited => _) = _
  rw [debits]
  rfl

theorem runtime_unsequenced :
    ∃ e, trip.chargeRuntime store (.reserve trip.envelope) =
      (.error e, store, .reserve trip.envelope) :=
  chargeRuntime_refused fun accepts => nomatch accepts.1

theorem runtime_refused (above : ¬ trip.actualGasFee ≤ trip.envelope.maxRuntimeFee) :
    ∃ e, trip.chargeRuntime store trip.sequencedRecord = (.error e, store, trip.sequencedRecord) :=
  chargeRuntime_refused fun accepts => above accepts.2

theorem runtime_charged (within : trip.actualGasFee ≤ trip.envelope.maxRuntimeFee)
    (debits : store.updateFound trip.envelope.payer trip.feeToken (.debitFee trip.actualGasFee)
      (fun _ => rfl) = some debited) :
    trip.chargeRuntime store trip.sequencedRecord = (.ok (), debited, trip.chargedRecord) := by
  have accepts : AcceptsRuntime trip.sequencedRecord trip.actualGasFee := ⟨rfl, within⟩
  refine (chargeRuntime_accepted accepts).trans ?_
  show (match store.updateFound trip.envelope.payer trip.feeToken
    (.debitFee trip.actualGasFee) (fun _ => rfl) with | none => _ | some debited => _) = _
  rw [debits]
  rfl

end Steps

theorem roundTrip_iff_of_taken {balance : BalanceObject} {reserved : ObjectStore}
    (found : trip.store.findBalance trip.envelope.payer trip.feeToken = some balance)
    (enough : trip.envelope.totalReserved.toNat ≤ balance.amount.toNat)
    (lock : trip.store.updateFound trip.envelope.payer trip.feeToken
      (.lock trip.envelope.totalReserved) (fun _ => rfl) = some reserved)
    (reserves : trip.reserve = (.ok (.reserve trip.envelope), reserved))
    (fits : reserved.Covered ↔
      balance.lockedAmount.toNat + trip.envelope.totalReserved.toNat ≤ balance.amount.toNat ∨
        balance.amount.toNat = 2 ^ 128 - 1) :
    trip.RoundTrip ↔ reserved.Covered ∧
      (trip.feeResult.totalFee ≤ trip.envelope.maxPoseqFee →
        trip.actualGasFee ≤ trip.envelope.maxRuntimeFee →
        trip.LockReturns balance ∧
        balance.amount.toNat + trip.ownShare < 2 ^ 128 + trip.feeResult.totalFee.toNat ∧
        trip.feeResult.totalFee.toNat + trip.actualGasFee.toNat ≤
          balance.amount.toNat + trip.ownShare) := by
  let routed := FeeRouting.route trip.feeResult.totalFee trip.routingParams
  by_cases sequencing : trip.feeResult.totalFee ≤ trip.envelope.maxPoseqFee
  · have reservedOwn : reserved.findBalance trip.envelope.payer trip.feeToken =
        some (balance.lock trip.envelope.totalReserved) := by
      rw [findBalance_updateFound lock (fun _ => rfl) (fun _ => rfl), found, Option.map_some,
        if_pos rfl]
    obtain ⟨debited, debits⟩ := @updateFound_of_found _ _ _ (.debitFee trip.feeResult.totalFee)
      (fun _ => rfl) _ reservedOwn
    have sequences := sequencing_charged sequencing debits
    have chargedCovered (covered : reserved.Covered) :
        (creditDestinations debited trip.destinations trip.feeToken routed).Covered :=
      covered_creditDestinations
        (covered_updateFound covered debits fun _ => BalanceObject.debitFee_covered _) routed
    by_cases runtime : trip.actualGasFee ≤ trip.envelope.maxRuntimeFee
    · have chargedOwn : ∃ own, (creditDestinations debited trip.destinations trip.feeToken
          routed).findBalance trip.envelope.payer trip.feeToken = some own := by
        rw [creditDestinations, findBalance_creditIfExists, findBalance_creditIfExists,
          findBalance_creditIfExists, findBalance_updateFound debits (fun _ => rfl) (fun _ => rfl),
          reservedOwn]
        exact ⟨_, rfl⟩
      obtain ⟨own, chargedOwn⟩ := chargedOwn
      obtain ⟨spent, spends⟩ := @updateFound_of_found _ _ _ (.debitFee trip.actualGasFee)
        (fun _ => rfl) _ chargedOwn
      have passage : trip.Passage balance reserved debited spent := ⟨found, lock, debits, spends⟩
      have spentCovered (covered : reserved.Covered) : spent.Covered :=
        covered_updateFound (chargedCovered covered) spends fun _ => BalanceObject.debitFee_covered _
      rw [roundTrip_iff_of_steps reserves sequences (runtime_charged runtime spends)]
      constructor
      · intro ⟨covered, _, _, restored⟩
        refine ⟨covered.1, fun _ _ => ?_⟩
        exact (passage.restored_iff enough (fits.1 covered.1) sequencing).1 (restored rfl rfl)
      · intro ⟨covered, returns⟩
        refine ⟨⟨covered, chargedCovered covered, spentCovered covered,
          covered_settled (spentCovered covered)⟩, nofun, nofun, fun _ _ => ?_⟩
        exact (passage.restored_iff enough (fits.1 covered) sequencing).2 (returns sequencing runtime)
    · obtain ⟨e, runs⟩ := @runtime_refused _
        (creditDestinations debited trip.destinations trip.feeToken routed) runtime
      rw [roundTrip_iff_of_steps reserves sequences runs]
      constructor
      · intro all
        exact ⟨all.1.1, fun _ within => absurd within runtime⟩
      · intro ⟨covered, _⟩
        exact ⟨⟨covered, chargedCovered covered, chargedCovered covered,
          covered_settled (chargedCovered covered)⟩, nofun, fun _ => ⟨rfl, rfl⟩, fun _ => nofun⟩
  · obtain ⟨e, sequences⟩ := @sequencing_refused _ reserved sequencing
    obtain ⟨e', runs⟩ := @runtime_unsequenced trip reserved
    rw [roundTrip_iff_of_steps reserves sequences runs]
    constructor
    · intro all
      exact ⟨all.1.1, fun within => absurd within sequencing⟩
    · intro ⟨covered, _⟩
      exact ⟨⟨covered, covered, covered, covered_settled covered⟩, fun _ => ⟨rfl, rfl⟩,
        fun _ => ⟨rfl, rfl⟩, nofun⟩

theorem roundTrip_iff_solvent (covered : trip.store.Covered) : trip.RoundTrip ↔ trip.Solvent := by
  by_cases taken : ∃ balance,
      trip.store.findBalance trip.envelope.payer trip.feeToken = some balance ∧
        trip.envelope.totalReserved ≠ 0 ∧ trip.envelope.totalReserved.toNat ≤ balance.amount.toNat
  · obtain ⟨balance, found, positive, enough⟩ := taken
    obtain ⟨reserved, lock, reserves⟩ := reserve_taken found positive enough
    have fits := covered_reserved_iff covered found lock
    rw [roundTrip_iff_of_taken found enough lock reserves fits, fits]
    constructor
    · intro holds again search _ _
      obtain rfl := Option.some.inj (found.symm.trans search)
      exact holds
    · intro solvent
      exact solvent balance found positive enough
  · obtain ⟨e, refused⟩ := @reserve_refused trip fun balance found positive enough =>
      taken ⟨balance, found, positive, enough⟩
    simp only [RoundTrip, refused, true_iff]
    intro balance found positive enough
    exact absurd ⟨balance, found, positive, enough⟩ taken

end RoundTrip

/-- A charge of the trip that fails leaves the store and the record it was called with. -/
def FailsClean (accounting : FeeAccounting) : Prop :=
  (∀ e after record, trip.chargeSequencing trip.store accounting = (.error e, after, record) →
    after = trip.store ∧ record = accounting) ∧
  ∀ e after record, trip.chargeRuntime trip.store accounting = (.error e, after, record) →
    after = trip.store ∧ record = accounting

def PayerPresent (accounting : FeeAccounting) : Prop :=
  AcceptsSequencing accounting trip.feeResult ∨ AcceptsRuntime accounting trip.actualGasFee →
    trip.store.findBalance accounting.envelope.payer trip.feeToken ≠ none

theorem failsClean_iff_payerPresent (accounting : FeeAccounting) :
    trip.FailsClean accounting ↔ trip.PayerPresent accounting := by
  constructor
  · rintro ⟨sequencing, runtime⟩ (accepts | accepts) missing
    · have failed := @chargeSequencing_accepted trip.store _ _ trip.routingParams trip.destinations
        trip.feeToken accepts
      have unfound : trip.store.updateFound accounting.envelope.payer trip.feeToken
        (.debitFee trip.feeResult.totalFee) (fun _ => rfl) = none := updateFound_eq_none.2 missing
      rw [unfound] at failed
      have same := congrArg FeeAccounting.state (sequencing _ _ _ failed).2
      rw [accepts.1] at same
      cases same
    · have failed := @chargeRuntime_accepted trip.store _ trip.feeToken _ accepts
      have unfound : trip.store.updateFound accounting.envelope.payer trip.feeToken
        (.debitFee trip.actualGasFee) (fun _ => rfl) = none := updateFound_eq_none.2 missing
      rw [unfound] at failed
      have same := congrArg FeeAccounting.state (runtime _ _ _ failed).2
      rw [accepts.1] at same
      cases same
  · intro present
    constructor
    · intro e after record failed
      by_cases accepts : AcceptsSequencing accounting trip.feeResult
      · obtain ⟨balance, found⟩ := Option.ne_none_iff_exists'.1 (present (.inl accepts))
        obtain ⟨debited, debits⟩ := @updateFound_of_found _ _ _ (.debitFee trip.feeResult.totalFee)
          (fun _ => rfl) _ found
        rw [chargeSequencing, chargeSequencing_accepted accepts, debits] at failed
        cases failed
      · obtain ⟨e', refused⟩ := @chargeSequencing_refused trip.store _ _ trip.routingParams
          trip.destinations trip.feeToken accepts
        rw [chargeSequencing, refused] at failed
        cases failed
        exact ⟨rfl, rfl⟩
    · intro e after record failed
      by_cases accepts : AcceptsRuntime accounting trip.actualGasFee
      · obtain ⟨balance, found⟩ := Option.ne_none_iff_exists'.1 (present (.inr accepts))
        obtain ⟨debited, debits⟩ := @updateFound_of_found _ _ _ (.debitFee trip.actualGasFee)
          (fun _ => rfl) _ found
        rw [chargeRuntime, chargeRuntime_accepted accepts, debits] at failed
        cases failed
      · obtain ⟨e', refused⟩ := @chargeRuntime_refused trip.store _ trip.feeToken _ accepts
        rw [chargeRuntime, refused] at failed
        cases failed
        exact ⟨rfl, rfl⟩

/-- On a covered store the four operations keep every balance covered and bring the payer's lock back
exactly when the reserve fits beside what is locked already, the refund goes to the payer and the
arithmetic does not stop at a bound; and a charge on any record fails cleanly exactly when it is refused
or the payer has a balance. -/
theorem fees_restored_iff (trip : FeeTrip) (covered : trip.store.Covered) (accounting : FeeAccounting) :
    (trip.RoundTrip ↔ trip.Solvent) ∧ (trip.FailsClean accounting ↔ trip.PayerPresent accounting) :=
  ⟨roundTrip_iff_solvent covered, trip.failsClean_iff_payerPresent accounting⟩

section Overlocked

def partlyLocked : BalanceObject :=
  { BalanceObject.new 1 1 7 100 0 with lockedAmount := 80 }

def overlocked : FeeTrip where
  store := ObjectStore.new.insert (.balance partlyLocked)
  envelope :=
    { payer := 1, feeToken := "omniphi", maxPoseqFee := 10, maxRuntimeFee := 40, priorityTip := 0
      expiryEpoch := 10, refundAddress := none }
  feeToken := 7
  feeResult := ⟨5⟩
  routingParams :=
    { burnBps := 2000, sequencerRewardBps := 5000, sharedSecurityBps := 2000, treasuryBps := 1000 }
  destinations := { sequencer := 2, sharedSecurity := 3, treasury := 4 }
  actualGasFee := 20

theorem overlocked_covered : overlocked.store.Covered := by
  intro id balance held
  simp only [overlocked, ObjectStore.insert, ObjectStore.new, KeyedMap.get?_insert,
    KeyedMap.get?_empty] at held
  split at held
  · cases held
    decide
  · cases held

theorem overlocked_found : overlocked.store.findBalance 1 7 = some partlyLocked := by
  decide +kernel

/-- The reservation goes through and leaves 130 of 100 locked. -/
theorem reserve_overlocks : overlocked.store.Covered ∧ ¬ overlocked.RoundTrip := by
  refine ⟨overlocked_covered, ?_⟩
  rw [roundTrip_iff_solvent overlocked_covered]
  intro solvent
  obtain ⟨fits, -⟩ := solvent partlyLocked overlocked_found (by decide) (by decide)
  revert fits
  decide

theorem overlocked_not_restored :
    overlocked.store.Covered ∧ (overlocked.RoundTrip ↔ overlocked.Solvent) ∧
      (overlocked.FailsClean (.reserve overlocked.envelope) ↔
        overlocked.PayerPresent (.reserve overlocked.envelope)) :=
  ⟨overlocked_covered, fees_restored_iff overlocked overlocked_covered _⟩

end Overlocked

end FeeTrip

end Omniphi.Runtime
