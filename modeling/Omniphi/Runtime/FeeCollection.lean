import Omniphi.Runtime.FeeExecutor
import Omniphi.Runtime.GasCharges

/-! Settlement with fees: the groups are settled first, and each receipt is charged to the fee record at its
position afterwards. -/

namespace Omniphi.Runtime.SettlementEngine

open MachineInt

section Charging

variable (feeToken : Bytes32)

theorem id_debitFee (fee : U64) (balance : BalanceObject) : (balance.debitFee fee).id = balance.id := rfl

theorem id_unlock (fee : U64) (balance : BalanceObject) : (balance.unlock fee).id = balance.id := rfl

/-- A charge beyond the reserve, or in another state, is dropped; what the plan did stays. -/
def chargeSuccess (store : ObjectStore) (accounting : FeeAccounting) (gasUsed : U64) :
    ObjectStore × FeeAccounting :=
  let (charge, accounting) := accounting.chargeRuntime gasUsed
  if charge.success = true then
    ((store.updateFound accounting.envelope.payer feeToken (.debitFee gasUsed) (id_debitFee gasUsed)).getD store,
      accounting)
  else (store, accounting)

def chargeReverted (store : ObjectStore) (accounting : FeeAccounting) (gasUsed : U64) :
    ObjectStore × FeeAccounting :=
  let charge := least gasUsed (accounting.envelope.maxRuntimeFee / 2)
  let accounting := accounting.revertRuntime charge
  if charge = 0 then (store, accounting)
  else ((store.updateFound accounting.envelope.payer feeToken (.debitFee charge) (id_debitFee charge)).getD store,
    accounting)

def refundReceipt (store : ObjectStore) (accounting : FeeAccounting) : ObjectStore × FeeAccounting :=
  let (refund, accounting) := accounting.settleRefund
  if refund = 0 then (store, accounting)
  else ((store.updateFound accounting.envelope.effectiveRefundAddress feeToken (.unlock refund)
    (id_unlock refund)).getD store, accounting)

def chargeReceipt (store : ObjectStore) (accounting : FeeAccounting) (receipt : ExecutionReceipt) :
    ObjectStore × FeeAccounting :=
  let (store, accounting) :=
    if receipt.success = true then chargeSuccess feeToken store accounting receipt.gasUsed
    else chargeReverted feeToken store accounting receipt.gasUsed
  refundReceipt feeToken store accounting

/-- Receipts without a record at their position are not charged. -/
def chargeReceipts (store : ObjectStore) : List FeeAccounting → List ExecutionReceipt →
    ObjectStore × List FeeAccounting
  | accounting :: accountings, receipt :: receipts =>
      let (store, accounting) := chargeReceipt feeToken store accounting receipt
      let (store, accountings) := chargeReceipts store accountings receipts
      (store, accounting :: accountings)
  | accountings, _ => (store, accountings)

def executeGroupsWithFees (sha256 : Sha256) (encode : BoxedObject → Bytes) (groups : List ExecutionGroup)
    (store : ObjectStore) (epoch : U64) (feeAccountings : List FeeAccounting) :
    SettlementResult × ObjectStore × List FeeAccounting :=
  let (result, store) := executeGroups sha256 encode groups store epoch
  (result, chargeReceipts feeToken store feeAccountings result.receipts)

end Charging

section Receipts

variable (sha256 : Sha256) (epoch : U64)

def receiptsOf : ObjectStore → List ExecutionPlan → List ExecutionReceipt
  | _, [] => []
  | store, plan :: plans =>
      (applyPlanWithEffects sha256 plan store epoch).1.1 ::
        receiptsOf (planStep sha256 epoch store plan) plans

theorem receipts_settle (progress : Progress) (plan : ExecutionPlan) :
    (settle sha256 epoch progress plan).receipts =
      progress.receipts ++ [(applyPlanWithEffects sha256 plan progress.store epoch).1.1] := by
  rw [settle]
  generalize applyPlanWithEffects sha256 plan progress.store epoch = outcome
  obtain ⟨⟨receipt, sideEffects⟩, after⟩ := outcome
  dsimp only
  split <;> rfl

theorem receipts_foldl_settle (plans : List ExecutionPlan) (progress : Progress) :
    (plans.foldl (settle sha256 epoch) progress).receipts =
      progress.receipts ++ receiptsOf sha256 epoch progress.store plans := by
  induction plans generalizing progress with
  | nil => exact (List.append_nil _).symm
  | cons plan plans ih =>
      rw [List.foldl_cons, ih, receipts_settle, settle_store, List.append_assoc]
      rfl

theorem receiptsOf_getElem? (plans : List ExecutionPlan) (store : ObjectStore) (i : ℕ) :
    (receiptsOf sha256 epoch store plans)[i]? = plans[i]?.map fun plan =>
      (applyPlanWithEffects sha256 plan ((plans.take i).foldl (planStep sha256 epoch) store) epoch).1.1 := by
  induction plans generalizing store i with
  | nil => simp only [receiptsOf, List.getElem?_nil, Option.map_none]
  | cons plan plans ih =>
      cases i with
      | zero => simp only [receiptsOf, List.getElem?_cons_zero, Option.map_some, List.take_zero, List.foldl_nil]
      | succ i =>
          simp only [receiptsOf, List.getElem?_cons_succ, List.take_succ_cons, List.foldl_cons]
          exact ih _ i

theorem receipts_executeGroups (encode : BoxedObject → Bytes) (groups : List ExecutionGroup)
    (store : ObjectStore) :
    (executeGroups sha256 encode groups store epoch).1.receipts =
      receiptsOf sha256 epoch store (executionOrder groups) :=
  receipts_foldl_settle sha256 epoch (executionOrder groups) (.start store)

variable {sha256 epoch}

theorem applyPlanWithEffects_receipt (plan : ExecutionPlan) (store : ObjectStore) :
    (applyPlanWithEffects sha256 plan store epoch).1.1.success = (applyPlan sha256 plan store).1.success ∧
      (applyPlanWithEffects sha256 plan store epoch).1.1.gasUsed =
        (applyPlan sha256 plan store).1.gasUsed := by
  rw [applyPlanWithEffects]
  generalize applyPlan sha256 plan store = outcome
  obtain ⟨receipt, after⟩ := outcome
  dsimp only
  split
  · exact ⟨rfl, rfl⟩
  · exact ⟨rfl, rfl⟩

theorem gasUsed_of_success {plan : ExecutionPlan} {store : ObjectStore}
    (success : (applyPlan sha256 plan store).1.success = true) :
    (applyPlan sha256 plan store).1.gasUsed.toNat = planGas plan := by
  have accepted : ¬ FailsForGas plan store :=
    fun ⟨e, meter, failed, _⟩ => not_refused_of_success sha256 success ⟨e, meter, failed⟩
  have covered := Nat.not_lt.1 (mt failsForGas_iff.2 accepted)
  rw [← Nat.zero_add (List.sum _)] at covered
  rw [gasUsed_applyPlan, Metering.spend_of_covered plan.gasLimit.isLt covered, Nat.zero_add,
    charged_of_success sha256 success]

theorem gasUsed_settled {encode : BoxedObject → Bytes} {groups : List ExecutionGroup} {store : ObjectStore}
    {i : ℕ} {plan : ExecutionPlan} {receipt : ExecutionReceipt} (planned : (executionOrder groups)[i]? = some plan)
    (settled : (executeGroups sha256 encode groups store epoch).1.receipts[i]? = some receipt)
    (success : receipt.success = true) : receipt.gasUsed.toNat = planGas plan := by
  rw [receipts_executeGroups, receiptsOf_getElem?, planned] at settled
  obtain rfl := Option.some.inj settled
  obtain ⟨same, gas⟩ := @applyPlanWithEffects_receipt sha256 epoch plan
    (((executionOrder groups).take i).foldl (planStep sha256 epoch) store)
  rw [gas]
  exact gasUsed_of_success (same.symm.trans success)

end Receipts

section Collected

variable (feeToken : Bytes32)

def storeAt (store : ObjectStore) (accountings : List FeeAccounting) (receipts : List ExecutionReceipt)
    (i : ℕ) : ObjectStore :=
  (chargeReceipts feeToken store (accountings.take i) (receipts.take i)).1

def ChargedInFull (accounting : FeeAccounting) (receipt : ExecutionReceipt) : Prop :=
  (accounting.chargeRuntime receipt.gasUsed).1.success = true ∧
    (accounting.chargeRuntime receipt.gasUsed).1.amountCharged = receipt.gasUsed

/-- Charging the receipt takes its gas from the payer's balance of the fee token. -/
def PaidInFull (before : ObjectStore) (accounting : FeeAccounting) (receipt : ExecutionReceipt) : Prop :=
  ∃ balance paid, before.findBalance accounting.envelope.payer feeToken = some balance ∧
    (chargeReceipt feeToken before accounting receipt).1.getBalanceById balance.id = some paid ∧
    paid.amount.toNat + receipt.gasUsed.toNat = balance.amount.toNat

variable {feeToken} {before : ObjectStore} {accounting : FeeAccounting} {receipt : ExecutionReceipt}

theorem chargedInFull_iff : ChargedInFull accounting receipt ↔
    accounting.state = .sequencingCharged ∧ receipt.gasUsed ≤ accounting.envelope.maxRuntimeFee := by
  unfold ChargedInFull FeeAccounting.chargeRuntime
  by_cases ready : accounting.state = .sequencingCharged
  · by_cases short : accounting.envelope.maxRuntimeFee < receipt.gasUsed
    · simp [ready, short]
    · simp [ready, short, BitVec.not_lt.1 short]
  · simp [ready]

theorem chargeSuccess_of_charged (charged : ChargedInFull accounting receipt) {balance : BalanceObject}
    (found : before.findBalance accounting.envelope.payer feeToken = some balance) :
    (chargeSuccess feeToken before accounting receipt.gasUsed).1 =
      before.modifyBalance balance.id (.debitFee receipt.gasUsed) (id_debitFee receipt.gasUsed) := by
  obtain ⟨ready, within⟩ := chargedInFull_iff.1 charged
  have short : ¬ accounting.envelope.maxRuntimeFee < receipt.gasUsed := BitVec.not_lt.2 within
  simp only [chargeSuccess, FeeAccounting.chargeRuntime, ready, short, ne_eq, not_true_eq_false, if_false, if_true,
    ObjectStore.updateFound, found, Option.map_some, Option.getD_some]

theorem getBalanceById_modifyBalance (store : ObjectStore) (id other : ObjectId)
    (change : BalanceObject → BalanceObject) (keeps : ∀ balance, (change balance).id = balance.id) :
    (store.modifyBalance id change keeps).getBalanceById other =
      if id = other then (store.getBalanceById other).map change else store.getBalanceById other :=
  KeyedMap.get?_modify store.balances id other change keeps

theorem amount_refundReceipt (id : ObjectId) :
    ((refundReceipt feeToken before accounting).1.getBalanceById id).map BalanceObject.amount =
      (before.getBalanceById id).map BalanceObject.amount := by
  unfold refundReceipt
  dsimp only
  split
  · rfl
  · cases found : before.findBalance accounting.settleRefund.2.envelope.effectiveRefundAddress feeToken with
    | none => simp only [ObjectStore.updateFound, found, Option.map_none, Option.getD_none]
    | some balance =>
        simp only [ObjectStore.updateFound, found, Option.map_some, Option.getD_some]
        have moved := getBalanceById_modifyBalance before balance.id id
          (.unlock accounting.settleRefund.1) (id_unlock _)
        refine (congrArg (Option.map _) moved).trans ?_
        split
        · rw [Option.map_map]
          rfl
        · rfl

theorem chargeReceipt_of_success (success : receipt.success = true) :
    chargeReceipt feeToken before accounting receipt =
      refundReceipt feeToken (chargeSuccess feeToken before accounting receipt.gasUsed).1
        (chargeSuccess feeToken before accounting receipt.gasUsed).2 := by
  rw [chargeReceipt, if_pos success]

theorem paidInFull_iff (success : receipt.success = true) (charged : ChargedInFull accounting receipt) :
    PaidInFull feeToken before accounting receipt ↔
      ∃ balance, before.findBalance accounting.envelope.payer feeToken = some balance ∧
        receipt.gasUsed.toNat ≤ balance.amount.toNat := by
  have wide : (receipt.gasUsed.setWidth 128).toNat = receipt.gasUsed.toNat :=
    BitVec.toNat_setWidth_of_le (by decide)
  have taken {balance : BalanceObject}
      (found : before.findBalance accounting.envelope.payer feeToken = some balance) :
      ((chargeReceipt feeToken before accounting receipt).1.getBalanceById balance.id).map
        BalanceObject.amount = some (balance.debitFee receipt.gasUsed).amount := by
    have held := (ObjectStore.findBalance_spec found).1
    have moved := getBalanceById_modifyBalance before balance.id balance.id (.debitFee receipt.gasUsed)
      (id_debitFee receipt.gasUsed)
    rw [if_pos rfl, held] at moved
    rw [chargeReceipt_of_success success, amount_refundReceipt, chargeSuccess_of_charged charged found]
    exact congrArg (Option.map _) moved
  constructor
  · rintro ⟨balance, paid, found, after, sum⟩
    exact ⟨balance, found, by omega⟩
  · rintro ⟨balance, found, covers⟩
    obtain ⟨paid, after, same⟩ := Option.map_eq_some_iff.1 (taken found)
    refine ⟨balance, paid, found, after, ?_⟩
    rw [same, BalanceObject.debitFee, toNat_saturatingSub, wide]
    omega

/-- A settled plan that succeeded is charged in full exactly if a record in the state for it stands at its
position with a reserve for all its gas, and paid in full exactly if besides the payer's balance holds that much
when its turn comes. -/
theorem runtime_fee_collected_iff (sha256 : Sha256) (encode : BoxedObject → Bytes) (groups : List ExecutionGroup)
    (store : ObjectStore) (epoch : U64) (accountings : List FeeAccounting) {i : ℕ} {plan : ExecutionPlan}
    {receipt : ExecutionReceipt} (planned : (executionOrder groups)[i]? = some plan)
    (settled : (executeGroupsWithFees feeToken sha256 encode groups store epoch accountings).1.receipts[i]? =
      some receipt) (success : receipt.success = true) :
    ((∃ accounting, accountings[i]? = some accounting ∧ ChargedInFull accounting receipt) ↔
      ∃ accounting, accountings[i]? = some accounting ∧ accounting.state = .sequencingCharged ∧
        planGas plan ≤ accounting.envelope.maxRuntimeFee.toNat) ∧
    ((∃ accounting, accountings[i]? = some accounting ∧ ChargedInFull accounting receipt ∧
        PaidInFull feeToken (storeAt feeToken (executeGroups sha256 encode groups store epoch).2 accountings
          (executeGroups sha256 encode groups store epoch).1.receipts i) accounting receipt) ↔
      ∃ accounting, accountings[i]? = some accounting ∧ accounting.state = .sequencingCharged ∧
        planGas plan ≤ accounting.envelope.maxRuntimeFee.toNat ∧
        ∃ balance, (storeAt feeToken (executeGroups sha256 encode groups store epoch).2 accountings
            (executeGroups sha256 encode groups store epoch).1.receipts i).findBalance
              accounting.envelope.payer feeToken = some balance ∧
          planGas plan ≤ balance.amount.toNat) := by
  have gas : receipt.gasUsed.toNat = planGas plan := gasUsed_settled planned settled success
  have charged (accounting : FeeAccounting) : ChargedInFull accounting receipt ↔
      accounting.state = .sequencingCharged ∧ planGas plan ≤ accounting.envelope.maxRuntimeFee.toNat := by
    rw [chargedInFull_iff, BitVec.le_def, gas]
  constructor
  · exact exists_congr fun accounting => and_congr_right fun _ => charged accounting
  · refine exists_congr fun accounting => and_congr_right fun _ => ?_
    rw [← and_assoc (c := ∃ _, _), ← charged]
    refine and_congr_right fun full => ?_
    rw [paidInFull_iff success full, gas]

section Examples

def lockIntent : IntentTransaction :=
  { txId := 1, sender := 7
    intent := .yieldAllocate { assetId := 3, amount := 10, targetVaultId := 1, minApyBps := 0 }
    maxFee := 2, deadlineEpoch := 10, nonce := 0, signature := 0
    metadata := ∅, targetObjects := [], constraints := {}, executionMode := .bestEffort
    sponsor := none, sponsorSignature := none, sponsorshipLimits := {}, feePolicy := .senderPays
    feeEnvelope := none }

def payerStore : ObjectStore := ObjectStore.new.insert (.balance (.new 1 7 3 100000 0))

def lockingPlan : ExecutionPlan :=
  IntentResolver.planOf 1 2 [.writeObject] [.lockBalance 1 10, .updateVersion 1] [.write 1, .write 1]

def chargedRecord (maxRuntimeFee : U64) : FeeAccounting :=
  { envelope := { payer := 7, feeToken := "omniphi", maxPoseqFee := 1, maxRuntimeFee, priorityTip := 0
                  expiryEpoch := 10, refundAddress := none }
    state := .sequencingCharged, reservedTotal := 1 + maxRuntimeFee, chargedPoseq := 1, chargedRuntime := 0
    refunded := 0, penalty := 0 }

def settledLock (maxRuntimeFee : U64) : SettlementResult × ObjectStore × List FeeAccounting :=
  executeGroupsWithFees 3 (fun _ => 0) (fun _ => []) [⟨[lockingPlan], 0⟩] payerStore 0
    [chargedRecord maxRuntimeFee]

/-- A reserve of 1600 covers the 1550 units of the plan. -/
theorem lock_charged_in_full : ∃ receipt, (settledLock 1600).1.receipts[0]? = some receipt ∧
    ∃ accounting, [chargedRecord 1600][0]? = some accounting ∧ ChargedInFull accounting receipt := by
  have succeeds : (settledLock 1600).1.receipts[0]?.map ExecutionReceipt.success = some true := by
    decide +kernel
  obtain ⟨receipt, settled, success⟩ := Option.map_eq_some_iff.1 succeeds
  exact ⟨receipt, settled,
    (@runtime_fee_collected_iff 3 (fun _ => 0) (fun _ => []) [⟨[lockingPlan], 0⟩] payerStore 0
      [chargedRecord 1600] 0 lockingPlan receipt rfl settled success).1.2
      ⟨chargedRecord 1600, rfl, rfl, by decide⟩⟩

/-- The fee of the intent bounds the gas by a thousand times itself; a reserve of the fee itself is passed by a
plan that succeeds, and then nothing is charged. -/
theorem lock_uncharged :
    IntentResolver.resolve lockIntent payerStore .userDefault = .ok lockingPlan ∧
      (settledLock 2).1.receipts.map ExecutionReceipt.success = [true] ∧
      (settledLock 2).1.receipts.map ExecutionReceipt.gasUsed = [1550] ∧
      (settledLock 2).2.2.map FeeAccounting.chargedRuntime = [0] ∧
      ((settledLock 2).2.1.getBalanceById 1).map BalanceObject.amount = some 100000 := by
  refine ⟨rfl, ?_, ?_, ?_, ?_⟩
  · decide +kernel
  · decide +kernel
  · decide +kernel
  · decide +kernel

end Examples

end Collected

end Omniphi.Runtime.SettlementEngine
