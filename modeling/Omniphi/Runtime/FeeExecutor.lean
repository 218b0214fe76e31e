import Omniphi.Runtime.FeeAccounting
import Omniphi.Runtime.Resolved

/-! Fees on balances: the reserve is locked in the payer's balance, charges move out of the lock, and
settlement unlocks what is left. -/

namespace Omniphi.Runtime

open MachineInt

structure FeeRoutingParams where
  burnBps : U64
  sequencerRewardBps : U64
  sharedSecurityBps : U64
  treasuryBps : U64

structure RoutedFees where
  total : U64
  burned : U64
  sequencerReward : U64
  sharedSecurity : U64
  treasury : U64
  dust : U64

namespace FeeRouting

/-- The product of two 64-bit numbers fits in 128 bits; the cast of the quotient may cut. -/
def share (amount bps : U64) : U64 :=
  ((amount.setWidth 128 * bps.setWidth 128) / 10000).setWidth 64

def route (amount : U64) (params : FeeRoutingParams) : RoutedFees :=
  if amount = 0 then
    { total := 0, burned := 0, sequencerReward := 0, sharedSecurity := 0, treasury := 0, dust := 0 }
  else
    let sequencerReward := share amount params.sequencerRewardBps
    let sharedSecurity := share amount params.sharedSecurityBps
    let treasury := share amount params.treasuryBps
    let burnBase := share amount params.burnBps
    let accounted := saturatingAdd (saturatingAdd (saturatingAdd sequencerReward sharedSecurity)
      treasury) burnBase
    let dust := saturatingSub amount accounted
    { total := amount, burned := saturatingAdd burnBase dust, sequencerReward, sharedSecurity, treasury
      dust }

end FeeRouting

structure FeeDestinations where
  sequencer : Bytes32
  sharedSecurity : Bytes32
  treasury : Bytes32

namespace FeeEnvelope

def effectiveRefundAddress (envelope : FeeEnvelope) : Bytes32 :=
  envelope.refundAddress.getD envelope.payer

end FeeEnvelope

namespace BalanceObject

def lock (fee : U64) (balance : BalanceObject) : BalanceObject :=
  { balance with lockedAmount := saturatingAdd balance.lockedAmount (fee.setWidth 128) }

def unlock (fee : U64) (balance : BalanceObject) : BalanceObject :=
  { balance with lockedAmount := saturatingSub balance.lockedAmount (fee.setWidth 128) }

def debitFee (fee : U64) (balance : BalanceObject) : BalanceObject :=
  { balance with
    lockedAmount := saturatingSub balance.lockedAmount (fee.setWidth 128)
    amount := saturatingSub balance.amount (fee.setWidth 128) }

def creditFee (fee : U64) (balance : BalanceObject) : BalanceObject :=
  { balance with amount := saturatingAdd balance.amount (fee.setWidth 128) }

end BalanceObject

def ObjectStore.updateFound (store : ObjectStore) (owner assetId : Bytes32)
    (change : BalanceObject → BalanceObject) (keeps : ∀ balance, (change balance).id = balance.id) :
    Option ObjectStore :=
  (store.findBalance owner assetId).map fun balance => store.modifyBalance balance.id change keeps

namespace FeeExecutor

def reserve (store : ObjectStore) (envelope : FeeEnvelope) (feeToken : Bytes32) :
    Except String FeeAccounting × ObjectStore :=
  let total := envelope.totalReserved
  if total = 0 then (.error "nothing to reserve", store)
  else
    match store.findBalance envelope.payer feeToken with
    | none => (.error "payer balance not found", store)
    | some balance =>
        if balance.amount < total.setWidth 128 then
          (.error ("insufficient balance: need " ++ toString total.toNat ++ ", have " ++
            toString balance.amount.toNat), store)
        else
          match store.updateFound envelope.payer feeToken (.lock total) fun _ => rfl with
          | none => (.error "payer balance not found (mut)", store)
          | some store => (.ok (.reserve envelope), store)

def creditIfExists (store : ObjectStore) (address feeToken : Bytes32) (amount : U64) : ObjectStore :=
  if amount = 0 then store
  else (store.updateFound address feeToken (.creditFee amount) fun _ => rfl).getD store

def chargeSequencing (store : ObjectStore) (accounting : FeeAccounting) (feeResult : PoSeqFeeResult)
    (routingParams : FeeRoutingParams) (destinations : FeeDestinations) (feeToken : Bytes32) :
    Except String RoutedFees × ObjectStore × FeeAccounting :=
  let (charge, accounting) := accounting.chargeSequencing feeResult
  if charge.success = false then (.error (charge.error.getD ""), store, accounting)
  else
    let routed := FeeRouting.route feeResult.totalFee routingParams
    match store.updateFound accounting.envelope.payer feeToken (.debitFee feeResult.totalFee)
        fun _ => rfl with
    | none => (.error "payer balance not found", store, accounting)
    | some store =>
        let store := creditIfExists store destinations.sequencer feeToken routed.sequencerReward
        let store := creditIfExists store destinations.sharedSecurity feeToken routed.sharedSecurity
        let store := creditIfExists store destinations.treasury feeToken routed.treasury
        (.ok routed, store, accounting)

def chargeRuntime (store : ObjectStore) (accounting : FeeAccounting) (actualGasFee : U64)
    (feeToken : Bytes32) : Except String Unit × ObjectStore × FeeAccounting :=
  let (charge, accounting) := accounting.chargeRuntime actualGasFee
  if charge.success = false then (.error (charge.error.getD ""), store, accounting)
  else
    match store.updateFound accounting.envelope.payer feeToken (.debitFee actualGasFee)
        fun _ => rfl with
    | none => (.error "payer balance not found", store, accounting)
    | some store => (.ok (), store, accounting)

def settleRefund (store : ObjectStore) (accounting : FeeAccounting) (feeToken : Bytes32) :
    U64 × ObjectStore × FeeAccounting :=
  let (refund, accounting) := accounting.settleRefund
  let store :=
    if refund = 0 then store
    else (store.updateFound accounting.envelope.effectiveRefundAddress feeToken (.unlock refund)
      fun _ => rfl).getD store
  (refund, store, accounting)

end FeeExecutor

end Omniphi.Runtime
