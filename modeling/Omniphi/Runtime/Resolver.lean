import Omniphi.Runtime.Intents
import Omniphi.Runtime.Plan
import Omniphi.Runtime.Store

/-! Resolution of intents into execution plans. 256-bit arithmetic panics on overflow and underflow,
so a resolution ends with a plan, with an error, or in a panic. -/

namespace Omniphi.Runtime

/-- How a resolution ends when it gives no plan. -/
inductive Halt
  | error (e : RuntimeError)
  | panic

abbrev Resolution := Except Halt

namespace Resolution

def fail {α : Type} (e : RuntimeError) : Resolution α := throw (.error e)

def ofExcept {α : Type} : Except RuntimeError α → Resolution α
  | .ok a => .ok a
  | .error e => .error (.error e)

def orElse {α : Type} (found : Option α) (e : RuntimeError) : Resolution α :=
  match found with
  | some value => .ok value
  | none => .error (.error e)

end Resolution

open Resolution

namespace U256

/-! The operators of `primitive_types::U256` on numbers below `2^256`. -/

def add (a b : Nat) : Resolution Nat := if a + b < 2 ^ 256 then .ok (a + b) else .error .panic

def sub (a b : Nat) : Resolution Nat := if b ≤ a then .ok (a - b) else .error .panic

def mul (a b : Nat) : Resolution Nat := if a * b < 2 ^ 256 then .ok (a * b) else .error .panic

end U256

def ammOutput (inputAmount reserveIn reserveOut : U128) (feeBps : U32) : Resolution U128 := do
  let scale := 10000
  let inputWithFee ← U256.mul inputAmount.toNat (← U256.sub scale feeBps.toNat)
  let numerator ← U256.mul inputWithFee reserveOut.toNat
  let denominator ← U256.add (← U256.mul reserveIn.toNat scale) inputWithFee
  if denominator = 0 then fail (.constraintViolation "zero denominator in AMM")
  let output := numerator / denominator
  if 2 ^ 128 - 1 < output then fail (.constraintViolation "AMM output overflow")
  return BitVec.ofNat 128 output

def estimateGas (ops : List ObjectOperation) (costs : GasCosts) : U64 :=
  ops.foldl (fun total op => MachineInt.saturatingAdd total (opGasCost op costs)) costs.baseTx

namespace IntentResolver

def planOf (txId : Bytes32) (maxFee : U64) (requiredCapabilities : List Capability)
    (operations : List ObjectOperation) (objectAccess : List ObjectAccess) : ExecutionPlan :=
  { txId, operations, requiredCapabilities, objectAccess
    gasEstimate := estimateGas operations .defaultCosts
    gasLimit := MachineInt.saturatingMul maxFee 1000 }

def ownBalance (store : ObjectStore) (owner assetId : Bytes32) : Resolution BalanceObject :=
  orElse (store.findBalance owner assetId) (.objectNotFound 0)

def spendable (store : ObjectStore) (sender assetId : Bytes32) (amount : U128) :
    Resolution BalanceObject := do
  let balance ← ownBalance store sender assetId
  if balance.available < amount then fail (.insufficientBalance amount balance.available)
  return balance

variable (txId : Bytes32) (maxFee : U64) (sender : Bytes32) (store : ObjectStore)
  (caps : CapabilitySet)

def resolveTransfer (t : TransferIntent) : Resolution ExecutionPlan := do
  ofExcept (CapabilityChecker.check caps [.transferAsset])
  let senderBalance ← spendable store sender t.assetId t.amount
  let recipientBalance ← ownBalance store t.recipient t.assetId
  return planOf txId maxFee [.transferAsset]
    [.debitBalance senderBalance.id t.amount, .creditBalance recipientBalance.id t.amount]
    [.write senderBalance.id, .write recipientBalance.id]

/-- An allowed pool of the pair only opens the search; the pool used is the first of the pair in the
store. -/
def eligiblePool (s : SwapIntent) : Option LiquidityPoolObject :=
  match s.allowedPoolIds with
  | none => store.findPool s.inputAsset s.outputAsset
  | some ids => ids.findSome? fun poolId => do
      let pool ← store.getPoolById poolId
      if (pool.assetA = s.inputAsset ∧ pool.assetB = s.outputAsset) ∨
          (pool.assetA = s.outputAsset ∧ pool.assetB = s.inputAsset) then
        store.findPool s.inputAsset s.outputAsset
      else none

def checkSlippage (s : SwapIntent) (reserveIn reserveOut outputAmount : U128) : Resolution Unit := do
  let denominator ← U256.add reserveIn.toNat s.inputAmount.toNat
  if denominator ≠ 0 then
    let ideal := (← U256.mul s.inputAmount.toNat reserveOut.toNat) / denominator
    let actual := outputAmount.toNat
    if actual < ideal then
      let slippageBps := (← U256.mul (ideal - actual) 10000) / ideal
      if s.maxSlippageBps.toNat < slippageBps then
        fail (.constraintViolation ("swap slippage " ++ toString slippageBps ++ " bps exceeds max " ++
          toString s.maxSlippageBps.toNat ++ " bps"))

def resolveSwap (s : SwapIntent) : Resolution ExecutionPlan := do
  ofExcept (CapabilityChecker.check caps [.swapAsset])
  let pool ← orElse (eligiblePool store s)
    (.resolutionFailure "no eligible liquidity pool found for swap")
  let inputIsA : Bool := pool.assetA = s.inputAsset
  let (reserveIn, reserveOut) :=
    if inputIsA then (pool.reserveA, pool.reserveB) else (pool.reserveB, pool.reserveA)
  let outputAmount ← ammOutput s.inputAmount reserveIn reserveOut pool.feeBps
  if outputAmount < s.minOutputAmount then
    fail (.constraintViolation ("swap output " ++ toString outputAmount.toNat ++
      " < min_output_amount " ++ toString s.minOutputAmount.toNat))
  checkSlippage s reserveIn reserveOut outputAmount
  -- The casts to `i128` keep the bits.
  let (deltaA, deltaB) : I128 × I128 :=
    if inputIsA then (s.inputAmount, -outputAmount) else (-outputAmount, s.inputAmount)
  let senderIn ← spendable store sender s.inputAsset s.inputAmount
  let senderOut ← ownBalance store sender s.outputAsset
  return planOf txId maxFee [.swapAsset]
    [.debitBalance senderIn.id s.inputAmount, .creditBalance senderOut.id outputAmount,
      .swapPoolAmounts pool.id deltaA deltaB]
    [.write senderIn.id, .write senderOut.id, .write pool.id]

def resolveYieldAllocate (y : YieldAllocateIntent) : Resolution ExecutionPlan := do
  ofExcept (CapabilityChecker.check caps [.writeObject])
  let senderBalance ← spendable store sender y.assetId y.amount
  let _ ← orElse (store.get y.targetVaultId) (.objectNotFound y.targetVaultId)
  return planOf txId maxFee [.writeObject]
    [.lockBalance senderBalance.id y.amount, .updateVersion y.targetVaultId]
    [.write senderBalance.id, .write y.targetVaultId]

def resolveTreasuryRebalance (r : TreasuryRebalanceIntent) : Resolution ExecutionPlan := do
  ofExcept (CapabilityChecker.check caps [.modifyGovernance])
  if sender ∉ r.authorizedBy then fail (.unauthorizedCapability .modifyGovernance caps)
  let fromBalance ← spendable store sender r.fromAsset r.amount
  let toBalance ← ownBalance store sender r.toAsset
  return planOf txId maxFee [.modifyGovernance]
    [.debitBalance fromBalance.id r.amount, .creditBalance toBalance.id r.amount]
    [.write fromBalance.id, .write toBalance.id]

def resolveRouteLiquidity (rl : RouteLiquidityIntent) : Resolution ExecutionPlan := do
  ofExcept (CapabilityChecker.check caps [.provideLiquidity, .withdrawLiquidity])
  let _ ← orElse (store.get rl.sourcePool) (.objectNotFound rl.sourcePool)
  let _ ← orElse (store.get rl.targetPool) (.objectNotFound rl.targetPool)
  let senderBalance ← spendable store sender rl.assetId rl.amount
  return planOf txId maxFee [.provideLiquidity, .withdrawLiquidity]
    [.debitBalance senderBalance.id rl.amount, .updateVersion rl.sourcePool,
      .updateVersion rl.targetPool, .creditBalance senderBalance.id rl.minReceived]
    [.write senderBalance.id, .write rl.sourcePool, .write rl.targetPool]

def resolve (tx : IntentTransaction) (store : ObjectStore) (caps : CapabilitySet) :
    Resolution ExecutionPlan :=
  match tx.intent with
  | .transfer t => resolveTransfer tx.txId tx.maxFee tx.sender store caps t
  | .swap s => resolveSwap tx.txId tx.maxFee tx.sender store caps s
  | .yieldAllocate y => resolveYieldAllocate tx.txId tx.maxFee tx.sender store caps y
  | .treasuryRebalance r => resolveTreasuryRebalance tx.txId tx.maxFee tx.sender store caps r
  | .routeLiquidity rl => resolveRouteLiquidity tx.txId tx.maxFee tx.sender store caps rl
  | .contractCall _ =>
      fail (.resolutionFailure "contract calls require solver market resolution")

end IntentResolver

end Omniphi.Runtime
