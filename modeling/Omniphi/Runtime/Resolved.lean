import Omniphi.Runtime.PlanSteps
import Omniphi.Runtime.Resolver

/-! What a resolved plan consists of, intent by intent. -/

namespace Omniphi.Runtime

open Resolution SettlementEngine

namespace Resolution

theorem orElse_ok {α : Type} {found : Option α} {e : RuntimeError} {value : α} :
    orElse found e = .ok value ↔ found = some value := by
  cases found <;> simp [orElse]

end Resolution

namespace U256

variable {a b c : Nat}

theorem checked_ok {P : Prop} [Decidable P] :
    (if P then .ok a else .error .panic : Resolution Nat) = .ok c ↔ P ∧ a = c := by
  by_cases fits : P <;> simp [fits]

theorem add_ok : add a b = .ok c ↔ a + b < 2 ^ 256 ∧ a + b = c := checked_ok

theorem sub_ok : sub a b = .ok c ↔ b ≤ a ∧ a - b = c := checked_ok

theorem mul_ok : mul a b = .ok c ↔ a * b < 2 ^ 256 ∧ a * b = c := checked_ok

end U256

theorem ammOutput_le {inputAmount reserveIn reserveOut output : U128} {feeBps : U32}
    (quoted : ammOutput inputAmount reserveIn reserveOut feeBps = .ok output) :
    output ≤ reserveOut := by
  simp only [ammOutput, fail, bind_ok, guard_ok, U256.add_ok, U256.sub_ok, U256.mul_ok] at quoted
  obtain ⟨rate, -, inputWithFee, -, _, ⟨-, rfl⟩, scaled, -, denominator, ⟨-, rfl⟩, positive, fits,
    same⟩ := quoted
  obtain rfl := Except.ok.inj same
  have bounded : inputWithFee * reserveOut.toNat / (scaled + inputWithFee) ≤ reserveOut.toNat := by
    apply Nat.div_le_of_le_mul
    exact Nat.mul_le_mul_right _ (Nat.le_add_left _ _)
  rw [BitVec.le_def, BitVec.toNat_ofNat]
  exact (Nat.mod_le _ _).trans bounded

namespace ObjectStore

variable {store : ObjectStore}

theorem findBalance_spec {owner assetId : Bytes32} {balance : BalanceObject}
    (found : store.findBalance owner assetId = some balance) :
    store.getBalanceById balance.id = some balance ∧ balance.owner = owner ∧
      balance.assetId = assetId := by
  obtain ⟨held, fits⟩ := KeyedMap.get?_of_find? found
  exact ⟨held, of_decide_eq_true fits⟩

theorem findPool_spec {assetA assetB : Bytes32} {pool : LiquidityPoolObject}
    (found : store.findPool assetA assetB = some pool) :
    store.getPoolById pool.id = some pool ∧ ((pool.assetA = assetA ∧ pool.assetB = assetB) ∨
      (pool.assetA = assetB ∧ pool.assetB = assetA)) := by
  obtain ⟨held, fits⟩ := KeyedMap.get?_of_find? found
  exact ⟨held, of_decide_eq_true fits⟩

end ObjectStore

namespace IntentResolver

variable {txId : Bytes32} {maxFee : U64} {sender : Bytes32} {store : ObjectStore}
  {caps : CapabilitySet} {plan : ExecutionPlan}

theorem ownBalance_ok {owner assetId : Bytes32} {balance : BalanceObject} :
    ownBalance store owner assetId = .ok balance ↔ store.findBalance owner assetId = some balance :=
  orElse_ok

theorem spendable_ok {assetId : Bytes32} {amount : U128} {balance : BalanceObject} :
    spendable store sender assetId amount = .ok balance ↔
      store.findBalance sender assetId = some balance ∧ amount ≤ balance.available := by
  simp only [spendable, fail, bind_ok, guard_ok, ownBalance_ok]
  constructor
  · rintro ⟨held, found, enough, same⟩
    obtain rfl := Except.ok.inj same
    exact ⟨found, BitVec.not_lt.1 enough⟩
  · rintro ⟨found, enough⟩
    exact ⟨balance, found, BitVec.not_lt.2 enough, rfl⟩

theorem resolveTransfer_ok {t : TransferIntent}
    (resolved : resolveTransfer txId maxFee sender store caps t = .ok plan) :
    ∃ own other, store.findBalance sender t.assetId = some own ∧ t.amount ≤ own.available ∧
      store.findBalance t.recipient t.assetId = some other ∧
      plan = planOf txId maxFee [.transferAsset]
        [.debitBalance own.id t.amount, .creditBalance other.id t.amount]
        [.write own.id, .write other.id] := by
  simp only [resolveTransfer, bind_ok, spendable_ok, ownBalance_ok] at resolved
  obtain ⟨-, -, own, ⟨found, enough⟩, other, found', same⟩ := resolved
  exact ⟨own, other, found, enough, found', (Except.ok.inj same).symm⟩

theorem eligiblePool_some {s : SwapIntent} {pool : LiquidityPoolObject}
    (eligible : eligiblePool store s = some pool) :
    store.findPool s.inputAsset s.outputAsset = some pool := by
  unfold eligiblePool at eligible
  split at eligible
  · exact eligible
  · obtain ⟨poolId, -, here⟩ := List.exists_of_findSome?_eq_some eligible
    obtain ⟨listed, -, here⟩ := Option.bind_eq_some_iff.1 here
    split at here
    · exact here
    · cases here

theorem resolveSwap_ok {s : SwapIntent}
    (resolved : resolveSwap txId maxFee sender store caps s = .ok plan) :
    ∃ pool own other output, store.findPool s.inputAsset s.outputAsset = some pool ∧
      store.findBalance sender s.inputAsset = some own ∧ s.inputAmount ≤ own.available ∧
      store.findBalance sender s.outputAsset = some other ∧
      ((pool.assetA = s.inputAsset ∧ output ≤ pool.reserveB ∧ plan = planOf txId maxFee [.swapAsset]
          [.debitBalance own.id s.inputAmount, .creditBalance other.id output,
            .swapPoolAmounts pool.id s.inputAmount (-output)]
          [.write own.id, .write other.id, .write pool.id]) ∨
        (pool.assetA ≠ s.inputAsset ∧ output ≤ pool.reserveA ∧ plan = planOf txId maxFee [.swapAsset]
          [.debitBalance own.id s.inputAmount, .creditBalance other.id output,
            .swapPoolAmounts pool.id (-output) s.inputAmount]
          [.write own.id, .write other.id, .write pool.id])) := by
  simp only [resolveSwap, fail, bind_ok, guard_ok, orElse_ok, spendable_ok, ownBalance_ok] at resolved
  obtain ⟨-, -, pool, eligible, output, quoted, -, -, -, own, ⟨found, enough⟩, other, found',
    same⟩ := resolved
  obtain rfl := Except.ok.inj same
  refine ⟨pool, own, other, output, eligiblePool_some eligible, found, enough, found', ?_⟩
  by_cases inputIsA : pool.assetA = s.inputAsset
  · simp only [inputIsA, decide_true, if_true] at quoted ⊢
    exact .inl ⟨trivial, ammOutput_le quoted, trivial⟩
  · simp only [inputIsA, decide_false, Bool.false_eq_true, if_false] at quoted ⊢
    exact .inr ⟨inputIsA, ammOutput_le quoted, trivial⟩

theorem resolveYieldAllocate_ok {y : YieldAllocateIntent}
    (resolved : resolveYieldAllocate txId maxFee sender store caps y = .ok plan) :
    ∃ own, store.findBalance sender y.assetId = some own ∧ y.amount ≤ own.available ∧
      plan = planOf txId maxFee [.writeObject]
        [.lockBalance own.id y.amount, .updateVersion y.targetVaultId]
        [.write own.id, .write y.targetVaultId] := by
  simp only [resolveYieldAllocate, bind_ok, spendable_ok] at resolved
  obtain ⟨-, -, own, ⟨found, enough⟩, -, -, same⟩ := resolved
  exact ⟨own, found, enough, (Except.ok.inj same).symm⟩

theorem resolveTreasuryRebalance_ok {r : TreasuryRebalanceIntent}
    (resolved : resolveTreasuryRebalance txId maxFee sender store caps r = .ok plan) :
    sender ∈ r.authorizedBy ∧
    ∃ own other, store.findBalance sender r.fromAsset = some own ∧ r.amount ≤ own.available ∧
      store.findBalance sender r.toAsset = some other ∧
      plan = planOf txId maxFee [.modifyGovernance]
        [.debitBalance own.id r.amount, .creditBalance other.id r.amount]
        [.write own.id, .write other.id] := by
  simp only [resolveTreasuryRebalance, fail, bind_ok, guard_ok, spendable_ok, ownBalance_ok]
    at resolved
  obtain ⟨-, -, authorized, own, ⟨found, enough⟩, other, found', same⟩ := resolved
  exact ⟨not_not.1 authorized, own, other, found, enough, found', (Except.ok.inj same).symm⟩

theorem resolveRouteLiquidity_ok {rl : RouteLiquidityIntent}
    (resolved : resolveRouteLiquidity txId maxFee sender store caps rl = .ok plan) :
    ∃ own, store.findBalance sender rl.assetId = some own ∧ rl.amount ≤ own.available ∧
      plan = planOf txId maxFee [.provideLiquidity, .withdrawLiquidity]
        [.debitBalance own.id rl.amount, .updateVersion rl.sourcePool, .updateVersion rl.targetPool,
          .creditBalance own.id rl.minReceived]
        [.write own.id, .write rl.sourcePool, .write rl.targetPool] := by
  simp only [resolveRouteLiquidity, bind_ok, spendable_ok] at resolved
  obtain ⟨-, -, -, -, -, -, own, ⟨found, enough⟩, same⟩ := resolved
  exact ⟨own, found, enough, (Except.ok.inj same).symm⟩

end IntentResolver

end Omniphi.Runtime
