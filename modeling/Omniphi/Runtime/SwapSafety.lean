import Omniphi.Runtime.Cells
import Omniphi.Runtime.Conservation

/-! What a settled swap does to the pool it goes through, and which pool that is. -/

namespace Omniphi.Runtime

open Resolution SettlementEngine

section Product

theorem ammOutput_within {inputAmount reserveIn reserveOut output : U128} {feeBps : U32}
    (quoted : ammOutput inputAmount reserveIn reserveOut feeBps = .ok output) :
    output.toNat * (reserveIn.toNat + inputAmount.toNat) ≤ inputAmount.toNat * reserveOut.toNat := by
  have covered := ammOutput_le quoted
  rw [BitVec.le_def] at covered
  simp only [ammOutput, fail, bind_ok, guard_ok, U256.add_ok, U256.sub_ok, U256.mul_ok] at quoted
  obtain ⟨rate, ⟨-, rfl⟩, inputWithFee, ⟨-, rfl⟩, numerator, ⟨-, rfl⟩, scaled, ⟨-, rfl⟩, denominator,
    ⟨-, rfl⟩, -, fits, same⟩ := quoted
  have quotient : output.toNat = inputAmount.toNat * (10000 - feeBps.toNat) * reserveOut.toNat /
      (reserveIn.toNat * 10000 + inputAmount.toNat * (10000 - feeBps.toNat)) := by
    rw [← Except.ok.inj same, BitVec.toNat_ofNat, Nat.mod_eq_of_lt]
    omega
  have paid := Nat.div_mul_le_self (inputAmount.toNat * (10000 - feeBps.toNat) * reserveOut.toNat)
    (reserveIn.toNat * 10000 + inputAmount.toNat * (10000 - feeBps.toNat))
  rw [← quotient] at paid
  generalize inputAmount.toNat = x at *
  generalize reserveIn.toNat = r at *
  generalize reserveOut.toNat = s at *
  generalize output.toNat = y at *
  obtain ⟨rest, rfl⟩ := Nat.exists_eq_add_of_le covered
  -- The part of the input that is charged as a fee would pay out even more.
  have charged : x * (10000 - feeBps.toNat) * rest ≤ x * 10000 * rest :=
    Nat.mul_le_mul_right _ (Nat.mul_le_mul_left _ (Nat.sub_le _ _))
  nlinarith

theorem product_le {x r s y : Nat} (covered : y ≤ s) (within : y * (r + x) ≤ x * s) :
    r * s ≤ (r + x) * (s - y) := by
  obtain ⟨rest, rfl⟩ := Nat.exists_eq_add_of_le covered
  rw [Nat.add_sub_cancel_left]
  nlinarith

theorem shiftReserve_out_ge {reserve output : U128} (covered : output.toNat ≤ reserve.toNat) :
    reserve.toNat - output.toNat ≤ (shiftReserve reserve (-output)).toNat := by
  unfold shiftReserve
  split
  · rw [BitVec.neg_neg, MachineInt.toNat_saturatingSub]
  · rw [MachineInt.toNat_saturatingAdd]
    have bound := reserve.isLt
    omega

end Product

section Reserves

def Cell.reserves (cell : Cell) : Option (U128 × U128) :=
  cell.pool.map fun pool => (pool.reserveA, pool.reserveB)

def ObjectOperation.swaps : ObjectOperation → Bool
  | .swapPoolAmounts .. => true
  | _ => false

variable (sha256 : Sha256)

theorem reserves_applied {cell next : Cell} {op : ObjectOperation} (other : op.swaps = false)
    (applied : applyCell sha256 cell op = .ok next) : next.reserves = cell.reserves := by
  cases op with
  | debitBalance balanceId amount | unlockBalance balanceId amount =>
      obtain ⟨balance, -, applied⟩ := bind_ok.1 applied
      split at applied <;> cases applied
      rfl
  | creditBalance balanceId amount | lockBalance balanceId amount =>
      obtain ⟨balance, -, applied⟩ := bind_ok.1 applied
      cases applied
      rfl
  | swapPoolAmounts poolId deltaA deltaB => cases other
  | transferOwnership objectId newOwner =>
      obtain ⟨object, -, applied⟩ := bind_ok.1 applied
      cases applied
      simp only [Cell.reserves, Cell.setOwner, Option.map_map, Function.comp_def]
  | contractStateTransition contractId schemaId proposedState =>
      obtain ⟨object, -, applied⟩ := bind_ok.1 applied
      split at applied <;> cases applied
      rfl
  | _ =>
      cases applied
      rfl

theorem reserves_applyOps {ops : List ObjectOperation} (others : ∀ op ∈ ops, op.swaps = false)
    (store : ObjectStore) (affected : List ObjectId) (poolId : ObjectId) (deltaA deltaB : I128) :
    ((applyOps sha256 store affected (ops ++ [.swapPoolAmounts poolId deltaA deltaB])).1.cell
        poolId).reserves = (store.cell poolId).reserves ∨
      ((applyOps sha256 store affected (ops ++ [.swapPoolAmounts poolId deltaA deltaB])).1.cell
        poolId).reserves = (store.cell poolId).reserves.map fun reserves =>
          (shiftReserve reserves.1 deltaA, shiftReserve reserves.2 deltaB) := by
  induction ops generalizing store affected with
  | nil =>
      have step := applyOp_cell sha256 store affected (.swapPoolAmounts poolId deltaA deltaB)
      rw [List.nil_append, applyOps]
      cases effect : applyCell sha256 (store.cell poolId) (.swapPoolAmounts poolId deltaA deltaB) with
      | error e =>
          rw [ObjectOperation.target, effect] at step
          rw [step]
          exact .inl rfl
      | ok cell =>
          rw [ObjectOperation.target, effect] at step
          obtain ⟨next, applied, cells⟩ := step
          rw [applied]
          right
          dsimp only [applyOps]
          rw [cells, Function.update_self]
          obtain ⟨pool, -, effect⟩ := bind_ok.1 effect
          cases effect
          simp only [Cell.reserves, Cell.modifyPool, Option.map_map, Function.comp_def]
  | cons op ops ih =>
      have step := applyOp_cell sha256 store affected op
      rw [List.cons_append, applyOps]
      cases effect : applyCell sha256 (store.cell (op.target sha256)) op with
      | error e =>
          rw [effect] at step
          rw [step]
          exact .inl rfl
      | ok cell =>
          rw [effect] at step
          obtain ⟨next, applied, cells⟩ := step
          rw [applied]
          have kept := reserves_applied sha256 (others op List.mem_cons_self) effect
          have same : (next.cell poolId).reserves = (store.cell poolId).reserves := by
            rw [cells]
            by_cases here : poolId = op.target sha256
            · rw [here, Function.update_self, kept]
            · rw [Function.update_of_ne here]
          have later := ih (fun other member => others other (List.mem_cons_of_mem _ member)) next
            (affected ++ op.touched sha256)
          rw [same] at later
          exact later

theorem reserves_bump_sync (cell : Cell) (times : Nat) :
    (Cell.bump^[times] cell).sync.reserves = cell.reserves := by
  have synced (cell : Cell) : cell.sync.reserves = cell.reserves := rfl
  rw [synced]
  induction times generalizing cell with
  | zero => rfl
  | succ times ih =>
      rw [Function.iterate_succ_apply, ih]
      simp only [Cell.reserves, Cell.bump, Option.map_map, Function.comp_def]

theorem reserves_applyPlan {plan : ExecutionPlan} {ops : List ObjectOperation} {poolId : ObjectId}
    {deltaA deltaB : I128} (shape : plan.operations = ops ++ [.swapPoolAmounts poolId deltaA deltaB])
    (others : ∀ op ∈ ops, op.swaps = false) (store : ObjectStore) :
    ((applyPlan sha256 plan store).2.cell poolId).reserves = (store.cell poolId).reserves ∨
      ((applyPlan sha256 plan store).2.cell poolId).reserves =
        (store.cell poolId).reserves.map fun reserves =>
          (shiftReserve reserves.1 deltaA, shiftReserve reserves.2 deltaB) := by
  have applied := reserves_applyOps sha256 others store [] poolId deltaA deltaB
  rw [← shape] at applied
  rcases applyPlan_cases sha256 plan store with ⟨-, -, same⟩ |
    ⟨-, ⟨after, e, ran, -, left⟩ | ⟨after, affected, ran, -, left⟩⟩
  · rw [same]
    exact .inl rfl
  · rw [ran] at applied
    rw [left]
    exact applied
  · rw [ran] at applied
    rw [left, ObjectStore.cell_sync, foldl_bumpVersion_cell, reserves_bump_sync]
    exact applied

end Reserves

namespace IntentResolver

section Claims

variable {txId : Bytes32} {maxFee : U64} {sender : Bytes32} {caps : CapabilitySet} {plan : ExecutionPlan}
  (sha256 : Sha256) (store : ObjectStore) (s : SwapIntent)

/-- The pool of each swap of the plan is an allowed one. -/
def StaysAllowed (plan : ExecutionPlan) : Prop :=
  ∀ ids, s.allowedPoolIds = some ids → ∀ poolId deltaA deltaB,
    .swapPoolAmounts poolId deltaA deltaB ∈ plan.operations → poolId ∈ ids

/-- The product of the reserves of the pool of each swap is not less once the plan has been settled. -/
def KeepsProduct (plan : ExecutionPlan) : Prop :=
  ∀ poolId deltaA deltaB, .swapPoolAmounts poolId deltaA deltaB ∈ plan.operations →
    ∀ before, store.getPoolById poolId = some before →
      ∃ after, (applyPlan sha256 plan store).2.getPoolById poolId = some after ∧
        before.reserveA.toNat * before.reserveB.toNat ≤ after.reserveA.toNat * after.reserveB.toNat

/-- The first pool of the pair in the store is an allowed one. -/
def FirstAllowed : Prop :=
  ∀ ids, s.allowedPoolIds = some ids → ∀ pool, store.findPool s.inputAsset s.outputAsset = some pool →
    pool.id ∈ ids

def InputFits : Prop :=
  ∀ pool, store.findPool s.inputAsset s.outputAsset = some pool → s.inputAmount.toNat < 2 ^ 127 ∧
    (if pool.assetA = s.inputAsset then pool.reserveA else pool.reserveB).toNat + s.inputAmount.toNat <
      2 ^ 128

variable {store s}

theorem resolveSwap_quote (resolved : resolveSwap txId maxFee sender store caps s = .ok plan) :
    ∃ pool own other output, store.findPool s.inputAsset s.outputAsset = some pool ∧
      (pool.assetA = s.inputAsset ∧
          ammOutput s.inputAmount pool.reserveA pool.reserveB pool.feeBps = .ok output ∧
          plan.operations = [.debitBalance own s.inputAmount, .creditBalance other output] ++
            [.swapPoolAmounts pool.id s.inputAmount (-output)] ∨
        pool.assetA ≠ s.inputAsset ∧
          ammOutput s.inputAmount pool.reserveB pool.reserveA pool.feeBps = .ok output ∧
          plan.operations = [.debitBalance own s.inputAmount, .creditBalance other output] ++
            [.swapPoolAmounts pool.id (-output) s.inputAmount]) := by
  simp only [resolveSwap, fail, bind_ok, guard_ok, orElse_ok, spendable_ok, ownBalance_ok] at resolved
  obtain ⟨-, -, pool, eligible, output, quoted, -, -, -, own, -, other, -, same⟩ := resolved
  obtain rfl := Except.ok.inj same
  refine ⟨pool, own.id, other.id, output, eligiblePool_some eligible, ?_⟩
  by_cases inputIsA : pool.assetA = s.inputAsset
  · simp only [inputIsA, decide_true, if_true] at quoted ⊢
    exact .inl ⟨trivial, quoted, rfl⟩
  · simp only [inputIsA, decide_false, Bool.false_eq_true, if_false] at quoted ⊢
    exact .inr ⟨inputIsA, quoted, rfl⟩

theorem mem_swap {own other poolId at_ : ObjectId} {amount output : U128} {deltaA deltaB dA dB : I128}
    (member : ObjectOperation.swapPoolAmounts at_ dA dB ∈ [.debitBalance own amount,
      .creditBalance other output] ++ [.swapPoolAmounts poolId deltaA deltaB]) : at_ = poolId := by
  simp only [List.cons_append, List.nil_append, List.mem_cons, List.not_mem_nil, or_false,
    reduceCtorEq, false_or, ObjectOperation.swapPoolAmounts.injEq] at member
  exact member.1

theorem keepsProduct_of {own other : ObjectId} {amount output : U128} {deltaA deltaB : I128}
    {pool : LiquidityPoolObject} (held : store.getPoolById pool.id = some pool)
    (shape : plan.operations = [.debitBalance own amount, .creditBalance other output] ++
      [.swapPoolAmounts pool.id deltaA deltaB])
    (grows : pool.reserveA.toNat * pool.reserveB.toNat ≤
      (shiftReserve pool.reserveA deltaA).toNat * (shiftReserve pool.reserveB deltaB).toNat) :
    KeepsProduct sha256 store plan := by
  intro poolId dA dB member before found
  rw [shape] at member
  obtain rfl := mem_swap member
  obtain rfl : pool = before := Option.some.inj (held.symm.trans found)
  have others : ∀ op ∈ [ObjectOperation.debitBalance own amount, .creditBalance other output],
      op.swaps = false := by
    intro op listed
    simp only [List.mem_cons, List.not_mem_nil, or_false] at listed
    rcases listed with rfl | rfl <;> rfl
  have reserves : (store.cell pool.id).reserves = some (pool.reserveA, pool.reserveB) :=
    congrArg (Option.map fun pool : LiquidityPoolObject => (pool.reserveA, pool.reserveB)) held
  have settled := reserves_applyPlan sha256 shape others store
  rw [reserves, Option.map_some] at settled
  rcases settled with kept | moved
  · obtain ⟨after, there, same⟩ := Option.map_eq_some_iff.1 kept
    obtain ⟨sameA, sameB⟩ := Prod.mk.inj same
    exact ⟨after, there, by rw [sameA, sameB]⟩
  · obtain ⟨after, there, same⟩ := Option.map_eq_some_iff.1 moved
    obtain ⟨sameA, sameB⟩ := Prod.mk.inj same
    exact ⟨after, there, by rw [sameA, sameB]; exact grows⟩

/-- A resolved swap goes through an allowed pool exactly when the first pool of the pair is one, and it costs
that pool nothing where the amount paid in fits. -/
theorem swap_allowed_and_paid (resolved : resolveSwap txId maxFee sender store caps s = .ok plan) :
    (StaysAllowed s plan ↔ FirstAllowed store s) ∧
      (InputFits store s → KeepsProduct sha256 store plan) := by
  obtain ⟨pool, own, other, output, eligible, direction⟩ := resolveSwap_quote resolved
  obtain ⟨held, -⟩ := ObjectStore.findPool_spec eligible
  obtain ⟨deltaA, deltaB, shape⟩ : ∃ deltaA deltaB, plan.operations =
      [.debitBalance own s.inputAmount, .creditBalance other output] ++
        [.swapPoolAmounts pool.id deltaA deltaB] := by
    rcases direction with ⟨-, -, shape⟩ | ⟨-, -, shape⟩
    · exact ⟨_, _, shape⟩
    · exact ⟨_, _, shape⟩
  constructor
  · constructor
    · intro stays ids allowed first found
      obtain rfl : pool = first := Option.some.inj (eligible.symm.trans found)
      exact stays ids allowed pool.id deltaA deltaB
        (by rw [shape]; exact List.mem_append_right _ (List.mem_singleton_self _))
    · intro first ids allowed poolId dA dB member
      rw [shape] at member
      rw [mem_swap member]
      exact first ids allowed pool eligible
  · intro fits
    obtain ⟨small, room⟩ := fits pool eligible
    rcases direction with ⟨inputIsA, quoted, shape⟩ | ⟨inputIsB, quoted, shape⟩
    · rw [if_pos inputIsA] at room
      have covered := ammOutput_le quoted
      rw [BitVec.le_def] at covered
      refine keepsProduct_of sha256 held shape ?_
      rw [shiftReserve_in small room]
      exact (product_le covered (ammOutput_within quoted)).trans
        (Nat.mul_le_mul_left _ (shiftReserve_out_ge covered))
    · rw [if_neg inputIsB] at room
      have covered := ammOutput_le quoted
      rw [BitVec.le_def] at covered
      refine keepsProduct_of sha256 held shape ?_
      rw [shiftReserve_in small room, Nat.mul_comm pool.reserveA.toNat, Nat.mul_comm _ (_ + _)]
      exact (product_le covered (ammOutput_within quoted)).trans
        (Nat.mul_le_mul_left _ (shiftReserve_out_ge covered))

end Claims

section Samples

def smallSwap : SwapIntent :=
  { inputAsset := 3, outputAsset := 4, inputAmount := 100, minOutputAmount := 80, maxSlippageBps := 500
    allowedPoolIds := none }

theorem small_swap_keeps_product : KeepsProduct (fun _ => 0) market swapPlan := by
  have resolved : resolveSwap 1 100 7 market .userDefault smallSwap = .ok swapPlan := rfl
  refine (swap_allowed_and_paid (fun _ => 0) resolved).2 ?_
  intro pool found
  have reserves : (market.findPool 3 4).map (fun pool => (pool.assetA, pool.reserveA)) =
      some (3, 1000) := by decide +kernel
  have found : market.findPool 3 4 = some pool := found
  rw [found] at reserves
  obtain ⟨asset, reserve⟩ := Prod.mk.inj (Option.some.inj reserves)
  have asset : pool.assetA = smallSwap.inputAsset := asset
  rw [if_pos asset, reserve]
  exact ⟨by decide, by decide⟩

def pairPool (id : ObjectId) (reserveA : U128) : BoxedObject :=
  .pool { info := .new id .liquidityPool 9 0, assetA := 3, assetB := 4, reserveA, reserveB := 1000
          feeBps := 0, lpTokenId := 8, totalLpSupply := 1000 }

def twoPools : ObjectStore :=
  (((ObjectStore.new.insert (.balance (.new 1 7 3 0x80000000000000000000000000000000 0))).insert
    (.balance (.new 2 7 4 0 0))).insert (pairPool 5 0x80000000000000000000000000000000)).insert (pairPool 6 1000)

def hugeSwap : SwapIntent :=
  { inputAsset := 3, outputAsset := 4, inputAmount := 0x80000000000000000000000000000000, minOutputAmount := 1, maxSlippageBps := 500
    allowedPoolIds := some [6] }

def hugePlan : ExecutionPlan :=
  planOf 1 100 [.swapAsset]
    [.debitBalance 1 0x80000000000000000000000000000000, .creditBalance 2 500, .swapPoolAmounts 5 0x80000000000000000000000000000000 (-500)]
    [.write 1, .write 2, .write 5]

/-- The swap that allows pool 6 alone goes through pool 5, and what is paid in is taken out. -/
theorem forbidden_pool_emptied :
    (someIntent (.swap hugeSwap)).validate = .ok () ∧
      resolveSwap 1 100 7 twoPools .userDefault hugeSwap = .ok hugePlan ∧
      ¬ StaysAllowed hugeSwap hugePlan ∧ ¬ KeepsProduct (fun _ => 0) twoPools hugePlan := by
  have listed : .swapPoolAmounts 5 0x80000000000000000000000000000000 (-500) ∈ hugePlan.operations :=
    List.mem_cons_of_mem _ (List.mem_cons_of_mem _ List.mem_cons_self)
  refine ⟨rfl, rfl, fun stays => ?_, fun keeps => ?_⟩
  · exact absurd (stays [6] rfl 5 _ _ listed) (by decide)
  · have present : (twoPools.getPoolById 5).map (fun pool => (pool.reserveA, pool.reserveB)) =
        some (0x80000000000000000000000000000000, 1000) := by decide +kernel
    have emptied : ((applyPlan (fun _ => 0) hugePlan twoPools).2.getPoolById 5).map
        (fun pool => pool.reserveA) = some 0 := by decide +kernel
    obtain ⟨before, found, reserves⟩ := Option.map_eq_some_iff.1 present
    obtain ⟨reserveA, reserveB⟩ := Prod.mk.inj reserves
    obtain ⟨after, there, product⟩ := keeps 5 _ _ listed before found
    rw [there] at emptied
    have nothing : after.reserveA.toNat = 0 := congrArg BitVec.toNat (Option.some.inj emptied)
    rw [nothing, Nat.zero_mul, reserveA, reserveB] at product
    exact absurd product (by decide +kernel)

end Samples

end IntentResolver

end Omniphi.Runtime
