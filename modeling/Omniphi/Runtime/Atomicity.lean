import Omniphi.Runtime.Cells

/-! When a plan settles all-or-nothing. Every operation is checked against the store before the plan,
so operations on one object can pass one by one and fail in sequence, after earlier ones have been
applied. -/

namespace Omniphi.Runtime.SettlementEngine

variable (sha256 : Sha256)

/-- What an operation needs at the moment it is applied. -/
def Covered (store : ObjectStore) : ObjectOperation → Prop
  | .debitBalance balanceId amount =>
      ∃ balance, store.getBalanceById balanceId = some balance ∧ amount ≤ balance.amount
  | .creditBalance balanceId _ => ∃ balance, store.getBalanceById balanceId = some balance
  | .swapPoolAmounts poolId _ _ => ∃ pool, store.getPoolById poolId = some pool
  | .lockBalance balanceId _ => ∃ balance, store.getBalanceById balanceId = some balance
  | .unlockBalance balanceId amount =>
      ∃ balance, store.getBalanceById balanceId = some balance ∧ amount ≤ balance.lockedAmount
  | .transferOwnership objectId _ => ∃ object, store.get objectId = some object
  | .contractStateTransition contractId _ _ =>
      ∃ contract, store.get contractId = some (.contract contract)
  | _ => True

theorem applyOp_ok_iff (store : ObjectStore) (affected : List ObjectId) (op : ObjectOperation) :
    (∃ result, applyOp sha256 store affected op = .ok result) ↔ Covered store op := by
  cases op with
  | debitBalance balanceId amount =>
      simp only [applyOp, Covered, bind_ok, orNotFound_ok]
      cases found : store.getBalanceById balanceId with
      | none => simp
      | some balance =>
          simp only [Option.some.injEq, exists_eq_left']
          cases left : MachineInt.checkedSub balance.amount amount with
          | none =>
              rw [MachineInt.checkedSub_eq_none] at left
              simpa [throw, throwThe, MonadExceptOf.throw, BitVec.le_def] using left
          | some rest =>
              rw [MachineInt.checkedSub_eq_some] at left
              simpa [pure, Except.pure, BitVec.le_def] using left.1
  | unlockBalance balanceId amount =>
      simp only [applyOp, Covered, bind_ok, orNotFound_ok]
      cases found : store.getBalanceById balanceId with
      | none => simp
      | some balance =>
          simp only [Option.some.injEq, exists_eq_left']
          cases left : MachineInt.checkedSub balance.lockedAmount amount with
          | none =>
              rw [MachineInt.checkedSub_eq_none] at left
              simpa [throw, throwThe, MonadExceptOf.throw, BitVec.le_def] using left
          | some rest =>
              rw [MachineInt.checkedSub_eq_some] at left
              simpa [pure, Except.pure, BitVec.le_def] using left.1
  | creditBalance balanceId amount | lockBalance balanceId amount =>
      simp [applyOp, Covered, bind_ok, orNotFound_ok, pure, Except.pure]
  | swapPoolAmounts poolId deltaA deltaB =>
      simp [applyOp, Covered, bind_ok, orNotFound_ok, pure, Except.pure]
  | transferOwnership objectId newOwner =>
      simp [applyOp, Covered, bind_ok, orNotFound_ok, pure, Except.pure]
  | contractStateTransition contractId schemaId proposedState =>
      simp only [applyOp, Covered, bind_ok, orNotFound_ok]
      cases found : store.get contractId with
      | none => simp
      | some object =>
          simp only [Option.some.injEq, exists_eq_left', ← asContract_eq_some]
          cases object.asContract <;> simp [throw, throwThe, MonadExceptOf.throw, pure, Except.pure]
  | _ => simp [applyOp, Covered, pure, Except.pure]

section Clean

/-- If an operation turns out not to be covered, those before it have left the store at `start`. -/
def SettlesClean (start : ObjectStore) : List ObjectOperation → ObjectStore → Prop
  | [], _ => True
  | op :: ops, store => (¬ Covered store op → store = start) ∧
      ∀ next affected, applyOp sha256 store [] op = .ok (next, affected) → SettlesClean start ops next

def AllOrNothing (plan : ExecutionPlan) (store : ObjectStore) : Prop :=
  (applyPlan sha256 plan store).1.success = false → (applyPlan sha256 plan store).2 = store

theorem settlesClean_iff (start store : ObjectStore) (affected : List ObjectId)
    (ops : List ObjectOperation) :
    ((∃ e, (applyOps sha256 store affected ops).2 = .error e) →
      (applyOps sha256 store affected ops).1 = start) ↔ SettlesClean sha256 start ops store := by
  induction ops generalizing store affected with
  | nil => simp [applyOps, SettlesClean]
  | cons op ops ih =>
      rw [applyOps, SettlesClean, applyOp_affected]
      have covered := applyOp_ok_iff sha256 store [] op
      cases applied : applyOp sha256 store [] op with
      | error e =>
          have uncovered : ¬ Covered store op := by
            rw [← covered, applied]
            simp
          simp [Except.map, uncovered]
      | ok result =>
          have covers : Covered store op := covered.1 ⟨result, applied⟩
          obtain ⟨next, ids⟩ := result
          simp only [Except.map, ih, covers, not_true_eq_false, false_implies, true_and]
          constructor
          · rintro clean other others same
            obtain ⟨rfl, rfl⟩ := Prod.mk.inj (Except.ok.inj same)
            exact clean
          · intro clean
            exact clean next ids rfl

end Clean

section Overdrawn

def hundred : ObjectStore := ObjectStore.new.insert (.balance (.new 1 2 3 100 0))

def debitTwice : ExecutionPlan :=
  { txId := 7, operations := [.debitBalance 1 100, .debitBalance 1 100], requiredCapabilities := []
    objectAccess := [.write 1], gasEstimate := 0, gasLimit := 100000 }

end Overdrawn

end Omniphi.Runtime.SettlementEngine
