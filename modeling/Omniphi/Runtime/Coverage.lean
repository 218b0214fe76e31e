import Omniphi.Lib.Run
import Omniphi.Runtime.Cells
import Omniphi.Runtime.ScheduleOrder

/-! Locked funds stay covered as long as no debit or lock exceeds what is available when it is
applied. The check before the plan only compares each of them with the balance as it stood then. -/

namespace Omniphi.Runtime

def BalanceObject.Covers (balance : BalanceObject) : Prop := balance.lockedAmount ≤ balance.amount

/-- Every balance, in the overlay or in the canonical map, covers what is locked of it. -/
def ObjectStore.LocksCovered (store : ObjectStore) : Prop :=
  (∀ id balance, store.getBalanceById id = some balance → balance.Covers) ∧
  ∀ id balance, store.get id = some (.balance balance) → balance.Covers

def Cell.LocksCovered (cell : Cell) : Prop :=
  (∀ balance, cell.balance = some balance → balance.Covers) ∧
  ∀ balance, cell.object = some (.balance balance) → balance.Covers

theorem ObjectStore.locksCovered_iff {store : ObjectStore} :
    store.LocksCovered ↔ ∀ id, (store.cell id).LocksCovered := by
  constructor
  · intro covered id
    exact ⟨covered.1 id, covered.2 id⟩
  · intro covered
    exact ⟨fun id => (covered id).1, fun id => (covered id).2⟩

namespace Cell.LocksCovered

variable {cell : Cell}

theorem modifyBalance (covered : cell.LocksCovered) {change : BalanceObject → BalanceObject}
    (keeps : ∀ balance, cell.balance = some balance → (change balance).Covers) :
    (cell.modifyBalance change).LocksCovered := by
  refine ⟨?_, covered.2⟩
  intro balance found
  obtain ⟨old, held, rfl⟩ := Option.map_eq_some_iff.1 found
  exact keeps old held

theorem bump (covered : cell.LocksCovered) : cell.bump.LocksCovered := by
  constructor
  · intro balance found
    obtain ⟨old, held, rfl⟩ := Option.map_eq_some_iff.1 found
    exact covered.1 old held
  · intro balance found
    obtain ⟨old, held, same⟩ := Option.map_eq_some_iff.1 found
    cases old with
    | balance old =>
        obtain rfl := BoxedObject.balance.inj same
        exact covered.2 old held
    | _ => cases same

theorem sync (covered : cell.LocksCovered) : cell.sync.LocksCovered := by
  refine ⟨covered.1, ?_⟩
  intro balance found
  obtain ⟨old, held, same⟩ := Option.map_eq_some_iff.1 found
  rcases cell with ⟨object, held', pool, vault⟩
  cases vault with
  | some vault => cases same
  | none =>
      cases pool with
      | some pool => cases same
      | none =>
          cases held' with
          | some held' =>
              obtain rfl := BoxedObject.balance.inj same
              exact covered.1 held' rfl
          | none =>
              obtain rfl : old = .balance balance := same
              exact covered.2 balance held

end Cell.LocksCovered

namespace SettlementEngine

variable (sha256 : Sha256)

def IsBalanceOp : ObjectOperation → Prop
  | .debitBalance .. | .creditBalance .. | .lockBalance .. | .unlockBalance .. => True
  | _ => False

def Within (store : ObjectStore) : ObjectOperation → Prop
  | .debitBalance balanceId amount | .lockBalance balanceId amount =>
      ∀ balance, store.getBalanceById balanceId = some balance → amount ≤ balance.available
  | _ => True

/-- Each operation that is applied stays within what is available at that moment. -/
def AppliesWithin : List ObjectOperation → ObjectStore → Prop
  | [], _ => True
  | op :: ops, store => Within store op ∧
      ∀ next affected, applyOp sha256 store [] op = .ok (next, affected) → AppliesWithin ops next

def SettlesWithin (store : ObjectStore) (plan : ExecutionPlan) : Prop :=
  Refused plan store ∨ AppliesWithin sha256 plan.operations store

theorem locksCovered_applyCell {store : ObjectStore} {next : Cell} {op : ObjectOperation}
    (balanceOp : IsBalanceOp op) (covered : (store.cell (op.target sha256)).LocksCovered)
    (within : Within store op)
    (applied : applyCell sha256 (store.cell (op.target sha256)) op = .ok next) :
    next.LocksCovered := by
  cases op with
  | debitBalance balanceId amount =>
      obtain ⟨balance, found, applied⟩ := bind_ok.1 applied
      rw [orNotFound_ok] at found
      split at applied
      · rename_i rest left
        cases applied
        apply covered.modifyBalance
        intro old held
        obtain rfl : balance = old := Option.some.inj (found.symm.trans held)
        have enough := within balance held
        have covers := covered.1 balance held
        rw [MachineInt.checkedSub_eq_some] at left
        simp only [BalanceObject.Covers, BitVec.le_def, BalanceObject.available,
          MachineInt.toNat_saturatingSub] at covers enough ⊢
        omega
      · cases applied
  | creditBalance balanceId amount =>
      obtain ⟨balance, found, applied⟩ := bind_ok.1 applied
      cases applied
      apply covered.modifyBalance
      intro old held
      have covers := covered.1 old held
      have bound := old.lockedAmount.isLt
      simp only [BalanceObject.Covers, BitVec.le_def, MachineInt.toNat_saturatingAdd] at covers ⊢
      omega
  | lockBalance balanceId amount =>
      obtain ⟨balance, found, applied⟩ := bind_ok.1 applied
      cases applied
      apply covered.modifyBalance
      intro old held
      have enough := within old held
      have covers := covered.1 old held
      simp only [BalanceObject.Covers, BitVec.le_def, BalanceObject.available,
        MachineInt.toNat_saturatingSub, MachineInt.toNat_saturatingAdd] at covers enough ⊢
      omega
  | unlockBalance balanceId amount =>
      obtain ⟨balance, found, applied⟩ := bind_ok.1 applied
      rw [orNotFound_ok] at found
      split at applied
      · rename_i rest left
        cases applied
        apply covered.modifyBalance
        intro old held
        obtain rfl : balance = old := Option.some.inj (found.symm.trans held)
        have covers := covered.1 balance held
        rw [MachineInt.checkedSub_eq_some] at left
        simp only [BalanceObject.Covers, BitVec.le_def] at covers ⊢
        omega
      · cases applied
  | _ => exact balanceOp.elim

theorem locksCovered_applyOps {ops : List ObjectOperation} (balanceOps : ∀ op ∈ ops, IsBalanceOp op)
    {store : ObjectStore} (covered : ∀ id, (store.cell id).LocksCovered)
    (within : AppliesWithin sha256 ops store) (affected : List ObjectId) :
    ∀ id, ((applyOps sha256 store affected ops).1.cell id).LocksCovered := by
  induction ops generalizing store affected with
  | nil => exact covered
  | cons op ops ih =>
      have step := applyOp_cell sha256 store [] op
      rw [applyOps, applyOp_affected]
      cases effect : applyCell sha256 (store.cell (op.target sha256)) op with
      | error e =>
          rw [effect] at step
          rw [step]
          exact covered
      | ok cell =>
          rw [effect] at step
          obtain ⟨next, applied, cells⟩ := step
          rw [applied]
          refine ih (fun other member => balanceOps other (List.mem_cons_of_mem _ member)) ?_
            (within.2 next _ applied) _
          intro id
          rw [cells]
          by_cases here : id = op.target sha256
          · subst here
            rw [Function.update_self]
            exact locksCovered_applyCell sha256 (balanceOps op List.mem_cons_self) (covered _)
              within.1 effect
          · rw [Function.update_of_ne here]
            exact covered id

theorem locksCovered_applyPlan {plan : ExecutionPlan}
    (balanceOps : ∀ op ∈ plan.operations, IsBalanceOp op) {store : ObjectStore}
    (covered : store.LocksCovered) (within : SettlesWithin sha256 store plan) :
    (applyPlan sha256 plan store).2.LocksCovered := by
  rw [ObjectStore.locksCovered_iff] at covered ⊢
  rcases applyPlan_cases sha256 plan store with ⟨-, -, same⟩ | ⟨accepted, settled⟩
  · rwa [same]
  · have applied := locksCovered_applyOps sha256 balanceOps covered (within.resolve_left accepted) []
    rcases settled with ⟨after, e, ran, -, left⟩ | ⟨after, affected, ran, -, left⟩
    · rw [left]
      rwa [ran] at applied
    · intro id
      rw [left, ObjectStore.cell_sync]
      rw [ran] at applied
      exact (foldl_bumpVersion_forall (P := fun _ cell => cell.LocksCovered)
        (fun _ _ covered => covered.bump) _ applied id).sync

section Overdrawn

def account : ObjectStore := ObjectStore.new.insert (.balance (.new 1 2 3 100 0))

def onAccount (operations : List ObjectOperation) : ExecutionPlan :=
  { txId := 7, operations, requiredCapabilities := [], objectAccess := [.write 1], gasEstimate := 0
    gasLimit := 100000 }

theorem locksCovered_account : account.LocksCovered := by
  have covers : (BalanceObject.new 1 2 3 100 0).Covers := by
    unfold BalanceObject.Covers
    decide
  constructor
  · intro id balance found
    rw [show account.getBalanceById id = _ from KeyedMap.get?_insert _ _ id] at found
    split at found
    · obtain rfl := Option.some.inj found
      exact covers
    · simp [ObjectStore.new] at found
  · intro id balance found
    rw [show account.get id = _ from KeyedMap.get?_insert _ _ id] at found
    split at found
    · obtain rfl := BoxedObject.balance.inj (Option.some.inj found)
      exact covers
    · simp [ObjectStore.new] at found

def lockAndDebit : ExecutionPlan := onAccount [.lockBalance 1 40, .debitBalance 1 60]

theorem settlesWithin_lockAndDebit : SettlesWithin (fun _ => 0) account lockAndDebit := by
  have available {store : ObjectStore} {amount : U128} (rest : U128) (enough : amount ≤ rest)
      (left : (store.getBalanceById 1).map BalanceObject.available = some rest) :
      ∀ balance, store.getBalanceById 1 = some balance → amount ≤ balance.available := by
    intro balance found
    rw [found] at left
    exact Option.some.inj left ▸ enough
  refine .inr ⟨available 100 (by decide) (by decide +kernel), ?_⟩
  intro next affected applied
  have locked : next = account.modifyBalance 1 (fun balance =>
      { balance with lockedAmount := MachineInt.saturatingAdd balance.lockedAmount 40 }) fun _ => rfl :=
    (Prod.mk.inj (Except.ok.inj applied)).1.symm
  refine ⟨available 60 (by decide) ?_, fun _ _ _ => trivial⟩
  rw [locked]
  decide +kernel

end Overdrawn

end SettlementEngine

end Omniphi.Runtime
