import Omniphi.Lib.Run
import Omniphi.Basic

/-! The fee lifecycle of one intent, from reservation to its close, with an account of where the
reserved amount went. -/

namespace Omniphi.PoSeq

open MachineInt

inductive FeeLifecycleState
  | rejected (reason : String)
  | pendingReservation
  | reserved (payer : Bytes32) (maxPoseqFee maxRuntimeFee totalReserved : U128) (reservedAtBlock : U64)
  | sequencingCharged (payer : Bytes32) (poseqFeeCharged runtimeBudgetRemaining : U128)
      (chargedAtBlock : U64)
  | runtimeCharged (payer : Bytes32) (poseqFeeCharged runtimeFeeCharged totalCharged pendingRefund : U128)
      (chargedAtBlock : U64)
  | expired (payer : Bytes32) (penalty pendingRefund : U128) (expiredAtBlock : U64)
  | cancelled (payer : Bytes32) (pendingRefund : U128) (cancelledAtBlock : U64)
  | refunded (payer : Bytes32) (totalCharged totalRefunded : U128) (refundedAtBlock : U64)
  | closed (payer : Bytes32) (totalCharged totalRefunded : U128) (closedAtBlock : U64)
deriving DecidableEq

namespace FeeLifecycleState

def isTerminal : FeeLifecycleState → Bool
  | closed .. | rejected _ => true
  | _ => false

def name : FeeLifecycleState → String
  | rejected _ => "Rejected"
  | pendingReservation => "PendingReservation"
  | reserved .. => "Reserved"
  | sequencingCharged .. => "SequencingCharged"
  | runtimeCharged .. => "RuntimeCharged"
  | expired .. => "Expired"
  | cancelled .. => "Cancelled"
  | refunded .. => "Refunded"
  | closed .. => "Closed"

/-- What a state still holds of the reservation or owes as a refund. -/
def outstanding : FeeLifecycleState → Nat
  | reserved _ _ _ totalReserved _ => totalReserved.toNat
  | sequencingCharged _ _ runtimeBudgetRemaining _ => runtimeBudgetRemaining.toNat
  | runtimeCharged _ _ _ _ pendingRefund _ | expired _ _ pendingRefund _
  | cancelled _ pendingRefund _ => pendingRefund.toNat
  | rejected _ | pendingReservation | refunded .. | closed .. => 0

end FeeLifecycleState

structure FeeTransitionRecord where
  origin : String
  target : String
  block : U64
deriving DecidableEq

inductive FeeLifecycleError
  | invalidTransition (origin target : String)
  | alreadyClosed
  | insufficientBudget (required available : U128)
  | underflow (field : String)
deriving DecidableEq

structure FeeLifecycle where
  intentId : Bytes32
  state : FeeLifecycleState
  transitions : List FeeTransitionRecord
deriving DecidableEq

namespace FeeLifecycle

def new (intentId : Bytes32) : FeeLifecycle := { intentId, state := .pendingReservation, transitions := [] }

def enter (lifecycle : FeeLifecycle) (state : FeeLifecycleState) (block : U64) : FeeLifecycle :=
  { lifecycle with
    state
    transitions := lifecycle.transitions ++ [⟨lifecycle.state.name, state.name, block⟩] }

def invalid {α : Type} (lifecycle : FeeLifecycle) (target : String) :
    Except FeeLifecycleError α × FeeLifecycle :=
  (.error (.invalidTransition lifecycle.state.name target), lifecycle)

def reject (lifecycle : FeeLifecycle) (reason : String) :
    Except FeeLifecycleError Unit × FeeLifecycle :=
  if lifecycle.state.isTerminal then (.error .alreadyClosed, lifecycle)
  else (.ok (), lifecycle.enter (.rejected reason) 0)

def reserve (lifecycle : FeeLifecycle) (payer : Bytes32) (maxPoseqFee maxRuntimeFee : U128)
    (block : U64) : Except FeeLifecycleError U128 × FeeLifecycle :=
  match lifecycle.state with
  | .pendingReservation =>
      match checkedAdd maxPoseqFee maxRuntimeFee with
      | none => (.error (.underflow "total_reserved"), lifecycle)
      | some total =>
          (.ok total, lifecycle.enter (.reserved payer maxPoseqFee maxRuntimeFee total block) block)
  | _ => lifecycle.invalid "Reserved"

def chargeSequencing (lifecycle : FeeLifecycle) (poseqFee : U128) (block : U64) :
    Except FeeLifecycleError Unit × FeeLifecycle :=
  match lifecycle.state with
  | .reserved payer maxPoseqFee maxRuntimeFee _ _ =>
      if maxPoseqFee < poseqFee then (.error (.insufficientBudget poseqFee maxPoseqFee), lifecycle)
      else (.ok (), lifecycle.enter (.sequencingCharged payer poseqFee maxRuntimeFee block) block)
  | _ => lifecycle.invalid "SequencingCharged"

def chargeRuntime (lifecycle : FeeLifecycle) (runtimeFee : U128) (block : U64) :
    Except FeeLifecycleError U128 × FeeLifecycle :=
  match lifecycle.state with
  | .sequencingCharged payer poseqFeeCharged runtimeBudgetRemaining _ =>
      let actualRuntime := least runtimeFee runtimeBudgetRemaining
      let totalCharged := saturatingAdd poseqFeeCharged actualRuntime
      let pendingRefund := saturatingSub runtimeBudgetRemaining actualRuntime
      (.ok pendingRefund, lifecycle.enter
        (.runtimeCharged payer poseqFeeCharged actualRuntime totalCharged pendingRefund block) block)
  | _ => lifecycle.invalid "RuntimeCharged"

def expire (lifecycle : FeeLifecycle) (penalty : U128) (block : U64) :
    Except FeeLifecycleError U128 × FeeLifecycle :=
  match lifecycle.state with
  | .reserved payer _ _ totalReserved _ =>
      let actualPenalty := least penalty totalReserved
      let pendingRefund := saturatingSub totalReserved actualPenalty
      (.ok pendingRefund, lifecycle.enter (.expired payer actualPenalty pendingRefund block) block)
  | .sequencingCharged payer poseqFeeCharged runtimeBudgetRemaining _ =>
      let actualPenalty := least penalty runtimeBudgetRemaining
      let pendingRefund := saturatingSub runtimeBudgetRemaining actualPenalty
      let totalPenalty := saturatingAdd poseqFeeCharged actualPenalty
      (.ok pendingRefund, lifecycle.enter (.expired payer totalPenalty pendingRefund block) block)
  | _ => lifecycle.invalid "Expired"

def cancel (lifecycle : FeeLifecycle) (block : U64) : Except FeeLifecycleError U128 × FeeLifecycle :=
  match lifecycle.state with
  | .reserved payer _ _ totalReserved _ =>
      (.ok totalReserved, lifecycle.enter (.cancelled payer totalReserved block) block)
  | _ => lifecycle.invalid "Cancelled"

def issueRefund (lifecycle : FeeLifecycle) (block : U64) :
    Except FeeLifecycleError U128 × FeeLifecycle :=
  let issue (payer : Bytes32) (totalCharged totalRefunded : U128) :=
    (.ok totalRefunded, lifecycle.enter (.refunded payer totalCharged totalRefunded block) block)
  match lifecycle.state with
  | .runtimeCharged payer _ _ totalCharged pendingRefund _ => issue payer totalCharged pendingRefund
  | .expired payer penalty pendingRefund _ => issue payer penalty pendingRefund
  | .cancelled payer pendingRefund _ => issue payer 0 pendingRefund
  | _ => lifecycle.invalid "Refunded"

def close (lifecycle : FeeLifecycle) (block : U64) : Except FeeLifecycleError Unit × FeeLifecycle :=
  match lifecycle.state with
  | .refunded payer totalCharged totalRefunded _ =>
      (.ok (), lifecycle.enter (.closed payer totalCharged totalRefunded block) block)
  | .rejected _ => (.ok (), lifecycle)
  | _ => lifecycle.invalid "Closed"

inductive Call
  | reserve (payer : Bytes32) (maxPoseqFee maxRuntimeFee : U128) (block : U64)
  | chargeSequencing (poseqFee : U128) (block : U64)
  | chargeRuntime (runtimeFee : U128) (block : U64)
  | expire (penalty : U128) (block : U64)
  | cancel (block : U64)
  | issueRefund (block : U64)
  | close (block : U64)
  | reject (reason : String)

/-- Where the reservation went, beside the lifecycle: the reserved total, what was charged or kept as a
penalty, and what was refunded. -/
structure Account where
  lifecycle : FeeLifecycle
  reserved : Option U128
  charged : Nat
  refunded : Nat

namespace Account

def start (intentId : Bytes32) : Account := ⟨.new intentId, none, 0, 0⟩

/-- A call on the lifecycle. What it charges is the fee, or the part of it or of the penalty that the
remaining budget covers. -/
def step (account : Account) : Call → Account
  | .reserve payer maxPoseqFee maxRuntimeFee block =>
      match account.lifecycle.reserve payer maxPoseqFee maxRuntimeFee block with
      | (.ok total, lifecycle) => { account with lifecycle, reserved := some total }
      | (.error _, lifecycle) => { account with lifecycle }
  | .chargeSequencing poseqFee block =>
      match account.lifecycle.chargeSequencing poseqFee block with
      | (.ok _, lifecycle) => { account with lifecycle, charged := account.charged + poseqFee.toNat }
      | (.error _, lifecycle) => { account with lifecycle }
  | .chargeRuntime runtimeFee block =>
      match account.lifecycle.chargeRuntime runtimeFee block with
      | (.ok _, lifecycle) =>
          { account with
            lifecycle
            charged := account.charged + min runtimeFee.toNat account.lifecycle.state.outstanding }
      | (.error _, lifecycle) => { account with lifecycle }
  | .expire penalty block =>
      match account.lifecycle.expire penalty block with
      | (.ok _, lifecycle) =>
          { account with
            lifecycle
            charged := account.charged + min penalty.toNat account.lifecycle.state.outstanding }
      | (.error _, lifecycle) => { account with lifecycle }
  | .cancel block => { account with lifecycle := (account.lifecycle.cancel block).2 }
  | .issueRefund block =>
      match account.lifecycle.issueRefund block with
      | (.ok refund, lifecycle) =>
          { account with lifecycle, refunded := account.refunded + refund.toNat }
      | (.error _, lifecycle) => { account with lifecycle }
  | .close block => { account with lifecycle := (account.lifecycle.close block).2 }
  | .reject reason => { account with lifecycle := (account.lifecycle.reject reason).2 }

/-- After a reservation everything reserved is charged, refunded or outstanding, and a closed lifecycle
names the two parts. -/
def Conserved (account : Account) : Prop :=
  ∀ total, account.reserved = some total →
    account.charged + account.refunded + account.lifecycle.state.outstanding = total.toNat ∧
    ∀ payer totalCharged totalRefunded block,
      account.lifecycle.state = .closed payer totalCharged totalRefunded block →
      totalCharged.toNat + totalRefunded.toNat = total.toNat

/-- A call conserves the reservation and does not end a lifecycle that holds some of it as rejected. -/
def Conserves (account : Account) (call : Call) : Prop :=
  (account.step call).Conserved ∧
    ∀ reason, account.lifecycle.state.isTerminal = false → 0 < account.lifecycle.state.outstanding →
      (account.step call).lifecycle.state ≠ .rejected reason

/-- A sequencing fee below its maximum leaves the rest of that budget out of the next state, and a
rejection drops all that is held. -/
def Whole (account : Account) : Call → Prop
  | .chargeSequencing poseqFee _ =>
      ∀ payer maxPoseqFee maxRuntimeFee total block,
        account.lifecycle.state = .reserved payer maxPoseqFee maxRuntimeFee total block →
        maxPoseqFee ≤ poseqFee
  | .reject _ => account.lifecycle.state.outstanding = 0
  | _ => True

def Kept (account : Account) : Prop :=
  match account.lifecycle.state, account.reserved with
  | .pendingReservation, none => account.charged = 0 ∧ account.refunded = 0
  | .rejected _, none => True
  | .rejected _, some total => account.charged + account.refunded = total.toNat
  | .reserved _ maxPoseqFee maxRuntimeFee totalReserved _, some total =>
      totalReserved.toNat = total.toNat ∧ maxPoseqFee.toNat + maxRuntimeFee.toNat = total.toNat ∧
        account.charged = 0 ∧ account.refunded = 0
  | .sequencingCharged _ poseqFeeCharged remaining _, some total =>
      account.charged = poseqFeeCharged.toNat ∧ account.refunded = 0 ∧
        poseqFeeCharged.toNat + remaining.toNat = total.toNat
  | .runtimeCharged _ _ _ totalCharged pendingRefund _, some total =>
      account.charged = totalCharged.toNat ∧ account.refunded = 0 ∧
        totalCharged.toNat + pendingRefund.toNat = total.toNat
  | .expired _ penalty pendingRefund _, some total =>
      account.charged = penalty.toNat ∧ account.refunded = 0 ∧
        penalty.toNat + pendingRefund.toNat = total.toNat
  | .cancelled _ pendingRefund _, some total =>
      account.charged = 0 ∧ account.refunded = 0 ∧ pendingRefund.toNat = total.toNat
  | .refunded _ totalCharged totalRefunded _, some total
  | .closed _ totalCharged totalRefunded _, some total =>
      account.charged = totalCharged.toNat ∧ account.refunded = totalRefunded.toNat ∧
        totalCharged.toNat + totalRefunded.toNat = total.toNat
  | _, _ => False

section Steps

variable {account : Account}

theorem conserved_of_kept (kept : Kept account) : Conserved account := by
  intro total reserved
  unfold Kept at kept
  rw [reserved] at kept
  cases state : account.lifecycle.state <;> simp only [state] at kept <;>
    simp only [FeeLifecycleState.outstanding]
  case closed =>
    refine ⟨by omega, fun payer totalCharged totalRefunded block same => ?_⟩
    cases same
    exact kept.2.2
  all_goals exact ⟨by omega, nofun⟩

theorem kept_reserve (kept : Kept account) (payer : Bytes32) (maxPoseqFee maxRuntimeFee : U128)
    (block : U64) : Kept (account.step (.reserve payer maxPoseqFee maxRuntimeFee block)) := by
  cases state : account.lifecycle.state <;> simp only [step, reserve, state, invalid]
  case pendingReservation =>
    cases fits : checkedAdd maxPoseqFee maxRuntimeFee with
    | none => exact kept
    | some total =>
        have sum : maxPoseqFee.toNat + maxRuntimeFee.toNat = total.toNat := by
          unfold checkedAdd at fits
          split at fits
          · rename_i small
            cases fits
            rw [BitVec.toNat_add, Nat.mod_eq_of_lt small]
          · cases fits
        unfold Kept at kept
        cases reserved : account.reserved <;> simp only [state, reserved] at kept
        exact ⟨rfl, sum, kept.1, kept.2⟩
  all_goals exact kept

theorem kept_chargeSequencing (kept : Kept account) {poseqFee : U128} {block : U64}
    (whole : account.Whole (.chargeSequencing poseqFee block)) :
    Kept (account.step (.chargeSequencing poseqFee block)) := by
  cases state : account.lifecycle.state <;> simp only [step, chargeSequencing, state, invalid]
  case reserved payer maxPoseqFee maxRuntimeFee total since =>
    have exact : maxPoseqFee.toNat ≤ poseqFee.toNat := whole _ _ _ _ _ state
    by_cases above : maxPoseqFee < poseqFee
    · rw [if_pos above]
      exact kept
    · rw [if_neg above]
      rw [BitVec.lt_def] at above
      unfold Kept at kept
      cases reserved : account.reserved <;> simp only [state, reserved] at kept
      simp only [Kept, enter]
      omega
  all_goals exact kept

theorem kept_chargeRuntime (kept : Kept account) (runtimeFee : U128) (block : U64) :
    Kept (account.step (.chargeRuntime runtimeFee block)) := by
  cases state : account.lifecycle.state <;> simp only [step, chargeRuntime, state, invalid]
  case sequencingCharged payer poseqFeeCharged remaining since =>
    unfold Kept at kept
    cases reserved : account.reserved with
    | none => simp only [state, reserved] at kept
    | some total =>
        have bound := total.isLt
        simp only [state, reserved] at kept
        simp only [Kept, enter, FeeLifecycleState.outstanding, toNat_saturatingAdd,
          toNat_saturatingSub, toNat_least]
        omega
  all_goals exact kept

theorem kept_expire (kept : Kept account) (penalty : U128) (block : U64) :
    Kept (account.step (.expire penalty block)) := by
  cases state : account.lifecycle.state <;> simp only [step, expire, state, invalid]
  case reserved payer maxPoseqFee maxRuntimeFee total since =>
    unfold Kept at kept
    cases reserved : account.reserved <;> simp only [state, reserved] at kept
    simp only [Kept, enter, FeeLifecycleState.outstanding, toNat_saturatingSub, toNat_least]
    omega
  case sequencingCharged payer poseqFeeCharged remaining since =>
    unfold Kept at kept
    cases reserved : account.reserved with
    | none => simp only [state, reserved] at kept
    | some total =>
        have bound := total.isLt
        simp only [state, reserved] at kept
        simp only [Kept, enter, FeeLifecycleState.outstanding, toNat_saturatingAdd,
          toNat_saturatingSub, toNat_least]
        omega
  all_goals exact kept

theorem kept_cancel (kept : Kept account) (block : U64) : Kept (account.step (.cancel block)) := by
  cases state : account.lifecycle.state <;> simp only [step, cancel, state, invalid]
  case reserved payer maxPoseqFee maxRuntimeFee total since =>
    unfold Kept at kept
    cases reserved : account.reserved <;> simp only [state, reserved] at kept
    simp only [Kept, enter]
    omega
  all_goals exact kept

theorem kept_issueRefund (kept : Kept account) (block : U64) :
    Kept (account.step (.issueRefund block)) := by
  cases state : account.lifecycle.state <;> simp only [step, issueRefund, state, invalid]
  case runtimeCharged | expired | cancelled =>
    unfold Kept at kept
    cases reserved : account.reserved <;> simp only [state, reserved] at kept
    simp only [Kept, enter, BitVec.ofNat_eq_ofNat, BitVec.toNat_ofNat, Nat.zero_mod]
    omega
  all_goals exact kept

theorem kept_close (kept : Kept account) (block : U64) : Kept (account.step (.close block)) := by
  cases state : account.lifecycle.state <;> simp only [step, close, state, invalid]
  case refunded =>
    unfold Kept at kept
    cases reserved : account.reserved <;> simp only [state, reserved] at kept
    simp only [Kept, enter]
    omega
  all_goals exact kept

theorem kept_reject (kept : Kept account) {reason : String} (whole : account.Whole (.reject reason)) :
    Kept (account.step (.reject reason)) := by
  by_cases ended : account.lifecycle.state.isTerminal
  · simp only [step, reject, ended, if_true]
    exact kept
  · have whole : account.lifecycle.state.outstanding = 0 := whole
    simp only [step, reject, ended, Bool.false_eq_true, if_false]
    cases reserved : account.reserved with
    | none => simp only [Kept, enter]
    | some total =>
        have conserved := (conserved_of_kept kept total reserved).1
        simp only [Kept, enter]
        omega

theorem kept_step (kept : Kept account) {call : Call} (whole : account.Whole call) :
    Kept (account.step call) := by
  cases call with
  | reserve payer maxPoseqFee maxRuntimeFee block => exact kept_reserve kept _ _ _ _
  | chargeSequencing poseqFee block => exact kept_chargeSequencing kept whole
  | chargeRuntime runtimeFee block => exact kept_chargeRuntime kept _ _
  | expire penalty block => exact kept_expire kept _ _
  | cancel block => exact kept_cancel kept _
  | issueRefund block => exact kept_issueRefund kept _
  | close block => exact kept_close kept _
  | reject reason => exact kept_reject kept whole

theorem call_of_rejected {call : Call} {reason : String}
    (going : account.lifecycle.state.isTerminal = false)
    (rejected : (account.step call).lifecycle.state = .rejected reason) :
    ∃ given, call = .reject given := by
  cases call with
  | reject given => exact ⟨given, rfl⟩
  | reserve payer maxPoseqFee maxRuntimeFee block =>
      cases state : account.lifecycle.state <;>
        simp only [step, FeeLifecycle.reserve, state, invalid] at going rejected
      case pendingReservation =>
        cases fits : checkedAdd maxPoseqFee maxRuntimeFee <;> simp [fits, enter, state] at rejected
      all_goals simp [FeeLifecycleState.isTerminal] at going rejected
  | chargeSequencing poseqFee block =>
      cases state : account.lifecycle.state <;>
        simp only [step, chargeSequencing, state, invalid] at going rejected
      case reserved payer maxPoseqFee maxRuntimeFee total since =>
        by_cases above : maxPoseqFee < poseqFee <;> simp [above, enter, state] at rejected
      all_goals simp [FeeLifecycleState.isTerminal] at going rejected
  | chargeRuntime | expire | cancel | issueRefund | close =>
      cases state : account.lifecycle.state <;>
        simp_all [step, chargeRuntime, expire, cancel, issueRefund, close, invalid, enter,
          FeeLifecycleState.isTerminal]

theorem conserves_iff_whole (kept : Kept account) (call : Call) :
    account.Conserves call ↔ account.Whole call := by
  constructor
  · intro ⟨conserved, notRejected⟩
    cases call with
    | chargeSequencing poseqFee block =>
        intro payer maxPoseqFee maxRuntimeFee total since state
        by_contra short
        have within : ¬ maxPoseqFee < poseqFee := by
          rw [BitVec.le_def] at short
          rw [BitVec.lt_def]
          omega
        unfold Kept at kept
        cases reserved : account.reserved with
        | none => simp only [state, reserved] at kept
        | some sum =>
            simp only [state, reserved] at kept
            have after := (conserved sum (by
              simp only [step, chargeSequencing, state, within, if_false, reserved])).1
            simp only [step, chargeSequencing, state, within, if_false, enter,
              FeeLifecycleState.outstanding] at after
            rw [BitVec.le_def] at short
            omega
    | reject reason =>
        show account.lifecycle.state.outstanding = 0
        by_contra held
        have open_ : account.lifecycle.state.isTerminal = false := by
          cases state : account.lifecycle.state <;> simp_all [FeeLifecycleState.outstanding,
            FeeLifecycleState.isTerminal]
        refine notRejected reason open_ (Nat.pos_of_ne_zero held) ?_
        simp only [step, reject, open_, Bool.false_eq_true, if_false, enter]
    | reserve | chargeRuntime | expire | cancel | issueRefund | close => trivial
  · intro whole
    refine ⟨conserved_of_kept (kept_step kept whole), ?_⟩
    intro reason going held rejected
    obtain ⟨given, rfl⟩ := call_of_rejected going rejected
    exact Nat.ne_of_gt held whole

theorem kept_start (intentId : Bytes32) : Kept (start intentId) := ⟨rfl, rfl⟩

end Steps

/-- Over every run the reservation is conserved and never rejected away exactly when each sequencing
charge takes its whole maximum and each rejection finds nothing held. -/
theorem run_conserves_iff_whole (intentId : Bytes32) (run : List Call) :
    Run.Along step Conserves (start intentId) run ↔ Run.Along step Whole (start intentId) run := by
  refine Run.along_congr ?_ ?_ (kept_start intentId) run
  · intro account call kept
    exact conserves_iff_whole kept call
  · intro account call kept conserves
    exact kept_step kept ((conserves_iff_whole kept call).1 conserves)

/-- Of 100 reserved for sequencing 30 are charged; the other 70 are in no later state. -/
theorem unused_sequencing_budget_lost :
    ¬ Run.Along step Conserves (start 1)
      [.reserve 9 100 50 1, .chargeSequencing 30 2, .chargeRuntime 20 3, .issueRefund 4, .close 5] := by
  intro conserves
  obtain ⟨sum, -⟩ := conserves.2.1.1 150 rfl
  exact absurd sum (by decide)

end Account

end FeeLifecycle

end Omniphi.PoSeq
