import Omniphi.Lib.Run
import Omniphi.Runtime.Intents

/-! The fee record of one intent. The closing operations compute the refund each from its own part of
the charges, so the reserve is accounted for only after some orders of calls. -/

namespace Omniphi.Runtime

open MachineInt

inductive FeeAccountingState
  | reserved
  | sequencingCharged
  | fullyCharged
  | settled
  | failedIntake
  | expired
  | runtimeReverted
deriving DecidableEq, Repr

namespace FeeAccountingState

def debug : FeeAccountingState → String
  | reserved => "Reserved"
  | sequencingCharged => "SequencingCharged"
  | fullyCharged => "FullyCharged"
  | settled => "Settled"
  | failedIntake => "FailedIntake"
  | expired => "Expired"
  | runtimeReverted => "RuntimeReverted"

def Closed : FeeAccountingState → Prop
  | settled | failedIntake | expired | runtimeReverted => True
  | reserved | sequencingCharged | fullyCharged => False

end FeeAccountingState

structure PoSeqFeeResult where
  totalFee : U64

structure ChargeResult where
  success : Bool
  amountCharged : U64
  error : Option String

structure FeeAccounting where
  envelope : FeeEnvelope
  state : FeeAccountingState
  reservedTotal : U64
  chargedPoseq : U64
  chargedRuntime : U64
  refunded : U64
  penalty : U64

namespace FeeAccounting

def reserve (envelope : FeeEnvelope) : FeeAccounting where
  envelope
  state := .reserved
  reservedTotal := envelope.totalReserved
  chargedPoseq := 0
  chargedRuntime := 0
  refunded := 0
  penalty := 0

def chargeSequencing (accounting : FeeAccounting) (feeResult : PoSeqFeeResult) :
    ChargeResult × FeeAccounting :=
  if accounting.state ≠ .reserved then
    ({ success := false, amountCharged := 0
       error := some ("invalid state for sequencing charge: " ++ accounting.state.debug) }, accounting)
  else if accounting.envelope.maxPoseqFee < feeResult.totalFee then
    ({ success := false, amountCharged := 0
       error := some ("insufficient poseq reserve: need " ++ toString feeResult.totalFee.toNat ++
         ", have " ++ toString accounting.envelope.maxPoseqFee.toNat) }, accounting)
  else
    ({ success := true, amountCharged := feeResult.totalFee, error := none },
      { accounting with chargedPoseq := feeResult.totalFee, state := .sequencingCharged })

def chargeRuntime (accounting : FeeAccounting) (actualGasFee : U64) : ChargeResult × FeeAccounting :=
  if accounting.state ≠ .sequencingCharged then
    ({ success := false, amountCharged := 0
       error := some ("invalid state for runtime charge: " ++ accounting.state.debug) }, accounting)
  else if accounting.envelope.maxRuntimeFee < actualGasFee then
    ({ success := false, amountCharged := 0
       error := some ("insufficient runtime reserve: need " ++ toString actualGasFee.toNat ++
         ", have " ++ toString accounting.envelope.maxRuntimeFee.toNat) }, accounting)
  else
    ({ success := true, amountCharged := actualGasFee, error := none },
      { accounting with chargedRuntime := actualGasFee, state := .fullyCharged })

def settleRefund (accounting : FeeAccounting) : U64 × FeeAccounting :=
  let totalCharged := saturatingAdd (saturatingAdd accounting.chargedPoseq accounting.chargedRuntime)
    accounting.penalty
  let refunded := saturatingSub accounting.reservedTotal totalCharged
  (refunded, { accounting with refunded, state := .settled })

def failIntake (accounting : FeeAccounting) (validationCost : U64) : FeeAccounting :=
  let penalty := least validationCost accounting.reservedTotal
  { accounting with
    penalty
    refunded := saturatingSub accounting.reservedTotal penalty
    state := .failedIntake }

def expire (accounting : FeeAccounting) (expiryPenalty : U64) : FeeAccounting :=
  let penalty := least expiryPenalty accounting.reservedTotal
  { accounting with
    penalty
    refunded := saturatingSub accounting.reservedTotal penalty
    state := .expired }

def revertRuntime (accounting : FeeAccounting) (runtimeWorkCharged : U64) : FeeAccounting :=
  let chargedRuntime := least runtimeWorkCharged accounting.envelope.maxRuntimeFee
  let totalCharged := saturatingAdd accounting.chargedPoseq chargedRuntime
  { accounting with
    chargedRuntime
    refunded := saturatingSub accounting.reservedTotal totalCharged
    state := .runtimeReverted }

inductive Call
  | chargeSequencing (feeResult : PoSeqFeeResult)
  | chargeRuntime (actualGasFee : U64)
  | settleRefund
  | failIntake (validationCost : U64)
  | expire (expiryPenalty : U64)
  | revertRuntime (runtimeWorkCharged : U64)

def call (accounting : FeeAccounting) : Call → FeeAccounting
  | .chargeSequencing feeResult => (accounting.chargeSequencing feeResult).2
  | .chargeRuntime actualGasFee => (accounting.chargeRuntime actualGasFee).2
  | .settleRefund => accounting.settleRefund.2
  | .failIntake validationCost => accounting.failIntake validationCost
  | .expire expiryPenalty => accounting.expire expiryPenalty
  | .revertRuntime runtimeWorkCharged => accounting.revertRuntime runtimeWorkCharged

/-- The reserve of a closed record is what was charged, kept as a penalty and refunded. -/
def Balanced (accounting : FeeAccounting) : Prop :=
  accounting.state.Closed →
    accounting.reservedTotal.toNat = accounting.chargedPoseq.toNat + accounting.chargedRuntime.toNat +
      accounting.penalty.toNat + accounting.refunded.toNat

def Conserves (accounting : FeeAccounting) (next : Call) : Prop :=
  (accounting.call next).Balanced ∧
    (accounting.state.Closed → (accounting.call next).refunded = accounting.refunded)

/-- Intake failure and expiry forget the charges, a revert forgets the penalty, and the refund of a
settlement stops at zero. -/
def Accounted (accounting : FeeAccounting) : Call → Prop
  | .chargeSequencing _ | .chargeRuntime _ => True
  | .settleRefund =>
      accounting.chargedPoseq.toNat + accounting.chargedRuntime.toNat + accounting.penalty.toNat ≤
        accounting.reservedTotal.toNat
  | .failIntake cost | .expire cost =>
      accounting.chargedPoseq = 0 ∧ accounting.chargedRuntime = 0 ∧
        (accounting.state.Closed → least cost accounting.reservedTotal = accounting.penalty)
  | .revertRuntime work =>
      accounting.penalty = 0 ∧
        accounting.chargedPoseq.toNat + (least work accounting.envelope.maxRuntimeFee).toNat ≤
          accounting.reservedTotal.toNat ∧
        (accounting.state.Closed →
          least work accounting.envelope.maxRuntimeFee = accounting.chargedRuntime)

section Steps

variable {accounting : FeeAccounting}

theorem chargeSequencing_cases (accounting : FeeAccounting) (feeResult : PoSeqFeeResult) :
    (accounting.chargeSequencing feeResult).2 = accounting ∨
      ¬ accounting.state.Closed ∧ ¬ (accounting.chargeSequencing feeResult).2.state.Closed := by
  unfold chargeSequencing
  split
  · exact .inl rfl
  · rename_i ready
    split
    · exact .inl rfl
    · simp [not_not.1 ready, FeeAccountingState.Closed]

theorem chargeRuntime_cases (accounting : FeeAccounting) (actualGasFee : U64) :
    (accounting.chargeRuntime actualGasFee).2 = accounting ∨
      ¬ accounting.state.Closed ∧ ¬ (accounting.chargeRuntime actualGasFee).2.state.Closed := by
  unfold chargeRuntime
  split
  · exact .inl rfl
  · rename_i ready
    split
    · exact .inl rfl
    · simp [not_not.1 ready, FeeAccountingState.Closed]

theorem conserves_of_charge (balanced : accounting.Balanced) {next : Call}
    (charge : accounting.call next = accounting ∨
      ¬ accounting.state.Closed ∧ ¬ (accounting.call next).state.Closed) :
    accounting.Conserves next := by
  rcases charge with same | ⟨before, after⟩
  · rw [Conserves, same]
    exact ⟨balanced, fun _ => rfl⟩
  · exact ⟨fun closed => absurd closed after, fun closed => absurd closed before⟩

theorem settleRefund_conserves_iff (balanced : accounting.Balanced) :
    accounting.Conserves .settleRefund ↔ accounting.Accounted .settleRefund := by
  have bound := accounting.reservedTotal.isLt
  simp only [Conserves, Balanced, Accounted, call, settleRefund, FeeAccountingState.Closed,
    true_implies, ← BitVec.toNat_inj, toNat_saturatingSub, toNat_saturatingAdd]
  constructor
  · intro ⟨total, _⟩
    omega
  · intro covered
    refine ⟨by omega, fun closed => ?_⟩
    have := balanced closed
    omega

theorem penalty_conserves_iff (balanced : accounting.Balanced) (cost : U64)
    (state : FeeAccountingState) (ends : state.Closed) {next : Call}
    (effect : accounting.call next = { accounting with
      penalty := least cost accounting.reservedTotal
      refunded := saturatingSub accounting.reservedTotal (least cost accounting.reservedTotal)
      state }) :
    accounting.Conserves next ↔
      accounting.chargedPoseq = 0 ∧ accounting.chargedRuntime = 0 ∧
        (accounting.state.Closed → least cost accounting.reservedTotal = accounting.penalty) := by
  simp only [Conserves, effect, Balanced, ends, true_implies, ← BitVec.toNat_inj, toNat_saturatingSub,
    toNat_least, BitVec.ofNat_eq_ofNat, BitVec.toNat_ofNat, Nat.zero_mod]
  constructor
  · intro ⟨total, same⟩
    refine ⟨by omega, by omega, fun closed => ?_⟩
    have := balanced closed
    have := same closed
    omega
  · intro ⟨noPoseq, noRuntime, same⟩
    refine ⟨by omega, fun closed => ?_⟩
    have := balanced closed
    have := same closed
    omega

theorem revertRuntime_conserves_iff (balanced : accounting.Balanced) (work : U64) :
    accounting.Conserves (.revertRuntime work) ↔ accounting.Accounted (.revertRuntime work) := by
  have bound := accounting.reservedTotal.isLt
  simp only [Conserves, Balanced, Accounted, call, revertRuntime, FeeAccountingState.Closed,
    true_implies, ← BitVec.toNat_inj, toNat_saturatingSub, toNat_saturatingAdd, toNat_least,
    BitVec.ofNat_eq_ofNat, BitVec.toNat_ofNat, Nat.zero_mod]
  constructor
  · intro ⟨total, same⟩
    refine ⟨by omega, by omega, fun closed => ?_⟩
    have := balanced closed
    have := same closed
    omega
  · intro ⟨noPenalty, covered, same⟩
    refine ⟨by omega, fun closed => ?_⟩
    have := balanced closed
    have := same closed
    omega

theorem conserves_iff_accounted (balanced : accounting.Balanced) (next : Call) :
    accounting.Conserves next ↔ accounting.Accounted next := by
  cases next with
  | chargeSequencing feeResult =>
      exact iff_of_true
        (conserves_of_charge balanced (chargeSequencing_cases accounting feeResult)) trivial
  | chargeRuntime actualGasFee =>
      exact iff_of_true
        (conserves_of_charge balanced (chargeRuntime_cases accounting actualGasFee)) trivial
  | settleRefund => exact settleRefund_conserves_iff balanced
  | failIntake cost => exact penalty_conserves_iff balanced cost .failedIntake trivial rfl
  | expire cost => exact penalty_conserves_iff balanced cost .expired trivial rfl
  | revertRuntime work => exact revertRuntime_conserves_iff balanced work

theorem balanced_reserve (envelope : FeeEnvelope) : (reserve envelope).Balanced :=
  fun closed => False.elim closed

end Steps

/-- For every envelope, each call of a run leaves the record balanced and a closed record's refund
unchanged exactly when each call of the run accounts for everything charged before it. -/
theorem run_conserves_iff_accounted (envelope : FeeEnvelope) (run : List Call) :
    Run.Along call Conserves (reserve envelope) run ↔
      Run.Along call Accounted (reserve envelope) run := by
  have start : (reserve envelope).Balanced := balanced_reserve envelope
  refine Run.along_congr ?_ ?_ start run
  · intro accounting next balanced
    exact conserves_iff_accounted balanced next
  · intro accounting next _ conserves
    exact conserves.1

/-- An intent expires after its sequencing fee of 1000 was charged: of the reserve of 60000, 500 are
kept and 59500 refunded, 61000 in all. -/
theorem expired_after_charge_overpays :
    ¬ Run.Along call Conserves
      (reserve { payer := 1, feeToken := "omniphi", maxPoseqFee := 10000, maxRuntimeFee := 50000
                 priorityTip := 0, expiryEpoch := 999, refundAddress := none })
      [.chargeSequencing ⟨1000⟩, .expire 500] := by
  intro conserves
  have total := conserves.2.1.1 trivial
  revert total
  decide

end FeeAccounting

end Omniphi.Runtime
