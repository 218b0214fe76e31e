import Omniphi.Lib.CutRatio
import Omniphi.Runtime.FeeRouting

/-! The sequencing fee: its parts, the congestion multiplier, the floor and the cap. -/

namespace Omniphi.Runtime

open MachineInt

structure PoSeqFeeParams where
  baseAdmissionFee : U64
  feePerByte : U64
  targetIntentsPerBatch : U64
  targetBytesPerBatch : U64
  minCongestionMultiplierBps : U64
  maxCongestionMultiplierBps : U64
  priorityTipCap : U64
  maxTipPriorityWeightBps : U64
  intentExpiryPenaltyBps : U64
  poseqFeeFloor : U64
  maxPoseqFeeCap : U64
  burnBps : U64
  sequencerRewardBps : U64
  sharedSecurityBps : U64
  treasuryBps : U64

def FeeRoutingParams.fromPoseqParams (params : PoSeqFeeParams) : FeeRoutingParams where
  burnBps := params.burnBps
  sequencerRewardBps := params.sequencerRewardBps
  sharedSecurityBps := params.sharedSecurityBps
  treasuryBps := params.treasuryBps

namespace PoSeqFeeParams

def defaultParams : PoSeqFeeParams where
  baseAdmissionFee := 1000
  feePerByte := 5
  targetIntentsPerBatch := 100
  targetBytesPerBatch := 500000
  minCongestionMultiplierBps := 10000
  maxCongestionMultiplierBps := 50000
  priorityTipCap := 100000
  maxTipPriorityWeightBps := 2000
  intentExpiryPenaltyBps := 1000
  poseqFeeFloor := 500
  maxPoseqFeeCap := 10000000
  burnBps := 2000
  sequencerRewardBps := 5000
  sharedSecurityBps := 2000
  treasuryBps := 1000

def errorIf (wrong : Prop) [Decidable wrong] (message : String) : List String :=
  if wrong then [message] else []

def validate (params : PoSeqFeeParams) : List String :=
  let totalRouting := (FeeRoutingParams.fromPoseqParams params).total
  errorIf (params.targetIntentsPerBatch = 0) "target_intents_per_batch must be > 0" ++
  errorIf (params.targetBytesPerBatch = 0) "target_bytes_per_batch must be > 0" ++
  errorIf (params.minCongestionMultiplierBps < 10000) "min_congestion_multiplier_bps must be >= 10000 (1.0x)" ++
  errorIf (params.maxCongestionMultiplierBps < params.minCongestionMultiplierBps)
    "max_congestion_multiplier_bps must be >= min" ++
  errorIf (params.maxPoseqFeeCap < params.poseqFeeFloor) "fee_floor must be <= fee_cap" ++
  errorIf (5000 < params.maxTipPriorityWeightBps) "max_tip_priority_weight_bps must be <= 5000 (50%)" ++
  errorIf (totalRouting ≠ 10000) ("fee routing splits must sum to 10000, got " ++ toString totalRouting.toNat)

end PoSeqFeeParams

structure CongestionState where
  poolIntentCount : U64
  poolTotalBytes : U64

namespace PoSeqFeeCalculator

structure Breakdown extends PoSeqFeeResult where
  baseComponent : U64
  bandwidthComponent : U64
  tipComponent : U64
  congestionMultiplierBps : U64
  floorApplied : Bool
  capApplied : Bool

def u64Clamp (v : U128) : U64 :=
  if (BitVec.allOnes 64).setWidth 128 < v then BitVec.allOnes 64 else v.setWidth 64

def greatest (a b : U64) : U64 := if a ≤ b then b else a

/-- The quotient is cast to 64 bits without a clamp. -/
def demandBps (amount target : U64) : U64 :=
  if 0 < target then (saturatingMul (amount.setWidth 128) 10000 / target.setWidth 128).setWidth 64
  else 10000

def computeCongestionMultiplier (params : PoSeqFeeParams) (congestion : CongestionState) : U64 :=
  let intentRatioBps := demandBps congestion.poolIntentCount params.targetIntentsPerBatch
  let byteRatioBps := demandBps congestion.poolTotalBytes params.targetBytesPerBatch
  let demand := greatest intentRatioBps byteRatioBps
  least (greatest demand params.minCongestionMultiplierBps) params.maxCongestionMultiplierBps

def calculate (params : PoSeqFeeParams) (intentBytes priorityTip : U64) (congestion : CongestionState) :
    Breakdown :=
  let bandwidthComponent :=
    u64Clamp (saturatingMul (intentBytes.setWidth 128) (params.feePerByte.setWidth 128))
  let tipComponent := least priorityTip params.priorityTipCap
  let congestionMultiplierBps := computeCongestionMultiplier params congestion
  let preMultiply := saturatingAdd (saturatingAdd (params.baseAdmissionFee.setWidth 128)
    (bandwidthComponent.setWidth 128)) (tipComponent.setWidth 128)
  let postMultiply := saturatingMul preMultiply (congestionMultiplierBps.setWidth 128) / 10000
  let computed := u64Clamp postMultiply
  let floored := if computed < params.poseqFeeFloor then params.poseqFeeFloor else computed
  { totalFee := if params.maxPoseqFeeCap < floored then params.maxPoseqFeeCap else floored
    baseComponent := params.baseAdmissionFee
    bandwidthComponent := u64Clamp (bandwidthComponent.setWidth 128)
    tipComponent
    congestionMultiplierBps
    floorApplied := computed < params.poseqFeeFloor
    capApplied := params.maxPoseqFeeCap < floored }

section Values

/-! The fee as a natural number. -/

def loadOf (params : PoSeqFeeParams) (intentBytes priorityTip : U64) : Nat :=
  params.baseAdmissionFee.toNat + min (intentBytes.toNat * params.feePerByte.toNat) (2 ^ 64 - 1) +
    min priorityTip.toNat params.priorityTipCap.toNat

def clampMultiplier (params : PoSeqFeeParams) (demand : Nat) : Nat :=
  min (max demand params.minCongestionMultiplierBps.toNat) params.maxCongestionMultiplierBps.toNat

def price (params : PoSeqFeeParams) (load multiplier : Nat) : Nat :=
  min (max (min (load * multiplier / 10000) (2 ^ 64 - 1)) params.poseqFeeFloor.toNat)
    params.maxPoseqFeeCap.toNat

theorem toNat_u64Clamp (v : U128) : (u64Clamp v).toNat = min v.toNat (2 ^ 64 - 1) := by
  have top : ((BitVec.allOnes 64).setWidth 128).toNat = 2 ^ 64 - 1 := by decide
  unfold u64Clamp
  split
  · rename_i above
    rw [BitVec.lt_def, top] at above
    rw [BitVec.toNat_allOnes]
    omega
  · rename_i below
    rw [BitVec.lt_def, top] at below
    rw [BitVec.toNat_setWidth]
    omega

theorem toNat_greatest (a b : U64) : (greatest a b).toNat = max a.toNat b.toNat := by
  unfold greatest
  split
  · rename_i below
    exact (Nat.max_eq_right (BitVec.le_def.1 below)).symm
  · rename_i above
    exact (Nat.max_eq_left (Nat.le_of_not_le fun le => above (BitVec.le_def.2 le))).symm

theorem toNat_saturatingMul {w : Nat} (a b : BitVec w) :
    (saturatingMul a b).toNat = min (a.toNat * b.toNat) (2 ^ w - 1) := by
  unfold saturatingMul
  split
  · rename_i fits
    rw [BitVec.toNat_mul, Nat.mod_eq_of_lt fits]
    omega
  · rw [BitVec.toNat_allOnes]
    omega

theorem toNat_wide (a : U64) : (a.setWidth 128).toNat = a.toNat := BitVec.toNat_setWidth_of_le (by decide)

theorem toNat_demandBps (amount : U64) {target : U64} (positive : target ≠ 0) :
    (demandBps amount target).toNat = CutRatio.ratio 10000 (2 ^ 64) target.toNat amount.toNat := by
  have room : amount.toNat * 10000 < 2 ^ 128 - 1 := by
    have small := amount.isLt
    omega
  have some : (0 : U64) < target := (BitVec.pos_iff_ne_zero target).2 positive
  rw [demandBps, if_pos some, BitVec.toNat_setWidth, BitVec.toNat_udiv, toNat_saturatingMul, toNat_wide,
    toNat_wide, CutRatio.ratio, Nat.mul_comm 10000]
  congr 2
  exact Nat.min_eq_left room.le

variable {params : PoSeqFeeParams}

theorem clampMultiplier_mono {demand more : Nat} (le : demand ≤ more) :
    clampMultiplier params demand ≤ clampMultiplier params more := by
  unfold clampMultiplier
  omega

theorem clampMultiplier_max (demand other : Nat) : clampMultiplier params (max demand other) =
    max (clampMultiplier params demand) (clampMultiplier params other) := by
  unfold clampMultiplier
  omega

theorem price_mono {load more multiplier greater : Nat} (loads : load ≤ more)
    (multipliers : multiplier ≤ greater) : price params load multiplier ≤ price params more greater := by
  have product : load * multiplier / 10000 ≤ more * greater / 10000 :=
    Nat.div_le_div_right (Nat.mul_le_mul loads multipliers)
  unfold price
  omega

theorem price_max (load multiplier other : Nat) : price params load (max multiplier other) =
    max (price params load multiplier) (price params load other) := by
  rcases Nat.le_total multiplier other with le | le
  · rw [Nat.max_eq_right le, Nat.max_eq_right (price_mono le_rfl le)]
  · rw [Nat.max_eq_left le, Nat.max_eq_left (price_mono le_rfl le)]

theorem loadOf_mono {bytes bytes' tip tip' : U64} (more : bytes ≤ bytes') (higher : tip ≤ tip') :
    loadOf params bytes tip ≤ loadOf params bytes' tip' := by
  have product := Nat.mul_le_mul_right params.feePerByte.toNat (BitVec.le_def.1 more)
  have tips := BitVec.le_def.1 higher
  unfold loadOf
  omega

theorem toNat_computeCongestionMultiplier (congestion : CongestionState) :
    (computeCongestionMultiplier params congestion).toNat = clampMultiplier params
      (max (demandBps congestion.poolIntentCount params.targetIntentsPerBatch).toNat
        (demandBps congestion.poolTotalBytes params.targetBytesPerBatch).toNat) := by
  simp only [computeCongestionMultiplier, toNat_least, toNat_greatest, clampMultiplier]

theorem toNat_totalFee (bytes tip : U64) (congestion : CongestionState) :
    (calculate params bytes tip congestion).totalFee.toNat =
      price params (loadOf params bytes tip) (computeCongestionMultiplier params congestion).toNat := by
  have base := params.baseAdmissionFee.isLt
  have capped := params.priorityTipCap.isLt
  have tipped := tip.isLt
  have floors (a b : U64) : (if a < b then b else a).toNat = max a.toNat b.toNat := by
    split <;> rename_i less <;> rw [BitVec.lt_def] at less <;> omega
  have caps (a b : U64) : (if b < a then b else a).toNat = min a.toNat b.toNat := by
    split <;> rename_i less <;> rw [BitVec.lt_def] at less <;> omega
  simp only [calculate, caps, floors, toNat_u64Clamp, BitVec.toNat_udiv, toNat_saturatingMul,
    toNat_saturatingAdd, toNat_wide, toNat_least, price, loadOf]
  have unit : (10000 : U128).toNat = 10000 := rfl
  have loads : min (min (params.baseAdmissionFee.toNat +
      min (min (bytes.toNat * params.feePerByte.toNat) (2 ^ 128 - 1)) (2 ^ 64 - 1)) (2 ^ 128 - 1) +
        min tip.toNat params.priorityTipCap.toNat) (2 ^ 128 - 1) = loadOf params bytes tip := by
    unfold loadOf
    omega
  rw [loads, unit, ← loadOf]
  generalize loadOf params bytes tip * (computeCongestionMultiplier params congestion).toNat = product
  omega

end Values

section Monotone

/-- The fee stays between floor and cap, and grows with the payload, the tip and the pool. -/
def BoundedMonotone (params : PoSeqFeeParams) : Prop :=
  ∀ bytes tip congestion,
    params.poseqFeeFloor ≤ (calculate params bytes tip congestion).totalFee ∧
    (calculate params bytes tip congestion).totalFee ≤ params.maxPoseqFeeCap ∧
    ∀ bytes' tip' congestion', bytes ≤ bytes' → tip ≤ tip' →
      congestion.poolIntentCount ≤ congestion'.poolIntentCount →
      congestion.poolTotalBytes ≤ congestion'.poolTotalBytes →
      (calculate params bytes tip congestion).totalFee ≤ (calculate params bytes' tip' congestion').totalFee

/-- No demand on the target moves the price of any payload and tip. -/
def Inert (params : PoSeqFeeParams) (target : U64) : Prop :=
  ∀ bytes tip amount : U64,
    price params (loadOf params bytes tip)
        (clampMultiplier params (10000 * amount.toNat / target.toNat % 2 ^ 64)) =
      price params (loadOf params bytes tip) params.minCongestionMultiplierBps.toNat

variable {params : PoSeqFeeParams}

/-- What an accepted configuration keeps to, as far as the fee is concerned. -/
structure Sound (params : PoSeqFeeParams) : Prop where
  intents : params.targetIntentsPerBatch ≠ 0
  bytes : params.targetBytesPerBatch ≠ 0
  least : 10000 ≤ params.minCongestionMultiplierBps.toNat
  ordered : params.minCongestionMultiplierBps ≤ params.maxCongestionMultiplierBps
  bounds : params.poseqFeeFloor ≤ params.maxPoseqFeeCap

theorem errorIf_eq_nil {wrong : Prop} [Decidable wrong] {message : String} :
    PoSeqFeeParams.errorIf wrong message = [] ↔ ¬ wrong := by
  unfold PoSeqFeeParams.errorIf
  split <;> simp_all

theorem sound_of_validate (valid : params.validate = []) : Sound params := by
  unfold PoSeqFeeParams.validate at valid
  simp only [List.append_eq_nil_iff, errorIf_eq_nil] at valid
  obtain ⟨⟨⟨⟨⟨⟨intents, bytes⟩, least⟩, ordered⟩, bounds⟩, -⟩, -⟩ := valid
  exact ⟨intents, bytes, BitVec.le_def.1 (BitVec.not_lt.1 least), BitVec.not_lt.1 ordered, BitVec.not_lt.1 bounds⟩

theorem clampMultiplier_of_small (sound : Sound params) {demand : Nat} (small : demand < 10000) :
    clampMultiplier params demand = params.minCongestionMultiplierBps.toNat := by
  have least := sound.least
  have ordered := BitVec.le_def.1 sound.ordered
  unfold clampMultiplier
  omega

theorem price_bounds (sound : Sound params) (load multiplier : Nat) :
    params.poseqFeeFloor.toNat ≤ price params load multiplier ∧
      price params load multiplier ≤ params.maxPoseqFeeCap.toNat := by
  have bounds := BitVec.le_def.1 sound.bounds
  unfold price
  omega

def priceAt (params : PoSeqFeeParams) (bytes tip amount target : U64) : Nat :=
  price params (loadOf params bytes tip)
    (clampMultiplier params (CutRatio.ratio 10000 (2 ^ 64) target.toNat amount.toNat))

theorem toNat_totalFee_eq (sound : Sound params) (bytes tip : U64) (congestion : CongestionState) :
    (calculate params bytes tip congestion).totalFee.toNat =
      max (priceAt params bytes tip congestion.poolIntentCount params.targetIntentsPerBatch)
        (priceAt params bytes tip congestion.poolTotalBytes params.targetBytesPerBatch) := by
  rw [toNat_totalFee, toNat_computeCongestionMultiplier, clampMultiplier_max, price_max,
    toNat_demandBps _ sound.intents, toNat_demandBps _ sound.bytes]
  rfl

theorem priceAt_mono {target : U64} (harmless : 10000 ≤ target.toNat ∨ Inert params target)
    {bytes bytes' tip tip' amount amount' : U64} (more : bytes ≤ bytes') (higher : tip ≤ tip')
    (fuller : amount ≤ amount') :
    priceAt params bytes tip amount target ≤ priceAt params bytes' tip' amount' target := by
  have loads := @loadOf_mono params _ _ _ _ more higher
  rcases harmless with covers | inert
  · exact price_mono loads (clampMultiplier_mono
      (CutRatio.ratio_mono covers (BitVec.le_def.1 fuller) amount'.isLt))
  · calc priceAt params bytes tip amount target
        = price params (loadOf params bytes tip) params.minCongestionMultiplierBps.toNat := inert bytes tip amount
      _ ≤ price params (loadOf params bytes' tip') params.minCongestionMultiplierBps.toNat :=
        price_mono loads le_rfl
      _ = priceAt params bytes' tip' amount' target := (inert bytes' tip' amount').symm

theorem priceAt_le_of_inert (sound : Sound params) (bytes tip amount target : U64) :
    price params (loadOf params bytes tip) params.minCongestionMultiplierBps.toNat ≤
      priceAt params bytes tip amount target := by
  apply price_mono le_rfl
  have ordered := BitVec.le_def.1 sound.ordered
  unfold clampMultiplier
  omega

theorem inert_of_mono (sound : Sound params) {target : U64} (positive : target ≠ 0) (below : target.toNat < 10000)
    (mono : ∀ bytes tip amount amount' : U64, amount ≤ amount' →
      priceAt params bytes tip amount target ≤ priceAt params bytes tip amount' target) : Inert params target := by
  intro bytes tip amount
  have some : 0 < target.toNat := Nat.pos_of_ne_zero fun zero => positive (BitVec.eq_of_toNat_eq zero)
  obtain ⟨before, after, le, inside, reached, falls⟩ :=
    @CutRatio.exists_fall 10000 (2 ^ 64) _ some below (by decide) _ amount.isLt
  have here : (BitVec.ofNat 64 before).toNat = before := BitVec.toNat_ofNat .. |>.trans
    (Nat.mod_eq_of_lt (le.trans_lt inside))
  have there : (BitVec.ofNat 64 after).toNat = after := BitVec.toNat_ofNat .. |>.trans (Nat.mod_eq_of_lt inside)
  have step := mono bytes tip (BitVec.ofNat 64 before) (BitVec.ofNat 64 after)
    (BitVec.le_def.2 (by rwa [here, there]))
  apply Nat.le_antisymm
  · calc price params (loadOf params bytes tip)
          (clampMultiplier params (10000 * amount.toNat / target.toNat % 2 ^ 64))
        ≤ priceAt params bytes tip (BitVec.ofNat 64 before) target := by
          apply price_mono le_rfl (clampMultiplier_mono _)
          rwa [here]
      _ ≤ priceAt params bytes tip (BitVec.ofNat 64 after) target := step
      _ = price params (loadOf params bytes tip) params.minCongestionMultiplierBps.toNat := by
          rw [priceAt, there, clampMultiplier_of_small sound falls]
  · exact priceAt_le_of_inert sound bytes tip amount target

theorem priceAt_zero (sound : Sound params) (bytes tip target : U64) : priceAt params bytes tip 0 target =
    price params (loadOf params bytes tip) params.minCongestionMultiplierBps.toNat := by
  have nothing : CutRatio.ratio 10000 (2 ^ 64) target.toNat (0 : U64).toNat = 0 := by
    simp [CutRatio.ratio]
  rw [priceAt, nothing, clampMultiplier_of_small sound (by decide)]

/-- The fee of a validated configuration is bounded and monotone exactly if each measure of the pool has a
target of at least 10000, so that its ratio fits 64 bits, or moves no price. -/
theorem fee_monotone_iff (valid : params.validate = []) :
    BoundedMonotone params ↔
      (10000 ≤ params.targetIntentsPerBatch.toNat ∨ Inert params params.targetIntentsPerBatch) ∧
      (10000 ≤ params.targetBytesPerBatch.toNat ∨ Inert params params.targetBytesPerBatch) := by
  have sound := sound_of_validate valid
  constructor
  · intro monotone
    refine ⟨(Nat.lt_or_ge _ _).symm.imp_right fun below => ?_, (Nat.lt_or_ge _ _).symm.imp_right fun below => ?_⟩
    · apply inert_of_mono sound sound.intents below
      intro bytes tip amount amount' le
      have step := BitVec.le_def.1 ((monotone bytes tip ⟨amount, 0⟩).2.2 bytes tip ⟨amount', 0⟩
        (BitVec.le_refl _) (BitVec.le_refl _) le (BitVec.le_refl _))
      rwa [toNat_totalFee_eq sound, toNat_totalFee_eq sound, priceAt_zero sound,
        Nat.max_eq_left (priceAt_le_of_inert sound ..), Nat.max_eq_left (priceAt_le_of_inert sound ..)] at step
    · apply inert_of_mono sound sound.bytes below
      intro bytes tip amount amount' le
      have step := BitVec.le_def.1 ((monotone bytes tip ⟨0, amount⟩).2.2 bytes tip ⟨0, amount'⟩
        (BitVec.le_refl _) (BitVec.le_refl _) (BitVec.le_refl _) le)
      rwa [toNat_totalFee_eq sound, toNat_totalFee_eq sound, priceAt_zero sound,
        Nat.max_eq_right (priceAt_le_of_inert sound ..), Nat.max_eq_right (priceAt_le_of_inert sound ..)] at step
  · rintro ⟨intents, poolBytes⟩ bytes tip congestion
    have bounds := price_bounds sound (loadOf params bytes tip)
      (computeCongestionMultiplier params congestion).toNat
    rw [BitVec.le_def, BitVec.le_def, toNat_totalFee]
    refine ⟨bounds.1, bounds.2, ?_⟩
    intro bytes' tip' congestion' more higher counts sizes
    rw [BitVec.le_def, toNat_totalFee_eq sound, toNat_totalFee_eq sound]
    exact max_le_max (priceAt_mono intents more higher counts) (priceAt_mono poolBytes more higher sizes)

def roomyParams : PoSeqFeeParams := { PoSeqFeeParams.defaultParams with targetIntentsPerBatch := 10000 }

theorem roomy_fee_monotone : BoundedMonotone roomyParams :=
  (fee_monotone_iff (by decide)).2 ⟨.inl (by decide), .inl (by decide)⟩

/-- One more intent in the pool, and the multiplier falls from its maximum to its minimum. -/
theorem fuller_pool_pays_less : PoSeqFeeParams.defaultParams.validate = [] ∧
    (calculate PoSeqFeeParams.defaultParams 200 10000 ⟨184467440737095517, 0⟩).totalFee <
      (calculate PoSeqFeeParams.defaultParams 200 10000 ⟨184467440737095516, 0⟩).totalFee ∧
    ¬ BoundedMonotone PoSeqFeeParams.defaultParams := by
  have less : (calculate PoSeqFeeParams.defaultParams 200 10000 ⟨184467440737095517, 0⟩).totalFee <
      (calculate PoSeqFeeParams.defaultParams 200 10000 ⟨184467440737095516, 0⟩).totalFee := by decide
  refine ⟨by decide, less, fun monotone => ?_⟩
  have grows := (monotone 200 10000 ⟨184467440737095516, 0⟩).2.2 200 10000 ⟨184467440737095517, 0⟩
    (BitVec.le_refl _) (BitVec.le_refl _) (by decide) (BitVec.le_refl _)
  exact BitVec.not_lt.2 grows less

end Monotone

end PoSeqFeeCalculator

end Omniphi.Runtime
