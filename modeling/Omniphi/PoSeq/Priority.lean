import Omniphi.Basic

/-! The priority of an intent: four scores, each weighted, one of them the tip against its cap. -/

namespace Omniphi.PoSeq

open MachineInt

structure PriorityConfig where
  fairnessClassWeightBps : U64
  urgencyWeightBps : U64
  tipWeightBps : U64
  starvationWeightBps : U64
  urgencyHorizonBlocks : U64
  starvationThresholdBlocks : U64
  maxStarvationBoost : U64

def PriorityConfig.default : PriorityConfig where
  fairnessClassWeightBps := 4000
  urgencyWeightBps := 2500
  tipWeightBps := 1500
  starvationWeightBps := 2000
  urgencyHorizonBlocks := 50
  starvationThresholdBlocks := 100
  maxStarvationBoost := 10000

def PriorityConfig.validate (config : PriorityConfig) : Bool :=
  saturatingAdd (saturatingAdd (saturatingAdd config.fairnessClassWeightBps config.urgencyWeightBps)
    config.tipWeightBps) config.starvationWeightBps = 10000

structure PriorityInput where
  fairnessClassWeight : U64
  admittedAtBlock : U64
  deadline : U64
  currentBlock : U64
  effectiveTip : U128
  tipCap : U128
  isProtected : Bool

structure PriorityScore where
  fairnessComponent : U64
  urgencyComponent : U64
  tipComponent : U64
  starvationComponent : U64
  composite : U64
  starvationActive : Bool
  isProtected : Bool

def checkedMul {w : Nat} (a b : BitVec w) : Option (BitVec w) :=
  if a.toNat * b.toNat < 2 ^ w then some (a * b) else none

section Scores

def computeUrgency (input : PriorityInput) (horizon : U64) : U64 :=
  if input.deadline ≤ input.currentBlock then 10000
  else
    let blocksRemaining := saturatingSub input.deadline input.currentBlock
    if horizon ≤ blocksRemaining ∨ horizon = 0 then 0
    else saturatingMul (saturatingSub horizon blocksRemaining) 10000 / horizon

/-- Where the product does not fit, the source divides first: below the cap that is zero. -/
def normalizedTip (effectiveTip tipCap : U128) : U128 :=
  match checkedMul effectiveTip 10000 with
  | some product => product / tipCap
  | none => saturatingMul (effectiveTip / tipCap) 10000

def tipScore (effectiveTip tipCap : U128) : U64 :=
  if tipCap = 0 then 0
  else if tipCap ≤ effectiveTip then 10000
  else least ((normalizedTip effectiveTip tipCap).setWidth 64) 10000

def starvationScore (config : PriorityConfig) (waitingBlocks : U64) : U64 :=
  if config.starvationThresholdBlocks ≤ waitingBlocks then
    least (saturatingMul (saturatingSub waitingBlocks config.starvationThresholdBlocks) 100)
      config.maxStarvationBoost
  else 0

def share (score weightBps : U64) : U64 := saturatingMul score weightBps / 10000

end Scores

def PriorityInput.waitingBlocks (input : PriorityInput) : U64 :=
  saturatingSub input.currentBlock input.admittedAtBlock

def computePriority (config : PriorityConfig) (input : PriorityInput) : PriorityScore :=
  let fairnessComponent := share (least input.fairnessClassWeight 10000) config.fairnessClassWeightBps
  let urgencyComponent := share (computeUrgency input config.urgencyHorizonBlocks) config.urgencyWeightBps
  let tipComponent := share (tipScore input.effectiveTip input.tipCap) config.tipWeightBps
  let starvationComponent :=
    share (starvationScore config input.waitingBlocks) config.starvationWeightBps
  { fairnessComponent
    urgencyComponent
    tipComponent
    starvationComponent
    composite := saturatingAdd (saturatingAdd (saturatingAdd fairnessComponent urgencyComponent)
      tipComponent) starvationComponent
    starvationActive := config.starvationThresholdBlocks ≤ input.waitingBlocks
    isProtected := input.isProtected }

section Values

theorem toNat_saturatingMul {w : Nat} (a b : BitVec w) :
    (saturatingMul a b).toNat = min (a.toNat * b.toNat) (2 ^ w - 1) := by
  unfold saturatingMul
  split
  · rename_i fits
    rw [BitVec.toNat_mul, Nat.mod_eq_of_lt fits]
    omega
  · rw [BitVec.toNat_allOnes]
    omega

theorem toNat_share (score weightBps : U64) :
    (share score weightBps).toNat = min (score.toNat * weightBps.toNat) (2 ^ 64 - 1) / 10000 := by
  rw [share, BitVec.toNat_udiv, toNat_saturatingMul]
  rfl

theorem share_mono {score score' weightBps : U64} (le : score.toNat ≤ score'.toNat) :
    (share score weightBps).toNat ≤ (share score' weightBps).toNat := by
  rw [toNat_share, toNat_share]
  apply Nat.div_le_div_right
  have products := Nat.mul_le_mul_right weightBps.toNat le
  omega

theorem toNat_normalizedTip {effectiveTip tipCap : U128} (below : effectiveTip.toNat < tipCap.toNat) :
    (normalizedTip effectiveTip tipCap).toNat =
      if effectiveTip.toNat * 10000 < 2 ^ 128 then effectiveTip.toNat * 10000 / tipCap.toNat else 0 := by
  unfold normalizedTip checkedMul
  have unit : (10000 : U128).toNat = 10000 := rfl
  rw [unit]
  by_cases fits : effectiveTip.toNat * 10000 < 2 ^ 128
  · rw [if_pos fits, if_pos fits]
    dsimp only
    rw [BitVec.toNat_udiv, BitVec.toNat_mul, unit, Nat.mod_eq_of_lt fits]
  · rw [if_neg fits, if_neg fits]
    have none : effectiveTip / tipCap = 0 := by
      apply BitVec.eq_of_toNat_eq
      rw [BitVec.toNat_udiv, Nat.div_eq_of_lt below]
      rfl
    dsimp only
    rw [none]
    decide

/-- A tip below its cap whose ten thousandfold does not fit. -/
def TipOverflows (effectiveTip tipCap : U128) : Prop :=
  effectiveTip.toNat < tipCap.toNat ∧ 2 ^ 128 ≤ effectiveTip.toNat * 10000

theorem toNat_tipScore (effectiveTip tipCap : U128) : (tipScore effectiveTip tipCap).toNat =
    if tipCap.toNat = 0 then 0
    else if tipCap.toNat ≤ effectiveTip.toNat then 10000
    else if effectiveTip.toNat * 10000 < 2 ^ 128 then effectiveTip.toNat * 10000 / tipCap.toNat
    else 0 := by
  unfold tipScore
  have zero : tipCap = 0 ↔ tipCap.toNat = 0 := by
    rw [← BitVec.toNat_inj]
    rfl
  simp only [zero, BitVec.le_def]
  split
  · rfl
  · rename_i positive
    split
    · rfl
    · rename_i below
      have small : effectiveTip.toNat * 10000 / tipCap.toNat < 10000 := by
        rw [Nat.div_lt_iff_lt_mul (Nat.pos_of_ne_zero positive)]
        omega
      rw [toNat_least, BitVec.toNat_setWidth, toNat_normalizedTip (Nat.lt_of_not_le below)]
      generalize effectiveTip.toNat * 10000 / tipCap.toNat = ratio at small
      show min _ 10000 = _
      split <;> omega

theorem toNat_computeUrgency (input : PriorityInput) (horizon : U64) :
    (computeUrgency input horizon).toNat =
      if input.deadline.toNat ≤ input.currentBlock.toNat then 10000
      else if horizon.toNat ≤ input.deadline.toNat - input.currentBlock.toNat ∨ horizon.toNat = 0 then 0
      else min ((horizon.toNat - (input.deadline.toNat - input.currentBlock.toNat)) * 10000) (2 ^ 64 - 1) /
        horizon.toNat := by
  unfold computeUrgency
  have zero : horizon = 0 ↔ horizon.toNat = 0 := by
    rw [← BitVec.toNat_inj]
    rfl
  simp only [zero, BitVec.le_def, toNat_saturatingSub]
  split
  · rfl
  · split
    · rfl
    · rw [BitVec.toNat_udiv, toNat_saturatingMul, toNat_saturatingSub, toNat_saturatingSub]
      rfl

theorem computeUrgency_le (input : PriorityInput) (horizon : U64) :
    (computeUrgency input horizon).toNat ≤ 10000 := by
  rw [toNat_computeUrgency]
  split
  · rfl
  · split
    · exact Nat.zero_le _
    · rename_i inside
      apply Nat.div_le_of_le_mul
      omega

theorem toNat_starvationScore (config : PriorityConfig) (waitingBlocks : U64) :
    (starvationScore config waitingBlocks).toNat =
      min (min ((waitingBlocks.toNat - config.starvationThresholdBlocks.toNat) * 100) (2 ^ 64 - 1))
        config.maxStarvationBoost.toNat := by
  unfold starvationScore
  split
  · rw [toNat_least, toNat_saturatingMul, toNat_saturatingSub]
    rfl
  · rename_i early
    rw [BitVec.le_def] at early
    show 0 = _
    omega

end Values

section Composite

variable {config : PriorityConfig} {input : PriorityInput}

theorem weights_sum (valid : config.validate = true) :
    config.fairnessClassWeightBps.toNat + config.urgencyWeightBps.toNat + config.tipWeightBps.toNat +
      config.starvationWeightBps.toNat = 10000 := by
  have total := congrArg BitVec.toNat (of_decide_eq_true valid)
  rw [toNat_saturatingAdd, toNat_saturatingAdd, toNat_saturatingAdd] at total
  change _ = 10000 at total
  omega

theorem share_le {score weightBps : U64} (bounded : score.toNat ≤ 10000) :
    (share score weightBps).toNat ≤ weightBps.toNat := by
  rw [toNat_share]
  have product := Nat.mul_le_mul_right weightBps.toNat bounded
  omega

theorem tipScore_le (effectiveTip tipCap : U128) : (tipScore effectiveTip tipCap).toNat ≤ 10000 := by
  rw [toNat_tipScore]
  split
  · exact Nat.zero_le _
  split
  · rfl
  rename_i below
  split
  · apply Nat.div_le_of_le_mul
    omega
  · exact Nat.zero_le _

theorem toNat_composite_priority (valid : config.validate = true) (input : PriorityInput) :
    (computePriority config input).composite.toNat =
      (share (least input.fairnessClassWeight 10000) config.fairnessClassWeightBps).toNat +
        (share (computeUrgency input config.urgencyHorizonBlocks) config.urgencyWeightBps).toNat +
        (share (tipScore input.effectiveTip input.tipCap) config.tipWeightBps).toNat +
        (share (starvationScore config input.waitingBlocks) config.starvationWeightBps).toNat := by
  have weights := weights_sum valid
  have fairness : (least input.fairnessClassWeight 10000).toNat ≤ 10000 := by
    rw [toNat_least]
    exact Nat.min_le_right _ _
  have first := @share_le _ config.fairnessClassWeightBps fairness
  have second := @share_le _ config.urgencyWeightBps (computeUrgency_le input config.urgencyHorizonBlocks)
  have third := @share_le _ config.tipWeightBps (tipScore_le input.effectiveTip input.tipCap)
  have fourth : (share (starvationScore config input.waitingBlocks) config.starvationWeightBps).toNat ≤
      (2 ^ 64 - 1) / 10000 := by
    rw [toNat_share]
    exact Nat.div_le_div_right (Nat.min_le_right _ _)
  show (saturatingAdd (saturatingAdd (saturatingAdd _ _) _) _).toNat = _
  rw [toNat_saturatingAdd, toNat_saturatingAdd, toNat_saturatingAdd]
  omega

/-- The larger tip overflows and loses its score, the smaller one keeps a score that counts. -/
def TipDropped (config : PriorityConfig) (tipCap smaller larger : U128) : Prop :=
  TipOverflows larger tipCap ∧ ¬ TipOverflows smaller tipCap ∧
    10000 ≤ smaller.toNat * 10000 / tipCap.toNat * config.tipWeightBps.toNat

theorem tipScore_of_overflows {effectiveTip tipCap : U128} (overflows : TipOverflows effectiveTip tipCap) :
    (tipScore effectiveTip tipCap).toNat = 0 := by
  obtain ⟨below, large⟩ := overflows
  rw [toNat_tipScore]
  split
  · rfl
  · rw [if_neg (Nat.not_le_of_lt below), if_neg (Nat.not_lt_of_le large)]

theorem tipScore_mono {smaller larger tipCap : U128} (le : smaller ≤ larger)
    (fits : ¬ TipOverflows larger tipCap) :
    (tipScore smaller tipCap).toNat ≤ (tipScore larger tipCap).toNat := by
  rw [TipOverflows, not_and, Nat.not_le] at fits
  by_cases reached : tipCap.toNat ≤ larger.toNat
  · by_cases none : tipCap.toNat = 0
    · rw [toNat_tipScore, toNat_tipScore, if_pos none, if_pos none]
    · rw [toNat_tipScore larger, if_neg none, if_pos reached]
      exact tipScore_le smaller tipCap
  · have below := Nat.lt_of_not_le reached
    have product := fits below
    have ratio : smaller.toNat * 10000 / tipCap.toNat ≤ larger.toNat * 10000 / tipCap.toNat :=
      Nat.div_le_div_right (Nat.mul_le_mul_right _ (BitVec.le_def.1 le))
    have still : ¬ tipCap.toNat ≤ smaller.toNat := fun up => reached (up.trans (BitVec.le_def.1 le))
    have product' := Nat.lt_of_le_of_lt (Nat.mul_le_mul_right 10000 (BitVec.le_def.1 le)) product
    simp only [toNat_tipScore, reached, still, product, product', if_true, if_false]
    split
    · rfl
    · exact ratio

theorem share_tipScore_pos (valid : config.validate = true) {smaller tipCap : U128}
    (below : smaller.toNat < tipCap.toNat) (fits : smaller.toNat * 10000 < 2 ^ 128) :
    0 < (share (tipScore smaller tipCap) config.tipWeightBps).toNat ↔
      10000 ≤ smaller.toNat * 10000 / tipCap.toNat * config.tipWeightBps.toNat := by
  have weights := weights_sum valid
  have score : (tipScore smaller tipCap).toNat = smaller.toNat * 10000 / tipCap.toNat := by
    rw [toNat_tipScore, if_neg (by omega), if_neg (by omega), if_pos fits]
  have bounded := tipScore_le smaller tipCap
  rw [score] at bounded
  rw [toNat_share, score]
  have product := Nat.mul_le_mul bounded (show config.tipWeightBps.toNat ≤ 10000 by omega)
  rw [Nat.div_pos_iff, Nat.min_eq_left (by omega)]
  exact and_iff_right (by decide)

theorem composite_le_iff_tip (valid : config.validate = true) {tip : U128} (le : input.effectiveTip ≤ tip) :
    (computePriority config input).composite ≤
        (computePriority config { input with effectiveTip := tip }).composite ↔
      ¬ TipDropped config input.tipCap input.effectiveTip tip := by
  rw [BitVec.le_def, toNat_composite_priority valid, toNat_composite_priority valid]
  show _ + _ + _ + (share (starvationScore config input.waitingBlocks) _).toNat ≤
    (share (least input.fairnessClassWeight 10000) _).toNat +
      (share (computeUrgency input config.urgencyHorizonBlocks) _).toNat + _ +
      (share (starvationScore config input.waitingBlocks) _).toNat ↔ _
  rw [Nat.add_le_add_iff_right, Nat.add_le_add_iff_left]
  by_cases overflows : TipOverflows tip input.tipCap
  · have lost : (share (tipScore tip input.tipCap) config.tipWeightBps).toNat = 0 := by
      rw [toNat_share, tipScore_of_overflows overflows, Nat.zero_mul]
      rfl
    have below : input.effectiveTip.toNat < input.tipCap.toNat :=
      Nat.lt_of_le_of_lt (BitVec.le_def.1 le) overflows.1
    rw [lost, Nat.le_zero]
    by_cases alike : TipOverflows input.effectiveTip input.tipCap
    · rw [toNat_share, tipScore_of_overflows alike, Nat.zero_mul]
      exact iff_of_true rfl fun dropped => dropped.2.1 alike
    · have fits : input.effectiveTip.toNat * 10000 < 2 ^ 128 :=
        Nat.lt_of_not_le fun large => alike ⟨below, large⟩
      have counts := share_tipScore_pos valid below fits
      rw [TipDropped, and_iff_right overflows, and_iff_right alike, ← counts]
      omega
  · constructor
    · intro _ dropped
      exact overflows dropped.1
    · intro _
      exact share_mono (tipScore_mono le overflows)

theorem computeUrgency_mono {current : U64} (later : input.currentBlock ≤ current) (horizon : U64) :
    (computeUrgency input horizon).toNat ≤
      (computeUrgency { input with currentBlock := current } horizon).toNat := by
  rw [BitVec.le_def] at later
  by_cases due : input.deadline.toNat ≤ current.toNat
  · rw [toNat_computeUrgency { input with currentBlock := current }, if_pos due]
    exact computeUrgency_le input horizon
  · have early : ¬ input.deadline.toNat ≤ input.currentBlock.toNat := by omega
    simp only [toNat_computeUrgency, due, early, if_false]
    by_cases far : horizon.toNat ≤ input.deadline.toNat - input.currentBlock.toNat ∨ horizon.toNat = 0
    · rw [if_pos far]
      exact Nat.zero_le _
    · have near : ¬ (horizon.toNat ≤ input.deadline.toNat - current.toNat ∨ horizon.toNat = 0) := by omega
      rw [if_neg far, if_neg near]
      apply Nat.div_le_div_right
      omega

theorem waitingBlocks_mono {admitted current : U64} (earlier : admitted ≤ input.admittedAtBlock)
    (later : input.currentBlock ≤ current) :
    input.waitingBlocks.toNat ≤
      ({ input with admittedAtBlock := admitted, currentBlock := current } :
        PriorityInput).waitingBlocks.toNat := by
  rw [BitVec.le_def] at earlier later
  rw [PriorityInput.waitingBlocks, PriorityInput.waitingBlocks, toNat_saturatingSub, toNat_saturatingSub]
  show _ ≤ current.toNat - admitted.toNat
  omega

theorem composite_le_of_wait (valid : config.validate = true) {admitted current : U64}
    (earlier : admitted ≤ input.admittedAtBlock) (later : input.currentBlock ≤ current) :
    (computePriority config input).composite ≤
      (computePriority config
        { input with admittedAtBlock := admitted, currentBlock := current }).composite := by
  have urgency := @share_mono _ _ config.urgencyWeightBps
    (computeUrgency_mono later config.urgencyHorizonBlocks)
  have waits := waitingBlocks_mono earlier later
  have starving : (starvationScore config input.waitingBlocks).toNat ≤
      (starvationScore config ({ input with admittedAtBlock := admitted, currentBlock := current } :
        PriorityInput).waitingBlocks).toNat := by
    rw [toNat_starvationScore, toNat_starvationScore]
    omega
  have starvation := @share_mono _ _ config.starvationWeightBps starving
  rw [BitVec.le_def, toNat_composite_priority valid, toNat_composite_priority valid]
  exact Nat.add_le_add (Nat.add_le_add_right (Nat.add_le_add_left urgency _) _) starvation

def starvationReach (config : PriorityConfig) : Nat :=
  min (min ((2 ^ 64 - 1 - config.starvationThresholdBlocks.toNat) * 100) (2 ^ 64 - 1))
    config.maxStarvationBoost.toNat

def utmostInput : PriorityInput where
  fairnessClassWeight := 10000
  admittedAtBlock := 0
  deadline := 0
  currentBlock := BitVec.allOnes 64
  effectiveTip := 1
  tipCap := 1
  isProtected := false

theorem share_full {weightBps : U64} (small : weightBps.toNat ≤ 10000) :
    (share 10000 weightBps).toNat = weightBps.toNat := by
  rw [toNat_share]
  show min (10000 * _) _ / 10000 = _
  omega

theorem composite_bounded_iff (valid : config.validate = true) :
    (∀ input, (computePriority config input).composite ≤ 10000) ↔
      starvationReach config * config.starvationWeightBps.toNat <
        10000 * (config.starvationWeightBps.toNat + 1) := by
  have weights := weights_sum valid
  constructor
  · intro bounded
    have utmost := bounded utmostInput
    have score : (starvationScore config utmostInput.waitingBlocks).toNat = starvationReach config := by
      rw [toNat_starvationScore]
      rfl
    rw [BitVec.le_def, toNat_composite_priority valid, toNat_share (starvationScore _ _), score] at utmost
    change (share 10000 config.fairnessClassWeightBps).toNat + (share 10000 config.urgencyWeightBps).toNat +
      (share 10000 config.tipWeightBps).toNat + _ ≤ 10000 at utmost
    rw [share_full (by omega), share_full (by omega), share_full (by omega)] at utmost
    omega
  · intro within input
    have reached : (starvationScore config input.waitingBlocks).toNat ≤ starvationReach config := by
      rw [toNat_starvationScore, starvationReach]
      have last := input.waitingBlocks.isLt
      omega
    have product := Nat.mul_le_mul_right config.starvationWeightBps.toNat reached
    have fairness : (least input.fairnessClassWeight 10000).toNat ≤ 10000 := by
      rw [toNat_least]
      exact Nat.min_le_right _ _
    have first := @share_le _ config.fairnessClassWeightBps fairness
    have second := @share_le _ config.urgencyWeightBps (computeUrgency_le input config.urgencyHorizonBlocks)
    have third := @share_le _ config.tipWeightBps (tipScore_le input.effectiveTip input.tipCap)
    rw [BitVec.le_def, toNat_composite_priority valid, toNat_share (starvationScore _ _)]
    show _ ≤ 10000
    omega

/-- Exactly when a larger tip, a longer wait and the bound on the score behave: the wait always, a tip
unless it overflows on the way up, the bound unless the starvation boost outgrows its weight. -/
theorem priority_monotone_iff (valid : config.validate = true) :
    (∀ input tip, input.effectiveTip ≤ tip →
      ((computePriority config input).composite ≤
          (computePriority config { input with effectiveTip := tip }).composite ↔
        ¬ TipDropped config input.tipCap input.effectiveTip tip)) ∧
    (∀ input admitted current, admitted ≤ input.admittedAtBlock → input.currentBlock ≤ current →
      (computePriority config input).composite ≤
        (computePriority config
          { input with admittedAtBlock := admitted, currentBlock := current }).composite) ∧
    ((∀ input, (computePriority config input).composite ≤ 10000) ↔
      starvationReach config * config.starvationWeightBps.toNat <
        10000 * (config.starvationWeightBps.toNat + 1)) := by
  refine ⟨?_, ?_, composite_bounded_iff valid⟩
  · intro input tip le
    exact composite_le_iff_tip valid le
  · intro input admitted current earlier later
    exact composite_le_of_wait valid earlier later

theorem default_priority_bounded :
    (∀ input, (computePriority .default input).composite ≤ 10000) ↔
      starvationReach .default * 2000 < 10000 * (2000 + 1) :=
  (@priority_monotone_iff .default (by decide)).2.2

def largeTip : PriorityInput where
  fairnessClassWeight := 3000
  admittedAtBlock := 10
  deadline := 200
  currentBlock := 50
  effectiveTip := 0x68db8bac710cb295e9e1b089a0275
  tipCap := 0x68db8bac710cb295e9e1b089a0277
  isProtected := false

/-- One unit more, and the tip loses its whole score. -/
theorem larger_tip_scores_less :
    ∃ config input tip, config.validate = true ∧ input.effectiveTip ≤ tip ∧
      ¬ (computePriority config input).composite ≤
        (computePriority config { input with effectiveTip := tip }).composite :=
  ⟨.default, largeTip, largeTip.effectiveTip + 1, by decide +kernel, by decide +kernel, by decide +kernel⟩

end Composite

end Omniphi.PoSeq
