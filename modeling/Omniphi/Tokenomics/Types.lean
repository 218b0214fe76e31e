import Omniphi.Sdk

/-! The tokenomics module: its params and what `Validate` checks of them, its records and packets. -/

namespace Omniphi.Tokenomics

inductive BurnSource
  | unspecified | posGas | pocAnchoring | sequencerGas | smartContracts
  | aiQueries | messaging | slashing | governance | other
  deriving DecidableEq

def newDecWithPrec (n : Int) (prec : Nat) : LegacyDec := n * 10 ^ (18 - prec)

def legacyOneDec : LegacyDec := LegacyDec.precisionReuse

structure Params where
  totalSupplyCap : Int
  currentTotalSupply : Int
  totalMinted : Int
  totalBurned : Int
  inflationRate : LegacyDec
  inflationMin : LegacyDec
  inflationMax : LegacyDec
  emissionSplitStaking : LegacyDec
  emissionSplitPoc : LegacyDec
  emissionSplitSequencer : LegacyDec
  emissionSplitTreasury : LegacyDec
  burnRatePosGas : LegacyDec
  burnRatePocAnchoring : LegacyDec
  burnRateSequencerGas : LegacyDec
  burnRateSmartContracts : LegacyDec
  burnRateAiQueries : LegacyDec
  burnRateMessaging : LegacyDec
  treasuryBurnRedirect : LegacyDec
  feeBurnEnabled : Bool
  feeBurnRatio : LegacyDec
  treasuryFeeRatio : LegacyDec
  minGasPrice : Option LegacyDec
  gasConversionRatioContinuity : LegacyDec
  gasConversionRatioSequencer : LegacyDec
  pocAlpha : Option LegacyDec
  rewardStreamInterval : Nat
  continuityIbcChannel : String
  sequencerIbcChannel : String
  paramChangeDelay : Nat
  minProposalDeposit : Int
  quorumPercentage : LegacyDec
  passPercentage : LegacyDec
  votingPeriod : Nat
  adaptiveBurnEnabled : Bool
  minBurnRatio : LegacyDec
  maxBurnRatio : LegacyDec
  defaultBurnRatio : LegacyDec
  blockCongestionThreshold : LegacyDec
  txPerDayTarget : Nat
  treasuryFloorPct : LegacyDec
  burnAdjustmentSmoothing : Nat
  lastAppliedBurnRatio : LegacyDec
  lastBurnTrigger : String
  emergencyBurnOverride : Bool

def defaultParams : Params where
  totalSupplyCap := 1500000000000000
  currentTotalSupply := 375000000000000
  totalMinted := 375000000000000
  totalBurned := 0
  inflationRate := newDecWithPrec 3 2
  inflationMin := newDecWithPrec 5 3
  inflationMax := newDecWithPrec 3 2
  emissionSplitStaking := newDecWithPrec 40 2
  emissionSplitPoc := newDecWithPrec 30 2
  emissionSplitSequencer := newDecWithPrec 20 2
  emissionSplitTreasury := newDecWithPrec 10 2
  burnRatePosGas := newDecWithPrec 20 2
  burnRatePocAnchoring := newDecWithPrec 25 2
  burnRateSequencerGas := newDecWithPrec 15 2
  burnRateSmartContracts := newDecWithPrec 12 2
  burnRateAiQueries := newDecWithPrec 10 2
  burnRateMessaging := newDecWithPrec 8 2
  treasuryBurnRedirect := newDecWithPrec 10 2
  feeBurnEnabled := true
  feeBurnRatio := newDecWithPrec 90 2
  treasuryFeeRatio := newDecWithPrec 10 2
  minGasPrice := some (newDecWithPrec 1 2)
  gasConversionRatioContinuity := newDecWithPrec 50 2
  gasConversionRatioSequencer := newDecWithPrec 10 2
  pocAlpha := some (newDecWithPrec 10 2)
  rewardStreamInterval := 100
  continuityIbcChannel := "channel-0"
  sequencerIbcChannel := "channel-1"
  paramChangeDelay := 172800
  minProposalDeposit := 10000000000
  quorumPercentage := newDecWithPrec 40 2
  passPercentage := newDecWithPrec 50 2
  votingPeriod := 604800
  adaptiveBurnEnabled := false
  minBurnRatio := newDecWithPrec 80 2
  maxBurnRatio := newDecWithPrec 95 2
  defaultBurnRatio := newDecWithPrec 90 2
  blockCongestionThreshold := newDecWithPrec 75 2
  txPerDayTarget := 10000
  treasuryFloorPct := newDecWithPrec 5 2
  burnAdjustmentSmoothing := 100
  lastAppliedBurnRatio := newDecWithPrec 90 2
  lastBurnTrigger := "normal"
  emergencyBurnOverride := false

inductive ParamsError
  | supplyCapNotPositive | supplyCapAboveHardCap | supplyAboveCap | mintedBelowBurned | supplyAccounting
  | inflationNegative | inflationBelowMin | inflationAboveMax | inflationMaxAboveHardCap | inflationMinAboveMax
  | emissionSplitSum | emissionSplitNegative (name : String) | emissionSplitAboveMax (name : String)
  | stakingBelowMin | burnRateNegative (name : String) | burnRateAboveMax (name : String)
  | treasuryRedirectNegative | treasuryRedirectAboveMax
  | feeBurnRatio | treasuryFeeRatio | feeRatioSum | minGasPrice | gasConversion (name : String)
  | pocAlphaNegative | pocAlphaAboveMax | rewardIntervalZero | rewardIntervalTooLarge
  | minProposalDeposit | quorum | pass | votingPeriodZero | votingPeriodTooLong
  | paramChangeDelayZero | paramChangeDelayTooLong
  | minBurnRatio | maxBurnRatio | minAboveDefault | defaultAboveMax | congestionThreshold
  | txPerDayTarget | treasuryFloor | burnAdjustmentSmoothing | lastAppliedBurnRatio
  deriving DecidableEq

def maxSingleRecipientShare : LegacyDec := newDecWithPrec 60 2

def minStakingShare : LegacyDec := newDecWithPrec 20 2

namespace Params

def emissionSplitChecks (name : String) (value : LegacyDec) : List (Bool × ParamsError) :=
  [(decide (value < 0), .emissionSplitNegative name),
   (decide (value > maxSingleRecipientShare), .emissionSplitAboveMax name)]

def burnRateChecks (name : String) (value : LegacyDec) : List (Bool × ParamsError) :=
  [(decide (value < 0), .burnRateNegative name),
   (decide (value > newDecWithPrec 50 2), .burnRateAboveMax name)]

variable (p : Params)

def supplyChecks : List (Bool × ParamsError) :=
  [(decide (p.totalSupplyCap ≤ 0), .supplyCapNotPositive),
   (decide (p.totalSupplyCap > 1500000000000000), .supplyCapAboveHardCap),
   (decide (p.currentTotalSupply > p.totalSupplyCap), .supplyAboveCap),
   (decide (p.totalMinted < p.totalBurned), .mintedBelowBurned),
   (decide (p.currentTotalSupply ≠ p.totalMinted - p.totalBurned), .supplyAccounting),
   (decide (p.inflationRate < 0), .inflationNegative),
   (decide (p.inflationRate < p.inflationMin), .inflationBelowMin),
   (decide (p.inflationRate > p.inflationMax), .inflationAboveMax),
   (decide (p.inflationMax > newDecWithPrec 3 2), .inflationMaxAboveHardCap),
   (decide (p.inflationMin > p.inflationMax), .inflationMinAboveMax)]

def emissionChecks : List (Bool × ParamsError) :=
  (decide (p.emissionSplitStaking + p.emissionSplitPoc + p.emissionSplitSequencer +
      p.emissionSplitTreasury ≠ legacyOneDec), .emissionSplitSum) ::
    (emissionSplitChecks "staking" p.emissionSplitStaking ++
      emissionSplitChecks "poc" p.emissionSplitPoc ++
      emissionSplitChecks "sequencer" p.emissionSplitSequencer ++
      emissionSplitChecks "treasury" p.emissionSplitTreasury ++
      [(decide (p.emissionSplitStaking < minStakingShare), .stakingBelowMin)])

def feeChecks : List (Bool × ParamsError) :=
  burnRateChecks "pos_gas" p.burnRatePosGas ++ burnRateChecks "poc_anchoring" p.burnRatePocAnchoring ++
    burnRateChecks "sequencer_gas" p.burnRateSequencerGas ++
    burnRateChecks "smart_contracts" p.burnRateSmartContracts ++
    burnRateChecks "ai_queries" p.burnRateAiQueries ++ burnRateChecks "messaging" p.burnRateMessaging ++
    [(decide (p.treasuryBurnRedirect < 0), .treasuryRedirectNegative),
     (decide (p.treasuryBurnRedirect > newDecWithPrec 20 2), .treasuryRedirectAboveMax),
     (p.feeBurnEnabled && decide (p.feeBurnRatio < 0 ∨ p.feeBurnRatio > legacyOneDec), .feeBurnRatio),
     (p.feeBurnEnabled && decide (p.treasuryFeeRatio < 0 ∨ p.treasuryFeeRatio > legacyOneDec),
      .treasuryFeeRatio),
     (p.feeBurnEnabled && decide (p.feeBurnRatio + p.treasuryFeeRatio ≠ legacyOneDec), .feeRatioSum)]

def policyChecks : List (Bool × ParamsError) :=
  [(p.minGasPrice.any fun price => decide (price < 0), .minGasPrice),
   (decide (p.gasConversionRatioContinuity < 0 ∨ p.gasConversionRatioContinuity > legacyOneDec),
    .gasConversion "continuity"),
   (decide (p.gasConversionRatioSequencer < 0 ∨ p.gasConversionRatioSequencer > legacyOneDec),
    .gasConversion "sequencer"),
   (p.pocAlpha.any fun alpha => decide (alpha < 0), .pocAlphaNegative),
   (p.pocAlpha.any fun alpha => decide (alpha > legacyOneDec), .pocAlphaAboveMax),
   (decide (p.rewardStreamInterval = 0), .rewardIntervalZero),
   (decide (p.rewardStreamInterval > 10000), .rewardIntervalTooLarge),
   (decide (p.minProposalDeposit ≤ 0), .minProposalDeposit),
   (decide (p.quorumPercentage ≤ 0 ∨ p.quorumPercentage ≥ legacyOneDec), .quorum),
   (decide (p.passPercentage ≤ 0 ∨ p.passPercentage ≥ legacyOneDec), .pass),
   (decide (p.votingPeriod = 0), .votingPeriodZero),
   (decide (p.votingPeriod > 2592000), .votingPeriodTooLong),
   (decide (p.paramChangeDelay = 0), .paramChangeDelayZero),
   (decide (p.paramChangeDelay > 604800), .paramChangeDelayTooLong)]

def adaptiveBurnChecks : List (Bool × ParamsError) :=
  [(p.adaptiveBurnEnabled &&
      decide (p.minBurnRatio < newDecWithPrec 70 2 ∨ p.minBurnRatio > legacyOneDec), .minBurnRatio),
   (p.adaptiveBurnEnabled &&
      decide (p.maxBurnRatio < newDecWithPrec 70 2 ∨ p.maxBurnRatio > newDecWithPrec 95 2), .maxBurnRatio),
   (p.adaptiveBurnEnabled && decide (p.minBurnRatio > p.defaultBurnRatio), .minAboveDefault),
   (p.adaptiveBurnEnabled && decide (p.defaultBurnRatio > p.maxBurnRatio), .defaultAboveMax),
   (p.adaptiveBurnEnabled &&
      decide (p.blockCongestionThreshold < newDecWithPrec 50 2 ∨ p.blockCongestionThreshold > legacyOneDec),
    .congestionThreshold),
   (p.adaptiveBurnEnabled && decide (p.txPerDayTarget = 0), .txPerDayTarget),
   (p.adaptiveBurnEnabled &&
      decide (p.treasuryFloorPct < 0 ∨ p.treasuryFloorPct > newDecWithPrec 20 2), .treasuryFloor),
   (p.adaptiveBurnEnabled &&
      decide (p.burnAdjustmentSmoothing < 10 ∨ p.burnAdjustmentSmoothing > 1000), .burnAdjustmentSmoothing),
   (p.adaptiveBurnEnabled && decide (p.lastAppliedBurnRatio ≠ 0) &&
      decide (p.lastAppliedBurnRatio < p.minBurnRatio ∨ p.lastAppliedBurnRatio > p.maxBurnRatio),
    .lastAppliedBurnRatio)]

-- The checks in the order of the source: the first one that fires gives the error.
def checks : List (Bool × ParamsError) :=
  p.supplyChecks ++ p.emissionChecks ++ p.feeChecks ++ p.policyChecks ++ p.adaptiveBurnChecks

def validate : Option ParamsError :=
  (p.checks.find? fun check => check.1).map Prod.snd

def Valid : Prop := p.validate = none

instance : Decidable p.Valid := inferInstanceAs (Decidable (p.validate = none))

variable {p}

theorem Valid.passes (valid : p.Valid) : ∀ check ∈ p.checks, check.1 = false := by
  intro check mem
  have none_fires := List.find?_eq_none.1 (Option.map_eq_none_iff.1 valid) check mem
  exact Bool.not_eq_true _ ▸ none_fires

theorem Valid.groups (valid : p.Valid) :
    (∀ check ∈ p.emissionChecks, check.1 = false) ∧ (∀ check ∈ p.feeChecks, check.1 = false) ∧
      (∀ check ∈ p.policyChecks, check.1 = false) ∧
      ∀ check ∈ p.adaptiveBurnChecks, check.1 = false := by
  have passes := valid.passes
  simp only [checks, List.forall_mem_append] at passes
  obtain ⟨⟨⟨⟨-, emission⟩, fee⟩, policy⟩, adaptive⟩ := passes
  exact ⟨emission, fee, policy, adaptive⟩

theorem Valid.feeRatios (valid : p.Valid) (enabled : p.feeBurnEnabled = true) :
    0 ≤ p.feeBurnRatio ∧ 0 ≤ p.treasuryFeeRatio ∧ p.treasuryFeeRatio ≤ legacyOneDec ∧
      p.feeBurnRatio + p.treasuryFeeRatio = legacyOneDec := by
  have fee := valid.groups.2.1
  simp only [feeChecks, List.forall_mem_append, List.forall_mem_cons, enabled, Bool.true_and,
    decide_eq_false_iff_not, not_or, not_lt, gt_iff_lt, ne_eq, not_not] at fee
  obtain ⟨-, -, -, ⟨burn, -⟩, ⟨treasury, treasuryLe⟩, sum, -⟩ := fee
  exact ⟨burn, treasury, treasuryLe, sum⟩

theorem Valid.redirect (valid : p.Valid) :
    0 ≤ p.treasuryBurnRedirect ∧ p.treasuryBurnRedirect ≤ newDecWithPrec 20 2 := by
  have fee := valid.groups.2.1
  simp only [feeChecks, List.forall_mem_append, List.forall_mem_cons, decide_eq_false_iff_not, not_lt,
    gt_iff_lt] at fee
  obtain ⟨-, negative, above, -⟩ := fee
  exact ⟨negative, above⟩

theorem Valid.burnRatios (valid : p.Valid) (enabled : p.adaptiveBurnEnabled = true) :
    newDecWithPrec 70 2 ≤ p.minBurnRatio ∧ p.maxBurnRatio ≤ newDecWithPrec 95 2 ∧
      p.minBurnRatio ≤ p.defaultBurnRatio ∧ p.defaultBurnRatio ≤ p.maxBurnRatio ∧
      (p.lastAppliedBurnRatio ≠ 0 →
        p.minBurnRatio ≤ p.lastAppliedBurnRatio ∧ p.lastAppliedBurnRatio ≤ p.maxBurnRatio) := by
  have adaptive := valid.groups.2.2.2
  simp only [adaptiveBurnChecks, List.forall_mem_cons, enabled, Bool.true_and, Bool.and_eq_false_imp,
    decide_eq_true_eq, decide_eq_false_iff_not, not_or, not_lt, gt_iff_lt] at adaptive
  obtain ⟨⟨min, -⟩, ⟨-, max⟩, below, above, -, -, -, -, last, -⟩ := adaptive
  exact ⟨min, max, below, above, last⟩

theorem Valid.splits (valid : p.Valid) :
    p.emissionSplitStaking + p.emissionSplitPoc + p.emissionSplitSequencer + p.emissionSplitTreasury =
        legacyOneDec ∧
      minStakingShare ≤ p.emissionSplitStaking ∧ 0 ≤ p.emissionSplitPoc ∧ 0 ≤ p.emissionSplitSequencer ∧
      0 ≤ p.emissionSplitTreasury := by
  have emission := valid.groups.1
  simp only [emissionChecks, emissionSplitChecks, List.forall_mem_append, List.forall_mem_cons,
    decide_eq_false_iff_not, not_lt, gt_iff_lt, ne_eq, not_not] at emission
  obtain ⟨sum, ⟨⟨⟨-, poc, -⟩, sequencer, -⟩, treasury, -⟩, staking, -⟩ := emission
  exact ⟨sum, staking, poc, sequencer, treasury⟩

end Params

structure BurnRecord where
  burnId : Nat
  amount : Int
  source : BurnSource
  chainId : String
  blockHeight : Int
  txHash : String
  timestamp : Int
  burnerAddress : Account
  treasuryRedirect : Int

structure RewardRecipient where
  address : String
  amount : Int
  destinationChain : String
  ibcChannel : String

structure IBCRewardPacket where
  amount : String
  recipientModule : String
  sourceChain : String
  epoch : Int
  deriving DecidableEq

end Omniphi.Tokenomics
