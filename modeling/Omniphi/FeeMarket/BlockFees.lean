import Omniphi.Decimals

/-! The two burn paths of the fee market: the split of a block's fees at its end and the split computed
for one activity. -/

namespace Omniphi.FeeMarket

def percent (n : Int) : LegacyDec := n * 10 ^ 16

def oneDec : LegacyDec := percent 100

def protocolMaxTxGasHardCap : Int := 10000000

structure FeeMarketParams where
  minGasPrice : LegacyDec
  baseFeeInitial : LegacyDec
  elasticityMultiplier : LegacyDec
  maxTipRatio : LegacyDec
  targetBlockUtilization : LegacyDec
  maxTxGas : Int
  freeTxQuota : Int
  burnCool : LegacyDec
  burnNormal : LegacyDec
  burnHot : LegacyDec
  utilCoolThreshold : LegacyDec
  utilHotThreshold : LegacyDec
  validatorFeeRatio : LegacyDec
  treasuryFeeRatio : LegacyDec
  maxBurnRatio : LegacyDec
  minGasPriceFloor : LegacyDec
  multiplierMessaging : LegacyDec
  multiplierPosGas : LegacyDec
  multiplierPocAnchoring : LegacyDec
  multiplierSmartContracts : LegacyDec
  multiplierAiQueries : LegacyDec
  multiplierSequencer : LegacyDec
  minMultiplier : LegacyDec
  maxMultiplier : LegacyDec

inductive ActivityType
  | messaging
  | posGas
  | pocAnchoring
  | smartContracts
  | aiQueries
  | sequencer
  | other (name : String)
deriving DecidableEq

def anchorLaneMaxTxGas : Int := 2000000

def defaultParams : FeeMarketParams where
  minGasPrice := 25 * 10 ^ 15
  baseFeeInitial := 25 * 10 ^ 15
  elasticityMultiplier := 1125 * 10 ^ 15
  maxTipRatio := percent 20
  targetBlockUtilization := percent 33
  maxTxGas := anchorLaneMaxTxGas
  freeTxQuota := 100
  burnCool := percent 10
  burnNormal := percent 20
  burnHot := percent 40
  utilCoolThreshold := percent 16
  utilHotThreshold := percent 33
  validatorFeeRatio := percent 70
  treasuryFeeRatio := percent 30
  maxBurnRatio := percent 50
  minGasPriceFloor := percent 1
  multiplierMessaging := percent 50
  multiplierPosGas := percent 100
  multiplierPocAnchoring := percent 75
  multiplierSmartContracts := percent 150
  multiplierAiQueries := percent 125
  multiplierSequencer := percent 125
  minMultiplier := percent 25
  maxMultiplier := percent 200

namespace FeeMarketParams

variable (p : FeeMarketParams)

def getActivityMultiplier : ActivityType → LegacyDec
  | .messaging => p.multiplierMessaging
  | .posGas => p.multiplierPosGas
  | .pocAnchoring => p.multiplierPocAnchoring
  | .smartContracts => p.multiplierSmartContracts
  | .aiQueries => p.multiplierAiQueries
  | .sequencer => p.multiplierSequencer
  | .other _ => p.multiplierPosGas

def multiplierCheck (name : String) (value : LegacyDec) : Bool × String :=
  (value < p.minMultiplier || value > p.maxMultiplier, name ++ " multiplier out of bounds")

/-- The checks of `Validate` in the source's order, each with the text of its refusal up to the values it
shows. The multipliers are checked in the order of a map. -/
def checks : List (Bool × String) :=
  [(p.minGasPrice < 0, "min gas price cannot be negative"),
    (p.minGasPrice < p.minGasPriceFloor, "min gas price cannot be below floor"),
    (p.minGasPrice > oneDec, "min gas price too high"),
    (p.baseFeeInitial < 0, "base fee initial cannot be negative"),
    (p.elasticityMultiplier < percent 101 || p.elasticityMultiplier > percent 150,
      "elasticity multiplier must be between 1.01 and 1.50"),
    (p.maxTipRatio < 0 || p.maxTipRatio > percent 50, "max tip ratio must be between 0 and 0.50"),
    (p.targetBlockUtilization < percent 20 || p.targetBlockUtilization > percent 80,
      "target block utilization must be between 0.20 and 0.80"),
    (p.maxTxGas < 100000, "max tx gas must be at least 100k"),
    (p.maxTxGas > protocolMaxTxGasHardCap, "max tx gas exceeds protocol hard cap"),
    (p.freeTxQuota < 0 || p.freeTxQuota > 1000, "free tx quota must be between 0 and 1000"),
    (p.burnCool < 0 || p.burnCool > percent 20, "burn cool must be between 0 and 0.20"),
    (p.burnNormal < 0 || p.burnNormal > percent 30, "burn normal must be between 0 and 0.30"),
    (p.burnHot < 0 || p.burnHot > percent 50, "burn hot must be between 0 and 0.50"),
    (p.burnCool > p.burnNormal || p.burnNormal > p.burnHot,
      "burn tiers must be ordered: cool <= normal <= hot"),
    (p.utilCoolThreshold ≥ p.utilHotThreshold, "util cool threshold must be < util hot threshold"),
    (p.validatorFeeRatio + p.treasuryFeeRatio ≠ oneDec, "validator + treasury fee ratios must equal 1.0"),
    (p.maxBurnRatio > percent 50, "max burn ratio cannot exceed 0.50"),
    (p.burnHot > p.maxBurnRatio, "burn hot cannot exceed max burn ratio"),
    (p.minGasPriceFloor < percent 1, "min gas price floor cannot be below 0.01"),
    (p.minMultiplier ≥ p.maxMultiplier, "min multiplier must be < max multiplier"),
    p.multiplierCheck "messaging" p.multiplierMessaging,
    p.multiplierCheck "pos_gas" p.multiplierPosGas,
    p.multiplierCheck "poc_anchoring" p.multiplierPocAnchoring,
    p.multiplierCheck "smart_contracts" p.multiplierSmartContracts,
    p.multiplierCheck "ai_queries" p.multiplierAiQueries,
    p.multiplierCheck "sequencer" p.multiplierSequencer]

def validate : Except String Unit :=
  match p.checks.find? (·.1) with
  | some check => .error check.2
  | none => .ok ()

def Valid : Prop := p.validate = .ok ()

instance : Decidable p.Valid := inferInstanceAs (Decidable (_ = _))

def selectBurnTier (utilization : LegacyDec) : LegacyDec :=
  if utilization < p.utilCoolThreshold then p.burnCool
  else if utilization ≥ p.utilHotThreshold then p.burnHot
  else p.burnNormal

variable {p}

theorem Valid.passes (valid : p.Valid) : ∀ check ∈ p.checks, check.1 = false := by
  unfold Valid validate at valid
  cases found : p.checks.find? (·.1) with
  | none =>
      intro check member
      simpa using List.find?_eq_none.1 found check member
  | some check =>
      rw [found] at valid
      cases valid

theorem Valid.check (valid : p.Valid) (i : Fin p.checks.length) : (p.checks.get i).1 = false :=
  valid.passes _ (List.get_mem p.checks i)

theorem Valid.rates (valid : p.Valid) (utilization : LegacyDec) :
    0 ≤ p.selectBurnTier utilization ∧ p.selectBurnTier utilization ≤ p.maxBurnRatio ∧
      p.maxBurnRatio ≤ percent 50 := by
  have length : p.checks.length = 26 := rfl
  have cool : (decide (p.burnCool < 0) || decide (p.burnCool > percent 20)) = false :=
    valid.check ⟨10, by omega⟩
  have ordered : (decide (p.burnCool > p.burnNormal) || decide (p.burnNormal > p.burnHot)) = false :=
    valid.check ⟨13, by omega⟩
  have cap : decide (p.maxBurnRatio > percent 50) = false := valid.check ⟨16, by omega⟩
  have hot : decide (p.burnHot > p.maxBurnRatio) = false := valid.check ⟨17, by omega⟩
  simp only [Bool.or_eq_false_iff, decide_eq_false_iff_not, gt_iff_lt, not_lt] at cool ordered cap hot
  obtain ⟨coolNormal, normalHot⟩ := ordered
  unfold selectBurnTier
  split
  · exact ⟨cool.1, coolNormal.trans (normalHot.trans hot), cap⟩
  · split
    · exact ⟨cool.1.trans (coolNormal.trans normalHot), hot, cap⟩
    · exact ⟨cool.1.trans coolNormal, normalHot.trans hot, cap⟩

end FeeMarketParams

section Split

structure BurnSplit where
  burnAmount : Int
  treasuryAmount : Int
  validatorAmount : Int
deriving DecidableEq

def atLeastZero (n : Int) : Int := if n < 0 then 0 else n

variable (params : FeeMarketParams) (utilization : LegacyDec)

def blockSplit (totalFees : Int) : BurnSplit :=
  let burnRate := params.selectBurnTier utilization
  let burnRate := if burnRate > params.maxBurnRatio then params.maxBurnRatio else burnRate
  let burnAmount := atLeastZero (LegacyDec.truncateInt (LegacyDec.mulInt burnRate totalFees))
  let distributableAmount := atLeastZero (totalFees - burnAmount)
  let treasuryAmount := atLeastZero
    (LegacyDec.truncateInt (LegacyDec.mulInt params.treasuryFeeRatio distributableAmount))
  ⟨burnAmount, treasuryAmount, atLeastZero (distributableAmount - treasuryAmount)⟩

def computeEffectiveBurn (totalFee : Int) (activityType : ActivityType) : BurnSplit :=
  let baseBurnRate := params.selectBurnTier utilization
  let activityMultiplier := params.getActivityMultiplier activityType
  let effectiveBurnRate := LegacyDec.mul baseBurnRate activityMultiplier
  let effectiveBurnRate :=
    if effectiveBurnRate > params.maxBurnRatio then params.maxBurnRatio else effectiveBurnRate
  let burnAmount := atLeastZero
    (LegacyDec.truncateInt (LegacyDec.mul effectiveBurnRate (LegacyDec.ofInt totalFee)))
  let distributableAmount := atLeastZero (totalFee - burnAmount)
  let treasuryAmount := atLeastZero (LegacyDec.truncateInt
    (LegacyDec.mul params.treasuryFeeRatio (LegacyDec.ofInt distributableAmount)))
  ⟨burnAmount, treasuryAmount, atLeastZero (distributableAmount - treasuryAmount)⟩

theorem computeEffectiveBurn_eq {activityType : ActivityType}
    (weight : params.getActivityMultiplier activityType = oneDec) (totalFee : Int) :
    computeEffectiveBurn params utilization totalFee activityType = blockSplit params utilization totalFee := by
  have one : oneDec = LegacyDec.ofInt 1 := rfl
  have unit (a : LegacyDec) : LegacyDec.mulInt a 1 = a := Int.mul_one a
  simp only [computeEffectiveBurn, blockSplit, weight, one, LegacyDec.mul_ofInt, unit]

variable {params utilization}

/-- The parts of a split are non-negative and make up the fee, of which at most the cap is burned. -/
structure SplitSound (params : FeeMarketParams) (totalFees : Int) (parts : BurnSplit) : Prop where
  burn : 0 ≤ parts.burnAmount
  treasury : 0 ≤ parts.treasuryAmount
  validator : 0 ≤ parts.validatorAmount
  whole : parts.burnAmount + parts.treasuryAmount + parts.validatorAmount = totalFees
  capped : parts.burnAmount * LegacyDec.precisionReuse ≤ params.maxBurnRatio * totalFees

theorem atLeastZero_nonneg (n : Int) : 0 ≤ atLeastZero n := by
  unfold atLeastZero
  split <;> omega

theorem atLeastZero_of_nonneg {n : Int} (nonneg : 0 ≤ n) : atLeastZero n = n := if_neg (Int.not_lt.2 nonneg)

theorem truncate_nonneg {product : Int} (nonneg : 0 ≤ product) :
    LegacyDec.truncateInt product = product / 10 ^ 18 :=
  Int.tdiv_eq_ediv_of_nonneg nonneg

theorem half_of_fee {rate n : Int} (half : rate ≤ 500000000000000000) (nonneg : 0 ≤ n) :
    2 * (rate * n / 10 ^ 18) ≤ n := by
  have bound : rate * n ≤ 500000000000000000 * n := Int.mul_le_mul_of_nonneg_right half nonneg
  omega

theorem share_of_fee {rate n : Int} (share : rate ≤ 1000000000000000000) (nonneg : 0 ≤ n) :
    rate * n / 10 ^ 18 ≤ n := by
  have bound : rate * n ≤ 1000000000000000000 * n := Int.mul_le_mul_of_nonneg_right share nonneg
  omega

theorem blockSplit_burn (valid : params.Valid) {n : Int} (nonneg : 0 ≤ n) :
    (blockSplit params utilization n).burnAmount = params.selectBurnTier utilization * n / 10 ^ 18 ∧
    2 * (blockSplit params utilization n).burnAmount ≤ n := by
  obtain ⟨rate, capped, cap⟩ := valid.rates utilization
  have product : 0 ≤ params.selectBurnTier utilization * n := Int.mul_nonneg rate nonneg
  have burned : (blockSplit params utilization n).burnAmount =
      params.selectBurnTier utilization * n / 10 ^ 18 := by
    simp only [blockSplit, if_neg (Int.not_lt.2 capped), LegacyDec.mulInt]
    rw [truncate_nonneg product, atLeastZero_of_nonneg (Int.ediv_nonneg product (by decide))]
  refine ⟨burned, ?_⟩
  rw [burned]
  exact half_of_fee (capped.trans cap) nonneg

theorem blockSplit_treasury (n : Int) : (blockSplit params utilization n).treasuryAmount =
    atLeastZero (LegacyDec.truncateInt (LegacyDec.mulInt params.treasuryFeeRatio
      (atLeastZero (n - (blockSplit params utilization n).burnAmount)))) := rfl

theorem blockSplit_validator (n : Int) : (blockSplit params utilization n).validatorAmount =
    atLeastZero (atLeastZero (n - (blockSplit params utilization n).burnAmount) -
      (blockSplit params utilization n).treasuryAmount) := rfl

theorem treasury_le (share : params.treasuryFeeRatio ≤ oneDec) {left : Int} (nonneg : 0 ≤ left) :
    atLeastZero (LegacyDec.truncateInt (LegacyDec.mulInt params.treasuryFeeRatio left)) ≤ left := by
  rcases lt_or_ge (params.treasuryFeeRatio * left) (0 : Int) with negative | product
  · have below : LegacyDec.truncateInt (LegacyDec.mulInt params.treasuryFeeRatio left) ≤ 0 :=
      (Int.tdiv_le_tdiv (by decide) (Int.le_of_lt negative)).trans_eq (Int.zero_tdiv _)
    unfold atLeastZero
    split <;> omega
  · rw [LegacyDec.mulInt, truncate_nonneg product,
      atLeastZero_of_nonneg (Int.ediv_nonneg product (by decide))]
    exact share_of_fee share nonneg

theorem splitSound_of_share (valid : params.Valid) (share : params.treasuryFeeRatio ≤ oneDec) {n : Int}
    (nonneg : 0 ≤ n) : SplitSound params n (blockSplit params utilization n) := by
  obtain ⟨burned, half⟩ := @blockSplit_burn params utilization valid n nonneg
  obtain ⟨rate, capped, -⟩ := valid.rates utilization
  have product : params.selectBurnTier utilization * n ≤ params.maxBurnRatio * n :=
    Int.mul_le_mul_of_nonneg_right capped nonneg
  have left : atLeastZero (n - (blockSplit params utilization n).burnAmount) =
      n - (blockSplit params utilization n).burnAmount := atLeastZero_of_nonneg (by omega)
  have covered := @treasury_le _ share (n - (blockSplit params utilization n).burnAmount) (by omega)
  have given := @blockSplit_treasury params utilization n
  have kept := @blockSplit_validator params utilization n
  rw [left] at given kept
  rw [← given] at covered
  rw [atLeastZero_of_nonneg (by omega)] at kept
  refine ⟨atLeastZero_nonneg _, atLeastZero_nonneg _, atLeastZero_nonneg _, by omega, ?_⟩
  rw [burned, LegacyDec.precisionReuse]
  exact (Int.ediv_mul_le _ (by decide)).trans product

theorem more_than_left {ratio left : Int} (more : 1000000000000000000 < ratio)
    (large : 1000000000000000000 ≤ left) :
    left < atLeastZero (LegacyDec.truncateInt (LegacyDec.mulInt ratio left)) := by
  have least : (1000000000000000000 + 1) * left ≤ ratio * left :=
    Int.mul_le_mul_of_nonneg_right (Int.add_one_le_of_lt more) (by omega)
  rw [LegacyDec.mulInt, truncate_nonneg (by omega), atLeastZero_of_nonneg (by omega)]
  omega

theorem share_of_splitSound (valid : params.Valid)
    (sound : SplitSound params (2 * 10 ^ 18) (blockSplit params utilization (2 * 10 ^ 18))) :
    params.treasuryFeeRatio ≤ oneDec := by
  by_contra more
  have half := (@blockSplit_burn params utilization valid (2 * 10 ^ 18) (by decide)).2
  have left : atLeastZero (2 * 10 ^ 18 - (blockSplit params utilization (2 * 10 ^ 18)).burnAmount) =
      2 * 10 ^ 18 - (blockSplit params utilization (2 * 10 ^ 18)).burnAmount :=
    atLeastZero_of_nonneg (by omega)
  have exceeds := @more_than_left _ (2 * 10 ^ 18 -
    (blockSplit params utilization (2 * 10 ^ 18)).burnAmount) (Int.not_le.1 more) (by omega)
  rw [← left, ← blockSplit_treasury, left] at exceeds
  have whole := sound.whole
  have validator := sound.validator
  omega

end Split

section Processing

inductive FeesError
  | feeCollectorNotFound
  | burnFailed (amount : Int)
  | treasuryAddressNotSet
  | treasuryTransferFailed (amount : Int)
deriving DecidableEq

inductive BankCall
  | burnCoins
  | sendCoinsFromModuleToAccount

/-- What a block's end finds: the tier's utilization, the addresses, and what the bank refuses whatever the
balances are. -/
structure Env where
  params : FeeMarketParams
  utilization : LegacyDec
  feeCollectorAddr : Option Account
  treasuryAddress : Option Account
  refuses : BankCall → Bool

structure FeeAccounts where
  bank : Bank
  cumulativeBurned : Int
  cumulativeToTreasury : Int
  cumulativeToValidators : Int

variable (env : Env) (feeCollector : Account)

def burnFees (accounts : FeeAccounts) (burnAmount : Int) : Except FeesError FeeAccounts :=
  if 0 < burnAmount then
    match if env.refuses .burnCoins then none else accounts.bank.burn feeCollector burnAmount.toNat with
    | none => .error (.burnFailed burnAmount)
    | some bank =>
        .ok { accounts with bank := bank, cumulativeBurned := accounts.cumulativeBurned + burnAmount }
  else .ok accounts

def payTreasury (accounts : FeeAccounts) (treasuryAmount : Int) : Except FeesError FeeAccounts :=
  if 0 < treasuryAmount then
    match env.treasuryAddress with
    | none => .error .treasuryAddressNotSet
    | some treasury =>
        match if env.refuses .sendCoinsFromModuleToAccount then none
          else accounts.bank.send feeCollector treasury treasuryAmount.toNat with
        | none => .error (.treasuryTransferFailed treasuryAmount)
        | some bank =>
            .ok { accounts with
              bank := bank
              cumulativeToTreasury := accounts.cumulativeToTreasury + treasuryAmount }
  else .ok accounts

def keepForValidators (accounts : FeeAccounts) (validatorAmount : Int) : FeeAccounts :=
  if 0 < validatorAmount then
    { accounts with cumulativeToValidators := accounts.cumulativeToValidators + validatorAmount }
  else accounts

-- A failed transfer comes after the burn, which stays.
def processBlockFees (accounts : FeeAccounts) : Except FeesError Unit × FeeAccounts :=
  match env.feeCollectorAddr with
  | none => (.error .feeCollectorNotFound, accounts)
  | some feeCollector =>
      let totalFees := accounts.bank.balance feeCollector
      if totalFees = 0 then (.ok (), accounts)
      else
        let parts := blockSplit env.params env.utilization totalFees
        match burnFees env feeCollector accounts parts.burnAmount with
        | .error error => (.error error, accounts)
        | .ok burned =>
            match payTreasury env feeCollector burned parts.treasuryAmount with
            | .error error => (.error error, burned)
            | .ok paid => (.ok (), keepForValidators paid parts.validatorAmount)

variable {env feeCollector} {accounts : FeeAccounts}

theorem burnFees_zero {burnAmount : Int} (none : burnAmount ≤ 0) :
    burnFees env feeCollector accounts burnAmount = .ok accounts := if_neg (Int.not_lt.2 none)

theorem burnFees_refused {burnAmount : Int} (some : 0 < burnAmount) (refused : env.refuses .burnCoins = true) :
    burnFees env feeCollector accounts burnAmount = .error (.burnFailed burnAmount) := by
  simp [burnFees, some, refused]

theorem burnFees_covered {burnAmount : Int} (some : 0 < burnAmount)
    (accepted : env.refuses .burnCoins = false)
    (covered : burnAmount.toNat ≤ accounts.bank.balance feeCollector) :
    ∃ burned, burnFees env feeCollector accounts burnAmount = .ok burned ∧
      burned.bank.balance feeCollector + burnAmount.toNat = accounts.bank.balance feeCollector ∧
      burned.cumulativeBurned = accounts.cumulativeBurned + burnAmount := by
  obtain ⟨bank, ran⟩ := Option.isSome_iff_exists.1 (Ledger.burn_isSome covered)
  have left := (Ledger.burn_spec ran).2 feeCollector
  rw [if_pos rfl] at left
  refine ⟨{ accounts with bank := bank, cumulativeBurned := accounts.cumulativeBurned + burnAmount }, ?_, left,
    rfl⟩
  simp [burnFees, some, accepted, ran]

theorem payTreasury_zero {treasuryAmount : Int} (none : treasuryAmount ≤ 0) :
    payTreasury env feeCollector accounts treasuryAmount = .ok accounts := if_neg (Int.not_lt.2 none)

theorem payTreasury_covered {treasuryAmount : Int} {treasury : Account}
    (known : env.treasuryAddress = some treasury)
    (accepted : env.refuses .sendCoinsFromModuleToAccount = false)
    (covered : treasuryAmount.toNat ≤ accounts.bank.balance feeCollector) :
    ∃ paid, payTreasury env feeCollector accounts treasuryAmount = .ok paid := by
  by_cases some : 0 < treasuryAmount
  · obtain ⟨bank, ran⟩ := Option.isSome_iff_exists.1
      (@Ledger.send_isSome _ _ _ feeCollector treasury _ covered)
    refine ⟨{ accounts with
      bank := bank
      cumulativeToTreasury := accounts.cumulativeToTreasury + treasuryAmount }, ?_⟩
    simp [payTreasury, some, known, accepted, ran]
  · exact ⟨accounts, if_neg some⟩

theorem payTreasury_refused {treasuryAmount : Int} (some : 0 < treasuryAmount)
    (refused : env.treasuryAddress = none ∨ env.refuses .sendCoinsFromModuleToAccount = true) :
    ∃ error, payTreasury env feeCollector accounts treasuryAmount = .error error := by
  cases known : env.treasuryAddress with
  | none => exact ⟨.treasuryAddressNotSet, by simp [payTreasury, some, known]⟩
  | some treasury =>
      rw [known] at refused
      have refused := refused.resolve_left (Option.some_ne_none _)
      exact ⟨.treasuryTransferFailed treasuryAmount, by simp [payTreasury, some, known, refused]⟩

end Processing

section AllOrNothing

variable (env : Env)

def FeesMeet : Prop :=
  (∀ n : Nat, SplitSound env.params n (blockSplit env.params env.utilization n) ∧
    ∀ activityType, env.params.getActivityMultiplier activityType = oneDec →
      computeEffectiveBurn env.params env.utilization n activityType =
        blockSplit env.params env.utilization n) ∧
  ∀ accounts, (processBlockFees env accounts).1 ≠ .ok () → (processBlockFees env accounts).2 = accounts

/-- No burn can be followed by a payment that fails. -/
def PaymentSafe : Prop :=
  env.feeCollectorAddr = none ∨ env.refuses .burnCoins = true ∨
    env.params.selectBurnTier env.utilization = 0 ∨ env.params.treasuryFeeRatio ≤ 0 ∨
    env.treasuryAddress.isSome ∧ env.refuses .sendCoinsFromModuleToAccount = false

variable {env}

section Steps

variable {feeCollector : Account} {accounts : FeeAccounts} (collector : env.feeCollectorAddr = some feeCollector)
  (fees : accounts.bank.balance feeCollector ≠ 0)

include collector fees

theorem processBlockFees_burnFailed {error : FeesError}
    (failed : burnFees env feeCollector accounts
      (blockSplit env.params env.utilization (accounts.bank.balance feeCollector)).burnAmount = .error error) :
    processBlockFees env accounts = (.error error, accounts) := by
  simp only [processBlockFees, collector, if_neg fees, failed]

theorem processBlockFees_payFailed {error : FeesError} {burned : FeeAccounts}
    (burns : burnFees env feeCollector accounts
      (blockSplit env.params env.utilization (accounts.bank.balance feeCollector)).burnAmount = .ok burned)
    (failed : payTreasury env feeCollector burned
      (blockSplit env.params env.utilization (accounts.bank.balance feeCollector)).treasuryAmount =
        .error error) :
    processBlockFees env accounts = (.error error, burned) := by
  simp only [processBlockFees, collector, if_neg fees, burns, failed]

theorem processBlockFees_paid {burned paid : FeeAccounts}
    (burns : burnFees env feeCollector accounts
      (blockSplit env.params env.utilization (accounts.bank.balance feeCollector)).burnAmount = .ok burned)
    (pays : payTreasury env feeCollector burned
      (blockSplit env.params env.utilization (accounts.bank.balance feeCollector)).treasuryAmount = .ok paid) :
    (processBlockFees env accounts).1 = .ok () := by
  simp only [processBlockFees, collector, if_neg fees, burns, pays]

end Steps

theorem treasuryAmount_nonpos (ratio : env.params.treasuryFeeRatio ≤ 0) (n : Int) :
    (blockSplit env.params env.utilization n).treasuryAmount ≤ 0 := by
  have left := atLeastZero_nonneg (n - (blockSplit env.params env.utilization n).burnAmount)
  have product : env.params.treasuryFeeRatio *
      atLeastZero (n - (blockSplit env.params env.utilization n).burnAmount) ≤ 0 :=
    Int.mul_nonpos_of_nonpos_of_nonneg ratio left
  have truncated : LegacyDec.truncateInt (LegacyDec.mulInt env.params.treasuryFeeRatio
      (atLeastZero (n - (blockSplit env.params env.utilization n).burnAmount))) ≤ 0 :=
    (Int.tdiv_le_tdiv (by decide) product).trans_eq (Int.zero_tdiv _)
  rw [blockSplit_treasury]
  generalize LegacyDec.truncateInt _ = treasury at *
  unfold atLeastZero
  split <;> omega

theorem processBlockFees_atomic (valid : env.params.Valid) (share : env.params.treasuryFeeRatio ≤ oneDec)
    (safe : PaymentSafe env) (accounts : FeeAccounts) (failed : (processBlockFees env accounts).1 ≠ .ok ()) :
    (processBlockFees env accounts).2 = accounts := by
  cases collector : env.feeCollectorAddr with
  | none => simp only [processBlockFees, collector]
  | some feeCollector =>
      by_cases fees : accounts.bank.balance feeCollector = 0
      · simp only [processBlockFees, collector, if_pos fees]
      · have sound := @splitSound_of_share _ env.utilization valid share
          (accounts.bank.balance feeCollector) (Int.natCast_nonneg _)
        have rate := (@blockSplit_burn _ env.utilization valid (accounts.bank.balance feeCollector)
          (Int.natCast_nonneg _)).1
        by_cases burnsNone : (blockSplit env.params env.utilization
            (accounts.bank.balance feeCollector)).burnAmount ≤ 0
        · have burns := @burnFees_zero env feeCollector accounts _ burnsNone
          cases pays : payTreasury env feeCollector accounts (blockSplit env.params env.utilization
              (accounts.bank.balance feeCollector)).treasuryAmount with
          | error error => rw [processBlockFees_payFailed collector fees burns pays]
          | ok paid => exact absurd (processBlockFees_paid collector fees burns pays) failed
        · have some := Int.not_le.1 burnsNone
          cases refused : env.refuses .burnCoins with
          | true => rw [processBlockFees_burnFailed collector fees (burnFees_refused some refused)]
          | false =>
              have whole := sound.whole
              have treasury := sound.treasury
              have validator := sound.validator
              obtain ⟨burned, burns, left, -⟩ := @burnFees_covered env feeCollector accounts _ some refused
                (by omega)
              have paid : ∃ paid, payTreasury env feeCollector burned (blockSplit env.params env.utilization
                  (accounts.bank.balance feeCollector)).treasuryAmount = .ok paid := by
                rcases safe with none | refuses | zero | ratio | ⟨known, accepted⟩
                · rw [collector] at none
                  cases none
                · rw [refused] at refuses
                  cases refuses
                · rw [rate, zero] at some
                  simp at some
                · exact ⟨burned, payTreasury_zero (treasuryAmount_nonpos ratio _)⟩
                · obtain ⟨address, known⟩ := Option.isSome_iff_exists.1 known
                  exact payTreasury_covered known accepted (by omega)
              obtain ⟨paid, pays⟩ := paid
              exact absurd (processBlockFees_paid collector fees burns pays) failed

def feesOf (feeCollector : Account) (n : Nat) : FeeAccounts :=
  ⟨Ledger.empty.mint feeCollector n, 0, 0, 0⟩

theorem balance_feesOf (feeCollector : Account) (n : Nat) :
    (feesOf feeCollector n).bank.balance feeCollector = n := by
  simp [feesOf, Ledger.empty]

theorem some_to_treasury {ratio left : Int} (pos : 0 < ratio) (large : 1000000000000000000 ≤ left) :
    0 < atLeastZero (LegacyDec.truncateInt (LegacyDec.mulInt ratio left)) := by
  have least : 1 * left ≤ ratio * left := Int.mul_le_mul_of_nonneg_right (Int.add_one_le_of_lt pos) (by omega)
  rw [LegacyDec.mulInt, truncate_nonneg (by omega), atLeastZero_of_nonneg (by omega)]
  omega

theorem least_burned {rate : Int} (pos : 0 < rate) : 0 < rate * ((2 * 10 ^ 18 : Nat) : Int) / 10 ^ 18 := by
  omega

theorem paymentSafe_of_atomic (valid : env.params.Valid) (share : env.params.treasuryFeeRatio ≤ oneDec)
    (atomic : ∀ accounts, (processBlockFees env accounts).1 ≠ .ok () →
      (processBlockFees env accounts).2 = accounts) : PaymentSafe env := by
  by_contra exposed
  simp only [PaymentSafe, not_or, not_and, Bool.not_eq_true, Bool.not_eq_false, not_le] at exposed
  obtain ⟨known, accepted, rate, ratio, refused⟩ := exposed
  obtain ⟨feeCollector, collector⟩ := Option.ne_none_iff_exists'.1 known
  have balance := balance_feesOf feeCollector (2 * 10 ^ 18)
  have fees : (feesOf feeCollector (2 * 10 ^ 18)).bank.balance feeCollector ≠ 0 := by
    rw [balance]
    decide
  have sound := @splitSound_of_share _ env.utilization valid share
    ((feesOf feeCollector (2 * 10 ^ 18)).bank.balance feeCollector) (Int.natCast_nonneg _)
  obtain ⟨burned, half⟩ := @blockSplit_burn _ env.utilization valid
    ((feesOf feeCollector (2 * 10 ^ 18)).bank.balance feeCollector) (Int.natCast_nonneg _)
  have given := @blockSplit_treasury env.params env.utilization
    ((feesOf feeCollector (2 * 10 ^ 18)).bank.balance feeCollector)
  have some : 0 < (blockSplit env.params env.utilization
      ((feesOf feeCollector (2 * 10 ^ 18)).bank.balance feeCollector)).burnAmount := by
    have pos : 0 < env.params.selectBurnTier env.utilization :=
      lt_of_le_of_ne (valid.rates env.utilization).1 (Ne.symm rate)
    rw [burned, balance]
    exact least_burned pos
  have paid : 0 < (blockSplit env.params env.utilization
      ((feesOf feeCollector (2 * 10 ^ 18)).bank.balance feeCollector)).treasuryAmount := by
    rw [given, atLeastZero_of_nonneg (n := _ - _) (by omega)]
    exact some_to_treasury ratio (by omega)
  have whole := sound.whole
  have validator := sound.validator
  obtain ⟨after, burns, -, counted⟩ := @burnFees_covered env feeCollector (feesOf feeCollector (2 * 10 ^ 18)) _
    some accepted (by omega)
  have blocked : env.treasuryAddress = none ∨ env.refuses .sendCoinsFromModuleToAccount = true := by
    cases address : env.treasuryAddress with
    | none => exact .inl rfl
    | some treasury => exact .inr (refused (by rw [address]; rfl))
  obtain ⟨error, pays⟩ := @payTreasury_refused env feeCollector after _ paid blocked
  have failed := processBlockFees_payFailed collector fees burns pays
  have same := atomic (feesOf feeCollector (2 * 10 ^ 18)) (by rw [failed]; simp)
  rw [failed] at same
  have same : after = feesOf feeCollector (2 * 10 ^ 18) := same
  rw [same] at counted
  omega

/-- The two paths agree and lose nothing just when the treasury's ratio is a share and no burn can be
followed by a payment that fails. -/
theorem feesMeet_iff (valid : env.params.Valid) :
    FeesMeet env ↔ env.params.treasuryFeeRatio ≤ oneDec ∧ PaymentSafe env := by
  constructor
  · rintro ⟨splits, atomic⟩
    have share := share_of_splitSound valid (splits (2 * 10 ^ 18)).1
    exact ⟨share, paymentSafe_of_atomic valid share atomic⟩
  · rintro ⟨share, safe⟩
    exact ⟨fun n => ⟨splitSound_of_share valid share (Int.natCast_nonneg n),
      fun _ weight => computeEffectiveBurn_eq _ _ weight n⟩, processBlockFees_atomic valid share safe⟩

section Instance

def feeCollectorAccount : Account := .module "fee_collector"

def envOf (params : FeeMarketParams) (treasuryAddress : Option Account) : Env :=
  ⟨params, percent 20, some feeCollectorAccount, treasuryAddress, fun _ => false⟩

theorem feesMeet_iff_default : FeesMeet (envOf defaultParams (some (.user "treasury"))) :=
  (@feesMeet_iff (envOf defaultParams (some (.user "treasury"))) (by decide)).2
    ⟨by decide, .inr (.inr (.inr (.inr ⟨rfl, rfl⟩)))⟩

def greedyParams : FeeMarketParams :=
  { defaultParams with validatorFeeRatio := percent (-50), treasuryFeeRatio := percent 150 }

/-- Without a treasury the fees are burned before the run fails, and a treasury's ratio above one hands out
more than the fee. -/
theorem fees_lost :
    (processBlockFees (envOf defaultParams none) (feesOf feeCollectorAccount 1000)).1 =
      .error .treasuryAddressNotSet ∧
    (processBlockFees (envOf defaultParams none) (feesOf feeCollectorAccount 1000)).2.cumulativeBurned =
      200 ∧
    (processBlockFees (envOf defaultParams none)
      (feesOf feeCollectorAccount 1000)).2.bank.balance feeCollectorAccount = 800 ∧
    greedyParams.Valid ∧ blockSplit greedyParams (percent 20) 1000 = ⟨200, 1200, 0⟩ := by
  decide +kernel

end Instance

end AllOrNothing

end Omniphi.FeeMarket
