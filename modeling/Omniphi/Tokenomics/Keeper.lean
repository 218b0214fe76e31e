import Omniphi.Tokenomics.Types

/-! The keeper of the tokenomics module: its counters, the burning of tokens and the processing of fees. -/

namespace Omniphi.Tokenomics

def moduleAccount : Account := .module "tokenomics"

def feeCollector : Account := .module "fee_collector"

/-- `blockedAddrs` are the accounts the bank lets no module pay. -/
structure TokenomicsKeeper where
  authority : String
  ibcWired : Bool
  params : Params
  bank : Bank
  blockedAddrs : Account → Bool
  treasuryAddress : Option Account
  currentSupply : Int
  totalMinted : Int
  totalBurned : Int
  treasuryInflows : Int
  accumulatedRedirectInflows : Int
  totalFeesBurned : Int
  totalFeesToTreasury : Int
  burnsBySource : BurnSource → Int
  burnsByChain : String → Int
  burnRecords : List BurnRecord
  nextBurnID : Nat
  processedBurnReports : List (String × String)

structure Ctx where
  blockHeight : Int
  blockTime : Int
  txHash : String

inductive Error
  | feeRatiosUnbalanced | collectFees | burnFees | sendTreasury | returnValidators | insufficientFeeSupply
  | invalidAmount | insufficientBalance | takeCoins | burnCoins | sendRedirect | insufficientSupply
  | supplyCapExceeded | mintCoins | sendMinted
  | invalidRecipient (address : String) | distributeLocally | unknownChain (chain : String)
  | params (error : ParamsError) | supplyCapImmutable | unauthorized
  | invalidAmountText (amount : String) | notPositive | noAuthority | invalidAuthority | redirectTimeout
  | invalidProof | unknownReporter (chain : String) | duplicateReport
  deriving DecidableEq

structure Failed where
  error : Error
  kept : TokenomicsKeeper

inductive Call
  | collect | mint | burn | restore | treasury | validators
  deriving DecidableEq

structure FeeSplit where
  burn : Int
  treasury : Int
  validators : Int

namespace TokenomicsKeeper

section Bank

variable (k : TokenomicsKeeper)

def sendCoins (refused : Bool) (src dst : Account) (amount : Int) : Option TokenomicsKeeper :=
  if refused then none
  else (k.bank.send src dst amount.toNat).map fun bank => { k with bank := bank }

def sendCoinsFromModuleToAccount (refused : Bool) (dst : Account) (amount : Int) :
    Option TokenomicsKeeper :=
  k.sendCoins (refused || k.blockedAddrs dst) moduleAccount dst amount

def burnCoins (refused : Bool) (amount : Int) : Option TokenomicsKeeper :=
  if refused then none
  else (k.bank.burn moduleAccount amount.toNat).map fun bank => { k with bank := bank }

def mintCoins (refused : Bool) (amount : Int) : Option TokenomicsKeeper :=
  if refused then none else some { k with bank := k.bank.mint moduleAccount amount.toNat }

-- A compensation whose own error is dropped.
def orElseKeep (step : Option TokenomicsKeeper) : TokenomicsKeeper := step.getD k

end Bank

section Counters

variable (k : TokenomicsKeeper)

def getTreasuryAddress : Account := k.treasuryAddress.getD moduleAccount

def incrementTreasuryInflows (amount : Int) : TokenomicsKeeper :=
  { k with treasuryInflows := k.treasuryInflows + amount }

def incrementAccumulatedRedirectInflows (amount : Int) : TokenomicsKeeper :=
  { k with accumulatedRedirectInflows := k.accumulatedRedirectInflows + amount }

def incrementTotalFeesBurned (amount : Int) : TokenomicsKeeper :=
  { k with totalFeesBurned := k.totalFeesBurned + amount }

def incrementTotalFeesToTreasury (amount : Int) : TokenomicsKeeper :=
  { k with totalFeesToTreasury := k.totalFeesToTreasury + amount }

def incrementBurnsBySource (source : BurnSource) (amount : Int) : TokenomicsKeeper :=
  { k with burnsBySource := Function.update k.burnsBySource source (k.burnsBySource source + amount) }

def incrementBurnsByChain (chainID : String) (amount : Int) : TokenomicsKeeper :=
  { k with burnsByChain := Function.update k.burnsByChain chainID (k.burnsByChain chainID + amount) }

def countBurn (amount : Int) : TokenomicsKeeper :=
  { k with currentSupply := k.currentSupply - amount, totalBurned := k.totalBurned + amount }

def storeBurnRecord (ctx : Ctx) (burner : Account) (total burned treasury : Int) (source : BurnSource)
    (chainID : String) : TokenomicsKeeper :=
  let record : BurnRecord :=
    ⟨k.nextBurnID, total, source, chainID, ctx.blockHeight, ctx.txHash, ctx.blockTime, burner, treasury⟩
  let stored := { k with nextBurnID := k.nextBurnID + 1, burnRecords := k.burnRecords ++ [record] }
  (stored.incrementBurnsBySource source burned).incrementBurnsByChain chainID burned

end Counters

section Fees

variable (k : TokenomicsKeeper)

def getCurrentBurnRatio : LegacyDec :=
  if k.params.adaptiveBurnEnabled = false ∨ k.params.emergencyBurnOverride = true then k.params.feeBurnRatio
  else if k.params.lastAppliedBurnRatio = 0 then k.params.defaultBurnRatio
  else k.params.lastAppliedBurnRatio

def adaptiveSplit (totalFees : Int) : FeeSplit :=
  let treasury := LegacyDec.truncateInt (LegacyDec.mulInt k.params.treasuryFeeRatio totalFees)
  let remaining := totalFees - treasury
  let burn := LegacyDec.truncateInt (LegacyDec.mulInt k.getCurrentBurnRatio remaining)
  ⟨burn, treasury, remaining - burn⟩

def fixedSplit (totalFees : Int) : FeeSplit :=
  let burn := LegacyDec.truncateInt (LegacyDec.mulInt k.params.feeBurnRatio totalFees)
  let treasury := LegacyDec.truncateInt (LegacyDec.mulInt k.params.treasuryFeeRatio totalFees)
  -- The dust of the two roundings is burned.
  let dust := totalFees - burn - treasury
  ⟨if dust > 0 then burn + dust else burn, treasury, 0⟩

def splitFees (totalFees : Int) : Except Failed FeeSplit :=
  if k.params.adaptiveBurnEnabled = true ∧ k.params.emergencyBurnOverride = false then
    .ok (k.adaptiveSplit totalFees)
  else if k.params.feeBurnRatio + k.params.treasuryFeeRatio ≠ legacyOneDec then
    .error ⟨.feeRatiosUnbalanced, k⟩
  else .ok (k.fixedSplit totalFees)

def collectFees (refused : Call → Bool) (totalFees : Int) : Except Failed TokenomicsKeeper :=
  match k.sendCoins (refused .collect) feeCollector moduleAccount totalFees with
  | none => .error ⟨.collectFees, k⟩
  | some k => .ok k

def burnFees (refused : Call → Bool) (totalFees burnAmount : Int) : Except Failed TokenomicsKeeper :=
  if 0 < burnAmount then
    match k.burnCoins (refused .burn) burnAmount with
    | none => .error ⟨.burnFees,
        k.orElseKeep (k.sendCoins (refused .restore) moduleAccount feeCollector totalFees)⟩
    | some k => .ok k
  else .ok k

def payTreasury (refused : Call → Bool) (treasuryAmount : Int) : Except Failed TokenomicsKeeper :=
  if 0 < treasuryAmount then
    match k.sendCoinsFromModuleToAccount (refused .treasury) k.getTreasuryAddress treasuryAmount with
    | none => .error ⟨.sendTreasury, k⟩
    | some k =>
      .ok ((k.incrementTreasuryInflows treasuryAmount).incrementAccumulatedRedirectInflows treasuryAmount)
  else .ok k

def returnToValidators (refused : Call → Bool) (validatorAmount : Int) : Except Failed TokenomicsKeeper :=
  if 0 < validatorAmount then
    match k.sendCoins (refused .validators) moduleAccount feeCollector validatorAmount with
    | none => .error ⟨.returnValidators, k⟩
    | some k => .ok k
  else .ok k

def recordFees (burnAmount treasuryAmount : Int) : Except Failed TokenomicsKeeper :=
  if k.currentSupply < burnAmount then .error ⟨.insufficientFeeSupply, k⟩
  else
    .ok ((((k.countBurn burnAmount).incrementTotalFeesBurned burnAmount).incrementTotalFeesToTreasury
      treasuryAmount).incrementBurnsBySource .posGas burnAmount)

def processBlockFees (refused : Call → Bool) : Except Failed TokenomicsKeeper := do
  if k.params.feeBurnEnabled = false then return k
  else
    let totalFees : Int := k.bank.balance feeCollector
    if totalFees = 0 then return k
    else
      let split ← k.splitFees totalFees
      let collected ← k.collectFees refused totalFees
      let burned ← collected.burnFees refused totalFees split.burn
      let paid ← burned.payTreasury refused split.treasury
      let returned ← paid.returnToValidators refused split.validators
      returned.recordFees split.burn split.treasury

-- The error of the fees is logged, and the block goes on with the state they left.
def endBlock (refused : Call → Bool) : TokenomicsKeeper :=
  match k.processBlockFees refused with
  | .ok k => k
  | .error failed => failed.kept

end Fees

section Burn

variable (k : TokenomicsKeeper)

def takeFromBurner (refused : Call → Bool) (burner : Account) (amount : Int) :
    Except Failed TokenomicsKeeper :=
  match k.sendCoins (refused .collect) burner moduleAccount amount with
  | none => .error ⟨.takeCoins, k⟩
  | some k => .ok k

def burnPortion (refused : Call → Bool) (burner : Account) (amount burnAmount : Int) :
    Except Failed TokenomicsKeeper :=
  if 0 < burnAmount then
    match k.burnCoins (refused .burn) burnAmount with
    | none => .error ⟨.burnCoins,
        k.orElseKeep (k.sendCoinsFromModuleToAccount (refused .restore) burner amount)⟩
    | some k => .ok k
  else .ok k

def payRedirect (refused : Call → Bool) (redirectAmount : Int) : Except Failed TokenomicsKeeper :=
  if 0 < redirectAmount then
    match k.sendCoinsFromModuleToAccount (refused .treasury) k.getTreasuryAddress redirectAmount with
    | none => .error ⟨.sendRedirect, k⟩
    | some k => .ok (k.incrementTreasuryInflows redirectAmount)
  else .ok k

def recordBurn (ctx : Ctx) (burner : Account) (amount burnAmount redirectAmount : Int)
    (source : BurnSource) (chainID : String) : Except Failed TokenomicsKeeper :=
  if k.currentSupply < burnAmount then .error ⟨.insufficientSupply, k⟩
  else
    .ok ((k.countBurn burnAmount).storeBurnRecord ctx burner amount burnAmount redirectAmount source chainID)

/-- What was burned and what went to the treasury come with the state. -/
def burnTokens (refused : Call → Bool) (ctx : Ctx) (burner : Account) (amount : Int) (source : BurnSource)
    (chainID : String) : Except Failed (TokenomicsKeeper × Int × Int) := do
  if amount ≤ 0 then .error ⟨.invalidAmount, k⟩
  else
    let redirectAmount := LegacyDec.truncateInt (LegacyDec.mulInt k.params.treasuryBurnRedirect amount)
    let burnAmount := amount - redirectAmount
    if (k.bank.balance burner : Int) < amount then .error ⟨.insufficientBalance, k⟩
    else
      let taken ← k.takeFromBurner refused burner amount
      let burned ← taken.burnPortion refused burner amount burnAmount
      let paid ← burned.payRedirect refused redirectAmount
      let recorded ← paid.recordBurn ctx burner amount burnAmount redirectAmount source chainID
      return (recorded, burnAmount, redirectAmount)

end Burn

end TokenomicsKeeper

end Omniphi.Tokenomics
