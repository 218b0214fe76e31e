import Omniphi.Tokenomics.Rewards

/-! The supply: the inflation that decays by the year, the burns that other chains report, and the genesis
of the counters. -/

namespace Omniphi.Tokenomics

structure MsgReportBurn where
  chainId : String
  amount : Int
  txHash : String
  proof : Bytes

structure IBCBurnReportPacket where
  amount : String
  source : BurnSource
  chainID : String
  txHash : String
  proof : Bytes

structure SupplyState where
  currentTotalSupply : Int
  totalMinted : Int
  totalBurned : Int

structure VestingSchedule where
  cliffDuration : Nat
  vestingDuration : Nat

structure GenesisAllocation where
  address : String
  amount : Int
  isVested : Bool
  vestingSchedule : Option VestingSchedule

structure TreasuryState where
  treasuryAddress : String
  initialBalance : Int
  totalInflows : Int

structure GenesisState where
  params : Params
  supplyState : SupplyState
  allocations : List GenesisAllocation
  treasuryState : TreasuryState

inductive GenesisError
  | params (error : ParamsError)
  | currentSupplyNegative | totalMintedNegative | totalBurnedNegative | supplyAccounting
  | emptyAddress (i : Nat) | duplicateAddress (address : String) | invalidAmount (i : Nat)
  | zeroVestingDuration (i : Nat) | cliffAboveVesting (i : Nat)
  | allocationsNotSupply | treasuryAddressEmpty | initialBalanceNegative
  | setParams (error : Error) | invalidRecipient (address : String) | mintAllocation | sendAllocation
  | invalidTreasury

namespace Params

variable (p : Params) (height : Int)

/-- The year since genesis, at a block every seven seconds. -/
def getCurrentYear : Int := (height - 1).tdiv 4507680

def yearlyInflation (yearsSinceGenesis : Int) : LegacyDec :=
  if yearsSinceGenesis = 0 then newDecWithPrec 3 2
  else if yearsSinceGenesis = 1 then newDecWithPrec 275 4
  else if yearsSinceGenesis = 2 then newDecWithPrec 25 3
  else if yearsSinceGenesis = 3 then newDecWithPrec 225 4
  else if yearsSinceGenesis = 4 then newDecWithPrec 2 2
  else if yearsSinceGenesis = 5 then newDecWithPrec 175 4
  else
    let decayed := newDecWithPrec 175 4 - LegacyDec.mulInt (newDecWithPrec 25 4) (yearsSinceGenesis - 5)
    if decayed < p.inflationMin then p.inflationMin else decayed

def calculateDecayingInflation : LegacyDec :=
  let inflationRate := p.yearlyInflation (getCurrentYear height)
  let raised := if inflationRate < p.inflationMin then p.inflationMin else inflationRate
  if raised > p.inflationMax then p.inflationMax else raised

def calculateDecayingAnnualProvisions : Int :=
  LegacyDec.truncateInt (LegacyDec.mul (LegacyDec.ofInt p.currentTotalSupply) (p.calculateDecayingInflation height))

def calculateBlockProvision : Int := (p.calculateDecayingAnnualProvisions height).tdiv 4507680

def emissionShare (split : LegacyDec) (totalAmount : Int) : Int :=
  LegacyDec.truncateInt (LegacyDec.mul (LegacyDec.ofInt totalAmount) split)

def treasuryEmission (totalAmount : Int) : Int :=
  let distributed := emissionShare p.emissionSplitStaking totalAmount + emissionShare p.emissionSplitPoc totalAmount +
    emissionShare p.emissionSplitSequencer totalAmount + emissionShare p.emissionSplitTreasury totalAmount
  if distributed < totalAmount then
    emissionShare p.emissionSplitTreasury totalAmount + (totalAmount - distributed)
  else emissionShare p.emissionSplitTreasury totalAmount

end Params

namespace TokenomicsKeeper

variable (k : TokenomicsKeeper)

section Inflation

/-- Sending to a module that has no account panics, which fails the call as an error does. -/
def mintStaking (hasStaking : Bool) (amount : Int) : Except Failed TokenomicsKeeper :=
  if 0 < amount then
    match k.mintCoins false amount with
    | none => .error ⟨.mintCoins, k⟩
    | some minted =>
      match minted.sendCoins (!hasStaking) moduleAccount (.module "staking") amount with
      | none => .error ⟨.sendMinted, minted⟩
      | some k => .ok k
  else .ok k

-- The share of PoC and that of the sequencer stay with the module.
def mintKept (amount : Int) : Except Failed TokenomicsKeeper :=
  if 0 < amount then
    match k.mintCoins false amount with
    | none => .error ⟨.mintCoins, k⟩
    | some k => .ok k
  else .ok k

def mintTreasury (amount : Int) : Except Failed TokenomicsKeeper :=
  if 0 < amount then
    match k.mintCoins false amount with
    | none => .error ⟨.mintCoins, k⟩
    | some minted =>
      match minted.sendCoinsFromModuleToAccount false minted.getTreasuryAddress amount with
      | none => .error ⟨.sendTreasury, minted⟩
      | some k => .ok k
  else .ok k

def distributeEmissions (hasStaking : Bool) (totalAmount : Int) : Except Failed TokenomicsKeeper := do
  let staked ← k.mintStaking hasStaking (Params.emissionShare k.params.emissionSplitStaking totalAmount)
  let poc ← staked.mintKept (Params.emissionShare k.params.emissionSplitPoc totalAmount)
  let sequenced ← poc.mintKept (Params.emissionShare k.params.emissionSplitSequencer totalAmount)
  sequenced.mintTreasury (k.params.treasuryEmission totalAmount)

def cappedProvision (height : Int) : Int :=
  let blockProvision := k.params.calculateBlockProvision height
  if k.params.currentTotalSupply + blockProvision > k.params.totalSupplyCap then
    k.params.totalSupplyCap - k.params.currentTotalSupply
  else blockProvision

def inflated (height blockProvision : Int) : Params :=
  { k.params with
    totalMinted := k.params.totalMinted + blockProvision
    currentTotalSupply := k.params.currentTotalSupply + blockProvision
    inflationRate := k.params.calculateDecayingInflation height }

def mintInflation (hasStaking : Bool) (height : Int) : Except Failed TokenomicsKeeper := do
  if k.params.totalSupplyCap ≤ k.params.currentTotalSupply then return k
  else if k.params.calculateBlockProvision height = 0 then return k
  else
    let distributed ← k.distributeEmissions hasStaking (k.cappedProvision height)
    distributed.setParams (k.inflated height (k.cappedProvision height))

end Inflation

section Reports

def reportBurn (msg : MsgReportBurn) : Except Failed TokenomicsKeeper :=
  if msg.proof = [] then .error ⟨.invalidProof, k⟩
  else .ok ((k.countBurn msg.amount).incrementBurnsByChain msg.chainId msg.amount)

def allowedChain (chainID : String) : Bool :=
  if chainID = "omniphi-continuity-1" then decide (k.params.continuityIbcChannel ≠ "")
  else if chainID = "omniphi-sequencer-1" then decide (k.params.sequencerIbcChannel ≠ "")
  else false

def onRecvBurnReport (lib : Library) (packet : IBCBurnReportPacket) : Except Failed TokenomicsKeeper :=
  match lib.newIntFromString packet.amount with
  | none => .error ⟨.invalidAmountText packet.amount, k⟩
  | some amount =>
    if k.allowedChain packet.chainID = false then .error ⟨.unknownReporter packet.chainID, k⟩
    else if packet.proof = [] then .error ⟨.invalidProof, k⟩
    else if (packet.chainID, packet.txHash) ∈ k.processedBurnReports then .error ⟨.duplicateReport, k⟩
    else
      let marked :=
        { k with processedBurnReports := k.processedBurnReports ++ [(packet.chainID, packet.txHash)] }
      .ok (((marked.countBurn amount).incrementBurnsByChain packet.chainID amount).incrementBurnsBySource
        packet.source amount)

end Reports

end TokenomicsKeeper

section Genesis

variable (lib : Library)

def validateAllocations : Nat → List String → List GenesisAllocation → Option GenesisError
  | _, _, [] => none
  | i, seenAddresses, alloc :: rest =>
      if alloc.address = "" then some (.emptyAddress i)
      else if alloc.address ∈ seenAddresses then some (.duplicateAddress alloc.address)
      else if alloc.amount ≤ 0 then some (.invalidAmount i)
      else
        match (if alloc.isVested then alloc.vestingSchedule else none) with
        | none => validateAllocations (i + 1) (alloc.address :: seenAddresses) rest
        | some schedule =>
            if schedule.vestingDuration = 0 then some (.zeroVestingDuration i)
            else if schedule.vestingDuration < schedule.cliffDuration then some (.cliffAboveVesting i)
            else validateAllocations (i + 1) (alloc.address :: seenAddresses) rest

namespace GenesisState

variable (g : GenesisState)

def totalAllocated : Int := (g.allocations.map GenesisAllocation.amount).sum

def validateSupply : Option GenesisError :=
  if g.supplyState.currentTotalSupply < 0 then some .currentSupplyNegative
  else if g.supplyState.totalMinted < 0 then some .totalMintedNegative
  else if g.supplyState.totalBurned < 0 then some .totalBurnedNegative
  else if g.supplyState.currentTotalSupply ≠ g.supplyState.totalMinted - g.supplyState.totalBurned then
    some .supplyAccounting
  else none

def validateTreasury : Option GenesisError :=
  if g.totalAllocated ≠ g.supplyState.currentTotalSupply then some .allocationsNotSupply
  else if g.treasuryState.treasuryAddress = "" then some .treasuryAddressEmpty
  else if g.treasuryState.initialBalance < 0 then some .initialBalanceNegative
  else none

def validate : Option GenesisError :=
  (g.params.validate.map GenesisError.params) <|> g.validateSupply <|> validateAllocations 0 [] g.allocations <|>
    g.validateTreasury

end GenesisState

namespace TokenomicsKeeper

variable (k : TokenomicsKeeper)

/-- A vesting account receives its coins as any other does. -/
def processGenesisAllocation (alloc : GenesisAllocation) : Except GenesisError TokenomicsKeeper :=
  match lib.accAddressFromBech32 alloc.address with
  | none => .error (.invalidRecipient alloc.address)
  | some recipient =>
    match k.mintCoins false alloc.amount with
    | none => .error .mintAllocation
    | some minted =>
      match minted.sendCoinsFromModuleToAccount false recipient alloc.amount with
      | none => .error .sendAllocation
      | some k => .ok k

def processAllocations : TokenomicsKeeper → List GenesisAllocation → Except GenesisError TokenomicsKeeper
  | k, [] => .ok k
  | k, alloc :: rest => do
      let k ← k.processGenesisAllocation lib alloc
      processAllocations k rest

def storeParams (params : Params) : Except GenesisError TokenomicsKeeper :=
  match k.setParams params with
  | .ok k => .ok k
  | .error failed => .error (.setParams failed.error)

def initTreasury (treasury : TreasuryState) : Except GenesisError TokenomicsKeeper :=
  if treasury.treasuryAddress = "" then .ok k
  else
    match lib.accAddressFromBech32 treasury.treasuryAddress with
    | none => .error .invalidTreasury
    | some address => .ok { k with treasuryAddress := some address, treasuryInflows := treasury.totalInflows }

def initGenesis (data : GenesisState) : Except GenesisError TokenomicsKeeper := do
  match data.validate with
  | some error => .error error
  | none =>
    if data.totalAllocated ≠ data.supplyState.currentTotalSupply then .error .allocationsNotSupply
    else
      let configured ← k.storeParams data.params
      let counted : TokenomicsKeeper :=
        { configured with
          currentSupply := data.supplyState.currentTotalSupply
          totalMinted := data.supplyState.totalMinted
          totalBurned := data.supplyState.totalBurned }
      let allocated ← counted.processAllocations lib data.allocations
      allocated.initTreasury lib data.treasuryState

end TokenomicsKeeper

end Genesis

end Omniphi.Tokenomics
