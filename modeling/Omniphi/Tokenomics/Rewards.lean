import Omniphi.Tokenomics.Keeper

/-! The reward epochs: minting, the adaptive burn ratio, the splits, their distribution and the packets that
time out. -/

namespace Omniphi.Tokenomics

structure Library where
  accAddressFromBech32 : String → Option Account
  bech32 : Account → String
  newIntFromString : String → Option Int

structure Library.Lawful (lib : Library) : Prop where
  roundTrip : ∀ account, lib.accAddressFromBech32 (lib.bech32 account) = some account
  -- A bech32 text has a separator.
  separated : ∀ text account, lib.accAddressFromBech32 text = some account → '1' ∈ text.toList

structure Block where
  height : Int
  congestion : LegacyDec
  avgTxPerDay : Int

structure Distribution where
  keeper : TokenomicsKeeper
  localDist : Int
  ibcDist : Int
  packets : List IBCRewardPacket

def blocksPerYear : Int := 4500857

namespace TokenomicsKeeper

section Minting

variable (k : TokenomicsKeeper)

def deliverMinted (refused : Call → Bool) (recipient : Account) (amount : Int) :
    Except Failed TokenomicsKeeper :=
  match k.mintCoins (refused .mint) amount with
  | none => .error ⟨.mintCoins, k⟩
  | some minted =>
    match minted.sendCoinsFromModuleToAccount (refused .treasury) recipient amount with
    | none => .error ⟨.sendMinted, minted.orElseKeep (minted.burnCoins (refused .burn) amount)⟩
    | some k => .ok k

def mintTokens (refused : Call → Bool) (amount : Int) (recipient : Account) :
    Except Failed TokenomicsKeeper := do
  if k.params.totalSupplyCap < k.currentSupply + amount then .error ⟨.supplyCapExceeded, k⟩
  else if amount < 0 then .error ⟨.invalidAmount, k⟩
  else if amount = 0 then .error ⟨.invalidAmount, k⟩
  else
    let k ← k.deliverMinted refused recipient amount
    return { k with currentSupply := k.currentSupply + amount, totalMinted := k.totalMinted + amount }

def setParams (params : Params) : Except Failed TokenomicsKeeper :=
  if k.params.totalSupplyCap ≠ 0 ∧ params.totalSupplyCap ≠ k.params.totalSupplyCap then
    .error ⟨.supplyCapImmutable, k⟩
  else
    match params.validate with
    | some error => .error ⟨.params error, k⟩
    | none => .ok { k with params := params }

def updateParams (authority : String) (params : Params) : Except Failed TokenomicsKeeper :=
  if authority ≠ k.authority then .error ⟨.unauthorized, k⟩
  else
    match params.validate with
    | some error => .error ⟨.params error, k⟩
    | none => k.setParams params

end Minting

section BurnRatio

variable (k : TokenomicsKeeper) (block : Block)

def getTreasuryPct : LegacyDec :=
  if k.params.currentTotalSupply = 0 then 0
  else
    LegacyDec.quo (LegacyDec.ofInt (k.bank.balance k.getTreasuryAddress))
      (LegacyDec.ofInt k.params.currentTotalSupply)

def getAdaptiveBurnRatio : LegacyDec × String :=
  if k.params.emergencyBurnOverride then (k.params.feeBurnRatio, "emergency_override")
  else if k.params.adaptiveBurnEnabled = false then (k.params.feeBurnRatio, "adaptive_disabled")
  else if k.getTreasuryPct < k.params.treasuryFloorPct then (k.params.minBurnRatio, "treasury_protection")
  else if k.params.blockCongestionThreshold ≤ block.congestion then
    (k.params.maxBurnRatio, "congestion_control")
  else if block.avgTxPerDay < k.params.txPerDayTarget then (k.params.minBurnRatio, "adoption_incentive")
  else (k.params.defaultBurnRatio, "normal")

def applySmoothing (targetRatio : LegacyDec) : LegacyDec :=
  let currentRatio := k.params.lastAppliedBurnRatio
  if currentRatio = 0 ∨ k.params.burnAdjustmentSmoothing ≤ 1 then targetRatio
  else
    let alpha := LegacyDec.quo legacyOneDec (LegacyDec.ofInt k.params.burnAdjustmentSmoothing)
    LegacyDec.mul currentRatio (legacyOneDec - alpha) + LegacyDec.mul targetRatio alpha

def updateBurnRatio : Except Failed TokenomicsKeeper :=
  let (targetRatio, trigger) := k.getAdaptiveBurnRatio block
  let smoothedRatio := k.applySmoothing targetRatio
  k.setParams { k.params with lastAppliedBurnRatio := smoothedRatio, lastBurnTrigger := trigger }

-- The error is logged, and the block goes on with the ratio it had.
def withBurnRatio : TokenomicsKeeper :=
  match k.updateBurnRatio block with
  | .ok k => k
  | .error failed => failed.kept

end BurnRatio

section Epochs

variable (lib : Library) (k : TokenomicsKeeper)

def shouldDistributeRewards (block : Block) : Bool :=
  block.height.tmod k.params.rewardStreamInterval = 0

def calculateBlockProvisions : LegacyDec :=
  (LegacyDec.mulInt k.params.inflationRate k.currentSupply).tdiv blocksPerYear

def epochRewards : Int :=
  LegacyDec.truncateInt (LegacyDec.mulInt k.calculateBlockProvisions k.params.rewardStreamInterval)

def share (split : LegacyDec) (totalRewards : Int) : Int :=
  LegacyDec.truncateInt (LegacyDec.mulInt split totalRewards)

def stakingRecipients (amount : Int) : List RewardRecipient :=
  if 0 < amount then [⟨"staking", amount, "", ""⟩] else []

def treasuryRecipients (amount : Int) : List RewardRecipient :=
  if 0 < amount then [⟨lib.bech32 k.getTreasuryAddress, amount, "", ""⟩] else []

/-- A share for another chain goes to the treasury until the channel to that chain is there. -/
def chainRecipients (name chain channel : String) (amount : Int) : List RewardRecipient :=
  if 0 < amount ∧ channel ≠ "" ∧ k.ibcWired = true then [⟨name, amount, chain, channel⟩]
  else k.treasuryRecipients lib amount

def calculateRewardSplits (totalRewards : Int) : List RewardRecipient :=
  stakingRecipients (share k.params.emissionSplitStaking totalRewards) ++
    (k.chainRecipients lib "poc" "omniphi-continuity-1" k.params.continuityIbcChannel
      (share k.params.emissionSplitPoc totalRewards) ++
    (k.chainRecipients lib "sequencer" "omniphi-sequencer-1" k.params.sequencerIbcChannel
      (share k.params.emissionSplitSequencer totalRewards) ++
    k.treasuryRecipients lib (share k.params.emissionSplitTreasury totalRewards)))

def getIBCChannel (destinationChain : String) : Option String :=
  if destinationChain = "omniphi-continuity-1" then some k.params.continuityIbcChannel
  else if destinationChain = "omniphi-sequencer-1" then some k.params.sequencerIbcChannel
  else none

/-- Without a channel the amount goes to the authority, or, when that fails, to nobody. -/
def redirectToAuthority (amount : Int) : Option TokenomicsKeeper := do
  guard (k.authority ≠ "")
  let account ← lib.accAddressFromBech32 k.authority
  k.sendCoinsFromModuleToAccount false account amount

def payRecipient (height : Int) (d : Distribution) (recipient : RewardRecipient) :
    Except Failed Distribution :=
  match lib.accAddressFromBech32 recipient.address with
  | none => .error ⟨.invalidRecipient recipient.address, d.keeper⟩
  | some account =>
    if recipient.destinationChain = "" then
      match d.keeper.sendCoinsFromModuleToAccount false account recipient.amount with
      | none => .error ⟨.distributeLocally, d.keeper⟩
      | some k => .ok { d with keeper := k, localDist := d.localDist + recipient.amount }
    else
      match d.keeper.getIBCChannel recipient.destinationChain with
      | none => .error ⟨.unknownChain recipient.destinationChain, d.keeper⟩
      | some channelID =>
        if channelID = "" then
          match d.keeper.redirectToAuthority lib recipient.amount with
          | none => .ok d
          | some k => .ok { d with keeper := k, localDist := d.localDist + recipient.amount }
        else
          let packet : IBCRewardPacket :=
            ⟨toString recipient.amount, recipient.address, "omniphi-core-1", height⟩
          .ok { d with ibcDist := d.ibcDist + recipient.amount, packets := d.packets ++ [packet] }

def distributeRewardsViaIBC (height : Int) (recipients : List RewardRecipient) :
    Except Failed Distribution :=
  recipients.foldlM (payRecipient lib height) ⟨k, 0, 0, []⟩

def distributeEpoch (block : Block) : Except Failed Distribution := do
  let totalRewards := k.epochRewards
  if totalRewards ≤ 0 then return ⟨k, 0, 0, []⟩
  else
    let minted ← k.mintTokens (fun _ => false) totalRewards k.getTreasuryAddress
    minted.distributeRewardsViaIBC lib block.height (minted.calculateRewardSplits lib totalRewards)

def beginBlock (block : Block) : Except Failed Distribution :=
  let k := k.withBurnRatio block
  if k.shouldDistributeRewards block then k.distributeEpoch lib block else .ok ⟨k, 0, 0, []⟩

def onTimeoutIBCReward (packet : IBCRewardPacket) : Except Failed TokenomicsKeeper :=
  match lib.newIntFromString packet.amount with
  | none => .error ⟨.invalidAmountText packet.amount, k⟩
  | some amount =>
    if amount ≤ 0 then .error ⟨.notPositive, k⟩
    else if k.authority = "" then .error ⟨.noAuthority, k⟩
    else
      match lib.accAddressFromBech32 k.authority with
      | none => .error ⟨.invalidAuthority, k⟩
      | some account =>
        match k.sendCoinsFromModuleToAccount false account amount with
        | none => .error ⟨.redirectTimeout, k⟩
        | some k => .ok k

end Epochs

end TokenomicsKeeper

end Omniphi.Tokenomics
