import Omniphi.Encoding
import Omniphi.Lib.ByteOrder
import Omniphi.Lib.KeyedTotals
import Omniphi.Poc.Finality

/-! Rewards that vest: the linear schedules, the staged schedules of the adaptive system, and the transfers
that pay them. -/

namespace Omniphi.Poc

section Types

inductive VestingStatus
  | active | completed | clawedBack | paused
  deriving DecidableEq

structure VestingKey where
  contributor : String
  claimID : U64
  deriving DecidableEq

def VestingKey.bytes (key : VestingKey) : Bytes := strBytes key.contributor ++ beBytes 8 key.claimID

theorem VestingKey.bytes_injective : Function.Injective VestingKey.bytes := by
  intro a b same
  have lengths : (beBytes 8 a.claimID).length = (beBytes 8 b.claimID).length := by
    rw [length_beBytes, length_beBytes]
  obtain ⟨contributors, claims⟩ := List.append_inj' same lengths
  have claims := beBytes_injective (by decide) claims
  have contributors := strBytes_injective contributors
  cases a
  cases b
  simp_all

instance : Ord VestingKey := ByteOrder.ord VestingKey.bytes

instance : Std.TransOrd VestingKey := ByteOrder.trans _

instance : Std.LawfulEqOrd VestingKey := ByteOrder.lawful VestingKey.bytes_injective

structure VestingSchedule where
  contributor : String
  claimID : U64
  totalAmount : Int
  releasedAmount : Int
  startEpoch : U64
  vestingEpochs : Int
  status : VestingStatus

def VestingSchedule.key (s : VestingSchedule) : VestingKey := ⟨s.contributor, s.claimID⟩

structure UnlockStage where
  unlockBps : U32
  delayEpochs : Int

inductive UnlockStageError
  | unlockBps (got : U32)
  | delayEpochs (got : Int)

def UnlockStage.validate (s : UnlockStage) : Except UnlockStageError Unit :=
  if s.unlockBps = 0 ∨ s.unlockBps > 10000 then .error (.unlockBps s.unlockBps)
  else if s.delayEpochs < 0 then .error (.delayEpochs s.delayEpochs)
  else .ok ()

inductive VestingProfileID
  | lowRisk | mediumRisk | highRisk | derivative | repeatOffender
  | other (id : Nat)
  deriving DecidableEq

structure VestingProfile where
  profileID : VestingProfileID
  name : String
  stages : List UnlockStage

inductive VestingProfileError
  | noStages
  | stage (index : Nat) (error : UnlockStageError)
  | sum (total : U32)

namespace VestingProfile

-- The sum is kept in 32 bits.
def addStages (index : Nat) (total : U32) : List UnlockStage → Except VestingProfileError U32
  | [] => .ok total
  | s :: rest =>
      match s.validate with
      | .error error => .error (.stage index error)
      | .ok () => addStages (index + 1) (total + s.unlockBps) rest

def validate (p : VestingProfile) : Except VestingProfileError Unit :=
  if p.stages = [] then .error .noStages
  else match addStages 0 0 p.stages with
    | .error error => .error error
    | .ok total => if total ≠ 10000 then .error (.sum total) else .ok ()

end VestingProfile

structure ARVSWeights where
  categoryWeight : U32
  reputationWeight : U32
  originalityWeight : U32
  confidenceWeight : U32
  disputeWeight : U32

structure BountyDistribution where
  challengerBps : U32
  burnBps : U32
  treasuryBps : U32
  reviewerPenaltyPoolBps : U32

structure ARVSParams where
  weights : ARVSWeights
  vestingProfiles : List VestingProfile
  bountyDistribution : BountyDistribution
  enableBounty : Bool
  treasuryAddress : String
  riskScoreLowThreshold : U32
  riskScoreHighThreshold : U32
  weights_valid : weights.categoryWeight + weights.reputationWeight + weights.originalityWeight +
    weights.confidenceWeight + weights.disputeWeight = 10000
  profiles_some : vestingProfiles ≠ []
  profiles_valid : ∀ p ∈ vestingProfiles, p.validate = .ok ()
  bounty_valid : bountyDistribution.challengerBps + bountyDistribution.burnBps +
    bountyDistribution.treasuryBps + bountyDistribution.reviewerPenaltyPoolBps = 10000

def defaultVestingProfiles : List VestingProfile :=
  [⟨.lowRisk, "low_risk", [⟨6000, 0⟩, ⟨2500, 30⟩, ⟨1500, 60⟩]⟩,
    ⟨.mediumRisk, "medium_risk", [⟨3000, 0⟩, ⟨4000, 30⟩, ⟨3000, 90⟩]⟩,
    ⟨.highRisk, "high_risk", [⟨1000, 0⟩, ⟨4000, 60⟩, ⟨5000, 120⟩]⟩,
    ⟨.derivative, "derivative", [⟨1500, 0⟩, ⟨3500, 60⟩, ⟨5000, 120⟩]⟩,
    ⟨.repeatOffender, "repeat_offender", [⟨500, 0⟩, ⟨3000, 90⟩, ⟨6500, 180⟩]⟩]

theorem defaultVestingProfiles_valid : ∀ p ∈ defaultVestingProfiles, p.validate = .ok () := by
  intro p listed
  simp only [defaultVestingProfiles, List.mem_cons, List.not_mem_nil, or_false] at listed
  obtain rfl | rfl | rfl | rfl | rfl := listed <;> rfl

def defaultARVSParams : ARVSParams where
  weights := ⟨2500, 3000, 2500, 1500, 500⟩
  vestingProfiles := defaultVestingProfiles
  bountyDistribution := ⟨4000, 3000, 2000, 1000⟩
  enableBounty := false
  treasuryAddress := ""
  riskScoreLowThreshold := 3000
  riskScoreHighThreshold := 6500
  weights_valid := rfl
  profiles_some := List.cons_ne_nil _ _
  profiles_valid := defaultVestingProfiles_valid
  bounty_valid := rfl

structure RewardParams where
  vestingEpochs : Int
  repeatOffenderThreshold : Nat
  repeatOffenderVestingMultiplier : Option LegacyDec
  maxVestingReleasesPerEpoch : Nat

structure ContributorStats where
  totalSubmissions : Nat
  duplicateCount : Nat
  overturnedReviews : Nat
  fraudCount : Nat
  reputationScore : LegacyDec

inductive CategoryRisk
  | low | medium | high

def CategoryRisk.code : CategoryRisk → Int
  | .low => 1
  | .medium => 2
  | .high => 3

def defaultCategoryRiskMap : List (String × CategoryRisk) :=
  [("documentation", .low), ("translation", .low), ("ui", .low), ("analytics", .medium),
    ("integration", .medium), ("code", .medium), ("security", .high), ("consensus", .high),
    ("economic", .high)]

def categoryRiskLevel (category : String) : CategoryRisk :=
  (defaultCategoryRiskMap.lookup category).getD .medium

structure RiskScoreInput where
  categoryRisk : CategoryRisk
  trustScore : LegacyDec
  similarityScore : LegacyDec
  verifierConfidence : LegacyDec
  disputeRate : LegacyDec
  isDerivative : Bool
  isRepeatOffender : Bool

structure RoyaltyRoute where
  recipient : String
  amount : Int
  claimID : U64
  depth : Nat

structure RewardOutput where
  finalRewardAmount : Int
  royaltyAmount : Int
  royaltyRecipient : String
  vestedAmount : Int
  immediateAmount : Int
  royaltyRoutes : List RoyaltyRoute
  claimID : U64

structure ARVSStageEntry where
  stageIndex : Nat
  unlockAtEpoch : U64
  amount : Int
  released : Bool

structure ARVSVestingSchedule where
  contributor : String
  claimID : U64
  profileID : VestingProfileID
  riskScoreBps : Nat
  totalAmount : Int
  releasedAmount : Int
  stages : List ARVSStageEntry
  status : VestingStatus
  startEpoch : U64

def ARVSVestingSchedule.key (s : ARVSVestingSchedule) : VestingKey := ⟨s.contributor, s.claimID⟩

end Types

section RiskScore

def clampUnit (d : LegacyDec) : LegacyDec :=
  if d < 0 then 0 else if d > LegacyDec.ofInt 1 then LegacyDec.ofInt 1 else d

def weigh (signal : LegacyDec) (weight : U32) : LegacyDec :=
  (signal.mul (LegacyDec.ofInt weight.toNat)).quo (LegacyDec.ofInt 10000)

def computeRiskScore (input : RiskScoreInput) (weights : ARVSWeights) : Nat :=
  let categoryNorm := (LegacyDec.ofInt input.categoryRisk.code).quo (LegacyDec.ofInt 3)
  let trustInverse := max 0 (LegacyDec.ofInt 1 - input.trustScore)
  let similarity := clampUnit input.similarityScore
  let confidenceInverse := max 0 (LegacyDec.ofInt 1 - input.verifierConfidence)
  let disputeRate := clampUnit input.disputeRate
  let score := weigh categoryNorm weights.categoryWeight + weigh trustInverse weights.reputationWeight +
    weigh similarity weights.originalityWeight + weigh confidenceInverse weights.confidenceWeight +
    weigh disputeRate weights.disputeWeight
  let scoreBps := (LegacyDec.mul score (LegacyDec.ofInt 10000)).truncateInt
  if scoreBps < 0 then 0 else if scoreBps > 10000 then 10000 else scoreBps.toNat

def findProfile (profiles : List VestingProfile) (id : VestingProfileID) : Option VestingProfile :=
  profiles.find? fun p => p.profileID = id

def profileOrFirst (params : ARVSParams) (id : VestingProfileID) (scoreBps : Nat) : VestingProfile × Nat :=
  match findProfile params.vestingProfiles id with
  | some p => (p, scoreBps)
  | none => (params.vestingProfiles.head params.profiles_some, scoreBps)

def selectVestingProfile (input : RiskScoreInput) (params : ARVSParams) : VestingProfile × Nat :=
  let profiles := params.vestingProfiles
  let byScore : VestingProfile × Nat :=
    let scoreBps := computeRiskScore input params.weights
    let targetID :=
      if scoreBps ≤ params.riskScoreLowThreshold.toNat then .lowRisk
      else if scoreBps ≥ params.riskScoreHighThreshold.toNat then .highRisk
      else .mediumRisk
    profileOrFirst params targetID scoreBps
  let byDerivation : VestingProfile × Nat :=
    match input.isDerivative, findProfile profiles .derivative with
    | true, some p => (p, computeRiskScore input params.weights)
    | _, _ => byScore
  match input.isRepeatOffender, findProfile profiles .repeatOffender with
  | true, some p => (p, 10000)
  | _, _ => byDerivation

def ContributorStats.offenseCount (stats : ContributorStats) : Nat := stats.duplicateCount + stats.fraudCount

def buildRiskScoreInput (stats : ContributorStats) (category : String)
    (similarityScore verifierConfidence : LegacyDec) (isDerivative : Bool) (params : RewardParams) :
    RiskScoreInput where
  categoryRisk := categoryRiskLevel category
  trustScore := stats.reputationScore
  similarityScore := similarityScore
  verifierConfidence := verifierConfidence
  disputeRate :=
    if 0 < stats.totalSubmissions then
      (LegacyDec.ofInt stats.overturnedReviews).quo (LegacyDec.ofInt stats.totalSubmissions)
    else 0
  isDerivative := isDerivative
  isRepeatOffender :=
    decide (0 < params.repeatOffenderThreshold ∧ params.repeatOffenderThreshold ≤ stats.offenseCount)

end RiskScore

inductive Scheme
  | legacy | arvs
  deriving DecidableEq

/-- What happened to the schedule of a claim: what it was granted, the coins transferred for it, whether it
was reported complete, and what a clawback returned. -/
structure Receipt where
  granted : Option Int
  paid : Int
  completed : Bool
  returned : Option Int

inductive Payout
  | royalty (index : Nat)
  | reward
  | release (key : VestingKey)
  | stage (key : VestingKey) (index : Nat)
  | bountyChallenger
  | bountyBurn
  | bountyTreasury
  deriving DecidableEq

/-- What a call finds outside the module: the epoch, the parameters, the addresses, the standing of
contributors, and the transfers that the bank turns down. -/
structure VestingCall where
  currentEpoch : U64
  params : RewardParams
  addresses : Addresses
  stats : String → ContributorStats
  refused : Payout → Bool

/-- `receipts` records what became of every schedule. -/
structure VestingKeeper where
  bank : Bank
  schedules : KeyedMap VestingSchedule.key
  vestingBalances : String → Int
  arvsSchedules : KeyedMap ARVSVestingSchedule.key
  receipts : Scheme → VestingKey → Receipt

def pocAccount : Account := .module "poc"

namespace VestingKeeper

variable (k : VestingKeeper)

def init (bank : Bank) : VestingKeeper :=
  ⟨bank, .empty, fun _ => 0, .empty, fun _ _ => ⟨none, 0, false, none⟩⟩

def record (scheme : Scheme) (key : VestingKey) (change : Receipt → Receipt) : VestingKeeper :=
  { k with receipts := fun s a =>
      if s = scheme ∧ a = key then change (k.receipts s a) else k.receipts s a }

def recordGrant (scheme : Scheme) (key : VestingKey) (total : Int) : VestingKeeper :=
  k.record scheme key fun r => { r with granted := some total }

def recordPaid (scheme : Scheme) (key : VestingKey) (amount : Int) : VestingKeeper :=
  k.record scheme key fun r => { r with paid := r.paid + amount }

def recordCompleted (scheme : Scheme) (key : VestingKey) : VestingKeeper :=
  k.record scheme key fun r => { r with completed := true }

def recordReturned (scheme : Scheme) (key : VestingKey) (unvested : Int) : VestingKeeper :=
  k.record scheme key fun r => { r with returned := some unvested }

def sendCoinsFromModuleToAccount (refused : Bool) (recipient : String) (amount : Int) :
    Option VestingKeeper :=
  if refused then none
  else (k.bank.send pocAccount (.user recipient) amount.toNat).map fun bank => { k with bank := bank }

section Legacy

def getVestingBalance (contributor : String) : Int := k.vestingBalances contributor

def setVestingBalance (contributor : String) (balance : Int) : VestingKeeper :=
  { k with vestingBalances := fun c => if c = contributor then balance else k.vestingBalances c }

def getVestingSchedule (key : VestingKey) : Option VestingSchedule := k.schedules.get? key

def setVestingSchedule (schedule : VestingSchedule) : VestingKeeper :=
  { k with schedules := k.schedules.insert schedule }

def deleteVestingSchedule (key : VestingKey) : VestingKeeper :=
  { k with schedules := k.schedules.erase key }

def createVestingSchedule (schedule : VestingSchedule) : VestingKeeper :=
  let k := k.setVestingSchedule schedule
  let balance := k.getVestingBalance schedule.contributor + schedule.totalAmount
  (k.setVestingBalance schedule.contributor balance).recordGrant .legacy schedule.key schedule.totalAmount

/-- The aggregate is never stored below zero. -/
def reduceVestingBalance (contributor : String) (amount : Int) : VestingKeeper :=
  let balance := k.getVestingBalance contributor - amount
  k.setVestingBalance contributor (if balance < 0 then 0 else balance)

def totalReleasable (schedule : VestingSchedule) (currentEpoch : U64) : Option Int :=
  let elapsed := (currentEpoch - schedule.startEpoch).toInt
  let vestingEpochs := if schedule.vestingEpochs ≤ 0 then 1 else schedule.vestingEpochs
  if elapsed ≤ 0 then none
  else if elapsed ≥ vestingEpochs then some schedule.totalAmount
  else some ((schedule.totalAmount * elapsed).tdiv vestingEpochs)

def normalised (schedule : VestingSchedule) : VestingSchedule :=
  { schedule with vestingEpochs := if schedule.vestingEpochs ≤ 0 then 1 else schedule.vestingEpochs }

def settleRelease (schedule : VestingSchedule) (newRelease : Int) : VestingKeeper :=
  let k := k.recordPaid .legacy schedule.key newRelease
  let schedule : VestingSchedule :=
    { normalised schedule with releasedAmount := schedule.releasedAmount + newRelease }
  let k :=
    if schedule.releasedAmount ≥ schedule.totalAmount then
      (k.recordCompleted .legacy schedule.key).deleteVestingSchedule schedule.key
    else k.setVestingSchedule schedule
  k.reduceVestingBalance schedule.contributor newRelease

def releaseSchedule (call : VestingCall) (schedule : VestingSchedule) : Option VestingKeeper := do
  if schedule.status ≠ .active then none
  let releasable ← totalReleasable schedule call.currentEpoch
  let newRelease := releasable - schedule.releasedAmount
  if newRelease ≤ 0 then none
  let recipient ← call.addresses.accAddress schedule.contributor
  let k ← k.sendCoinsFromModuleToAccount (call.refused (.release schedule.key)) recipient newRelease
  return k.settleRelease schedule newRelease

def releaseNext (call : VestingCall) (progress : VestingKeeper × Nat) (schedule : VestingSchedule) :
    VestingKeeper × Nat :=
  if progress.2 < call.params.maxVestingReleasesPerEpoch then
    match progress.1.releaseSchedule call schedule with
    | none => progress
    | some k => (k, progress.2 + 1)
  else progress

def processVestingReleases (call : VestingCall) : VestingKeeper :=
  (k.schedules.values.foldl (releaseNext call) (k, 0)).1

def pauseVesting (key : VestingKey) : VestingKeeper :=
  match k.getVestingSchedule key with
  | none => k
  | some schedule =>
      if schedule.status ≠ .active then k
      else k.setVestingSchedule { schedule with status := .paused }

def resumeVesting (key : VestingKey) : VestingKeeper :=
  match k.getVestingSchedule key with
  | none => k
  | some schedule =>
      if schedule.status ≠ .paused then k
      else k.setVestingSchedule { schedule with status := .active }

inductive ClawbackError
  | vestingNotFound

def clawbackVesting (key : VestingKey) : VestingKeeper × Except ClawbackError Int :=
  match k.getVestingSchedule key with
  | none => (k, .error .vestingNotFound)
  | some schedule =>
      if schedule.status ≠ .active ∧ schedule.status ≠ .paused then (k, .ok 0)
      else
        let unvested := max 0 (schedule.totalAmount - schedule.releasedAmount)
        (((k.deleteVestingSchedule key).reduceVestingBalance key.contributor unvested).recordReturned
          .legacy key unvested, .ok unvested)

end Legacy

section Adaptive

def getARVSVestingSchedule (key : VestingKey) : Option ARVSVestingSchedule := k.arvsSchedules.get? key

def setARVSVestingSchedule (schedule : ARVSVestingSchedule) : VestingKeeper :=
  { k with arvsSchedules := k.arvsSchedules.insert schedule }

/-- The tranches of a profile. The last one takes what remains, so that rounding loses nothing. -/
def stageEntries (currentEpoch : U64) (totalAmount : Int) :
    Nat → Int → List UnlockStage → List ARVSStageEntry
  | _, _, [] => []
  | i, remaining, stage :: rest =>
      let share :=
        if rest = [] then remaining else (stage.unlockBps.toNat * totalAmount).tdiv 10000
      let stageAmt := if share < 0 then 0 else share
      ⟨i, currentEpoch + BitVec.ofInt 64 stage.delayEpochs, stageAmt, decide (stage.delayEpochs = 0)⟩ ::
        stageEntries currentEpoch totalAmount (i + 1) (remaining - stageAmt) rest

def releasedSum (stages : List ARVSStageEntry) : Int :=
  ((stages.filter fun stage => stage.released).map fun stage => stage.amount).sum

def unreleasedSum (stages : List ARVSStageEntry) : Int :=
  ((stages.filter fun stage => !stage.released).map fun stage => stage.amount).sum

/-- What is due at once counts as released from the start. -/
def newARVSVestingSchedule (currentEpoch : U64) (key : VestingKey) (totalAmount : Int)
    (profile : VestingProfile) (riskScoreBps : Nat) : ARVSVestingSchedule :=
  let stages := stageEntries currentEpoch totalAmount 0 totalAmount profile.stages
  { contributor := key.contributor, claimID := key.claimID, profileID := profile.profileID,
    riskScoreBps := riskScoreBps, totalAmount := totalAmount, releasedAmount := releasedSum stages,
    stages := stages, status := .active, startEpoch := currentEpoch }

def createARVSVestingSchedule (call : VestingCall) (key : VestingKey) (totalAmount : Int)
    (profile : VestingProfile) (riskScoreBps : Nat) : VestingKeeper × Int :=
  let schedule := newARVSVestingSchedule call.currentEpoch key totalAmount profile riskScoreBps
  ((k.setARVSVestingSchedule schedule).recordGrant .arvs key totalAmount, schedule.releasedAmount)

structure StageRun where
  keeper : VestingKeeper
  stages : List ARVSStageEntry
  amount : Int
  released : Bool

def StageRun.keep (stage : ARVSStageEntry) (run : StageRun) : StageRun :=
  { run with stages := stage :: run.stages }

def releaseStages (call : VestingCall) (key : VestingKey) (recipient : String) :
    VestingKeeper → List ARVSStageEntry → StageRun
  | k, [] => ⟨k, [], 0, false⟩
  | k, stage :: rest =>
      if stage.released ∨ call.currentEpoch < stage.unlockAtEpoch then
        (releaseStages call key recipient k rest).keep stage
      else if stage.amount = 0 then
        (releaseStages call key recipient k rest).keep { stage with released := true }
      else
        match k.sendCoinsFromModuleToAccount (call.refused (.stage key stage.stageIndex)) recipient
            stage.amount with
        | none => (releaseStages call key recipient k rest).keep stage
        | some k =>
            let run := releaseStages call key recipient (k.recordPaid .arvs key stage.amount) rest
            ⟨run.keeper, { stage with released := true } :: run.stages, stage.amount + run.amount, true⟩

def releaseARVSSchedule (call : VestingCall) (schedule : ARVSVestingSchedule) : Option VestingKeeper := do
  if schedule.status ≠ .active then none
  let recipient ← call.addresses.accAddress schedule.contributor
  let run := releaseStages call schedule.key recipient k schedule.stages
  let schedule : ARVSVestingSchedule :=
    { schedule with stages := run.stages, releasedAmount := schedule.releasedAmount + run.amount }
  if run.released ∨ schedule.releasedAmount ≥ schedule.totalAmount then
    if run.stages.all fun stage => stage.released then
      return (run.keeper.setARVSVestingSchedule { schedule with status := .completed }).recordCompleted
        .arvs schedule.key
    else return run.keeper.setARVSVestingSchedule schedule
  else none

def releaseNextARVS (call : VestingCall) (progress : VestingKeeper × Nat)
    (schedule : ARVSVestingSchedule) : VestingKeeper × Nat :=
  if progress.2 < call.params.maxVestingReleasesPerEpoch then
    match progress.1.releaseARVSSchedule call schedule with
    | none => progress
    | some k => (k, progress.2 + 1)
  else progress

def processARVSVestingReleases (call : VestingCall) : VestingKeeper :=
  (k.arvsSchedules.values.foldl (releaseNextARVS call) (k, 0)).1

def pauseARVSVesting (key : VestingKey) : VestingKeeper :=
  match k.getARVSVestingSchedule key with
  | none => k
  | some schedule =>
      if schedule.status ≠ .active then k
      else k.setARVSVestingSchedule { schedule with status := .paused }

def resumeARVSVesting (key : VestingKey) : VestingKeeper :=
  match k.getARVSVestingSchedule key with
  | none => k
  | some schedule =>
      if schedule.status ≠ .paused then k
      else k.setARVSVestingSchedule { schedule with status := .active }

def clawbackARVSVesting (key : VestingKey) : VestingKeeper × Int :=
  match k.getARVSVestingSchedule key with
  | none => (k, 0)
  | some schedule =>
      if schedule.status ≠ .active ∧ schedule.status ≠ .paused then (k, 0)
      else
        let unvested := unreleasedSum schedule.stages
        ((k.setARVSVestingSchedule { schedule with status := .clawedBack }).recordReturned .arvs key unvested,
          unvested)

end Adaptive

section Distribution

inductive DistributionError
  | invalidRecipient | transferFailed

def payRoyalty (call : VestingCall) (index : Nat) (recipient : String) (amount : Int) : VestingKeeper :=
  if amount ≤ 0 then k
  else match call.addresses.accAddress recipient with
    | none => k
    | some account =>
        (k.sendCoinsFromModuleToAccount (call.refused (.royalty index)) account amount).getD k

def payRoyaltyRoutes (call : VestingCall) (routes : List RoyaltyRoute) : VestingKeeper :=
  routes.zipIdx.foldl (fun k (route, index) => k.payRoyalty call index route.recipient route.amount) k

def effectiveVestingEpochs (params : RewardParams) (stats : ContributorStats) (recipient : String) : Int :=
  let extended :=
    if recipient ≠ "" ∧ 0 < params.repeatOffenderThreshold ∧
        params.repeatOffenderThreshold ≤ stats.offenseCount then
      match params.repeatOffenderVestingMultiplier with
      | none => params.vestingEpochs
      | some multiplier =>
          min (LegacyDec.mul multiplier (LegacyDec.ofInt params.vestingEpochs)).truncateInt
            (params.vestingEpochs * 4)
    else params.vestingEpochs
  if extended ≤ 0 then 1 else extended

def payReward (refused : Bool) (recipient : String) (amount : Int) : Except DistributionError VestingKeeper :=
  if 0 < amount then
    match k.sendCoinsFromModuleToAccount refused recipient amount with
    | none => .error .transferFailed
    | some k => .ok k
  else .ok k

def payRoyalties (call : VestingCall) (output : RewardOutput) : VestingKeeper :=
  if output.royaltyRoutes = [] then k.payRoyalty call 0 output.royaltyRecipient output.royaltyAmount
  else k.payRoyaltyRoutes call output.royaltyRoutes

/-- The distribution with linear vesting. What was paid before an error stays paid. -/
def distributeRewards (call : VestingCall) (output : RewardOutput) (recipient : String) :
    VestingKeeper × Option DistributionError :=
  let k := k.payRoyalties call output
  match k.payReward (call.refused .reward) ((call.addresses.accAddress recipient).getD "")
      output.immediateAmount with
  | .error error => (k, some error)
  | .ok k =>
      if 0 < output.vestedAmount ∧ 0 < output.claimID then
        (k.createVestingSchedule
          { contributor := recipient, claimID := output.claimID, totalAmount := output.vestedAmount,
            releasedAmount := 0, startEpoch := call.currentEpoch,
            vestingEpochs := effectiveVestingEpochs call.params (call.stats recipient) recipient,
            status := .active }, none)
      else (k, none)

structure RiskSignals where
  similarityScore : LegacyDec
  verifierConfidence : LegacyDec
  category : String
  isDerivative : Bool

def RiskSignals.profile (signals : RiskSignals) (call : VestingCall) (arvs : ARVSParams)
    (recipient : String) : VestingProfile × Nat :=
  selectVestingProfile (buildRiskScoreInput (call.stats recipient) signals.category
    signals.similarityScore signals.verifierConfidence signals.isDerivative call.params) arvs

def payImmediate (call : VestingCall) (key : VestingKey) (account : String) (amount : Int) :
    VestingKeeper × Option DistributionError :=
  match k.payReward (call.refused .reward) account amount with
  | .error error => (k, some error)
  | .ok k => (k.recordPaid .arvs key amount, none)

/-- The distribution with staged vesting. The schedule is stored before the immediate amount is paid. -/
def distributeRewardsARVS (call : VestingCall) (arvs : ARVSParams) (output : RewardOutput)
    (recipient : String) (signals : RiskSignals) : VestingKeeper × Option DistributionError :=
  match call.addresses.accAddress recipient with
  | none => (k, some .invalidRecipient)
  | some account =>
      let k := k.payRoyaltyRoutes call output.royaltyRoutes
      let selected := signals.profile call arvs recipient
      if output.finalRewardAmount = 0 then (k, none)
      else
        let key : VestingKey := ⟨recipient, output.claimID⟩
        let created := k.createARVSVestingSchedule call key output.finalRewardAmount selected.1 selected.2
        created.1.payImmediate call key account created.2

def rewardAccepted (call : VestingCall) (arvs : Option ARVSParams) (output : RewardOutput)
    (recipient : String) (signals : RiskSignals) : VestingKeeper :=
  if 0 < output.finalRewardAmount then
    match arvs with
    | some arvs => (k.distributeRewardsARVS call arvs output recipient signals).1
    | none => (k.distributeRewards call output recipient).1
  else k

def burnCoins (refused : Bool) (amount : Int) : Option VestingKeeper :=
  if refused then none
  else (k.bank.burn pocAccount amount.toNat).map fun bank => { k with bank := bank }

def bountyShare (bps : U32) (unvestedAmount : Int) : Int := (bps.toNat * unvestedAmount).tdiv 10000

def payBounty (call : VestingCall) (payout : Payout) (recipient : String) (amount : Int) : VestingKeeper :=
  if 0 < amount ∧ recipient ≠ "" then
    match call.addresses.accAddress recipient with
    | none => k
    | some account => (k.sendCoinsFromModuleToAccount (call.refused payout) account amount).getD k
  else k

/-- What is left for the reviewers stays in the module. -/
def distributeBounty (call : VestingCall) (arvs : ARVSParams) (unvestedAmount : Int) (challenger : String) :
    VestingKeeper :=
  if unvestedAmount = 0 then k
  else
    let dist := arvs.bountyDistribution
    let k := k.payBounty call .bountyChallenger challenger (bountyShare dist.challengerBps unvestedAmount)
    let burnAmt := bountyShare dist.burnBps unvestedAmount
    let k := if 0 < burnAmt then (k.burnCoins (call.refused .bountyBurn) burnAmt).getD k else k
    k.payBounty call .bountyTreasury arvs.treasuryAddress (bountyShare dist.treasuryBps unvestedAmount)

end Distribution

end VestingKeeper

end Omniphi.Poc
