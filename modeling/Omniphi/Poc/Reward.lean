import Omniphi.Poc.Vesting

/-! The reward of a finalized claim: originality, quality, reputation, impact and the royalties of its
ancestors. -/

namespace Omniphi.Poc

inductive OriginalityOverride
  | keepAI | derivativeFalsePositive | derivativeTruePositive | notDerivativeFalseNegative
  | other (code : Nat)
  deriving DecidableEq

structure OriginalityBand where
  minSimilarity : LegacyDec
  maxSimilarity : LegacyDec
  multiplier : LegacyDec

def hundredths (n : Int) : LegacyDec := n * 10 ^ 16

def defaultOriginalityBands : List OriginalityBand :=
  [⟨hundredths 85, hundredths 101, hundredths 40⟩, ⟨hundredths 75, hundredths 85, hundredths 70⟩,
    ⟨hundredths 50, hundredths 75, hundredths 100⟩, ⟨hundredths 0, hundredths 50, hundredths 120⟩]

structure RewardFormula where
  baseRewardUnit : Int
  enableConfigurableBands : Bool
  originalityBands : List OriginalityBand
  repeatOffenderRewardCap : Option LegacyDec
  royaltyShare : LegacyDec
  grandparentRoyaltyShare : Option LegacyDec
  maxTotalRoyaltyShare : Option LegacyDec
  maxRoyaltyDepth : Nat
  immediateRewardRatio : LegacyDec

structure RewardContext where
  claimID : U64
  contributor : String
  qualityScore : LegacyDec
  baseReward : Int
  similarityScore : LegacyDec
  isDuplicate : Bool
  parentClaimID : U64
  reviewOverride : OriginalityOverride

def resolveOriginalityMultiplier (formula : RewardFormula) (sim : LegacyDec) : LegacyDec :=
  let bands :=
    if formula.enableConfigurableBands ∧ formula.originalityBands ≠ [] then formula.originalityBands
    else defaultOriginalityBands
  match bands.find? fun band => decide (band.minSimilarity ≤ sim ∧ sim < band.maxSimilarity) with
  | some band => band.multiplier
  | none => LegacyDec.ofInt 1

def originalityMultiplier (formula : RewardFormula) (input : RewardContext) : LegacyDec :=
  if input.reviewOverride = .derivativeFalsePositive then LegacyDec.ofInt 1
  else if input.isDuplicate then 0
  else if input.reviewOverride = .derivativeTruePositive then hundredths 40
  else resolveOriginalityMultiplier formula input.similarityScore

def isRepeatOffender (params : RewardParams) (stats : ContributorStats) : Bool :=
  decide (0 < params.repeatOffenderThreshold ∧ params.repeatOffenderThreshold ≤ stats.offenseCount)

def penalised (formula : RewardFormula) (params : RewardParams) (stats : ContributorStats) (baseReward : Int)
    (gross : LegacyDec) : LegacyDec :=
  let gross := gross.mul stats.reputationScore
  match isRepeatOffender params stats, formula.repeatOffenderRewardCap with
  | true, some cap => if cap = 0 then gross else min gross (cap.mul (LegacyDec.ofInt baseReward))
  | _, _ => gross

structure Lineage where
  contributor : String
  parentClaimId : U64

/-- The royalties of the ancestors, one share for each generation, up to the cap on their total. -/
def royaltyRoutes (claims : U64 → Option Lineage) (grossReward maxRoyalty : Int) :
    List LegacyDec → Nat → U64 → Int → List RoyaltyRoute
  | [], _, _, _ => []
  | share :: shares, depth, currentClaimID, totalRoyalty =>
      if currentClaimID = 0 then []
      else match claims currentClaimID with
        | none => []
        | some claim =>
            let due := (share.mulInt grossReward).truncateInt
            let royaltyAmt :=
              if 0 < maxRoyalty ∧ totalRoyalty + due > maxRoyalty then maxRoyalty - totalRoyalty else due
            if royaltyAmt = 0 then []
            else
              ⟨claim.contributor, royaltyAmt, currentClaimID, depth⟩ ::
                royaltyRoutes claims grossReward maxRoyalty shares (depth + 1) claim.parentClaimId
                  (totalRoyalty + royaltyAmt)

def royaltyShares (formula : RewardFormula) : List LegacyDec :=
  let shares := match formula.grandparentRoyaltyShare with
    | some share => if share = 0 then [formula.royaltyShare] else [formula.royaltyShare, share]
    | none => [formula.royaltyShare]
  shares.take (if formula.maxRoyaltyDepth = 0 then 1 else formula.maxRoyaltyDepth)

def noReward (claimID : U64) : RewardOutput := ⟨0, 0, "", 0, 0, [], claimID⟩

def calculateReward (formula : RewardFormula) (params : RewardParams) (stats : String → ContributorStats)
    (impact : String → LegacyDec) (claims : U64 → Option Lineage) (input : RewardContext) : RewardOutput :=
  let multiplier := originalityMultiplier formula input
  let qualityFactor := input.qualityScore.quo (LegacyDec.ofInt 10)
  let gross := ((LegacyDec.ofInt input.baseReward).mul qualityFactor).mul multiplier
  let gross :=
    if input.contributor = "" then gross
    else
      let penalised := penalised formula params (stats input.contributor) input.baseReward gross
      let impactMult := impact input.contributor
      if impactMult = LegacyDec.ofInt 1 then penalised else penalised.mul impactMult
  let grossReward := gross.truncateInt
  if grossReward = 0 then noReward input.claimID
  else
    let maxRoyalty := match formula.maxTotalRoyaltyShare with
      | some share => (share.mulInt grossReward).truncateInt
      | none => 0
    let routes :=
      if multiplier < LegacyDec.ofInt 1 ∧ input.parentClaimID ≠ 0 then
        royaltyRoutes claims grossReward maxRoyalty (royaltyShares formula) 1 input.parentClaimID 0
      else []
    let rest := grossReward - (routes.map fun route => route.amount).sum
    let immediate := (formula.immediateRewardRatio.mulInt rest).truncateInt
    { finalRewardAmount := rest
      royaltyAmount := (routes.head?.map fun route => route.amount).getD 0
      royaltyRecipient := (routes.head?.map fun route => route.recipient).getD ""
      vestedAmount := rest - immediate
      immediateAmount := immediate
      royaltyRoutes := routes
      claimID := input.claimID }

end Omniphi.Poc
