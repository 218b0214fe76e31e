import Omniphi.Decimals
import Omniphi.Poc.Reward

/-! The split of a gross reward: the royalties of the ancestors, what is left for the claim itself, and when
no claim is paid twice. -/

namespace Omniphi.Poc

section Params

variable (formula : RewardFormula)

def oneDec : LegacyDec := LegacyDec.ofInt 1

def shareWithin (bound share : LegacyDec) : Bool := decide (0 ≤ share ∧ share ≤ bound)

def validateOriginalityBand (band : OriginalityBand) : Bool :=
  shareWithin oneDec band.minSimilarity && shareWithin (hundredths 101) band.maxSimilarity &&
    decide (band.minSimilarity < band.maxSimilarity) && shareWithin (hundredths 200) band.multiplier

def validateOriginalityBands (bands : List OriginalityBand) : Bool :=
  decide (bands.length ≤ 10) && bands.all validateOriginalityBand

/-- The checks of the parameters that the reward reads. -/
def RewardFormula.validate : Bool :=
  decide (0 ≤ formula.baseRewardUnit) && shareWithin oneDec formula.royaltyShare &&
    shareWithin oneDec formula.immediateRewardRatio && validateOriginalityBands formula.originalityBands &&
    formula.grandparentRoyaltyShare.all (shareWithin (hundredths 25)) &&
    decide (formula.maxRoyaltyDepth ≤ 5) && formula.maxTotalRoyaltyShare.all (shareWithin (hundredths 50)) &&
    formula.repeatOffenderRewardCap.all fun cap => decide (hundredths 10 ≤ cap ∧ cap ≤ oneDec)

def defaultFormula : RewardFormula where
  baseRewardUnit := 1000
  enableConfigurableBands := false
  originalityBands := defaultOriginalityBands
  repeatOffenderRewardCap := some (hundredths 50)
  royaltyShare := hundredths 10
  grandparentRoyaltyShare := some (hundredths 5)
  maxTotalRoyaltyShare := some (hundredths 25)
  maxRoyaltyDepth := 2
  immediateRewardRatio := hundredths 20

example : defaultFormula.validate = true := by decide

end Params

section Gross

variable (formula : RewardFormula) (params : RewardParams) (stats : String → ContributorStats)
  (impact : String → LegacyDec) (claims : U64 → Option Lineage) (input : RewardContext)

def grossReward : Int :=
  let multiplier := originalityMultiplier formula input
  let qualityFactor := input.qualityScore.quo (LegacyDec.ofInt 10)
  let gross := ((LegacyDec.ofInt input.baseReward).mul qualityFactor).mul multiplier
  let gross :=
    if input.contributor = "" then gross
    else
      let penalised := penalised formula params (stats input.contributor) input.baseReward gross
      let impactMult := impact input.contributor
      if impactMult = LegacyDec.ofInt 1 then penalised else penalised.mul impactMult
  gross.truncateInt

def royaltyDue (share : LegacyDec) (gross : Int) : Int := (share.mulInt gross).truncateInt

def maxRoyalty (gross : Int) : Int := (formula.maxTotalRoyaltyShare.map (royaltyDue · gross)).getD 0

def owesRoyalties : Bool :=
  decide (originalityMultiplier formula input < LegacyDec.ofInt 1 ∧ input.parentClaimID ≠ 0)

def routesOf (gross : Int) : List RoyaltyRoute :=
  if owesRoyalties formula input then
    royaltyRoutes claims gross (maxRoyalty formula gross) (royaltyShares formula) 1 input.parentClaimID 0
  else []

def payable (cap totalRoyalty royaltyAmt : Int) : Int :=
  if 0 < cap ∧ totalRoyalty + royaltyAmt > cap then cap - totalRoyalty else royaltyAmt

def royaltyLoop (gross cap : Int) : List LegacyDec → Nat → U64 → List RoyaltyRoute × Int →
    List RoyaltyRoute × Int
  | [], _, _, paid => paid
  | share :: shares, depth, currentClaimID, (routes, totalRoyalty) =>
      if currentClaimID = 0 then (routes, totalRoyalty)
      else match claims currentClaimID with
        | none => (routes, totalRoyalty)
        | some claim =>
            let royaltyAmt := payable cap totalRoyalty (royaltyDue share gross)
            if royaltyAmt = 0 then (routes, totalRoyalty)
            else royaltyLoop gross cap shares (depth + 1) claim.parentClaimId
              (routes ++ [⟨claim.contributor, royaltyAmt, currentClaimID, depth⟩], totalRoyalty + royaltyAmt)

def totalRoyaltyPaid : Int :=
  let gross := grossReward formula params stats impact input
  if gross ≠ 0 ∧ owesRoyalties formula input = true then
    (royaltyLoop claims gross (maxRoyalty formula gross) (royaltyShares formula) 1 input.parentClaimID
      ([], 0)).2
  else 0

section Computed

variable {formula params stats impact claims input}

theorem calculateReward_zero (none : grossReward formula params stats impact input = 0) :
    calculateReward formula params stats impact claims input = noReward input.claimID :=
  if_pos none

theorem calculateReward_paid (paid : grossReward formula params stats impact input ≠ 0) :
    calculateReward formula params stats impact claims input =
      let gross := grossReward formula params stats impact input
      let routes := routesOf formula claims input gross
      let rest := gross - (routes.map fun route => route.amount).sum
      let immediate := royaltyDue formula.immediateRewardRatio rest
      { finalRewardAmount := rest
        royaltyAmount := (routes.head?.map fun route => route.amount).getD 0
        royaltyRecipient := (routes.head?.map fun route => route.recipient).getD ""
        vestedAmount := rest - immediate
        immediateAmount := immediate
        royaltyRoutes := routes
        claimID := input.claimID } := by
  have owes : routesOf formula claims input = fun gross =>
      if originalityMultiplier formula input < LegacyDec.ofInt 1 ∧ input.parentClaimID ≠ 0 then
        royaltyRoutes claims gross (maxRoyalty formula gross) (royaltyShares formula) 1 input.parentClaimID 0
      else [] := by
    funext gross
    simp only [routesOf, owesRoyalties, decide_eq_true_eq]
  rw [owes]
  refine (if_neg paid).trans ?_
  unfold maxRoyalty royaltyDue
  cases formula.maxTotalRoyaltyShare <;> rfl

section Routes

variable {gross cap : Int} {share : LegacyDec} {shares : List LegacyDec} {depth : Nat} {id : U64} {total : Int}

theorem royaltyRoutes_root : royaltyRoutes claims gross cap shares depth 0 total = [] := by
  cases shares with
  | nil => rfl
  | cons share shares => exact if_pos rfl

theorem royaltyRoutes_missing (missing : claims id = none) :
    royaltyRoutes claims gross cap shares depth id total = [] := by
  cases shares with
  | nil => rfl
  | cons share shares =>
      simp only [royaltyRoutes, missing]
      exact ite_self _

variable {claim : Lineage} (stored : id ≠ 0) (found : claims id = some claim)

include stored found

theorem royaltyRoutes_unpaid (unpaid : payable cap total (royaltyDue share gross) = 0) :
    royaltyRoutes claims gross cap (share :: shares) depth id total = [] := by
  simp only [royaltyRoutes, found, if_neg stored]
  exact if_pos unpaid

theorem royaltyRoutes_paid (paid : payable cap total (royaltyDue share gross) ≠ 0) :
    royaltyRoutes claims gross cap (share :: shares) depth id total =
      ⟨claim.contributor, payable cap total (royaltyDue share gross), id, depth⟩ ::
        royaltyRoutes claims gross cap shares (depth + 1) claim.parentClaimId
          (total + payable cap total (royaltyDue share gross)) := by
  simp only [royaltyRoutes, found, if_neg stored]
  exact if_neg paid

end Routes

theorem royaltyLoop_eq (gross cap : Int) (shares : List LegacyDec) (depth : Nat) (id : U64)
    (routes : List RoyaltyRoute) (total : Int) :
    royaltyLoop claims gross cap shares depth id (routes, total) =
      (routes ++ royaltyRoutes claims gross cap shares depth id total,
        total +
          ((royaltyRoutes claims gross cap shares depth id total).map fun route => route.amount).sum) := by
  induction shares generalizing depth id routes total with
  | nil => simp [royaltyLoop, royaltyRoutes]
  | cons share shares ih =>
      by_cases root : id = 0
      · subst root
        rw [royaltyRoutes_root]
        simp [royaltyLoop]
      · cases found : claims id with
        | none => simp [royaltyLoop, royaltyRoutes_missing found, found]
        | some claim =>
            by_cases unpaid : payable cap total (royaltyDue share gross) = 0
            · simp [royaltyLoop, royaltyRoutes_unpaid root found unpaid, found, unpaid]
            · simp only [royaltyLoop, found, if_neg root, if_neg unpaid, ih]
              simp [royaltyRoutes_paid root found unpaid, Int.add_assoc]

end Computed

end Gross

section Amounts

theorem floor_le {product gross : Int} (bound : product ≤ 1000000000000000000 * gross) :
    product / 10 ^ 18 ≤ gross := by
  omega

variable {share : LegacyDec} {gross : Int} (nonneg : 0 ≤ gross)

include nonneg

theorem due_eq (positive : 0 ≤ share) : royaltyDue share gross = share * gross / 10 ^ 18 :=
  Int.tdiv_eq_ediv_of_nonneg (Int.mul_nonneg positive nonneg)

theorem due_nonneg (positive : 0 ≤ share) : 0 ≤ royaltyDue share gross := by
  rw [due_eq nonneg positive]
  exact Int.ediv_nonneg (Int.mul_nonneg positive nonneg) (by decide)

theorem due_le (positive : 0 ≤ share) (within : share ≤ oneDec) : royaltyDue share gross ≤ gross := by
  rw [due_eq nonneg positive]
  exact floor_le (Int.mul_le_mul_of_nonneg_right within nonneg)

end Amounts

section Conserved

variable (formula : RewardFormula) (params : RewardParams) (stats : String → ContributorStats)
  (impact : String → LegacyDec) (claims : U64 → Option Lineage) (input : RewardContext)

/-- The amounts of a reward are non-negative and make up the gross reward, the royalties stay below their cap,
and no claim is paid twice. -/
structure RewardConserved : Prop where
  routes : ((calculateReward formula params stats impact claims input).royaltyRoutes.map fun route =>
    route.amount).sum = totalRoyaltyPaid formula params stats impact claims input
  capped : ∀ share, formula.maxTotalRoyaltyShare = some share →
    totalRoyaltyPaid formula params stats impact claims input ≤
      royaltyDue share (grossReward formula params stats impact input)
  whole : (calculateReward formula params stats impact claims input).finalRewardAmount +
    totalRoyaltyPaid formula params stats impact claims input = grossReward formula params stats impact input
  split : (calculateReward formula params stats impact claims input).immediateAmount +
      (calculateReward formula params stats impact claims input).vestedAmount =
    (calculateReward formula params stats impact claims input).finalRewardAmount
  final : 0 ≤ (calculateReward formula params stats impact claims input).finalRewardAmount
  immediate : 0 ≤ (calculateReward formula params stats impact claims input).immediateAmount
  vested : 0 ≤ (calculateReward formula params stats impact claims input).vestedAmount
  amounts : ∀ route ∈ (calculateReward formula params stats impact claims input).royaltyRoutes, 0 ≤ route.amount
  once : (input.claimID :: (calculateReward formula params stats impact claims input).royaltyRoutes.map
    fun route => route.claimID).Nodup

def secondShare : Option LegacyDec :=
  if formula.maxRoyaltyDepth ≤ 1 then none else formula.grandparentRoyaltyShare.filter fun share => share ≠ 0

/-- The parent is on record, and its share is at least one. -/
def ParentDue (gross : Int) (claim : Lineage) : Prop :=
  owesRoyalties formula input = true ∧ claims input.parentClaimID = some claim ∧
    0 < royaltyDue formula.royaltyShare gross

/-- So is the parent's parent, where the cap leaves something. -/
def GrandparentDue (gross : Int) (claim : Lineage) (share : LegacyDec) : Prop :=
  secondShare formula = some share ∧ claim.parentClaimId ≠ 0 ∧ (claims claim.parentClaimId).isSome ∧
    0 < royaltyDue share gross ∧
    (maxRoyalty formula gross = 0 ∨ royaltyDue formula.royaltyShare gross < maxRoyalty formula gross)

/-- The ancestors with a share due are distinct from one another and from the claim, a cap that is set is not
rounded to zero, and without oneDec the shares leave nothing negative. -/
def RoyaltiesSound (gross : Int) : Prop :=
  ∀ claim, ParentDue formula claims input gross claim →
    input.parentClaimID ≠ input.claimID ∧
    (∀ share, formula.maxTotalRoyaltyShare = some share → 0 < royaltyDue share gross) ∧
    ∀ share, GrandparentDue formula claims gross claim share →
      claim.parentClaimId ≠ input.claimID ∧ claim.parentClaimId ≠ input.parentClaimID ∧
      (formula.maxTotalRoyaltyShare = none →
        royaltyDue formula.royaltyShare gross + royaltyDue share gross ≤ gross)

variable {formula params stats impact claims input}

theorem royaltyShares_eq : royaltyShares formula = formula.royaltyShare :: (secondShare formula).toList := by
  unfold royaltyShares secondShare
  by_cases shallow : formula.maxRoyaltyDepth ≤ 1
  · have taken : (if formula.maxRoyaltyDepth = 0 then 1 else formula.maxRoyaltyDepth) = 1 := by
      split <;> omega
    rw [taken, if_pos shallow]
    cases formula.grandparentRoyaltyShare with
    | none => rfl
    | some share =>
        dsimp only
        split <;> rfl
  · obtain ⟨depth, deep⟩ : ∃ depth,
        (if formula.maxRoyaltyDepth = 0 then 1 else formula.maxRoyaltyDepth) = depth + 2 :=
      ⟨formula.maxRoyaltyDepth - 2, by split <;> omega⟩
    rw [deep, if_neg shallow]
    cases formula.grandparentRoyaltyShare with
    | none => rfl
    | some share =>
        by_cases zero : share = 0
        · simp [zero]
        · simp [Option.filter_some, zero]

section Routes

variable {gross : Int}

theorem payable_first_zero (cap : Int) {amount : Int} : payable cap 0 amount = 0 ↔ amount = 0 := by
  unfold payable
  split <;> omega

theorem routesOf_undue (undue : ∀ claim, ¬ ParentDue formula claims input gross claim)
    (nonneg : 0 ≤ royaltyDue formula.royaltyShare gross) : routesOf formula claims input gross = [] := by
  unfold routesOf
  split
  · rename_i owes
    cases found : claims input.parentClaimID with
    | none => exact royaltyRoutes_missing found
    | some claim =>
        have small : royaltyDue formula.royaltyShare gross = 0 := by
          by_contra large
          exact undue claim ⟨owes, found, by omega⟩
        rw [royaltyShares_eq]
        exact royaltyRoutes_unpaid (by simp_all [owesRoyalties]) found ((payable_first_zero _).2 small)
  · rfl

variable {claim : Lineage}

theorem routesOf_due (owed : ParentDue formula claims input gross claim) :
    routesOf formula claims input gross =
      ⟨claim.contributor, payable (maxRoyalty formula gross) 0 (royaltyDue formula.royaltyShare gross),
          input.parentClaimID, 1⟩ ::
        royaltyRoutes claims gross (maxRoyalty formula gross) (secondShare formula).toList 2 claim.parentClaimId
          (payable (maxRoyalty formula gross) 0 (royaltyDue formula.royaltyShare gross)) := by
  obtain ⟨owes, found, positive⟩ := owed
  have paid : payable (maxRoyalty formula gross) 0 (royaltyDue formula.royaltyShare gross) ≠ 0 :=
    mt (payable_first_zero _).1 positive.ne'
  rw [routesOf, if_pos owes, royaltyShares_eq, royaltyRoutes_paid (by simp_all [owesRoyalties]) found paid,
    Int.zero_add]

theorem payable_second_zero {cap first second : Int} (capped : 0 ≤ cap) (nonneg : 0 ≤ second) :
    payable cap (payable cap 0 first) second = 0 ↔ ¬ (0 < second ∧ (cap = 0 ∨ first < cap)) := by
  unfold payable
  split_ifs <;> omega

theorem secondRoutes_undue (capped : 0 ≤ maxRoyalty formula gross)
    (nonneg : ∀ share, secondShare formula = some share → 0 ≤ royaltyDue share gross)
    (undue : ∀ share, ¬ GrandparentDue formula claims gross claim share) :
    royaltyRoutes claims gross (maxRoyalty formula gross) (secondShare formula).toList 2 claim.parentClaimId
      (payable (maxRoyalty formula gross) 0 (royaltyDue formula.royaltyShare gross)) = [] := by
  cases second : secondShare formula with
  | none => rfl
  | some share =>
      by_cases root : claim.parentClaimId = 0
      · rw [root]
        exact royaltyRoutes_root
      · cases found : claims claim.parentClaimId with
        | none => exact royaltyRoutes_missing found
        | some older =>
            refine royaltyRoutes_unpaid root found ((payable_second_zero capped (nonneg share second)).2 ?_)
            intro owed
            exact undue share ⟨second, root, by rw [found]; rfl, owed⟩

theorem secondRoutes_due {share : LegacyDec} (capped : 0 ≤ maxRoyalty formula gross)
    (owed : GrandparentDue formula claims gross claim share) :
    ∃ recipient, royaltyRoutes claims gross (maxRoyalty formula gross) (secondShare formula).toList 2
        claim.parentClaimId (payable (maxRoyalty formula gross) 0 (royaltyDue formula.royaltyShare gross)) =
      [⟨recipient, payable (maxRoyalty formula gross)
        (payable (maxRoyalty formula gross) 0 (royaltyDue formula.royaltyShare gross)) (royaltyDue share gross),
        claim.parentClaimId, 2⟩] := by
  obtain ⟨second, root, stored, owed⟩ := owed
  obtain ⟨older, found⟩ := Option.isSome_iff_exists.1 stored
  have paid := mt (payable_second_zero capped owed.1.le).1 (not_not.2 owed)
  refine ⟨older.contributor, ?_⟩
  rw [second]
  exact royaltyRoutes_paid root found paid

end Routes

section Valid

variable (valid : formula.validate = true) {gross : Int}

include valid

theorem validate_shares :
    (0 ≤ formula.royaltyShare ∧ formula.royaltyShare ≤ oneDec) ∧
    (0 ≤ formula.immediateRewardRatio ∧ formula.immediateRewardRatio ≤ oneDec) ∧
    (∀ share, secondShare formula = some share → 0 ≤ share) ∧
    ∀ share, formula.maxTotalRoyaltyShare = some share → 0 ≤ share ∧ share ≤ oneDec := by
  simp only [RewardFormula.validate, Bool.and_eq_true, shareWithin, decide_eq_true_eq,
    Option.all_eq_true] at valid
  obtain ⟨⟨⟨⟨⟨⟨⟨-, royalty⟩, immediate⟩, -⟩, second⟩, -⟩, cap⟩, -⟩ := valid
  refine ⟨royalty, immediate, fun share chosen => ?_, fun share chosen => ?_⟩
  · unfold secondShare at chosen
    split at chosen
    · cases chosen
    · exact (second share (Option.filter_eq_some_iff.1 chosen).1).1
  · have half := cap share chosen
    exact ⟨half.1, half.2.trans (by decide)⟩

theorem maxRoyalty_nonneg (nonneg : 0 ≤ gross) : 0 ≤ maxRoyalty formula gross := by
  unfold maxRoyalty
  cases cap : formula.maxTotalRoyaltyShare with
  | none => exact le_rfl
  | some share => exact due_nonneg nonneg ((validate_shares valid).2.2.2 share cap).1

end Valid

section Totals

variable {gross : Int}

theorem royaltiesSound_of_due {claim : Lineage} (owed : ParentDue formula claims input gross claim) :
    RoyaltiesSound formula claims input gross ↔ input.parentClaimID ≠ input.claimID ∧
      (∀ share, formula.maxTotalRoyaltyShare = some share → 0 < royaltyDue share gross) ∧
      ∀ share, GrandparentDue formula claims gross claim share →
        claim.parentClaimId ≠ input.claimID ∧ claim.parentClaimId ≠ input.parentClaimID ∧
        (formula.maxTotalRoyaltyShare = none →
          royaltyDue formula.royaltyShare gross + royaltyDue share gross ≤ gross) := by
  refine ⟨fun sound => sound claim owed, fun sound claim' owed' => ?_⟩
  obtain rfl := Option.some.inj (owed.2.1.symm.trans owed'.2.1)
  exact sound

theorem maxRoyalty_cases (valid : formula.validate = true) (nonneg : 0 ≤ gross) :
    (formula.maxTotalRoyaltyShare = none ∧ maxRoyalty formula gross = 0) ∨
      ∃ share, formula.maxTotalRoyaltyShare = some share ∧ maxRoyalty formula gross = royaltyDue share gross ∧
        0 ≤ royaltyDue share gross ∧ royaltyDue share gross ≤ gross := by
  obtain ⟨-, -, -, within⟩ := validate_shares valid
  unfold maxRoyalty
  cases cap : formula.maxTotalRoyaltyShare with
  | none => exact .inl ⟨rfl, rfl⟩
  | some share =>
      obtain ⟨least, most⟩ := within share cap
      exact .inr ⟨share, rfl, rfl, due_nonneg nonneg least, due_le nonneg least most⟩

variable (valid : formula.validate = true) {first second : Int} (nonneg : 0 ≤ gross) (paid : 0 < first)

include valid nonneg paid

theorem single_sound (within : first ≤ gross) :
    ((∀ share, formula.maxTotalRoyaltyShare = some share →
        payable (maxRoyalty formula gross) 0 first ≤ royaltyDue share gross) ∧
      payable (maxRoyalty formula gross) 0 first ≤ gross ∧ 0 ≤ payable (maxRoyalty formula gross) 0 first) ↔
      ∀ share, formula.maxTotalRoyaltyShare = some share → 0 < royaltyDue share gross := by
  rcases maxRoyalty_cases valid nonneg with ⟨none, cap⟩ | ⟨share, some, cap, least, most⟩
  · rw [none, cap]
    unfold payable
    simp only [reduceCtorEq, false_imp_iff, implies_true, true_and, iff_true]
    split <;> omega
  · rw [some, cap]
    unfold payable
    simp only [Option.some.injEq, forall_eq']
    split <;> omega

theorem pair_sound (more : 0 < second) :
    let cap := maxRoyalty formula gross
    let nearer := payable cap 0 first
    let farther := payable cap nearer second
    ((∀ share, formula.maxTotalRoyaltyShare = some share → nearer + farther ≤ royaltyDue share gross) ∧
      nearer + farther ≤ gross ∧ 0 ≤ nearer ∧ 0 ≤ farther) ↔
      (∀ share, formula.maxTotalRoyaltyShare = some share → 0 < royaltyDue share gross) ∧
        (formula.maxTotalRoyaltyShare = none → first + second ≤ gross) := by
  dsimp only
  rcases maxRoyalty_cases valid nonneg with ⟨none, cap⟩ | ⟨share, some, cap, least, most⟩
  · rw [none, cap]
    unfold payable
    simp only [reduceCtorEq, false_imp_iff, implies_true, true_and, true_imp_iff]
    split_ifs <;> omega
  · rw [some, cap]
    unfold payable
    simp only [Option.some.injEq, forall_eq', reduceCtorEq, false_imp_iff, and_true]
    split_ifs <;> omega

end Totals

section NonNegative

end NonNegative

section Split

variable (valid : formula.validate = true)

theorem totalRoyaltyPaid_eq (paid : grossReward formula params stats impact input ≠ 0) :
    totalRoyaltyPaid formula params stats impact claims input =
      ((routesOf formula claims input (grossReward formula params stats impact input)).map fun route =>
        route.amount).sum := by
  unfold totalRoyaltyPaid routesOf
  by_cases owes : owesRoyalties formula input = true
  · rw [if_pos owes, if_pos ⟨paid, owes⟩, royaltyLoop_eq]
    exact Int.zero_add _
  · rw [if_neg owes, if_neg fun both => owes both.2]
    rfl

include valid

theorem rewardConserved_iff_routes (positive : 0 < grossReward formula params stats impact input) :
    RewardConserved formula params stats impact claims input ↔
      let gross := grossReward formula params stats impact input
      let routes := routesOf formula claims input gross
      let total := (routes.map fun route => route.amount).sum
      (∀ share, formula.maxTotalRoyaltyShare = some share → total ≤ royaltyDue share gross) ∧ total ≤ gross ∧
        (∀ route ∈ routes, 0 ≤ route.amount) ∧
        (input.claimID :: routes.map fun route => route.claimID).Nodup := by
  have computed := @calculateReward_paid _ _ _ _ claims _ positive.ne'
  have total := @totalRoyaltyPaid_eq _ _ _ _ claims _ positive.ne'
  obtain ⟨-, ⟨least, most⟩, -⟩ := validate_shares valid
  dsimp only at computed ⊢
  constructor
  · rintro ⟨-, capped, whole, -, final, -, -, amounts, once⟩
    rw [computed] at amounts once final whole
    simp only [total] at capped whole
    exact ⟨capped, by simpa using final, amounts, once⟩
  · rintro ⟨capped, within, amounts, once⟩
    constructor
    case routes => rw [computed, total]
    case capped => rwa [total]
    case whole => rw [computed, total]; exact Int.sub_add_cancel _ _
    case split => rw [computed]; exact add_sub_cancel _ _
    case final => rw [computed]; exact Int.sub_nonneg.2 within
    case immediate => rw [computed]; exact due_nonneg (Int.sub_nonneg.2 within) least
    case vested => rw [computed]; exact Int.sub_nonneg.2 (due_le (Int.sub_nonneg.2 within) least most)
    case amounts => rwa [computed]
    case once => rwa [computed]

omit valid in
theorem nodup_pair (a b : U64) : [a, b].Nodup ↔ b ≠ a := by
  simp [eq_comm]

omit valid in
theorem nodup_triple (a b c : U64) : [a, b, c].Nodup ↔ b ≠ a ∧ c ≠ a ∧ c ≠ b := by
  simp only [List.nodup_cons, List.mem_cons, List.not_mem_nil, or_false, not_or, not_false_iff, List.nodup_nil,
    and_true]
  exact ⟨fun h => ⟨Ne.symm h.1.1, Ne.symm h.1.2, Ne.symm h.2⟩,
    fun h => ⟨⟨Ne.symm h.1, Ne.symm h.2.1⟩, Ne.symm h.2.2⟩⟩

theorem routes_sound_iff {gross : Int} (positive : 0 < gross) :
    let routes := routesOf formula claims input gross
    let total := (routes.map fun route => route.amount).sum
    ((∀ share, formula.maxTotalRoyaltyShare = some share → total ≤ royaltyDue share gross) ∧ total ≤ gross ∧
      (∀ route ∈ routes, 0 ≤ route.amount) ∧ (input.claimID :: routes.map fun route => route.claimID).Nodup) ↔
      RoyaltiesSound formula claims input gross := by
  dsimp only
  obtain ⟨⟨least, most⟩, -, second, -⟩ := validate_shares valid
  by_cases owed : ∃ claim, ParentDue formula claims input gross claim
  · obtain ⟨claim, owed⟩ := owed
    rw [royaltiesSound_of_due owed, routesOf_due owed]
    by_cases more : ∃ share, GrandparentDue formula claims gross claim share
    · obtain ⟨share, more⟩ := more
      obtain ⟨recipient, routes⟩ := secondRoutes_due (maxRoyalty_nonneg valid positive.le) more
      have pair := pair_sound valid positive.le owed.2.2 more.2.2.2.1
      have only (P : LegacyDec → Prop) : (∀ share, GrandparentDue formula claims gross claim share → P share) ↔
          P share :=
        ⟨fun all => all share more, fun here share' more' => Option.some.inj (more.1.symm.trans more'.1) ▸ here⟩
      rw [routes, only]
      dsimp only at pair
      simp only [List.map_cons, List.map_nil, List.sum_cons, List.sum_nil, Int.add_zero, List.forall_mem_cons,
        nodup_triple]
      tauto
    · have single := single_sound valid positive.le owed.2.2 (due_le positive.le least most)
      rw [secondRoutes_undue (maxRoyalty_nonneg valid positive.le)
        (fun share chosen => due_nonneg positive.le (second share chosen)) (not_exists.1 more)]
      have none : ∀ share, ¬ GrandparentDue formula claims gross claim share := not_exists.1 more
      simp only [List.map_cons, List.map_nil, List.sum_cons, List.sum_nil, Int.add_zero, List.forall_mem_cons,
        and_true, nodup_pair, none, false_imp_iff, implies_true]
      tauto
  · rw [routesOf_undue (not_exists.1 owed) (due_nonneg positive.le least)]
    refine iff_of_true ⟨fun share chosen => ?_, positive.le, by simp, by simp⟩
      fun claim due => absurd ⟨claim, due⟩ owed
    exact due_nonneg positive.le ((validate_shares valid).2.2.2 share chosen).1

/-- A reward is split soundly just when the gross reward is not negative and the royalties due on it are
sound. -/
theorem rewardConserved_iff : RewardConserved formula params stats impact claims input ↔
    0 ≤ grossReward formula params stats impact input ∧
      RoyaltiesSound formula claims input (grossReward formula params stats impact input) := by
  rcases lt_trichotomy (grossReward formula params stats impact input) 0 with negative | zero | positive
  · refine iff_of_false (fun conserved => ?_) fun sound => absurd sound.1 (Int.not_le.2 negative)
    have total : 0 ≤ totalRoyaltyPaid formula params stats impact claims input := by
      rw [← conserved.routes]
      refine List.sum_nonneg fun amount listed => ?_
      obtain ⟨route, paid, rfl⟩ := List.mem_map.1 listed
      exact conserved.amounts route paid
    have whole := conserved.whole
    have final := conserved.final
    omega
  · have total : totalRoyaltyPaid formula params stats impact claims input = 0 := if_neg fun both => both.1 zero
    have none (share : LegacyDec) : royaltyDue share 0 = 0 := by
      simp [royaltyDue, LegacyDec.mulInt, LegacyDec.truncateInt]
    refine iff_of_true ?_ ⟨zero.ge, fun claim owed => absurd owed.2.2 ?_⟩
    · constructor <;> simp only [calculateReward_zero zero, total, zero, none, noReward] <;> simp
    · rw [zero, none]
      exact lt_irrefl 0
  · rw [rewardConserved_iff_routes valid positive, and_iff_right positive.le]
    exact routes_sound_iff valid positive

end Split

section Instance

def claimWith (claimID parentClaimID : U64) : RewardContext where
  claimID := claimID
  contributor := "author"
  qualityScore := LegacyDec.ofInt 10
  baseReward := 1000
  similarityScore := hundredths 80
  isDuplicate := false
  parentClaimID := parentClaimID
  reviewOverride := .keepAI

def rewardParams : RewardParams := ⟨10, 3, some (hundredths 200), 100⟩

def newcomer : String → ContributorStats := fun _ => ⟨0, 0, 0, 0, oneDec⟩

def lineageOf (id : U64) : Option Lineage :=
  if id = 1 then some ⟨"first", 0⟩ else if id = 2 then some ⟨"second", 1⟩ else none

def rewardOf (formula : RewardFormula) (claims : U64 → Option Lineage) (input : RewardContext) : RewardOutput :=
  calculateReward formula rewardParams newcomer (fun _ => oneDec) claims input

theorem rewardConserved_third :
    RewardConserved defaultFormula rewardParams newcomer (fun _ => oneDec) lineageOf (claimWith 3 2) := by
  refine (rewardConserved_iff (by decide)).2 ⟨by decide +kernel, fun claim owed => ?_⟩
  obtain rfl : ⟨"second", 1⟩ = claim := Option.some.inj owed.2.1
  refine ⟨by decide, fun share chosen => ?_, fun share _ => ⟨by decide, by decide, by simp [defaultFormula]⟩⟩
  obtain rfl : hundredths 25 = share := Option.some.inj chosen
  decide +kernel

def uncapped : RewardFormula := { defaultFormula with maxTotalRoyaltyShare := some 0 }

def generous : RewardFormula :=
  { defaultFormula with
    royaltyShare := oneDec, grandparentRoyaltyShare := some (hundredths 25), maxTotalRoyaltyShare := none }

/-- A claim named as its own parent earns its royalty as well, a cap of zero is none, and without a cap the
royalties can be more than the reward. -/
theorem royalties_unsound :
    ((rewardOf defaultFormula (fun _ => some ⟨"author", 3⟩) (claimWith 3 3)).royaltyRoutes.map fun route =>
      (route.claimID, route.amount)) = [(3, 70), (3, 35)] ∧
    uncapped.validate = true ∧
    ((rewardOf uncapped lineageOf (claimWith 3 2)).royaltyRoutes.map fun route => route.amount) = [70, 35] ∧
    generous.validate = true ∧ (rewardOf generous lineageOf (claimWith 3 2)).finalRewardAmount = -175 := by
  decide +kernel

end Instance

end Conserved

end Omniphi.Poc
