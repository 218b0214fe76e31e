import Omniphi.Guard.Risk

/-! The second layer of the risk evaluation: the features of a proposal, a linear score of them, and the
merge with what the rules say. -/

namespace Omniphi.Guard

open Gov

structure FeatureVectorV1 where
  isUpgrade : Int
  isParamChange : Int
  isTreasurySpend : Int
  isSlashingChange : Int
  isPocRuleChange : Int
  isPoseqRuleChange : Int
  treasurySpendBps : Int
  modulesTouchedCount : Int
  touchesConsensusCritical : Int
  reducesSlashing : Int
  changesValidatorRules : Int

namespace FeatureVectorV1

inductive FeatureError
  | oneHotSum (sum : Int)
  | treasurySpendBps (bps : Int)
  | modulesTouchedCount (count : Int)
  | booleanFeature (value : Int)
deriving DecidableEq

variable (f : FeatureVectorV1)

def empty : FeatureVectorV1 := ⟨0, 0, 0, 0, 0, 0, 0, 0, 0, 0, 0⟩

def getFeatureVector : List Int :=
  [f.isUpgrade, f.isParamChange, f.isTreasurySpend, f.isSlashingChange, f.isPocRuleChange,
    f.isPoseqRuleChange, f.treasurySpendBps, f.modulesTouchedCount, f.touchesConsensusCritical,
    f.reducesSlashing, f.changesValidatorRules]

def oneHot : Int :=
  f.isUpgrade + f.isParamChange + f.isTreasurySpend + f.isSlashingChange + f.isPocRuleChange +
    f.isPoseqRuleChange

def booleans : List Int :=
  [f.isUpgrade, f.isParamChange, f.isTreasurySpend, f.isSlashingChange, f.isPocRuleChange,
    f.isPoseqRuleChange, f.touchesConsensusCritical, f.reducesSlashing, f.changesValidatorRules]

def validate : Except FeatureError Unit :=
  if f.oneHot < 0 ∨ 1 < f.oneHot then .error (.oneHotSum f.oneHot)
  else if f.treasurySpendBps < 0 ∨ 10000 < f.treasurySpendBps then
    .error (.treasurySpendBps f.treasurySpendBps)
  else if f.modulesTouchedCount < 0 ∨ 50 < f.modulesTouchedCount then
    .error (.modulesTouchedCount f.modulesTouchedCount)
  else match f.booleans.find? fun b => b ≠ 0 ∧ b ≠ 1 with
  | some b => .error (.booleanFeature b)
  | none => .ok ()

theorem validate_ok_iff : f.validate = .ok () ↔
    (0 ≤ f.oneHot ∧ f.oneHot ≤ 1) ∧ (0 ≤ f.treasurySpendBps ∧ f.treasurySpendBps ≤ 10000) ∧
      (0 ≤ f.modulesTouchedCount ∧ f.modulesTouchedCount ≤ 50) ∧ ∀ b ∈ f.booleans, b = 0 ∨ b = 1 := by
  unfold validate
  by_cases hot : f.oneHot < 0 ∨ 1 < f.oneHot
  · rw [if_pos hot]
    exact iff_of_false (by rintro ⟨⟩) fun valid => by omega
  · by_cases bps : f.treasurySpendBps < 0 ∨ 10000 < f.treasurySpendBps
    · rw [if_neg hot, if_pos bps]
      exact iff_of_false (by rintro ⟨⟩) fun valid => by omega
    · by_cases modules : f.modulesTouchedCount < 0 ∨ 50 < f.modulesTouchedCount
      · rw [if_neg hot, if_neg bps, if_pos modules]
        exact iff_of_false (by rintro ⟨⟩) fun valid => by omega
      · rw [if_neg hot, if_neg bps, if_neg modules]
        have ranges : (0 ≤ f.oneHot ∧ f.oneHot ≤ 1) ∧
            (0 ≤ f.treasurySpendBps ∧ f.treasurySpendBps ≤ 10000) ∧
            (0 ≤ f.modulesTouchedCount ∧ f.modulesTouchedCount ≤ 50) := by omega
        cases found : f.booleans.find? fun b => b ≠ 0 ∧ b ≠ 1 with
        | some b =>
            have odd := List.find?_some found
            have member := List.mem_of_find?_eq_some found
            refine iff_of_false (by rintro ⟨⟩) fun valid => ?_
            rcases valid.2.2.2 b member with zero | one
            · simp [zero] at odd
            · simp [one] at odd
        | none =>
            refine iff_of_true rfl ⟨ranges.1, ranges.2.1, ranges.2.2, fun b member => ?_⟩
            have plain := List.find?_eq_none.1 found b member
            simp only [decide_eq_true_eq] at plain
            by_contra! odd
            exact plain odd

end FeatureVectorV1

section Extraction

variable (toLower : String → String)

def isConsensusCriticalMsg (msgTypeLower : String) : Bool :=
  ["staking", "consensus", "baseapp", "validator", "evidence", "slashing"].any (contains msgTypeLower)

/-- One round of the loop over the messages, but for the modules. -/
def inspectMessage (fv : FeatureVectorV1) (msg : AnyMsg) : FeatureVectorV1 :=
  let msgTypeLower := toLower msg.typeUrl
  let slashing := contains msgTypeLower "slashing"
  { fv with
    touchesConsensusCritical := if isConsensusCriticalMsg msgTypeLower then 1 else fv.touchesConsensusCritical
    reducesSlashing := if slashing then 1 else fv.reducesSlashing
    isSlashingChange := if slashing then 1 else fv.isSlashingChange
    changesValidatorRules :=
      if contains msgTypeLower "staking" || contains msgTypeLower "validator" then 1
      else fv.changesValidatorRules
    isPocRuleChange := if contains msgTypeLower "poc" then 1 else fv.isPocRuleChange
    isPoseqRuleChange :=
      if contains msgTypeLower "poseq" || contains msgTypeLower "rewardmult" then 1
      else fv.isPoseqRuleChange }

def moduleName (msgType : String) : Option (List Char) := (msgType.toList.splitOn '.')[1]?

def typeFeatures (proposalType : ProposalType) : FeatureVectorV1 :=
  match proposalType with
  | .softwareUpgrade => { FeatureVectorV1.empty with isUpgrade := 1 }
  | .paramChange => { FeatureVectorV1.empty with isParamChange := 1 }
  | .treasurySpend => { FeatureVectorV1.empty with isTreasurySpend := 1 }
  | .slashingReduction => { FeatureVectorV1.empty with isSlashingChange := 1 }
  | _ => .empty

-- The spend is a share in basis points already.
def spendFeature (spendPct : Nat) : Int :=
  let bps := (spendPct : Int) * 100
  if 10000 < bps then 10000 else bps

def proposalFeatures (authority : String) (feePool : FeePool) (proposal : Proposal) : FeatureVectorV1 :=
  let proposalType := (classifyProposal proposal).1
  { typeFeatures proposalType with
    treasurySpendBps :=
      if proposalType = .treasurySpend then
        spendFeature (calculateTreasurySpendPercentage authority feePool proposal)
      else 0 }

def extractFeatureVector (authority : String) (feePool : FeePool) (proposal : Proposal) : FeatureVectorV1 :=
  let fv := proposal.messages.foldl (inspectMessage toLower) (proposalFeatures authority feePool proposal)
  let modulesCount := (proposal.messages.filterMap fun msg => moduleName msg.typeUrl).dedup.length
  { fv with modulesTouchedCount := if 50 < modulesCount then 50 else modulesCount }

end Extraction

section Kinds

variable (toLower : String → String) (authority : String) (feePool : FeePool) (proposal : Proposal)

def flag (b : Bool) : Int := if b then 1 else 0

def anyMessage (names : String → Bool) : Bool :=
  proposal.messages.any fun msg => names (toLower msg.typeUrl)

/-- The kinds of change that raise one of the flags of which at most one may be set. -/
def kinds : List Bool :=
  let proposalType := (classifyProposal proposal).1
  [proposalType = .softwareUpgrade, proposalType = .paramChange, proposalType = .treasurySpend,
    proposalType = .slashingReduction || anyMessage toLower proposal (contains · "slashing"),
    anyMessage toLower proposal (contains · "poc"),
    anyMessage toLower proposal fun name => contains name "poseq" || contains name "rewardmult"]

variable {toLower proposal}

theorem foldl_inspectMessage {feature : FeatureVectorV1 → Int} {raises : AnyMsg → Bool}
    (round : ∀ fv msg, feature (inspectMessage toLower fv msg) = if raises msg then 1 else feature fv)
    (messages : List AnyMsg) (fv : FeatureVectorV1) :
    feature (messages.foldl (inspectMessage toLower) fv) =
      if messages.any raises then 1 else feature fv := by
  induction messages generalizing fv with
  | nil => rfl
  | cons msg messages ih =>
      rw [List.foldl_cons, ih, round, List.any_cons]
      cases raises msg <;> simp

theorem foldl_inspectMessage_const {feature : FeatureVectorV1 → Int}
    (round : ∀ fv msg, feature (inspectMessage toLower fv msg) = feature fv) (messages : List AnyMsg)
    (fv : FeatureVectorV1) : feature (messages.foldl (inspectMessage toLower) fv) = feature fv := by
  induction messages generalizing fv with
  | nil => rfl
  | cons msg messages ih => rw [List.foldl_cons, ih, round]

theorem typeFeatures_oneHot (proposalType : ProposalType) :
    (typeFeatures proposalType).isUpgrade = flag (proposalType = .softwareUpgrade) ∧
    (typeFeatures proposalType).isParamChange = flag (proposalType = .paramChange) ∧
    (typeFeatures proposalType).isTreasurySpend = flag (proposalType = .treasurySpend) ∧
    (typeFeatures proposalType).isSlashingChange = flag (proposalType = .slashingReduction) := by
  cases proposalType <;> decide

theorem typeFeatures_rest (proposalType : ProposalType) :
    (typeFeatures proposalType).isPocRuleChange = 0 ∧ (typeFeatures proposalType).isPoseqRuleChange = 0 ∧
    (typeFeatures proposalType).touchesConsensusCritical = 0 ∧
    (typeFeatures proposalType).reducesSlashing = 0 ∧
    (typeFeatures proposalType).changesValidatorRules = 0 := by
  cases proposalType <;> decide

theorem spendFeature_eq_iff {bps : Nat} (share : bps ≤ 10000) :
    spendFeature bps = bps ↔ bps = 0 ∨ bps = 10000 := by
  unfold spendFeature
  dsimp only
  split <;> omega

theorem spendFeature_mem (bps : Nat) : 0 ≤ spendFeature bps ∧ spendFeature bps ≤ 10000 := by
  unfold spendFeature
  dsimp only
  split <;> omega

theorem calculateTreasurySpendPercentage_le :
    calculateTreasurySpendPercentage authority feePool proposal ≤ 10000 := by
  unfold calculateTreasurySpendPercentage
  split
  · decide
  · split <;> decide
  · dsimp only
    split_ifs <;> omega

variable (toLower)

theorem treasurySpendBps_extract :
    (extractFeatureVector toLower authority feePool proposal).treasurySpendBps =
      if (classifyProposal proposal).1 = .treasurySpend then
        spendFeature (calculateTreasurySpendPercentage authority feePool proposal) else 0 :=
  @foldl_inspectMessage_const toLower (·.treasurySpendBps) (fun _ _ => rfl) _ _

theorem kinds_extract :
    [(extractFeatureVector toLower authority feePool proposal).isUpgrade,
      (extractFeatureVector toLower authority feePool proposal).isParamChange,
      (extractFeatureVector toLower authority feePool proposal).isTreasurySpend,
      (extractFeatureVector toLower authority feePool proposal).isSlashingChange,
      (extractFeatureVector toLower authority feePool proposal).isPocRuleChange,
      (extractFeatureVector toLower authority feePool proposal).isPoseqRuleChange] =
      (kinds toLower proposal).map flag := by
  obtain ⟨upgrade, paramChange, treasury, slashing⟩ := typeFeatures_oneHot (classifyProposal proposal).1
  obtain ⟨poc, poseq, -⟩ := typeFeatures_rest (classifyProposal proposal).1
  have raised (named : Bool) (start : Int) (b : Bool) (from_type : start = flag b) :
      (if named then 1 else start) = flag (b || named) := by
    subst from_type
    cases named <;> cases b <;> rfl
  simp only [kinds, List.map_cons, List.map_nil, List.cons.injEq, and_true]
  refine ⟨?_, ?_, ?_, ?_, ?_, ?_⟩
  · exact (@foldl_inspectMessage_const toLower (·.isUpgrade) (fun _ _ => rfl) _ _).trans upgrade
  · exact (@foldl_inspectMessage_const toLower (·.isParamChange) (fun _ _ => rfl) _ _).trans paramChange
  · exact (@foldl_inspectMessage_const toLower (·.isTreasurySpend) (fun _ _ => rfl) _ _).trans treasury
  · exact (@foldl_inspectMessage toLower (·.isSlashingChange)
      (fun msg => contains (toLower msg.typeUrl) "slashing") (fun _ _ => rfl) _ _).trans
        (raised _ _ _ slashing)
  · exact (@foldl_inspectMessage toLower (·.isPocRuleChange)
      (fun msg => contains (toLower msg.typeUrl) "poc") (fun _ _ => rfl) _ _).trans
        (raised _ _ false poc)
  · exact (@foldl_inspectMessage toLower (·.isPoseqRuleChange)
      (fun msg => contains (toLower msg.typeUrl) "poseq" || contains (toLower msg.typeUrl) "rewardmult")
      (fun _ _ => rfl) _ _).trans (raised _ _ false poseq)

theorem sum_map_flag (flags : List Bool) : (flags.map flag).sum = (flags.count true : Int) := by
  induction flags with
  | nil => rfl
  | cons b flags ih => cases b <;> simp [flag, ih, add_comm]

theorem flag_mem (b : Bool) : flag b = 0 ∨ flag b = 1 := by
  cases b <;> decide

theorem oneHot_extract : (extractFeatureVector toLower authority feePool proposal).oneHot =
    (kinds toLower proposal).count true := by
  rw [← sum_map_flag, ← kinds_extract toLower authority feePool, FeatureVectorV1.oneHot]
  simp only [List.sum_cons, List.sum_nil]
  ring

theorem booleans_extract : ∀ b ∈ (extractFeatureVector toLower authority feePool proposal).booleans,
    b = 0 ∨ b = 1 := by
  have kind : ∀ b ∈ (kinds toLower proposal).map flag, b = 0 ∨ b = 1 := by
    intro b member
    obtain ⟨set, -, rfl⟩ := List.mem_map.1 member
    exact flag_mem set
  rw [← kinds_extract toLower authority feePool] at kind
  have raised (named : Bool) (start : Int) (zero : start = 0) :
      (if named then 1 else start) = 0 ∨ (if named then 1 else start) = 1 := by
    cases named
    · exact .inl zero
    · exact .inr rfl
  have cleared := (typeFeatures_rest (classifyProposal proposal).1).2.2
  have critical := @foldl_inspectMessage toLower (·.touchesConsensusCritical)
    (fun msg => isConsensusCriticalMsg (toLower msg.typeUrl)) (fun _ _ => rfl) proposal.messages
    (proposalFeatures authority feePool proposal)
  have slashing := @foldl_inspectMessage toLower (·.reducesSlashing)
    (fun msg => contains (toLower msg.typeUrl) "slashing") (fun _ _ => rfl) proposal.messages
    (proposalFeatures authority feePool proposal)
  have validators := @foldl_inspectMessage toLower (·.changesValidatorRules)
    (fun msg => contains (toLower msg.typeUrl) "staking" || contains (toLower msg.typeUrl) "validator")
    (fun _ _ => rfl) proposal.messages (proposalFeatures authority feePool proposal)
  intro b member
  simp only [FeatureVectorV1.booleans, List.mem_cons, List.not_mem_nil, or_false] at member
  simp only [List.mem_cons, List.not_mem_nil, or_false] at kind
  rcases member with rfl | rfl | rfl | rfl | rfl | rfl | rfl | rfl | rfl
  · exact kind _ (by simp)
  · exact kind _ (by simp)
  · exact kind _ (by simp)
  · exact kind _ (by simp)
  · exact kind _ (by simp)
  · exact kind _ (by simp)
  · exact critical ▸ raised _ _ cleared.1
  · exact slashing ▸ raised _ _ cleared.2.1
  · exact validators ▸ raised _ _ cleared.2.2

end Kinds

section Faithful

variable (toLower : String → String) (authority : String) (feePool : FeePool) (proposal : Proposal)

/-- The features pass their own check and carry the share the proposal spends, and no score of them lowers
a report. -/
def FeaturesFaithful : Prop :=
  (extractFeatureVector toLower authority feePool proposal).validate = .ok () ∧
  (extractFeatureVector toLower authority feePool proposal).treasurySpendBps =
    (if (classifyProposal proposal).1 = .treasurySpend then
      (calculateTreasurySpendPercentage authority feePool proposal : Int) else 0) ∧
  ∀ rules ai, rules.tier.rank ≤ (mergeRulesAndAI rules ai false).tier.rank ∧
    rules.score ≤ (mergeRulesAndAI rules ai false).score ∧
    rules.computedDelayBlocks ≤ (mergeRulesAndAI rules ai false).computedDelayBlocks ∧
    rules.computedThresholdBps ≤ (mergeRulesAndAI rules ai false).computedThresholdBps

theorem mergeRulesAndAI_le (rules : RiskReport) (ai : AIEvalResult) :
    rules.tier.rank ≤ (mergeRulesAndAI rules ai false).tier.rank ∧
    rules.score ≤ (mergeRulesAndAI rules ai false).score ∧
    rules.computedDelayBlocks ≤ (mergeRulesAndAI rules ai false).computedDelayBlocks ∧
    rules.computedThresholdBps ≤ (mergeRulesAndAI rules ai false).computedThresholdBps := by
  simp only [mergeRulesAndAI, Bool.false_eq_true, if_false, maxConstraint, maxConstraintTier]
  refine ⟨?_, ?_, ?_, ?_⟩ <;> split <;> omega

/-- Faithful just when the proposal is of at most one kind and a treasury spend takes none or all of the
pool. -/
theorem featuresFaithful_iff : FeaturesFaithful toLower authority feePool proposal ↔
    (kinds toLower proposal).count true ≤ 1 ∧
    ((classifyProposal proposal).1 = .treasurySpend →
      calculateTreasurySpendPercentage authority feePool proposal = 0 ∨
        calculateTreasurySpendPercentage authority feePool proposal = 10000) := by
  have share : calculateTreasurySpendPercentage authority feePool proposal ≤ 10000 :=
    calculateTreasurySpendPercentage_le authority feePool
  have spend : (extractFeatureVector toLower authority feePool proposal).treasurySpendBps =
      (if (classifyProposal proposal).1 = .treasurySpend then
        (calculateTreasurySpendPercentage authority feePool proposal : Int) else 0) ↔
      ((classifyProposal proposal).1 = .treasurySpend →
        calculateTreasurySpendPercentage authority feePool proposal = 0 ∨
          calculateTreasurySpendPercentage authority feePool proposal = 10000) := by
    rw [treasurySpendBps_extract]
    by_cases spends : (classifyProposal proposal).1 = .treasurySpend
    · rw [if_pos spends, if_pos spends, spendFeature_eq_iff share, imp_iff_right spends]
    · rw [if_neg spends, if_neg spends]
      exact iff_of_true rfl fun yes => absurd yes spends
  have inRange : 0 ≤ (extractFeatureVector toLower authority feePool proposal).treasurySpendBps ∧
      (extractFeatureVector toLower authority feePool proposal).treasurySpendBps ≤ 10000 := by
    rw [treasurySpendBps_extract]
    split
    · exact spendFeature_mem _
    · decide
  have modules : 0 ≤ (extractFeatureVector toLower authority feePool proposal).modulesTouchedCount ∧
      (extractFeatureVector toLower authority feePool proposal).modulesTouchedCount ≤ 50 := by
    simp only [extractFeatureVector]
    split <;> omega
  unfold FeaturesFaithful
  rw [FeatureVectorV1.validate_ok_iff, oneHot_extract, spend]
  constructor
  · rintro ⟨⟨⟨-, atMost⟩, -⟩, kept, -⟩
    exact ⟨by omega, kept⟩
  · rintro ⟨atMost, kept⟩
    exact ⟨⟨⟨by omega, by omega⟩, inRange, modules, booleans_extract toLower authority feePool⟩, kept,
      mergeRulesAndAI_le⟩

section Instance

def proposalOf (messages : List AnyMsg) : Proposal :=
  ⟨1, .passed, messages, ⟨none, none, none, none⟩⟩

def pocParams : Proposal := proposalOf [⟨"/pos.poc.v1.MsgUpdateParams", [], none⟩]

def poolSpend : Proposal :=
  proposalOf [⟨"/cosmos.distribution.v1beta1.MsgCommunityPoolSpend", [],
    some (.communityPoolSpend [⟨chainBondDenom, 500⟩])⟩]

/-- A parameter change of a module named after its rules is of two kinds, and a spend of five per cent of
the pool is scored as all of it. -/
theorem features_unfaithful :
    (extractFeatureVector String.toLower "gov" .keeperNotSet pocParams).validate = .error (.oneHotSum 2) ∧
    calculateTreasurySpendPercentage "gov" (.communityPool [⟨chainBondDenom, 10000⟩]) poolSpend = 500 ∧
    (extractFeatureVector String.toLower "gov" (.communityPool [⟨chainBondDenom, 10000⟩])
      poolSpend).treasurySpendBps = 10000 := by
  decide +kernel

end Instance

end Faithful

section Scoring

structure LinearScoringModel where
  weights : List Int
  bias : Int
  scale : Int
  modelVersion : String
  featureSchemaHash : String

namespace LinearScoringModel

variable (model : LinearScoringModel)

def numFeaturesV1 : Nat := 11

inductive ModelError
  | weightsCount (expected got : Nat)
  | scaleNotPositive (scale : Int)
  | modelVersionRequired
  | featureSchemaHashMismatch
deriving DecidableEq

def validate (schemaHash : String) : Except ModelError Unit :=
  if model.weights.length ≠ numFeaturesV1 then .error (.weightsCount numFeaturesV1 model.weights.length)
  else if model.scale ≤ 0 then .error (.scaleNotPositive model.scale)
  else if model.modelVersion = "" then .error .modelVersionRequired
  else if model.featureSchemaHash ≠ schemaHash then .error .featureSchemaHashMismatch
  else .ok ()

def inferRiskScore (features : List Int) : Option Nat :=
  if features.length ≠ model.weights.length then none
  else
    let raw := (List.zip model.weights features).foldl (fun raw pair => i64 (raw + i64 (pair.1 * pair.2))) 0
    let raw := i64 (raw + model.bias)
    let score := i64 (raw.tdiv model.scale + 50)
    some (if score < 0 then 0 else if 100 < score then 100 else score).toNat

theorem inferRiskScore_le {features : List Int} {score : Nat}
    (inferred : model.inferRiskScore features = some score) : score ≤ 100 := by
  unfold inferRiskScore at inferred
  split at inferred
  · cases inferred
  · simp only [Option.some.injEq] at inferred
    split at inferred
    · omega
    · split at inferred <;> omega

end LinearScoringModel

def scoreToTier (score : Nat) : RiskTier :=
  if score ≤ 30 then .low else if score ≤ 55 then .med else if score ≤ 80 then .high else .critical

/-- None when there is no model, or the model or the features do not pass their checks. -/
def evaluateProposalAI (toLower : String → String) (schemaHash : String) (authority : String)
    (feePool : FeePool) (params : Params) (linearModel : Option LinearScoringModel) (proposal : Proposal) :
    Option AIEvalResult := do
  let model ← linearModel
  let fv := extractFeatureVector toLower authority feePool proposal
  guard (model.validate schemaHash = .ok ())
  guard (fv.validate = .ok ())
  let score ← model.inferRiskScore fv.getFeatureVector
  let tier := scoreToTier score
  return ⟨score, tier, tierToDelayBlocks tier params, tierToThresholdBps tier params⟩

theorem evaluateProposalAI_some {toLower : String → String} {schemaHash authority : String}
    {feePool : FeePool} {params : Params} {linearModel : Option LinearScoringModel} {proposal : Proposal}
    {result : AIEvalResult}
    (evaluated : evaluateProposalAI toLower schemaHash authority feePool params linearModel proposal =
      some result) :
    (extractFeatureVector toLower authority feePool proposal).validate = .ok () ∧ result.score ≤ 100 := by
  unfold evaluateProposalAI at evaluated
  simp only [Option.bind_eq_bind, Option.bind_eq_some_iff, Option.pure_def, Option.some.injEq] at evaluated
  obtain ⟨model, -, _, -, _, passed, score, inferred, rfl⟩ := evaluated
  refine ⟨?_, model.inferRiskScore_le inferred⟩
  by_contra invalid
  simp [guard, invalid] at passed

end Scoring

end Omniphi.Guard
