import Omniphi.Guard.Keeper

/-! Risk evaluation: the rules on the proposal's messages, the churn of the validator set, the queue's
aggregate risk, emergency hardening, and the reevaluation of a queued proposal. -/

namespace Omniphi.Guard

open Gov

inductive FeePool
  | keeperNotSet
  | queryFailed
  /-- The community pool with its amounts truncated to integers. -/
  | communityPool (coins : List Coin)

structure AIEvalResult where
  score : Nat
  tier : RiskTier
  delayBlocks : Nat
  thresholdBps : Nat

inductive HandlerResult
  | missing
  | failed
  | succeeded
  deriving DecidableEq

/-- What the other modules show the guard during one call. The result of a handler is given for the
proposal and the position of the message, since it may depend on what ran before it. -/
structure Env where
  height : Nat
  proposals : KeyedMap Proposal.id
  /-- The bonded validators with their consensus power, none when the iteration fails. -/
  bondedValidators : Option (List (String × Int))
  feePool : FeePool
  evaluateProposalAI : Proposal → Option AIEvalResult
  isTrackFrozen : Nat → Bool
  router : Option (Nat → Nat → AnyMsg → HandlerResult)

def Env.getProposal (env : Env) (proposalId : Nat) : Option Proposal := env.proposals.get? proposalId

def maxConstraint (a b : Nat) : Nat := if a > b then a else b

def maxConstraintTier (a b : RiskTier) : RiskTier := if a.rank > b.rank then a else b

def tierToDelayBlocks (tier : RiskTier) (p : Params) : Nat :=
  match tier with
  | .critical => p.delayCriticalBlocks
  | .high => p.delayHighBlocks
  | .med => p.delayMedBlocks
  | _ => p.delayLowBlocks

def tierToThresholdBps (tier : RiskTier) (p : Params) : Nat :=
  match tier with
  | .critical => p.thresholdCriticalBps
  | .high => p.thresholdHighBps
  | _ => p.thresholdDefaultBps

section Rules

inductive ProposalType
  | softwareUpgrade
  | consensusCritical
  | treasurySpend
  | slashingReduction
  | paramChange
  | textOnly
  | other
  deriving DecidableEq

structure Features where
  touchesConsensus : Bool
  treasurySpend : Bool
  touchesEconomic : Bool
  highEconomicImpact : Bool
  deriving DecidableEq

def Features.empty : Features := ⟨false, false, false, false⟩

/-- One round of the loop of `ClassifyProposal`, none when it goes on to the next message. -/
def classifyMessage (msgType : String) : Option (ProposalType × Features) :=
  if contains msgType "MsgSoftwareUpgrade" || contains msgType "/upgrade." then
    some (.softwareUpgrade, .empty)
  else if contains msgType "consensus" || contains msgType "staking" then
    some (.consensusCritical, { Features.empty with touchesConsensus := true })
  else if contains msgType "slashing" && contains msgType "MsgUpdateParams" then
    some (.slashingReduction, .empty)
  else if contains msgType "MsgCommunityPoolSpend" || contains msgType "distribution" then
    some (.treasurySpend, { Features.empty with treasurySpend := true })
  else if contains msgType "bank" && contains msgType "MsgSend" then
    some (.treasurySpend, { Features.empty with treasurySpend := true })
  else if contains msgType "MsgUpdateParams" || contains msgType "ParameterChangeProposal" then
    some (.paramChange, { Features.empty with
      touchesConsensus := contains msgType "staking" || contains msgType "slashing" ||
        contains msgType "consensus"
      touchesEconomic := contains msgType "mint" || contains msgType "distribution" ||
        contains msgType "bank" })
  else
    none

def classifyProposal (proposal : Proposal) : ProposalType × Features :=
  match proposal.messages.findSome? fun msg => classifyMessage msg.typeUrl with
  | some found => found
  | none => if proposal.messages.isEmpty then (.textOnly, .empty) else (.other, .empty)

def chainBondDenom : String := "omniphi"

def bondAmount (coins : List Coin) : Int :=
  ((coins.filter fun coin => coin.denom = chainBondDenom).map Coin.amount).sum

def messageSpend (authority : String) (msg : AnyMsg) : Int :=
  match msg.unpacked with
  | some (.communityPoolSpend amount) => bondAmount amount
  | some (.send fromAddress amount) => if fromAddress = authority then bondAmount amount else 0
  | _ => 0

def parseTreasurySpendAmount (authority : String) (proposal : Proposal) : Int :=
  (proposal.messages.map (messageSpend authority)).sum

def calculateTreasurySpendPercentage (authority : String) (feePool : FeePool) (proposal : Proposal) :
    Nat :=
  match feePool with
  | .keeperNotSet => 500
  | .queryFailed => if parseTreasurySpendAmount authority proposal = 0 then 0 else 500
  | .communityPool coins =>
      let spendAmount := parseTreasurySpendAmount authority proposal
      if spendAmount = 0 then 0
      else
        let poolBalance := ((coins.find? fun coin => coin.denom = chainBondDenom).map Coin.amount).getD 0
        if poolBalance ≤ 0 then (if 0 < spendAmount then 10000 else 0)
        else
          let bps := (spendAmount * 10000).tdiv poolBalance
          if 10000 < bps then 10000 else bps.toNat

def baseRisk (spendBps : Nat) (proposalType : ProposalType) (features : Features) :
    RiskTier × Nat × List String :=
  match proposalType with
  | .softwareUpgrade => (.critical, 95, ["SOFTWARE_UPGRADE"])
  | .consensusCritical => (.critical, 90, ["CONSENSUS_CRITICAL"])
  | .slashingReduction => (.high, 80, ["SLASHING_REDUCTION"])
  | .treasurySpend =>
      if spendBps ≥ 2500 then (.critical, 85, ["TREASURY_SPEND_CRITICAL"])
      else if spendBps ≥ 1000 then (.high, 70, ["TREASURY_SPEND_HIGH"])
      else if spendBps ≥ 500 then (.med, 50, ["TREASURY_SPEND_MED"])
      else (.low, 30, ["TREASURY_SPEND_LOW"])
  | .paramChange =>
      if features.touchesConsensus then (.critical, 85, ["PARAM_CHANGE_CONSENSUS"])
      else if features.touchesEconomic then (.high, 65, ["PARAM_CHANGE_ECONOMIC"])
      else (.med, 40, ["PARAM_CHANGE"])
  | .textOnly => (.low, 5, ["TEXT_ONLY"])
  | .other => (.med, 30, ["OTHER"])

def mergeRulesAndAI (rules : RiskReport) (ai : AIEvalResult) (shadowMode : Bool) : RiskReport :=
  if shadowMode then rules
  else { rules with
    tier := maxConstraintTier rules.tier ai.tier
    score := if ai.score > rules.score then ai.score else rules.score
    computedDelayBlocks := maxConstraint rules.computedDelayBlocks ai.delayBlocks
    computedThresholdBps := maxConstraint rules.computedThresholdBps ai.thresholdBps }

def evaluateProposal (authority : String) (params : Params) (env : Env) (proposal : Proposal) :
    RiskReport :=
  let (proposalType, features) := classifyProposal proposal
  let spendBps := calculateTreasurySpendPercentage authority env.feePool proposal
  let (tier, score, reasonCodes) := baseRisk spendBps proposalType features
  let delay := tierToDelayBlocks tier params
  let threshold := tierToThresholdBps tier params
  let rules : RiskReport :=
    if features.highEconomicImpact then
      ⟨proposal.id, tier, min (score + 10) 100, u64 (delay * 12) / 10, threshold,
        reasonCodes ++ ["HIGH_ECONOMIC_IMPACT"]⟩
    else
      ⟨proposal.id, tier, score, delay, threshold, reasonCodes⟩
  if params.bindingAiEnabled || params.aiShadowMode then
    match env.evaluateProposalAI proposal with
    | none => rules
    | some ai => mergeRulesAndAI rules ai (params.aiShadowMode || !params.bindingAiEnabled)
  else
    rules

theorem proposalId_evaluateProposal (authority : String) (params : Params) (env : Env)
    (proposal : Proposal) :
    (evaluateProposal authority params env proposal).proposalId = proposal.id := by
  have merged : ∀ rules ai shadowMode, (mergeRulesAndAI rules ai shadowMode).proposalId =
      rules.proposalId := by
    intro rules ai shadowMode
    unfold mergeRulesAndAI
    split <;> rfl
  unfold evaluateProposal
  dsimp only
  split_ifs <;> try rfl
  all_goals
    split
    · rfl
    · rw [merged]

end Rules

section Churn

def computeChurnDelta (snapshot current : BTreeMap String Int) : Int :=
  ((snapshot.keys ++ current.keys).dedup.map fun address =>
    |snapshot[address]?.getD 0 - current[address]?.getD 0|).foldl (fun sum diff => i64 (sum + diff)) 0

def powersOf (validators : List (String × Int)) : BTreeMap String Int :=
  validators.foldl (fun powers validator => powers.insert validator.1 validator.2) ∅

def churnBps (snapshot : ValidatorPowerSnapshot) (current : List (String × Int)) : Nat :=
  let delta := computeChurnDelta (powersOf snapshot.validators) (powersOf current)
  let denominator := if snapshot.totalPower ≤ 0 then 1 else snapshot.totalPower
  u64OfInt ((i64 (delta * 10000)).tdiv denominator)

end Churn

def escalateTierByOne : RiskTier → RiskTier
  | .low => .med
  | .med => .high
  | .high => .critical
  | _ => .critical

theorem rank_le_escalateTierByOne (tier : RiskTier) : tier.rank ≤ (escalateTierByOne tier).rank := by
  cases tier <;> decide

structure AggregateRiskSnapshot where
  activeProposalCount : Nat
  treasurySpendsActive : Nat
  paramChangesActive : Nat
  upgradesActive : Nat
  cumulativeTreasuryBps : Nat
  highestTier : RiskTier

def aggregateRiskWindowBlocks : Nat := 17280
def validatorChurnSoftThresholdBps : Nat := 1000
def treasuryCumulativeSoftThresholdBps : Nat := 1500
def multiParamChangeThreshold : Nat := 3
def instabilityWindowBlocks : Nat := 8640
def thresholdEscalationStepBps : Nat := 500
def supermajorityThresholdBps : Nat := 9000
def treasuryStackingThresholdBps : Nat := 2000
def paramMutationBurstThreshold : Nat := 3
def upgradeClusteringThreshold : Nat := 2
def hardeningDelayMultiplierNum : Nat := 3
def hardeningDelayMultiplierDen : Nat := 2

def containsAny (reasonCodes texts : List String) : Bool :=
  texts.any fun text => reasonCodes.any fun code => contains code text

def AggregateRiskSnapshot.count (snapshot : AggregateRiskSnapshot) (report : RiskReport) :
    AggregateRiskSnapshot :=
  let treasury := containsAny report.reasonCodes ["TREASURY_SPEND"]
  { snapshot with
    treasurySpendsActive := if treasury then snapshot.treasurySpendsActive + 1
      else snapshot.treasurySpendsActive
    cumulativeTreasuryBps := if treasury then
        snapshot.cumulativeTreasuryBps +
          (if report.score ≥ 85 then 2500 else if report.score ≥ 70 then 1000
            else if report.score ≥ 50 then 500 else 200)
      else snapshot.cumulativeTreasuryBps
    paramChangesActive :=
      if containsAny report.reasonCodes ["PARAM_CHANGE", "CONSENSUS_CRITICAL"] then
        snapshot.paramChangesActive + 1 else snapshot.paramChangesActive
    upgradesActive := if containsAny report.reasonCodes ["SOFTWARE_UPGRADE"] then
        snapshot.upgradesActive + 1 else snapshot.upgradesActive }

def applyEmergencyHardening (tier : RiskTier) (threshold delay : Nat) : RiskTier × Nat × Nat :=
  let newTier := if tier = .high then .critical else tier
  let longer := u64 (delay * hardeningDelayMultiplierNum) / hardeningDelayMultiplierDen
  (newTier, if newTier = .critical ∧ threshold < 7500 then 7500 else threshold,
    if longer < delay then delay else longer)

end Omniphi.Guard

namespace Omniphi.GuardKeeper

open Guard

variable (k : GuardKeeper) (env : Env)

def computeAggregateRisk : AggregateRiskSnapshot :=
  k.activeExecutions.toList.foldl (fun snapshot proposalId =>
    match k.getQueuedExecution proposalId with
    | none => snapshot
    | some exec =>
        if exec.isTerminal then snapshot
        else if env.height > exec.queuedHeight ∧
            env.height - exec.queuedHeight > aggregateRiskWindowBlocks then snapshot
        else
          let snapshot := { snapshot with
            activeProposalCount := snapshot.activeProposalCount + 1
            highestTier := maxConstraintTier snapshot.highestTier exec.tier }
          match k.getRiskReport exec.proposalId with
          | none => snapshot
          | some report => snapshot.count report) ⟨0, 0, 0, 0, 0, .low⟩

/-- The power snapshot with the greatest height, the lowest proposal id first. -/
def latestSnapshot : Option ValidatorPowerSnapshot :=
  k.powerSnapshots.toList.foldl (fun best entry => match best with
    | none => some entry.2
    | some snapshot => if entry.2.height > snapshot.height then some entry.2 else best) none

def getCurrentValidatorChurnBps : Nat :=
  match k.latestSnapshot, env.bondedValidators with
  | some snapshot, some validators => churnBps snapshot validators
  | _, _ => 0

def computeTierEscalation (currentTier : RiskTier) (aggregate : AggregateRiskSnapshot) : RiskTier :=
  let tier := if k.getCurrentValidatorChurnBps env > validatorChurnSoftThresholdBps then
    escalateTierByOne currentTier else currentTier
  let tier := if aggregate.cumulativeTreasuryBps > treasuryCumulativeSoftThresholdBps then
    escalateTierByOne tier else tier
  if aggregate.paramChangesActive ≥ multiParamChangeThreshold then escalateTierByOne tier else tier

def getThresholdEscalationRecord (proposalId : Nat) : ThresholdEscalationRecord :=
  (k.thresholdEscalations.get? proposalId).getD ⟨0, 0, 0, 0, 0⟩

def stepUp (currentThreshold current : Nat) : Nat :=
  let escalated := u64 (currentThreshold + thresholdEscalationStepBps)
  let escalated := if escalated > supermajorityThresholdBps then supermajorityThresholdBps else escalated
  if escalated > current then escalated else current

/-- The threshold under instability: churn past the hard bound, or past the soft bound a whole
instability window after the last escalation. -/
def escalatedThreshold (proposalId currentThreshold : Nat) : Nat :=
  let churn := k.getCurrentValidatorChurnBps env
  let lastEscalatedAt := (k.getThresholdEscalationRecord proposalId).lastEscalatedAt
  let newThreshold := if churn > k.params.maxValidatorChurnBps then
    stepUp currentThreshold currentThreshold else currentThreshold
  if churn > validatorChurnSoftThresholdBps ∧ lastEscalatedAt > 0 ∧
      env.height - lastEscalatedAt ≥ instabilityWindowBlocks then
    stepUp currentThreshold newThreshold
  else newThreshold

def computeThresholdEscalation (proposalId currentThreshold : Nat) : Nat × GuardKeeper :=
  let newThreshold := k.escalatedThreshold env proposalId currentThreshold
  let existing := k.getThresholdEscalationRecord proposalId
  let record : ThresholdEscalationRecord :=
    { proposalId := proposalId
      originalThreshold := if existing.originalThreshold = 0 then currentThreshold
        else existing.originalThreshold
      currentThreshold := newThreshold
      escalationCount := u64 (existing.escalationCount + 1)
      lastEscalatedAt := env.height }
  if newThreshold > currentThreshold then
    (newThreshold, { k with thresholdEscalations := k.thresholdEscalations.insert record })
  else
    (newThreshold, k)

def raiseTier (condition : Bool) (tier : RiskTier) : RiskTier :=
  if condition && (escalateTierByOne tier).rank > tier.rank then escalateTierByOne tier else tier

/-- The tier under treasury stacking, a burst of parameter changes and clustered upgrades, in turn. -/
def aggregateTier (report : RiskReport) (aggregate : AggregateRiskSnapshot) : RiskTier :=
  let stacking := containsAny report.reasonCodes ["TREASURY_SPEND"] &&
    aggregate.cumulativeTreasuryBps ≥ treasuryStackingThresholdBps
  let burst := containsAny report.reasonCodes ["PARAM_CHANGE", "CONSENSUS_CRITICAL"] &&
    aggregate.paramChangesActive ≥ paramMutationBurstThreshold
  let clustering := containsAny report.reasonCodes ["SOFTWARE_UPGRADE"] &&
    aggregate.upgradesActive ≥ upgradeClusteringThreshold
  raiseTier clustering (raiseTier burst (raiseTier stacking report.tier))

def applyAggregateRiskEscalation (report : RiskReport) (aggregate : AggregateRiskSnapshot) :
    RiskReport :=
  let tier := aggregateTier report aggregate
  if tier = report.tier then report
  else { report with
    tier := tier
    computedDelayBlocks := maxConstraint report.computedDelayBlocks (tierToDelayBlocks tier k.params)
    computedThresholdBps := maxConstraint report.computedThresholdBps (tierToThresholdBps tier k.params) }

inductive ReevaluationError
  | queuedExecutionNotFound (proposalId : Nat)
  | riskReportNotFound (proposalId : Nat)
  | proposalNotFound (proposalId : Nat)
  deriving DecidableEq

/-- The report `ReevaluateRisk` arrives at from the existing one, with the keeper in which the
threshold escalation is recorded. -/
def escalatedReport (existing : RiskReport) (proposal : Gov.Proposal) : RiskReport × GuardKeeper :=
  let fresh := evaluateProposal k.authority k.params env proposal
  let tier := maxConstraintTier existing.tier fresh.tier
  let threshold := maxConstraint existing.computedThresholdBps fresh.computedThresholdBps
  let delay := maxConstraint existing.computedDelayBlocks fresh.computedDelayBlocks
  let tier := maxConstraintTier (k.computeTierEscalation env tier (k.computeAggregateRisk env)) tier
  let (escalated, k) := k.computeThresholdEscalation env existing.proposalId threshold
  let threshold := maxConstraint escalated threshold
  let (tier, threshold, delay) := if k.emergencyHardening then
    applyEmergencyHardening tier threshold delay else (tier, threshold, delay)
  let delay := maxConstraint delay (tierToDelayBlocks tier k.params)
  let threshold := maxConstraint threshold (tierToThresholdBps tier k.params)
  ({ existing with
    tier := maxConstraintTier tier existing.tier
    computedThresholdBps := maxConstraint threshold existing.computedThresholdBps
    computedDelayBlocks := maxConstraint delay existing.computedDelayBlocks }, k)

/-- The queued execution under the new report: a longer delay moves its earliest height, counted from
the height it was queued at. -/
def rescheduled (params : Params) (exec : QueuedExecution) (existing report : RiskReport) :
    QueuedExecution :=
  let confirm := report.tier = .critical ∧ exec.requiresSecondConfirm = false ∧
    params.criticalRequiresSecondConfirm = true
  { exec with
    earliestExecHeight := if report.computedDelayBlocks > existing.computedDelayBlocks then
      u64 (exec.queuedHeight + report.computedDelayBlocks) else exec.earliestExecHeight
    tier := report.tier
    requiredThresholdBps := report.computedThresholdBps
    requiresSecondConfirm := if confirm then true else exec.requiresSecondConfirm
    secondConfirmReceived := if confirm then false else exec.secondConfirmReceived }

def reevaluateRisk (proposalId : Nat) : Except ReevaluationError GuardKeeper :=
  match k.getQueuedExecution proposalId with
  | none => .error (.queuedExecutionNotFound proposalId)
  | some exec =>
    if exec.isTerminal then .ok k
    else match k.getRiskReport proposalId with
    | none => .error (.riskReportNotFound proposalId)
    | some existing =>
      match env.getProposal proposalId with
      | none => .error (.proposalNotFound proposalId)
      | some proposal =>
        let (report, k) := k.escalatedReport env existing proposal
        if report = existing then .ok k
        else
          -- The entry at the height the record leaves is dropped before the record is written.
          let k := if report.computedDelayBlocks > existing.computedDelayBlocks then
            k.deleteQueueIndexEntry exec.earliestExecHeight proposalId else k
          .ok ((k.setRiskReport report).setQueuedExecution (rescheduled k.params exec existing report))

end Omniphi.GuardKeeper
