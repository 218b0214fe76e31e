import Omniphi.Guard.Runs
import Omniphi.Lib.Run

/-! Repeated reevaluation in an unchanged environment: when a further call leaves the report and the schedule
as the first one left them. -/

namespace Omniphi.GuardKeeper

open Guard

section Constraints

theorem maxConstraint_eq_max (a b : Nat) : maxConstraint a b = max a b := by
  unfold maxConstraint
  split_ifs <;> omega

theorem maxConstraintTier_eq_right_iff (a b : RiskTier) : maxConstraintTier a b = b ↔ a.rank ≤ b.rank := by
  cases a <;> cases b <;> decide

theorem rank_maxConstraintTier (a b : RiskTier) : (maxConstraintTier a b).rank = max a.rank b.rank := by
  cases a <;> cases b <;> decide

theorem maxConstraintTier_of_rank_le {a b : RiskTier} (le : b.rank ≤ a.rank) : maxConstraintTier a b = a := by
  revert le
  cases a <;> cases b <;> decide

theorem rank_escalateTierByOne_le_iff (tier : RiskTier) :
    (escalateTierByOne tier).rank ≤ tier.rank ↔ tier = .critical := by
  cases tier <;> decide

/-- A delay that three halves of it do not exceed: it is at most one block, or the product wraps. -/
def Unstretched (delay : Nat) : Prop := delay ≤ 1 ∨ 2 ^ 64 ≤ 3 * delay

theorem stretched_le_iff (delay : Nat) :
    u64 (delay * hardeningDelayMultiplierNum) / hardeningDelayMultiplierDen ≤ delay ↔ Unstretched delay := by
  unfold u64 hardeningDelayMultiplierNum hardeningDelayMultiplierDen Unstretched
  by_cases wraps : 2 ^ 64 ≤ 3 * delay
  · refine iff_of_true ?_ (Or.inr wraps)
    have bound := Nat.mod_lt (delay * 3) (Nat.two_pow_pos 64)
    have whole := Nat.div_add_mod (delay * 3) (2 ^ 64)
    have once : 1 ≤ delay * 3 / 2 ^ 64 := (Nat.one_le_div_iff (Nat.two_pow_pos 64)).2 (by omega)
    omega
  · rw [Nat.mod_eq_of_lt (by omega)]
    omega

theorem stepUp_le_iff (threshold current : Nat) (le : threshold ≤ current) :
    stepUp threshold current ≤ threshold ↔ supermajorityThresholdBps ≤ threshold ∧ current = threshold := by
  unfold stepUp u64 thresholdEscalationStepBps supermajorityThresholdBps
  dsimp only
  split_ifs <;> omega

end Constraints

section Quiet

variable (k : GuardKeeper) (env : Env)

def TierPressure : Prop :=
  k.getCurrentValidatorChurnBps env > validatorChurnSoftThresholdBps ∨
    (k.computeAggregateRisk env).cumulativeTreasuryBps > treasuryCumulativeSoftThresholdBps ∨
    (k.computeAggregateRisk env).paramChangesActive ≥ multiParamChangeThreshold

def ThresholdPressure (proposalId : Nat) : Prop :=
  k.getCurrentValidatorChurnBps env > k.params.maxValidatorChurnBps ∨
    k.getCurrentValidatorChurnBps env > validatorChurnSoftThresholdBps ∧
      (k.getThresholdEscalationRecord proposalId).lastEscalatedAt > 0 ∧
      env.height - (k.getThresholdEscalationRecord proposalId).lastEscalatedAt ≥ instabilityWindowBlocks

structure Quiet (report : RiskReport) : Prop where
  tier : k.TierPressure env → report.tier = .critical
  threshold : k.ThresholdPressure env report.proposalId → supermajorityThresholdBps ≤ report.computedThresholdBps
  delay : k.emergencyHardening = true → Unstretched report.computedDelayBlocks

/-- What any reevaluation of the proposal leaves: a report no lower than a fresh one, than its tier asks
and than hardening asks. -/
structure Floored (proposal : Gov.Proposal) (report : RiskReport) : Prop where
  freshTier : (evaluateProposal k.authority k.params env proposal).tier.rank ≤ report.tier.rank
  freshThreshold : (evaluateProposal k.authority k.params env proposal).computedThresholdBps ≤
    report.computedThresholdBps
  freshDelay : (evaluateProposal k.authority k.params env proposal).computedDelayBlocks ≤ report.computedDelayBlocks
  tierDelay : tierToDelayBlocks report.tier k.params ≤ report.computedDelayBlocks
  tierThreshold : tierToThresholdBps report.tier k.params ≤ report.computedThresholdBps
  hardTier : k.emergencyHardening = true → report.tier ≠ .high
  hardThreshold : k.emergencyHardening = true → report.tier = .critical → 7500 ≤ report.computedThresholdBps

variable {k env}

theorem computeTierEscalation_le_iff (tier : RiskTier) :
    (k.computeTierEscalation env tier (k.computeAggregateRisk env)).rank ≤ tier.rank ↔
      (k.TierPressure env → tier = .critical) := by
  have up := rank_le_escalateTierByOne
  have once := rank_escalateTierByOne_le_iff tier
  unfold computeTierEscalation TierPressure
  dsimp only
  constructor
  · intro le pressure
    rw [← once]
    split_ifs at le
    · exact (up _).trans ((up _).trans le)
    · exact (up _).trans le
    · exact (up _).trans le
    · exact le
    · exact (up _).trans le
    · exact le
    · exact le
    · tauto
  · intro capped
    by_cases critical : tier = .critical
    · subst critical
      split_ifs <;> exact le_rfl
    · have off := mt capped critical
      rw [not_or, not_or] at off
      rw [if_neg off.1, if_neg off.2.1, if_neg off.2.2]

theorem escalatedThreshold_le_iff (proposalId threshold : Nat) :
    k.escalatedThreshold env proposalId threshold ≤ threshold ↔
      (k.ThresholdPressure env proposalId → supermajorityThresholdBps ≤ threshold) := by
  have least : threshold ≤ stepUp threshold threshold := by
    unfold stepUp
    dsimp only
    split_ifs <;> omega
  have once := stepUp_le_iff threshold threshold le_rfl
  have twice := stepUp_le_iff threshold (stepUp threshold threshold) least
  unfold escalatedThreshold ThresholdPressure
  dsimp only
  split_ifs with sustained churn churn
  · rw [twice]
    constructor
    · rintro ⟨capped, -⟩ -
      exact capped
    · intro capped
      have cap := capped (Or.inl churn)
      exact ⟨cap, le_antisymm (once.2 ⟨cap, rfl⟩) least⟩
  · rw [once]
    constructor
    · rintro ⟨capped, -⟩ -
      exact capped
    · intro capped
      exact ⟨capped (Or.inr sustained), rfl⟩
  · rw [once]
    constructor
    · rintro ⟨capped, -⟩ -
      exact capped
    · intro capped
      exact ⟨capped (Or.inl churn), rfl⟩
  · refine iff_of_true le_rfl ?_
    rintro (hard | soft)
    · exact absurd hard churn
    · exact absurd soft sustained

end Quiet

section Reports

variable (k : GuardKeeper) (env : Env)

def hardened (tier : RiskTier) (threshold delay : Nat) : RiskTier × Nat × Nat :=
  if k.emergencyHardening then applyEmergencyHardening tier threshold delay else (tier, threshold, delay)

def raisedTier (existing fresh : RiskReport) : RiskTier :=
  maxConstraintTier (k.computeTierEscalation env (maxConstraintTier existing.tier fresh.tier)
    (k.computeAggregateRisk env)) (maxConstraintTier existing.tier fresh.tier)

def raisedThreshold (existing fresh : RiskReport) : Nat :=
  max (k.escalatedThreshold env existing.proposalId (max existing.computedThresholdBps fresh.computedThresholdBps))
    (max existing.computedThresholdBps fresh.computedThresholdBps)

/-- The values of a reevaluation before the tier's own delay and threshold are asked for. -/
def hardenedValues (existing fresh : RiskReport) : RiskTier × Nat × Nat :=
  k.hardened (k.raisedTier env existing fresh) (k.raisedThreshold env existing fresh)
    (max existing.computedDelayBlocks fresh.computedDelayBlocks)

variable {k env}

theorem hardened_raises (tier : RiskTier) (threshold delay : Nat) :
    tier.rank ≤ (k.hardened tier threshold delay).1.rank ∧ threshold ≤ (k.hardened tier threshold delay).2.1 ∧
      delay ≤ (k.hardened tier threshold delay).2.2 := by
  unfold hardened applyEmergencyHardening
  split
  · dsimp only
    refine ⟨?_, ?_, ?_⟩
    · split_ifs with high
      · rw [high]
        decide
      · exact le_rfl
    · split_ifs <;> omega
    · split_ifs <;> omega
  · exact ⟨le_rfl, le_rfl, le_rfl⟩

theorem hardened_floors (on : k.emergencyHardening = true) (tier : RiskTier) (threshold delay : Nat) :
    (k.hardened tier threshold delay).1 ≠ .high ∧
      ((k.hardened tier threshold delay).1 = .critical → 7500 ≤ (k.hardened tier threshold delay).2.1) ∧
      u64 (delay * hardeningDelayMultiplierNum) / hardeningDelayMultiplierDen ≤
        (k.hardened tier threshold delay).2.2 := by
  rw [hardened, if_pos on, applyEmergencyHardening]
  dsimp only
  refine ⟨?_, ?_, ?_⟩
  · split_ifs with high
    · nofun
    · exact high
  · intro critical
    rw [critical]
    split_ifs with below
    · exact le_rfl
    · exact not_lt.1 fun low => below ⟨rfl, low⟩
  · split_ifs <;> omega

variable (k env) in
theorem escalatedReport_eq (existing : RiskReport) (proposal : Gov.Proposal) :
    (k.escalatedReport env existing proposal).1 =
      let values := k.hardenedValues env existing (evaluateProposal k.authority k.params env proposal)
      { existing with
        tier := values.1
        computedThresholdBps :=
          max (max values.2.1 (tierToThresholdBps values.1 k.params)) existing.computedThresholdBps
        computedDelayBlocks :=
          max (max values.2.2 (tierToDelayBlocks values.1 k.params)) existing.computedDelayBlocks } := by
  generalize fresh_eq : evaluateProposal k.authority k.params env proposal = fresh
  obtain ⟨records, keeper⟩ := computeThresholdEscalation_keeper k env existing.proposalId
    (max existing.computedThresholdBps fresh.computedThresholdBps)
  have pair : k.computeThresholdEscalation env existing.proposalId
      (max existing.computedThresholdBps fresh.computedThresholdBps) =
        (k.escalatedThreshold env existing.proposalId
          (max existing.computedThresholdBps fresh.computedThresholdBps),
          { k with thresholdEscalations := records }) := by
    refine Prod.ext ?_ keeper
    unfold computeThresholdEscalation
    dsimp only
    split <;> rfl
  have top : existing.tier.rank ≤ (k.hardenedValues env existing fresh).1.rank := by
    refine le_trans ?_ (hardened_raises _ _ _).1
    rw [raisedTier, rank_maxConstraintTier, rank_maxConstraintTier]
    omega
  unfold escalatedReport
  dsimp only
  simp only [fresh_eq, maxConstraint_eq_max, pair]
  have tier := maxConstraintTier_of_rank_le top
  unfold hardenedValues hardened raisedTier raisedThreshold at tier ⊢
  rw [tier]

variable (k env) in
theorem floored_escalatedReport (existing : RiskReport) (proposal : Gov.Proposal) :
    k.Floored env proposal (k.escalatedReport env existing proposal).1 := by
  rw [escalatedReport_eq]
  generalize fresh_eq : evaluateProposal k.authority k.params env proposal = fresh
  obtain ⟨tier, threshold, delay⟩ := hardened_raises (k := k) (k.raisedTier env existing fresh)
    (k.raisedThreshold env existing fresh) (max existing.computedDelayBlocks fresh.computedDelayBlocks)
  have raised : fresh.tier.rank ≤ (k.raisedTier env existing fresh).rank := by
    rw [raisedTier, rank_maxConstraintTier, rank_maxConstraintTier]
    omega
  have over_ : fresh.computedThresholdBps ≤ k.raisedThreshold env existing fresh := by
    unfold raisedThreshold
    omega
  constructor
  · rw [fresh_eq]
    exact raised.trans tier
  · rw [fresh_eq]
    exact (over_.trans threshold).trans ((le_max_left _ _).trans (le_max_left _ _))
  · rw [fresh_eq]
    exact ((le_max_right _ _).trans delay).trans ((le_max_left _ _).trans (le_max_left _ _))
  · exact (le_max_right _ _).trans (le_max_left _ _)
  · exact (le_max_right _ _).trans (le_max_left _ _)
  · intro on
    exact (hardened_floors on _ _ _).1
  · intro on critical
    exact ((hardened_floors on _ _ _).2.1 critical).trans ((le_max_left _ _).trans (le_max_left _ _))

theorem escalatedReport_eq_iff {report : RiskReport} {proposal : Gov.Proposal}
    (floored : k.Floored env proposal report) :
    (k.escalatedReport env report proposal).1 = report ↔ k.Quiet env report := by
  obtain ⟨freshTier, freshThreshold, freshDelay, tierDelay, tierThreshold, hardTier, hardThreshold⟩ := floored
  rw [escalatedReport_eq]
  generalize evaluateProposal k.authority k.params env proposal = fresh at freshTier freshThreshold freshDelay ⊢
  have merged : maxConstraintTier report.tier fresh.tier = report.tier := maxConstraintTier_of_rank_le freshTier
  have threshold_eq := max_eq_left freshThreshold
  have delay_eq := max_eq_left freshDelay
  have raises := hardened_raises (k := k) (k.raisedTier env report fresh) (k.raisedThreshold env report fresh)
    report.computedDelayBlocks
  unfold hardenedValues
  rw [delay_eq]
  constructor
  · intro same
    have tier := congrArg RiskReport.tier same
    have threshold := congrArg RiskReport.computedThresholdBps same
    have delay := congrArg RiskReport.computedDelayBlocks same
    dsimp only at tier threshold delay
    constructor
    · refine (computeTierEscalation_le_iff report.tier).1 ?_
      have least := raises.1
      rw [tier, raisedTier, merged, rank_maxConstraintTier] at least
      omega
    · refine (escalatedThreshold_le_iff report.proposalId report.computedThresholdBps).1 ?_
      have least := raises.2.1
      have raised : k.escalatedThreshold env report.proposalId report.computedThresholdBps ≤
          k.raisedThreshold env report fresh := by
        rw [raisedThreshold, threshold_eq]
        exact le_max_left _ _
      omega
    · intro on
      refine (stretched_le_iff report.computedDelayBlocks).1 ?_
      have longer := (hardened_floors on (k.raisedTier env report fresh) (k.raisedThreshold env report fresh)
        report.computedDelayBlocks).2.2
      omega
  · rintro ⟨tier, threshold, delay⟩
    have tier_eq : k.raisedTier env report fresh = report.tier := by
      rw [raisedTier, merged, maxConstraintTier_eq_right_iff]
      exact (computeTierEscalation_le_iff report.tier).2 tier
    have raised_eq : k.raisedThreshold env report fresh = report.computedThresholdBps := by
      rw [raisedThreshold, threshold_eq]
      exact max_eq_right ((escalatedThreshold_le_iff report.proposalId report.computedThresholdBps).2 threshold)
    have values : k.hardened report.tier report.computedThresholdBps report.computedDelayBlocks =
        (report.tier, report.computedThresholdBps, report.computedDelayBlocks) := by
      unfold hardened
      split
      · rename_i on
        have longer := (stretched_le_iff report.computedDelayBlocks).2 (delay on)
        have high := hardTier on
        have low : ¬(report.tier = .critical ∧ report.computedThresholdBps < 7500) := by
          rintro ⟨critical, below⟩
          have floor := hardThreshold on critical
          omega
        rw [applyEmergencyHardening, if_neg high, if_neg low]
        refine Prod.ext rfl (Prod.ext rfl ?_)
        dsimp only
        split_ifs <;> omega
      · rfl
    rw [tier_eq, raised_eq, values]
    dsimp only
    rw [max_eq_left tierThreshold, max_self, max_eq_left tierDelay, max_self]

end Reports

section Calls

variable {k : GuardKeeper} {env : Env} {proposalId : Nat} {exec : QueuedExecution} {report : RiskReport}

def standing (k : GuardKeeper) (proposalId : Nat) :
    Option (RiskTier × Nat × Nat) × Option (RiskTier × Nat × Nat) :=
  ((k.getRiskReport proposalId).map fun report =>
      (report.tier, report.computedThresholdBps, report.computedDelayBlocks),
    (k.getQueuedExecution proposalId).map fun exec =>
      (exec.tier, exec.requiredThresholdBps, exec.earliestExecHeight))

def Grounded (proposalId : Nat) (k : GuardKeeper) (env : Env) : Prop :=
  ∀ exec report proposal, k.getQueuedExecution proposalId = some exec → exec.isTerminal = false →
    k.getRiskReport proposalId = some report → env.getProposal proposalId = some proposal →
    k.Floored env proposal report

def Calm (proposalId : Nat) (k : GuardKeeper) (env : Env) : Prop :=
  ∀ exec report, k.getQueuedExecution proposalId = some exec → exec.isTerminal = false →
    k.getRiskReport proposalId = some report → (env.getProposal proposalId).isSome → k.Quiet env report

theorem reevaluated_finished (finished : ∀ exec, k.getQueuedExecution proposalId = some exec →
    exec.isTerminal = true) (env : Env) : k.reevaluated env proposalId = k := by
  unfold reevaluated reevaluateRisk
  cases found : k.getQueuedExecution proposalId with
  | none => rfl
  | some exec => simp [finished exec found]

theorem changesRisk_iff (held : k.getRiskReport proposalId = some report) :
    k.ChangesRisk env proposalId ↔ ∃ proposal, env.getProposal proposalId = some proposal ∧
      (k.escalatedReport env report proposal).1 ≠ report := by
  constructor
  · rintro ⟨⟨existing, next⟩, assessed, differs⟩
    obtain ⟨same, proposal, proposed, rfl⟩ := reassessment_eq_some assessed
    obtain rfl := Option.some.inj (held.symm.trans same)
    exact ⟨proposal, proposed, differs⟩
  · rintro ⟨proposal, proposed, differs⟩
    refine ⟨(report, (k.escalatedReport env report proposal).1), ?_, differs⟩
    rw [reassessment, held, proposed]
    rfl

theorem standing_eq_iff (found : k.getQueuedExecution proposalId = some exec) (live : exec.isTerminal = false) :
    standing (k.reevaluated env proposalId) proposalId = standing k proposalId ↔ ¬k.ChangesRisk env proposalId := by
  rcases reevaluated_cases env found live with
    ⟨unchanged, records, same⟩ | ⟨existing, next, records, assessed, differs, held, named, same⟩
  · rw [same]
    exact iff_of_true rfl unchanged
  · refine iff_of_false ?_ (not_not.2 ⟨(existing, next), assessed, differs⟩)
    intro still
    have reports := congrArg Prod.fst still
    have written := getRiskReport_reassign (k := k) records exec existing next
    rw [named] at written
    rw [standing, standing, same, written, held] at reports
    obtain ⟨-, proposal, -, rfl⟩ := reassessment_eq_some assessed
    have values := Option.some.inj reports
    rw [escalatedReport_eq] at differs values
    obtain ⟨tier, threshold, delay⟩ := Prod.mk.inj values |>.imp_right Prod.mk.inj
    apply differs
    dsimp only at tier threshold delay ⊢
    rw [tier] at threshold delay ⊢
    rw [threshold, delay]

theorem standing_eq_iff_calm (grounded : Grounded proposalId k env) :
    standing (k.reevaluated env proposalId) proposalId = standing k proposalId ↔ Calm proposalId k env := by
  cases found : k.getQueuedExecution proposalId with
  | none =>
      rw [reevaluated_finished (by simp [found])]
      refine iff_of_true rfl fun exec report held => ?_
      cases found.symm.trans held
  | some exec =>
      cases live : exec.isTerminal with
      | true =>
          rw [reevaluated_finished (by simpa [found] using live)]
          refine iff_of_true rfl fun other report held running => ?_
          obtain rfl := Option.some.inj (found.symm.trans held)
          cases live.symm.trans running
      | false =>
          rw [standing_eq_iff found live]
          cases held : k.getRiskReport proposalId with
          | none =>
              refine iff_of_true ?_ fun other report _ _ reported => ?_
              · rintro ⟨reports, assessed, -⟩
                cases held.symm.trans (reassessment_eq_some assessed).1
              · cases held.symm.trans reported
          | some report =>
              rw [changesRisk_iff held]
              constructor
              · intro unchanged other report' _ _ reported proposed
                obtain rfl := Option.some.inj (held.symm.trans reported)
                obtain ⟨proposal, proposed⟩ := Option.isSome_iff_exists.1 proposed
                refine (escalatedReport_eq_iff (grounded exec report proposal found live held proposed)).1 ?_
                by_contra differs
                exact unchanged ⟨proposal, proposed, differs⟩
              · rintro calm ⟨proposal, proposed, differs⟩
                have quiet := calm exec report found live held (by rw [proposed, Option.isSome_some])
                have floored := grounded exec report proposal found live held proposed
                exact differs ((escalatedReport_eq_iff floored).2 quiet)

theorem Floored.transfer {k' : GuardKeeper} {env' : Env} {proposal : Gov.Proposal}
    (floored : k.Floored env proposal report) (authority : k'.authority = k.authority)
    (params : k'.params = k.params)
    (hardening : k'.emergencyHardening = k.emergencyHardening)
    (fresh : evaluateProposal k.authority k.params env' proposal =
      evaluateProposal k.authority k.params env proposal) :
    k'.Floored env' proposal report := by
  obtain ⟨freshTier, freshThreshold, freshDelay, tierDelay, tierThreshold, hardTier, hardThreshold⟩ := floored
  constructor
  · rwa [authority, params, fresh]
  · rwa [authority, params, fresh]
  · rwa [authority, params, fresh]
  · rwa [params]
  · rwa [params]
  · rwa [hardening]
  · rwa [hardening]

end Calls

section Repetition

variable {k : GuardKeeper} {env : Env} {proposalId : Nat}

/-- Environments that show a reevaluation the same proposals, and that evaluate them alike. -/
structure Unchanged (env env' : Env) : Prop where
  proposals : env'.proposals = env.proposals
  feePool : env'.feePool = env.feePool
  evaluateProposalAI : env'.evaluateProposalAI = env.evaluateProposalAI

theorem Unchanged.evaluateProposal_eq {env env' : Env} (unchanged : Unchanged env env') (authority : String)
    (params : Params) (proposal : Gov.Proposal) :
    evaluateProposal authority params env' proposal = evaluateProposal authority params env proposal := by
  unfold evaluateProposal
  rw [unchanged.feePool, unchanged.evaluateProposalAI]

theorem Unchanged.getProposal_eq {env env' : Env} (unchanged : Unchanged env env') (proposalId : Nat) :
    env'.getProposal proposalId = env.getProposal proposalId := by
  rw [Env.getProposal, Env.getProposal, unchanged.proposals]

theorem Unchanged.join {first env env' : Env} (a : Unchanged first env) (b : Unchanged first env') :
    Unchanged env env' :=
  ⟨b.proposals.trans a.proposals.symm, b.feePool.trans a.feePool.symm,
    b.evaluateProposalAI.trans a.evaluateProposalAI.symm⟩

theorem grounded_reevaluated {env' : Env} (unchanged : Unchanged env env') (k : GuardKeeper) (proposalId : Nat) :
    Grounded proposalId (k.reevaluated env proposalId) env' := by
  intro exec report proposal found live held proposed
  rw [unchanged.getProposal_eq] at proposed
  have fresh := unchanged.evaluateProposal_eq k.authority k.params proposal
  cases before : k.getQueuedExecution proposalId with
  | none =>
      rw [reevaluated_finished (by simp [before])] at found
      cases before.symm.trans found
  | some exec' =>
      cases live' : exec'.isTerminal with
      | true =>
          rw [reevaluated_finished (by simpa [before] using live')] at found
          obtain rfl := Option.some.inj (before.symm.trans found)
          cases live.symm.trans live'
      | false =>
          rcases reevaluated_cases env before live' with
            ⟨still, records, same⟩ | ⟨existing, next, records, assessed, -, held', named, same⟩
          · rw [same] at held ⊢
            have held : k.getRiskReport proposalId = some report := held
            have repeated : (k.escalatedReport env report proposal).1 = report := by
              by_contra differs
              exact still ((changesRisk_iff held).2 ⟨proposal, proposed, differs⟩)
            have floored := floored_escalatedReport k env report proposal
            rw [repeated] at floored
            exact floored.transfer rfl rfl rfl fresh
          · have written := getRiskReport_reassign (k := k) records exec' existing next
            rw [named] at written
            rw [same] at held ⊢
            obtain rfl := Option.some.inj (written.symm.trans held)
            obtain ⟨-, proposal', proposed', rfl⟩ := reassessment_eq_some assessed
            obtain rfl := Option.some.inj (proposed'.symm.trans proposed)
            refine (floored_escalatedReport k env existing proposal').transfer ?_ ?_ ?_ fresh <;>
              · unfold reassign
                split <;> rfl

def GroundedFor (env : Env) (proposalId : Nat) (k : GuardKeeper) : Prop :=
  ∀ env' : { env' // Unchanged env env' }, Grounded proposalId k env'.1

theorem along_constant_iff {σ α β : Type*} {step : σ → α → σ} (view : σ → β) (s : σ) (run : List α) :
    Run.Along step (fun s a => view (step s a) = view s) s run ↔
      ∀ n, view ((run.take n).foldl step s) = view s := by
  induction run generalizing s with
  | nil => simp [Run.Along]
  | cons a rest ih =>
      constructor
      · rintro ⟨here, along⟩ n
        cases n with
        | zero => rfl
        | succ n => exact ((ih (step s a)).1 along n).trans here
      · intro same
        have here := same 1
        refine ⟨here, (ih (step s a)).2 fun n => ?_⟩
        exact (same (n + 1)).trans here.symm

/-- Further reevaluations leave everything as the first one left it exactly when each of them finds nothing
left to raise. -/
theorem reevaluations_repeat_iff (k : GuardKeeper) (env : Env) (proposalId : Nat)
    (later : List { env' // Unchanged env env' }) :
    (∀ n, standing ((later.take n).foldl (fun k env' => k.reevaluated env'.1 proposalId)
        (k.reevaluated env proposalId)) proposalId = standing (k.reevaluated env proposalId) proposalId) ↔
      Run.Along (fun k (env' : { env' // Unchanged env env' }) => k.reevaluated env'.1 proposalId)
        (fun k env' => Calm proposalId k env'.1) (k.reevaluated env proposalId) later := by
  rw [← along_constant_iff fun k => standing k proposalId]
  have start : GroundedFor env proposalId (k.reevaluated env proposalId) := fun env' =>
    grounded_reevaluated env'.2 k proposalId
  refine Run.along_congr ?_ ?_ start later
  · intro k env' grounded
    exact standing_eq_iff_calm (grounded env')
  · intro k env' _ _ env''
    exact grounded_reevaluated (env'.2.join env''.2) k proposalId

def hardenedKeeper : GuardKeeper :=
  let report : RiskReport := ⟨7, .low, 5, 17280, 5000, ["TEXT_ONLY"]⟩
  let exec : QueuedExecution :=
    { proposalId := 7, queuedHeight := 1, earliestExecHeight := 17281, gateState := .visibility
      gateEnteredHeight := 1, tier := .low, requiredThresholdBps := 5000, requiresSecondConfirm := false
      secondConfirmReceived := false, statusNote := .queuedForGuardedExecution }
  { ((GuardKeeper.new "gov" defaultParams).setRiskReport report).setQueuedExecution exec with
    emergencyHardening := true }

/-- Under hardening the second call of one block stretches the delay again. -/
theorem hardening_compounds : ¬ ∀ (k : GuardKeeper) (env : Env) (proposalId : Nat), k.params.Valid →
    standing ((k.reevaluated env proposalId).reevaluated env proposalId) proposalId =
      standing (k.reevaluated env proposalId) proposalId := by
  intro idempotent
  exact absurd (idempotent hardenedKeeper (Timeline.textPassed 10) 7 (by decide)) (by decide +kernel)

end Repetition

end Omniphi.GuardKeeper
