import Omniphi.Guard.Risk

/-! Which proposals the rules grade by their riskiest message: the grade is taken from the first message that
the classifier knows, so it has to be the grade of every other one. -/

namespace Omniphi.Guard

open Gov

section Grades

inductive RiskClass
  | upgrade
  | consensus
  | slashing
  | treasury
  | consensusParams
  | economicParams
  | otherParams
  | text
  | other
  deriving DecidableEq

def riskClass : ProposalType × Features → RiskClass
  | (.softwareUpgrade, _) => .upgrade
  | (.consensusCritical, _) => .consensus
  | (.slashingReduction, _) => .slashing
  | (.treasurySpend, _) => .treasury
  | (.paramChange, features) =>
      if features.touchesConsensus then .consensusParams
      else if features.touchesEconomic then .economicParams
      else .otherParams
  | (.textOnly, _) => .text
  | (.other, _) => .other

def messageClass (msg : AnyMsg) : Option RiskClass := (classifyMessage msg.typeUrl).map riskClass

def proposalClass (messages : List AnyMsg) : RiskClass :=
  (messages.findSome? messageClass).getD (if messages.isEmpty then .text else .other)

def spendBand (spendBps : Nat) : Nat :=
  if spendBps ≥ 2500 then 3 else if spendBps ≥ 1000 then 2 else if spendBps ≥ 500 then 1 else 0

def spendGrade : Nat → RiskTier × Nat
  | 0 => (.low, 30)
  | 1 => (.med, 50)
  | 2 => (.high, 70)
  | _ => (.critical, 85)

def grade (spendBps : Nat) : RiskClass → RiskTier × Nat
  | .upgrade => (.critical, 95)
  | .consensus => (.critical, 90)
  | .slashing => (.high, 80)
  | .treasury => spendGrade (spendBand spendBps)
  | .consensusParams => (.critical, 85)
  | .economicParams => (.high, 65)
  | .otherParams => (.med, 40)
  | .text => (.low, 5)
  | .other => (.med, 30)

def AtMost (a b : RiskTier × Nat) : Prop := a.1.rank ≤ b.1.rank ∧ a.2 ≤ b.2

/-- Two classes that are graded alike: they are one, or a critical spend and a consensus parameter. -/
def Alike (spendBps : Nat) (a b : RiskClass) : Prop :=
  a = b ∨ 2500 ≤ spendBps ∧ (a = .treasury ∧ b = .consensusParams ∨ a = .consensusParams ∧ b = .treasury)

theorem spendBand_cases (spendBps : Nat) :
    (2500 ≤ spendBps ∧ spendBand spendBps = 3) ∨ (spendBps < 2500 ∧ 1000 ≤ spendBps ∧ spendBand spendBps = 2) ∨
      (spendBps < 1000 ∧ 500 ≤ spendBps ∧ spendBand spendBps = 1) ∨ (spendBps < 500 ∧ spendBand spendBps = 0) := by
  unfold spendBand
  split_ifs <;> omega

theorem baseRisk_grade (spendBps : Nat) (proposalType : ProposalType) (features : Features) :
    ((baseRisk spendBps proposalType features).1, (baseRisk spendBps proposalType features).2.1) =
      grade spendBps (riskClass (proposalType, features)) := by
  cases proposalType with
  | treasurySpend =>
      rw [riskClass, grade, baseRisk, spendBand]
      split_ifs <;> rfl
  | paramChange =>
      rw [riskClass, baseRisk]
      split_ifs <;> rfl
  | softwareUpgrade | consensusCritical | slashingReduction | textOnly | other => rfl

theorem grade_eq_iff (spendBps : Nat) (a b : RiskClass) :
    grade spendBps a = grade spendBps b ↔ Alike spendBps a b := by
  unfold Alike
  rcases spendBand_cases spendBps with ⟨least, band⟩ | ⟨most, -, band⟩ | ⟨most, -, band⟩ | ⟨most, band⟩
  · cases a <;> cases b <;> simp [grade, band, spendGrade, least]
  all_goals
    have few : ¬2500 ≤ spendBps := by omega
    cases a <;> cases b <;> simp [grade, band, spendGrade, few]

theorem atMost_treasury_iff (spendBps total : Nat) :
    AtMost (grade spendBps .treasury) (grade total .treasury) ↔ spendBand spendBps ≤ spendBand total := by
  rcases spendBand_cases spendBps with ⟨-, a⟩ | ⟨-, -, a⟩ | ⟨-, -, a⟩ | ⟨-, a⟩ <;>
    rcases spendBand_cases total with ⟨-, b⟩ | ⟨-, -, b⟩ | ⟨-, -, b⟩ | ⟨-, b⟩ <;>
    simp [AtMost, grade, a, b, spendGrade, RiskTier.rank]

theorem grade_other_atMost_iff {c : RiskClass} (known : c ≠ .text) (spendBps total : Nat) :
    AtMost (grade spendBps .other) (grade total c) ↔ (c = .treasury → 500 ≤ total) := by
  cases c with
  | treasury =>
      rcases spendBand_cases total with ⟨least, b⟩ | ⟨-, least, b⟩ | ⟨-, least, b⟩ | ⟨most, b⟩
      all_goals
        simp [AtMost, grade, b, spendGrade, RiskTier.rank]
        omega
  | text => exact absurd rfl known
  | upgrade | consensus | slashing | consensusParams | economicParams | otherParams | other =>
      simp [AtMost, grade, RiskTier.rank]

theorem grade_of_ne_treasury {c : RiskClass} (other : c ≠ .treasury) (spendBps total : Nat) :
    grade spendBps c = grade total c := by
  cases c with
  | treasury => exact absurd rfl other
  | upgrade | consensus | slashing | consensusParams | economicParams | otherParams | text | other => rfl

end Grades

section Reports

variable (authority : String) (params : Params) (env : Env) (proposal : Proposal)

def rulesReport : RiskReport :=
  evaluateProposal authority { params with bindingAiEnabled := false, aiShadowMode := false } env proposal

def spendBps : Nat := calculateTreasurySpendPercentage authority env.feePool proposal

def proposalGrade : RiskTier × Nat :=
  grade (spendBps authority env proposal) (proposalClass proposal.messages)

theorem classifyMessage_plain {msgType : String} {found : ProposalType × Features}
    (classified : classifyMessage msgType = some found) :
    found.2.highEconomicImpact = false ∧ riskClass found ≠ .text := by
  unfold classifyMessage at classified
  split_ifs at classified <;> cases Option.some.inj classified
  case pos => exact ⟨rfl, nofun⟩
  case pos => exact ⟨rfl, nofun⟩
  case pos => exact ⟨rfl, nofun⟩
  case pos => exact ⟨rfl, nofun⟩
  case pos => exact ⟨rfl, nofun⟩
  refine ⟨rfl, ?_⟩
  rw [riskClass]
  split_ifs <;> nofun

theorem riskClass_classifyProposal : riskClass (classifyProposal proposal) = proposalClass proposal.messages ∧
    (classifyProposal proposal).2.highEconomicImpact = false := by
  have mapped : proposal.messages.findSome? messageClass =
      (proposal.messages.findSome? fun msg => classifyMessage msg.typeUrl).map riskClass := by
    induction proposal.messages with
    | nil => rfl
    | cons msg rest ih =>
        rw [List.findSome?_cons, List.findSome?_cons, messageClass]
        cases classifyMessage msg.typeUrl with
        | none => exact ih
        | some found => rfl
  unfold classifyProposal proposalClass
  rw [mapped]
  cases first : proposal.messages.findSome? fun msg => classifyMessage msg.typeUrl with
  | none =>
      dsimp only [Option.map_none, Option.getD_none]
      split_ifs <;> exact ⟨rfl, rfl⟩
  | some found =>
      obtain ⟨msg, -, classified⟩ := List.exists_of_findSome?_eq_some first
      exact ⟨rfl, (classifyMessage_plain classified).1⟩

theorem rulesReport_eq : ∃ reasonCodes, rulesReport authority params env proposal =
    ⟨proposal.id, (proposalGrade authority env proposal).1, (proposalGrade authority env proposal).2,
      tierToDelayBlocks (proposalGrade authority env proposal).1 params,
      tierToThresholdBps (proposalGrade authority env proposal).1 params, reasonCodes⟩ := by
  obtain ⟨same, plain⟩ := riskClass_classifyProposal proposal
  have graded := baseRisk_grade (spendBps authority env proposal) (classifyProposal proposal).1
    (classifyProposal proposal).2
  rw [Prod.mk.eta, same] at graded
  rw [rulesReport, evaluateProposal, proposalGrade, ← graded]
  dsimp only
  rw [plain]
  exact ⟨_, rfl⟩

end Reports

section Alignment

/-- The report on the proposal is the report on any order of its messages, and no less than the report on
any one of them. -/
structure DrivenByRiskiest (authority : String) (params : Params) (env : Env) (proposal : Proposal) : Prop where
  permuted : ∀ messages, messages.Perm proposal.messages →
    (rulesReport authority params env { proposal with messages }).tier =
        (rulesReport authority params env proposal).tier ∧
      (rulesReport authority params env { proposal with messages }).score =
        (rulesReport authority params env proposal).score ∧
      (rulesReport authority params env { proposal with messages }).computedDelayBlocks =
        (rulesReport authority params env proposal).computedDelayBlocks ∧
      (rulesReport authority params env { proposal with messages }).computedThresholdBps =
        (rulesReport authority params env proposal).computedThresholdBps
  dominates : ∀ msg ∈ proposal.messages,
    (rulesReport authority params env { proposal with messages := [msg] }).tier.rank ≤
        (rulesReport authority params env proposal).tier.rank ∧
      (rulesReport authority params env { proposal with messages := [msg] }).score ≤
        (rulesReport authority params env proposal).score ∧
      (rulesReport authority params env { proposal with messages := [msg] }).computedDelayBlocks ≤
        (rulesReport authority params env proposal).computedDelayBlocks ∧
      (rulesReport authority params env { proposal with messages := [msg] }).computedThresholdBps ≤
        (rulesReport authority params env proposal).computedThresholdBps

/-- The messages that the classifier knows are graded alike, no spend alone is in a higher band than all of
them, and no unknown message stands beside a small spend. -/
structure Aligned (authority : String) (env : Env) (proposal : Proposal) : Prop where
  alike : ∀ a ∈ proposal.messages, ∀ b ∈ proposal.messages, ∀ c d, messageClass a = some c →
    messageClass b = some d → Alike (spendBps authority env proposal) c d
  spends : ∀ msg ∈ proposal.messages, messageClass msg = some .treasury →
    spendBand (spendBps authority env { proposal with messages := [msg] }) ≤
      spendBand (spendBps authority env proposal)
  plain : ∀ a ∈ proposal.messages, ∀ b ∈ proposal.messages, messageClass a = some .treasury →
    messageClass b = none → 500 ≤ spendBps authority env proposal

variable {authority : String} {params : Params} {env : Env} {proposal : Proposal}

theorem Params.Valid.delays_mono (valid : params.Valid) {a b : RiskTier} (le : a.rank ≤ b.rank) :
    tierToDelayBlocks a params ≤ tierToDelayBlocks b params := by
  have ordered := (Params.valid_iff params).1 valid _ (List.mem_cons_of_mem _ List.mem_cons_self)
  simp only [Bool.or_eq_false_iff, decide_eq_false_iff_not, not_lt] at ordered
  obtain ⟨⟨low, med⟩, high⟩ := ordered
  cases a <;> cases b <;> simp [RiskTier.rank, tierToDelayBlocks] at le ⊢ <;> omega

theorem Params.Valid.thresholds_mono (valid : params.Valid) {a b : RiskTier} (le : a.rank ≤ b.rank) :
    tierToThresholdBps a params ≤ tierToThresholdBps b params := by
  have ordered := (Params.valid_iff params).1 valid
    (params.thresholdDefaultBps > params.thresholdHighBps ||
        params.thresholdHighBps > params.thresholdCriticalBps,
      "thresholds must be ordered: DEFAULT <= HIGH <= CRITICAL") (by simp [Params.checks])
  simp only [Bool.or_eq_false_iff, decide_eq_false_iff_not, not_lt] at ordered
  obtain ⟨default, high⟩ := ordered
  cases a <;> cases b <;> simp [RiskTier.rank, tierToThresholdBps] at le ⊢ <;> omega

theorem driven_iff_grades (valid : params.Valid) : DrivenByRiskiest authority params env proposal ↔
    (∀ messages, messages.Perm proposal.messages →
      proposalGrade authority env { proposal with messages } = proposalGrade authority env proposal) ∧
    ∀ msg ∈ proposal.messages, AtMost (proposalGrade authority env { proposal with messages := [msg] })
      (proposalGrade authority env proposal) := by
  obtain ⟨_, whole⟩ := rulesReport_eq authority params env proposal
  constructor
  · intro driven
    constructor
    · intro messages perm
      obtain ⟨_, other⟩ := rulesReport_eq authority params env { proposal with messages }
      obtain ⟨tier, score, -, -⟩ := driven.permuted messages perm
      rw [whole, other] at tier score
      exact Prod.ext tier score
    · intro msg member
      obtain ⟨_, single⟩ := rulesReport_eq authority params env { proposal with messages := [msg] }
      obtain ⟨tier, score, -, -⟩ := driven.dominates msg member
      rw [whole, single] at tier score
      exact ⟨tier, score⟩
  · rintro ⟨same, least⟩
    constructor
    · intro messages perm
      obtain ⟨_, other⟩ := rulesReport_eq authority params env { proposal with messages }
      rw [whole, other, same messages perm]
      exact ⟨rfl, rfl, rfl, rfl⟩
    · intro msg member
      obtain ⟨_, single⟩ := rulesReport_eq authority params env { proposal with messages := [msg] }
      obtain ⟨tier, score⟩ := least msg member
      rw [whole, single]
      exact ⟨tier, score, valid.delays_mono tier, valid.thresholds_mono tier⟩

theorem spendBps_perm {messages : List AnyMsg} (perm : messages.Perm proposal.messages) :
    spendBps authority env { proposal with messages } = spendBps authority env proposal := by
  have total : parseTreasurySpendAmount authority { proposal with messages } =
      parseTreasurySpendAmount authority proposal := (perm.map (messageSpend authority)).sum_eq
  unfold spendBps calculateTreasurySpendPercentage
  rw [total]

theorem proposalClass_cases (messages : List AnyMsg) :
    (∃ msg ∈ messages, messageClass msg = some (proposalClass messages)) ∨
      (∀ msg ∈ messages, messageClass msg = none) ∧
        proposalClass messages = if messages.isEmpty then .text else .other := by
  unfold proposalClass
  cases first : messages.findSome? messageClass with
  | none => exact Or.inr ⟨List.findSome?_eq_none_iff.1 first, rfl⟩
  | some c =>
      obtain ⟨msg, member, is⟩ := List.exists_of_findSome?_eq_some first
      exact Or.inl ⟨msg, member, is⟩

theorem permuted_iff_alike : (∀ messages, messages.Perm proposal.messages →
      proposalGrade authority env { proposal with messages } = proposalGrade authority env proposal) ↔
    ∀ a ∈ proposal.messages, ∀ b ∈ proposal.messages, ∀ c d, messageClass a = some c →
      messageClass b = some d → Alike (spendBps authority env proposal) c d := by
  constructor
  · intro same a inA b inB c d isA isB
    -- Each message can be brought to the front, and decides there.
    have front : ∀ msg ∈ proposal.messages, ∀ e, messageClass msg = some e →
        grade (spendBps authority env proposal) e = proposalGrade authority env proposal := by
      intro msg member e is
      obtain ⟨before, after, split⟩ := List.append_of_mem member
      have perm : (msg :: (before ++ after)).Perm proposal.messages := by
        rw [split]
        exact List.perm_middle.symm
      have first : proposalClass (msg :: (before ++ after)) = e := by
        rw [proposalClass, List.findSome?_cons, is, Option.getD_some]
      rw [← same _ perm, proposalGrade, spendBps_perm perm, first]
    rw [← grade_eq_iff, front a inA c isA, front b inB d isB]
  · intro alike messages perm
    rw [proposalGrade, proposalGrade, spendBps_perm perm]
    rcases proposalClass_cases messages with ⟨a, inA, isA⟩ | ⟨unknown, class_⟩ <;>
      rcases proposalClass_cases proposal.messages with ⟨b, inB, isB⟩ | ⟨unknown', class'⟩
    · exact (grade_eq_iff _ _ _).2 (alike a (perm.mem_iff.1 inA) b inB _ _ isA isB)
    · cases (unknown' a (perm.mem_iff.1 inA)).symm.trans isA
    · cases (unknown b (perm.mem_iff.2 inB)).symm.trans isB
    · rw [class_, class', perm.isEmpty_eq]

theorem messageClass_ne_text {msg : AnyMsg} {c : RiskClass} (is : messageClass msg = some c) : c ≠ .text := by
  obtain ⟨found, classified, rfl⟩ := Option.map_eq_some_iff.1 is
  exact (classifyMessage_plain classified).2

theorem proposalGrade_single (msg : AnyMsg) : proposalGrade authority env { proposal with messages := [msg] } =
    grade (spendBps authority env { proposal with messages := [msg] }) ((messageClass msg).getD .other) := by
  rw [proposalGrade, proposalClass, List.findSome?_singleton]
  rfl

theorem atMost_alike_iff {spend total : Nat} {c d : RiskClass} (alike : Alike total c d) :
    AtMost (grade spend c) (grade total d) ↔ (c = .treasury → spendBand spend ≤ spendBand total) := by
  rw [← (grade_eq_iff total c d).2 alike]
  by_cases treasury : c = .treasury
  · subst treasury
    rw [atMost_treasury_iff]
    exact ⟨fun le _ => le, fun le => le rfl⟩
  · rw [grade_of_ne_treasury treasury spend total]
    exact iff_of_true ⟨le_rfl, le_rfl⟩ fun is => absurd is treasury

theorem dominates_iff (alike : ∀ a ∈ proposal.messages, ∀ b ∈ proposal.messages, ∀ c d, messageClass a = some c →
      messageClass b = some d → Alike (spendBps authority env proposal) c d) :
    (∀ msg ∈ proposal.messages, AtMost (proposalGrade authority env { proposal with messages := [msg] })
      (proposalGrade authority env proposal)) ↔ Aligned authority env proposal := by
  rcases proposalClass_cases proposal.messages with ⟨first, inFirst, isFirst⟩ | ⟨unknown, class_⟩
  · constructor
    · intro least
      refine ⟨alike, ?_, ?_⟩
      · intro msg member is
        have le := least msg member
        rw [proposalGrade_single, is, Option.getD_some] at le
        exact (atMost_alike_iff (alike msg member first inFirst _ _ is isFirst)).1 le rfl
      · intro a inA b inB isA isB
        have le := least b inB
        rw [proposalGrade_single, isB, Option.getD_none] at le
        have decides := (grade_eq_iff _ _ _).2 (alike first inFirst a inA _ _ isFirst isA)
        rw [proposalGrade, decides] at le
        exact (grade_other_atMost_iff (messageClass_ne_text isA) _ _).1 le rfl
    · intro aligned msg member
      rw [proposalGrade_single]
      cases is : messageClass msg with
      | some c =>
          refine (atMost_alike_iff (alike msg member first inFirst _ _ is isFirst)).2 ?_
          rintro rfl
          exact aligned.spends msg member is
      | none =>
          refine (grade_other_atMost_iff (messageClass_ne_text isFirst) _ _).2 fun treasury => ?_
          exact aligned.plain first inFirst msg member (isFirst.trans (congrArg some treasury)) is
  · refine iff_of_true ?_ ⟨alike, ?_, ?_⟩
    · intro msg member
      have some_ : proposal.messages.isEmpty = false := by
        rw [List.isEmpty_eq_false_iff_exists_mem]
        exact ⟨msg, member⟩
      rw [proposalGrade_single, unknown msg member, proposalGrade, class_, some_]
      exact ⟨le_rfl, le_rfl⟩
    · intro msg member is
      cases (unknown msg member).symm.trans is
    · intro a inA b inB isA
      cases (unknown a inA).symm.trans isA

/-- The rules are driven by the riskiest message exactly when the messages are aligned. -/
theorem driven_iff_aligned (valid : params.Valid) :
    DrivenByRiskiest authority params env proposal ↔ Aligned authority env proposal := by
  rw [driven_iff_grades valid, permuted_iff_alike]
  constructor
  · rintro ⟨alike, least⟩
    exact (dominates_iff alike).1 least
  · intro aligned
    exact ⟨aligned.alike, (dominates_iff aligned.alike).2 aligned⟩

end Alignment

section Hidden

def richEnv : Env :=
  { height := 1, proposals := .empty, bondedValidators := none
    feePool := .communityPool [⟨chainBondDenom, 1000000⟩]
    evaluateProposalAI := fun _ => none, isTrackFrozen := fun _ => false, router := none }

def smallSpend : AnyMsg :=
  ⟨"/cosmos.distribution.v1beta1.MsgCommunityPoolSpend", [], some (.communityPoolSpend [⟨chainBondDenom, 1⟩])⟩

def softwareUpgrade : AnyMsg := ⟨"/cosmos.upgrade.v1beta1.MsgSoftwareUpgrade", [], some .other⟩

def mixed (messages : List AnyMsg) : Proposal := ⟨7, .passed, messages, ⟨some 1, some 0, some 0, some 0⟩⟩

theorem driven_single_spend : defaultParams.Valid ∧
    (DrivenByRiskiest "gov" defaultParams richEnv (mixed [smallSpend]) ↔
      Aligned "gov" richEnv (mixed [smallSpend])) :=
  ⟨by decide, driven_iff_aligned (by decide)⟩

/-- A software upgrade behind a small spend is graded as the spend. -/
theorem upgrade_hides_behind_spend : ¬ ∀ authority params env proposal, Params.Valid params →
    DrivenByRiskiest authority params env proposal := by
  intro driven
  have tier := ((driven "gov" defaultParams richEnv (mixed [smallSpend, softwareUpgrade]) (by decide)).dominates
    softwareUpgrade (by decide)).1
  exact absurd tier (by decide +kernel)

end Hidden

end Omniphi.Guard
