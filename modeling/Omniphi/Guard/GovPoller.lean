import Omniphi.Guard.Runs

/-! The poll for passed proposals at the end of a block, used while the timelock does not hand them over,
and the mark it leaves at the highest proposal it has seen. -/

namespace Omniphi

open Guard Gov

namespace Guard

structure Poller where
  timeline : Timeline
  lastProcessedProposalId : Nat
  polled : KeyedMap Proposal.id

structure Scan where
  keeper : GuardKeeper
  processed : Nat
  highestSeen : Nat

inductive PollerAction
  | pollGovernanceProposals (env : Env)
  | guard (action : Action)

end Guard

namespace GuardKeeper

variable (env : Env) (lastProcessed maxToProcess : Nat)

def sawProposal (scan : Scan) (proposal : Proposal) : Scan :=
  { scan with highestSeen := if proposal.id > scan.highestSeen then proposal.id else scan.highestSeen }

def queueProposal (scan : Scan) (proposalId : Nat) : Scan :=
  { scan with
    keeper := (scan.keeper.onProposalPassed env proposalId).getD scan.keeper
    processed := u64 (scan.processed + 1) }

-- An error of `OnProposalPassed` is logged and counts like a success.
def iterateProposals (scan : Scan) : List Proposal → Scan
  | [] => scan
  | proposal :: rest =>
      if proposal.id ≤ lastProcessed then iterateProposals scan rest
      else
        let scan := sawProposal scan proposal
        if proposal.status ≠ .passed then iterateProposals scan rest
        else if (scan.keeper.getQueuedExecution proposal.id).isSome then iterateProposals scan rest
        else
          let scan := queueProposal env scan proposal.id
          if scan.processed ≥ maxToProcess then scan else iterateProposals scan rest

end GuardKeeper

namespace Guard.Poller

open GuardKeeper

variable (s : Poller) (env : Env)

def start (authority : String) (params : Params) : Poller := ⟨.start authority params, 0, .empty⟩

def scan : Scan :=
  iterateProposals env s.lastProcessedProposalId s.timeline.keeper.params.maxProposalsPerBlock
    ⟨s.timeline.keeper, 0, s.lastProcessedProposalId⟩ env.proposals.values

def pollGovernanceProposals : Poller :=
  if s.timeline.keeper.params.timelockIntegrationEnabled then s
  else
    { timeline := { s.timeline with keeper := (s.scan env).keeper, height := env.height }
      lastProcessedProposalId := if (s.scan env).highestSeen > s.lastProcessedProposalId then
        (s.scan env).highestSeen else s.lastProcessedProposalId
      polled := env.proposals }

def step (s : Poller) : PollerAction → Poller
  | .pollGovernanceProposals env => s.pollGovernanceProposals env
  | .guard action => { s with timeline := s.timeline.step action }

end Guard.Poller

namespace GuardKeeper

variable {k k' k'' : GuardKeeper} {env : Env} {proposalId : Nat} {exec : QueuedExecution}

def Lasting (k k' : GuardKeeper) : Prop :=
  ∀ q, (k.getQueuedExecution q).isSome = true → (k'.getQueuedExecution q).isSome = true

theorem Lasting.refl (k : GuardKeeper) : Lasting k k := fun _ queued => queued

theorem Lasting.trans (first : Lasting k k') (second : Lasting k' k'') : Lasting k k'' :=
  fun q queued => second q (first q queued)

theorem Lasting.of_executions (same : k'.queuedExecutions = k.queuedExecutions) : Lasting k k' := by
  intro q queued
  rwa [getQueuedExecution, same]

theorem lasting_setQueuedExecution (k : GuardKeeper) (exec : QueuedExecution) :
    Lasting k (k.setQueuedExecution exec) := by
  intro q queued
  rw [getQueuedExecution_setQueuedExecution]
  split
  · rfl
  · exact queued

theorem Lasting.of_frame (frame : ∀ other, proposalId ≠ other → Frame other k k')
    (here : k'.getQueuedExecution proposalId = some exec) : Lasting k k' := by
  intro q queued
  by_cases same : proposalId = q
  · rw [← same, here]
    rfl
  · rwa [(frame q same).exec]

theorem GateOutcome.lasting {blocksInGate : Nat} (outcome : k.GateOutcome env exec blocksInGate k') :
    Lasting k k' := by
  have frame : ∀ other, exec.proposalId ≠ other → Frame other k k' := fun _ away => outcome.frame away
  cases outcome with
  | waits => exact Lasting.refl k
  | entersShockAbsorber => exact .of_frame frame (getQueuedExecution_announced _ _ rfl)
  | entersConditionalExecution => exact .of_frame frame (getQueuedExecution_announced _ _ rfl)
  | postpones => exact .of_frame frame (getQueuedExecution_announced _ _ rfl)
  | entersReady => exact .of_frame frame (getQueuedExecution_announced _ _ rfl)
  | restarts => exact .of_frame frame (getQueuedExecution_announced _ _ rfl)
  | aborts => exact .of_frame frame (getQueuedExecution_written _ rfl)
  | defers => exact .of_frame frame (getQueuedExecution_written _ rfl)
  | fails => exact .of_frame frame (getQueuedExecution_written _ rfl)
  | executes => exact .of_frame frame (getQueuedExecution_written _ rfl)

theorem reevaluated_lasting (k : GuardKeeper) (env : Env) (proposalId : Nat) :
    Lasting k (k.reevaluated env proposalId) := by
  by_cases idle : ∀ exec ∈ k.getQueuedExecution proposalId, exec.isTerminal = true
  · rw [reevaluated_idle k env idle]
    exact Lasting.refl k
  · push Not at idle
    obtain ⟨exec, found, live⟩ := idle
    have live : exec.isTerminal = false := Bool.not_eq_true _ ▸ live
    exact .of_frame (fun _ away => reevaluated_frame found live away) (reevaluated_record _ found live)

theorem visit_lasting (k : GuardKeeper) (env : Env) (proposalId : Nat) :
    Lasting k (k.visit env proposalId) := by
  obtain same | ⟨exec, -, -, -, outcome⟩ := visit_cases k env proposalId
  · rw [same]
    exact Lasting.refl k
  · exact (reevaluated_lasting k env proposalId).trans outcome.lasting

theorem processQueue_lasting (k : GuardKeeper) (env : Env) : Lasting k (k.processQueue env) := by
  have visited : ∀ (pending : List Nat) (k : GuardKeeper),
      Lasting k (pending.foldl (fun k proposalId => k.visit env proposalId) k) := by
    intro pending
    induction pending with
    | nil => exact Lasting.refl
    | cons proposalId rest ih => exact fun k => (visit_lasting k env proposalId).trans (ih _)
  have reindexed : ∀ (pending : List Nat) (k : GuardKeeper),
      Lasting k (pending.foldl (fun k proposalId => k.reindex env.height proposalId) k) := by
    intro pending
    induction pending with
    | nil => exact Lasting.refl
    | cons proposalId rest ih =>
        intro k
        have once : Lasting k (k.reindex env.height proposalId) := by
          unfold reindex
          dsimp only
          split
          · exact .of_executions rfl
          · split <;> exact .of_executions rfl
        exact once.trans (ih _)
  exact (visited _ k).trans (reindexed _ _)

theorem onProposalPassed_lasting (k : GuardKeeper) (env : Env) (proposalId : Nat) :
    Lasting k ((k.onProposalPassed env proposalId).getD k) := by
  obtain same | ⟨report, -, -, -, same⟩ := k.onProposalPassed_cases env proposalId
  · rw [same]
    exact Lasting.refl k
  · rw [same]
    exact lasting_setQueuedExecution _ _

theorem onProposalPassed_queues (k : GuardKeeper) {proposal : Proposal}
    (found : env.getProposal proposalId = some proposal) :
    (((k.onProposalPassed env proposalId).getD k).getQueuedExecution proposalId).isSome = true := by
  unfold onProposalPassed
  rw [found]
  cases queued : k.getQueuedExecution proposalId with
  | some exec => exact Option.isSome_iff_exists.2 ⟨exec, queued⟩
  | none =>
      refine Option.isSome_iff_exists.2 ⟨k.initialExecution env proposalId (k.initialReport env proposal), ?_⟩
      exact getQueuedExecution_announced _ _ rfl

section Iteration

variable {lastProcessed maxToProcess : Nat}

def Queued (k : GuardKeeper) (mark : Nat) (proposal : Proposal) : Prop :=
  proposal.id ≤ mark → proposal.status = .passed → (k.getQueuedExecution proposal.id).isSome = true

theorem iterateProposals_queues (scan : Scan) {pending : List Proposal}
    (ascending : pending.Pairwise fun a b => a.id < b.id)
    (present : ∀ proposal ∈ pending, env.getProposal proposal.id = some proposal)
    (ahead : ∀ proposal ∈ pending, lastProcessed < proposal.id → scan.highestSeen < proposal.id) :
    Lasting scan.keeper (iterateProposals env lastProcessed maxToProcess scan pending).keeper ∧
      scan.highestSeen ≤ (iterateProposals env lastProcessed maxToProcess scan pending).highestSeen ∧
      ∀ proposal ∈ pending, lastProcessed < proposal.id →
        (iterateProposals env lastProcessed maxToProcess scan pending).keeper.Queued
          (iterateProposals env lastProcessed maxToProcess scan pending).highestSeen proposal := by
  induction pending generalizing scan with
  | nil => exact ⟨Lasting.refl _, Nat.le_refl _, fun _ member => nomatch member⟩
  | cons proposal rest ih =>
      obtain ⟨later, ascending⟩ := List.pairwise_cons.1 ascending
      have presentRest : ∀ other ∈ rest, env.getProposal other.id = some other :=
        fun other member => present other (List.mem_cons_of_mem _ member)
      have here := present proposal List.mem_cons_self
      rw [iterateProposals]
      split
      · rename_i old
        obtain ⟨lasting, raised, queued⟩ := ih _ ascending presentRest
          (fun other member => ahead other (List.mem_cons_of_mem _ member))
        refine ⟨lasting, raised, ?_⟩
        intro other member fresh
        obtain rfl | member := List.mem_cons.1 member
        · omega
        · exact queued other member fresh
      rename_i fresh
      rw [not_le] at fresh
      have first := ahead proposal List.mem_cons_self fresh
      have seen : (sawProposal scan proposal).highestSeen = proposal.id := if_pos first
      -- What is left after this proposal, once the mark is at it and it is dealt with.
      have onwards : ∀ next : Scan, next.highestSeen = proposal.id → Lasting scan.keeper next.keeper →
          (proposal.status = .passed → (next.keeper.getQueuedExecution proposal.id).isSome = true) →
          Lasting scan.keeper (iterateProposals env lastProcessed maxToProcess next rest).keeper ∧
            scan.highestSeen ≤ (iterateProposals env lastProcessed maxToProcess next rest).highestSeen ∧
            ∀ other ∈ proposal :: rest, lastProcessed < other.id →
              (iterateProposals env lastProcessed maxToProcess next rest).keeper.Queued
                (iterateProposals env lastProcessed maxToProcess next rest).highestSeen other := by
        intro next mark kept dealt
        obtain ⟨lasting, raised, queued⟩ := ih next ascending presentRest (by
          intro other member _
          rw [mark]
          exact later other member)
        refine ⟨kept.trans lasting, by omega, ?_⟩
        intro other member after
        obtain rfl | member := List.mem_cons.1 member
        · intro _ passed
          exact lasting _ (dealt passed)
        · exact queued other member after
      dsimp only
      split
      · rename_i open'
        exact onwards _ seen (Lasting.refl _) fun passed => absurd passed open'
      split
      · rename_i queued
        exact onwards _ seen (Lasting.refl _) fun _ => queued
      have lasting := onProposalPassed_lasting scan.keeper env proposal.id
      have queues := onProposalPassed_queues scan.keeper here
      split
      · refine ⟨lasting, ?_, ?_⟩
        · show scan.highestSeen ≤ (sawProposal scan proposal).highestSeen
          omega
        · intro other member _ below passed
          obtain rfl | member := List.mem_cons.1 member
          · exact queues
          · have beyond := later other member
            have below : other.id ≤ (sawProposal scan proposal).highestSeen := below
            omega
      · exact onwards _ seen lasting fun _ => queues

end Iteration

end GuardKeeper

namespace Guard.Poller

open GuardKeeper

variable {s : Poller} {env : Env} {action : PollerAction}

def Complete (s : Poller) : Prop :=
  ∀ proposal ∈ s.polled.values, s.timeline.keeper.Queued s.lastProcessedProposalId proposal

def OnTime (s : Poller) (env : Env) : Prop :=
  s.timeline.keeper.params.timelockIntegrationEnabled = false →
    ∀ proposal ∈ env.proposals.values, proposal.id ≤ s.lastProcessedProposalId →
      proposal.status = .passed → ∃ old ∈ s.polled.get? proposal.id, old.status = .passed

instance decidableOnTime (s : Poller) (env : Env) : Decidable (s.OnTime env) :=
  inferInstanceAs (Decidable (_ → ∀ proposal ∈ env.proposals.values, _ → _ → ∃ old ∈ _, _))

def Steady (s : Poller) : PollerAction → Prop
  | .pollGovernanceProposals env => s.OnTime env
  | .guard _ => True

instance decidableSteady (s : Poller) : ∀ action, Decidable (s.Steady action)
  | .pollGovernanceProposals env => decidableOnTime s env
  | .guard _ => instDecidableTrue

theorem poll_complete (complete : s.Complete) (onTime : s.OnTime env) :
    (s.pollGovernanceProposals env).Complete := by
  unfold pollGovernanceProposals
  split
  · exact complete
  rename_i disabled
  have ordered : env.proposals.values.Pairwise fun a b => compare a.id b.id = .lt :=
    KeyedMap.pairwise_values
  have ascending : env.proposals.values.Pairwise fun a b => a.id < b.id :=
    ordered.imp Nat.compare_eq_lt.1
  obtain ⟨lasting, raised, queued⟩ := @iterateProposals_queues env
    s.lastProcessedProposalId s.timeline.keeper.params.maxProposalsPerBlock
    ⟨s.timeline.keeper, 0, s.lastProcessedProposalId⟩ _ ascending
    (fun _ member => KeyedMap.mem_values.1 member) (fun _ _ fresh => fresh)
  intro proposal member below passed
  by_cases old : proposal.id ≤ s.lastProcessedProposalId
  · obtain ⟨before, found, passedBefore⟩ :=
      onTime (Bool.not_eq_true _ ▸ disabled) proposal member old passed
    have named := s.polled.key_of_get? found
    have was := complete before (KeyedMap.mem_values.2 (by rwa [named])) (by rwa [named]) passedBefore
    rw [named] at was
    exact lasting _ was
  · rw [not_le] at old
    refine queued proposal member old ?_ passed
    show proposal.id ≤ (s.scan env).highestSeen
    dsimp only at below
    split at below
    · exact below
    · omega

theorem guard_lasting (timeline : Timeline) (action : Action) :
    Lasting timeline.keeper (timeline.step action).keeper := by
  cases action with
  | onProposalPassed env proposalId => exact onProposalPassed_lasting _ _ _
  | onTimelockQueued env proposalId =>
      show Lasting timeline.keeper ((timeline.keeper.onTimelockQueued env proposalId).getD timeline.keeper)
      obtain same | same := timeline.keeper.onTimelockQueued_cases env proposalId
      · rw [same]
        exact Lasting.refl _
      · rw [same]
        exact onProposalPassed_lasting _ _ _
  | processQueue env => exact processQueue_lasting _ _
  | reevaluateRisk env proposalId => exact reevaluated_lasting _ _ _
  | confirmExecution authority proposalId justification =>
      obtain same | ⟨-, exec, -, -, -, same⟩ :=
        timeline.keeper.confirmExecution_cases authority proposalId justification
      · show Lasting _ (timeline.keeper.orUnchanged _)
        rw [same]
        exact Lasting.refl _
      · show Lasting _ (timeline.keeper.orUnchanged _)
        rw [same]
        exact lasting_setQueuedExecution _ _
  | setEmergencyHardeningMode enabled => exact .of_executions rfl
  | updateParams authority params =>
      obtain same | ⟨-, -, same⟩ := timeline.keeper.updateParams_cases authority params
      · show Lasting _ (timeline.keeper.orUnchanged _)
        rw [same]
        exact Lasting.refl _
      · show Lasting _ (timeline.keeper.orUnchanged _)
        rw [same]
        exact .of_executions rfl

theorem step_complete (complete : s.Complete) (steady : s.Steady action) : (s.step action).Complete := by
  cases action with
  | pollGovernanceProposals env => exact poll_complete complete steady
  | guard action =>
      intro proposal member below passed
      exact guard_lasting s.timeline action _ (complete proposal member below passed)

def Reaches (s : Poller) : PollerAction → Prop
  | .pollGovernanceProposals env => s.timeline.keeper.params.timelockIntegrationEnabled = false →
      ∀ proposal ∈ env.proposals.values, (s.pollGovernanceProposals env).timeline.keeper.Queued
        (s.pollGovernanceProposals env).lastProcessedProposalId proposal
  | .guard _ => True

theorem reaches_of_onTime (complete : s.Complete) (steady : s.Steady action) : s.Reaches action := by
  cases action with
  | guard action => trivial
  | pollGovernanceProposals env =>
      intro disabled proposal member
      refine poll_complete complete steady proposal ?_
      unfold pollGovernanceProposals
      rw [disabled]
      exact member

/-- As long as no proposal passes after the mark has gone past it, each poll leaves the passed proposals up
to its mark queued. -/
theorem passed_are_queued (authority : String) (params : Params) (run : List PollerAction)
    (steady : Run.Along step Steady (start authority params) run) :
    Run.Along step Reaches (start authority params) run := by
  have complete : (start authority params).Complete := by
    intro proposal member
    cases (KeyedMap.mem_values.1 member).symm.trans (KeyedMap.get?_empty proposal.id)
  exact @Run.along_of_invariant _ _ step Steady Reaches Complete (fun _ _ => step_complete)
    (fun _ _ => reaches_of_onTime) _ complete run steady

section Overtaken

def proposed (id : Nat) (status : ProposalStatus) : Proposal := ⟨id, status, [], ⟨some 1, some 0, some 0, some 0⟩⟩

def polledAt (height : Nat) (first second : ProposalStatus) : PollerAction :=
  .pollGovernanceProposals { Timeline.textPassed height with
    proposals := (KeyedMap.empty.insert (proposed 1 first)).insert (proposed 2 second) }

def pollingParams : Params := { Timeline.briefParams with timelockIntegrationEnabled := false }

theorem passed_are_queued_inOrder : Run.Along step Reaches (start "gov" pollingParams)
    [polledAt 5 .passed .passed, polledAt 6 .passed .passed] :=
  passed_are_queued "gov" pollingParams _ (by decide +kernel)

/-- The second proposal passes first and takes the mark past the first, which no later poll queues. -/
theorem overtaken_is_lost : ¬ Run.Along step Reaches (start "gov" pollingParams)
    [polledAt 5 .votingPeriod .passed, polledAt 6 .passed .passed] := by
  rintro ⟨-, reaches, -⟩
  have queued := reaches (by decide +kernel) (proposed 1 .passed) (by decide +kernel) (by decide +kernel) rfl
  exact absurd queued (by decide +kernel)

end Overtaken

end Guard.Poller

end Omniphi
