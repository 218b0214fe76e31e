import Omniphi.Lib.Run
import Omniphi.Guard.Transitions

/-! Runs of the guard: passed proposals, the queue's processing at the end of a block, reevaluations,
confirmations and changes of the settings, in any order over rising block heights. -/

namespace Omniphi

open Guard

namespace GuardKeeper

variable (k : GuardKeeper) (env : Env) {proposalId other : Nat}

section Intake

theorem proposalId_initialReport (proposal : Gov.Proposal) :
    (k.initialReport env proposal).proposalId = proposal.id := by
  have rules := proposalId_evaluateProposal k.authority k.params env proposal
  have escalated : ∀ report aggregate, (k.applyAggregateRiskEscalation report aggregate).proposalId =
      report.proposalId := by
    intro report aggregate
    unfold applyAggregateRiskEscalation
    dsimp only
    split <;> rfl
  unfold initialReport
  dsimp only
  split
  · exact (escalated _ _).trans rules
  · exact (escalated _ _).trans rules

theorem onProposalPassed_cases (proposalId : Nat) :
    (k.onProposalPassed env proposalId).getD k = k ∨
      ∃ report, k.getQueuedExecution proposalId = none ∧ report.proposalId = proposalId ∧
        (∃ proposal ∈ env.getProposal proposalId, k.initialReport env proposal = report) ∧
        (k.onProposalPassed env proposalId).getD k = k.enqueue env proposalId report := by
  unfold onProposalPassed
  cases proposed : env.getProposal proposalId with
  | none => exact .inl rfl
  | some proposal =>
      cases found : k.getQueuedExecution proposalId with
      | some exec => exact .inl rfl
      | none =>
          refine .inr ⟨_, rfl, ?_, ⟨proposal, rfl, rfl⟩, rfl⟩
          rw [proposalId_initialReport]
          exact env.proposals.key_of_get? proposed

theorem onTimelockQueued_cases (proposalId : Nat) :
    (k.onTimelockQueued env proposalId).getD k = k ∨
      (k.onTimelockQueued env proposalId).getD k =
        ((k.onProposalPassed env proposalId).getD k).setTimelockHandover proposalId := by
  unfold onTimelockQueued
  split
  · cases k.onProposalPassed env proposalId with
    | none => exact .inl rfl
    | some passed => exact .inr rfl
  · exact .inl rfl

theorem frame_enqueue {report : RiskReport} (reported : report.proposalId = proposalId)
    (away : proposalId ≠ other) : Frame other k (k.enqueue env proposalId report) :=
  (frame_setRiskReport k (by rwa [reported])).trans (frame_announced _ rfl away)

end Intake

def orUnchanged {ε : Type} (result : Except ε GuardKeeper) : GuardKeeper :=
  match result with
  | .ok k => k
  | .error _ => k

theorem confirmExecution_cases (authority : String) (proposalId : Nat) (justification : String) :
    k.orUnchanged (k.confirmExecution authority proposalId justification) = k ∨
      k.authority = authority ∧
      ∃ exec, k.getQueuedExecution proposalId = some exec ∧ exec.gateState = .ready ∧
        exec.needsConfirmation = true ∧
        k.orUnchanged (k.confirmExecution authority proposalId justification) =
          k.setQueuedExecution { exec with
            secondConfirmReceived := true
            statusNote := .secondConfirmationReceived justification } := by
  unfold confirmExecution
  split
  · exact .inl rfl
  · rename_i accepted
    cases found : k.getQueuedExecution proposalId with
    | none => exact .inl rfl
    | some exec =>
        dsimp only
        split_ifs with gate required received
        · exact .inl rfl
        · exact .inl rfl
        · exact .inl rfl
        · refine .inr ⟨not_not.1 accepted, exec, rfl, not_not.1 gate, ?_, rfl⟩
          simpa [QueuedExecution.needsConfirmation] using And.intro required received

theorem updateParams_cases (authority : String) (params : Params) :
    k.orUnchanged (k.updateParams authority params) = k ∨ k.authority = authority ∧ params.Valid ∧
      k.orUnchanged (k.updateParams authority params) = { k with params := params } := by
  unfold updateParams
  split
  · exact .inl rfl
  · rename_i accepted
    cases checked : params.validate with
    | error text => exact .inl rfl
    | ok passed => exact .inr ⟨not_not.1 accepted, checked, rfl⟩

theorem reevaluated_idle (idle : ∀ exec ∈ k.getQueuedExecution proposalId, exec.isTerminal = true) :
    k.reevaluated env proposalId = k := by
  unfold reevaluated reevaluateRisk
  cases found : k.getQueuedExecution proposalId with
  | none => rfl
  | some exec =>
      have finished := idle exec found
      simp [finished]

section Params

theorem onProposalPassed_params (proposalId : Nat) :
    ((k.onProposalPassed env proposalId).getD k).params = k.params := by
  obtain same | ⟨report, -, -, -, same⟩ := k.onProposalPassed_cases env proposalId
  · rw [same]
  · rw [same]
    rfl

theorem reevaluated_params (proposalId : Nat) : (k.reevaluated env proposalId).params = k.params := by
  by_cases idle : ∀ exec ∈ k.getQueuedExecution proposalId, exec.isTerminal = true
  · rw [reevaluated_idle k env idle]
  · push Not at idle
    obtain ⟨exec, found, live⟩ := idle
    exact (reevaluated_settled _ found (Bool.not_eq_true _ ▸ live)).1.params

theorem visits_params (pending : List Nat) :
    (pending.foldl (fun k proposalId => k.visit env proposalId) k).params = k.params := by
  induction pending generalizing k with
  | nil => rfl
  | cons proposalId rest ih => exact (ih _).trans (visit_settled k env proposalId).params

theorem confirmed_params (authority : String) (proposalId : Nat) (justification : String) :
    (k.orUnchanged (k.confirmExecution authority proposalId justification)).params = k.params := by
  obtain same | ⟨-, exec, -, -, -, same⟩ := k.confirmExecution_cases authority proposalId justification
  · rw [same]
  · rw [same]
    rfl

end Params

end GuardKeeper

namespace Guard

structure Timeline where
  keeper : GuardKeeper
  height : Nat
  processed : Nat

inductive Action
  | onProposalPassed (env : Env) (proposalId : Nat)
  | onTimelockQueued (env : Env) (proposalId : Nat)
  | processQueue (env : Env)
  | reevaluateRisk (env : Env) (proposalId : Nat)
  | confirmExecution (authority : String) (proposalId : Nat) (justification : String)
  | setEmergencyHardeningMode (enabled : Bool)
  | updateParams (authority : String) (params : Params)

namespace Timeline

def start (authority : String) (params : Params) : Timeline := ⟨.new authority params, 0, 0⟩

def step (t : Timeline) : Action → Timeline
  | .onProposalPassed env proposalId =>
      ⟨(t.keeper.onProposalPassed env proposalId).getD t.keeper, env.height, t.processed⟩
  | .onTimelockQueued env proposalId =>
      ⟨(t.keeper.onTimelockQueued env proposalId).getD t.keeper, env.height, t.processed⟩
  | .processQueue env => ⟨t.keeper.processQueue env, env.height, env.height⟩
  | .reevaluateRisk env proposalId => ⟨t.keeper.reevaluated env proposalId, env.height, t.processed⟩
  | .confirmExecution authority proposalId justification =>
      { t with keeper :=
          t.keeper.orUnchanged (t.keeper.confirmExecution authority proposalId justification) }
  | .setEmergencyHardeningMode enabled =>
      { t with keeper := t.keeper.setEmergencyHardeningMode enabled }
  | .updateParams authority params =>
      { t with keeper := t.keeper.orUnchanged (t.keeper.updateParams authority params) }

/-- Block heights are `int64` values that never fall, and the queue is processed once a height. -/
def Chronological (t : Timeline) : Action → Prop
  | .onProposalPassed env _ => t.height ≤ env.height ∧ env.height < 2 ^ 63
  | .onTimelockQueued env _ => t.height ≤ env.height ∧ env.height < 2 ^ 63
  | .processQueue env => t.height ≤ env.height ∧ t.processed < env.height ∧ env.height < 2 ^ 63
  | .reevaluateRisk env _ => t.height ≤ env.height ∧ env.height < 2 ^ 63
  | _ => True

instance decidableChronological (t : Timeline) (action : Action) : Decidable (t.Chronological action) := by
  cases action <;> unfold Chronological <;> infer_instance

def briefParams : Params := { defaultParams with
  delayLowBlocks := 4
  delayMedBlocks := 4
  delayHighBlocks := 4
  delayCriticalBlocks := 4
  visibilityWindowBlocks := 1
  shockAbsorberWindowBlocks := 1 }

def textPassed (height : Nat) : Env where
  height := height
  proposals := KeyedMap.empty.insert ⟨7, .passed, [], ⟨some 1, some 0, some 0, some 0⟩⟩
  bondedValidators := some []
  feePool := .keeperNotSet
  evaluateProposalAI := fun _ => none
  isTrackFrozen := fun _ => false
  router := some fun _ _ _ => .succeeded

def textRun : List Action :=
  .onProposalPassed (textPassed 1) 7 ::
    [2, 3, 4, 5, 6].map fun height => .processQueue (textPassed height)

end Timeline

end Guard

end Omniphi
