import Omniphi.Guard.Runs
import Omniphi.Timelock.Dispatches

/-! The timelock and the guard together, over the proposals of the governance module. -/

namespace Omniphi.Governance

open Gov Timelock

/-- The guard has run the messages of a proposal; `tracks` are those recorded for its operations. -/
structure GuardRun where
  proposalId : Nat
  block : Block
  tracks : List (Option Track)

/-- A message run by the guard that goes to one of the two modules. -/
inductive Effect
  | timelock (msg : OwnMsg)
  | updateParams (authority : String) (params : Guard.Params)
  | confirmExecution (authority : String) (proposalId : Nat) (justification : String)

structure World where
  timelock : TimelockKeeper
  guard : GuardKeeper
  proposals : KeyedMap Gov.Proposal.id
  guardRuns : List GuardRun

-- What the timelock's own runs do to the guard, which only changes its settings, comes as actions after them.
inductive Action
  | setProposal (proposal : Gov.Proposal)
  | processProposal (block : Block) (env : Guard.Env) (proposalId : Nat)
  | timelock (block : Block) (call : Call)
  | onProposalPassed (block : Block) (env : Guard.Env) (proposalId : Nat)
  | onTimelockQueued (block : Block) (env : Guard.Env) (proposalId : Nat)
  | processQueue (block : Block) (env : Guard.Env) (effects : Nat → List Effect)
  | reevaluateRisk (block : Block) (env : Guard.Env) (proposalId : Nat)
  | confirmExecution (authority : String) (proposalId : Nat) (justification : String)
  | setEmergencyHardeningMode (enabled : Bool)
  | updateParams (authority : String) (params : Guard.Params)

def isDecided (status : ProposalStatus) : Bool :=
  status = .passed || status = .rejected || status = .failed

end Omniphi.Governance

namespace Omniphi.GuardKeeper

open Guard

def isDispatch (proposalId : Nat) : Event → Bool
  | .messagesDispatched dispatched => dispatched = proposalId
  | _ => false

def dispatches (k : GuardKeeper) (proposalId : Nat) : Nat := k.events.countP (isDispatch proposalId)

end Omniphi.GuardKeeper

namespace Omniphi.Governance.World

open Gov Timelock

variable (sha256 : Sha256) (w : World) (block : Block) (env : Guard.Env)

def start (timelockAuthority : String) (timelockParams : Timelock.Params) (nextOperationId : Nat)
    (guardAuthority : String) (guardParams : Guard.Params) : World where
  timelock := .new timelockAuthority timelockParams nextOperationId
  guard := .new guardAuthority guardParams
  proposals := .empty
  guardRuns := []

def guardView : GuardView := ⟨w.guard.params.timelockIntegrationEnabled, w.guard.hasExecutionMarker⟩

-- The guard asks for an operation and gives the id of a proposal.
def isTrackFrozen (proposalId : Nat) : Bool := w.timelock.isTrackFrozen block proposalId

def environment : Guard.Env :=
  { env with height := block.height, proposals := w.proposals, isTrackFrozen := w.isTrackFrozen block }

def tracksOf (proposalId : Nat) : List (Option Track) :=
  (w.timelock.operations.values.filter fun op => op.proposalId = proposalId).map fun op =>
    w.timelock.trackOf op.id

/-- The governance module changes a proposal until it is decided. -/
def setProposal (proposal : Gov.Proposal) : World :=
  match w.proposals.get? proposal.id with
  | none => { w with proposals := w.proposals.insert proposal }
  | some old => if isDecided old.status then w else { w with proposals := w.proposals.insert proposal }

def markProposalFailed (proposalId : Nat) : World :=
  match w.proposals.get? proposalId with
  | none => w
  | some proposal =>
      if proposal.status = .passed then
        { w with proposals := w.proposals.insert { proposal with status := .failed } }
      else w

-- An error of the guard does not stop the timelock.
def processProposal (proposalId : Nat) : World :=
  match w.proposals.get? proposalId with
  | none => w
  | some proposal =>
      if proposal.status ≠ .passed then w
      else if proposal.messages.isEmpty then w
      else if proposal.messages.any fun msg => msg.unpacked.isNone then w.markProposalFailed proposalId
      else match w.timelock.queueOperation sha256 block proposalId proposal.messages w.timelock.authority with
      | (timelock, .error _) => { w with timelock := timelock }.markProposalFailed proposalId
      | (timelock, .ok _) =>
          let w := { w with timelock := timelock }
          { w with
            guard := (w.guard.onTimelockQueued (w.environment block env) proposalId).getD w.guard
            proposals := w.proposals.insert { proposal with status := .failed } }

def applyEffect (w : World) : Effect → Option World
  | .timelock msg => (w.timelock.handle block msg).toOption.map fun timelock => { w with timelock := timelock }
  | .updateParams authority params =>
      (w.guard.updateParams authority params).toOption.map fun guard => { w with guard := guard }
  | .confirmExecution authority proposalId justification =>
      (w.guard.confirmExecution authority proposalId justification).toOption.map fun guard =>
        { w with guard := guard }

def applyEffects (w : World) : List Effect → Option World
  | [] => some w
  | effect :: rest => (w.applyEffect block effect).bind fun w => applyEffects w rest

/-- A visit of the queue. Messages that one of the two modules refuses have failed. -/
def visit (effects : Nat → List Effect) (w : World) (proposalId : Nat) : World :=
  let env := w.environment block env
  let guard := w.guard.visit env proposalId
  if guard.dispatches proposalId = w.guard.dispatches proposalId then { w with guard := guard }
  else
    let run : GuardRun := ⟨proposalId, block, w.tracksOf proposalId⟩
    match applyEffects block { w with guard := guard, guardRuns := run :: w.guardRuns }
        (effects proposalId) with
    | some ran => ran
    | none =>
        { w with
          guard := w.guard.visit { env with router := some fun _ _ _ => .failed } proposalId }

def scanned : List Nat := w.guard.scanned (w.environment block env)

def processQueue (effects : Nat → List Effect) : World :=
  let visited := (w.scanned block env).foldl (visit block env effects) w
  { visited with
    guard := (w.scanned block env).foldl (fun guard proposalId => guard.reindex block.height proposalId)
      visited.guard }

def step (w : World) : Action → World
  | .setProposal proposal => w.setProposal proposal
  | .processProposal block env proposalId => w.processProposal sha256 block env proposalId
  | .timelock block call =>
      { w with timelock := w.timelock.perform sha256 block (some w.guardView) call }
  | .onProposalPassed block env proposalId =>
      { w with guard := (w.guard.onProposalPassed (w.environment block env) proposalId).getD w.guard }
  | .onTimelockQueued block env proposalId =>
      { w with guard := (w.guard.onTimelockQueued (w.environment block env) proposalId).getD w.guard }
  | .processQueue block env effects => w.processQueue block env effects
  | .reevaluateRisk block env proposalId =>
      { w with guard := w.guard.reevaluated (w.environment block env) proposalId }
  | .confirmExecution authority proposalId justification =>
      { w with guard := w.guard.orUnchanged (w.guard.confirmExecution authority proposalId justification) }
  | .setEmergencyHardeningMode enabled => { w with guard := w.guard.setEmergencyHardeningMode enabled }
  | .updateParams authority params =>
      { w with guard := w.guard.orUnchanged (w.guard.updateParams authority params) }

variable {w block env}

theorem processQueue_alone : (w.processQueue block env fun _ => []).guard =
    w.guard.processQueue (w.environment block env) := by
  have visited : ∀ (pending : List Nat) (later : World), later.timelock = w.timelock →
      later.proposals = w.proposals →
      (pending.foldl (visit block env fun _ => []) later).guard =
        pending.foldl (fun guard proposalId => guard.visit (w.environment block env) proposalId) later.guard := by
    intro pending
    induction pending with
    | nil => intro later _ _; rfl
    | cons proposalId rest ih =>
        intro later timelock proposals
        have same : later.environment block env = w.environment block env := by
          unfold environment isTrackFrozen
          rw [timelock, proposals]
        have once : (visit block env (fun _ => []) later proposalId).timelock = w.timelock ∧
            (visit block env (fun _ => []) later proposalId).proposals = w.proposals ∧
            (visit block env (fun _ => []) later proposalId).guard =
              later.guard.visit (w.environment block env) proposalId := by
          unfold visit
          rw [same]
          dsimp only
          split
          · exact ⟨timelock, proposals, rfl⟩
          · exact ⟨timelock, proposals, rfl⟩
        rw [List.foldl_cons, List.foldl_cons, ih _ once.1 once.2.1, once.2.2]
  show (w.scanned block env).foldl _ ((w.scanned block env).foldl (visit block env fun _ => []) w).guard = _
  rw [visited _ w rfl rfl]
  rfl

end Omniphi.Governance.World
