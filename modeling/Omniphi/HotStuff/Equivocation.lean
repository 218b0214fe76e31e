import Omniphi.HotStuff.Transition

/-! One node over its whole life: handler calls, writes of the locking state to durable storage, and
crashes after which a fresh engine reads that state back. The `voted` map is what keeps the node
from a second PRE-COMMIT or COMMIT vote in a view; it is pruned on every view change and is not
stored. -/

namespace Omniphi.HotStuff

structure Node (β : Type) where
  engine : HotStuffEngine
  stored : Option β
  cast : List HotStuffVote
  saved : Bool

inductive NodeAction
  | call (call : Call)
  | persist
  | restart

namespace Node

section

variable {β : Type} (codec : HotStuffEngine.RuleCodec β) (sha256 : Sha256) (selfId : NodeId)
  (quorumThreshold : Nat) (baseTimeoutMs : U64)

def start : Node β :=
  { engine := .new selfId quorumThreshold baseTimeoutMs, stored := none, cast := [], saved := true }

def step (node : Node β) : NodeAction → Node β
  | .call call =>
      let votes := (node.engine.handle sha256 call).2.votes
      { node with
        engine := node.engine.step sha256 call
        cast := node.cast ++ votes
        saved := node.saved && votes.isEmpty }
  | .persist =>
      { node with stored := node.engine.persistSafetyRule codec node.stored, saved := true }
  | .restart =>
      let engine := HotStuffEngine.new selfId quorumThreshold baseTimeoutMs
      { node with engine := (engine.restoreSafetyRule codec node.stored).1 }

end

variable {β : Type}

def CrashesSaved (node : Node β) : NodeAction → Prop
  | .restart => node.saved = true
  | _ => True

/-- A certificate that asks for a vote in a view and phase the node has voted in for another block
finds that vote still on record. -/
def Remembers (node : Node β) : NodeAction → Prop
  | .call (.onQc qc) => ∀ phase, qc.phase.next = some phase → qc.phase ≠ .commit →
      (∃ vote ∈ node.cast, vote.view = qc.view ∧ vote.phase = phase ∧ vote.blockId ≠ qc.blockId) →
      (qc.view, phase) ∈ node.engine.voted
  | _ => True

def NoEquivocation (node : Node β) : Prop :=
  ∀ one ∈ node.cast, ∀ other ∈ node.cast, one.view = other.view → one.phase = other.phase →
    one.blockId = other.blockId

variable (codec : HotStuffEngine.RuleCodec β)

structure Inv (node : Node β) : Prop where
  unique : node.NoEquivocation
  covered : ∀ vote ∈ node.cast, vote.view ≤ node.engine.safety.lastVotedView
  storage : node.saved = true → node.cast = [] ∨ ∃ rule, node.stored = some (codec.toBytes rule) ∧
    ∀ vote ∈ node.cast, vote.view ≤ rule.lastVotedView

variable {codec} (sha256 : Sha256) (selfId : NodeId) (quorumThreshold : Nat) (baseTimeoutMs : U64)

theorem inv_start : (start (β := β) selfId quorumThreshold baseTimeoutMs).Inv codec where
  unique := by simp [NoEquivocation, start]
  covered := by simp [start]
  storage := by simp [start]

theorem fresh_vote {node : Node β} {call : Call}
    (covered : ∀ vote ∈ node.cast, vote.view ≤ node.engine.safety.lastVotedView)
    (remembers : node.Remembers (.call call)) {vote earlier : HotStuffVote}
    (new : vote ∈ (node.engine.handle sha256 call).2.votes) (old : earlier ∈ node.cast)
    (view : vote.view = earlier.view) (phase : vote.phase = earlier.phase) :
    vote.blockId = earlier.blockId := by
  cases node.engine.emits_of_leaf sha256 (HotStuffOutput.mem_votes.1 new) with
  | prepareVote block above =>
      -- The last voted view has reached every earlier vote, and the block's view is above it.
      have reached := covered earlier old
      rw [← view] at reached
      change block.view ≤ _ at reached
      bv_omega
  | nextVote qc phase' next early unvoted =>
      by_contra differ
      exact unvoted (remembers phase' next early
        ⟨earlier, old, view.symm, phase.symm, fun same => differ same.symm⟩)

theorem inv_call {node : Node β} (inv : node.Inv codec) (call : Call)
    (remembers : node.Remembers (.call call)) :
    (node.step codec sha256 selfId quorumThreshold baseTimeoutMs (.call call)).Inv codec where
  unique := by
    intro one first other second view phase
    rcases List.mem_append.1 first with first | first <;>
      rcases List.mem_append.1 second with second | second
    · exact inv.unique one first other second view phase
    · exact (fresh_vote sha256 inv.covered remembers second first view.symm phase.symm).symm
    · exact fresh_vote sha256 inv.covered remembers first second view phase
    · rw [HotStuffEngine.votes_eq sha256 first second]
  covered := by
    intro vote member
    rcases List.mem_append.1 member with old | new
    · exact BitVec.le_trans (inv.covered vote old) (node.engine.lastVotedView_le_step sha256 call)
    · exact node.engine.sendVote_covered sha256 (HotStuffOutput.mem_votes.1 new)
  storage := by
    intro saved
    simp only [step, Bool.and_eq_true, List.isEmpty_iff] at saved
    simp only [step, saved.2, List.append_nil]
    exact inv.storage saved.1

theorem inv_persist {node : Node β} (inv : node.Inv codec) :
    (node.step codec sha256 selfId quorumThreshold baseTimeoutMs .persist).Inv codec where
  unique := inv.unique
  covered := inv.covered
  storage := fun _ => .inr ⟨node.engine.safety, rfl, inv.covered⟩

theorem inv_restart {node : Node β} (inv : node.Inv codec) (saved : node.saved = true) :
    (node.step codec sha256 selfId quorumThreshold baseTimeoutMs .restart).Inv codec where
  unique := inv.unique
  covered := by
    rcases inv.storage saved with none | ⟨rule, stored, covers⟩
    · simp [step, none]
    · simpa [step, HotStuffEngine.restoreSafetyRule, stored, codec.roundTrip] using covers
  storage := inv.storage

theorem inv_step (node : Node β) (action : NodeAction) (inv : node.Inv codec)
    (admissible : node.CrashesSaved action ∧ node.Remembers action) :
    (node.step codec sha256 selfId quorumThreshold baseTimeoutMs action).Inv codec := by
  cases action with
  | call call => exact inv_call sha256 selfId quorumThreshold baseTimeoutMs inv call admissible.2
  | persist => exact inv_persist sha256 selfId quorumThreshold baseTimeoutMs inv
  | restart => exact inv_restart sha256 selfId quorumThreshold baseTimeoutMs inv admissible.1

/-- No equivocation, over any calls and any restarts after a stored vote, as long as no certificate
asks for a vote in a view and phase whose earlier vote, for another block, has been pruned or lost in
a restart. -/
theorem no_equivocation (run : List NodeAction)
    (admissible : Run.Along (step codec sha256 selfId quorumThreshold baseTimeoutMs)
      (fun node action => node.CrashesSaved action ∧ node.Remembers action)
      (start selfId quorumThreshold baseTimeoutMs) run) :
    NoEquivocation (run.foldl (step codec sha256 selfId quorumThreshold baseTimeoutMs)
      (start selfId quorumThreshold baseTimeoutMs)) :=
  (Run.invariant (inv_step sha256 selfId quorumThreshold baseTimeoutMs)
    (inv_start selfId quorumThreshold baseTimeoutMs) admissible).unique

section Forgotten

def plainCodec : HotStuffEngine.RuleCodec SafetyRule := ⟨id, some, fun _ => rfl⟩

def prepareQc (blockId : Bytes32) : QuorumCertificate :=
  { view := 1, blockId, phase := .prepare, signatures := [] }

def lateCertificate : List NodeAction :=
  [.call (.onQc (prepareQc 5)), .call .onTimeout, .call (.onQc (prepareQc 6))]

theorem equivocation_after_view_change :
    Run.Along (step plainCodec (fun _ => 0) 1 3 1000) CrashesSaved (start 1 3 1000) lateCertificate ∧
    ¬ NoEquivocation (lateCertificate.foldl (step plainCodec (fun _ => 0) 1 3 1000) (start 1 3 1000)) := by
  refine ⟨⟨trivial, trivial, trivial, trivial⟩, fun unique => ?_⟩
  have same := unique ⟨1, 5, .preCommit, 1, []⟩ (by decide +kernel)
    ⟨1, 6, .preCommit, 1, []⟩ (by decide +kernel) rfl rfl
  exact absurd same (by decide)

def restartRun : List NodeAction :=
  [.call (.onQc (prepareQc 5)), .persist, .restart, .call (.onQc { prepareQc 6 with view := 2 })]

theorem no_equivocation_over_restart :
    NoEquivocation (restartRun.foldl (step plainCodec (fun _ => 0) 1 3 1000) (start 1 3 1000)) := by
  have other : ∀ vote ∈ ((restartRun.take 3).foldl (step plainCodec (fun _ => 0) 1 3 1000)
      (start 1 3 1000)).cast, vote.view ≠ 2 := by decide
  refine no_equivocation _ _ _ _ _ ⟨⟨trivial, ?_⟩, ⟨trivial, trivial⟩, ⟨rfl, trivial⟩, ⟨trivial, ?_⟩,
    trivial⟩
  · intro phase next early cast
    exact absurd cast (by simp [start])
  · rintro phase next early ⟨vote, member, view, -⟩
    exact absurd view (other vote member)

end Forgotten

end Node

end Omniphi.HotStuff
