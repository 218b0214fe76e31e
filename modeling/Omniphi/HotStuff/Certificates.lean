import Omniphi.HotStuff.Transition

/-! Which votes stand behind a certificate that `onVote` forms. Buckets are keyed by view and phase
alone, so a certificate is backed by votes for its own block as long as no vote completes a bucket
that holds votes for another block. -/

namespace Omniphi.HotStuff

def HotStuffVote.For (vote : HotStuffVote) (view : View) (phase : Phase) (blockId : Bytes32) : Prop :=
  vote.view = view ∧ vote.phase = phase ∧ vote.blockId = blockId

instance (vote : HotStuffVote) (view : View) (phase : Phase) (blockId : Bytes32) :
    Decidable (vote.For view phase blockId) :=
  inferInstanceAs (Decidable (_ ∧ _ ∧ _))

def SentBy (sent : List HotStuffVote) (voter : NodeId) (view : View) (phase : Phase)
    (blockId : Bytes32) : Prop :=
  ∃ vote ∈ sent, vote.voterId = voter ∧ vote.For view phase blockId

instance (sent : List HotStuffVote) (voter : NodeId) (view : View) (phase : Phase)
    (blockId : Bytes32) : Decidable (SentBy sent voter view phase blockId) :=
  inferInstanceAs (Decidable (∃ vote ∈ sent, _))

/-- Enough distinct voters sent a vote for what the certificate certifies, and so did each of its
signers. -/
def QuorumCertificate.Backed (qc : QuorumCertificate) (sent : List HotStuffVote) (threshold : Nat) :
    Prop :=
  (∃ voters : Finset NodeId, threshold ≤ voters.card ∧
    ∀ voter ∈ voters, SentBy sent voter qc.view qc.phase qc.blockId) ∧
  ∀ signer ∈ qc.signatures.map Prod.fst, SentBy sent signer qc.view qc.phase qc.blockId

structure Observed where
  engine : HotStuffEngine
  sent : List HotStuffVote

namespace Observed

def start (selfId : NodeId) (quorumThreshold : Nat) (baseTimeoutMs : U64) : Observed :=
  ⟨.new selfId quorumThreshold baseTimeoutMs, []⟩

def handed : Call → List HotStuffVote
  | .onVote vote => [vote]
  | _ => []

def step (sha256 : Sha256) (observed : Observed) (call : Call) : Observed :=
  ⟨observed.engine.step sha256 call, observed.sent ++ handed call⟩

def FormsBacked (sha256 : Sha256) (observed : Observed) (call : Call) : Prop :=
  ∀ qc, .broadcastQC qc ∈ (observed.engine.handle sha256 call).2.leaves →
    qc.Backed (observed.step sha256 call).sent observed.engine.quorumThreshold

/-- A vote that completes its bucket names the block of every vote stored there. -/
def CompletesUniform (observed : Observed) : Call → Prop
  | .onVote vote => observed.engine.Completes vote →
      ∀ stored ∈ observed.engine.bucket vote.view vote.phase, stored.blockId = vote.blockId
  | _ => True

def Bucketed (observed : Observed) : Prop := observed.engine.Bucketed (· ∈ observed.sent)

theorem bucketed_start (selfId : NodeId) (quorumThreshold : Nat) (baseTimeoutMs : U64) :
    (start selfId quorumThreshold baseTimeoutMs).Bucketed :=
  HotStuffEngine.bucketed_new _ selfId quorumThreshold baseTimeoutMs

theorem bucketed_step (sha256 : Sha256) (observed : Observed) (call : Call)
    (bucketed : observed.Bucketed) : (observed.step sha256 call).Bucketed := by
  have kept : observed.engine.Bucketed (· ∈ (observed.step sha256 call).sent) :=
    bucketed.mono fun vote member => List.mem_append_left _ member
  refine observed.engine.bucketed_step sha256 kept call ?_
  rintro vote rfl
  simp [step, handed]

theorem formsBacked_of_uniform (sha256 : Sha256) (observed : Observed) (call : Call)
    (bucketed : observed.Bucketed) (uniform : observed.CompletesUniform call) :
    observed.FormsBacked sha256 call := by
  intro qc formed
  obtain ⟨vote, rfl, completes, rfl⟩ : ∃ vote, call = .onVote vote ∧
      observed.engine.Completes vote ∧ qc = observed.engine.formedQc vote := by
    cases observed.engine.emits_of_leaf sha256 formed with
    | certificate vote completes => exact ⟨vote, rfl, completes, rfl⟩
  obtain ⟨nodup, stored⟩ := bucketed vote.view vote.phase
  have uniform := uniform completes
  -- Every vote of the completed bucket is for the certified block.
  have backs : ∀ voter ∈ observed.engine.voters vote,
      SentBy (observed.step sha256 (.onVote vote)).sent voter vote.view vote.phase vote.blockId := by
    intro voter listed
    obtain ⟨cast, member, rfl⟩ := observed.engine.mem_voters.1 listed
    rcases List.mem_append.1 member with earlier | last
    · obtain ⟨sent, view, phase⟩ := stored cast earlier
      exact ⟨cast, List.mem_append_left _ sent, rfl, view, phase, uniform cast earlier⟩
    · obtain rfl : cast = vote := by simpa using last
      exact ⟨cast, by simp [step, handed], rfl, rfl, rfl, rfl⟩
  refine ⟨⟨observed.engine.voters vote, observed.engine.le_card_voters nodup completes, backs⟩, ?_⟩
  intro signer member
  apply backs
  rw [HotStuffEngine.mem_voters]
  simpa [HotStuffEngine.formedQc, eq_comm] using member

/-- Along every run of calls on a fresh engine in which no vote completes a bucket that holds a vote
for another block, every certificate formed is backed by votes for its own block. -/
theorem certificates_backed (sha256 : Sha256) (selfId : NodeId) (quorumThreshold : Nat)
    (baseTimeoutMs : U64) (calls : List Call)
    (uniform : Run.Along (step sha256) CompletesUniform (start selfId quorumThreshold baseTimeoutMs)
      calls) :
    Run.Along (step sha256) (FormsBacked sha256) (start selfId quorumThreshold baseTimeoutMs) calls :=
  Run.along_of_invariant (fun observed call bucketed _ => bucketed_step sha256 observed call bucketed)
    (formsBacked_of_uniform sha256) (bucketed_start selfId quorumThreshold baseTimeoutMs) uniform

section Mixed

def mixedVote (voter : NodeId) (blockId : Bytes32) : HotStuffVote :=
  { view := 1, blockId, phase := .prepare, voterId := voter, signature := [] }

def mixedCalls : List Call := [.onVote (mixedVote 2 7), .onVote (mixedVote 3 8)]

theorem certificate_of_mixed_votes :
    ¬ Run.Along (step fun _ => 0) (FormsBacked fun _ => 0) (start 1 2 1000) mixedCalls := by
  rintro ⟨-, backed, -⟩
  have signed := (backed _ (List.mem_singleton.2 rfl)).2 2 (by decide)
  revert signed
  decide

theorem certificates_backed_of_two_votes :
    Run.Along (step fun _ => 0) (FormsBacked fun _ => 0) (start 1 2 1000)
      [.onVote (mixedVote 2 7), .onVote (mixedVote 3 7)] := by
  refine certificates_backed _ _ _ _ _ ⟨?_, ?_, trivial⟩
  · intro _
    decide
  · intro _
    decide

end Mixed

end Observed

end Omniphi.HotStuff
