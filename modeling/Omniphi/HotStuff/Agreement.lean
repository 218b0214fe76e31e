import Omniphi.HotStuff.Certificates
import Omniphi.Lib.Quorum

/-! Agreement over all interleavings of deliveries. Two certificates of one view and phase share an
honest voter; what makes them name one block is that an honest node casts a single PREPARE vote in
a view, and that a later vote follows a certificate of the phase before. -/

namespace Omniphi.HotStuff

theorem SentBy.mono {sent more : List HotStuffVote} {voter : NodeId} {view : View} {phase : Phase}
    {blockId : Bytes32} (voted : SentBy sent voter view phase blockId) :
    SentBy (sent ++ more) voter view phase blockId := by
  obtain ⟨vote, member, named⟩ := voted
  exact ⟨vote, List.mem_append_left _ member, named⟩

/-- The honest engines, the votes they have sent and the blocks they have finalized. What the other
members send is not kept: they may send anything at any time. -/
structure Network where
  engines : NodeId → HotStuffEngine
  sent : List HotStuffVote
  decided : List (NodeId × HotStuffBlock)

structure Delivery where
  node : NodeId
  call : Call

namespace Network

def start (system : ByzantineQuorum NodeId) (baseTimeoutMs : NodeId → U64) : Network :=
  { engines := fun i => .new i (2 * system.f + 1) (baseTimeoutMs i), sent := [], decided := [] }

def step (sha256 : Sha256) (network : Network) (delivery : Delivery) : Network :=
  let engine := network.engines delivery.node
  let output := (engine.handle sha256 delivery.call).2
  { engines := Function.update network.engines delivery.node (engine.step sha256 delivery.call)
    sent := network.sent ++ output.votes
    decided := network.decided ++ output.finals.map fun block => (delivery.node, block) }

variable (system : ByzantineQuorum NodeId)

def Voted (network : Network) (view : View) (phase : Phase) (blockId : Bytes32) : Prop :=
  system.Certified fun i => SentBy network.sent i view phase blockId

/-- Honest votes are not forged, and a certificate is delivered only if a quorum really voted. -/
def Authentic (network : Network) (delivery : Delivery) : Prop :=
  delivery.node ∈ system.honest ∧
  match delivery.call with
  | .onVote vote => vote.voterId ∈ system.honest →
      SentBy network.sent vote.voterId vote.view vote.phase vote.blockId
  | .onQc qc => network.Voted system qc.view qc.phase qc.blockId
  | _ => True

/-- A node about to finalize its pending block does so in the block's own view, and if on votes it
collected, then on votes of members, all for that block. -/
def DecidesOwn (network : Network) (delivery : Delivery) : Prop :=
  let engine := network.engines delivery.node
  ∀ block, engine.pendingBlock = some block →
  match delivery.call with
  | .onVote vote => vote.phase = .commit → block.blockId = vote.blockId → engine.Completes vote →
      block.view = vote.view ∧ ∀ cast ∈ engine.bucket vote.view vote.phase ++ [vote],
        cast.blockId = vote.blockId ∧ cast.voterId ∈ system.members
  | .onQc qc => qc.phase = .commit → block.blockId = qc.blockId → block.view = qc.view
  | _ => True

def Agreement (network : Network) : Prop :=
  ∀ one ∈ network.decided, ∀ other ∈ network.decided, one.2.view = other.2.view →
    one.2.blockId = other.2.blockId

structure Inv (network : Network) : Prop where
  identity : ∀ i, (network.engines i).selfId = i
  threshold : ∀ i, (network.engines i).quorumThreshold = 2 * system.f + 1
  covered : ∀ vote ∈ network.sent,
    vote.view ≤ (network.engines vote.voterId).safety.lastVotedView
  once : ∀ one ∈ network.sent, ∀ other ∈ network.sent, one.phase = .prepare → other.phase = .prepare →
    one.voterId = other.voterId → one.view = other.view → one.blockId = other.blockId
  chain : ∀ vote ∈ network.sent, ∀ phase, phase.next = some vote.phase →
    network.Voted system vote.view phase vote.blockId
  buckets : ∀ i, (network.engines i).Bucketed fun vote => vote.voterId ∈ system.honest →
    SentBy network.sent vote.voterId vote.view vote.phase vote.blockId
  decided : ∀ final ∈ network.decided, network.Voted system final.2.view .commit final.2.blockId

variable {system} {network : Network}

theorem inv_start (baseTimeoutMs : NodeId → U64) : (start system baseTimeoutMs).Inv system where
  identity := fun _ => rfl
  threshold := fun _ => rfl
  covered := by simp [start]
  once := by simp [start]
  chain := by simp [start]
  buckets := fun i => HotStuffEngine.bucketed_new _ i _ _
  decided := by simp [start]

section Uniqueness

theorem Inv.prepare_unique (inv : network.Inv system) {view : View} {one other : Bytes32}
    (first : network.Voted system view .prepare one)
    (second : network.Voted system view .prepare other) : one = other := by
  obtain ⟨i, -, ⟨vote, sent, voter, rfl, phase, rfl⟩, vote', sent', voter', view', phase', rfl⟩ :=
    first.common second
  exact inv.once vote sent vote' sent' phase phase' (voter.trans voter'.symm) view'.symm

theorem Inv.voted_before (inv : network.Inv system) {view : View} {phase next : Phase}
    {blockId : Bytes32} (follows : phase.next = some next)
    (voted : network.Voted system view next blockId) : network.Voted system view phase blockId := by
  obtain ⟨i, -, vote, sent, -, rfl, rfl, rfl⟩ := voted.honest_voter
  exact inv.chain vote sent phase follows

theorem Inv.decisions_agree (inv : network.Inv system) : network.Agreement := by
  intro one first other second view
  have descend {final} (member : final ∈ network.decided) :
      network.Voted system final.2.view .prepare final.2.blockId := by
    have preCommit : network.Voted system final.2.view .preCommit final.2.blockId :=
      inv.voted_before rfl (inv.decided final member)
    exact inv.voted_before rfl preCommit
  exact inv.prepare_unique (descend first) (view ▸ descend second)

end Uniqueness

section Step

variable (sha256 : Sha256) {delivery : Delivery}

theorem Voted.step {view : View} {phase : Phase} {blockId : Bytes32}
    (voted : network.Voted system view phase blockId) :
    (network.step sha256 delivery).Voted system view phase blockId :=
  voted.mono fun _ => SentBy.mono

theorem step_engine (network : Network) (delivery : Delivery) (i : NodeId) :
    ((network.step sha256 delivery).engines i =
      (network.engines i).step sha256 delivery.call ∧ i = delivery.node) ∨
    ((network.step sha256 delivery).engines i = network.engines i ∧ i ≠ delivery.node) := by
  by_cases receiver : i = delivery.node
  · subst receiver
    exact .inl ⟨Function.update_self .., rfl⟩
  · exact .inr ⟨Function.update_of_ne receiver .., receiver⟩

theorem lastVotedView_le (i : NodeId) : (network.engines i).safety.lastVotedView ≤
    ((network.step sha256 delivery).engines i).safety.lastVotedView := by
  rcases step_engine sha256 network delivery i with ⟨same, -⟩ | ⟨same, -⟩
  · rw [same]
    exact (network.engines i).lastVotedView_le_step sha256 delivery.call
  · exact BitVec.le_of_eq (by rw [same])

theorem Inv.cast_voter (inv : network.Inv system) {vote : HotStuffVote}
    (cast : vote ∈ ((network.engines delivery.node).handle sha256 delivery.call).2.votes) :
    vote.voterId = delivery.node := by
  obtain ⟨node, call⟩ := delivery
  cases (network.engines node).emits_of_leaf sha256 (HotStuffOutput.mem_votes.1 cast) with
  | prepareVote block above => exact inv.identity node
  | nextVote qc phase next early unvoted => exact inv.identity node

theorem Inv.covered_step (inv : network.Inv system) :
    ∀ vote ∈ (network.step sha256 delivery).sent,
      vote.view ≤ ((network.step sha256 delivery).engines vote.voterId).safety.lastVotedView := by
  intro vote member
  rcases List.mem_append.1 member with old | new
  · exact BitVec.le_trans (inv.covered vote old) (lastVotedView_le sha256 _)
  · rw [inv.cast_voter sha256 new]
    have covered := (network.engines delivery.node).sendVote_covered sha256
      (HotStuffOutput.mem_votes.1 new)
    rcases step_engine sha256 network delivery delivery.node with
      ⟨same, -⟩ | ⟨-, other⟩
    · rwa [same]
    · exact absurd rfl other

theorem Inv.prepare_above (inv : network.Inv system) {vote earlier : HotStuffVote}
    (new : vote ∈ ((network.engines delivery.node).handle sha256 delivery.call).2.votes)
    (prepare : vote.phase = .prepare) (old : earlier ∈ network.sent)
    (voter : earlier.voterId = vote.voterId) : earlier.view < vote.view := by
  have covered := inv.covered earlier old
  rw [voter, inv.cast_voter sha256 new] at covered
  obtain ⟨node, call⟩ := delivery
  cases (network.engines node).emits_of_leaf sha256 (HotStuffOutput.mem_votes.1 new) with
  | prepareVote block above =>
      simp only [HotStuffEngine.prepareVote]
      bv_omega
  | nextVote qc phase next early unvoted =>
      simp only [HotStuffEngine.nextVote] at prepare
      subst prepare
      cases qc with
      | mk view blockId phase signatures => cases phase <;> cases next

theorem Inv.once_step (inv : network.Inv system) :
    ∀ one ∈ (network.step sha256 delivery).sent, ∀ other ∈ (network.step sha256 delivery).sent,
      one.phase = .prepare → other.phase = .prepare → one.voterId = other.voterId →
      one.view = other.view → one.blockId = other.blockId := by
  intro one first other second phase phase' voter view
  rcases List.mem_append.1 first with first | first <;>
    rcases List.mem_append.1 second with second | second
  · exact inv.once one first other second phase phase' voter view
  · have above := inv.prepare_above sha256 second phase' first voter
    rw [view] at above
    exact absurd above (BitVec.lt_irrefl _)
  · have above := inv.prepare_above sha256 first phase second voter.symm
    rw [view] at above
    exact absurd above (BitVec.lt_irrefl _)
  · rw [HotStuffEngine.votes_eq sha256 first second]

theorem Inv.chain_step (inv : network.Inv system) (authentic : network.Authentic system delivery) :
    ∀ vote ∈ (network.step sha256 delivery).sent, ∀ phase, phase.next = some vote.phase →
      (network.step sha256 delivery).Voted system vote.view phase vote.blockId := by
  intro vote member phase follows
  rcases List.mem_append.1 member with old | new
  · exact (inv.chain vote old phase follows).step sha256
  · obtain ⟨node, call⟩ := delivery
    cases (network.engines node).emits_of_leaf sha256 (HotStuffOutput.mem_votes.1 new) with
    | prepareVote block above => cases phase <;> cases follows
    | nextVote qc next nextOf early unvoted =>
        -- The vote was cast on a certificate of the phase before it, which is delivered only if
        -- a quorum voted.
        obtain rfl : phase = qc.phase := by
          have same : qc.phase.next = phase.next := nextOf.trans follows.symm
          revert same nextOf
          cases phase <;> cases qc.phase <;> simp [Phase.next]
        exact authentic.2.step sha256

theorem Inv.buckets_step (inv : network.Inv system) (authentic : network.Authentic system delivery)
    (i : NodeId) :
    ((network.step sha256 delivery).engines i).Bucketed fun vote => vote.voterId ∈ system.honest →
      SentBy (network.step sha256 delivery).sent vote.voterId vote.view vote.phase vote.blockId := by
  have kept : (network.engines i).Bucketed fun vote => vote.voterId ∈ system.honest →
      SentBy (network.step sha256 delivery).sent vote.voterId vote.view vote.phase vote.blockId :=
    (inv.buckets i).mono fun vote sent honest => (sent honest).mono
  rcases step_engine sha256 network delivery i with ⟨same, -⟩ | ⟨same, -⟩
  · rw [same]
    refine (network.engines i).bucketed_step sha256 kept delivery.call ?_
    intro vote called honest
    have unforged := authentic.2
    rw [called] at unforged
    exact (unforged honest).mono
  · rwa [same]

theorem Inv.decided_step (inv : network.Inv system) (authentic : network.Authentic system delivery)
    (own : network.DecidesOwn system delivery) :
    ∀ final ∈ (network.step sha256 delivery).decided,
      (network.step sha256 delivery).Voted system final.2.view .commit final.2.blockId := by
  intro final member
  rcases List.mem_append.1 member with old | new
  · exact (inv.decided final old).step sha256
  · obtain ⟨block, final, rfl⟩ := List.mem_map.1 new
    refine Voted.step sha256 ?_
    obtain ⟨node, call⟩ := delivery
    cases (network.engines node).emits_of_leaf sha256 (HotStuffOutput.mem_finals.1 final) with
    | decideByVotes vote _ completes commit pending same =>
        obtain ⟨view, uniform⟩ := own block pending commit same completes
        obtain ⟨nodup, stored⟩ := inv.buckets node vote.view vote.phase
        refine ⟨(network.engines node).voters vote, ?_, ?_, ?_⟩
        · intro voter listed
          obtain ⟨cast, member, rfl⟩ := (network.engines node).mem_voters.1 listed
          exact (uniform cast member).2
        · rw [← inv.threshold node]
          exact (network.engines node).le_card_voters nodup completes
        · intro voter listed honest
          obtain ⟨cast, member, rfl⟩ := (network.engines node).mem_voters.1 listed
          have named := (uniform cast member).1
          rcases List.mem_append.1 member with earlier | last
          · obtain ⟨sent, castView, castPhase⟩ := stored cast earlier
            have sent := sent honest
            rwa [castView, castPhase, named, ← view, commit, ← same] at sent
          · obtain rfl : cast = vote := by simpa using last
            have sent := authentic.2 honest
            rwa [← view, commit, ← same] at sent
    | decideByQc qc _ commit pending same =>
        have voted := authentic.2
        have view := own block pending commit same
        dsimp only at voted
        rwa [commit, ← view, ← same] at voted

theorem inv_step (network : Network) (delivery : Delivery) (inv : network.Inv system)
    (admissible : network.Authentic system delivery ∧ network.DecidesOwn system delivery) :
    (network.step sha256 delivery).Inv system where
  identity := by
    intro i
    rcases step_engine sha256 network delivery i with ⟨same, -⟩ | ⟨same, -⟩
    · rw [same, HotStuffEngine.step_selfId]
      exact inv.identity i
    · rw [same]
      exact inv.identity i
  threshold := by
    intro i
    rcases step_engine sha256 network delivery i with ⟨same, -⟩ | ⟨same, -⟩
    · rw [same, HotStuffEngine.step_quorumThreshold]
      exact inv.threshold i
    · rw [same]
      exact inv.threshold i
  covered := inv.covered_step sha256
  once := inv.once_step sha256
  chain := inv.chain_step sha256 admissible.1
  buckets := inv.buckets_step sha256 admissible.1
  decided := inv.decided_step sha256 admissible.1 admissible.2

end Step

section Mixed

def fourMembers : ByzantineQuorum NodeId where
  f := 1
  members := {1, 2, 3, 4}
  honest := {1, 2, 3}
  size := by decide
  honest_subset := by decide
  honest_many := by decide

def firstView (blockId : Bytes32) : HotStuffBlock :=
  { blockId, parentId := 0, view := 1, leaderId := 4, batchRoot := 0, orderedSubmissionIds := []
    justifyQc := none }

def firstQc (phase : Phase) : QuorumCertificate :=
  { view := 1, blockId := 7, phase, signatures := [(1, []), (2, []), (4, [])] }

def commitVote (voter : NodeId) (blockId : Bytes32) : HotStuffVote :=
  { view := 1, blockId, phase := .commit, voterId := voter, signature := [] }

def splitProposal : List Delivery :=
  [⟨1, .onBlock (firstView 7)⟩, ⟨2, .onBlock (firstView 7)⟩, ⟨3, .onBlock (firstView 8)⟩,
   ⟨1, .onQc (firstQc .prepare)⟩, ⟨2, .onQc (firstQc .prepare)⟩,
   ⟨1, .onQc (firstQc .preCommit)⟩, ⟨2, .onQc (firstQc .preCommit)⟩]

/-- Node 1 decides on the COMMIT certificate for block 7. Node 3 counts the same two COMMIT votes
together with a vote for block 8, and decides block 8. -/
def splitDecision : List Delivery :=
  splitProposal ++ [⟨1, .onQc (firstQc .commit)⟩, ⟨3, .onVote (commitVote 1 7)⟩,
    ⟨3, .onVote (commitVote 2 7)⟩, ⟨3, .onVote (commitVote 4 8)⟩]

theorem voted_of_first_two {network : Network} {view : View} {phase : Phase} {blockId : Bytes32}
    (first : SentBy network.sent 1 view phase blockId)
    (second : SentBy network.sent 2 view phase blockId) :
    network.Voted fourMembers view phase blockId := by
  refine ⟨{1, 2, 4}, by decide, by decide, ?_⟩
  intro i member honest
  obtain rfl | rfl | rfl : i = 1 ∨ i = 2 ∨ i = 4 := by simpa using member
  · exact first
  · exact second
  · exact absurd honest (by decide)

def jointDecision : List Delivery :=
  splitProposal ++ [⟨1, .onQc (firstQc .commit)⟩, ⟨2, .onQc (firstQc .commit)⟩]

end Mixed

end Network

end Omniphi.HotStuff
