import Omniphi.PoSeq.Node
import Omniphi.HotStuff.Transition

/-! What stands behind a batch when a node stores it or hands it to the runtime. An attestation
names a proposal by its id alone; `about` gives the proposal that its sender voted for. -/

namespace Omniphi.PoSeq

open HotStuff (NodeId HotStuffOutput HotStuffEngine)

def WireProposal.content (proposal : WireProposal) : List Bytes32 × U64 × U64 × NodeId :=
  (proposal.orderedSubmissionIds, proposal.slot, proposal.epoch, proposal.leaderId)

def WireFinalized.content (fin : WireFinalized) : List Bytes32 × U64 × U64 × NodeId :=
  (fin.orderedSubmissionIds, fin.slot, fin.epoch, fin.leaderId)

/-- At least `quorum` members of the committee voted for a proposal with the content of the batch. -/
def Backed (about : WireAttestation → WireProposal) (quorum : Nat) (committee : List NodeId)
    (received : List WireAttestation) (fin : WireFinalized) : Prop :=
  ∃ members : Finset NodeId, quorum ≤ members.card ∧ ∀ member ∈ members, member ∈ committee ∧
    ∃ vote ∈ received, vote.attestorId = member ∧ vote.approve = true ∧ (about vote).content = fin.content

namespace NodeState

def Finalizes (state : NodeState) (result : NodeState × List NodeOutput) (fin : WireFinalized) : Prop :=
  (result.1.finalizedBatches.get? fin.batchId = some fin ∧
      state.finalizedBatches.get? fin.batchId ≠ some fin) ∨
    .putFinalized fin ∈ result.2 ∨ ∃ deliverySeq, .deliver fin deliverySeq ∈ result.2

/-- The votes that the node counts come from distinct members, and approve what it holds under the
proposal's id. -/
structure Tallied (about : WireAttestation → WireProposal) (state : NodeState)
    (received : List WireAttestation) : Prop where
  members : ∀ proposalId, ∀ vote ∈ state.votesFor proposalId,
    vote ∈ received ∧ vote.attestorId ∈ state.committee
  distinct : ∀ proposalId, ((state.votesFor proposalId).map WireAttestation.attestorId).Nodup
  agree : ∀ proposalId proposal, state.pendingProposals.get? proposalId = some proposal →
    ∀ vote ∈ state.votesFor proposalId, vote.approve = true → (about vote).content = proposal.content

structure Sound (about : WireAttestation → WireProposal) (quorum : Nat) (state : NodeState)
    (received : List WireAttestation) (result : NodeState × List NodeOutput) : Prop where
  tallied : result.1.Tallied about received
  backed : ∀ fin, state.Finalizes result fin → Backed about quorum state.committee received fin

variable {about : WireAttestation → WireProposal} {quorum : Nat} {state : NodeState}
  {received : List WireAttestation} {sha256 : Sha256} {config : NodeConfig}

theorem Tallied.mono {later : List WireAttestation} (tallied : state.Tallied about received)
    (grows : ∀ vote ∈ received, vote ∈ later) : state.Tallied about later := by
  refine ⟨?_, tallied.distinct, tallied.agree⟩
  intro proposalId vote counted
  obtain ⟨listed, member⟩ := tallied.members proposalId vote counted
  exact ⟨grows vote listed, member⟩

theorem Tallied.backed (tallied : state.Tallied about received) {proposalId : Bytes32}
    (reached : quorum ≤ state.approvals proposalId) {proposal : WireProposal}
    (held : state.pendingProposals.get? proposalId = some proposal) {fin : WireFinalized}
    (same : proposal.content = fin.content) : Backed about quorum state.committee received fin := by
  let approving := (state.votesFor proposalId).filter WireAttestation.approve
  have distinct : (approving.map WireAttestation.attestorId).Nodup :=
    (tallied.distinct proposalId).sublist (List.filter_sublist.map _)
  refine ⟨(approving.map WireAttestation.attestorId).toFinset, ?_, ?_⟩
  · rw [List.toFinset_card_of_nodup distinct, List.length_map]
    exact reached
  · intro member listed
    obtain ⟨vote, counted, rfl⟩ := List.mem_map.1 (List.mem_toFinset.1 listed)
    obtain ⟨counted, approves⟩ := List.mem_filter.1 counted
    obtain ⟨heard, seated⟩ := tallied.members proposalId vote counted
    exact ⟨seated, vote, heard, rfl, approves, (tallied.agree _ _ held _ counted approves).trans same⟩

theorem not_finalizes {result : NodeState × List NodeOutput} {fin : WireFinalized}
    (same : result.1.finalizedBatches = state.finalizedBatches)
    (unwritten : .putFinalized fin ∉ result.2) (kept : ∀ deliverySeq, .deliver fin deliverySeq ∉ result.2) :
    ¬ state.Finalizes result fin := by
  intro final
  rcases final with stored | written | ⟨deliverySeq, delivered⟩
  · rw [same] at stored
    exact stored.2 stored.1
  · exact unwritten written
  · exact kept deliverySeq delivered

theorem Tallied.sound {after : NodeState} (tallied : after.Tallied about received)
    (same : after.finalizedBatches = state.finalizedBatches) {outputs : List NodeOutput}
    (unwritten : ∀ fin, .putFinalized fin ∉ outputs)
    (kept : ∀ fin deliverySeq, .deliver fin deliverySeq ∉ outputs) :
    Sound about quorum state received (after, outputs) := by
  refine ⟨tallied, ?_⟩
  intro fin final
  exact absurd final (not_finalizes same (unwritten fin) (kept fin))

theorem Tallied.quiet {after : NodeState} (tallied : after.Tallied about received)
    (same : after.finalizedBatches = state.finalizedBatches) :
    Sound about quorum state received (after, []) :=
  tallied.sound same (fun _ => List.not_mem_nil) (fun _ _ => List.not_mem_nil)

theorem Tallied.congr {after : NodeState} (tallied : state.Tallied about received)
    (votes : after.attestations = state.attestations)
    (pending : after.pendingProposals = state.pendingProposals)
    (committee : after.committee = state.committee) : after.Tallied about received := by
  have counted : after.votesFor = state.votesFor := by
    funext proposalId
    rw [votesFor, votes, votesFor]
  constructor
  · rw [counted, committee]
    exact tallied.members
  · rw [counted]
    exact tallied.distinct
  · rw [counted, pending]
    exact tallied.agree

theorem finalizes_insert {fin : WireFinalized} {result : NodeState × List NodeOutput}
    (stored : result.1.finalizedBatches = state.finalizedBatches.insert fin)
    (written : ∀ other, .putFinalized other ∈ result.2 → other = fin)
    (delivered : ∀ other deliverySeq, .deliver other deliverySeq ∈ result.2 → other = fin)
    {other : WireFinalized} (final : state.Finalizes result other) : other = fin := by
  rcases final with ⟨after, before⟩ | put | ⟨deliverySeq, sent⟩
  · rw [stored, KeyedMap.get?_insert] at after
    split at after
    · exact (Option.some.inj after).symm
    · exact absurd after before
  · exact written other put
  · exact delivered other deliverySeq sent

theorem sound_recordFinalized (tallied : state.Tallied about received) {before : NodeState}
    (same : state.finalizedBatches = before.finalizedBatches) {fin : WireFinalized}
    (backed : Backed about quorum before.committee received fin) {more : List NodeOutput}
    (plain : ∀ output ∈ more, ∃ msg, output = .broadcast msg) :
    Sound about quorum before received
      ((state.recordFinalized fin).1, (state.recordFinalized fin).2 ++ more) := by
  refine ⟨tallied.congr rfl rfl rfl, ?_⟩
  intro other final
  have only : other = fin := by
    apply finalizes_insert (congrArg (·.insert fin) same) ?_ ?_ final
    · intro written listed
      rcases List.mem_append.1 listed with here | sent
      · simpa [recordFinalized] using here
      · obtain ⟨msg, broadcast⟩ := plain _ sent
        cases broadcast
    · intro delivered deliverySeq listed
      rcases List.mem_append.1 listed with here | sent
      · simp only [recordFinalized, List.mem_cons, reduceCtorEq, false_or, List.not_mem_nil, or_false,
          NodeOutput.deliver.injEq] at here
        exact here.1
      · obtain ⟨msg, broadcast⟩ := plain _ sent
        cases broadcast
  rw [only]
  exact backed

/-- The batch is known already, or the node itself counts a quorum for the proposal that it holds
under the batch's proposal id, and that proposal has the batch's content. -/
def Supports (quorum : Nat) (state : NodeState) (fin : WireFinalized) : Prop :=
  state.finalizedBatches.contains fin.batchId = true ∨
    state.quorumReached fin.proposalId quorum = true ∧
      ∃ proposal, state.pendingProposals.get? fin.proposalId = some proposal ∧
        proposal.content = fin.content

theorem Tallied.backed_of_supports (tallied : state.Tallied about received) {fin : WireFinalized}
    (supports : state.Supports quorum fin) (unknown : ¬ state.finalizedBatches.contains fin.batchId = true) :
    Backed about quorum state.committee received fin := by
  obtain ⟨reached, proposal, held, same⟩ := supports.resolve_left unknown
  exact tallied.backed (of_decide_eq_true reached) held same

theorem sound_handleFinalized (tallied : state.Tallied about received) {fin : WireFinalized}
    (supports : state.Supports quorum fin) (verifiedSigner : Option NodeId) :
    Sound about quorum state received (state.handleFinalized fin verifiedSigner) := by
  unfold handleFinalized
  split
  · exact tallied.quiet rfl
  split
  · exact tallied.quiet rfl
  · rename_i unknown
    have recorded := @sound_recordFinalized about quorum state received tallied state rfl fin
      (tallied.backed_of_supports supports unknown) [] (fun _ listed => (List.not_mem_nil listed).elim)
    rw [List.append_nil] at recorded
    exact recorded

theorem sound_handleSyncResponse (tallied : state.Tallied about received) {resp : WireSyncResponse}
    (supports : ∀ fin ∈ resp.batch, state.Supports quorum fin) :
    Sound about quorum state received (state.handleSyncResponse resp, []) := by
  unfold handleSyncResponse
  cases brought : resp.batch with
  | none => exact tallied.quiet rfl
  | some fin =>
      dsimp only
      split
      · exact tallied.quiet rfl
      · rename_i unknown
        refine ⟨tallied.congr rfl rfl rfl, ?_⟩
        intro other final
        have same : other = fin :=
          finalizes_insert rfl (fun _ listed => (List.not_mem_nil listed).elim)
            (fun _ _ listed => (List.not_mem_nil listed).elim) final
        rw [same]
        exact tallied.backed_of_supports (supports fin brought) unknown

theorem Tallied.hold (tallied : state.Tallied about received) {proposal : WireProposal}
    (agree : ∀ vote ∈ state.votesFor proposal.proposalId, vote.approve = true →
      (about vote).content = proposal.content) :
    { state with pendingProposals := state.pendingProposals.insert proposal }.Tallied about received := by
  refine ⟨tallied.members, tallied.distinct, ?_⟩
  intro proposalId listed found vote counted approves
  change (state.pendingProposals.insert proposal).get? proposalId = some listed at found
  rw [KeyedMap.get?_insert] at found
  split at found
  · rename_i same
    rw [← Option.some.inj found]
    rw [← same] at counted
    exact agree vote counted approves
  · exact tallied.agree proposalId listed found vote counted approves

theorem sound_handleProposal (tallied : state.Tallied about received) {proposal : WireProposal}
    (agree : ∀ vote ∈ state.votesFor proposal.proposalId, vote.approve = true →
      (about vote).content = proposal.content) (verifiedSigner : Option NodeId) :
    Sound about quorum state received (state.handleProposal sha256 config proposal verifiedSigner) := by
  have held := tallied.hold agree
  unfold handleProposal
  split
  · exact tallied.quiet rfl
  split
  · exact tallied.quiet rfl
  split
  · exact tallied.quiet rfl
  dsimp only
  split
  · apply Tallied.sound
    · exact held.congr rfl rfl rfl
    · rfl
    · intro fin listed
      cases List.mem_singleton.1 listed
    · intro fin deliverySeq listed
      cases List.mem_singleton.1 listed
  · apply Tallied.quiet
    · exact held.congr rfl rfl rfl
    · rfl

theorem Tallied.count (tallied : state.Tallied about received) {vote : WireAttestation}
    (heard : vote ∈ received) (seated : vote.attestorId ∈ state.committee)
    (fresh : ∀ earlier ∈ state.votesFor vote.proposalId, earlier.attestorId ≠ vote.attestorId)
    (agree : vote.approve = true → ∀ proposal ∈ state.pendingProposals.get? vote.proposalId,
      (about vote).content = proposal.content) :
    { state with attestations := BTree.push state.attestations vote.proposalId vote }.Tallied about received := by
  have counted : ∀ proposalId,
      { state with attestations := BTree.push state.attestations vote.proposalId vote }.votesFor proposalId =
        if vote.proposalId = proposalId then state.votesFor proposalId ++ [vote]
        else state.votesFor proposalId := by
    intro proposalId
    exact BTree.getD_push state.attestations vote.proposalId proposalId vote
  constructor
  · intro proposalId other listed
    rw [counted] at listed
    split at listed
    · rcases List.mem_append.1 listed with earlier | last
      · exact tallied.members proposalId other earlier
      · rw [List.mem_singleton.1 last]
        exact ⟨heard, seated⟩
    · exact tallied.members proposalId other listed
  · intro proposalId
    rw [counted]
    split
    · rename_i same
      rw [List.map_append, List.nodup_append]
      refine ⟨tallied.distinct proposalId, List.nodup_singleton _, ?_⟩
      intro earlier listed last newest
      obtain ⟨other, voted, rfl⟩ := List.mem_map.1 listed
      rw [List.map_singleton, List.mem_singleton] at newest
      rw [newest]
      rw [← same] at voted
      exact fresh other voted
    · exact tallied.distinct proposalId
  · intro proposalId proposal held other listed approves
    rw [counted] at listed
    split at listed
    · rename_i same
      rcases List.mem_append.1 listed with earlier | last
      · exact tallied.agree proposalId proposal held other earlier approves
      · rw [List.mem_singleton.1 last] at approves ⊢
        rw [← same] at held
        exact agree approves proposal held
    · exact tallied.agree proposalId proposal held other listed approves

theorem sound_handleAttestation (tallied : state.Tallied about received) {vote : WireAttestation}
    {verifiedSigner : Option NodeId}
    (heard : ¬ spoofed verifiedSigner vote.attestorId = true → vote ∈ received)
    (agree : vote.approve = true → ∀ proposal ∈ state.pendingProposals.get? vote.proposalId,
      (about vote).content = proposal.content) :
    Sound about config.quorumThreshold state received
      (state.handleAttestation sha256 config vote verifiedSigner) := by
  unfold handleAttestation
  split
  · exact tallied.quiet rfl
  rename_i genuine
  split
  · exact tallied.quiet rfl
  rename_i seated
  split
  · exact tallied.quiet rfl
  rename_i fresh
  have tally := tallied.count (heard genuine) (not_not.1 seated) (by
    intro earlier listed same
    exact fresh (List.any_eq_true.2 ⟨earlier, listed, decide_eq_true same⟩)) agree
  dsimp only
  split
  · rename_i reached
    cases held : state.pendingProposals.get? vote.proposalId with
    | none => exact tally.quiet rfl
    | some proposal =>
        dsimp only
        split
        · exact tally.quiet rfl
        · apply sound_recordFinalized tally
          · rfl
          · exact tally.backed reached.2 held rfl
          · intro output listed
            exact ⟨_, List.mem_singleton.1 listed⟩
  · exact tally.quiet rfl

/-- The members whose votes are on record keep their seats. -/
def KeepsVoters (state : NodeState) (committee : List NodeId) : Prop :=
  ∀ entry ∈ state.attestations.toList, ∀ vote ∈ entry.2, vote.attestorId ∈ committee

theorem Tallied.reseat (tallied : state.Tallied about received) {after : NodeState}
    (keeps : state.KeepsVoters after.committee) (votes : after.attestations = state.attestations)
    (pending : after.pendingProposals = state.pendingProposals) : after.Tallied about received := by
  have seated : { state with committee := after.committee }.Tallied about received := by
    refine ⟨?_, tallied.distinct, tallied.agree⟩
    intro proposalId vote counted
    refine ⟨(tallied.members proposalId vote counted).1, ?_⟩
    cases found : state.attestations[proposalId]? with
    | none =>
        change vote ∈ state.attestations[proposalId]?.getD [] at counted
        rw [found] at counted
        cases counted
    | some listed =>
        change vote ∈ state.attestations[proposalId]?.getD [] at counted
        rw [found] at counted
        exact keeps _ (Std.ExtTreeMap.mem_toList_iff_getElem?_eq_some.2 found) vote counted
  exact seated.congr votes pending rfl

theorem sound_handleImportSnapshot (tallied : state.Tallied about received) {newCommittee : List NodeId}
    (keeps : newCommittee ≠ [] → state.KeepsVoters newCommittee) (snapshotEpoch : U64) :
    Sound about quorum state received
      (state.handleImportSnapshot sha256 config snapshotEpoch newCommittee) := by
  unfold handleImportSnapshot
  split
  · exact tallied.quiet rfl
  · rename_i many
    dsimp only
    apply Tallied.sound
    · exact tallied.reseat (keeps (by rwa [List.isEmpty_iff] at many)) rfl rfl
    · rfl
    · intro fin listed
      split at listed
      · cases List.mem_singleton.1 listed
      · cases listed
    · intro fin deliverySeq listed
      split at listed
      · cases List.mem_singleton.1 listed
      · cases listed

theorem mem_of_electLeader {epoch slot : U64} {committee : List NodeId} {leader : NodeId}
    (elected : electLeader sha256 epoch slot committee = some leader) : leader ∈ committee := by
  unfold electLeader at elected
  split at elected
  · cases elected
  · exact (List.mem_insertionSort _).1 (List.mem_of_getElem? elected)

theorem votesFor_atNextSlot (proposalId : Bytes32) :
    (state.atNextSlot sha256 config).votesFor proposalId = [] := by
  show (∅ : BTreeMap Bytes32 (List WireAttestation))[proposalId]?.getD [] = []
  rw [Std.ExtTreeMap.getElem?_empty]
  rfl

theorem Tallied.unvoted (none : ∀ proposalId, state.votesFor proposalId = []) :
    state.Tallied about received := by
  constructor
  · intro proposalId vote counted
    rw [none] at counted
    cases counted
  · intro proposalId
    rw [none]
    exact List.nodup_nil
  · intro proposalId proposal held vote counted
    rw [none] at counted
    cases counted

theorem Tallied.propose (tallied : state.Tallied about received)
    (unvoted : ∀ proposalId, state.votesFor proposalId = []) (seated : config.nodeId ∈ state.committee)
    (heard : attestationFor sha256 config.nodeId (state.ownProposal sha256 config) ∈ received)
    (own : (about (attestationFor sha256 config.nodeId (state.ownProposal sha256 config))).content =
      (state.ownProposal sha256 config).content) :
    (state.propose sha256 config).Tallied about received := by
  have held := @Tallied.hold about state received tallied (state.ownProposal sha256 config) (by
    intro vote counted
    rw [unvoted] at counted
    cases counted)
  have counted := held.count heard seated (by
    intro earlier listed
    change earlier ∈ state.votesFor _ at listed
    rw [unvoted] at listed
    cases listed) (by
    intro approves proposal found
    rw [Option.mem_def, KeyedMap.get?_insert] at found
    split at found
    · rw [own, Option.some.inj found]
    · rename_i different
      exact absurd rfl different)
  exact counted.congr rfl rfl rfl

theorem sound_advanceSlot (heard : ∀ vote ∈ state.ownVote sha256 config, vote ∈ received)
    (own : ∀ vote ∈ state.ownVote sha256 config,
      (about vote).content = ((state.atNextSlot sha256 config).ownProposal sha256 config).content)
    (peerCount : Nat) :
    Sound about quorum state received (state.advanceSlot sha256 config peerCount) := by
  unfold advanceSlot
  dsimp only
  split
  · rename_i leads
    apply Tallied.sound
    · have voted : attestationFor sha256 config.nodeId
          ((state.atNextSlot sha256 config).ownProposal sha256 config) ∈ state.ownVote sha256 config :=
        if_pos leads.1
      exact (Tallied.unvoted votesFor_atNextSlot).propose votesFor_atNextSlot (mem_of_electLeader leads.1) (heard _ voted)
        (own _ voted)
    · rfl
    · intro fin listed
      split at listed
      · cases listed
      · cases List.mem_singleton.1 listed
    · intro fin deliverySeq listed
      split at listed
      · cases listed
      · cases List.mem_singleton.1 listed
  · exact (Tallied.unvoted votesFor_atNextSlot).quiet rfl

theorem sound_dispatchLeaves (tallied : state.Tallied about received) (hotstuff : HotStuffEngine)
    {leaves : List HotStuffOutput} (undecided : ∀ block, .finalize block ∉ leaves) :
    Sound about quorum state received (state.dispatchLeaves hotstuff leaves) := by
  induction leaves with
  | nil => exact tallied.quiet rfl
  | cons leaf leaves ih =>
      have rest := ih (fun block listed => undecided block (List.mem_cons_of_mem _ listed))
      have here : (state.dispatchLeaf hotstuff leaf).1 = state ∧
          ∀ output ∈ (state.dispatchLeaf hotstuff leaf).2, ∃ msg, output = .broadcast msg := by
        cases leaf with
        | finalize block => exact absurd List.mem_cons_self (undecided block)
        | _ => exact ⟨rfl, by intro output listed; simp [dispatchLeaf] at listed <;> exact ⟨_, listed⟩⟩
      rw [dispatchLeaves_cons, here.1]
      refine ⟨rest.tallied, ?_⟩
      intro fin final
      apply rest.backed fin
      rcases final with stored | written | ⟨deliverySeq, delivered⟩
      · exact Or.inl stored
      · rcases List.mem_append.1 written with sent | later
        · obtain ⟨msg, broadcast⟩ := here.2 _ sent
          cases broadcast
        · exact Or.inr (Or.inl later)
      · rcases List.mem_append.1 delivered with sent | later
        · obtain ⟨msg, broadcast⟩ := here.2 _ sent
          cases broadcast
        · exact Or.inr (Or.inr ⟨deliverySeq, later⟩)

end NodeState

namespace NetworkedNode

variable (sha256 : Sha256) (about : WireAttestation → WireProposal)

/-- The attestations that an event brings to the node: one that is not spoofed, or the leader's own. -/
def hears (node : NetworkedNode) : NodeEvent → List WireAttestation
  | .message (.attestation vote) verifiedSigner => if spoofed verifiedSigner vote.attestorId then [] else [vote]
  | .nextSlot _ => (node.state.ownVote sha256 node.config).toList
  | _ => []

def Finalizes (node : NetworkedNode) (event : NodeEvent) (fin : WireFinalized) : Prop :=
  node.state.Finalizes ((node.step sha256 event).state, (node.handle sha256 event).2) fin

abbrev Witnessed := NetworkedNode × List WireAttestation

def witness (trace : Witnessed) (event : NodeEvent) : Witnessed :=
  (trace.1.step sha256 event, trace.2 ++ trace.1.hears sha256 event)

def FinalityBacked (trace : Witnessed) (event : NodeEvent) : Prop :=
  ∀ fin, trace.1.Finalizes sha256 event fin →
    Backed about trace.1.config.quorumThreshold trace.1.state.committee
      (trace.2 ++ trace.1.hears sha256 event) fin

/-- A batch from a peer is one that the node has counted a quorum for; votes and proposals that meet
under one id agree in content; and a new committee keeps the voters on record. -/
def Vouched (node : NetworkedNode) : NodeEvent → Prop
  | .message (.proposal proposal) _ => ∀ vote ∈ node.state.votesFor proposal.proposalId,
      vote.approve = true → (about vote).content = proposal.content
  | .message (.attestation vote) _ => vote.approve = true →
      ∀ proposal ∈ node.state.pendingProposals.get? vote.proposalId, (about vote).content = proposal.content
  | .message (.finalized fin) _ => node.state.Supports node.config.quorumThreshold fin
  | .message (.syncResponse resp) _ => ∀ fin ∈ resp.batch,
      node.state.Supports node.config.quorumThreshold fin
  | .message (.epochAnnounce ann) _ => node.state.KeepsVoters ann.committeeMembers
  | .message (.hotStuffBlock block) _ => (node.hotstuff.onBlock block).2.finals = []
  | .message (.hotStuffVote vote) _ => (node.hotstuff.onVote vote).2.finals = []
  | .message (.hotStuffQC qc) _ => (node.hotstuff.onQc qc).2.finals = []
  | .message (.hotStuffNewView nv) _ => (node.hotstuff.onNewView nv).2.finals = []
  | .message (.other _ _) _ => True
  | .nextSlot _ => ∀ vote ∈ node.state.ownVote sha256 node.config, (about vote).content =
      ((node.state.atNextSlot sha256 node.config).ownProposal sha256 node.config).content
  | .importSnapshot _ newCommittee => newCommittee ≠ [] → node.state.KeepsVoters newCommittee

variable {sha256 about} {node : NetworkedNode} {received : List WireAttestation}

theorem sound_dispatchHotstuffOutput (tallied : node.state.Tallied about received)
    {result : HotStuffEngine × HotStuffOutput} (none : result.2.finals = []) :
    NodeState.Sound about node.config.quorumThreshold node.state received
      ((node.dispatchHotstuffOutput result).1.state, (node.dispatchHotstuffOutput result).2) := by
  apply NodeState.sound_dispatchLeaves tallied
  intro block listed
  have final := HotStuffOutput.mem_finals.2 (List.mem_reverse.1 listed)
  rw [none] at final
  cases final

theorem sound_dispatch {msg : PoSeqMessage} {verifiedSigner : Option NodeId}
    (tallied : node.state.Tallied about received)
    (heard : ∀ vote ∈ node.hears sha256 (.message msg verifiedSigner), vote ∈ received)
    (vouched : node.Vouched sha256 about (.message msg verifiedSigner)) :
    NodeState.Sound about node.config.quorumThreshold node.state received
      ((node.dispatch sha256 msg verifiedSigner).1.state, (node.dispatch sha256 msg verifiedSigner).2) := by
  cases msg with
  | proposal proposal => exact NodeState.sound_handleProposal tallied vouched verifiedSigner
  | attestation vote =>
      apply NodeState.sound_handleAttestation tallied _ vouched
      intro genuine
      apply heard
      rw [hears, if_neg genuine]
      exact List.mem_singleton.2 rfl
  | finalized fin => exact NodeState.sound_handleFinalized tallied vouched verifiedSigner
  | syncResponse resp => exact NodeState.sound_handleSyncResponse tallied vouched
  | epochAnnounce ann =>
      apply NodeState.Tallied.quiet
      · exact tallied.reseat vouched rfl rfl
      · rfl
  | hotStuffBlock block => exact sound_dispatchHotstuffOutput tallied vouched
  | hotStuffVote vote => exact sound_dispatchHotstuffOutput tallied vouched
  | hotStuffQC qc => exact sound_dispatchHotstuffOutput tallied vouched
  | hotStuffNewView nv => exact sound_dispatchHotstuffOutput tallied vouched
  | other kind fields => exact tallied.quiet rfl

theorem sound_step {event : NodeEvent} (tallied : node.state.Tallied about received)
    (vouched : node.Vouched sha256 about event) :
    NodeState.Sound about node.config.quorumThreshold node.state (received ++ node.hears sha256 event)
      ((node.step sha256 event).state, (node.handle sha256 event).2) := by
  have tallied : node.state.Tallied about (received ++ node.hears sha256 event) :=
    tallied.mono fun _ listed => List.mem_append_left _ listed
  have heard : ∀ vote ∈ node.hears sha256 event, vote ∈ received ++ node.hears sha256 event :=
    fun _ listed => List.mem_append_right _ listed
  cases event with
  | message msg verifiedSigner =>
      unfold step handle handleMessage
      dsimp only
      cases node.peerManager.isDuplicate sha256 msg with
      | none => exact tallied.quiet rfl
      | some peerManager =>
          have offered : { node with peerManager }.Vouched sha256 about (.message msg verifiedSigner) := by
            cases msg <;> exact vouched
          have listened : ∀ vote ∈ { node with peerManager }.hears sha256 (.message msg verifiedSigner),
              vote ∈ received ++ node.hears sha256 (.message msg verifiedSigner) := by
            cases msg <;> exact heard
          exact @sound_dispatch sha256 about { node with peerManager } _ msg verifiedSigner tallied listened
            offered
  | nextSlot peerCount =>
      apply NodeState.sound_advanceSlot _ vouched
      intro vote own
      exact heard vote (Option.mem_toList.2 own)
  | importSnapshot snapshotEpoch newCommittee =>
      exact NodeState.sound_handleImportSnapshot tallied vouched snapshotEpoch

theorem backed_run {run : List NodeEvent} (tallied : node.state.Tallied about received)
    (vouched : Run.Along (step sha256) (Vouched sha256 about) node run) :
    Run.Along (witness sha256) (FinalityBacked sha256 about) (node, received) run := by
  induction run generalizing node received with
  | nil => trivial
  | cons event rest ih =>
      have sound := sound_step tallied vouched.1
      exact ⟨sound.backed, ih sound.tallied vouched.2⟩

theorem tallied_bind (config : NodeConfig) (committee : List NodeId) (latestFinalized : Option Bytes32) :
    (bind config committee latestFinalized).state.Tallied about [] := by
  have unvoted : ∀ proposalId, (bind config committee latestFinalized).state.votesFor proposalId = [] := by
    intro proposalId
    show (∅ : BTreeMap Bytes32 (List WireAttestation))[proposalId]?.getD [] = []
    rw [Std.ExtTreeMap.getElem?_empty]
    rfl
  exact .unvoted unvoted

end NetworkedNode

section Slots

/-! Node 7 leads slot 1, where node 9 supplies the second vote. -/

def slotOneId : Bytes32 := 0x8bab70191d1de747e4b33c71b67a06e7fde82d79e41cdb9b2b9bd3c8057b32cf

def slotOneProposal : WireProposal :=
  { proposalId := slotOneId, slot := 1, epoch := 0, leaderId := 7, batchRoot := 0, parentBatchId := 0
    orderedSubmissionIds := [], policyVersion := 1, createdAtHeight := 1 }

def slotsDigest : Sha256 := fun bytes =>
  match bytes.length with
  | 80 => 0xbe55201d4fb6ee42d152d73b97c98c35ef72d1a5315e47b6e651ec2236460715
  | 86 => slotOneId
  | 76 => 0xe10ccd30317be18700655e5a7210652256214ffea6e21af66e635fee00b7f81d
  | 120 => 0x70c677a5d573ff53c0d0169aa6bea0f85de84825ce7ce76f9b7319cc352fe3f4
  | _ => 0x32deea044046bfd77a26224042fac16a24a178d5810ad7763261023dceaadb28

def slotOne : List NodeEvent :=
  [.nextSlot 1, .message (.attestation (NodeState.attestationFor slotsDigest 9 slotOneProposal)) (some 9)]

def strayBatch : WireFinalized :=
  { batchId := 0xdfc4c5ea34ad3e3961b34d273984f3adb98b60a152f8c49dec9b2bbc23dd65df
    proposalId := 0xdfc4c5ea34ad3e3961b34d273984f3adb98b60a152f8c49dec9b2bbc23dd65df
    slot := 2, epoch := 0, leaderId := 9, batchRoot := 1, orderedSubmissionIds := [5], approvals := 2
    committeeSize := 2, finalizationHash := 0 }

end Slots

end Omniphi.PoSeq
