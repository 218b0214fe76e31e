import Omniphi.PoSeq.Node

/-! The attestations that a node gives over a run, and the memory that keeps it from attesting
twice in one slot. -/

namespace Omniphi.PoSeq

open HotStuff (NodeId HotStuffOutput HotStuffEngine)

def OncePerSlot (votes : List WireAttestation) : Prop :=
  ∀ one ∈ votes, ∀ other ∈ votes, one.slot = other.slot → one.epoch = other.epoch →
    one.proposalId = other.proposalId

def attestationsIn (outputs : List NodeOutput) : List WireAttestation :=
  outputs.filterMap fun
    | .broadcast (.attestation vote) => some vote
    | _ => none

theorem attestationsIn_append (one other : List NodeOutput) :
    attestationsIn (one ++ other) = attestationsIn one ++ attestationsIn other :=
  List.filterMap_append

namespace NodeState

/-- Every vote given is on record under its proposal, or is old enough for the record to go. -/
structure Recorded (state : NodeState) (given : List WireAttestation) : Prop where
  kept : ∀ vote ∈ given, state.attestedProposals[vote.proposalId]? = some (vote.slot, vote.epoch) ∨
    ¬ state.currentEpoch ≤ vote.epoch + 1
  once : OncePerSlot given

variable {sha256 : Sha256} {config : NodeConfig} {state : NodeState} {given : List WireAttestation}

theorem Recorded.later {after : NodeState} (recorded : state.Recorded given)
    (same : after.attestedProposals = state.attestedProposals)
    (onward : state.currentEpoch ≤ after.currentEpoch) : after.Recorded given := by
  refine ⟨?_, recorded.once⟩
  intro vote listed
  rw [same]
  apply (recorded.kept vote listed).imp_right
  intro old recent
  exact old (BitVec.le_trans onward recent)

theorem getElem?_pruneAttested (proposalId : Bytes32) :
    state.pruneAttested.attestedProposals[proposalId]? =
      state.attestedProposals[proposalId]?.filter fun voted =>
        decide (state.currentEpoch ≤ voted.2 + 1) :=
  Std.ExtTreeMap.getElem?_filter'

theorem Recorded.prune (recorded : state.Recorded given) : state.pruneAttested.Recorded given := by
  refine ⟨?_, recorded.once⟩
  intro vote listed
  by_cases recent : state.currentEpoch ≤ vote.epoch + 1
  · left
    have found := (recorded.kept vote listed).resolve_right (not_not_intro recent)
    rw [getElem?_pruneAttested, found]
    exact Option.filter_some_pos (by simpa using recent)
  · exact Or.inr recent

theorem Recorded.join (recorded : state.Recorded given) (vote : WireAttestation)
    (recent : state.currentEpoch ≤ vote.epoch + 1)
    (free : ∀ proposalId, state.attestedProposals[proposalId]? = some (vote.slot, vote.epoch) →
      proposalId = vote.proposalId)
    (own : ∀ voted, state.attestedProposals[vote.proposalId]? = some voted → voted = (vote.slot, vote.epoch))
    {after : NodeState}
    (noted : after.attestedProposals =
      state.attestedProposals.insert vote.proposalId (vote.slot, vote.epoch))
    (stays : after.currentEpoch = state.currentEpoch) : after.Recorded (given ++ [vote]) := by
  have meets : ∀ earlier ∈ given, earlier.slot = vote.slot → earlier.epoch = vote.epoch →
      earlier.proposalId = vote.proposalId := by
    intro earlier listed sameSlot sameEpoch
    apply free
    rw [← sameSlot, ← sameEpoch]
    apply (recorded.kept earlier listed).resolve_right
    rw [sameEpoch]
    exact not_not_intro recent
  constructor
  · intro earlier listed
    rw [noted, stays, BTree.getElem?_insert]
    rcases List.mem_append.1 listed with before | last
    · split
      · rename_i same
        apply (recorded.kept earlier before).imp_left
        intro found
        rw [← same] at found
        rw [own _ found]
      · exact recorded.kept earlier before
    · rw [List.mem_singleton.1 last]
      exact Or.inl (if_pos rfl)
  · intro one oneListed other otherListed sameSlot sameEpoch
    rcases List.mem_append.1 oneListed with oneBefore | oneLast
    · rcases List.mem_append.1 otherListed with otherBefore | otherLast
      · exact recorded.once one oneBefore other otherBefore sameSlot sameEpoch
      · rw [List.mem_singleton.1 otherLast] at sameSlot sameEpoch ⊢
        exact meets one oneBefore sameSlot sameEpoch
    · rw [List.mem_singleton.1 oneLast] at sameSlot sameEpoch ⊢
      rcases List.mem_append.1 otherListed with otherBefore | otherLast
      · exact (meets other otherBefore sameSlot.symm sameEpoch.symm).symm
      · rw [List.mem_singleton.1 otherLast]

theorem of_not_alreadyVotedSlot {slot epoch : U64} (fresh : state.alreadyVotedSlot slot epoch = false)
    {proposalId : Bytes32} (found : state.attestedProposals[proposalId]? = some (slot, epoch)) : False := by
  have listed := Std.ExtTreeMap.mem_toList_iff_getElem?_eq_some.2 found
  have absent := List.any_eq_false.1 fresh _ listed
  simp at absent

structure Silent (state : NodeState) (result : NodeState × List NodeOutput) : Prop where
  record : result.1.attestedProposals = state.attestedProposals
  epoch : result.1.currentEpoch = state.currentEpoch
  votes : attestationsIn result.2 = []

theorem Recorded.silent {result : NodeState × List NodeOutput} (recorded : state.Recorded given)
    (silent : Silent state result) : result.1.Recorded (given ++ attestationsIn result.2) := by
  rw [silent.votes, List.append_nil]
  apply recorded.later silent.record
  rw [silent.epoch]
  exact BitVec.le_refl _

theorem silent_refl : Silent state (state, []) := ⟨rfl, rfl, rfl⟩

theorem silent_handleAttestation (vote : WireAttestation) (verifiedSigner : Option NodeId) :
    Silent state (state.handleAttestation sha256 config vote verifiedSigner) := by
  unfold handleAttestation
  split
  · exact ⟨rfl, rfl, rfl⟩
  split
  · exact ⟨rfl, rfl, rfl⟩
  split
  · exact ⟨rfl, rfl, rfl⟩
  dsimp only
  split
  · split
    · exact ⟨rfl, rfl, rfl⟩
    · split
      · exact ⟨rfl, rfl, rfl⟩
      · exact ⟨rfl, rfl, rfl⟩
  · exact ⟨rfl, rfl, rfl⟩

theorem silent_handleFinalized (fin : WireFinalized) (verifiedSigner : Option NodeId) :
    Silent state (state.handleFinalized fin verifiedSigner) := by
  unfold handleFinalized
  split
  · exact ⟨rfl, rfl, rfl⟩
  split
  · exact ⟨rfl, rfl, rfl⟩
  · exact ⟨rfl, rfl, rfl⟩

theorem silent_handleSyncResponse (resp : WireSyncResponse) :
    Silent state (state.handleSyncResponse resp, []) := by
  unfold handleSyncResponse
  split
  · exact ⟨rfl, rfl, rfl⟩
  · split
    · exact ⟨rfl, rfl, rfl⟩
    · exact ⟨rfl, rfl, rfl⟩

theorem silent_handleImportSnapshot (snapshotEpoch : U64) (newCommittee : List NodeId) :
    Silent state (state.handleImportSnapshot sha256 config snapshotEpoch newCommittee) := by
  unfold handleImportSnapshot
  split
  · exact ⟨rfl, rfl, rfl⟩
  · refine ⟨rfl, rfl, ?_⟩
    dsimp only
    split
    · rfl
    · rfl

theorem silent_dispatchLeaves (hotstuff : HotStuffEngine) (leaves : List HotStuffOutput) :
    Silent state (state.dispatchLeaves hotstuff leaves) := by
  induction leaves generalizing state with
  | nil => exact ⟨rfl, rfl, rfl⟩
  | cons leaf leaves ih =>
      have first : Silent state (state.dispatchLeaf hotstuff leaf) := by
        cases leaf <;> exact ⟨rfl, rfl, rfl⟩
      have rest := @ih (state.dispatchLeaf hotstuff leaf).1
      rw [dispatchLeaves_cons]
      refine ⟨rest.record.trans first.record, rest.epoch.trans first.epoch, ?_⟩
      rw [attestationsIn_append, first.votes, rest.votes, List.append_nil]

theorem recorded_handleProposal (recorded : state.Recorded given) {proposal : WireProposal}
    (recent : state.currentEpoch ≤ proposal.epoch + 1) (verifiedSigner : Option NodeId) :
    (state.handleProposal sha256 config proposal verifiedSigner).1.Recorded
      (given ++ attestationsIn (state.handleProposal sha256 config proposal verifiedSigner).2) := by
  have unheeded : state.Recorded (given ++ attestationsIn []) := by
    rw [attestationsIn, List.filterMap_nil, List.append_nil]
    exact recorded
  unfold handleProposal
  split
  · exact unheeded
  split
  · exact unheeded
  split
  · exact unheeded
  dsimp only
  have held : ({ state with pendingProposals := state.pendingProposals.insert proposal }).Recorded given :=
    recorded.later rfl (BitVec.le_refl _)
  have pruned := held.prune
  generalize earlier : { state with pendingProposals := state.pendingProposals.insert proposal } = received at pruned
  split
  · rename_i votes
    rw [Bool.and_eq_true, Bool.and_eq_true, Bool.not_eq_true', Bool.not_eq_true'] at votes
    obtain ⟨⟨-, fresh⟩, unseen⟩ := votes
    refine pruned.join (attestationFor sha256 config.nodeId proposal) ?_ ?_ ?_ rfl rfl
    · rw [← earlier]
      exact recent
    · intro proposalId found
      exact (of_not_alreadyVotedSlot fresh found).elim
    · intro voted found
      rw [Std.ExtTreeMap.contains_eq_isSome_getElem?] at unseen
      change received.pruneAttested.attestedProposals[proposal.proposalId]? = some voted at found
      rw [found] at unseen
      cases unseen
  · show received.pruneAttested.Recorded (given ++ attestationsIn [])
    rw [attestationsIn, List.filterMap_nil, List.append_nil]
    exact pruned

theorem currentEpoch_le_atNextSlot (early : state.currentEpoch.toNat + 2 < 2 ^ 64) :
    state.currentEpoch ≤ (state.atNextSlot sha256 config).currentEpoch ∧
      (state.atNextSlot sha256 config).currentEpoch ≤ (state.atNextSlot sha256 config).currentEpoch + 1 := by
  show state.currentEpoch ≤ (enterSlot config state).currentEpoch ∧
    (enterSlot config state).currentEpoch ≤ (enterSlot config state).currentEpoch + 1
  unfold enterSlot
  dsimp only
  split <;> constructor <;> bv_omega

theorem recorded_advanceSlot (recorded : state.Recorded given)
    (early : state.currentEpoch.toNat + 2 < 2 ^ 64)
    (clear : ∀ vote ∈ state.ownVote sha256 config, ∀ entry ∈ state.attestedProposals.toList,
      entry.1 = vote.proposalId ↔ entry.2 = (vote.slot, vote.epoch)) (peerCount : Nat) :
    (state.advanceSlot sha256 config peerCount).1.Recorded
      (given ++ (attestationsIn (state.advanceSlot sha256 config peerCount).2 ++
        (state.ownVote sha256 config).toList)) := by
  obtain ⟨onward, recent⟩ := @currentEpoch_le_atNextSlot sha256 config state early
  have moved : (state.atNextSlot sha256 config).Recorded given := recorded.later rfl onward
  have unsaid : attestationsIn (state.advanceSlot sha256 config peerCount).2 = [] := by
    unfold advanceSlot
    dsimp only
    split
    · split
      · rfl
      · rfl
    · rfl
  rw [unsaid, List.nil_append]
  unfold advanceSlot ownVote at *
  dsimp only at clear ⊢
  by_cases leads : (state.atNextSlot sha256 config).currentLeader = some config.nodeId
  · rw [if_pos leads] at clear ⊢
    rw [if_pos ⟨leads, rfl⟩, Option.toList_some]
    have onRecord : ∀ proposalId voted, (state.atNextSlot sha256 config).attestedProposals[proposalId]? =
        some voted → (proposalId, voted) ∈ state.attestedProposals.toList := by
      intro proposalId voted found
      exact Std.ExtTreeMap.mem_toList_iff_getElem?_eq_some.2 found
    refine moved.join _ ?_ ?_ ?_ rfl rfl
    · exact recent
    · intro proposalId found
      exact (clear _ rfl _ (onRecord _ _ found)).2 rfl
    · intro voted found
      exact (clear _ rfl _ (onRecord _ _ found)).1 rfl
  · rw [if_neg leads, Option.toList_none, List.append_nil, if_neg (not_and_of_not_left _ leads)]
    exact moved

end NodeState

namespace NetworkedNode

variable (sha256 : Sha256)

/-- The attestations that an event makes the node give: those it sends and, in a slot that it leads,
the one on its own proposal. -/
def attests (node : NetworkedNode) (event : NodeEvent) : List WireAttestation :=
  attestationsIn (node.handle sha256 event).2 ++
    match event with
    | .nextSlot _ => (node.state.ownVote sha256 node.config).toList
    | _ => []

def given (node : NetworkedNode) : List NodeEvent → List WireAttestation
  | [] => []
  | event :: rest => node.attests sha256 event ++ given (node.step sha256 event) rest

/-- The epoch never goes back, no proposal is of an epoch whose votes may be forgotten, and a leader
enters no slot in which it has voted for another proposal, nor one whose proposal id it has used. -/
def Timely (node : NetworkedNode) : NodeEvent → Prop
  | .message (.epochAnnounce ann) _ => node.state.currentEpoch ≤ ann.epoch
  | .message (.proposal proposal) _ => node.state.currentEpoch ≤ proposal.epoch + 1
  | .nextSlot _ => node.state.currentEpoch.toNat + 2 < 2 ^ 64 ∧
      ∀ vote ∈ node.state.ownVote sha256 node.config, ∀ entry ∈ node.state.attestedProposals.toList,
        entry.1 = vote.proposalId ↔ entry.2 = (vote.slot, vote.epoch)
  | _ => True

variable {sha256} {node : NetworkedNode} {votes : List WireAttestation}

theorem recorded_dispatch (recorded : node.state.Recorded votes) {msg : PoSeqMessage}
    {verifiedSigner : Option NodeId} (timely : node.Timely sha256 (.message msg verifiedSigner)) :
    (node.dispatch sha256 msg verifiedSigner).1.state.Recorded
      (votes ++ attestationsIn (node.dispatch sha256 msg verifiedSigner).2) := by
  cases msg with
  | proposal proposal => exact NodeState.recorded_handleProposal recorded timely verifiedSigner
  | attestation vote => exact recorded.silent (NodeState.silent_handleAttestation vote verifiedSigner)
  | finalized fin => exact recorded.silent (NodeState.silent_handleFinalized fin verifiedSigner)
  | syncResponse resp => exact recorded.silent (NodeState.silent_handleSyncResponse resp)
  | epochAnnounce ann =>
      show (node.state.handleEpochAnnounce node.config ann).Recorded (votes ++ [])
      rw [List.append_nil]
      exact recorded.later rfl timely
  | hotStuffBlock block => exact recorded.silent (NodeState.silent_dispatchLeaves _ _)
  | hotStuffVote vote => exact recorded.silent (NodeState.silent_dispatchLeaves _ _)
  | hotStuffQC qc => exact recorded.silent (NodeState.silent_dispatchLeaves _ _)
  | hotStuffNewView nv => exact recorded.silent (NodeState.silent_dispatchLeaves _ _)
  | other kind fields => exact recorded.silent NodeState.silent_refl

theorem recorded_step (recorded : node.state.Recorded votes) {event : NodeEvent}
    (timely : node.Timely sha256 event) :
    (node.step sha256 event).state.Recorded (votes ++ node.attests sha256 event) := by
  cases event with
  | message msg verifiedSigner =>
      show (node.handleMessage sha256 msg verifiedSigner).1.state.Recorded
        (votes ++ (attestationsIn (node.handleMessage sha256 msg verifiedSigner).2 ++ []))
      rw [List.append_nil]
      unfold handleMessage
      cases node.peerManager.isDuplicate sha256 msg with
      | none => exact recorded.silent NodeState.silent_refl
      | some peerManager =>
          have received : { node with peerManager }.Timely sha256 (.message msg verifiedSigner) := by
            cases msg <;> exact timely
          exact @recorded_dispatch sha256 { node with peerManager } votes recorded msg verifiedSigner received
  | nextSlot peerCount =>
      exact NodeState.recorded_advanceSlot recorded timely.1 timely.2 peerCount
  | importSnapshot snapshotEpoch newCommittee =>
      show (node.state.handleImportSnapshot sha256 node.config snapshotEpoch newCommittee).1.Recorded
        (votes ++ (attestationsIn _ ++ []))
      rw [List.append_nil]
      exact recorded.silent (NodeState.silent_handleImportSnapshot snapshotEpoch newCommittee)

theorem recorded_run (recorded : node.state.Recorded votes) {run : List NodeEvent}
    (timely : Run.Along (step sha256) (Timely sha256) node run) :
    OncePerSlot (votes ++ node.given sha256 run) := by
  induction run generalizing node votes with
  | nil =>
      rw [given, List.append_nil]
      exact recorded.once
  | cons event rest ih =>
      rw [given, ← List.append_assoc]
      exact ih (recorded_step recorded timely.1) timely.2

theorem recorded_bind (config : NodeConfig) (committee : List NodeId) (latestFinalized : Option Bytes32) :
    (bind config committee latestFinalized).state.Recorded [] := by
  constructor
  · intro vote listed
    cases listed
  · intro one listed
    cases listed

end NetworkedNode

section Rivals

/-! Node 9 leads slot 2 of epoch 0 and makes two proposals for it. -/

def rivalProposal (proposalId batchRoot : Bytes32) : WireProposal :=
  { proposalId, slot := 2, epoch := 0, leaderId := 9, batchRoot, parentBatchId := 0
    orderedSubmissionIds := [], policyVersion := 1, createdAtHeight := 2 }

def oneId : Bytes32 := 0xdfc4c5ea34ad3e3961b34d273984f3adb98b60a152f8c49dec9b2bbc23dd65df

def otherId : Bytes32 := 0xfdd05744b493d88c1f3298be27a2ffde7fe2f641dbf548154afea361a6099823

def rivalsDigest : Sha256 := fun bytes =>
  match bytes.length with
  | 80 => 0xf79859306ef4670944e0f30c10a8d38adf5b8a7d0753a2cde8de3d531206eeaa
  | 86 => if bytes.getLast? = some 1 then oneId else otherId
  | 53 =>
      if bytes[20]? = some 1 then 0xa74d1fc63570909a89c7f3809cd118cdbfa81ec76b7307598d7c601f17204d09
      else 0x969b434ed5365175e6f1559139886f0332142288e2a797386fe8c65e7bf3e6bd
  | _ =>
      if bytes[8]? = some 0xdf then 0x21c4a22d3f3d850b19e25bca73ece724571cb5d8ac51b3ae22065cd173675ba1
      else 0x3c27c8a8f579968535f0523e6b5970e5af516dbb5d9a8088f5363f797d539b8e

def rivals (announced : U64) : List NodeEvent :=
  [.message (.proposal (rivalProposal oneId 1)) (some 9),
    .message (.epochAnnounce { epoch := announced, committeeMembers := [7, 9], leaderId := 9, epochSeed := 0 })
      (some 9),
    .message (.proposal (rivalProposal otherId 2)) (some 9)]

end Rivals

end Omniphi.PoSeq
