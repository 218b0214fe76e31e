import Omniphi.PoSeq.Messages
import Omniphi.Lib.KeyedMap
import Omniphi.Lib.Run

/-! The protocol state of one networked PoSeq node and its event loop. -/

namespace Omniphi.PoSeq

open HotStuff (NodeId HotStuffBlock HotStuffOutput HotStuffEngine)

structure NodeConfig where
  nodeId : NodeId
  quorumThreshold : Nat
  slotDurationMs : U64
  slotsPerEpoch : U64

structure NodeState where
  currentEpoch : U64
  currentSlot : U64
  currentLeader : Option NodeId
  committee : List NodeId
  pendingProposals : KeyedMap WireProposal.proposalId
  attestations : BTreeMap Bytes32 (List WireAttestation)
  finalizedBatches : KeyedMap WireFinalized.batchId
  latestFinalized : Option Bytes32
  proposedThisSlot : Bool
  attestedProposals : BTreeMap Bytes32 (U64 × U64)
  inCommittee : Bool
  deliverySeq : U64

/-- What the node sends, writes to its durable store or hands to the runtime. -/
inductive NodeOutput
  | broadcast (msg : PoSeqMessage)
  | putFinalized (fin : WireFinalized)
  | deliver (fin : WireFinalized) (deliverySeq : U64)

/-- A message counts as spoofed when it was verified against another identity than the one it
names. Without verification every name is accepted. -/
def spoofed (verifiedSigner : Option NodeId) (named : NodeId) : Bool :=
  verifiedSigner.any fun signer => decide (named ≠ signer)

namespace NodeState

def new : NodeState :=
  { currentEpoch := 0, currentSlot := 0, currentLeader := none, committee := []
    pendingProposals := .empty, attestations := ∅, finalizedBatches := .empty, latestFinalized := none
    proposedThisSlot := false, attestedProposals := ∅, inCommittee := false, deliverySeq := 0 }

variable (sha256 : Sha256)

def electLeader (epoch slot : U64) (committee : List NodeId) : Option NodeId :=
  if committee.isEmpty then none
  else
    let sorted := committee.insertionSort (· ≤ ·)
    let seed := sha256 (beBytes 8 epoch ++ beBytes 8 slot ++ sorted.flatMap (beBytes 32))
    sorted[(seed.toNat >>> 192) % sorted.length]?

def votesFor (state : NodeState) (proposalId : Bytes32) : List WireAttestation :=
  state.attestations[proposalId]?.getD []

def approvals (state : NodeState) (proposalId : Bytes32) : Nat :=
  ((state.votesFor proposalId).filter WireAttestation.approve).length

def quorumReached (state : NodeState) (proposalId : Bytes32) (threshold : Nat) : Bool :=
  threshold ≤ state.approvals proposalId

def computeFinalizationHash (proposal : WireProposal) (approvals : Nat) : Bytes32 :=
  sha256 (beBytes 32 proposal.proposalId ++ beBytes 8 proposal.slot ++ beBytes 8 proposal.epoch ++
    beBytes 32 proposal.leaderId ++ beBytes 32 proposal.batchRoot ++ beBytes 8 (BitVec.ofNat 64 approvals))

def computeBatchId (proposal : WireProposal) : Bytes32 :=
  sha256 (strBytes "batch:" ++ beBytes 8 proposal.slot ++ beBytes 8 proposal.epoch ++
    beBytes 32 proposal.leaderId ++ beBytes 32 proposal.batchRoot)

def attestationFor (attestorId : NodeId) (proposal : WireProposal) : WireAttestation :=
  { attestorId, proposalId := proposal.proposalId
    batchIdAttested := computeBatchId sha256 proposal
    approve := true, epoch := proposal.epoch, slot := proposal.slot }

/-! The handlers of the single messages. -/

def handleEpochAnnounce (config : NodeConfig) (state : NodeState) (ann : WireEpochAnnounce) : NodeState :=
  { state with
    currentEpoch := ann.epoch
    committee := ann.committeeMembers
    currentLeader := some ann.leaderId
    inCommittee := config.nodeId ∈ ann.committeeMembers }

-- The sum wraps, so that an entry of the last epoch is kept only in epoch 0.
def pruneAttested (state : NodeState) : NodeState :=
  { state with attestedProposals :=
      state.attestedProposals.filter fun _ voted => decide (state.currentEpoch ≤ voted.2 + 1) }

def alreadyVotedSlot (state : NodeState) (slot epoch : U64) : Bool :=
  state.attestedProposals.toList.any fun entry => decide (entry.2.1 = slot ∧ entry.2.2 = epoch)

def handleProposal (config : NodeConfig) (state : NodeState) (proposal : WireProposal)
    (verifiedSigner : Option NodeId) : NodeState × List NodeOutput :=
  if spoofed verifiedSigner proposal.leaderId then (state, [])
  else if some proposal.leaderId ≠ electLeader sha256 proposal.epoch proposal.slot state.committee then
    (state, [])
  else if ¬ proposal.orderedSubmissionIds.Nodup then (state, [])
  else
    let state := { state with pendingProposals := state.pendingProposals.insert proposal }
    let state := state.pruneAttested
    if state.inCommittee && !state.alreadyVotedSlot proposal.slot proposal.epoch &&
        !state.attestedProposals.contains proposal.proposalId then
      ({ state with attestedProposals :=
          state.attestedProposals.insert proposal.proposalId (proposal.slot, proposal.epoch) },
        [.broadcast (.attestation (attestationFor sha256 config.nodeId proposal))])
    else (state, [])

def finalizedFrom (state : NodeState) (proposal : WireProposal) (approvals : Nat) : WireFinalized :=
  { batchId := computeBatchId sha256 proposal
    proposalId := proposal.proposalId
    slot := proposal.slot
    epoch := proposal.epoch
    leaderId := proposal.leaderId
    batchRoot := proposal.batchRoot
    orderedSubmissionIds := proposal.orderedSubmissionIds
    approvals
    committeeSize := state.committee.length
    finalizationHash := computeFinalizationHash sha256 proposal approvals }

def recordFinalized (state : NodeState) (fin : WireFinalized) : NodeState × List NodeOutput :=
  ({ state with
      finalizedBatches := state.finalizedBatches.insert fin
      latestFinalized := some fin.batchId
      deliverySeq := state.deliverySeq + 1 },
    [.putFinalized fin, .deliver fin state.deliverySeq])

def handleAttestation (config : NodeConfig) (state : NodeState) (vote : WireAttestation)
    (verifiedSigner : Option NodeId) : NodeState × List NodeOutput :=
  if spoofed verifiedSigner vote.attestorId then (state, [])
  else if vote.attestorId ∉ state.committee then (state, [])
  else if (state.votesFor vote.proposalId).any fun v => decide (v.attestorId = vote.attestorId) then
    (state, [])
  else
    let state := { state with attestations := BTree.push state.attestations vote.proposalId vote }
    let approvals := state.approvals vote.proposalId
    if state.currentLeader = some config.nodeId ∧ config.quorumThreshold ≤ approvals then
      match state.pendingProposals.get? vote.proposalId with
      | none => (state, [])
      | some proposal =>
          let finalized := state.finalizedFrom sha256 proposal approvals
          if state.finalizedBatches.contains finalized.batchId then (state, [])
          else
            let (state, outputs) := state.recordFinalized finalized
            (state, outputs ++ [.broadcast (.finalized finalized)])
    else (state, [])

def handleFinalized (state : NodeState) (fin : WireFinalized) (verifiedSigner : Option NodeId) :
    NodeState × List NodeOutput :=
  if spoofed verifiedSigner fin.leaderId then (state, [])
  else if state.finalizedBatches.contains fin.batchId then (state, [])
  else state.recordFinalized fin

def handleSyncResponse (state : NodeState) (resp : WireSyncResponse) : NodeState :=
  match resp.batch with
  | none => state
  | some finalized =>
      if state.finalizedBatches.contains finalized.batchId then state
      else
        { state with
          latestFinalized := some finalized.batchId
          finalizedBatches := state.finalizedBatches.insert finalized }

/-! Slots and committees. -/

def crossesEpoch (config : NodeConfig) (slot : U64) : Bool :=
  let slotsPerEpoch := if config.slotsPerEpoch < 1 then 1 else config.slotsPerEpoch
  decide (0 < slot ∧ slot % slotsPerEpoch = 0)

def enterSlot (config : NodeConfig) (state : NodeState) : NodeState :=
  let slot := state.currentSlot + 1
  { state with
    currentSlot := slot
    proposedThisSlot := false
    pendingProposals := .empty
    attestations := ∅
    currentEpoch := if crossesEpoch config slot then state.currentEpoch + 1 else state.currentEpoch }

def electHere (config : NodeConfig) (state : NodeState) : NodeState :=
  { state with
    currentLeader := electLeader sha256 state.currentEpoch state.currentSlot state.committee
    inCommittee := config.nodeId ∈ state.committee }

def ownProposal (config : NodeConfig) (state : NodeState) : WireProposal :=
  let proposal : WireProposal :=
    { proposalId := 0, slot := state.currentSlot, epoch := state.currentEpoch, leaderId := config.nodeId
      batchRoot := 0, parentBatchId := state.latestFinalized.getD 0, orderedSubmissionIds := []
      policyVersion := 1, createdAtHeight := state.currentSlot }
  { proposal with proposalId := computeBatchId sha256 proposal }

/-- The leader's own proposal, which the leader attests to without a message. -/
def propose (config : NodeConfig) (state : NodeState) : NodeState :=
  let proposal := state.ownProposal sha256 config
  { state with
    proposedThisSlot := true
    attestations := BTree.push state.attestations proposal.proposalId
      (attestationFor sha256 config.nodeId proposal)
    attestedProposals := state.attestedProposals.insert proposal.proposalId (proposal.slot, proposal.epoch)
    pendingProposals := state.pendingProposals.insert proposal }

def atNextSlot (config : NodeConfig) (state : NodeState) : NodeState :=
  (enterSlot config state).electHere sha256 config

-- Only the branch that crosses an epoch boundary counts the peers before it sends.
def advanceSlot (config : NodeConfig) (state : NodeState) (peerCount : Nat) :
    NodeState × List NodeOutput :=
  let here := state.atNextSlot sha256 config
  if here.currentLeader = some config.nodeId ∧ here.proposedThisSlot = false then
    let outputs :=
      if crossesEpoch config here.currentSlot ∧ peerCount < max (config.quorumThreshold / 2) 1 then []
      else [.broadcast (.proposal (here.ownProposal sha256 config))]
    (here.propose sha256 config, outputs)
  else (here, [])

def ownVote (config : NodeConfig) (state : NodeState) : Option WireAttestation :=
  let here := state.atNextSlot sha256 config
  if here.currentLeader = some config.nodeId then
    some (attestationFor sha256 config.nodeId (here.ownProposal sha256 config))
  else none

def handleImportSnapshot (config : NodeConfig) (state : NodeState) (snapshotEpoch : U64)
    (newCommittee : List NodeId) : NodeState × List NodeOutput :=
  if newCommittee.isEmpty then (state, [])
  else
    let state := { state with committee := newCommittee }.electHere sha256 config
    let announce : WireEpochAnnounce :=
      { epoch := state.currentEpoch
        committeeMembers := state.committee
        leaderId := state.currentLeader.getD config.nodeId
        epochSeed := sha256 (strBytes "epoch_seed" ++ beBytes 8 snapshotEpoch) }
    (state, if state.inCommittee then [.broadcast (.epochAnnounce announce)] else [])

/-- One leaf of what the consensus engine asks for. The view stands in for the slot. -/
def dispatchLeaf (hotstuff : HotStuffEngine) (state : NodeState) :
    HotStuffOutput → NodeState × List NodeOutput
  | .sendVote vote => (state, [.broadcast (.hotStuffVote vote)])
  | .broadcastQC qc => (state, [.broadcast (.hotStuffQC qc)])
  | .sendNewView nv => (state, [.broadcast (.hotStuffNewView nv)])
  | .finalize block =>
      let fin : WireFinalized :=
        { batchId := block.blockId, proposalId := block.blockId, slot := block.view
          epoch := state.currentEpoch, leaderId := block.leaderId, batchRoot := block.batchRoot
          orderedSubmissionIds := block.orderedSubmissionIds
          approvals := hotstuff.quorumThreshold
          committeeSize := max state.committee.length 1
          finalizationHash := block.blockId }
      ({ state with deliverySeq := state.deliverySeq + 1, latestFinalized := some block.blockId },
        [.putFinalized fin, .deliver fin state.deliverySeq])
  | .none | .multi _ => (state, [])

def dispatchLeaves (hotstuff : HotStuffEngine) (state : NodeState) :
    List HotStuffOutput → NodeState × List NodeOutput
  | [] => (state, [])
  | leaf :: leaves =>
      let (state, outputs) := state.dispatchLeaf hotstuff leaf
      let (state, more) := dispatchLeaves hotstuff state leaves
      (state, outputs ++ more)

theorem dispatchLeaves_cons (hotstuff : HotStuffEngine) (state : NodeState) (leaf : HotStuffOutput)
    (leaves : List HotStuffOutput) :
    state.dispatchLeaves hotstuff (leaf :: leaves) =
      (((state.dispatchLeaf hotstuff leaf).1.dispatchLeaves hotstuff leaves).1,
        (state.dispatchLeaf hotstuff leaf).2 ++
          ((state.dispatchLeaf hotstuff leaf).1.dispatchLeaves hotstuff leaves).2) :=
  rfl

end NodeState

structure NetworkedNode where
  config : NodeConfig
  state : NodeState
  peerManager : PeerManager
  hotstuff : HotStuffEngine

/-- What the event loop takes from its channels. The verified signer, the number of known peers and
the decoded snapshot come from outside the protocol state. -/
inductive NodeEvent
  | message (msg : PoSeqMessage) (verifiedSigner : Option NodeId)
  | nextSlot (peerCount : Nat)
  | importSnapshot (snapshotEpoch : U64) (newCommittee : List NodeId)

namespace NetworkedNode

def bind (config : NodeConfig) (committee : List NodeId) (latestFinalized : Option Bytes32) :
    NetworkedNode :=
  { config
    state := { NodeState.new with committee, latestFinalized, inCommittee := config.nodeId ∈ committee }
    peerManager := { seenOrder := [], maxSeen := 1024 }
    hotstuff := .new config.nodeId config.quorumThreshold (config.slotDurationMs * 4) }

variable (sha256 : Sha256)

def withState (node : NetworkedNode) (result : NodeState × List NodeOutput) :
    NetworkedNode × List NodeOutput :=
  ({ node with state := result.1 }, result.2)

-- The leaves of a compound output are taken off the end of a stack.
def dispatchHotstuffOutput (node : NetworkedNode) (result : HotStuffEngine × HotStuffOutput) :
    NetworkedNode × List NodeOutput :=
  { node with hotstuff := result.1 }.withState
    (node.state.dispatchLeaves result.1 result.2.leaves.reverse)

def dispatch (node : NetworkedNode) (msg : PoSeqMessage) (verifiedSigner : Option NodeId) :
    NetworkedNode × List NodeOutput :=
  match msg with
  | .proposal proposal =>
      node.withState (node.state.handleProposal sha256 node.config proposal verifiedSigner)
  | .attestation vote =>
      node.withState (node.state.handleAttestation sha256 node.config vote verifiedSigner)
  | .finalized fin => node.withState (node.state.handleFinalized fin verifiedSigner)
  | .syncResponse resp => node.withState (node.state.handleSyncResponse resp, [])
  | .epochAnnounce ann => node.withState (node.state.handleEpochAnnounce node.config ann, [])
  | .hotStuffBlock block => node.dispatchHotstuffOutput (node.hotstuff.onBlock block)
  | .hotStuffVote vote => node.dispatchHotstuffOutput (node.hotstuff.onVote vote)
  | .hotStuffQC qc => node.dispatchHotstuffOutput (node.hotstuff.onQc qc)
  | .hotStuffNewView nv => node.dispatchHotstuffOutput (node.hotstuff.onNewView nv)
  | .other _ _ => (node, [])

def handleMessage (node : NetworkedNode) (msg : PoSeqMessage) (verifiedSigner : Option NodeId) :
    NetworkedNode × List NodeOutput :=
  match node.peerManager.isDuplicate sha256 msg with
  | none => (node, [])
  | some peerManager => { node with peerManager }.dispatch sha256 msg verifiedSigner

def handle (node : NetworkedNode) : NodeEvent → NetworkedNode × List NodeOutput
  | .message msg verifiedSigner => node.handleMessage sha256 msg verifiedSigner
  | .nextSlot peerCount => node.withState (node.state.advanceSlot sha256 node.config peerCount)
  | .importSnapshot snapshotEpoch newCommittee =>
      node.withState (node.state.handleImportSnapshot sha256 node.config snapshotEpoch newCommittee)

def step (node : NetworkedNode) (event : NodeEvent) : NetworkedNode :=
  (node.handle sha256 event).1

end NetworkedNode

def pairedNode : NetworkedNode :=
  .bind { nodeId := 7, quorumThreshold := 2, slotDurationMs := 2000, slotsPerEpoch := 10 } [7, 9] none

end Omniphi.PoSeq
