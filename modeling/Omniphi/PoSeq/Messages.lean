import Omniphi.HotStuff.Engine

/-! The wire messages of a PoSeq node and the memory of messages it has seen. -/

namespace Omniphi.PoSeq

open HotStuff (NodeId Phase HotStuffBlock HotStuffVote QuorumCertificate NewViewMessage)

structure WireProposal where
  proposalId : Bytes32
  slot : U64
  epoch : U64
  leaderId : NodeId
  batchRoot : Bytes32
  parentBatchId : Bytes32
  orderedSubmissionIds : List Bytes32
  policyVersion : U32
  createdAtHeight : U64
deriving DecidableEq

structure WireAttestation where
  attestorId : NodeId
  proposalId : Bytes32
  batchIdAttested : Bytes32
  approve : Bool
  epoch : U64
  slot : U64
deriving DecidableEq

structure WireFinalized where
  batchId : Bytes32
  proposalId : Bytes32
  slot : U64
  epoch : U64
  leaderId : NodeId
  batchRoot : Bytes32
  orderedSubmissionIds : List Bytes32
  approvals : Nat
  committeeSize : Nat
  finalizationHash : Bytes32
deriving DecidableEq

structure WireSyncResponse where
  respondingNode : NodeId
  batchId : Bytes32
  batch : Option WireFinalized
deriving DecidableEq

structure WireEpochAnnounce where
  epoch : U64
  committeeMembers : List NodeId
  leaderId : NodeId
  epochSeed : Bytes32
deriving DecidableEq

/-- The last constructor stands for the kinds whose handlers only log, answer a request or keep
the peer table and the registry, with the bytes that identify such a message. -/
inductive PoSeqMessage
  | proposal (proposal : WireProposal)
  | attestation (vote : WireAttestation)
  | finalized (fin : WireFinalized)
  | syncResponse (resp : WireSyncResponse)
  | epochAnnounce (ann : WireEpochAnnounce)
  | hotStuffBlock (block : HotStuffBlock)
  | hotStuffVote (vote : HotStuffVote)
  | hotStuffQC (qc : QuorumCertificate)
  | hotStuffNewView (nv : NewViewMessage)
  | other (kind : String) (fields : Bytes)
deriving DecidableEq

namespace PoSeqMessage

def kind : PoSeqMessage → String
  | proposal _ => "Proposal"
  | attestation _ => "Attestation"
  | finalized _ => "Finalized"
  | syncResponse _ => "SyncResponse"
  | epochAnnounce _ => "EpochAnnounce"
  | hotStuffBlock _ => "HotStuffBlock"
  | hotStuffVote _ => "HotStuffVote"
  | hotStuffQC _ => "HotStuffQC"
  | hotStuffNewView _ => "HotStuffNewView"
  | other kind _ => kind

def dedupFields : PoSeqMessage → Bytes
  | proposal p => beBytes 32 p.proposalId ++ beBytes 8 p.slot ++ beBytes 8 p.epoch ++ beBytes 32 p.leaderId
  | attestation a => beBytes 32 a.attestorId ++ beBytes 32 a.proposalId ++ [if a.approve then 1 else 0]
  | finalized f => beBytes 32 f.batchId ++ beBytes 8 f.epoch
  | syncResponse r => beBytes 32 r.respondingNode ++ beBytes 32 r.batchId
  | epochAnnounce e => beBytes 8 e.epoch ++ beBytes 32 e.leaderId
  | hotStuffBlock b => beBytes 32 b.blockId ++ beBytes 8 b.view ++ beBytes 32 b.leaderId
  | hotStuffVote v =>
      beBytes 32 v.voterId ++ beBytes 32 v.blockId ++ beBytes 8 v.view ++ [UInt8.ofNat v.phase.ctorIdx]
  | hotStuffQC qc => beBytes 32 qc.blockId ++ beBytes 8 qc.view ++ [UInt8.ofNat qc.phase.ctorIdx]
  | hotStuffNewView nv => beBytes 32 nv.senderId ++ beBytes 8 nv.newView
  | other _ fields => fields

end PoSeqMessage

/-- The set of seen keys and the queue that orders it hold the same keys, so one list is both. -/
structure PeerManager where
  seenOrder : List Bytes32
  maxSeen : Nat

namespace PeerManager

variable (sha256 : Sha256)

def dedupKey (msg : PoSeqMessage) : Bytes32 :=
  sha256 (strBytes msg.kind ++ msg.dedupFields)

/-- Nothing when the message was seen before, else the manager that has recorded it. -/
def isDuplicate (manager : PeerManager) (msg : PoSeqMessage) : Option PeerManager :=
  let key := dedupKey sha256 msg
  if key ∈ manager.seenOrder then none
  else
    let kept := if manager.maxSeen ≤ manager.seenOrder.length then manager.seenOrder.tail
      else manager.seenOrder
    some { manager with seenOrder := kept ++ [key] }

end PeerManager

end Omniphi.PoSeq
