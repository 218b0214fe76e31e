import Omniphi.XPoSeq.Snapshot
import Omniphi.HotStuff.Acceptance
import Omniphi.PoSeq.Node

/-! The chain's record of the batches that a committee has finalized. -/

namespace Omniphi.XPoSeq

open HotStuff (NodeId QuorumCertificate)
open PoSeq (WireProposal WireFinalized NodeState)

structure QCSignatureEntry where
  nodeId : String
  signature : String
deriving DecidableEq

structure MsgCommitExecution where
  sender : String
  batchId : String
  finalizationHash : String
  epoch : U64
  slot : U64
  orderedSubmissionIds : List String
  leaderId : String
  approvals : U64
  committeeSize : U64
  proposalId : String
  batchRoot : String
  qcSignatures : List QCSignatureEntry
deriving DecidableEq

structure CommittedBatchRecord where
  batchId : String
  finalizationHash : String
  epoch : U64
  slot : U64
  orderedSubmissionIds : List String
  leaderId : String
  approvals : U64
  committeeSize : U64
  submitterAddress : String
deriving DecidableEq

inductive ExecutionError
  | unauthorized (text : String)
  | invalidBatchId (text : String)
  | invalidFinalizationHash (text : String)
  | invalidEpoch
  | invalidExportBatch (text : String)
  | batchAlreadyCommitted (text : String)
deriving DecidableEq

structure Library where
  addressError : String → Option String
  ed25519Verify : Bytes → Bytes → Bytes → Bool

structure Params where
  authorizedSubmitter : String
  requireQCSignatures : Bool

/-- A batch is stored under the bytes of its id, here under the hex of them. -/
structure PoSeqKeeper where
  params : Params
  committeeSnapshots : CommitteeSnapshots
  committedBatches : KeyedMap CommittedBatchRecord.batchId

section Hex

def isHexOf (length : Nat) (text : String) : Bool :=
  (hexDecode text).any fun bytes => decide (bytes.length = length)

def decodedChars : List Char → Bytes
  | high :: low :: rest =>
      match hexDigit high, hexDigit low with
      | some h, some l => UInt8.ofNat (16 * h + l) :: decodedChars rest
      | _, _ => []
  | _ => []

/-- `hex.DecodeString` where its error is dropped: the bytes before the first bad digit. -/
def decodeString (text : String) : Bytes := decodedChars text.toList

theorem decodedChars_of_decode {chars : List Char} {bytes : Bytes}
    (decoded : hexDecodeChars chars = some bytes) : decodedChars chars = bytes := by
  induction chars using hexDecodeChars.induct generalizing bytes with
  | case1 =>
      cases decoded
      rfl
  | case2 digit => cases decoded
  | case3 high low rest ih =>
      obtain ⟨h, found, decoded⟩ := Option.bind_eq_some_iff.1 decoded
      obtain ⟨l, found', decoded⟩ := Option.bind_eq_some_iff.1 decoded
      obtain ⟨others, read, decoded⟩ := Option.bind_eq_some_iff.1 decoded
      cases decoded
      simp only [decodedChars, found, found', ih read]

@[simp] theorem decodeString_hexEncode (bytes : Bytes) : decodeString (hexEncode bytes) = bytes :=
  decodedChars_of_decode (hexDecode_hexEncode bytes)

end Hex

section Messages

variable (lib : Library) (sha256 : Sha256)

def validateSignatures : Nat → List QCSignatureEntry → Except ExecutionError Unit
  | _, [] => .ok ()
  | i, entry :: rest =>
      if isHexOf 32 entry.nodeId = false then
        .error (.invalidExportBatch ("qc_signatures[" ++ toString i ++ "]: invalid node_id hex"))
      else if isHexOf 64 entry.signature = false then
        .error (.invalidExportBatch
          ("qc_signatures[" ++ toString i ++ "]: invalid signature hex (need 128 chars)"))
      else validateSignatures (i + 1) rest

def MsgCommitExecution.validateBasic (msg : MsgCommitExecution) : Except ExecutionError Unit :=
  match lib.addressError msg.sender with
  | some error => .error (.unauthorized ("invalid sender address: " ++ error))
  | none =>
    if isHexOf 32 msg.batchId = false then
      .error (.invalidBatchId "batch_id must be 64 hex chars (32 bytes)")
    else if isHexOf 32 msg.finalizationHash = false then
      .error (.invalidFinalizationHash "finalization_hash must be 64 hex chars (32 bytes)")
    else if isHexOf 32 msg.proposalId = false then
      .error (.invalidExportBatch "proposal_id must be 64 hex chars (32 bytes)")
    else if isHexOf 32 msg.batchRoot = false then
      .error (.invalidExportBatch "batch_root must be 64 hex chars (32 bytes)")
    else if msg.epoch = 0 then .error .invalidEpoch
    else if msg.approvals = 0 then .error (.invalidExportBatch "approvals must be > 0")
    else if msg.committeeSize = 0 then .error (.invalidExportBatch "committee_size must be > 0")
    else if msg.approvals * 3 ≤ msg.committeeSize * 2 then
      .error (.invalidExportBatch ("insufficient quorum: " ++ toString msg.approvals.toNat ++ " approvals out of " ++
        toString msg.committeeSize.toNat ++ " committee members"))
    else validateSignatures 0 msg.qcSignatures

def computeFinalizationHash (proposalId : Bytes) (slot epoch : U64) (leaderId batchRoot : Bytes)
    (approvals : U64) : Bytes32 :=
  sha256 (proposalId ++ beBytes 8 slot ++ beBytes 8 epoch ++ leaderId ++ batchRoot ++ beBytes 8 approvals)

/-- The phase is that of a commit. -/
def computeVoteHash (slot : U64) (batchId : Bytes) : Bytes32 :=
  sha256 (strBytes "HOTSTUFF_VOTE_V1" ++ beBytes 8 slot ++ batchId ++ [2])

def signs (pubkeyLookup : BTreeMap String Bytes) (voteHash : Bytes32) (entry : QCSignatureEntry) : Bool :=
  match pubkeyLookup[entry.nodeId]? with
  | none => false
  | some pubkey =>
      if pubkey.length ≠ 32 then false
      else match hexDecode entry.signature with
        | none => false
        | some signature =>
            if signature.length ≠ 64 then false
            else lib.ed25519Verify pubkey (beBytes 32 voteHash) signature

def countSignature (accepts : QCSignatureEntry → Bool) (acc : BTreeSet String × Nat)
    (entry : QCSignatureEntry) : BTreeSet String × Nat :=
  if acc.1.contains entry.nodeId then acc
  else (acc.1.insert entry.nodeId, if accepts entry then acc.2 + 1 else acc.2)

def verifyQC (qcSigs : List QCSignatureEntry) (voteHash : Bytes32) (pubkeyLookup : BTreeMap String Bytes) :
    Nat :=
  (qcSigs.foldl (countSignature (signs lib pubkeyLookup voteHash)) (∅, 0)).2

end Messages

namespace CommitteeSnapshot

/-- Of two entries of one node the later one counts. -/
def pubkeyLookup (snap : CommitteeSnapshot) : BTreeMap String Bytes :=
  snap.members.foldl (fun lookup member =>
    match hexDecode member.publicKey with
    | some pubkey => if pubkey.length = 32 then lookup.insert member.nodeId pubkey else lookup
    | none => lookup) ∅

end CommitteeSnapshot

namespace PoSeqKeeper

variable (lib : Library) (sha256 : Sha256)

def checkQC (params : Params) (snap : CommitteeSnapshot) (msg : MsgCommitExecution) :
    Except ExecutionError Unit :=
  if msg.qcSignatures.isEmpty then
    if params.requireQCSignatures then
      .error (.invalidExportBatch
        ("QC signatures required (require_qc_signatures=true) but none provided for batch " ++ msg.batchId))
    else .ok ()
  else
    let validSigs := verifyQC lib msg.qcSignatures (computeVoteHash sha256 msg.slot (decodeString msg.batchId))
      snap.pubkeyLookup
    let committeeSize : U64 := BitVec.ofNat 64 snap.members.length
    if BitVec.ofNat 64 validSigs * 3 ≤ committeeSize * 2 then
      .error (.invalidExportBatch ("QC verification failed: " ++ toString validSigs ++ " valid signatures out of " ++
        toString committeeSize.toNat ++ " committee (need >2/3)"))
    else .ok ()

def expectedFinalizationHash (msg : MsgCommitExecution) : String :=
  hexEncode (beBytes 32 (computeFinalizationHash sha256 (decodeString msg.proposalId) msg.slot msg.epoch
    (decodeString msg.leaderId) (decodeString msg.batchRoot) msg.approvals))

def batchIdInput (msg : MsgCommitExecution) : Bytes :=
  strBytes "batch:" ++ decodeString msg.proposalId ++ decodeString msg.batchRoot

def expectedBatchId (msg : MsgCommitExecution) : String :=
  hexEncode (beBytes 32 (sha256 (batchIdInput msg)))

def recordOf (msg : MsgCommitExecution) : CommittedBatchRecord :=
  { batchId := msg.batchId
    finalizationHash := msg.finalizationHash
    epoch := msg.epoch
    slot := msg.slot
    orderedSubmissionIds := msg.orderedSubmissionIds
    leaderId := msg.leaderId
    approvals := msg.approvals
    committeeSize := msg.committeeSize
    submitterAddress := msg.sender }

def commitChecked (keeper : PoSeqKeeper) (msg : MsgCommitExecution) : Except ExecutionError PoSeqKeeper :=
  if expectedFinalizationHash sha256 msg ≠ msg.finalizationHash then
    .error (.invalidFinalizationHash ("finalization_hash mismatch: expected " ++
      expectedFinalizationHash sha256 msg ++ ", got " ++ msg.finalizationHash))
  else if expectedBatchId sha256 msg ≠ msg.batchId then
    .error (.invalidBatchId ("batch_id mismatch: expected SHA256(batch:||proposal_id||batch_root)=" ++
      expectedBatchId sha256 msg ++ ", got " ++ msg.batchId))
  else if keeper.committedBatches.contains msg.batchId then
    .error (.batchAlreadyCommitted ("batch_id=" ++ msg.batchId))
  else .ok { keeper with committedBatches := keeper.committedBatches.insert (recordOf msg) }

def commitExecution (keeper : PoSeqKeeper) (msg : MsgCommitExecution) : Except ExecutionError PoSeqKeeper := do
  msg.validateBasic lib
  if keeper.params.authorizedSubmitter ≠ "" ∧ keeper.params.authorizedSubmitter ≠ msg.sender then
    .error (.unauthorized ("sender " ++ msg.sender ++ " is not the authorized submitter (" ++
      keeper.params.authorizedSubmitter ++ ")"))
  else match keeper.committeeSnapshots.get? msg.epoch with
    | none => .error (.invalidExportBatch ("no committee snapshot registered for epoch " ++
        toString msg.epoch.toNat ++ " — cannot verify committee binding"))
    | some snap =>
        if BitVec.ofNat 64 snap.members.length ≠ msg.committeeSize then
          .error (.invalidExportBatch ("committee_size mismatch: msg claims " ++ toString msg.committeeSize.toNat ++
            ", snapshot has " ++ toString snap.members.length ++ " members"))
        else if ∀ member ∈ snap.members, member.nodeId ≠ msg.leaderId then
          .error (.unauthorized ("leader " ++ msg.leaderId ++ " is not a member of the epoch " ++
            toString msg.epoch.toNat ++ " committee"))
        else do
          checkQC lib sha256 keeper.params snap msg
          keeper.commitChecked sha256 msg

end PoSeqKeeper

end Omniphi.XPoSeq
