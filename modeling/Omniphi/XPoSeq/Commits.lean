import Omniphi.Lib.Outcome
import Omniphi.XPoSeq.Execution

/-! What a node finalizes, and what the chain makes of it. The two agree on the hash of a finalization
and on the hash that is voted on, and each has an id of its own for the batch. -/

namespace Omniphi.XPoSeq

open HotStuff (NodeId QuorumCertificate)
open PoSeq (WireProposal WireFinalized NodeState)
open PoSeqKeeper

section Message

def hex32 (bytes : Bytes32) : String := hexEncode (beBytes 32 bytes)

theorem hex32_injective : Function.Injective hex32 := fun _ _ same =>
  beBytes_injective (by decide) (hexEncode_injective same)

@[simp] theorem decodeString_hex32 (bytes : Bytes32) : decodeString (hex32 bytes) = beBytes 32 bytes :=
  decodeString_hexEncode _

def commitMessage (sender : String) (fin : WireFinalized) (qc : QuorumCertificate) : MsgCommitExecution :=
  { sender
    batchId := hex32 fin.batchId
    finalizationHash := hex32 fin.finalizationHash
    epoch := fin.epoch
    slot := fin.slot
    orderedSubmissionIds := fin.orderedSubmissionIds.map hex32
    leaderId := hex32 fin.leaderId
    approvals := BitVec.ofNat 64 fin.approvals
    committeeSize := BitVec.ofNat 64 fin.committeeSize
    proposalId := hex32 fin.proposalId
    batchRoot := hex32 fin.batchRoot
    qcSignatures := qc.signatures.map fun entry =>
      { nodeId := hex32 entry.1, signature := hexEncode entry.2 } }

end Message

section Hashes

variable (sha256 : Sha256)

def nodeBatchInput (proposal : WireProposal) : Bytes :=
  strBytes "batch:" ++ beBytes 8 proposal.slot ++ beBytes 8 proposal.epoch ++ beBytes 32 proposal.leaderId ++
    beBytes 32 proposal.batchRoot

def chainBatchInput (proposal : WireProposal) : Bytes :=
  strBytes "batch:" ++ beBytes 32 proposal.proposalId ++ beBytes 32 proposal.batchRoot

theorem batchInputs_ne (proposal : WireProposal) : nodeBatchInput proposal ≠ chainBatchInput proposal := by
  intro same
  have lengths := congrArg List.length same
  simp only [nodeBatchInput, chainBatchInput, List.length_append, length_beBytes] at lengths
  omega

variable (state : NodeState) (proposal : WireProposal) (approvals : Nat) (sender : String)
  (qc : QuorumCertificate)

theorem expectedBatchId_commitMessage :
    expectedBatchId sha256 (commitMessage sender (state.finalizedFrom sha256 proposal approvals) qc) =
        (commitMessage sender (state.finalizedFrom sha256 proposal approvals) qc).batchId ↔
      sha256 (chainBatchInput proposal) = sha256 (nodeBatchInput proposal) := by
  have named : (commitMessage sender (state.finalizedFrom sha256 proposal approvals) qc).batchId =
      hex32 (sha256 (nodeBatchInput proposal)) := rfl
  have expected : expectedBatchId sha256
      (commitMessage sender (state.finalizedFrom sha256 proposal approvals) qc) =
        hex32 (sha256 (chainBatchInput proposal)) := by
    simp only [expectedBatchId, batchIdInput, commitMessage, NodeState.finalizedFrom, decodeString_hex32]
    rfl
  rw [named, expected]
  exact hex32_injective.eq_iff

end Hashes

section Acceptance

variable {lib : Library} {sha256 : Sha256} {keeper after : PoSeqKeeper} {msg : MsgCommitExecution}

theorem validateBasic_ok_iff : msg.validateBasic lib = .ok () ↔
    lib.addressError msg.sender = none ∧ isHexOf 32 msg.batchId = true ∧
      isHexOf 32 msg.finalizationHash = true ∧ isHexOf 32 msg.proposalId = true ∧
      isHexOf 32 msg.batchRoot = true ∧ msg.epoch ≠ 0 ∧ msg.approvals ≠ 0 ∧ msg.committeeSize ≠ 0 ∧
      ¬ msg.approvals * 3 ≤ msg.committeeSize * 2 ∧ validateSignatures 0 msg.qcSignatures = .ok () := by
  unfold MsgCommitExecution.validateBasic
  cases lib.addressError msg.sender with
  | some error => exact iff_of_false (by rintro ⟨⟩) (by rintro ⟨⟨⟩, -⟩)
  | none => simp only [Outcome.guard_ok, Bool.not_eq_false, ne_eq, true_and]

theorem commitChecked_ok_iff : keeper.commitChecked sha256 msg = .ok after ↔
    expectedFinalizationHash sha256 msg = msg.finalizationHash ∧ expectedBatchId sha256 msg = msg.batchId ∧
      keeper.committedBatches.contains msg.batchId = false ∧
      after = { keeper with committedBatches := keeper.committedBatches.insert (recordOf msg) } := by
  unfold commitChecked
  simp only [Outcome.guard_ok, ne_eq, not_not, Bool.not_eq_true, Except.ok.injEq, @eq_comm _ _ after]

/-- What a message and its epoch's snapshot have passed when the chain takes it. -/
structure Passes (lib : Library) (sha256 : Sha256) (keeper : PoSeqKeeper) (msg : MsgCommitExecution)
    (snap : CommitteeSnapshot) : Prop where
  basic : msg.validateBasic lib = .ok ()
  authorized : ¬ (keeper.params.authorizedSubmitter ≠ "" ∧ keeper.params.authorizedSubmitter ≠ msg.sender)
  listed : keeper.committeeSnapshots.get? msg.epoch = some snap
  size : BitVec.ofNat 64 snap.members.length = msg.committeeSize
  leads : ∃ member ∈ snap.members, member.nodeId = msg.leaderId
  certified : checkQC lib sha256 keeper.params snap msg = .ok ()

theorem commitExecution_ok_iff : keeper.commitExecution lib sha256 msg = .ok after ↔
    ∃ snap, Passes lib sha256 keeper msg snap ∧ keeper.commitChecked sha256 msg = .ok after := by
  unfold commitExecution
  constructor
  · intro ok
    obtain ⟨_, basic, ok⟩ := Outcome.of_bind_ok ok
    obtain ⟨authorized, ok⟩ := Outcome.guard_ok.1 ok
    split at ok
    · cases ok
    rename_i snap listed
    obtain ⟨size, ok⟩ := Outcome.guard_ok.1 ok
    obtain ⟨leads, ok⟩ := Outcome.guard_ok.1 ok
    obtain ⟨_, certified, ok⟩ := Outcome.of_bind_ok ok
    push Not at leads
    exact ⟨snap, ⟨basic, authorized, listed, not_not.1 size, leads, certified⟩, ok⟩
  · rintro ⟨snap, passes, ok⟩
    rw [Outcome.bind_ok passes.basic]
    refine Outcome.guard_ok.2 ⟨passes.authorized, ?_⟩
    rw [passes.listed]
    refine Outcome.guard_ok.2 ⟨not_not.2 passes.size, Outcome.guard_ok.2 ⟨?_, ?_⟩⟩
    · obtain ⟨member, mem, named⟩ := passes.leads
      exact fun none_leads => none_leads member mem named
    · exact (Outcome.bind_ok passes.certified _).trans ok

def Commits (lib : Library) (sha256 : Sha256) (keeper : PoSeqKeeper) (msg : MsgCommitExecution) : Prop :=
  ∃ after, keeper.commitExecution lib sha256 msg = .ok after

end Acceptance

section Claims

/-- A committee with its keys on the chain has finalized the proposal and signed its commit. -/
structure Finalized (lib : Library) (sha256 : Sha256) (keeper : PoSeqKeeper) (keyOf : NodeId → Bytes32)
    (state : NodeState) (proposal : WireProposal) (approvals : Nat) (qc : QuorumCertificate) : Prop where
  epoch : proposal.epoch ≠ 0
  leads : proposal.leaderId ∈ state.committee
  approved : 2 * state.committee.length < 3 * approvals
  within : approvals ≤ state.committee.length
  listed : ∃ snap, keeper.committeeSnapshots.get? proposal.epoch = some snap ∧
    snap.members.map CommitteeSnapshotMember.nodeId = state.committee.map hex32 ∧
    snap.members.map CommitteeSnapshotMember.publicKey = state.committee.map fun id => hex32 (keyOf id)
  phase : qc.phase = .commit
  view : qc.view = proposal.slot
  signers : (qc.signatures.map Prod.fst).Nodup ∧ 2 * state.committee.length < 3 * qc.signatures.length
  signed : ∀ entry ∈ qc.signatures, entry.1 ∈ state.committee ∧ entry.2.length = 64 ∧
    lib.ed25519Verify (beBytes 32 (keyOf entry.1))
      (beBytes 32 (QuorumCertificate.voteHash sha256 qc.view qc.blockId qc.phase)) entry.2 = true
  fresh : keeper.committedBatches.contains (hex32 (NodeState.computeBatchId sha256 proposal)) = false

variable {lib : Library} {sha256 : Sha256} {keeper : PoSeqKeeper} {sender : String} {state : NodeState}
  {proposal : WireProposal} {approvals : Nat} {qc : QuorumCertificate}

theorem collide_of_commits
    (commits : Commits lib sha256 keeper
      (commitMessage sender (state.finalizedFrom sha256 proposal approvals) qc)) :
    ¬ CollisionFree sha256 [nodeBatchInput proposal, chainBatchInput proposal] := by
  intro free
  obtain ⟨after, ok⟩ := commits
  obtain ⟨snap, -, checked⟩ := commitExecution_ok_iff.1 ok
  have named := (commitChecked_ok_iff.1 checked).2.1
  have collide := (expectedBatchId_commitMessage sha256 state proposal approvals sender qc).1 named
  refine batchInputs_ne proposal (free _ List.mem_cons_self _ ?_ collide.symm)
  exact List.mem_cons_of_mem _ List.mem_cons_self

/-- Nothing a node finalizes is taken by the chain, unless SHA-256 collides on the two inputs. -/
theorem finalized_batch_refused (lib : Library) (sha256 : Sha256) (keeper : PoSeqKeeper) (sender : String)
    (state : NodeState) (proposal : WireProposal) (approvals : Nat) (qc : QuorumCertificate)
    (free : CollisionFree sha256 [nodeBatchInput proposal, chainBatchInput proposal]) :
    ¬ Commits lib sha256 keeper
      (commitMessage sender (state.finalizedFrom sha256 proposal approvals) qc) :=
  fun commits => collide_of_commits commits free

/-! One node that is its whole committee, under a digest that tells inputs apart by their lengths. -/

def lengthDigest : Sha256 := fun bytes => BitVec.ofNat 256 bytes.length

def plainLibrary : Library where
  addressError _ := none
  ed25519Verify pubkey message signature := decide (signature = pubkey ++ message)

def soleProposal : WireProposal :=
  { proposalId := 7, slot := 3, epoch := 1, leaderId := 1, batchRoot := 5, parentBatchId := 0
    orderedSubmissionIds := [], policyVersion := 1, createdAtHeight := 1 }

def soleState : NodeState := { NodeState.new with committee := [1] }

def soleSnapshot : CommitteeSnapshot :=
  { epoch := 1
    members := [{ nodeId := hex32 1, publicKey := hex32 1, moniker := "", role := "Sequencer" }]
    snapshotHash := beBytes 32 (ChainCommitteeSnapshot.computeHash lengthDigest 1 [beBytes 32 (1 : Bytes32)])
    producedAtBlock := 1 }

def soleKeeper : PoSeqKeeper :=
  { params := { authorizedSubmitter := "", requireQCSignatures := true }
    committeeSnapshots := KeyedMap.empty.insert soleSnapshot
    committedBatches := .empty }

def soleQc : QuorumCertificate :=
  let batchId := NodeState.computeBatchId lengthDigest soleProposal
  { view := 3, blockId := batchId, phase := .commit
    signatures := [(1, beBytes 32 (1 : Bytes32) ++
      beBytes 32 (QuorumCertificate.voteHash lengthDigest 3 batchId .commit))] }

theorem lengthDigest_free :
    CollisionFree lengthDigest [nodeBatchInput soleProposal, chainBatchInput soleProposal] := by
  have node : lengthDigest (nodeBatchInput soleProposal) = 86 := by decide +kernel
  have chain : lengthDigest (chainBatchInput soleProposal) = 70 := by decide +kernel
  intro a member b member' same
  simp only [List.mem_cons, List.not_mem_nil, or_false] at member member'
  rcases member with rfl | rfl <;> rcases member' with rfl | rfl
  · rfl
  · rw [node, chain] at same
    exact absurd same (by decide)
  · rw [node, chain] at same
    exact absurd same (by decide)
  · rfl

theorem finalized_batch_refused_sole :
    ¬ Commits plainLibrary lengthDigest soleKeeper
      (commitMessage "relayer" (soleState.finalizedFrom lengthDigest soleProposal 1) soleQc) :=
  finalized_batch_refused plainLibrary lengthDigest soleKeeper "relayer" soleState soleProposal 1 soleQc
    lengthDigest_free

/-- The sole member has signed for its batch, and the chain refuses it. -/
theorem signed_batch_refused :
    Finalized plainLibrary lengthDigest soleKeeper id soleState soleProposal 1 soleQc ∧
      CollisionFree lengthDigest [nodeBatchInput soleProposal, chainBatchInput soleProposal] ∧
      ¬ Commits plainLibrary lengthDigest soleKeeper
        (commitMessage "relayer" (soleState.finalizedFrom lengthDigest soleProposal 1) soleQc) := by
  refine ⟨?_, lengthDigest_free, fun commits => collide_of_commits commits lengthDigest_free⟩
  constructor
  case epoch => decide
  case leads => exact List.mem_singleton_self _
  case approved => decide
  case within => decide
  case listed =>
    refine ⟨soleSnapshot, ?_, rfl, rfl⟩
    exact (KeyedMap.get?_insert _ _ _).trans (if_pos rfl)
  case phase => rfl
  case view => rfl
  case signers => exact ⟨List.nodup_singleton _, by decide⟩
  case signed =>
    intro entry member
    obtain rfl := List.mem_singleton.1 member
    have verifies (pubkey message : Bytes) :
        plainLibrary.ed25519Verify pubkey message (pubkey ++ message) = true := decide_eq_true rfl
    refine ⟨List.mem_singleton_self _, ?_, verifies _ _⟩
    rw [List.length_append, length_beBytes, length_beBytes]
  case fresh => rfl

end Claims

end Omniphi.XPoSeq
