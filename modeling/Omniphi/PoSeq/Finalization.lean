import Omniphi.Lib.KeyedMap
import Omniphi.Lib.Quorum
import Omniphi.Basic

/-! Finalization of a proposed batch by the attestations of its committee. The collector never compares
the proposal a vote names with the one that is finalized, so a quorum backs the proposal only where the
votes it holds all name it. -/

namespace Omniphi.PoSeq

structure BatchAttestationVote where
  voteId : Bytes32
  proposalId : Bytes32
  attestorId : Bytes32
  approved : Bool
  epoch : U64

def BatchAttestationVote.computeVoteHash (sha256 : Sha256) (proposalId attestorId : Bytes32)
    (approved : Bool) (epoch : U64) : Bytes32 :=
  sha256 (beBytes 32 proposalId ++ beBytes 32 attestorId ++ [if approved then 1 else 0] ++ beBytes 8 epoch)

def BatchAttestationVote.new (sha256 : Sha256) (proposalId attestorId : Bytes32) (approved : Bool)
    (epoch : U64) : BatchAttestationVote :=
  { voteId := computeVoteHash sha256 proposalId attestorId approved epoch
    proposalId, attestorId, approved, epoch }

structure ConflictingAttestationRecord where
  attestorId : Bytes32
  firstVoteId : Bytes32
  secondVoteId : Bytes32
  conflictType : String

structure AttestationThreshold where
  minApprovals : Nat
  minFractionBps : U32

/-- The ceiling of two thirds, as long as the doubled size is in range. -/
def AttestationThreshold.twoThirds (committeeSize : Nat) : AttestationThreshold where
  minApprovals := (committeeSize * 2 + 2) % 2 ^ 64 / 3
  minFractionBps := 6667

structure AttestationQuorumResult where
  reached : Bool
  approvals : Nat
  rejections : Nat
  totalVotes : Nat
  quorumHash : Bytes32

def AttestationQuorumResult.computeHash (sha256 : Sha256) (proposalId : Bytes32)
    (approvals rejections total : Nat) : Bytes32 :=
  sha256 (beBytes 32 proposalId ++ beBytes 8 (BitVec.ofNat 64 approvals) ++
    beBytes 8 (BitVec.ofNat 64 rejections) ++ beBytes 8 (BitVec.ofNat 64 total))

structure AttestationCollector where
  proposalId : Bytes32
  votes : KeyedMap BatchAttestationVote.attestorId
  conflicts : List ConflictingAttestationRecord

namespace AttestationCollector

def new (proposalId : Bytes32) : AttestationCollector := { proposalId, votes := .empty, conflicts := [] }

def addVote (collector : AttestationCollector) (vote : BatchAttestationVote) :
    Except ConflictingAttestationRecord Bool × AttestationCollector :=
  match collector.votes.get? vote.attestorId with
  | some existing =>
      if existing.approved = vote.approved then (.ok false, collector)
      else
        let conflict := ⟨vote.attestorId, existing.voteId, vote.voteId, "ApprovalFlip"⟩
        (.error conflict, { collector with conflicts := collector.conflicts ++ [conflict] })
  | none => (.ok true, { collector with votes := collector.votes.insert vote })

def addVoteFromCommittee (collector : AttestationCollector) (vote : BatchAttestationVote)
    (committee : BTreeSet Bytes32) : Except ConflictingAttestationRecord Bool × AttestationCollector :=
  if committee.contains vote.attestorId = false then
    let conflict := ⟨vote.attestorId, 0, vote.voteId, "NonCommitteeMember"⟩
    (.error conflict, { collector with conflicts := collector.conflicts ++ [conflict] })
  else collector.addVote vote

def approvals (collector : AttestationCollector) : Nat :=
  (collector.votes.values.filter fun vote => vote.approved).length

def rejections (collector : AttestationCollector) : Nat :=
  (collector.votes.values.filter fun vote => !vote.approved).length

/-- The products are unchecked `u64` ones. -/
def checkQuorum (sha256 : Sha256) (collector : AttestationCollector) (threshold : AttestationThreshold)
    (committeeSize : Nat) : AttestationQuorumResult where
  reached :=
    (if committeeSize = 0 then false
      else threshold.minFractionBps.toNat * committeeSize % 2 ^ 64 ≤
        collector.approvals * 10000 % 2 ^ 64) &&
    threshold.minApprovals ≤ collector.approvals
  approvals := collector.approvals
  rejections := collector.rejections
  totalVotes := collector.votes.size
  quorumHash := AttestationQuorumResult.computeHash sha256 collector.proposalId collector.approvals collector.rejections
    collector.votes.size

def hasConflicts (collector : AttestationCollector) : Bool := !collector.conflicts.isEmpty

end AttestationCollector

structure ProposedBatch where
  proposalId : Bytes32
  slot : U64
  epoch : U64
  leaderId : Bytes32
  orderedSubmissionIds : List Bytes32
  batchRoot : Bytes32
  parentBatchId : Bytes32

structure FinalizedBatch where
  batchId : Bytes32
  proposalId : Bytes32
  slot : U64
  epoch : U64
  leaderId : Bytes32
  orderedSubmissionIds : List Bytes32
  batchRoot : Bytes32
  parentBatchId : Bytes32
  finalizedAtHeight : U64
  quorumSummary : AttestationQuorumResult
  finalizationHash : Bytes32

def FinalizedBatch.computeFinalizationHash (sha256 : Sha256) (proposalId : Bytes32) (slot epoch : U64)
    (leaderId batchRoot parentBatchId : Bytes32) (finalizedAtHeight : U64) (quorumHash : Bytes32) :
    Bytes32 :=
  sha256 (beBytes 32 proposalId ++ beBytes 8 slot ++ beBytes 8 epoch ++ beBytes 32 leaderId ++
    beBytes 32 batchRoot ++ beBytes 32 parentBatchId ++ beBytes 8 finalizedAtHeight ++
    beBytes 32 quorumHash)

inductive FinalizationDecision
  | finalized (batch : FinalizedBatch)
  | insufficientAttestations
  | conflictDetected (text : String)
  | alreadyFinalized
  | slotAlreadyFinalized (slot epoch : U64) (existingProposalId : Bytes32)

instance : Ord (U64 × U64) := lexOrd

instance : Std.TransOrd (U64 × U64) := BTree.lexTrans

instance : Std.LawfulEqOrd (U64 × U64) := BTree.lexLawful

structure FinalizationEngine where
  finalizedProposals : BTreeSet Bytes32
  finalizedSlots : BTreeMap (U64 × U64) Bytes32

namespace FinalizationEngine

def new : FinalizationEngine := { finalizedProposals := ∅, finalizedSlots := ∅ }

def finalize (sha256 : Sha256) (engine : FinalizationEngine) (proposed : ProposedBatch)
    (collector : AttestationCollector) (threshold : AttestationThreshold) (committeeSize : Nat)
    (height : U64) : FinalizationDecision × FinalizationEngine :=
  if engine.finalizedProposals.contains proposed.proposalId then (.alreadyFinalized, engine)
  else
    match engine.finalizedSlots[(proposed.slot, proposed.epoch)]? with
    | some existing => (.slotAlreadyFinalized proposed.slot proposed.epoch existing, engine)
    | none =>
        if collector.hasConflicts then
          (.conflictDetected (toString collector.conflicts.length ++ " conflicting votes detected"), engine)
        else
          let quorum := collector.checkQuorum sha256 threshold committeeSize
          if quorum.reached = false then (.insufficientAttestations, engine)
          else
            let finalizationHash := FinalizedBatch.computeFinalizationHash sha256 proposed.proposalId
              proposed.slot proposed.epoch proposed.leaderId proposed.batchRoot proposed.parentBatchId
              height quorum.quorumHash
            let batch : FinalizedBatch :=
              { batchId := finalizationHash, proposalId := proposed.proposalId, slot := proposed.slot
                epoch := proposed.epoch, leaderId := proposed.leaderId
                orderedSubmissionIds := proposed.orderedSubmissionIds, batchRoot := proposed.batchRoot
                parentBatchId := proposed.parentBatchId, finalizedAtHeight := height
                quorumSummary := quorum, finalizationHash }
            (.finalized batch,
              { finalizedProposals := engine.finalizedProposals.insert proposed.proposalId
                finalizedSlots :=
                  engine.finalizedSlots.insert (proposed.slot, proposed.epoch) proposed.proposalId })

theorem finalize_cases (sha256 : Sha256) (engine : FinalizationEngine) (proposed : ProposedBatch)
    (collector : AttestationCollector) (threshold : AttestationThreshold) (committeeSize : Nat)
    (height : U64) :
    (∃ batch : FinalizedBatch, batch.slot = proposed.slot ∧ batch.epoch = proposed.epoch ∧
      batch.proposalId = proposed.proposalId ∧
      engine.finalizedSlots[(proposed.slot, proposed.epoch)]? = none ∧
      (collector.checkQuorum sha256 threshold committeeSize).reached = true ∧
      engine.finalize sha256 proposed collector threshold committeeSize height =
        (.finalized batch,
          { finalizedProposals := engine.finalizedProposals.insert proposed.proposalId
            finalizedSlots :=
              engine.finalizedSlots.insert (proposed.slot, proposed.epoch) proposed.proposalId })) ∨
    ∃ decision, (∀ batch, decision ≠ .finalized batch) ∧
      engine.finalize sha256 proposed collector threshold committeeSize height = (decision, engine) := by
  unfold finalize
  split
  · exact .inr ⟨.alreadyFinalized, fun _ => nofun, rfl⟩
  cases free : engine.finalizedSlots[(proposed.slot, proposed.epoch)]? with
  | some existing =>
      exact .inr ⟨.slotAlreadyFinalized proposed.slot proposed.epoch existing, fun _ => nofun, rfl⟩
  | none =>
      simp only
      split
      · exact .inr ⟨.conflictDetected _, fun _ => nofun, rfl⟩
      split
      · exact .inr ⟨.insufficientAttestations, fun _ => nofun, rfl⟩
      · rename_i reached
        rw [Bool.not_eq_false] at reached
        exact .inl ⟨_, rfl, rfl, rfl, trivial, reached, rfl⟩

end FinalizationEngine

/-- One call of `finalize`, with the votes its collector has been given one by one. -/
structure FinalizationAttempt where
  proposed : ProposedBatch
  collectorId : Bytes32
  votes : List BatchAttestationVote
  height : U64

namespace FinalizationAttempt

def collect (committee : BTreeSet Bytes32) (collectorId : Bytes32) (votes : List BatchAttestationVote) :
    AttestationCollector :=
  votes.foldl (fun collector vote => (collector.addVoteFromCommittee vote committee).2) (.new collectorId)

def collector (attempt : FinalizationAttempt) (committee : BTreeSet Bytes32) : AttestationCollector :=
  collect committee attempt.collectorId attempt.votes

def approvedBy (attempt : FinalizationAttempt) (proposalId member : Bytes32) : Bool :=
  attempt.votes.any fun vote =>
    vote.attestorId = member && vote.approved && vote.proposalId = proposalId

/-- Every approving vote in the collector names the proposal, and the products of the quorum check are
in range. -/
structure Named (committee : BTreeSet Bytes32) (attempt : FinalizationAttempt) : Prop where
  own : ∀ vote ∈ (attempt.collector committee).votes.values, vote.approved = true →
    vote.proposalId = attempt.proposed.proposalId
  approvals : (attempt.collector committee).approvals * 10000 < 2 ^ 64
  size : 6667 * committee.size < 2 ^ 64

variable {committee : BTreeSet Bytes32} {attempt : FinalizationAttempt}

structure HeldFrom (committee : BTreeSet Bytes32) (votes : List BatchAttestationVote)
    (collector : AttestationCollector) : Prop where
  given : ∀ vote ∈ collector.votes.values, vote ∈ votes
  members : ∀ vote ∈ collector.votes.values, committee.contains vote.attestorId = true

theorem HeldFrom.add {votes : List BatchAttestationVote} {collector : AttestationCollector}
    (held : HeldFrom committee votes collector) (vote : BatchAttestationVote) :
    HeldFrom committee (votes ++ [vote]) (collector.addVoteFromCommittee vote committee).2 := by
  have kept : HeldFrom committee (votes ++ [vote]) collector :=
    ⟨fun other member => List.mem_append_left _ (held.given other member), held.members⟩
  unfold AttestationCollector.addVoteFromCommittee AttestationCollector.addVote
  split
  · exact ⟨kept.given, kept.members⟩
  · rename_i member
    rw [Bool.not_eq_false] at member
    cases stored : collector.votes.get? vote.attestorId with
    | some existing =>
        simp only
        split
        · exact kept
        · exact ⟨kept.given, kept.members⟩
    | none =>
        constructor
        · intro other isHeld
          rw [KeyedMap.mem_values, KeyedMap.get?_insert] at isHeld
          split at isHeld
          · rw [← Option.some.inj isHeld]
            exact List.mem_append_right _ (List.mem_singleton_self _)
          · exact kept.given other (KeyedMap.mem_values.2 isHeld)
        · intro other isHeld
          rw [KeyedMap.mem_values, KeyedMap.get?_insert] at isHeld
          split at isHeld
          · rw [← Option.some.inj isHeld]
            exact member
          · exact kept.members other (KeyedMap.mem_values.2 isHeld)

theorem heldFrom_collect (collectorId : Bytes32) (votes : List BatchAttestationVote) :
    HeldFrom committee votes (collect committee collectorId votes) := by
  induction votes using List.reverseRecOn with
  | nil =>
      constructor
      · intro vote isHeld
        rw [KeyedMap.mem_values] at isHeld
        cases isHeld.symm.trans (KeyedMap.get?_empty vote.attestorId)
      · intro vote isHeld
        rw [KeyedMap.mem_values] at isHeld
        cases isHeld.symm.trans (KeyedMap.get?_empty vote.attestorId)
  | append_singleton votes vote ih =>
      rw [collect, List.foldl_append]
      exact ih.add vote

theorem Named.approvals_le (named : Named committee attempt) :
    (attempt.collector committee).approvals ≤
      committee.toList.countP (attempt.approvedBy attempt.proposed.proposalId) := by
  have held : HeldFrom committee attempt.votes (attempt.collector committee) := heldFrom_collect ..
  let counted := (attempt.collector committee).votes.values.filter fun vote => vote.approved
  have distinct : (counted.map BatchAttestationVote.attestorId).Nodup :=
    (KeyedMap.nodup_map_key_values _).sublist (List.filter_sublist.map _)
  have backers : counted.map BatchAttestationVote.attestorId ⊆
      committee.toList.filter (attempt.approvedBy attempt.proposed.proposalId) := by
    intro id listed
    obtain ⟨vote, member, rfl⟩ := List.mem_map.1 listed
    obtain ⟨member, approved⟩ := List.mem_filter.1 member
    rw [List.mem_filter, Std.ExtTreeSet.mem_toList, ← Std.ExtTreeSet.contains_iff_mem]
    refine ⟨held.members vote member, ?_⟩
    rw [approvedBy, List.any_eq_true]
    exact ⟨vote, held.given vote member, by simp [approved, named.own vote member approved]⟩
  calc (attempt.collector committee).approvals
      = (counted.map BatchAttestationVote.attestorId).length := (List.length_map _).symm
    _ ≤ (committee.toList.filter (attempt.approvedBy attempt.proposed.proposalId)).length :=
        (List.subperm_of_subset distinct backers).length_le
    _ = _ := List.countP_eq_length_filter.symm

end FinalizationAttempt

/-- An engine and what it has finalized, with the attempts that did it. -/
structure FinalizationHistory where
  engine : FinalizationEngine
  finalized : List (FinalizationAttempt × FinalizedBatch)

namespace FinalizationHistory

open FinalizationAttempt

def start : FinalizationHistory := ⟨.new, []⟩

section Runs

variable (sha256 : Sha256) (committee : BTreeSet Bytes32)

def step (history : FinalizationHistory) (attempt : FinalizationAttempt) : FinalizationHistory :=
  match history.engine.finalize sha256 attempt.proposed (attempt.collector committee)
      (.twoThirds committee.size) committee.size attempt.height with
  | (.finalized batch, engine) => ⟨engine, history.finalized ++ [(attempt, batch)]⟩
  | (_, engine) => { history with engine }

def run (attempts : List FinalizationAttempt) : FinalizationHistory :=
  attempts.foldl (step sha256 committee) start

def common (first second : FinalizationAttempt × FinalizedBatch) : Nat :=
  committee.toList.countP fun member =>
    first.1.approvedBy first.2.proposalId member && second.1.approvedBy second.2.proposalId member

structure OncePerSlot (history : FinalizationHistory) : Prop where
  slots : (history.finalized.map fun entry => (entry.2.slot, entry.2.epoch)).Nodup

def Backed (history : FinalizationHistory) : Prop :=
  ∀ entry ∈ history.finalized, (AttestationThreshold.twoThirds committee.size).minApprovals ≤
    committee.toList.countP (entry.1.approvedBy entry.2.proposalId)

structure Accountable (left right : FinalizationHistory) : Prop where
  leftOnce : left.OncePerSlot
  rightOnce : right.OncePerSlot
  leftBacked : left.Backed committee
  rightBacked : right.Backed committee
  overlap : ∀ first ∈ left.finalized, ∀ second ∈ right.finalized,
    first.2.proposalId ≠ second.2.proposalId → (committee.size - 1) / 3 < common committee first second

variable {sha256 committee} {history : FinalizationHistory} {attempt : FinalizationAttempt}

/-- Each slot is entered by its one finalization, and each finalization had the quorum. -/
structure Sound (sha256 : Sha256) (committee : BTreeSet Bytes32) (history : FinalizationHistory) :
    Prop where
  once : history.OncePerSlot
  entered : ∀ entry ∈ history.finalized,
    history.engine.finalizedSlots[(entry.2.slot, entry.2.epoch)]? ≠ none
  proposals : ∀ entry ∈ history.finalized, entry.2.proposalId = entry.1.proposed.proposalId
  quorums : ∀ entry ∈ history.finalized, ((entry.1.collector committee).checkQuorum sha256
    (.twoThirds committee.size) committee.size).reached = true

variable (sha256 committee) in
theorem sound_start : Sound sha256 committee start :=
  ⟨⟨List.nodup_nil⟩, nofun, nofun, nofun⟩

theorem Sound.finalized {batch : FinalizedBatch} {engine : FinalizationEngine}
    (sound : Sound sha256 committee history) (slot : batch.slot = attempt.proposed.slot)
    (epoch : batch.epoch = attempt.proposed.epoch)
    (proposalId : batch.proposalId = attempt.proposed.proposalId)
    (free : history.engine.finalizedSlots[(attempt.proposed.slot, attempt.proposed.epoch)]? = none)
    (quorum : ((attempt.collector committee).checkQuorum sha256 (.twoThirds committee.size)
      committee.size).reached = true)
    (slots : engine.finalizedSlots = history.engine.finalizedSlots.insert
      (attempt.proposed.slot, attempt.proposed.epoch) attempt.proposed.proposalId) :
    Sound sha256 committee ⟨engine, history.finalized ++ [(attempt, batch)]⟩ := by
  rw [← slot, ← epoch] at free slots
  refine ⟨⟨?_⟩, ?_, ?_, ?_⟩
  · rw [List.map_append]
    refine List.nodup_append.2 ⟨sound.once.slots, List.nodup_singleton _, ?_⟩
    intro key member other isNew same
    rw [List.mem_singleton.1 isNew] at same
    obtain ⟨entry, listed, keyed⟩ := List.mem_map.1 member
    apply sound.entered entry listed
    rw [keyed, same]
    exact free
  · intro entry listed
    show engine.finalizedSlots[(entry.2.slot, entry.2.epoch)]? ≠ none
    rw [slots, BTree.getElem?_insert]
    split
    · exact Option.some_ne_none _
    · rename_i other
      obtain earlier | isNew := List.mem_append.1 listed
      · exact sound.entered entry earlier
      · rw [List.mem_singleton.1 isNew] at other
        exact absurd rfl other
  · intro entry listed
    obtain earlier | isNew := List.mem_append.1 listed
    · exact sound.proposals entry earlier
    · rw [List.mem_singleton.1 isNew]
      exact proposalId
  · intro entry listed
    obtain earlier | isNew := List.mem_append.1 listed
    · exact sound.quorums entry earlier
    · rw [List.mem_singleton.1 isNew]
      exact quorum

theorem Sound.step (sound : Sound sha256 committee history) (attempt : FinalizationAttempt) :
    Sound sha256 committee (FinalizationHistory.step sha256 committee history attempt) := by
  obtain ⟨batch, slot, epoch, proposalId, free, quorum, decided⟩ | ⟨decision, undecided, decided⟩ :=
    history.engine.finalize_cases sha256 attempt.proposed (attempt.collector committee)
      (.twoThirds committee.size) committee.size attempt.height
  · rw [FinalizationHistory.step, decided]
    exact sound.finalized slot epoch proposalId free quorum rfl
  · rw [FinalizationHistory.step, decided]
    cases decision with
    | finalized batch => exact absurd rfl (undecided batch)
    | _ => exact sound

theorem step_finalized (history : FinalizationHistory) (attempt : FinalizationAttempt) :
    (FinalizationHistory.step sha256 committee history attempt).finalized = history.finalized ∨
      ∃ batch, (FinalizationHistory.step sha256 committee history attempt).finalized =
        history.finalized ++ [(attempt, batch)] := by
  unfold FinalizationHistory.step
  split
  · exact .inr ⟨_, rfl⟩
  · exact .inl rfl

variable (sha256 committee) in
theorem sound_run (attempts : List FinalizationAttempt) :
    Sound sha256 committee (run sha256 committee attempts) ∧
      ∀ entry ∈ (run sha256 committee attempts).finalized, entry.1 ∈ attempts := by
  induction attempts using List.reverseRecOn with
  | nil => exact ⟨sound_start sha256 committee, nofun⟩
  | append_singleton attempts attempt ih =>
      rw [run, List.foldl_append]
      refine ⟨ih.1.step attempt, ?_⟩
      intro entry listed
      obtain same | ⟨batch, added⟩ := @step_finalized sha256 committee (run sha256 committee attempts) attempt
      · exact List.mem_append_left _ (ih.2 entry (same ▸ listed))
      · have listed : entry ∈ (run sha256 committee attempts).finalized ++ [(attempt, batch)] :=
          added ▸ listed
        obtain earlier | isNew := List.mem_append.1 listed
        · exact List.mem_append_left _ (ih.2 entry earlier)
        · rw [List.mem_singleton.1 isNew]
          exact List.mem_append_right _ (List.mem_singleton_self _)

theorem quorum_size (named : Named committee attempt)
    (reached : ((attempt.collector committee).checkQuorum sha256 (.twoThirds committee.size)
      committee.size).reached = true) :
    0 < committee.size ∧
      (AttestationThreshold.twoThirds committee.size).minApprovals ≤ (attempt.collector committee).approvals ∧
      (AttestationThreshold.twoThirds committee.size).minApprovals = (committee.size * 2 + 2) / 3 := by
  obtain ⟨-, -, size⟩ := named
  simp only [AttestationCollector.checkQuorum, Bool.and_eq_true, decide_eq_true_eq] at reached
  obtain ⟨fraction, count⟩ := reached
  refine ⟨?_, count, ?_⟩
  · apply Nat.pos_of_ne_zero
    intro empty
    rw [if_pos empty] at fraction
    cases fraction
  · rw [AttestationThreshold.twoThirds, Nat.mod_eq_of_lt (by omega)]

theorem Sound.backed {attempts : List FinalizationAttempt} (sound : Sound sha256 committee history)
    (taken : ∀ entry ∈ history.finalized, entry.1 ∈ attempts)
    (named : ∀ attempt ∈ attempts, Named committee attempt) : history.Backed committee := by
  intro entry listed
  have own := named entry.1 (taken entry listed)
  rw [sound.proposals entry listed]
  exact (quorum_size own (sound.quorums entry listed)).2.1.trans own.approvals_le

/-- Two engines whose collectors hold votes for the proposals they were asked about answer for all they
finalize. -/
theorem accountable_of_named (left right : List FinalizationAttempt)
    (leftNamed : ∀ attempt ∈ left, Named committee attempt)
    (rightNamed : ∀ attempt ∈ right, Named committee attempt) :
    Accountable committee (run sha256 committee left) (run sha256 committee right) := by
  obtain ⟨leftSound, leftTaken⟩ := sound_run sha256 committee left
  obtain ⟨rightSound, rightTaken⟩ := sound_run sha256 committee right
  have leftBacked := leftSound.backed leftTaken leftNamed
  have rightBacked := rightSound.backed rightTaken rightNamed
  refine ⟨leftSound.once, rightSound.once, leftBacked, rightBacked, ?_⟩
  intro first firstListed second secondListed _
  obtain ⟨positive, -, exactly⟩ := quorum_size (leftNamed first.1 (leftTaken first firstListed))
    (leftSound.quorums first firstListed)
  have one := leftBacked first firstListed
  have two := rightBacked second secondListed
  have shared := List.countP_add_countP_le (first.1.approvedBy first.2.proposalId)
    (second.1.approvedBy second.2.proposalId) committee.toList
  rw [exactly] at one two
  rw [Std.ExtTreeSet.length_toList] at shared
  show _ < committee.toList.countP _
  omega

end Runs

section Foreign

def proposedOne : ProposedBatch where
  proposalId := 0x765d588fd1dcccdb8889369392031efe866f93c84e5db69229eea6812ffc0cc5
  slot := 1
  epoch := 1
  leaderId := 10
  orderedSubmissionIds := [1]
  batchRoot := 0xec4916dd28fc4c10d78e287ca5d9cc51ee1ae73cbfde08c6b37324cbfaac8bc5
  parentBatchId := 0

def proposedTwo : ProposedBatch where
  proposalId := 0x40e5f98064f13db49f6796b922b485781f09acd2f609f81bdeff1190fdc130c4
  slot := 1
  epoch := 1
  leaderId := 10
  orderedSubmissionIds := [2]
  batchRoot := 0x9267d3dbed802941483f1afa2a6bc68de5f653128aca9bf1461c5d0a3ad36ed2
  parentBatchId := 0

def attestationSha256 : Sha256 := fun bytes =>
  match bytes.length, (bytes[0]? : Option UInt8), (bytes[63]? : Option UInt8) with
  | 73, some 0x76, some 1 => 0x03dba6a976fb971587f77c802f9c0d6d921d2b8f98987151a654ab922d14192d
  | 73, some 0x76, some 2 => 0x98dbb397812a060c1070c503dbcc493a26efe7192c3a3cccf0bbcd21b569d336
  | 73, some 0x76, _ => 0x8d56b47b80d1d3866252826a3eb392f2df9677541f531f4e1688546dbbde0053
  | 73, _, some 2 => 0x1fb0ae6a3fa23d7d44dc5280c9a6b6ff8de0a7d139f710fce32fcfcb520e1504
  | 73, _, some 3 => 0xc5dde6277543930e91949b68bfe4d55cb9957b730f9767a58600a750ab90d34c
  | 73, _, _ => 0x4513e6ac866b2e6672791e36bc00d3fd03fec1f9f3cf3293df337b171a652c4f
  | 56, some 0x76, _ => 0xc4282c4f6e8342aef41af7b8668db6dc373cbc45b821a493ff69a25ed15587d7
  | 56, _, _ => 0x33fc3aeb92dad2cdfed2137413155576c4f9e171bdfd633a29f6ab05f376870c
  | _, some 0x76, _ => 0x352da24170ac3549c236ce3ad67c8a822e476b06eab16fa952236a36393300ab
  | _, _, _ => 0x7f8d11bd3c553dcf9bb6e3abfb82d38f7de89a33346e56709ebe115d3260b34d

def fourMembers : BTreeSet Bytes32 := [1, 2, 3, 4].foldl .insert ∅

def attemptOn (proposed : ProposedBatch) (votedFor : Bytes32) (voters : List Bytes32) :
    FinalizationAttempt where
  proposed := proposed
  collectorId := proposed.proposalId
  votes := voters.map fun voter => .new attestationSha256 votedFor voter true 1
  height := 100

def firstAttempt : FinalizationAttempt := attemptOn proposedOne proposedOne.proposalId [1, 2, 3]

def secondAttempt : FinalizationAttempt := attemptOn proposedTwo proposedTwo.proposalId [2, 3, 4]

def foreignAttempt : FinalizationAttempt := attemptOn proposedTwo proposedOne.proposalId [1, 2, 3]

theorem firstAttempt_named : Named fourMembers firstAttempt :=
  ⟨by decide +kernel, by decide +kernel, by decide +kernel⟩

theorem secondAttempt_named : Named fourMembers secondAttempt :=
  ⟨by decide +kernel, by decide +kernel, by decide +kernel⟩

theorem rivals_accountable :
    ((run attestationSha256 fourMembers [firstAttempt]).finalized.length = 1 ∧
      (run attestationSha256 fourMembers [secondAttempt]).finalized.length = 1) ∧
    Accountable fourMembers (run attestationSha256 fourMembers [firstAttempt])
      (run attestationSha256 fourMembers [secondAttempt]) := by
  refine ⟨by decide +kernel, accountable_of_named [firstAttempt] [secondAttempt] ?_ ?_⟩
  · intro attempt only
    rw [List.mem_singleton.1 only]
    exact firstAttempt_named
  · intro attempt only
    rw [List.mem_singleton.1 only]
    exact secondAttempt_named

/-- Three votes for one proposal finalize the other, which nobody approved. -/
theorem foreign_votes_finalize :
    ¬ Accountable fourMembers (run attestationSha256 fourMembers [foreignAttempt])
      (run attestationSha256 fourMembers []) := by
  intro accountable
  have backed := accountable.leftBacked
  unfold Backed at backed
  exact absurd backed (by decide +kernel)

end Foreign

end FinalizationHistory

end Omniphi.PoSeq
