import Omniphi.Basic
import Omniphi.Lib.BTree
import Omniphi.Lib.Run

/-! The bridge that submits settlements to the control chain: the life of a submission over retries and
confirmations. -/

namespace Omniphi.Runtime.ChainSettlement

structure ChainSettlementResult where
  batchHash : Bytes32
  preStateRoot : Bytes32
  postStateRoot : Bytes32
  executionReceiptHash : Bytes32
  epoch : U64
  sequenceNumber : U64
  settledCount : U32
  failedCount : U32

def ChainSettlementResult.hash (sha256 : Sha256) (result : ChainSettlementResult) : Bytes32 :=
  sha256 (beBytes 32 result.batchHash ++ beBytes 32 result.preStateRoot ++ beBytes 32 result.postStateRoot ++
    beBytes 32 result.executionReceiptHash ++ beBytes 8 result.epoch ++ beBytes 8 result.sequenceNumber)

structure SettlementAnchor where
  settlementHash : Bytes32
  batchHash : Bytes32
  postStateRoot : Bytes32
  executionReceiptHash : Bytes32
  epoch : U64
  sequenceNumber : U64
  settledCount : U32
  failedCount : U32

def SettlementAnchor.fromResult (sha256 : Sha256) (result : ChainSettlementResult) : SettlementAnchor where
  settlementHash := result.hash sha256
  batchHash := result.batchHash
  postStateRoot := result.postStateRoot
  executionReceiptHash := result.executionReceiptHash
  epoch := result.epoch
  sequenceNumber := result.sequenceNumber
  settledCount := result.settledCount
  failedCount := result.failedCount

inductive SettlementEvidenceType
  | doubleProposal
  | doubleVote
  | invalidBatch
  | fairnessViolation
  | equivocation

structure SettlementEvidence where
  evidenceType : SettlementEvidenceType
  offenderId : Bytes32
  batchHash : Bytes32
  epoch : U64
  description : String
  evidenceHash : Bytes32

structure CheckpointMetadata where
  epoch : U64
  batchHash : Bytes32
  postStateRoot : Bytes32

structure ChainSubmission where
  submissionId : Bytes32
  anchor : SettlementAnchor
  evidence : List SettlementEvidence
  checkpointMetadata : Option CheckpointMetadata
  attempt : U32

inductive SubmissionStatus
  | pending
  | submitted
  | confirmed
  | failed
  deriving DecidableEq

structure SettlementBridge where
  submissions : BTreeMap Bytes32 (ChainSubmission × SubmissionStatus)
  confirmedBatches : BTreeSet Bytes32
  submittedEvidence : BTreeSet Bytes32
  maxRetries : U32

inductive Call
  | prepareSubmission (result : ChainSettlementResult) (evidence : List SettlementEvidence)
      (checkpoint : Option CheckpointMetadata)
  | confirm (batchHash : Bytes32)
  | recordFailure (batchHash : Bytes32)

namespace SettlementBridge

def new (maxRetries : U32) : SettlementBridge :=
  { submissions := ∅, confirmedBatches := ∅, submittedEvidence := ∅, maxRetries }

def computeSubmissionId (sha256 : Sha256) (batchHash settlementHash : Bytes32) : Bytes32 :=
  sha256 (strBytes "SETTLEMENT_SUBMISSION_V1" ++ beBytes 32 batchHash ++ beBytes 32 settlementHash)

variable (sha256 : Sha256) (bridge : SettlementBridge)

def prepareSubmission (result : ChainSettlementResult) (evidence : List SettlementEvidence)
    (checkpoint : Option CheckpointMetadata) : Option ChainSubmission × SettlementBridge :=
  if result.batchHash ∈ bridge.confirmedBatches then (none, bridge)
  else
    let newEvidence := evidence.filter fun e => e.evidenceHash ∉ bridge.submittedEvidence
    let anchor := SettlementAnchor.fromResult sha256 result
    let submission : ChainSubmission :=
      { submissionId := computeSubmissionId sha256 result.batchHash anchor.settlementHash
        anchor, evidence := newEvidence, checkpointMetadata := checkpoint, attempt := 1 }
    (some submission,
      { bridge with submissions := bridge.submissions.insert result.batchHash (submission, .pending) })

def confirm (batchHash : Bytes32) : Bool × SettlementBridge :=
  match bridge.submissions[batchHash]? with
  | some (sub, _) => (true,
      { bridge with
        submissions := bridge.submissions.insert batchHash (sub, .confirmed)
        confirmedBatches := bridge.confirmedBatches.insert batchHash
        submittedEvidence := sub.evidence.foldl (fun seen e => seen.insert e.evidenceHash)
          bridge.submittedEvidence })
  | none => (false, bridge)

/-- A failure is retried, or given up after the last attempt, whatever the status is by then. -/
def recordFailure (batchHash : Bytes32) : Bool × SettlementBridge :=
  match bridge.submissions[batchHash]? with
  | some (sub, _) =>
      if sub.attempt < bridge.maxRetries then
        (true, { bridge with submissions :=
          bridge.submissions.insert batchHash ({ sub with attempt := sub.attempt + 1 }, .pending) })
      else (false, { bridge with submissions := bridge.submissions.insert batchHash (sub, .failed) })
  | none => (false, bridge)

def step : Call → SettlementBridge
  | .prepareSubmission result evidence checkpoint =>
      (bridge.prepareSubmission sha256 result evidence checkpoint).2
  | .confirm batchHash => (bridge.confirm batchHash).2
  | .recordFailure batchHash => (bridge.recordFailure batchHash).2

end SettlementBridge

variable {sha256 : Sha256} {bridge : SettlementBridge}

section Classes

inductive BatchClass
  | pending
  | inFlight
  | confirmed
  | failed

def status (bridge : SettlementBridge) (batchHash : Bytes32) : Option SubmissionStatus :=
  bridge.submissions[batchHash]?.map Prod.snd

def InClass (bridge : SettlementBridge) (batchHash : Bytes32) : BatchClass → Prop
  | .pending => status bridge batchHash = some .pending
  | .inFlight => status bridge batchHash = some .submitted
  | .confirmed => batchHash ∈ bridge.confirmedBatches
  | .failed => status bridge batchHash = some .failed

/-- What a call must do: keep every confirmation and never take a confirmed batch up again, stay within
the retries, and leave each batch in one class alone. -/
structure Upheld (sha256 : Sha256) (bridge : SettlementBridge) (call : Call) : Prop where
  recorded : ∀ batchHash, call = .confirm batchHash → (bridge.confirm batchHash).1 = true →
    batchHash ∈ (bridge.step sha256 call).confirmedBatches
  remembered : ∀ batchHash, batchHash ∈ bridge.confirmedBatches →
    batchHash ∈ (bridge.step sha256 call).confirmedBatches
  settled : ∀ batchHash, batchHash ∈ (bridge.step sha256 call).confirmedBatches →
    status (bridge.step sha256 call) batchHash ≠ some .pending ∧
      status (bridge.step sha256 call) batchHash ≠ some .submitted
  refused : ∀ result evidence checkpoint, call = .prepareSubmission result evidence checkpoint →
    result.batchHash ∈ bridge.confirmedBatches →
    (bridge.prepareSubmission sha256 result evidence checkpoint).1 = none
  attempts : ∀ (batchHash : Bytes32) entry, (bridge.step sha256 call).submissions[batchHash]? = some entry →
    entry.1.attempt ≤ (bridge.step sha256 call).maxRetries
  classes : ∀ batchHash, (bridge.step sha256 call).submissions.contains batchHash →
    ∃! c, InClass (bridge.step sha256 call) batchHash c

def Timely (bridge : SettlementBridge) : Call → Prop
  | .prepareSubmission result _ _ => result.batchHash ∉ bridge.confirmedBatches → bridge.maxRetries ≠ 0
  | .confirm _ => True
  | .recordFailure batchHash => bridge.submissions.contains batchHash → batchHash ∉ bridge.confirmedBatches

structure EntrySound (bridge : SettlementBridge) (batchHash : Bytes32)
    (entry : ChainSubmission × SubmissionStatus) : Prop where
  attempt_le : entry.1.attempt ≤ bridge.maxRetries
  confirmed_iff : entry.2 = .confirmed ↔ batchHash ∈ bridge.confirmedBatches

def Sound (bridge : SettlementBridge) : Prop :=
  ∀ (batchHash : Bytes32) entry, bridge.submissions[batchHash]? = some entry → EntrySound bridge batchHash entry

theorem status_found {batchHash : Bytes32} {entry : ChainSubmission × SubmissionStatus}
    (found : bridge.submissions[batchHash]? = some entry) : status bridge batchHash = some entry.2 := by
  rw [status, found, Option.map_some]

def classOf : SubmissionStatus → BatchClass
  | .pending => .pending
  | .submitted => .inFlight
  | .confirmed => .confirmed
  | .failed => .failed

theorem inClass_iff {batchHash : Bytes32} {entry : ChainSubmission × SubmissionStatus}
    (found : bridge.submissions[batchHash]? = some entry)
    (same : entry.2 = .confirmed ↔ batchHash ∈ bridge.confirmedBatches) (c : BatchClass) :
    InClass bridge batchHash c ↔ c = classOf entry.2 := by
  have is := status_found found
  cases c with
  | confirmed =>
      rw [InClass, ← same]
      cases entry.2 <;> simp [classOf]
  | pending | inFlight | failed =>
      rw [InClass, is, Option.some.injEq]
      cases entry.2 <;> simp [classOf]

theorem existsUnique_class_iff {batchHash : Bytes32} {entry : ChainSubmission × SubmissionStatus}
    (found : bridge.submissions[batchHash]? = some entry) :
    (∃! c, InClass bridge batchHash c) ↔ (entry.2 = .confirmed ↔ batchHash ∈ bridge.confirmedBatches) := by
  have is := status_found found
  constructor
  · rintro ⟨c, here, alone⟩
    constructor
    · intro confirmed
      rw [confirmed] at is
      cases c with
      | confirmed => exact here
      | pending | inFlight | failed => cases is.symm.trans here
    · intro confirmed
      obtain rfl := alone .confirmed confirmed
      cases at_ : entry.2 with
      | confirmed => rfl
      | pending => cases alone .pending (is.trans (congrArg some at_))
      | submitted => cases alone .inFlight (is.trans (congrArg some at_))
      | failed => cases alone .failed (is.trans (congrArg some at_))
  · intro same
    exact ⟨classOf entry.2, (inClass_iff found same _).2 rfl, fun c => (inClass_iff found same c).1⟩

end Classes

section Steps

theorem sound_insert_iff (sound : Sound bridge) {batchHash : Bytes32} {entry : ChainSubmission × SubmissionStatus}
    {confirmed evidence : BTreeSet Bytes32}
    (others : ∀ other, other ≠ batchHash → (other ∈ confirmed ↔ other ∈ bridge.confirmedBatches)) :
    Sound ⟨bridge.submissions.insert batchHash entry, confirmed, evidence, bridge.maxRetries⟩ ↔
      entry.1.attempt ≤ bridge.maxRetries ∧ (entry.2 = .confirmed ↔ batchHash ∈ confirmed) := by
  constructor
  · intro after
    obtain ⟨attempt, same⟩ := after batchHash entry (by rw [BTree.getElem?_insert, if_pos rfl])
    exact ⟨attempt, same⟩
  · rintro ⟨attempt, same⟩ other held found
    dsimp only at found
    rw [BTree.getElem?_insert] at found
    split at found
    · rename_i here
      subst here
      obtain rfl := Option.some.inj found
      exact ⟨attempt, same⟩
    · rename_i elsewhere
      obtain ⟨attempt', same'⟩ := sound other held found
      exact ⟨attempt', same'.trans (others other (Ne.symm elsewhere)).symm⟩

theorem prepare_sound_iff (sound : Sound bridge) (result : ChainSettlementResult)
    (evidence : List SettlementEvidence) (checkpoint : Option CheckpointMetadata) :
    Sound (bridge.prepareSubmission sha256 result evidence checkpoint).2 ↔
      Timely bridge (.prepareSubmission result evidence checkpoint) := by
  unfold SettlementBridge.prepareSubmission Timely
  split_ifs with confirmed
  · exact iff_of_true sound fun fresh => absurd confirmed fresh
  · refine (sound_insert_iff sound fun _ _ => Iff.rfl).trans ?_
    constructor
    · rintro ⟨attempt, -⟩ - zero
      rw [zero] at attempt
      have one : (1 : U32) ≤ 0 := attempt
      exact absurd one (by decide)
    · intro allowed
      have positive := allowed confirmed
      refine ⟨?_, iff_of_false nofun confirmed⟩
      dsimp only
      bv_omega

theorem confirm_sound (sound : Sound bridge) (batchHash : Bytes32) : Sound (bridge.confirm batchHash).2 := by
  unfold SettlementBridge.confirm
  cases found : bridge.submissions[batchHash]? with
  | none => exact sound
  | some entry =>
      refine (sound_insert_iff sound fun other elsewhere => ?_).2
        ⟨(sound batchHash entry found).attempt_le, iff_of_true rfl Std.ExtTreeSet.mem_insert_self⟩
      rw [Std.ExtTreeSet.mem_insert, Std.LawfulEqCmp.compare_eq_iff_eq]
      exact or_iff_right (Ne.symm elsewhere)

theorem recordFailure_sound_iff (sound : Sound bridge) (batchHash : Bytes32) :
    Sound (bridge.recordFailure batchHash).2 ↔ Timely bridge (.recordFailure batchHash) := by
  simp only [SettlementBridge.recordFailure, Timely, Std.ExtTreeMap.contains_eq_isSome_getElem?]
  cases found : bridge.submissions[batchHash]? with
  | none => exact iff_of_true sound nofun
  | some entry =>
      dsimp only
      have before := (sound batchHash entry found).attempt_le
      split_ifs with more
      · refine (sound_insert_iff sound fun _ _ => Iff.rfl).trans ?_
        constructor
        · rintro ⟨-, same⟩ - confirmed
          cases same.2 confirmed
        · intro timely
          refine ⟨?_, iff_of_false nofun (timely rfl)⟩
          dsimp only
          bv_omega
      · refine (sound_insert_iff sound fun _ _ => Iff.rfl).trans ?_
        constructor
        · rintro ⟨-, same⟩ - confirmed
          cases same.2 confirmed
        · intro timely
          exact ⟨before, iff_of_false nofun (timely rfl)⟩

theorem sound_step_iff (sound : Sound bridge) (call : Call) :
    Sound (bridge.step sha256 call) ↔ Timely bridge call := by
  cases call with
  | prepareSubmission result evidence checkpoint => exact prepare_sound_iff sound result evidence checkpoint
  | confirm batchHash => exact iff_of_true (confirm_sound sound batchHash) trivial
  | recordFailure batchHash => exact recordFailure_sound_iff sound batchHash

theorem remembered_step (bridge : SettlementBridge) (call : Call) (batchHash : Bytes32)
    (confirmed : batchHash ∈ bridge.confirmedBatches) :
    batchHash ∈ (bridge.step sha256 call).confirmedBatches := by
  cases call with
  | prepareSubmission result evidence checkpoint =>
      rw [SettlementBridge.step, SettlementBridge.prepareSubmission]
      split <;> exact confirmed
  | confirm other =>
      rw [SettlementBridge.step, SettlementBridge.confirm]
      split
      · exact Std.ExtTreeSet.mem_insert.2 (Or.inr confirmed)
      · exact confirmed
  | recordFailure other =>
      rw [SettlementBridge.step, SettlementBridge.recordFailure]
      split
      · split <;> exact confirmed
      · exact confirmed

theorem upheld_iff (call : Call) : Upheld sha256 bridge call ↔ Sound (bridge.step sha256 call) := by
  constructor
  · intro upheld batchHash entry found
    refine ⟨upheld.attempts batchHash entry found, (existsUnique_class_iff found).1 (upheld.classes batchHash ?_)⟩
    rw [Std.ExtTreeMap.contains_eq_isSome_getElem?, found, Option.isSome_some]
  · intro sound
    have apart : ∀ batchHash, batchHash ∈ (bridge.step sha256 call).confirmedBatches → ∀ other,
        other ≠ .confirmed → status (bridge.step sha256 call) batchHash ≠ some other := by
      intro batchHash confirmed other different at_
      obtain ⟨entry, found, rfl⟩ := Option.map_eq_some_iff.1 at_
      exact different ((sound batchHash entry found).confirmed_iff.2 confirmed)
    constructor
    · rintro batchHash rfl answered
      rw [SettlementBridge.step]
      unfold SettlementBridge.confirm at answered ⊢
      split at answered
      · exact Std.ExtTreeSet.mem_insert_self
      · cases answered
    · exact remembered_step bridge call
    · intro batchHash confirmed
      exact ⟨apart batchHash confirmed _ nofun, apart batchHash confirmed _ nofun⟩
    · intro result evidence checkpoint _ confirmed
      rw [SettlementBridge.prepareSubmission, if_pos confirmed]
    · intro batchHash entry found
      exact (sound batchHash entry found).attempt_le
    · intro batchHash enqueued
      rw [Std.ExtTreeMap.contains_eq_isSome_getElem?, Option.isSome_iff_exists] at enqueued
      obtain ⟨entry, found⟩ := enqueued
      exact (existsUnique_class_iff found).2 (sound batchHash entry found).confirmed_iff

end Steps

section Runs

theorem sound_new (maxRetries : U32) : Sound (.new maxRetries) := by
  intro batchHash entry found
  simp [SettlementBridge.new] at found

/-- The discipline holds over a run exactly when no failure of a confirmed batch is recorded, and nothing
is prepared under a bridge without attempts. -/
theorem discipline_along_iff (sha256 : Sha256) (maxRetries : U32) (calls : List Call) :
    Run.Along (SettlementBridge.step sha256) (Upheld sha256) (.new maxRetries) calls ↔
      Run.Along (SettlementBridge.step sha256) Timely (.new maxRetries) calls := by
  refine Run.along_congr ?_ ?_ (sound_new maxRetries) calls
  · intro bridge call sound
    exact (upheld_iff call).trans (sound_step_iff sound call)
  · intro bridge call _ upheld
    exact (upheld_iff call).1 upheld

def result : ChainSettlementResult :=
  { batchHash := 1, preStateRoot := 0xAA, postStateRoot := 0xBB, executionReceiptHash := 0xCC, epoch := 1
    sequenceNumber := 1, settledCount := 3, failedCount := 0 }

def lateFailure : List Call := [.prepareSubmission result [] none, .confirm 1, .recordFailure 1]

theorem lateFailure_revives : ¬ ∃ sha256, ∀ maxRetries calls,
    Run.Along (SettlementBridge.step sha256) (Upheld sha256) (.new maxRetries) calls := by
  rintro ⟨sha256, upheld⟩
  obtain ⟨-, -, timely, -⟩ := (discipline_along_iff sha256 3 lateFailure).1 (upheld 3 lateFailure)
  let prepared := (SettlementBridge.new 3).step sha256 (.prepareSubmission result [] none)
  have held : prepared.submissions.contains 1 = true := by
    simp [prepared, SettlementBridge.step, SettlementBridge.prepareSubmission, SettlementBridge.new, result]
  obtain ⟨entry, found⟩ : ∃ entry, prepared.submissions[(1 : Bytes32)]? = some entry := by
    rwa [Std.ExtTreeMap.contains_eq_isSome_getElem?, Option.isSome_iff_exists] at held
  have confirmed : prepared.step sha256 (.confirm 1) = ⟨prepared.submissions.insert 1 (entry.1, .confirmed),
      prepared.confirmedBatches.insert 1,
      entry.1.evidence.foldl (fun seen e => seen.insert e.evidenceHash) prepared.submittedEvidence,
      prepared.maxRetries⟩ := by
    rw [SettlementBridge.step, SettlementBridge.confirm, found]
  rw [show (SettlementBridge.new 3).step sha256 (.prepareSubmission result [] none) = prepared from rfl, confirmed,
    Timely] at timely
  exact timely Std.ExtTreeMap.contains_insert_self Std.ExtTreeSet.mem_insert_self

end Runs

end Omniphi.Runtime.ChainSettlement
