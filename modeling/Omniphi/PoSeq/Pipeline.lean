import Omniphi.Lib.Run
import Omniphi.PoSeq.Finalization

/-! Delivery of finalized batches to the runtime: the bridge with its replay guard, the pipeline over it,
and when the outcome of a batch stays what it is. -/

namespace Omniphi.PoSeq

structure FairnessMeta where
  policyVersion : U32
  forcedInclusionCount : U32
  rateLimitedCount : U32
  perSubmissionClass : List UInt8

structure BatchCommitment where
  commitmentHash : Bytes32
  finalizationHash : Bytes32
  deliveryId : Bytes32
  submissionRoot : Bytes32

def BatchCommitment.compute (sha256 : Sha256) (finalizationHash deliveryId : Bytes32)
    (orderedIds : List Bytes32) : BatchCommitment :=
  let submissionRoot := sha256 (orderedIds.flatMap (beBytes 32))
  { commitmentHash :=
      sha256 (beBytes 32 finalizationHash ++ beBytes 32 deliveryId ++ beBytes 32 submissionRoot)
    finalizationHash, deliveryId, submissionRoot }

structure RuntimeDeliveryEnvelope where
  deliveryId : Bytes32
  batchId : Bytes32
  slot : U64
  epoch : U64
  orderedSubmissionIds : List Bytes32
  batchRoot : Bytes32
  attemptCount : U32
  deliveryHash : Bytes32

namespace RuntimeDeliveryEnvelope

def computeDeliveryId (sha256 : Sha256) (batchId : Bytes32) (attemptCount : U32) : Bytes32 :=
  sha256 (beBytes 32 batchId ++ beBytes 4 attemptCount)

def computeDeliveryHash (sha256 : Sha256) (deliveryId batchId : Bytes32) : Bytes32 :=
  sha256 (beBytes 32 deliveryId ++ beBytes 32 batchId)

def build (sha256 : Sha256) (batch : FinalizedBatch) (attemptCount : U32) : RuntimeDeliveryEnvelope :=
  let deliveryId := computeDeliveryId sha256 batch.batchId attemptCount
  { deliveryId, batchId := batch.batchId, slot := batch.slot, epoch := batch.epoch
    orderedSubmissionIds := batch.orderedSubmissionIds, batchRoot := batch.batchRoot, attemptCount
    deliveryHash := computeDeliveryHash sha256 deliveryId batch.batchId }

end RuntimeDeliveryEnvelope

structure FinalizationEnvelope where
  batchId : Bytes32
  deliveryId : Bytes32
  attemptCount : U32
  slot : U64
  epoch : U64
  sequenceNumber : U64
  leaderId : Bytes32
  parentBatchId : Bytes32
  orderedSubmissionIds : List Bytes32
  batchRoot : Bytes32
  finalizationHash : Bytes32
  quorumApprovals : Nat
  committeeSize : Nat
  fairness : FairnessMeta
  commitment : BatchCommitment

def FinalizationEnvelope.build (sha256 : Sha256) (batch : FinalizedBatch)
    (delivery : RuntimeDeliveryEnvelope) (sequenceNumber : U64) (fairness : FairnessMeta) :
    FinalizationEnvelope where
  batchId := batch.batchId
  deliveryId := delivery.deliveryId
  attemptCount := delivery.attemptCount
  slot := batch.slot
  epoch := batch.epoch
  sequenceNumber := sequenceNumber
  leaderId := batch.leaderId
  parentBatchId := batch.parentBatchId
  orderedSubmissionIds := batch.orderedSubmissionIds
  batchRoot := batch.batchRoot
  finalizationHash := batch.finalizationHash
  quorumApprovals := batch.quorumSummary.approvals
  committeeSize := batch.quorumSummary.totalVotes
  fairness := fairness
  commitment := .compute sha256 batch.finalizationHash delivery.deliveryId batch.orderedSubmissionIds

structure RuntimeIngestionAck where
  batchId : Bytes32
  deliveryId : Bytes32
  epoch : U64
  succeededCount : Nat
  failedCount : Nat
  executionResultRef : Option Bytes32

inductive RejectionCause
  | invalidEnvelope (text : String)
  | alreadyApplied
  | transientUnavailable (text : String)
  | executionFailure (text : String)
  | safetyBlock (text : String)
deriving DecidableEq

def RejectionCause.isRetryable : RejectionCause → Bool
  | transientUnavailable _ => true
  | _ => false

structure RuntimeIngestionRejection where
  batchId : Bytes32
  deliveryId : Bytes32
  epoch : U64
  cause : RejectionCause

structure RuntimeExecutionAck where
  batchId : Bytes32
  deliveryId : Bytes32
  accepted : Bool
  epoch : U64

/-- The reason is the cause itself where the source keeps its debug text. -/
structure RuntimeExecutionRejection where
  batchId : Bytes32
  deliveryId : Bytes32
  reason : RejectionCause
  epoch : U64

structure BridgeDeliveryRecord where
  deliveryId : Bytes32
  batchId : Bytes32
  delivered : Bool
  acked : Bool
  accepted : Bool
  attemptCount : U32

inductive BridgeError
  | ackReplay
deriving DecidableEq

structure HardenedRuntimeBridge where
  records : KeyedMap BridgeDeliveryRecord.batchId
  ackReplayGuard : BTreeMap Bytes32 Bool
  rejections : List RuntimeExecutionRejection

namespace HardenedRuntimeBridge

def new : HardenedRuntimeBridge := { records := .empty, ackReplayGuard := ∅, rejections := [] }

def deliver (sha256 : Sha256) (bridge : HardenedRuntimeBridge) (batch : FinalizedBatch) :
    RuntimeDeliveryEnvelope × HardenedRuntimeBridge :=
  let envelope := RuntimeDeliveryEnvelope.build sha256 batch 1
  match bridge.records.get? batch.batchId with
  | some _ =>
      (envelope,
        { bridge with
          records := bridge.records.modify batch.batchId
            (fun record => { record with attemptCount := MachineInt.saturatingAdd record.attemptCount 1 })
            (fun _ => rfl) })
  | none =>
      (envelope,
        { bridge with
          records := bridge.records.insert
            { deliveryId := envelope.deliveryId, batchId := batch.batchId, delivered := true
              acked := false, accepted := false, attemptCount := 1 } })

def marked (accepted : Bool) (record : BridgeDeliveryRecord) : BridgeDeliveryRecord :=
  { record with acked := true, accepted }

def recordAck (bridge : HardenedRuntimeBridge) (ack : RuntimeExecutionAck) :
    Except BridgeError HardenedRuntimeBridge :=
  if bridge.ackReplayGuard.contains ack.deliveryId then .error .ackReplay
  else
    .ok { bridge with
      ackReplayGuard := bridge.ackReplayGuard.insert ack.deliveryId true
      records := bridge.records.modify ack.batchId (marked ack.accepted) (fun _ => rfl) }

def recordRejection (bridge : HardenedRuntimeBridge) (rej : RuntimeExecutionRejection) :
    HardenedRuntimeBridge :=
  { bridge with
    records := bridge.records.modify rej.batchId (marked false) (fun _ => rfl)
    rejections := bridge.rejections ++ [rej] }

def getRecord (bridge : HardenedRuntimeBridge) (batchId : Bytes32) : Option BridgeDeliveryRecord :=
  bridge.records.get? batchId

end HardenedRuntimeBridge

inductive PipelineState
  | pending
  | accepted
  | rejectedRetryable
  | rejectedTerminal
deriving DecidableEq, Repr

structure BatchLifecycleEntry where
  batchId : Bytes32
  epoch : U64
  attemptCount : U32
  state : PipelineState
  executionResultRef : Option Bytes32
  rejectionCause : Option RejectionCause

namespace BatchLifecycleEntry

def acknowledged (executionResultRef : Option Bytes32) (entry : BatchLifecycleEntry) :
    BatchLifecycleEntry :=
  { entry with state := .accepted, executionResultRef }

def refused (cause : RejectionCause) (entry : BatchLifecycleEntry) : BatchLifecycleEntry :=
  { entry with
    state := if cause.isRetryable then .rejectedRetryable else .rejectedTerminal
    rejectionCause := some cause }

end BatchLifecycleEntry

structure BatchPipeline where
  bridge : HardenedRuntimeBridge
  nextSequence : U64
  lifecycle : KeyedMap BatchLifecycleEntry.batchId

namespace BatchPipeline

def new : BatchPipeline := { bridge := .new, nextSequence := 1, lifecycle := .empty }

def deliver (sha256 : Sha256) (pipeline : BatchPipeline) (batch : FinalizedBatch)
    (fairness : FairnessMeta) : FinalizationEnvelope × BatchPipeline :=
  let (delivery, bridge) := pipeline.bridge.deliver sha256 batch
  let envelope := FinalizationEnvelope.build sha256 batch delivery pipeline.nextSequence fairness
  let lifecycle := match pipeline.lifecycle.get? batch.batchId with
    | some _ => pipeline.lifecycle.modify batch.batchId
        (fun entry => { entry with attemptCount := delivery.attemptCount }) (fun _ => rfl)
    | none => pipeline.lifecycle.insert
        { batchId := batch.batchId, epoch := batch.epoch, attemptCount := 1, state := .pending
          executionResultRef := none, rejectionCause := none }
  (envelope, { bridge, nextSequence := pipeline.nextSequence + 1, lifecycle })

def recordAck (pipeline : BatchPipeline) (ack : RuntimeIngestionAck) :
    Except BridgeError Unit × BatchPipeline :=
  match pipeline.bridge.recordAck ⟨ack.batchId, ack.deliveryId, 0 < ack.succeededCount, ack.epoch⟩ with
  | .error e => (.error e, pipeline)
  | .ok bridge =>
      (.ok (), { pipeline with
        bridge
        lifecycle := pipeline.lifecycle.modify ack.batchId (.acknowledged ack.executionResultRef)
          (fun _ => rfl) })

def recordRejection (pipeline : BatchPipeline) (rej : RuntimeIngestionRejection) : BatchPipeline :=
  { pipeline with
    bridge := pipeline.bridge.recordRejection ⟨rej.batchId, rej.deliveryId, rej.cause, rej.epoch⟩
    lifecycle := pipeline.lifecycle.modify rej.batchId (.refused rej.cause) (fun _ => rfl) }

def needsRetry (pipeline : BatchPipeline) (batchId : Bytes32) : Bool :=
  ((pipeline.lifecycle.get? batchId).map fun entry => decide (entry.state = .rejectedRetryable)).getD false

def isTerminal (pipeline : BatchPipeline) (batchId : Bytes32) : Bool :=
  ((pipeline.lifecycle.get? batchId).map fun entry =>
    decide (entry.state = .accepted ∨ entry.state = .rejectedTerminal)).getD false

inductive Call
  | deliver (batch : FinalizedBatch) (fairness : FairnessMeta)
  | recordAck (ack : RuntimeIngestionAck)
  | recordRejection (rej : RuntimeIngestionRejection)

def Call.deliveryId : Call → Option Bytes32
  | deliver _ _ => none
  | recordAck ack => some ack.deliveryId
  | recordRejection rej => some rej.deliveryId

def stateOf (pipeline : BatchPipeline) (batchId : Bytes32) : Option PipelineState :=
  (pipeline.lifecycle.get? batchId).map BatchLifecycleEntry.state

def returnedId (sha256 : Sha256) (batchId : Bytes32) : Bytes32 :=
  RuntimeDeliveryEnvelope.computeDeliveryId sha256 batchId 1

section Finality

variable (sha256 : Sha256)

def step (pipeline : BatchPipeline) : Call → BatchPipeline
  | .deliver batch fairness => (pipeline.deliver sha256 batch fairness).2
  | .recordAck ack => (pipeline.recordAck ack).2
  | .recordRejection rej => pipeline.recordRejection rej

structure Final (before after : BatchPipeline) (carried : Option Bytes32) : Prop where
  stays : ∀ batchId, before.isTerminal batchId = true → after.stateOf batchId = before.stateOf batchId
  noRetry : ∀ batchId, before.isTerminal batchId = true → after.needsRetry batchId = false
  own : ∀ batchId state, before.stateOf batchId = some state → after.stateOf batchId ≠ some state →
    carried = some (returnedId sha256 batchId)
  agree : ∀ batchId, after.stateOf batchId = some .accepted ↔
    ∃ record, after.bridge.getRecord batchId = some record ∧ record.acked = true ∧ record.accepted = true

/-- The message says what the batch's state says already, or the batch is still open and the message
carries its delivery id. -/
def Timely (pipeline : BatchPipeline) (batchId deliveryId : Bytes32) (target : PipelineState) : Prop :=
  ∀ state ∈ pipeline.stateOf batchId,
    state = target ∨ (pipeline.isTerminal batchId = false ∧ deliveryId = returnedId sha256 batchId)

def Orderly (pipeline : BatchPipeline) : Call → Prop
  | .deliver _ _ => True
  | .recordAck ack =>
      pipeline.bridge.ackReplayGuard.contains ack.deliveryId = true ∨
        Timely sha256 pipeline ack.batchId ack.deliveryId .accepted ∧
          (pipeline.stateOf ack.batchId ≠ none → 0 < ack.succeededCount)
  | .recordRejection rej =>
      Timely sha256 pipeline rej.batchId rej.deliveryId
        (if rej.cause.isRetryable then .rejectedRetryable else .rejectedTerminal)

structure Paired (pipeline : BatchPipeline) : Prop where
  known : ∀ batchId, (pipeline.lifecycle.get? batchId).isSome = (pipeline.bridge.getRecord batchId).isSome
  agree : ∀ batchId, pipeline.stateOf batchId = some .accepted ↔
    ∃ record, pipeline.bridge.getRecord batchId = some record ∧ record.acked = true ∧ record.accepted = true

variable {sha256} {pipeline after : BatchPipeline}

theorem isTerminal_eq (batchId : Bytes32) : pipeline.isTerminal batchId =
    decide (pipeline.stateOf batchId = some .accepted ∨ pipeline.stateOf batchId = some .rejectedTerminal) := by
  unfold isTerminal stateOf
  cases pipeline.lifecycle.get? batchId with
  | none => simp
  | some entry => simp

theorem needsRetry_eq (batchId : Bytes32) : pipeline.needsRetry batchId =
    decide (pipeline.stateOf batchId = some .rejectedRetryable) := by
  unfold needsRetry stateOf
  cases pipeline.lifecycle.get? batchId with
  | none => simp
  | some entry => simp

theorem needsRetry_of_stays {batchId : Bytes32} (terminal : pipeline.isTerminal batchId = true)
    (stays : after.stateOf batchId = pipeline.stateOf batchId) : after.needsRetry batchId = false := by
  rw [isTerminal_eq, decide_eq_true_eq] at terminal
  rw [needsRetry_eq, stays, decide_eq_false_iff_not]
  intro retryable
  rw [retryable] at terminal
  obtain terminal | terminal := terminal
  · cases terminal
  · cases terminal

/-- The effect of a message that is let in: the batch, if known, goes to the target and its record is
marked. -/
structure Concludes (before after : BatchPipeline) (batchId : Bytes32) (target : PipelineState)
    (accepted : Bool) : Prop where
  states : ∀ id, after.stateOf id =
    if batchId = id then (before.stateOf id).map fun _ => target else before.stateOf id
  records : ∀ id, after.bridge.getRecord id =
    if batchId = id then (before.bridge.getRecord id).map (HardenedRuntimeBridge.marked accepted)
    else before.bridge.getRecord id

theorem Concludes.known {batchId : Bytes32} {target : PipelineState} {accepted : Bool}
    (concludes : Concludes pipeline after batchId target accepted) (paired : pipeline.Paired)
    (id : Bytes32) :
    (after.lifecycle.get? id).isSome = (after.bridge.getRecord id).isSome := by
  have states := congrArg Option.isSome (concludes.states id)
  have before := paired.known id
  rw [stateOf, Option.isSome_map] at states
  rw [states, concludes.records]
  split
  · rw [Option.isSome_map, Option.isSome_map, stateOf, Option.isSome_map, before]
  · rw [stateOf, Option.isSome_map, before]

section Concluded

variable {batchId deliveryId : Bytes32} {target : PipelineState} {accepted : Bool}
  (concludes : Concludes pipeline after batchId target accepted)

include concludes

theorem Concludes.reaches {state : PipelineState} (held : pipeline.stateOf batchId = some state) :
    after.stateOf batchId = some target := by
  rw [concludes.states, if_pos rfl, held, Option.map_some]

theorem Concludes.agree_iff (paired : pipeline.Paired) {state : PipelineState}
    (held : pipeline.stateOf batchId = some state) :
    (after.stateOf batchId = some .accepted ↔ ∃ record, after.bridge.getRecord batchId = some record ∧
      record.acked = true ∧ record.accepted = true) ↔ (target = .accepted ↔ accepted = true) := by
  have present : (pipeline.bridge.getRecord batchId).isSome = true := by
    rw [← paired.known, ← Option.isSome_map, show Option.map BatchLifecycleEntry.state _ = _ from held,
      Option.isSome_some]
  obtain ⟨record, recorded⟩ := Option.isSome_iff_exists.1 present
  rw [concludes.reaches held, concludes.records, if_pos rfl, recorded, Option.some.injEq]
  simp [HardenedRuntimeBridge.marked]

theorem Concludes.agree_elsewhere (paired : pipeline.Paired) {id : Bytes32}
    (elsewhere : batchId = id → pipeline.stateOf batchId = none) :
    after.stateOf id = some .accepted ↔ ∃ record, after.bridge.getRecord id = some record ∧
      record.acked = true ∧ record.accepted = true := by
  by_cases here : batchId = id
  · subst here
    have unknown := elsewhere rfl
    have absent : pipeline.bridge.getRecord batchId = none := by
      rw [← Option.isNone_iff_eq_none, ← Option.not_isSome, ← paired.known, ← Option.isSome_map,
        show Option.map BatchLifecycleEntry.state _ = _ from unknown]
      rfl
    rw [concludes.states, concludes.records, if_pos rfl, if_pos rfl, unknown, absent]
    simp
  · rw [concludes.states, concludes.records, if_neg here, if_neg here]
    exact paired.agree id

theorem Concludes.timely (final : Final sha256 pipeline after (some deliveryId)) :
    Timely sha256 pipeline batchId deliveryId target := by
  intro state held
  by_cases same : state = target
  · exact .inl same
  have moved : after.stateOf batchId ≠ some state := by
    rw [concludes.reaches held]
    intro back
    exact same (Option.some.inj back).symm
  refine .inr ⟨?_, Option.some.inj (final.own batchId state held moved)⟩
  rw [Bool.eq_false_iff]
  intro terminal
  exact moved ((final.stays batchId terminal).trans held)

theorem Concludes.final (paired : pipeline.Paired) (timely : Timely sha256 pipeline batchId deliveryId target)
    (fits : pipeline.stateOf batchId ≠ none → (target = .accepted ↔ accepted = true)) :
    Final sha256 pipeline after (some deliveryId) := by
  have stays : ∀ id, pipeline.isTerminal id = true → after.stateOf id = pipeline.stateOf id := by
    intro id terminal
    by_cases here : batchId = id
    · subst here
      cases held : pipeline.stateOf batchId with
      | none => rw [concludes.states, if_pos rfl, held, Option.map_none]
      | some state =>
          obtain same | ⟨notTerminal, -⟩ := timely state held
          · rw [concludes.reaches held, same]
          · rw [terminal] at notTerminal
            cases notTerminal
    · rw [concludes.states, if_neg here]
  refine ⟨stays, fun id terminal => needsRetry_of_stays terminal (stays id terminal), ?_, ?_⟩
  · intro id state held moved
    by_cases here : batchId = id
    · subst here
      obtain same | ⟨-, carried⟩ := timely state held
      · rw [concludes.reaches held, same] at moved
        exact absurd rfl moved
      · rw [carried]
    · rw [concludes.states, if_neg here] at moved
      exact absurd held moved
  · intro id
    by_cases known : batchId = id ∧ pipeline.stateOf batchId ≠ none
    · obtain ⟨rfl, known⟩ := known
      obtain ⟨state, held⟩ := Option.ne_none_iff_exists'.1 known
      exact (concludes.agree_iff paired held).2 (fits known)
    · apply concludes.agree_elsewhere paired
      intro here
      by_contra held
      exact known ⟨here, held⟩

theorem Concludes.final_iff (paired : pipeline.Paired) :
    Final sha256 pipeline after (some deliveryId) ↔
      Timely sha256 pipeline batchId deliveryId target ∧
        (pipeline.stateOf batchId ≠ none → (target = .accepted ↔ accepted = true)) := by
  constructor
  · intro final
    refine ⟨concludes.timely final, ?_⟩
    intro known
    obtain ⟨state, held⟩ := Option.ne_none_iff_exists'.1 known
    exact (concludes.agree_iff paired held).1 (final.agree batchId)
  · intro ⟨timely, fits⟩
    exact concludes.final paired timely fits

end Concluded

theorem map_state_modify (lifecycle : KeyedMap BatchLifecycleEntry.batchId) (batchId id : Bytes32)
    (change : BatchLifecycleEntry → BatchLifecycleEntry) {target : PipelineState}
    (keeps : ∀ entry, (change entry).batchId = entry.batchId)
    (reaches : ∀ entry, (change entry).state = target) :
    ((lifecycle.modify batchId change keeps).get? id).map BatchLifecycleEntry.state =
      if batchId = id then ((lifecycle.get? id).map BatchLifecycleEntry.state).map fun _ => target
      else (lifecycle.get? id).map BatchLifecycleEntry.state := by
  rw [KeyedMap.get?_modify]
  split
  · rw [Option.map_map, Option.map_map]
    congr 1
    funext entry
    exact reaches entry
  · rfl

theorem concludes_recordRejection (pipeline : BatchPipeline) (rej : RuntimeIngestionRejection) :
    Concludes pipeline (pipeline.recordRejection rej) rej.batchId
      (if rej.cause.isRetryable then .rejectedRetryable else .rejectedTerminal) false where
  states := fun id =>
    map_state_modify pipeline.lifecycle rej.batchId id (.refused rej.cause) (fun _ => rfl) (fun _ => rfl)
  records := fun id =>
    pipeline.bridge.records.get?_modify rej.batchId id (HardenedRuntimeBridge.marked false) (fun _ => rfl)

theorem recordAck_replayed {ack : RuntimeIngestionAck}
    (replayed : pipeline.bridge.ackReplayGuard.contains ack.deliveryId = true) :
    (pipeline.recordAck ack).2 = pipeline := by
  simp only [recordAck, HardenedRuntimeBridge.recordAck, replayed, if_true]

theorem concludes_recordAck {ack : RuntimeIngestionAck}
    (fresh : pipeline.bridge.ackReplayGuard.contains ack.deliveryId = false) :
    Concludes pipeline (pipeline.recordAck ack).2 ack.batchId .accepted (0 < ack.succeededCount) := by
  simp only [recordAck, HardenedRuntimeBridge.recordAck, fresh, Bool.false_eq_true, if_false]
  constructor
  · intro id
    exact map_state_modify pipeline.lifecycle ack.batchId id (.acknowledged ack.executionResultRef)
      (fun _ => rfl) (fun _ => rfl)
  · intro id
    exact pipeline.bridge.records.get?_modify ack.batchId id
      (HardenedRuntimeBridge.marked (0 < ack.succeededCount)) (fun _ => rfl)

section Delivery

def verdict (pipeline : BatchPipeline) (batchId : Bytes32) : Option (Bool × Bool) :=
  (pipeline.bridge.getRecord batchId).map fun record => (record.acked, record.accepted)

theorem verdict_eq (batchId : Bytes32) : pipeline.verdict batchId = some (true, true) ↔
    ∃ record, pipeline.bridge.getRecord batchId = some record ∧ record.acked = true ∧
      record.accepted = true := by
  rw [verdict, Option.map_eq_some_iff]
  simp only [Prod.mk.injEq]

theorem deliver_again {batch : FinalizedBatch} {fairness : FairnessMeta} {entry : BatchLifecycleEntry}
    {record : BridgeDeliveryRecord} (held : pipeline.lifecycle.get? batch.batchId = some entry)
    (recorded : pipeline.bridge.records.get? batch.batchId = some record) (id : Bytes32) :
    (pipeline.deliver sha256 batch fairness).2.stateOf id = pipeline.stateOf id ∧
      (pipeline.deliver sha256 batch fairness).2.verdict id = pipeline.verdict id := by
  simp only [deliver, HardenedRuntimeBridge.deliver, held, recorded, stateOf, verdict,
    HardenedRuntimeBridge.getRecord, KeyedMap.get?_modify]
  constructor
  · split
    · rw [Option.map_map]
      rfl
    · rfl
  · split
    · rw [Option.map_map]
      rfl
    · rfl

theorem deliver_first {batch : FinalizedBatch} {fairness : FairnessMeta}
    (unknown : pipeline.lifecycle.get? batch.batchId = none)
    (unrecorded : pipeline.bridge.records.get? batch.batchId = none) (id : Bytes32) :
    (pipeline.deliver sha256 batch fairness).2.stateOf id =
        (if batch.batchId = id then some .pending else pipeline.stateOf id) ∧
      (pipeline.deliver sha256 batch fairness).2.verdict id =
        if batch.batchId = id then some (false, false) else pipeline.verdict id := by
  simp only [deliver, HardenedRuntimeBridge.deliver, unknown, unrecorded, stateOf, verdict,
    HardenedRuntimeBridge.getRecord, KeyedMap.get?_insert]
  by_cases here : batch.batchId = id
  · simp [here]
  · simp [here]

theorem deliver_cases (paired : pipeline.Paired) (batch : FinalizedBatch) (fairness : FairnessMeta)
    (id : Bytes32) :
    ((pipeline.deliver sha256 batch fairness).2.stateOf id = pipeline.stateOf id ∧
      (pipeline.deliver sha256 batch fairness).2.verdict id = pipeline.verdict id) ∨
    (pipeline.stateOf id = none ∧
      (pipeline.deliver sha256 batch fairness).2.stateOf id = some .pending ∧
      (pipeline.deliver sha256 batch fairness).2.verdict id = some (false, false)) := by
  have known := paired.known batch.batchId
  cases held : pipeline.lifecycle.get? batch.batchId with
  | some entry =>
      rw [held, Option.isSome_some] at known
      obtain ⟨record, recorded⟩ := Option.isSome_iff_exists.1 known.symm
      exact .inl (deliver_again held recorded id)
  | none =>
      rw [held, Option.isSome_none] at known
      have unrecorded : pipeline.bridge.records.get? batch.batchId = none := by
        rw [← Option.isNone_iff_eq_none, ← Option.not_isSome]
        exact congrArg not known.symm
      obtain ⟨state, verdict⟩ :=
        @deliver_first sha256 pipeline batch fairness held unrecorded id
      by_cases here : batch.batchId = id
      · subst here
        rw [if_pos rfl] at state verdict
        refine .inr ⟨?_, state, verdict⟩
        rw [stateOf, held, Option.map_none]
      · rw [if_neg here] at state verdict
        exact .inl ⟨state, verdict⟩

theorem isSome_stateOf (id : Bytes32) :
    (pipeline.stateOf id).isSome = (pipeline.lifecycle.get? id).isSome := Option.isSome_map

theorem isSome_verdict (id : Bytes32) :
    (pipeline.verdict id).isSome = (pipeline.bridge.getRecord id).isSome := Option.isSome_map

theorem deliver_known (paired : pipeline.Paired) (batch : FinalizedBatch) (fairness : FairnessMeta)
    (id : Bytes32) :
    ((pipeline.deliver sha256 batch fairness).2.lifecycle.get? id).isSome =
      ((pipeline.deliver sha256 batch fairness).2.bridge.getRecord id).isSome := by
  rw [← isSome_stateOf, ← isSome_verdict]
  obtain ⟨state, verdict⟩ | ⟨-, state, verdict⟩ := @deliver_cases sha256 pipeline paired batch fairness id
  · rw [state, verdict, isSome_stateOf, isSome_verdict]
    exact paired.known id
  · rw [state, verdict]
    rfl

theorem deliver_final (paired : pipeline.Paired) (batch : FinalizedBatch) (fairness : FairnessMeta) :
    Final sha256 pipeline (pipeline.deliver sha256 batch fairness).2 none := by
  have stays : ∀ id, pipeline.isTerminal id = true →
      (pipeline.deliver sha256 batch fairness).2.stateOf id = pipeline.stateOf id := by
    intro id terminal
    obtain ⟨state, -⟩ | ⟨unknown, -⟩ := @deliver_cases sha256 pipeline paired batch fairness id
    · exact state
    · rw [isTerminal_eq, unknown] at terminal
      simp at terminal
  refine ⟨stays, fun id terminal => needsRetry_of_stays terminal (stays id terminal), ?_, ?_⟩
  · intro id state held moved
    obtain ⟨same, -⟩ | ⟨unknown, -⟩ := @deliver_cases sha256 pipeline paired batch fairness id
    · exact absurd (same.trans held) moved
    · rw [unknown] at held
      cases held
  · intro id
    rw [← verdict_eq]
    obtain ⟨state, verdict⟩ | ⟨-, state, verdict⟩ := @deliver_cases sha256 pipeline paired batch fairness id
    · rw [state, verdict, verdict_eq]
      exact paired.agree id
    · rw [state, verdict]
      simp

end Delivery

theorem final_iff_orderly (paired : pipeline.Paired) (call : Call) :
    Final sha256 pipeline (step sha256 pipeline call) call.deliveryId ↔ Orderly sha256 pipeline call := by
  cases call with
  | deliver batch fairness => exact ⟨fun _ => trivial, fun _ => deliver_final paired batch fairness⟩
  | recordRejection rej =>
      refine ((concludes_recordRejection pipeline rej).final_iff paired).trans ⟨fun final => final.1, ?_⟩
      intro timely
      refine ⟨timely, fun _ => ?_⟩
      split <;> simp
  | recordAck ack =>
      by_cases replayed : pipeline.bridge.ackReplayGuard.contains ack.deliveryId = true
      · refine ⟨fun _ => .inl replayed, fun _ => ?_⟩
        show Final sha256 pipeline (pipeline.recordAck ack).2 _
        rw [recordAck_replayed replayed]
        refine ⟨fun _ _ => rfl, fun id terminal => needsRetry_of_stays terminal rfl, ?_, paired.agree⟩
        intro id state held moved
        exact absurd held moved
      · have fresh := Bool.eq_false_of_not_eq_true replayed
        refine ((concludes_recordAck fresh).final_iff paired).trans ?_
        simp only [Orderly, replayed, Bool.false_eq_true, false_or, true_iff, decide_eq_true_eq]

theorem paired_step (paired : pipeline.Paired) (call : Call)
    (final : Final sha256 pipeline (step sha256 pipeline call) call.deliveryId) :
    (step sha256 pipeline call).Paired := by
  refine ⟨?_, final.agree⟩
  cases call with
  | deliver batch fairness => exact deliver_known paired batch fairness
  | recordRejection rej => exact (concludes_recordRejection pipeline rej).known paired
  | recordAck ack =>
      by_cases replayed : pipeline.bridge.ackReplayGuard.contains ack.deliveryId = true
      · show ∀ id, ((pipeline.recordAck ack).2.lifecycle.get? id).isSome = _
        rw [show step sha256 pipeline (.recordAck ack) = pipeline from recordAck_replayed replayed,
          recordAck_replayed replayed]
        exact paired.known
      · exact (concludes_recordAck (Bool.eq_false_of_not_eq_true replayed)).known paired

theorem paired_new : new.Paired where
  known := fun id => by simp [new, HardenedRuntimeBridge.new, HardenedRuntimeBridge.getRecord]
  agree := fun id => by
    simp [new, HardenedRuntimeBridge.new, HardenedRuntimeBridge.getRecord, stateOf]

/-- The outcomes of a run are final exactly when each message says nothing new of a decided batch, names
the delivery of an open one, and acknowledges only with a success. -/
theorem run_final_iff_orderly (run : List Call) :
    Run.Along (step sha256)
        (fun pipeline call => Final sha256 pipeline (step sha256 pipeline call) call.deliveryId) new run ↔
      Run.Along (step sha256) (Orderly sha256) new run := by
  refine Run.along_congr ?_ ?_ paired_new run
  · intro pipeline call paired
    exact final_iff_orderly paired call
  · intro pipeline call paired final
    exact paired_step paired call final

end Finality

section Overturned

def deliverySha256 : Sha256 := fun bytes =>
  match bytes.length with
  | 36 => 0x602e20b52302973e337998e4a21ec1b00e3244a17fe3912e3344af9b91da8723
  | 32 => 0xec4916dd28fc4c10d78e287ca5d9cc51ee1ae73cbfde08c6b37324cbfaac8bc5
  | 64 => 0xff93c75721a6677335007037b8d298785d9eec8163e0eed03ce794b2e1bead3e
  | _ => 0xd1c10f3281be792dff4a4262290d48616df0f9acdc70cecc55012505b5ca224b

def fifthBatch : FinalizedBatch where
  batchId := 5
  proposalId := 6
  slot := 1
  epoch := 1
  leaderId := 10
  orderedSubmissionIds := [1]
  batchRoot := 2
  parentBatchId := 0
  finalizedAtHeight := 100
  quorumSummary := { reached := true, approvals := 3, rejections := 0, totalVotes := 3, quorumHash := 9 }
  finalizationHash := 5

def fifthAck : RuntimeIngestionAck where
  batchId := 5
  deliveryId := 0x602e20b52302973e337998e4a21ec1b00e3244a17fe3912e3344af9b91da8723
  epoch := 1
  succeededCount := 1
  failedCount := 0
  executionResultRef := none

def fifthRejection : RuntimeIngestionRejection where
  batchId := 5
  deliveryId := 0x602e20b52302973e337998e4a21ec1b00e3244a17fe3912e3344af9b91da8723
  epoch := 1
  cause := .alreadyApplied

/-- The batch is delivered and accepted, and a late rejection turns it to rejected. -/
theorem accepted_batch_rejected :
    ¬ Run.Along (step deliverySha256)
      (fun pipeline call =>
        Final deliverySha256 pipeline (step deliverySha256 pipeline call) call.deliveryId)
      new [.deliver fifthBatch ⟨1, 0, 0, []⟩, .recordAck fifthAck, .recordRejection fifthRejection] := by
  intro along
  have final := along.2.2.1
  have stays := final.stays 5 (by decide +kernel)
  exact absurd stays (by decide +kernel)

end Overturned

end BatchPipeline

end Omniphi.PoSeq
