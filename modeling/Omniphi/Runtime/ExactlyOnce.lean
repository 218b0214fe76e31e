import Omniphi.Lib.Run
import Omniphi.Runtime.Ingestion

/-! Each batch and each delivery is accepted at most once, and a call that does not accept leaves the
store and the record of what was applied alone. -/

namespace Omniphi.Runtime

theorem PoSeqRuntime.processBatch_error {sha256 : Sha256} {encode : BoxedObject → Bytes}
    {runtime after : PoSeqRuntime} {batch : OrderedBatch} {halt : Halt}
    (failed : runtime.processBatch sha256 encode batch = (.error halt, after)) :
    after.store = runtime.store := by
  unfold processBatch at failed
  split at failed
  · obtain ⟨-, rfl⟩ := Prod.mk.inj failed
    rfl
  · dsimp only at failed
    split at failed
    · obtain ⟨-, rfl⟩ := Prod.mk.inj failed
      rfl
    · cases (Prod.mk.inj failed).1

namespace RuntimeBatchIngester

variable (sha256 : Sha256) (encode : BoxedObject → Bytes) (verify : IntentTransaction.Ed25519Verify)

structure Unchanged (ingester after : RuntimeBatchIngester) : Prop where
  store : after.runtime.store = ingester.runtime.store
  deliveries : after.appliedDeliveries = ingester.appliedDeliveries
  batches : after.appliedBatches = ingester.appliedBatches

theorem Unchanged.refl (ingester : RuntimeBatchIngester) : Unchanged ingester ingester := ⟨rfl, rfl, rfl⟩

structure Records (ingester : RuntimeBatchIngester) (envelope : InboundFinalizationEnvelope)
    (after : RuntimeBatchIngester) : Prop where
  newDelivery : envelope.deliveryId ∉ ingester.appliedDeliveries
  newBatch : envelope.batchId ∉ ingester.appliedBatches
  deliveries : after.appliedDeliveries = ingester.appliedDeliveries.insert envelope.deliveryId
  batches : after.appliedBatches = ingester.appliedBatches.insert envelope.batchId

variable {sha256 encode verify} in
theorem ingest_cases {ingester after : RuntimeBatchIngester} {envelope : InboundFinalizationEnvelope}
    {outcome : Option IngestionOutcome}
    (called : ingest sha256 encode verify ingester envelope = (outcome, after)) :
    (∃ ack, outcome = some (.accepted ack) ∧ Records ingester envelope after) ∨
    ((∀ ack, outcome ≠ some (.accepted ack)) ∧ Unchanged ingester after) := by
  unfold ingest at called
  dsimp only at called
  split at called
  · obtain ⟨rfl, rfl⟩ := Prod.mk.inj called
    exact .inr ⟨by rintro ack ⟨⟩, .refl _⟩
  split at called
  · obtain ⟨rfl, rfl⟩ := Prod.mk.inj called
    exact .inr ⟨by rintro ack ⟨⟩, .refl _⟩
  rename_i newDelivery
  split at called
  · obtain ⟨rfl, rfl⟩ := Prod.mk.inj called
    exact .inr ⟨by rintro ack ⟨⟩, .refl _⟩
  rename_i newBatch
  split at called
  · obtain ⟨rfl, rfl⟩ := Prod.mk.inj called
    exact .inr ⟨by rintro ack ⟨⟩, .refl _⟩
  split at called
  · obtain ⟨rfl, rfl⟩ := Prod.mk.inj called
    exact .inl ⟨_, rfl, by simpa using newDelivery, by simpa using newBatch, rfl, rfl⟩
  · rename_i ran
    obtain ⟨rfl, rfl⟩ := Prod.mk.inj called
    exact .inr ⟨by rintro ack ⟨⟩, PoSeqRuntime.processBatch_error ran, rfl, rfl⟩
  · rename_i ran
    obtain ⟨rfl, rfl⟩ := Prod.mk.inj called
    exact .inr ⟨by rintro ack ⟨⟩, PoSeqRuntime.processBatch_error ran, rfl, rfl⟩

def acceptedOf : RuntimeBatchIngester → List InboundFinalizationEnvelope →
    List InboundFinalizationEnvelope
  | _, [] => []
  | ingester, envelope :: rest =>
      let (outcome, after) := ingest sha256 encode verify ingester envelope
      match outcome with
      | some (.accepted _) => envelope :: acceptedOf after rest
      | _ => acceptedOf after rest

theorem acceptedOf_new (ingester : RuntimeBatchIngester)
    (envelopes : List InboundFinalizationEnvelope) :
    (∀ accepted ∈ acceptedOf sha256 encode verify ingester envelopes,
      accepted.deliveryId ∉ ingester.appliedDeliveries ∧
        accepted.batchId ∉ ingester.appliedBatches) ∧
    (acceptedOf sha256 encode verify ingester envelopes).Pairwise fun one other =>
      one.deliveryId ≠ other.deliveryId ∧ one.batchId ≠ other.batchId := by
  induction envelopes generalizing ingester with
  | nil => exact ⟨by simp [acceptedOf], .nil⟩
  | cons envelope rest ih =>
      cases called : ingest sha256 encode verify ingester envelope with
      | mk outcome after =>
          -- What later calls accept is new to the record that this call leaves.
          obtain ⟨fresh, distinct⟩ := ih after
          rcases ingest_cases called with ⟨ack, rfl, records⟩ | ⟨other, same⟩
          · have later : ∀ next ∈ acceptedOf sha256 encode verify after rest,
                (envelope.deliveryId ≠ next.deliveryId ∧
                  next.deliveryId ∉ ingester.appliedDeliveries) ∧
                (envelope.batchId ≠ next.batchId ∧ next.batchId ∉ ingester.appliedBatches) := by
              intro next member
              have new := fresh next member
              simpa [records.deliveries, records.batches] using new
            have head : acceptedOf sha256 encode verify ingester (envelope :: rest) =
                envelope :: acceptedOf sha256 encode verify after rest := by
              rw [acceptedOf, called]
            rw [head]
            refine ⟨?_, .cons (fun next member =>
              ⟨(later next member).1.1, (later next member).2.1⟩) distinct⟩
            rintro next (_ | ⟨_, member⟩)
            · exact ⟨records.newDelivery, records.newBatch⟩
            · exact ⟨(later next member).1.2, (later next member).2.2⟩
          · have skip : acceptedOf sha256 encode verify ingester (envelope :: rest) =
                acceptedOf sha256 encode verify after rest := by
              rw [acceptedOf, called]
              dsimp only
              split
              · exact absurd rfl (other _)
              · rfl
            rw [skip, ← same.deliveries, ← same.batches]
            exact ⟨fresh, distinct⟩

/-- In every sequence of calls each batch and each delivery is accepted at most once, and not at all
if it is on record from before; every rejecting call leaves store and record as they were. -/
theorem exactly_once (ingester : RuntimeBatchIngester) (envelopes : List InboundFinalizationEnvelope) :
    ((acceptedOf sha256 encode verify ingester envelopes).map (·.batchId)).Nodup ∧
    ((acceptedOf sha256 encode verify ingester envelopes).map (·.deliveryId)).Nodup ∧
    (∀ accepted ∈ acceptedOf sha256 encode verify ingester envelopes,
      accepted.deliveryId ∉ ingester.appliedDeliveries ∧
        accepted.batchId ∉ ingester.appliedBatches) ∧
    Run.Along (fun state envelope => (ingest sha256 encode verify state envelope).2)
      (fun state envelope => ∀ rejection,
        (ingest sha256 encode verify state envelope).1 = some (.rejected rejection) →
        Unchanged state (ingest sha256 encode verify state envelope).2) ingester envelopes := by
  obtain ⟨new, distinct⟩ := acceptedOf_new sha256 encode verify ingester envelopes
  refine ⟨?_, ?_, new, ?_⟩
  · rw [List.Nodup, List.pairwise_map]
    exact distinct.imp And.right
  · rw [List.Nodup, List.pairwise_map]
    exact distinct.imp And.left
  · refine Run.along_of_forall (fun state envelope rejection outcome => ?_) ingester envelopes
    rcases ingest_cases (Prod.mk.eta (p := ingest sha256 encode verify state envelope)).symm with
      ⟨ack, accepted, -⟩ | ⟨-, same⟩
    · cases accepted.symm.trans outcome
    · exact same

example :
    let envelope : InboundFinalizationEnvelope :=
      { batchId := 1, deliveryId := 2, slot := 0, epoch := 0, sequenceNumber := 0, leaderId := 3
        orderedSubmissionIds := [4], finalizationHash := 5, quorumApprovals := 3, committeeSize := 4
        commitmentHash := 0 }
    (acceptedOf (fun _ => 0) (fun _ => []) (fun _ _ _ => false) new
      [envelope, envelope, { envelope with deliveryId := 6 }]).length = 1 := by decide +kernel

end RuntimeBatchIngester

end Omniphi.Runtime
