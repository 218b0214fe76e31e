import Omniphi.Runtime.Batch

/-! The runtime's half of the bridge from the sequencer: an envelope is checked, compared with the
deliveries and batches applied before, and executed. -/

namespace Omniphi.Runtime

structure InboundFinalizationEnvelope where
  batchId : Bytes32
  deliveryId : Bytes32
  slot : U64
  epoch : U64
  sequenceNumber : U64
  leaderId : Bytes32
  orderedSubmissionIds : List Bytes32
  finalizationHash : Bytes32
  quorumApprovals : Nat
  committeeSize : Nat
  commitmentHash : Bytes32

inductive IngestionRejectionCause
  | invalidEnvelope (message : String)
  | alreadyApplied
  | transientUnavailable (message : String)
  | executionFailure (message : String)
  | safetyBlock (message : String)
deriving DecidableEq

def IngestionRejectionCause.tag : IngestionRejectionCause → String
  | invalidEnvelope _ => "invalid_envelope"
  | alreadyApplied => "already_applied"
  | transientUnavailable _ => "transient_unavailable"
  | executionFailure _ => "execution_failure"
  | safetyBlock _ => "safety_block"

def InboundCommitment.verify (sha256 : Sha256) (finalizationHash deliveryId : Bytes32)
    (orderedIds : List Bytes32) (claimedHash : Bytes32) : Bool :=
  let submissionRoot := sha256 (orderedIds.flatMap (beBytes 32))
  sha256 (beBytes 32 finalizationHash ++ beBytes 32 deliveryId ++ beBytes 32 submissionRoot) =
    claimedHash

def InboundFinalizationEnvelope.validate (sha256 : Sha256) (envelope : InboundFinalizationEnvelope) :
    Except IngestionRejectionCause Unit := do
  if envelope.batchId = 0 then throw (.invalidEnvelope "zero batch_id")
  if envelope.deliveryId = 0 then throw (.invalidEnvelope "zero delivery_id")
  if envelope.finalizationHash = 0 then throw (.invalidEnvelope "zero finalization_hash")
  if envelope.committeeSize = 0 then throw (.invalidEnvelope "zero committee_size")
  if envelope.quorumApprovals = 0 then throw (.invalidEnvelope "zero quorum_approvals")
  if !InboundCommitment.verify sha256 envelope.finalizationHash envelope.deliveryId
      envelope.orderedSubmissionIds envelope.commitmentHash then
    throw (.invalidEnvelope "commitment hash mismatch")

structure IngestionAck where
  batchId : Bytes32
  deliveryId : Bytes32
  epoch : U64
  succeededCount : Nat
  failedCount : Nat
  executionResultRef : Bytes32
  ackHash : Bytes32

def IngestionAck.build (sha256 : Sha256) (envelope : InboundFinalizationEnvelope)
    (settlement : SettlementResult) : IngestionAck :=
  { batchId := envelope.batchId
    deliveryId := envelope.deliveryId
    epoch := envelope.epoch
    succeededCount := settlement.succeeded
    failedCount := settlement.failed
    executionResultRef := settlement.stateRoot
    ackHash := sha256 (beBytes 32 envelope.batchId ++ beBytes 32 envelope.deliveryId ++
      strBytes "ack" ++ beBytes 8 envelope.epoch) }

structure IngestionRejection where
  batchId : Bytes32
  deliveryId : Bytes32
  epoch : U64
  cause : IngestionRejectionCause
  rejectionHash : Bytes32

def IngestionRejection.new (sha256 : Sha256) (envelope : InboundFinalizationEnvelope)
    (cause : IngestionRejectionCause) : IngestionRejection :=
  { batchId := envelope.batchId
    deliveryId := envelope.deliveryId
    epoch := envelope.epoch
    cause
    rejectionHash := sha256 (beBytes 32 envelope.batchId ++ beBytes 32 envelope.deliveryId ++
      strBytes "reject" ++ strBytes cause.tag) }

inductive IngestionOutcome
  | accepted (ack : IngestionAck)
  | rejected (rejection : IngestionRejection)

/-- The pool files each transaction under its own `tx_id`. -/
structure IntentMempool where
  pending : KeyedMap IntentTransaction.txId

def IntentMempool.get (mempool : IntentMempool) (submissionId : Bytes32) : Option IntentTransaction :=
  mempool.pending.get? submissionId

structure RuntimeBatchIngester where
  runtime : PoSeqRuntime
  appliedDeliveries : BTreeSet Bytes32
  appliedBatches : BTreeSet Bytes32
  mempool : Option IntentMempool
  useMempool : Bool

namespace RuntimeBatchIngester

def new : RuntimeBatchIngester :=
  { runtime := .new, appliedDeliveries := ∅, appliedBatches := ∅, mempool := none
    useMempool := false }

section Transactions

variable (sha256 : Sha256) (verify : IntentTransaction.Ed25519Verify)

def admitted (mempool : IntentMempool) (epoch : U64) (submissionId : Bytes32) :
    Option IntentTransaction := do
  let tx ← mempool.get submissionId
  guard (tx.verifySignature sha256 verify)
  guard (epoch ≤ tx.deadlineEpoch)
  guard (tx.effectiveFeeEnvelope.validate epoch matches .ok ())
  return tx

def scaffoldTransaction (envelope : InboundFinalizationEnvelope) (i : Nat) (sid : Bytes32) :
    IntentTransaction :=
  let flipped := sid ^^^ 1
  let recipient := if flipped = 0 then (1 : Bytes32) <<< 248 else flipped
  { txId := sid
    sender := envelope.leaderId
    nonce := envelope.slot * 1000 + BitVec.ofNat 64 i
    intent := .transfer { assetId := sid, amount := 1, recipient, memo := none }
    maxFee := 1000
    deadlineEpoch := envelope.epoch + 10
    signature := 0
    metadata := ∅
    targetObjects := []
    constraints := {}
    executionMode := .bestEffort
    sponsor := none
    sponsorSignature := none
    sponsorshipLimits := {}
    feePolicy := .senderPays
    feeEnvelope := none }

def synthesizeScaffoldTransactions (envelope : InboundFinalizationEnvelope) :
    List IntentTransaction :=
  envelope.orderedSubmissionIds.mapIdx (scaffoldTransaction envelope)

def leadingHex (id : Bytes32) : String := (id.extractLsb' 224 32).toHex

def collision (envelope : InboundFinalizationEnvelope) (sid : Bytes32) : IngestionRejectionCause :=
  .executionFailure ("scaffold collision: submission_id " ++ leadingHex sid ++
    " matches a real asset for sender " ++ leadingHex envelope.leaderId)

/-- The transactions to execute. The collision guard stands on the scaffold path alone, not where a
mempool is asked for and missing. -/
def transactions (ingester : RuntimeBatchIngester) (envelope : InboundFinalizationEnvelope) :
    Except IngestionRejectionCause (List IntentTransaction) :=
  if ingester.useMempool then
    match ingester.mempool with
    | some mempool =>
        .ok (envelope.orderedSubmissionIds.filterMap (admitted sha256 verify mempool envelope.epoch))
    | none => .ok (synthesizeScaffoldTransactions envelope)
  else
    match envelope.orderedSubmissionIds.find? fun sid =>
        (ingester.runtime.store.findBalance envelope.leaderId sid).isSome with
    | some sid => .error (collision envelope sid)
    | none => .ok (synthesizeScaffoldTransactions envelope)

end Transactions

def causeOf : RuntimeError → IngestionRejectionCause
  | .objectQuarantined _ | .domainPaused _ => .safetyBlock "object quarantined or domain paused"
  | e => .executionFailure e.display

/-- The outcome, and the ingester as the call leaves it. There is no outcome when the call panics. -/
def ingest (sha256 : Sha256) (encode : BoxedObject → Bytes) (verify : IntentTransaction.Ed25519Verify)
    (ingester : RuntimeBatchIngester) (envelope : InboundFinalizationEnvelope) :
    Option IngestionOutcome × RuntimeBatchIngester :=
  let rejected cause := some (.rejected (.new sha256 envelope cause))
  match envelope.validate sha256 with
  | .error cause => (rejected cause, ingester)
  | .ok () =>
    if ingester.appliedDeliveries.contains envelope.deliveryId then (rejected .alreadyApplied, ingester)
    else if ingester.appliedBatches.contains envelope.batchId then (rejected .alreadyApplied, ingester)
    else match ingester.transactions sha256 verify envelope with
      | .error cause => (rejected cause, ingester)
      | .ok transactions =>
        let orderedBatch : OrderedBatch :=
          { batchId := envelope.batchId, epoch := envelope.epoch
            sequenceNumber := envelope.sequenceNumber, transactions }
        match ingester.runtime.processBatch sha256 encode orderedBatch with
        | (.ok settlement, runtime) =>
            (some (.accepted (.build sha256 envelope settlement)), { ingester with
              runtime
              appliedDeliveries := ingester.appliedDeliveries.insert envelope.deliveryId
              appliedBatches := ingester.appliedBatches.insert envelope.batchId })
        | (.error (.error e), runtime) => (rejected (causeOf e), { ingester with runtime })
        | (.error .panic, runtime) => (none, { ingester with runtime })

end RuntimeBatchIngester

end Omniphi.Runtime
