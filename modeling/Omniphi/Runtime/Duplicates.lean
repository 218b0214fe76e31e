import Omniphi.Runtime.ExactlyOnce
import Omniphi.Runtime.Resolved
import Omniphi.Runtime.ScheduleOrder

/-! How often a listed submission is executed within one batch. -/

namespace Omniphi.Runtime

namespace SettlementEngine

variable (sha256 : Sha256)

theorem txId_applyPlan (plan : ExecutionPlan) (store : ObjectStore) :
    (applyPlan sha256 plan store).1.txId = plan.txId := by
  unfold applyPlan
  split
  · rfl
  · split <;> rfl

theorem txId_applyPlanWithEffects (plan : ExecutionPlan) (store : ObjectStore) (epoch : U64) :
    (applyPlanWithEffects sha256 plan store epoch).1.1.txId = plan.txId := by
  have base := txId_applyPlan sha256 plan store
  rw [applyPlanWithEffects]
  generalize applyPlan sha256 plan store = applied at base
  obtain ⟨receipt, after⟩ := applied
  dsimp only at base ⊢
  split <;> exact base

theorem txIds_settle (epoch : U64) (progress : Progress) (plan : ExecutionPlan) :
    (settle sha256 epoch progress plan).receipts.map ExecutionReceipt.txId =
      progress.receipts.map ExecutionReceipt.txId ++ [plan.txId] := by
  have own := txId_applyPlanWithEffects sha256 plan progress.store epoch
  unfold settle
  dsimp only
  split <;> simp [own]

theorem txIds_foldl_settle (epoch : U64) (plans : List ExecutionPlan) (progress : Progress) :
    (plans.foldl (settle sha256 epoch) progress).receipts.map ExecutionReceipt.txId =
      progress.receipts.map ExecutionReceipt.txId ++ plans.map ExecutionPlan.txId := by
  induction plans generalizing progress with
  | nil => simp
  | cons plan plans ih =>
      rw [List.foldl_cons, ih, txIds_settle, List.append_assoc]
      rfl

theorem perm_receipts (encode : BoxedObject → Bytes) (plans : List ExecutionPlan) (store : ObjectStore)
    (epoch : U64) :
    ((executeGroups sha256 encode (ParallelScheduler.schedule plans) store epoch).1.receipts.map
      ExecutionReceipt.txId).Perm (plans.map ExecutionPlan.txId) := by
  have listed := txIds_foldl_settle sha256 epoch
    (executionOrder (ParallelScheduler.schedule plans)) (.start store)
  show (List.map _ (List.foldl (settle sha256 epoch) (.start store) _).receipts).Perm _
  rw [listed]
  exact (ParallelScheduler.perm_executionOrder plans).map _

end SettlementEngine

namespace PoSeqRuntime

variable (runtime : PoSeqRuntime)

def quarantines (plan : ExecutionPlan) : Bool :=
  match runtime.safety with
  | some safety => plan.objectAccess.any fun access => safety.isObjectQuarantined access.objectId
  | none => false

def planFor (tx : IntentTransaction) : Option ExecutionPlan := do
  guard (tx.validate matches .ok ())
  let plan ← (IntentResolver.resolve tx runtime.store (runtime.capsOf tx.sender)).toOption
  guard !runtime.quarantines plan
  return plan

theorem admissible_eq (plans : List ExecutionPlan) :
    runtime.admissible plans = plans.filter fun plan => !runtime.quarantines plan := by
  unfold admissible quarantines
  cases runtime.safety with
  | none => simp
  | some safety => rfl

variable {runtime}

theorem planFor_some {tx : IntentTransaction} {plan : ExecutionPlan}
    (brought : runtime.planFor tx = some plan) :
    IntentResolver.resolve tx runtime.store (runtime.capsOf tx.sender) = .ok plan ∧
      runtime.quarantines plan = false := by
  obtain ⟨_, -, brought⟩ := Option.bind_eq_some_iff.1 brought
  obtain ⟨found, resolved, brought⟩ := Option.bind_eq_some_iff.1 brought
  obtain ⟨_, clear, same⟩ := Option.bind_eq_some_iff.1 brought
  obtain rfl := Option.some.inj same
  refine ⟨?_, by simpa [guard] using clear⟩
  cases result : IntentResolver.resolve tx runtime.store (runtime.capsOf tx.sender) with
  | error halt => simp [result, Except.toOption] at resolved
  | ok plan => simpa [result, Except.toOption] using resolved

theorem resolveAll_ok {txns : List IntentTransaction} {plans : List ExecutionPlan}
    (resolved : runtime.resolveAll txns = .ok plans) :
    plans = txns.filterMap fun tx =>
      (IntentResolver.resolve tx runtime.store (runtime.capsOf tx.sender)).toOption := by
  induction txns generalizing plans with
  | nil => exact (Except.ok.inj resolved).symm
  | cons tx rest ih =>
      unfold resolveAll at resolved
      rw [List.filterMap_cons]
      split at resolved
      · rename_i plan found
        obtain ⟨later, tail, same⟩ := SettlementEngine.bind_ok.1 resolved
        obtain rfl := Except.ok.inj same
        rw [found, ← ih tail]
        rfl
      · rename_i e failed
        rw [failed]
        exact ih resolved
      · cases resolved

theorem filterMap_planFor (txns : List IntentTransaction) :
    txns.filterMap runtime.planFor =
      ((txns.filter fun tx => tx.validate matches .ok ()).filterMap fun tx =>
        (IntentResolver.resolve tx runtime.store (runtime.capsOf tx.sender)).toOption).filter
          fun plan => !runtime.quarantines plan := by
  induction txns with
  | nil => rfl
  | cons tx rest ih =>
      rw [List.filterMap_cons, List.filter_cons]
      cases valid : tx.validate with
      | error e => simp [planFor, valid, ih]
      | ok =>
          cases resolved : IntentResolver.resolve tx runtime.store (runtime.capsOf tx.sender) with
          | error halt => simp [planFor, valid, resolved, ih, Except.toOption]
          | ok plan =>
              cases held : runtime.quarantines plan <;>
                simp [planFor, valid, resolved, ih, held, Except.toOption]

theorem processBatch_ok {sha256 : Sha256} {encode : BoxedObject → Bytes} {after : PoSeqRuntime}
    {batch : OrderedBatch} {result : SettlementResult}
    (ran : runtime.processBatch sha256 encode batch = (.ok result, after)) :
    runtime.inEmergency = false ∧
      (result, after.store) = SettlementEngine.executeGroups sha256 encode
        (ParallelScheduler.schedule (batch.transactions.filterMap runtime.planFor)) runtime.store
        batch.epoch := by
  unfold processBatch at ran
  split at ran
  · cases (Prod.mk.inj ran).1
  · rename_i calm
    dsimp only at ran
    split at ran
    · cases (Prod.mk.inj ran).1
    · rename_i plans resolved
      obtain ⟨same, rfl⟩ := Prod.mk.inj ran
      obtain rfl := Except.ok.inj same
      have handed := resolveAll_ok resolved
      refine ⟨Bool.eq_false_iff.2 calm, ?_⟩
      rw [filterMap_planFor, handed, admissible_eq]
      rfl

end PoSeqRuntime

theorem IntentResolver.txId_resolve {tx : IntentTransaction} {store : ObjectStore} {caps : CapabilitySet}
    {plan : ExecutionPlan} (resolved : resolve tx store caps = .ok plan) : plan.txId = tx.txId := by
  unfold resolve at resolved
  split at resolved
  · obtain ⟨own, other, -, -, -, rfl⟩ := resolveTransfer_ok resolved
    rfl
  · obtain ⟨pool, own, other, output, -, -, -, -, ⟨-, -, rfl⟩ | ⟨-, -, rfl⟩⟩ := resolveSwap_ok resolved
    · rfl
    · rfl
  · obtain ⟨own, -, -, rfl⟩ := resolveYieldAllocate_ok resolved
    rfl
  · obtain ⟨-, own, other, -, -, -, rfl⟩ := resolveTreasuryRebalance_ok resolved
    rfl
  · obtain ⟨own, -, -, rfl⟩ := resolveRouteLiquidity_ok resolved
    rfl
  · cases resolved

namespace RuntimeBatchIngester

variable (sha256 : Sha256) (encode : BoxedObject → Bytes) (verify : IntentTransaction.Ed25519Verify)
  (ingester : RuntimeBatchIngester) (mempool : IntentMempool) (envelope : InboundFinalizationEnvelope)

def mempoolBatch : OrderedBatch :=
  { batchId := envelope.batchId, epoch := envelope.epoch, sequenceNumber := envelope.sequenceNumber
    transactions :=
      envelope.orderedSubmissionIds.filterMap (admitted sha256 verify mempool envelope.epoch) }

/-- The plan that a listed submission brings to settlement, if its transaction is in the pool, passes
the checks on the way and resolves. -/
def listedPlan (sid : Bytes32) : Option ExecutionPlan :=
  (admitted sha256 verify mempool envelope.epoch sid).bind ingester.runtime.planFor

variable {sha256 encode verify ingester mempool envelope}

theorem get_of_admitted {epoch : U64} {sid : Bytes32} {tx : IntentTransaction}
    (found : admitted sha256 verify mempool epoch sid = some tx) : mempool.get sid = some tx := by
  obtain ⟨held, pooled, found⟩ := Option.bind_eq_some_iff.1 found
  obtain ⟨_, -, found⟩ := Option.bind_eq_some_iff.1 found
  obtain ⟨_, -, found⟩ := Option.bind_eq_some_iff.1 found
  obtain ⟨_, -, same⟩ := Option.bind_eq_some_iff.1 found
  rwa [← Option.some.inj same]

theorem txId_listedPlan {sid : Bytes32} {plan : ExecutionPlan}
    (listed : listedPlan sha256 verify ingester mempool envelope sid = some plan) : plan.txId = sid := by
  obtain ⟨tx, found, brought⟩ := Option.bind_eq_some_iff.1 listed
  rw [IntentResolver.txId_resolve (PoSeqRuntime.planFor_some brought).1]
  exact KeyedMap.key_of_get? _ (get_of_admitted found)

theorem count_txIds (ids : List Bytes32) (id : Bytes32) :
    ((ids.filterMap (listedPlan sha256 verify ingester mempool envelope)).map ExecutionPlan.txId).count
      id = if (listedPlan sha256 verify ingester mempool envelope id).isSome then ids.count id else 0 := by
  induction ids with
  | nil => simp
  | cons sid rest ih =>
      rw [List.filterMap_cons, List.count_cons]
      cases listed : listedPlan sha256 verify ingester mempool envelope sid with
      | none =>
          rw [ih]
          by_cases same : sid = id
          · rw [← same, listed]
            rfl
          · simp [same]
      | some plan =>
          rw [List.map_cons, List.count_cons, ih, txId_listedPlan listed]
          by_cases same : sid = id
          · rw [← same, listed]
            rfl
          · simp [same]

theorem ingest_accepted {ack : IngestionAck} {after : RuntimeBatchIngester}
    (onMempool : ingester.useMempool = true) (attached : ingester.mempool = some mempool)
    (accepted : ingest sha256 encode verify ingester envelope = (some (.accepted ack), after)) :
    ∃ result, ingester.runtime.processBatch sha256 encode (mempoolBatch sha256 verify mempool envelope) =
      (.ok result, after.runtime) ∧ ack = .build sha256 envelope result := by
  have source : ingester.transactions sha256 verify envelope =
      .ok (mempoolBatch sha256 verify mempool envelope).transactions := by
    simp [transactions, onMempool, attached, mempoolBatch]
  unfold ingest at accepted
  dsimp only at accepted
  split at accepted
  · cases (Prod.mk.inj accepted).1
  split at accepted
  · cases (Prod.mk.inj accepted).1
  split at accepted
  · cases (Prod.mk.inj accepted).1
  rw [source] at accepted
  dsimp only at accepted
  split at accepted
  · rename_i result runtime ran
    obtain ⟨same, rfl⟩ := Prod.mk.inj accepted
    cases same
    exact ⟨result, ran, rfl⟩
  · cases (Prod.mk.inj accepted).1
  · cases (Prod.mk.inj accepted).1

def receiptCount (result : SettlementResult) (id : Bytes32) : Nat :=
  result.receipts.countP fun receipt => receipt.txId = id

theorem receiptCount_eq {result : SettlementResult} {after : PoSeqRuntime}
    (ran : ingester.runtime.processBatch sha256 encode (mempoolBatch sha256 verify mempool envelope) =
      (.ok result, after)) (id : Bytes32) :
    receiptCount result id =
      if (listedPlan sha256 verify ingester mempool envelope id).isSome then
        envelope.orderedSubmissionIds.count id else 0 := by
  have plans : (mempoolBatch sha256 verify mempool envelope).transactions.filterMap
      ingester.runtime.planFor = envelope.orderedSubmissionIds.filterMap
        (listedPlan sha256 verify ingester mempool envelope) := by
    rw [mempoolBatch, List.filterMap_filterMap]
    rfl
  have receipts := (PoSeqRuntime.processBatch_ok ran).2
  rw [plans] at receipts
  obtain ⟨rfl, -⟩ := Prod.mk.inj receipts
  have each := SettlementEngine.perm_receipts sha256 encode
    (envelope.orderedSubmissionIds.filterMap (listedPlan sha256 verify ingester mempool envelope))
    ingester.runtime.store envelope.epoch
  calc
    _ = (List.map ExecutionReceipt.txId _).count id := by
        rw [receiptCount, List.count, List.countP_map]
        rfl
    _ = _ := each.count_eq id
    _ = _ := count_txIds envelope.orderedSubmissionIds id

/-- In an accepted batch every listed submission has at most one receipt exactly when none of those
that come to settlement is listed twice. -/
theorem executed_at_most_once {ack : IngestionAck} {after : RuntimeBatchIngester}
    (onMempool : ingester.useMempool = true) (attached : ingester.mempool = some mempool)
    (accepted : ingest sha256 encode verify ingester envelope = (some (.accepted ack), after)) :
    ∃ result, ingester.runtime.processBatch sha256 encode (mempoolBatch sha256 verify mempool envelope) =
      (.ok result, after.runtime) ∧ ack = .build sha256 envelope result ∧
      ((∀ id ∈ envelope.orderedSubmissionIds, receiptCount result id ≤ 1) ↔
        ∀ id ∈ envelope.orderedSubmissionIds,
          (listedPlan sha256 verify ingester mempool envelope id).isSome →
          envelope.orderedSubmissionIds.count id = 1) := by
  obtain ⟨result, ran, built⟩ := ingest_accepted onMempool attached accepted
  refine ⟨result, ran, built, ?_⟩
  apply forall₂_congr
  intro id member
  rw [receiptCount_eq ran]
  have listed := List.count_pos_iff.2 member
  split
  · rename_i settled
    simp only [settled, true_imp_iff]
    omega
  · rename_i dropped
    simp [dropped]

section Examples

def payment : IntentTransaction :=
  { txId := 1, sender := 0xd75a980182b10ab7d54bfed3c964073a0ee172f3daa62325af021a68f707511a
    intent := .transfer { assetId := 3, amount := 10, recipient := 8, memo := none }
    maxFee := 100, deadlineEpoch := 10, nonce := 0
    signature := 0xdc32eacb61b6667872ea1a25073b707ed455771e69ad13824130f45c2819985dfb61bc655e912e157aa794394dd6d5762b2febc2dcab8dcc212190d60a8e1d09
    metadata := ∅, targetObjects := [], constraints := {}, executionMode := .bestEffort
    sponsor := none, sponsorSignature := none, sponsorshipLimits := {}, feePolicy := .senderPays
    feeEnvelope := none }

def paymentPool : IntentMempool := ⟨KeyedMap.empty.insert payment⟩

def paymentIngester : RuntimeBatchIngester :=
  { RuntimeBatchIngester.new with
    runtime.store := (ObjectStore.new.insert (.balance (.new 11 payment.sender 3 100 0))).insert
      (.balance (.new 12 8 3 0 0))
    mempool := some paymentPool, useMempool := true }

def paymentVerify : IntentTransaction.Ed25519Verify :=
  fun key _ signature => key = payment.sender ∧ signature = payment.signature

def listing (orderedSubmissionIds : List Bytes32) (commitmentHash : Bytes32) :
    InboundFinalizationEnvelope :=
  { batchId := 4, deliveryId := 2, slot := 0, epoch := 0, sequenceNumber := 0, leaderId := 6
    orderedSubmissionIds, finalizationHash := 5, quorumApprovals := 3, committeeSize := 4
    commitmentHash }

def commitmentSha256 (submissionRoot commitmentHash : Bytes32) : Sha256 :=
  fun bytes => if bytes.length = 96 then commitmentHash else submissionRoot

def paidOnce : InboundFinalizationEnvelope :=
  listing [1, 9, 9, 9] 0x8d7ee148ec0eadf51f4d6e5a5e6ab2bac2e3c0db6866779461594d3c3328e3ec

def paidOnceSha256 : Sha256 :=
  commitmentSha256 0xf812fe286f658dea97e5107e8313d2f619410b147f08e5213ff08af57cabe1eb
    paidOnce.commitmentHash

theorem accepted_of_matches {called : Option IngestionOutcome × RuntimeBatchIngester}
    (accepted : (called.1 matches some (.accepted _)) = true) :
    ∃ ack after, called = (some (.accepted ack), after) := by
  match called with
  | (some (.accepted ack), after) => exact ⟨ack, after, rfl⟩

theorem paid_once : ∃ result,
    (paymentIngester.runtime.processBatch paidOnceSha256 (fun _ => [])
      (mempoolBatch paidOnceSha256 paymentVerify paymentPool paidOnce)).1 = .ok result ∧
    ∀ id ∈ paidOnce.orderedSubmissionIds, receiptCount result id ≤ 1 := by
  obtain ⟨ack, after, accepted⟩ : ∃ ack after,
      ingest paidOnceSha256 (fun _ => []) paymentVerify paymentIngester paidOnce =
        (some (.accepted ack), after) := accepted_of_matches (by decide +kernel)
  obtain ⟨result, ran, -, once⟩ := executed_at_most_once rfl rfl accepted
  refine ⟨result, congrArg Prod.fst ran, once.2 ?_⟩
  have unknown : (listedPlan paidOnceSha256 paymentVerify paymentIngester paymentPool paidOnce 9).isSome =
      false := by decide +kernel
  intro id member settled
  have cases : id = 1 ∨ id = 9 := by simpa [paidOnce, listing] using member
  obtain rfl | rfl := cases
  · decide
  · rw [unknown] at settled
    cases settled

def paidTwice : InboundFinalizationEnvelope :=
  listing [1, 1] 0x0ea2122b86c66d245b3c76503f73e1cd3c760e72c19bbab4f6cb0938b607380d

def paidTwiceSha256 : Sha256 :=
  commitmentSha256 0xc3c3a46684c07d12a9c238787df3049a6f258e7af203e5ddb66a8bd66637e108
    paidTwice.commitmentHash

theorem paid_twice :
    ¬ ∀ (sha256 : Sha256) (encode : BoxedObject → Bytes) (verify : IntentTransaction.Ed25519Verify)
      (ingester : RuntimeBatchIngester) (mempool : IntentMempool) (envelope : InboundFinalizationEnvelope)
      (ack : IngestionAck) (after : RuntimeBatchIngester) (result : SettlementResult),
      ingester.useMempool = true → ingester.mempool = some mempool →
      ingest sha256 encode verify ingester envelope = (some (.accepted ack), after) →
      (ingester.runtime.processBatch sha256 encode (mempoolBatch sha256 verify mempool envelope)).1 =
        .ok result →
      ∀ id ∈ envelope.orderedSubmissionIds, receiptCount result id ≤ 1 := by
  intro once
  obtain ⟨ack, after, accepted⟩ : ∃ ack after,
      ingest paidTwiceSha256 (fun _ => []) paymentVerify paymentIngester paidTwice =
        (some (.accepted ack), after) := accepted_of_matches (by decide +kernel)
  obtain ⟨result, ran, -⟩ := ingest_accepted rfl rfl accepted
  have single := once _ _ _ _ _ _ ack after result rfl rfl accepted (congrArg Prod.fst ran) 1 (by decide)
  have settled : (listedPlan paidTwiceSha256 paymentVerify paymentIngester paymentPool paidTwice 1).isSome =
      true := by decide +kernel
  rw [receiptCount_eq ran, if_pos settled] at single
  revert single
  decide

end Examples

end RuntimeBatchIngester

end Omniphi.Runtime
