import Omniphi.Lib.KeyedMap
import Omniphi.Lib.Run
import Omniphi.Basic

/-! Recovery of batch deliveries to the runtime: export, acknowledgement, rejection and retry. -/

namespace Omniphi.PoSeq

inductive BridgeDeliveryState
  | pending
  | exporting
  | exported
  | acknowledged
  | rejected
  | retryPending (attempt : U32)
  | failed
  | recoveredAck
deriving DecidableEq, Repr

namespace BridgeDeliveryState

def debug : BridgeDeliveryState → String
  | pending => "Pending"
  | exporting => "Exporting"
  | exported => "Exported"
  | acknowledged => "Acknowledged"
  | rejected => "Rejected"
  | retryPending attempt => "RetryPending \x7b attempt: " ++ toString attempt.toNat ++ " \x7d"
  | failed => "Failed"
  | recoveredAck => "RecoveredAck"

def isTerminal : BridgeDeliveryState → Bool
  | acknowledged | failed | recoveredAck => true
  | _ => false

end BridgeDeliveryState

structure BridgeRetryPolicy where
  maxAttempts : U32
  backoffBaseSeq : U64

inductive BridgeRecoveryError
  | batchNotFound (batchId : Bytes32)
  | alreadyTerminal (batchId : Bytes32)
  | maxRetriesExceeded (batchId : Bytes32)
  | invalidStateForOperation (batchId : Bytes32) (state op : String)
  | ackHashConflict (batchId storedHash newHash : Bytes32)
deriving DecidableEq

structure BridgeRecoveryRecord where
  batchId : Bytes32
  state : BridgeDeliveryState
  attempts : U32
  lastAttemptSeq : U64
  ackHash : Option Bytes32
deriving DecidableEq

namespace BridgeRecoveryRecord

def new (batchId : Bytes32) : BridgeRecoveryRecord :=
  { batchId, state := .pending, attempts := 0, lastAttemptSeq := 0, ackHash := none }

abbrev Outcome := Except BridgeRecoveryError Unit × BridgeRecoveryRecord

def invalid (record : BridgeRecoveryRecord) (op : String) : Outcome :=
  (.error (.invalidStateForOperation record.batchId record.state.debug op), record)

def tryExport (record : BridgeRecoveryRecord) : Outcome :=
  if record.state.isTerminal then (.error (.alreadyTerminal record.batchId), record)
  else
    match record.state with
    | .pending | .retryPending _ =>
        (.ok (), { record with state := .exporting, attempts := record.attempts + 1 })
    | _ => record.invalid "try_export"

def markAcknowledged (record : BridgeRecoveryRecord) (ackHash : Bytes32) : Outcome :=
  if record.state.isTerminal then (.error (.alreadyTerminal record.batchId), record)
  else
    match record.state with
    | .exporting | .exported =>
        (.ok (), { record with state := .acknowledged, ackHash := some ackHash })
    | _ => record.invalid "mark_acknowledged"

def markRejected (record : BridgeRecoveryRecord) : Outcome :=
  if record.state.isTerminal then (.error (.alreadyTerminal record.batchId), record)
  else
    match record.state with
    | .exporting | .exported => (.ok (), { record with state := .rejected })
    | _ => record.invalid "mark_rejected"

def retry (record : BridgeRecoveryRecord) (policy : BridgeRetryPolicy) (seq : U64) : Outcome :=
  if policy.maxAttempts ≤ record.attempts then
    (.error (.maxRetriesExceeded record.batchId), { record with state := .failed })
  else
    match record.state with
    | .rejected | .retryPending _ =>
        (.ok (), { record with state := .retryPending record.attempts, lastAttemptSeq := seq })
    | _ => record.invalid "retry"

end BridgeRecoveryRecord

structure RuntimeAckReconciliationResult where
  batchId : Bytes32
  wasDuplicateAck : Bool
  ackHashMatch : Bool
  actionTaken : String
deriving DecidableEq

structure DeliveryConsistencyCheck where
  batchesPending : Nat
  batchesAcked : Nat
  batchesFailed : Nat
  batchesInRetry : Nat
  inconsistencies : List String
deriving DecidableEq

structure BridgeRecoveryStore where
  records : KeyedMap BridgeRecoveryRecord.batchId
  policy : BridgeRetryPolicy
  seq : U64

namespace BridgeRecoveryStore

open BridgeRecoveryRecord

def new (policy : BridgeRetryPolicy) : BridgeRecoveryStore := { records := .empty, policy, seq := 0 }

def put (store : BridgeRecoveryStore) (record : BridgeRecoveryRecord) : BridgeRecoveryStore :=
  { store with records := store.records.insert record }

def registerBatch (store : BridgeRecoveryStore) (batchId : Bytes32) : BridgeRecoveryStore :=
  if store.records.contains batchId then store else store.put (.new batchId)

def exportBatch (store : BridgeRecoveryStore) (batchId : Bytes32) :
    Except BridgeRecoveryError Unit × BridgeRecoveryStore :=
  match store.records.get? batchId with
  | none => (.error (.batchNotFound batchId), store)
  | some record =>
      let (result, record) := record.tryExport
      (result, store.put record)

def acknowledge (store : BridgeRecoveryStore) (batchId ackHash : Bytes32) :
    Except BridgeRecoveryError RuntimeAckReconciliationResult × BridgeRecoveryStore :=
  match store.records.get? batchId with
  | none => (.error (.batchNotFound batchId), store)
  | some record =>
      if record.state.isTerminal then
        let wasAcked := record.state = .acknowledged ∨ record.state = .recoveredAck
        let hashMatch := record.ackHash.any fun stored => stored = ackHash
        match record.ackHash with
        | some storedHash =>
            if wasAcked ∧ ¬ hashMatch then (.error (.ackHashConflict batchId storedHash ackHash), store)
            else (.ok { batchId, wasDuplicateAck := wasAcked, ackHashMatch := hashMatch
                        actionTaken := "ignored_duplicate" }, store)
        | none => (.ok { batchId, wasDuplicateAck := wasAcked, ackHashMatch := hashMatch
                         actionTaken := "ignored_duplicate" }, store)
      else
        let isRecovery := match record.state with | .retryPending _ => true | _ => false
        match record.markAcknowledged ackHash with
        | (.error e, record) => (.error e, store.put record)
        | (.ok (), record) =>
            let record := if isRecovery then { record with state := .recoveredAck } else record
            (.ok { batchId, wasDuplicateAck := false, ackHashMatch := true
                   actionTaken := "acknowledged" }, store.put record)

def rejectAndRetry (store : BridgeRecoveryStore) (batchId : Bytes32) :
    Except BridgeRecoveryError Unit × BridgeRecoveryStore :=
  let seq := store.seq
  let store := { store with seq := store.seq + 1 }
  match store.records.get? batchId with
  | none => (.error (.batchNotFound batchId), store)
  | some record =>
      match record.markRejected with
      | (.error e, record) => (.error e, store.put record)
      | (.ok (), record) =>
          let (result, record) := record.retry store.policy seq
          (result, store.put record)

def debugPrefix (batchId : Bytes32) : String :=
  "[" ++ ", ".intercalate (((beBytes 32 batchId).take 4).map toString) ++ "]"

def checkRecord (check : DeliveryConsistencyCheck) (record : BridgeRecoveryRecord) :
    DeliveryConsistencyCheck :=
  match record.state with
  | .pending | .exporting | .exported => { check with batchesPending := check.batchesPending + 1 }
  | .acknowledged | .recoveredAck =>
      { check with
        batchesAcked := check.batchesAcked + 1
        inconsistencies :=
          if record.ackHash.isNone then
            check.inconsistencies ++ ["batch " ++ debugPrefix record.batchId ++ " acked but no ack_hash"]
          else check.inconsistencies }
  | .failed => { check with batchesFailed := check.batchesFailed + 1 }
  | .retryPending _ => { check with batchesInRetry := check.batchesInRetry + 1 }
  | .rejected =>
      { check with
        inconsistencies :=
          check.inconsistencies ++ ["batch " ++ debugPrefix record.batchId ++ " stuck in Rejected"] }

def consistencyCheck (store : BridgeRecoveryStore) : DeliveryConsistencyCheck :=
  store.records.values.foldl checkRecord
    { batchesPending := 0, batchesAcked := 0, batchesFailed := 0, batchesInRetry := 0
      inconsistencies := [] }

inductive Call
  | registerBatch (batchId : Bytes32)
  | exportBatch (batchId : Bytes32)
  | acknowledge (batchId ackHash : Bytes32)
  | rejectAndRetry (batchId : Bytes32)

def step (store : BridgeRecoveryStore) : Call → BridgeRecoveryStore
  | .registerBatch batchId => store.registerBatch batchId
  | .exportBatch batchId => (store.exportBatch batchId).2
  | .acknowledge batchId ackHash => (store.acknowledge batchId ackHash).2
  | .rejectAndRetry batchId => (store.rejectAndRetry batchId).2

inductive Moves (policy : BridgeRetryPolicy) : BridgeRecoveryRecord → BridgeRecoveryRecord → Prop
  | stays (record : BridgeRecoveryRecord) : Moves policy record record
  | exports {record : BridgeRecoveryRecord}
      (waits : record.state = .pending ∨ ∃ attempt, record.state = .retryPending attempt) :
      Moves policy record { record with state := .exporting, attempts := record.attempts + 1 }
  | acknowledges {record : BridgeRecoveryRecord}
      (sent : record.state = .exporting ∨ record.state = .exported) (ackHash : Bytes32) :
      Moves policy record { record with state := .acknowledged, ackHash := some ackHash }
  | fails {record : BridgeRecoveryRecord}
      (sent : record.state = .exporting ∨ record.state = .exported)
      (spent : policy.maxAttempts ≤ record.attempts) :
      Moves policy record { record with state := .failed }
  | retries {record : BridgeRecoveryRecord}
      (sent : record.state = .exporting ∨ record.state = .exported)
      (left : ¬ policy.maxAttempts ≤ record.attempts) (seq : U64) :
      Moves policy record
        { record with state := .retryPending record.attempts, lastAttemptSeq := seq }

theorem Moves.batchId {policy : BridgeRetryPolicy} {record after : BridgeRecoveryRecord}
    (moves : Moves policy record after) : after.batchId = record.batchId := by
  cases moves <;> rfl

theorem Moves.terminal {policy : BridgeRetryPolicy} {record after : BridgeRecoveryRecord}
    (moves : Moves policy record after) (terminal : record.state.isTerminal) : after = record := by
  cases moves with
  | stays => rfl
  | exports waits => rcases waits with waits | ⟨attempt, waits⟩ <;> simp [waits, BridgeDeliveryState.isTerminal] at terminal
  | acknowledges sent => rcases sent with sent | sent <;> simp [sent, BridgeDeliveryState.isTerminal] at terminal
  | fails sent => rcases sent with sent | sent <;> simp [sent, BridgeDeliveryState.isTerminal] at terminal
  | retries sent => rcases sent with sent | sent <;> simp [sent, BridgeDeliveryState.isTerminal] at terminal

theorem tryExport_moves (policy : BridgeRetryPolicy) (record : BridgeRecoveryRecord) :
    Moves policy record record.tryExport.2 := by
  unfold tryExport
  split
  · exact .stays record
  · split
    · rename_i waits
      exact .exports (.inl waits)
    · rename_i attempt waits
      exact .exports (.inr ⟨attempt, waits⟩)
    · exact .stays record

theorem markAcknowledged_sent {record : BridgeRecoveryRecord}
    (sent : record.state = .exporting ∨ record.state = .exported) (ackHash : Bytes32) :
    record.markAcknowledged ackHash =
      (.ok (), { record with state := .acknowledged, ackHash := some ackHash }) := by
  rcases sent with sent | sent <;> simp [markAcknowledged, sent, BridgeDeliveryState.isTerminal]

theorem markAcknowledged_unsent {record : BridgeRecoveryRecord}
    (unsent : ¬ (record.state = .exporting ∨ record.state = .exported)) (ackHash : Bytes32) :
    ∃ e, record.markAcknowledged ackHash = (.error e, record) := by
  unfold markAcknowledged
  split
  · exact ⟨_, rfl⟩
  · split
    · rename_i sent
      exact absurd (.inl sent) unsent
    · rename_i sent
      exact absurd (.inr sent) unsent
    · exact ⟨_, rfl⟩

theorem markRejected_sent {record : BridgeRecoveryRecord}
    (sent : record.state = .exporting ∨ record.state = .exported) :
    record.markRejected = (.ok (), { record with state := .rejected }) := by
  rcases sent with sent | sent <;> simp [markRejected, sent, BridgeDeliveryState.isTerminal]

theorem markRejected_unsent {record : BridgeRecoveryRecord}
    (unsent : ¬ (record.state = .exporting ∨ record.state = .exported)) :
    ∃ e, record.markRejected = (.error e, record) := by
  unfold markRejected
  split
  · exact ⟨_, rfl⟩
  · split
    · rename_i sent
      exact absurd (.inl sent) unsent
    · rename_i sent
      exact absurd (.inr sent) unsent
    · exact ⟨_, rfl⟩

structure Evolves (store after : BridgeRecoveryStore) : Prop where
  policy : after.policy = store.policy
  fresh : ∀ id, store.records.get? id = none →
    after.records.get? id = none ∨ after.records.get? id = some (.new id)
  moved : ∀ id record, store.records.get? id = some record →
    ∃ now, after.records.get? id = some now ∧ Moves store.policy record now

section Evolves

variable {store : BridgeRecoveryStore}

theorem Evolves.refl (store : BridgeRecoveryStore) : Evolves store store :=
  ⟨rfl, fun _ absent => .inl absent, fun _ record found => ⟨record, found, .stays record⟩⟩

theorem evolves_put {batchId : Bytes32} {record now : BridgeRecoveryRecord}
    (found : store.records.get? batchId = some record) (moves : Moves store.policy record now) :
    Evolves store (store.put now) := by
  have names : now.batchId = batchId := moves.batchId.trans (KeyedMap.key_of_get? store.records found)
  refine ⟨rfl, fun id absent => .inl ?_, fun id old held => ?_⟩
  · rw [put, KeyedMap.get?_insert, names, if_neg]
    · exact absent
    · intro same
      rw [same, absent] at found
      cases found
  · simp only [put, KeyedMap.get?_insert, names]
    split
    · rename_i same
      subst same
      obtain rfl := Option.some.inj (held.symm.trans found)
      exact ⟨now, rfl, moves⟩
    · exact ⟨old, held, .stays old⟩

theorem Evolves.ofSeq {after : BridgeRecoveryStore} (seq : U64)
    (evolves : Evolves { store with seq } after) : Evolves store after :=
  ⟨evolves.policy, evolves.fresh, evolves.moved⟩

theorem registerBatch_evolves (store : BridgeRecoveryStore) (batchId : Bytes32) :
    Evolves store (store.registerBatch batchId) := by
  unfold registerBatch
  split
  · exact .refl store
  · rename_i unknown
    rw [KeyedMap.contains_eq, Bool.not_eq_true, Option.isSome_eq_false_iff,
      Option.isNone_iff_eq_none] at unknown
    refine ⟨rfl, fun id absent => ?_, fun id old held => ⟨old, ?_, .stays old⟩⟩
    · simp only [put, KeyedMap.get?_insert, BridgeRecoveryRecord.new]
      split
      · rename_i same
        rw [same]
        exact .inr rfl
      · exact .inl absent
    · rw [put, KeyedMap.get?_insert, if_neg]
      · exact held
      · intro same
        rw [← same] at held
        rw [show (BridgeRecoveryRecord.new batchId).batchId = batchId from rfl, unknown] at held
        cases held

theorem exportBatch_evolves (store : BridgeRecoveryStore) (batchId : Bytes32) :
    Evolves store (store.exportBatch batchId).2 := by
  unfold exportBatch
  split
  · exact .refl store
  · rename_i record found
    exact evolves_put found (tryExport_moves store.policy record)

theorem acknowledge_evolves (store : BridgeRecoveryStore) (batchId ackHash : Bytes32) :
    Evolves store (store.acknowledge batchId ackHash).2 := by
  unfold acknowledge
  split
  · exact .refl store
  · rename_i record found
    split
    · simp only
      split
      · split
        · exact .refl store
        · exact .refl store
      · exact .refl store
    · by_cases sent : record.state = .exporting ∨ record.state = .exported
      · rw [markAcknowledged_sent sent]
        rcases sent with sent | sent
        · simp only [sent, Bool.false_eq_true, if_false]
          exact evolves_put found (.acknowledges (.inl sent) ackHash)
        · simp only [sent, Bool.false_eq_true, if_false]
          exact evolves_put found (.acknowledges (.inr sent) ackHash)
      · obtain ⟨e, unsent⟩ := markAcknowledged_unsent sent ackHash
        rw [unsent]
        exact evolves_put found (.stays record)

theorem rejectAndRetry_evolves (store : BridgeRecoveryStore) (batchId : Bytes32) :
    Evolves store (store.rejectAndRetry batchId).2 := by
  unfold rejectAndRetry
  apply Evolves.ofSeq (store.seq + 1)
  simp only
  split
  · exact .refl _
  · rename_i record found
    by_cases sent : record.state = .exporting ∨ record.state = .exported
    · rw [markRejected_sent sent]
      simp only [retry]
      split
      · rename_i spent
        exact evolves_put found (.fails sent spent)
      · rename_i left
        exact evolves_put found (.retries sent left store.seq)
    · obtain ⟨e, unsent⟩ := markRejected_unsent sent
      rw [unsent]
      exact evolves_put found (.stays record)

theorem step_evolves (store : BridgeRecoveryStore) (call : Call) : Evolves store (store.step call) := by
  cases call with
  | registerBatch batchId => exact registerBatch_evolves store batchId
  | exportBatch batchId => exact exportBatch_evolves store batchId
  | acknowledge batchId ackHash => exact acknowledge_evolves store batchId ackHash
  | rejectAndRetry batchId => exact rejectAndRetry_evolves store batchId

end Evolves

/-- The states a record can be in, with the attempts made in each. -/
def Reached (maxAttempts : U32) (record : BridgeRecoveryRecord) : Prop :=
  match record.state with
  | .pending => record.attempts = 0
  | .exporting => 0 < record.attempts.toNat ∧ record.attempts ≤ maxAttempts
  | .retryPending _ => 0 < record.attempts.toNat ∧ record.attempts < maxAttempts
  | .acknowledged => record.ackHash ≠ none ∧ record.attempts ≤ maxAttempts
  | .failed => record.attempts ≤ maxAttempts
  | .exported | .rejected | .recoveredAck => False

def Sound (store : BridgeRecoveryStore) : Prop :=
  0 < store.policy.maxAttempts.toNat ∧
    ∀ id record, store.records.get? id = some record → Reached store.policy.maxAttempts record

theorem Moves.reached {policy : BridgeRetryPolicy} {record after : BridgeRecoveryRecord}
    (positive : 0 < policy.maxAttempts.toNat) (moves : Moves policy record after)
    (reached : Reached policy.maxAttempts record) : Reached policy.maxAttempts after := by
  cases moves with
  | stays => exact reached
  | exports waits =>
      have bound := policy.maxAttempts.isLt
      have below : record.attempts.toNat < policy.maxAttempts.toNat := by
        rcases waits with waits | ⟨attempt, waits⟩
        · simp only [Reached, waits] at reached
          simpa [reached] using positive
        · simp only [Reached, waits, BitVec.lt_def] at reached
          exact reached.2
      have next : (record.attempts + 1).toNat = record.attempts.toNat + 1 := by
        rw [BitVec.toNat_add]
        exact Nat.mod_eq_of_lt (by simp only [BitVec.ofNat_eq_ofNat, BitVec.toNat_ofNat]; omega)
      simp only [Reached, BitVec.le_def, next]
      omega
  | acknowledges sent ackHash =>
      rcases sent with sent | sent
      · simp only [Reached, sent] at reached
        exact ⟨nofun, reached.2⟩
      · simp [Reached, sent] at reached
  | fails sent spent =>
      rcases sent with sent | sent
      · simp only [Reached, sent] at reached
        exact reached.2
      · simp [Reached, sent] at reached
  | retries sent left seq =>
      rcases sent with sent | sent
      · simp only [Reached, sent] at reached
        exact ⟨reached.1, BitVec.not_le.1 left⟩
      · simp [Reached, sent] at reached

theorem Sound.step {store : BridgeRecoveryStore} (sound : Sound store) (call : Call) :
    Sound (store.step call) := by
  have evolves := step_evolves store call
  refine ⟨by rw [evolves.policy]; exact sound.1, fun id now held => ?_⟩
  rw [evolves.policy]
  cases before : store.records.get? id with
  | none =>
      rcases evolves.fresh id before with absent | fresh
      · rw [absent] at held
        cases held
      · rw [fresh] at held
        cases held
        exact rfl
  | some record =>
      obtain ⟨after, found, moves⟩ := evolves.moved id record before
      obtain rfl := Option.some.inj (found.symm.trans held)
      exact moves.reached sound.1 (sound.2 id record before)

theorem Sound.consistent {store : BridgeRecoveryStore} (sound : Sound store) :
    store.consistencyCheck.inconsistencies = [] := by
  have each : ∀ record ∈ store.records.values, Reached store.policy.maxAttempts record := by
    intro record member
    obtain ⟨⟨id, listed⟩, entry, rfl⟩ := List.mem_map.1 member
    exact sound.2 id listed (Std.ExtTreeMap.mem_toList_iff_getElem?_eq_some.1 entry)
  unfold consistencyCheck
  apply List.foldlRecOn (motive := fun check => check.inconsistencies = []) store.records.values
    checkRecord rfl
  intro check none record member
  have reached := each record member
  unfold checkRecord
  unfold Reached at reached
  split <;> simp_all

def AckTaken (store : BridgeRecoveryStore) (call : Call) : Prop :=
  ∀ batchId ackHash record, call = .acknowledge batchId ackHash →
    store.records.get? batchId = some record → 0 < record.attempts.toNat →
    record.state.isTerminal = false →
    (store.acknowledge batchId ackHash).1.isOk = true ∧
      ∃ now, (store.step call).records.get? batchId = some now ∧ now.state.isTerminal = true ∧
        now.ackHash = some ackHash

structure Recovers (store : BridgeRecoveryStore) (call : Call) : Prop where
  attempts : ∀ id record, (store.step call).records.get? id = some record →
    record.attempts ≤ store.policy.maxAttempts
  terminal : ∀ id record, store.records.get? id = some record → record.state.isTerminal = true →
    (store.step call).records.get? id = some record
  consistent : (store.step call).consistencyCheck.inconsistencies = []
  acknowledged : AckTaken store call

/-- No acknowledgement arrives for a batch that waits for its next export. -/
def NotWaiting (store : BridgeRecoveryStore) (call : Call) : Prop :=
  ∀ batchId ackHash record attempt, call = .acknowledge batchId ackHash →
    store.records.get? batchId = some record → record.state ≠ .retryPending attempt

section Recovers

variable {store : BridgeRecoveryStore}

theorem Reached.attempts_le {maxAttempts : U32} {record : BridgeRecoveryRecord}
    (reached : Reached maxAttempts record) : record.attempts ≤ maxAttempts := by
  simp only [BitVec.le_def]
  unfold Reached at reached
  split at reached
  · simp [reached]
  · exact reached.2
  · exact Nat.le_of_lt reached.2
  · exact reached.2
  · exact reached
  · exact reached.elim
  · exact reached.elim
  · exact reached.elim

theorem acknowledge_sent {batchId ackHash : Bytes32} {record : BridgeRecoveryRecord}
    (found : store.records.get? batchId = some record) (sent : record.state = .exporting) :
    store.acknowledge batchId ackHash =
      (.ok { batchId, wasDuplicateAck := false, ackHashMatch := true, actionTaken := "acknowledged" },
        store.put { record with state := .acknowledged, ackHash := some ackHash }) := by
  simp only [acknowledge, found, sent, BridgeDeliveryState.isTerminal,
    markAcknowledged_sent (.inl sent) ackHash, Bool.false_eq_true, if_false]

theorem Sound.ackTaken_iff (sound : Sound store) (call : Call) :
    AckTaken store call ↔ NotWaiting store call := by
  constructor
  · intro taken batchId ackHash record attempt same found waits
    subst same
    have reached := sound.2 batchId record found
    simp only [Reached, waits] at reached
    obtain ⟨accepted, -⟩ := taken batchId ackHash record rfl found reached.1
      (by rw [waits]; rfl)
    have unsent : ¬ (record.state = .exporting ∨ record.state = .exported) := by simp [waits]
    obtain ⟨e, unsent⟩ := markAcknowledged_unsent unsent ackHash
    simp only [acknowledge, found, waits, BridgeDeliveryState.isTerminal, unsent] at accepted
    cases accepted
  · intro notWaiting batchId ackHash record same found started going
    subst same
    have reached := sound.2 batchId record found
    have sent : record.state = .exporting := by
      cases state : record.state with
      | exporting => rfl
      | pending =>
          simp only [Reached, state] at reached
          simp [reached] at started
      | retryPending attempt => exact absurd state (notWaiting batchId ackHash record attempt rfl found)
      | acknowledged | failed | recoveredAck => simp [state, BridgeDeliveryState.isTerminal] at going
      | exported | rejected => simp [Reached, state] at reached
    have names : record.batchId = batchId := KeyedMap.key_of_get? store.records found
    have taken : store.acknowledge batchId ackHash = (.ok _, store.put _) := acknowledge_sent found sent
    refine ⟨by rw [taken]; rfl, { record with state := .acknowledged, ackHash := some ackHash }, ?_,
      rfl, rfl⟩
    rw [BridgeRecoveryStore.step, taken, put, KeyedMap.get?_insert, if_pos names]

theorem Sound.recovers_iff (sound : Sound store) (call : Call) :
    Recovers store call ↔ NotWaiting store call := by
  rw [← sound.ackTaken_iff call]
  refine ⟨Recovers.acknowledged, fun taken => ⟨?_, ?_, (sound.step call).consistent, taken⟩⟩
  · intro id record held
    have reached := (sound.step call).2 id record held
    rw [(step_evolves store call).policy] at reached
    exact reached.attempts_le
  · intro id record held ended
    obtain ⟨now, found, moves⟩ := (step_evolves store call).moved id record held
    rw [found, moves.terminal ended]

end Recovers

theorem sound_new {policy : BridgeRetryPolicy} (positive : 0 < policy.maxAttempts.toNat) :
    Sound (new policy) :=
  ⟨positive, fun id record held => by simp [new] at held⟩

/-- For every policy that allows an attempt, every call of a run keeps the attempts within the policy,
ended batches as they are and the records consistent, and takes the acknowledgements of exported batches,
exactly when no acknowledgement comes for a batch that waits for a retry. -/
theorem recovers_iff_notWaiting (policy : BridgeRetryPolicy) (positive : 0 < policy.maxAttempts.toNat)
    (run : List Call) :
    Run.Along step Recovers (new policy) run ↔ Run.Along step NotWaiting (new policy) run := by
  refine Run.along_congr ?_ ?_ (sound_new positive) run
  · intro store call sound
    exact sound.recovers_iff call
  · intro store call sound _
    exact sound.step call

def lateAck : List Call :=
  [.registerBatch 1, .exportBatch 1, .rejectAndRetry 1, .acknowledge 1 7]

/-- The runtime's acknowledgement of the first export is refused once a retry is pending. -/
theorem lateAck_lost : ¬ Run.Along step Recovers (new ⟨3, 10⟩) lateAck := by
  rintro ⟨-, -, -, recovers, -⟩
  have start : Sound (new ⟨3, 10⟩) := sound_new (by decide)
  have notWaiting := ((((start.step _).step _).step _).recovers_iff _).1 recovers
  refine notWaiting 1 7 ⟨1, .retryPending 1, 1, 0, none⟩ 1 rfl ?_ rfl
  decide +kernel

theorem lateAck_recovers_iff :
    0 < (3 : U32).toNat ∧ (Run.Along step Recovers (new ⟨3, 10⟩) lateAck ↔
      Run.Along step NotWaiting (new ⟨3, 10⟩) lateAck) :=
  ⟨by decide, recovers_iff_notWaiting ⟨3, 10⟩ (by decide) lateAck⟩

end BridgeRecoveryStore

end Omniphi.PoSeq
