import Omniphi.Encoding
import Omniphi.PoSeq.FinalityHistory

/-! Checkpoints of the finality boundary: how one is made, what its id covers, and what restoring it puts
into a finality store. -/

namespace Omniphi.PoSeq

structure CheckpointMetadata where
  version : U32
  epoch : U64
  slot : U64
  createdSeq : U64
  nodeId : Bytes32
deriving DecidableEq

structure PoSeqCheckpoint where
  metadata : CheckpointMetadata
  finalityCheckpoint : FinalityCheckpoint
  epochStateHash : Bytes32
  bridgeStateHash : Bytes32
  misbehaviorCount : U32
  checkpointId : Bytes32
deriving DecidableEq

structure SnapshotExportRecord where
  checkpointId : Bytes32
  exportSeq : U64
  formatVersion : U32
  sizeBytes : U64
deriving DecidableEq

structure CheckpointRestoreResult where
  checkpointId : Bytes32
  success : Bool
  epochRestored : U64
  errors : List String
deriving DecidableEq

structure CheckpointPolicy where
  checkpointIntervalEpochs : U64
  maxCheckpointsRetained : Nat

def CheckpointPolicy.defaultPolicy : CheckpointPolicy where
  checkpointIntervalEpochs := 10
  maxCheckpointsRetained := 50

inductive CheckpointError
  | idMismatch (checkpointId : Bytes32)
  | epochAlreadyCheckpointed (epoch : U64)
  | storeEmpty
deriving DecidableEq

structure CheckpointStore where
  checkpoints : BTreeMap Bytes32 PoSeqCheckpoint
  epochIndex : BTreeMap U64 Bytes32
  policy : CheckpointPolicy
  seq : U64

namespace PoSeqCheckpoint

def idPreimage (metadata : CheckpointMetadata) (finalityHash : Bytes32) : Bytes :=
  leBytes 4 metadata.version ++ leBytes 8 metadata.epoch ++ leBytes 8 metadata.slot ++
    leBytes 8 metadata.createdSeq ++ beBytes 32 metadata.nodeId ++ beBytes 32 finalityHash

def computeId (sha256 : Sha256) (metadata : CheckpointMetadata) (finalityHash : Bytes32) : Bytes32 :=
  sha256 (idPreimage metadata finalityHash)

/-- The fields of the finality checkpoint take part only through the hash it carries. -/
def verifyId (sha256 : Sha256) (checkpoint : PoSeqCheckpoint) : Bool :=
  computeId sha256 checkpoint.metadata checkpoint.finalityCheckpoint.checkpointHash =
    checkpoint.checkpointId

end PoSeqCheckpoint

namespace CheckpointStore

def new (policy : CheckpointPolicy) : CheckpointStore where
  checkpoints := ∅
  epochIndex := ∅
  policy
  seq := 0

variable (sha256 : Sha256) (size : PoSeqCheckpoint → U64) (store : CheckpointStore)

/-- The source's `store`; `size` is the length of the serialized checkpoint. -/
def put (checkpoint : PoSeqCheckpoint) : Except CheckpointError SnapshotExportRecord × CheckpointStore :=
  if checkpoint.verifyId sha256 = false then (.error (.idMismatch checkpoint.checkpointId), store)
  else if store.epochIndex.contains checkpoint.metadata.epoch then
    (.error (.epochAlreadyCheckpointed checkpoint.metadata.epoch), store)
  else
    (.ok { checkpointId := checkpoint.checkpointId, exportSeq := store.seq, formatVersion := 1
           sizeBytes := size checkpoint },
      { store with
        seq := store.seq + 1
        epochIndex := store.epochIndex.insert checkpoint.metadata.epoch checkpoint.checkpointId
        checkpoints := store.checkpoints.insert checkpoint.checkpointId checkpoint })

def getById (id : Bytes32) : Option PoSeqCheckpoint := store.checkpoints[id]?

def restore (id : Bytes32) : CheckpointRestoreResult :=
  match store.checkpoints[id]? with
  | none =>
      { checkpointId := id, success := false, epochRestored := 0, errors := ["checkpoint not found"] }
  | some checkpoint =>
      let errors :=
        if checkpoint.verifyId sha256 then [] else ["checkpoint_id verification failed"]
      { checkpointId := id, success := errors.isEmpty, epochRestored := checkpoint.metadata.epoch, errors }

/-- The shortest way to the finalized state. The results of the transitions are dropped. -/
def register (finality : FinalityStore) (batchId : Bytes32) (epoch slot : U64) : FinalityStore :=
  let finality := finality.initBatch batchId epoch slot
  let finality := (finality.transition batchId .attested "restored").2
  let finality := (finality.transition batchId .quorumReached "restored").2
  (finality.transition batchId .finalized "restored").2

def restoreIntoFinalityStore (id : Bytes32) (finality : FinalityStore) :
    Except CheckpointError U64 × FinalityStore :=
  match store.checkpoints[id]? with
  | none => (.error .storeEmpty, finality)
  | some checkpoint =>
      if checkpoint.verifyId sha256 = false then (.error (.idMismatch checkpoint.checkpointId), finality)
      else
        let batchId := checkpoint.finalityCheckpoint.lastFinalizedBatchId
        let epoch := checkpoint.metadata.epoch
        match finality.statuses.get? batchId with
        | some _ => (.ok epoch, finality)
        | none => (.ok epoch, register finality batchId epoch checkpoint.metadata.slot)

def shouldCheckpoint (currentEpoch : U64) : Bool :=
  let interval := store.policy.checkpointIntervalEpochs
  if interval = 0 then false
  else if currentEpoch = 0 then false
  else
    match store.epochIndex.toList.getLast? with
    | none => currentEpoch % interval = 0
    | some (lastEpoch, _) => lastEpoch + interval ≤ currentEpoch

structure Boundary where
  epoch : U64
  slot : U64
  latestFinalized : Option Bytes32
  committeeHash : Bytes32
  exportedEpochs : BTreeSet U64
  nodeId : Bytes32

def Boundary.checkpoint (boundary : Boundary) : PoSeqCheckpoint :=
  let batchId := boundary.latestFinalized.getD 0
  let fc := FinalityCheckpoint.compute sha256 boundary.epoch batchId boundary.slot
  let metadata : CheckpointMetadata :=
    { version := 1, epoch := boundary.epoch, slot := boundary.slot, createdSeq := boundary.epoch
      nodeId := boundary.nodeId }
  { metadata
    finalityCheckpoint := fc
    epochStateHash := boundary.committeeHash
    bridgeStateHash := sha256 (strBytes "bridge:state:" ++ boundary.exportedEpochs.toList.flatMap (leBytes 8))
    misbehaviorCount := 0
    checkpointId := PoSeqCheckpoint.computeId sha256 metadata fc.checkpointHash }

def createCheckpoint (boundary : Boundary) : Option Bytes32 × CheckpointStore :=
  if store.shouldCheckpoint boundary.epoch = false then (none, store)
  else
    let checkpoint := boundary.checkpoint sha256
    match put sha256 size store checkpoint with
    | (.ok _, store) => (some checkpoint.checkpointId, store)
    | (.error _, store) => (none, store)

end CheckpointStore

section Restore

open CheckpointStore

variable {sha256 : Sha256} {size : PoSeqCheckpoint → U64} {store : CheckpointStore}

def restoredStatus (batchId : Bytes32) (epoch slot seq : U64) : BatchFinalityStatus where
  batchId
  currentState := .finalized
  epoch
  slot
  transitions :=
    [⟨.proposed, .attested, "restored", seq⟩, ⟨.attested, .quorumReached, "restored", seq + 1⟩,
      ⟨.quorumReached, .finalized, "restored", seq + 1 + 1⟩]

theorem transition_legal {finality : FinalityStore} {status : BatchFinalityStatus} {next : FinalityState}
    {reason : String} (live : status.currentState.isTerminal = false)
    (legal : status.currentState.canTransitionTo next = true) :
    (({ finality with statuses := finality.statuses.insert status } : FinalityStore).transition
        status.batchId next reason).2 =
      { statuses := finality.statuses.insert { status with
          transitions := status.transitions ++ [⟨status.currentState, next, reason, finality.seq⟩]
          currentState := next }
        seq := finality.seq + 1 } := by
  have held : (finality.statuses.insert status).get? status.batchId = some status := by
    rw [KeyedMap.get?_insert, if_pos rfl]
  simp only [FinalityStore.transition, held, live, legal, Bool.false_eq_true, Bool.true_eq_false, if_false]
  congr 1
  apply KeyedMap.ext
  intro k
  simp only [KeyedMap.get?_insert]
  split <;> rfl

theorem register_eq (finality : FinalityStore) (batchId : Bytes32) (epoch slot : U64) :
    register finality batchId epoch slot =
      { statuses := finality.statuses.insert (restoredStatus batchId epoch slot finality.seq)
        seq := finality.seq + 1 + 1 + 1 } := by
  have attested := @transition_legal finality (.new batchId epoch slot) .attested "restored" rfl rfl
  have quorum := @transition_legal ⟨finality.statuses, finality.seq + 1⟩
    { restoredStatus batchId epoch slot finality.seq with
      currentState := .attested
      transitions := [⟨.proposed, .attested, "restored", finality.seq⟩] } .quorumReached "restored" rfl rfl
  have finalized := @transition_legal ⟨finality.statuses, finality.seq + 1 + 1⟩
    { restoredStatus batchId epoch slot finality.seq with
      currentState := .quorumReached
      transitions := [⟨.proposed, .attested, "restored", finality.seq⟩,
        ⟨.attested, .quorumReached, "restored", finality.seq + 1⟩] } .finalized "restored" rfl rfl
  unfold register FinalityStore.initBatch
  exact ((congrArg (fun next => ((FinalityStore.transition next batchId .quorumReached "restored").2.transition
    batchId .finalized "restored").2) attested).trans
      (congrArg (fun next => (FinalityStore.transition next batchId .finalized "restored").2) quorum)).trans
        finalized

theorem checkpoint_of_only {finality : FinalityStore} {status : BatchFinalityStatus}
    (held : finality.statuses.get? status.batchId = some status) (counts : status.currentState.counts = true)
    (only : ∀ other ∈ finality.finalizedIn status.epoch, other = status) :
    finality.checkpoint sha256 status.epoch =
      some (.compute sha256 status.epoch status.batchId status.slot) := by
  have listed : status ∈ finality.finalizedIn status.epoch :=
    FinalityStore.mem_finalizedIn.2 ⟨_, held, rfl, counts⟩
  obtain ⟨best, found, -⟩ := FinalityStore.latest_of_mem listed
  have same := only best (FinalityStore.mem_of_latest found)
  rw [FinalityStore.checkpoint, found, same]
  rfl

theorem checkpoint_register {finality : FinalityStore} {batchId : Bytes32} {epoch slot : U64}
    (idle : finality.finalizedIn epoch = []) :
    (register finality batchId epoch slot).checkpoint sha256 epoch =
      some (.compute sha256 epoch batchId slot) := by
  rw [register_eq]
  apply @checkpoint_of_only _ _ (restoredStatus batchId epoch slot finality.seq)
  · rw [KeyedMap.get?_insert, if_pos rfl]
  · rfl
  · intro other member
    obtain ⟨id, held, same, counts⟩ := FinalityStore.mem_finalizedIn.1 member
    rw [KeyedMap.get?_insert] at held
    split at held
    · exact (Option.some.inj held).symm
    · have listed : other ∈ finality.finalizedIn epoch := FinalityStore.mem_finalizedIn.2 ⟨id, held, same, counts⟩
      rw [idle] at listed
      cases listed

theorem restoreInto_verified {id : Bytes32} {checkpoint : PoSeqCheckpoint} {finality : FinalityStore}
    (held : store.checkpoints[id]? = some checkpoint) (verified : checkpoint.verifyId sha256 = true)
    (absent : finality.statuses.get? checkpoint.finalityCheckpoint.lastFinalizedBatchId = none) :
    store.restoreIntoFinalityStore sha256 id finality =
      (.ok checkpoint.metadata.epoch,
        register finality checkpoint.finalityCheckpoint.lastFinalizedBatchId checkpoint.metadata.epoch
          checkpoint.metadata.slot) := by
  simp only [restoreIntoFinalityStore, held, verified, absent, Bool.true_eq_false, if_false]

theorem restoreInto_tracked {id : Bytes32} {checkpoint : PoSeqCheckpoint} {finality : FinalityStore}
    {status : BatchFinalityStatus} (held : store.checkpoints[id]? = some checkpoint)
    (verified : checkpoint.verifyId sha256 = true)
    (tracked : finality.statuses.get? checkpoint.finalityCheckpoint.lastFinalizedBatchId = some status) :
    store.restoreIntoFinalityStore sha256 id finality = (.ok checkpoint.metadata.epoch, finality) := by
  simp only [restoreIntoFinalityStore, held, verified, tracked, Bool.true_eq_false, if_false]

def restoredBoundary (sha256 : Sha256) (store : CheckpointStore) (id : Bytes32) (epoch : U64) :
    Option FinalityCheckpoint :=
  (store.restoreIntoFinalityStore sha256 id .new).2.checkpoint sha256 epoch

theorem restoredBoundary_eq {id : Bytes32} {checkpoint : PoSeqCheckpoint}
    (held : store.checkpoints[id]? = some checkpoint) (verified : checkpoint.verifyId sha256 = true) :
    restoredBoundary sha256 store id checkpoint.metadata.epoch =
      some (.compute sha256 checkpoint.metadata.epoch checkpoint.finalityCheckpoint.lastFinalizedBatchId
        checkpoint.metadata.slot) := by
  have absent : FinalityStore.new.statuses.get? checkpoint.finalityCheckpoint.lastFinalizedBatchId = none :=
    KeyedMap.get?_empty _
  have idle : FinalityStore.new.finalizedIn checkpoint.metadata.epoch = [] := rfl
  rw [restoredBoundary, restoreInto_verified held verified absent, checkpoint_register idle]

theorem put_fresh {checkpoint : PoSeqCheckpoint} {record : SnapshotExportRecord} {store' : CheckpointStore}
    (stored : put sha256 size store checkpoint = (.ok record, store')) :
    store'.checkpoints[checkpoint.checkpointId]? = some checkpoint := by
  unfold put at stored
  split at stored
  · cases stored
  · split at stored
    · cases stored
    · obtain ⟨-, rfl⟩ := Prod.mk.inj stored
      show (store.checkpoints.insert checkpoint.checkpointId checkpoint)[checkpoint.checkpointId]? = _
      rw [BTree.getElem?_insert, if_pos rfl]

theorem createCheckpoint_some {boundary : Boundary} {id : Bytes32} {store' : CheckpointStore}
    (created : store.createCheckpoint sha256 size boundary = (some id, store')) :
    id = (boundary.checkpoint sha256).checkpointId ∧
      store'.checkpoints[id]? = some (boundary.checkpoint sha256) := by
  unfold createCheckpoint at created
  split at created
  · cases created
  · dsimp only at created
    split at created
    · rename_i stored
      obtain ⟨same, rfl⟩ := Prod.mk.inj created
      obtain rfl := Option.some.inj same
      exact ⟨rfl, put_fresh stored⟩
    · cases created

/-- A boundary as `FinalityStore::checkpoint` gives it, with the hash of its own fields. -/
def Sealed (sha256 : Sha256) (fc : FinalityCheckpoint) : Prop :=
  fc = .compute sha256 fc.epoch fc.lastFinalizedBatchId fc.lastFinalizedSlot

theorem sealed_of_checkpoint {finality : FinalityStore} {epoch : U64} {fc : FinalityCheckpoint}
    (made : finality.checkpoint sha256 epoch = some fc) : Sealed sha256 fc ∧ fc.epoch = epoch ∧
      ∃ status, finality.statuses.get? fc.lastFinalizedBatchId = some status := by
  obtain ⟨best, found, rfl⟩ := Option.map_eq_some_iff.1 made
  obtain ⟨id, held, -⟩ := FinalityStore.mem_finalizedIn.1 (FinalityStore.mem_of_latest found)
  obtain rfl := finality.statuses.key_of_get? held
  exact ⟨rfl, rfl, best, held⟩

theorem idPreimage_injective {metadata metadata' : CheckpointMetadata} {hash hash' : Bytes32}
    (same : PoSeqCheckpoint.idPreimage metadata hash = PoSeqCheckpoint.idPreimage metadata' hash') :
    metadata = metadata' ∧ hash = hash' := by
  unfold PoSeqCheckpoint.idPreimage at same
  simp only [List.append_assoc] at same
  obtain ⟨version, same⟩ := @leBytes_code 4 32 (by decide) _ _ _ _ same
  obtain ⟨epoch, same⟩ := @leBytes_code 8 64 (by decide) _ _ _ _ same
  obtain ⟨slot, same⟩ := @leBytes_code 8 64 (by decide) _ _ _ _ same
  obtain ⟨createdSeq, same⟩ := @leBytes_code 8 64 (by decide) _ _ _ _ same
  obtain ⟨nodeId, same⟩ := @beBytes_code 32 256 (by decide) _ _ _ _ same
  have hashes := beBytes_injective (n := 32) (by decide) same
  cases metadata
  cases metadata'
  cases version
  cases epoch
  cases slot
  cases createdSeq
  cases nodeId
  exact ⟨rfl, hashes⟩

theorem covered_of_verified {first second : PoSeqCheckpoint}
    (free : CollisionFree sha256
      [PoSeqCheckpoint.idPreimage first.metadata first.finalityCheckpoint.checkpointHash,
        PoSeqCheckpoint.idPreimage second.metadata second.finalityCheckpoint.checkpointHash])
    (verified : first.verifyId sha256 = true) (verified' : second.verifyId sha256 = true)
    (same : first.checkpointId = second.checkpointId) :
    first.metadata = second.metadata ∧
      first.finalityCheckpoint.checkpointHash = second.finalityCheckpoint.checkpointHash := by
  have digests := (of_decide_eq_true verified).trans (same.trans (of_decide_eq_true verified').symm)
  exact idPreimage_injective (free _ (by simp) _ (by simp) digests)

theorem restoreInto_eq_iff {id : Bytes32} {store' : CheckpointStore} {first second : PoSeqCheckpoint}
    (held : store.checkpoints[id]? = some first) (held' : store'.checkpoints[id]? = some second)
    (verified : first.verifyId sha256 = true) (verified' : second.verifyId sha256 = true)
    (metadata : first.metadata = second.metadata) :
    (∀ finality, store.restoreIntoFinalityStore sha256 id finality =
        store'.restoreIntoFinalityStore sha256 id finality) ↔
      first.finalityCheckpoint.lastFinalizedBatchId = second.finalityCheckpoint.lastFinalizedBatchId := by
  constructor
  · intro alike
    have boundaries := restoredBoundary_eq held verified
    rw [restoredBoundary, alike .new, ← restoredBoundary, metadata,
      restoredBoundary_eq held' verified'] at boundaries
    exact (congrArg FinalityCheckpoint.lastFinalizedBatchId (Option.some.inj boundaries)).symm
  · intro same finality
    simp only [restoreIntoFinalityStore, held, held', verified, verified', metadata, same, Bool.true_eq_false,
      if_false]

def fieldsPreimage (fc : FinalityCheckpoint) : Bytes :=
  leBytes 8 fc.epoch ++ beBytes 32 fc.lastFinalizedBatchId ++ leBytes 8 fc.lastFinalizedSlot

/-- What a checkpoint was made from is what restoring it gives; of two checkpoints under one id it is so
just when they name the same batch. -/
theorem restores_boundary_iff (sha256 : Sha256) (size : PoSeqCheckpoint → U64) :
    (∀ (finality : FinalityStore) (fc : FinalityCheckpoint) (store store' : CheckpointStore)
        (boundary : Boundary) (id : Bytes32),
      finality.checkpoint sha256 boundary.epoch = some fc → boundary.slot = fc.lastFinalizedSlot →
      boundary.latestFinalized = some fc.lastFinalizedBatchId →
      store.createCheckpoint sha256 size boundary = (some id, store') →
      store'.getById id = some (boundary.checkpoint sha256) ∧
        (boundary.checkpoint sha256).finalityCheckpoint = fc ∧
        restoredBoundary sha256 store' id boundary.epoch = some fc ∧
        store'.restoreIntoFinalityStore sha256 id finality = (.ok boundary.epoch, finality)) ∧
    (∀ (store store' : CheckpointStore) (id : Bytes32) (first second : PoSeqCheckpoint),
      store.getById id = some first → store'.getById id = some second →
      first.verifyId sha256 = true → second.verifyId sha256 = true →
      first.checkpointId = second.checkpointId →
      CollisionFree sha256
        [PoSeqCheckpoint.idPreimage first.metadata first.finalityCheckpoint.checkpointHash,
          PoSeqCheckpoint.idPreimage second.metadata second.finalityCheckpoint.checkpointHash] →
      ((∀ finality, store.restoreIntoFinalityStore sha256 id finality =
          store'.restoreIntoFinalityStore sha256 id finality) ↔
        first.finalityCheckpoint.lastFinalizedBatchId = second.finalityCheckpoint.lastFinalizedBatchId)) := by
  constructor
  · intro finality fc store store' boundary id made slot batch created
    obtain ⟨whole, epoch, status, tracked⟩ := sealed_of_checkpoint made
    obtain ⟨rfl, held⟩ := createCheckpoint_some created
    have verified : (boundary.checkpoint sha256).verifyId sha256 = true := decide_eq_true rfl
    have named : (boundary.checkpoint sha256).finalityCheckpoint = fc := by
      show FinalityCheckpoint.compute sha256 boundary.epoch (boundary.latestFinalized.getD 0) boundary.slot = fc
      rw [batch, slot, ← epoch]
      exact whole.symm
    refine ⟨held, named, ?_, ?_⟩
    · refine (restoredBoundary_eq held verified).trans ?_
      rw [named]
      show some (FinalityCheckpoint.compute sha256 boundary.epoch fc.lastFinalizedBatchId boundary.slot) = _
      rw [slot, ← epoch]
      exact congrArg some whole.symm
    · exact restoreInto_tracked held verified (named ▸ tracked)
  · intro store store' id first second held held' verified verified' same free
    exact restoreInto_eq_iff held held' verified verified'
      (covered_of_verified free verified verified' same).1

def sampleBoundary : Boundary where
  epoch := 10
  slot := 3
  latestFinalized := some 7
  committeeHash := 6
  exportedEpochs := ∅
  nodeId := 5

def sampleHash : Bytes32 := 0x65317f46891e18422d16f8c255a74aebc7032b968a38975040987cb5977ead71

def checkpointDigests : Sha256 := fun input =>
  if input = leBytes 8 (10 : U64) ++ beBytes 32 (7 : Bytes32) ++ leBytes 8 (3 : U64) then sampleHash
  else if input = PoSeqCheckpoint.idPreimage ⟨1, 10, 3, 10, 5⟩ sampleHash then
    0xafb7582618d658220dfcbaf249bf5fa69652f01928bfcc3d906ff756b8f2fa04
  else if input = strBytes "bridge:state:" then
    0xac2f3e2bbd2d06878ced7c2fc036dc3f664168f41d2c5df2605ec0ab62934777
  else 0

theorem sampleBoundary_restored :
    ∃ id store', createCheckpoint checkpointDigests (fun _ => 0) (.new .defaultPolicy) sampleBoundary =
        (some id, store') ∧
      restoredBoundary checkpointDigests store' id 10 = some (.compute checkpointDigests 10 7 3) := by
  have made : (register .new 7 10 3).checkpoint checkpointDigests 10 =
      some (.compute checkpointDigests 10 7 3) := checkpoint_register rfl
  have created : createCheckpoint checkpointDigests (fun _ => 0) (.new .defaultPolicy) sampleBoundary =
      (some (sampleBoundary.checkpoint checkpointDigests).checkpointId,
        (createCheckpoint checkpointDigests (fun _ => 0) (.new .defaultPolicy) sampleBoundary).2) := rfl
  exact ⟨_, _, created, ((restores_boundary_iff checkpointDigests fun _ => 0).1 _ _ _ _ sampleBoundary _ made
    rfl rfl created).2.2.1⟩

def forged (sha256 : Sha256) (batchId : Bytes32) : PoSeqCheckpoint :=
  { sampleBoundary.checkpoint sha256 with
    finalityCheckpoint :=
      { (sampleBoundary.checkpoint sha256).finalityCheckpoint with lastFinalizedBatchId := batchId } }

/-- Verified checkpoints under one id restore to different batches, whatever the hash. -/
theorem one_id_two_boundaries :
    ¬ ∃ sha256 : Sha256, ∀ (store store' : CheckpointStore) (id : Bytes32) (first second : PoSeqCheckpoint),
      store.getById id = some first → store'.getById id = some second →
      first.verifyId sha256 = true → second.verifyId sha256 = true →
      first.checkpointId = second.checkpointId →
      CollisionFree sha256
        [PoSeqCheckpoint.idPreimage first.metadata first.finalityCheckpoint.checkpointHash,
          PoSeqCheckpoint.idPreimage second.metadata second.finalityCheckpoint.checkpointHash] →
      ∀ finality, store.restoreIntoFinalityStore sha256 id finality =
        store'.restoreIntoFinalityStore sha256 id finality := by
  rintro ⟨sha256, claimed⟩
  have verified (batchId : Bytes32) : (forged sha256 batchId).verifyId sha256 = true := decide_eq_true rfl
  have stored (batchId : Bytes32) : (put sha256 (fun _ => 0) (.new .defaultPolicy)
      (forged sha256 batchId)).2.getById (forged sha256 7).checkpointId = some (forged sha256 batchId) := by
    have accepted : put sha256 (fun _ => 0) (.new .defaultPolicy) (forged sha256 batchId) =
        (.ok ⟨(forged sha256 batchId).checkpointId, 0, 1, 0⟩,
          (put sha256 (fun _ => 0) (.new .defaultPolicy) (forged sha256 batchId)).2) := by
      simp only [put, verified, Bool.true_eq_false, if_false]
      rfl
    exact put_fresh accepted
  have free : CollisionFree sha256
      [PoSeqCheckpoint.idPreimage (forged sha256 7).metadata (forged sha256 7).finalityCheckpoint.checkpointHash,
        PoSeqCheckpoint.idPreimage (forged sha256 8).metadata
          (forged sha256 8).finalityCheckpoint.checkpointHash] := by
    intro a memberA b memberB _
    simp only [List.mem_cons, List.not_mem_nil, or_false] at memberA memberB
    rcases memberA with rfl | rfl <;> rcases memberB with rfl | rfl <;> rfl
  have alike := claimed _ _ _ _ _ (stored 7) (stored 8) (verified 7) (verified 8) rfl free
  have batches := (restoreInto_eq_iff (stored 7) (stored 8) (verified 7) (verified 8) rfl).1 alike
  exact absurd (show (7 : Bytes32) = 8 from batches) (by decide)

end Restore

end Omniphi.PoSeq
