import Omniphi.Lib.Run
import Omniphi.PoSeq.DurableStore

/-! The durable store as independent maps, one for each kind of record. -/

namespace Omniphi.PoSeq

open DurableStore

structure TypedMaps where
  engine : PersistenceKey → Option Bytes
  schemaVersion : Option U32
  finality : Bytes32 → Option BatchFinalityStatus
  bridge : Bytes32 → Option BridgeRecoveryRecord
  checkpoints : Bytes32 → Option PoSeqCheckpoint
  epochIndex : U64 → Option Bytes32
  /-- The checkpoint put last for the epoch. -/
  byEpoch : U64 → Option PoSeqCheckpoint
  replay : Bytes32 → Option U64
  receipts : Bytes32 → Option SequencingReceipt

namespace TypedMaps

def empty : TypedMaps where
  engine _ := none
  schemaVersion := none
  finality _ := none
  bridge _ := none
  checkpoints _ := none
  epochIndex _ := none
  byEpoch _ := none
  replay _ := none
  receipts _ := none

def apply (maps : TypedMaps) : Operation → TypedMaps
  | .putKey key data => { maps with engine := Function.update maps.engine key (some data) }
  | .deleteJailRecord nodeId => { maps with engine := Function.update maps.engine (.jail nodeId) none }
  | .writeSchemaVersion => { maps with schemaVersion := some currentSchemaVersion }
  | .putFinalityStatus status =>
      { maps with finality := Function.update maps.finality status.batchId (some status) }
  | .putBridgeRecord record =>
      { maps with bridge := Function.update maps.bridge record.batchId (some record) }
  | .putCheckpoint checkpoint =>
      { maps with
        checkpoints := Function.update maps.checkpoints checkpoint.checkpointId (some checkpoint)
        epochIndex := Function.update maps.epochIndex checkpoint.metadata.epoch
          (some checkpoint.checkpointId)
        byEpoch := Function.update maps.byEpoch checkpoint.metadata.epoch (some checkpoint) }
  | .putReplayEntry submissionId seq =>
      { maps with replay := Function.update maps.replay submissionId (some seq) }
  | .deleteReplayEntry submissionId => { maps with replay := Function.update maps.replay submissionId none }
  | .putReceipt batchId receipt =>
      { maps with receipts := Function.update maps.receipts batchId (some receipt) }

def stored (codecs : Codecs) (maps : TypedMaps) : Cell → Option Bytes
  | .engine key => maps.engine key
  | .schemaVersion => maps.schemaVersion.map (beBytes 4)
  | .finality id => (maps.finality id).map codecs.finality.encode
  | .bridgeRec id => (maps.bridge id).map codecs.bridge.encode
  | .checkpoint id => (maps.checkpoints id).map codecs.checkpoint.encode
  | .ckptEpoch epoch => (maps.epochIndex epoch).map (beBytes 32)
  | .replay id => (maps.replay id).map (beBytes 8)
  | .receipt id => (maps.receipts id).map codecs.receipt.encode

end TypedMaps

/-- The store holds what the maps hold, under the keys of cells and nowhere else. -/
structure Represents (codecs : Codecs) (store : DurableStore) (maps : TypedMaps) : Prop where
  holds : ∀ cell, store.get cell = maps.stored codecs cell
  only : ∀ key value, store.engine.getRaw key = some value → ∃ cell : Cell, cell.key = key

variable {codecs : Codecs} {store : DurableStore} {maps maps' : TypedMaps}

section Steps

theorem get_put (store : DurableStore) (cell other : Cell) (value : Bytes) :
    (store.put cell value).get other = if other = cell then some value else store.get other := by
  show (store.engine.backend.insert cell.key value)[other.key]? = _
  rw [BTree.getElem?_insert]
  simp only [Cell.key_injective.eq_iff, eq_comm]
  rfl

theorem get_delete (store : DurableStore) (cell other : Cell) :
    (store.delete cell).get other = if other = cell then none else store.get other := by
  show (store.engine.backend.erase cell.key)[other.key]? = _
  rw [BTree.getElem?_erase]
  simp only [Cell.key_injective.eq_iff, eq_comm]
  rfl

theorem Represents.put (represents : Represents codecs store maps) (cell : Cell) {value : Bytes}
    (updated : ∀ other, maps'.stored codecs other =
      if other = cell then some value else maps.stored codecs other) :
    Represents codecs (store.put cell value) maps' where
  holds other := by rw [get_put, updated, represents.holds]
  only key held found := by
    change (store.engine.backend.insert cell.key value)[key]? = _ at found
    rw [BTree.getElem?_insert] at found
    split at found
    · rename_i same
      exact ⟨cell, same⟩
    · exact represents.only key held found

theorem Represents.delete (represents : Represents codecs store maps) (cell : Cell)
    (updated : ∀ other, maps'.stored codecs other =
      if other = cell then none else maps.stored codecs other) :
    Represents codecs (store.delete cell) maps' where
  holds other := by rw [get_delete, updated, represents.holds]
  only key held found := by
    change (store.engine.backend.erase cell.key)[key]? = _ at found
    rw [BTree.getElem?_erase] at found
    split at found
    · cases found
    · exact represents.only key held found

theorem map_update {α β γ : Type} [DecidableEq α] (f : β → γ) (map : α → Option β) (a b : α)
    (value : Option β) :
    (Function.update map a value b).map f = if b = a then value.map f else (map b).map f := by
  rw [Function.update_apply]
  split <;> rfl

theorem represents_apply (represents : Represents codecs store maps) (operation : Operation) :
    Represents codecs (store.apply codecs operation) (maps.apply operation) := by
  cases operation with
  | putKey key data =>
      refine represents.put (.engine key) fun other => ?_
      cases other <;> simp [TypedMaps.stored, TypedMaps.apply, Function.update_apply]
  | deleteJailRecord nodeId =>
      refine represents.delete (.engine (.jail nodeId)) fun other => ?_
      cases other <;> simp [TypedMaps.stored, TypedMaps.apply, Function.update_apply]
  | writeSchemaVersion =>
      refine represents.put (.schemaVersion) fun other => ?_
      cases other <;> simp [TypedMaps.stored, TypedMaps.apply]
  | putFinalityStatus status =>
      refine represents.put (.finality status.batchId) fun other => ?_
      cases other <;> simp [TypedMaps.stored, TypedMaps.apply, map_update]
  | putBridgeRecord record =>
      refine represents.put (.bridgeRec record.batchId) fun other => ?_
      cases other <;> simp [TypedMaps.stored, TypedMaps.apply, map_update]
  | putCheckpoint checkpoint =>
      have first : Represents codecs
          (store.put (.checkpoint checkpoint.checkpointId) (codecs.checkpoint.encode checkpoint))
          { maps with
            checkpoints := Function.update maps.checkpoints checkpoint.checkpointId (some checkpoint) } := by
        refine represents.put (.checkpoint checkpoint.checkpointId) fun other => ?_
        cases other <;> simp [TypedMaps.stored, map_update]
      refine first.put (.ckptEpoch checkpoint.metadata.epoch) fun other => ?_
      cases other <;> simp [TypedMaps.stored, TypedMaps.apply, map_update]
  | putReplayEntry submissionId seq =>
      refine represents.put (.replay submissionId) fun other => ?_
      cases other <;> simp [TypedMaps.stored, TypedMaps.apply, map_update]
  | deleteReplayEntry submissionId =>
      refine represents.delete (.replay submissionId) fun other => ?_
      cases other <;> simp [TypedMaps.stored, TypedMaps.apply, map_update]
  | putReceipt batchId receipt =>
      refine represents.put (.receipt batchId) fun other => ?_
      cases other <;> simp [TypedMaps.stored, TypedMaps.apply, map_update]

theorem represents_empty : Represents codecs (.new .new) .empty where
  holds cell := by
    show (∅ : BTreeMap Bytes Bytes)[cell.key]? = _
    rw [Std.ExtTreeMap.getElem?_empty]
    cases cell <;> rfl
  only key value found := by
    change (∅ : BTreeMap Bytes Bytes)[key]? = _ at found
    rw [Std.ExtTreeMap.getElem?_empty] at found
    cases found

theorem represents_run (represents : Represents codecs store maps) (operations : List Operation) :
    Represents codecs (operations.foldl (DurableStore.apply codecs) store)
      (operations.foldl TypedMaps.apply maps) := by
  induction operations generalizing store maps with
  | nil => exact represents
  | cons operation operations ih => exact ih (represents_apply represents operation)

end Steps

section Reads

theorem readExact_beBytes {n w : Nat} (wide : w ≤ 8 * n) (x : BitVec w) :
    readExact n w (beBytes n x) = some x := by
  rw [readExact, if_pos (length_beBytes n x), ofBeBytes_beBytes wide]

theorem bind_decode {α : Type} (codec : Codec α) (value : Option α) :
    (value.map codec.encode).bind codec.decode = value := by
  cases value with
  | none => rfl
  | some value => exact codec.roundTrip value

theorem bind_read {n w : Nat} (wide : w ≤ 8 * n) (value : Option (BitVec w)) :
    (value.map (beBytes n)).bind (readExact n w) = value := by
  cases value with
  | none => rfl
  | some value => exact readExact_beBytes wide value

theorem getCheckpoint_eq (represents : Represents codecs store maps) (id : Bytes32) :
    store.getCheckpoint codecs id = maps.checkpoints id := by
  rw [getCheckpoint, represents.holds]
  exact bind_decode _ _

theorem mem_scan (represents : Represents codecs store maps) (family : Family) (key value : Bytes) :
    (key, value) ∈ store.engine.prefixScanRaw family.bytes ↔
      ∃ cell : Cell, cell.family = family ∧ cell.key = key ∧ maps.stored codecs cell = some value := by
  rw [PersistenceEngine.prefixScanRaw, KeySpace.mem_scan]
  constructor
  · rintro ⟨begins, held⟩
    obtain ⟨cell, rfl⟩ := represents.only key value held
    exact ⟨cell, Cell.begins_iff.1 begins, rfl, (represents.holds cell).symm.trans held⟩
  · rintro ⟨cell, rfl, rfl, held⟩
    exact ⟨Cell.begins_iff.2 rfl, (represents.holds cell).trans held⟩

theorem mem_scanValues {α : Type} (represents : Represents codecs store maps) {codec : Codec α}
    {family : Family} (cellOf : Bytes32 → Cell) {records : Bytes32 → Option α}
    (cells : ∀ cell : Cell, cell.family = family ↔ ∃ id, cell = cellOf id)
    (kept : ∀ id, maps.stored codecs (cellOf id) = (records id).map codec.encode) (record : α) :
    record ∈ store.scanValues codec family ↔ ∃ id, records id = some record := by
  rw [scanValues, List.mem_filterMap]
  constructor
  · rintro ⟨⟨key, value⟩, listed, decoded⟩
    obtain ⟨cell, belongs, -, held⟩ := (mem_scan represents family key value).1 listed
    obtain ⟨id, rfl⟩ := (cells cell).1 belongs
    rw [kept, Option.map_eq_some_iff] at held
    obtain ⟨original, found, rfl⟩ := held
    obtain rfl := Option.some.inj ((codec.roundTrip original).symm.trans decoded)
    exact ⟨id, found⟩
  · rintro ⟨id, found⟩
    refine ⟨((cellOf id).key, codec.encode record), ?_, codec.roundTrip record⟩
    exact (mem_scan represents family _ _).2
      ⟨cellOf id, (cells _).2 ⟨id, rfl⟩, rfl, by rw [kept, found]; rfl⟩

def recordFamilies : List (Family × (Bytes32 → Cell)) :=
  [(.finality, .finality), (.bridgeRec, .bridgeRec), (.checkpoint, .checkpoint), (.receipt, .receipt)]

theorem family_iff {family : Family} {cellOf : Bytes32 → Cell} (records : (family, cellOf) ∈ recordFamilies)
    (cell : Cell) : cell.family = family ↔ ∃ id, cell = cellOf id := by
  simp only [recordFamilies, List.mem_cons, Prod.mk.injEq, List.not_mem_nil, or_false] at records
  rcases records with ⟨rfl, rfl⟩ | ⟨rfl, rfl⟩ | ⟨rfl, rfl⟩ | ⟨rfl, rfl⟩
  all_goals
    cases cell with
    | engine key => cases key <;> simp [Cell.family, PersistenceKey.family]
    | _ => simp [Cell.family]

structure ReadsAsMaps (codecs : Codecs) (store : DurableStore) (maps : TypedMaps) : Prop where
  engine : ∀ key, store.engine.getKey key = maps.engine key
  schemaVersion : store.readSchemaVersion = maps.schemaVersion
  finality : ∀ id, store.getFinalityStatus codecs id = maps.finality id
  bridge : ∀ id, store.getBridgeRecord codecs id = maps.bridge id
  checkpoints : ∀ id, store.getCheckpoint codecs id = maps.checkpoints id
  epochIndex : ∀ epoch, store.getCheckpointIdForEpoch epoch = maps.epochIndex epoch
  replay : ∀ id, store.getReplaySeq id = maps.replay id
  receipts : ∀ id, store.getReceipt codecs id = maps.receipts id
  finalityScan : ∀ status, status ∈ store.scanFinalityStatuses codecs ↔ ∃ id, maps.finality id = some status
  bridgeScan : ∀ record, record ∈ store.scanBridgeRecords codecs ↔ ∃ id, maps.bridge id = some record
  checkpointScan : ∀ checkpoint, checkpoint ∈ store.scanCheckpoints codecs ↔
    ∃ id, maps.checkpoints id = some checkpoint
  receiptScan : ∀ receipt, receipt ∈ store.scanReceipts codecs ↔ ∃ id, maps.receipts id = some receipt
  replayEntries : ∀ id seq, (id, seq) ∈ store.scanReplayEntries ↔ maps.replay id = some seq
  replayOnce : store.scanReplayEntries.Nodup
  replayAscending : store.scanReplayEntries.Pairwise fun a b => a.2 ≤ b.2

theorem readReplayEntry_eq (id : Bytes32) (seq : U64) :
    readReplayEntry ((Cell.replay id).key, beBytes 8 seq) = some (id, seq) := by
  have long : (Cell.replay id).key.length = Family.replay.bytes.length + 32 := by
    show (Family.replay.bytes ++ beBytes 32 id).length = _
    rw [List.length_append, length_beBytes]
  have rest : (Cell.replay id).key.drop Family.replay.bytes.length = beBytes 32 id := List.drop_left
  unfold readReplayEntry
  simp only [long, rest, if_true, readExact_beBytes (show 64 ≤ 8 * 8 by decide),
    ofBeBytes_beBytes (show 256 ≤ 8 * 32 by decide)]
  rfl

theorem mem_replayScan (represents : Represents codecs store maps) {entry : Bytes × Bytes}
    (listed : entry ∈ store.engine.prefixScanRaw Family.replay.bytes) :
    ∃ id seq, maps.replay id = some seq ∧ entry = ((Cell.replay id).key, beBytes 8 seq) := by
  obtain ⟨cell, belongs, same, held⟩ := (mem_scan represents _ entry.1 entry.2).1 listed
  cases cell with
  | replay id =>
      obtain ⟨seq, found, bytes⟩ := Option.map_eq_some_iff.1 held
      exact ⟨id, seq, found, Prod.ext same.symm bytes.symm⟩
  | engine key => cases key <;> cases belongs
  | _ => cases belongs

theorem mem_scanReplayEntries (represents : Represents codecs store maps) (id : Bytes32) (seq : U64) :
    (id, seq) ∈ store.scanReplayEntries ↔ maps.replay id = some seq := by
  rw [scanReplayEntries, Ranking.mem_sort, List.mem_filterMap]
  constructor
  · rintro ⟨entry, listed, read⟩
    obtain ⟨id', seq', found, rfl⟩ := mem_replayScan represents listed
    rw [readReplayEntry_eq] at read
    obtain ⟨rfl, rfl⟩ := Prod.mk.inj (Option.some.inj read)
    exact found
  · intro found
    refine ⟨((Cell.replay id).key, beBytes 8 seq), ?_, readReplayEntry_eq id seq⟩
    exact (mem_scan represents _ _ _).2 ⟨.replay id, rfl, rfl, by rw [TypedMaps.stored, found]; rfl⟩

theorem nodup_scanReplayEntries (represents : Represents codecs store maps) :
    store.scanReplayEntries.Nodup := by
  rw [scanReplayEntries, (Ranking.sort_perm _ _).nodup_iff, List.Nodup, List.pairwise_filterMap]
  refine (@KeySpace.scan_ordered _ _ _ _ _ store.engine.backend Family.replay.bytes).imp_of_mem ?_
  intro a b listed listed' below entry read entry' read' same
  obtain ⟨id, seq, -, rfl⟩ := mem_replayScan represents listed
  obtain ⟨id', seq', -, rfl⟩ := mem_replayScan represents listed'
  rw [readReplayEntry_eq] at read read'
  obtain ⟨rfl, -⟩ := Prod.mk.inj (Option.some.inj (read.trans (congrArg some same |>.trans read'.symm)))
  rw [Std.ReflOrd.compare_self] at below
  cases below

theorem ascending_scanReplayEntries (store : DurableStore) :
    store.scanReplayEntries.Pairwise fun a b => a.2 ≤ b.2 := by
  have : Std.TransCmp fun a b : Bytes32 × U64 => compare a.2 b.2 :=
    inferInstanceAs (Std.TransCmp (compareOn Prod.snd))
  refine List.Pairwise.imp ?_ Ranking.sort_sorted
  intro a b below
  rw [ne_eq, ← Ordering.isLE_iff_ne_gt] at below
  exact (isLE_compareOfLessAndEq BitVec.le_antisymm BitVec.not_le BitVec.le_total).1 below

theorem readsAsMaps (represents : Represents codecs store maps) : ReadsAsMaps codecs store maps where
  engine key := represents.holds (.engine key)
  schemaVersion := by
    rw [readSchemaVersion, represents.holds]
    exact bind_read (by decide) _
  finality id := by
    rw [getFinalityStatus, represents.holds]
    exact bind_decode _ _
  bridge id := by
    rw [getBridgeRecord, represents.holds]
    exact bind_decode _ _
  checkpoints := getCheckpoint_eq represents
  epochIndex epoch := by
    rw [getCheckpointIdForEpoch, represents.holds]
    exact bind_read (by decide) _
  replay id := by
    rw [getReplaySeq, represents.holds]
    exact bind_read (by decide) _
  receipts id := by
    rw [getReceipt, represents.holds]
    exact bind_decode _ _
  finalityScan := mem_scanValues represents .finality (family_iff (by simp [recordFamilies])) fun _ => rfl
  bridgeScan := mem_scanValues represents .bridgeRec (family_iff (by simp [recordFamilies])) fun _ => rfl
  checkpointScan := mem_scanValues represents .checkpoint (family_iff (by simp [recordFamilies])) fun _ => rfl
  receiptScan := mem_scanValues represents .receipt (family_iff (by simp [recordFamilies])) fun _ => rfl
  replayEntries := mem_scanReplayEntries represents
  replayOnce := nodup_scanReplayEntries represents
  replayAscending := ascending_scanReplayEntries store

end Reads

end Omniphi.PoSeq
