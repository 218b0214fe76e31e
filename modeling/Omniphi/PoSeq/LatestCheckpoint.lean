import Omniphi.PoSeq.DurableMaps

/-! The index of checkpoints by epoch: when it agrees with the checkpoints that are stored. -/

namespace Omniphi.PoSeq

open DurableStore Run

namespace TypedMaps

structure Indexed (maps : TypedMaps) : Prop where
  stored : ∀ id checkpoint, maps.checkpoints id = some checkpoint →
    (maps.epochIndex checkpoint.metadata.epoch).isSome
  named : ∀ epoch, (maps.byEpoch epoch).isSome = (maps.epochIndex epoch).isSome
  ownEpoch : ∀ epoch checkpoint, maps.byEpoch epoch = some checkpoint → checkpoint.metadata.epoch = epoch

/-- The entry of an epoch leads to the checkpoint put last for the epoch. -/
def Agrees (maps : TypedMaps) : Prop :=
  ∀ epoch, (maps.epochIndex epoch).bind maps.checkpoints = maps.byEpoch epoch

/-- The index names the id of a checkpoint that is put under no epoch but its own. -/
def NamesOneEpoch (maps : TypedMaps) : Operation → Prop
  | .putCheckpoint checkpoint => ∀ epoch,
      maps.epochIndex epoch = some checkpoint.checkpointId → epoch = checkpoint.metadata.epoch
  | _ => True

variable {maps : TypedMaps}

theorem indexed_empty : empty.Indexed where
  stored _ _ found := by cases found
  named _ := rfl
  ownEpoch _ _ found := by cases found

theorem agrees_empty : empty.Agrees := fun _ => rfl

theorem Indexed.putCheckpoint (indexed : maps.Indexed) (checkpoint : PoSeqCheckpoint) :
    (maps.apply (.putCheckpoint checkpoint)).Indexed where
  stored id held found := by
    simp only [apply, Function.update_apply] at found ⊢
    split at found
    · obtain rfl := Option.some.inj found
      rw [if_pos rfl]
      rfl
    · have before := indexed.stored id held found
      split
      · rfl
      · exact before
  named epoch := by
    simp only [apply, Function.update_apply]
    split
    · rfl
    · exact indexed.named epoch
  ownEpoch epoch held found := by
    simp only [apply, Function.update_apply] at found
    split at found
    · rename_i same
      obtain rfl := Option.some.inj found
      exact same.symm
    · exact indexed.ownEpoch epoch held found

theorem Indexed.apply (indexed : maps.Indexed) (operation : Operation) : (maps.apply operation).Indexed := by
  cases operation with
  | putCheckpoint checkpoint => exact indexed.putCheckpoint checkpoint
  | _ => exact ⟨indexed.stored, indexed.named, indexed.ownEpoch⟩

theorem indexed_run (operations : List Operation) : (operations.foldl TypedMaps.apply empty).Indexed :=
  Run.invariant (P := fun _ _ => True) (fun _ operation indexed _ => indexed.apply operation) indexed_empty
    (along_of_forall (fun _ _ => trivial) _ _)

theorem agrees_apply_iff (indexed : maps.Indexed) (agrees : maps.Agrees) (operation : Operation) :
    (maps.apply operation).Agrees ↔ maps.NamesOneEpoch operation := by
  cases operation with
  | putCheckpoint checkpoint =>
      constructor
      · intro after epoch named
        by_contra other
        have entry := after epoch
        simp only [TypedMaps.apply, Function.update_of_ne other, named, Option.bind_some,
          Function.update_self] at entry
        exact other (indexed.ownEpoch epoch checkpoint entry.symm).symm
      · intro one epoch
        by_cases same : epoch = checkpoint.metadata.epoch
        · subst same
          simp [TypedMaps.apply]
        · have before := agrees epoch
          simp only [TypedMaps.apply, Function.update_of_ne same]
          cases named : maps.epochIndex epoch with
          | none => rwa [named] at before
          | some id =>
              have different : id ≠ checkpoint.checkpointId := by
                rintro rfl
                exact same (one epoch named)
              rw [named] at before
              simpa [Function.update_of_ne different] using before
  | _ => exact ⟨fun _ => trivial, fun _ => agrees⟩

theorem agrees_run_iff (operations : List Operation) :
    (∀ before, before <+: operations → (before.foldl TypedMaps.apply empty).Agrees) ↔
      Along TypedMaps.apply NamesOneEpoch empty operations := by
  induction operations using List.reverseRecOn with
  | nil =>
      refine ⟨fun _ => trivial, fun _ before short => ?_⟩
      rw [List.prefix_nil.1 short]
      exact agrees_empty
  | append_singleton operations operation ih =>
      have last (agrees) := agrees_apply_iff (indexed_run operations) agrees operation
      rw [along_append, ← ih]
      constructor
      · intro throughout
        have earlier : ∀ before, before <+: operations → (before.foldl TypedMaps.apply empty).Agrees :=
          fun before short => throughout before (short.trans (List.prefix_append _ _))
        have final := throughout _ (List.prefix_refl _)
        rw [List.foldl_append] at final
        exact ⟨earlier, (last (earlier _ (List.prefix_refl _))).1 final, trivial⟩
      · rintro ⟨earlier, step, -⟩ before short
        rcases List.prefix_concat_iff.1 short with rfl | short
        · rw [List.foldl_append]
          exact (last (earlier _ (List.prefix_refl _))).2 step
        · exact earlier before short

end TypedMaps

variable {codecs : Codecs} {store : DurableStore} {maps : TypedMaps}

structure EpochReads (codecs : Codecs) (store : DurableStore) (maps : TypedMaps) : Prop where
  byEpoch : ∀ epoch, store.getCheckpointForEpoch codecs epoch = maps.byEpoch epoch
  latest : ∀ checkpoint, store.latestCheckpoint codecs = some checkpoint →
    (∃ id, maps.checkpoints id = some checkpoint) ∧
      ∀ id other, maps.checkpoints id = some other → other.metadata.epoch ≤ checkpoint.metadata.epoch
  latest_none : store.latestCheckpoint codecs = none → ∀ id, maps.checkpoints id = none

theorem getCheckpointForEpoch_eq (represents : Represents codecs store maps) (epoch : U64) :
    store.getCheckpointForEpoch codecs epoch = (maps.epochIndex epoch).bind maps.checkpoints := by
  rw [getCheckpointForEpoch, (readsAsMaps represents).epochIndex]
  exact congrArg _ (funext (getCheckpoint_eq represents))

theorem le_of_compare_key {first second : U64}
    (below : compare (Cell.ckptEpoch first).key (Cell.ckptEpoch second).key = .lt) : first ≤ second := by
  by_contra above
  have reversed := compare_beBytes (n := 8) (by decide) (BitVec.not_le.1 above)
  rw [Cell.key, Cell.key] at below
  change compare (Family.ckptEpoch.bytes ++ _) (Family.ckptEpoch.bytes ++ _) = _ at below
  rw [KeySpace.compare_append] at below
  rw [@Std.OrientedCmp.eq_swap _ compare] at reversed
  change (compare (Cell.ckptEpoch first).suffix (Cell.ckptEpoch second).suffix).swap = .lt at reversed
  rw [below] at reversed
  cases reversed

theorem mem_epochScan (represents : Represents codecs store maps) {entry : Bytes × Bytes} :
    entry ∈ store.engine.prefixScanRaw Family.ckptEpoch.bytes ↔
      ∃ epoch id, maps.epochIndex epoch = some id ∧ entry = ((Cell.ckptEpoch epoch).key, beBytes 32 id) := by
  rw [← Prod.eta entry, mem_scan represents]
  constructor
  · rintro ⟨cell, belongs, same, held⟩
    cases cell with
    | ckptEpoch epoch =>
        obtain ⟨id, found, bytes⟩ := Option.map_eq_some_iff.1 held
        exact ⟨epoch, id, found, Prod.ext same.symm bytes.symm⟩
    | engine key => cases key <;> cases belongs
    | _ => cases belongs
  · rintro ⟨epoch, id, found, same⟩
    obtain ⟨key, value⟩ := Prod.mk.inj same
    exact ⟨.ckptEpoch epoch, rfl, key.symm, by rw [value, TypedMaps.stored, found]; rfl⟩

theorem latestCheckpoint_eq (represents : Represents codecs store maps) :
    (store.latestCheckpoint codecs = none ∧ ∀ epoch, maps.epochIndex epoch = none) ∨
      ∃ epoch id, maps.epochIndex epoch = some id ∧ store.latestCheckpoint codecs = maps.checkpoints id ∧
        ∀ other, (maps.epochIndex other).isSome → other ≤ epoch := by
  rw [latestCheckpoint]
  cases last : (store.engine.prefixScanRaw Family.ckptEpoch.bytes).getLast? with
  | none =>
      refine .inl ⟨rfl, fun epoch => ?_⟩
      cases found : maps.epochIndex epoch with
      | none => rfl
      | some id =>
          have listed := (mem_epochScan represents).2 ⟨epoch, id, found, rfl⟩
          rw [List.getLast?_eq_none_iff.1 last] at listed
          cases listed
  | some entry =>
      obtain ⟨key, value⟩ := entry
      obtain ⟨listed, greatest⟩ := KeySpace.getLast?_scan last
      obtain ⟨epoch, id, found, same⟩ := (mem_epochScan represents).1 listed
      obtain ⟨rfl, rfl⟩ := Prod.mk.inj same
      refine .inr ⟨epoch, id, found, ?_, fun other named => ?_⟩
      · rw [Option.bind_some, readExact_beBytes (by decide), Option.bind_some, getCheckpoint_eq represents]
      · obtain ⟨id', found'⟩ := Option.isSome_iff_exists.1 named
        rcases greatest _ ((mem_epochScan represents).2 ⟨other, id', found', rfl⟩) with same | below
        · obtain ⟨keys, -⟩ := Prod.mk.inj same
          obtain rfl := Cell.ckptEpoch.inj (Cell.key_injective keys)
          exact BitVec.le_refl _
        · exact le_of_compare_key below

theorem epochReads_iff (represents : Represents codecs store maps) (indexed : maps.Indexed) :
    EpochReads codecs store maps ↔ maps.Agrees := by
  constructor
  · intro reads epoch
    rw [← getCheckpointForEpoch_eq represents, reads.byEpoch]
  · intro agrees
    refine ⟨fun epoch => (getCheckpointForEpoch_eq represents epoch).trans (agrees epoch), ?_, ?_⟩
    all_goals rcases latestCheckpoint_eq represents with ⟨absent, empty⟩ | ⟨epoch, id, found, read, greatest⟩
    · intro checkpoint present
      rw [absent] at present
      cases present
    · intro checkpoint present
      rw [read] at present
      have put : maps.byEpoch epoch = some checkpoint := by rw [← agrees epoch, found]; exact present
      rw [indexed.ownEpoch epoch checkpoint put]
      exact ⟨⟨id, present⟩, fun id' other held => greatest _ (indexed.stored id' other held)⟩
    · intro _ id
      cases held : maps.checkpoints id with
      | none => rfl
      | some checkpoint =>
          have named := indexed.stored id checkpoint held
          rw [empty] at named
          cases named
    · intro missing
      have put := indexed.named epoch
      rw [← agrees epoch, found, Option.bind_some, ← read, missing] at put
      cases put

def runStore (codecs : Codecs) (operations : List Operation) : DurableStore :=
  operations.foldl (DurableStore.apply codecs) (.new .new)

def runMaps (operations : List Operation) : TypedMaps := operations.foldl TypedMaps.apply .empty

theorem represents_runs (codecs : Codecs) (operations : List Operation) :
    Represents codecs (runStore codecs operations) (runMaps operations) :=
  represents_run represents_empty operations

/-- After every run the store reads as the maps, and the reads through the epochs do so in every state of the
run exactly if each checkpoint is put under an id that the index names for its own epoch only. -/
theorem durable_store_reads_as_maps (codecs : Codecs) (operations : List Operation) :
    ReadsAsMaps codecs (runStore codecs operations) (runMaps operations) ∧
      ((∀ before, before <+: operations → EpochReads codecs (runStore codecs before) (runMaps before)) ↔
        Along TypedMaps.apply TypedMaps.NamesOneEpoch .empty operations) := by
  refine ⟨readsAsMaps (represents_runs codecs operations), ?_⟩
  rw [← TypedMaps.agrees_run_iff]
  exact forall₂_congr fun before _ =>
    epochReads_iff (represents_runs codecs before) (TypedMaps.indexed_run before)

section Moved

instance countable_char : Countable Char :=
  Function.Injective.countable (f := Char.toNat) fun _ _ same => Char.ext (UInt32.toNat_inj.1 same)

instance countable_string : Countable String := Function.Injective.countable fun _ _ => String.toList_inj.1

deriving instance Countable for CheckpointMetadata, FinalityCheckpoint, PoSeqCheckpoint, FinalityState,
  FinalityTransitionRecord, BatchFinalityStatus, BridgeDeliveryState, BridgeRecoveryRecord,
  SubmissionDecision, SubmissionDecisionRecord, SequencingReceipt

theorem codec_exists (α : Type) [Countable α] : Nonempty (Codec α) := by
  obtain ⟨code, injective⟩ := exists_injective_nat α
  exact ⟨{
    encode value := List.replicate (code value) 0
    decode bytes := Function.partialInv code bytes.length
    roundTrip value := by
      rw [List.length_replicate]
      exact Function.partialInv_left injective value }⟩

theorem codecs_exist : Nonempty Codecs := by
  obtain ⟨finality⟩ := codec_exists BatchFinalityStatus
  obtain ⟨bridge⟩ := codec_exists BridgeRecoveryRecord
  obtain ⟨checkpoint⟩ := codec_exists PoSeqCheckpoint
  obtain ⟨receipt⟩ := codec_exists SequencingReceipt
  exact ⟨⟨finality, bridge, checkpoint, receipt⟩⟩

def sampleCheckpoint (checkpointId : Bytes32) (epoch : U64) : PoSeqCheckpoint where
  metadata := { version := 1, epoch, slot := 0, createdSeq := 0, nodeId := 0 }
  finalityCheckpoint := { epoch, lastFinalizedBatchId := 0, lastFinalizedSlot := 0, checkpointHash := 0 }
  epochStateHash := 0
  bridgeStateHash := 0
  misbehaviorCount := 0
  checkpointId

def movedCheckpoint : List Operation :=
  [.putCheckpoint (sampleCheckpoint 1 9), .putCheckpoint (sampleCheckpoint 2 5),
    .putCheckpoint (sampleCheckpoint 1 3)]

theorem epochIndex_moved (epoch : U64) : (runMaps movedCheckpoint).epochIndex epoch =
    if epoch = 3 then some 1 else if epoch = 5 then some 2 else if epoch = 9 then some 1 else none := by
  simp [runMaps, movedCheckpoint, TypedMaps.apply, TypedMaps.empty, sampleCheckpoint, Function.update_apply]

/-- The entry of epoch nine outlives the move: the latest checkpoint is then that of epoch three, with one of
epoch five in the store. -/
theorem moved_checkpoint_is_latest : Nonempty Codecs ∧ ∀ codecs,
    (runStore codecs movedCheckpoint).latestCheckpoint codecs = some (sampleCheckpoint 1 3) ∧
      (runStore codecs movedCheckpoint).getCheckpoint codecs 2 = some (sampleCheckpoint 2 5) ∧
      (sampleCheckpoint 1 3).metadata.epoch < (sampleCheckpoint 2 5).metadata.epoch := by
  refine ⟨codecs_exist, fun codecs => ?_⟩
  have represents := represents_runs codecs movedCheckpoint
  refine ⟨?_, (getCheckpoint_eq represents 2).trans ?_, by decide⟩
  · rcases latestCheckpoint_eq represents with ⟨-, empty⟩ | ⟨epoch, id, found, read, greatest⟩
    · have entry := empty 9
      rw [epochIndex_moved] at entry
      cases entry
    · have nine : epoch = 9 := by
        have above : (9 : U64) ≤ epoch := greatest 9 (by rw [epochIndex_moved]; rfl)
        rw [epochIndex_moved] at found
        split_ifs at found with three five nine
        · subst three; exact absurd above (by decide)
        · subst five; exact absurd above (by decide)
        · exact nine
      subst nine
      rw [epochIndex_moved] at found
      obtain rfl : (1 : Bytes32) = id := Option.some.inj found
      rw [read]
      simp [runMaps, movedCheckpoint, TypedMaps.apply, sampleCheckpoint]
  · simp [runMaps, movedCheckpoint, TypedMaps.apply, sampleCheckpoint]

end Moved

end Omniphi.PoSeq
