import Omniphi.Lib.KeyedMap
import Omniphi.Lib.Run
import Omniphi.Basic

/-! The finality status of batches: the legal transitions, the history of each batch and the checkpoint
of an epoch. -/

namespace Omniphi.PoSeq

inductive FinalityState
  | proposed
  | attested
  | quorumReached
  | finalized
  | runtimeDelivered
  | runtimeAcknowledged
  | runtimeRejected
  | superseded
  | invalidated
  | disputedPlaceholder
  | recovered
deriving DecidableEq, Repr

namespace FinalityState

def canTransitionTo : FinalityState → FinalityState → Bool
  | proposed, attested
  | proposed, superseded
  | proposed, invalidated
  | attested, quorumReached
  | attested, superseded
  | attested, invalidated
  | quorumReached, finalized
  | quorumReached, invalidated
  | finalized, runtimeDelivered
  | finalized, disputedPlaceholder
  | runtimeDelivered, runtimeAcknowledged
  | runtimeDelivered, runtimeRejected
  | runtimeDelivered, recovered
  | runtimeRejected, recovered
  | runtimeRejected, disputedPlaceholder
  | disputedPlaceholder, recovered
  | disputedPlaceholder, invalidated
  | recovered, runtimeDelivered => true
  | _, _ => false

def isTerminal : FinalityState → Bool
  | runtimeAcknowledged | superseded | invalidated => true
  | _ => false

def counts : FinalityState → Bool
  | finalized | runtimeDelivered | runtimeAcknowledged => true
  | _ => false

end FinalityState

inductive FinalityStateError
  | illegalTransition (current target : FinalityState)
  | alreadyTerminal (state : FinalityState)
  | batchNotFound (batchId : Bytes32)
deriving DecidableEq

structure FinalityTransitionRecord where
  origin : FinalityState
  target : FinalityState
  reason : String
  timestampSeq : U64
deriving DecidableEq

structure BatchFinalityStatus where
  batchId : Bytes32
  currentState : FinalityState
  epoch : U64
  slot : U64
  transitions : List FinalityTransitionRecord
deriving DecidableEq

def BatchFinalityStatus.new (batchId : Bytes32) (epoch slot : U64) : BatchFinalityStatus :=
  { batchId, currentState := .proposed, epoch, slot, transitions := [] }

structure FinalityCheckpoint where
  epoch : U64
  lastFinalizedBatchId : Bytes32
  lastFinalizedSlot : U64
  checkpointHash : Bytes32
deriving DecidableEq

def FinalityCheckpoint.compute (sha256 : Sha256) (epoch : U64) (batchId : Bytes32) (slot : U64) :
    FinalityCheckpoint where
  epoch := epoch
  lastFinalizedBatchId := batchId
  lastFinalizedSlot := slot
  checkpointHash := sha256 (leBytes 8 epoch ++ beBytes 32 batchId ++ leBytes 8 slot)

structure FinalityStore where
  statuses : KeyedMap BatchFinalityStatus.batchId
  seq : U64

namespace FinalityStore

def new : FinalityStore := { statuses := .empty, seq := 0 }

def initBatch (store : FinalityStore) (batchId : Bytes32) (epoch slot : U64) : FinalityStore :=
  { store with statuses := store.statuses.insert (.new batchId epoch slot) }

/-- The counter goes up whether or not the transition is made. -/
def transition (store : FinalityStore) (batchId : Bytes32) (next : FinalityState) (reason : String) :
    Except FinalityStateError Unit × FinalityStore :=
  let seq := store.seq
  let store := { store with seq := store.seq + 1 }
  match store.statuses.get? batchId with
  | none => (.error (.batchNotFound batchId), store)
  | some status =>
      if status.currentState.isTerminal then (.error (.alreadyTerminal status.currentState), store)
      else if status.currentState.canTransitionTo next = false then
        (.error (.illegalTransition status.currentState next), store)
      else
        let status := { status with
          transitions := status.transitions ++ [⟨status.currentState, next, reason, seq⟩]
          currentState := next }
        (.ok (), { store with statuses := store.statuses.insert status })

/-- `max_by_key` on the slot: of equal slots the last one. -/
def latest (statuses : List BatchFinalityStatus) : Option BatchFinalityStatus :=
  statuses.foldl (fun best status =>
    match best with
    | none => some status
    | some held => if held.slot ≤ status.slot then some status else some held) none

def finalizedIn (store : FinalityStore) (epoch : U64) : List BatchFinalityStatus :=
  store.statuses.values.filter fun status => status.epoch = epoch ∧ status.currentState.counts

def checkpoint (sha256 : Sha256) (store : FinalityStore) (epoch : U64) : Option FinalityCheckpoint :=
  (latest (store.finalizedIn epoch)).map fun best =>
    .compute sha256 epoch best.batchId best.slot

inductive Call
  | initBatch (batchId : Bytes32) (epoch slot : U64)
  | transition (batchId : Bytes32) (next : FinalityState) (reason : String)

def step (store : FinalityStore) : Call → FinalityStore
  | .initBatch batchId epoch slot => store.initBatch batchId epoch slot
  | .transition batchId next reason => (store.transition batchId next reason).2

def Leads : FinalityState → List FinalityTransitionRecord → FinalityState → Prop
  | state, [], last => state = last
  | state, record :: records, last =>
      record.origin = state ∧ state.canTransitionTo record.target = true ∧
        Leads record.target records last

structure Chained (status : BatchFinalityStatus) : Prop where
  leads : Leads .proposed status.transitions status.currentState
  ordered : (status.transitions.map FinalityTransitionRecord.timestampSeq).Pairwise (· < ·)

def Histories (store : FinalityStore) : Prop :=
  ∀ id status, store.statuses.get? id = some status → Chained status

/-- One call leaves every history a chain, every ended batch as it was and every checkpoint at least
where it was. -/
structure AppendOnly (sha256 : Sha256) (store : FinalityStore) (call : Call) : Prop where
  histories : Histories (store.step call)
  ended : ∀ id status, store.statuses.get? id = some status → status.currentState.isTerminal = true →
    (store.step call).statuses.get? id = some status
  checkpoints : ∀ epoch before, store.checkpoint sha256 epoch = some before →
    ∃ after, (store.step call).checkpoint sha256 epoch = some after ∧
      before.lastFinalizedSlot ≤ after.lastFinalizedSlot

def Backed (store : FinalityStore) (id : Bytes32) (status : BatchFinalityStatus) : Prop :=
  ∃ other held, other ≠ id ∧ store.statuses.get? other = some held ∧ held.currentState.counts = true ∧
    held.epoch = status.epoch ∧ status.slot ≤ held.slot

/-- A batch is initialised again only before it has ended, a transition is made only while the store's
counter is above the batch's last timestamp, and a batch that leaves the states a checkpoint looks at is
backed by another. -/
def Forward (store : FinalityStore) : Call → Prop
  | .initBatch batchId _ _ => ∀ status, store.statuses.get? batchId = some status →
      status.currentState.isTerminal = false ∧
        (status.currentState.counts = true → store.Backed batchId status)
  | .transition batchId next _ => ∀ status, store.statuses.get? batchId = some status →
      status.currentState.isTerminal = false → status.currentState.canTransitionTo next = true →
      (∀ record ∈ status.transitions, record.timestampSeq < store.seq) ∧
        (status.currentState.counts = true → next.counts = false → store.Backed batchId status)

section Checkpoints

variable {sha256 : Sha256} {store after : FinalityStore}

theorem latest_append (statuses : List BatchFinalityStatus) (status : BatchFinalityStatus) :
    latest (statuses ++ [status]) =
      match latest statuses with
      | none => some status
      | some held => if held.slot ≤ status.slot then some status else some held := by
  rw [latest, List.foldl_append]
  rfl

theorem mem_of_latest {statuses : List BatchFinalityStatus} {best : BatchFinalityStatus}
    (found : latest statuses = some best) : best ∈ statuses := by
  induction statuses using List.reverseRecOn generalizing best with
  | nil => cases found
  | append_singleton statuses status ih =>
      rw [latest_append] at found
      rw [List.mem_append, List.mem_singleton]
      cases earlier : latest statuses with
      | none =>
          rw [earlier] at found
          exact .inr (Option.some.inj found).symm
      | some held =>
          rw [earlier] at found
          simp only at found
          split at found
          · exact .inr (Option.some.inj found).symm
          · exact .inl (ih (earlier.trans found))

theorem latest_of_mem {statuses : List BatchFinalityStatus} {status : BatchFinalityStatus}
    (member : status ∈ statuses) : ∃ best, latest statuses = some best ∧ status.slot ≤ best.slot := by
  induction statuses using List.reverseRecOn with
  | nil => cases member
  | append_singleton statuses last ih =>
      rw [latest_append]
      rcases List.mem_append.1 member with earlier | here
      · obtain ⟨held, found, below⟩ := ih earlier
        rw [found]
        simp only
        split
        · rename_i higher
          exact ⟨last, rfl, BitVec.le_trans below higher⟩
        · exact ⟨held, rfl, below⟩
      · obtain rfl := List.mem_singleton.1 here
        cases latest statuses with
        | none => exact ⟨status, rfl, BitVec.le_refl _⟩
        | some held =>
            simp only
            split
            · exact ⟨status, rfl, BitVec.le_refl _⟩
            · rename_i above
              exact ⟨held, rfl, BitVec.le_of_lt (BitVec.not_le.1 above)⟩

theorem mem_finalizedIn {epoch : U64} {status : BatchFinalityStatus} :
    status ∈ store.finalizedIn epoch ↔
      ∃ id, store.statuses.get? id = some status ∧ status.epoch = epoch ∧
        status.currentState.counts = true := by
  simp only [finalizedIn, KeyedMap.values, List.mem_filter, List.mem_map, decide_eq_true_eq]
  constructor
  · rintro ⟨⟨⟨id, held⟩, listed, rfl⟩, counted⟩
    exact ⟨id, Std.ExtTreeMap.mem_toList_iff_getElem?_eq_some.1 listed, counted⟩
  · intro counts
    obtain ⟨id, found, counted⟩ := counts
    exact ⟨⟨(id, status), Std.ExtTreeMap.mem_toList_iff_getElem?_eq_some.2 found, rfl⟩, counted⟩

theorem checkpoints_iff :
    (∀ epoch before, store.checkpoint sha256 epoch = some before →
      ∃ now, after.checkpoint sha256 epoch = some now ∧
        before.lastFinalizedSlot ≤ now.lastFinalizedSlot) ↔
    ∀ id status, store.statuses.get? id = some status → status.currentState.counts = true →
      ∃ other held, after.statuses.get? other = some held ∧ held.currentState.counts = true ∧
        held.epoch = status.epoch ∧ status.slot ≤ held.slot := by
  constructor
  · intro forward id status found counted
    obtain ⟨best, latestBest, below⟩ :=
      latest_of_mem (mem_finalizedIn.2 ⟨id, found, rfl, counted⟩)
    obtain ⟨now, reached, higher⟩ := forward status.epoch _ (by
      rw [checkpoint, latestBest]
      rfl)
    obtain ⟨held, latestHeld, rfl⟩ := Option.map_eq_some_iff.1 reached
    obtain ⟨other, heldFound, epoch, heldCounted⟩ := mem_finalizedIn.1 (mem_of_latest latestHeld)
    exact ⟨other, held, heldFound, heldCounted, epoch, BitVec.le_trans below higher⟩
  · intro backed epoch before reached
    obtain ⟨best, latestBest, rfl⟩ := Option.map_eq_some_iff.1 reached
    obtain ⟨id, found, rfl, counted⟩ := mem_finalizedIn.1 (mem_of_latest latestBest)
    obtain ⟨other, held, heldFound, heldCounted, epoch, higher⟩ := backed id best found counted
    obtain ⟨now, latestNow, above⟩ :=
      latest_of_mem (mem_finalizedIn.2 ⟨other, heldFound, epoch, heldCounted⟩)
    refine ⟨.compute sha256 best.epoch now.batchId now.slot, ?_, BitVec.le_trans higher above⟩
    rw [checkpoint, latestNow]
    rfl

end Checkpoints

section Steps

variable {sha256 : Sha256} {store : FinalityStore}

theorem transition_cases (store : FinalityStore) (batchId : Bytes32) (next : FinalityState)
    (reason : String) :
    (∃ status, store.statuses.get? batchId = some status ∧ status.currentState.isTerminal = false ∧
      status.currentState.canTransitionTo next = true ∧
      (store.transition batchId next reason).2.statuses = store.statuses.insert { status with
        transitions := status.transitions ++ [⟨status.currentState, next, reason, store.seq⟩]
        currentState := next }) ∨
    ((∀ status, store.statuses.get? batchId = some status → status.currentState.isTerminal = false →
        status.currentState.canTransitionTo next = false) ∧
      (store.transition batchId next reason).2.statuses = store.statuses) := by
  simp only [transition]
  cases found : store.statuses.get? batchId with
  | none =>
      refine .inr ⟨?_, rfl⟩
      intro status listed
      cases listed
  | some status =>
      simp only [Option.some.injEq, forall_eq', exists_eq_left']
      cases ended : status.currentState.isTerminal with
      | true =>
          refine .inr ⟨?_, rfl⟩
          intro running
          cases running
      | false =>
          cases legal : status.currentState.canTransitionTo next with
          | false => exact .inr ⟨fun _ => rfl, rfl⟩
          | true => exact .inl ⟨rfl, rfl, rfl⟩

theorem Leads.append {state middle last : FinalityState} {records : List FinalityTransitionRecord}
    (leads : Leads state records middle) (legal : middle.canTransitionTo last = true) (reason : String)
    (seq : U64) : Leads state (records ++ [⟨middle, last, reason, seq⟩]) last := by
  induction records generalizing state with
  | nil =>
      obtain rfl : state = middle := leads
      exact ⟨rfl, legal, rfl⟩
  | cons record records ih => exact ⟨leads.1, leads.2.1, ih leads.2.2⟩

theorem Chained.append_iff {status : BatchFinalityStatus} (chained : Chained status)
    {next : FinalityState} (legal : status.currentState.canTransitionTo next = true) (reason : String)
    (seq : U64) :
    Chained { status with
      transitions := status.transitions ++ [⟨status.currentState, next, reason, seq⟩]
      currentState := next } ↔ ∀ record ∈ status.transitions, record.timestampSeq < seq := by
  constructor
  · intro appended record member
    have ordered := appended.ordered
    rw [List.map_append, List.pairwise_append] at ordered
    exact ordered.2.2 _ (List.mem_map_of_mem member) _ (List.mem_singleton.2 rfl)
  · intro above
    refine ⟨chained.leads.append legal reason seq, ?_⟩
    rw [List.map_append, List.pairwise_append]
    refine ⟨chained.ordered, List.pairwise_singleton .., ?_⟩
    intro earlier listed last here
    obtain ⟨record, member, rfl⟩ := List.mem_map.1 listed
    obtain rfl := List.mem_singleton.1 here
    exact above record member

theorem checkpoints_insert_iff {after : FinalityStore} {status : BatchFinalityStatus}
    (replaced : after.statuses = store.statuses.insert status) :
    (∀ epoch before, store.checkpoint sha256 epoch = some before →
      ∃ now, after.checkpoint sha256 epoch = some now ∧
        before.lastFinalizedSlot ≤ now.lastFinalizedSlot) ↔
    ∀ old, store.statuses.get? status.batchId = some old → old.currentState.counts = true →
      (status.currentState.counts = true ∧ status.epoch = old.epoch ∧ old.slot ≤ status.slot) ∨
        store.Backed status.batchId old := by
  rw [checkpoints_iff, replaced]
  simp only [KeyedMap.get?_insert]
  constructor
  · intro forward old found counted
    obtain ⟨other, held, heldFound, heldCounted, epoch, higher⟩ := forward _ old found counted
    split at heldFound
    · cases heldFound
      exact .inl ⟨heldCounted, epoch, higher⟩
    · rename_i distinct
      exact .inr ⟨other, held, Ne.symm distinct, heldFound, heldCounted, epoch, higher⟩
  · intro backed id old found counted
    by_cases same : status.batchId = id
    · subst same
      rcases backed old found counted with ⟨nowCounted, epoch, higher⟩ |
        ⟨other, held, distinct, heldFound, heldCounted, epoch, higher⟩
      · exact ⟨status.batchId, status, by rw [if_pos rfl], nowCounted, epoch, higher⟩
      · exact ⟨other, held, by rw [if_neg distinct.symm]; exact heldFound, heldCounted, epoch, higher⟩
    · exact ⟨id, old, by rw [if_neg same]; exact found, counted, rfl, BitVec.le_refl _⟩

theorem initBatch_appendOnly_iff (histories : Histories store) (batchId : Bytes32) (epoch slot : U64) :
    AppendOnly sha256 store (.initBatch batchId epoch slot) ↔
      store.Forward (.initBatch batchId epoch slot) := by
  let fresh := BatchFinalityStatus.new batchId epoch slot
  have lookup (id : Bytes32) : (store.step (.initBatch batchId epoch slot)).statuses.get? id =
      if batchId = id then some fresh else store.statuses.get? id :=
    KeyedMap.get?_insert store.statuses fresh id
  have checkpoints := @checkpoints_insert_iff sha256 store
    (store.step (.initBatch batchId epoch slot)) fresh rfl
  constructor
  · intro appendOnly status found
    constructor
    · by_contra ended
      have kept := appendOnly.ended batchId status found (by simpa using ended)
      rw [lookup, if_pos rfl] at kept
      obtain rfl := Option.some.inj kept
      exact ended rfl
    · intro counted
      rcases checkpoints.1 appendOnly.checkpoints status found counted with ⟨impossible, -⟩ | backed
      · cases impossible
      · exact backed
  · intro forward
    refine ⟨?_, ?_, checkpoints.2 fun old found counted => .inr ((forward old found).2 counted)⟩
    · intro id status held
      rw [lookup] at held
      split at held
      · cases held
        exact ⟨rfl, List.Pairwise.nil⟩
      · exact histories id status held
    · intro id status held ended
      rw [lookup, if_neg]
      · exact held
      · intro same
        subst same
        rw [(forward status held).1] at ended
        cases ended

theorem transition_appendOnly_iff (histories : Histories store) (batchId : Bytes32)
    (next : FinalityState) (reason : String) :
    AppendOnly sha256 store (.transition batchId next reason) ↔
      store.Forward (.transition batchId next reason) := by
  obtain ⟨status, found, going, legal, made⟩ | ⟨refused, kept⟩ :=
    transition_cases store batchId next reason
  · have names : status.batchId = batchId := KeyedMap.key_of_get? store.statuses found
    let moved : BatchFinalityStatus := { status with
      transitions := status.transitions ++ [⟨status.currentState, next, reason, store.seq⟩]
      currentState := next }
    have lookup (id : Bytes32) : (store.step (.transition batchId next reason)).statuses.get? id =
        if batchId = id then some moved else store.statuses.get? id := by
      show (store.transition batchId next reason).2.statuses.get? id = _
      rw [made, KeyedMap.get?_insert]
      simp only [names, moved]
    have chained := (histories batchId status found).append_iff legal reason store.seq
    have checkpoints := @checkpoints_insert_iff sha256 store
      (store.step (.transition batchId next reason)) moved made
    have movedId : moved.batchId = batchId := names
    rw [movedId] at checkpoints
    constructor
    · intro appendOnly again search _ _
      obtain rfl := Option.some.inj (found.symm.trans search)
      constructor
      · exact chained.1 (appendOnly.histories batchId moved (by rw [lookup, if_pos rfl]))
      · intro counted leaves
        rcases checkpoints.1 appendOnly.checkpoints status found counted with ⟨stays, -⟩ | backed
        · exact absurd (stays.symm.trans leaves) nofun
        · exact backed
    · intro forward
      obtain ⟨above, backed⟩ := forward status found going legal
      refine ⟨?_, ?_, checkpoints.2 ?_⟩
      · intro id held heldFound
        rw [lookup] at heldFound
        split at heldFound
        · cases heldFound
          exact chained.2 above
        · exact histories id held heldFound
      · intro id held heldFound ended
        rw [lookup, if_neg]
        · exact heldFound
        · intro same
          subst same
          obtain rfl := Option.some.inj (found.symm.trans heldFound)
          rw [going] at ended
          cases ended
      · intro old oldFound counted
        obtain rfl := Option.some.inj (found.symm.trans oldFound)
        cases stays : next.counts with
        | true => exact .inl ⟨rfl, rfl, BitVec.le_refl _⟩
        | false => exact .inr (backed counted stays)
  · refine iff_of_true ⟨?_, ?_, ?_⟩ ?_
    · intro id status held
      exact histories id status (by rw [← kept]; exact held)
    · intro id status held _
      show (store.transition batchId next reason).2.statuses.get? id = _
      rw [kept]
      exact held
    · rw [checkpoints_iff]
      intro id status held counted
      refine ⟨id, status, ?_, counted, rfl, BitVec.le_refl _⟩
      show (store.transition batchId next reason).2.statuses.get? id = _
      rw [kept]
      exact held
    · intro status held going legal
      rw [refused status held going] at legal
      cases legal

theorem appendOnly_iff_forward (histories : Histories store) (call : Call) :
    AppendOnly sha256 store call ↔ store.Forward call := by
  cases call with
  | initBatch batchId epoch slot => exact initBatch_appendOnly_iff histories batchId epoch slot
  | transition batchId next reason => exact transition_appendOnly_iff histories batchId next reason

end Steps

theorem histories_new : Histories new := by
  intro id status held
  simp [new] at held

/-- Over every run, histories are chains of legal steps with increasing timestamps, ended batches stay as
they are and checkpoints do not go back, exactly when every call of the run goes forward. -/
theorem run_appendOnly_iff_forward (sha256 : Sha256) (run : List Call) :
    Run.Along step (AppendOnly sha256) new run ↔ Run.Along step Forward new run := by
  refine Run.along_congr ?_ ?_ histories_new run
  · intro store call histories
    exact appendOnly_iff_forward histories call
  · intro store call _ appendOnly
    exact appendOnly.histories

def revived : List Call :=
  [.initBatch 1 1 5, .transition 1 .superseded "conflict", .initBatch 1 1 5]

theorem superseded_batch_revived : ¬ Run.Along step (AppendOnly fun _ => 0) new revived := by
  intro appendOnly
  have kept := appendOnly.2.2.1.ended 1
    ⟨1, .superseded, 1, 5, [⟨.proposed, .superseded, "conflict", 0⟩]⟩ (by decide +kernel) rfl
  revert kept
  decide +kernel

end FinalityStore

end Omniphi.PoSeq
