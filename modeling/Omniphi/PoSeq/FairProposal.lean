import Omniphi.Lib.Positions
import Omniphi.Text

/-! The fairness check of a leader's proposal against the queue snapshot. The checks are made on maps from
submissions to places. -/

namespace Omniphi.PoSeq

inductive FairnessClass where
  | bridgeAdjacent
  | domainSensitive
  | governanceSensitive
  | latencySensitive
  | normal
  | protectedUserFlow
  | restrictedPriority
  | safetyCritical
  | solverRelated
deriving DecidableEq

structure ReorderBound where
  maxPositionsForward : U32
  maxPositionsBackward : U32
  appliesToClass : Option FairnessClass
deriving DecidableEq

structure ProtectedFlowPolicy where
  enabled : Bool
  protectedClasses : Finset FairnessClass
  maxDelaySlots : U64
deriving DecidableEq

structure LeaderDiscretionLimit where
  maxDiscretionBps : U32
deriving DecidableEq

structure AntiMevPolicy where
  reorderBounds : List ReorderBound
  protectedFlowPolicy : ProtectedFlowPolicy
  leaderDiscretionLimit : LeaderDiscretionLimit
deriving DecidableEq

structure FairSequencingPolicy where
  maxLeaderDiscretionBps : U32
deriving DecidableEq

structure EligibleSubmissionEntry where
  submissionId : Bytes32
  fairnessClass : FairnessClass
deriving DecidableEq

structure QueueSnapshot where
  snapshotId : Bytes32
  entries : List EligibleSubmissionEntry
deriving DecidableEq

def QueueSnapshot.orderedIds (snapshot : QueueSnapshot) : List Bytes32 :=
  snapshot.entries.map EligibleSubmissionEntry.submissionId

structure SubmissionFairnessProfile where
  assignedClass : FairnessClass
deriving DecidableEq

structure OrderingDelta where
  submissionId : Bytes32
  snapshotPosition : Nat
  proposedPosition : Nat
  delta : Int
  fairnessClass : FairnessClass
deriving DecidableEq

structure ProtectedFlowViolation where
  submissionId : Bytes32
  expectedMaxPosition : Nat
  actualPosition : Nat
deriving DecidableEq

inductive AntiMevViolationType where
  | exceededForwardReorderBound
  | exceededBackwardReorderBound
  | protectedFlowDelayed
  | leaderDiscretionExceeded
  | snapshotCommitmentViolation
deriving DecidableEq

structure AntiMevViolation where
  submissionId : Bytes32
  violationType : AntiMevViolationType
  actualDelta : Int
  allowedDelta : Int
deriving DecidableEq

structure AntiMevValidationResult where
  valid : Bool
  violations : List AntiMevViolation
  positionDeltas : List OrderingDelta
  maxDeltaForward : Int
  maxDeltaBackward : Int
deriving DecidableEq

namespace ReorderBound

def defaultBound : ReorderBound := ⟨5, 5, none⟩

def forClass (fairnessClass : FairnessClass) (forward backward : U32) : ReorderBound :=
  ⟨forward, backward, some fairnessClass⟩

end ReorderBound

namespace AntiMevPolicy

def defaultPolicy : AntiMevPolicy where
  reorderBounds := [.defaultBound, .forClass .safetyCritical 0 0, .forClass .protectedUserFlow 1 1,
    .forClass .bridgeAdjacent 2 2]
  protectedFlowPolicy :=
    { enabled := true
      protectedClasses := {.safetyCritical, .protectedUserFlow, .bridgeAdjacent, .governanceSensitive}
      maxDelaySlots := 5 }
  leaderDiscretionLimit := ⟨1000⟩

variable (policy : AntiMevPolicy)

def getReorderBoundFor (fairnessClass : FairnessClass) : Option ReorderBound :=
  match policy.reorderBounds.find? fun bound => bound.appliesToClass = some fairnessClass with
  | some bound => some bound
  | none => policy.reorderBounds.find? fun bound => bound.appliesToClass = none

def validateOrderingDelta (fairnessClass : FairnessClass) (positionsMoved : Int) : Bool :=
  match policy.getReorderBoundFor fairnessClass with
  | none => true
  | some bound =>
      let forwardOk := if positionsMoved < 0 then -positionsMoved ≤ bound.maxPositionsForward.toNat else true
      let backwardOk := if 0 < positionsMoved then positionsMoved ≤ bound.maxPositionsBackward.toNat else true
      forwardOk && backwardOk

end AntiMevPolicy

structure AntiMevEngine where
  policy : AntiMevPolicy

namespace AntiMevEngine

section Checks

variable (engine : AntiMevEngine) (snapshotOrder : List (Bytes32 × FairnessClass))
  (proposedOrder : List Bytes32)

def classMap : BTreeMap Bytes32 FairnessClass :=
  snapshotOrder.foldl (fun classes entry => classes.insert entry.1 entry.2) ∅

def computePositionDeltas : List OrderingDelta :=
  let snapshotPositions := Positions.positions (snapshotOrder.map Prod.fst)
  let proposedPositions := Positions.positions proposedOrder
  let deltas := snapshotPositions.toList.filterMap fun entry =>
    proposedPositions[entry.1]?.map fun proposedPosition =>
      { submissionId := entry.1
        snapshotPosition := entry.2
        proposedPosition
        delta := (proposedPosition : Int) - entry.2
        fairnessClass := (classMap snapshotOrder)[entry.1]?.getD .normal : OrderingDelta }
  deltas.insertionSort fun a b => a.snapshotPosition ≤ b.snapshotPosition

def boundViolation (delta : OrderingDelta) : Option AntiMevViolation :=
  let fairnessClass := (classMap snapshotOrder)[delta.submissionId]?.getD .normal
  if engine.policy.validateOrderingDelta fairnessClass delta.delta then none
  else if delta.delta < 0 then
    let bound := ((engine.policy.getReorderBoundFor fairnessClass).map fun bound =>
      (bound.maxPositionsForward.toNat : Int)).getD (2 ^ 63 - 1)
    some ⟨delta.submissionId, .exceededForwardReorderBound, delta.delta, -bound⟩
  else
    let bound := ((engine.policy.getReorderBoundFor fairnessClass).map fun bound =>
      (bound.maxPositionsBackward.toNat : Int)).getD (2 ^ 63 - 1)
    some ⟨delta.submissionId, .exceededBackwardReorderBound, delta.delta, bound⟩

def movedBps (deltas : List OrderingDelta) : Nat :=
  (deltas.filter fun delta => delta.delta ≠ 0).length * 10000 / deltas.length

def discretionViolation (batchSize : Nat) (deltas : List OrderingDelta) : Option AntiMevViolation :=
  let limit := engine.policy.leaderDiscretionLimit.maxDiscretionBps.toNat
  if 0 < batchSize ∧ deltas ≠ [] ∧ limit < movedBps deltas then
    some ⟨0, .leaderDiscretionExceeded, movedBps deltas, limit⟩
  else none

def applyOrderingConstraints (batchSize : Nat) : AntiMevValidationResult :=
  let deltas := computePositionDeltas snapshotOrder proposedOrder
  let violations := deltas.filterMap (engine.boundViolation snapshotOrder) ++
    (engine.discretionViolation batchSize deltas).toList
  { valid := violations.isEmpty
    violations
    positionDeltas := deltas
    maxDeltaForward := deltas.foldl (fun least delta => if delta.delta < least then delta.delta else least) 0
    maxDeltaBackward :=
      deltas.foldl (fun greatest delta => if greatest < delta.delta then delta.delta else greatest) 0 }

/-- The position given for a submission that is missing is `usize::MAX`. -/
def validateProtectedFlows (profiles : BTreeMap Bytes32 SubmissionFairnessProfile) :
    List ProtectedFlowViolation :=
  let flows := engine.policy.protectedFlowPolicy
  if !flows.enabled then []
  else
    let maxPos := min flows.maxDelaySlots.toNat (proposedOrder.length - 1)
    let violations := profiles.toList.filterMap fun entry =>
      if entry.2.assignedClass ∈ flows.protectedClasses then
        match (Positions.positions proposedOrder)[entry.1]? with
        | none => some ⟨entry.1, maxPos, 2 ^ 64 - 1⟩
        | some actualPos => if maxPos < actualPos then some ⟨entry.1, maxPos, actualPos⟩ else none
      else none
    violations.insertionSort fun a b => a.submissionId ≤ b.submissionId

end Checks

end AntiMevEngine

inductive ProposalFairnessError where
  | snapshotMissing
  | snapshotMismatch (expected got : Bytes32)
  | reorderBoundViolated (submissionId : Bytes32) (delta max : Int)
  | protectedFlowDelayed (submissionId : Bytes32)
  | eligibleSubmissionOmitted (submissionId : Bytes32)
  | leaderDiscretionExceeded
  | classOrderViolated
deriving DecidableEq

structure FairnessValidationResult where
  valid : Bool
  errors : List ProposalFairnessError
  warnings : List String
  antiMevResult : AntiMevValidationResult
deriving DecidableEq

structure FairProposalValidator where
  fairnessPolicy : FairSequencingPolicy
  antiMevPolicy : AntiMevPolicy

namespace FairProposalValidator

variable (validator : FairProposalValidator) (proposedOrder : List Bytes32) (snapshot : QueueSnapshot)
  (profiles : BTreeMap Bytes32 SubmissionFairnessProfile)

def translate (violation : AntiMevViolation) : ProposalFairnessError :=
  match violation.violationType with
  | .exceededForwardReorderBound =>
      .reorderBoundViolated violation.submissionId violation.actualDelta violation.allowedDelta
  | .exceededBackwardReorderBound =>
      .reorderBoundViolated violation.submissionId violation.actualDelta violation.allowedDelta
  | .protectedFlowDelayed => .protectedFlowDelayed violation.submissionId
  | .leaderDiscretionExceeded => .leaderDiscretionExceeded
  | .snapshotCommitmentViolation => .snapshotMismatch snapshot.snapshotId 0

def validate : FairnessValidationResult :=
  let unlisted := proposedOrder.filter fun id => id ∉ snapshot.orderedIds
  let engine : AntiMevEngine := ⟨validator.antiMevPolicy⟩
  let antiMevResult := engine.applyOrderingConstraints
    (snapshot.entries.map fun entry => (entry.submissionId, entry.fairnessClass)) proposedOrder
    proposedOrder.length
  let delayed := engine.validateProtectedFlows proposedOrder profiles
  let errors := unlisted.map ProposalFairnessError.eligibleSubmissionOmitted ++
    antiMevResult.violations.map (translate snapshot) ++
    delayed.map fun violation => .protectedFlowDelayed violation.submissionId
  let movedBps := (antiMevResult.positionDeltas.filter fun delta => delta.delta ≠ 0).length * 10000 /
    max snapshot.entries.length 1
  let limit := validator.fairnessPolicy.maxLeaderDiscretionBps.toNat
  let warnings :=
    (unlisted.map fun id => "Submission \"" ++ hexEncode (beBytes 32 id) ++
      "\" in proposed order is not in snapshot") ++
    (delayed.map fun violation => "Protected flow \"" ++ hexEncode (beBytes 32 violation.submissionId) ++
      "\" at position " ++ toString violation.actualPosition ++ " exceeds max " ++
      toString violation.expectedMaxPosition) ++
    if 0 < snapshot.entries.length ∧ limit < movedBps then
      ["Leader discretion " ++ toString movedBps ++ "bps exceeds policy limit " ++ toString limit ++ "bps"]
    else []
  { valid := errors.isEmpty
    errors
    warnings
    antiMevResult }

end FairProposalValidator

section Fairness

variable (policy : AntiMevPolicy) (proposedOrder : List Bytes32) (snapshot : QueueSnapshot)
  (profiles : BTreeMap Bytes32 SubmissionFairnessProfile)

def ProtectedFlowPolicy.Protects (flows : ProtectedFlowPolicy) (fairnessClass : FairnessClass) : Prop :=
  flows.enabled = true ∧ fairnessClass ∈ flows.protectedClasses

def AntiMevPolicy.Within (fairnessClass : FairnessClass) (place moved : Nat) : Prop :=
  ∀ bound, policy.getReorderBoundFor fairnessClass = some bound →
    place ≤ moved + bound.maxPositionsForward.toNat ∧ moved ≤ place + bound.maxPositionsBackward.toNat

def QueueSnapshot.displaced (places : List (Bytes32 × Nat)) : Nat :=
  (places.filter fun entry => snapshot.orderedIds[entry.2]? ≠ some entry.1).length

structure FairOrder : Prop where
  distinct : proposedOrder.Nodup
  listed : ∀ id ∈ proposedOrder, id ∈ snapshot.orderedIds
  prompt : ∀ id profile, profiles[id]? = some profile →
    policy.protectedFlowPolicy.Protects profile.assignedClass →
    ∃ i ≤ min policy.protectedFlowPolicy.maxDelaySlots.toNat (proposedOrder.length - 1),
      proposedOrder[i]? = some id
  bounded : ∀ i j entry, snapshot.entries[j]? = some entry → proposedOrder[i]? = some entry.submissionId →
    policy.Within entry.fairnessClass j i
  discreet : snapshot.displaced proposedOrder.zipIdx * 10000 ≤
    policy.leaderDiscretionLimit.maxDiscretionBps.toNat * proposedOrder.length

/-- The checks, made on the last place of each submission and in whole basis points. -/
structure FairAtLast : Prop where
  listed : ∀ id ∈ proposedOrder, id ∈ snapshot.orderedIds
  prompt : ∀ id profile, profiles[id]? = some profile →
    policy.protectedFlowPolicy.Protects profile.assignedClass →
    ∃ i ≤ min policy.protectedFlowPolicy.maxDelaySlots.toNat (proposedOrder.length - 1),
      Positions.LastAt proposedOrder id i
  bounded : ∀ i j entry, snapshot.entries[j]? = some entry →
    Positions.LastAt proposedOrder entry.submissionId i → policy.Within entry.fairnessClass j i
  discreet : snapshot.displaced (Positions.lastPlaces proposedOrder) * 10000 /
    (Positions.lastPlaces proposedOrder).length ≤ policy.leaderDiscretionLimit.maxDiscretionBps.toNat

end Fairness

section Deltas

variable {policy : AntiMevPolicy} {proposedOrder : List Bytes32} {snapshot : QueueSnapshot}
  {profiles : BTreeMap Bytes32 SubmissionFairnessProfile}

theorem AntiMevPolicy.validateOrderingDelta_iff {fairnessClass : FairnessClass} {place moved : Nat} :
    policy.validateOrderingDelta fairnessClass ((moved : Int) - place) = true ↔
      policy.Within fairnessClass place moved := by
  unfold validateOrderingDelta Within
  cases policy.getReorderBoundFor fairnessClass with
  | none => simp
  | some bound =>
      simp only [Option.some.injEq, forall_eq', Bool.and_eq_true]
      split_ifs <;> simp only [decide_eq_true_eq, true_and, and_true, true_iff] <;> omega

theorem getElem?_classMap {order : List (Bytes32 × FairnessClass)} (distinct : (order.map Prod.fst).Nodup)
    {id : Bytes32} {fairnessClass : FairnessClass} (member : (id, fairnessClass) ∈ order) :
    (AntiMevEngine.classMap order)[id]? = some fairnessClass := by
  induction order using List.reverseRecOn with
  | nil => cases member
  | append_singleton order entry ih =>
      rw [List.map_append, List.nodup_append] at distinct
      obtain ⟨distinct, -, apart⟩ := distinct
      rw [AntiMevEngine.classMap, List.foldl_append, List.foldl_cons, List.foldl_nil,
        BTree.getElem?_insert]
      rcases List.mem_append.1 member with before | last
      · have differ : entry.1 ≠ id := by
          intro same
          exact apart id (List.mem_map_of_mem before) entry.1 (by simp) same.symm
        rw [if_neg differ]
        exact ih distinct before
      · obtain rfl := List.mem_singleton.1 last
        rw [if_pos rfl]

def QueueSnapshot.classes (snapshot : QueueSnapshot) : List (Bytes32 × FairnessClass) :=
  snapshot.entries.map fun entry => (entry.submissionId, entry.fairnessClass)

theorem map_fst_classes : snapshot.classes.map Prod.fst = snapshot.orderedIds := by
  rw [QueueSnapshot.classes, List.map_map]
  rfl

theorem mem_computePositionDeltas {delta : OrderingDelta} :
    delta ∈ AntiMevEngine.computePositionDeltas snapshot.classes proposedOrder ↔
      ∃ id i j, Positions.LastAt snapshot.orderedIds id j ∧ Positions.LastAt proposedOrder id i ∧
        delta = ⟨id, j, i, (i : Int) - j, (AntiMevEngine.classMap snapshot.classes)[id]?.getD .normal⟩ := by
  unfold AntiMevEngine.computePositionDeltas
  simp only [List.mem_insertionSort, List.mem_filterMap, Option.map_eq_some_iff, map_fst_classes]
  constructor
  · rintro ⟨⟨id, j⟩, listed, i, found, rfl⟩
    exact ⟨id, i, j, Positions.getElem?_positions.1 (Std.ExtTreeMap.mem_toList_iff_getElem?_eq_some.1 listed),
      Positions.getElem?_positions.1 found, rfl⟩
  · rintro ⟨id, i, j, before, after, rfl⟩
    exact ⟨(id, j), Std.ExtTreeMap.mem_toList_iff_getElem?_eq_some.2 (Positions.getElem?_positions.2 before), i,
      Positions.getElem?_positions.2 after, rfl⟩

variable (distinct : snapshot.orderedIds.Nodup)

include distinct

theorem class_of_entry {j : Nat} {entry : EligibleSubmissionEntry} (found : snapshot.entries[j]? = some entry) :
    (AntiMevEngine.classMap snapshot.classes)[entry.submissionId]?.getD .normal = entry.fairnessClass := by
  have member : (entry.submissionId, entry.fairnessClass) ∈ snapshot.classes :=
    List.mem_map_of_mem (List.mem_of_getElem? found)
  rw [getElem?_classMap (map_fst_classes ▸ distinct) member, Option.getD_some]

theorem boundViolations_eq_nil :
    (AntiMevEngine.computePositionDeltas snapshot.classes proposedOrder).filterMap
        (AntiMevEngine.boundViolation ⟨policy⟩ snapshot.classes) = [] ↔
      ∀ i j entry, snapshot.entries[j]? = some entry →
        Positions.LastAt proposedOrder entry.submissionId i → policy.Within entry.fairnessClass j i := by
  have unbroken : ∀ delta, AntiMevEngine.boundViolation ⟨policy⟩ snapshot.classes delta = none ↔
      policy.validateOrderingDelta ((AntiMevEngine.classMap snapshot.classes)[delta.submissionId]?.getD .normal)
        delta.delta = true := by
    intro delta
    unfold AntiMevEngine.boundViolation
    dsimp only
    split_ifs with within
    · exact ⟨fun _ => within, fun _ => rfl⟩
    all_goals simp [within]
  simp only [List.filterMap_eq_nil_iff, unbroken]
  constructor
  · intro within i j entry found last
    have before : Positions.LastAt snapshot.orderedIds entry.submissionId j := by
      rw [Positions.lastAt_iff_of_nodup distinct, QueueSnapshot.orderedIds, List.getElem?_map, found]
      rfl
    have valid := within _ (mem_computePositionDeltas.2 ⟨entry.submissionId, i, j, before, last, rfl⟩)
    rw [class_of_entry distinct found] at valid
    exact AntiMevPolicy.validateOrderingDelta_iff.1 valid
  · intro within delta made
    obtain ⟨id, i, j, before, last, rfl⟩ := mem_computePositionDeltas.1 made
    have place := before.1
    rw [QueueSnapshot.orderedIds, List.getElem?_map, Option.map_eq_some_iff] at place
    obtain ⟨entry, found, rfl⟩ := place
    dsimp only
    rw [class_of_entry distinct found]
    exact AntiMevPolicy.validateOrderingDelta_iff.2 (within i j entry found last)

omit distinct in
theorem nodup_computePositionDeltas :
    (AntiMevEngine.computePositionDeltas snapshot.classes proposedOrder).Nodup := by
  unfold AntiMevEngine.computePositionDeltas
  dsimp only
  rw [(List.perm_insertionSort _ _).nodup_iff]
  refine List.Nodup.filterMap ?_ (BTree.nodup_toList _)
  intro a b delta fromA fromB
  obtain ⟨i, -, rfl⟩ := Option.map_eq_some_iff.1 (Option.mem_def.1 fromA)
  obtain ⟨j, -, same⟩ := Option.map_eq_some_iff.1 (Option.mem_def.1 fromB)
  injection same with id place
  exact Prod.ext id.symm place.symm

omit distinct in
theorem deltas_perm_lastPlaces (listed : ∀ id ∈ proposedOrder, id ∈ snapshot.orderedIds) :
    ((AntiMevEngine.computePositionDeltas snapshot.classes proposedOrder).map fun delta =>
      (delta.submissionId, delta.proposedPosition)).Perm (Positions.lastPlaces proposedOrder) := by
  rw [List.perm_ext_iff_of_nodup ?_ Positions.nodup_lastPlaces]
  · rintro ⟨id, i⟩
    rw [Positions.mem_lastPlaces, List.mem_map]
    constructor
    · rintro ⟨delta, made, same⟩
      obtain ⟨id, i, j, -, last, rfl⟩ := mem_computePositionDeltas.1 made
      obtain ⟨rfl, rfl⟩ := Prod.mk.inj same
      exact last
    · intro last
      obtain ⟨j, before⟩ := Positions.exists_lastAt (listed id (List.mem_of_getElem? last.1))
      exact ⟨_, mem_computePositionDeltas.2 ⟨id, i, j, before, last, rfl⟩, rfl⟩
  · refine nodup_computePositionDeltas.map_on ?_
    intro a madeA b madeB same
    obtain ⟨id, i, j, before, -, rfl⟩ := mem_computePositionDeltas.1 madeA
    obtain ⟨id', i', j', before', -, rfl⟩ := mem_computePositionDeltas.1 madeB
    obtain ⟨rfl, rfl⟩ := Prod.mk.inj same
    rw [before.eq before']

theorem moved_eq_displaced (listed : ∀ id ∈ proposedOrder, id ∈ snapshot.orderedIds) :
    ((AntiMevEngine.computePositionDeltas snapshot.classes proposedOrder).filter fun delta =>
      delta.delta ≠ 0).length = snapshot.displaced (Positions.lastPlaces proposedOrder) := by
  have still : ∀ delta ∈ AntiMevEngine.computePositionDeltas snapshot.classes proposedOrder,
      decide (delta.delta ≠ 0) =
        decide (snapshot.orderedIds[delta.proposedPosition]? ≠ some delta.submissionId) := by
    intro delta made
    obtain ⟨id, i, j, before, -, rfl⟩ := mem_computePositionDeltas.1 made
    dsimp only
    rw [decide_eq_decide]
    constructor
    · intro moved here
      have place := ((Positions.lastAt_iff_of_nodup distinct).2 here).eq before
      exact moved (by omega)
    · intro elsewhere same
      have place : i = j := by omega
      exact elsewhere (place ▸ before.1)
  rw [List.filter_congr still, QueueSnapshot.displaced,
    ← ((deltas_perm_lastPlaces listed).filter _).length_eq, List.filter_map, List.length_map]
  rfl

theorem discretionViolation_eq_none (listed : ∀ id ∈ proposedOrder, id ∈ snapshot.orderedIds) :
    AntiMevEngine.discretionViolation ⟨policy⟩ proposedOrder.length
        (AntiMevEngine.computePositionDeltas snapshot.classes proposedOrder) = none ↔
      snapshot.displaced (Positions.lastPlaces proposedOrder) * 10000 /
        (Positions.lastPlaces proposedOrder).length ≤
        policy.leaderDiscretionLimit.maxDiscretionBps.toNat := by
  have count : (AntiMevEngine.computePositionDeltas snapshot.classes proposedOrder).length =
      (Positions.lastPlaces proposedOrder).length := by
    rw [← (deltas_perm_lastPlaces listed).length_eq, List.length_map]
  have bps : AntiMevEngine.movedBps (AntiMevEngine.computePositionDeltas snapshot.classes proposedOrder) =
      snapshot.displaced (Positions.lastPlaces proposedOrder) * 10000 /
        (Positions.lastPlaces proposedOrder).length := by
    rw [AntiMevEngine.movedBps, moved_eq_displaced distinct listed, count]
  unfold AntiMevEngine.discretionViolation
  dsimp only
  rw [bps]
  split_ifs with exceeded
  · simpa using exceeded.2.2
  · simp only [true_iff]
    by_contra above
    -- Something was moved, so there are a batch and deltas to speak of.
    have some : 0 < (Positions.lastPlaces proposedOrder).length := by
      by_contra none
      rw [Nat.eq_zero_of_not_pos none, Nat.div_zero] at above
      exact above (Nat.zero_le _)
    refine exceeded ⟨?_, ?_, not_le.1 above⟩
    · obtain ⟨⟨id, i⟩, member⟩ := List.exists_mem_of_length_pos some
      have last := Positions.mem_lastPlaces.1 member
      exact Nat.lt_of_le_of_lt (Nat.zero_le i) (List.getElem?_eq_some_iff.1 last.1).1
    · intro empty
      rw [empty] at count
      exact Nat.ne_of_gt some count.symm

omit distinct in
theorem validateProtectedFlows_eq_nil :
    AntiMevEngine.validateProtectedFlows ⟨policy⟩ proposedOrder profiles = [] ↔
      ∀ id profile, profiles[id]? = some profile →
        policy.protectedFlowPolicy.Protects profile.assignedClass →
        ∃ i ≤ min policy.protectedFlowPolicy.maxDelaySlots.toNat (proposedOrder.length - 1),
          Positions.LastAt proposedOrder id i := by
  unfold AntiMevEngine.validateProtectedFlows ProtectedFlowPolicy.Protects
  dsimp only
  cases policy.protectedFlowPolicy.enabled with
  | false => simp
  | true =>
      rw [Bool.not_true, if_neg Bool.false_ne_true, ← List.length_eq_zero_iff, List.length_insertionSort,
        List.length_eq_zero_iff, List.filterMap_eq_nil_iff]
      simp only [true_and]
      constructor
      · intro prompt id profile found isProtected
        have passed := prompt (id, profile) (Std.ExtTreeMap.mem_toList_iff_getElem?_eq_some.2 found)
        dsimp only at passed
        rw [if_pos isProtected] at passed
        cases place : (Positions.positions proposedOrder)[id]? with
        | none =>
            rw [place] at passed
            cases passed
        | some i =>
            rw [place] at passed
            dsimp only at passed
            split at passed
            · cases passed
            · rename_i early
              exact ⟨i, not_lt.1 early, Positions.getElem?_positions.1 place⟩
      · rintro prompt ⟨id, profile⟩ listed
        dsimp only
        split
        · rename_i isProtected
          obtain ⟨i, early, last⟩ := prompt id profile
            (Std.ExtTreeMap.mem_toList_iff_getElem?_eq_some.1 listed) isProtected
          rw [Positions.getElem?_positions.2 last]
          exact if_neg (not_lt.2 early)
        · rfl

theorem FairProposalValidator.errors_eq_nil (fairnessPolicy : FairSequencingPolicy) :
    (FairProposalValidator.validate ⟨fairnessPolicy, policy⟩ proposedOrder snapshot profiles).errors = [] ↔
      FairAtLast policy proposedOrder snapshot profiles := by
  have unlisted : (proposedOrder.filter fun id => id ∉ snapshot.orderedIds) = [] ↔
      ∀ id ∈ proposedOrder, id ∈ snapshot.orderedIds := by
    simp [List.filter_eq_nil_iff]
  unfold FairProposalValidator.validate AntiMevEngine.applyOrderingConstraints
  dsimp only
  rw [List.append_eq_nil_iff, List.append_eq_nil_iff, List.map_eq_nil_iff, List.map_eq_nil_iff,
    List.map_eq_nil_iff, List.append_eq_nil_iff, Option.toList_eq_nil_iff, unlisted,
    validateProtectedFlows_eq_nil, ← QueueSnapshot.classes, boundViolations_eq_nil distinct]
  constructor
  · rintro ⟨⟨listed, bounded, discreet⟩, prompt⟩
    exact ⟨listed, prompt, bounded, (discretionViolation_eq_none distinct listed).1 discreet⟩
  · rintro ⟨listed, prompt, bounded, discreet⟩
    exact ⟨⟨listed, bounded, (discretionViolation_eq_none distinct listed).2 discreet⟩, prompt⟩

end Deltas

section Samples

def sampleSnapshot : QueueSnapshot := ⟨0, [⟨1, .normal⟩, ⟨2, .normal⟩]⟩

theorem lastAt_repeated {id : Bytes32} {i : Nat} (last : Positions.LastAt [2, 2] id i) : id = 2 ∧ i = 1 := by
  have member := Positions.mem_lastPlaces.2 last
  rw [show Positions.lastPlaces [(2 : Bytes32), 2] = [(2, 1)] by decide, List.mem_singleton] at member
  exact Prod.mk.inj member

theorem repeated_fairAtLast : FairAtLast .defaultPolicy [2, 2] sampleSnapshot ∅ := by
  refine ⟨by simp [sampleSnapshot, QueueSnapshot.orderedIds], ?_, ?_, by decide +kernel⟩
  · intro id profile found
    simp at found
  · intro i j entry found last
    obtain ⟨second, rfl⟩ := lastAt_repeated last
    have place := congrArg (Option.map EligibleSubmissionEntry.submissionId) found
    rw [Option.map_some, second, ← List.getElem?_map] at place
    have listed : sampleSnapshot.orderedIds[1]? = sampleSnapshot.orderedIds[j]? := place.symm
    rw [← (List.getElem?_inj (by decide) (by decide)).1 listed]
    intro bound _
    exact ⟨Nat.le_add_right _ _, Nat.le_add_right _ _⟩

end Samples

end Omniphi.PoSeq
