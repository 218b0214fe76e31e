import Omniphi.PoSeq.FairProposal

/-! The inclusion engine: which candidates enter a batch. The candidates are taken in the order of their
ids, so those that find room are the first ones, and the forced ones. -/

namespace Omniphi.PoSeq

instance : Ord FairnessClass := ⟨compareOn FairnessClass.ctorIdx⟩

instance transOrdFairnessClass : Std.TransOrd FairnessClass :=
  inferInstanceAs (Std.TransCmp (compareOn FairnessClass.ctorIdx))

instance lawfulEqOrdFairnessClass : Std.LawfulEqOrd FairnessClass :=
  BTree.lawfulEq_of_injective FairnessClass.ctorIdx (by
    intro a b same
    cases a <;> cases b <;> first | rfl | cases same)

namespace Inclusion

/-- The rule of a class. A limit of zero stands for none. -/
structure SubmissionFairnessClass where
  maxWaitSlots : U64

/-- The policy, which always has a rule for the normal class. -/
structure FairSequencingPolicy where
  classRules : BTreeMap FairnessClass SubmissionFairnessClass
  antiStarvationSlots : U64
  normal : FairnessClass.normal ∈ classRules

def FairSequencingPolicy.getClassRule (policy : FairSequencingPolicy) (fairnessClass : FairnessClass) :
    SubmissionFairnessClass :=
  policy.classRules[fairnessClass]?.getD (policy.classRules.get .normal policy.normal)

structure SubmissionFairnessProfile where
  assignedClass : FairnessClass
  receivedAtSlot : U64
  ageSlots : U64
  isForcedInclusion : Bool

inductive ExclusionReason
  | notYetEligible
  | policyExcluded
  | classRestricted
  | batchFull
  | snapshotNotIncluded
deriving DecidableEq

inductive InclusionDecision
  | included
  | excluded (reason : ExclusionReason)
  | forceInclude (reason : String)
deriving DecidableEq

def InclusionDecision.includes : InclusionDecision → Bool
  | .included | .forceInclude _ => true
  | .excluded _ => false

structure InclusionEligibilityRecord where
  submissionId : Bytes32
  fairnessClass : FairnessClass
  receivedAtSlot : U64
  ageSlots : U64
  decision : InclusionDecision
  forced : Bool

structure ForcedInclusionCandidate where
  submissionId : Bytes32
  ageSlots : U64
  fairnessClass : FairnessClass
  forcedReason : String

/-- For each submission the slot and the sequence number it was received at. -/
structure SubmissionAgeTracker where
  ages : BTreeMap Bytes32 (U64 × U64)

def SubmissionAgeTracker.getAge (tracker : SubmissionAgeTracker) (id : Bytes32) (currentSlot : U64) : U64 :=
  match tracker.ages[id]? with
  | some received => MachineInt.saturatingSub currentSlot received.1
  | none => 0

structure InclusionPolicyEngine where
  policy : FairSequencingPolicy
  ageTracker : SubmissionAgeTracker

namespace InclusionPolicyEngine

variable (engine : InclusionPolicyEngine) (profiles : BTreeMap Bytes32 SubmissionFairnessProfile)
  (currentSlot : U64) (batchCapacity : Nat)

def starvesBefore (a b : ForcedInclusionCandidate) : Bool :=
  b.ageSlots < a.ageSlots ∨ (a.ageSlots = b.ageSlots ∧ a.submissionId ≤ b.submissionId)

/-- The limit of the class is asked for only where the age exceeds the threshold already. -/
def starving (entry : Bytes32 × SubmissionFairnessProfile) : Option ForcedInclusionCandidate :=
  let threshold := engine.policy.antiStarvationSlots
  let age := MachineInt.saturatingSub currentSlot entry.2.receivedAtSlot
  if threshold < age then
    let classLimit := (engine.policy.getClassRule entry.2.assignedClass).maxWaitSlots
    if threshold < age ∨ (0 < classLimit ∧ classLimit < age) then
      some ⟨entry.1, age, entry.2.assignedClass, "anti_starvation: age " ++ toString age.toNat ++
        " > threshold " ++ toString threshold.toNat⟩
    else none
  else none

def checkAntiStarvation : List ForcedInclusionCandidate :=
  (profiles.toList.filterMap (engine.starving currentSlot)).mergeSort starvesBefore

def describe (forcedSet : List Bytes32) (id : Bytes32) : U64 × U64 × FairnessClass × Bool :=
  match profiles[id]? with
  | some p => (p.receivedAtSlot, p.ageSlots, p.assignedClass, p.isForcedInclusion || forcedSet.contains id)
  | none =>
      let age := engine.ageTracker.getAge id currentSlot
      (MachineInt.saturatingSub currentSlot age, age, .normal, forcedSet.contains id)

def decideCandidate (forcedSet : List Bytes32) (acc : List InclusionEligibilityRecord × Nat) (id : Bytes32) :
    List InclusionEligibilityRecord × Nat :=
  let (receivedAtSlot, ageSlots, fairnessClass, isForced) :=
    engine.describe profiles currentSlot forcedSet id
  if isForced then
    (acc.1 ++ [⟨id, fairnessClass, receivedAtSlot, ageSlots, .forceInclude "anti_starvation", true⟩],
      acc.2 + 1)
  else if batchCapacity ≤ acc.2 then
    (acc.1 ++ [⟨id, fairnessClass, receivedAtSlot, ageSlots, .excluded .batchFull, false⟩], acc.2)
  else
    (acc.1 ++ [⟨id, fairnessClass, receivedAtSlot, ageSlots, .included, false⟩], acc.2 + 1)

def computeEligibleSet (candidates : BTreeSet Bytes32) :
    List InclusionEligibilityRecord × List ForcedInclusionCandidate :=
  let forced := engine.checkAntiStarvation profiles currentSlot
  let forcedSet := forced.map ForcedInclusionCandidate.submissionId
  ((candidates.toList.foldl (engine.decideCandidate profiles currentSlot batchCapacity forcedSet) ([], 0)).1,
    forced)

section Claims

def waited (id : Bytes32) : U64 :=
  match profiles[id]? with
  | some p => MachineInt.saturatingSub currentSlot p.receivedAtSlot
  | none => engine.ageTracker.getAge id currentSlot

def classOf (id : Bytes32) : FairnessClass := (profiles[id]?.map fun p => p.assignedClass).getD .normal

def Overdue (id : Bytes32) : Prop :=
  let limit := (engine.policy.getClassRule (classOf profiles id)).maxWaitSlots
  0 < limit ∧ limit < engine.waited profiles currentSlot id

/-- The submission is marked in its profile, or has waited there beyond the general threshold. -/
def Forced (id : Bytes32) : Prop :=
  ∃ p, profiles[id]? = some p ∧ (p.isForcedInclusion = true ∨
    engine.policy.antiStarvationSlots < MachineInt.saturatingSub currentSlot p.receivedAtSlot)

def included (records : List InclusionEligibilityRecord) : List InclusionEligibilityRecord :=
  records.filter fun record => record.decision.includes

def excluded (records : List InclusionEligibilityRecord) : List InclusionEligibilityRecord :=
  records.filter fun record => !record.decision.includes

/-- The batch is bounded by its capacity or by what is forced, every candidate is either included or
excluded, once, and no overdue one is left out. -/
structure Serves (candidates : BTreeSet Bytes32) (records : List InclusionEligibilityRecord) : Prop where
  bounded : (included records).length ≤
    max batchCapacity (records.countP fun record => record.forced)
  once : ((included records ++ excluded records).map InclusionEligibilityRecord.submissionId).Perm
    candidates.toList
  overdue : ∀ id ∈ candidates, engine.Overdue profiles currentSlot id →
    id ∈ (included records).map InclusionEligibilityRecord.submissionId

/-- Of the candidates beyond the capacity, in the order of the ids, none is forced unless all within it
are, and none is overdue without being forced. -/
structure Fits (candidates : BTreeSet Bytes32) : Prop where
  room : (∀ id ∈ candidates.toList.drop batchCapacity, ¬ engine.Forced profiles currentSlot id) ∨
    ∀ id ∈ candidates.toList.take batchCapacity, engine.Forced profiles currentSlot id
  overdue : ∀ id ∈ candidates.toList.drop batchCapacity, engine.Overdue profiles currentSlot id →
    engine.Forced profiles currentSlot id

end Claims

section Places

theorem starving_iff (entry : Bytes32 × SubmissionFairnessProfile) (id : Bytes32) :
    (∃ candidate, engine.starving currentSlot entry = some candidate ∧ candidate.submissionId = id) ↔
      entry.1 = id ∧ engine.policy.antiStarvationSlots <
        MachineInt.saturatingSub currentSlot entry.2.receivedAtSlot := by
  unfold starving
  dsimp only
  by_cases late : engine.policy.antiStarvationSlots <
      MachineInt.saturatingSub currentSlot entry.2.receivedAtSlot
  · rw [if_pos late, if_pos (.inl late)]
    simp [late]
  · simp [late]

theorem mem_forcedSet (id : Bytes32) :
    id ∈ (engine.checkAntiStarvation profiles currentSlot).map ForcedInclusionCandidate.submissionId ↔
      ∃ p, profiles[id]? = some p ∧ engine.policy.antiStarvationSlots <
        MachineInt.saturatingSub currentSlot p.receivedAtSlot := by
  have sorted := List.mergeSort_perm (profiles.toList.filterMap (engine.starving currentSlot)) starvesBefore
  rw [checkAntiStarvation, (sorted.map _).mem_iff, List.mem_map]
  constructor
  · rintro ⟨candidate, listed, same⟩
    obtain ⟨⟨other, p⟩, member, found⟩ := List.mem_filterMap.1 listed
    obtain ⟨rfl, late⟩ := (engine.starving_iff currentSlot (other, p) id).1 ⟨candidate, found, same⟩
    exact ⟨p, Std.ExtTreeMap.mem_toList_iff_getElem?_eq_some.1 member, late⟩
  · rintro ⟨p, stored, late⟩
    obtain ⟨candidate, found, same⟩ := (engine.starving_iff currentSlot (id, p) id).2 ⟨rfl, late⟩
    exact ⟨candidate, List.mem_filterMap.2
      ⟨(id, p), Std.ExtTreeMap.mem_toList_iff_getElem?_eq_some.2 stored, found⟩, same⟩

def recordOf (forcedSet : List Bytes32) (room : Bool) (id : Bytes32) : InclusionEligibilityRecord :=
  let (receivedAtSlot, ageSlots, fairnessClass, isForced) :=
    engine.describe profiles currentSlot forcedSet id
  ⟨id, fairnessClass, receivedAtSlot, ageSlots,
    if isForced then .forceInclude "anti_starvation" else if room then .included else .excluded .batchFull,
    isForced⟩

variable {forcedSet : List Bytes32}

@[simp] theorem recordOf_submissionId (room : Bool) (id : Bytes32) :
    (engine.recordOf profiles currentSlot forcedSet room id).submissionId = id := rfl

@[simp] theorem recordOf_forced (room : Bool) (id : Bytes32) :
    (engine.recordOf profiles currentSlot forcedSet room id).forced =
      (engine.describe profiles currentSlot forcedSet id).2.2.2 := rfl

@[simp] theorem recordOf_includes (room : Bool) (id : Bytes32) :
    (engine.recordOf profiles currentSlot forcedSet room id).decision.includes =
      ((engine.describe profiles currentSlot forcedSet id).2.2.2 || room) := by
  unfold recordOf
  dsimp only
  cases (engine.describe profiles currentSlot forcedSet id).2.2.2 with
  | true => rfl
  | false => cases room <;> rfl

theorem decideCandidate_eq (acc : List InclusionEligibilityRecord × Nat) (id : Bytes32) :
    engine.decideCandidate profiles currentSlot batchCapacity forcedSet acc id =
      let record := engine.recordOf profiles currentSlot forcedSet (decide (acc.2 < batchCapacity)) id
      (acc.1 ++ [record], if record.decision.includes then acc.2 + 1 else acc.2) := by
  dsimp only
  rw [recordOf_includes]
  unfold decideCandidate recordOf
  dsimp only
  cases (engine.describe profiles currentSlot forcedSet id).2.2.2 with
  | true => rfl
  | false =>
      by_cases full : batchCapacity ≤ acc.2
      · simp [full, Nat.not_lt.2 full]
      · simp [full, Nat.not_le.1 full]

theorem foldl_decideCandidate (ids : List Bytes32) :
    let decided := ids.foldl (engine.decideCandidate profiles currentSlot batchCapacity forcedSet) ([], 0)
    decided.1 = (ids.take batchCapacity).map (engine.recordOf profiles currentSlot forcedSet true) ++
      (ids.drop batchCapacity).map (engine.recordOf profiles currentSlot forcedSet false) ∧
    min batchCapacity ids.length ≤ decided.2 ∧ decided.2 ≤ ids.length := by
  induction ids using List.reverseRecOn with
  | nil => simp
  | append_singleton ids id ih =>
      obtain ⟨records, least, most⟩ := ih
      dsimp only at records least most ⊢
      rw [List.foldl_append, List.foldl_cons, List.foldl_nil, decideCandidate_eq]
      dsimp only
      rw [records, recordOf_includes]
      generalize (ids.foldl (engine.decideCandidate profiles currentSlot batchCapacity forcedSet) ([], 0)).2 =
        count at least most
      by_cases within : ids.length < batchCapacity
      · have room : count < batchCapacity := by omega
        have whole : (ids ++ [id]).length ≤ batchCapacity := by
          rw [List.length_append, List.length_singleton]
          omega
        rw [List.take_of_length_le whole, List.drop_eq_nil_of_le whole, List.take_of_length_le within.le,
          List.drop_eq_nil_of_le within.le, decide_eq_true room, Bool.or_true, if_pos rfl,
          List.length_append, List.length_singleton]
        refine ⟨by simp, ?_, ?_⟩ <;> omega
      · have full : ¬ count < batchCapacity := by omega
        rw [List.take_append_of_le_length (by omega), List.drop_append_of_le_length (by omega),
          decide_eq_false full, List.length_append, List.length_singleton]
        refine ⟨by simp, ?_, ?_⟩ <;> split <;> omega

def isForced (id : Bytes32) : Bool :=
  (engine.describe profiles currentSlot ((engine.checkAntiStarvation profiles currentSlot).map
    ForcedInclusionCandidate.submissionId) id).2.2.2

theorem isForced_iff (id : Bytes32) :
    engine.isForced profiles currentSlot id = true ↔ engine.Forced profiles currentSlot id := by
  have starved := engine.mem_forcedSet profiles currentSlot id
  unfold isForced describe Forced
  cases stored : profiles[id]? with
  | none =>
      rw [stored] at starved
      simpa using starved
  | some p =>
      rw [stored] at starved
      dsimp only
      rw [Bool.or_eq_true, List.contains_iff_mem, starved]
      simp

theorem records_eq (candidates : BTreeSet Bytes32) :
    (engine.computeEligibleSet profiles currentSlot batchCapacity candidates).1 =
      (candidates.toList.take batchCapacity).map (engine.recordOf profiles currentSlot
        ((engine.checkAntiStarvation profiles currentSlot).map ForcedInclusionCandidate.submissionId) true) ++
      (candidates.toList.drop batchCapacity).map (engine.recordOf profiles currentSlot
        ((engine.checkAntiStarvation profiles currentSlot).map ForcedInclusionCandidate.submissionId) false) :=
  (engine.foldl_decideCandidate profiles currentSlot batchCapacity candidates.toList).1

theorem map_included (candidates : BTreeSet Bytes32) :
    (included (engine.computeEligibleSet profiles currentSlot batchCapacity candidates).1).map
        InclusionEligibilityRecord.submissionId =
      candidates.toList.take batchCapacity ++
        (candidates.toList.drop batchCapacity).filter (engine.isForced profiles currentSlot) := by
  rw [records_eq, included, List.filter_append, List.filter_map, List.filter_map, List.map_append,
    List.map_map, List.map_map]
  have early (ids : List Bytes32) (keeps : Bytes32 → Bool) (all : ∀ id, keeps id = true) :
      ids.filter keeps = ids := List.filter_eq_self.2 fun id _ => all id
  rw [early _ _ fun id => by simp]
  simp only [Function.comp_def, recordOf_submissionId, recordOf_includes, Bool.or_false, List.map_id']
  rfl

theorem countP_forced (candidates : BTreeSet Bytes32) :
    (engine.computeEligibleSet profiles currentSlot batchCapacity candidates).1.countP
        (fun record => record.forced) =
      (candidates.toList.take batchCapacity).countP (engine.isForced profiles currentSlot) +
        (candidates.toList.drop batchCapacity).countP (engine.isForced profiles currentSlot) := by
  rw [records_eq, List.countP_append, List.countP_map, List.countP_map]
  rfl

end Places

theorem bounded_iff (candidates : BTreeSet Bytes32) :
    (included (engine.computeEligibleSet profiles currentSlot batchCapacity candidates).1).length ≤
        max batchCapacity ((engine.computeEligibleSet profiles currentSlot batchCapacity candidates).1.countP
          fun record => record.forced) ↔
      ((∀ id ∈ candidates.toList.drop batchCapacity, ¬ engine.Forced profiles currentSlot id) ∨
        ∀ id ∈ candidates.toList.take batchCapacity, engine.Forced profiles currentSlot id) := by
  have total := congrArg List.length (engine.map_included profiles currentSlot batchCapacity candidates)
  rw [List.length_map, List.length_append, ← List.countP_eq_length_filter] at total
  rw [total, countP_forced]
  simp only [← engine.isForced_iff profiles currentSlot]
  rw [← List.countP_eq_length, ← List.countP_eq_zero]
  have early := List.countP_le_length (p := engine.isForced profiles currentSlot)
    (l := candidates.toList.take batchCapacity)
  have late := List.countP_le_length (p := engine.isForced profiles currentSlot)
    (l := candidates.toList.drop batchCapacity)
  have taken : (candidates.toList.take batchCapacity).length = min batchCapacity candidates.toList.length :=
    List.length_take
  have dropped : (candidates.toList.drop batchCapacity).length = candidates.toList.length - batchCapacity :=
    List.length_drop
  omega

theorem once (candidates : BTreeSet Bytes32) :
    ((included (engine.computeEligibleSet profiles currentSlot batchCapacity candidates).1 ++
        excluded (engine.computeEligibleSet profiles currentSlot batchCapacity candidates).1).map
      InclusionEligibilityRecord.submissionId).Perm candidates.toList := by
  have split := List.filter_append_perm (fun record => record.decision.includes)
    (engine.computeEligibleSet profiles currentSlot batchCapacity candidates).1
  refine (split.map InclusionEligibilityRecord.submissionId).trans (.of_eq ?_)
  rw [records_eq, List.map_append, List.map_map, List.map_map]
  simp only [Function.comp_def, recordOf_submissionId, List.map_id', List.take_append_drop]

theorem overdue_iff (candidates : BTreeSet Bytes32) :
    (∀ id ∈ candidates, engine.Overdue profiles currentSlot id →
        id ∈ (included (engine.computeEligibleSet profiles currentSlot batchCapacity candidates).1).map
          InclusionEligibilityRecord.submissionId) ↔
      ∀ id ∈ candidates.toList.drop batchCapacity, engine.Overdue profiles currentSlot id →
        engine.Forced profiles currentSlot id := by
  have distinct : (candidates.toList.take batchCapacity ++ candidates.toList.drop batchCapacity).Nodup := by
    rw [List.take_append_drop]
    refine candidates.distinct_toList.imp ?_
    rintro a b differ rfl
    exact differ Std.ReflCmp.compare_self
  simp only [map_included, List.mem_append, List.mem_filter, isForced_iff]
  constructor
  · intro served id listed overdue
    have member : id ∈ candidates := Std.ExtTreeSet.mem_toList.1 (List.mem_of_mem_drop listed)
    rcases served id member overdue with early | ⟨-, forced⟩
    · exact absurd rfl ((List.nodup_append.1 distinct).2.2 id early id listed)
    · exact forced
  · intro served id member overdue
    have listed := Std.ExtTreeSet.mem_toList.2 member
    rw [← List.take_append_drop batchCapacity candidates.toList, List.mem_append] at listed
    rcases listed with early | late
    · exact .inl early
    · exact .inr ⟨late, served id late overdue⟩

/-- The engine serves the candidates exactly when the forced and the overdue ones fit. -/
theorem serves_iff_fits (candidates : BTreeSet Bytes32) :
    engine.Serves profiles currentSlot batchCapacity candidates
        (engine.computeEligibleSet profiles currentSlot batchCapacity candidates).1 ↔
      engine.Fits profiles currentSlot batchCapacity candidates := by
  constructor
  · intro serves
    exact ⟨(engine.bounded_iff profiles currentSlot batchCapacity candidates).1 serves.bounded,
      (engine.overdue_iff profiles currentSlot batchCapacity candidates).1 serves.overdue⟩
  · intro fits
    exact ⟨(engine.bounded_iff profiles currentSlot batchCapacity candidates).2 fits.room,
      engine.once profiles currentSlot batchCapacity candidates,
      (engine.overdue_iff profiles currentSlot batchCapacity candidates).2 fits.overdue⟩

end InclusionPolicyEngine

section Samples

def sampleEngine : InclusionPolicyEngine where
  policy := ⟨(∅ : BTreeMap FairnessClass SubmissionFairnessClass).insert .normal ⟨0⟩ |>.insert .safetyCritical ⟨2⟩,
    100, by decide +kernel⟩
  ageTracker := ⟨∅⟩

def sampleProfiles (older : SubmissionFairnessProfile) : BTreeMap Bytes32 SubmissionFairnessProfile :=
  (∅ : BTreeMap Bytes32 SubmissionFairnessProfile).insert 1 ⟨.normal, 200, 0, false⟩ |>.insert 2 older

def sampleCandidates : BTreeSet Bytes32 := (∅ : BTreeSet Bytes32).insert 1 |>.insert 2

end Samples

/-- A starving submission beyond a batch that is full overfills it, and one that is overdue by the limit of
its class alone is left out of it. -/
theorem full_batch_overfilled_or_overdue :
    ¬ sampleEngine.Serves (sampleProfiles ⟨.normal, 0, 200, false⟩) 200 1 sampleCandidates
        (sampleEngine.computeEligibleSet (sampleProfiles ⟨.normal, 0, 200, false⟩) 200 1 sampleCandidates).1 ∧
      ¬ sampleEngine.Serves (sampleProfiles ⟨.safetyCritical, 190, 10, false⟩) 200 1 sampleCandidates
        (sampleEngine.computeEligibleSet (sampleProfiles ⟨.safetyCritical, 190, 10, false⟩) 200 1
          sampleCandidates).1 := by
  constructor
  · intro serves
    exact absurd serves.bounded (by decide +kernel)
  · intro serves
    have left : (2 : Bytes32) ∉ (InclusionPolicyEngine.included
        (sampleEngine.computeEligibleSet (sampleProfiles ⟨.safetyCritical, 190, 10, false⟩) 200 1
          sampleCandidates).1).map InclusionEligibilityRecord.submissionId := by decide +kernel
    exact left (serves.overdue 2 (by decide +kernel) (by unfold InclusionPolicyEngine.Overdue; decide +kernel))

end Inclusion

end Omniphi.PoSeq
