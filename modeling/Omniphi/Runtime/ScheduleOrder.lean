import Omniphi.Lib.FirstFit
import Omniphi.Runtime.Settlement

/-! What the scheduler computes: the conflict graph holds exactly the conflicts between plans, and the
groups are the first-fit labels of the plans under the conflict relation. -/

namespace Omniphi.Runtime

namespace ConflictGraph

theorem conflictsWith_addEdge (graph : ConflictGraph) (a b x y : Bytes32) :
    (graph.addEdge a b).conflictsWith x y ↔ (x = a ∧ y = b) ∨ graph.conflictsWith x y := by
  unfold conflictsWith addEdge
  dsimp only
  rw [BTree.getElem?_insert]
  by_cases here : a = x
  · subst here
    rw [if_pos rfl]
    cases graph.adjacency[a]? <;> simp [eq_comm (a := b)]
  · simp [here, Ne.symm here]

theorem conflictsWith_addConflict (graph : ConflictGraph) (a b x y : Bytes32) :
    (graph.addConflict a b).conflictsWith x y ↔
      (x = a ∧ y = b) ∨ (x = b ∧ y = a) ∨ graph.conflictsWith x y := by
  rw [addConflict, conflictsWith_addEdge, conflictsWith_addEdge]
  tauto

end ConflictGraph

namespace ParallelScheduler

section Graph

def Clash (refs : List (ExecutionPlan × AccessMode)) (x y : Bytes32) : Prop :=
  ∃ a ∈ refs, ∃ b ∈ refs, a.1.txId = x ∧ b.1.txId = y ∧ (a.2 = .readWrite ∨ b.2 = .readWrite)

theorem conflictsWith_foldl (graph : ConflictGraph) (plan : ExecutionPlan) (mode : AccessMode)
    (refs : List (ExecutionPlan × AccessMode)) (x y : Bytes32) :
    (refs.foldl (fun graph other =>
        if mode = .readWrite ∨ other.2 = .readWrite then graph.addConflict plan.txId other.1.txId
        else graph) graph).conflictsWith x y ↔
      graph.conflictsWith x y ∨ ∃ other ∈ refs, (mode = .readWrite ∨ other.2 = .readWrite) ∧
        ((x = plan.txId ∧ y = other.1.txId) ∨ (x = other.1.txId ∧ y = plan.txId)) := by
  induction refs generalizing graph with
  | nil => simp
  | cons other refs ih =>
      rw [List.foldl_cons, ih]
      simp only [List.mem_cons, exists_eq_or_imp]
      split
      · rename_i write
        rw [ConflictGraph.conflictsWith_addConflict]
        simp only [write, true_and]
        exact Iff.of_eq (by ac_rfl)
      · rename_i reads
        simp only [reads, false_and, false_or]

theorem conflictsWith_addPairs (graph : ConflictGraph) (refs : List (ExecutionPlan × AccessMode))
    {x y : Bytes32} (differ : x ≠ y) :
    (addPairs graph refs).conflictsWith x y ↔ graph.conflictsWith x y ∨ Clash refs x y := by
  induction refs generalizing graph with
  | nil => simp [addPairs, Clash]
  | cons head refs ih =>
      obtain ⟨plan, mode⟩ := head
      rw [addPairs, ih, conflictsWith_foldl]
      simp only [Clash, List.mem_cons, exists_eq_or_imp]
      -- A pair of references to two plans either leaves the head out or pairs it with a later one.
      constructor
      · rintro ((old | ⟨other, member, write, ⟨rfl, rfl⟩ | ⟨rfl, rfl⟩⟩) | later)
        · exact .inl old
        · exact .inr (.inl (.inr ⟨other, member, rfl, rfl, write⟩))
        · exact .inr (.inr ⟨other, member, .inl ⟨rfl, rfl, write.symm⟩⟩)
        · obtain ⟨a, first, b, second, clash⟩ := later
          exact .inr (.inr ⟨a, first, .inr ⟨b, second, clash⟩⟩)
      · rintro (old | (⟨rfl, rfl, -⟩ | ⟨other, member, rfl, rfl, write⟩) |
          ⟨other, member, ⟨rfl, rfl, write⟩ | ⟨b, second, clash⟩⟩)
        · exact .inl (.inl old)
        · exact absurd rfl differ
        · exact .inl (.inr ⟨other, member, write, .inl ⟨rfl, rfl⟩⟩)
        · exact .inl (.inr ⟨other, member, write.symm, .inr ⟨rfl, rfl⟩⟩)
        · exact .inr ⟨other, member, b, second, clash⟩

def refsOf (id : ObjectId) (plan : ExecutionPlan) : List (ExecutionPlan × AccessMode) :=
  (plan.objectAccess.filter fun access => access.objectId = id).map fun access => (plan, access.mode)

theorem getD_foldl_access (id : ObjectId) (plan : ExecutionPlan) (accesses : List ObjectAccess)
    (index : BTreeMap ObjectId (List (ExecutionPlan × AccessMode))) :
    (accesses.foldl (fun index access => index.insert access.objectId
        ((index[access.objectId]?.getD []) ++ [(plan, access.mode)])) index)[id]?.getD [] =
      index[id]?.getD [] ++ ((accesses.filter fun access => access.objectId = id).map
        fun access => (plan, access.mode)) := by
  induction accesses generalizing index with
  | nil => simp
  | cons access accesses ih =>
      rw [List.foldl_cons, ih, BTree.getElem?_insert]
      by_cases here : access.objectId = id
      · simp [here]
      · simp [here]

theorem getD_objectPlans (id : ObjectId) (plans : List ExecutionPlan) :
    (objectPlans plans)[id]?.getD [] = plans.flatMap (refsOf id) := by
  induction plans using List.reverseRecOn with
  | nil => simp [objectPlans]
  | append_singleton plans plan ih =>
      rw [objectPlans, List.foldl_append, List.foldl_cons, List.foldl_nil, getD_foldl_access,
        List.flatMap_append, ← ih]
      simp [objectPlans, refsOf]

theorem conflictsWith_conflictGraph (plans : List ExecutionPlan) {x y : Bytes32} (differ : x ≠ y) :
    (conflictGraph plans).conflictsWith x y ↔ ∃ id, Clash (plans.flatMap (refsOf id)) x y := by
  have folded (entries : List (ObjectId × List (ExecutionPlan × AccessMode))) (graph : ConflictGraph) :
      (entries.foldl (fun graph entry => addPairs graph entry.2) graph).conflictsWith x y ↔
        graph.conflictsWith x y ∨ ∃ entry ∈ entries, Clash entry.2 x y := by
    induction entries generalizing graph with
    | nil => simp
    | cons entry entries ih =>
        rw [List.foldl_cons, ih, conflictsWith_addPairs graph entry.2 differ]
        simp [or_assoc]
  rw [conflictGraph, folded]
  have empty : (ConflictGraph.new).conflictsWith x y = false := by
    simp [ConflictGraph.new, ConflictGraph.conflictsWith]
  simp only [empty, Bool.false_eq_true, false_or, ← getD_objectPlans]
  constructor
  · rintro ⟨⟨id, refs⟩, member, clash⟩
    rw [Std.ExtTreeMap.mem_toList_iff_getElem?_eq_some] at member
    exact ⟨id, by rwa [member]⟩
  · rintro ⟨id, clash⟩
    cases found : (objectPlans plans)[id]? with
    | none => simp [found, Clash] at clash
    | some refs =>
        refine ⟨(id, refs), Std.ExtTreeMap.mem_toList_iff_getElem?_eq_some.2 found, ?_⟩
        rwa [found] at clash

theorem conflicts_iff (a b : ExecutionPlan) : conflicts a b ↔
    ∃ one ∈ a.objectAccess, ∃ other ∈ b.objectAccess, one.objectId = other.objectId ∧
      (one.mode = .readWrite ∨ other.mode = .readWrite) := by
  have meets (p q : ExecutionPlan) (m n : AccessMode) :
      intersects (declared p m) (declared q n) ↔ ∃ one ∈ p.objectAccess, ∃ other ∈ q.objectAccess,
        one.objectId = other.objectId ∧ one.mode = m ∧ other.mode = n := by
    simp only [intersects, declared, List.any_eq_true, List.contains_iff_mem, List.mem_map,
      List.mem_filter, decide_eq_true_eq]
    constructor
    · rintro ⟨_, ⟨one, ⟨first, rfl⟩, rfl⟩, other, ⟨second, rfl⟩, same⟩
      exact ⟨one, first, other, second, same.symm, rfl, rfl⟩
    · rintro ⟨one, first, other, second, same, rfl, rfl⟩
      exact ⟨_, ⟨one, ⟨first, rfl⟩, rfl⟩, other, ⟨second, rfl⟩, same.symm⟩
  simp only [conflicts, Bool.or_eq_true, meets]
  constructor
  · rintro ((⟨one, first, other, second, same, write, -⟩ | ⟨one, first, other, second, same, write, -⟩) |
      ⟨other, second, one, first, same, write, -⟩)
    · exact ⟨one, first, other, second, same, .inl write⟩
    · exact ⟨one, first, other, second, same, .inl write⟩
    · exact ⟨one, first, other, second, same.symm, .inr write⟩
  · rintro ⟨one, first, other, second, same, write⟩
    cases oneMode : one.mode <;> cases otherMode : other.mode
    · simp [oneMode, otherMode] at write
    · exact .inr ⟨other, second, one, first, same.symm, otherMode, oneMode⟩
    · exact .inl (.inr ⟨one, first, other, second, same, oneMode, otherMode⟩)
    · exact .inl (.inl ⟨one, first, other, second, same, oneMode, otherMode⟩)

theorem conflicts_comm (a b : ExecutionPlan) : conflicts a b ↔ conflicts b a := by
  rw [conflicts_iff, conflicts_iff]
  constructor <;>
    exact fun ⟨one, first, other, second, same, write⟩ =>
      ⟨other, second, one, first, same.symm, write.symm⟩

theorem conflictsWith_iff {plans : List ExecutionPlan}
    (distinct : (plans.map ExecutionPlan.txId).Nodup) {x y : ExecutionPlan} (first : x ∈ plans)
    (second : y ∈ plans) (differ : x ≠ y) :
    (conflictGraph plans).conflictsWith x.txId y.txId ↔ conflicts x y := by
  have injective : ∀ a ∈ plans, ∀ b ∈ plans, a.txId = b.txId → a = b :=
    fun a first b second => List.inj_on_of_nodup_map distinct first second
  rw [conflictsWith_conflictGraph plans fun same => differ (injective x first y second same),
    conflicts_iff]
  constructor
  · rintro ⟨id, ⟨p, m⟩, left, ⟨q, n⟩, right, sameX, sameY, write⟩
    obtain ⟨p', member, left⟩ := List.mem_flatMap.1 left
    obtain ⟨q', member', right⟩ := List.mem_flatMap.1 right
    obtain ⟨one, declares, pair⟩ := List.mem_map.1 left
    obtain ⟨other, declares', pair'⟩ := List.mem_map.1 right
    obtain ⟨rfl, rfl⟩ := Prod.mk.inj pair
    obtain ⟨rfl, rfl⟩ := Prod.mk.inj pair'
    obtain rfl := injective _ member _ first sameX
    obtain rfl := injective _ member' _ second sameY
    simp only [List.mem_filter, decide_eq_true_eq] at declares declares'
    exact ⟨one, declares.1, other, declares'.1, declares.2.trans declares'.2.symm, write⟩
  · rintro ⟨one, declares, other, declares', same, write⟩
    refine ⟨one.objectId, (x, one.mode), List.mem_flatMap.2 ⟨x, first, ?_⟩, (y, other.mode),
      List.mem_flatMap.2 ⟨y, second, ?_⟩, rfl, rfl, write⟩
    · exact List.mem_map.2 ⟨one, by simp [declares], rfl⟩
    · exact List.mem_map.2 ⟨other, by simp [declares', same], rfl⟩

end Graph

section Groups

def labels (plans : List ExecutionPlan) : List (ExecutionPlan × Nat) :=
  FirstFit.label (fun a b => conflicts a b) FirstFit.mex plans

variable (graph : ConflictGraph)

theorem place_spec (txId : Bytes32) (groups : List (List Bytes32)) :
    (∀ k < (place graph txId groups).2, ∃ member ∈ groups[k]?.getD [],
      graph.conflictsWith txId member) ∧
    (∀ member ∈ groups[(place graph txId groups).2]?.getD [], ¬ graph.conflictsWith txId member) ∧
    (∀ k, (place graph txId groups).1[k]?.getD [] =
      groups[k]?.getD [] ++ if k = (place graph txId groups).2 then [txId] else []) ∧
    (place graph txId groups).1.length = max groups.length ((place graph txId groups).2 + 1) := by
  induction groups with
  | nil =>
      refine ⟨by simp [place], by simp [place], ?_, by simp [place]⟩
      rintro (_ | k) <;> simp [place]
  | cons members groups ih =>
      obtain ⟨below, free, pushed, length⟩ := ih
      by_cases clash : members.any fun member => graph.conflictsWith txId member
      · simp only [place, clash, if_true]
        refine ⟨?_, by simpa using free, ?_, by simp [length]⟩
        · rintro (_ | k) less
          · simpa using clash
          · simpa using below k (by omega)
        · rintro (_ | k)
          · simp
          · simpa using pushed k
      · simp only [place, clash]
        refine ⟨by simp, by simpa using clash, ?_, by simp⟩
        rintro (_ | k) <;> simp

def Assignment.Holds (assignment : Assignment) (seen : List (ExecutionPlan × Nat)) : Prop :=
  (∀ k, assignment.groups[k]?.getD [] =
    (seen.filter fun entry => entry.2 = k).map fun entry => entry.1.txId) ∧
  ∀ entry ∈ seen, entry.2 < assignment.groups.length ∧
    assignment.planToGroup[entry.1.txId]? = some entry.2

theorem place_eq_mex {assignment : Assignment} {seen : List (ExecutionPlan × Nat)}
    (holds : assignment.Holds seen) {plan : ExecutionPlan}
    (agree : ∀ entry ∈ seen, graph.conflictsWith plan.txId entry.1.txId ↔ conflicts plan entry.1) :
    (place graph plan.txId assignment.groups).2 =
      FirstFit.mex (FirstFit.taken (fun a b => conflicts a b) seen plan) := by
  obtain ⟨below, free, -, -⟩ := place_spec graph plan.txId assignment.groups
  symm
  apply FirstFit.mex_eq
  · rw [FirstFit.mem_taken]
    rintro ⟨other, member, clash⟩
    refine free other.txId ?_ ((agree _ member).2 clash)
    rw [holds.1]
    exact List.mem_map.2 ⟨_, List.mem_filter.2 ⟨member, by simp⟩, rfl⟩
  · intro k less
    rw [FirstFit.mem_taken]
    obtain ⟨txId, listed, clash⟩ := below k less
    rw [holds.1] at listed
    obtain ⟨⟨other, n⟩, member, rfl⟩ := List.mem_map.1 listed
    obtain ⟨kept, same⟩ := List.mem_filter.1 member
    obtain rfl : n = k := by simpa using same
    exact ⟨other, kept, (agree _ kept).1 clash⟩

theorem holds_assign {assignment : Assignment} {seen : List (ExecutionPlan × Nat)}
    (holds : assignment.Holds seen) {plan : ExecutionPlan}
    (fresh : ∀ entry ∈ seen, entry.1.txId ≠ plan.txId)
    (agree : ∀ entry ∈ seen, graph.conflictsWith plan.txId entry.1.txId ↔ conflicts plan entry.1) :
    (assign graph assignment plan).Holds
      (FirstFit.extend (fun a b => conflicts a b) FirstFit.mex seen plan) := by
  obtain ⟨-, -, pushed, length⟩ := place_spec graph plan.txId assignment.groups
  rw [FirstFit.extend, ← place_eq_mex graph holds agree]
  constructor
  · intro k
    simp only [assign]
    rw [pushed, holds.1, List.filter_append, List.map_append]
    congr 1
    by_cases here : k = (place graph plan.txId assignment.groups).2
    · simp [here]
    · simp [here, Ne.symm here]
  · intro entry member
    simp only [assign, length, BTree.getElem?_insert]
    rcases List.mem_append.1 member with old | new
    · have kept := holds.2 entry old
      rw [if_neg (Ne.symm (fresh entry old))]
      exact ⟨by omega, kept.2⟩
    · obtain rfl : entry = _ := by simpa using new
      exact ⟨by omega, by simp⟩

theorem holds_foldl {items : List ExecutionPlan} (distinct : (items.map ExecutionPlan.txId).Nodup)
    (agree : ∀ x ∈ items, ∀ y ∈ items, x ≠ y →
      (graph.conflictsWith x.txId y.txId ↔ conflicts x y)) :
    (items.foldl (assign graph) { groups := [], planToGroup := ∅ }).Holds (labels items) := by
  induction items using List.reverseRecOn with
  | nil => exact ⟨by simp [labels, FirstFit.label], by simp [labels, FirstFit.label]⟩
  | append_singleton items plan ih =>
      rw [List.map_append, List.nodup_append] at distinct
      have holds := ih distinct.1 fun x first y second differ =>
        agree x (by simp [first]) y (by simp [second]) differ
      have earlier : ∀ entry ∈ labels items, entry.1 ∈ items := by
        intro entry member
        have listed := List.mem_map_of_mem (f := Prod.fst) member
        rwa [labels, FirstFit.label_fst] at listed
      have fresh : ∀ entry ∈ labels items, entry.1.txId ≠ plan.txId := fun entry member =>
        distinct.2.2 _ (List.mem_map_of_mem (earlier entry member)) _ (by simp)
      rw [List.foldl_append, labels, FirstFit.label_append]
      refine holds_assign graph holds fresh fun entry member => ?_
      refine agree plan (by simp) entry.1 (by simp [earlier entry member]) ?_
      rintro rfl
      exact fresh entry member rfl

theorem holds_assignAll {plans : List ExecutionPlan}
    (distinct : (plans.map ExecutionPlan.txId).Nodup) : (assignAll plans).Holds (labels plans) :=
  holds_foldl _ distinct fun _ first _ second differ => conflictsWith_iff distinct first second differ

def groupOf (plans : List ExecutionPlan) (plan : ExecutionPlan) : Nat :=
  (assignAll plans).planToGroup[plan.txId]?.getD 0

def groupCount (plans : List ExecutionPlan) : Nat := (assignAll plans).groups.length

theorem labels_eq {plans : List ExecutionPlan} (distinct : (plans.map ExecutionPlan.txId).Nodup) :
    labels plans = plans.map fun plan => (plan, groupOf plans plan) := by
  have holds := holds_assignAll distinct
  calc labels plans = (labels plans).map fun entry => (entry.1, groupOf plans entry.1) := by
        refine ((List.map_id _).symm.trans (List.map_congr_left ?_))
        intro entry member
        simp [groupOf, (holds.2 entry member).2]
    _ = ((labels plans).map Prod.fst).map fun plan => (plan, groupOf plans plan) := by
        rw [List.map_map]; rfl
    _ = plans.map fun plan => (plan, groupOf plans plan) := by rw [labels, FirstFit.label_fst]

theorem length_place (txId : Bytes32) (groups : List (List Bytes32)) :
    (place graph txId groups).2 < (place graph txId groups).1.length ∧
      groups.length ≤ (place graph txId groups).1.length := by
  induction groups with
  | nil => simp [place]
  | cons members groups ih =>
      unfold place
      split
      · dsimp only [List.length_cons]
        omega
      · simp

theorem assigned_lt (items : List ExecutionPlan) {plan : ExecutionPlan} (member : plan ∈ items) :
    ∃ k, (items.foldl (assign graph) { groups := [], planToGroup := ∅ }).planToGroup[plan.txId]? =
      some k ∧ k < (items.foldl (assign graph) { groups := [], planToGroup := ∅ }).groups.length := by
  induction items using List.reverseRecOn with
  | nil => cases member
  | append_singleton items last ih =>
      rw [List.foldl_append]
      generalize items.foldl (assign graph) { groups := [], planToGroup := ∅ } = assignment at ih
      obtain ⟨inside, grown⟩ := length_place graph last.txId assignment.groups
      show ∃ k, (assignment.planToGroup.insert last.txId _)[plan.txId]? = some k ∧ _
      rw [BTree.getElem?_insert]
      split
      · exact ⟨_, rfl, inside⟩
      · rename_i other
        rcases List.mem_append.1 member with earlier | same
        · obtain ⟨k, found, bound⟩ := ih earlier
          exact ⟨k, found, bound.trans_le grown⟩
        · rw [List.mem_singleton.1 same] at other
          exact absurd rfl other

theorem groupOf_lt {plans : List ExecutionPlan} {plan : ExecutionPlan} (member : plan ∈ plans) :
    groupOf plans plan < groupCount plans := by
  obtain ⟨k, found, bound⟩ := assigned_lt (conflictGraph plans) plans member
  have group : groupOf plans plan = k := by
    unfold groupOf assignAll
    rw [found, Option.getD_some]
  rw [group]
  exact bound

theorem getElem?_foldl_modify {α : Type} (group : α → Nat) (items : List α) (groups : List (List α))
    (k : Nat) :
    (items.foldl (fun groups item => groups.modify (group item) (· ++ [item])) groups)[k]? =
      groups[k]?.map (· ++ items.filter fun item => group item = k) := by
  induction items generalizing groups with
  | nil => simp
  | cons item items ih =>
      rw [List.foldl_cons, ih, List.getElem?_modify]
      by_cases here : group item = k
      · cases groups[k]? <;> simp [here]
      · cases groups[k]? <;> simp [here]

theorem schedule_eq (plans : List ExecutionPlan) :
    schedule plans = (List.range (groupCount plans)).map fun k =>
      { plans := plans.filter fun plan => groupOf plans plan = k, groupIndex := k } := by
  apply List.ext_getElem?
  intro k
  simp only [schedule, List.getElem?_map, List.getElem?_zipIdx]
  rw [getElem?_foldl_modify]
  simp only [List.getElem?_replicate, groupCount]
  by_cases inside : k < (assignAll plans).groups.length
  · simp [inside]
    rfl
  · simp [inside]

theorem executionOrder_schedule (plans : List ExecutionPlan) :
    SettlementEngine.executionOrder (schedule plans) =
      (List.range (groupCount plans)).flatMap fun k =>
        plans.filter fun plan => groupOf plans plan = k := by
  have sorted : (schedule plans).Pairwise fun a b => a.groupIndex ≤ b.groupIndex := by
    rw [schedule_eq, List.pairwise_map]
    exact List.pairwise_lt_range.imp fun less => Nat.le_of_lt less
  rw [SettlementEngine.executionOrder, sorted.insertionSort_eq, schedule_eq, List.flatMap_map]

theorem perm_flatMap_filter {α : Type} (group : α → Nat) (items : List α) (n : Nat) :
    ((List.range n).flatMap fun k => items.filter fun item => group item = k).Perm
      (items.filter fun item => group item < n) := by
  induction n with
  | zero => simp
  | succ n ih =>
      have split := List.filter_append_perm (fun item => decide (group item < n))
        (items.filter fun item => group item < n + 1)
      simp only [List.filter_filter] at split
      rw [List.range_succ, List.flatMap_append, List.flatMap_singleton]
      refine (ih.append_right _).trans ((List.Perm.of_eq ?_).trans split)
      congr 1 <;> apply List.filter_congr <;> intro item _
      · simp only [← Bool.decide_and]
        apply decide_eq_decide.2
        omega
      · simp only [← decide_not, ← Bool.decide_and]
        apply decide_eq_decide.2
        omega

theorem perm_executionOrder (plans : List ExecutionPlan) :
    (SettlementEngine.executionOrder (schedule plans)).Perm plans := by
  have grouped := perm_flatMap_filter (groupOf plans) plans (groupCount plans)
  rw [← executionOrder_schedule] at grouped
  refine grouped.trans (.of_eq ?_)
  apply List.filter_eq_self.2
  intro plan member
  exact decide_eq_true (groupOf_lt member)

theorem mem_of_mem_executionOrder {plans : List ExecutionPlan} {plan : ExecutionPlan}
    (member : plan ∈ SettlementEngine.executionOrder (schedule plans)) : plan ∈ plans :=
  (perm_executionOrder plans).mem_iff.1 member

end Groups

section Order

/-- Of two conflicting plans the one that comes first goes to a group of smaller index. -/
def OrderPreserved (plans : List ExecutionPlan) : Prop :=
  plans.Pairwise fun a b => conflicts a b → ∀ one ∈ schedule plans, ∀ other ∈ schedule plans,
    a ∈ one.plans → b ∈ other.plans → one.groupIndex < other.groupIndex

/-- With the plans levelled by the longest chain of conflicting plans that ends in them, every plan
conflicts with an earlier plan of each level below that of any earlier plan it conflicts with. -/
def Levelled (plans : List ExecutionPlan) : Prop :=
  FirstFit.Levelled (fun a b => conflicts a b) plans

instance (plans : List ExecutionPlan) : Decidable (Levelled plans) :=
  inferInstanceAs (Decidable (FirstFit.Levelled _ plans))

theorem ascending_iff {plans : List ExecutionPlan}
    (distinct : (plans.map ExecutionPlan.txId).Nodup) :
    plans.Pairwise (fun a b => conflicts a b → groupOf plans a < groupOf plans b) ↔ Levelled plans := by
  rw [Levelled, ← (FirstFit.ascending_iff_levelled _ plans).1, FirstFit.Ascending]
  change _ ↔ (labels plans).Pairwise _
  rw [labels_eq distinct, List.pairwise_map]
  simp only [conflicts_comm]

theorem orderPreserved_iff {plans : List ExecutionPlan}
    (distinct : (plans.map ExecutionPlan.txId).Nodup) : OrderPreserved plans ↔ Levelled plans := by
  rw [← ascending_iff distinct, OrderPreserved]
  refine List.Pairwise.iff_of_mem fun {a b} first second => ?_
  refine imp_congr_right fun _ => ?_
  have only {plan : ExecutionPlan} {group : ExecutionGroup} (listed : group ∈ schedule plans)
      (member : plan ∈ group.plans) : group.groupIndex = groupOf plans plan := by
    rw [schedule_eq] at listed
    obtain ⟨k, -, rfl⟩ := List.mem_map.1 listed
    simpa [eq_comm] using (List.mem_filter.1 member).2
  have some {plan : ExecutionPlan} (member : plan ∈ plans) :
      ∃ group ∈ schedule plans, plan ∈ group.plans := by
    rw [schedule_eq]
    exact ⟨_, List.mem_map_of_mem (List.mem_range.2 (groupOf_lt member)),
      List.mem_filter.2 ⟨member, by simp⟩⟩
  constructor
  · intro before
    obtain ⟨one, listed, inOne⟩ := some first
    obtain ⟨other, listed', inOther⟩ := some second
    have less := before one listed other listed' inOne inOther
    rwa [only listed inOne, only listed' inOther] at less
  · intro less one listed other listed' inOne inOther
    rwa [only listed inOne, only listed' inOther]

end Order

section Partition

/-- Every plan stands in one group, the groups are numbered in their order and keep the order of the
batch, plans of one group do not conflict, and the graph they were told apart by holds the conflicts. -/
structure Partitions (plans : List ExecutionPlan) (groups : List ExecutionGroup) : Prop where
  once : (groups.flatMap ExecutionGroup.plans).Perm plans
  ordered : ∀ group ∈ groups, group.plans.Sublist plans
  numbered : groups.map ExecutionGroup.groupIndex = List.range groups.length
  apart : ∀ group ∈ groups, group.plans.Pairwise fun a b => ¬ conflicts a b
  graph : ∀ x ∈ plans, ∀ y ∈ plans, x ≠ y →
    ((conflictGraph plans).conflictsWith x.txId y.txId ↔ conflicts x y)

theorem groupOf_ne_of_conflicts {plans : List ExecutionPlan}
    (distinct : (plans.map ExecutionPlan.txId).Nodup) :
    plans.Pairwise fun a b => conflicts a b → groupOf plans a ≠ groupOf plans b := by
  have apart := FirstFit.apart_label (fun a b => conflicts a b) plans
  change (labels plans).Pairwise _ at apart
  rw [labels_eq distinct, List.pairwise_map] at apart
  exact apart.imp fun differ clash => differ ((conflicts_comm _ _).1 clash)

theorem schedule_partitions (plans : List ExecutionPlan)
    (distinct : (plans.map ExecutionPlan.txId).Nodup) : Partitions plans (schedule plans) where
  once := by
    have grouped := perm_executionOrder plans
    rw [executionOrder_schedule] at grouped
    rwa [schedule_eq, List.flatMap_map]
  ordered := by
    intro group listed
    rw [schedule_eq] at listed
    obtain ⟨k, -, rfl⟩ := List.mem_map.1 listed
    exact List.filter_sublist
  numbered := by
    rw [schedule_eq, List.map_map, List.length_map, List.length_range]
    exact List.map_id _
  apart := by
    intro group listed
    rw [schedule_eq] at listed
    obtain ⟨k, -, rfl⟩ := List.mem_map.1 listed
    rw [List.pairwise_filter]
    apply (groupOf_ne_of_conflicts distinct).imp
    intro a b differ first second clash
    exact differ clash ((of_decide_eq_true first).trans (of_decide_eq_true second).symm)
  graph := fun _ first _ second differ => conflictsWith_iff distinct first second differ

def touching (txId : Bytes32) (access : List ObjectAccess) : ExecutionPlan where
  txId := txId
  operations := []
  requiredCapabilities := []
  objectAccess := access
  gasEstimate := 0
  gasLimit := 0

theorem schedule_partitions_readers_and_writer :
    Partitions [touching 1 [.read 7], touching 2 [.read 7, .write 7], touching 3 [.read 7]]
      (schedule [touching 1 [.read 7], touching 2 [.read 7, .write 7], touching 3 [.read 7]]) :=
  schedule_partitions _ (by decide)

end Partition

end ParallelScheduler

end Omniphi.Runtime
