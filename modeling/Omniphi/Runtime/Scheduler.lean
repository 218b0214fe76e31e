import Omniphi.Runtime.Plan

/-! The parallel scheduler: a conflict graph over the plans of a batch, and first-fit grouping of the
plans in canonical order. -/

namespace Omniphi.Runtime

structure ConflictGraph where
  adjacency : BTreeMap Bytes32 (BTreeSet Bytes32)

namespace ConflictGraph

def new : ConflictGraph := ⟨∅⟩

def addEdge (graph : ConflictGraph) (a b : Bytes32) : ConflictGraph :=
  ⟨graph.adjacency.insert a ((graph.adjacency[a]?.getD ∅).insert b)⟩

def addConflict (graph : ConflictGraph) (a b : Bytes32) : ConflictGraph :=
  (graph.addEdge a b).addEdge b a

def conflictsWith (graph : ConflictGraph) (txId other : Bytes32) : Bool :=
  match graph.adjacency[txId]? with
  | some neighbours => neighbours.contains other
  | none => false

end ConflictGraph

structure ExecutionGroup where
  plans : List ExecutionPlan
  groupIndex : Nat

namespace ParallelScheduler

/-- For each object the plans that declare it, with the mode, in canonical order. A plan stands here
for its index in the source. -/
def objectPlans (plans : List ExecutionPlan) :
    BTreeMap ObjectId (List (ExecutionPlan × AccessMode)) :=
  plans.foldl (fun index plan => plan.objectAccess.foldl (fun index access =>
    index.insert access.objectId ((index[access.objectId]?.getD []) ++ [(plan, access.mode)])) index) ∅

def addPairs (graph : ConflictGraph) : List (ExecutionPlan × AccessMode) → ConflictGraph
  | [] => graph
  | (plan, mode) :: refs =>
      addPairs (refs.foldl (fun graph other =>
        if mode = .readWrite ∨ other.2 = .readWrite then graph.addConflict plan.txId other.1.txId
        else graph) graph) refs

def conflictGraph (plans : List ExecutionPlan) : ConflictGraph :=
  (objectPlans plans).toList.foldl (fun graph entry => addPairs graph entry.2) .new

/-- Put the plan into the first group none of whose members conflicts with it, or into a new one;
returns the group's index as well. -/
def place (graph : ConflictGraph) (txId : Bytes32) : List (List Bytes32) → List (List Bytes32) × Nat
  | [] => ([[txId]], 0)
  | members :: groups =>
      if members.any fun member => graph.conflictsWith txId member then
        let (groups, index) := place graph txId groups
        (members :: groups, index + 1)
      else ((members ++ [txId]) :: groups, 0)

structure Assignment where
  groups : List (List Bytes32)
  planToGroup : BTreeMap Bytes32 Nat

def assign (graph : ConflictGraph) (assignment : Assignment) (plan : ExecutionPlan) : Assignment :=
  let (groups, index) := place graph plan.txId assignment.groups
  { groups, planToGroup := assignment.planToGroup.insert plan.txId index }

def assignAll (plans : List ExecutionPlan) : Assignment :=
  plans.foldl (assign (conflictGraph plans)) { groups := [], planToGroup := ∅ }

def schedule (plans : List ExecutionPlan) : List ExecutionGroup :=
  let assignment := assignAll plans
  let groups := plans.foldl (fun groups plan =>
    groups.modify (assignment.planToGroup[plan.txId]?.getD 0) (· ++ [plan]))
    (List.replicate assignment.groups.length ([] : List ExecutionPlan))
  groups.zipIdx.map fun group => { plans := group.1, groupIndex := group.2 }

def declared (plan : ExecutionPlan) (mode : AccessMode) : List ObjectId :=
  (plan.objectAccess.filter fun access => access.mode = mode).map ObjectAccess.objectId

def intersects (a b : List ObjectId) : Bool := a.any fun id => b.contains id

def conflicts (a b : ExecutionPlan) : Bool :=
  let writeWrite := intersects (declared a .readWrite) (declared b .readWrite)
  let writeRead := intersects (declared a .readWrite) (declared b .readOnly)
  let readWrite := intersects (declared b .readWrite) (declared a .readOnly)
  writeWrite || writeRead || readWrite

end ParallelScheduler

end Omniphi.Runtime
