import Omniphi.Crx.Graph
import Omniphi.Lib.KahnOrder

/-! The topological order of a causal graph, and what the check of its length tells. -/

namespace Omniphi.Crx.CausalGraph

def dependencies (edges : List CausalEdge) : List (NodeId × NodeId) :=
  edges.map fun edge => (edge.fromNode, edge.toNode)

def insertAll (entries : List (NodeId × CausalNode)) : BTreeMap NodeId CausalNode :=
  entries.foldl (fun nodes entry => nodes.insert entry.1 entry.2) ∅

variable (graph : CausalGraph)

def Acyclic : Prop := Kahn.Acyclic (dependencies graph.edges)

def order : List NodeId := computeTopologicalOrder graph.nodes graph.edges

/-- An accepted graph is acyclic, and its order lists the nodes, each after those it depends on. -/
structure OrdersDependencies : Prop where
  accepted : graph.validateAcyclic = .ok () ↔ graph.Acyclic
  perm : graph.validateAcyclic = .ok () → graph.order.Perm graph.nodes.keys
  after : graph.validateAcyclic = .ok () → Kahn.Ordered (dependencies graph.edges) graph.order

def Grounded (id : NodeId) : Prop := Kahn.Grounded graph.nodes.keys (dependencies graph.edges) id

/-- In an acyclic graph the grounded ids are the nodes; in any other there are not as many of them as nodes. -/
structure Settled : Prop where
  nodes : graph.Acyclic → ∀ id, graph.Grounded id ↔ id ∈ graph.nodes
  count : ¬ graph.Acyclic → {id | graph.Grounded id}.ncard ≠ graph.nodes.size

def Closed : Prop := ∀ edge ∈ graph.edges, edge.fromNode ∈ graph.nodes ∧ edge.toNode ∈ graph.nodes

variable {graph}

theorem mem_order {id : NodeId} : id ∈ graph.order ↔ graph.Grounded id := Kahn.mem_order_iff

theorem nodup_order : graph.order.Nodup := Kahn.nodup_order _ _

theorem nodup_keys : graph.nodes.keys.Nodup :=
  Std.ExtTreeMap.distinct_keys.imp fun differ same => differ (Std.LawfulEqCmp.compare_eq_iff_eq.2 same)

theorem validateAcyclic_iff : graph.validateAcyclic = .ok () ↔ graph.order.length = graph.nodes.size := by
  unfold validateAcyclic order
  split
  · rename_i differ
    exact ⟨fun accepted => (by cases accepted), fun same => absurd same differ⟩
  · rename_i same
    exact ⟨fun _ => not_not.1 same, fun _ => rfl⟩

theorem length_order : graph.order.length = {id | graph.Grounded id}.ncard := by
  have listed : {id | graph.Grounded id} = ↑graph.order.toFinset := by
    ext id
    simp [mem_order]
  rw [listed, Set.ncard_coe_finset, List.toFinset_card_of_nodup nodup_order]

theorem ordersDependencies_iff : graph.OrdersDependencies ↔ graph.Settled := by
  have ordered : Kahn.Ordered (dependencies graph.edges) graph.order := Kahn.ordered_order _ _
  constructor
  · intro orders
    constructor
    · intro acyclic id
      rw [← mem_order, (orders.perm (orders.accepted.2 acyclic)).mem_iff, Std.ExtTreeMap.mem_keys]
    · intro cyclic same
      exact cyclic (orders.accepted.1 (validateAcyclic_iff.2 (length_order.trans same)))
  · intro settled
    by_cases acyclic : graph.Acyclic
    · have perm : graph.order.Perm graph.nodes.keys := by
        rw [List.perm_ext_iff_of_nodup nodup_order nodup_keys]
        intro id
        rw [mem_order, settled.nodes acyclic, Std.ExtTreeMap.mem_keys]
      have accepted : graph.validateAcyclic = .ok () := by
        rw [validateAcyclic_iff, perm.length_eq, Std.ExtTreeMap.length_keys]
      exact ⟨⟨fun _ => acyclic, fun _ => accepted⟩, fun _ => perm, fun _ => ordered⟩
    · have refused : ¬ graph.validateAcyclic = .ok () := by
        rw [validateAcyclic_iff, length_order]
        exact settled.count acyclic
      exact ⟨⟨fun accepted => absurd accepted refused, fun no => absurd no acyclic⟩,
        fun accepted => absurd accepted refused, fun accepted => absurd accepted refused⟩

theorem Closed.known (closed : graph.Closed) {id : NodeId}
    (known : id ∈ graph.nodes.keys ++ (dependencies graph.edges).map Prod.snd) : id ∈ graph.nodes := by
  rcases List.mem_append.1 known with node | target
  · exact Std.ExtTreeMap.mem_keys.1 node
  · obtain ⟨dependency, listed, rfl⟩ := List.mem_map.1 target
    obtain ⟨edge, present, rfl⟩ := List.mem_map.1 listed
    exact (closed edge present).2

theorem Closed.grounded (closed : graph.Closed) {id : NodeId} (grounded : graph.Grounded id) : id ∈ graph.nodes := by
  cases grounded with
  | intro known _ => exact closed.known known

theorem Closed.settled (closed : graph.Closed) : graph.Settled := by
  constructor
  · intro acyclic id
    refine ⟨closed.grounded, fun node => ?_⟩
    apply Kahn.grounded_of_acyclic acyclic
    · intro dependency listed
      obtain ⟨edge, present, rfl⟩ := List.mem_map.1 listed
      exact List.mem_append_left _ (Std.ExtTreeMap.mem_keys.2 (closed edge present).1)
    · exact List.mem_append_left _ (Std.ExtTreeMap.mem_keys.2 node)
  · intro cyclic same
    -- As many grounded ids as nodes are all the nodes, and then nothing waits for a cycle.
    have perm : graph.order.Perm graph.nodes.keys := by
      apply (nodup_order.subperm _).perm_of_length_le
      · rw [length_order, same, Std.ExtTreeMap.length_keys]
      · intro id listed
        exact Std.ExtTreeMap.mem_keys.2 (closed.grounded (mem_order.1 listed))
    apply cyclic
    apply Kahn.acyclic_of_grounded
    intro dependency listed
    obtain ⟨edge, present, rfl⟩ := List.mem_map.1 listed
    exact mem_order.1 (perm.mem_iff.2 (Std.ExtTreeMap.mem_keys.2 (closed edge present).2))

theorem mem_insertAll {entries : List (NodeId × CausalNode)} {id : NodeId} :
    id ∈ insertAll entries ↔ id ∈ entries.map Prod.fst := by
  suffices all : ∀ nodes : BTreeMap NodeId CausalNode,
      id ∈ entries.foldl (fun nodes entry => nodes.insert entry.1 entry.2) nodes ↔
        id ∈ nodes ∨ id ∈ entries.map Prod.fst by
    simpa [insertAll] using all ∅
  intro nodes
  induction entries generalizing nodes with
  | nil => simp
  | cons entry entries ih =>
      rw [List.foldl_cons, ih, Std.ExtTreeMap.mem_insert, Std.LawfulEqCmp.compare_eq_iff_eq, List.map_cons,
        List.mem_cons, or_comm (a := entry.1 = id), or_assoc, eq_comm]

theorem order_insertAll {entries entries' : List (NodeId × CausalNode)} {edges edges' : List CausalEdge}
    (sameNodes : entries.Perm entries') (sameEdges : edges.Perm edges') :
    computeTopologicalOrder (insertAll entries) edges = computeTopologicalOrder (insertAll entries') edges' := by
  apply Kahn.order_congr _ (sameEdges.map _)
  intro id
  rw [Std.ExtTreeMap.mem_keys, Std.ExtTreeMap.mem_keys, mem_insertAll, mem_insertAll,
    (sameNodes.map Prod.fst).mem_iff]

/-- The order and its check tell the acyclic graphs apart exactly where missing nodes do not upset the count,
as where every edge runs between nodes. The order in which nodes and edges come in never matters. -/
theorem topological_order_iff (graph : CausalGraph) :
    (graph.OrdersDependencies ↔ graph.Settled) ∧ (graph.Closed → graph.Settled) ∧
    ∀ (entries entries' : List (NodeId × CausalNode)) (edges edges' : List CausalEdge),
      entries.Perm entries' → edges.Perm edges' →
      computeTopologicalOrder (insertAll entries) edges = computeTopologicalOrder (insertAll entries') edges' :=
  ⟨ordersDependencies_iff, Closed.settled, fun _ _ _ _ => order_insertAll⟩

section Examples

def plainNode (id : NodeId) : NodeId × CausalNode :=
  (id, { nodeId := id, label := "node", executionClass := .readObject, accessType := .read, targetObject := none
         amount := none, branchId := 0, domainTag := none, metadata := ∅ })

def link (source target : NodeId) : CausalEdge := ⟨source, target, .stateDependent, true⟩

def hiddenCycle : CausalGraph where
  graphId := 0
  goalPacketId := 0
  nodes := insertAll [plainNode 1, plainNode 2, plainNode 3]
  edges := [link 1 2, link 2 1, link 3 7, link 3 8]
  branches := []
  topologicalOrder := []
  graphHash := 0

theorem hidden_cycle_accepted : hiddenCycle.validateAcyclic = .ok () ∧ ¬ hiddenCycle.Acyclic ∧
    ¬ hiddenCycle.OrdersDependencies := by
  have accepted : hiddenCycle.validateAcyclic = .ok () := validateAcyclic_iff.2 (by decide +kernel)
  have cyclic : ¬ hiddenCycle.Acyclic := by
    intro acyclic
    apply acyclic 1
    exact Relation.TransGen.tail (.single (show (1, 2) ∈ dependencies hiddenCycle.edges by decide))
      (show (2, 1) ∈ dependencies hiddenCycle.edges by decide)
  exact ⟨accepted, cyclic, fun orders => cyclic (orders.accepted.1 accepted)⟩

end Examples

end Omniphi.Crx.CausalGraph
