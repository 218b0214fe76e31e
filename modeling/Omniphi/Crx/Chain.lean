import Omniphi.Crx.Builder

/-! The graph that assembly makes is a chain. Each node waits for the one before it, so the topological
order is the order of the plan's actions; a plan with more nodes than ids closes the chain to a cycle and
is turned down. -/

namespace Omniphi.Crx

open Omniphi.Runtime (PlanAction CandidatePlan RuntimeError)

def actionNodes (action : PlanAction) (nextId : NodeId) : List CausalNode :=
  match action.actionType with
  | .debitBalance =>
      let domainTag := action.metadata["domain_tag"]?
      [checkNode action "debit" domainTag nextId, mutateNode action "debit" domainTag (nextId + 1)]
  | .creditBalance => [mutateNode action "credit" none nextId]
  | .swapPoolAmounts =>
      [checkNode action "pool_reserves" none nextId,
        writeNode action "SwapPoolAmounts" .swapPoolAmounts (nextId + 1)]
  | .lockBalance => [writeNode action "LockObject" .lockObject nextId]
  | .unlockBalance => [writeNode action "UnlockObject" .unlockObject nextId]
  | .custom method =>
      if method = "update_version" then [finalizeNode action nextId]
      else match action.metadata["schema_id"]? with
        | some schemaHex => [contractNode action schemaHex method nextId]
        | none => [writeNode action "Custom" .emitReceipt nextId]

def planNodes : List PlanAction → NodeId → List CausalNode
  | [], _ => []
  | action :: rest, nextId =>
      actionNodes action nextId ++
        planNodes rest (nextId + BitVec.ofNat 32 (actionNodes action nextId).length)

structure Chain (made : List CausalNode) (nodes : BTreeMap NodeId CausalNode) (edges : List CausalEdge) :
    Prop where
  lookup : made.length ≤ 2 ^ 32 → ∀ id : NodeId, nodes[id]? = made[id.toNat]?
  filled : made ≠ [] → nodes ≠ ∅
  links : ∀ i, i + 1 < made.length → ∃ edge ∈ edges,
    edge.fromNode = BitVec.ofNat 32 i ∧ edge.toNode = BitVec.ofNat 32 (i + 1)
  forward : ∀ edge ∈ edges, ∃ i j, i < j ∧ j < made.length ∧
    edge.fromNode = BitVec.ofNat 32 i ∧ edge.toNode = BitVec.ofNat 32 j

structure Chained (made : List CausalNode) (assembly : Assembly) : Prop
    extends Chain made assembly.nodes assembly.edges where
  nextId : assembly.nextId = BitVec.ofNat 32 made.length
  first : made = [] → assembly.lastMutationNode = none
  last : ∀ i, made.length = i + 1 → assembly.lastMutationNode = some (BitVec.ofNat 32 i)
  mutations : ∀ id ∈ assembly.allMutationNodes, ∃ i, i < made.length ∧ id = BitVec.ofNat 32 i
  lastListed : ∀ i, made.length = i + 1 → BitVec.ofNat 32 i ∈ assembly.allMutationNodes

namespace Chained

variable {made : List CausalNode} {assembly : Assembly}

theorem start : Chained [] Assembly.start := by
  constructor
  · constructor
    · intro _ id
      rw [List.getElem?_nil]
      exact Std.ExtTreeMap.getElem?_empty
    · intro some
      exact absurd rfl some
    · intro i short
      cases short
    · intro edge listed
      cases listed
  · rfl
  · intro _
    rfl
  · intro i length
    cases length
  · intro id listed
    cases listed
  · intro i length
    cases length

theorem insert_node (chained : Chained made assembly) (node : CausalNode)
    (fits : (made ++ [node]).length ≤ 2 ^ 32) (id : NodeId) :
    (assembly.nodes.insert assembly.nextId node)[id]? = (made ++ [node])[id.toNat]? := by
  rw [List.length_append, List.length_singleton] at fits
  have here : (BitVec.ofNat 32 made.length).toNat = made.length := by
    rw [BitVec.toNat_ofNat, Nat.mod_eq_of_lt fits]
  rw [BTree.getElem?_insert, chained.nextId, chained.lookup (by omega), List.getElem?_append]
  by_cases same : BitVec.ofNat 32 made.length = id
  · subst same
    rw [if_pos rfl, here, if_neg (Nat.lt_irrefl _), Nat.sub_self]
    rfl
  · have differ : id.toNat ≠ made.length := by
      intro equal
      exact same (BitVec.eq_of_toNat_eq (here.trans equal.symm))
    rw [if_neg same]
    split
    · rfl
    · rw [List.getElem?_eq_none (by omega), List.getElem?_eq_none (by simp; omega)]

theorem follow (chained : Chained made assembly) (kind : NodeDependencyKind) (critical : Bool) :
    (∀ i, i + 1 = made.length → ∃ edge ∈ assembly.follow assembly.nextId kind critical,
      edge.fromNode = BitVec.ofNat 32 i ∧ edge.toNode = BitVec.ofNat 32 (i + 1)) ∧
    ∀ edge ∈ assembly.follow assembly.nextId kind critical, ∃ i, i + 1 = made.length ∧
      edge.fromNode = BitVec.ofNat 32 i ∧ edge.toNode = BitVec.ofNat 32 (i + 1) := by
  cases length : made.length with
  | zero =>
      have none := chained.first (List.length_eq_zero_iff.1 length)
      rw [Assembly.follow, none]
      constructor
      · intro i short
        cases short
      · intro edge listed
        cases listed
  | succ n =>
      rw [Assembly.follow, chained.last n length, chained.nextId, length]
      constructor
      · intro i same
        obtain rfl := Nat.succ.inj same
        exact ⟨_, List.mem_singleton.2 rfl, rfl, rfl⟩
      · intro edge listed
        obtain rfl := List.mem_singleton.1 listed
        exact ⟨n, rfl, rfl, rfl⟩

theorem push (chained : Chained made assembly) (node : NodeId → CausalNode) (kind : NodeDependencyKind)
    (critical : Bool) :
    Chained (made ++ [node assembly.nextId]) (assembly.pushMutation node kind critical) := by
  obtain ⟨joins, joined⟩ := chained.follow kind critical
  have length : (made ++ [node assembly.nextId]).length = made.length + 1 := by
    rw [List.length_append, List.length_singleton]
  constructor
  · constructor
    · exact chained.insert_node (node assembly.nextId)
    · intro _
      exact Std.ExtTreeMap.insert_ne_empty
    · intro i inside
      rw [length] at inside
      rcases Nat.lt_or_eq_of_le (Nat.le_of_lt_succ inside) with before | last
      · obtain ⟨edge, listed, ends⟩ := chained.links i before
        exact ⟨edge, List.mem_append_left _ listed, ends⟩
      · obtain ⟨edge, listed, ends⟩ := joins i last
        exact ⟨edge, List.mem_append_right _ listed, ends⟩
    · intro edge listed
      rw [length]
      rcases List.mem_append.1 listed with before | new
      · obtain ⟨i, j, less, inside, ends⟩ := chained.forward edge before
        exact ⟨i, j, less, Nat.lt_succ_of_lt inside, ends⟩
      · obtain ⟨i, last, ends⟩ := joined edge new
        exact ⟨i, i + 1, Nat.lt_succ_self i, by omega, ends⟩
  · show assembly.nextId + 1 = _
    rw [length, BitVec.ofNat_add, chained.nextId]
    rfl
  · intro empty
    cases List.append_eq_nil_iff.1 empty |>.2
  · intro i last
    rw [length, Nat.add_right_cancel_iff] at last
    show some assembly.nextId = _
    rw [chained.nextId, last]
  · intro id listed
    rw [length]
    rcases List.mem_append.1 listed with before | new
    · obtain ⟨i, inside, same⟩ := chained.mutations id before
      exact ⟨i, Nat.lt_succ_of_lt inside, same⟩
    · exact ⟨made.length, Nat.lt_succ_self _, (List.mem_singleton.1 new).trans chained.nextId⟩
  · intro i last
    rw [length, Nat.add_right_cancel_iff] at last
    apply List.mem_append_right
    rw [List.mem_singleton, chained.nextId, last]

theorem pushChecked (chained : Chained made assembly) (check mutate : NodeId → CausalNode)
    (kind : NodeDependencyKind) :
    Chained (made ++ [check assembly.nextId, mutate (assembly.nextId + 1)])
      (assembly.pushChecked check mutate kind) := by
  have twice := (chained.push check .orderingOnly false).push mutate kind true
  rw [List.append_assoc, List.singleton_append] at twice
  have edges : ∀ edge, edge ∈ (assembly.pushChecked check mutate kind).edges ↔
      edge ∈ ((assembly.pushMutation check .orderingOnly false).pushMutation mutate kind true).edges := by
    intro edge
    simp only [Assembly.pushChecked, Assembly.pushMutation, Assembly.follow, List.mem_append, List.mem_cons,
      Option.toList_some, List.map_cons, List.map_nil, List.not_mem_nil, or_false]
    rw [or_comm (a := edge = _), or_assoc]
  constructor
  · constructor
    · exact twice.lookup
    · exact twice.filled
    · intro i inside
      obtain ⟨edge, listed, ends⟩ := twice.links i inside
      exact ⟨edge, (edges edge).2 listed, ends⟩
    · intro edge listed
      exact twice.forward edge ((edges edge).1 listed)
  · exact twice.nextId
  · intro empty
    cases List.append_eq_nil_iff.1 empty |>.2
  · exact twice.last
  · intro id listed
    apply twice.mutations
    rcases List.mem_append.1 listed with before | new
    · exact List.mem_append_left _ (List.mem_append_left _ before)
    · exact List.mem_append_right _ new
  · intro i last
    have same := (twice.last i last).symm
    apply List.mem_append_right
    rw [List.mem_singleton]
    exact Option.some.inj same

theorem addAction (chained : Chained made assembly) (action : PlanAction) :
    Chained (made ++ actionNodes action assembly.nextId) (assembly.addAction action) := by
  cases kind : action.actionType with
  | debitBalance =>
      simp only [actionNodes, Assembly.addAction, kind]
      exact chained.pushChecked _ _ _
  | swapPoolAmounts =>
      simp only [actionNodes, Assembly.addAction, kind]
      exact chained.pushChecked _ _ _
  | creditBalance | lockBalance | unlockBalance =>
      simp only [actionNodes, Assembly.addAction, kind]
      exact chained.push _ _ _
  | custom method =>
      simp only [actionNodes, Assembly.addAction, kind]
      split
      · exact chained.push _ _ _
      · cases action.metadata["schema_id"]? with
        | none => exact chained.push _ _ _
        | some schemaHex => exact chained.push _ _ _

theorem foldl (chained : Chained made assembly) (actions : List PlanAction) :
    Chained (made ++ planNodes actions assembly.nextId) (actions.foldl Assembly.addAction assembly) := by
  induction actions generalizing made assembly with
  | nil =>
      rw [planNodes, List.append_nil]
      exact chained
  | cons action rest ih =>
      have later := ih (chained.addAction action)
      have next : (assembly.addAction action).nextId =
          assembly.nextId + BitVec.ofNat 32 (actionNodes action assembly.nextId).length := by
        rw [(chained.addAction action).nextId, List.length_append, BitVec.ofNat_add, chained.nextId]
      rw [next, List.append_assoc] at later
      exact later

theorem addRoot (chained : Chained made assembly) :
    ∃ root, (root = [] ∨ root = [rootNode assembly.nextId]) ∧
      Chain (made ++ root) assembly.addRoot.nodes assembly.addRoot.edges := by
  unfold Assembly.addRoot
  split
  · refine ⟨[rootNode assembly.nextId], Or.inr rfl, ?_⟩
    have length : (made ++ [rootNode assembly.nextId]).length = made.length + 1 := by
      rw [List.length_append, List.length_singleton]
    constructor
    · exact chained.insert_node (rootNode assembly.nextId)
    · intro _
      exact Std.ExtTreeMap.insert_ne_empty
    · intro i inside
      rw [length] at inside
      rcases Nat.lt_or_eq_of_le (Nat.le_of_lt_succ inside) with before | last
      · obtain ⟨edge, listed, ends⟩ := chained.links i before
        exact ⟨edge, List.mem_append_left _ listed, ends⟩
      · refine ⟨_, List.mem_append_right _ (List.mem_map.2 ⟨_, chained.lastListed i last.symm, rfl⟩), rfl, ?_⟩
        show assembly.nextId = _
        rw [chained.nextId, last]
    · intro edge listed
      rw [length]
      rcases List.mem_append.1 listed with before | new
      · obtain ⟨i, j, less, inside, ends⟩ := chained.forward edge before
        exact ⟨i, j, less, Nat.lt_succ_of_lt inside, ends⟩
      · obtain ⟨mutation, source, rfl⟩ := List.mem_map.1 new
        obtain ⟨i, inside, rfl⟩ := chained.mutations mutation source
        exact ⟨i, made.length, inside, Nat.lt_succ_self _, rfl, chained.nextId⟩
  · refine ⟨[], Or.inl rfl, ?_⟩
    rw [List.append_nil]
    exact chained.toChain

end Chained

theorem assembly_chain (plan : CandidatePlan) :
    ∃ root id, (root = [] ∨ root = [rootNode id]) ∧ Chain (planNodes plan.actions 0 ++ root)
      (GraphAssembler.assembly plan).nodes (GraphAssembler.assembly plan).edges := by
  have chained := Chained.start.foldl plan.actions
  obtain ⟨root, shape, chain⟩ := chained.addRoot
  exact ⟨root, _, shape, chain⟩

namespace Chain

variable {made : List CausalNode} {nodes : BTreeMap NodeId CausalNode} {edges : List CausalEdge}

theorem ofNat_inj {i j : Nat} (small : i < 2 ^ 32) (small' : j < 2 ^ 32)
    (same : BitVec.ofNat 32 i = BitVec.ofNat 32 j) : i = j := by
  have same := congrArg BitVec.toNat same
  rwa [BitVec.toNat_ofNat, BitVec.toNat_ofNat, Nat.mod_eq_of_lt small, Nat.mod_eq_of_lt small'] at same

def line (n : Nat) : List NodeId := (List.range n).map (BitVec.ofNat 32)

theorem mem_line {n i : Nat} (fits : n ≤ 2 ^ 32) (small : i < 2 ^ 32) :
    BitVec.ofNat 32 i ∈ line n ↔ i < n := by
  rw [line, List.mem_map]
  constructor
  · rintro ⟨j, listed, same⟩
    have inside := List.mem_range.1 listed
    rw [← ofNat_inj (by omega) small same]
    exact inside
  · intro inside
    exact ⟨i, List.mem_range.2 inside, rfl⟩

theorem nodup_line {n : Nat} (fits : n ≤ 2 ^ 32) : (line n).Nodup := by
  apply List.Nodup.map_on _ List.nodup_range
  intro i inside j inside' same
  rw [List.mem_range] at inside inside'
  exact ofNat_inj (by omega) (by omega) same

theorem line_split {n : Nat} {done rest : List NodeId} {node : NodeId}
    (split : line n = done ++ node :: rest) :
    done = line done.length ∧ node = BitVec.ofNat 32 done.length ∧ done.length < n := by
  have short : done.length < n := by
    have length := congrArg List.length split
    rw [line, List.length_map, List.length_range, List.length_append, List.length_cons] at length
    omega
  have taken : done = (line n).take done.length := by
    rw [split, List.take_left]
  have here : (line n)[done.length]? = some node := by
    rw [split, List.getElem?_append_right (Nat.le_refl _), Nat.sub_self]
    rfl
  refine ⟨?_, ?_, short⟩
  · rw [line, ← List.map_take, List.take_range, Nat.min_eq_left short.le] at taken
    exact taken
  · rw [line, List.getElem?_map, List.getElem?_range short] at here
    exact (Option.some.inj here).symm

theorem forced (chain : Chain made nodes edges) (fits : made.length ≤ 2 ^ 32) :
    Kahn.Forced (edges.map fun edge => (edge.fromNode, edge.toNode)) (line made.length) := by
  constructor
  · exact nodup_line fits
  · intro done node rest split edge listed target
    obtain ⟨before, here, short⟩ := line_split split
    obtain ⟨edge, present, rfl⟩ := List.mem_map.1 listed
    obtain ⟨i, j, less, inside, source, reached⟩ := chain.forward edge present
    have same : j = done.length := ofNat_inj (by omega) (by omega) (reached.symm.trans (target.trans here))
    rw [before]
    show edge.fromNode ∈ _
    rw [source, mem_line (by omega) (by omega)]
    omega
  · intro done node rest split other later
    obtain ⟨before, here, short⟩ := line_split split
    have distinct := nodup_line fits
    rw [split, List.nodup_append, List.nodup_cons] at distinct
    have listed : other ∈ line made.length := by
      rw [split]
      exact List.mem_append_right _ (List.mem_cons_of_mem _ later)
    obtain ⟨j, inside, rfl⟩ := List.mem_map.1 listed
    rw [List.mem_range] at inside
    have unseen : ¬j < done.length := by
      intro smaller
      have seen : BitVec.ofNat 32 j ∈ done := by
        rw [before, mem_line (by omega) (by omega)]
        exact smaller
      exact distinct.2.2 _ seen _ (List.mem_cons_of_mem _ later) rfl
    have apart : j ≠ done.length := by
      intro same
      rw [same, ← here] at later
      exact distinct.2.1.1 later
    obtain ⟨edge, present, source, target⟩ := chain.links (j - 1) (by omega)
    rw [Nat.sub_add_cancel (by omega)] at target
    refine ⟨_, List.mem_map.2 ⟨edge, present, rfl⟩, target, ?_⟩
    show edge.fromNode ∉ done
    rw [before, source, mem_line (by omega) (by omega)]
    omega

theorem known (chain : Chain made nodes edges) (fits : made.length ≤ 2 ^ 32) (node : NodeId) :
    node ∈ Kahn.inDegree nodes.keys (edges.map fun edge => (edge.fromNode, edge.toNode)) ↔
      node ∈ line made.length := by
  have small : node.toNat < 2 ^ 32 := node.isLt
  have same : BitVec.ofNat 32 node.toNat = node := BitVec.ofNat_toNat 32 node
  rw [Kahn.mem_inDegree, List.mem_append, ← same, mem_line fits small, same]
  constructor
  · rintro (key | target)
    · rw [Std.ExtTreeMap.mem_keys, Std.ExtTreeMap.mem_iff_isSome_getElem?, chain.lookup fits] at key
      obtain ⟨_, found⟩ := Option.isSome_iff_exists.1 key
      exact (List.getElem?_eq_some_iff.1 found).1
    · obtain ⟨pair, listed, rfl⟩ := List.mem_map.1 target
      obtain ⟨edge, present, rfl⟩ := List.mem_map.1 listed
      obtain ⟨i, j, -, inside, -, reached⟩ := chain.forward edge present
      show edge.toNode.toNat < _
      rw [reached, BitVec.toNat_ofNat, Nat.mod_eq_of_lt (by omega)]
      exact inside
  · intro inside
    left
    rw [Std.ExtTreeMap.mem_keys, Std.ExtTreeMap.mem_iff_isSome_getElem?, chain.lookup fits,
      List.getElem?_eq_getElem inside]
    rfl

theorem order_eq (chain : Chain made nodes edges) (fits : made.length ≤ 2 ^ 32) :
    CausalGraph.computeTopologicalOrder nodes edges = line made.length :=
  Kahn.order_eq_of_forced (chain.forced fits) (chain.known fits)

theorem order_eq_nil (chain : Chain made nodes edges) (wraps : 2 ^ 32 < made.length) :
    CausalGraph.computeTopologicalOrder nodes edges = [] := by
  apply Kahn.order_eq_nil
  intro node _
  have linked : ∀ i, i + 1 < made.length → BitVec.ofNat 32 (i + 1) = node →
      ∃ edge ∈ edges.map fun edge => (edge.fromNode, edge.toNode), edge.2 = node := by
    intro i inside same
    obtain ⟨edge, present, -, target⟩ := chain.links i inside
    exact ⟨_, List.mem_map.2 ⟨edge, present, rfl⟩, target.trans same⟩
  have small : node.toNat < 2 ^ 32 := node.isLt
  by_cases zero : node.toNat = 0
  · apply linked (2 ^ 32 - 1) (by omega)
    apply BitVec.eq_of_toNat_eq
    rw [zero]
    rfl
  · apply linked (node.toNat - 1) (by omega)
    rw [Nat.sub_add_cancel (by omega), BitVec.ofNat_toNat, BitVec.setWidth_eq]

theorem filterMap_range_getElem? {α : Type} (values : List α) :
    ((List.range values.length).filterMap fun i => values[i]?) = values := by
  induction values using List.reverseRecOn with
  | nil => rfl
  | append_singleton values last ih =>
      have before : ∀ i ∈ List.range values.length, (values ++ [last])[i]? = values[i]? := by
        intro i listed
        exact List.getElem?_append_left (List.mem_range.1 listed)
      rw [List.length_append, List.length_singleton, List.range_succ, List.filterMap_append,
        List.filterMap_congr before, ih, List.filterMap_cons, List.filterMap_nil,
        List.getElem?_append_right (Nat.le_refl _), Nat.sub_self]
      rfl

theorem filterMap_line (chain : Chain made nodes edges) (fits : made.length ≤ 2 ^ 32) :
    ((line made.length).filterMap fun id => nodes[id]?) = made := by
  rw [line, List.filterMap_map]
  have lookup : ∀ i ∈ List.range made.length,
      ((fun id => nodes[id]?) ∘ BitVec.ofNat 32) i = made[i]? := by
    intro i listed
    rw [List.mem_range] at listed
    rw [Function.comp_apply, chain.lookup fits, BitVec.toNat_ofNat, Nat.mod_eq_of_lt (by omega)]
  rw [List.filterMap_congr lookup]
  exact filterMap_range_getElem? made

end Chain

end Omniphi.Crx
