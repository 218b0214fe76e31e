import Omniphi.Lib.BTree

/-! Kahn's topological sort over ordered maps. Of the nodes without open dependencies the smallest
comes next, so that the order is the same on every machine. -/

namespace Kahn

variable {κ : Type} [Ord κ] [Std.TransOrd κ] [Std.LawfulEqOrd κ] [DecidableEq κ]

def inDegree (ids : List κ) (edges : List (κ × κ)) : BTreeMap κ Nat :=
  edges.foldl (fun degree edge => degree.insert edge.2 (degree[edge.2]?.getD 0 + 1))
    (ids.foldl (fun degree id => degree.insert id 0) ∅)

def neighbours (edges : List (κ × κ)) (node : κ) : List κ :=
  ((edges.filter fun edge => edge.1 = node).map Prod.snd).insertionSort fun a b => (compare a b).isLE = true

/-- One dependency of a node is met. -/
def release (opened : BTreeMap κ Nat × BTreeSet κ) (node : κ) : BTreeMap κ Nat × BTreeSet κ :=
  let degree := opened.1[node]?.getD 0 - 1
  (opened.1.insert node degree, if degree = 0 then opened.2.insert node else opened.2)

def loop (edges : List (κ × κ)) : Nat → BTreeMap κ Nat → BTreeSet κ → List κ → List κ
  | 0, _, _, result => result
  | fuel + 1, degree, queue, result =>
      match queue.toList.head? with
      | none => result
      | some node =>
          let next := (neighbours edges node).foldl release (degree, queue.erase node)
          loop edges fuel next.1 next.2 (result ++ [node])

def ready (degree : BTreeMap κ Nat) : BTreeSet κ :=
  Std.ExtTreeSet.ofList ((degree.toList.filter fun entry => entry.2 = 0).map Prod.fst) compare

/-- Every id leaves the queue at most once, so the loop is over after as many rounds as there are ids. -/
def order (ids : List κ) (edges : List (κ × κ)) : List κ :=
  let degree := inDegree ids edges
  loop edges degree.size degree (ready degree) []

variable {ids : List κ} {edges : List (κ × κ)} {degree : BTreeMap κ Nat} {queue : BTreeSet κ}
  {result : List κ}

/-- The open dependencies of a node, when those on `result` are met. -/
def openEdges (edges : List (κ × κ)) (result : List κ) (node : κ) : Nat :=
  edges.countP fun edge => edge.2 = node ∧ edge.1 ∉ result

/-! The map of degrees. -/

theorem getD_foldl_zero (ids : List κ) (degree : BTreeMap κ Nat) (zero : ∀ node : κ, degree[node]?.getD 0 = 0)
    (node : κ) : (ids.foldl (fun degree id => degree.insert id 0) degree)[node]?.getD 0 = 0 := by
  induction ids generalizing degree with
  | nil => exact zero node
  | cons id ids ih =>
      apply ih
      intro other
      rw [BTree.getElem?_insert]
      split
      · rfl
      · exact zero other

theorem getD_foldl_count (edges : List (κ × κ)) (degree : BTreeMap κ Nat) (node : κ) :
    (edges.foldl (fun degree edge => degree.insert edge.2 (degree[edge.2]?.getD 0 + 1)) degree)[node]?.getD 0 =
      degree[node]?.getD 0 + edges.countP fun edge => edge.2 = node := by
  induction edges generalizing degree with
  | nil => rfl
  | cons edge edges ih =>
      rw [List.foldl_cons, ih, BTree.getElem?_insert, List.countP_cons]
      by_cases same : edge.2 = node
      · simp [same]
        omega
      · simp [same]

omit [DecidableEq κ] in
theorem mem_foldl_insert {α : Type} (entries : List α) (key : α → κ) (value : BTreeMap κ Nat → α → Nat)
    (degree : BTreeMap κ Nat) (node : κ) :
    node ∈ entries.foldl (fun degree entry => degree.insert (key entry) (value degree entry)) degree ↔
      node ∈ degree ∨ node ∈ entries.map key := by
  induction entries generalizing degree with
  | nil => simp
  | cons entry entries ih =>
      rw [List.foldl_cons, ih, Std.ExtTreeMap.mem_insert, Std.LawfulEqCmp.compare_eq_iff_eq,
        List.map_cons, List.mem_cons, or_comm (a := key entry = node), or_assoc, eq_comm]

theorem getD_inDegree (node : κ) : (inDegree ids edges)[node]?.getD 0 = openEdges edges [] node := by
  rw [inDegree, getD_foldl_count, getD_foldl_zero ids ∅ (by simp), Nat.zero_add]
  simp [openEdges]

omit [DecidableEq κ] in
theorem mem_inDegree {node : κ} : node ∈ inDegree ids edges ↔ node ∈ ids ++ edges.map Prod.snd := by
  have listed := mem_foldl_insert ids (fun id => id) (fun _ _ => 0) ∅ node
  rw [inDegree, mem_foldl_insert edges Prod.snd (fun degree edge => degree[edge.2]?.getD 0 + 1), listed,
    List.map_id', List.mem_append]
  simp

/-- What holds between two rounds. -/
structure Progress (ids : List κ) (edges : List (κ × κ)) (degree : BTreeMap κ Nat) (queue : BTreeSet κ)
    (result : List κ) : Prop where
  distinct : result.Nodup
  known : ∀ node ∈ result, node ∈ inDegree ids edges
  waiting : ∀ node ∈ queue, node ∈ inDegree ids edges ∧ node ∉ result ∧ degree[node]?.getD 0 = 0
  queued : ∀ node ∈ inDegree ids edges, node ∉ result → degree[node]?.getD 0 = 0 → node ∈ queue
  met : ∀ node ∈ result, degree[node]?.getD 0 = 0
  counts : ∀ node, degree[node]?.getD 0 = openEdges edges result node

theorem foldl_release (nodes : List κ) (opened : BTreeMap κ Nat × BTreeSet κ) (node : κ) :
    (nodes.foldl release opened).1[node]?.getD 0 = opened.1[node]?.getD 0 - nodes.count node := by
  induction nodes generalizing opened with
  | nil => simp
  | cons first rest ih =>
      rw [List.foldl_cons, ih]
      show ((opened.1.insert first _)[node]?.getD 0) - _ = _
      rw [BTree.getElem?_insert, List.count_cons]
      by_cases same : first = node
      · simp [same]
        omega
      · simp [same]

/-- A node joins the queue only when its last dependency is met. -/
theorem mem_foldl_release (nodes : List κ) (opened : BTreeMap κ Nat × BTreeSet κ) {node : κ}
    (joined : node ∈ (nodes.foldl release opened).2) :
    node ∈ opened.2 ∨ node ∈ nodes ∧ (nodes.foldl release opened).1[node]?.getD 0 = 0 := by
  induction nodes generalizing opened with
  | nil => exact Or.inl joined
  | cons first rest ih =>
      rw [List.foldl_cons] at joined ⊢
      rcases ih _ joined with before | ⟨later, zero⟩
      · simp only [release] at before
        split at before
        · rename_i last
          rcases Std.ExtTreeSet.mem_insert.1 before with same | earlier
          · have same : first = node := Std.LawfulEqCmp.eq_of_compare same
            right
            refine ⟨same ▸ List.mem_cons_self, ?_⟩
            rw [foldl_release]
            show ((opened.1.insert first _)[node]?.getD 0) - _ = 0
            rw [BTree.getElem?_insert, if_pos same, Option.getD_some, last, Nat.zero_sub]
          · exact Or.inl earlier
        · exact Or.inl before
      · exact Or.inr ⟨List.mem_cons_of_mem _ later, zero⟩

omit [Std.LawfulEqOrd κ] [DecidableEq κ] in
theorem mem_foldl_release_of_mem (nodes : List κ) {opened : BTreeMap κ Nat × BTreeSet κ} {node : κ}
    (queued : node ∈ opened.2) : node ∈ (nodes.foldl release opened).2 := by
  induction nodes generalizing opened with
  | nil => exact queued
  | cons first rest ih =>
      rw [List.foldl_cons]
      apply ih
      simp only [release]
      split
      · exact Std.ExtTreeSet.mem_insert.2 (Or.inr queued)
      · exact queued

/-- A node whose last dependency is met joins the queue. -/
theorem mem_foldl_release_of_zero (nodes : List κ) {opened : BTreeMap κ Nat × BTreeSet κ} {node : κ}
    (some : 0 < opened.1[node]?.getD 0) (none : (nodes.foldl release opened).1[node]?.getD 0 = 0) :
    node ∈ (nodes.foldl release opened).2 := by
  induction nodes generalizing opened with
  | nil => exact absurd none some.ne'
  | cons first rest ih =>
      rw [List.foldl_cons] at none ⊢
      have degree : (release opened first).1[node]?.getD 0 =
          if first = node then opened.1[node]?.getD 0 - 1 else opened.1[node]?.getD 0 := by
        show ((opened.1.insert first _)[node]?.getD 0) = _
        rw [BTree.getElem?_insert]
        split
        · rename_i same
          rw [same]
          rfl
        · rfl
      by_cases last : (release opened first).1[node]?.getD 0 = 0
      · have same : first = node := by
          by_contra differ
          rw [degree, if_neg differ] at last
          exact some.ne' last
        subst same
        apply mem_foldl_release_of_mem
        rw [degree, if_pos rfl] at last
        simp only [release, if_pos last]
        exact Std.ExtTreeSet.mem_insert_self
      · exact ih (Nat.pos_of_ne_zero last) none

omit [Std.TransOrd κ] [Std.LawfulEqOrd κ] in
theorem count_neighbours (edges : List (κ × κ)) (node other : κ) :
    (neighbours edges node).count other = edges.countP fun edge => edge.1 = node ∧ edge.2 = other := by
  rw [neighbours, (List.perm_insertionSort _ _).count_eq, List.count, List.countP_map, List.countP_filter]
  congr 1
  funext edge
  show (edge.2 == other && decide (edge.1 = node)) = decide (edge.1 = node ∧ edge.2 = other)
  rw [beq_eq_decide, Bool.and_comm, ← Bool.decide_and]

omit [Std.TransOrd κ] [Std.LawfulEqOrd κ] in
theorem mem_neighbours {node other : κ} (listed : other ∈ neighbours edges node) :
    (node, other) ∈ edges := by
  rw [neighbours, List.mem_insertionSort, List.mem_map] at listed
  obtain ⟨edge, kept, rfl⟩ := listed
  obtain ⟨present, source⟩ := List.mem_filter.1 kept
  rw [← of_decide_eq_true source]
  exact present

omit [Ord κ] [Std.TransOrd κ] [Std.LawfulEqOrd κ] in
theorem openEdges_append {node : κ} (fresh : node ∉ result) (other : κ) :
    openEdges edges result other = openEdges edges (result ++ [node]) other +
      edges.countP fun edge => edge.1 = node ∧ edge.2 = other := by
  unfold openEdges
  induction edges with
  | nil => rfl
  | cons edge edges ih =>
      rw [List.countP_cons, List.countP_cons, List.countP_cons, ih]
      by_cases leaves : edge.1 = node
      · simp [leaves, fresh]
        omega
      · simp [leaves]
        omega

omit [DecidableEq κ] in
theorem mem_of_head? {node : κ} (next : queue.toList.head? = some node) : node ∈ queue :=
  Std.ExtTreeSet.mem_toList.1 (List.mem_of_mem_head? next)

/-- One round: the smallest node of the queue is listed and its dependants are released. -/
theorem Progress.step (progress : Progress ids edges degree queue result) {node : κ}
    (next : queue.toList.head? = some node) :
    Progress ids edges ((neighbours edges node).foldl release (degree, queue.erase node)).1
      ((neighbours edges node).foldl release (degree, queue.erase node)).2 (result ++ [node]) := by
  obtain ⟨known, fresh, zero⟩ := progress.waiting node (mem_of_head? next)
  have counts : ∀ other, ((neighbours edges node).foldl release (degree, queue.erase node)).1[other]?.getD 0 =
      openEdges edges (result ++ [node]) other := by
    intro other
    rw [foldl_release, count_neighbours, progress.counts, openEdges_append fresh, Nat.add_sub_cancel]
  have stays : ∀ other : κ, degree[other]?.getD 0 = 0 →
      ((neighbours edges node).foldl release (degree, queue.erase node)).1[other]?.getD 0 = 0 := by
    intro other none
    rw [foldl_release, none, Nat.zero_sub]
  have unlisted : ∀ other, other ∈ neighbours edges node → other ∉ result ++ [node] := by
    intro other released listed
    have none : degree[other]?.getD 0 = 0 := by
      rcases List.mem_append.1 listed with before | last
      · exact progress.met other before
      · rw [List.mem_singleton.1 last]
        exact zero
    have some : 0 < openEdges edges result other :=
      List.countP_pos_iff.2 ⟨_, mem_neighbours released, by simp [fresh]⟩
    rw [← progress.counts, none] at some
    exact Nat.lt_irrefl 0 some
  constructor
  · rw [List.nodup_append]
    refine ⟨progress.distinct, List.nodup_singleton node, ?_⟩
    intro one listed other last same
    rw [List.mem_singleton.1 last] at same
    exact fresh (same ▸ listed)
  · intro other listed
    rcases List.mem_append.1 listed with before | last
    · exact progress.known other before
    · rw [List.mem_singleton.1 last]
      exact known
  · intro other waits
    rcases mem_foldl_release _ _ waits with before | ⟨released, none⟩
    · obtain ⟨differ, queued⟩ := Std.ExtTreeSet.mem_erase.1 before
      obtain ⟨listed, unseen, none⟩ := progress.waiting other queued
      refine ⟨listed, ?_, stays other none⟩
      intro seen
      rcases List.mem_append.1 seen with earlier | last
      · exact unseen earlier
      · rw [List.mem_singleton.1 last] at differ
        exact differ Std.ReflCmp.compare_self
    · refine ⟨?_, unlisted other released, none⟩
      exact mem_inDegree.2 (List.mem_append_right _ (List.mem_map.2 ⟨_, mem_neighbours released, rfl⟩))
  · intro other present unseen none
    by_cases before : degree[other]?.getD 0 = 0
    · have differ : node ≠ other := by
        intro same
        exact unseen (List.mem_append_right _ (List.mem_singleton.2 same.symm))
      apply mem_foldl_release_of_mem
      apply Std.ExtTreeSet.mem_erase.2
      refine ⟨fun same => differ (Std.LawfulEqCmp.eq_of_compare same), ?_⟩
      exact progress.queued other present (fun seen => unseen (List.mem_append_left _ seen)) before
    · exact mem_foldl_release_of_zero _ (Nat.pos_of_ne_zero before) none
  · intro other listed
    rcases List.mem_append.1 listed with before | last
    · exact stays other (progress.met other before)
    · rw [List.mem_singleton.1 last]
      exact stays node zero
  · exact counts

theorem Progress.loop (progress : Progress ids edges degree queue result) (fuel : Nat) :
    (loop edges fuel degree queue result).Nodup ∧
      ∀ node ∈ loop edges fuel degree queue result, node ∈ inDegree ids edges := by
  induction fuel generalizing degree queue result with
  | zero => exact ⟨progress.distinct, progress.known⟩
  | succ fuel ih =>
      unfold Kahn.loop
      cases next : queue.toList.head? with
      | none => exact ⟨progress.distinct, progress.known⟩
      | some node => exact ih (progress.step next)

theorem progress_start : Progress ids edges (inDegree ids edges) (ready (inDegree ids edges)) [] := by
  constructor
  · exact List.nodup_nil
  · intro node listed
    cases listed
  · intro node waits
    rw [ready, Std.ExtTreeSet.mem_ofList, List.contains_iff_mem, List.mem_map] at waits
    obtain ⟨entry, kept, rfl⟩ := waits
    obtain ⟨present, zero⟩ := List.mem_filter.1 kept
    have found := Std.ExtTreeMap.mem_toList_iff_getElem?_eq_some.1 present
    refine ⟨Std.ExtTreeMap.mem_iff_isSome_getElem?.2 (by rw [found]; rfl), List.not_mem_nil, ?_⟩
    rw [found]
    exact of_decide_eq_true zero
  · intro node present _ zero
    obtain ⟨count, found⟩ := Option.isSome_iff_exists.1 (Std.ExtTreeMap.mem_iff_isSome_getElem?.1 present)
    rw [found] at zero
    rw [ready, Std.ExtTreeSet.mem_ofList, List.contains_iff_mem, List.mem_map]
    refine ⟨(node, count), List.mem_filter.2 ⟨?_, decide_eq_true zero⟩, rfl⟩
    exact Std.ExtTreeMap.mem_toList_iff_getElem?_eq_some.2 found
  · intro node listed
    cases listed
  · exact getD_inDegree

theorem Progress.length_le (progress : Progress ids edges degree queue result) :
    result.length ≤ (inDegree ids edges).size := by
  rw [← Std.ExtTreeMap.length_keys]
  apply (progress.distinct.subperm _).length_le
  intro node listed
  exact Std.ExtTreeMap.mem_keys.2 (progress.known node listed)

/-- Once the fuel covers the ids that are left, more of it changes nothing. -/
theorem Progress.loop_add (progress : Progress ids edges degree queue result) (fuel extra : Nat)
    (enough : (inDegree ids edges).size ≤ result.length + fuel) :
    Kahn.loop edges (fuel + extra) degree queue result = Kahn.loop edges fuel degree queue result := by
  induction fuel generalizing degree queue result with
  | zero =>
      cases extra with
      | zero => rfl
      | succ extra =>
          rw [Nat.zero_add]
          unfold Kahn.loop
          cases next : queue.toList.head? with
          | none => rfl
          | some node =>
              have more := (progress.step next).length_le
              rw [List.length_append, List.length_singleton] at more
              omega
  | succ fuel ih =>
      rw [Nat.add_right_comm]
      unfold Kahn.loop
      cases next : queue.toList.head? with
      | none => rfl
      | some node =>
          apply ih (progress.step next)
          rw [List.length_append, List.length_singleton]
          omega

theorem order_eq (ids : List κ) (edges : List (κ × κ)) (extra : Nat) :
    loop edges ((inDegree ids edges).size + extra) (inDegree ids edges) (ready (inDegree ids edges)) [] =
      order ids edges := by
  apply progress_start.loop_add
  simp

section Forced

/-! An order without a choice, and a graph without a start. -/

omit [Ord κ] [Std.TransOrd κ] [Std.LawfulEqOrd κ] in
theorem openEdges_eq_zero {node : κ} (met : ∀ edge ∈ edges, edge.2 = node → edge.1 ∈ result) :
    openEdges edges result node = 0 := by
  rw [openEdges, List.countP_eq_zero]
  intro edge present both
  obtain ⟨target, unmet⟩ := of_decide_eq_true both
  exact unmet (met edge present target)

omit [Ord κ] [Std.TransOrd κ] [Std.LawfulEqOrd κ] in
theorem openEdges_pos {edge : κ × κ} (present : edge ∈ edges) (unmet : edge.1 ∉ result) :
    0 < openEdges edges result edge.2 :=
  List.countP_pos_iff.2 ⟨edge, present, decide_eq_true ⟨rfl, unmet⟩⟩

theorem loop_of_empty (empty : ∀ node, node ∉ queue) (fuel : Nat) :
    loop edges fuel degree queue result = result := by
  cases fuel with
  | zero => rfl
  | succ fuel =>
      unfold loop
      cases next : queue.toList.head? with
      | none => rfl
      | some node => exact absurd (mem_of_head? next) (empty node)

/-- In `line` each node waits for the one before it and for nothing after it. -/
structure Forced (edges : List (κ × κ)) (line : List κ) : Prop where
  distinct : line.Nodup
  met : ∀ done node rest, line = done ++ node :: rest → ∀ edge ∈ edges, edge.2 = node → edge.1 ∈ done
  waits : ∀ done node rest, line = done ++ node :: rest → ∀ other ∈ rest,
    ∃ edge ∈ edges, edge.2 = other ∧ edge.1 ∉ done

theorem Progress.loop_eq_of_forced {line : List κ} (forced : Forced edges line)
    (known : ∀ node, node ∈ inDegree ids edges ↔ node ∈ line) {rest : List κ}
    (progress : Progress ids edges degree queue result) (split : line = result ++ rest) {fuel : Nat}
    (enough : rest.length ≤ fuel) : Kahn.loop edges fuel degree queue result = line := by
  induction rest generalizing degree queue result fuel with
  | nil =>
      rw [split, List.append_nil]
      apply loop_of_empty
      intro node waits
      obtain ⟨listed, unseen, -⟩ := progress.waiting node waits
      rw [known, split, List.append_nil] at listed
      exact unseen listed
  | cons node rest ih =>
      have fresh : node ∉ result := by
        have distinct := forced.distinct
        rw [split, List.nodup_append] at distinct
        intro seen
        exact distinct.2.2 node seen node List.mem_cons_self rfl
      have ready : node ∈ queue := by
        apply progress.queued node
        · rw [known, split]
          exact List.mem_append_right _ List.mem_cons_self
        · exact fresh
        · rw [progress.counts]
          exact openEdges_eq_zero (forced.met result node rest split)
      -- Every other node that is left still waits for one that is not listed.
      have alone : ∀ other ∈ queue, other = node := by
        intro other waits
        obtain ⟨listed, unseen, zero⟩ := progress.waiting other waits
        rw [known, split, List.mem_append, List.mem_cons] at listed
        rcases listed with seen | same | later
        · exact absurd seen unseen
        · exact same
        · obtain ⟨edge, present, target, unmet⟩ := forced.waits result node rest split other later
          have positive := openEdges_pos present unmet
          rw [target, ← progress.counts, zero] at positive
          exact absurd positive (Nat.lt_irrefl 0)
      have next : queue.toList.head? = some node := by
        cases first : queue.toList.head? with
        | none =>
            rw [List.head?_eq_none_iff] at first
            have listed := Std.ExtTreeSet.mem_toList.2 ready
            rw [first] at listed
            cases listed
        | some other => rw [alone other (mem_of_head? first)]
      cases fuel with
      | zero => cases enough
      | succ fuel =>
          unfold Kahn.loop
          rw [next]
          apply ih (progress.step next)
          · rw [split, List.append_assoc, List.singleton_append]
          · exact Nat.le_of_succ_le_succ enough

theorem order_eq_of_forced {line : List κ} (forced : Forced edges line)
    (known : ∀ node, node ∈ inDegree ids edges ↔ node ∈ line) : order ids edges = line := by
  apply progress_start.loop_eq_of_forced forced known (List.nil_append line).symm
  rw [← Std.ExtTreeMap.length_keys]
  apply (forced.distinct.subperm _).length_le
  intro node listed
  exact Std.ExtTreeMap.mem_keys.2 ((known node).2 listed)

theorem order_eq_nil (closed : ∀ node ∈ inDegree ids edges, ∃ edge ∈ edges, edge.2 = node) :
    order ids edges = [] := by
  apply loop_of_empty
  intro node waits
  have start : Progress ids edges _ _ [] := progress_start
  obtain ⟨listed, -, zero⟩ := start.waiting node waits
  obtain ⟨edge, present, rfl⟩ := closed node listed
  have positive := openEdges_pos present (List.not_mem_nil (a := edge.1))
  rw [← start.counts, zero] at positive
  exact Nat.lt_irrefl 0 positive

end Forced

end Kahn
