import Omniphi.Lib.Kahn

/-! What Kahn's sort lists: the nodes that wait for no cycle and for no unknown node, each after those it
waits for. -/

namespace Kahn

variable {κ : Type} [Ord κ] [Std.TransOrd κ] [Std.LawfulEqOrd κ] [DecidableEq κ] {ids : List κ}
  {edges : List (κ × κ)} {degree : BTreeMap κ Nat} {queue : BTreeSet κ} {result : List κ}

/-- A known node all of whose dependencies are grounded. -/
inductive Grounded (ids : List κ) (edges : List (κ × κ)) : κ → Prop
  | intro {node : κ} (known : node ∈ ids ++ edges.map Prod.snd)
      (met : ∀ edge ∈ edges, edge.2 = node → Grounded ids edges edge.1) : Grounded ids edges node

def Ordered (edges : List (κ × κ)) (result : List κ) : Prop :=
  ∀ done node rest, result = done ++ node :: rest → ∀ edge ∈ edges, edge.2 = node → edge.1 ∈ done

def Acyclic (edges : List (κ × κ)) : Prop :=
  ∀ node, ¬ Relation.TransGen (fun a b => (a, b) ∈ edges) node node

section Final

omit [Ord κ] [Std.TransOrd κ] [Std.LawfulEqOrd κ] [DecidableEq κ] in
theorem Ordered.append {node : κ} (ordered : Ordered edges result)
    (met : ∀ edge ∈ edges, edge.2 = node → edge.1 ∈ result) : Ordered edges (result ++ [node]) := by
  intro done other rest split
  rcases List.eq_nil_or_concat rest with rfl | ⟨rest, last, rfl⟩
  · obtain ⟨rfl, same⟩ := List.append_inj' split rfl
    obtain rfl : node = other := by simpa using same
    exact met
  · rw [List.concat_eq_append, ← List.cons_append, ← List.append_assoc] at split
    obtain ⟨before, -⟩ := List.append_inj' split rfl
    exact ordered done other rest before

omit [Ord κ] [Std.TransOrd κ] [Std.LawfulEqOrd κ] in
theorem met_of_openEdges {node : κ} (none : openEdges edges result node = 0) :
    ∀ edge ∈ edges, edge.2 = node → edge.1 ∈ result := by
  intro edge present target
  by_contra unmet
  exact (openEdges_pos present unmet).ne' (target ▸ none)

theorem Progress.final (progress : Progress ids edges degree queue result) (ordered : Ordered edges result)
    (fuel : Nat) (enough : (inDegree ids edges).size ≤ result.length + fuel) :
    ∃ degree' queue', Progress ids edges degree' queue' (Kahn.loop edges fuel degree queue result) ∧
      Ordered edges (Kahn.loop edges fuel degree queue result) ∧ queue'.toList.head? = none := by
  induction fuel generalizing degree queue result with
  | zero =>
      refine ⟨degree, queue, progress, ordered, ?_⟩
      cases next : queue.toList.head? with
      | none => rfl
      | some node =>
          have more := (progress.step next).length_le
          rw [List.length_append, List.length_singleton] at more
          omega
  | succ fuel ih =>
      unfold Kahn.loop
      cases next : queue.toList.head? with
      | none => exact ⟨degree, queue, progress, ordered, next⟩
      | some node =>
          apply ih (progress.step next)
          · apply ordered.append
            apply met_of_openEdges
            rw [← progress.counts]
            exact (progress.waiting node (mem_of_head? next)).2.2
          · rw [List.length_append, List.length_singleton]
            omega

theorem order_final (ids : List κ) (edges : List (κ × κ)) :
    ∃ degree queue, Progress ids edges degree queue (order ids edges) ∧ Ordered edges (order ids edges) ∧
      queue.toList.head? = none := by
  apply progress_start.final
  · intro done node rest split
    simp at split
  · simp

theorem nodup_order (ids : List κ) (edges : List (κ × κ)) : (order ids edges).Nodup := by
  obtain ⟨_, _, progress, -⟩ := order_final ids edges
  exact progress.distinct

theorem ordered_order (ids : List κ) (edges : List (κ × κ)) : Ordered edges (order ids edges) := by
  obtain ⟨-, -, -, ordered, -⟩ := order_final ids edges
  exact ordered

omit [Ord κ] [Std.TransOrd κ] [Std.LawfulEqOrd κ] [DecidableEq κ] in
theorem grounded_of_ordered (ordered : Ordered edges result)
    (known : ∀ node ∈ result, node ∈ ids ++ edges.map Prod.snd) {done rest : List κ} (split : result = done ++ rest) :
    ∀ node ∈ done, Grounded ids edges node := by
  induction done using List.reverseRecOn generalizing rest with
  | nil => exact List.forall_mem_nil _
  | append_singleton done last ih =>
      have split' : result = done ++ last :: rest := by rw [split, List.append_assoc, List.singleton_append]
      intro node listed
      rcases List.mem_append.1 listed with before | here
      · exact ih split' node before
      · obtain rfl := List.mem_singleton.1 here
        apply Grounded.intro (known node (split ▸ List.mem_append_left _ listed))
        intro edge present target
        exact ih split' edge.1 (ordered done node rest split' edge present target)

/-- The sort lists exactly the grounded nodes. -/
theorem mem_order_iff {node : κ} : node ∈ order ids edges ↔ Grounded ids edges node := by
  obtain ⟨degree, queue, progress, ordered, done⟩ := order_final ids edges
  constructor
  · intro listed
    apply grounded_of_ordered ordered _ (List.append_nil _).symm node listed
    exact fun other seen => mem_inDegree.1 (progress.known other seen)
  · intro grounded
    induction grounded with
    | @intro node known _ ih =>
        by_contra unseen
        have zero := (progress.counts node).trans (openEdges_eq_zero ih)
        have waits := progress.queued node (mem_inDegree.2 known) unseen zero
        rw [List.head?_eq_none_iff] at done
        have listed := Std.ExtTreeSet.mem_toList.2 waits
        rw [done] at listed
        cases listed

end Final

section Cycles

omit [Ord κ] [Std.TransOrd κ] [Std.LawfulEqOrd κ] [DecidableEq κ]

theorem Grounded.acyclic {node : κ} (grounded : Grounded ids edges node) :
    ¬ Relation.TransGen (fun a b => (a, b) ∈ edges) node node := by
  induction grounded with
  | intro known met ih =>
      intro around
      obtain ⟨before, path, last⟩ := Relation.TransGen.tail'_iff.1 around
      exact ih (before, _) last rfl (Relation.TransGen.head' last path)

theorem acyclic_of_grounded (all : ∀ edge ∈ edges, Grounded ids edges edge.2) : Acyclic edges := by
  intro node around
  obtain ⟨before, -, last⟩ := Relation.TransGen.tail'_iff.1 around
  exact (all _ last).acyclic around

/-- Without a cycle, and with every dependency known, every known node is grounded. -/
theorem grounded_of_acyclic (acyclic : Acyclic edges)
    (closed : ∀ edge ∈ edges, edge.1 ∈ ids ++ edges.map Prod.snd) {node : κ}
    (known : node ∈ ids ++ edges.map Prod.snd) : Grounded ids edges node := by
  let Known := { node // node ∈ ids ++ edges.map Prod.snd }
  let before : Known → Known → Prop := fun a b => Relation.TransGen (fun a b => (a, b) ∈ edges) a.1 b.1
  have finite : Finite Known := (ids ++ edges.map Prod.snd).finite_toSet
  have trans : IsTrans Known before := ⟨fun _ _ _ first second => first.trans second⟩
  have irrefl : Std.Irrefl before := ⟨fun node => acyclic node.1⟩
  have wellFounded : WellFounded before := Finite.wellFounded_of_trans_of_irrefl before
  suffices all : ∀ known : Known, Grounded ids edges known.1 from all ⟨node, known⟩
  intro known
  induction known using wellFounded.induction with
  | _ known ih =>
      apply Grounded.intro known.2
      intro edge present target
      have step : (edge.1, known.1) ∈ edges := target ▸ present
      exact ih ⟨edge.1, closed edge present⟩ (Relation.TransGen.single step)

end Cycles

section Canonical

variable {ids' : List κ} {edges' : List (κ × κ)}

theorem inDegree_congr (same : ∀ node, node ∈ ids ↔ node ∈ ids') (perm : edges.Perm edges') :
    inDegree ids edges = inDegree ids' edges' := by
  apply Std.ExtTreeMap.ext_getElem?
  intro node
  have known : node ∈ inDegree ids edges ↔ node ∈ inDegree ids' edges' := by
    rw [mem_inDegree, mem_inDegree, List.mem_append, List.mem_append, same,
      (perm.map Prod.snd).mem_iff]
  have count : (inDegree ids edges)[node]?.getD 0 = (inDegree ids' edges')[node]?.getD 0 := by
    rw [getD_inDegree, getD_inDegree]
    exact perm.countP_eq _
  rw [Std.ExtTreeMap.mem_iff_isSome_getElem?, Std.ExtTreeMap.mem_iff_isSome_getElem?] at known
  cases here : (inDegree ids edges)[node]? with
  | none => cases there : (inDegree ids' edges')[node]? <;> simp_all
  | some value => cases there : (inDegree ids' edges')[node]? <;> simp_all

theorem neighbours_congr (perm : edges.Perm edges') (node : κ) : neighbours edges node = neighbours edges' node := by
  have total : Std.Total fun a b : κ => (compare a b).isLE = true := by
    refine ⟨fun a b => ?_⟩
    cases order : compare a b with
    | lt => exact .inl rfl
    | eq => exact .inl rfl
    | gt => exact .inr (by rw [Std.OrientedCmp.gt_iff_lt.1 order]; rfl)
  have trans : IsTrans κ fun a b => (compare a b).isLE = true := ⟨fun _ _ _ => Std.TransCmp.isLE_trans⟩
  have antisymm : Std.Antisymm fun a b : κ => (compare a b).isLE = true :=
    ⟨fun _ _ below above => Std.LawfulEqCmp.eq_of_compare (Std.OrientedCmp.isLE_antisymm below above)⟩
  have same : (neighbours edges node).Perm (neighbours edges' node) :=
    (List.perm_insertionSort _ _).trans (((perm.filter _).map _).trans (List.perm_insertionSort _ _).symm)
  exact List.Perm.eq_of_pairwise' (List.pairwise_insertionSort _ _) (List.pairwise_insertionSort _ _) same

theorem loop_congr (perm : edges.Perm edges') (fuel : Nat) (degree : BTreeMap κ Nat) (queue : BTreeSet κ)
    (result : List κ) : loop edges fuel degree queue result = loop edges' fuel degree queue result := by
  induction fuel generalizing degree queue result with
  | zero => rfl
  | succ fuel ih =>
      unfold loop
      cases queue.toList.head? with
      | none => rfl
      | some node =>
          dsimp only
          rw [neighbours_congr perm, ih]

/-- The order depends on which ids and edges there are, not on the order they come in. -/
theorem order_congr (same : ∀ node, node ∈ ids ↔ node ∈ ids') (perm : edges.Perm edges') :
    order ids edges = order ids' edges' := by
  unfold order
  dsimp only
  rw [inDegree_congr same perm, loop_congr perm]

end Canonical

end Kahn
