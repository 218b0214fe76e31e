import Mathlib

/-! Merkle trees over an arbitrary hash of two digests. A layer of odd length is filled up with its last
digest before its neighbours are combined. -/

namespace Merkle

variable {δ : Type}

def pad (layer : List δ) : List δ :=
  if layer.length % 2 = 0 then layer else layer ++ layer.getLast?.toList

def pairs : List δ → List (δ × δ)
  | left :: right :: rest => (left, right) :: pairs rest
  | _ => []

structure Step (δ : Type) where
  sibling : δ
  isLeft : Bool
deriving DecidableEq

def Step.pair (step : Step δ) (current : δ) : δ × δ :=
  if step.isLeft then (step.sibling, current) else (current, step.sibling)

variable (node : δ × δ → δ)

def parents (layer : List δ) : List δ := (pairs (pad layer)).map node

/-- The layers from the leaves up, as long as a layer has more than one digest. -/
def layers : Nat → List δ → List (List δ)
  | 0, layer => [layer]
  | fuel + 1, layer =>
      if 1 < layer.length then layer :: layers fuel (parents node layer) else [layer]

def climb (leaf : δ) (path : List (Step δ)) : δ :=
  path.foldl (fun current step => node (step.pair current)) leaf

/-- The pairs of digests that are combined on the way up from a layer. -/
def treePairs : Nat → List δ → List (δ × δ)
  | 0, _ => []
  | fuel + 1, layer =>
      if 1 < layer.length then pairs (pad layer) ++ treePairs fuel (parents node layer) else []

def pathPairs (leaf : δ) : List (Step δ) → List (δ × δ)
  | [] => []
  | step :: rest => step.pair leaf :: pathPairs (node (step.pair leaf)) rest

section Shape

theorem length_pad (layer : List δ) : (pad layer).length = 2 * ((layer.length + 1) / 2) := by
  unfold pad
  split
  · omega
  · rename_i odd
    cases found : layer.getLast? with
    | none =>
        rw [List.getLast?_eq_none_iff.1 found] at odd
        exact absurd rfl odd
    | some last =>
        rw [Option.toList_some, List.length_append, List.length_singleton]
        omega

theorem mem_pad {layer : List δ} {digest : δ} : digest ∈ pad layer ↔ digest ∈ layer := by
  unfold pad
  split
  · rfl
  · rw [List.mem_append, Option.mem_toList]
    constructor
    · intro member
      rcases member with member | last
      · exact member
      · exact List.mem_of_getLast? last
    · exact .inl

theorem getElem?_pad {layer : List δ} {i : Nat} (inside : i < layer.length) :
    (pad layer)[i]? = layer[i]? := by
  unfold pad
  split
  · rfl
  · exact List.getElem?_append_left inside

theorem length_pairs (digests : List δ) : (pairs digests).length = digests.length / 2 := by
  induction digests using pairs.induct with
  | case1 left right rest ih => simp only [pairs, List.length_cons, ih]; omega
  | case2 digests short =>
      rw [pairs.eq_2 digests short, List.length_nil]
      match digests, short with
      | [], _ => simp
      | [_], _ => simp
      | left :: right :: rest, short => exact absurd rfl (short left right rest)

theorem getElem?_pairs {digests : List δ} {k : Nat} {left right : δ} (first : digests[2 * k]? = some left)
    (second : digests[2 * k + 1]? = some right) : (pairs digests)[k]? = some (left, right) := by
  induction k generalizing digests with
  | zero =>
      match digests, first, second with
      | _ :: _ :: _, rfl, rfl => rfl
  | succ k ih =>
      match digests, first, second with
      | _ :: _ :: rest, first, second => exact ih first second

theorem mem_of_mem_pairs {digests : List δ} {pair : δ × δ} (member : pair ∈ pairs digests) :
    pair.1 ∈ digests ∧ pair.2 ∈ digests := by
  induction digests using pairs.induct with
  | case1 left right rest ih =>
      rcases List.mem_cons.1 member with rfl | later
      · exact ⟨List.mem_cons_self, List.mem_cons_of_mem _ List.mem_cons_self⟩
      · obtain ⟨first, second⟩ := ih later
        exact ⟨List.mem_cons_of_mem _ (List.mem_cons_of_mem _ first),
          List.mem_cons_of_mem _ (List.mem_cons_of_mem _ second)⟩
  | case2 digests short =>
      rw [pairs.eq_2 digests short] at member
      cases member

theorem length_parents (layer : List δ) : (parents node layer).length = (layer.length + 1) / 2 := by
  rw [parents, List.length_map, length_pairs, length_pad]
  omega

theorem layers_ne_nil (fuel : Nat) (layer : List δ) : layers node fuel layer ≠ [] := by
  cases fuel with
  | zero => exact List.cons_ne_nil _ _
  | succ fuel =>
      unfold layers
      split
      · exact List.cons_ne_nil _ _
      · exact List.cons_ne_nil _ _

end Shape

section Completeness

variable [Inhabited δ]

def siblingOf (layer : List δ) (i : Nat) : Step δ where
  sibling := (pad layer).getD (min (if i % 2 = 0 then i + 1 else i - 1) ((pad layer).length - 1)) default
  isLeft := i % 2 ≠ 0

/-- The path of a leaf through the layers below the root. -/
def siblings : List (List δ) → Nat → List (Step δ)
  | [], _ => []
  | layer :: above, i => siblingOf layer i :: siblings above (i / 2)

theorem getElem?_parents {layer : List δ} {i : Nat} {digest : δ} (found : layer[i]? = some digest) :
    (parents node layer)[i / 2]? = some (node ((siblingOf layer i).pair digest)) := by
  obtain ⟨inside, -⟩ := List.getElem?_eq_some_iff.1 found
  have size := length_pad layer
  have here : (pad layer)[i]? = some digest := (getElem?_pad inside).trans found
  have other (k : Nat) (bound : k < (pad layer).length) :
      (pad layer)[k]? = some ((pad layer).getD k default) := by
    rw [List.getD_eq_getElem?_getD, List.getElem?_eq_getElem bound, Option.getD_some]
  rw [parents, List.getElem?_map]
  by_cases even : i % 2 = 0
  · have next : siblingOf layer i = ⟨(pad layer).getD (i + 1) default, false⟩ := by
      rw [siblingOf, if_pos even, Nat.min_eq_left (by omega)]
      simp [even]
    have halves : 2 * (i / 2) = i := by omega
    have second : (pad layer)[2 * (i / 2) + 1]? = some ((pad layer).getD (i + 1) default) := by
      rw [halves]
      exact other (i + 1) (by omega)
    rw [getElem?_pairs (by rw [halves, here]) second, next]
    rfl
  · have previous : siblingOf layer i = ⟨(pad layer).getD (i - 1) default, true⟩ := by
      rw [siblingOf, if_neg even, Nat.min_eq_left (by omega)]
      simp [even]
    have halves : 2 * (i / 2) = i - 1 := by omega
    have back : i - 1 + 1 = i := by omega
    have first : (pad layer)[2 * (i / 2)]? = some ((pad layer).getD (i - 1) default) := by
      rw [halves]
      exact other (i - 1) (by omega)
    rw [getElem?_pairs first (by rw [halves, back, here]), previous]
    rfl

/-- The path generated for a leaf leads to the root. -/
theorem climb_siblings {fuel : Nat} {layer : List δ} {i : Nat} {digest : δ} (enough : layer.length ≤ 2 ^ fuel)
    (found : layer[i]? = some digest) :
    (layers node fuel layer).getLast?.bind List.head? =
      some (climb node digest (siblings (layers node fuel layer).dropLast i)) := by
  obtain ⟨inside, -⟩ := List.getElem?_eq_some_iff.1 found
  induction fuel generalizing layer i digest with
  | zero =>
      obtain ⟨only, rfl⟩ := List.length_eq_one_iff.1 (show layer.length = 1 by omega)
      obtain rfl : i = 0 := by simpa using inside
      simpa [layers, siblings, climb] using found
  | succ fuel ih =>
      unfold layers
      split
      · have half : (parents node layer).length ≤ 2 ^ fuel := by
          rw [length_parents]
          rw [Nat.pow_succ] at enough
          omega
        have up := getElem?_parents node found
        have next := ih half up (List.getElem?_eq_some_iff.1 up).1
        rw [List.getLast?_cons_of_ne_nil (layers_ne_nil node fuel _), next,
          List.dropLast_cons_of_ne_nil (layers_ne_nil node fuel _)]
        rfl
      · obtain ⟨only, rfl⟩ := List.length_eq_one_iff.1 (show layer.length = 1 by omega)
        obtain rfl : i = 0 := by simpa using inside
        simpa [siblings, climb] using found

end Completeness

section Soundness

variable {node} {leaf : δ}

theorem climb_append (lower upper : List (Step δ)) :
    climb node leaf (lower ++ upper) = climb node (climb node leaf lower) upper := List.foldl_append ..

theorem pair_mem_pathPairs (lower upper : List (Step δ)) (step : Step δ) :
    step.pair (climb node leaf lower) ∈ pathPairs node leaf (lower ++ step :: upper) := by
  induction lower generalizing leaf with
  | nil => exact List.mem_cons_self
  | cons first lower ih => exact List.mem_cons_of_mem _ ih

/-- A path that ends in the top layer has been in the bottom layer on its way. The hash has to keep the
leaf apart from the inner digests, and the pairs of the path apart from those of the tree. -/
theorem exists_prefix_of_climb {fuel : Nat} {layer : List δ} {path : List (Step δ)} {root : δ}
    (top : (layers node fuel layer).getLast?.bind List.head? = some root)
    (reached : climb node leaf path = root)
    (apart : ∀ pair ∈ treePairs node fuel layer, leaf ≠ node pair)
    (injective : ∀ pair ∈ treePairs node fuel layer, ∀ other ∈ pathPairs node leaf path,
      node pair = node other → pair = other) :
    ∃ lower upper, path = lower ++ upper ∧ climb node leaf lower ∈ layer := by
  induction fuel generalizing layer with
  | zero => exact ⟨path, [], (List.append_nil path).symm, reached ▸ List.mem_of_mem_head? top⟩
  | succ fuel ih =>
      unfold layers at top
      unfold treePairs at apart injective
      split at top
      · rename_i long
        rw [if_pos long] at apart injective
        rw [List.getLast?_cons_of_ne_nil (layers_ne_nil node fuel _)] at top
        obtain ⟨lower, upper, rfl, member⟩ := ih top
          (fun pair member => apart pair (List.mem_append_right _ member))
          (fun pair member => injective pair (List.mem_append_right _ member))
        obtain ⟨pair, combined, same⟩ := List.mem_map.1 member
        have inTree := List.mem_append_left (treePairs node fuel (parents node layer)) combined
        obtain ⟨left, right⟩ := mem_of_mem_pairs combined
        -- The digest is an inner one, so a step of the path made it.
        rcases List.eq_nil_or_concat lower with rfl | ⟨before, step, rfl⟩
        · exact absurd same.symm (apart pair inTree)
        · rw [List.concat_eq_append] at same ⊢
          rw [climb_append] at same
          have onPath : step.pair (climb node leaf before) ∈
              pathPairs node leaf ((before ++ [step]) ++ upper) := by
            rw [List.append_assoc]
            exact pair_mem_pathPairs before upper step
          have equal := injective pair inTree _ (by rwa [List.concat_eq_append]) same
          refine ⟨before, step :: upper, by simp, ?_⟩
          rw [equal] at left right
          unfold Step.pair at left right
          split at right
          · exact mem_pad.1 right
          · rename_i onRight
            rw [if_neg onRight] at left
            exact mem_pad.1 left
      · exact ⟨path, [], (List.append_nil path).symm, reached ▸ List.mem_of_mem_head? top⟩

end Soundness

section Injectivity

def root? (fuel : Nat) (layer : List δ) : Option δ := (layers node fuel layer).getLast?.bind List.head?

theorem pairs_pad_cons_cons (left right : δ) (rest : List δ) :
    pairs (pad (left :: right :: rest)) = (left, right) :: pairs (pad rest) := by
  have parity : (left :: right :: rest).length % 2 = rest.length % 2 := by simp; omega
  unfold pad
  rw [parity]
  split
  · rfl
  · cases rest with
    | nil => contradiction
    | cons next rest => simp [pairs]

theorem pairs_pad_nil : pairs (pad ([] : List δ)) = [] := by
  simp [pad, pairs]

theorem pairs_pad_singleton (digest : δ) : pairs (pad [digest]) = [(digest, digest)] := by
  simp [pad, pairs]

theorem map_fst_pairs_pad (layer : List δ) : ((pairs (pad layer)).map Prod.fst).Sublist layer := by
  induction layer using pairs.induct with
  | case1 left right rest ih =>
      rw [pairs_pad_cons_cons, List.map_cons]
      exact (ih.cons right).cons_cons left
  | case2 layer short =>
      match layer, short with
      | [], _ => simp [pairs_pad_nil]
      | [digest], _ => simp [pairs_pad_singleton]
      | left :: right :: rest, short => exact absurd rfl (short left right rest)

/-- Only a repeated digest could stand for the filling of a shorter layer. -/
theorem eq_of_pairs_pad {layer other : List δ} (distinct : layer.Nodup) (distinct' : other.Nodup)
    (same : pairs (pad layer) = pairs (pad other)) : layer = other := by
  induction layer using pairs.induct generalizing other with
  | case1 left right rest ih =>
      match other with
      | [] => simp [pairs_pad_cons_cons, pairs_pad_nil] at same
      | [digest] =>
          simp only [pairs_pad_cons_cons, pairs_pad_singleton, List.cons.injEq, Prod.mk.injEq] at same
          obtain ⟨⟨rfl, rfl⟩, -⟩ := same
          simp at distinct
      | left' :: right' :: rest' =>
          simp only [pairs_pad_cons_cons, List.cons.injEq, Prod.mk.injEq] at same
          obtain ⟨⟨rfl, rfl⟩, later⟩ := same
          rw [ih (List.nodup_cons.1 (List.nodup_cons.1 distinct).2).2
            (List.nodup_cons.1 (List.nodup_cons.1 distinct').2).2 later]
  | case2 layer short =>
      match layer, short, other with
      | [], _, [] => rfl
      | [], _, [digest] => simp [pairs_pad_singleton, pairs_pad_nil] at same
      | [], _, left :: right :: rest => simp [pairs_pad_cons_cons, pairs_pad_nil] at same
      | [digest], _, [] => simp [pairs_pad_singleton, pairs_pad_nil] at same
      | [digest], _, [digest'] => simpa [pairs_pad_singleton] using same
      | [digest], _, left :: right :: rest =>
          simp only [pairs_pad_cons_cons, pairs_pad_singleton, List.cons.injEq, Prod.mk.injEq] at same
          obtain ⟨⟨rfl, rfl⟩, -⟩ := same
          simp at distinct'
      | left :: right :: rest, short, _ => exact absurd rfl (short left right rest)

theorem eq_of_map {α β : Type} {f : α → β} {occurs : α → Prop}
    (injective : ∀ a, occurs a → ∀ b, occurs b → f a = f b → a = b) {items others : List α}
    (all : ∀ item ∈ items, occurs item) (all' : ∀ item ∈ others, occurs item)
    (same : items.map f = others.map f) : items = others := by
  induction items generalizing others with
  | nil => simpa [eq_comm] using same
  | cons item items ih =>
      cases others with
      | nil => simp at same
      | cons other others =>
          simp only [List.map_cons, List.cons.injEq, List.forall_mem_cons] at same all all'
          rw [injective _ all.1 _ all'.1 same.1, ih all.2 all'.2 same.2]

/-- The layer of a digest, counted from the leaves. -/
inductive Height (combined : δ × δ → Prop) (leaf : δ → Prop) : Nat → δ → Prop
  | leaf {digest : δ} (bottom : leaf digest) : Height combined leaf 0 digest
  | inner {k : Nat} {pair : δ × δ} (listed : combined pair) (below : Height combined leaf k pair.1) :
      Height combined leaf (k + 1) (node pair)

/-- The hash separates the combined pairs from one another and from the leaves. -/
structure Separating (combined : δ × δ → Prop) (leaf : δ → Prop) : Prop where
  injective : ∀ pair, combined pair → ∀ other, combined other → node pair = node other → pair = other
  apart : ∀ digest, leaf digest → ∀ pair, combined pair → digest ≠ node pair

variable {node} {combined : δ × δ → Prop} {leaf : δ → Prop}

theorem Separating.height_unique (separating : Separating node combined leaf) {k l : Nat} {digest : δ}
    (height : Height node combined leaf k digest) (other : Height node combined leaf l digest) : k = l := by
  induction height generalizing l with
  | leaf bottom =>
      cases other with
      | leaf => rfl
      | inner listed => exact absurd rfl (separating.apart _ bottom _ listed)
  | @inner k pair listed _ ih =>
      generalize again : node pair = digest at other
      cases other with
      | leaf bottom => exact absurd again.symm (separating.apart _ bottom _ listed)
      | inner listed' below =>
          have same := separating.injective _ listed _ listed' again
          rw [ih (same ▸ below)]

theorem Height.digest_ne {k : Nat} {digest sentinel : δ} (height : Height node combined leaf k digest)
    (noLeaf : ∀ digest, leaf digest → sentinel ≠ digest)
    (noInner : ∀ pair, combined pair → sentinel ≠ node pair) : sentinel ≠ digest := by
  cases height with
  | leaf bottom => exact noLeaf _ bottom
  | inner listed => exact noInner _ listed

theorem root?_of_short (fuel : Nat) {layer : List δ} (short : layer.length ≤ 1) :
    root? node fuel layer = layer.head? := by
  cases fuel <;> simp [root?, layers, Nat.not_lt.2 short]

theorem root?_of_long (fuel : Nat) {layer : List δ} (long : 1 < layer.length) :
    root? node (fuel + 1) layer = root? node fuel (parents node layer) := by
  simp only [root?, layers, if_pos long]
  rw [List.getLast?_cons_of_ne_nil (layers_ne_nil node fuel _)]

theorem treePairs_of_long (fuel : Nat) {layer : List δ} (long : 1 < layer.length) :
    treePairs node (fuel + 1) layer = pairs (pad layer) ++ treePairs node fuel (parents node layer) := by
  simp [treePairs, long]

theorem parents_ne_nil {layer : List δ} (filled : layer ≠ []) : parents node layer ≠ [] := by
  have positive := List.length_pos_iff.2 filled
  apply List.ne_nil_of_length_pos
  rw [length_parents]
  omega

/-- What the induction over the layers carries. -/
structure Layer (node : δ × δ → δ) (combined : δ × δ → Prop) (leaf : δ → Prop) (fuel k : Nat)
    (layer : List δ) : Prop where
  enough : layer.length ≤ 2 ^ fuel
  distinct : layer.Nodup
  listed : ∀ pair ∈ treePairs node fuel layer, combined pair
  heights : ∀ digest ∈ layer, Height node combined leaf k digest

theorem Layer.listed_pairs {fuel k : Nat} {layer : List δ} (long : 1 < layer.length)
    (bottom : Layer node combined leaf (fuel + 1) k layer) :
    ∀ pair ∈ pairs (pad layer), combined pair := by
  intro pair member
  apply bottom.listed
  rw [treePairs_of_long fuel long]
  exact List.mem_append_left _ member

theorem Layer.parents (separating : Separating node combined leaf) {fuel k : Nat} {layer : List δ}
    (long : 1 < layer.length) (bottom : Layer node combined leaf (fuel + 1) k layer) :
    Layer node combined leaf fuel (k + 1) (Merkle.parents node layer) := by
  have here := bottom.listed_pairs long
  constructor
  · have enough := bottom.enough
    rw [Nat.pow_succ] at enough
    rw [length_parents]
    omega
  · apply List.Nodup.map_on
    · intro pair member other member' same
      exact separating.injective _ (here pair member) _ (here other member') same
    · exact ((map_fst_pairs_pad layer).nodup bottom.distinct).of_map
  · intro pair member
    apply bottom.listed
    rw [treePairs_of_long fuel long]
    exact List.mem_append_right _ member
  · intro digest member
    obtain ⟨pair, paired, rfl⟩ := List.mem_map.1 member
    exact .inner (here pair paired) (bottom.heights _ (mem_pad.1 (mem_of_mem_pairs paired).1))

theorem Layer.height_root? (separating : Separating node combined leaf) {fuel k : Nat} {layer : List δ}
    (bottom : Layer node combined leaf fuel k layer) (filled : layer ≠ []) :
    ∃ root above, root? node fuel layer = some root ∧ Height node combined leaf (k + above) root ∧
      (1 < layer.length → 0 < above) := by
  induction fuel generalizing k layer with
  | zero =>
      have short : layer.length ≤ 1 := bottom.enough
      match layer, filled with
      | digest :: rest, _ =>
          refine ⟨digest, 0, root?_of_short 0 short, bottom.heights _ List.mem_cons_self, ?_⟩
          exact fun long => absurd long (Nat.not_lt.2 short)
  | succ fuel ih =>
      by_cases long : 1 < layer.length
      · have next := bottom.parents separating long
        obtain ⟨root, above, top, height, -⟩ := ih next (parents_ne_nil filled)
        refine ⟨root, above + 1, (root?_of_long fuel long).trans top, ?_, fun _ => Nat.succ_pos _⟩
        rwa [show k + (above + 1) = k + 1 + above by omega]
      · have short := Nat.not_lt.1 long
        match layer, filled with
        | digest :: rest, _ =>
            refine ⟨digest, 0, root?_of_short _ short, bottom.heights _ List.mem_cons_self, ?_⟩
            exact fun long' => absurd long' long

/-- The roots of a layer of several digests and of a single digest lie at different heights. -/
theorem Layer.root?_ne (separating : Separating node combined leaf) {fuel fuel' k : Nat} {layer other : List δ}
    (bottom : Layer node combined leaf fuel k layer)
    (bottom' : Layer node combined leaf fuel' k other)
    (filled : other ≠ []) (long : 1 < layer.length) (short : ¬ 1 < other.length) :
    root? node fuel layer ≠ root? node fuel' other := by
  intro same
  obtain ⟨root, above, top, height, positive⟩ :=
    bottom.height_root? separating (List.ne_nil_of_length_pos (Nat.lt_of_succ_lt long))
  match other, filled with
  | digest :: rest, _ =>
      rw [top, root?_of_short fuel' (Nat.not_lt.1 short)] at same
      obtain rfl := Option.some.inj same
      have level := separating.height_unique height (bottom'.heights _ List.mem_cons_self)
      have := positive long
      omega

theorem Layer.eq_of_short (separating : Separating node combined leaf) {fuel fuel' k : Nat} {layer other : List δ}
    (bottom : Layer node combined leaf fuel k layer)
    (bottom' : Layer node combined leaf fuel' k other) (filled : layer ≠ []) (filled' : other ≠ [])
    (short : ¬ 1 < layer.length) (same : root? node fuel layer = root? node fuel' other) : layer = other := by
  by_cases long : 1 < other.length
  · exact absurd same.symm (bottom'.root?_ne separating bottom filled long short)
  · rw [root?_of_short fuel (Nat.not_lt.1 short), root?_of_short fuel' (Nat.not_lt.1 long)] at same
    have one := List.length_pos_iff.2 filled
    have one' := List.length_pos_iff.2 filled'
    obtain ⟨digest, rfl⟩ := List.length_eq_one_iff.1 (show layer.length = 1 by omega)
    obtain ⟨digest', rfl⟩ := List.length_eq_one_iff.1 (show other.length = 1 by omega)
    simpa using same

/-- The root of a layer without repetitions determines the layer, whatever its length. -/
theorem Layer.eq_of_root? (separating : Separating node combined leaf) {fuel fuel' k : Nat} {layer other : List δ}
    (bottom : Layer node combined leaf fuel k layer)
    (bottom' : Layer node combined leaf fuel' k other) (filled : layer ≠ []) (filled' : other ≠ [])
    (same : root? node fuel layer = root? node fuel' other) : layer = other := by
  induction fuel generalizing fuel' k layer other with
  | zero => exact bottom.eq_of_short separating bottom' filled filled' (Nat.not_lt.2 bottom.enough) same
  | succ fuel ih =>
      by_cases long : 1 < layer.length
      · by_cases long' : 1 < other.length
        · cases fuel' with
          | zero => exact absurd bottom'.enough (Nat.not_le.2 long')
          | succ fuel' =>
              rw [root?_of_long fuel long, root?_of_long fuel' long'] at same
              have above := ih (bottom.parents separating long) (bottom'.parents separating long')
                (parents_ne_nil filled) (parents_ne_nil filled') same
              exact eq_of_pairs_pad bottom.distinct bottom'.distinct
                (eq_of_map separating.injective (bottom.listed_pairs long) (bottom'.listed_pairs long') above)
        · exact absurd same (bottom.root?_ne separating bottom' filled' long long')
      · exact bottom.eq_of_short separating bottom' filled filled' long same

end Injectivity

end Merkle
