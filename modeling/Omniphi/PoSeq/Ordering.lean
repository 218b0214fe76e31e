import Omniphi.Lib.BTree
import Omniphi.Lib.SortedMap
import Omniphi.Basic

/-! Canonical ordering of validated submissions. The comparison looks at nonces only where two senders
agree, and without the nonce rule all senders are made to agree. -/

namespace Omniphi.PoSeq

inductive SubmissionClass
  | transfer
  | swap
  | yieldAllocate
  | treasuryRebalance
  | goalPacket
  | agentSubmission
  | other (name : String)
deriving DecidableEq

def SubmissionClass.priorityWeight : SubmissionClass → U32
  | treasuryRebalance => 1000
  | goalPacket => 800
  | swap => 600
  | yieldAllocate => 500
  | transfer => 400
  | agentSubmission => 200
  | other _ => 100

inductive TieBreakRule
  | lexicographicAscending
  | higherNonce
  | lowerNonce
  | senderAscending
deriving DecidableEq

structure OrderingPolicyConfig where
  tieBreak : TieBreakRule
  enforceSenderNonceOrder : Bool
deriving DecidableEq

def OrderingPolicyConfig.default : OrderingPolicyConfig :=
  { tieBreak := .lexicographicAscending, enforceSenderNonceOrder := true }

structure SubmissionMetadata where
  priorityHint : U32
deriving DecidableEq

structure SequencingSubmission where
  sender : Bytes32
  submissionClass : SubmissionClass
  nonce : U64
  metadata : SubmissionMetadata
deriving DecidableEq

structure SubmissionEnvelope where
  submission : SequencingSubmission
  normalizedId : Bytes32
deriving DecidableEq

structure ValidatedSubmission where
  envelope : SubmissionEnvelope
  normalizedClass : SubmissionClass
  payloadSize : Nat
deriving DecidableEq

namespace ValidatedSubmission

variable (sub : ValidatedSubmission)

abbrev id : Bytes32 := sub.envelope.normalizedId
abbrev sender : Bytes32 := sub.envelope.submission.sender
abbrev nonce : U64 := sub.envelope.submission.nonce

def priority : Int :=
  sub.envelope.submission.submissionClass.priorityWeight.toNat +
    min sub.envelope.submission.metadata.priorityHint.toNat 10000 / 10

end ValidatedSubmission

/-- What a rule says of two submissions of which the first is listed first. -/
def TieBreakRule.Allows : TieBreakRule → ValidatedSubmission → ValidatedSubmission → Prop
  | .lexicographicAscending, a, b => a.id ≤ b.id
  | .higherNonce, a, b => b.nonce ≤ a.nonce
  | .lowerNonce, a, b => a.nonce ≤ b.nonce
  | .senderAscending, a, b => a.sender ≤ b.sender

instance : (rule : TieBreakRule) → (a b : ValidatedSubmission) → Decidable (rule.Allows a b)
  | .lexicographicAscending, a, b => inferInstanceAs (Decidable (a.id ≤ b.id))
  | .higherNonce, a, b => inferInstanceAs (Decidable (b.nonce ≤ a.nonce))
  | .lowerNonce, a, b => inferInstanceAs (Decidable (a.nonce ≤ b.nonce))
  | .senderAscending, a, b => inferInstanceAs (Decidable (a.sender ≤ b.sender))

structure OrderingKey where
  negPriority : Int
  sender : Bytes32
  nonce : U64
  tieBreakBytes : Bytes32
  submissionId : Bytes32
deriving DecidableEq

/-- Two senders that differ are not told apart before the tie break. -/
def OrderingKey.cmp (key other : OrderingKey) : Ordering :=
  (compare key.negPriority other.negPriority).then <|
    (if key.sender = other.sender then compare key.nonce other.nonce else .eq).then <|
      (compare key.tieBreakBytes other.tieBreakBytes).then <|
        (compare key.nonce other.nonce).then (compare key.submissionId other.submissionId)

inductive OrderingError
  | emptyInput
deriving DecidableEq

namespace OrderingEngine

/-- Eight bytes, big endian, at the front of 32. -/
def leadingBytes (n : U64) : Bytes32 := n.setWidth 256 <<< 192

variable (config : OrderingPolicyConfig)

def tieBreakBytes (sub : ValidatedSubmission) : Bytes32 :=
  match config.tieBreak with
  | .lexicographicAscending => sub.id
  | .higherNonce => leadingBytes (BitVec.allOnes 64 - sub.nonce)
  | .lowerNonce => leadingBytes sub.nonce
  | .senderAscending => sub.sender

/-- With the nonce rule off every key has the sender zero. -/
def buildKey (sub : ValidatedSubmission) : OrderingKey where
  negPriority := -sub.priority
  sender := if config.enforceSenderNonceOrder then sub.sender else 0
  nonce := sub.nonce
  tieBreakBytes := tieBreakBytes config sub
  submissionId := sub.id

def order (submissions : List ValidatedSubmission) : Except OrderingError (List ValidatedSubmission) :=
  if submissions.isEmpty then .error .emptyInput
  else .ok ((SortedMap.ofList OrderingKey.cmp
    (submissions.map fun sub => (buildKey config sub, sub))).map Prod.snd)

/-- The key of `a` does not come after the key of `b`. -/
def Before (a b : ValidatedSubmission) : Prop := (buildKey config a).cmp (buildKey config b) ≠ .gt

def Distinct (submissions : List ValidatedSubmission) : Prop := (submissions.map (·.id)).Nodup

/-- Under a configuration the keys are totally ordered, and submissions told apart by their ids have one
canonical order that keeps its promises on nonces and tie breaks. -/
structure Canonical : Prop where
  antisymm : ∀ a b : ValidatedSubmission, (a.id = b.id → a = b) → Before config a b → Before config b a →
    buildKey config a = buildKey config b
  trans : ∀ a b c, Before config a b → Before config b c → Before config a c
  total : ∀ a b, Before config a b ∨ Before config b a
  permutes : ∀ submissions, submissions ≠ [] → Distinct submissions →
    ∃ ordered, order config submissions = .ok ordered ∧ ordered.Perm submissions
  independent : ∀ submissions others, Distinct submissions → submissions.Perm others →
    order config submissions = order config others
  nonces : config.enforceSenderNonceOrder = true → ∀ submissions ordered, Distinct submissions →
    order config submissions = .ok ordered →
    ordered.Pairwise fun a b => a.sender = b.sender → a.priority = b.priority → a.nonce ≤ b.nonce
  tieBreaks : config.enforceSenderNonceOrder = false → ∀ submissions ordered, Distinct submissions →
    order config submissions = .ok ordered →
    ordered.Pairwise fun a b => a.priority = b.priority → TieBreakRule.Allows config.tieBreak a b

/-- The configurations whose comparison leads with one component for all pairs. -/
def Coherent : Prop :=
  config.tieBreak = .lowerNonce ∨
    config.tieBreak = .senderAscending ∧ config.enforceSenderNonceOrder = true

section Comparison

theorem compare_leadingBytes (m n : U64) : compare (leadingBytes m) (leadingBytes n) = compare m n := by
  have value (k : U64) : (leadingBytes k).toNat = k.toNat * 2 ^ 192 := by
    have bound : k.toNat * 2 ^ 192 < 2 ^ 256 :=
      calc k.toNat * 2 ^ 192 < 2 ^ 64 * 2 ^ 192 := Nat.mul_lt_mul_of_pos_right k.isLt (by decide)
        _ = 2 ^ 256 := by decide
    rw [leadingBytes, BitVec.toNat_shiftLeft, BitVec.toNat_setWidth, Nat.shiftLeft_eq,
      Nat.mod_eq_of_lt (k.isLt.trans (by decide)), Nat.mod_eq_of_lt bound]
  have below (m n : U64) : leadingBytes m < leadingBytes n ↔ m < n := by
    rw [BitVec.lt_def, BitVec.lt_def, value, value]
    exact Nat.mul_lt_mul_right (by decide)
  show compareOfLessAndEq _ _ = compareOfLessAndEq _ _
  unfold compareOfLessAndEq
  simp only [below]
  by_cases same : m = n
  · simp [same]
  · have apart : leadingBytes m ≠ leadingBytes n := by
      intro equal
      have equal := congrArg BitVec.toNat equal
      rw [value, value] at equal
      exact same (BitVec.eq_of_toNat_eq (Nat.eq_of_mul_eq_mul_right (by decide) equal))
    simp [same, apart]

theorem cmp_eq_eq {key other : OrderingKey} (same : key.cmp other = .eq) :
    key.submissionId = other.submissionId := by
  simp only [OrderingKey.cmp, Ordering.then_eq_eq] at same
  exact Std.LawfulEqOrd.eq_of_compare same.2.2.2.2

def lead (sub : ValidatedSubmission) : Bytes32 :=
  if config.tieBreak = .senderAscending then sub.sender else 0

def rank : ValidatedSubmission → ValidatedSubmission → Ordering :=
  compareLex (compareOn fun sub => -sub.priority) <|
    compareLex (compareOn (lead config)) (compareLex (compareOn (·.nonce)) (compareOn (·.id)))

instance : Std.TransCmp (rank config) := inferInstanceAs (Std.TransCmp (compareLex _ _))

variable {config}

theorem cmp_buildKey (coherent : Coherent config) (a b : ValidatedSubmission) :
    (buildKey config a).cmp (buildKey config b) = rank config a b := by
  have twice (x y : Ordering) : x.then (x.then y) = x.then y := by cases x <;> rfl
  show (compare (-a.priority) (-b.priority)).then
      ((if (buildKey config a).sender = (buildKey config b).sender then compare a.nonce b.nonce
        else .eq).then
        ((compare (tieBreakBytes config a) (tieBreakBytes config b)).then
          ((compare a.nonce b.nonce).then (compare a.id b.id)))) =
    (compare (-a.priority) (-b.priority)).then ((compare (lead config a) (lead config b)).then
      ((compare a.nonce b.nonce).then (compare a.id b.id)))
  congr 1
  rcases coherent with rule | ⟨rule, enforced⟩
  · have ties : compare (tieBreakBytes config a) (tieBreakBytes config b) = compare a.nonce b.nonce := by
      simp only [tieBreakBytes, rule]
      exact compare_leadingBytes a.nonce b.nonce
    have leads : compare (lead config a) (lead config b) = .eq := by simp [lead, rule]
    rw [ties, leads, twice]
    split
    · exact twice _ _
    · rfl
  · have ties : tieBreakBytes config = lead config := by
      funext sub
      simp only [tieBreakBytes, lead, rule, if_true]
    rw [ties]
    split
    · rename_i same
      have same : lead config a = lead config b := by simpa [buildKey, lead, rule, enforced] using same
      rw [same, Std.ReflOrd.compare_self]
      exact twice _ _
    · rfl

theorem orderOn_buildKey (coherent : Coherent config) :
    SortedMap.OrderOn OrderingKey.cmp fun key => ∃ sub, key = buildKey config sub where
  swap := by
    rintro _ _ ⟨a, rfl⟩ ⟨b, rfl⟩
    rw [cmp_buildKey coherent, cmp_buildKey coherent]
    exact Std.OrientedCmp.eq_swap
  trans := by
    rintro _ _ _ ⟨a, rfl⟩ ⟨b, rfl⟩ ⟨c, rfl⟩
    rw [cmp_buildKey coherent, cmp_buildKey coherent, cmp_buildKey coherent]
    exact Std.TransCmp.lt_trans

theorem before_iff (coherent : Coherent config) (a b : ValidatedSubmission) :
    Before config a b ↔ (rank config a b).isLE := by
  rw [Before, cmp_buildKey coherent]
  exact Ordering.ne_gt_iff_isLE

end Comparison

section Order

variable {config} {submissions ordered : List ValidatedSubmission}

theorem distinct_entries (distinct : Distinct submissions) :
    (submissions.map fun sub => (buildKey config sub, sub)).Pairwise fun entry later =>
      later.1.cmp entry.1 ≠ .eq := by
  rw [List.pairwise_map]
  apply (List.pairwise_map.1 distinct).imp
  intro a b apart same
  exact apart (cmp_eq_eq same).symm

theorem order_ok (ran : order config submissions = .ok ordered) :
    ordered = (SortedMap.ofList OrderingKey.cmp
      (submissions.map fun sub => (buildKey config sub, sub))).map Prod.snd := by
  unfold order at ran
  split at ran
  · cases ran
  · exact (Except.ok.inj ran).symm

theorem order_perm (distinct : Distinct submissions) (ran : order config submissions = .ok ordered) :
    ordered.Perm submissions := by
  rw [order_ok ran]
  have perm := (SortedMap.perm_ofList (@distinct_entries config submissions distinct)).map Prod.snd
  rwa [List.map_map, show Prod.snd ∘ (fun sub => (buildKey config sub, sub)) = id from rfl,
    List.map_id] at perm

theorem order_ascending (coherent : Coherent config) (distinct : Distinct submissions)
    (ran : order config submissions = .ok ordered) :
    ordered.Pairwise fun a b => rank config a b = .lt := by
  have perm := SortedMap.perm_ofList (@distinct_entries config submissions distinct)
  have own : ∀ entry ∈ SortedMap.ofList OrderingKey.cmp
      (submissions.map fun sub => (buildKey config sub, sub)), entry.1 = buildKey config entry.2 := by
    intro entry member
    obtain ⟨sub, -, rfl⟩ := List.mem_map.1 (perm.mem_iff.1 member)
    rfl
  have built : ∀ entry ∈ submissions.map fun sub => (buildKey config sub, sub),
      ∃ sub, entry.1 = buildKey config sub := by
    intro entry member
    obtain ⟨sub, -, rfl⟩ := List.mem_map.1 member
    exact ⟨sub, rfl⟩
  have ascending := SortedMap.ascending_ofList (orderOn_buildKey coherent) built
  rw [order_ok ran, List.pairwise_map]
  apply ascending.imp_of_mem
  intro entry later member member' below
  rw [← cmp_buildKey coherent, ← own entry member, ← own later member']
  exact below

theorem order_congr (coherent : Coherent config) (distinct : Distinct submissions)
    {others : List ValidatedSubmission} (perm : submissions.Perm others) :
    order config submissions = order config others := by
  have occurs (subs : List ValidatedSubmission) :
      ∀ entry ∈ subs.map fun sub => (buildKey config sub, sub), ∃ sub, entry.1 = buildKey config sub := by
    intro entry member
    obtain ⟨sub, -, rfl⟩ := List.mem_map.1 member
    exact ⟨sub, rfl⟩
  have distinct' : Distinct others := (perm.map _).nodup_iff.1 distinct
  have same : SortedMap.ofList OrderingKey.cmp (submissions.map fun sub => (buildKey config sub, sub)) =
      SortedMap.ofList OrderingKey.cmp (others.map fun sub => (buildKey config sub, sub)) := by
    refine SortedMap.Ascending.eq_of_perm (orderOn_buildKey coherent)
      (@SortedMap.occurs_ofList _ _ _ (fun key => ∃ sub, key = buildKey config sub) _ (occurs submissions))
      (SortedMap.ascending_ofList (orderOn_buildKey coherent) (occurs submissions))
      (SortedMap.ascending_ofList (orderOn_buildKey coherent) (occurs others)) ?_
    exact (SortedMap.perm_ofList (distinct_entries distinct)).trans
      ((perm.map _).trans (SortedMap.perm_ofList (distinct_entries distinct')).symm)
  have empty : submissions.isEmpty = others.isEmpty := by
    rw [Bool.eq_iff_iff, List.isEmpty_iff_length_eq_zero, List.isEmpty_iff_length_eq_zero, perm.length_eq]
  rw [order, order, same, empty]

theorem nonce_le_of_rank (coherent : Coherent config) {a b : ValidatedSubmission}
    (below : rank config a b = .lt) (priority : a.priority = b.priority)
    (same : config.tieBreak = .senderAscending → a.sender = b.sender) : a.nonce ≤ b.nonce := by
  have leads : compare (lead config a) (lead config b) = .eq := by
    rcases coherent with rule | ⟨rule, -⟩
    · simp [lead, rule]
    · simp [lead, same rule]
  change (compare (-a.priority) (-b.priority)).then ((compare (lead config a) (lead config b)).then
    ((compare a.nonce b.nonce).then (compare a.id b.id))) = .lt at below
  rw [priority, Std.ReflOrd.compare_self, leads] at below
  change (compare a.nonce b.nonce).then (compare a.id b.id) = .lt at below
  rw [← BitVec.not_lt]
  intro above
  have greater : compare a.nonce b.nonce = .gt := by
    rw [Std.OrientedCmp.gt_iff_lt]
    exact if_pos above
  rw [greater] at below
  cases below

end Order

theorem canonical_of_coherent (coherent : Coherent config) : Canonical config where
  antisymm := by
    intro a b named forth back
    rw [before_iff coherent] at forth back
    have equal : (buildKey config a).cmp (buildKey config b) = .eq := by
      rw [cmp_buildKey coherent]
      exact Std.OrientedCmp.isLE_antisymm forth back
    rw [named (cmp_eq_eq equal)]
  trans := by
    intro a b c first second
    rw [before_iff coherent] at first second ⊢
    exact Std.TransCmp.isLE_trans first second
  total := by
    intro a b
    rw [before_iff coherent, before_iff coherent, @Std.OrientedCmp.eq_swap _ (rank config) _ b a]
    cases rank config a b <;> simp
  permutes := by
    intro submissions filled distinct
    have ran : order config submissions = .ok _ := if_neg (by simpa using filled)
    exact ⟨_, ran, order_perm distinct ran⟩
  independent := by
    intro submissions others distinct perm
    exact order_congr coherent distinct perm
  nonces := by
    intro _ submissions ordered distinct ran
    apply (order_ascending coherent distinct ran).imp
    intro a b below sender priority
    exact nonce_le_of_rank coherent below priority fun _ => sender
  tieBreaks := by
    intro free submissions ordered distinct ran
    have rule : config.tieBreak = .lowerNonce := by
      rcases coherent with rule | ⟨-, enforced⟩
      · exact rule
      · rw [free] at enforced
        cases enforced
    apply (order_ascending coherent distinct ran).imp
    intro a b below priority
    rw [rule]
    exact nonce_le_of_rank coherent below priority fun other => by rw [rule] at other; cases other

section Incoherent

def plainSwap (sender : Bytes32) (nonce : U64) (id : Bytes32) : ValidatedSubmission where
  envelope := { submission := { sender, submissionClass := .swap, nonce, metadata := { priorityHint := 0 } }
                normalizedId := id }
  normalizedClass := .swap
  payloadSize := 1

theorem not_canonical_of_pair (config : OrderingPolicyConfig) (a b : ValidatedSubmission)
    (free : config.enforceSenderNonceOrder = false) (distinct : a.id ≠ b.id)
    (ran : order config [a, b] = .ok [a, b]) (priority : a.priority = b.priority)
    (against : ¬ config.tieBreak.Allows a b) : ¬ Canonical config := by
  intro canonical
  have kept := canonical.tieBreaks free [a, b] [a, b] (by simp [Distinct, distinct]) ran
  exact against ((List.pairwise_cons.1 kept).1 b (List.mem_singleton_self b) priority)

theorem not_canonical_of_cycle (config : OrderingPolicyConfig) (a b c : ValidatedSubmission)
    (first : Before config a b) (second : Before config b c) (back : ¬ Before config a c) :
    ¬ Canonical config := fun canonical => back (canonical.trans a b c first second)

instance (config : OrderingPolicyConfig) (a b : ValidatedSubmission) : Decidable (Before config a b) :=
  inferInstanceAs (Decidable (_ ≠ _))

/-- The canonical order is well defined and keeps its promises under exactly these configurations. -/
theorem canonical_iff_coherent (config : OrderingPolicyConfig) : Canonical config ↔ Coherent config := by
  refine ⟨?_, canonical_of_coherent config⟩
  intro canonical
  obtain ⟨tieBreak, enforced⟩ := config
  cases tieBreak with
  | lowerNonce => exact .inl rfl
  | lexicographicAscending =>
      cases enforced with
      | true => exact absurd canonical (not_canonical_of_cycle _ (plainSwap 1 2 10) (plainSwap 2 1 20)
          (plainSwap 1 1 30) (by decide +kernel) (by decide +kernel) (by decide +kernel))
      | false => exact absurd canonical (not_canonical_of_pair _ (plainSwap 1 1 20) (plainSwap 2 2 10)
          rfl (by decide) rfl rfl (by decide))
  | higherNonce =>
      cases enforced with
      | true => exact absurd canonical (not_canonical_of_cycle _ (plainSwap 1 3 10) (plainSwap 2 2 20)
          (plainSwap 1 1 30) (by decide +kernel) (by decide +kernel) (by decide +kernel))
      | false => exact absurd canonical (not_canonical_of_pair _ (plainSwap 1 1 10) (plainSwap 2 2 20)
          rfl (by decide) rfl rfl (by decide))
  | senderAscending =>
      cases enforced with
      | true => exact .inr ⟨rfl, rfl⟩
      | false => exact absurd canonical (not_canonical_of_pair _ (plainSwap 2 1 10) (plainSwap 1 2 20)
          rfl (by decide) rfl rfl (by decide))

/-- Three swaps of two senders under the default configuration, with the ids that `compute_id` gives
them: by id the first comes before the second and the second before the third, by nonce the third comes
before the first. -/
theorem default_order_cycles : ¬ Canonical .default :=
  not_canonical_of_cycle .default
    (plainSwap 0x0101010101010101010101010101010101010101010101010101010101010101 2
      0x6f171c0210376d327595a7484d238fbbb392f58d0aece4f3ab602cd607b24962)
    (plainSwap 0x0202020202020202020202020202020202020202020202020202020202020202 1
      0xebcfd2c4ae02c2133c009211110b0ff26f275ff0639ba5bfcdaf89848eb8b91b)
    (plainSwap 0x0101010101010101010101010101010101010101010101010101010101010101 1
      0xffee073d0382b3c5b66978a14f7097958a972295815182638054ef5d28618371)
    (by decide +kernel) (by decide +kernel) (by decide +kernel)

end Incoherent

end OrderingEngine

end Omniphi.PoSeq
