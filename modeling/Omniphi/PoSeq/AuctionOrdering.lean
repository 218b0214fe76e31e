import Omniphi.Lib.Choice
import Omniphi.PoSeq.Auction

/-! The ordering of revealed bundles: one winner for each intent, each winning bundle once. -/

namespace Omniphi.PoSeq

structure IntentOrderingMeta where
  intentId : Bytes32
  deadline : U64
  tip : U64
deriving DecidableEq

structure SequencedBundle where
  bundleId : Bytes32
  solverId : Bytes32
  targetIntentIds : List Bytes32
  executionSteps : Vec ExecutionStep
  predictedOutputs : Vec PredictedOutput
  resourceDeclarations : List ResourceAccess
  sequenceIndex : U32
deriving DecidableEq

structure IntentOrderingResult where
  orderedBundles : List SequencedBundle
  sequenceRoot : Bytes32
  totalIntentsFilled : U32
  totalBundlesReceived : U32
  totalBundlesValid : U32
deriving DecidableEq

/-- The greatest score, or zero where nothing is predicted for the intent. -/
def outcomeScoreForIntent (reveal : BundleReveal) (intentId : Bytes32) : U128 :=
  ((reveal.predictedOutputs.val.filter fun output => output.intentId = intentId).map
    PredictedOutput.userOutcomeScore).foldl (fun greatest score => if greatest < score then score else greatest) 0

def tiebreakPreimage (bundleId intentId : Bytes32) (batchWindow : U64) : Bytes :=
  beBytes 32 bundleId ++ beBytes 32 intentId ++ beBytes 8 batchWindow

def BundleReveal.sequenced (reveal : BundleReveal) (index : Nat) : SequencedBundle where
  bundleId := reveal.bundleId
  solverId := reveal.solverId
  targetIntentIds := reveal.targetIntentIds
  executionSteps := reveal.executionSteps
  predictedOutputs := reveal.predictedOutputs
  resourceDeclarations := reveal.resourceDeclarations
  sequenceIndex := BitVec.ofNat 32 index

section Ordering

variable (sha256 : Sha256) (reveals : List BundleReveal) (batchWindow : U64)
  (intentMeta : BTreeMap Bytes32 IntentOrderingMeta)

def tiebreakKey (bundleId intentId : Bytes32) : Bytes32 :=
  sha256 (tiebreakPreimage bundleId intentId batchWindow)

def canonicalSortKey (intentId : Bytes32) : Bytes32 :=
  sha256 (beBytes 32 intentId ++ beBytes 8 batchWindow)

def computeSequenceRoot (bundles : List SequencedBundle) : Bytes32 :=
  sha256 (bundles.flatMap fun bundle => beBytes 32 bundle.bundleId)

def bundlesByIntent : BTreeMap Bytes32 (List BundleReveal) :=
  reveals.foldl (fun groups reveal =>
    reveal.targetIntentIds.foldl (fun groups intentId => BTree.push groups intentId reveal) groups) ∅

def compareCandidates (intentId : Bytes32) (a b : BundleReveal) : Ordering :=
  (compare (outcomeScoreForIntent b intentId) (outcomeScoreForIntent a intentId)).then
    (compare (tiebreakKey sha256 batchWindow a.bundleId intentId)
      (tiebreakKey sha256 batchWindow b.bundleId intentId))

def Outranks (intentId : Bytes32) (a b : BundleReveal) : Prop :=
  (compareCandidates sha256 batchWindow intentId a b).isLE = true

instance decidableOutranks (intentId : Bytes32) : DecidableRel (Outranks sha256 batchWindow intentId) :=
  fun a b => inferInstanceAs (Decidable ((compareCandidates sha256 batchWindow intentId a b).isLE = true))

def winners : BTreeMap Bytes32 BundleReveal :=
  (bundlesByIntent reveals).filterMap fun intentId candidates =>
    Choice.best (Outranks sha256 batchWindow intentId) candidates

def uniqueWinners : List (Bytes32 × BundleReveal) :=
  Choice.firsts (fun entry => entry.2.bundleId) (fun _ => false)
    (winners sha256 reveals batchWindow).toList

def compareWinners (a b : Bytes32) : Ordering :=
  let deadline intentId := (intentMeta[intentId]?.map IntentOrderingMeta.deadline).getD (BitVec.allOnes 64)
  let tip intentId := (intentMeta[intentId]?.map IntentOrderingMeta.tip).getD 0
  (compare (deadline a) (deadline b)).then
    ((compare (tip b) (tip a)).then
      (compare (canonicalSortKey sha256 batchWindow a) (canonicalSortKey sha256 batchWindow b)))

def orderBundlesWithMeta : IntentOrderingResult :=
  let sorted := (uniqueWinners sha256 reveals batchWindow).insertionSort fun a b =>
    (compareWinners sha256 batchWindow intentMeta a.1 b.1).isLE = true
  let orderedBundles := sorted.zipIdx.map fun entry => entry.1.2.sequenced entry.2
  { orderedBundles
    sequenceRoot := computeSequenceRoot sha256 orderedBundles
    totalIntentsFilled := BitVec.ofNat 32 (winners sha256 reveals batchWindow).size
    totalBundlesReceived := BitVec.ofNat 32 reveals.length
    totalBundlesValid := BitVec.ofNat 32 reveals.length }

def orderBundles : IntentOrderingResult := orderBundlesWithMeta sha256 reveals batchWindow ∅

/-- Every intent is filled by at most one of the ordered bundles, by one of the best for it, whatever the
order in which the bundles were revealed. -/
def FillsOnce : Prop :=
  let result := orderBundlesWithMeta sha256 reveals batchWindow intentMeta
  (result.orderedBundles.Pairwise fun a b => a.targetIntentIds.Disjoint b.targetIntentIds) ∧
    (∀ bundle ∈ result.orderedBundles, ∃ winner ∈ reveals, ∃ index, bundle = winner.sequenced index ∧
      ∀ intentId ∈ winner.targetIntentIds, ∀ reveal ∈ reveals, intentId ∈ reveal.targetIntentIds →
        outcomeScoreForIntent reveal intentId ≤ outcomeScoreForIntent winner intentId) ∧
    ∀ reveals', reveals.Perm reveals' →
      (orderBundlesWithMeta sha256 reveals' batchWindow intentMeta).orderedBundles =
          result.orderedBundles ∧
        (orderBundlesWithMeta sha256 reveals' batchWindow intentMeta).sequenceRoot = result.sequenceRoot

def Wins (intentId : Bytes32) (winner : BundleReveal) : Prop :=
  (winner ∈ reveals ∧ intentId ∈ winner.targetIntentIds) ∧
    ∀ reveal, reveal ∈ reveals ∧ intentId ∈ reveal.targetIntentIds →
      Outranks sha256 batchWindow intentId winner reveal

def WinsWhole : Prop :=
  ∀ winner ∈ reveals, ∀ intentId ∈ winner.targetIntentIds,
    Wins sha256 reveals batchWindow intentId winner →
    ∀ other ∈ winner.targetIntentIds, Wins sha256 reveals batchWindow other winner

def tiebreakPreimages : List Bytes :=
  reveals.flatMap fun reveal => reveal.targetIntentIds.map fun intentId =>
    tiebreakPreimage reveal.bundleId intentId batchWindow

end Ordering

section Groups

variable {reveals : List BundleReveal} {intentId : Bytes32} {reveal : BundleReveal}

theorem mem_foldl_push (intentIds : List Bytes32) (groups : BTreeMap Bytes32 (List BundleReveal))
    (other : BundleReveal) :
    reveal ∈ (intentIds.foldl (fun groups intentId => BTree.push groups intentId other) groups)[intentId]?.getD [] ↔
      (intentId ∈ intentIds ∧ reveal = other) ∨ reveal ∈ groups[intentId]?.getD [] := by
  induction intentIds generalizing groups with
  | nil => simp
  | cons head rest ih =>
      rw [List.foldl_cons, ih, BTree.mem_push, List.mem_cons]
      tauto

theorem mem_bundlesByIntent :
    reveal ∈ (bundlesByIntent reveals)[intentId]?.getD [] ↔
      reveal ∈ reveals ∧ intentId ∈ reveal.targetIntentIds := by
  have grown : ∀ groups : BTreeMap Bytes32 (List BundleReveal),
      reveal ∈ (reveals.foldl (fun groups reveal => reveal.targetIntentIds.foldl
        (fun groups intentId => BTree.push groups intentId reveal) groups) groups)[intentId]?.getD [] ↔
        (reveal ∈ reveals ∧ intentId ∈ reveal.targetIntentIds) ∨ reveal ∈ groups[intentId]?.getD [] := by
    induction reveals with
    | nil => simp
    | cons head rest ih =>
        intro groups
        rw [List.foldl_cons, ih, mem_foldl_push, List.mem_cons]
        constructor
        · rintro (later | ⟨targeted, rfl⟩ | before)
          · exact .inl ⟨.inr later.1, later.2⟩
          · exact .inl ⟨.inl rfl, targeted⟩
          · exact .inr before
        · rintro (⟨rfl | later, targeted⟩ | before)
          · exact .inr (.inl ⟨targeted, rfl⟩)
          · exact .inl ⟨later, targeted⟩
          · exact .inr (.inr before)
  rw [bundlesByIntent, grown ∅]
  simp

end Groups

section Winners

variable {sha256 : Sha256} {reveals : List BundleReveal} {batchWindow : U64} {intentId : Bytes32}

instance transCandidates : Std.TransCmp (compareCandidates sha256 batchWindow intentId) :=
  inferInstanceAs (Std.TransCmp (compareLex
    (fun a b => compareOn (fun reveal => outcomeScoreForIntent reveal intentId) b a)
    (compareOn fun reveal => tiebreakKey sha256 batchWindow reveal.bundleId intentId)))

instance totalOutranks : Std.Total (Outranks sha256 batchWindow intentId) where
  total a b := by
    unfold Outranks
    rw [@Std.OrientedCmp.eq_swap _ (compareCandidates sha256 batchWindow intentId) _ b a]
    cases compareCandidates sha256 batchWindow intentId a b <;> simp

instance transOutranks : IsTrans BundleReveal (Outranks sha256 batchWindow intentId) where
  trans _ _ _ := Std.TransCmp.isLE_trans

theorem score_le_of_outranks {a b : BundleReveal} (outranks : Outranks sha256 batchWindow intentId a b) :
    outcomeScoreForIntent b intentId ≤ outcomeScoreForIntent a intentId := by
  rw [Outranks, compareCandidates, Ordering.isLE_then_iff_and] at outranks
  exact (isLE_compareOfLessAndEq BitVec.le_antisymm BitVec.not_le BitVec.le_total).1 outranks.1

theorem tiebreakPreimage_injective {a b : Bytes32}
    (same : tiebreakPreimage a intentId batchWindow = tiebreakPreimage b intentId batchWindow) : a = b := by
  unfold tiebreakPreimage at same
  rw [List.append_assoc, List.append_assoc] at same
  exact (@beBytes_code 32 256 (by decide) _ _ _ _ same).1

theorem getElem?_winners_eq_best :
    (winners sha256 reveals batchWindow)[intentId]? =
      Choice.best (Outranks sha256 batchWindow intentId) ((bundlesByIntent reveals)[intentId]?.getD []) := by
  rw [winners, Std.ExtTreeMap.getElem?_filterMap']
  cases (bundlesByIntent reveals)[intentId]? with
  | none => rfl
  | some candidates => rfl

section Distinct

variable (distinct : (reveals.map BundleReveal.bundleId).Nodup)
  (free : CollisionFree sha256 (tiebreakPreimages reveals batchWindow))

include distinct free

theorem eq_of_outranks {a b : BundleReveal} (first : a ∈ reveals ∧ intentId ∈ a.targetIntentIds)
    (second : b ∈ reveals ∧ intentId ∈ b.targetIntentIds)
    (above : Outranks sha256 batchWindow intentId a b) (below : Outranks sha256 batchWindow intentId b a) :
    a = b := by
  have equal : compareCandidates sha256 batchWindow intentId a b = .eq := by
    unfold Outranks at above below
    rw [@Std.OrientedCmp.eq_swap _ (compareCandidates sha256 batchWindow intentId) _ b a] at below
    cases compared : compareCandidates sha256 batchWindow intentId a b with
    | lt => simp [compared] at below
    | eq => rfl
    | gt => simp [compared] at above
  rw [compareCandidates, Ordering.then_eq_eq] at equal
  have keys := Std.LawfulEqOrd.eq_of_compare equal.2
  have hashed : ∀ reveal, reveal ∈ reveals ∧ intentId ∈ reveal.targetIntentIds →
      tiebreakPreimage reveal.bundleId intentId batchWindow ∈ tiebreakPreimages reveals batchWindow := by
    intro reveal target
    exact List.mem_flatMap.2 ⟨reveal, target.1, List.mem_map.2 ⟨intentId, target.2, rfl⟩⟩
  have ids := tiebreakPreimage_injective (free _ (hashed a first) _ (hashed b second) keys)
  exact List.inj_on_of_nodup_map distinct first.1 second.1 ids

theorem getElem?_winners {winner : BundleReveal} :
    (winners sha256 reveals batchWindow)[intentId]? = some winner ↔
      Wins sha256 reveals batchWindow intentId winner := by
  rw [getElem?_winners_eq_best, Choice.best_eq_some_iff]
  · simp only [mem_bundlesByIntent]
    rfl
  · intro a first b second
    exact eq_of_outranks distinct free (mem_bundlesByIntent.1 first) (mem_bundlesByIntent.1 second)

theorem exists_wins {reveal : BundleReveal} (target : reveal ∈ reveals ∧ intentId ∈ reveal.targetIntentIds) :
    ∃ winner, Wins sha256 reveals batchWindow intentId winner := by
  cases chosen : (winners sha256 reveals batchWindow)[intentId]? with
  | none =>
      rw [getElem?_winners_eq_best, Choice.best_eq_none] at chosen
      have member := mem_bundlesByIntent.2 target
      rw [chosen] at member
      cases member
  | some winner => exact ⟨winner, (getElem?_winners distinct free).1 chosen⟩

theorem winners_perm {reveals' : List BundleReveal} (perm : reveals.Perm reveals') :
    winners sha256 reveals batchWindow = winners sha256 reveals' batchWindow := by
  have distinct' : (reveals'.map BundleReveal.bundleId).Nodup :=
    ((perm.map BundleReveal.bundleId).nodup_iff).1 distinct
  have free' : CollisionFree sha256 (tiebreakPreimages reveals' batchWindow) := by
    have same := perm.flatMap_right fun reveal => reveal.targetIntentIds.map fun intentId =>
      tiebreakPreimage reveal.bundleId intentId batchWindow
    intro a first b second
    exact free a (same.mem_iff.2 first) b (same.mem_iff.2 second)
  apply Std.ExtTreeMap.ext_getElem?
  intro intentId
  apply Option.ext
  intro winner
  rw [getElem?_winners distinct free, getElem?_winners distinct' free']
  unfold Wins
  simp only [perm.mem_iff]

theorem mem_uniqueWinners {entry : Bytes32 × BundleReveal}
    (kept : entry ∈ uniqueWinners sha256 reveals batchWindow) :
    Wins sha256 reveals batchWindow entry.1 entry.2 := by
  have listed := (Choice.mem_of_mem_firsts kept).1
  rw [← Prod.eta entry, Std.ExtTreeMap.mem_toList_iff_getElem?_eq_some] at listed
  exact (getElem?_winners distinct free).1 listed

theorem exists_uniqueWinner {winner : BundleReveal} (wins : Wins sha256 reveals batchWindow intentId winner) :
    ∃ entry ∈ uniqueWinners sha256 reveals batchWindow, entry.2 = winner := by
  have listed : (intentId, winner) ∈ (winners sha256 reveals batchWindow).toList :=
    Std.ExtTreeMap.mem_toList_iff_getElem?_eq_some.2 ((getElem?_winners distinct free).2 wins)
  have found : ∃ entry ∈ uniqueWinners sha256 reveals batchWindow, entry.2.bundleId = winner.bundleId :=
    Choice.exists_mem_firsts listed rfl
  obtain ⟨entry, kept, same⟩ := found
  exact ⟨entry, kept, List.inj_on_of_nodup_map distinct (mem_uniqueWinners distinct free kept).1.1
    wins.1.1 same⟩

end Distinct

end Winners

section Result

variable {sha256 : Sha256} {reveals : List BundleReveal} {batchWindow : U64}
  {intentMeta : BTreeMap Bytes32 IntentOrderingMeta}

theorem exists_of_mem_orderedBundles {bundle : SequencedBundle}
    (ordered : bundle ∈ (orderBundlesWithMeta sha256 reveals batchWindow intentMeta).orderedBundles) :
    ∃ entry ∈ uniqueWinners sha256 reveals batchWindow, ∃ index, bundle = entry.2.sequenced index := by
  obtain ⟨⟨entry, index⟩, listed, rfl⟩ := List.mem_map.1 ordered
  exact ⟨entry, (List.mem_insertionSort _).1 (List.fst_mem_of_mem_zipIdx listed), index, rfl⟩

theorem pairwise_orderedBundles :
    ((orderBundlesWithMeta sha256 reveals batchWindow intentMeta).orderedBundles.Pairwise fun a b =>
        a.targetIntentIds.Disjoint b.targetIntentIds) ↔
      (uniqueWinners sha256 reveals batchWindow).Pairwise fun a b =>
        a.2.targetIntentIds.Disjoint b.2.targetIntentIds := by
  have targets : (orderBundlesWithMeta sha256 reveals batchWindow intentMeta).orderedBundles.map
      SequencedBundle.targetIntentIds =
      ((uniqueWinners sha256 reveals batchWindow).insertionSort fun a b =>
        (compareWinners sha256 batchWindow intentMeta a.1 b.1).isLE = true).map
          fun entry => entry.2.targetIntentIds := by
    conv_rhs => rw [← List.zipIdx_map_fst 0 (List.insertionSort _ _)]
    simp only [orderBundlesWithMeta, List.map_map]
    rfl
  have sorted := List.perm_insertionSort (fun a b =>
    (compareWinners sha256 batchWindow intentMeta a.1 b.1).isLE = true)
    (uniqueWinners sha256 reveals batchWindow)
  rw [← @List.pairwise_map _ _ SequencedBundle.targetIntentIds List.Disjoint, targets, List.pairwise_map]
  exact sorted.pairwise_iff (fun disjoint => disjoint.symm)

variable (distinct : (reveals.map BundleReveal.bundleId).Nodup)
  (free : CollisionFree sha256 (tiebreakPreimages reveals batchWindow))

include distinct free

theorem disjoint_iff_winsWhole :
    ((uniqueWinners sha256 reveals batchWindow).Pairwise fun a b =>
        a.2.targetIntentIds.Disjoint b.2.targetIntentIds) ↔
      WinsWhole sha256 reveals batchWindow := by
  constructor
  · intro disjoint winner member intentId _ wins other also
    -- Were another bundle the best for an intent, it would be kept next to this one.
    obtain ⟨best, bestWins⟩ := exists_wins distinct free ⟨member, also⟩
    obtain ⟨entry, kept, rfl⟩ := exists_uniqueWinner distinct free wins
    obtain ⟨rival, rivalKept, rfl⟩ := exists_uniqueWinner distinct free bestWins
    by_cases same : entry = rival
    · rw [same]
      exact bestWins
    · have symmetric : Std.Symm fun a b : Bytes32 × BundleReveal =>
          a.2.targetIntentIds.Disjoint b.2.targetIntentIds := ⟨fun _ _ apart => apart.symm⟩
      exact absurd bestWins.1.2 (disjoint.forall kept rivalKept same also)
  · intro whole
    have different : ((uniqueWinners sha256 reveals batchWindow).map fun entry => entry.2.bundleId).Nodup :=
      Choice.nodup_map_firsts
    apply different.of_map.pairwise_of_forall_ne
    intro a keptA b keptB apart intentId targetedA targetedB
    have winsA := mem_uniqueWinners distinct free keptA
    have winsB := mem_uniqueWinners distinct free keptB
    have bestA := whole a.2 winsA.1.1 a.1 winsA.1.2 winsA intentId targetedA
    have bestB := whole b.2 winsB.1.1 b.1 winsB.1.2 winsB intentId targetedB
    have same := eq_of_outranks distinct free bestA.1 bestB.1 (bestA.2 b.2 bestB.1) (bestB.2 a.2 bestA.1)
    exact apart (List.inj_on_of_nodup_map different keptA keptB (congrArg BundleReveal.bundleId same))

end Result

/-- An auction fills each intent once, by a best bundle for it, just when no bundle wins only a part of what
it targets. -/
theorem fillsOnce_iff_winsWhole (sha256 : Sha256) (reveals : List BundleReveal) (batchWindow : U64)
    (intentMeta : BTreeMap Bytes32 IntentOrderingMeta)
    (distinct : (reveals.map BundleReveal.bundleId).Nodup)
    (free : CollisionFree sha256 (tiebreakPreimages reveals batchWindow)) :
    FillsOnce sha256 reveals batchWindow intentMeta ↔ WinsWhole sha256 reveals batchWindow := by
  unfold FillsOnce
  dsimp only
  rw [pairwise_orderedBundles, disjoint_iff_winsWhole distinct free]
  constructor
  · exact fun fills => fills.1
  · intro whole
    refine ⟨whole, ?_, ?_⟩
    · intro bundle ordered
      obtain ⟨entry, kept, index, rfl⟩ := exists_of_mem_orderedBundles ordered
      have wins := mem_uniqueWinners distinct free kept
      refine ⟨entry.2, wins.1.1, index, rfl, ?_⟩
      intro intentId targeted reveal member also
      have best := whole entry.2 wins.1.1 entry.1 wins.1.2 wins intentId targeted
      exact score_le_of_outranks (best.2 reveal ⟨member, also⟩)
    · intro reveals' perm
      unfold orderBundlesWithMeta uniqueWinners
      rw [winners_perm distinct free perm]
      exact ⟨rfl, rfl⟩

section Samples

def sampleOutput (intentId : Bytes32) (amountOut : U128) : PredictedOutput where
  intentId := intentId
  assetOut := ⟨0, .token, 2⟩
  amountOut := amountOut
  feeChargedBps := 30

def wideBundle (secondAmount : U128) : BundleReveal where
  bundleId := 11
  solverId := 1
  batchWindow := 1
  targetIntentIds := [1, 2]
  executionSteps := .empty
  liquiditySources := []
  predictedOutputs := .two (sampleOutput 1 1000) (sampleOutput 2 secondAmount)
  feeBreakdown := ⟨20, 10, 30⟩
  resourceDeclarations := []
  nonce := 0
  proofData := []
  signature := []

def narrowBundle : BundleReveal :=
  { wideBundle 0 with
    bundleId := 12
    solverId := 2
    targetIntentIds := [2]
    predictedOutputs := .one (sampleOutput 2 500) }

def tiebreakDigests : Sha256 := fun input =>
  if input = tiebreakPreimage 11 1 1 then
    0x6458b0d9643054f33f24d3ea032c55cf14f13bcce8da0b02cb5b9f0a4d542c37
  else if input = tiebreakPreimage 11 2 1 then
    0xb293d6b8fc3206406aa4ceaa205ec6ee74872699b9de49b86dd9cf7bfcac2a94
  else if input = tiebreakPreimage 12 2 1 then
    0x0ec8c689fc661a16518c8873e1b9e339434a698a42d31b663ddf1d0200b46280
  else 0

theorem tiebreakDigests_free (secondAmount : U128) :
    CollisionFree tiebreakDigests (tiebreakPreimages [wideBundle secondAmount, narrowBundle] 1) := by
  show CollisionFree tiebreakDigests [tiebreakPreimage 11 1 1, tiebreakPreimage 11 2 1,
    tiebreakPreimage 12 2 1]
  unfold CollisionFree
  decide +kernel

theorem wideBundle_wins (secondAmount : U128) :
    Wins tiebreakDigests [wideBundle secondAmount, narrowBundle] 1 1 (wideBundle secondAmount) := by
  refine ⟨⟨List.mem_cons_self, List.mem_cons_self⟩, ?_⟩
  rintro reveal ⟨member, targeted⟩
  rcases List.mem_pair.1 member with rfl | rfl
  · exact (Std.Total.total (r := Outranks tiebreakDigests 1 1) _ _).elim id id
  · exact absurd targeted (by decide)

end Samples

theorem intent_filled_twice :
    ([wideBundle 400, narrowBundle].map BundleReveal.bundleId).Nodup ∧
      CollisionFree tiebreakDigests (tiebreakPreimages [wideBundle 400, narrowBundle] 1) ∧
      ¬ FillsOnce tiebreakDigests [wideBundle 400, narrowBundle] 1 ∅ := by
  have distinct : ([wideBundle 400, narrowBundle].map BundleReveal.bundleId).Nodup := by decide
  refine ⟨distinct, tiebreakDigests_free 400, ?_⟩
  intro fills
  have whole := (disjoint_iff_winsWhole distinct (tiebreakDigests_free 400)).1
    (pairwise_orderedBundles.1 fills.1)
  have wins := whole (wideBundle 400) List.mem_cons_self 1 List.mem_cons_self (wideBundle_wins 400) 2
    (by decide)
  have least := score_le_of_outranks (wins.2 narrowBundle ⟨by decide, List.mem_cons_self⟩)
  exact absurd least (by decide)

theorem wide_bundle_fills_both :
    FillsOnce tiebreakDigests [wideBundle 600, narrowBundle] 1 ∅ := by
  refine (fillsOnce_iff_winsWhole tiebreakDigests _ 1 ∅ (by decide) (tiebreakDigests_free 600)).2 ?_
  have second : Wins tiebreakDigests [wideBundle 600, narrowBundle] 1 2 (wideBundle 600) := by
    refine ⟨⟨List.mem_cons_self, by decide⟩, ?_⟩
    rintro reveal ⟨member, -⟩
    rcases List.mem_pair.1 member with rfl | rfl
    · exact (Std.Total.total (r := Outranks tiebreakDigests 1 2) _ _).elim id id
    · decide +kernel
  intro winner member intentId targeted wins other also
  rcases List.mem_pair.1 member with rfl | rfl
  · rcases List.mem_pair.1 also with rfl | rfl
    · exact wideBundle_wins 600
    · exact second
  · -- The rival wins nothing.
    obtain rfl : intentId = 2 := List.mem_singleton.1 targeted
    have least := score_le_of_outranks (wins.2 (wideBundle 600) second.1)
    exact absurd least (by decide)

end Omniphi.PoSeq
