import Omniphi.Encoding
import Omniphi.Lib.Ranking

/-! The auction among solvers. Bids are ranked by a weighted score; the winner is sought down the ranking,
through the checks that protect the user. -/

namespace Omniphi.PoSeq

open MachineInt

structure SolverFeeTerms where
  maxSolverFee : U128
  requireTimelySettlement : Bool
  maxCompletionBlocks : U64

structure SolverBid where
  bidId : Bytes32
  solverId : Bytes32
  targetId : Bytes32
  batchWindow : U64
  quotedSolverFee : U128
  expectedExecutionCost : U128
  expectedCompletionBlocks : U64
  expiry : U64
  signature : Bytes
deriving DecidableEq

inductive SolverMarketError
  | invalidBid (reason : String)
  | bidExpired (bidId : Bytes32) (expiry currentBlock : U64)

structure AuctionRankingParams where
  priceWeightBps : U64
  reliabilityWeightBps : U64
  latencyWeightBps : U64
  historyWeightBps : U64
  minReliabilityScore : U64
  maxBidsPerSolver : U64

def AuctionRankingParams.default : AuctionRankingParams where
  priceWeightBps := 4000
  reliabilityWeightBps := 3000
  latencyWeightBps := 1000
  historyWeightBps := 2000
  minReliabilityScore := 1000
  maxBidsPerSolver := 5

structure SolverPerformanceProfile where
  bidsSubmitted : U64
  bidsWon : U64
  reliabilityScore : U64

abbrev SolverProfiles := BTreeMap Bytes32 SolverPerformanceProfile

structure RankedBid where
  bid : SolverBid
  priceScore : U64
  reliabilityScore : U64
  latencyScore : U64
  historyScore : U64
  compositeScore : U64
  tiebreakKey : Bytes32
deriving DecidableEq

namespace SolverBid

variable (bid : SolverBid)

def validate (currentBlock : U64) : Except SolverMarketError Unit :=
  if bid.solverId = 0 then .error (.invalidBid "zero solver_id")
  else if bid.targetId = 0 then .error (.invalidBid "zero target_id")
  else if bid.signature.isEmpty then .error (.invalidBid "missing signature")
  else if bid.expiry < currentBlock then .error (.bidExpired bid.bidId bid.expiry currentBlock)
  else .ok ()

def respectsTerms (terms : SolverFeeTerms) : Bool := bid.quotedSolverFee ≤ terms.maxSolverFee

def offered (terms : SolverFeeTerms) (currentBlock : U64) : Bool :=
  (bid.validate currentBlock).isOk && bid.respectsTerms terms

def tiebreakPreimage : Bytes :=
  beBytes 32 bid.bidId ++ beBytes 32 bid.targetId ++ beBytes 8 bid.batchWindow

end SolverBid

section Scores

def maxFee (offers : List SolverBid) : U128 :=
  offers.foldl (fun greatest bid => if greatest < bid.quotedSolverFee then bid.quotedSolverFee else greatest) 1

def priceScore (maxFee fee : U128) : U64 :=
  if maxFee = 0 then 10000
  else saturatingSub 10000 ((saturatingMul fee 10000 / maxFee).setWidth 64)

def latencyScore (completionBlocks : U64) : U64 :=
  if completionBlocks = 0 then 10000 else saturatingSub 10000 (saturatingMul completionBlocks 500)

def historyScore : Option SolverPerformanceProfile → U64
  | none => 5000
  | some profile =>
      if profile.bidsSubmitted = 0 then 5000
      else least ((saturatingMul (profile.bidsWon.setWidth 128) 10000 /
        profile.bidsSubmitted.setWidth 128).setWidth 64) 10000

/-- A solver without a profile counts as half reliable. -/
def reliabilityScore (profile : Option SolverPerformanceProfile) : U64 :=
  (profile.map SolverPerformanceProfile.reliabilityScore).getD 5000

def weighted (score weightBps : U64) : U64 := saturatingMul score weightBps / 10000

end Scores

section Ranking

variable (sha256 : Sha256) (profiles : SolverProfiles) (terms : SolverFeeTerms)
  (params : AuctionRankingParams) (currentBlock : U64)

def rankedBid (maxFee : U128) (bid : SolverBid) : RankedBid :=
  let profile := profiles[bid.solverId]?
  let price := priceScore maxFee bid.quotedSolverFee
  let reliability := reliabilityScore profile
  let latency := latencyScore bid.expectedCompletionBlocks
  let history := historyScore profile
  { bid
    priceScore := price
    reliabilityScore := reliability
    latencyScore := latency
    historyScore := history
    compositeScore := weighted price params.priceWeightBps +
      weighted reliability params.reliabilityWeightBps + weighted latency params.latencyWeightBps +
      weighted history params.historyWeightBps
    tiebreakKey := sha256 bid.tiebreakPreimage }

def RankedBid.order (a b : RankedBid) : Ordering :=
  (compare b.compositeScore a.compositeScore).then (compare a.tiebreakKey b.tiebreakKey)

def eligibleBids (bids : List SolverBid) : List SolverBid :=
  (bids.filter fun bid => bid.offered terms currentBlock).filter fun bid =>
    !(reliabilityScore profiles[bid.solverId]? < params.minReliabilityScore)

/-- The parameter `max_bids_per_solver` is not read. -/
def rankBids (bids : List SolverBid) : List RankedBid :=
  let greatest := maxFee (bids.filter fun bid => bid.offered terms currentBlock)
  Ranking.sort RankedBid.order
    ((eligibleBids profiles terms params currentBlock bids).map (rankedBid sha256 profiles params greatest))

end Ranking

inductive UserProtectionResult
  | approved
  | feeCapViolation (quoted max : U128)
  | bidExpired (expiry current : U64)
  | reliabilityTooLow (score min : U64)
  | completionTooSlow (estimated max : U64)
deriving DecidableEq

def UserProtectionResult.debug : UserProtectionResult → String
  | approved => "Approved"
  | feeCapViolation quoted max =>
      "FeeCapViolation \x7b quoted: " ++ toString quoted.toNat ++ ", max: " ++ toString max.toNat ++ " \x7d"
  | bidExpired expiry current =>
      "BidExpired \x7b expiry: " ++ toString expiry.toNat ++ ", current: " ++ toString current.toNat ++ " \x7d"
  | reliabilityTooLow score min =>
      "ReliabilityTooLow \x7b score: " ++ toString score.toNat ++ ", min: " ++ toString min.toNat ++ " \x7d"
  | completionTooSlow estimated max =>
      "CompletionTooSlow \x7b estimated: " ++ toString estimated.toNat ++ ", max: " ++ toString max.toNat ++
        " \x7d"

inductive AuctionOutcome
  | winnerSelected (bid : SolverBid) (compositeScore : U64) (fallbackCount : Nat)
  | fallbackSelected (bid : SolverBid) (originalWinnerId : Bytes32) (fallbackReason : String)
      (compositeScore : U64)
  | noBids
  | allExpired
  | allRejected (reasons : List String)
deriving DecidableEq

structure ProtectionContext where
  terms : SolverFeeTerms
  profiles : SolverProfiles
  minReliability : U64
  currentBlock : U64

section Selection

variable (context : ProtectionContext)

def checkUserProtections (bid : SolverBid) : UserProtectionResult :=
  let slow : UserProtectionResult :=
    if context.terms.requireTimelySettlement ∧
        context.terms.maxCompletionBlocks < bid.expectedCompletionBlocks then
      .completionTooSlow bid.expectedCompletionBlocks context.terms.maxCompletionBlocks
    else .approved
  if bid.expiry < context.currentBlock then .bidExpired bid.expiry context.currentBlock
  else if context.terms.maxSolverFee < bid.quotedSolverFee then
    .feeCapViolation bid.quotedSolverFee context.terms.maxSolverFee
  else
    match context.profiles[bid.solverId]? with
    | some profile =>
        if profile.reliabilityScore < context.minReliability then
          .reliabilityTooLow profile.reliabilityScore context.minReliability
        else slow
    | none => slow

/-- The loop of `select_winner`: how many attempts are left, the solver that was tried first, and why the
bids tried so far were turned down. -/
def selectFrom : Nat → Option Bytes32 → List String → List RankedBid → AuctionOutcome
  | 0, _, rejections, _ | _, _, rejections, [] =>
      if rejections.isEmpty then .allExpired else .allRejected rejections
  | attempts + 1, firstWinnerId, rejections, ranked :: rest =>
      match checkUserProtections context ranked.bid with
      | .approved =>
          match firstWinnerId with
          | none => .winnerSelected ranked.bid ranked.compositeScore 0
          | some original =>
              .fallbackSelected ranked.bid original (rejections.getLast?.getD "") ranked.compositeScore
      | refused =>
          selectFrom attempts (some (firstWinnerId.getD ranked.bid.solverId))
            (rejections ++ [refused.debug]) rest

def selectWinner (maxFallbackAttempts : Nat) (rankedBids : List RankedBid) : AuctionOutcome :=
  if rankedBids.isEmpty then .noBids else selectFrom context maxFallbackAttempts none [] rankedBids

end Selection

def AuctionOutcome.winner : AuctionOutcome → Option (SolverBid × U64)
  | winnerSelected bid compositeScore _ => some (bid, compositeScore)
  | fallbackSelected bid _ _ compositeScore => some (bid, compositeScore)
  | noBids | allExpired | allRejected _ => none

section Arithmetic

end Arithmetic

section Fairness

variable {sha256 : Sha256} {profiles : SolverProfiles} {terms : SolverFeeTerms}
  {params : AuctionRankingParams} {currentBlock : U64} {bids bids' : List SolverBid}

instance : Std.TransCmp RankedBid.order :=
  inferInstanceAs (Std.TransCmp (compareLex (fun a b => compareOn RankedBid.compositeScore b a)
    (compareOn RankedBid.tiebreakKey)))

theorem maxFee_perm (perm : bids.Perm bids') : maxFee bids = maxFee bids' := by
  apply perm.foldl_eq'
  intro a _ b _ greatest
  grind

theorem eligibleBids_perm (perm : bids.Perm bids') :
    (eligibleBids profiles terms params currentBlock bids).Perm
      (eligibleBids profiles terms params currentBlock bids') :=
  (perm.filter _).filter _

theorem mem_of_mem_eligibleBids {bid : SolverBid}
    (member : bid ∈ eligibleBids profiles terms params currentBlock bids) : bid ∈ bids :=
  List.mem_of_mem_filter (List.mem_of_mem_filter member)

theorem SolverBid.tiebreakPreimage_bidId {bid other : SolverBid}
    (same : bid.tiebreakPreimage = other.tiebreakPreimage) : bid.bidId = other.bidId := by
  unfold SolverBid.tiebreakPreimage at same
  rw [List.append_assoc, List.append_assoc] at same
  exact (@beBytes_code 32 256 (by decide) _ _ _ _ same).1

theorem rankBids_perm (distinct : (bids.map SolverBid.bidId).Nodup)
    (free : CollisionFree sha256 (bids.map SolverBid.tiebreakPreimage)) (perm : bids.Perm bids') :
    rankBids sha256 profiles terms params currentBlock bids =
      rankBids sha256 profiles terms params currentBlock bids' := by
  unfold rankBids
  rw [maxFee_perm (perm.filter _)]
  refine Ranking.sort_eq_of_perm ((eligibleBids_perm perm).map _) ?_
  intro ranked member ranked' member' tie
  obtain ⟨bid, listed, rfl⟩ := List.mem_map.1 member
  obtain ⟨bid', listed', rfl⟩ := List.mem_map.1 member'
  rw [RankedBid.order, Ordering.then_eq_eq] at tie
  have keys : sha256 bid.tiebreakPreimage = sha256 bid'.tiebreakPreimage :=
    Std.LawfulEqOrd.eq_of_compare tie.2
  have held := mem_of_mem_eligibleBids listed
  have held' := mem_of_mem_eligibleBids listed'
  have ids := SolverBid.tiebreakPreimage_bidId
    (free _ (List.mem_map_of_mem held) _ (List.mem_map_of_mem held') keys)
  rw [List.inj_on_of_nodup_map distinct held held' ids]

theorem rankBids_descending : (rankBids sha256 profiles terms params currentBlock bids).Pairwise
    fun a b => b.compositeScore ≤ a.compositeScore := by
  refine List.Pairwise.imp ?_ Ranking.sort_sorted
  intro a b above
  rw [ne_eq, ← Ordering.isLE_iff_ne_gt, RankedBid.order, Ordering.isLE_then_iff_and] at above
  exact (isLE_compareOfLessAndEq BitVec.le_antisymm BitVec.not_le BitVec.le_total).1 above.1

theorem countP_rankBids (solverId : Bytes32) :
    (rankBids sha256 profiles terms params currentBlock bids).countP
        (fun ranked => ranked.bid.solverId = solverId) =
      (eligibleBids profiles terms params currentBlock bids).countP fun bid => bid.solverId = solverId := by
  unfold rankBids
  rw [(Ranking.sort_perm _ _).countP_eq, List.countP_map]
  rfl

variable {context : ProtectionContext}

def Approved (context : ProtectionContext) (ranked : RankedBid) : Bool :=
  checkUserProtections context ranked.bid = .approved

theorem winner_selectFrom (attempts : Nat) (firstWinnerId : Option Bytes32) (rejections : List String)
    (rankedBids : List RankedBid) :
    (selectFrom context attempts firstWinnerId rejections rankedBids).winner =
      ((rankedBids.take attempts).find? (Approved context)).map fun ranked =>
        (ranked.bid, ranked.compositeScore) := by
  induction rankedBids generalizing attempts firstWinnerId rejections with
  | nil =>
      unfold selectFrom
      cases attempts <;> simp only [List.take_nil, List.find?_nil, Option.map_none] <;> split <;> rfl
  | cons ranked rest ih =>
      cases attempts with
      | zero =>
          unfold selectFrom
          simp only [List.take_zero, List.find?_nil, Option.map_none]
          split <;> rfl
      | succ attempts =>
          unfold selectFrom
          rw [List.take_succ_cons, List.find?_cons]
          cases checked : checkUserProtections context ranked.bid with
          | approved =>
              have accepted : Approved context ranked = true := decide_eq_true checked
              rw [accepted]
              cases firstWinnerId <;> rfl
          | feeCapViolation _ _ | bidExpired _ _ | reliabilityTooLow _ _ | completionTooSlow _ _ =>
              have refused : Approved context ranked = false := by
                rw [Approved, checked]
                rfl
              rw [refused]
              exact ih _ _ _

theorem winner_selectWinner (attempts : Nat) (rankedBids : List RankedBid) :
    (selectWinner context attempts rankedBids).winner =
      ((rankedBids.take attempts).find? (Approved context)).map fun ranked =>
        (ranked.bid, ranked.compositeScore) := by
  unfold selectWinner
  split
  · rename_i empty
    rw [List.isEmpty_iff.1 empty, List.take_nil]
    rfl
  · exact winner_selectFrom attempts none [] rankedBids

def IsHighest (context : ProtectionContext) (rankedBids : List RankedBid) (won : SolverBid × U64) : Prop :=
  ∃ ranked, rankedBids.find? (Approved context) = some ranked ∧ won = (ranked.bid, ranked.compositeScore) ∧
    ∀ other ∈ rankedBids, Approved context other → other.compositeScore ≤ ranked.compositeScore

theorem isHighest_of_winner {attempts : Nat} {rankedBids : List RankedBid} {won : SolverBid × U64}
    (descending : rankedBids.Pairwise fun a b => b.compositeScore ≤ a.compositeScore)
    (selected : (selectWinner context attempts rankedBids).winner = some won) :
    IsHighest context rankedBids won := by
  rw [winner_selectWinner, Option.map_eq_some_iff] at selected
  obtain ⟨ranked, found, rfl⟩ := selected
  have first : rankedBids.find? (Approved context) = some ranked := by
    rw [← List.take_append_drop attempts rankedBids, List.find?_append, found, Option.some_or]
  refine ⟨ranked, first, rfl, ?_⟩
  intro other member approved
  obtain ⟨-, before, after, split, turnedDown⟩ := List.find?_eq_some_iff_append.1 first
  rw [split, List.mem_append, List.mem_cons] at member
  rw [split, List.pairwise_append, List.pairwise_cons] at descending
  rcases member with earlier | rfl | later
  · have refused := turnedDown other earlier
    rw [approved] at refused
    cases refused
  · exact BitVec.le_refl _
  · exact descending.2.1.1 other later

/-- What makes the auction fair: the result does not depend on the order of the bids, no solver crowds the
ranking, scores go down it, and the winner is the first bid that the protections let through. -/
structure FairAuction (sha256 : Sha256) (profiles : SolverProfiles) (terms : SolverFeeTerms)
    (params : AuctionRankingParams) (currentBlock : U64) (bids : List SolverBid) : Prop where
  ranking : ∀ bids', bids.Perm bids' → rankBids sha256 profiles terms params currentBlock bids' =
    rankBids sha256 profiles terms params currentBlock bids
  selection : ∀ bids', bids.Perm bids' → ∀ context attempts,
    selectWinner context attempts (rankBids sha256 profiles terms params currentBlock bids') =
      selectWinner context attempts (rankBids sha256 profiles terms params currentBlock bids)
  capped : ∀ solverId, (rankBids sha256 profiles terms params currentBlock bids).countP
    (fun ranked => ranked.bid.solverId = solverId) ≤ params.maxBidsPerSolver.toNat
  descending : (rankBids sha256 profiles terms params currentBlock bids).Pairwise
    fun a b => b.compositeScore ≤ a.compositeScore
  highest : ∀ context attempts won,
    (selectWinner context attempts (rankBids sha256 profiles terms params currentBlock bids)).winner =
      some won → IsHighest context (rankBids sha256 profiles terms params currentBlock bids) won
  sought : ∀ context attempts,
    (selectWinner context attempts (rankBids sha256 profiles terms params currentBlock bids)).winner =
      none → ∀ ranked ∈ (rankBids sha256 profiles terms params currentBlock bids).take attempts,
        Approved context ranked = false

/-- The cap on a solver's bids is declared and never applied, so the auction is fair where the bids keep
to it by themselves. -/
theorem fairAuction_iff (distinct : (bids.map SolverBid.bidId).Nodup)
    (free : CollisionFree sha256 (bids.map SolverBid.tiebreakPreimage)) :
    FairAuction sha256 profiles terms params currentBlock bids ↔
      ∀ solverId, (eligibleBids profiles terms params currentBlock bids).countP
        (fun bid => bid.solverId = solverId) ≤ params.maxBidsPerSolver.toNat := by
  constructor
  · intro fair solverId
    rw [← @countP_rankBids sha256]
    exact fair.capped solverId
  · intro within
    have stable : ∀ bids', bids.Perm bids' → rankBids sha256 profiles terms params currentBlock bids' =
        rankBids sha256 profiles terms params currentBlock bids :=
      fun bids' perm => (rankBids_perm distinct free perm).symm
    refine
      { ranking := stable
        selection := fun bids' perm _ _ => by rw [stable bids' perm]
        capped := fun solverId => countP_rankBids solverId ▸ within solverId
        descending := rankBids_descending
        highest := fun _ _ _ => isHighest_of_winner rankBids_descending
        sought := ?_ }
    intro context attempts none ranked member
    rw [winner_selectWinner, Option.map_eq_none_iff, List.find?_eq_none] at none
    exact Bool.not_eq_true _ ▸ none ranked member

def sampleTerms : SolverFeeTerms where
  maxSolverFee := 1000
  requireTimelySettlement := true
  maxCompletionBlocks := 20

def sampleBid (bidId solverId : Bytes32) : SolverBid where
  bidId
  solverId
  targetId := 9
  batchWindow := 1
  quotedSolverFee := 100
  expectedExecutionCost := 50
  expectedCompletionBlocks := 2
  expiry := 500
  signature := [1]

def bidDigests : Sha256 := fun input =>
  if input = (sampleBid 1 7).tiebreakPreimage then
    0xf57df37c7187cf34c7651ec6afde50c50b3dea7a5ad65df271cfcda4ae575f31
  else if input = (sampleBid 2 8).tiebreakPreimage then
    0x4dfaffed0c55be062120850c1345e286e9913dab605c1e9706d8607d1b9ed433
  else 0

theorem fairAuction_twoSolvers :
    FairAuction bidDigests ∅ sampleTerms .default 100 [sampleBid 1 7, sampleBid 2 8] := by
  refine (fairAuction_iff (by decide) ?_).2 ?_
  · unfold CollisionFree
    decide +kernel
  · intro solverId
    refine Nat.le_trans List.countP_le_length ?_
    decide

/-- Six bids of one solver are all ranked, where the default parameters allow five. -/
theorem six_bids_of_one_solver :
    ¬ ∃ sha256, FairAuction sha256 ∅ sampleTerms .default 100
      ([1, 2, 3, 4, 5, 6].map fun bidId => sampleBid bidId 7) := by
  rintro ⟨sha256, fair⟩
  have capped := fair.capped 7
  rw [countP_rankBids] at capped
  revert capped
  decide

end Fairness

end Omniphi.PoSeq
