import Omniphi.Poc.ReviewRuns
import Omniphi.Poc.RewardSplit

/-! What a review comes to, as a function of its votes: the settlement of one session compared over the
orders of the votes and the orders in which the maps of counts are visited. -/

namespace Omniphi.Poc

open ReviewKeeper

section MostNamed

variable {α : Type} [DecidableEq α]

def Leads (named : List α) (a : α) : Prop := a ∈ named ∧ ∀ b ∈ named, named.count b ≤ named.count a

/-- Named more often than anything else. -/
def Unrivalled (named : List α) (a : α) : Prop :=
  a ∈ named ∧ ∀ b ∈ named, b ≠ a → named.count b < named.count a

def Untied (named : List α) : Prop := ∀ a ∈ named, ∀ b ∈ named, Leads named a → Leads named b → a = b

instance (named : List α) (a : α) : Decidable (Leads named a) := inferInstanceAs (Decidable (_ ∧ _))

instance (named : List α) : Decidable (Untied named) :=
  inferInstanceAs (Decidable (∀ a ∈ named, ∀ b ∈ named, Leads named a → Leads named b → a = b))

theorem Leads.unrivalled {named : List α} {a : α} (untied : Untied named) (leads : Leads named a) :
    Unrivalled named a := by
  refine ⟨leads.1, fun b listed distinct => ?_⟩
  refine lt_of_le_of_ne (leads.2 b listed) fun same => distinct ?_
  exact untied b listed a leads.1 ⟨listed, fun c among => same ▸ leads.2 c among⟩ leads

theorem Leads.perm {named named' : List α} {a : α} (leads : Leads named a) (perm : named'.Perm named) :
    Leads named' a := by
  refine ⟨perm.mem_iff.2 leads.1, fun b listed => ?_⟩
  rw [perm.count_eq, perm.count_eq]
  exact leads.2 b (perm.mem_iff.1 listed)

theorem mostNamed_scan (named keys : List α) (best : Option α × Nat) :
    let scanned := keys.foldl (fun best a =>
      if best.2 < named.count a then (some a, named.count a) else best) best
    best.2 ≤ scanned.2 ∧ (∀ b ∈ keys, named.count b ≤ scanned.2) ∧
      (scanned = best ∨ ∃ a ∈ keys, best.2 < named.count a ∧ scanned = (some a, named.count a)) := by
  induction keys generalizing best with
  | nil => exact ⟨le_rfl, by simp, .inl rfl⟩
  | cons key keys ih =>
      obtain ⟨more, all, found⟩ := ih (if best.2 < named.count key then (some key, named.count key) else best)
      simp only [List.foldl_cons, List.forall_mem_cons]
      generalize keys.foldl _ _ = scanned at more all found ⊢
      by_cases better : best.2 < named.count key
      · rw [if_pos better] at more found
        refine ⟨better.le.trans more, ⟨more, all⟩, .inr ?_⟩
        rcases found with same | ⟨a, listed, above, same⟩
        · exact ⟨key, List.mem_cons_self, better, same⟩
        · exact ⟨a, List.mem_cons_of_mem key listed, better.trans above, same⟩
      · rw [if_neg better] at more found
        refine ⟨more, ⟨(Nat.le_of_not_lt better).trans more, all⟩, found.imp_right ?_⟩
        rintro ⟨a, listed, above, same⟩
        exact ⟨a, List.mem_cons_of_mem key listed, above, same⟩

theorem mostNamed_spec (order : MapOrder α) (named : List α) :
    (mostNamed order named = none ∧ named = []) ∨ ∃ a, mostNamed order named = some a ∧ Leads named a := by
  obtain ⟨-, all, found⟩ := mostNamed_scan named (order.visit named.dedup) (none, 0)
  have visited (a : α) : a ∈ order.visit named.dedup ↔ a ∈ named := by
    rw [(order.perm named.dedup).mem_iff, List.mem_dedup]
  unfold mostNamed
  generalize (order.visit named.dedup).foldl _ _ = scanned at all found ⊢
  rcases found with rfl | ⟨a, listed, -, rfl⟩
  · refine .inl ⟨rfl, List.eq_nil_iff_forall_not_mem.2 fun a listed => ?_⟩
    have counted := all a ((visited a).2 listed)
    exact absurd (List.count_pos_iff.2 listed) (Nat.not_lt.2 counted)
  · exact .inr ⟨a, rfl, (visited a).1 listed, fun b among => all b ((visited b).2 among)⟩

def MapOrder.first (a : α) : MapOrder α where
  visit keys := if a ∈ keys then a :: keys.erase a else keys
  perm keys := by
    split
    · exact (List.perm_cons_erase (by assumption)).symm
    · exact .refl keys

theorem mostNamed_first {named : List α} {a : α} (leads : Leads named a) :
    mostNamed (.first a) named = some a := by
  have listed : a ∈ named.dedup := List.mem_dedup.2 leads.1
  have counted : 0 < named.count a := List.count_pos_iff.2 leads.1
  obtain ⟨-, -, found⟩ := mostNamed_scan named (named.dedup.erase a) (some a, named.count a)
  simp only [mostNamed, MapOrder.first, if_pos listed, List.foldl_cons, if_pos counted]
  rcases found with same | ⟨b, among, above, -⟩
  · rw [same]
  · have named := List.mem_dedup.1 (List.mem_of_mem_erase among)
    exact absurd above (Nat.not_lt.2 (leads.2 b named))

theorem mostNamed_fixed_iff (order : MapOrder α) (named : List α) :
    (∀ (order' : MapOrder α) named', named'.Perm named →
      mostNamed order' named' = mostNamed order named) ↔ Untied named := by
  constructor
  · intro fixed a _ b _ leads leads'
    have here := (fixed (.first a) named (.refl named)).trans (fixed (.first b) named (.refl named)).symm
    rw [mostNamed_first leads, mostNamed_first leads'] at here
    exact Option.some.inj here
  · intro untied order' named' perm
    rcases mostNamed_spec order' named' with ⟨none', rfl⟩ | ⟨a, found, leads⟩
    · obtain rfl := perm.nil_eq
      rcases mostNamed_spec order [] with ⟨none, -⟩ | ⟨b, -, leads⟩
      · rw [none', none]
      · cases leads.1
    · have leads := leads.perm perm.symm
      rcases mostNamed_spec order named with ⟨-, rfl⟩ | ⟨b, found', leads'⟩
      · cases leads.1
      · rw [found, found', untied a leads.1 b leads'.1 leads leads']

end MostNamed

namespace ReviewSession

variable (session : ReviewSession)

def recast (votes : List ReviewVote) : ReviewSession := { session with votes := votes }

def overrides : List OriginalityOverride :=
  (session.votes.map ReviewVote.originalityOverride).filter fun o => o ≠ .keepAI

def parents : List U64 := (session.votes.map ReviewVote.parentClaimOverride).filter fun id => id ≠ 0

theorem recast_votes : session.recast session.votes = session := rfl

variable {session} {votes : List ReviewVote} (perm : votes.Perm session.votes)

include perm

theorem overrides_recast : (session.recast votes).overrides.Perm session.overrides :=
  (perm.map _).filter _

theorem parents_recast : (session.recast votes).parents.Perm session.parents := (perm.map _).filter _

theorem votedFor_recast (decision : ReviewVoteDecision) (reviewer : String) :
    (session.recast votes).votedFor decision reviewer = session.votedFor decision reviewer :=
  perm.any_eq

end ReviewSession

def ReviewCall.visiting {lib : ReviewLibrary} (call : ReviewCall lib) (overrides : MapOrder OriginalityOverride)
    (parents : MapOrder U64) : ReviewCall lib :=
  { call with overrideOrder := overrides, parentOrder := parents }

namespace ReviewKeeper

variable {lib : ReviewLibrary}

structure Outcome where
  verdict : Option (ReviewVoteDecision × U32 × OriginalityOverride)
  contributions : KeyedMap ReviewedContribution.id
  vesting : VestingKeeper
  rewarded : List U64
  otherCoins : String → Bank
  reviewBondEscrows : U64 → String → Option Coin
  bondMoves : U64 → String → List BondMove
  unsettled : List (U64 × String)
  reviewerProfiles : KeyedMap ReviewerProfile.address

def outcome (k : ReviewKeeper) (id : U64) : Outcome where
  verdict := (k.getReviewSession id).map fun session =>
    (session.finalDecision, session.finalQuality, session.overrideApplied)
  contributions := k.contributions
  vesting := k.vesting
  rewarded := k.rewarded
  otherCoins := k.otherCoins
  reviewBondEscrows := k.reviewBondEscrows
  bondMoves := k.bondMoves
  unsettled := k.unsettled
  reviewerProfiles := k.reviewerProfiles

def judged (k : ReviewKeeper) (call : ReviewCall lib) (session : ReviewSession) (tally : Tally) :
    ReviewKeeper :=
  session.assignedReviewers.foldl (settleReviewer call session tally.decision)
    (k.applyVerdict call session.contributionID tally)

def settles (k : ReviewKeeper) (call : ReviewCall lib) (session : ReviewSession) (tally : Tally) : Outcome :=
  let judged := k.judged call session tally
  { judged.outcome session.contributionID with
    verdict := some (tally.decision, tally.quality, tally.overrideApplied)
    contributions := (judged.transitionClaimStatus session.contributionID
      (if tally.accepted then .accepted else .rejected)).contributions }

section Settlement

variable (k : ReviewKeeper) (call : ReviewCall lib) (session : ReviewSession)

theorem updateCoVotingRecords_eq (height : Int) : k.updateCoVotingRecords height session =
    { k with coVotingRecords := (k.updateCoVotingRecords height session).coVotingRecords } := by
  unfold updateCoVotingRecords
  dsimp only
  induction pairs _ generalizing k with
  | nil => rfl
  | cons pair rest ih => exact (ih (updateCoVotingPair height session k pair)).trans rfl

theorem transitionClaimStatus_eq (id : U64) (status : ClaimStatus) : k.transitionClaimStatus id status =
    { k with contributions := (k.transitionClaimStatus id status).contributions } := by
  unfold transitionClaimStatus
  split
  · rfl
  · split <;> rfl

theorem contributions_transition {k k' : ReviewKeeper} (same : k'.contributions = k.contributions) (id : U64)
    (status : ClaimStatus) : (k'.transitionClaimStatus id status).contributions =
      (k.transitionClaimStatus id status).contributions := by
  unfold transitionClaimStatus getContribution
  rw [same]
  cases k.contributions.get? id with
  | none => exact same
  | some c =>
      dsimp only
      split
      · simp only [setContribution, same]
      · exact same

theorem finalizeReviewSession_outcome :
    (k.finalizeReviewSession call session).outcome session.contributionID =
      k.settles call session (tally call session) := by
  unfold finalizeReviewSession
  dsimp only
  rw [updateCoVotingRecords_eq, transitionClaimStatus_eq]
  simp only [outcome, judged, settles, Outcome.mk.injEq]
  refine ⟨?_, contributions_transition (by rfl) _ _, rfl, rfl, rfl, rfl, rfl, rfl, rfl⟩
  exact (congrArg (Option.map _) (KeyedMap.get?_insert _ _ _)).trans (by rw [if_pos rfl]; rfl)

end Settlement

section Contributions

variable (k : ReviewKeeper) (call : ReviewCall lib)

theorem contributions_settleReviewerBond (reviewer : String) (id : U64) {transfer : Coin → Option ReviewKeeper}
    (kept : ∀ coin k', transfer coin = some k' → k'.contributions = k.contributions) (move : Coin → BondMove) :
    (k.settleReviewerBond reviewer id transfer move).contributions = k.contributions := by
  unfold settleReviewerBond
  split
  · rfl
  · split
    · rfl
    · split
      · rfl
      · rename_i moved
        have same := kept _ _ moved
        exact same

theorem contributions_setBank (denom : String) (bank : Bank) :
    (k.setBank denom bank).contributions = k.contributions := by
  unfold setBank
  split <;> rfl

theorem contributions_settleReviewer (session : ReviewSession) (decision : ReviewVoteDecision)
    (reviewer : String) :
    (settleReviewer call session decision k reviewer).contributions = k.contributions := by
  unfold settleReviewer
  split
  · rfl
  · dsimp only [setReviewerProfile]
    split
    · apply contributions_settleReviewerBond
      intro coin k' sent
      unfold sendCoinsFromModuleToAccount at sent
      split at sent
      · cases sent
      · obtain ⟨bank, -, rfl⟩ := Option.map_eq_some_iff.1 sent
        exact contributions_setBank k coin.denom bank
    · apply contributions_settleReviewerBond
      intro coin k' burned
      unfold burnCoins at burned
      split at burned
      · cases burned
      · obtain ⟨bank, -, rfl⟩ := Option.map_eq_some_iff.1 burned
        exact contributions_setBank k coin.denom bank

theorem contributions_judged (session : ReviewSession) (tally : Tally) :
    (k.judged call session tally).contributions =
      (k.applyVerdict call session.contributionID tally).contributions := by
  unfold judged
  generalize k.applyVerdict call session.contributionID tally = paid
  induction session.assignedReviewers generalizing paid with
  | nil => rfl
  | cons reviewer rest ih =>
      exact (ih _).trans (contributions_settleReviewer paid call session tally.decision reviewer)

theorem parentClaimId_transition (id other : U64) (status : ClaimStatus) :
    ((k.transitionClaimStatus id status).contributions.get? other).map ReviewedContribution.parentClaimId =
      (k.contributions.get? other).map ReviewedContribution.parentClaimId := by
  unfold transitionClaimStatus
  cases found : k.getContribution id with
  | none => rfl
  | some c =>
      dsimp only
      split
      · simp only [setContribution, KeyedMap.get?_insert]
        have named : c.id = id := KeyedMap.key_of_get? _ found
        split
        · rename_i same
          have held : k.contributions.get? other = some c := by
            rw [← same, show ReviewedContribution.id _ = id from named]
            exact found
          rw [held]
          rfl
        · rfl
      · rfl

theorem contributions_applyVerdict {id : U64} {contribution : ReviewedContribution}
    (found : k.getContribution id = some contribution) (tally : Tally) :
    (k.applyVerdict call id tally).contributions = k.contributions.insert (overridden contribution tally) := by
  simp only [applyVerdict, found, distributeReviewReward]
  split
  · split <;> rfl
  · rfl

theorem parentClaimId_finalized {session : ReviewSession} {contribution : ReviewedContribution}
    (found : k.getContribution session.contributionID = some contribution) :
    ((k.finalizeReviewSession call session).getContribution session.contributionID).map
        ReviewedContribution.parentClaimId =
      some ((tally call session).parentClaim.getD contribution.parentClaimId) := by
  have left := congrArg Outcome.contributions (k.finalizeReviewSession_outcome call session)
  have named : contribution.id = session.contributionID := KeyedMap.key_of_get? _ found
  show (((k.finalizeReviewSession call session).outcome session.contributionID).contributions.get?
    session.contributionID).map _ = _
  rw [left, settles]
  dsimp only
  rw [parentClaimId_transition, contributions_judged, contributions_applyVerdict k call found,
    KeyedMap.get?_insert, if_pos (show (overridden contribution _).id = _ from named)]
  rfl

end Contributions

section Recast

variable {k : ReviewKeeper} {call : ReviewCall lib} {session : ReviewSession} {votes : List ReviewVote}
  {overrides : MapOrder OriginalityOverride} {parents : MapOrder U64}

theorem tally_recast (perm : votes.Perm session.votes) :
    tally (call.visiting overrides parents) (session.recast votes) =
      { tally call session with
        overrideApplied := (mostNamed overrides (session.recast votes).overrides).getD .keepAI
        parentClaim := mostNamed parents (session.recast votes).parents } := by
  have quality : (votes.map ReviewVote.qualityScore).sum = (session.votes.map ReviewVote.qualityScore).sum :=
    (perm.map _).sum_eq
  simp only [tally, ReviewSession.recast, ReviewCall.visiting, ReviewSession.overrides, ReviewSession.parents,
    perm.countP_eq, perm.length_eq, quality]

theorem tally_visiting : tally (call.visiting overrides parents) session =
    { tally call session with
      overrideApplied := (mostNamed overrides session.overrides).getD .keepAI
      parentClaim := mostNamed parents session.parents } :=
  tally_recast (.refl session.votes)

theorem judged_recast (perm : votes.Perm session.votes) (tally : Tally) :
    k.judged (call.visiting overrides parents) (session.recast votes) tally = k.judged call session tally := by
  have each : settleReviewer (call.visiting overrides parents) (session.recast votes) tally.decision =
      settleReviewer call session tally.decision := by
    funext k reviewer
    unfold settleReviewer
    simp only [ReviewSession.votedFor_recast perm]
    rfl
  simp only [judged, each]
  rfl

theorem settles_recast (perm : votes.Perm session.votes) (tally : Tally) :
    k.settles (call.visiting overrides parents) (session.recast votes) tally =
      k.settles call session tally := by
  unfold settles
  rw [judged_recast perm]
  rfl

theorem settles_missing (missing : k.getContribution session.contributionID = none) (tally : Tally)
    (parent : Option U64) :
    k.settles call session { tally with parentClaim := parent } = k.settles call session tally := by
  simp only [settles, judged, applyVerdict, missing]

end Recast

section OutcomeOfVotes

variable (k : ReviewKeeper) (call : ReviewCall lib) (session : ReviewSession)

/-- A session is settled alike whatever the order of its votes and of the maps, and an override is put on the
session or the claim only where it is named more often than any other. -/
def OutcomeOfVotes : Prop :=
  (∀ overrides parents votes, votes.Perm session.votes →
    (k.finalizeReviewSession (call.visiting overrides parents) (session.recast votes)).outcome
        session.contributionID =
      (k.finalizeReviewSession call session).outcome session.contributionID) ∧
  (∀ settled, (k.finalizeReviewSession call session).getReviewSession session.contributionID = some settled →
    (session.overrides = [] ∧ settled.overrideApplied = .keepAI) ∨
      Unrivalled session.overrides settled.overrideApplied) ∧
  ∀ before after, k.getContribution session.contributionID = some before →
    (k.finalizeReviewSession call session).getContribution session.contributionID = some after →
    (session.parents = [] ∧ after.parentClaimId = before.parentClaimId) ∨
      Unrivalled session.parents after.parentClaimId

variable {k call session}

theorem overrideApplied_finalized {settled : ReviewSession}
    (stored : (k.finalizeReviewSession call session).getReviewSession session.contributionID = some settled) :
    settled.overrideApplied = (tally call session).overrideApplied := by
  have verdict := congrArg Outcome.verdict (k.finalizeReviewSession_outcome call session)
  rw [outcome, stored] at verdict
  exact congrArg (fun v => v.2.2) (Option.some.inj verdict)

theorem verdict_visiting (overrides : MapOrder OriginalityOverride) (parents : MapOrder U64) :
    ((k.finalizeReviewSession (call.visiting overrides parents) session).outcome
        session.contributionID).verdict =
      some ((tally call session).decision, (tally call session).quality,
        (mostNamed overrides session.overrides).getD .keepAI) := by
  rw [finalizeReviewSession_outcome, tally_visiting]
  rfl

theorem untied_overrides (fixed : OutcomeOfVotes k call session) : Untied session.overrides := by
  intro a _ b _ leads leads'
  have alike := (fixed.1 (.first a) call.parentOrder session.votes (.refl _)).trans
    (fixed.1 (.first b) call.parentOrder session.votes (.refl _)).symm
  have alike := congrArg Outcome.verdict alike
  rw [session.recast_votes, verdict_visiting, verdict_visiting, mostNamed_first leads,
    mostNamed_first leads'] at alike
  exact congrArg (fun v => v.2.2) (Option.some.inj alike)

theorem untied_parents (fixed : OutcomeOfVotes k call session) {contribution : ReviewedContribution}
    (found : k.getContribution session.contributionID = some contribution) : Untied session.parents := by
  intro a _ b _ leads leads'
  have parent (order : MapOrder U64) :=
    k.parentClaimId_finalized (call.visiting call.overrideOrder order) found
  have alike := (fixed.1 call.overrideOrder (.first a) session.votes (.refl _)).trans
    (fixed.1 call.overrideOrder (.first b) session.votes (.refl _)).symm
  have alike := congrArg (fun o => (o.contributions.get? session.contributionID).map
    ReviewedContribution.parentClaimId) alike
  have named := ((parent (.first a)).symm.trans alike).trans (parent (.first b))
  rw [tally_visiting, tally_visiting, mostNamed_first leads, mostNamed_first leads'] at named
  exact Option.some.inj named

/-- Just when no two overrides, and on a stored claim no two parents, are named most often. -/
theorem outcomeOfVotes_iff : OutcomeOfVotes k call session ↔
    Untied session.overrides ∧
      ((k.getContribution session.contributionID).isSome → Untied session.parents) := by
  constructor
  · intro fixed
    refine ⟨untied_overrides fixed, fun stored => ?_⟩
    obtain ⟨contribution, found⟩ := Option.isSome_iff_exists.1 stored
    exact untied_parents fixed found
  · rintro ⟨untied, untied'⟩
    refine ⟨fun overrides parents votes perm => ?_, fun settled stored => ?_,
      fun before after found found' => ?_⟩
    · have named := (mostNamed_fixed_iff call.overrideOrder session.overrides).2 untied overrides _
        (ReviewSession.overrides_recast perm)
      show (k.finalizeReviewSession _ (session.recast votes)).outcome
        (session.recast votes).contributionID = _
      rw [finalizeReviewSession_outcome, finalizeReviewSession_outcome, tally_recast perm, settles_recast perm,
        named]
      cases found : k.getContribution session.contributionID with
      | none => exact settles_missing found (tally call session) _
      | some contribution =>
          have parent := (mostNamed_fixed_iff call.parentOrder session.parents).2
            (untied' (by rw [found]; rfl)) parents _ (ReviewSession.parents_recast perm)
          rw [parent]
          rfl
    · rw [overrideApplied_finalized stored]
      rcases mostNamed_spec call.overrideOrder session.overrides with ⟨none, empty⟩ | ⟨a, most, leads⟩
      · exact .inl ⟨empty, by simp only [tally]; exact congrArg (Option.getD · _) none⟩
      · refine .inr ?_
        rw [show (tally call session).overrideApplied = a from congrArg (Option.getD · _) most]
        exact leads.unrivalled untied
    · have parent := k.parentClaimId_finalized call found
      rw [found'] at parent
      rw [Option.some.inj parent]
      rcases mostNamed_spec call.parentOrder session.parents with ⟨none, empty⟩ | ⟨a, most, leads⟩
      · exact .inl ⟨empty, congrArg (Option.getD · _) none⟩
      · refine .inr ?_
        rw [show (tally call session).parentClaim.getD before.parentClaimId = a from
          congrArg (Option.getD · _) most]
        exact leads.unrivalled (untied' (by rw [found]; rfl))

section Instance

def textLibrary : ReviewLibrary := ⟨⟨some, some, id⟩, fun _ => 0⟩

def firstVisited {α : Type} : MapOrder α := ⟨id, fun _ => .refl _⟩

def finalCall : ReviewCall textLibrary where
  height := 10
  lastCommitHash := []
  headerHash := []
  params := ⟨true, 2, 5, 67, some ⟨"omniphi", 100⟩, some ⟨"omniphi", 100⟩, 0, 8000⟩
  rewardParams := rewardParams
  formula := defaultFormula
  arvs := none
  currentEpoch := 1
  stats := newcomer
  similarity := fun _ => hundredths 80
  impact := fun _ => oneDec
  credits := ⟨[], List.nodup_nil, by simp⟩
  bondedValidators := some 3
  overrideOrder := firstVisited
  parentOrder := firstVisited
  refused := fun _ => false
  refusedBond := fun _ => false

def dividedSession : ReviewSession where
  contributionID := 3
  status := .inReview
  assignedReviewers := ["ann", "bob"]
  votes := [⟨"ann", .accept, .derivativeFalsePositive, 80, "", 1, 8⟩,
    ⟨"bob", .accept, .derivativeTruePositive, 80, "", 2, 9⟩]
  startHeight := 5
  endHeight := 15
  finalDecision := .accept
  overrideApplied := .keepAI
  finalQuality := 0
  appealID := 0
  randomSeed := []

def reviewedKeeper : ReviewKeeper :=
  start "gov" "omniphi" (.init ⟨fun account => if account = pocAccount then 1000000 else 0⟩) (fun _ => .empty)
    (KeyedMap.empty.insert ⟨3, "author", "code", 0, true, 0, .inReview, .inReview⟩)

def settledVisiting (overrides : MapOrder OriginalityOverride) (parents : MapOrder U64) : ReviewKeeper :=
  reviewedKeeper.finalizeReviewSession (finalCall.visiting overrides parents) dividedSession

/-- Which override is applied, which parent named and how much paid is up to the order in which the maps are
visited. -/
theorem divided_votes :
    ((settledVisiting (.first .derivativeFalsePositive) (.first 1)).outcome 3).verdict =
      some (.accept, 80, .derivativeFalsePositive) ∧
    ((settledVisiting (.first .derivativeTruePositive) (.first 1)).outcome 3).verdict =
      some (.accept, 80, .derivativeTruePositive) ∧
    ((settledVisiting (.first .derivativeFalsePositive) (.first 1)).getContribution 3).map
        ReviewedContribution.parentClaimId = some 1 ∧
    ((settledVisiting (.first .derivativeFalsePositive) (.first 2)).getContribution 3).map
        ReviewedContribution.parentClaimId = some 2 ∧
    ((settledVisiting (.first .derivativeFalsePositive) (.first 1)).outcome 3).vesting.bank.balance
      (.user "author") = 160 ∧
    ((settledVisiting (.first .derivativeTruePositive) (.first 1)).outcome 3).vesting.bank.balance
      (.user "author") = 64 := by
  have left (overrides : MapOrder OriginalityOverride) (parents : MapOrder U64) :
      (settledVisiting overrides parents).outcome 3 =
        reviewedKeeper.settles (finalCall.visiting overrides parents) dividedSession
          (tally (finalCall.visiting overrides parents) dividedSession) :=
    reviewedKeeper.finalizeReviewSession_outcome (finalCall.visiting overrides parents) dividedSession
  have stored : reviewedKeeper.getContribution 3 =
      some ⟨3, "author", "code", 0, true, 0, .inReview, .inReview⟩ :=
    (KeyedMap.get?_insert _ _ _).trans (if_pos rfl)
  have parent (parents : MapOrder U64) := @parentClaimId_finalized _ reviewedKeeper
    (finalCall.visiting (.first .derivativeFalsePositive) parents) dividedSession _ stored
  simp only [left]
  refine ⟨by decide +kernel, by decide +kernel, (parent _).trans (by decide +kernel),
    (parent _).trans (by decide +kernel), by decide +kernel, by decide +kernel⟩

end Instance

end OutcomeOfVotes

end ReviewKeeper

end Omniphi.Poc
