import Omniphi.Lib.Outcome
import Omniphi.Poc.Review

/-! Review sessions are settled once: every bond is refunded or burned, once, and every appeal likewise. -/

namespace Omniphi.Poc

open Outcome

structure Bond where
  escrow : Option Coin
  moves : List BondMove

namespace Bond

def blank : Bond := ⟨none, []⟩

def Held (b : Bond) : Prop := b = blank ∨ ∃ coin : Coin, coin.amount ≠ 0 ∧ b = ⟨some coin, [.collected coin]⟩

def settlement (majority : Bool) (coin : Coin) : BondMove :=
  if majority then .refunded coin else .burned coin

def Settled (majority : Bool) (b : Bond) : Prop :=
  b = blank ∨ ∃ coin, b = ⟨none, [.collected coin, settlement majority coin]⟩

end Bond

inductive AppealPhase : Option ReviewAppeal → List BondMove → Prop
  | unfiled : AppealPhase none []
  | filed {a : ReviewAppeal} (pending : a.resolved = false) : AppealPhase (some a) [.collected a.appealBond]
  | resolved {a : ReviewAppeal} (settled : a.resolved = true) :
      AppealPhase (some a)
        [.collected a.appealBond, if a.upheld then .burned a.appealBond else .refunded a.appealBond]

namespace ReviewKeeper

variable {lib : ReviewLibrary} {k k' : ReviewKeeper} {call : ReviewCall lib} {id : U64} {reviewer : String}

def bond (k : ReviewKeeper) (id : U64) (reviewer : String) : Bond :=
  ⟨k.reviewBondEscrows id reviewer, k.bondMoves id reviewer⟩

section Frames

structure SameReviews (k k' : ReviewKeeper) : Prop where
  reviewSessions : k'.reviewSessions = k.reviewSessions
  reviewAppeals : k'.reviewAppeals = k.reviewAppeals
  nextAppealID : k'.nextAppealID = k.nextAppealID
  reviewBondEscrows : k'.reviewBondEscrows = k.reviewBondEscrows
  bondMoves : k'.bondMoves = k.bondMoves
  appealMoves : k'.appealMoves = k.appealMoves
  finalized : k'.finalized = k.finalized
  rewarded : k'.rewarded = k.rewarded
  unsettled : k'.unsettled = k.unsettled

namespace SameReviews

theorem refl (k : ReviewKeeper) : SameReviews k k := ⟨rfl, rfl, rfl, rfl, rfl, rfl, rfl, rfl, rfl⟩

theorem trans {k'' : ReviewKeeper} (first : SameReviews k k') (second : SameReviews k' k'') :
    SameReviews k k'' where
  reviewSessions := second.reviewSessions.trans first.reviewSessions
  reviewAppeals := second.reviewAppeals.trans first.reviewAppeals
  nextAppealID := second.nextAppealID.trans first.nextAppealID
  reviewBondEscrows := second.reviewBondEscrows.trans first.reviewBondEscrows
  bondMoves := second.bondMoves.trans first.bondMoves
  appealMoves := second.appealMoves.trans first.appealMoves
  finalized := second.finalized.trans first.finalized
  rewarded := second.rewarded.trans first.rewarded
  unsettled := second.unsettled.trans first.unsettled

theorem session (same : SameReviews k k') (id : U64) : k'.getReviewSession id = k.getReviewSession id := by
  rw [getReviewSession, same.reviewSessions, getReviewSession]

theorem bond (same : SameReviews k k') (id : U64) (reviewer : String) :
    k'.bond id reviewer = k.bond id reviewer := by
  rw [ReviewKeeper.bond, same.reviewBondEscrows, same.bondMoves, ReviewKeeper.bond]

theorem foldl {α : Type} (f : ReviewKeeper → α → ReviewKeeper) (each : ∀ k a, SameReviews k (f k a))
    (k : ReviewKeeper) (items : List α) : SameReviews k (items.foldl f k) := by
  induction items generalizing k with
  | nil => exact refl k
  | cons a rest ih => exact (each k a).trans (ih (f k a))

end SameReviews

theorem setBank_same (k : ReviewKeeper) (denom : String) (bank : Bank) : SameReviews k (k.setBank denom bank) := by
  unfold setBank
  split
  · exact ⟨rfl, rfl, rfl, rfl, rfl, rfl, rfl, rfl, rfl⟩
  · exact ⟨rfl, rfl, rfl, rfl, rfl, rfl, rfl, rfl, rfl⟩

theorem sendToModule_same {refused : Bool} {account : String} {coin : Coin}
    (sent : k.sendCoinsFromAccountToModule refused account coin = some k') : SameReviews k k' := by
  unfold sendCoinsFromAccountToModule at sent
  split at sent
  · cases sent
  · obtain ⟨bank, -, rfl⟩ := Option.map_eq_some_iff.1 sent
    exact setBank_same k coin.denom bank

theorem sendFromModule_same {refused : Bool} {account : String} {coin : Coin}
    (sent : k.sendCoinsFromModuleToAccount refused account coin = some k') : SameReviews k k' := by
  unfold sendCoinsFromModuleToAccount at sent
  split at sent
  · cases sent
  · obtain ⟨bank, -, rfl⟩ := Option.map_eq_some_iff.1 sent
    exact setBank_same k coin.denom bank

theorem burnCoins_same {refused : Bool} {coin : Coin} (burned : k.burnCoins refused coin = some k') :
    SameReviews k k' := by
  unfold burnCoins at burned
  split at burned
  · cases burned
  · obtain ⟨bank, -, rfl⟩ := Option.map_eq_some_iff.1 burned
    exact setBank_same k coin.denom bank

theorem setContribution_same (k : ReviewKeeper) (c : ReviewedContribution) :
    SameReviews k (k.setContribution c) := ⟨rfl, rfl, rfl, rfl, rfl, rfl, rfl, rfl, rfl⟩

theorem setReviewerProfile_same (k : ReviewKeeper) (profile : ReviewerProfile) :
    SameReviews k (k.setReviewerProfile profile) := ⟨rfl, rfl, rfl, rfl, rfl, rfl, rfl, rfl, rfl⟩

theorem setPendingReviewIndex_same (k : ReviewKeeper) (endHeight : Int) (id : U64) :
    SameReviews k (k.setPendingReviewIndex endHeight id) := ⟨rfl, rfl, rfl, rfl, rfl, rfl, rfl, rfl, rfl⟩

theorem deletePendingReviewIndex_same (k : ReviewKeeper) (endHeight id : U64) :
    SameReviews k (k.deletePendingReviewIndex endHeight id) := ⟨rfl, rfl, rfl, rfl, rfl, rfl, rfl, rfl, rfl⟩

theorem setVesting_same (k : ReviewKeeper) (vesting : VestingKeeper) :
    SameReviews k { k with vesting := vesting } := ⟨rfl, rfl, rfl, rfl, rfl, rfl, rfl, rfl, rfl⟩

theorem transitionClaimStatus_same (k : ReviewKeeper) (id : U64) (status : ClaimStatus) :
    SameReviews k (k.transitionClaimStatus id status) := by
  unfold transitionClaimStatus
  split
  · exact .refl k
  · split
    · exact setContribution_same k _
    · exact .refl k

theorem updateCoVotingRecords_same (k : ReviewKeeper) (height : Int) (session : ReviewSession) :
    SameReviews k (k.updateCoVotingRecords height session) :=
  SameReviews.foldl (updateCoVotingPair height session)
    (fun _ _ => ⟨rfl, rfl, rfl, rfl, rfl, rfl, rfl, rfl, rfl⟩) k _

theorem penaliseVoters_same (lib : ReviewLibrary) (k : ReviewKeeper) (session : ReviewSession) (decision : ReviewVoteDecision) :
    SameReviews k (k.penaliseVoters lib session decision) :=
  SameReviews.foldl penaliseReviewer (fun k _ => setReviewerProfile_same k _) k _

theorem clawbackSchedules_same (k : ReviewKeeper) (key : VestingKey) :
    SameReviews k (k.clawbackSchedules key).1 := by
  unfold clawbackSchedules
  dsimp only
  split
  · exact setVesting_same k _
  · split
    · exact setVesting_same k _
    · exact setVesting_same k _

theorem clawbackImmediate_same (k : ReviewKeeper) (call : ReviewCall lib) (contributor : String) :
    SameReviews k (k.clawbackImmediate call contributor).1 := by
  unfold clawbackImmediate
  dsimp only
  split
  · split
    · exact .refl k
    · rename_i sent
      exact sendToModule_same sent
  · exact .refl k

theorem executeClawback_same {reason authority : String}
    (ran : k.executeClawback call id reason authority = .ok k') : SameReviews k k' := by
  unfold executeClawback at ran
  split at ran
  · cases ran
  · split at ran
    · cases ran
    · rename_i contribution _
      obtain rfl := Except.ok.inj ran
      have first := clawbackSchedules_same k ⟨contribution.contributor, id⟩
      have second := clawbackImmediate_same
        (k.clawbackSchedules ⟨contribution.contributor, id⟩).1 call contribution.contributor
      exact (first.trans second).trans ⟨rfl, rfl, rfl, rfl, rfl, rfl, rfl, rfl, rfl⟩

theorem clawbackRewards_same (k : ReviewKeeper) (call : ReviewCall lib) (id : U64)
    (contributor authority : String) :
    SameReviews k (k.clawbackRewards call id contributor authority) := by
  unfold clawbackRewards
  split
  · rename_i ran
    exact executeClawback_same ran
  · exact setVesting_same k _

theorem revoke_same (k : ReviewKeeper) (call : ReviewCall lib) (contribution : ReviewedContribution)
    (appeal : ReviewAppeal) (authority : String) :
    SameReviews k (k.revoke call contribution appeal authority) := by
  unfold revoke
  refine (clawbackRewards_same k call appeal.contributionID contribution.contributor authority).trans ?_
  dsimp only
  split
  · exact .refl _
  · split
    · exact ⟨rfl, rfl, rfl, rfl, rfl, rfl, rfl, rfl, rfl⟩
    · exact setVesting_same _ _

end Frames

section Bonds

structure BondsOnly (id : U64) (reviewers : List String) (k k' : ReviewKeeper) : Prop where
  reviewSessions : k'.reviewSessions = k.reviewSessions
  reviewAppeals : k'.reviewAppeals = k.reviewAppeals
  nextAppealID : k'.nextAppealID = k.nextAppealID
  appealMoves : k'.appealMoves = k.appealMoves
  finalized : k'.finalized = k.finalized
  rewarded : k'.rewarded = k.rewarded
  unsettled : k.unsettled ⊆ k'.unsettled
  bonds : ∀ other r, other ≠ id ∨ r ∉ reviewers → k'.bond other r = k.bond other r

namespace BondsOnly

variable {reviewers : List String}

theorem of_same (same : SameReviews k k') : BondsOnly id reviewers k k' where
  reviewSessions := same.reviewSessions
  reviewAppeals := same.reviewAppeals
  nextAppealID := same.nextAppealID
  appealMoves := same.appealMoves
  finalized := same.finalized
  rewarded := same.rewarded
  unsettled := by rw [same.unsettled]; exact List.Subset.refl _
  bonds other r _ := same.bond other r

theorem trans {k'' : ReviewKeeper} (first : BondsOnly id reviewers k k')
    (second : BondsOnly id reviewers k' k'') : BondsOnly id reviewers k k'' where
  reviewSessions := second.reviewSessions.trans first.reviewSessions
  reviewAppeals := second.reviewAppeals.trans first.reviewAppeals
  nextAppealID := second.nextAppealID.trans first.nextAppealID
  appealMoves := second.appealMoves.trans first.appealMoves
  finalized := second.finalized.trans first.finalized
  rewarded := second.rewarded.trans first.rewarded
  unsettled := List.Subset.trans first.unsettled second.unsettled
  bonds other r outside := (second.bonds other r outside).trans (first.bonds other r outside)

theorem mono {more : List String} (only : BondsOnly id reviewers k k') (within : reviewers ⊆ more) :
    BondsOnly id more k k' where
  reviewSessions := only.reviewSessions
  reviewAppeals := only.reviewAppeals
  nextAppealID := only.nextAppealID
  appealMoves := only.appealMoves
  finalized := only.finalized
  rewarded := only.rewarded
  unsettled := only.unsettled
  bonds other r outside := only.bonds other r (outside.imp_right fun absent listed => absent (within listed))

end BondsOnly

theorem bond_recorded (k : ReviewKeeper) (id : U64) (reviewer : String) (escrow : Option Coin)
    (move : BondMove) (other : U64) (r : String) :
    ((k.setEscrow reviewer id escrow).recordBond id reviewer move).bond other r =
      if other = id ∧ r = reviewer then ⟨escrow, (k.bond id reviewer).moves ++ [move]⟩ else k.bond other r := by
  by_cases here : other = id ∧ r = reviewer
  · obtain ⟨rfl, rfl⟩ := here
    simp [bond, setEscrow, recordBond]
  · simp [bond, setEscrow, recordBond, here]

theorem bondsOnly_recorded (k : ReviewKeeper) (id : U64) (reviewer : String) (escrow : Option Coin)
    (move : BondMove) :
    BondsOnly id [reviewer] k ((k.setEscrow reviewer id escrow).recordBond id reviewer move) where
  reviewSessions := rfl
  reviewAppeals := rfl
  nextAppealID := rfl
  appealMoves := rfl
  finalized := rfl
  rewarded := rfl
  unsettled := List.Subset.refl _
  bonds other r outside := by
    rw [bond_recorded, if_neg]
    rintro ⟨same, listed⟩
    rcases outside with elsewhere | absent
    · exact elsewhere same
    · exact absent (listed ▸ List.mem_singleton_self r)

theorem collectReviewerBond_ok {bond : Coin} (ran : k.collectReviewerBond call reviewer id bond = .ok k') :
    BondsOnly id [reviewer] k k' ∧ (k.bond id reviewer = .blank → (k'.bond id reviewer).Held) := by
  unfold collectReviewerBond at ran
  split at ran
  · obtain rfl := Except.ok.inj ran
    exact ⟨.of_same (.refl k), .inl⟩
  rename_i some_bond
  split at ran
  · cases ran
  cases sent : k.sendCoinsFromAccountToModule (call.refusedBond (.collect reviewer)) reviewer bond with
  | none =>
      rw [sent] at ran
      cases ran
  | some paid =>
      rw [sent] at ran
      obtain rfl := Except.ok.inj ran
      have same := sendToModule_same sent
      refine ⟨(BondsOnly.of_same same).trans (bondsOnly_recorded paid id reviewer _ _), fun blank => ?_⟩
      refine .inr ⟨bond, some_bond, ?_⟩
      rw [bond_recorded, if_pos ⟨rfl, rfl⟩, same.bond, blank]
      rfl

theorem collectReviewerBonds_ok {bond : Coin} {reviewers : List String} (distinct : reviewers.Nodup)
    (canonical : ∀ r ∈ reviewers, lib.addresses.accAddress r = some r)
    (ran : collectReviewerBonds call id bond reviewers k = .ok k') :
    BondsOnly id reviewers k k' ∧ ∀ r ∈ reviewers, k.bond id r = .blank → (k'.bond id r).Held := by
  induction reviewers generalizing k with
  | nil =>
      obtain rfl := Except.ok.inj ran
      refine ⟨.of_same (.refl k), ?_⟩
      intro r member
      cases member
  | cons reviewer rest ih =>
      rw [collectReviewerBonds, canonical reviewer List.mem_cons_self] at ran
      dsimp only at ran
      obtain ⟨absent, distinct⟩ := List.nodup_cons.1 distinct
      cases collected : k.collectReviewerBond call reviewer id bond with
      | error error =>
          rw [collected] at ran
          cases ran
      | ok paid =>
          rw [collected] at ran
          obtain ⟨first, held⟩ := collectReviewerBond_ok collected
          obtain ⟨others, held'⟩ := ih distinct (fun r member => canonical r (List.mem_cons_of_mem _ member)) ran
          refine ⟨(first.mono ?_).trans (others.mono (List.subset_cons_self _ _)), ?_⟩
          · intro r member
            rw [List.mem_singleton.1 member]
            exact List.mem_cons_self
          · intro r member blank
            obtain rfl | member := List.mem_cons.1 member
            · rw [others.bonds id r (.inr absent)]
              exact held blank
            · refine held' r member ?_
              rw [first.bonds id r (.inr ?_)]
              · exact blank
              · intro listed
                exact absent (List.mem_singleton.1 listed ▸ member)

theorem settleReviewerBond_spec (k : ReviewKeeper) (id : U64) (reviewer : String)
    (transfer : Coin → Option ReviewKeeper) (move : Coin → BondMove)
    (frame : ∀ coin paid, transfer coin = some paid → SameReviews k paid) :
    BondsOnly id [reviewer] k (k.settleReviewerBond reviewer id transfer move) ∧
      ((k.bond id reviewer).Held →
        (k.settleReviewerBond reviewer id transfer move).bond id reviewer = .blank ∨
          (∃ coin, (k.settleReviewerBond reviewer id transfer move).bond id reviewer =
            ⟨none, [.collected coin, move coin]⟩) ∨
          (id, reviewer) ∈ (k.settleReviewerBond reviewer id transfer move).unsettled) := by
  unfold settleReviewerBond
  cases escrow : k.getReviewBondEscrow reviewer id with
  | none =>
      refine ⟨.of_same (.refl k), ?_⟩
      rintro (blank | ⟨coin, -, held⟩)
      · exact .inl blank
      · have same := congrArg Bond.escrow held
        cases escrow.symm.trans same
  | some coin =>
      dsimp only
      split
      · rename_i empty
        refine ⟨.of_same (.refl k), ?_⟩
        rintro (blank | ⟨held, some_bond, here⟩)
        · exact .inl blank
        · have same := congrArg Bond.escrow here
          obtain rfl := Option.some.inj (escrow.symm.trans same)
          exact absurd empty some_bond
      · split
        · refine ⟨⟨rfl, rfl, rfl, rfl, rfl, rfl, List.subset_cons_self _ _, fun _ _ _ => rfl⟩, fun _ => ?_⟩
          exact .inr (.inr List.mem_cons_self)
        · rename_i paid sent
          have same := frame coin paid sent
          refine ⟨(BondsOnly.of_same same).trans (bondsOnly_recorded paid id reviewer _ _), ?_⟩
          rintro (blank | ⟨held, -, here⟩)
          · have none := congrArg Bond.escrow blank
            cases escrow.symm.trans none
          · have listed := congrArg Bond.escrow here
            obtain rfl := Option.some.inj (escrow.symm.trans listed)
            refine .inr (.inl ⟨coin, ?_⟩)
            rw [bond_recorded, if_pos ⟨rfl, rfl⟩, same.bond, here]
            rfl

theorem settleReviewer_spec (call : ReviewCall lib) (session : ReviewSession) (decision : ReviewVoteDecision)
    (k : ReviewKeeper) (canonical : lib.addresses.accAddress reviewer = some reviewer) :
    BondsOnly session.contributionID [reviewer] k (settleReviewer call session decision k reviewer) ∧
      ((k.bond session.contributionID reviewer).Held →
        ((settleReviewer call session decision k reviewer).bond session.contributionID reviewer).Settled
            (session.votedFor decision reviewer) ∨
          (session.contributionID, reviewer) ∈ (settleReviewer call session decision k reviewer).unsettled) := by
  unfold settleReviewer
  rw [canonical]
  dsimp only
  cases majority : session.votedFor decision reviewer with
  | true =>
      obtain ⟨only, settles⟩ := settleReviewerBond_spec k session.contributionID reviewer
        (k.sendCoinsFromModuleToAccount (call.refusedBond (.refund reviewer)) reviewer) .refunded
        (fun coin paid sent => sendFromModule_same sent)
      refine ⟨only.trans (.of_same (setReviewerProfile_same _ _)), fun held => ?_⟩
      rcases settles held with blank | ⟨coin, refunded⟩ | noted
      · exact .inl (.inl blank)
      · exact .inl (.inr ⟨coin, refunded⟩)
      · exact .inr noted
  | false =>
      obtain ⟨only, settles⟩ := settleReviewerBond_spec k session.contributionID reviewer
        (k.burnCoins (call.refusedBond (.burn reviewer))) .burned
        (fun coin paid burned => burnCoins_same burned)
      refine ⟨only.trans (.of_same (setReviewerProfile_same _ _)), fun held => ?_⟩
      rcases settles held with blank | ⟨coin, burned⟩ | noted
      · exact .inl (.inl blank)
      · exact .inl (.inr ⟨coin, burned⟩)
      · exact .inr noted

theorem settleAll_spec (call : ReviewCall lib) (session : ReviewSession) (decision : ReviewVoteDecision)
    {reviewers : List String} (distinct : reviewers.Nodup) (canonical : ∀ r ∈ reviewers, lib.addresses.accAddress r = some r)
    (k : ReviewKeeper) :
    BondsOnly session.contributionID reviewers k
        (reviewers.foldl (settleReviewer call session decision) k) ∧
      ∀ r ∈ reviewers, (k.bond session.contributionID r).Held →
        ((reviewers.foldl (settleReviewer call session decision) k).bond session.contributionID r).Settled
            (session.votedFor decision r) ∨
          (session.contributionID, r) ∈ (reviewers.foldl (settleReviewer call session decision) k).unsettled := by
  induction reviewers generalizing k with
  | nil =>
      refine ⟨.of_same (.refl k), ?_⟩
      intro r member
      cases member
  | cons reviewer rest ih =>
      obtain ⟨absent, distinct⟩ := List.nodup_cons.1 distinct
      obtain ⟨first, settled⟩ := settleReviewer_spec call session decision k
        (canonical reviewer List.mem_cons_self)
      obtain ⟨others, settled'⟩ := ih distinct (fun r member => canonical r (List.mem_cons_of_mem _ member))
        (settleReviewer call session decision k reviewer)
      rw [List.foldl_cons]
      refine ⟨(first.mono ?_).trans (others.mono (List.subset_cons_self _ _)), ?_⟩
      · intro r member
        rw [List.mem_singleton.1 member]
        exact List.mem_cons_self
      · intro r member held
        obtain rfl | member := List.mem_cons.1 member
        · rw [others.bonds _ r (.inr absent)]
          exact (settled held).imp_right fun noted => others.unsettled noted
        · refine settled' r member ?_
          rw [first.bonds _ r (.inr ?_)]
          · exact held
          · intro listed
            exact absent (List.mem_singleton.1 listed ▸ member)

end Bonds

section Settling

structure SameAt (id : U64) (k k' : ReviewKeeper) : Prop where
  session : k'.getReviewSession id = k.getReviewSession id
  bonds : ∀ r, k'.bond id r = k.bond id r
  finalized : ∀ d, (id, d) ∈ k'.finalized ↔ (id, d) ∈ k.finalized
  rewarded : id ∈ k'.rewarded ↔ id ∈ k.rewarded
  unsettled : k.unsettled ⊆ k'.unsettled

theorem SameAt.of_same (same : SameReviews k k') (id : U64) : SameAt id k k' where
  session := same.session id
  bonds r := same.bond id r
  finalized d := by rw [same.finalized]
  rewarded := by rw [same.rewarded]
  unsettled := by rw [same.unsettled]; exact List.Subset.refl _

def OnlyAt (id : U64) (k k' : ReviewKeeper) : Prop := ∀ other, other ≠ id → SameAt other k k'

structure Unsettled (k : ReviewKeeper) (id : U64) : Prop where
  finalized : ∀ d, (id, d) ∉ k.finalized
  rewarded : id ∉ k.rewarded

/-- The reviewers are distinct accounts, and only they have bonds in escrow. -/
structure Bonded (lib : ReviewLibrary) (k : ReviewKeeper) (session : ReviewSession) : Prop where
  distinct : session.assignedReviewers.Nodup
  canonical : ∀ r ∈ session.assignedReviewers, lib.addresses.accAddress r = some r
  held : ∀ r ∈ session.assignedReviewers, (k.bond session.contributionID r).Held
  others : ∀ r, r ∉ session.assignedReviewers → k.bond session.contributionID r = .blank

/-- The bonds of the session are settled by its votes for the decision, those aside that the bank refused. -/
def SettledFor (k : ReviewKeeper) (session : ReviewSession) (decision : ReviewVoteDecision) : Prop :=
  ∀ r, (session.contributionID, r) ∉ k.unsettled →
    (k.bond session.contributionID r).Settled (session.votedFor decision r)

inductive Phase (lib : ReviewLibrary) (k : ReviewKeeper) (id : U64) : Prop
  | unopened (absent : k.getReviewSession id = none) (fresh : Unsettled k id)
      (blank : ∀ r, k.bond id r = .blank)
  | opened {session : ReviewSession} (found : k.getReviewSession id = some session)
      (status : session.status = .inReview) (fresh : Unsettled k id) (bonded : Bonded lib k session)
  | closed {session : ReviewSession} (found : k.getReviewSession id = some session)
      (status : session.status ≠ .inReview) {decision : ReviewVoteDecision}
      (finalized : (id, decision) ∈ k.finalized) (settled : SettledFor k session decision)

theorem contributionID_of_found {session : ReviewSession} (found : k.getReviewSession id = some session) :
    session.contributionID = id :=
  KeyedMap.key_of_get? _ found

theorem Phase.congr (phase : Phase lib k id) (same : SameAt id k k') : Phase lib k' id := by
  have keeps : Unsettled k id → Unsettled k' id := fun fresh =>
    ⟨fun d listed => fresh.finalized d ((same.finalized d).1 listed),
      fun listed => fresh.rewarded (same.rewarded.1 listed)⟩
  cases phase with
  | unopened absent fresh blank =>
      refine .unopened (same.session.trans absent) (keeps fresh) fun r => ?_
      exact (same.bonds r).trans (blank r)
  | @opened session found status fresh bonded =>
      obtain rfl := contributionID_of_found found
      refine .opened (same.session.trans found) status (keeps fresh) ⟨bonded.distinct, bonded.canonical,
        fun r member => ?_, fun r absent => ?_⟩
      · rw [same.bonds]
        exact bonded.held r member
      · exact (same.bonds r).trans (bonded.others r absent)
  | @closed session found status decision finalized settled =>
      obtain rfl := contributionID_of_found found
      refine .closed (same.session.trans found) status ((same.finalized decision).2 finalized) fun r listed => ?_
      rw [same.bonds]
      exact settled r fun noted => listed (same.unsettled noted)

structure Pays (id : U64) (k k' : ReviewKeeper) : Prop where
  reviewSessions : k'.reviewSessions = k.reviewSessions
  reviewAppeals : k'.reviewAppeals = k.reviewAppeals
  nextAppealID : k'.nextAppealID = k.nextAppealID
  appealMoves : k'.appealMoves = k.appealMoves
  finalized : k'.finalized = k.finalized
  rewarded : k'.rewarded = k.rewarded ∨ k'.rewarded = id :: k.rewarded
  unsettled : k'.unsettled = k.unsettled
  bonds : ∀ other r, k'.bond other r = k.bond other r

theorem applyVerdict_pays (k : ReviewKeeper) (call : ReviewCall lib) (id : U64) (tally : Tally) :
    Pays id k (k.applyVerdict call id tally) := by
  unfold applyVerdict
  cases found : k.getContribution id with
  | none => exact ⟨rfl, rfl, rfl, rfl, rfl, .inl rfl, rfl, fun _ _ => rfl⟩
  | some contribution =>
      have named : contribution.id = id := KeyedMap.key_of_get? _ found
      subst named
      dsimp only
      unfold distributeReviewReward
      split
      · dsimp only
        split
        · exact ⟨rfl, rfl, rfl, rfl, rfl, .inr rfl, rfl, fun _ _ => rfl⟩
        · exact ⟨rfl, rfl, rfl, rfl, rfl, .inl rfl, rfl, fun _ _ => rfl⟩
      · exact ⟨rfl, rfl, rfl, rfl, rfl, .inl rfl, rfl, fun _ _ => rfl⟩

structure Finalizes (session : ReviewSession) (k k' : ReviewKeeper) : Prop where
  only : OnlyAt session.contributionID k k'
  reviewAppeals : k'.reviewAppeals = k.reviewAppeals
  nextAppealID : k'.nextAppealID = k.nextAppealID
  appealMoves : k'.appealMoves = k.appealMoves
  rewarded : k'.rewarded = k.rewarded ∨ k'.rewarded = session.contributionID :: k.rewarded
  settled : ∃ settled decision, k'.getReviewSession session.contributionID = some settled ∧
    settled.status ≠ .inReview ∧ k'.finalized = (session.contributionID, decision) :: k.finalized ∧
    SettledFor k' settled decision

theorem session_setReviewSession (k : ReviewKeeper) (session : ReviewSession) (other : U64) :
    (k.setReviewSession session).getReviewSession other =
      if session.contributionID = other then some session else k.getReviewSession other :=
  KeyedMap.get?_insert _ _ _

theorem bond_setReviewSession (k : ReviewKeeper) (session : ReviewSession) (other : U64) (r : String) :
    (k.setReviewSession session).bond other r = k.bond other r := rfl

theorem finalizeReviewSession_finalizes {session : ReviewSession} (bonded : Bonded lib k session) :
    Finalizes session k (k.finalizeReviewSession call session) := by
  have pays := applyVerdict_pays k call session.contributionID (tally call session)
  obtain ⟨only, settles⟩ := settleAll_spec call session (tally call session).decision bonded.distinct
    bonded.canonical (k.applyVerdict call session.contributionID (tally call session))
  unfold finalizeReviewSession
  dsimp only
  generalize k.applyVerdict call session.contributionID (tally call session) = paid at pays only settles ⊢
  generalize session.assignedReviewers.foldl (settleReviewer call session (tally call session).decision) paid =
    middle at only settles ⊢
  generalize verdict : ({ session with
      status := if (tally call session).accepted then ReviewStatus.accepted else ReviewStatus.rejected
      finalDecision := (tally call session).decision
      overrideApplied := (tally call session).overrideApplied
      finalQuality := (tally call session).quality } : ReviewSession) = settled
  have named : settled.contributionID = session.contributionID := by rw [← verdict]
  have votes : settled.votes = session.votes := by rw [← verdict]
  have judged : settled.status ≠ .inReview := by
    rw [← verdict]
    dsimp only
    split
    · exact fun same => ReviewStatus.noConfusion same
    · exact fun same => ReviewStatus.noConfusion same
  have voting := updateCoVotingRecords_same middle call.height settled
  generalize middle.updateCoVotingRecords call.height settled = counted at voting ⊢
  have closing := (deletePendingReviewIndex_same (counted.setReviewSession settled)
    (BitVec.ofInt 64 session.endHeight) session.contributionID).trans (transitionClaimStatus_same _
      session.contributionID (if (tally call session).accepted then .accepted else .rejected))
  generalize ((counted.setReviewSession settled).deletePendingReviewIndex (BitVec.ofInt 64 session.endHeight)
    session.contributionID).transitionClaimStatus session.contributionID
      (if (tally call session).accepted then .accepted else .rejected) = final at closing ⊢
  have bonds (other : U64) (r : String) : final.bond other r = middle.bond other r := by
    rw [closing.bond, bond_setReviewSession, voting.bond]
  have sessions (other : U64) : final.getReviewSession other =
      if session.contributionID = other then some settled else k.getReviewSession other := by
    rw [closing.session, session_setReviewSession, named, voting.session, getReviewSession, only.reviewSessions,
      pays.reviewSessions, getReviewSession]
  have decided : final.finalized = k.finalized := by
    rw [closing.finalized]
    exact voting.finalized.trans (only.finalized.trans pays.finalized)
  have paidOnce : final.rewarded = paid.rewarded := by
    rw [closing.rewarded]
    exact voting.rewarded.trans only.rewarded
  have noted : final.unsettled = middle.unsettled := by
    rw [closing.unsettled]
    exact voting.unsettled
  constructor
  case only =>
    intro other elsewhere
    constructor
    case session => exact (sessions other).trans (if_neg (Ne.symm elsewhere))
    case bonds =>
      intro r
      show final.bond other r = _
      rw [bonds, only.bonds other r (.inl elsewhere), pays.bonds]
    case finalized =>
      intro d
      show (other, d) ∈ (session.contributionID, _) :: final.finalized ↔ _
      rw [List.mem_cons, decided, Prod.mk.injEq]
      exact or_iff_right fun same => elsewhere same.1
    case rewarded =>
      show other ∈ final.rewarded ↔ _
      rw [paidOnce]
      rcases pays.rewarded with none | once
      · rw [none]
      · rw [once, List.mem_cons]
        exact or_iff_right elsewhere
    case unsettled =>
      show k.unsettled ⊆ final.unsettled
      rw [noted, ← pays.unsettled]
      exact only.unsettled
  case reviewAppeals =>
    show final.reviewAppeals = _
    rw [closing.reviewAppeals]
    exact voting.reviewAppeals.trans (only.reviewAppeals.trans pays.reviewAppeals)
  case nextAppealID =>
    show final.nextAppealID = _
    rw [closing.nextAppealID]
    exact voting.nextAppealID.trans (only.nextAppealID.trans pays.nextAppealID)
  case appealMoves =>
    show final.appealMoves = _
    rw [closing.appealMoves]
    exact voting.appealMoves.trans (only.appealMoves.trans pays.appealMoves)
  case rewarded =>
    show final.rewarded = _ ∨ final.rewarded = _
    rw [paidOnce]
    exact pays.rewarded
  case settled =>
    refine ⟨settled, (tally call session).decision, (sessions _).trans (if_pos rfl), judged, ?_, ?_⟩
    · show (_ :: final.finalized) = _
      rw [decided]
    · intro r unnoted
      rw [named] at unnoted ⊢
      have unnoted : (session.contributionID, r) ∉ middle.unsettled := by
        rw [← noted]
        exact unnoted
      have ballots : settled.votedFor (tally call session).decision r =
          session.votedFor (tally call session).decision r := by
        rw [ReviewSession.votedFor, votes, ReviewSession.votedFor]
      show (final.bond session.contributionID r).Settled _
      rw [ballots, bonds]
      by_cases assigned : r ∈ session.assignedReviewers
      · refine (settles r assigned ?_).resolve_right unnoted
        rw [pays.bonds]
        exact bonded.held r assigned
      · rw [only.bonds _ r (.inr assigned), pays.bonds]
        exact .inl (bonded.others r assigned)

end Settling

section Judging

structure Rejudges (session : ReviewSession) (appeal : ReviewAppeal) (move : BondMove) (next : Nat)
    (k k' : ReviewKeeper) : Prop where
  reviewSessions : k'.reviewSessions = k.reviewSessions.insert session
  reviewAppeals : k'.reviewAppeals = k.reviewAppeals.insert appeal
  nextAppealID : k'.nextAppealID = next
  appealMoves : k'.appealMoves = (k.recordAppeal appeal.appealID move).appealMoves
  reviewBondEscrows : k'.reviewBondEscrows = k.reviewBondEscrows
  bondMoves : k'.bondMoves = k.bondMoves
  finalized : k'.finalized = k.finalized
  rewarded : k'.rewarded = k.rewarded
  unsettled : k'.unsettled = k.unsettled

namespace Rejudges

variable {session : ReviewSession} {appeal : ReviewAppeal} {move : BondMove} {next : Nat}

theorem after {k'' : ReviewKeeper} (rejudges : Rejudges session appeal move next k' k'')
    (same : SameReviews k k') : Rejudges session appeal move next k k'' where
  reviewSessions := rejudges.reviewSessions.trans (congrArg (KeyedMap.insert · session) same.reviewSessions)
  reviewAppeals := rejudges.reviewAppeals.trans (congrArg (KeyedMap.insert · appeal) same.reviewAppeals)
  nextAppealID := rejudges.nextAppealID
  appealMoves := by rw [rejudges.appealMoves, recordAppeal, recordAppeal, same.appealMoves]
  reviewBondEscrows := rejudges.reviewBondEscrows.trans same.reviewBondEscrows
  bondMoves := rejudges.bondMoves.trans same.bondMoves
  finalized := rejudges.finalized.trans same.finalized
  rewarded := rejudges.rewarded.trans same.rewarded
  unsettled := rejudges.unsettled.trans same.unsettled

theorem followed {k'' : ReviewKeeper} (rejudges : Rejudges session appeal move next k k')
    (same : SameReviews k' k'') : Rejudges session appeal move next k k'' where
  reviewSessions := same.reviewSessions.trans rejudges.reviewSessions
  reviewAppeals := same.reviewAppeals.trans rejudges.reviewAppeals
  nextAppealID := same.nextAppealID.trans rejudges.nextAppealID
  appealMoves := same.appealMoves.trans rejudges.appealMoves
  reviewBondEscrows := same.reviewBondEscrows.trans rejudges.reviewBondEscrows
  bondMoves := same.bondMoves.trans rejudges.bondMoves
  finalized := same.finalized.trans rejudges.finalized
  rewarded := same.rewarded.trans rejudges.rewarded
  unsettled := same.unsettled.trans rejudges.unsettled

theorem bond (rejudges : Rejudges session appeal move next k k') (other : U64) (r : String) :
    k'.bond other r = k.bond other r := by
  rw [ReviewKeeper.bond, rejudges.reviewBondEscrows, rejudges.bondMoves, ReviewKeeper.bond]

theorem session_eq (rejudges : Rejudges session appeal move next k k') (other : U64) :
    k'.getReviewSession other =
      if session.contributionID = other then some session else k.getReviewSession other := by
  rw [getReviewSession, rejudges.reviewSessions]
  exact KeyedMap.get?_insert _ _ _

theorem appeal_eq (rejudges : Rejudges session appeal move next k k') (other : Nat) :
    k'.getReviewAppeal other =
      if appeal.appealID = other then some appeal else k.getReviewAppeal other := by
  rw [getReviewAppeal, rejudges.reviewAppeals]
  exact KeyedMap.get?_insert _ _ _

theorem only (rejudges : Rejudges session appeal move next k k') : OnlyAt session.contributionID k k' :=
  fun other elsewhere =>
    { session := (rejudges.session_eq other).trans (if_neg (Ne.symm elsewhere))
      bonds := rejudges.bond other
      finalized := fun d => by rw [rejudges.finalized]
      rewarded := by rw [rejudges.rewarded]
      unsettled := by rw [rejudges.unsettled]; exact List.Subset.refl _ }

end Rejudges

theorem holdUp_same (k : ReviewKeeper) (id : U64) : SameReviews k (k.holdUp id) := by
  unfold holdUp
  dsimp only
  split
  · exact transitionClaimStatus_same k id _
  · rename_i contribution _
    exact ((setContribution_same k _).trans (setVesting_same _ _)).trans (transitionClaimStatus_same _ id _)

theorem fileAppeal_rejudges (k : ReviewKeeper) (call : ReviewCall lib) (session : ReviewSession)
    (appellant reason : String) (bond : Coin) :
    Rejudges { session with status := .appealed, appealID := k.nextAppealID }
      ⟨k.nextAppealID, session.contributionID, appellant, reason, bond, call.height, 0, false, false, ""⟩
      (.collected bond) (k.nextAppealID + 1) k (k.fileAppeal call session appellant reason bond) := by
  have stored : Rejudges { session with status := .appealed, appealID := k.nextAppealID }
      ⟨k.nextAppealID, session.contributionID, appellant, reason, bond, call.height, 0, false, false, ""⟩
      (.collected bond) (k.nextAppealID + 1) k (k.storeAppeal call session appellant reason bond) :=
    ⟨rfl, rfl, rfl, rfl, rfl, rfl, rfl, rfl, rfl⟩
  exact stored.followed (holdUp_same _ _)

theorem resumeAccepted_same (k : ReviewKeeper) (appeal : ReviewAppeal) (session : ReviewSession) :
    SameReviews k (k.resumeAccepted appeal session) := by
  unfold resumeAccepted
  split
  · split
    · exact .refl k
    · exact setVesting_same k _
  · exact .refl k

theorem reverseClaim_same (k : ReviewKeeper) (call : ReviewCall lib) (appeal : ReviewAppeal)
    (session : ReviewSession) (authority : String) :
    SameReviews k (k.reverseClaim call appeal session authority) := by
  unfold reverseClaim
  split
  · exact .refl k
  · rename_i contribution _
    split
    · exact (setVesting_same k _).trans (setContribution_same _ _)
    · exact (revoke_same k call contribution appeal authority).trans (setContribution_same _ _)

theorem settleAppealBond_same {bond : Coin} {transfer : Coin → Option ReviewKeeper}
    (frame : ∀ paid, transfer bond = some paid → SameReviews k paid)
    (settled : k.settleAppealBond bond transfer = some k') : SameReviews k k' := by
  unfold settleAppealBond at settled
  split at settled
  · obtain rfl := Option.some.inj settled
    exact .refl k
  · exact frame k' settled

theorem storeVerdict_rejudges {appeal : ReviewAppeal} {move : BondMove} (call : ReviewCall lib)
    (session : ReviewSession) (upheld : Bool) (notes : String)
    (same : SameReviews (k.recordAppeal appeal.appealID move) k') :
    Rejudges session
      { appeal with resolved := true, upheld := upheld, resolvedAtHeight := call.height, resolverNotes := notes }
      move k.nextAppealID k (k'.storeVerdict call appeal session upheld notes) where
  reviewSessions := congrArg (KeyedMap.insert · session) same.reviewSessions
  reviewAppeals := congrArg (KeyedMap.insert · _) same.reviewAppeals
  nextAppealID := same.nextAppealID
  appealMoves := same.appealMoves
  reviewBondEscrows := same.reviewBondEscrows
  bondMoves := same.bondMoves
  finalized := same.finalized
  rewarded := same.rewarded
  unsettled := same.unsettled

def Resolves (appeal : ReviewAppeal) (session : ReviewSession) (k k' : ReviewKeeper) : Prop :=
  ∃ judged resolved, judged.contributionID = session.contributionID ∧ judged.votes = session.votes ∧
    judged.status ≠ .inReview ∧ resolved.appealID = appeal.appealID ∧
    resolved.contributionID = appeal.contributionID ∧ resolved.appealBond = appeal.appealBond ∧
    resolved.resolved = true ∧
    Rejudges judged resolved
      (if resolved.upheld then .burned appeal.appealBond else .refunded appeal.appealBond) k.nextAppealID k k'

theorem upholdVerdict_resolves {appeal : ReviewAppeal} {session : ReviewSession} {notes : String}
    (ran : k.upholdVerdict call appeal session notes = .ok k') : Resolves appeal session k k' := by
  unfold upholdVerdict at ran
  cases burned : k.settleAppealBond appeal.appealBond (k.burnCoins (call.refusedBond .burnAppeal)) with
  | none =>
      rw [burned] at ran
      cases ran
  | some paid =>
      rw [burned] at ran
      obtain rfl := Except.ok.inj ran
      have same := settleAppealBond_same (fun _ sent => burnCoins_same sent) burned
      have rejudges := (storeVerdict_rejudges call
        { session with status := if session.finalDecision = .accept then .accepted else .rejected } true notes
        (resumeAccepted_same (paid.recordAppeal appeal.appealID (.burned appeal.appealBond)) appeal
          session)).after same
      rw [same.nextAppealID] at rejudges
      have judged : (if session.finalDecision = .accept then ReviewStatus.accepted else .rejected) ≠ .inReview := by
        split
        · exact fun same => ReviewStatus.noConfusion same
        · exact fun same => ReviewStatus.noConfusion same
      exact ⟨{ session with status := if session.finalDecision = .accept then .accepted else .rejected },
        { appeal with
          resolved := true, upheld := true, resolvedAtHeight := call.height, resolverNotes := notes },
        rfl, rfl, judged, rfl, rfl, rfl, rfl, rejudges⟩

theorem overturned_judged (session : ReviewSession) :
    (overturned session).contributionID = session.contributionID ∧ (overturned session).votes = session.votes ∧
      (overturned session).status ≠ .inReview := by
  unfold overturned
  split
  · exact ⟨rfl, rfl, fun same => ReviewStatus.noConfusion same⟩
  · exact ⟨rfl, rfl, fun same => ReviewStatus.noConfusion same⟩

theorem overturnVerdict_resolves {appeal : ReviewAppeal} {session : ReviewSession}
    {account authority notes : String}
    (ran : k.overturnVerdict call appeal session account authority notes = .ok k') :
    Resolves appeal session k k' := by
  unfold overturnVerdict at ran
  cases refunded : k.settleAppealBond appeal.appealBond
      (k.sendCoinsFromModuleToAccount (call.refusedBond .refundAppeal) account) with
  | none =>
      rw [refunded] at ran
      cases ran
  | some paid =>
      rw [refunded] at ran
      obtain rfl := Except.ok.inj ran
      have same := settleAppealBond_same (fun _ sent => sendFromModule_same sent) refunded
      have reversed := reverseClaim_same (paid.recordAppeal appeal.appealID (.refunded appeal.appealBond)) call
        appeal session authority
      have rejudges := (storeVerdict_rejudges call (overturned session) false notes
        (reversed.trans (penaliseVoters_same lib _ session session.finalDecision))).after same
      rw [same.nextAppealID] at rejudges
      obtain ⟨named, votes, judged⟩ := overturned_judged session
      exact ⟨overturned session,
        { appeal with
          resolved := true, upheld := false, resolvedAtHeight := call.height, resolverNotes := notes },
        named, votes, judged, rfl, rfl, rfl, rfl, rejudges⟩

end Judging

section Selection

theorem perm_swapIfInBounds {α : Type} (items : Array α) (i j : Nat) :
    (items.swapIfInBounds i j).toList.Perm items.toList := by
  rw [Array.swapIfInBounds_def]
  split
  · split
    · exact Array.perm_iff_toList_perm.1 (Array.swap_perm _ _)
    · exact .refl _
  · exact .refl _

theorem perm_shuffle (sha256 : Sha256) (seed : Bytes) (i : Nat) (names : Array String) :
    (shuffle sha256 seed i names).toList.Perm names.toList := by
  induction i generalizing names with
  | zero => exact .refl _
  | succ i ih =>
      rw [shuffle]
      exact (ih _).trans (perm_swapIfInBounds names _ _)

theorem eligibleReviewers_spec (k : ReviewKeeper) (call : ReviewCall lib) (contributor : String) :
    (k.eligibleReviewers call contributor).Nodup ∧
      ∀ r ∈ k.eligibleReviewers call contributor, lib.addresses.accAddress r = some r := by
  unfold eligibleReviewers
  dsimp only
  have perm := List.mergeSort_perm (((call.credits.credits.filter fun credits =>
    decide (credits.address ≠ contributor ∧ call.params.minReviewerReputation ≤ credits.amount ∧
      k.isSuspended credits.address = false)).map Credits.address)) fun a b => decide (a ≤ b)
  constructor
  · exact perm.nodup_iff.2 (call.credits.distinct.sublist (List.Sublist.map _ List.filter_sublist))
  · intro r member
    obtain ⟨credits, listed, rfl⟩ := List.mem_map.1 (perm.mem_iff.1 member)
    exact call.credits.canonical credits (List.mem_of_mem_filter listed)

theorem selectReviewers_ok {contributor : String} {n : Nat} {selected : List String × Bytes}
    (ran : k.selectReviewers call id contributor n = .ok selected) :
    selected.1.Nodup ∧ ∀ r ∈ selected.1, lib.addresses.accAddress r = some r := by
  unfold selectReviewers at ran
  dsimp only at ran
  split at ran
  · cases ran
  · obtain rfl := Except.ok.inj ran
    obtain ⟨distinct, canonical⟩ := eligibleReviewers_spec k call contributor
    have perm := perm_shuffle lib.sha256
      (beBytes 32 (lib.sha256 (call.lastCommitHash ++ call.headerHash ++ beBytes 8 id)))
      ((k.eligibleReviewers call contributor).length - 1) (k.eligibleReviewers call contributor).toArray
    refine ⟨(perm.nodup_iff.2 distinct).sublist (List.take_sublist _ _), ?_⟩
    intro r member
    exact canonical r (perm.mem_iff.1 (List.mem_of_mem_take member))

theorem expandOnCollusion_ok {contributor : String} {n : Nat} {selected : List String × Bytes}
    (ran : k.selectReviewers call id contributor n = .ok selected) :
    (k.expandOnCollusion call id contributor selected).1.Nodup ∧
      ∀ r ∈ (k.expandOnCollusion call id contributor selected).1, lib.addresses.accAddress r = some r := by
  unfold expandOnCollusion
  split
  · cases expanded : k.selectReviewers call id contributor (call.params.verifiersPerClaim + 2) with
    | error error => exact selectReviewers_ok ran
    | ok chosen => exact selectReviewers_ok expanded
  · exact selectReviewers_ok ran

end Selection

section Soundness

/-- Every review is in one of its phases, settled and paid once, and every appeal is of a settled review. -/
structure Sound (lib : ReviewLibrary) (k : ReviewKeeper) : Prop where
  phase : ∀ id, Phase lib k id
  once : (k.finalized.map Prod.fst).Nodup
  paid : k.rewarded.Nodup
  appeals : ∀ i, AppealPhase (k.getReviewAppeal i) (k.appealMoves i)
  unfiled : ∀ i, k.nextAppealID ≤ i → k.getReviewAppeal i = none
  judged : ∀ i a, k.getReviewAppeal i = some a → ∃ d, (a.contributionID, d) ∈ k.finalized

theorem Sound.update (sound : Sound lib k) (id : U64) (only : OnlyAt id k k') (phase : Phase lib k' id)
    (once : (k'.finalized.map Prod.fst).Nodup) (paid : k'.rewarded.Nodup) (more : k.finalized ⊆ k'.finalized)
    (appeals : k'.reviewAppeals = k.reviewAppeals) (next : k'.nextAppealID = k.nextAppealID)
    (moves : k'.appealMoves = k.appealMoves) : Sound lib k' := by
  have same (i : Nat) : k'.getReviewAppeal i = k.getReviewAppeal i := by
    rw [getReviewAppeal, appeals, getReviewAppeal]
  refine ⟨fun other => ?_, once, paid, fun i => ?_, fun i beyond => ?_, fun i a filed => ?_⟩
  · by_cases here : other = id
    · exact here ▸ phase
    · exact (sound.phase other).congr (only other here)
  · rw [same, moves]
    exact sound.appeals i
  · rw [next] at beyond
    exact (same i).trans (sound.unfiled i beyond)
  · obtain ⟨d, listed⟩ := sound.judged i a ((same i).symm.trans filed)
    exact ⟨d, more listed⟩

theorem Sound.of_same (sound : Sound lib k) (same : SameReviews k k') : Sound lib k' := by
  refine sound.update 0 (fun other _ => .of_same same other) ((sound.phase 0).congr (.of_same same 0))
    ?_ ?_ ?_ same.reviewAppeals same.nextAppealID same.appealMoves
  · rw [same.finalized]
    exact sound.once
  · rw [same.rewarded]
    exact sound.paid
  · rw [same.finalized]
    exact List.Subset.refl _

theorem Sound.finalize (sound : Sound lib k) {session : ReviewSession}
    (fresh : Unsettled k session.contributionID) (finalizes : Finalizes session k k') : Sound lib k' := by
  obtain ⟨settled, decision, found, status, decided, bonds⟩ := finalizes.settled
  have listed : (session.contributionID, decision) ∈ k'.finalized := by
    rw [decided]
    exact List.mem_cons_self
  refine sound.update session.contributionID finalizes.only (.closed found status listed bonds) ?_ ?_ ?_ finalizes.reviewAppeals
    finalizes.nextAppealID finalizes.appealMoves
  · rw [decided, List.map_cons, List.nodup_cons]
    refine ⟨fun member => ?_, sound.once⟩
    obtain ⟨⟨_, d⟩, earlier, rfl⟩ := List.mem_map.1 member
    exact fresh.finalized d earlier
  · rcases finalizes.rewarded with none | once
    · rw [none]
      exact sound.paid
    · rw [once, List.nodup_cons]
      exact ⟨fresh.rewarded, sound.paid⟩
  · rw [decided]
    exact List.subset_cons_self _ _

theorem Sound.rejudge (sound : Sound lib k) {session old : ReviewSession} {appeal : ReviewAppeal}
    {move : BondMove} {next : Nat} (rejudges : Rejudges session appeal move next k k')
    (found : k.getReviewSession session.contributionID = some old) (votes : session.votes = old.votes)
    (status : session.status ≠ .inReview) {d : ReviewVoteDecision}
    (closed : (session.contributionID, d) ∈ k.finalized)
    (about : appeal.contributionID = session.contributionID)
    (phase : AppealPhase (some appeal) (k.appealMoves appeal.appealID ++ [move]))
    (grows : k.nextAppealID ≤ next) (filed : appeal.appealID < next) : Sound lib k' := by
  refine ⟨fun other => ?_, ?_, ?_, fun i => ?_, fun i beyond => ?_, fun i a held => ?_⟩
  · by_cases here : other = session.contributionID
    · subst here
      cases sound.phase session.contributionID with
      | unopened absent => cases absent.symm.trans found
      | opened _ _ fresh => exact absurd closed (fresh.finalized d)
      | @closed current found' _ decision listed settled =>
          obtain rfl := Option.some.inj (found'.symm.trans found)
          have named := contributionID_of_found found
          rw [← rejudges.finalized] at listed
          refine .closed ((rejudges.session_eq _).trans (if_pos rfl)) status listed fun r unnoted => ?_
          rw [rejudges.unsettled] at unnoted
          have ballots : session.votedFor decision r = current.votedFor decision r := by
            rw [ReviewSession.votedFor, votes, ReviewSession.votedFor]
          rw [ballots, rejudges.bond]
          have kept := settled r
          rw [named] at kept
          exact kept unnoted
    · exact (sound.phase other).congr (rejudges.only other here)
  · rw [rejudges.finalized]
    exact sound.once
  · rw [rejudges.rewarded]
    exact sound.paid
  · rw [rejudges.appeal_eq, rejudges.appealMoves, recordAppeal]
    dsimp only
    by_cases here : i = appeal.appealID
    · subst here
      rw [if_pos rfl, if_pos rfl]
      exact phase
    · rw [if_neg (Ne.symm here), if_neg here]
      exact sound.appeals i
  · rw [rejudges.nextAppealID] at beyond
    rw [rejudges.appeal_eq, if_neg (fun same => absurd beyond (by omega))]
    exact sound.unfiled i (grows.trans beyond)
  · rw [rejudges.finalized]
    rw [rejudges.appeal_eq] at held
    split at held
    · obtain rfl := Option.some.inj held
      exact ⟨d, about ▸ closed⟩
    · exact sound.judged i a held

end Soundness

section Steps

structure Starts (lib : ReviewLibrary) (id : U64) (k k' : ReviewKeeper) : Prop where
  absent : k.getReviewSession id = none
  session : ∃ session paid, session.contributionID = id ∧ session.status = .inReview ∧
    session.assignedReviewers.Nodup ∧
    (∀ r ∈ session.assignedReviewers, lib.addresses.accAddress r = some r) ∧
    BondsOnly id session.assignedReviewers k paid ∧
    (∀ r ∈ session.assignedReviewers, k.bond id r = .blank → (paid.bond id r).Held) ∧
    SameReviews (paid.setReviewSession session) k'

theorem processStartReview_starts {authority : String}
    (ran : k.processStartReview call authority id = .ok k') : Starts lib id k k' := by
  unfold processStartReview at ran
  split at ran
  · cases ran
  split at ran
  · cases ran
  split at ran
  · cases ran
  rename_i contribution _
  split at ran
  · cases ran
  rename_i absent
  have absent : k.getReviewSession id = none := by
    rw [Option.not_isSome_iff_eq_none] at absent
    exact absent
  obtain ⟨selected, drawn, ran⟩ := of_bind_ok ran
  obtain ⟨distinct, canonical⟩ := expandOnCollusion_ok drawn
  generalize k.expandOnCollusion call id contribution.contributor selected = chosen at ran distinct canonical
  obtain ⟨reviewers, seed⟩ := chosen
  obtain ⟨bond, -, ran⟩ := of_bind_ok ran
  obtain ⟨paid, collected, ran⟩ := of_bind_ok ran
  obtain rfl := Except.ok.inj ran
  obtain ⟨only, held⟩ := collectReviewerBonds_ok distinct canonical collected
  refine ⟨absent, { contributionID := id, status := .inReview, assignedReviewers := reviewers, votes := []
                    startHeight := call.height, endHeight := call.height + call.params.reviewVotePeriod
                    finalDecision := .accept, overrideApplied := .keepAI, finalQuality := 0, appealID := 0
                    randomSeed := seed }, paid, rfl, rfl, distinct, canonical, only, held, ?_⟩
  exact ((setContribution_same _ _).trans (setPendingReviewIndex_same _ _ _)).trans
    (transitionClaimStatus_same _ _ _)

theorem Sound.start (sound : Sound lib k) (starts : Starts lib id k k') : Sound lib k' := by
  obtain ⟨session, paid, rfl, status, distinct, canonical, only, held, same⟩ := starts.session
  have sessions (other : U64) : k'.getReviewSession other =
      if session.contributionID = other then some session else k.getReviewSession other := by
    rw [same.session, session_setReviewSession, getReviewSession, only.reviewSessions, getReviewSession]
  have finalized : k'.finalized = k.finalized := same.finalized.trans only.finalized
  have rewarded : k'.rewarded = k.rewarded := same.rewarded.trans only.rewarded
  have bonds (other : U64) (r : String) : k'.bond other r = paid.bond other r := same.bond other r
  refine sound.update session.contributionID (fun other elsewhere => ?_) ?_ ?_ ?_ ?_
    (same.reviewAppeals.trans only.reviewAppeals) (same.nextAppealID.trans only.nextAppealID)
    (same.appealMoves.trans only.appealMoves)
  · constructor
    case session => exact (sessions other).trans (if_neg (Ne.symm elsewhere))
    case bonds =>
      intro r
      exact (bonds other r).trans (only.bonds other r (.inl elsewhere))
    case finalized =>
      intro d
      rw [finalized]
    case rewarded => rw [rewarded]
    case unsettled =>
      rw [same.unsettled]
      exact only.unsettled
  · cases sound.phase session.contributionID with
    | opened found => cases starts.absent.symm.trans found
    | closed found => cases starts.absent.symm.trans found
    | unopened _ fresh blank =>
        refine .opened ((sessions _).trans (if_pos rfl)) status ⟨?_, ?_⟩
          ⟨distinct, canonical, fun r assigned => ?_, fun r outside => ?_⟩
        · rw [finalized]
          exact fresh.finalized
        · rw [rewarded]
          exact fresh.rewarded
        · rw [bonds]
          exact held r assigned (blank r)
        · rw [bonds, only.bonds _ r (.inr outside)]
          exact blank r
  · rw [finalized]
    exact sound.once
  · rw [rewarded]
    exact sound.paid
  · rw [finalized]
    exact List.Subset.refl _

theorem Sound.open (sound : Sound lib k) {session : ReviewSession}
    (found : k.getReviewSession id = some session) (status : session.status = .inReview) :
    Unsettled k session.contributionID ∧ Bonded lib k session := by
  obtain rfl := contributionID_of_found found
  cases sound.phase session.contributionID with
  | unopened absent => cases absent.symm.trans found
  | opened found' _ fresh bonded =>
      obtain rfl := Option.some.inj (found'.symm.trans found)
      exact ⟨fresh, bonded⟩
  | closed found' decided =>
      obtain rfl := Option.some.inj (found'.symm.trans found)
      exact absurd status decided

theorem Sound.vote (sound : Sound lib k) {session : ReviewSession} (voted : ReviewSession)
    (found : k.getReviewSession id = some session) (status : session.status = .inReview)
    (named : voted.contributionID = session.contributionID) (still : voted.status = .inReview)
    (assigned : voted.assignedReviewers = session.assignedReviewers) :
    Sound lib (k.setReviewSession voted) ∧ Unsettled (k.setReviewSession voted) voted.contributionID ∧
      Bonded lib (k.setReviewSession voted) voted := by
  obtain ⟨fresh, bonded⟩ := sound.open found status
  have fresh : Unsettled (k.setReviewSession voted) voted.contributionID := by
    rw [named]
    exact ⟨fresh.finalized, fresh.rewarded⟩
  have bonded : Bonded lib (k.setReviewSession voted) voted := by
    refine ⟨?_, ?_, ?_, ?_⟩
    · rw [assigned]
      exact bonded.distinct
    · rw [assigned]
      exact bonded.canonical
    · rw [assigned, named]
      exact bonded.held
    · rw [assigned, named]
      exact bonded.others
  have here : (k.setReviewSession voted).getReviewSession voted.contributionID = some voted :=
    (session_setReviewSession k voted _).trans (if_pos rfl)
  refine ⟨?_, fresh, bonded⟩
  refine sound.update voted.contributionID (fun other elsewhere => ?_) (.opened here still fresh bonded)
    sound.once sound.paid (List.Subset.refl _) rfl rfl rfl
  exact ⟨(session_setReviewSession k voted other).trans (if_neg (Ne.symm elsewhere)), fun _ => rfl,
    fun _ => Iff.rfl, Iff.rfl, List.Subset.refl _⟩

theorem processCastReviewVote_sound (sound : Sound lib k) {msg : CastVote}
    (ran : k.processCastReviewVote call id msg = .ok k') : Sound lib k' := by
  unfold processCastReviewVote at ran
  split at ran
  · cases ran
  rename_i session found
  split at ran
  · cases ran
  rename_i status
  split at ran
  · cases ran
  split at ran
  · cases ran
  split at ran
  · cases ran
  dsimp only at ran
  have status := not_not.1 status
  generalize vote : (⟨msg.reviewer, msg.decision, msg.originalityOverride, msg.qualityScore, msg.notesPointer,
    msg.parentClaimOverride, call.height⟩ : ReviewVote) = cast at ran
  obtain ⟨sound', fresh, bonded⟩ := sound.vote { session with votes := session.votes ++ [cast] } found
    status rfl status rfl
  split at ran
  · obtain rfl := Except.ok.inj ran
    exact sound'.finalize fresh (finalizeReviewSession_finalizes bonded)
  · obtain rfl := Except.ok.inj ran
    exact sound'

theorem Sound.close (sound : Sound lib k) {session : ReviewSession}
    (found : k.getReviewSession id = some session) (status : session.status = .inReview) :
    Sound lib (k.finalizeReviewSession call session) := by
  obtain ⟨fresh, bonded⟩ := sound.open found status
  exact sound.finalize fresh (finalizeReviewSession_finalizes bonded)

theorem processFinalizeReview_sound (sound : Sound lib k)
    (ran : k.processFinalizeReview call id = .ok k') : Sound lib k' := by
  unfold processFinalizeReview at ran
  split at ran
  · cases ran
  rename_i session found
  split at ran
  · cases ran
  rename_i status
  split at ran
  · cases ran
  obtain rfl := Except.ok.inj ran
  exact sound.close found (not_not.1 status)

theorem finalizeExpired_sound (sound : Sound lib k) (pending : PendingReview) :
    Sound lib (finalizeExpired call k pending) := by
  unfold finalizeExpired
  split
  · exact sound.of_same (deletePendingReviewIndex_same k _ _)
  · rename_i session found
    split
    · exact sound.of_same (deletePendingReviewIndex_same k _ _)
    · rename_i status
      exact sound.close found (not_not.1 status)

theorem finalizeExpiredReviews_sound (sound : Sound lib k) : Sound lib (k.finalizeExpiredReviews call) := by
  unfold finalizeExpiredReviews
  generalize k.pendingReviewIndex.values.filter _ = pending
  induction pending generalizing k with
  | nil => exact sound
  | cons first rest ih => exact ih (finalizeExpired_sound sound first)

theorem Sound.settled (sound : Sound lib k) {session : ReviewSession}
    (found : k.getReviewSession id = some session) (status : session.status ≠ .inReview) :
    ∃ d, (session.contributionID, d) ∈ k.finalized := by
  obtain rfl := contributionID_of_found found
  cases sound.phase session.contributionID with
  | unopened absent => cases absent.symm.trans found
  | opened found' running =>
      obtain rfl := Option.some.inj (found'.symm.trans found)
      exact absurd running status
  | closed _ _ listed => exact ⟨_, listed⟩

theorem processAppealReview_sound (sound : Sound lib k) {appellant reason : String}
    (ran : k.processAppealReview call id appellant reason = .ok k') : Sound lib k' := by
  unfold processAppealReview at ran
  split at ran
  · cases ran
  rename_i session found
  split at ran
  · cases ran
  rename_i status
  split at ran
  · cases ran
  split at ran
  · cases ran
  rename_i bond _
  split at ran
  · cases ran
  rename_i account _
  split at ran
  · cases ran
  split at ran
  · cases ran
  rename_i paid sent
  obtain rfl := Except.ok.inj ran
  have same := sendToModule_same sent
  have judged : session.status ≠ .inReview := by
    intro running
    rw [running] at status
    exact status ⟨fun same => ReviewStatus.noConfusion same, fun same => ReviewStatus.noConfusion same⟩
  obtain ⟨d, listed⟩ := sound.settled found judged
  obtain rfl := contributionID_of_found found
  have rejudges := (fileAppeal_rejudges paid call session appellant reason bond).after same
  rw [same.nextAppealID] at rejudges
  have blank : k.appealMoves k.nextAppealID = [] := by
    have phase := sound.appeals k.nextAppealID
    rw [sound.unfiled _ (le_refl _)] at phase
    generalize k.appealMoves k.nextAppealID = moves at phase
    cases phase
    rfl
  refine sound.rejudge rejudges found rfl (fun same => ReviewStatus.noConfusion same) listed rfl ?_
    (Nat.le_succ _) (Nat.lt_succ_self _)
  dsimp only
  rw [blank]
  exact .filed rfl

theorem Sound.resolve (sound : Sound lib k) {appealID : Nat} {appeal : ReviewAppeal} {session : ReviewSession}
    (found : k.getReviewAppeal appealID = some appeal) (pending : appeal.resolved = false)
    (reviewed : k.getReviewSession appeal.contributionID = some session)
    (resolves : Resolves appeal session k k') : Sound lib k' := by
  obtain ⟨judged, resolved, about, votes, status, named, claim, bond, closed, rejudges⟩ := resolves
  obtain ⟨d, listed⟩ := sound.judged appealID appeal found
  have ofClaim := contributionID_of_found reviewed
  have ofAppeal : appeal.appealID = appealID := KeyedMap.key_of_get? _ found
  have moves : k.appealMoves appealID = [.collected appeal.appealBond] := by
    have phase := sound.appeals appealID
    rw [found] at phase
    generalize k.appealMoves appealID = moves at phase
    cases phase with
    | filed => rfl
    | resolved done => cases pending.symm.trans done
  have below : appealID < k.nextAppealID := by
    by_contra beyond
    cases (sound.unfiled appealID (not_lt.1 beyond)).symm.trans found
  rw [← ofClaim, ← about] at listed
  refine sound.rejudge rejudges ?_ votes status listed (claim.trans (ofClaim.symm.trans about.symm)) ?_
    (le_refl _) ?_
  · rw [about, ofClaim]
    exact reviewed
  · rw [named, ofAppeal, moves, ← bond]
    exact .resolved closed
  · rw [named, ofAppeal]
    exact below

theorem processResolveAppeal_sound (sound : Sound lib k) {authority notes : String} {appealID : Nat}
    {upheld : Bool} (ran : k.processResolveAppeal call authority appealID upheld notes = .ok k') :
    Sound lib k' := by
  unfold processResolveAppeal at ran
  split at ran
  · cases ran
  split at ran
  · cases ran
  rename_i appeal found
  split at ran
  · cases ran
  rename_i pending
  split at ran
  · cases ran
  rename_i session reviewed
  split at ran
  · cases ran
  rename_i account _
  have pending : appeal.resolved = false := Bool.eq_false_of_not_eq_true pending
  cases upheld with
  | true =>
      obtain ⟨judged, stands, after⟩ := of_bind_ok ran
      obtain rfl := Except.ok.inj after
      have resolved := sound.resolve found pending reviewed (upholdVerdict_resolves stands)
      exact resolved.of_same (transitionClaimStatus_same judged _ _)
  | false =>
      obtain ⟨judged, falls, after⟩ := of_bind_ok ran
      obtain rfl := Except.ok.inj after
      have resolved := sound.resolve found pending reviewed (overturnVerdict_resolves falls)
      exact resolved.of_same (transitionClaimStatus_same judged _ _)

end Steps

section Runs

/-- One call of the module, or a change of what lies outside the reviews. -/
inductive Action (lib : ReviewLibrary)
  | startReview (call : ReviewCall lib) (authority : String) (contributionID : U64)
  | castReviewVote (call : ReviewCall lib) (contributionID : U64) (msg : CastVote)
  | finalizeReview (call : ReviewCall lib) (contributionID : U64)
  | finalizeExpiredReviews (call : ReviewCall lib)
  | appealReview (call : ReviewCall lib) (contributionID : U64) (appellant reason : String)
  | resolveAppeal (call : ReviewCall lib) (authority : String) (appealID : Nat) (upheld : Bool) (notes : String)
  | elsewhere (vesting : VestingKeeper) (otherCoins : String → Bank)
      (contributions : KeyedMap ReviewedContribution.id)

def step (k : ReviewKeeper) : Action lib → ReviewKeeper
  | .startReview call authority id => k.orUnchanged (k.processStartReview call authority id)
  | .castReviewVote call id msg => k.orUnchanged (k.processCastReviewVote call id msg)
  | .finalizeReview call id => k.orUnchanged (k.processFinalizeReview call id)
  | .finalizeExpiredReviews call => k.finalizeExpiredReviews call
  | .appealReview call id appellant reason =>
      k.orUnchanged (k.processAppealReview call id appellant reason)
  | .resolveAppeal call authority appealID upheld notes =>
      k.orUnchanged (k.processResolveAppeal call authority appealID upheld notes)
  | .elsewhere vesting otherCoins contributions =>
      { k with vesting := vesting, otherCoins := otherCoins, contributions := contributions }

theorem Sound.orUnchanged (sound : Sound lib k) {result : Except ReviewError ReviewKeeper}
    (keeps : ∀ k', result = .ok k' → Sound lib k') : Sound lib (k.orUnchanged result) := by
  cases result with
  | error error => exact sound
  | ok k' => exact keeps k' rfl

theorem step_sound (sound : Sound lib k) (action : Action lib) : Sound lib (k.step action) := by
  cases action with
  | startReview call authority id =>
      exact sound.orUnchanged fun _ ran => sound.start (processStartReview_starts ran)
  | castReviewVote call id msg =>
      exact sound.orUnchanged fun _ ran => processCastReviewVote_sound sound ran
  | finalizeReview call id =>
      exact sound.orUnchanged fun _ ran => processFinalizeReview_sound sound ran
  | finalizeExpiredReviews call => exact finalizeExpiredReviews_sound sound
  | appealReview call id appellant reason =>
      exact sound.orUnchanged fun _ ran => processAppealReview_sound sound ran
  | resolveAppeal call authority appealID upheld notes =>
      exact sound.orUnchanged fun _ ran => processResolveAppeal_sound sound ran
  | elsewhere vesting otherCoins contributions =>
      exact sound.of_same ⟨rfl, rfl, rfl, rfl, rfl, rfl, rfl, rfl, rfl⟩

def start (authority rewardDenom : String) (vesting : VestingKeeper) (otherCoins : String → Bank)
    (contributions : KeyedMap ReviewedContribution.id) : ReviewKeeper :=
  { authority, rewardDenom, vesting, otherCoins, contributions
    reviewSessions := .empty, reviewerProfiles := .empty, reviewAppeals := .empty, nextAppealID := 1
    coVotingRecords := fun _ => none, pendingReviewIndex := .empty, reviewBondEscrows := fun _ _ => none
    clawbackRecords := .empty, bondMoves := fun _ _ => [], appealMoves := fun _ => [], finalized := []
    rewarded := [], unsettled := [], bounties := [] }

theorem start_sound (authority rewardDenom : String) (vesting : VestingKeeper) (otherCoins : String → Bank)
    (contributions : KeyedMap ReviewedContribution.id) :
    Sound lib (start authority rewardDenom vesting otherCoins contributions) where
  phase id := .unopened (KeyedMap.get?_empty id) ⟨fun _ => List.not_mem_nil, List.not_mem_nil⟩ fun _ => rfl
  once := List.nodup_nil
  paid := List.nodup_nil
  appeals i := by
    have none : (start authority rewardDenom vesting otherCoins contributions).getReviewAppeal i = none :=
      KeyedMap.get?_empty i
    rw [none]
    exact .unfiled
  unfiled i _ := KeyedMap.get?_empty i
  judged i a filed := by cases (KeyedMap.get?_empty i).symm.trans filed

theorem run_sound (sound : Sound lib k) (run : List (Action lib)) : Sound lib (run.foldl step k) := by
  induction run generalizing k with
  | nil => exact sound
  | cons action rest ih => exact ih (step_sound sound action)

/-- Reviews are settled once, with their bonds and the reward, and so is every appeal. -/
structure SettledOnce (k : ReviewKeeper) : Prop where
  finalized : (k.finalized.map Prod.fst).Nodup
  bonds : ∀ id decision, (id, decision) ∈ k.finalized → ∃ session, k.getReviewSession id = some session ∧
    ∀ r, (id, r) ∉ k.unsettled → (k.bond id r).Settled (session.votedFor decision r)
  appeals : ∀ i, AppealPhase (k.getReviewAppeal i) (k.appealMoves i)
  rewarded : k.rewarded.Nodup

/-- Whatever the votes and the heights, and whatever happens to the claims, the schedules and the bank
between the calls. -/
theorem reviews_settle_once (lib : ReviewLibrary) (authority rewardDenom : String) (vesting : VestingKeeper)
    (otherCoins : String → Bank) (contributions : KeyedMap ReviewedContribution.id)
    (run : List (Action lib)) :
    SettledOnce (run.foldl step (start authority rewardDenom vesting otherCoins contributions)) := by
  have sound := run_sound (start_sound authority rewardDenom vesting otherCoins contributions) run
  refine ⟨sound.once, fun id decision listed => ?_, sound.appeals, sound.paid⟩
  cases sound.phase id with
  | unopened _ fresh => exact absurd listed (fresh.finalized decision)
  | opened _ _ fresh => exact absurd listed (fresh.finalized decision)
  | @closed session found _ decided listed' settled =>
      obtain rfl := contributionID_of_found found
      have same : decided = decision :=
        congrArg Prod.snd (List.inj_on_of_nodup_map sound.once listed' listed rfl)
      subst same
      exact ⟨session, found, settled⟩

end Runs

end ReviewKeeper

end Omniphi.Poc
