import Omniphi.Poc.Reward

/-! Human review of contributions: bonded reviewers, their votes, the settlement of a session, and appeals. -/

namespace Omniphi.Poc

section Types

inductive ReviewStatus
  | pending | inReview | accepted | rejected | appealed
  deriving DecidableEq

inductive ReviewVoteDecision
  | accept | reject | requestInfo
  | other (code : Nat)
  deriving DecidableEq

inductive ClaimStatus
  | submitted | duplicate | awaitingSimilarity | flaggedDerivative | inReview | accepted | rejected
  | disputed | resolved
  deriving DecidableEq

def validTransitions : ClaimStatus → List ClaimStatus
  | .submitted => [.duplicate, .awaitingSimilarity]
  | .awaitingSimilarity => [.flaggedDerivative, .inReview]
  | .flaggedDerivative => [.inReview]
  | .inReview => [.accepted, .rejected]
  | .accepted => [.disputed]
  | .rejected => [.disputed]
  | .disputed => [.resolved]
  | .duplicate => []
  | .resolved => []

structure Coin where
  denom : String
  amount : Nat
  deriving DecidableEq

structure ReviewVote where
  reviewer : String
  decision : ReviewVoteDecision
  originalityOverride : OriginalityOverride
  qualityScore : U32
  notesPointer : String
  parentClaimOverride : U64
  blockHeight : Int

structure ReviewSession where
  contributionID : U64
  status : ReviewStatus
  assignedReviewers : List String
  votes : List ReviewVote
  startHeight : Int
  endHeight : Int
  finalDecision : ReviewVoteDecision
  overrideApplied : OriginalityOverride
  finalQuality : U32
  appealID : Nat
  randomSeed : Bytes

namespace ReviewSession

variable (rs : ReviewSession)

def hasVoted (reviewer : String) : Bool := rs.votes.any fun v => v.reviewer = reviewer

def isAssignedReviewer (addr : String) : Bool := rs.assignedReviewers.any fun r => r = addr

def allVotesCast : Bool := decide (rs.assignedReviewers.length ≤ rs.votes.length)

def votedFor (decision : ReviewVoteDecision) (reviewer : String) : Bool :=
  rs.votes.any fun v => v.reviewer = reviewer ∧ v.decision = decision

end ReviewSession

structure ReviewerProfile where
  address : String
  totalReviews : Nat
  acceptedReviews : Nat
  rejectedReviews : Nat
  lastReviewHeight : Int
  slashedCount : Nat
  suspended : Bool

structure ReviewAppeal where
  appealID : Nat
  contributionID : U64
  appellant : String
  reason : String
  appealBond : Coin
  filedAtHeight : Int
  resolvedAtHeight : Int
  resolved : Bool
  upheld : Bool
  resolverNotes : String

structure CoVotingRecord where
  sameVoteCount : Nat
  totalPairCount : Nat
  lastUpdated : Int

structure ReviewedContribution where
  id : U64
  contributor : String
  ctype : String
  duplicateOf : U64
  isDerivative : Bool
  parentClaimId : U64
  reviewStatus : ReviewStatus
  claimStatus : ClaimStatus

structure ClawbackRecord where
  contributor : String
  claimID : U64
  reason : String
  amountClawedBack : Int
  vestingClawedBack : Int
  executedAtBlock : Int
  authority : String

/-- The store orders pending reviews by the height at which they end. -/
structure PendingReview where
  endHeight : U64
  contributionID : U64
  deriving DecidableEq

def PendingReview.bytes (p : PendingReview) : Bytes := beBytes 8 p.endHeight ++ beBytes 8 p.contributionID

theorem PendingReview.bytes_injective : Function.Injective PendingReview.bytes := by
  intro a b same
  have lengths : (beBytes 8 a.endHeight).length = (beBytes 8 b.endHeight).length := by
    rw [length_beBytes, length_beBytes]
  obtain ⟨heights, claims⟩ := List.append_inj same lengths
  have heights := beBytes_injective (by decide) heights
  have claims := beBytes_injective (by decide) claims
  cases a
  cases b
  simp_all

instance : Ord PendingReview := ByteOrder.ord PendingReview.bytes

instance : Std.TransOrd PendingReview := ByteOrder.trans _

instance : Std.LawfulEqOrd PendingReview := ByteOrder.lawful PendingReview.bytes_injective

structure ReviewParams where
  enableHumanReview : Bool
  verifiersPerClaim : Nat
  reviewVotePeriod : Int
  reviewQuorumPct : U32
  minReviewerBond : Option Coin
  appealBond : Option Coin
  minReviewerReputation : Int
  collusionThresholdBps : Nat

structure Credits where
  address : String
  amount : Int

/-- The texts of the accounts, and the hash the reviewers are drawn by. -/
structure ReviewLibrary where
  addresses : Addresses
  sha256 : Sha256

structure CreditStore (addresses : Addresses) where
  credits : List Credits
  distinct : (credits.map Credits.address).Nodup
  canonical : ∀ c ∈ credits, addresses.accAddress c.address = some c.address

structure MapOrder (α : Type) where
  visit : List α → List α
  perm : ∀ keys, (visit keys).Perm keys

inductive BondTransfer
  | refund (reviewer : String)
  | burn (reviewer : String)
  | refundAppeal
  | burnAppeal
  | collect (account : String)
  | clawback

/-- The block, the parameters, the other keepers, and what the bank turns down. -/
structure ReviewCall (lib : ReviewLibrary) where
  height : Int
  lastCommitHash : Bytes
  headerHash : Bytes
  params : ReviewParams
  rewardParams : RewardParams
  formula : RewardFormula
  arvs : Option ARVSParams
  currentEpoch : U64
  stats : String → ContributorStats
  similarity : U64 → LegacyDec
  impact : String → LegacyDec
  credits : CreditStore lib.addresses
  bondedValidators : Option Nat
  overrideOrder : MapOrder OriginalityOverride
  parentOrder : MapOrder U64
  refused : Payout → Bool
  refusedBond : BondTransfer → Bool

def ReviewCall.vesting {lib : ReviewLibrary} (call : ReviewCall lib) : VestingCall where
  currentEpoch := call.currentEpoch
  params := call.rewardParams
  addresses := lib.addresses
  stats := call.stats
  refused := call.refused

inductive ReviewError
  | unauthorized | reviewDisabled | contributionNotFound | sessionExists | insufficientEligibleReviewers
  | bondUnparsable | invalidAddress | insufficientReviewerBond | escrowFailed | reviewNotActive
  | periodExpired | notAssignedReviewer | alreadyVoted | periodRunning | appealAlreadyFiled
  | invalidAppealBond | appealCollectionFailed | appealNotFound | appealAlreadyResolved | appealBurnFailed
  | appealRefundFailed | clawbackAlreadyApplied
  deriving DecidableEq

inductive BondMove
  | collected (bond : Coin)
  | refunded (bond : Coin)
  | burned (bond : Coin)
  deriving DecidableEq

end Types

structure ReviewKeeper where
  authority : String
  rewardDenom : String
  vesting : VestingKeeper
  otherCoins : String → Bank
  contributions : KeyedMap ReviewedContribution.id
  reviewSessions : KeyedMap ReviewSession.contributionID
  reviewerProfiles : KeyedMap ReviewerProfile.address
  reviewAppeals : KeyedMap ReviewAppeal.appealID
  nextAppealID : Nat
  coVotingRecords : String × String → Option CoVotingRecord
  pendingReviewIndex : KeyedMap (id : PendingReview → PendingReview)
  reviewBondEscrows : U64 → String → Option Coin
  clawbackRecords : KeyedMap ClawbackRecord.claimID
  bondMoves : U64 → String → List BondMove
  appealMoves : Nat → List BondMove
  finalized : List (U64 × ReviewVoteDecision)
  rewarded : List U64
  unsettled : List (U64 × String)
  bounties : List (U64 × Int)

namespace ReviewKeeper

variable {lib : ReviewLibrary} (k : ReviewKeeper)

section Coins

def bankOf (denom : String) : Bank := if denom = k.rewardDenom then k.vesting.bank else k.otherCoins denom

def setBank (denom : String) (bank : Bank) : ReviewKeeper :=
  if denom = k.rewardDenom then { k with vesting := { k.vesting with bank := bank } }
  else { k with otherCoins := fun d => if d = denom then bank else k.otherCoins d }

def sendCoinsFromAccountToModule (refused : Bool) (account : String) (coin : Coin) : Option ReviewKeeper :=
  if refused then none
  else ((k.bankOf coin.denom).send (.user account) pocAccount coin.amount).map (k.setBank coin.denom)

def sendCoinsFromModuleToAccount (refused : Bool) (account : String) (coin : Coin) : Option ReviewKeeper :=
  if refused then none
  else ((k.bankOf coin.denom).send pocAccount (.user account) coin.amount).map (k.setBank coin.denom)

def burnCoins (refused : Bool) (coin : Coin) : Option ReviewKeeper :=
  if refused then none
  else ((k.bankOf coin.denom).burn pocAccount coin.amount).map (k.setBank coin.denom)

def orUnchanged : Except ReviewError ReviewKeeper → ReviewKeeper
  | .error _ => k
  | .ok k => k

end Coins

section Stores

def getContribution (id : U64) : Option ReviewedContribution := k.contributions.get? id

def setContribution (c : ReviewedContribution) : ReviewKeeper :=
  { k with contributions := k.contributions.insert c }

def getReviewSession (id : U64) : Option ReviewSession := k.reviewSessions.get? id

def setReviewSession (session : ReviewSession) : ReviewKeeper :=
  { k with reviewSessions := k.reviewSessions.insert session }

def getReviewAppeal (appealID : Nat) : Option ReviewAppeal := k.reviewAppeals.get? appealID

def setReviewAppeal (appeal : ReviewAppeal) : ReviewKeeper :=
  { k with reviewAppeals := k.reviewAppeals.insert appeal }

def getReviewerProfile (addr : String) : Option ReviewerProfile := k.reviewerProfiles.get? addr

def setReviewerProfile (profile : ReviewerProfile) : ReviewKeeper :=
  { k with reviewerProfiles := k.reviewerProfiles.insert profile }

def setPendingReviewIndex (endHeight : Int) (contributionID : U64) : ReviewKeeper :=
  { k with pendingReviewIndex := k.pendingReviewIndex.insert ⟨BitVec.ofInt 64 endHeight, contributionID⟩ }

def deletePendingReviewIndex (endHeight : U64) (contributionID : U64) : ReviewKeeper :=
  { k with pendingReviewIndex := k.pendingReviewIndex.erase ⟨endHeight, contributionID⟩ }

def getReviewBondEscrow (addr : String) (contributionID : U64) : Option Coin :=
  k.reviewBondEscrows contributionID addr

def setEscrow (addr : String) (contributionID : U64) (escrow : Option Coin) : ReviewKeeper :=
  { k with reviewBondEscrows := fun id r =>
      if id = contributionID ∧ r = addr then escrow else k.reviewBondEscrows id r }

def recordBond (contributionID : U64) (addr : String) (move : BondMove) : ReviewKeeper :=
  { k with bondMoves := fun id r =>
      if id = contributionID ∧ r = addr then k.bondMoves id r ++ [move] else k.bondMoves id r }

def recordAppeal (appealID : Nat) (move : BondMove) : ReviewKeeper :=
  { k with appealMoves := fun id => if id = appealID then k.appealMoves id ++ [move] else k.appealMoves id }

def transitionClaimStatus (id : U64) (newStatus : ClaimStatus) : ReviewKeeper :=
  match k.getContribution id with
  | none => k
  | some c =>
      if newStatus ∈ validTransitions c.claimStatus then k.setContribution { c with claimStatus := newStatus }
      else k

end Stores

section Selection

/-- One swap of the shuffle, with the index drawn by the hash. -/
def drawIndex (sha256 : Sha256) (seed : Bytes) (i : Nat) : Nat :=
  (bytes64Head (sha256 (seed ++ beBytes 8 (BitVec.ofNat 64 i)))).toNat % (i + 1)
where
  bytes64Head (hash : Bytes32) : U64 := hash.extractLsb' 192 64

def shuffle (sha256 : Sha256) (seed : Bytes) : Nat → Array String → Array String
  | 0, names => names
  | i + 1, names =>
      shuffle sha256 seed i (names.swapIfInBounds (i + 1) (drawIndex sha256 seed (i + 1)))

def isSuspended (addr : String) : Bool :=
  match k.getReviewerProfile addr with
  | some profile => profile.suspended
  | none => false

def eligibleReviewers (call : ReviewCall lib) (contributor : String) : List String :=
  let eligible := call.credits.credits.filter fun credits =>
    credits.address ≠ contributor ∧ call.params.minReviewerReputation ≤ credits.amount ∧
      k.isSuspended credits.address = false
  (eligible.map Credits.address).mergeSort fun a b => decide (a ≤ b)

def selectReviewers (call : ReviewCall lib) (contributionID : U64) (contributor : String) (n : Nat) :
    Except ReviewError (List String × Bytes) :=
  let eligible := k.eligibleReviewers call contributor
  if eligible.length < n then .error .insufficientEligibleReviewers
  else
    let seed := beBytes 32 (lib.sha256 (call.lastCommitHash ++ call.headerHash ++ beBytes 8 contributionID))
    let shuffled := shuffle lib.sha256 seed (eligible.length - 1) eligible.toArray
    .ok (shuffled.toList.take n, seed)

def collusionThreshold (call : ReviewCall lib) : Nat :=
  let bondedCount := match call.bondedValidators with
    | some n => if 0 < n then n else 100
    | none => 100
  let effective := call.params.collusionThresholdBps * Nat.sqrt bondedCount / 10
  min (max effective (call.params.collusionThresholdBps / 2)) 9500

def coVotingKey (a b : String) : String × String := if b < a then (b, a) else (a, b)

def getCoVotingRecord (a b : String) : Option CoVotingRecord := k.coVotingRecords (coVotingKey a b)

def pairs : List String → List (String × String)
  | [] => []
  | a :: rest => (rest.map fun b => (a, b)) ++ pairs rest

def checkCollusionRisk (call : ReviewCall lib) (reviewers : List String) : Bool :=
  (pairs reviewers).any fun pair =>
    match k.getCoVotingRecord pair.1 pair.2 with
    | none => false
    | some record =>
        decide (5 ≤ record.totalPairCount ∧
          collusionThreshold call ≤ record.sameVoteCount * 10000 / record.totalPairCount)

/-- With a risk of collusion two more are drawn, where that many are eligible. -/
def expandOnCollusion (call : ReviewCall lib) (contributionID : U64) (contributor : String)
    (selected : List String × Bytes) : List String × Bytes :=
  if k.checkCollusionRisk call selected.1 then
    match k.selectReviewers call contributionID contributor (call.params.verifiersPerClaim + 2) with
    | .ok expanded => expanded
    | .error _ => selected
  else selected

def updateCoVotingPair (height : Int) (session : ReviewSession) (k : ReviewKeeper) (pair : String × String) :
    ReviewKeeper :=
  let record := (k.getCoVotingRecord pair.1 pair.2).getD ⟨0, 0, 0⟩
  let decisionOf (r : String) := (session.votes.reverse.find? fun v => v.reviewer = r).map ReviewVote.decision
  let same := decide (decisionOf pair.1 = decisionOf pair.2)
  let record : CoVotingRecord :=
    ⟨if same then record.sameVoteCount + 1 else record.sameVoteCount, record.totalPairCount + 1, height⟩
  { k with coVotingRecords := fun key =>
      if key = coVotingKey pair.1 pair.2 then some record else k.coVotingRecords key }

def updateCoVotingRecords (height : Int) (session : ReviewSession) : ReviewKeeper :=
  let voters := (session.votes.map ReviewVote.reviewer).dedup.mergeSort fun a b => decide (a ≤ b)
  (pairs voters).foldl (updateCoVotingPair height session) k

end Selection

section Bonds

def collectReviewerBond (call : ReviewCall lib) (reviewer : String) (contributionID : U64) (bond : Coin) :
    Except ReviewError ReviewKeeper :=
  if bond.amount = 0 then .ok k
  else if (k.bankOf bond.denom).balance (.user reviewer) < bond.amount then .error .insufficientReviewerBond
  else match k.sendCoinsFromAccountToModule (call.refusedBond (.collect reviewer)) reviewer bond with
    | none => .error .escrowFailed
    | some k => .ok ((k.setEscrow reviewer contributionID (some bond)).recordBond contributionID reviewer
        (.collected bond))

def collectReviewerBonds (call : ReviewCall lib) (contributionID : U64) (bond : Coin) :
    List String → ReviewKeeper → Except ReviewError ReviewKeeper
  | [], k => .ok k
  | reviewer :: rest, k =>
      match lib.addresses.accAddress reviewer with
      | none => .error .invalidAddress
      | some addr =>
          match k.collectReviewerBond call addr contributionID bond with
          | .error error => .error error
          | .ok k => collectReviewerBonds call contributionID bond rest k

/-- A bond that the bank did not let settle stays in escrow. -/
def settleReviewerBond (reviewer : String) (contributionID : U64) (transfer : Coin → Option ReviewKeeper)
    (move : Coin → BondMove) : ReviewKeeper :=
  match k.getReviewBondEscrow reviewer contributionID with
  | none => k
  | some coin =>
      if coin.amount = 0 then k
      else match transfer coin with
        | none => { k with unsettled := (contributionID, reviewer) :: k.unsettled }
        | some k => (k.setEscrow reviewer contributionID none).recordBond contributionID reviewer (move coin)

def refundReviewerBond (call : ReviewCall lib) (reviewer : String) (contributionID : U64) : ReviewKeeper :=
  k.settleReviewerBond reviewer contributionID
    (k.sendCoinsFromModuleToAccount (call.refusedBond (.refund reviewer)) reviewer) .refunded

def slashReviewerBond (call : ReviewCall lib) (reviewer : String) (contributionID : U64) : ReviewKeeper :=
  k.settleReviewerBond reviewer contributionID (k.burnCoins (call.refusedBond (.burn reviewer))) .burned

end Bonds

section Reviewing

def processStartReview (call : ReviewCall lib) (authority : String) (contributionID : U64) :
    Except ReviewError ReviewKeeper :=
  if authority ≠ k.authority then .error .unauthorized
  else if call.params.enableHumanReview = false then .error .reviewDisabled
  else match k.getContribution contributionID with
    | none => .error .contributionNotFound
    | some contribution =>
        if (k.getReviewSession contributionID).isSome then .error .sessionExists
        else do
          let selected ← k.selectReviewers call contributionID contribution.contributor
            call.params.verifiersPerClaim
          let (reviewers, seed) := k.expandOnCollusion call contributionID contribution.contributor selected
          let bond ← call.params.minReviewerBond.elim (.error .bondUnparsable) .ok
          let k ← collectReviewerBonds call contributionID bond reviewers k
          let endHeight := call.height + call.params.reviewVotePeriod
          let k := k.setReviewSession
            { contributionID := contributionID, status := .inReview, assignedReviewers := reviewers,
              votes := [], startHeight := call.height, endHeight := endHeight, finalDecision := .accept,
              overrideApplied := .keepAI, finalQuality := 0, appealID := 0, randomSeed := seed }
          let k := k.setContribution { contribution with reviewStatus := .inReview }
          return (k.setPendingReviewIndex endHeight contributionID).transitionClaimStatus contributionID
            .inReview

/-- The value named most often, the first visited where several are, and `none` when nothing is named. -/
def mostNamed {α : Type} [DecidableEq α] (order : MapOrder α) (named : List α) : Option α :=
  ((order.visit named.dedup).foldl (fun best a =>
    if best.2 < named.count a then (some a, named.count a) else best) (none, 0)).1

structure Tally where
  decision : ReviewVoteDecision
  accepted : Bool
  overrideApplied : OriginalityOverride
  parentClaim : Option U64
  quality : U32

def tally (call : ReviewCall lib) (session : ReviewSession) : Tally :=
  let votes := session.votes
  let acceptCount := votes.countP fun v => v.decision = .accept
  let rejectCount := votes.countP fun v => v.decision = .reject
  let assignedCount := BitVec.ofNat 32 session.assignedReviewers.length
  let quorumRequired := (assignedCount * call.params.reviewQuorumPct + 99) / 100
  let accepted := decide (quorumRequired ≤ BitVec.ofNat 32 votes.length ∧ rejectCount < acceptCount)
  { decision := if accepted then .accept else .reject
    accepted := accepted
    overrideApplied := (mostNamed call.overrideOrder ((votes.map ReviewVote.originalityOverride).filter
      fun o => o ≠ .keepAI)).getD .keepAI
    parentClaim := mostNamed call.parentOrder ((votes.map ReviewVote.parentClaimOverride).filter
      fun id => id ≠ 0)
    quality := (votes.map ReviewVote.qualityScore).sum / BitVec.ofNat 32 votes.length }

def overridden (contribution : ReviewedContribution) (tally : Tally) : ReviewedContribution :=
  { contribution with
    isDerivative := match tally.overrideApplied with
      | .derivativeFalsePositive => false
      | .notDerivativeFalseNegative => true
      | _ => contribution.isDerivative
    parentClaimId := tally.parentClaim.getD contribution.parentClaimId
    reviewStatus := if tally.accepted then .accepted else .rejected }

def lineage (id : U64) : Option Lineage :=
  (k.getContribution id).map fun c => ⟨c.contributor, c.parentClaimId⟩

def rewardContext (call : ReviewCall lib) (contribution : ReviewedContribution) (quality : U32)
    (overrideApplied : OriginalityOverride) : RewardContext where
  claimID := contribution.id
  contributor := contribution.contributor
  qualityScore := (LegacyDec.ofInt quality.toNat).quo (LegacyDec.ofInt 10)
  baseReward := call.formula.baseRewardUnit
  similarityScore := call.similarity contribution.id
  isDuplicate := decide (contribution.duplicateOf ≠ 0)
  parentClaimID := contribution.parentClaimId
  reviewOverride := overrideApplied

def reward (call : ReviewCall lib) (contribution : ReviewedContribution) (quality : U32)
    (overrideApplied : OriginalityOverride) : RewardOutput :=
  calculateReward call.formula call.rewardParams call.stats call.impact k.lineage
    (rewardContext call contribution quality overrideApplied)

def distributeReviewReward (call : ReviewCall lib) (contribution : ReviewedContribution) (tally : Tally) :
    ReviewKeeper :=
  if tally.accepted ∧ contribution.contributor ≠ "" ∧ contribution.duplicateOf = 0 then
    let output := k.reward call contribution tally.quality tally.overrideApplied
    if 0 < output.finalRewardAmount then
      let verifierConf := (LegacyDec.ofInt tally.quality.toNat).quo (LegacyDec.ofInt 100)
      { k with
        vesting := k.vesting.rewardAccepted call.vesting call.arvs output contribution.contributor
          ⟨call.similarity contribution.id, verifierConf, contribution.ctype, contribution.isDerivative⟩
        rewarded := contribution.id :: k.rewarded }
    else k
  else k

def settleReviewer (call : ReviewCall lib) (session : ReviewSession) (decision : ReviewVoteDecision)
    (k : ReviewKeeper) (reviewer : String) : ReviewKeeper :=
  match lib.addresses.accAddress reviewer with
  | none => k
  | some addr =>
      let majority := session.votedFor decision reviewer
      let k :=
        if majority then k.refundReviewerBond call addr session.contributionID
        else k.slashReviewerBond call addr session.contributionID
      let profile := (k.getReviewerProfile reviewer).getD ⟨reviewer, 0, 0, 0, 0, 0, false⟩
      let profile : ReviewerProfile :=
        if majority then { profile with acceptedReviews := profile.acceptedReviews + 1 }
        else
          { profile with
            rejectedReviews := profile.rejectedReviews + 1
            slashedCount := profile.slashedCount + 1
            suspended := profile.suspended || decide (3 ≤ profile.slashedCount + 1) }
      k.setReviewerProfile
        { profile with totalReviews := profile.totalReviews + 1, lastReviewHeight := call.height }

def applyVerdict (call : ReviewCall lib) (contributionID : U64) (tally : Tally) : ReviewKeeper :=
  match k.getContribution contributionID with
  | none => k
  | some contribution =>
      let contribution := overridden contribution tally
      (k.setContribution contribution).distributeReviewReward call contribution tally

def finalizeReviewSession (call : ReviewCall lib) (session : ReviewSession) : ReviewKeeper :=
  let tally := tally call session
  let status : ReviewStatus := if tally.accepted then .accepted else .rejected
  let settled : ReviewSession :=
    { session with
      status := status, finalDecision := tally.decision, overrideApplied := tally.overrideApplied,
      finalQuality := tally.quality }
  let k := k.applyVerdict call session.contributionID tally
  let k := session.assignedReviewers.foldl (settleReviewer call session tally.decision) k
  let k := (k.updateCoVotingRecords call.height settled).setReviewSession settled
  let k := k.deletePendingReviewIndex (BitVec.ofInt 64 session.endHeight) session.contributionID
  let k := k.transitionClaimStatus session.contributionID (if tally.accepted then .accepted else .rejected)
  { k with finalized := (session.contributionID, tally.decision) :: k.finalized }

structure CastVote where
  reviewer : String
  decision : ReviewVoteDecision
  originalityOverride : OriginalityOverride
  qualityScore : U32
  notesPointer : String
  parentClaimOverride : U64

def processCastReviewVote (call : ReviewCall lib) (contributionID : U64) (msg : CastVote) :
    Except ReviewError ReviewKeeper :=
  match k.getReviewSession contributionID with
  | none => .error .reviewNotActive
  | some session =>
      if session.status ≠ .inReview then .error .reviewNotActive
      else if call.height > session.endHeight then .error .periodExpired
      else if session.isAssignedReviewer msg.reviewer = false then .error .notAssignedReviewer
      else if session.hasVoted msg.reviewer then .error .alreadyVoted
      else
        let vote : ReviewVote :=
          ⟨msg.reviewer, msg.decision, msg.originalityOverride, msg.qualityScore, msg.notesPointer,
            msg.parentClaimOverride, call.height⟩
        let session := { session with votes := session.votes ++ [vote] }
        let k := k.setReviewSession session
        -- With the last vote the session is settled at once.
        if session.allVotesCast then .ok (k.finalizeReviewSession call session) else .ok k

def processFinalizeReview (call : ReviewCall lib) (contributionID : U64) : Except ReviewError ReviewKeeper :=
  match k.getReviewSession contributionID with
  | none => .error .reviewNotActive
  | some session =>
      if session.status ≠ .inReview then .error .reviewNotActive
      else if call.height ≤ session.endHeight ∧ session.allVotesCast = false then .error .periodRunning
      else .ok (k.finalizeReviewSession call session)

def finalizeExpired (call : ReviewCall lib) (k : ReviewKeeper) (pending : PendingReview) : ReviewKeeper :=
  match k.getReviewSession pending.contributionID with
  | none => k.deletePendingReviewIndex pending.endHeight pending.contributionID
  | some session =>
      if session.status ≠ .inReview then
        k.deletePendingReviewIndex pending.endHeight pending.contributionID
      else k.finalizeReviewSession call session

def finalizeExpiredReviews (call : ReviewCall lib) : ReviewKeeper :=
  (k.pendingReviewIndex.values.filter fun pending =>
    decide (pending.endHeight < BitVec.ofInt 64 (call.height + 1))).foldl (finalizeExpired call) k

end Reviewing

section Appeals

def storeAppeal (call : ReviewCall lib) (session : ReviewSession) (appellant reason : String) (bond : Coin) :
    ReviewKeeper :=
  let appealID := k.nextAppealID
  let k := { k with nextAppealID := appealID + 1 }
  let k := (k.setReviewAppeal ⟨appealID, session.contributionID, appellant, reason, bond, call.height, 0,
    false, false, ""⟩).recordAppeal appealID (.collected bond)
  k.setReviewSession { session with status := .appealed, appealID := appealID }

def holdUp (contributionID : U64) : ReviewKeeper :=
  let k := match k.getContribution contributionID with
    | none => k
    | some contribution =>
        let k := k.setContribution { contribution with reviewStatus := .appealed }
        { k with vesting := k.vesting.pauseVesting ⟨contribution.contributor, contributionID⟩ }
  k.transitionClaimStatus contributionID .disputed

def fileAppeal (call : ReviewCall lib) (session : ReviewSession) (appellant reason : String) (bond : Coin) :
    ReviewKeeper :=
  (k.storeAppeal call session appellant reason bond).holdUp session.contributionID

def processAppealReview (call : ReviewCall lib) (contributionID : U64) (appellant reason : String) :
    Except ReviewError ReviewKeeper :=
  match k.getReviewSession contributionID with
  | none => .error .reviewNotActive
  | some session =>
      if session.status ≠ .accepted ∧ session.status ≠ .rejected then .error .reviewNotActive
      else if session.appealID ≠ 0 then .error .appealAlreadyFiled
      else match call.params.appealBond with
        | none => .error .bondUnparsable
        | some bond =>
            match lib.addresses.accAddress appellant with
            | none => .error .invalidAddress
            | some account =>
                if (k.bankOf bond.denom).balance (.user account) < bond.amount then .error .invalidAppealBond
                else
                  match k.sendCoinsFromAccountToModule (call.refusedBond (.collect account)) account bond with
                  | none => .error .appealCollectionFailed
                  | some k => .ok (k.fileAppeal call session appellant reason bond)

/-- What the contributor is estimated to have got at once is taken back, as far as the balance goes. -/
def clawbackImmediate (call : ReviewCall lib) (contributor : String) : ReviewKeeper × Int :=
  let account := (lib.addresses.accAddress contributor).getD ""
  let estimated := (call.formula.immediateRewardRatio.mulInt call.formula.baseRewardUnit).truncateInt
  let amount := min ((k.vesting.bank.balance (.user account) : Int)) estimated
  if 0 < amount then
    match k.sendCoinsFromAccountToModule (call.refusedBond .clawback) account
        ⟨k.rewardDenom, amount.toNat⟩ with
    | none => (k, 0)
    | some k => (k, amount)
  else (k, 0)

def clawbackSchedules (key : VestingKey) : ReviewKeeper × Int :=
  let (vesting, arvsUnvested) := k.vesting.clawbackARVSVesting key
  if 0 < arvsUnvested then ({ k with vesting := vesting }, arvsUnvested)
  else match vesting.clawbackVesting key with
    | (vesting, .ok unvested) => ({ k with vesting := vesting }, unvested)
    | (vesting, .error _) => ({ k with vesting := vesting }, 0)

def executeClawback (call : ReviewCall lib) (claimID : U64) (reason authority : String) :
    Except ReviewError ReviewKeeper :=
  if (k.clawbackRecords.get? claimID).isSome then .error .clawbackAlreadyApplied
  else match k.getContribution claimID with
    | none => .error .contributionNotFound
    | some contribution =>
        let (k, vestingClawedBack) := k.clawbackSchedules ⟨contribution.contributor, claimID⟩
        let (k, amountClawedBack) := k.clawbackImmediate call contribution.contributor
        .ok { k with clawbackRecords := k.clawbackRecords.insert ⟨contribution.contributor, claimID, reason,
          amountClawedBack, vestingClawedBack, call.height, authority⟩ }

/-- Where the claim was clawed back before, the schedule is still ended. -/
def clawbackRewards (call : ReviewCall lib) (claimID : U64) (contributor authority : String) :
    ReviewKeeper :=
  match k.executeClawback call claimID "appeal_overturn_accepted_to_rejected" authority with
  | .ok k => k
  | .error _ => { k with vesting := (k.vesting.clawbackVesting ⟨contributor, claimID⟩).1 }

def revoke (call : ReviewCall lib) (contribution : ReviewedContribution) (appeal : ReviewAppeal)
    (authority : String) : ReviewKeeper :=
  let key : VestingKey := ⟨contribution.contributor, appeal.contributionID⟩
  let k := k.clawbackRewards call appeal.contributionID contribution.contributor authority
  match call.arvs with
  | none => k
  | some arvs =>
      let (vesting, unvested) := k.vesting.clawbackARVSVesting key
      let k := { k with vesting := vesting }
      if arvs.enableBounty ∧ 0 < unvested then
        { k with
          vesting := k.vesting.distributeBounty call.vesting arvs unvested appeal.appellant
          bounties := (appeal.contributionID, unvested) :: k.bounties }
      else k

def penaliseReviewer (k : ReviewKeeper) (reviewer : String) : ReviewKeeper :=
  let profile := (k.getReviewerProfile reviewer).getD ⟨reviewer, 0, 0, 0, 0, 0, false⟩
  k.setReviewerProfile
    { profile with
      slashedCount := profile.slashedCount + 1
      suspended := profile.suspended || decide (3 ≤ profile.slashedCount + 1) }

def penaliseVoters (lib : ReviewLibrary) (session : ReviewSession) (decision : ReviewVoteDecision) :
    ReviewKeeper :=
  ((session.votes.filter fun v => decide (v.decision = decision) &&
    (lib.addresses.accAddress v.reviewer).isSome).map ReviewVote.reviewer).foldl penaliseReviewer k

/-- A bond of nothing needs no transfer. -/
def settleAppealBond (bond : Coin) (transfer : Coin → Option ReviewKeeper) : Option ReviewKeeper :=
  if bond.amount = 0 then some k else transfer bond

def storeVerdict (call : ReviewCall lib) (appeal : ReviewAppeal) (session : ReviewSession) (upheld : Bool)
    (notes : String) : ReviewKeeper :=
  (k.setReviewAppeal { appeal with
    resolved := true, upheld := upheld, resolvedAtHeight := call.height,
    resolverNotes := notes }).setReviewSession session

def resumeAccepted (appeal : ReviewAppeal) (session : ReviewSession) : ReviewKeeper :=
  if session.finalDecision = .accept then
    match k.getContribution appeal.contributionID with
    | none => k
    | some contribution =>
        { k with vesting := k.vesting.resumeVesting ⟨contribution.contributor, appeal.contributionID⟩ }
  else k

def upholdVerdict (call : ReviewCall lib) (appeal : ReviewAppeal) (session : ReviewSession)
    (notes : String) : Except ReviewError ReviewKeeper :=
  match k.settleAppealBond appeal.appealBond (k.burnCoins (call.refusedBond .burnAppeal)) with
  | none => .error .appealBurnFailed
  | some k =>
      let status : ReviewStatus := if session.finalDecision = .accept then .accepted else .rejected
      let k := (k.recordAppeal appeal.appealID (.burned appeal.appealBond)).resumeAccepted appeal session
      .ok (k.storeVerdict call appeal { session with status := status } true notes)

def overturned (session : ReviewSession) : ReviewSession :=
  if session.finalDecision = .accept then { session with status := .rejected, finalDecision := .reject }
  else { session with status := .accepted, finalDecision := .accept }

def reverseClaim (call : ReviewCall lib) (appeal : ReviewAppeal) (session : ReviewSession)
    (authority : String) : ReviewKeeper :=
  match k.getContribution appeal.contributionID with
  | none => k
  | some contribution =>
      if (overturned session).status = ReviewStatus.accepted then
        let k := { k with vesting :=
          k.vesting.resumeVesting ⟨contribution.contributor, appeal.contributionID⟩ }
        k.setContribution { contribution with reviewStatus := .accepted }
      else
        (k.revoke call contribution appeal authority).setContribution
          { contribution with reviewStatus := .rejected }

def overturnVerdict (call : ReviewCall lib) (appeal : ReviewAppeal) (session : ReviewSession)
    (account authority notes : String) : Except ReviewError ReviewKeeper :=
  match k.settleAppealBond appeal.appealBond
      (k.sendCoinsFromModuleToAccount (call.refusedBond .refundAppeal) account) with
  | none => .error .appealRefundFailed
  | some k =>
      let k := (k.recordAppeal appeal.appealID (.refunded appeal.appealBond)).reverseClaim call appeal session
        authority
      let k := k.penaliseVoters lib session session.finalDecision
      .ok (k.storeVerdict call appeal (overturned session) false notes)

def processResolveAppeal (call : ReviewCall lib) (authority : String) (appealID : Nat) (upheld : Bool)
    (notes : String) : Except ReviewError ReviewKeeper :=
  if authority ≠ k.authority then .error .unauthorized
  else match k.getReviewAppeal appealID with
    | none => .error .appealNotFound
    | some appeal =>
        if appeal.resolved then .error .appealAlreadyResolved
        else match k.getReviewSession appeal.contributionID with
          | none => .error .reviewNotActive
          | some session =>
              match lib.addresses.accAddress appeal.appellant with
              | none => .error .invalidAddress
              | some account => do
                  let k ←
                    if upheld then k.upholdVerdict call appeal session notes
                    else k.overturnVerdict call appeal session account authority notes
                  return k.transitionClaimStatus appeal.contributionID .resolved

end Appeals

end ReviewKeeper

end Omniphi.Poc
