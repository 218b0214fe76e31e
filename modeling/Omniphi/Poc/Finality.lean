import Omniphi.Lib.KeyedMap
import Omniphi.Sdk

/-! The finality of contributions: endorsement to a quorum, challenge windows and fraud proofs. -/

namespace Omniphi.Poc

inductive FinalityStatus
  | pending | final | challenged | invalidated
  deriving DecidableEq

structure ContributionFinality where
  contributionID : Nat
  status : FinalityStatus
  finalizedAt : Int
  challengeID : Nat

structure ChallengeWindow where
  contributionID : Nat
  startHeight : Int
  endHeight : Int

def ChallengeWindow.isExpired (cw : ChallengeWindow) (currentHeight : Int) : Bool :=
  decide (currentHeight > cw.endHeight)

inductive FraudProofType
  | invalidQuorum | hashMismatch | nonceReplay | merkleInclusion
  | unknown (code : Nat)
  deriving DecidableEq

def FraudProofType.isValid : FraudProofType → Bool
  | .unknown _ => false
  | _ => true

structure FraudProof where
  contributionID : Nat
  proofType : FraudProofType
  challenger : String
  proofData : Bytes
  submittedAt : Int
  validated : Bool

structure Endorsement where
  valAddr : String
  decision : Bool
  power : Int
  time : Int

structure Contribution where
  id : Nat
  contributor : String
  ctype : String
  hash : Bytes
  endorsements : List Endorsement
  verified : Bool

namespace Contribution

def addEndorsement (c : Contribution) (e : Endorsement) : Contribution :=
  { c with endorsements := c.endorsements ++ [e] }

def getApprovalPower (c : Contribution) : Int :=
  ((c.endorsements.filter Endorsement.decision).map Endorsement.power).sum

end Contribution

structure FrozenCredits where
  address : String
  amount : Int
  contributionID : Nat

inductive FinalityError
  | contributionNotFound | invalidValidatorAddress | alreadyEndorsed | notValidator | zeroPower
  | totalBonded | creditsOutOfRange | invalidContributor | invalidStateTransition | challengeWindowOpen
  | challengeWindowClosed | contributionInvalidated | porBatchNotFinalized | invalidFraudProofType
  | fraudProofAlreadyExists | fraudProofFailed
  deriving DecidableEq

structure Chain where
  height : Int
  time : Int
  totalBondedTokens : Option Int
  validatorTokens : String → Option Int
  claimNonce : String → Nat
  porWired : Bool
  batchFor : Nat → Nat
  batchFinalized : Nat → Bool
  batchRejected : Nat → Bool
  slashingWired : Bool
  slashes : String → Bool

/-- How the SDK reads the texts of addresses, and writes that of a validator. -/
structure Addresses where
  valAddress : String → Option String
  accAddress : String → Option String
  valText : String → String

def Addresses.validator (addresses : Addresses) (text : String) : Option String :=
  addresses.valAddress text <|> addresses.accAddress text

structure FinalityParams where
  quorumPct : LegacyDec
  baseRewardUnit : Int
  ctypeWeights : List (String × Nat)

/-- `slashed` records the slashes of endorsers, `reached` the contributions that an endorsement brought to
their quorum. -/
structure FinalityKeeper where
  params : FinalityParams
  contributions : KeyedMap Contribution.id
  finalities : KeyedMap ContributionFinality.contributionID
  challengeWindows : KeyedMap ChallengeWindow.contributionID
  fraudProofs : KeyedMap FraudProof.contributionID
  credits : String → Int
  frozenCredits : String → FrozenCredits
  slashed : List (Nat × String)
  reached : List Nat

def defaultChallengeWindowBlocks : Int := 100

def maxSafeCredits : Int := 2 ^ 63 - 1

namespace FinalityKeeper

section Stores

variable (k : FinalityKeeper) (contributionID : Nat)

def getContribution : Option Contribution := k.contributions.get? contributionID

def setContribution (c : Contribution) : FinalityKeeper := { k with contributions := k.contributions.insert c }

def getContributionFinality : ContributionFinality :=
  (k.finalities.get? contributionID).getD ⟨contributionID, .pending, 0, 0⟩

def setContributionFinality (f : ContributionFinality) : FinalityKeeper :=
  { k with finalities := k.finalities.insert f }

def getChallengeWindow : Option ChallengeWindow := k.challengeWindows.get? contributionID

def setChallengeWindow (cw : ChallengeWindow) : FinalityKeeper :=
  { k with challengeWindows := k.challengeWindows.insert cw }

def getFraudProof : Option FraudProof := k.fraudProofs.get? contributionID

def setFraudProof (fp : FraudProof) : FinalityKeeper := { k with fraudProofs := k.fraudProofs.insert fp }

def status : FinalityStatus := (k.getContributionFinality contributionID).status

end Stores

section Quorum

variable (addresses : Addresses) (k : FinalityKeeper) (chain : Chain)

def requiredPower (totalBonded : Int) : Int :=
  LegacyDec.truncateInt (LegacyDec.mul (LegacyDec.ofInt totalBonded) k.params.quorumPct)

def hasQuorum (c : Contribution) : Except FinalityError Bool :=
  match chain.totalBondedTokens with
  | none => .error .totalBonded
  | some total => .ok (decide (total ≠ 0) && decide (k.requiredPower total ≤ c.getApprovalPower))

def weightFor (c : Contribution) : Int :=
  match k.params.ctypeWeights.lookup c.ctype with
  | none => 1
  | some bps => if bps = 0 then 1 else (bps / 100 : Nat)

def addCreditsWithOverflowCheck (addr : String) (amount : Int) : Except FinalityError FinalityKeeper :=
  if amount ≤ 0 then .error .creditsOutOfRange
  else
    let newTotal := k.credits addr + amount
    if newTotal < k.credits addr then .error .creditsOutOfRange
    else if newTotal > maxSafeCredits then .error .creditsOutOfRange
    else .ok { k with credits := Function.update k.credits addr newTotal }

def enqueueReward (c : Contribution) : Except FinalityError FinalityKeeper :=
  let credits := k.params.baseRewardUnit * k.weightFor c
  if credits < 0 then .error .creditsOutOfRange
  else if credits ≥ maxSafeCredits then .error .creditsOutOfRange
  else
    match addresses.accAddress c.contributor with
    | none => .error .invalidContributor
    | some contributor => k.addCreditsWithOverflowCheck contributor credits

def verify (c : Contribution) : Except FinalityError FinalityKeeper := do
  let rewarded ← k.enqueueReward addresses c
  return { rewarded.setContribution { c with verified := true } with reached := rewarded.reached ++ [c.id] }

def addEndorsement (contributionID : Nat) (endorsement : Endorsement) :
    Except FinalityError FinalityKeeper :=
  match k.getContribution contributionID with
  | none => .error .contributionNotFound
  | some contribution =>
    match addresses.validator endorsement.valAddr with
    | none => .error .invalidValidatorAddress
    | some valAddr =>
      if contribution.endorsements.any fun existing =>
          decide (addresses.validator existing.valAddr = some valAddr) then .error .alreadyEndorsed
      else
        match chain.validatorTokens valAddr with
        | none => .error .notValidator
        | some tokens =>
          if tokens = 0 then .error .zeroPower
          else
            let canonicalEndorsement : Endorsement :=
              ⟨addresses.valText valAddr, endorsement.decision, tokens, chain.time⟩
            let endorsed := contribution.addEndorsement canonicalEndorsement
            if endorsement.decision = true ∧ contribution.verified = false then
              match k.hasQuorum chain endorsed with
              | .error error => .error error
              | .ok true => k.verify addresses endorsed
              | .ok false => .ok (k.setContribution endorsed)
            else .ok (k.setContribution endorsed)

end Quorum

section Credits

variable (addresses : Addresses) (k : FinalityKeeper)

def unfreezeCredits (addr : String) : FinalityKeeper :=
  let fc := k.frozenCredits addr
  if fc.amount = 0 then k
  else { k with frozenCredits := Function.update k.frozenCredits fc.address { fc with amount := 0 } }

def burnFrozenCredits (addr : String) : FinalityKeeper :=
  let fc := k.frozenCredits addr
  if fc.amount = 0 then k
  else
    match addresses.accAddress addr with
    | none => k
    | some account =>
      let left := if k.credits account < fc.amount then 0 else k.credits account - fc.amount
      let burned := { k with credits := Function.update k.credits account left }
      { burned with frozenCredits := Function.update k.frozenCredits fc.address { fc with amount := 0 } }

def slashFraudEndorsers (chain : Chain) (contribution : Contribution) : FinalityKeeper :=
  if chain.slashingWired = false then k
  else
    let endorsers := (contribution.endorsements.filter Endorsement.decision).filterMap fun endorsement =>
      addresses.validator endorsement.valAddr
    { k with slashed := k.slashed ++ (endorsers.filter chain.slashes).map fun endorser =>
        (contribution.id, endorser) }

end Credits

section Transitions

variable (addresses : Addresses) (k : FinalityKeeper) (chain : Chain) (contributionID : Nat)

def openChallengeWindow : FinalityKeeper :=
  let window : ChallengeWindow :=
    ⟨contributionID, chain.height, chain.height + defaultChallengeWindowBlocks⟩
  (k.setChallengeWindow window).setContributionFinality ⟨contributionID, .pending, 0, 0⟩

def finalizeContribution : FinalityKeeper :=
  k.setContributionFinality ⟨contributionID, .final, chain.height, 0⟩

/-- A batch the contribution is linked to must be final. -/
def batchBlocks : Bool :=
  chain.porWired &&
    (decide (chain.batchFor contributionID > 0) && !chain.batchFinalized (chain.batchFor contributionID))

def windowOpen : Bool :=
  (k.getChallengeWindow contributionID).any fun cw => !cw.isExpired chain.height

def windowExpired : Bool :=
  (k.getChallengeWindow contributionID).any fun cw => cw.isExpired chain.height

def tryFinalizeContribution : Except FinalityError FinalityKeeper :=
  let finality := k.getContributionFinality contributionID
  if finality.status ≠ .pending then .error .invalidStateTransition
  else if k.windowOpen chain contributionID then .error .challengeWindowOpen
  else if (k.getFraudProof contributionID).isSome then .error .contributionInvalidated
  else if batchBlocks chain contributionID then .error .porBatchNotFinalized
  else .ok (k.setContributionFinality { finality with status := .final, finalizedAt := chain.height })

def challengeContribution (challengeID : Nat) : Except FinalityError FinalityKeeper :=
  let finality := k.getContributionFinality contributionID
  if finality.status ≠ .pending then .error .invalidStateTransition
  else if k.windowExpired chain contributionID then .error .challengeWindowClosed
  else .ok (k.setContributionFinality { finality with status := .challenged, challengeID := challengeID })

def resolveChallengeInvalid : Except FinalityError FinalityKeeper :=
  let finality := k.getContributionFinality contributionID
  if finality.status ≠ .challenged then .error .invalidStateTransition
  else if (k.getFraudProof contributionID).isSome then .error .contributionInvalidated
  else
    let resolved :=
      k.setContributionFinality { finality with status := .final, finalizedAt := chain.height }
    match resolved.getContribution contributionID with
    | none => .ok resolved
    | some contribution => .ok (resolved.unfreezeCredits contribution.contributor)

def invalidateContribution : Except FinalityError FinalityKeeper :=
  let finality := k.getContributionFinality contributionID
  if finality.status ≠ .challenged then .error .invalidStateTransition
  else
    let invalidated := k.setContributionFinality { finality with status := .invalidated }
    match invalidated.getContribution contributionID with
    | none => .ok invalidated
    | some contribution =>
      .ok ((invalidated.burnFrozenCredits addresses contribution.contributor).slashFraudEndorsers addresses
        chain contribution)

end Transitions

section FraudProofs

variable (addresses : Addresses) (k : FinalityKeeper) (chain : Chain) (contributionID : Nat)

def verifyInvalidQuorumProof (contribution : Contribution) : Except FinalityError Bool :=
  if contribution.verified = false then .ok false
  else
    match chain.totalBondedTokens with
    | none => .error .totalBonded
    | some totalBonded =>
      .ok (decide (contribution.getApprovalPower < k.requiredPower totalBonded))

def verifyHashMismatchProof (contribution : Contribution) (proofData : Bytes) : Except FinalityError Bool :=
  if proofData.length = 0 then .error .fraudProofFailed
  else if contribution.hash.length = 0 then .ok true
  else if contribution.hash.length ≠ 32 ∧ contribution.hash.length ≠ 64 then .ok true
  else .ok (contribution.hash.all fun b => decide (b = 0))

def verifyNonceReplayProof (contribution : Contribution) (proofData : Bytes) : Except FinalityError Bool :=
  if proofData.length < 8 then .error .fraudProofFailed
  else
    let claimedNonce := (proofData.take 8).foldl (fun n b => n * 256 + b.toNat) 0
    .ok (decide (claimedNonce < chain.claimNonce contribution.contributor))

def verifyMerkleInclusionProof (contribution : Contribution) : Except FinalityError Bool :=
  if chain.porWired = false then .error .fraudProofFailed
  else if chain.batchFor contribution.id = 0 then .error .fraudProofFailed
  else .ok (chain.batchRejected (chain.batchFor contribution.id))

def verifyFraudProof (proofType : FraudProofType) (proofData : Bytes) : Except FinalityError Bool :=
  match k.getContribution contributionID with
  | none => .error .contributionNotFound
  | some contribution =>
    match proofType with
    | .invalidQuorum => k.verifyInvalidQuorumProof chain contribution
    | .hashMismatch => verifyHashMismatchProof contribution proofData
    | .nonceReplay => verifyNonceReplayProof chain contribution proofData
    | .merkleInclusion => verifyMerkleInclusionProof chain contribution
    | .unknown _ => .error .invalidFraudProofType

-- An error of either transition is only logged.
def afterFraudProof : FinalityKeeper :=
  match k.status contributionID with
  | .pending =>
    let challenged := ((k.challengeContribution chain contributionID 0).toOption).getD k
    ((challenged.invalidateContribution addresses chain contributionID).toOption).getD challenged
  | .challenged => ((k.invalidateContribution addresses chain contributionID).toOption).getD k
  | _ => k

def submitFraudProof (proofType : FraudProofType) (challenger : String) (proofData : Bytes) :
    Except FinalityError FinalityKeeper :=
  if proofType.isValid = false then .error .invalidFraudProofType
  else if (k.getFraudProof contributionID).isSome then .error .fraudProofAlreadyExists
  else
    match k.verifyFraudProof chain contributionID proofType proofData with
    | .error _ => .error .fraudProofFailed
    | .ok false => .error .fraudProofFailed
    | .ok true =>
      let proof : FraudProof := ⟨contributionID, proofType, challenger, proofData, chain.height, true⟩
      .ok ((k.setFraudProof proof).afterFraudProof addresses chain contributionID)

end FraudProofs

end FinalityKeeper

end Omniphi.Poc
