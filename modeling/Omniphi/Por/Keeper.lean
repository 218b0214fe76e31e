import Omniphi.Por.Types

/-! The keeper of the proof-of-record module: its stores, the handlers of its messages and its end blocker. -/

namespace Omniphi.Por

namespace BatchStatus

def code : BatchStatus → Nat
  | submitted => 0
  | pending => 1
  | finalized => 2
  | rejected => 3

theorem code_injective : Function.Injective code := by
  intro a b same
  cases a <;> cases b <;> first | rfl | cases same

instance : Ord BatchStatus := ⟨compareOn code⟩

instance : Std.TransOrd BatchStatus := inferInstanceAs (Std.TransCmp (compareOn code))

instance : Std.LawfulEqOrd BatchStatus := BTree.lawfulEq_of_injective code code_injective

end BatchStatus

instance : Ord (BatchStatus × Nat) := lexOrd

instance : Std.TransOrd (BatchStatus × Nat) := BTree.lexTrans

instance : Std.LawfulEqOrd (BatchStatus × Nat) := BTree.lexLawful

instance natStringOrd : Ord (Nat × String) := lexOrd

instance natStringTransOrd : Std.TransOrd (Nat × String) := BTree.lexTrans

instance natStringLawfulEqOrd : Std.LawfulEqOrd (Nat × String) := BTree.lexLawful

instance stringNatOrd : Ord (String × Nat) := lexOrd

instance stringNatTransOrd : Std.TransOrd (String × Nat) := BTree.lexTrans

instance stringNatLawfulEqOrd : Std.LawfulEqOrd (String × Nat) := BTree.lexLawful

def porAccount : Account := .module "por"

structure Award where
  batchId : Nat
  epoch : Nat
  credits : Int

inductive Bond
  | refunded (challengeId : Nat)
  | burned (challengeId : Nat)

def Bond.challengeId : Bond → Nat
  | refunded challengeId => challengeId
  | burned challengeId => challengeId

/-- `awards` and `bonds` record the calls to the PoC keeper and the bank that succeeded. -/
structure PorKeeper where
  authority : String
  params : Params
  apps : KeyedMap App.appId
  verifierSets : KeyedMap VerifierSet.verifierSetId
  poseqCommitments : List Bytes
  batches : KeyedMap BatchCommitment.batchId
  batchByStatus : BTreeSet (BatchStatus × Nat)
  attestations : KeyedMap Attestation.key
  challenges : KeyedMap Challenge.challengeId
  reputations : KeyedMap VerifierReputation.address
  epochCredits : BTreeMap Nat Int
  batchLeafHashes : BTreeMap Nat (List Bytes)
  challengeCounts : BTreeMap (String × Nat) Nat
  blockSubmissionCount : Nat
  nextBatchId : Nat
  nextChallengeId : Nat
  bank : Bank
  awards : List Award
  bonds : List Bond

inductive Action
  | submitBatch (env : Env) (msg : MsgSubmitBatch)
  | submitAttestation (env : Env) (msg : MsgSubmitAttestation)
  | challengeBatch (env : Env) (msg : MsgChallengeBatch)
  | finalizeBatch (env : Env) (msg : MsgFinalizeBatch)
  | endBlocker (env : Env)

def Action.env : Action → Env
  | submitBatch env _ => env
  | submitAttestation env _ => env
  | challengeBatch env _ => env
  | finalizeBatch env _ => env
  | endBlocker env => env

namespace PorKeeper

variable (lib : Library) (k : PorKeeper) (env : Env)

def new (authority : String) (params : Params) (apps : KeyedMap App.appId)
    (verifierSets : KeyedMap VerifierSet.verifierSetId) (poseqCommitments : List Bytes) (bank : Bank) :
    PorKeeper where
  authority := authority
  params := params
  apps := apps
  verifierSets := verifierSets
  poseqCommitments := poseqCommitments
  batches := .empty
  batchByStatus := ∅
  attestations := .empty
  challenges := .empty
  reputations := .empty
  epochCredits := ∅
  batchLeafHashes := ∅
  challengeCounts := ∅
  blockSubmissionCount := 0
  nextBatchId := 1
  nextChallengeId := 1
  bank := bank
  awards := []
  bonds := []

section Stores

def getBatch (batchId : Nat) : Option BatchCommitment := k.batches.get? batchId

def setBatch (batch : BatchCommitment) : PorKeeper :=
  { k with
    batches := k.batches.insert batch
    batchByStatus := k.batchByStatus.insert (batch.status, batch.batchId) }

def updateBatchStatus (batch : BatchCommitment) (newStatus : BatchStatus) : PorKeeper :=
  { k with
    batches := k.batches.insert { batch with status := newStatus }
    batchByStatus := (k.batchByStatus.erase (batch.status, batch.batchId)).insert (newStatus, batch.batchId) }

def getBatchesByStatus (status : BatchStatus) : List BatchCommitment :=
  (k.batchByStatus.toList.filter fun entry => entry.1 = status).filterMap fun entry => k.getBatch entry.2

def getAttestation (batchId : Nat) (verifier : String) : Option Attestation :=
  k.attestations.get? (batchId, verifier)

def setAttestation (att : Attestation) : PorKeeper := { k with attestations := k.attestations.insert att }

def getAttestationsForBatch (batchId : Nat) : List Attestation :=
  k.attestations.values.filter fun att => att.batchId = batchId

def getChallenge (challengeId : Nat) : Option Challenge := k.challenges.get? challengeId

def setChallenge (challenge : Challenge) : PorKeeper :=
  { k with challenges := k.challenges.insert challenge }

def getChallengesForBatch (batchId : Nat) : List Challenge :=
  k.challenges.values.filter fun challenge => challenge.batchId = batchId

def hasOpenChallenges (batchId : Nat) : Bool :=
  (k.getChallengesForBatch batchId).any fun challenge => challenge.status = .opened

def getOrCreateVerifierReputation (address : String) : VerifierReputation :=
  (k.reputations.get? address).getD ⟨address, 0, 0, 0, 0⟩

def setVerifierReputation (rep : VerifierReputation) : PorKeeper :=
  { k with reputations := k.reputations.insert rep }

def getEpochCreditsUsed (epoch : Nat) : Int := k.epochCredits[epoch]?.getD 0

def incrementEpochCredits (epoch : Nat) (amount : Int) : PorKeeper :=
  { k with epochCredits := k.epochCredits.insert epoch (k.getEpochCreditsUsed epoch + amount) }

def hasLeafHashInBatch (batchId : Nat) (leafHash : Bytes) : Bool :=
  ((k.batchLeafHashes[batchId]?).getD []).contains leafHash

def getAddressChallengeCount (address : String) (epoch : Nat) : Nat :=
  k.challengeCounts[(address, epoch)]?.getD 0

def incrementAddressChallengeCount (address : String) (epoch : Nat) : PorKeeper :=
  let count := (k.getAddressChallengeCount address epoch + 1) % 2 ^ 32
  { k with challengeCounts := k.challengeCounts.insert (address, epoch) count }

end Stores

section Messages

def getCurrentEpoch : Nat := u64OfInt (env.height.tdiv 100)

def submitBatch (msg : MsgSubmitBatch) : Option PorKeeper := do
  guard (msg.validateBasic lib)
  guard (k.blockSubmissionCount < k.params.maxBatchesPerBlock)
  let app ← k.apps.get? msg.appId
  guard (app.status = .active)
  let vs ← k.verifierSets.get? msg.verifierSetId
  guard (vs.appId = msg.appId)
  guard (!(k.params.requireDACommitment && msg.daCommitmentHash.isEmpty))
  guard (!(0 < k.params.maxCreditsPerBatch &&
    k.params.maxCreditsPerBatch < k.params.baseRecordReward * msg.recordCount))
  guard (!(k.params.requireLeafHashes && msg.leafHashes.isEmpty))
  guard (!(k.params.requirePoSeqCommitment && (msg.poseqCommitmentHash.isEmpty ||
    !k.poseqCommitments.contains msg.poseqCommitmentHash)))
  let batch : BatchCommitment :=
    { batchId := k.nextBatchId
      epoch := getCurrentEpoch env
      recordMerkleRoot := msg.recordMerkleRoot
      recordCount := msg.recordCount
      appId := msg.appId
      verifierSetId := msg.verifierSetId
      submitter := msg.submitter
      challengeEndTime := i64 (env.now + app.challengePeriod)
      status := .submitted
      submittedAt := env.now
      finalizedAt := 0
      daCommitmentHash := msg.daCommitmentHash
      poseqCommitmentHash := msg.poseqCommitmentHash }
  let k := { k with
    blockSubmissionCount := k.blockSubmissionCount + 1
    nextBatchId := k.nextBatchId + 1 }
  let k := k.setBatch batch
  return if msg.leafHashes.isEmpty then k
    else { k with batchLeafHashes := k.batchLeafHashes.insert batch.batchId msg.leafHashes }

def memberWeight (vs : VerifierSet) (verifier : String) : Option Int :=
  (vs.members.find? fun m => (lib.canonical m.address).any (· = verifier)).map VerifierMember.weight

def attestedWeight (vs : VerifierSet) (att : Attestation) : LegacyDec :=
  match (lib.canonical att.verifierAddress).bind (memberWeight lib vs) with
  | none => 0
  | some weight => LegacyDec.mul att.confidenceWeight (LegacyDec.ofInt weight)

def quorumRatio (vs : VerifierSet) (attestations : List Attestation) : LegacyDec :=
  LegacyDec.quo (attestations.map (attestedWeight lib vs)).sum (LegacyDec.ofInt vs.getTotalWeight)

def metQuorum (vs : VerifierSet) (attestations : List Attestation) : Bool :=
  vs.minAttestations ≤ attestations.length && 0 < vs.getTotalWeight &&
    vs.quorumPct ≤ quorumRatio lib vs attestations

def submitAttestation (msg : MsgSubmitAttestation) : Option PorKeeper := do
  guard (msg.validateBasic lib)
  let batch ← k.getBatch msg.batchId
  guard (batch.status = .submitted)
  let vs ← k.verifierSets.get? batch.verifierSetId
  let canonicalVerifier ← lib.canonical msg.verifier
  guard ((memberWeight lib vs canonicalVerifier).isSome)
  guard (!(0 < k.params.minReputationForAttestation &&
    (k.getOrCreateVerifierReputation canonicalVerifier).reputationScore <
      k.params.minReputationForAttestation))
  guard ((k.getAttestation msg.batchId canonicalVerifier).isNone)
  guard (msg.signature = computeAttestationSignBytes lib batch.batchId batch.recordMerkleRoot batch.epoch
    canonicalVerifier)
  let k := k.setAttestation ⟨msg.batchId, canonicalVerifier, msg.signature, msg.confidenceWeight, env.now⟩
  let k := if metQuorum lib vs (k.getAttestationsForBatch msg.batchId) then
    k.updateBatchStatus batch .pending else k
  let rep := k.getOrCreateVerifierReputation canonicalVerifier
  return k.setVerifierReputation { rep with totalAttestations := u64 (rep.totalAttestations + 1) }

def collectBond (challenger : String) (bondAmount : Int) : Option Bank :=
  if 0 < bondAmount then
    (lib.canonical challenger).bind fun address => k.bank.send (.user address) porAccount bondAmount.toNat
  else some k.bank

def challengeBatch (msg : MsgChallengeBatch) : Option PorKeeper := do
  guard (msg.validateBasic lib)
  let batch ← k.getBatch msg.batchId
  guard (batch.status = .submitted ∨ batch.status = .pending)
  guard (env.now ≤ batch.challengeEndTime)
  guard (!(0 < k.params.maxChallengesPerAddress &&
    k.params.maxChallengesPerAddress ≤ k.getAddressChallengeCount msg.challenger batch.epoch))
  let bondAmount := k.params.challengeBondAmount
  let bank ← k.collectBond lib msg.challenger bondAmount
  let k := { k with bank := bank }
  let k := if 0 < k.params.maxChallengesPerAddress then
    k.incrementAddressChallengeCount msg.challenger batch.epoch else k
  let challenge : Challenge :=
    { challengeId := k.nextChallengeId
      batchId := msg.batchId
      challenger := msg.challenger
      challengeType := msg.challengeType
      proofData := msg.proofData
      status := .opened
      timestamp := env.now
      resolvedAt := 0
      resolvedBy := ""
      bondAmount := bondAmount }
  return { k with nextChallengeId := k.nextChallengeId + 1 }.setChallenge challenge

end Messages

section Finalization

-- The cap of a batch, then what the epoch has left.
def cappedCredits (batch : BatchCommitment) : Int :=
  let credits := k.params.baseRecordReward * batch.recordCount
  let credits := if 0 < k.params.maxCreditsPerBatch ∧ k.params.maxCreditsPerBatch < credits then
    k.params.maxCreditsPerBatch else credits
  if 0 < k.params.maxCreditsPerEpoch ∧ 0 < credits then
    let remaining := k.params.maxCreditsPerEpoch - k.getEpochCreditsUsed batch.epoch
    if remaining ≤ 0 then 0 else if remaining < credits then remaining else credits
  else credits

def creditVerifier (k : PorKeeper) (att : Attestation) : PorKeeper :=
  let rep := k.getOrCreateVerifierReputation att.verifierAddress
  k.setVerifierReputation { rep with
    correctAttestations := u64 (rep.correctAttestations + 1)
    reputationScore := rep.reputationScore + 1 }

def finalizeBatchInEndBlocker (batch : BatchCommitment) : PorKeeper :=
  let batch := { batch with finalizedAt := env.now }
  let k := k.updateBatchStatus batch .finalized
  let k := match env.pocKeeper with
    | none => k
    | some addCredits =>
        let credits := k.cappedCredits batch
        match lib.canonical batch.submitter with
        | none => k
        | some submitter =>
            if 0 < credits then
              if addCredits submitter credits then
                { k with awards := ⟨batch.batchId, batch.epoch, credits⟩ :: k.awards }.incrementEpochCredits
                  batch.epoch credits
              else k
            else k
  (k.getAttestationsForBatch batch.batchId).foldl creditVerifier k

def finalizeBatch (msg : MsgFinalizeBatch) : Option PorKeeper := do
  guard (msg.validateBasic lib)
  guard (msg.authority = k.authority)
  let batch ← k.getBatch msg.batchId
  guard (batch.status = .pending)
  guard (batch.challengeEndTime < env.now)
  guard (!k.hasOpenChallenges msg.batchId)
  let batch := { batch with finalizedAt := env.now }
  let k := k.updateBatchStatus batch .finalized
  let k := match env.pocKeeper with
    | none => k
    | some addCredits =>
        let credits := k.cappedCredits batch
        match lib.canonical batch.submitter with
        | none => k
        | some submitter =>
            if 0 < credits then
              if addCredits submitter credits then
                { k with awards := ⟨batch.batchId, batch.epoch, credits⟩ :: k.awards }.incrementEpochCredits
                  batch.epoch credits
              else k
            else k
  return (k.getAttestationsForBatch msg.batchId).foldl creditVerifier k

end Finalization

section FraudProofs

inductive Verdict
  | error
  | inconclusive
  | disproven
  | proven
  deriving DecidableEq

def bytesLess : Bytes → Bytes → Bool
  | a :: as, b :: bs => if a < b then true else if b < a then false else bytesLess as bs
  | [], bs => !bs.isEmpty
  | _ :: _, [] => false

def hashPair (left right : Bytes) : Bytes := beBytes 32 (lib.sha256 (left ++ right))

def nextLevel : List Bytes → List Bytes
  | left :: right :: rest => hashPair lib left right :: nextLevel rest
  | level => level

-- The fuel is the number of leaves, and every level has fewer.
def buildTree : Nat → List Bytes → Bytes
  | 0, level => level.headD []
  | fuel + 1, level => if 1 < level.length then buildTree fuel (nextLevel lib level) else level.headD []

def computeMerkleRoot (leaves : List Bytes) : Bytes :=
  buildTree lib leaves.length (leaves.mergeSort fun a b => !bytesLess b a)

def verifyInvalidRoot (challenge : Challenge) (batch : BatchCommitment) : Verdict :=
  match lib.invalidRootProof challenge.proofData with
  | none => .error
  | some leafHashes =>
      if leafHashes.isEmpty then .error
      else if leafHashes.length ≠ batch.recordCount then .error
      else if leafHashes.any fun h => h.length ≠ 32 then .error
      else if computeMerkleRoot lib leafHashes ≠ batch.recordMerkleRoot then .proven
      else .disproven

def verifyDoubleInclusion (challenge : Challenge) (batch : BatchCommitment) : Verdict :=
  match lib.doubleInclusionProof challenge.proofData with
  | none => .error
  | some (recordHash, otherBatchId) =>
      if recordHash.length ≠ 32 then .error
      else if otherBatchId = batch.batchId then .disproven
      else match k.getBatch otherBatchId with
        | none => .disproven
        | some otherBatch =>
            let inThisBatch := k.hasLeafHashInBatch batch.batchId recordHash
            let inOtherBatch := k.hasLeafHashInBatch otherBatchId recordHash
            if inThisBatch && inOtherBatch then .proven
            else if inThisBatch && !inOtherBatch then .disproven
            else if otherBatch.status = .finalized ∨ otherBatch.status = .pending then .inconclusive
            else .disproven

def verifyChallenge (challenge : Challenge) (batch : BatchCommitment) : Verdict :=
  match challenge.challengeType with
  | .invalidRoot => verifyInvalidRoot lib challenge batch
  | .doubleInclusion => k.verifyDoubleInclusion lib challenge batch
  | .missingRecord => .inconclusive
  | .invalidSchema => .inconclusive
  | .unknown _ => .error

def isChallengeTimedOut (now challengeEndTime timeout : Int) : Bool := i64 (challengeEndTime + timeout) < now

def slashVerifier (verifier : String) (fraction : LegacyDec) : Option Int :=
  match env.slashingKeeper with
  | none => some 0
  | some slash =>
      match lib.canonical verifier with
      | none => some 0
      | some address => slash address fraction

def slashAttester (slashed : PorKeeper × Int) (att : Attestation) : PorKeeper × Int :=
  match slashVerifier lib env att.verifierAddress slashed.1.params.slashFractionDishonest with
  | none => slashed
  | some amount =>
      let rep := slashed.1.getOrCreateVerifierReputation att.verifierAddress
      (slashed.1.setVerifierReputation { rep with
        slashedCount := u64 (rep.slashedCount + 1)
        reputationScore := if rep.reputationScore - 10 < 0 then 0 else rep.reputationScore - 10 },
        slashed.2 + amount)

def payFromModule (recipient : String) (amount : Int) : Option Bank :=
  if env.blockedAddr recipient then none else k.bank.send porAccount (.user recipient) amount.toNat

def refundBond (challenge : Challenge) : PorKeeper :=
  if 0 < challenge.bondAmount then
    match lib.canonical challenge.challenger with
    | none => k
    | some challenger =>
        match k.payFromModule env challenger challenge.bondAmount with
        | none => k
        | some bank => { k with bank := bank, bonds := .refunded challenge.challengeId :: k.bonds }
  else k

def challengerReward (totalSlashed : Int) : Int :=
  if 0 < totalSlashed ∧ k.params.challengerRewardRatio ≠ 0 then
    LegacyDec.truncateInt (LegacyDec.mulInt k.params.challengerRewardRatio totalSlashed)
  else 0

def rewardChallenger (challenge : Challenge) (totalSlashed : Int) : PorKeeper :=
  if 0 < k.challengerReward totalSlashed then
    match lib.canonical challenge.challenger with
    | none => k
    | some challenger =>
        match k.payFromModule env challenger (k.challengerReward totalSlashed) with
        | none => k
        | some bank => { k with bank := bank }
  else k

def processValidChallenge (challengeId : Nat) : Option PorKeeper := do
  let challenge ← k.getChallenge challengeId
  guard (challenge.status = .opened)
  let batch ← k.getBatch challenge.batchId
  let k := k.updateBatchStatus batch .rejected
  let k := k.setChallenge { challenge with
    status := .resolvedValid
    resolvedAt := env.now
    resolvedBy := "fraud_proof" }
  let slashed := (k.getAttestationsForBatch challenge.batchId).foldl (slashAttester lib env) (k, 0)
  return (slashed.1.refundBond lib env challenge).rewardChallenger lib env challenge slashed.2

def processInvalidChallenge (challengeId : Nat) : Option PorKeeper := do
  let challenge ← k.getChallenge challengeId
  guard (challenge.status = .opened)
  let k := k.setChallenge { challenge with
    status := .resolvedInvalid
    resolvedAt := env.now
    resolvedBy := "challenge_rejected" }
  return if 0 < challenge.bondAmount then
      match k.bank.burn porAccount challenge.bondAmount.toNat with
      | none => k
      | some bank => { k with bank := bank, bonds := .burned challengeId :: k.bonds }
    else k

def rejectIfTimedOut (batch : BatchCommitment) (challengeId : Nat) : PorKeeper :=
  if isChallengeTimedOut env.now batch.challengeEndTime k.params.challengeResolutionTimeout then
    (k.processInvalidChallenge env challengeId).getD k
  else k

-- The flag is set once the batch is rejected, which ends the loop. A failure to process a challenge is
-- logged, and the next one is taken.
def resolveOne (batch : BatchCommitment) (reached : PorKeeper × Bool) (challenge : Challenge) :
    PorKeeper × Bool :=
  if reached.2 then reached
  else if challenge.status ≠ .opened then reached
  else match reached.1.verifyChallenge lib challenge batch with
    | .error => (reached.1.rejectIfTimedOut env batch challenge.challengeId, false)
    | .inconclusive => (reached.1.rejectIfTimedOut env batch challenge.challengeId, false)
    | .proven =>
        match reached.1.processValidChallenge lib env challenge.challengeId with
        | some k => (k, true)
        | none => reached
    | .disproven => ((reached.1.processInvalidChallenge env challenge.challengeId).getD reached.1, false)

def resolveOpenChallenges (batchId : Nat) : PorKeeper :=
  match k.getBatch batchId with
  | none => k
  | some batch => ((k.getChallengesForBatch batchId).foldl (resolveOne lib env batch) (k, false)).1

end FraudProofs

section EndBlocker

def resolveBatch (k : PorKeeper) (batch : BatchCommitment) : PorKeeper :=
  if env.now ≤ batch.challengeEndTime then k
  else if k.hasOpenChallenges batch.batchId then k.resolveOpenChallenges lib env batch.batchId
  else k

def finalizeBatches : PorKeeper → Nat → List BatchCommitment → PorKeeper
  | k, _, [] => k
  | k, finalized, batch :: rest =>
      if k.params.maxFinalizationsPerBlock ≤ finalized then k
      else if env.now ≤ batch.challengeEndTime then finalizeBatches k finalized rest
      else if k.hasOpenChallenges batch.batchId then finalizeBatches k finalized rest
      else finalizeBatches (k.finalizeBatchInEndBlocker lib env batch) (finalized + 1) rest

def resolvePending : PorKeeper := (k.getBatchesByStatus .pending).foldl (resolveBatch lib env) k

def endBlocker : PorKeeper :=
  let k := k.resolvePending lib env
  finalizeBatches lib env k 0 (k.getBatchesByStatus .pending)

end EndBlocker

-- A message that fails leaves the state; the count of submissions is transient.
def step (k : PorKeeper) : Action → PorKeeper
  | .submitBatch env msg => (k.submitBatch lib env msg).getD k
  | .submitAttestation env msg => (k.submitAttestation lib env msg).getD k
  | .challengeBatch env msg => (k.challengeBatch lib env msg).getD k
  | .finalizeBatch env msg => (k.finalizeBatch lib env msg).getD k
  | .endBlocker env => { k.endBlocker lib env with blockSubmissionCount := 0 }

end PorKeeper

end Omniphi.Por
