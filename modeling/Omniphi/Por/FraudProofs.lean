import Omniphi.Por.Lifecycle

/-! When the resolution of challenges convicts a batch that was submitted with the leaves of its root. -/

namespace Omniphi.Por.PorKeeper

variable {lib : Library} {k k' : PorKeeper} {env : Env} {batch : BatchCommitment} {challenge : Challenge}

/-- The batch is stored with its leaves: as many as it counts records, and the ones its root is made of. -/
structure Honest (lib : Library) (k : PorKeeper) (batch : BatchCommitment) (leafHashes : List Bytes) : Prop where
  found : k.getBatch batch.batchId = some batch
  pending : batch.status = .pending
  stored : k.batchLeafHashes[batch.batchId]? = some leafHashes
  counted : leafHashes.length = batch.recordCount
  root : computeMerkleRoot lib leafHashes = batch.recordMerkleRoot

def Duplicated (k : PorKeeper) (batch : BatchCommitment) (leafHashes : List Bytes) : Prop :=
  ∃ hash ∈ leafHashes, ∃ other, other ≠ batch.batchId ∧ (k.getBatch other).isSome = true ∧
    k.hasLeafHashInBatch other hash = true

/-- The data of the challenge reads as leaves of the right number and length, with another root. -/
def Forges (lib : Library) (batch : BatchCommitment) (challenge : Challenge) : Prop :=
  challenge.challengeType = .invalidRoot ∧ ∃ leafHashes ∈ lib.invalidRootProof challenge.proofData,
    leafHashes ≠ [] ∧ leafHashes.length = batch.recordCount ∧ (∀ h ∈ leafHashes, h.length = 32) ∧
      computeMerkleRoot lib leafHashes ≠ batch.recordMerkleRoot

def Forged (lib : Library) (k : PorKeeper) (batch : BatchCommitment) : Prop :=
  ∃ challenge ∈ k.getChallengesForBatch batch.batchId, challenge.status = .opened ∧ Forges lib batch challenge

def Convicts (k k' : PorKeeper) (batchId : Nat) : Prop :=
  (∃ batch ∈ k'.getBatch batchId, batch.status = .rejected) ∨ k'.reputations ≠ k.reputations

section Verdicts

theorem verifyInvalidRoot_proven : verifyInvalidRoot lib challenge batch = .proven ↔
    ∃ leafHashes ∈ lib.invalidRootProof challenge.proofData, leafHashes ≠ [] ∧
      leafHashes.length = batch.recordCount ∧ (∀ h ∈ leafHashes, h.length = 32) ∧
        computeMerkleRoot lib leafHashes ≠ batch.recordMerkleRoot := by
  unfold verifyInvalidRoot
  cases lib.invalidRootProof challenge.proofData with
  | none => simp
  | some leafHashes =>
      simp only [Option.mem_def, Option.some.injEq, exists_eq_left']
      split_ifs with empty count length root <;> simp_all

theorem verifyDoubleInclusion_proven : k.verifyDoubleInclusion lib challenge batch = .proven ↔
    ∃ hash other, lib.doubleInclusionProof challenge.proofData = some (hash, other) ∧ hash.length = 32 ∧
      other ≠ batch.batchId ∧ (k.getBatch other).isSome = true ∧
      k.hasLeafHashInBatch batch.batchId hash = true ∧ k.hasLeafHashInBatch other hash = true := by
  unfold verifyDoubleInclusion
  cases lib.doubleInclusionProof challenge.proofData with
  | none => simp
  | some proof =>
      obtain ⟨hash, other⟩ := proof
      simp only [Option.some.injEq, Prod.mk.injEq]
      constructor
      · intro proven
        refine ⟨hash, other, ⟨rfl, rfl⟩, ?_⟩
        split at proven
        · cases proven
        rename_i length
        split at proven
        · cases proven
        rename_i away
        split at proven
        · cases proven
        rename_i otherBatch found
        split at proven
        · rename_i both
          rw [Bool.and_eq_true] at both
          exact ⟨not_not.1 length, away, by rw [found]; rfl, both.1, both.2⟩
        · split at proven
          · cases proven
          · split at proven <;> cases proven
      · rintro ⟨hash', other', ⟨rfl, rfl⟩, length, away, stored, here, there⟩
        obtain ⟨otherBatch, found⟩ := Option.isSome_iff_exists.1 stored
        simp [length, away, found, here, there]

theorem verifyChallenge_congr (batches : k'.batches = k.batches)
    (leaves : k'.batchLeafHashes = k.batchLeafHashes) (challenge : Challenge) (batch : BatchCommitment) :
    k'.verifyChallenge lib challenge batch = k.verifyChallenge lib challenge batch := by
  unfold verifyChallenge verifyDoubleInclusion getBatch hasLeafHashInBatch
  rw [batches, leaves]

end Verdicts

section Resolution

variable (lib env) in
theorem processValidChallenge_runs (stored : k.getChallenge challenge.challengeId = some challenge)
    (opened : challenge.status = .opened) (found : k.getBatch challenge.batchId = some batch) :
    ∃ k', k.processValidChallenge lib env challenge.challengeId = some k' := by
  unfold processValidChallenge
  simp only [stored, Option.bind_eq_bind, Option.bind_some, opened, guard_true, found]
  exact ⟨_, rfl⟩

structure Acquits (k k' : PorKeeper) : Prop where
  batches : k'.batches = k.batches
  leaves : k'.batchLeafHashes = k.batchLeafHashes
  reputations : k'.reputations = k.reputations

theorem Acquits.refl (k : PorKeeper) : Acquits k k := ⟨rfl, rfl, rfl⟩

theorem acquits_processInvalidChallenge {challengeId : Nat}
    (ran : k.processInvalidChallenge env challengeId = some k') : Acquits k k' := by
  obtain ⟨challenge, -, -, rfl | ⟨bank, -, rfl⟩⟩ := processInvalidChallenge_cases ran
  · exact ⟨rfl, rfl, rfl⟩
  · exact ⟨rfl, rfl, rfl⟩

variable (env) in
theorem resolveOne_acquits (unproven : challenge.status = .opened →
      k.verifyChallenge lib challenge batch ≠ .proven) :
    (resolveOne lib env batch (k, false) challenge).2 = false ∧
      Acquits k (resolveOne lib env batch (k, false) challenge).1 := by
  have tried : Acquits k ((k.processInvalidChallenge env challenge.challengeId).getD k) := by
    cases ran : k.processInvalidChallenge env challenge.challengeId with
    | none => exact .refl k
    | some k' => exact acquits_processInvalidChallenge ran
  have timed : Acquits k (k.rejectIfTimedOut env batch challenge.challengeId) := by
    unfold rejectIfTimedOut
    split
    · exact tried
    · exact .refl k
  unfold resolveOne
  rw [if_neg Bool.false_ne_true]
  split
  · exact ⟨rfl, .refl k⟩
  rename_i opened
  rw [not_not] at opened
  split
  · exact ⟨rfl, timed⟩
  · exact ⟨rfl, timed⟩
  · rename_i proven
    exact absurd proven (unproven opened)
  · exact ⟨rfl, tried⟩

variable (env) in
theorem resolveAll_acquits {pending : List Challenge} (unproven : ∀ challenge ∈ pending,
      challenge.status = .opened → k.verifyChallenge lib challenge batch ≠ .proven) :
    Acquits k (pending.foldl (resolveOne lib env batch) (k, false)).1 := by
  induction pending generalizing k with
  | nil => exact .refl k
  | cons challenge rest ih =>
      obtain ⟨onwards, first⟩ := resolveOne_acquits env (unproven challenge List.mem_cons_self)
      rw [List.foldl_cons]
      generalize resolveOne lib env batch (k, false) challenge = after at onwards first
      obtain ⟨after, stopped⟩ := after
      obtain rfl : stopped = false := onwards
      have last := @ih after (by
        intro other member opened
        rw [verifyChallenge_congr first.batches first.leaves]
        exact unproven other (List.mem_cons_of_mem _ member) opened)
      exact ⟨last.batches.trans first.batches, last.leaves.trans first.leaves,
        last.reputations.trans first.reputations⟩

theorem resolveAll_rejects {pending : List Challenge} (distinct : (pending.map Challenge.challengeId).Nodup)
    (stored : ∀ challenge ∈ pending, k.getChallenge challenge.challengeId = some challenge)
    (ofBatch : ∀ challenge ∈ pending, challenge.batchId = batch.batchId)
    (found : k.getBatch batch.batchId = some batch) (status : batch.status = .pending)
    (proven : ∃ challenge ∈ pending, challenge.status = .opened ∧
      k.verifyChallenge lib challenge batch = .proven) :
    (pending.foldl (resolveOne lib env batch) (k, false)).1.getBatch batch.batchId =
      some { batch with status := .rejected } := by
  induction pending generalizing k with
  | nil =>
      obtain ⟨challenge, member, -⟩ := proven
      cases member
  | cons challenge rest ih =>
      rw [List.foldl_cons]
      by_cases here : challenge.status = .opened ∧ k.verifyChallenge lib challenge batch = .proven
      · have at' : k.getBatch challenge.batchId = some batch := by
          rwa [ofBatch challenge List.mem_cons_self]
        obtain ⟨k', ran⟩ := processValidChallenge_runs lib env
          (stored challenge List.mem_cons_self) here.1 at'
        have rejects : resolveOne lib env batch (k, false) challenge = (k', true) := by
          simp [resolveOne, here.1, here.2, ran]
        rw [rejects, foldl_resolveOne_rejected]
        obtain ⟨challenge', batch', reputations, bank, bonds, stored', -, found', rfl⟩ :=
          processValidChallenge_records ran
        obtain rfl := Option.some.inj ((stored challenge List.mem_cons_self).symm.trans stored')
        obtain rfl := Option.some.inj (at'.symm.trans found')
        exact (getBatch_updateBatchStatus k batch .rejected batch.batchId).trans (if_pos rfl)
      · obtain ⟨fresh, distinct⟩ := List.nodup_cons.1 distinct
        have unproven : challenge.status = .opened → k.verifyChallenge lib challenge batch ≠ .proven :=
          fun opened same => here ⟨opened, same⟩
        obtain ⟨-, decided⟩ := resolveOne_settles lib env (fun _ _ => True)
          (stored challenge List.mem_cons_self) (ofBatch challenge List.mem_cons_self) found status
          fun _ _ => trivial
        obtain ⟨onwards, first⟩ := resolveOne_acquits env unproven
        generalize resolveOne lib env batch (k, false) challenge = after at onwards first decided
        obtain ⟨after, stopped⟩ := after
        obtain rfl : stopped = false := onwards
        refine @ih after distinct ?_ (fun other member => ofBatch other (List.mem_cons_of_mem _ member))
          ((decided.batches rfl _).trans found) ?_
        · intro other member
          have away : challenge.challengeId ≠ other.challengeId := fun equal =>
            fresh (equal ▸ List.mem_map_of_mem member)
          rw [decided.others _ away]
          exact stored other (List.mem_cons_of_mem _ member)
        · obtain ⟨other, member, opened, verdict⟩ := proven
          obtain rfl | member := List.mem_cons.1 member
          · exact absurd ⟨opened, verdict⟩ here
          · exact ⟨other, member, opened, by rwa [verifyChallenge_congr first.batches first.leaves]⟩

end Resolution

section Framed

def framedRun : List Action :=
  quorateRun ++ [.challengeBatch (block 3 30) ⟨"challenger", 1, .invalidRoot, zeroLeafProof⟩]

def framed : PorKeeper := framedRun.foldl (step library) start

def oneRecordBatch : BatchCommitment where
  batchId := 1
  epoch := 0
  recordMerkleRoot := ones32
  recordCount := 1
  appId := 1
  verifierSetId := 1
  submitter := "submitter"
  challengeEndTime := 3610
  status := .pending
  submittedAt := 10
  finalizedAt := 0
  daCommitmentHash := []
  poseqCommitmentHash := []

theorem honest_oneRecordBatch : Honest library framed oneRecordBatch [ones32] :=
  ⟨by decide +kernel, rfl, by decide +kernel, rfl, by decide +kernel⟩

end Framed

end Omniphi.Por.PorKeeper
