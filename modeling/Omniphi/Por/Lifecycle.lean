import Omniphi.Por.Transitions

/-! The life of a batch over whole runs: its status, the index of statuses and the credits it earns. -/

namespace Omniphi.Por.PorKeeper

variable {lib : Library} {k k' k'' : PorKeeper} {env : Env}

/-- The status index lists each batch under its status, and nothing else. -/
def Indexed (k : PorKeeper) : Prop :=
  ∀ status id, (status, id) ∈ k.batchByStatus ↔ ∃ batch ∈ k.getBatch id, batch.status = status

def Fresh (k : PorKeeper) : Prop := ∀ id, k.nextBatchId ≤ id → k.getBatch id = none

/-- Attestations come from members of the verifier set of their batch. -/
def FromMembers (lib : Library) (k : PorKeeper) : Prop :=
  ∀ key att, k.attestations.get? key = some att → ∃ batch vs, k.getBatch att.batchId = some batch ∧
    k.verifierSets.get? batch.verifierSetId = some vs ∧
    (memberWeight lib vs att.verifierAddress).isSome = true

def creditsOf (epoch : Nat) (awards : List Award) : Int :=
  ((awards.filter fun award => award.epoch = epoch).map Award.credits).sum

/-- Each batch is awarded at most once, when it is finalized, and the tracker of an epoch holds what was
awarded for it. -/
structure Budgeted (k : PorKeeper) : Prop where
  once : (k.awards.map Award.batchId).Nodup
  finalized : ∀ award ∈ k.awards, ∃ batch ∈ k.getBatch award.batchId, batch.status = .finalized
  tracked : ∀ epoch, creditsOf epoch k.awards = k.getEpochCreditsUsed epoch
  capped : 0 < k.params.maxCreditsPerEpoch → ∀ epoch, k.getEpochCreditsUsed epoch ≤ k.params.maxCreditsPerEpoch

structure Sound (lib : Library) (k : PorKeeper) : Prop where
  authorised : (lib.canonical k.authority).isSome = true
  numbered : k.getBatch 0 = none ∧ 0 < k.nextBatchId
  indexed : k.Indexed
  fresh : k.Fresh
  members : k.FromMembers lib
  budgeted : k.Budgeted

def Quorum (lib : Library) (k : PorKeeper) (batch : BatchCommitment) : Prop :=
  ∃ vs ∈ k.verifierSets.get? batch.verifierSetId,
    ((k.getAttestationsForBatch batch.batchId).map Attestation.verifierAddress).Nodup ∧
    (∀ att ∈ k.getAttestationsForBatch batch.batchId,
      ∃ m ∈ vs.members, lib.canonical m.address = some att.verifierAddress) ∧
    vs.minAttestations ≤ (k.getAttestationsForBatch batch.batchId).length ∧
    vs.quorumPct ≤ quorumRatio lib vs (k.getAttestationsForBatch batch.batchId)

inductive Moves (lib : Library) (env : Env) (id : Nat) (k k' : PorKeeper) : Prop
  | stays (same : k'.getBatch id = k.getBatch id)
  | submitted (absent : k.getBatch id = none) (batch : BatchCommitment) (status : batch.status = .submitted)
      (after : k'.getBatch id = some batch)
  | reachesQuorum (batch : BatchCommitment) (found : k.getBatch id = some batch)
      (status : batch.status = .submitted) (quorum : Quorum lib k' batch)
      (after : k'.getBatch id = some { batch with status := .pending })
  | finalized (batch : BatchCommitment) (found : k.getBatch id = some batch) (status : batch.status = .pending)
      (closed : batch.challengeEndTime < env.now) (settled : k'.hasOpenChallenges id = false)
      (after : k'.getBatch id = some { batch with finalizedAt := env.now, status := .finalized })
  | rejected (batch : BatchCommitment) (found : k.getBatch id = some batch) (status : batch.status = .pending)
      (after : k'.getBatch id = some { batch with status := .rejected })

section Records

theorem Indexed.update (indexed : k.Indexed) (batch : BatchCommitment) (status : BatchStatus)
    (found : ∃ old ∈ k.getBatch batch.batchId, old.status = batch.status) :
    (k.updateBatchStatus batch status).Indexed := by
  intro other id
  rw [mem_batchByStatus_updateBatchStatus, getBatch_updateBatchStatus, indexed]
  by_cases here : batch.batchId = id
  · subst here
    obtain ⟨old, held, same⟩ := found
    rw [Option.mem_def] at held
    simp only [if_true, held, Option.mem_def, Option.some.injEq, exists_eq_left', Prod.mk.injEq, and_true,
      ne_eq, same]
    tauto
  · simp [here]

theorem Indexed.set (indexed : k.Indexed) {batch : BatchCommitment} (absent : k.getBatch batch.batchId = none) :
    (k.setBatch batch).Indexed := by
  intro other id
  rw [mem_batchByStatus_setBatch, getBatch_setBatch, indexed]
  by_cases here : batch.batchId = id
  · subst here
    simp [absent]
  · simp [here]

theorem FromMembers.of_batches (members : k.FromMembers lib) (sets : k'.verifierSets = k.verifierSets)
    (attestations : k'.attestations = k.attestations)
    (kept : ∀ id batch, k.getBatch id = some batch →
      ∃ batch', k'.getBatch id = some batch' ∧ batch'.verifierSetId = batch.verifierSetId) :
    k'.FromMembers lib := by
  intro key att found
  rw [attestations] at found
  obtain ⟨batch, vs, held, listed, member⟩ := members key att found
  obtain ⟨batch', held', same⟩ := kept _ _ held
  exact ⟨batch', vs, held', by rw [sets, same]; exact listed, member⟩

theorem kept_update (batch : BatchCommitment) (status : BatchStatus)
    (found : ∃ old ∈ k.getBatch batch.batchId, old.verifierSetId = batch.verifierSetId) (id : Nat)
    (other : BatchCommitment) (held : k.getBatch id = some other) :
    ∃ batch', (k.updateBatchStatus batch status).getBatch id = some batch' ∧
      batch'.verifierSetId = other.verifierSetId := by
  rw [getBatch_updateBatchStatus]
  by_cases here : batch.batchId = id
  · subst here
    obtain ⟨old, found, same⟩ := found
    obtain rfl := Option.some.inj (held.symm.trans found)
    exact ⟨_, if_pos rfl, same.symm⟩
  · exact ⟨other, (if_neg here).trans held, rfl⟩

theorem Budgeted.of_batches (budgeted : k.Budgeted) (awards : k'.awards = k.awards)
    (credits : k'.epochCredits = k.epochCredits) (params : k'.params = k.params)
    (kept : ∀ id batch, k.getBatch id = some batch → batch.status = .finalized →
      k'.getBatch id = some batch) : k'.Budgeted := by
  obtain ⟨once, finalized, tracked, capped⟩ := budgeted
  have used : ∀ epoch, k'.getEpochCreditsUsed epoch = k.getEpochCreditsUsed epoch := by
    intro epoch
    rw [getEpochCreditsUsed, credits, getEpochCreditsUsed]
  refine ⟨by rwa [awards], ?_, ?_, ?_⟩
  · intro award member
    rw [awards] at member
    obtain ⟨batch, found, status⟩ := finalized award member
    exact ⟨batch, kept _ _ found status, status⟩
  · intro epoch
    rw [awards, used, tracked]
  · rw [params]
    intro limited epoch
    rw [used]
    exact capped limited epoch

theorem getEpochCreditsUsed_increment (k : PorKeeper) (epoch other : Nat) (amount : Int) :
    (k.incrementEpochCredits epoch amount).getEpochCreditsUsed other =
      if epoch = other then k.getEpochCreditsUsed epoch + amount else k.getEpochCreditsUsed other := by
  rw [getEpochCreditsUsed, incrementEpochCredits]
  dsimp only
  rw [BTree.getElem?_insert]
  split
  · rfl
  · rfl

theorem cappedCredits_le {batch : BatchCommitment} (limited : 0 < k.params.maxCreditsPerEpoch)
    (positive : 0 < k.cappedCredits batch) :
    k.getEpochCreditsUsed batch.epoch + k.cappedCredits batch ≤ k.params.maxCreditsPerEpoch := by
  unfold cappedCredits at positive ⊢
  dsimp only at positive ⊢
  generalize k.params.baseRecordReward * (batch.recordCount : Int) = credits at positive ⊢
  split_ifs at positive ⊢ <;> omega

end Records

section Steps

theorem new_sound (lib : Library) (authority : String) (params : Params) (apps : KeyedMap App.appId)
    (verifierSets : KeyedMap VerifierSet.verifierSetId) (poseqCommitments : List Bytes) (bank : Bank)
    (valid : params.Valid) (authorised : (lib.canonical authority).isSome = true) :
    Sound lib (new authority params apps verifierSets poseqCommitments bank) := by
  have none' : ∀ id, (new authority params apps verifierSets poseqCommitments bank).getBatch id = none :=
    fun id => KeyedMap.get?_empty id
  have unused : ∀ epoch,
      (new authority params apps verifierSets poseqCommitments bank).getEpochCreditsUsed epoch = 0 := by
    intro epoch
    rw [getEpochCreditsUsed]
    simp [new]
  refine ⟨authorised, ⟨none' 0, Nat.one_pos⟩, ?_, fun id _ => none' id, ?_, ⟨List.nodup_nil, ?_, ?_, ?_⟩⟩
  · intro status id
    rw [none']
    simp [new]
  · intro key att found
    cases found.symm.trans (KeyedMap.get?_empty key)
  · intro award member
    cases member
  · intro epoch
    rw [unused]
    rfl
  · intro _ epoch
    rw [unused]
    exact valid.maxCreditsPerEpoch

theorem submitBatch_cases {msg : MsgSubmitBatch} (ran : k.submitBatch lib env msg = some k') :
    ∃ batch leaves, batch.status = .submitted ∧ batch.batchId = k.nextBatchId ∧
      k' = { k.setBatch batch with
        blockSubmissionCount := k.blockSubmissionCount + 1
        nextBatchId := k.nextBatchId + 1
        batchLeafHashes := leaves } := by
  unfold submitBatch at ran
  simp only [Option.bind_eq_bind, Option.bind_eq_some_iff, Option.pure_def, Option.some.injEq] at ran
  obtain ⟨-, -, -, -, app, -, -, -, vs, -, -, -, -, -, -, -, -, -, -, -, rfl⟩ := ran
  split
  · exact ⟨_, _, rfl, rfl, rfl⟩
  · exact ⟨_, _, rfl, rfl, rfl⟩

theorem submitAttestation_cases {msg : MsgSubmitAttestation}
    (ran : k.submitAttestation lib env msg = some k') :
    ∃ batch vs verifier signature weight reputations, k.getBatch batch.batchId = some batch ∧
      batch.status = .submitted ∧ k.verifierSets.get? batch.verifierSetId = some vs ∧
      (memberWeight lib vs verifier).isSome = true ∧
      ∃ base, base = k.setAttestation ⟨batch.batchId, verifier, signature, weight, env.now⟩ ∧
        (k' = { base with reputations := reputations } ∨
          metQuorum lib vs (base.getAttestationsForBatch batch.batchId) = true ∧
          k' = { base.updateBatchStatus batch .pending with reputations := reputations }) := by
  unfold submitAttestation at ran
  simp only [Option.bind_eq_bind, Option.bind_eq_some_iff, Option.guard_eq_some', Option.pure_def,
    Option.some.injEq] at ran
  obtain ⟨-, -, batch, found, -, status, vs, listed, verifier, -, -, member, -, -, -, -, -, -, rfl⟩ := ran
  have named := batchId_of_getBatch found
  rw [← named] at found ⊢
  refine ⟨batch, vs, verifier, msg.signature, msg.confidenceWeight, ?_⟩
  split
  · rename_i met
    exact ⟨_, found, status, listed, member, _, rfl, .inr ⟨met, rfl⟩⟩
  · exact ⟨_, found, status, listed, member, _, rfl, .inl rfl⟩

theorem challengeBatch_cases {msg : MsgChallengeBatch} (ran : k.challengeBatch lib env msg = some k') :
    ∃ challenge batch bank counts, challenge.challengeId = k.nextChallengeId ∧ challenge.status = .opened ∧
      challenge.bondAmount = k.params.challengeBondAmount ∧
      k.getBatch challenge.batchId = some batch ∧
      (batch.status = .submitted ∨ batch.status = .pending) ∧
      ((0 < k.params.challengeBondAmount ∧ ∃ challenger,
        k.bank.send (.user challenger) porAccount k.params.challengeBondAmount.toNat = some bank) ∨
        (k.params.challengeBondAmount ≤ 0 ∧ bank = k.bank)) ∧
      k' = { k.setChallenge challenge with
        bank := bank, challengeCounts := counts, nextChallengeId := k.nextChallengeId + 1 } := by
  unfold challengeBatch at ran
  simp only [Option.bind_eq_bind, Option.bind_eq_some_iff, Option.guard_eq_some', Option.pure_def,
    Option.some.injEq] at ran
  obtain ⟨-, -, batch, found, -, status, -, -, -, -, bank, paid, rfl⟩ := ran
  have funds : (0 < k.params.challengeBondAmount ∧ ∃ challenger,
      k.bank.send (.user challenger) porAccount k.params.challengeBondAmount.toNat = some bank) ∨
      (k.params.challengeBondAmount ≤ 0 ∧ bank = k.bank) := by
    unfold collectBond at paid
    split at paid
    · rename_i positive
      obtain ⟨challenger, -, sent⟩ := Option.bind_eq_some_iff.1 paid
      exact .inl ⟨positive, challenger, sent⟩
    · rename_i positive
      exact .inr ⟨not_lt.1 positive, (Option.some.inj paid).symm⟩
  split
  · exact ⟨_, batch, bank, _, rfl, rfl, rfl, found, status, funds, rfl⟩
  · exact ⟨_, batch, bank, _, rfl, rfl, rfl, found, status, funds, rfl⟩

end Steps

section EndBlocker

variable {P : PorKeeper → Challenge → Prop}

structure Ends (env : Env) (k k' : PorKeeper) : Prop where
  moves : ∀ id, k'.getBatch id = k.getBatch id ∨ ∃ batch, k.getBatch id = some batch ∧ batch.status = .pending ∧
    (batch.challengeEndTime < env.now ∧ k'.hasOpenChallenges id = false ∧
      k'.getBatch id = some { batch with finalizedAt := env.now, status := .finalized } ∨
    k'.getBatch id = some { batch with status := .rejected })
  closes : ∀ id, k.hasOpenChallenges id = false → k'.hasOpenChallenges id = false

theorem Ends.refl (env : Env) (k : PorKeeper) : Ends env k k := ⟨fun _ => .inl rfl, fun _ settled => settled⟩

theorem Ends.trans (first : Ends env k k') (second : Ends env k' k'') : Ends env k k'' := by
  refine ⟨fun id => ?_, fun id settled => second.closes id (first.closes id settled)⟩
  obtain same | ⟨batch, found, pending, after⟩ := first.moves id
  · rw [← same]
    exact second.moves id
  · refine .inr ⟨batch, found, pending, ?_⟩
    -- The batch has reached its last status, so the second part leaves it.
    have last : k''.getBatch id = k'.getBatch id := by
      obtain same | ⟨other, found', pending', -⟩ := second.moves id
      · exact same
      · obtain ⟨-, -, after⟩ | after := after
        · cases Option.some.inj (after.symm.trans found')
          cases pending'
        · cases Option.some.inj (after.symm.trans found')
          cases pending'
    obtain ⟨closed, settled, after⟩ | after := after
    · exact .inl ⟨closed, second.closes id settled, last.trans after⟩
    · exact .inr (last.trans after)

theorem closes_setChallenge (decided : Challenge) (status : decided.status ≠ .opened) (id : Nat)
    (settled : k.hasOpenChallenges id = false) : (k.setChallenge decided).hasOpenChallenges id = false := by
  rw [hasOpenChallenges_eq_false] at settled ⊢
  intro challengeId other held ofBatch
  rw [getChallenge_setChallenge] at held
  split at held
  · rwa [← Option.some.inj held]
  · exact settled challengeId other held ofBatch

theorem settles_ends (settles : Settles lib env P k k') : Ends env k k' := by
  cases settles with
  | finalizes batch found pending closed settled =>
      obtain ⟨batches, challenges⟩ := finalizeBatchInEndBlocker_records lib k env batch
      have same : ∀ id, (k.finalizeBatchInEndBlocker lib env batch).hasOpenChallenges id =
          k.hasOpenChallenges id := by
        intro id
        rw [hasOpenChallenges, getChallengesForBatch, challenges]
        rfl
      refine ⟨fun id => ?_, fun id settled => (same id).trans settled⟩
      rw [batches]
      by_cases here : batch.batchId = id
      · subst here
        exact .inr ⟨batch, found, pending, .inl ⟨closed, (same _).trans settled, if_pos rfl⟩⟩
      · exact .inl (if_neg here)
  | rejects challenge batch stored found pending proven known k' ran =>
      obtain ⟨challenge', batch', reputations, bank, bonds, stored', -, found', rfl⟩ :=
        processValidChallenge_records ran
      obtain rfl := Option.some.inj (stored.symm.trans stored')
      obtain rfl := Option.some.inj (found.symm.trans found')
      have named := batchId_of_getBatch found
      have undecided : (challenge.proven env).status ≠ .opened := fun never => ChallengeStatus.noConfusion never
      have closes := closes_setChallenge (k := k.updateBatchStatus batch .rejected) (challenge.proven env)
        undecided
      refine ⟨fun id => ?_, closes⟩
      show (k.updateBatchStatus batch .rejected).getBatch id = _ ∨ _
      by_cases here : batch.batchId = id
      · refine .inr ⟨batch, by rwa [← here, named], pending, .inr ?_⟩
        exact (getBatch_updateBatchStatus k batch .rejected id).trans (if_pos here)
      · exact .inl ((getBatch_updateBatchStatus k batch .rejected id).trans (if_neg here))
  | disproves challengeId k' ran =>
      obtain ⟨challenge, found, -, after⟩ := processInvalidChallenge_cases ran
      have named := challengeId_of_getChallenge found
      subst named
      have undecided : (challenge.disproven env).status ≠ .opened := fun never => ChallengeStatus.noConfusion never
      have closes := closes_setChallenge (k := k) (challenge.disproven env) undecided
      obtain rfl | ⟨bank, -, rfl⟩ := after
      · exact ⟨fun _ => .inl rfl, closes⟩
      · exact ⟨fun _ => .inl rfl, closes⟩

theorem allSettle_ends (settles : AllSettle lib env P k k') : Ends env k k' := by
  induction settles with
  | refl => exact .refl env k
  | tail _ next ih => exact ih.trans (settles_ends next)

theorem finalize_sound (sound : Sound lib k) {batch : BatchCommitment}
    (found : k.getBatch batch.batchId = some batch) (pending : batch.status = .pending) :
    Sound lib (k.finalizeBatchInEndBlocker lib env batch) := by
  obtain ⟨authorised, ⟨unused, counting⟩, indexed, fresh, members, budgeted⟩ := sound
  obtain ⟨batches, -⟩ := finalizeBatchInEndBlocker_records lib k env batch
  have live : ∀ id other, k.getBatch id = some other → other.status = .finalized → batch.batchId ≠ id := by
    intro id other held status here
    rw [← here, found] at held
    rw [← Option.some.inj held, pending] at status
    cases status
  have kept : ∀ id other, k.getBatch id = some other → other.status = .finalized →
      (k.finalizeBatchInEndBlocker lib env batch).getBatch id = some other := by
    intro id other held status
    rw [batches, if_neg (live id other held status), held]
  have indexed' := indexed.update { batch with finalizedAt := env.now } .finalized ⟨batch, found, rfl⟩
  have keeps := kept_update (k := k) { batch with finalizedAt := env.now } .finalized ⟨batch, found, rfl⟩
  have free : ∀ id, k.nextBatchId ≤ id →
      (k.updateBatchStatus { batch with finalizedAt := env.now } .finalized).getBatch id = none := by
    intro id beyond
    rw [getBatch_updateBatchStatus, if_neg, fresh id beyond]
    intro here
    cases (fresh id beyond).symm.trans (here ▸ found)
  have unused' :
      (k.updateBatchStatus { batch with finalizedAt := env.now } .finalized).getBatch 0 = none := by
    rw [getBatch_updateBatchStatus, if_neg, unused]
    intro here
    cases unused.symm.trans (here ▸ found)
  obtain ⟨reputations, same | ⟨positive, same⟩⟩ := finalizeBatchInEndBlocker_cases lib k env batch
  · rw [same] at kept ⊢
    exact ⟨authorised, ⟨unused', counting⟩, indexed', free, members.of_batches rfl rfl keeps, budgeted.of_batches rfl rfl rfl kept⟩
  · rw [same] at kept ⊢
    refine ⟨authorised, ⟨unused', counting⟩, indexed', free, members.of_batches rfl rfl keeps, ?_⟩
    obtain ⟨once, finalized, tracked, capped⟩ := budgeted
    have used := getEpochCreditsUsed_increment k batch.epoch
    refine ⟨List.nodup_cons.2 ⟨?_, once⟩, ?_, ?_, ?_⟩
    · intro member
      obtain ⟨award, earlier, named⟩ := List.mem_map.1 member
      obtain ⟨other, held, status⟩ := finalized award earlier
      exact live _ other held status named.symm
    · intro award member
      obtain rfl | earlier := List.mem_cons.1 member
      · exact ⟨_, (getBatch_updateBatchStatus k _ .finalized batch.batchId).trans (if_pos rfl), rfl⟩
      · obtain ⟨other, held, status⟩ := finalized award earlier
        exact ⟨other, kept _ _ held status, status⟩
    · intro epoch
      refine Eq.trans ?_ (used epoch (k.cappedCredits batch)).symm
      rw [creditsOf, List.filter_cons]
      by_cases here : batch.epoch = epoch
      · subst here
        simp only [decide_true, if_true, List.map_cons, List.sum_cons]
        rw [← tracked, creditsOf]
        omega
      · simp only [here, decide_false, Bool.false_eq_true, if_false]
        exact tracked epoch
    · intro limited epoch
      refine (used epoch (k.cappedCredits batch)).trans_le ?_
      split
      · exact cappedCredits_le limited positive
      · exact capped limited epoch

theorem settles_sound (sound : Sound lib k) (settles : Settles lib env P k k') : Sound lib k' := by
  cases settles with
  | finalizes batch found pending closed settled => exact finalize_sound sound found pending
  | rejects challenge batch stored found pending proven known k' ran =>
      obtain ⟨authorised, ⟨unused, counting⟩, indexed, fresh, members, budgeted⟩ := sound
      obtain ⟨challenge', batch', reputations, bank, bonds, stored', -, found', rfl⟩ :=
        processValidChallenge_records ran
      obtain rfl := Option.some.inj (stored.symm.trans stored')
      obtain rfl := Option.some.inj (found.symm.trans found')
      have named := batchId_of_getBatch found
      rw [← named] at found
      refine ⟨authorised, ⟨?_, counting⟩, indexed.update _ _ ⟨batch, found, rfl⟩, ?_,
        members.of_batches rfl rfl (kept_update _ _ ⟨batch, found, rfl⟩), budgeted.of_batches rfl rfl rfl ?_⟩
      · refine (getBatch_updateBatchStatus k batch .rejected 0).trans ?_
        rw [if_neg, unused]
        intro here
        cases unused.symm.trans (here ▸ found)
      · intro id beyond
        refine (getBatch_updateBatchStatus k batch .rejected id).trans ?_
        rw [if_neg, fresh id beyond]
        intro here
        cases (fresh id beyond).symm.trans (here ▸ found)
      · intro id other held status
        refine (getBatch_updateBatchStatus k batch .rejected id).trans ?_
        rw [if_neg, held]
        intro here
        rw [← here, found] at held
        rw [← Option.some.inj held, pending] at status
        cases status
  | disproves challengeId k' ran =>
      obtain ⟨challenge, found, -, after⟩ := processInvalidChallenge_cases ran
      obtain ⟨authorised, ⟨unused, counting⟩, indexed, fresh, members, budgeted⟩ := sound
      obtain rfl | ⟨bank, -, rfl⟩ := after
      · exact ⟨authorised, ⟨unused, counting⟩, indexed, fresh, members,
          budgeted.of_batches rfl rfl rfl fun _ _ held _ => held⟩
      · exact ⟨authorised, ⟨unused, counting⟩, indexed, fresh, members,
          budgeted.of_batches rfl rfl rfl fun _ _ held _ => held⟩

theorem allSettle_sound (sound : Sound lib k) (settles : AllSettle lib env P k k') : Sound lib k' := by
  induction settles with
  | refl => exact sound
  | tail _ next ih => exact settles_sound ih next

theorem Indexed.listed (indexed : k.Indexed) (status : BatchStatus) :
    ((k.getBatchesByStatus status).map BatchCommitment.batchId).Nodup ∧
      ∀ batch ∈ k.getBatchesByStatus status, k.getBatch batch.batchId = some batch ∧ batch.status = status := by
  have entries : ∀ entry ∈ k.batchByStatus.toList.filter fun entry => entry.1 = status,
      ∃ batch, k.getBatch entry.2 = some batch ∧ batch.status = status := by
    intro entry member
    obtain ⟨listed, here⟩ := List.mem_filter.1 member
    obtain ⟨batch, found, same⟩ := (indexed entry.1 entry.2).1 (Std.ExtTreeSet.mem_toList.1 listed)
    exact ⟨batch, found, same.trans (of_decide_eq_true here)⟩
  have distinct : ((k.batchByStatus.toList.filter fun entry => entry.1 = status).map Prod.snd).Nodup := by
    refine List.Nodup.map_on ?_ ((Std.ExtTreeSet.distinct_toList.imp ?_).filter _)
    · intro first member second member' same
      have one := of_decide_eq_true (List.mem_filter.1 member).2
      have two := of_decide_eq_true (List.mem_filter.1 member').2
      exact Prod.ext (one.trans two.symm) same
    · intro a b differs same
      exact differs (Std.LawfulEqCmp.compare_eq_iff_eq.2 same)
  have mapped : (k.getBatchesByStatus status).map BatchCommitment.batchId =
      (k.batchByStatus.toList.filter fun entry => entry.1 = status).map Prod.snd := by
    rw [getBatchesByStatus]
    generalize k.batchByStatus.toList.filter (fun entry => entry.1 = status) = listed at entries
    induction listed with
    | nil => rfl
    | cons entry rest ih =>
        obtain ⟨batch, found, -⟩ := entries entry List.mem_cons_self
        have first : (entry :: rest).filterMap (fun entry => k.getBatch entry.2) =
            batch :: rest.filterMap fun entry => k.getBatch entry.2 := List.filterMap_cons_some found
        rw [first, List.map_cons, List.map_cons, batchId_of_getBatch found,
          ih fun other member => entries other (List.mem_cons_of_mem _ member)]
  refine ⟨mapped ▸ distinct, ?_⟩
  intro batch member
  obtain ⟨entry, listed, found⟩ := List.mem_filterMap.1 member
  obtain ⟨batch', found', status'⟩ := entries entry listed
  obtain rfl := Option.some.inj (found.symm.trans found')
  exact ⟨by rwa [batchId_of_getBatch found], status'⟩

theorem endBlocker_settles (sound : Sound lib k) (known : k.EndBlockerMeets lib env P) :
    AllSettle lib env P k (k.endBlocker lib env) := by
  obtain ⟨distinct, listed⟩ := sound.indexed.listed .pending
  have resolved : AllSettle lib env P k (k.resolvePending lib env) :=
    resolveBatches_settles distinct (fun batch member => (listed batch member).1)
      (fun batch member => (listed batch member).2) known
  obtain ⟨distinct, listed⟩ := (allSettle_sound sound resolved).indexed.listed .pending
  exact resolved.trans (finalizeBatches_settles distinct (fun batch member => (listed batch member).1)
    fun batch member => (listed batch member).2)

theorem endBlockerMeets_of_forall (lib : Library) (k : PorKeeper) (env : Env) :
    k.EndBlockerMeets lib env fun _ _ => True :=
  Run.along_of_forall (fun _ _ => .inr (Run.along_of_forall (fun _ _ _ _ _ => trivial) _ _)) _ _

end EndBlocker

section Runs

structure Ready (env : Env) (k : PorKeeper) (batch : BatchCommitment) : Prop where
  found : k.getBatch batch.batchId = some batch
  pending : batch.status = .pending
  closed : batch.challengeEndTime < env.now
  settled : k.hasOpenChallenges batch.batchId = false

theorem finalizeBatch_cases {msg : MsgFinalizeBatch} (ran : k.finalizeBatch lib env msg = some k') :
    ∃ batch, Ready env k batch ∧ batch.batchId = msg.batchId ∧
      k' = k.finalizeBatchInEndBlocker lib env batch := by
  unfold finalizeBatch at ran
  simp only [Option.bind_eq_bind, Option.bind_eq_some_iff, Option.guard_eq_some', Option.pure_def,
    Option.some.injEq] at ran
  obtain ⟨-, -, -, -, batch, found, -, pending, -, closed, -, settled, rfl⟩ := ran
  have named := batchId_of_getBatch found
  rw [← named] at found settled ⊢
  exact ⟨batch, ⟨found, pending, closed, Bool.not_eq_true' _ ▸ settled⟩, rfl, rfl⟩

theorem finalizeBatch_of_ready {batch : BatchCommitment} (ready : Ready env k batch)
    (authorised : (lib.canonical k.authority).isSome = true) (numbered : batch.batchId ≠ 0) :
    k.finalizeBatch lib env ⟨k.authority, batch.batchId⟩ = some (k.finalizeBatchInEndBlocker lib env batch) := by
  obtain ⟨found, pending, closed, settled⟩ := ready
  unfold finalizeBatch
  simp only [Option.bind_eq_bind, Option.bind_eq_some_iff, Option.guard_eq_some', Option.pure_def]
  refine ⟨(), ?_, (), trivial, batch, found, (), pending, (), closed, (), by rw [settled]; rfl, rfl⟩
  simp [MsgFinalizeBatch.validateBasic, authorised, numbered]

theorem submitted_sound (sound : Sound lib k) {batch : BatchCommitment} (named : batch.batchId = k.nextBatchId)
    (count : Nat) (leaves : BTreeMap Nat (List Bytes)) :
    Sound lib { k.setBatch batch with
      blockSubmissionCount := count, nextBatchId := k.nextBatchId + 1, batchLeafHashes := leaves } := by
  obtain ⟨authorised, ⟨unused, counting⟩, indexed, fresh, members, budgeted⟩ := sound
  have absent : k.getBatch batch.batchId = none := fresh _ (by omega)
  have others : ∀ id, batch.batchId ≠ id → (k.setBatch batch).getBatch id = k.getBatch id := by
    intro id away
    rw [getBatch_setBatch, if_neg away]
  have held : ∀ id other, k.getBatch id = some other → batch.batchId ≠ id := by
    intro id other found here
    cases absent.symm.trans (here ▸ found)
  refine ⟨authorised, ⟨(others 0 (by omega)).trans unused, Nat.succ_pos _⟩, indexed.set absent, ?_,
    members.of_batches rfl rfl ?_, budgeted.of_batches rfl rfl rfl ?_⟩
  · intro id beyond
    have beyond : k.nextBatchId + 1 ≤ id := beyond
    exact (others id (by omega)).trans (fresh id (by omega))
  · intro id other found
    exact ⟨other, (others id (held id other found)).trans found, rfl⟩
  · intro id other found _
    exact (others id (held id other found)).trans found

theorem attested_sound (sound : Sound lib k) {batch : BatchCommitment}
    (found : k.getBatch batch.batchId = some batch) {vs : VerifierSet}
    (listed : k.verifierSets.get? batch.verifierSetId = some vs) (att : Attestation)
    (ofBatch : att.batchId = batch.batchId) (member : (memberWeight lib vs att.verifierAddress).isSome = true) :
    Sound lib (k.setAttestation att) := by
  obtain ⟨authorised, numbered, indexed, fresh, members, budgeted⟩ := sound
  refine ⟨authorised, numbered, indexed, fresh, ?_, budgeted.of_batches rfl rfl rfl fun _ _ held _ => held⟩
  intro key other held
  rw [setAttestation, KeyedMap.get?_insert] at held
  split at held
  · obtain rfl := Option.some.inj held
    exact ⟨batch, vs, by rw [ofBatch]; exact found, listed, member⟩
  · exact members key other held

theorem quorate_sound (sound : Sound lib k) {batch : BatchCommitment}
    (found : k.getBatch batch.batchId = some batch) (status : batch.status = .submitted) :
    Sound lib (k.updateBatchStatus batch .pending) := by
  obtain ⟨authorised, ⟨unused, counting⟩, indexed, fresh, members, budgeted⟩ := sound
  refine ⟨authorised, ⟨?_, counting⟩, indexed.update _ _ ⟨batch, found, rfl⟩, ?_,
    members.of_batches rfl rfl (kept_update _ _ ⟨batch, found, rfl⟩), budgeted.of_batches rfl rfl rfl ?_⟩
  · rw [getBatch_updateBatchStatus, if_neg, unused]
    intro here
    cases unused.symm.trans (here ▸ found)
  · intro id beyond
    rw [getBatch_updateBatchStatus, if_neg, fresh id beyond]
    intro here
    cases (fresh id beyond).symm.trans (here ▸ found)
  · intro id other held finalized
    rw [getBatch_updateBatchStatus, if_neg, held]
    intro here
    rw [← here, found] at held
    rw [← Option.some.inj held, status] at finalized
    cases finalized

theorem Sound.reputed (sound : Sound lib k) (reputations : KeyedMap VerifierReputation.address) :
    Sound lib { k with reputations := reputations } := by
  obtain ⟨authorised, numbered, indexed, fresh, members, budgeted⟩ := sound
  exact ⟨authorised, numbered, indexed, fresh, members, budgeted.of_batches rfl rfl rfl fun _ _ held _ => held⟩

theorem step_sound (sound : Sound lib k) (action : Action) : Sound lib (k.step lib action) := by
  cases action with
  | submitBatch env msg =>
      show Sound lib ((k.submitBatch lib env msg).getD k)
      cases ran : k.submitBatch lib env msg with
      | none => exact sound
      | some k' =>
          obtain ⟨batch, leaves, -, named, rfl⟩ := submitBatch_cases ran
          exact submitted_sound sound named _ leaves
  | submitAttestation env msg =>
      show Sound lib ((k.submitAttestation lib env msg).getD k)
      cases ran : k.submitAttestation lib env msg with
      | none => exact sound
      | some k' =>
          obtain ⟨batch, vs, verifier, signature, weight, reputations, found, status, listed, member, base, rfl,
            after⟩ := submitAttestation_cases ran
          have attested := attested_sound sound found listed
            ⟨batch.batchId, verifier, signature, weight, env.now⟩ rfl member
          obtain rfl | ⟨-, rfl⟩ := after
          · exact attested.reputed reputations
          · exact (quorate_sound attested found status).reputed reputations
  | challengeBatch env msg =>
      show Sound lib ((k.challengeBatch lib env msg).getD k)
      cases ran : k.challengeBatch lib env msg with
      | none => exact sound
      | some k' =>
          obtain ⟨challenge, batch, bank, counts, -, -, -, -, -, -, rfl⟩ := challengeBatch_cases ran
          obtain ⟨authorised, numbered, indexed, fresh, members, budgeted⟩ := sound
          exact ⟨authorised, numbered, indexed, fresh, members,
            budgeted.of_batches rfl rfl rfl fun _ _ held _ => held⟩
  | finalizeBatch env msg =>
      show Sound lib ((k.finalizeBatch lib env msg).getD k)
      cases ran : k.finalizeBatch lib env msg with
      | none => exact sound
      | some k' =>
          obtain ⟨batch, ready, -, rfl⟩ := finalizeBatch_cases ran
          exact finalize_sound sound ready.found ready.pending
  | endBlocker env =>
      obtain ⟨authorised, numbered, indexed, fresh, members, budgeted⟩ :=
        allSettle_sound sound (endBlocker_settles sound (endBlockerMeets_of_forall lib k env))
      exact ⟨authorised, numbered, indexed, fresh, members,
        budgeted.of_batches rfl rfl rfl fun _ _ held _ => held⟩

theorem quorum_of_metQuorum (members : k.FromMembers lib) {batch : BatchCommitment} {vs : VerifierSet}
    (found : k.getBatch batch.batchId = some batch)
    (listed : k.verifierSets.get? batch.verifierSetId = some vs)
    (met : metQuorum lib vs (k.getAttestationsForBatch batch.batchId) = true) : Quorum lib k batch := by
  simp only [metQuorum, Bool.and_eq_true, decide_eq_true_eq] at met
  obtain ⟨⟨enough, -⟩, share⟩ := met
  refine ⟨vs, listed, nodup_attesters k batch.batchId, ?_, enough, share⟩
  intro att member
  obtain ⟨stored, ofBatch⟩ := mem_getAttestationsForBatch.1 member
  obtain ⟨batch', vs', found', listed', weighed⟩ := members _ att stored
  rw [ofBatch, found] at found'
  obtain rfl := Option.some.inj found'
  obtain rfl := Option.some.inj (listed.symm.trans listed')
  rw [memberWeight, Option.isSome_map, List.find?_isSome] at weighed
  obtain ⟨m, listed, same⟩ := weighed
  rw [Option.any_eq_true] at same
  obtain ⟨address, read, same⟩ := same
  exact ⟨m, listed, by rw [read, of_decide_eq_true same]⟩

theorem moves_of_ends (ends : Ends env k k') (id : Nat) : Moves lib env id k k' := by
  obtain same | ⟨batch, found, pending, ⟨closed, settled, after⟩ | after⟩ := ends.moves id
  · exact .stays same
  · exact .finalized batch found pending closed settled after
  · exact .rejected batch found pending after

theorem step_moves (sound : Sound lib k) (action : Action) (id : Nat) :
    Moves lib action.env id k (k.step lib action) := by
  cases action with
  | submitBatch env msg =>
      show Moves lib env id k ((k.submitBatch lib env msg).getD k)
      cases ran : k.submitBatch lib env msg with
      | none => exact .stays rfl
      | some k' =>
          obtain ⟨batch, leaves, status, named, rfl⟩ := submitBatch_cases ran
          have after := getBatch_setBatch k batch id
          by_cases here : batch.batchId = id
          · rw [if_pos here] at after
            exact .submitted (sound.fresh id (by omega)) batch status after
          · rw [if_neg here] at after
            exact .stays after
  | submitAttestation env msg =>
      show Moves lib env id k ((k.submitAttestation lib env msg).getD k)
      cases ran : k.submitAttestation lib env msg with
      | none => exact .stays rfl
      | some k' =>
          obtain ⟨batch, vs, verifier, signature, weight, reputations, found, status, listed, member, base, rfl,
            after⟩ := submitAttestation_cases ran
          have attested := attested_sound sound found listed
            ⟨batch.batchId, verifier, signature, weight, env.now⟩ rfl member
          obtain rfl | ⟨met, rfl⟩ := after
          · exact .stays rfl
          · have after := getBatch_updateBatchStatus
              (k.setAttestation ⟨batch.batchId, verifier, signature, weight, env.now⟩) batch .pending id
            by_cases here : batch.batchId = id
            · rw [if_pos here] at after
              exact .reachesQuorum batch (here ▸ found) status
                (quorum_of_metQuorum attested.members found listed met) after
            · rw [if_neg here] at after
              exact .stays after
  | challengeBatch env msg =>
      show Moves lib env id k ((k.challengeBatch lib env msg).getD k)
      cases ran : k.challengeBatch lib env msg with
      | none => exact .stays rfl
      | some k' =>
          obtain ⟨challenge, batch, bank, counts, -, -, -, -, -, -, rfl⟩ := challengeBatch_cases ran
          exact .stays rfl
  | finalizeBatch env msg =>
      show Moves lib env id k ((k.finalizeBatch lib env msg).getD k)
      cases ran : k.finalizeBatch lib env msg with
      | none => exact .stays rfl
      | some k' =>
          obtain ⟨batch, ready, -, rfl⟩ := finalizeBatch_cases ran
          exact moves_of_ends (settles_ends (P := fun _ _ => True)
            (.finalizes batch ready.found ready.pending ready.closed ready.settled)) id
  | endBlocker env =>
      have ends := allSettle_ends (endBlocker_settles sound (endBlockerMeets_of_forall lib k env))
      have ends' : Ends env k (k.step lib (.endBlocker env)) := ⟨ends.moves, ends.closes⟩
      exact moves_of_ends ends' id

theorem run_sound (sound : Sound lib k) (run : List Action) : Sound lib (run.foldl (step lib) k) := by
  induction run generalizing k with
  | nil => exact sound
  | cons action rest ih => exact ih (step_sound sound action)

def Terminal (batch : BatchCommitment) : Prop := batch.status = .finalized ∨ batch.status = .rejected

theorem terminal_stays (sound : Sound lib k) {id : Nat} {batch : BatchCommitment}
    (found : k.getBatch id = some batch) (terminal : Terminal batch) (run : List Action) :
    (run.foldl (step lib) k).getBatch id = some batch := by
  induction run generalizing k with
  | nil => exact found
  | cons action rest ih =>
      refine ih (step_sound sound action) ?_
      have other : ∀ batch', k.getBatch id = some batch' → Terminal batch' := by
        intro batch' found'
        rwa [← Option.some.inj (found.symm.trans found')]
      cases step_moves sound action id with
      | stays same => rw [same, found]
      | submitted absent => cases absent.symm.trans found
      | reachesQuorum batch' found' status =>
          obtain ended | ended := other batch' found' <;> cases status.symm.trans ended
      | finalized batch' found' status =>
          obtain ended | ended := other batch' found' <;> cases status.symm.trans ended
      | rejected batch' found' status =>
          obtain ended | ended := other batch' found' <;> cases status.symm.trans ended

/-- In every run a batch only moves on, the index lists it under its status, credits stay in the budget of
their epoch, and the authority finalizes as the end blocker does. -/
theorem batch_lifecycle (lib : Library) (authority : String) (params : Params) (apps : KeyedMap App.appId)
    (verifierSets : KeyedMap VerifierSet.verifierSetId) (poseqCommitments : List Bytes) (bank : Bank)
    (valid : params.Valid) (authorised : (lib.canonical authority).isSome = true) (run : List Action) :
    let k := run.foldl (step lib) (new authority params apps verifierSets poseqCommitments bank)
    (∀ action id, Moves lib action.env id k (k.step lib action)) ∧
      (∀ (later : List Action) id batch, k.getBatch id = some batch → Terminal batch →
        (later.foldl (step lib) k).getBatch id = some batch) ∧
      k.Indexed ∧
      (k.awards.map Award.batchId).Nodup ∧
      (0 < k.params.maxCreditsPerEpoch → ∀ epoch, creditsOf epoch k.awards ≤ k.params.maxCreditsPerEpoch) ∧
      (∀ env batch, Ready env k batch → k.finalizeBatch lib env ⟨k.authority, batch.batchId⟩ =
        some (k.finalizeBatchInEndBlocker lib env batch)) ∧
      ∀ env msg k', k.finalizeBatch lib env msg = some k' → ∃ batch, Ready env k batch ∧
        batch.batchId = msg.batchId ∧ k' = k.finalizeBatchInEndBlocker lib env batch := by
  intro k
  have sound : Sound lib k := run_sound (new_sound lib authority params apps verifierSets poseqCommitments
    bank valid authorised) run
  refine ⟨step_moves sound, fun later id batch found terminal => terminal_stays sound found terminal later,
    sound.indexed, sound.budgeted.once, ?_, ?_, fun env msg k' ran => finalizeBatch_cases ran⟩
  · intro limited epoch
    rw [sound.budgeted.tracked]
    exact sound.budgeted.capped limited epoch
  · intro env batch ready
    refine finalizeBatch_of_ready ready sound.authorised ?_
    intro zero
    cases sound.numbered.1.symm.trans (zero ▸ ready.found)

end Runs

section Quorate

def zeros32 : Bytes := List.replicate 32 0

def ones32 : Bytes := List.replicate 32 1

def zeroLeafProof : Bytes :=
  strBytes "\x7b\"leaf_hashes\":[\"AAAAAAAAAAAAAAAAAAAAAAAAAAAAAAAAAAAAAAAAAAA=\"]\x7d"

def library : Library where
  sha256 := fun message => BitVec.ofNat 256 (message.foldl (fun hash byte => hash * 257 + byte.toNat) 1)
  canonical := some
  invalidRootProof := fun data => if data = zeroLeafProof then some [zeros32] else none
  doubleInclusionProof := fun _ => none

def block (height now : Int) : Env := ⟨height, now, some fun _ _ => true, none, fun _ => false⟩

def onlyApp : KeyedMap App.appId := KeyedMap.empty.insert ⟨1, 3600, .active⟩

def onlySet : KeyedMap VerifierSet.verifierSetId :=
  KeyedMap.empty.insert ⟨1, [⟨"verifier", 10⟩], 1, 67 * 10 ^ 16, 1⟩

def oneRecord : MsgSubmitBatch := ⟨"submitter", 1, 0, ones32, 1, 1, [], [ones32], []⟩

def quorateRun : List Action :=
  [.submitBatch (block 1 10) oneRecord,
    .submitAttestation (block 2 20)
      ⟨"verifier", 1, computeAttestationSignBytes library 1 ones32 0 "verifier", 10 ^ 18⟩]

def funded : Bank := Ledger.empty.mint (.user "challenger") 100000000

def start : PorKeeper := new "gov" defaultParams onlyApp onlySet [] funded

theorem batch_lifecycle_quorateRun :
    let k := quorateRun.foldl (step library) start
    (k.getBatch 1).map BatchCommitment.status = some .pending ∧
      Moves library (block 9 4000) 1 k (k.step library (.endBlocker (block 9 4000))) :=
  ⟨by decide +kernel,
    (batch_lifecycle library "gov" defaultParams onlyApp onlySet [] funded defaultParams_valid rfl
      quorateRun).1 (.endBlocker (block 9 4000)) 1⟩

end Quorate

end Omniphi.Por.PorKeeper
