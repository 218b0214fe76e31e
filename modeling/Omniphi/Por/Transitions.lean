import Omniphi.Por.Keeper
import Omniphi.Lib.Run

/-! What each message and each part of the end blocker does to the stores. -/

namespace Omniphi.Por

def Challenge.proven (challenge : Challenge) (env : Env) : Challenge :=
  { challenge with status := .resolvedValid, resolvedAt := env.now, resolvedBy := "fraud_proof" }

def Challenge.disproven (challenge : Challenge) (env : Env) : Challenge :=
  { challenge with status := .resolvedInvalid, resolvedAt := env.now, resolvedBy := "challenge_rejected" }

namespace PorKeeper

variable {lib : Library} {k k' k'' : PorKeeper} {env : Env}

section Lookup

theorem batchId_of_getBatch {id : Nat} {batch : BatchCommitment} (found : k.getBatch id = some batch) :
    batch.batchId = id := k.batches.key_of_get? found

theorem challengeId_of_getChallenge {id : Nat} {challenge : Challenge}
    (found : k.getChallenge id = some challenge) : challenge.challengeId = id :=
  k.challenges.key_of_get? found

theorem getBatch_updateBatchStatus (k : PorKeeper) (batch : BatchCommitment) (status : BatchStatus) (id : Nat) :
    (k.updateBatchStatus batch status).getBatch id =
      if batch.batchId = id then some { batch with status := status } else k.getBatch id :=
  k.batches.get?_insert { batch with status := status } id

theorem getBatch_setBatch (k : PorKeeper) (batch : BatchCommitment) (id : Nat) :
    (k.setBatch batch).getBatch id = if batch.batchId = id then some batch else k.getBatch id :=
  k.batches.get?_insert batch id

theorem getChallenge_setChallenge (k : PorKeeper) (challenge : Challenge) (id : Nat) :
    (k.setChallenge challenge).getChallenge id =
      if challenge.challengeId = id then some challenge else k.getChallenge id :=
  k.challenges.get?_insert challenge id

theorem mem_getChallengesForBatch {batchId : Nat} {challenge : Challenge} :
    challenge ∈ k.getChallengesForBatch batchId ↔
      k.getChallenge challenge.challengeId = some challenge ∧ challenge.batchId = batchId := by
  rw [getChallengesForBatch, List.mem_filter, KeyedMap.mem_values, decide_eq_true_eq]
  rfl

theorem hasOpenChallenges_eq_true {batchId : Nat} :
    k.hasOpenChallenges batchId = true ↔ ∃ challengeId challenge,
      k.getChallenge challengeId = some challenge ∧ challenge.batchId = batchId ∧
        challenge.status = .opened := by
  simp only [hasOpenChallenges, List.any_eq_true, mem_getChallengesForBatch, decide_eq_true_eq]
  constructor
  · rintro ⟨challenge, ⟨found, ofBatch⟩, opened⟩
    exact ⟨_, challenge, found, ofBatch, opened⟩
  · rintro ⟨challengeId, challenge, found, ofBatch, opened⟩
    refine ⟨challenge, ⟨?_, ofBatch⟩, opened⟩
    rwa [challengeId_of_getChallenge found]

theorem hasOpenChallenges_eq_false {batchId : Nat} :
    k.hasOpenChallenges batchId = false ↔ ∀ challengeId challenge,
      k.getChallenge challengeId = some challenge → challenge.batchId = batchId →
        challenge.status ≠ .opened := by
  rw [← Bool.not_eq_true, hasOpenChallenges_eq_true]
  push Not
  rfl

theorem mem_getAttestationsForBatch {batchId : Nat} {att : Attestation} :
    att ∈ k.getAttestationsForBatch batchId ↔
      k.attestations.get? att.key = some att ∧ att.batchId = batchId := by
  rw [getAttestationsForBatch, List.mem_filter, KeyedMap.mem_values, decide_eq_true_eq]

theorem nodup_attesters (k : PorKeeper) (batchId : Nat) :
    ((k.getAttestationsForBatch batchId).map Attestation.verifierAddress).Nodup := by
  have distinct : ((k.getAttestationsForBatch batchId).map Attestation.key).Nodup :=
    (k.attestations.nodup_map_key_values).sublist (List.filter_sublist.map _)
  have keys : (k.getAttestationsForBatch batchId).map Attestation.key =
      ((k.getAttestationsForBatch batchId).map Attestation.verifierAddress).map fun v => (batchId, v) := by
    rw [List.map_map]
    apply List.map_congr_left
    intro att member
    rw [← (mem_getAttestationsForBatch.1 member).2]
    rfl
  rw [keys] at distinct
  exact distinct.of_map _

theorem mem_batchByStatus_setBatch (k : PorKeeper) (batch : BatchCommitment) (entry : BatchStatus × Nat) :
    entry ∈ (k.setBatch batch).batchByStatus ↔
      (batch.status, batch.batchId) = entry ∨ entry ∈ k.batchByStatus := by
  show entry ∈ k.batchByStatus.insert _ ↔ _
  rw [Std.ExtTreeSet.mem_insert, Std.LawfulEqCmp.compare_eq_iff_eq]

theorem mem_batchByStatus_updateBatchStatus (k : PorKeeper) (batch : BatchCommitment) (status : BatchStatus)
    (entry : BatchStatus × Nat) :
    entry ∈ (k.updateBatchStatus batch status).batchByStatus ↔
      (status, batch.batchId) = entry ∨ ((batch.status, batch.batchId) ≠ entry ∧ entry ∈ k.batchByStatus) := by
  show entry ∈ (k.batchByStatus.erase _).insert _ ↔ _
  rw [Std.ExtTreeSet.mem_insert, Std.ExtTreeSet.mem_erase, Std.LawfulEqCmp.compare_eq_iff_eq,
    ne_eq, Std.LawfulEqCmp.compare_eq_iff_eq]

end Lookup

section Parts

theorem foldl_creditVerifier (attestations : List Attestation) (k : PorKeeper) :
    ∃ reputations, attestations.foldl creditVerifier k = { k with reputations := reputations } := by
  induction attestations generalizing k with
  | nil => exact ⟨k.reputations, rfl⟩
  | cons att rest ih =>
      obtain ⟨reputations, same⟩ := ih (creditVerifier k att)
      exact ⟨reputations, same⟩

theorem foldl_slashAttester (lib : Library) (env : Env) (attestations : List Attestation)
    (slashed : PorKeeper × Int) :
    ∃ reputations, (attestations.foldl (slashAttester lib env) slashed).1 =
      { slashed.1 with reputations := reputations } := by
  induction attestations generalizing slashed with
  | nil => exact ⟨slashed.1.reputations, rfl⟩
  | cons att rest ih =>
      obtain ⟨reputations, same⟩ := ih (slashAttester lib env slashed att)
      refine ⟨reputations, same.trans ?_⟩
      unfold slashAttester
      split <;> rfl

theorem refundBond_cases (lib : Library) (k : PorKeeper) (env : Env) (challenge : Challenge) :
    k.refundBond lib env challenge = k ∨
      ∃ recipient bank, k.bank.send porAccount (.user recipient) challenge.bondAmount.toNat = some bank ∧
        k.refundBond lib env challenge =
          { k with bank := bank, bonds := .refunded challenge.challengeId :: k.bonds } := by
  unfold refundBond
  split
  · split
    · exact .inl rfl
    · rename_i recipient _
      split
      · exact .inl rfl
      · rename_i bank paid
        refine .inr ⟨recipient, bank, ?_, rfl⟩
        unfold payFromModule at paid
        split at paid
        · cases paid
        · exact paid
  · exact .inl rfl

theorem rewardChallenger_cases (lib : Library) (k : PorKeeper) (env : Env) (challenge : Challenge)
    (totalSlashed : Int) :
    k.rewardChallenger lib env challenge totalSlashed = k ∨
      0 < k.challengerReward totalSlashed ∧
      ∃ recipient bank,
        k.bank.send porAccount (.user recipient) (k.challengerReward totalSlashed).toNat = some bank ∧
        k.rewardChallenger lib env challenge totalSlashed = { k with bank := bank } := by
  unfold rewardChallenger
  split
  · rename_i positive
    split
    · exact .inl rfl
    · rename_i recipient _
      split
      · exact .inl rfl
      · rename_i bank paid
        refine .inr ⟨positive, recipient, bank, ?_, rfl⟩
        unfold payFromModule at paid
        split at paid
        · cases paid
        · exact paid
  · exact .inl rfl

end Parts

def slashTotal (lib : Library) (k : PorKeeper) (env : Env) (batchId : Nat) : Int :=
  ((k.getAttestationsForBatch batchId).map fun att =>
    (slashVerifier lib env att.verifierAddress k.params.slashFractionDishonest).getD 0).sum

theorem foldl_slashAttester_total (lib : Library) (env : Env) (attestations : List Attestation)
    (slashed : PorKeeper × Int) :
    (attestations.foldl (slashAttester lib env) slashed).2 = slashed.2 +
      (attestations.map fun att =>
        (slashVerifier lib env att.verifierAddress slashed.1.params.slashFractionDishonest).getD 0).sum := by
  induction attestations generalizing slashed with
  | nil => simp
  | cons att rest ih =>
      have params : (slashAttester lib env slashed att).1.params = slashed.1.params := by
        unfold slashAttester
        split <;> rfl
      rw [List.foldl_cons, ih, params, List.map_cons, List.sum_cons]
      unfold slashAttester
      split
      · rename_i refused
        simp [refused]
      · rename_i amount done
        simp only [done, Option.getD_some]
        omega

theorem processValidChallenge_cases {challengeId : Nat}
    (ran : k.processValidChallenge lib env challengeId = some k') :
    ∃ challenge batch, k.getChallenge challengeId = some challenge ∧ challenge.status = .opened ∧
      k.getBatch challenge.batchId = some batch ∧
      ∃ reputations, ∃ base, base = { (k.updateBatchStatus batch .rejected).setChallenge
          (challenge.proven env) with reputations := reputations } ∧
        k' = (base.refundBond lib env challenge).rewardChallenger lib env challenge
          (k.slashTotal lib env challenge.batchId) := by
  unfold processValidChallenge at ran
  cases found : k.getChallenge challengeId with
  | none => simp [found] at ran
  | some challenge =>
      simp only [found, Option.bind_eq_bind, Option.bind_some, Option.bind_eq_some_iff, Option.guard_eq_some',
        Option.pure_def, Option.some.injEq] at ran
      obtain ⟨-, opened, batch, stored, rfl⟩ := ran
      refine ⟨challenge, batch, rfl, opened, stored, ?_⟩
      have total := foldl_slashAttester_total lib env
        (((k.updateBatchStatus batch .rejected).setChallenge (challenge.proven env)).getAttestationsForBatch
          challenge.batchId) ((k.updateBatchStatus batch .rejected).setChallenge (challenge.proven env), 0)
      obtain ⟨reputations, same⟩ := foldl_slashAttester lib env
        (((k.updateBatchStatus batch .rejected).setChallenge (challenge.proven env)).getAttestationsForBatch
          challenge.batchId) ((k.updateBatchStatus batch .rejected).setChallenge (challenge.proven env), 0)
      refine ⟨reputations, _, rfl, ?_⟩
      rw [← same]
      rw [zero_add] at total
      exact congrArg _ total

theorem processInvalidChallenge_cases {challengeId : Nat}
    (ran : k.processInvalidChallenge env challengeId = some k') :
    ∃ challenge, k.getChallenge challengeId = some challenge ∧ challenge.status = .opened ∧
      (k' = k.setChallenge (challenge.disproven env) ∨
        ∃ bank, k.bank.burn porAccount challenge.bondAmount.toNat = some bank ∧
          k' = { k.setChallenge (challenge.disproven env) with
            bank := bank, bonds := .burned challengeId :: k.bonds }) := by
  unfold processInvalidChallenge at ran
  cases found : k.getChallenge challengeId with
  | none => simp [found] at ran
  | some challenge =>
      simp only [found, Option.bind_eq_bind, Option.bind_some, Option.bind_eq_some_iff, Option.guard_eq_some',
        Option.pure_def, Option.some.injEq] at ran
      obtain ⟨-, opened, rfl⟩ := ran
      refine ⟨challenge, rfl, opened, ?_⟩
      split
      · split
        · exact .inl rfl
        · rename_i bank burned
          exact .inr ⟨bank, burned, rfl⟩
      · exact .inl rfl

section EndBlocker

inductive Settles (lib : Library) (env : Env) (P : PorKeeper → Challenge → Prop) (k : PorKeeper) :
    PorKeeper → Prop
  | finalizes (batch : BatchCommitment) (found : k.getBatch batch.batchId = some batch)
      (pending : batch.status = .pending) (closed : batch.challengeEndTime < env.now)
      (settled : k.hasOpenChallenges batch.batchId = false) :
      Settles lib env P k (k.finalizeBatchInEndBlocker lib env batch)
  | rejects (challenge : Challenge) (batch : BatchCommitment)
      (stored : k.getChallenge challenge.challengeId = some challenge)
      (found : k.getBatch challenge.batchId = some batch) (pending : batch.status = .pending)
      (proven : k.verifyChallenge lib challenge batch = .proven) (known : P k challenge) (k' : PorKeeper)
      (ran : k.processValidChallenge lib env challenge.challengeId = some k') : Settles lib env P k k'
  | disproves (challengeId : Nat) (k' : PorKeeper)
      (ran : k.processInvalidChallenge env challengeId = some k') : Settles lib env P k k'

abbrev AllSettle (lib : Library) (env : Env) (P : PorKeeper → Challenge → Prop) :=
  Relation.ReflTransGen (Settles lib env P)

variable {P : PorKeeper → Challenge → Prop}

def ProvenMeet (lib : Library) (env : Env) (P : PorKeeper → Challenge → Prop) (k : PorKeeper)
    (batch : BatchCommitment) : Prop :=
  env.now ≤ batch.challengeEndTime ∨ Run.Along (resolveOne lib env batch)
    (fun reached challenge => reached.2 = false → challenge.status = .opened →
      reached.1.verifyChallenge lib challenge batch = .proven → P reached.1 challenge)
    (k, false) (k.getChallengesForBatch batch.batchId)

def EndBlockerMeets (lib : Library) (env : Env) (P : PorKeeper → Challenge → Prop) (k : PorKeeper) : Prop :=
  Run.Along (resolveBatch lib env) (ProvenMeet lib env P) k (k.getBatchesByStatus .pending)

structure Decided (batch : BatchCommitment) (challengeId : Nat) (k : PorKeeper) (after : PorKeeper × Bool) :
    Prop where
  others : ∀ id, challengeId ≠ id → after.1.getChallenge id = k.getChallenge id
  batches : after.2 = false → ∀ id, after.1.getBatch id = k.getBatch id
  elsewhere : ∀ id, batch.batchId ≠ id → after.1.getBatch id = k.getBatch id

theorem Decided.refl (batch : BatchCommitment) (challengeId : Nat) (k : PorKeeper) :
    Decided batch challengeId k (k, false) := ⟨fun _ _ => rfl, fun _ _ => rfl, fun _ _ => rfl⟩

theorem processInvalidChallenge_decided {challengeId : Nat} (batch : BatchCommitment)
    (ran : k.processInvalidChallenge env challengeId = some k') :
    Decided batch challengeId k (k', false) := by
  obtain ⟨challenge, found, -, after⟩ := processInvalidChallenge_cases ran
  have named := challengeId_of_getChallenge found
  have others : ∀ id, challengeId ≠ id →
      (k.setChallenge (challenge.disproven env)).getChallenge id = k.getChallenge id := by
    intro id away
    rw [getChallenge_setChallenge, if_neg]
    rwa [← named] at away
  obtain rfl | ⟨bank, -, rfl⟩ := after
  · exact ⟨others, fun _ _ => rfl, fun _ _ => rfl⟩
  · exact ⟨others, fun _ _ => rfl, fun _ _ => rfl⟩

theorem processValidChallenge_records {challengeId : Nat}
    (ran : k.processValidChallenge lib env challengeId = some k') :
    ∃ challenge batch reputations bank bonds, k.getChallenge challengeId = some challenge ∧
      challenge.status = .opened ∧ k.getBatch challenge.batchId = some batch ∧
      k' = { (k.updateBatchStatus batch .rejected).setChallenge (challenge.proven env) with
        reputations := reputations, bank := bank, bonds := bonds } := by
  obtain ⟨challenge, batch, found, opened, stored, reputations, base, rfl, rfl⟩ :=
    processValidChallenge_cases ran
  refine ⟨challenge, batch, reputations, ?_⟩
  generalize rest : { (k.updateBatchStatus batch .rejected).setChallenge (challenge.proven env) with
    reputations := reputations } = base
  obtain refunded | ⟨recipient, bank, -, refunded⟩ := refundBond_cases lib base env challenge
  · rw [refunded]
    obtain rewarded | ⟨-, recipient, bank, -, rewarded⟩ := rewardChallenger_cases lib base env challenge _
    · exact ⟨base.bank, base.bonds, found, opened, stored, by rw [rewarded, ← rest]⟩
    · exact ⟨bank, base.bonds, found, opened, stored, by rw [rewarded, ← rest]⟩
  · rw [refunded]
    obtain rewarded | ⟨-, recipient, last, -, rewarded⟩ := rewardChallenger_cases lib
      { base with bank := bank, bonds := .refunded challenge.challengeId :: base.bonds } env challenge
      (k.slashTotal lib env challenge.batchId)
    · exact ⟨bank, _, found, opened, stored, by rw [rewarded, ← rest]⟩
    · exact ⟨last, _, found, opened, stored, by rw [rewarded, ← rest]⟩

variable (lib env P) in
theorem resolveOne_settles {batch : BatchCommitment} {challenge : Challenge}
    (stored : k.getChallenge challenge.challengeId = some challenge)
    (ofBatch : challenge.batchId = batch.batchId) (found : k.getBatch batch.batchId = some batch)
    (pending : batch.status = .pending)
    (known : challenge.status = .opened → k.verifyChallenge lib challenge batch = .proven → P k challenge) :
    AllSettle lib env P k (resolveOne lib env batch (k, false) challenge).1 ∧
      Decided batch challenge.challengeId k (resolveOne lib env batch (k, false) challenge) := by
  have disproved : ∀ {k'}, k.processInvalidChallenge env challenge.challengeId = some k' →
      AllSettle lib env P k k' ∧ Decided batch challenge.challengeId k (k', false) :=
    fun ran => ⟨.single (.disproves _ _ ran), processInvalidChallenge_decided batch ran⟩
  have timed : AllSettle lib env P k (k.rejectIfTimedOut env batch challenge.challengeId) ∧
      Decided batch challenge.challengeId k (k.rejectIfTimedOut env batch challenge.challengeId, false) := by
    unfold rejectIfTimedOut
    split
    · cases ran : k.processInvalidChallenge env challenge.challengeId with
      | none => exact ⟨.refl, .refl _ _ _⟩
      | some k' => exact disproved ran
    · exact ⟨.refl, .refl _ _ _⟩
  unfold resolveOne
  rw [if_neg Bool.false_ne_true]
  split
  · exact ⟨.refl, .refl _ _ _⟩
  rename_i opened
  rw [not_not] at opened
  split
  · exact timed
  · exact timed
  · rename_i proven
    split
    · rename_i k' ran
      have found' : k.getBatch challenge.batchId = some batch := by rwa [ofBatch]
      refine ⟨.single (.rejects challenge batch stored found' pending proven (known opened proven) k' ran), ?_⟩
      obtain ⟨challenge', batch', reputations, bank, bonds, stored', -, held, rfl⟩ :=
        processValidChallenge_records ran
      obtain rfl := Option.some.inj (stored.symm.trans stored')
      obtain rfl := Option.some.inj (found'.symm.trans held)
      refine ⟨?_, fun never => Bool.noConfusion never, ?_⟩
      · intro id away
        exact (getChallenge_setChallenge _ _ id).trans (if_neg away)
      · intro id away
        exact (getBatch_updateBatchStatus k batch .rejected id).trans (if_neg away)
    · exact ⟨.refl, .refl _ _ _⟩
  · cases ran : k.processInvalidChallenge env challenge.challengeId with
    | none => exact ⟨.refl, .refl _ _ _⟩
    | some k' => exact disproved ran

theorem foldl_resolveOne_rejected (batch : BatchCommitment) (rest : List Challenge) (k : PorKeeper) :
    rest.foldl (resolveOne lib env batch) (k, true) = (k, true) := by
  induction rest with
  | nil => rfl
  | cons challenge rest ih => exact ih

theorem resolveAll_settles {batch : BatchCommitment} {pending : List Challenge}
    (distinct : (pending.map Challenge.challengeId).Nodup)
    (stored : ∀ challenge ∈ pending, k.getChallenge challenge.challengeId = some challenge)
    (ofBatch : ∀ challenge ∈ pending, challenge.batchId = batch.batchId)
    (found : k.getBatch batch.batchId = some batch) (status : batch.status = .pending)
    (known : Run.Along (resolveOne lib env batch)
      (fun reached challenge => reached.2 = false → challenge.status = .opened →
        reached.1.verifyChallenge lib challenge batch = .proven → P reached.1 challenge) (k, false) pending) :
    AllSettle lib env P k (pending.foldl (resolveOne lib env batch) (k, false)).1 ∧
      ∀ id, batch.batchId ≠ id →
        (pending.foldl (resolveOne lib env batch) (k, false)).1.getBatch id = k.getBatch id := by
  induction pending generalizing k with
  | nil => exact ⟨.refl, fun _ _ => rfl⟩
  | cons challenge rest ih =>
      obtain ⟨fresh, distinct⟩ := List.nodup_cons.1 distinct
      obtain ⟨here, onwards⟩ := known
      obtain ⟨first, decided⟩ := resolveOne_settles lib env P (stored challenge List.mem_cons_self)
        (ofBatch challenge List.mem_cons_self) found status (here rfl)
      rw [List.foldl_cons]
      generalize resolveOne lib env batch (k, false) challenge = after at first decided onwards
      obtain ⟨after, stopped⟩ := after
      cases stopped with
      | true =>
          rw [foldl_resolveOne_rejected]
          exact ⟨first, decided.elsewhere⟩
      | false =>
          have same := decided.batches rfl
          obtain ⟨later, elsewhere⟩ := ih distinct (by
              intro other member
              have away : challenge.challengeId ≠ other.challengeId := fun equal =>
                fresh (equal ▸ List.mem_map_of_mem member)
              rw [decided.others _ away]
              exact stored other (List.mem_cons_of_mem _ member))
            (fun other member => ofBatch other (List.mem_cons_of_mem _ member))
            ((same _).trans found) onwards
          exact ⟨first.trans later, fun id away => (elsewhere id away).trans (same id)⟩

theorem resolveBatch_settles {batch : BatchCommitment} (found : k.getBatch batch.batchId = some batch)
    (status : batch.status = .pending) (known : ProvenMeet lib env P k batch) :
    AllSettle lib env P k (resolveBatch lib env k batch) ∧
      ∀ id, batch.batchId ≠ id → (resolveBatch lib env k batch).getBatch id = k.getBatch id := by
  unfold resolveBatch
  split
  · exact ⟨.refl, fun _ _ => rfl⟩
  rename_i closed
  split
  · unfold resolveOpenChallenges
    rw [found]
    refine resolveAll_settles ?_ (fun challenge member => (mem_getChallengesForBatch.1 member).1)
      (fun challenge member => (mem_getChallengesForBatch.1 member).2) found status (known.resolve_left closed)
    exact k.challenges.nodup_map_key_values.sublist (List.filter_sublist.map _)
  · exact ⟨.refl, fun _ _ => rfl⟩

theorem resolveBatches_settles {pending : List BatchCommitment}
    (distinct : (pending.map BatchCommitment.batchId).Nodup)
    (found : ∀ batch ∈ pending, k.getBatch batch.batchId = some batch)
    (status : ∀ batch ∈ pending, batch.status = .pending)
    (known : Run.Along (resolveBatch lib env) (ProvenMeet lib env P) k pending) :
    AllSettle lib env P k (pending.foldl (resolveBatch lib env) k) := by
  induction pending generalizing k with
  | nil => exact .refl
  | cons batch rest ih =>
      obtain ⟨fresh, distinct⟩ := List.nodup_cons.1 distinct
      obtain ⟨here, onwards⟩ := known
      obtain ⟨first, elsewhere⟩ := resolveBatch_settles (found batch List.mem_cons_self)
        (status batch List.mem_cons_self) here
      refine first.trans (ih distinct ?_ (fun other member => status other (List.mem_cons_of_mem _ member))
        onwards)
      intro other member
      have away : batch.batchId ≠ other.batchId := fun equal => fresh (equal ▸ List.mem_map_of_mem member)
      rw [elsewhere _ away]
      exact found other (List.mem_cons_of_mem _ member)

theorem finalizeBatchInEndBlocker_cases (lib : Library) (k : PorKeeper) (env : Env) (batch : BatchCommitment) :
    ∃ reputations,
      k.finalizeBatchInEndBlocker lib env batch =
        { k.updateBatchStatus { batch with finalizedAt := env.now } .finalized with
          reputations := reputations } ∨
      0 < k.cappedCredits batch ∧ k.finalizeBatchInEndBlocker lib env batch =
        { (k.updateBatchStatus { batch with finalizedAt := env.now } .finalized).incrementEpochCredits
            batch.epoch (k.cappedCredits batch) with
          reputations := reputations
          awards := ⟨batch.batchId, batch.epoch, k.cappedCredits batch⟩ :: k.awards } := by
  unfold finalizeBatchInEndBlocker
  dsimp only
  split
  · obtain ⟨reputations, same⟩ := foldl_creditVerifier _ _
    exact ⟨reputations, .inl same⟩
  · split
    · obtain ⟨reputations, same⟩ := foldl_creditVerifier _ _
      exact ⟨reputations, .inl same⟩
    · split
      · rename_i positive
        split
        · obtain ⟨reputations, same⟩ := foldl_creditVerifier _ _
          exact ⟨reputations, .inr ⟨positive, same⟩⟩
        · obtain ⟨reputations, same⟩ := foldl_creditVerifier _ _
          exact ⟨reputations, .inl same⟩
      · obtain ⟨reputations, same⟩ := foldl_creditVerifier _ _
        exact ⟨reputations, .inl same⟩

theorem finalizeBatchInEndBlocker_records (lib : Library) (k : PorKeeper) (env : Env)
    (batch : BatchCommitment) :
    (∀ id, (k.finalizeBatchInEndBlocker lib env batch).getBatch id = if batch.batchId = id then
      some { batch with finalizedAt := env.now, status := .finalized } else k.getBatch id) ∧
    (k.finalizeBatchInEndBlocker lib env batch).challenges = k.challenges := by
  obtain ⟨reputations, same | ⟨-, same⟩⟩ := finalizeBatchInEndBlocker_cases lib k env batch
  · rw [same]
    exact ⟨fun id => getBatch_updateBatchStatus k _ .finalized id, rfl⟩
  · rw [same]
    exact ⟨fun id => getBatch_updateBatchStatus k _ .finalized id, rfl⟩

theorem finalizeBatches_settles {pending : List BatchCommitment} {finalized : Nat}
    (distinct : (pending.map BatchCommitment.batchId).Nodup)
    (found : ∀ batch ∈ pending, k.getBatch batch.batchId = some batch)
    (status : ∀ batch ∈ pending, batch.status = .pending) :
    AllSettle lib env P k (finalizeBatches lib env k finalized pending) := by
  induction pending generalizing k finalized with
  | nil => exact .refl
  | cons batch rest ih =>
      obtain ⟨fresh, distinct⟩ := List.nodup_cons.1 distinct
      have foundRest := fun other member => found other (List.mem_cons_of_mem _ member)
      have statusRest := fun other member => status other (List.mem_cons_of_mem _ member)
      rw [finalizeBatches]
      split
      · exact .refl
      split
      · exact ih distinct foundRest statusRest
      rename_i closed
      rw [not_le] at closed
      split
      · exact ih distinct foundRest statusRest
      rename_i settled
      rw [Bool.not_eq_true] at settled
      have here := found batch List.mem_cons_self
      refine .head (.finalizes batch here (status batch List.mem_cons_self) closed settled) ?_
      refine ih distinct ?_ statusRest
      intro other member
      have away : batch.batchId ≠ other.batchId := fun equal => fresh (equal ▸ List.mem_map_of_mem member)
      rw [(finalizeBatchInEndBlocker_records lib k env batch).1, if_neg away]
      exact foundRest other member

end EndBlocker

end PorKeeper

end Omniphi.Por
