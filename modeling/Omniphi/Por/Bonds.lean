import Omniphi.Por.FraudProofs

/-! The bonds of challenges: what the module account holds of them, and how each is settled. -/

namespace Omniphi.Por

def Challenge.openBond (challenge : Challenge) : Nat :=
  if challenge.status = .opened then challenge.bondAmount.toNat else 0

namespace PorKeeper

variable {lib : Library} {k k' : PorKeeper} {env : Env}

def openBonds (k : PorKeeper) : Nat := k.challenges.sum Challenge.openBond

/-- Every bond is settled at most once, and only after the decision on its challenge. -/
structure SettledOnce (k : PorKeeper) : Prop where
  once : (k.bonds.map Bond.challengeId).Nodup
  decided : ∀ bond ∈ k.bonds, ∃ challenge ∈ k.getChallenge bond.challengeId, challenge.status ≠ .opened

structure Escrowed (k : PorKeeper) : Prop where
  settled : k.SettledOnce
  closed : ∀ id batch, k.getBatch id = some batch → Terminal batch → k.hasOpenChallenges id = false
  covered : k.openBonds ≤ k.bank.balance porAccount

def FreshChallenges (k : PorKeeper) : Prop := ∀ id, k.nextChallengeId ≤ id → k.getChallenge id = none

/-- A challenge about to be found proven is the last open one of its batch, and earns no reward. -/
def Undisputed (lib : Library) (env : Env) (k : PorKeeper) (challenge : Challenge) : Prop :=
  (∀ other ∈ k.getChallengesForBatch challenge.batchId, other.status = .opened →
    other.challengeId = challenge.challengeId) ∧
  k.challengerReward (k.slashTotal lib env challenge.batchId) ≤ 0

structure Safe (lib : Library) (k : PorKeeper) : Prop where
  sound : Sound lib k
  escrowed : Escrowed k
  fresh : FreshChallenges k

section Sums

theorem openBonds_new {challenge : Challenge} (absent : k.getChallenge challenge.challengeId = none) :
    (k.setChallenge challenge).openBonds = k.openBonds + challenge.openBond := by
  show BTree.sum Challenge.openBond (k.challenges.toMap.insert challenge.challengeId challenge) = _
  have unchanged : k.challenges.toMap.erase challenge.challengeId = k.challenges.toMap := by
    apply Std.ExtTreeMap.ext_getElem?
    intro a
    rw [BTree.getElem?_erase]
    split
    · rename_i here
      rw [← here]
      exact absent.symm
    · rfl
  rw [BTree.sum_insert, unchanged, Nat.add_comm]
  rfl

theorem openBonds_set {challenge : Challenge} (decided : Challenge)
    (found : k.getChallenge challenge.challengeId = some challenge)
    (named : decided.challengeId = challenge.challengeId) :
    (k.setChallenge decided).openBonds + challenge.openBond = k.openBonds + decided.openBond := by
  have before := BTree.sum_eq_of_found Challenge.openBond
    (show k.challenges.toMap[challenge.challengeId]? = some challenge from found)
  have after := BTree.sum_insert Challenge.openBond k.challenges.toMap challenge.challengeId decided
  show BTree.sum Challenge.openBond (k.challenges.toMap.insert decided.challengeId decided) + _ =
    BTree.sum Challenge.openBond k.challenges.toMap + _
  rw [named, before, after]
  omega

end Sums

section Settling

theorem SettledOnce.congr (settled : k.SettledOnce) (challenges : k'.challenges = k.challenges)
    (bonds : k'.bonds = k.bonds) : k'.SettledOnce := by
  refine ⟨by rw [bonds]; exact settled.once, ?_⟩
  intro bond member
  rw [bonds] at member
  rw [getChallenge, challenges]
  exact settled.decided bond member

theorem SettledOnce.decide (settled : k.SettledOnce) (decided : Challenge) (status : decided.status ≠ .opened) :
    (k.setChallenge decided).SettledOnce := by
  refine ⟨settled.once, ?_⟩
  intro bond member
  obtain ⟨other, held, closed⟩ := settled.decided bond member
  rw [getChallenge_setChallenge]
  split
  · exact ⟨decided, rfl, status⟩
  · exact ⟨other, held, closed⟩

theorem SettledOnce.settle (settled : k.SettledOnce) {challenge : Challenge} (decided : Challenge) (bond : Bond)
    (found : k.getChallenge challenge.challengeId = some challenge) (opened : challenge.status = .opened)
    (named : decided.challengeId = challenge.challengeId) (status : decided.status ≠ .opened)
    (about : bond.challengeId = challenge.challengeId) :
    SettledOnce { k.setChallenge decided with bonds := bond :: k.bonds } := by
  obtain ⟨once, later⟩ := settled.decide decided status
  refine ⟨List.nodup_cons.2 ⟨?_, once⟩, ?_⟩
  · intro member
    obtain ⟨earlier, listed, same⟩ := List.mem_map.1 member
    obtain ⟨other, held, closed⟩ := settled.decided earlier listed
    rw [same, about, found] at held
    exact closed (Option.some.inj held ▸ opened)
  · intro other member
    obtain rfl | member := List.mem_cons.1 member
    · refine ⟨decided, ?_, status⟩
      show (k.setChallenge decided).getChallenge _ = _
      rw [getChallenge_setChallenge, if_pos (named.trans about.symm)]
    · exact later other member

theorem fresh_setChallenge (fresh : k.FreshChallenges) {challenge : Challenge} (decided : Challenge)
    (found : k.getChallenge challenge.challengeId = some challenge)
    (named : decided.challengeId = challenge.challengeId) : (k.setChallenge decided).FreshChallenges := by
  intro id beyond
  rw [getChallenge_setChallenge, if_neg]
  · exact fresh id beyond
  · intro here
    cases (fresh id beyond).symm.trans ((named.symm.trans here) ▸ found)

theorem closed_of_ends {P : PorKeeper → Challenge → Prop} (settles : Settles lib env P k k')
    (closed : ∀ id batch, k.getBatch id = some batch → Terminal batch → k.hasOpenChallenges id = false)
    (rejected : ∀ id batch, k.getBatch id = some batch → batch.status = .pending →
      k'.getBatch id = some { batch with status := .rejected } → k'.hasOpenChallenges id = false)
    (id : Nat) (batch : BatchCommitment) (held : k'.getBatch id = some batch) (terminal : Terminal batch) :
    k'.hasOpenChallenges id = false := by
  have ends := settles_ends settles
  obtain same | ⟨before, found, pending, ⟨-, settled, -⟩ | after⟩ := ends.moves id
  · exact ends.closes id (closed id batch (same ▸ held) terminal)
  · exact settled
  · exact rejected id before found pending after

theorem hasOpenChallenges_congr (same : k'.challenges = k.challenges) (id : Nat) :
    k'.hasOpenChallenges id = k.hasOpenChallenges id := by
  rw [hasOpenChallenges, getChallengesForBatch, same]
  rfl

theorem settles_escrowed (escrowed : Escrowed k) (fresh : FreshChallenges k)
    (settles : Settles lib env (Undisputed lib env) k k') : Escrowed k' ∧ FreshChallenges k' := by
  have whole := settles
  obtain ⟨settled, closed, covered⟩ := escrowed
  cases settles with
  | finalizes batch found pending closed' open' =>
      obtain ⟨batches, challenges⟩ := finalizeBatchInEndBlocker_records lib k env batch
      have terminal := closed_of_ends whole closed (by
        intro id other held pending' after
        rw [hasOpenChallenges_congr challenges]
        rw [batches] at after
        split at after
        · rename_i here
          rw [← here]
          exact open'
        · have equal := Option.some.inj (held.symm.trans after)
          have status : other.status = .rejected := equal ▸ rfl
          cases pending'.symm.trans status)
      obtain ⟨reputations, same | ⟨-, same⟩⟩ := finalizeBatchInEndBlocker_cases lib k env batch
      · rw [same] at terminal ⊢
        exact ⟨⟨⟨settled.once, settled.decided⟩, terminal, covered⟩, fresh⟩
      · rw [same] at terminal ⊢
        exact ⟨⟨⟨settled.once, settled.decided⟩, terminal, covered⟩, fresh⟩
  | rejects challenge batch stored found pending proven known k' ran =>
      obtain ⟨sole, unrewarded⟩ := known
      obtain ⟨challenge', batch', stored', opened, found', reputations, base, based, rfl⟩ :=
        processValidChallenge_cases ran
      obtain rfl := Option.some.inj (stored.symm.trans stored')
      obtain rfl := Option.some.inj (found.symm.trans found')
      have named := batchId_of_getBatch found
      have undecided : (challenge.proven env).status ≠ .opened := fun never => ChallengeStatus.noConfusion never
      -- The challenge was the only open one of the batch.
      have cleared : (k.setChallenge (challenge.proven env)).hasOpenChallenges challenge.batchId = false := by
        rw [hasOpenChallenges_eq_false]
        intro id other held ofBatch opened'
        rw [getChallenge_setChallenge] at held
        split at held
        · exact undecided (Option.some.inj held ▸ opened')
        · rename_i away
          have named' := challengeId_of_getChallenge held
          have member : other ∈ k.getChallengesForBatch challenge.batchId :=
            mem_getChallengesForBatch.2 ⟨by rwa [named'], ofBatch⟩
          exact away ((sole other member opened').symm.trans named')
      have bonds := openBonds_set (challenge.proven env) stored rfl
      have spent : (challenge.proven env).openBond = 0 := rfl
      have held : challenge.openBond = challenge.bondAmount.toNat := if_pos opened
      have rejected : ∀ id batch', k.getBatch id = some batch' → batch'.status = .pending →
          (k.updateBatchStatus batch .rejected).getBatch id = some { batch' with status := .rejected } →
          (k.setChallenge (challenge.proven env)).hasOpenChallenges id = false := by
        intro id other stored'' pending' after
        rw [getBatch_updateBatchStatus] at after
        split at after
        · rename_i here
          rwa [← here, named]
        · have equal := Option.some.inj (stored''.symm.trans after)
          have status : other.status = .rejected := equal ▸ rfl
          cases pending'.symm.trans status
      have terminal := closed_of_ends whole closed
      have fresh' := fresh_setChallenge fresh (challenge.proven env) stored rfl
      have params : base.params = k.params := by rw [based]; rfl
      have none' : ∀ paid : PorKeeper, paid.params = k.params →
          paid.rewardChallenger lib env challenge (k.slashTotal lib env challenge.batchId) = paid := by
        intro paid same
        unfold rewardChallenger challengerReward
        rw [same]
        exact if_neg (not_lt.2 unrewarded)
      obtain kept | ⟨recipient, bank, sent, refunded⟩ := refundBond_cases lib base env challenge
      · rw [kept, none' base params, based] at terminal ⊢
        refine ⟨⟨(settled.decide (challenge.proven env) undecided).congr rfl rfl,
          terminal rejected, ?_⟩, fresh'⟩
        show (k.setChallenge (challenge.proven env)).openBonds ≤ k.bank.balance porAccount
        omega
      · rw [refunded, none' { base with bank := bank, bonds := _ } params, based] at terminal ⊢
        refine ⟨⟨(settled.settle (challenge.proven env) (.refunded challenge.challengeId)
            stored opened rfl undecided rfl).congr rfl rfl, terminal rejected, ?_⟩, fresh'⟩
        show (k.setChallenge (challenge.proven env)).openBonds ≤ bank.balance porAccount
        rw [based] at sent
        obtain ⟨enough, after⟩ := Ledger.send_spec (show k.bank.send porAccount (.user recipient)
          challenge.bondAmount.toNat = some bank from sent)
        have paid := after porAccount
        rw [if_pos rfl, if_neg (fun never => Account.noConfusion never)] at paid
        omega
  | disproves challengeId k' ran =>
      obtain ⟨challenge, found, opened, after⟩ := processInvalidChallenge_cases ran
      have named := challengeId_of_getChallenge found
      subst named
      have undecided : (challenge.disproven env).status ≠ .opened :=
        fun never => ChallengeStatus.noConfusion never
      have bonds := openBonds_set (challenge.disproven env) found rfl
      have spent : (challenge.disproven env).openBond = 0 := rfl
      have held : challenge.openBond = challenge.bondAmount.toNat := if_pos opened
      have fresh' := fresh_setChallenge fresh (challenge.disproven env) found rfl
      have untouched : ∀ id batch, k.getBatch id = some batch → batch.status = .pending →
          k.getBatch id = some { batch with status := .rejected } →
          k'.hasOpenChallenges id = false := by
        intro id batch stored pending after
        have equal := Option.some.inj (stored.symm.trans after)
        have status : batch.status = .rejected := equal ▸ rfl
        cases pending.symm.trans status
      have terminal := closed_of_ends whole closed
      obtain rfl | ⟨bank, burned, rfl⟩ := after
      · refine ⟨⟨settled.decide (challenge.disproven env) undecided, terminal untouched, ?_⟩, fresh'⟩
        show (k.setChallenge (challenge.disproven env)).openBonds ≤ k.bank.balance porAccount
        omega
      · refine ⟨⟨(settled.settle (challenge.disproven env) (.burned challenge.challengeId) found
            opened rfl undecided rfl).congr rfl rfl, terminal untouched, ?_⟩, fresh'⟩
        show (k.setChallenge (challenge.disproven env)).openBonds ≤ bank.balance porAccount
        obtain ⟨enough, after⟩ := Ledger.burn_spec burned
        have paid := after porAccount
        rw [if_pos rfl] at paid
        omega

end Settling

section Runs

/-- Whenever the end blocker finds a challenge proven, nobody else disputes the batch and no reward is due. -/
def CalmAction (lib : Library) (k : PorKeeper) : Action → Prop
  | .endBlocker env => k.EndBlockerMeets lib env (Undisputed lib env)
  | _ => True

theorem allSettle_escrowed (escrowed : Escrowed k) (fresh : FreshChallenges k)
    (settles : AllSettle lib env (Undisputed lib env) k k') : Escrowed k' ∧ FreshChallenges k' := by
  induction settles with
  | refl => exact ⟨escrowed, fresh⟩
  | tail _ next ih => exact settles_escrowed ih.1 ih.2 next

theorem new_safe (lib : Library) (authority : String) (params : Params) (apps : KeyedMap App.appId)
    (verifierSets : KeyedMap VerifierSet.verifierSetId) (poseqCommitments : List Bytes) (bank : Bank)
    (valid : params.Valid) (authorised : (lib.canonical authority).isSome = true) :
    Safe lib (new authority params apps verifierSets poseqCommitments bank) := by
  refine ⟨new_sound lib authority params apps verifierSets poseqCommitments bank valid authorised,
    ⟨⟨List.nodup_nil, fun bond member => nomatch member⟩, ?_, ?_⟩, fun id _ => KeyedMap.get?_empty id⟩
  · intro id batch found
    cases found.symm.trans (KeyedMap.get?_empty id)
  · have nothing : (new authority params apps verifierSets poseqCommitments bank).openBonds = 0 := by
      show BTree.sum Challenge.openBond (∅ : BTreeMap Nat Challenge) = 0
      rw [BTree.sum, Std.ExtTreeMap.toList_eq_nil_iff.2 rfl]
      rfl
    omega

theorem step_safe {action : Action} (safe : Safe lib k) (calm : CalmAction lib k action) :
    Safe lib (k.step lib action) := by
  obtain ⟨sound, escrowed, fresh⟩ := safe
  have next := step_sound sound action
  obtain ⟨settled, closed, covered⟩ := escrowed
  -- A step that leaves challenges, bonds and the bank is safe when it closes no batch.
  have quiet : ∀ k' : PorKeeper, k'.challenges = k.challenges → k'.bonds = k.bonds → k'.bank = k.bank →
      k'.nextChallengeId = k.nextChallengeId →
      (∀ id batch, k'.getBatch id = some batch → Terminal batch → k.hasOpenChallenges id = false) →
      Escrowed k' ∧ FreshChallenges k' := by
    intro k' challenges bonds bank count terminal
    refine ⟨⟨settled.congr challenges bonds, ?_, ?_⟩, ?_⟩
    · intro id batch found ended
      rw [hasOpenChallenges_congr challenges]
      exact terminal id batch found ended
    · rw [openBonds, challenges, bank]
      exact covered
    · intro id beyond
      rw [getChallenge, challenges]
      exact fresh id (by omega)
  cases action with
  | submitBatch env msg =>
      show Safe lib ((k.submitBatch lib env msg).getD k)
      have next : Sound lib ((k.submitBatch lib env msg).getD k) := next
      cases ran : k.submitBatch lib env msg with
      | none => exact ⟨sound, ⟨settled, closed, covered⟩, fresh⟩
      | some k' =>
          rw [ran] at next
          obtain ⟨batch, leaves, status, named, same⟩ := submitBatch_cases ran
          obtain ⟨escrowed, unused⟩ := quiet k' (by subst same; rfl)
            (by subst same; rfl) (by subst same; rfl)
            (by subst same; rfl) (by
            intro id other found ended
            rw [same] at found
            have found : (k.setBatch batch).getBatch id = some other := found
            rw [getBatch_setBatch] at found
            split at found
            · obtain rfl := Option.some.inj found
              obtain ended | ended := ended <;> cases status.symm.trans ended
            · exact closed id other found ended)
          exact ⟨next, escrowed, unused⟩
  | submitAttestation env msg =>
      show Safe lib ((k.submitAttestation lib env msg).getD k)
      have next : Sound lib ((k.submitAttestation lib env msg).getD k) := next
      cases ran : k.submitAttestation lib env msg with
      | none => exact ⟨sound, ⟨settled, closed, covered⟩, fresh⟩
      | some k' =>
          rw [ran] at next
          obtain ⟨batch, vs, verifier, signature, weight, reputations, found, status, listed, member, base, rfl,
            after⟩ := submitAttestation_cases ran
          obtain same | ⟨-, same⟩ := after
          · obtain ⟨escrowed, unused⟩ := quiet k' (by subst same; rfl)
              (by subst same; rfl) (by subst same; rfl)
              (by subst same; rfl) (by rw [same]; exact closed)
            exact ⟨next, escrowed, unused⟩
          · obtain ⟨escrowed, unused⟩ := quiet k' (by subst same; rfl)
              (by subst same; rfl) (by subst same; rfl)
              (by subst same; rfl) (by
              intro id other found ended
              rw [same] at found
              have found : ((k.setAttestation ⟨batch.batchId, verifier, signature, weight,
                env.now⟩).updateBatchStatus batch .pending).getBatch id = some other := found
              rw [getBatch_updateBatchStatus] at found
              split at found
              · obtain rfl := Option.some.inj found
                obtain ended | ended := ended <;> cases ended
              · exact closed id other found ended)
            exact ⟨next, escrowed, unused⟩
  | challengeBatch env msg =>
      show Safe lib ((k.challengeBatch lib env msg).getD k)
      have next : Sound lib ((k.challengeBatch lib env msg).getD k) := next
      cases ran : k.challengeBatch lib env msg with
      | none => exact ⟨sound, ⟨settled, closed, covered⟩, fresh⟩
      | some k' =>
          rw [ran] at next
          obtain ⟨challenge, batch, bank, counts, named, opened, amount, found, live, funds, rfl⟩ :=
            challengeBatch_cases ran
          have absent : k.getChallenge challenge.challengeId = none := fresh _ (by omega)
          refine ⟨next, ⟨⟨settled.once, ?_⟩, ?_, ?_⟩, ?_⟩
          · intro bond member
            obtain ⟨other, held, decided⟩ := settled.decided bond member
            refine ⟨other, ?_, decided⟩
            refine (getChallenge_setChallenge k challenge _).trans ?_
            rw [if_neg, held]
            intro here
            cases absent.symm.trans (here ▸ held)
          · intro id other stored ended
            have before := closed id other stored ended
            show (k.setChallenge challenge).hasOpenChallenges id = false
            rw [hasOpenChallenges_eq_false] at before ⊢
            intro challengeId older held ofBatch
            rw [getChallenge_setChallenge] at held
            split at held
            · obtain rfl := Option.some.inj held
              have stored : k.getBatch id = some other := stored
              rw [ofBatch, stored] at found
              obtain rfl := Option.some.inj found
              obtain ended | ended := ended <;> obtain live | live := live <;> cases live.symm.trans ended
            · exact before challengeId older held ofBatch
          · show (k.setChallenge challenge).openBonds ≤ bank.balance porAccount
            rw [openBonds_new absent, Challenge.openBond, if_pos opened, amount]
            obtain ⟨positive, challenger, sent⟩ | ⟨nothing, rfl⟩ := funds
            · obtain ⟨-, after⟩ := Ledger.send_spec sent
              have received := after porAccount
              rw [if_neg (fun never => Account.noConfusion never), if_pos rfl] at received
              omega
            · omega
          · intro id beyond
            have beyond : k.nextChallengeId + 1 ≤ id := beyond
            refine (getChallenge_setChallenge k challenge id).trans ?_
            rw [if_neg (by omega)]
            exact fresh id (by omega)
  | finalizeBatch env msg =>
      show Safe lib ((k.finalizeBatch lib env msg).getD k)
      have next : Sound lib ((k.finalizeBatch lib env msg).getD k) := next
      cases ran : k.finalizeBatch lib env msg with
      | none => exact ⟨sound, ⟨settled, closed, covered⟩, fresh⟩
      | some k' =>
          rw [ran] at next
          obtain ⟨batch, ready, -, rfl⟩ := finalizeBatch_cases ran
          obtain ⟨escrowed, unused⟩ := settles_escrowed ⟨settled, closed, covered⟩ fresh
            (.finalizes batch ready.found ready.pending ready.closed ready.settled)
          exact ⟨next, escrowed, unused⟩
  | endBlocker env =>
      obtain ⟨escrowed, unused⟩ := allSettle_escrowed ⟨settled, closed, covered⟩ fresh
        (endBlocker_settles sound calm)
      obtain ⟨settled, closed, covered⟩ := escrowed
      exact ⟨next, ⟨⟨settled.once, settled.decided⟩, closed, covered⟩, unused⟩

/-- As long as every proven challenge is the last open one of its batch and earns no reward, the bonds of the
open challenges are in the module, no challenge outlives its batch and no bond is settled twice. -/
theorem bonds_escrowed (lib : Library) (authority : String) (params : Params) (apps : KeyedMap App.appId)
    (verifierSets : KeyedMap VerifierSet.verifierSetId) (poseqCommitments : List Bytes) (bank : Bank)
    (valid : params.Valid) (authorised : (lib.canonical authority).isSome = true) (run : List Action)
    (calm : Run.Along (step lib) (CalmAction lib)
      (new authority params apps verifierSets poseqCommitments bank) run) :
    Escrowed (run.foldl (step lib) (new authority params apps verifierSets poseqCommitments bank)) :=
  (Run.invariant (fun _ _ => step_safe)
    (new_safe lib authority params apps verifierSets poseqCommitments bank valid authorised) calm).escrowed

end Runs

section Disputed

instance decidableUndisputed (lib : Library) (env : Env) (k : PorKeeper) (challenge : Challenge) :
    Decidable (Undisputed lib env k challenge) :=
  inferInstanceAs (Decidable ((∀ other ∈ _, _ → _) ∧ _))

instance decidableProvenMeet (lib : Library) (env : Env) (k : PorKeeper) (batch : BatchCommitment) :
    Decidable (ProvenMeet lib env (Undisputed lib env) k batch) :=
  inferInstanceAs (Decidable (_ ∨ Run.Along _ _ _ _))

instance decidableEndBlockerMeets (lib : Library) (env : Env) (k : PorKeeper) :
    Decidable (k.EndBlockerMeets lib env (Undisputed lib env)) :=
  inferInstanceAs (Decidable (Run.Along _ _ _ _))

instance decidableCalmAction (lib : Library) (k : PorKeeper) : ∀ action, Decidable (CalmAction lib k action)
  | .endBlocker env => decidableEndBlockerMeets lib env k
  | .submitBatch _ _ => instDecidableTrue
  | .submitAttestation _ _ => instDecidableTrue
  | .challengeBatch _ _ => instDecidableTrue
  | .finalizeBatch _ _ => instDecidableTrue

def convictedRun : List Action := framedRun ++ ([.endBlocker (block 9 4000)] : List Action)

theorem bonds_escrowed_convictedRun : Escrowed (convictedRun.foldl (step library) start) :=
  bonds_escrowed library "gov" defaultParams onlyApp onlySet [] funded defaultParams_valid rfl convictedRun
    (by decide +kernel)

def disputedRun : List Action := framedRun ++
  ([.challengeBatch (block 4 40) ⟨"challenger", 1, .missingRecord, [1]⟩, .endBlocker (block 9 4000)] :
    List Action)

/-- A second challenge of the batch is left open when the first one is found proven. -/
theorem disputed_stays_open :
    let k := disputedRun.foldl (step library) start
    (k.getBatch 1).map BatchCommitment.status = some .rejected ∧
      (k.getChallenge 2).map Challenge.status = some .opened ∧ ¬ Escrowed k := by
  refine ⟨by decide +kernel, by decide +kernel, ?_⟩
  intro escrowed
  have closed := escrowed.closed 1 { oneRecordBatch with status := .rejected } (by decide +kernel) (.inr rfl)
  exact absurd closed (by decide +kernel)

end Disputed

end PorKeeper

end Omniphi.Por
