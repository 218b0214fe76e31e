import Omniphi.Lib.Run
import Omniphi.Poc.Finality

/-! Runs of the finality operations: how the status of a contribution moves, and what its fraud proofs do. -/

namespace Omniphi.Poc

namespace FinalityStatus

/-- The documented moves. -/
inductive Edge : FinalityStatus → FinalityStatus → Prop
  | finalize : Edge .pending .final
  | challenge : Edge .pending .challenged
  | dismiss : Edge .challenged .final
  | invalidate : Edge .challenged .invalidated

def Moves : FinalityStatus → FinalityStatus → Prop := Relation.ReflTransGen Edge

variable {s : FinalityStatus}

theorem Moves.refl (s : FinalityStatus) : Moves s s := Relation.ReflTransGen.refl

theorem Edge.moves {t : FinalityStatus} (edge : Edge s t) : Moves s t := Relation.ReflTransGen.single edge

theorem pending_moves_invalidated : Moves .pending .invalidated :=
  Edge.challenge.moves.tail .invalidate

theorem moves_pending : Moves s .pending ↔ s = .pending := by
  constructor
  · intro moves
    obtain same | ⟨_, -, edge⟩ := Relation.ReflTransGen.cases_tail moves
    · exact same.symm
    · cases edge
  · rintro rfl
    exact Moves.refl _

theorem Moves.of_final (moves : Moves .final s) : s = .final := by
  obtain same | ⟨_, edge, -⟩ := Relation.ReflTransGen.cases_head moves
  · exact same.symm
  · cases edge

theorem Moves.of_invalidated (moves : Moves .invalidated s) : s = .invalidated := by
  obtain same | ⟨_, edge, -⟩ := Relation.ReflTransGen.cases_head moves
  · exact same.symm
  · cases edge

theorem moves_final : Moves s .final ↔ s ≠ .invalidated := by
  constructor
  · rintro moves rfl
    cases moves.of_invalidated
  · intro valid
    cases s with
    | pending => exact Edge.finalize.moves
    | final => exact Moves.refl _
    | challenged => exact Edge.dismiss.moves
    | invalidated => exact absurd rfl valid

end FinalityStatus

namespace FinalityKeeper

open FinalityStatus

variable {k k' : FinalityKeeper} {addresses : Addresses} {chain : Chain} {contributionID : Nat}

inductive Action
  | addEndorsement (chain : Chain) (contributionID : Nat) (endorsement : Endorsement)
  | openChallengeWindow (chain : Chain) (contributionID : Nat)
  | challengeContribution (chain : Chain) (contributionID challengeID : Nat)
  | submitFraudProof (chain : Chain) (contributionID : Nat) (proofType : FraudProofType)
      (challenger : String) (proofData : Bytes)
  | tryFinalizeContribution (chain : Chain) (contributionID : Nat)
  | resolveChallengeInvalid (chain : Chain) (contributionID : Nat)
  | finalizeContribution (chain : Chain) (contributionID : Nat)

def orUnchanged (k : FinalityKeeper) (result : Except FinalityError FinalityKeeper) : FinalityKeeper :=
  result.toOption.getD k

def step (addresses : Addresses) (k : FinalityKeeper) : Action → FinalityKeeper
  | .addEndorsement chain contributionID endorsement =>
    k.orUnchanged (k.addEndorsement addresses chain contributionID endorsement)
  | .openChallengeWindow chain contributionID => k.openChallengeWindow chain contributionID
  | .challengeContribution chain contributionID challengeID =>
    k.orUnchanged (k.challengeContribution chain contributionID challengeID)
  | .submitFraudProof chain contributionID proofType challenger proofData =>
    k.orUnchanged (k.submitFraudProof addresses chain contributionID proofType challenger proofData)
  | .tryFinalizeContribution chain contributionID =>
    k.orUnchanged (k.tryFinalizeContribution chain contributionID)
  | .resolveChallengeInvalid chain contributionID =>
    k.orUnchanged (k.resolveChallengeInvalid chain contributionID)
  | .finalizeContribution chain contributionID => k.finalizeContribution chain contributionID

def Proven (k : FinalityKeeper) (contributionID : Nat) : Prop :=
  (k.getFraudProof contributionID).isSome = true

structure SoundFor (k k' : FinalityKeeper) (id : Nat) : Prop where
  moves : Moves (k.status id) (k'.status id)
  -- A new proof invalidates what was not final.
  convicts : k'.Proven id → ¬ k.Proven id → k.status id ≠ .final → k'.status id = .invalidated
  -- A proof stays: what it convicted does not become final.
  lasts : k.Proven id → k.status id ≠ .final → k'.status id ≠ .final

/-- No proof of a missed quorum touches a contribution that reached its quorum. -/
def SparesQuorum (k k' : FinalityKeeper) : Action → Prop
  | .submitFraudProof _ id .invalidQuorum _ _ =>
    id ∈ k.reached → (k'.status id = .invalidated → k.status id = .invalidated) ∧ k'.slashed = k.slashed
  | _ => True

def Sound (addresses : Addresses) (k : FinalityKeeper) (action : Action) : Prop :=
  (∀ id, SoundFor k (step addresses k action) id) ∧ SparesQuorum k (step addresses k action) action

def Accepts (k : FinalityKeeper) (chain : Chain) (contributionID : Nat) (proofType : FraudProofType)
    (proofData : Bytes) : Prop :=
  proofType.isValid = true ∧ ¬ k.Proven contributionID ∧
    k.verifyFraudProof chain contributionID proofType proofData = .ok true

/-- No window is opened but over a pending contribution, nothing invalidated is declared final, and a proof
that is accepted comes in time and does not judge a quorum that was reached. -/
def Meets (k : FinalityKeeper) : Action → Prop
  | .openChallengeWindow _ id => k.status id = .pending
  | .finalizeContribution _ id => k.status id ≠ .invalidated
  | .submitFraudProof chain id proofType _ proofData =>
    k.Accepts chain id proofType proofData →
      (k.status id = .pending → k.windowExpired chain id = false) ∧
      (proofType = .invalidQuorum → id ∈ k.reached → k.status id = .final ∨ k.status id = .invalidated)
  | _ => True

def Settled (k : FinalityKeeper) : Prop :=
  ∀ id, k.Proven id → k.status id = .final ∨ k.status id = .invalidated

section Stores

theorem status_setContributionFinality (f : ContributionFinality) (id : Nat) :
    (k.setContributionFinality f).status id = if f.contributionID = id then f.status else k.status id := by
  unfold status getContributionFinality setContributionFinality
  dsimp only
  rw [KeyedMap.get?_insert]
  split <;> rfl

theorem proven_setFraudProof (fp : FraudProof) (id : Nat) :
    (k.setFraudProof fp).Proven id ↔ fp.contributionID = id ∨ k.Proven id := by
  unfold Proven getFraudProof setFraudProof
  dsimp only
  rw [KeyedMap.get?_insert]
  split <;> simp [*]

theorem contributionID_getContributionFinality (id : Nat) :
    (k.getContributionFinality id).contributionID = id := by
  unfold getContributionFinality
  cases found : k.finalities.get? id with
  | none => rfl
  | some f => exact k.finalities.key_of_get? found

end Stores

structure Sets (k k' : FinalityKeeper) (id : Nat) (s : FinalityStatus) : Prop where
  status : ∀ other, k'.status other = if id = other then s else k.status other
  proofs : k'.fraudProofs = k.fraudProofs

namespace Sets

variable {s : FinalityStatus}

theorem proven (sets : Sets k k' contributionID s) (id : Nat) : k'.Proven id ↔ k.Proven id := by
  rw [Proven, getFraudProof, sets.proofs]
  rfl

theorem soundFor (sets : Sets k k' contributionID s) (moves : Moves (k.status contributionID) s)
    (lasts : k.Proven contributionID → k.status contributionID ≠ .final → s ≠ .final) (id : Nat) :
    SoundFor k k' id := by
  refine ⟨?_, fun proven fresh => absurd ((sets.proven id).1 proven) fresh, ?_⟩
  · rw [sets.status]
    split
    · rename_i same
      rwa [← same]
    · exact Moves.refl _
  · rw [sets.status]
    split
    · rename_i same
      rwa [← same]
    · exact fun _ unsettled => unsettled

theorem soundFor_iff (sets : Sets k k' contributionID s)
    (lasts : k.Proven contributionID → k.status contributionID ≠ .final →
      Moves (k.status contributionID) s → s ≠ .final) :
    (∀ id, SoundFor k k' id) ↔ Moves (k.status contributionID) s := by
  constructor
  · intro sound
    have moves := (sound contributionID).moves
    rwa [sets.status, if_pos rfl] at moves
  · exact fun moves => sets.soundFor moves fun proven unsettled => lasts proven unsettled moves

end Sets

theorem SoundFor.refl (k : FinalityKeeper) (id : Nat) : SoundFor k k id :=
  ⟨Moves.refl _, fun proven fresh => absurd proven fresh, fun _ unsettled => unsettled⟩

structure SameFinality (k k' : FinalityKeeper) : Prop where
  finalities : k'.finalities = k.finalities
  proofs : k'.fraudProofs = k.fraudProofs

namespace SameFinality

theorem status (same : SameFinality k k') (id : Nat) : k'.status id = k.status id := by
  rw [FinalityKeeper.status, getContributionFinality, same.finalities]
  rfl

theorem proven (same : SameFinality k k') (id : Nat) : k'.Proven id ↔ k.Proven id := by
  rw [Proven, getFraudProof, same.proofs]
  rfl

theorem soundFor (same : SameFinality k k') (id : Nat) : SoundFor k k' id :=
  ⟨same.status id ▸ Moves.refl _, fun proven fresh => absurd ((same.proven id).1 proven) fresh,
    fun _ unsettled => (same.status id).symm ▸ unsettled⟩

end SameFinality

section Operations

theorem setFinality_sets {f : ContributionFinality} (named : f.contributionID = contributionID) :
    Sets k (k.setContributionFinality f) contributionID f.status :=
  ⟨fun other => by rw [status_setContributionFinality, named], rfl⟩

theorem openChallengeWindow_sets : Sets k (k.openChallengeWindow chain contributionID) contributionID .pending :=
  ⟨fun other => status_setContributionFinality _ other, rfl⟩

theorem finalizeContribution_sets :
    Sets k (k.finalizeContribution chain contributionID) contributionID .final :=
  setFinality_sets rfl

theorem tryFinalizeContribution_ok (ran : k.tryFinalizeContribution chain contributionID = .ok k') :
    k.status contributionID = .pending ∧ ¬ k.Proven contributionID ∧ Sets k k' contributionID .final := by
  unfold tryFinalizeContribution at ran
  dsimp only at ran
  split at ran
  · cases ran
  rename_i pending
  split at ran
  · cases ran
  split at ran
  · cases ran
  rename_i unproven
  split at ran
  · cases ran
  obtain rfl := Except.ok.inj ran
  exact ⟨not_not.1 pending, unproven, setFinality_sets (contributionID_getContributionFinality _)⟩

theorem challengeContribution_ok {challengeID : Nat}
    (ran : k.challengeContribution chain contributionID challengeID = .ok k') :
    k.status contributionID = .pending ∧ Sets k k' contributionID .challenged := by
  unfold challengeContribution at ran
  dsimp only at ran
  split at ran
  · cases ran
  rename_i pending
  split at ran
  · cases ran
  obtain rfl := Except.ok.inj ran
  exact ⟨not_not.1 pending, setFinality_sets (contributionID_getContributionFinality _)⟩

theorem challengeContribution_runs (pending : k.status contributionID = .pending)
    (open_window : k.windowExpired chain contributionID = false) :
    ∃ k', k.challengeContribution chain contributionID 0 = .ok k' ∧ Sets k k' contributionID .challenged := by
  have held : (k.getContributionFinality contributionID).status = .pending := pending
  unfold challengeContribution
  dsimp only
  rw [if_neg (not_not.2 held), if_neg (by rw [open_window]; decide)]
  exact ⟨_, rfl, setFinality_sets (contributionID_getContributionFinality _)⟩

theorem resolveChallengeInvalid_ok (ran : k.resolveChallengeInvalid chain contributionID = .ok k') :
    k.status contributionID = .challenged ∧ ¬ k.Proven contributionID ∧ Sets k k' contributionID .final := by
  unfold resolveChallengeInvalid at ran
  dsimp only at ran
  split at ran
  · cases ran
  rename_i challenged
  split at ran
  · cases ran
  rename_i unproven
  have sets := setFinality_sets (k := k) (f := { k.getContributionFinality contributionID with
    status := .final, finalizedAt := chain.height }) (contributionID_getContributionFinality contributionID)
  split at ran
  · obtain rfl := Except.ok.inj ran
    exact ⟨not_not.1 challenged, unproven, sets⟩
  · obtain rfl := Except.ok.inj ran
    refine ⟨not_not.1 challenged, unproven, ?_⟩
    unfold unfreezeCredits
    dsimp only
    split
    · exact sets
    · exact ⟨sets.status, sets.proofs⟩

theorem burnFrozenCredits_same (addr : String) : SameFinality k (k.burnFrozenCredits addresses addr) := by
  unfold burnFrozenCredits
  dsimp only
  split
  · exact ⟨rfl, rfl⟩
  · split
    · exact ⟨rfl, rfl⟩
    · exact ⟨rfl, rfl⟩

theorem slashFraudEndorsers_same (contribution : Contribution) :
    SameFinality k (k.slashFraudEndorsers addresses chain contribution) := by
  unfold slashFraudEndorsers
  dsimp only
  split
  · exact ⟨rfl, rfl⟩
  · exact ⟨rfl, rfl⟩

theorem invalidateContribution_runs (addresses : Addresses) (chain : Chain)
    (challenged : k.status contributionID = .challenged) :
    ∃ k', k.invalidateContribution addresses chain contributionID = .ok k' ∧
      Sets k k' contributionID .invalidated := by
  have sets := setFinality_sets (k := k) (f := { k.getContributionFinality contributionID with
    status := .invalidated }) (contributionID_getContributionFinality contributionID)
  have held : (k.getContributionFinality contributionID).status = .challenged := challenged
  unfold invalidateContribution
  dsimp only
  rw [if_neg (not_not.2 held)]
  split
  · exact ⟨_, rfl, sets⟩
  · rename_i contribution _
    refine ⟨_, rfl, ?_, ?_⟩
    · intro other
      rw [(slashFraudEndorsers_same contribution).status, (burnFrozenCredits_same _).status, sets.status]
    · rw [(slashFraudEndorsers_same contribution).proofs, (burnFrozenCredits_same _).proofs, sets.proofs]

theorem invalidateContribution_error (unchallenged : k.status contributionID ≠ .challenged) :
    k.invalidateContribution addresses chain contributionID = .error .invalidStateTransition := by
  have held : (k.getContributionFinality contributionID).status ≠ .challenged := unchallenged
  unfold invalidateContribution
  dsimp only
  rw [if_pos held]

theorem verify_same {c : Contribution} (ran : k.verify addresses c = .ok k') : SameFinality k k' := by
  unfold verify enqueueReward addCreditsWithOverflowCheck at ran
  dsimp only at ran
  split at ran
  · cases ran
  split at ran
  · cases ran
  split at ran
  · cases ran
  split at ran
  · cases ran
  split at ran
  · cases ran
  split at ran
  · cases ran
  obtain rfl := Except.ok.inj ran
  exact ⟨rfl, rfl⟩

theorem addEndorsement_same {endorsement : Endorsement}
    (ran : k.addEndorsement addresses chain contributionID endorsement = .ok k') : SameFinality k k' := by
  unfold addEndorsement at ran
  dsimp only at ran
  split at ran
  · cases ran
  split at ran
  · cases ran
  split at ran
  · cases ran
  split at ran
  · cases ran
  split at ran
  · cases ran
  split at ran
  · split at ran
    · cases ran
    · exact verify_same ran
    · obtain rfl := Except.ok.inj ran
      exact ⟨rfl, rfl⟩
  · obtain rfl := Except.ok.inj ran
    exact ⟨rfl, rfl⟩

end Operations

section FraudProofs

inductive Convicted (k : FinalityKeeper) (chain : Chain) (id : Nat) (k' : FinalityKeeper) : Prop
  | late (pending : k.status id = .pending) (expired : k.windowExpired chain id = true) (same : k' = k)
  | invalidated (status : k.status id = .pending ∧ k.windowExpired chain id = false ∨
      k.status id = .challenged) (sets : Sets k k' id .invalidated)
  | settled (status : k.status id = .final ∨ k.status id = .invalidated) (same : k' = k)

theorem afterFraudProof_convicted (addresses : Addresses) (k : FinalityKeeper) (chain : Chain) (id : Nat) :
    Convicted k chain id (k.afterFraudProof addresses chain id) := by
  unfold afterFraudProof
  cases status : k.status id with
  | pending =>
    have held : (k.getContributionFinality id).status = .pending := status
    dsimp only
    cases expired : k.windowExpired chain id with
    | true =>
      have refuses : k.challengeContribution chain id 0 = .error .challengeWindowClosed := by
        unfold challengeContribution
        dsimp only
        rw [if_neg (not_not.2 held), if_pos expired]
      rw [refuses, invalidateContribution_error (by
        show k.status id ≠ _
        rw [status]
        decide)]
      exact .late status expired rfl
    | false =>
      obtain ⟨c, challenges, sets⟩ := challengeContribution_runs status expired
      obtain ⟨k', invalidates, sets'⟩ := invalidateContribution_runs addresses chain
        (show c.status id = .challenged by rw [sets.status, if_pos rfl])
      rw [challenges]
      show Convicted k chain id (((c.invalidateContribution addresses chain id).toOption).getD c)
      rw [invalidates]
      refine .invalidated (Or.inl ⟨status, expired⟩) ⟨fun other => ?_, sets'.proofs.trans sets.proofs⟩
      show k'.status other = _
      rw [sets'.status, sets.status]
      split <;> rfl
  | final => exact .settled (Or.inl status) rfl
  | challenged =>
    obtain ⟨k', invalidates, sets⟩ :=
      invalidateContribution_runs addresses chain status
    dsimp only
    rw [invalidates]
    exact .invalidated (Or.inr status) sets
  | invalidated => exact .settled (Or.inr status) rfl

variable {proofType : FraudProofType} {challenger : String} {proofData : Bytes}

theorem submitFraudProof_rejected (rejects : ¬ k.Accepts chain contributionID proofType proofData) :
    k.orUnchanged (k.submitFraudProof addresses chain contributionID proofType challenger proofData) = k := by
  unfold submitFraudProof
  split
  · rfl
  rename_i valid
  split
  · rfl
  rename_i fresh
  split
  · rfl
  · rfl
  · rename_i verified
    exact absurd ⟨by simpa using valid, fresh, verified⟩ rejects

theorem submitFraudProof_accepted (addresses : Addresses) (challenger : String)
    (accepts : k.Accepts chain contributionID proofType proofData) :
    k.orUnchanged (k.submitFraudProof addresses chain contributionID proofType challenger proofData) =
      (k.setFraudProof ⟨contributionID, proofType, challenger, proofData, chain.height, true⟩).afterFraudProof
        addresses chain contributionID := by
  obtain ⟨valid, fresh, verified⟩ := accepts
  have none_stored : ¬ (k.getFraudProof contributionID).isSome = true := fresh
  unfold submitFraudProof
  rw [if_neg (by rw [valid]; decide), if_neg none_stored, verified]
  rfl

theorem setFraudProof_soundFor {fp : FraudProof}
    (settled : k.status fp.contributionID = .final ∨ k.status fp.contributionID = .invalidated) (id : Nat) :
    SoundFor k (k.setFraudProof fp) id := by
  refine ⟨Moves.refl _, fun proven fresh unsettled => ?_, fun _ unsettled => unsettled⟩
  obtain rfl | held := (proven_setFraudProof fp id).1 proven
  · exact settled.resolve_left unsettled
  · exact absurd held fresh

theorem submitFraudProof_sound (accepts : k.Accepts chain contributionID proofType proofData) :
    Sound addresses k (.submitFraudProof chain contributionID proofType challenger proofData) ↔
      (k.status contributionID = .pending → k.windowExpired chain contributionID = false) ∧
      (proofType = .invalidQuorum → contributionID ∈ k.reached →
        k.status contributionID = .final ∨ k.status contributionID = .invalidated) := by
  have stored := submitFraudProof_accepted addresses challenger accepts
  have convicted := afterFraudProof_convicted addresses
    (k.setFraudProof ⟨contributionID, proofType, challenger, proofData, chain.height, true⟩) chain contributionID
  rw [Sound, step, stored]
  cases convicted with
  | late pending expired same =>
    change k.status contributionID = .pending at pending
    change k.windowExpired chain contributionID = true at expired
    refine iff_of_false (fun sound => ?_) fun holds => ?_
    · have convicts := (sound.1 contributionID).convicts
      rw [same] at convicts
      have status := convicts ((proven_setFraudProof _ _).2 (Or.inl rfl)) accepts.2.1 (by
        rw [pending]
        decide)
      change k.status contributionID = .invalidated at status
      rw [pending] at status
      cases status
    · rw [holds.1 pending] at expired
      cases expired
  | settled status same =>
    change k.status contributionID = .final ∨ k.status contributionID = .invalidated at status
    refine iff_of_true ⟨fun id => ?_, ?_⟩ ⟨fun pending => ?_, fun _ _ => status⟩
    · rw [same]
      exact setFraudProof_soundFor status id
    · rw [same]
      cases proofType with
      | invalidQuorum => exact fun _ => ⟨fun invalidated => invalidated, rfl⟩
      | _ => trivial
    · rw [pending] at status
      obtain status | status := status <;> cases status
  | invalidated status sets =>
    change k.status contributionID = .pending ∧ k.windowExpired chain contributionID = false ∨
      k.status contributionID = .challenged at status
    have unsettled : ¬ (k.status contributionID = .final ∨ k.status contributionID = .invalidated) := by
      obtain ⟨status, -⟩ | status := status <;> rw [status] <;> decide
    have sound : ∀ id, SoundFor k ((k.setFraudProof ⟨contributionID, proofType, challenger, proofData,
        chain.height, true⟩).afterFraudProof addresses chain contributionID) id := by
      intro id
      have here := sets.status id
      change _ = if contributionID = id then FinalityStatus.invalidated else k.status id at here
      by_cases same : contributionID = id
      · rw [if_pos same] at here
        subst same
        refine ⟨?_, fun _ _ _ => here, fun _ _ => by rw [here]; decide⟩
        rw [here]
        obtain ⟨status, -⟩ | status := status
        · rw [status]
          exact pending_moves_invalidated
        · rw [status]
          exact Edge.invalidate.moves
      · rw [if_neg same] at here
        refine ⟨here ▸ Moves.refl _, fun proven fresh => ?_, fun _ other => by rwa [here]⟩
        obtain named | held := (proven_setFraudProof _ id).1 ((sets.proven id).1 proven)
        · exact absurd named same
        · exact absurd held fresh
    rw [and_iff_right sound, and_iff_right (fun pending => by
      obtain ⟨-, open_window⟩ | challenged := status
      · exact open_window
      · rw [pending] at challenged
        cases challenged)]
    cases proofType with
    | invalidQuorum =>
      constructor
      · intro spares _ reached
        refine Or.inr ((spares reached).1 ?_)
        rw [sets.status, if_pos rfl]
      · exact fun holds reached => absurd (holds rfl reached) unsettled
    | _ => exact iff_of_true trivial fun same => by cases same

end FraudProofs

section Runs

variable {action : Action}

theorem orUnchanged_of {P : FinalityKeeper → Prop} {result : Except FinalityError FinalityKeeper}
    (unchanged : P k) (changed : ∀ k', result = .ok k' → P k') : P (k.orUnchanged result) := by
  cases result with
  | error _ => exact unchanged
  | ok k' => exact changed k' rfl

theorem sound_iff_meets (settled : k.Settled) (action : Action) : Sound addresses k action ↔ Meets k action := by
  cases action with
  | addEndorsement chain id endorsement =>
    refine iff_of_true ⟨?_, trivial⟩ trivial
    exact orUnchanged_of (P := fun k' => ∀ id, SoundFor k k' id) (SoundFor.refl k)
      fun k' ran => (addEndorsement_same ran).soundFor
  | openChallengeWindow chain id =>
    show _ ∧ True ↔ k.status id = .pending
    rw [and_true]
    exact (openChallengeWindow_sets.soundFor_iff fun _ _ _ => by decide).trans moves_pending
  | challengeContribution chain id challengeID =>
    refine iff_of_true ⟨?_, trivial⟩ trivial
    refine orUnchanged_of (P := fun k' => ∀ id, SoundFor k k' id) (SoundFor.refl k) fun k' ran => ?_
    obtain ⟨pending, sets⟩ := challengeContribution_ok ran
    exact sets.soundFor (by rw [pending]; exact Edge.challenge.moves) fun _ _ => by decide
  | submitFraudProof chain id proofType challenger proofData =>
    by_cases accepts : k.Accepts chain id proofType proofData
    · rw [submitFraudProof_sound accepts]
      exact ⟨fun holds _ => holds, fun holds => holds accepts⟩
    · refine iff_of_true ?_ fun accepted => absurd accepted accepts
      rw [Sound, step, submitFraudProof_rejected accepts]
      refine ⟨SoundFor.refl k, ?_⟩
      cases proofType with
      | invalidQuorum => exact fun _ => ⟨fun invalidated => invalidated, rfl⟩
      | _ => trivial
  | tryFinalizeContribution chain id =>
    refine iff_of_true ⟨?_, trivial⟩ trivial
    refine orUnchanged_of (P := fun k' => ∀ id, SoundFor k k' id) (SoundFor.refl k) fun k' ran => ?_
    obtain ⟨pending, unproven, sets⟩ := tryFinalizeContribution_ok ran
    exact sets.soundFor (by rw [pending]; exact Edge.finalize.moves) fun proven => absurd proven unproven
  | resolveChallengeInvalid chain id =>
    refine iff_of_true ⟨?_, trivial⟩ trivial
    refine orUnchanged_of (P := fun k' => ∀ id, SoundFor k k' id) (SoundFor.refl k) fun k' ran => ?_
    obtain ⟨challenged, unproven, sets⟩ := resolveChallengeInvalid_ok ran
    exact sets.soundFor (by rw [challenged]; exact Edge.dismiss.moves) fun proven => absurd proven unproven
  | finalizeContribution chain id =>
    show _ ∧ True ↔ k.status id ≠ .invalidated
    rw [and_true]
    refine (finalizeContribution_sets.soundFor_iff fun proven unsettled moves => ?_).trans moves_final
    exact absurd ((settled id proven).resolve_left unsettled) (moves_final.1 moves)

theorem step_settled (settled : k.Settled) (sound : Sound addresses k action) :
    (step addresses k action).Settled := by
  intro id proven
  obtain ⟨moves, convicts, lasts⟩ := sound.1 id
  by_cases before : k.Proven id
  · obtain final | invalidated := settled id before
    · rw [final] at moves
      exact Or.inl moves.of_final
    · rw [invalidated] at moves
      exact Or.inr moves.of_invalidated
  · by_cases final : k.status id = .final
    · rw [final] at moves
      exact Or.inl moves.of_final
    · exact Or.inr (convicts proven before final)

def start (params : FinalityParams) (contributions : KeyedMap Contribution.id) (credits : String → Int)
    (frozenCredits : String → FrozenCredits) : FinalityKeeper where
  params := params
  contributions := contributions
  finalities := KeyedMap.empty
  challengeWindows := KeyedMap.empty
  fraudProofs := KeyedMap.empty
  credits := credits
  frozenCredits := frozenCredits
  slashed := []
  reached := []

theorem start_settled {params : FinalityParams} {contributions : KeyedMap Contribution.id}
    {credits : String → Int} {frozenCredits : String → FrozenCredits} :
    (start params contributions credits frozenCredits).Settled := by
  intro id proven
  rw [Proven, getFraudProof, start, KeyedMap.get?_empty] at proven
  cases proven

/-- A run keeps to the documented moves, convicts by its fraud proofs and spares the quorums that were reached
just when all its steps meet their conditions. -/
theorem sound_run_iff (addresses : Addresses) (params : FinalityParams)
    (contributions : KeyedMap Contribution.id) (credits : String → Int)
    (frozenCredits : String → FrozenCredits) (run : List Action) :
    Run.Along (step addresses) (Sound addresses) (start params contributions credits frozenCredits) run ↔
      Run.Along (step addresses) Meets (start params contributions credits frozenCredits) run := by
  have same : ∀ k action, Settled k → (Sound addresses k action ↔ Meets k action) :=
    fun _ action settled => sound_iff_meets settled action
  have preserved : ∀ k action, Settled k → Sound addresses k action → (step addresses k action).Settled :=
    fun _ _ settled sound => step_settled settled sound
  exact Run.along_congr same preserved start_settled run

section LateProof

def plainAddresses : Addresses := ⟨some, some, id⟩

def quietChain (height : Int) : Chain where
  height := height
  time := 0
  totalBondedTokens := some 4
  validatorTokens := fun _ => some 3
  claimNonce := fun _ => 0
  porWired := false
  batchFor := fun _ => 0
  batchFinalized := fun _ => false
  batchRejected := fun _ => false
  slashingWired := true
  slashes := fun _ => true

def hashless : Contribution := ⟨1, "contributor", "code", [], [], false⟩

def hashlessStart : FinalityKeeper :=
  start ⟨670000000000000000, 10, []⟩ (KeyedMap.empty.insert hashless) (fun _ => 0) (fun a => ⟨a, 0, 0⟩)

def lateRun : List Action :=
  [.openChallengeWindow (quietChain 1) 1, .submitFraudProof (quietChain 102) 1 .hashMismatch "challenger" [0]]

def grownRun : List Action :=
  [.addEndorsement (quietChain 1) 1 ⟨"validator", true, 0, 0⟩, .openChallengeWindow (quietChain 2) 1,
    .submitFraudProof { quietChain 3 with totalBondedTokens := some 100 } 1 .invalidQuorum "challenger" []]

/-- A proof after the window is stored and convicts nobody; and the stake of a later day judges a quorum that
was reached. -/
theorem late_proof_convicts_nobody :
    ¬ Run.Along (step plainAddresses) (Sound plainAddresses) hashlessStart lateRun ∧
      (lateRun.foldl (step plainAddresses) hashlessStart).status 1 = .pending ∧
      ((lateRun.foldl (step plainAddresses) hashlessStart).getFraudProof 1).isSome = true ∧
      (grownRun.foldl (step plainAddresses) hashlessStart).reached = [1] ∧
      (grownRun.foldl (step plainAddresses) hashlessStart).status 1 = .invalidated ∧
      (grownRun.foldl (step plainAddresses) hashlessStart).slashed = [(1, "validator")] := by
  refine ⟨fun along => ?_, by decide +kernel, by decide +kernel, by decide +kernel, by decide +kernel,
    by decide +kernel⟩
  have convicts := (along.2.1.1 1).convicts (by
    show Option.isSome _ = true
    decide +kernel) (by
    show ¬ Option.isSome _ = true
    decide +kernel) (by decide +kernel)
  exact absurd convicts (by decide +kernel)

end LateProof

end Runs

end FinalityKeeper

end Omniphi.Poc
