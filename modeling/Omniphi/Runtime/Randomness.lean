import Omniphi.Encoding
import Omniphi.Lib.Footprint
import Omniphi.Lib.Ranking

/-! The randomness of an epoch: what validators commit and reveal, the aggregation with its cache, and the
draws. The cache never shows, and once commitments are in only withholding moves the seed. -/

namespace Omniphi.Runtime.Randomness

open Footprint PrefixCode

structure ValidatorCommitment where
  validatorId : Bytes32
  commitment : Bytes32
  reveal : Option Bytes32
  epoch : U64
deriving DecidableEq

namespace ValidatorCommitment

def preimage (reveal validatorId : Bytes32) (epoch : U64) : Bytes :=
  strBytes "OMNIPHI_VALIDATOR_COMMIT_V1" ++ beBytes 32 reveal ++ beBytes 32 validatorId ++ beBytes 8 epoch

def computeCommitment (sha256 : Sha256) (reveal validatorId : Bytes32) (epoch : U64) : Bytes32 :=
  sha256 (preimage reveal validatorId epoch)

def create (sha256 : Sha256) (validatorId reveal : Bytes32) (epoch : U64) : ValidatorCommitment :=
  { validatorId, commitment := computeCommitment sha256 reveal validatorId epoch, reveal := none, epoch }

def verifyReveal (sha256 : Sha256) (c : ValidatorCommitment) (reveal : Bytes32) : Bool :=
  computeCommitment sha256 reveal c.validatorId c.epoch == c.commitment

def acceptReveal (sha256 : Sha256) (c : ValidatorCommitment) (reveal : Bytes32) :
    Except String ValidatorCommitment :=
  if c.reveal.isSome then .error "already revealed"
  else if !c.verifyReveal sha256 reveal then .error "reveal does not match commitment"
  else .ok { c with reveal := some reveal }

/-- What aggregation takes from the validator: the reveal, or the penalty for withholding it. -/
def contribution (sha256 : Sha256) (epoch : U64) (c : ValidatorCommitment) : Bytes32 :=
  match c.reveal with
  | some reveal => reveal
  | none => sha256 (strBytes "OMNIPHI_WITHHOLD_PENALTY" ++ beBytes 32 c.commitment ++ beBytes 8 epoch)

end ValidatorCommitment

structure EpochEntropy where
  epoch : U64
  seed : Bytes32
  sourceCount : Nat
  hasValidatorCommits : Bool
  withheldCount : Nat
deriving DecidableEq

structure EntropyEngine where
  epochSeeds : BTreeMap U64 Bytes32
  validatorCommits : BTreeMap U64 (List ValidatorCommitment)
  intentCommits : BTreeMap U64 (List Bytes32)
  cachedEntropy : BTreeMap U64 EpochEntropy

/-- What was collected for one epoch. No entry and an empty one are aggregated alike. -/
structure Record where
  seed : Option Bytes32
  commits : List ValidatorCommitment
  intents : List Bytes32

abbrev byValidator : ValidatorCommitment → ValidatorCommitment → Ordering :=
  compareOn ValidatorCommitment.validatorId

def Record.aggregated (r : Record) (sha256 : Sha256) (epoch : U64) : Bytes :=
  strBytes "OMNIPHI_ENTROPY_AGG_V1" ++ beBytes 8 epoch ++ r.seed.toList.flatMap (beBytes 32) ++
    (Ranking.sort byValidator r.commits).flatMap (fun c =>
      beBytes 32 c.validatorId ++ beBytes 32 (c.contribution sha256 epoch)) ++
    (Ranking.sort compare r.intents).flatMap (beBytes 32)

def Record.entropy (r : Record) (sha256 : Sha256) (epoch : U64) : EpochEntropy :=
  { epoch
    seed := sha256 (r.aggregated sha256 epoch)
    sourceCount := r.seed.toList.length + r.commits.length + (if r.intents.isEmpty then 0 else 1)
    hasValidatorCommits := !r.commits.isEmpty
    withheldCount := r.commits.countP fun c => c.reveal.isNone }

namespace EntropyEngine

def new : EntropyEngine := ⟨∅, ∅, ∅, ∅⟩

def record (engine : EntropyEngine) (epoch : U64) : Record :=
  { seed := engine.epochSeeds[epoch]?
    commits := engine.validatorCommits[epoch]?.getD []
    intents := engine.intentCommits[epoch]?.getD [] }

def setEpochSeed (engine : EntropyEngine) (epoch : U64) (seed : Bytes32) : EntropyEngine :=
  { engine with
    epochSeeds := engine.epochSeeds.insert epoch seed
    cachedEntropy := engine.cachedEntropy.erase epoch }

def addValidatorCommitment (engine : EntropyEngine) (commit : ValidatorCommitment) :
    Except String EntropyEngine :=
  if commit.validatorId = 0 then .error "validator_id must be non-zero"
  else if commit.commitment = 0 then .error "commitment must be non-zero"
  else
    let commits := engine.validatorCommits[commit.epoch]?.getD []
    -- A duplicate is found in an entry that was there before.
    if commits.any fun c => c.validatorId = commit.validatorId then
      .error "duplicate commitment from same validator"
    else .ok { engine with
      validatorCommits := engine.validatorCommits.insert commit.epoch (commits ++ [commit])
      cachedEntropy := engine.cachedEntropy.erase commit.epoch }

/-- The first commitment of the validator takes the reveal. -/
def revealIn (sha256 : Sha256) (validatorId reveal : Bytes32) :
    List ValidatorCommitment → Except String (List ValidatorCommitment)
  | [] => .error "validator commitment not found"
  | c :: rest =>
      if c.validatorId = validatorId then (c.acceptReveal sha256 reveal).map (· :: rest)
      else (revealIn sha256 validatorId reveal rest).map (c :: ·)

def revealValidatorCommitment (sha256 : Sha256) (engine : EntropyEngine) (epoch : U64)
    (validatorId reveal : Bytes32) : Except String EntropyEngine :=
  match engine.validatorCommits[epoch]? with
  | none => .error "no commitments for this epoch"
  | some commits =>
      (revealIn sha256 validatorId reveal commits).map fun commits =>
        { engine with
          validatorCommits := engine.validatorCommits.insert epoch commits
          cachedEntropy := engine.cachedEntropy.erase epoch }

def addIntentCommits (engine : EntropyEngine) (epoch : U64) (commits : List Bytes32) : EntropyEngine :=
  { engine with
    intentCommits := engine.intentCommits.insert epoch (engine.intentCommits[epoch]?.getD [] ++ commits)
    cachedEntropy := engine.cachedEntropy.erase epoch }

def aggregate (sha256 : Sha256) (engine : EntropyEngine) (epoch : U64) : EpochEntropy × EntropyEngine :=
  match engine.cachedEntropy[epoch]? with
  | some cached => (cached, engine)
  | none =>
      let entropy := (engine.record epoch).entropy sha256 epoch
      (entropy, { engine with cachedEntropy := engine.cachedEntropy.insert epoch entropy })

def prune (engine : EntropyEngine) (beforeEpoch : U64) : EntropyEngine :=
  { epochSeeds := engine.epochSeeds.filter fun e _ => beforeEpoch ≤ e
    validatorCommits := engine.validatorCommits.filter fun e _ => beforeEpoch ≤ e
    intentCommits := engine.intentCommits.filter fun e _ => beforeEpoch ≤ e
    cachedEntropy := engine.cachedEntropy.filter fun e _ => beforeEpoch ≤ e }

end EntropyEngine

inductive Call
  | setEpochSeed (epoch : U64) (seed : Bytes32)
  | addValidatorCommitment (commit : ValidatorCommitment)
  | revealValidatorCommitment (epoch : U64) (validatorId reveal : Bytes32)
  | addIntentCommits (epoch : U64) (commits : List Bytes32)
  | aggregate (epoch : U64)
  | prune (beforeEpoch : U64)
deriving DecidableEq

/-- A call that fails leaves the engine as it was. -/
def step (sha256 : Sha256) (engine : EntropyEngine) : Call → EntropyEngine
  | .setEpochSeed epoch seed => engine.setEpochSeed epoch seed
  | .addValidatorCommitment commit => (engine.addValidatorCommitment commit).toOption.getD engine
  | .revealValidatorCommitment epoch validatorId reveal =>
      (engine.revealValidatorCommitment sha256 epoch validatorId reveal).toOption.getD engine
  | .addIntentCommits epoch commits => engine.addIntentCommits epoch commits
  | .aggregate epoch => (engine.aggregate sha256 epoch).2
  | .prune beforeEpoch => engine.prune beforeEpoch

def run (sha256 : Sha256) (calls : List Call) : EntropyEngine :=
  calls.foldl (step sha256) .new

section Draws

structure RandomnessRequest where
  domain : String
  epoch : U64
  index : U64
  targetId : Option Bytes32
deriving DecidableEq

def drawn (entropy : EpochEntropy) (request : RandomnessRequest) : Bytes :=
  strBytes "OMNIPHI_RAND_V1" ++ beBytes 32 entropy.seed ++ strBytes request.domain ++
    beBytes 8 request.epoch ++ beBytes 8 request.index ++ request.targetId.toList.flatMap (beBytes 32)

def deriveRandomness (sha256 : Sha256) (entropy : EpochEntropy) (request : RandomnessRequest) : Bytes32 :=
  sha256 (drawn entropy request)

/-- The first eight bytes. -/
def deriveU64 (sha256 : Sha256) (entropy : EpochEntropy) (request : RandomnessRequest) : U64 :=
  (deriveRandomness sha256 entropy request).extractLsb' 192 64

def deriveBounded (sha256 : Sha256) (entropy : EpochEntropy) (request : RandomnessRequest) (max : U64) : U64 :=
  if max = 0 then 0 else deriveU64 sha256 entropy request % max

end Draws

section Plain

variable {sha256 : Sha256} {engine : EntropyEngine} {r r' : Record} {epoch : U64}
variable {commits : List ValidatorCommitment}

/-- The commitment once its validator, as it says, has sent the reveal. -/
def ValidatorCommitment.told (sha256 : Sha256) (validatorId reveal : Bytes32) (c : ValidatorCommitment) :
    ValidatorCommitment :=
  if c.validatorId = validatorId ∧ c.reveal = none ∧ c.verifyReveal sha256 reveal then
    { c with reveal := some reveal }
  else c

def Record.empty : Record := ⟨none, [], []⟩

def seedAfter (epoch : U64) (seed : Option Bytes32) : Call → Option Bytes32
  | .setEpochSeed e new => if e = epoch then some new else seed
  | .prune beforeEpoch => if epoch < beforeEpoch then none else seed
  | _ => seed

def Admits (commits : List ValidatorCommitment) (c : ValidatorCommitment) : Prop :=
  c.validatorId ≠ 0 ∧ c.commitment ≠ 0 ∧ c.validatorId ∉ commits.map ValidatorCommitment.validatorId

instance (commits : List ValidatorCommitment) (c : ValidatorCommitment) : Decidable (Admits commits c) := by
  unfold Admits
  infer_instance

def commitsAfter (sha256 : Sha256) (epoch : U64) (commits : List ValidatorCommitment) :
    Call → List ValidatorCommitment
  | .addValidatorCommitment c => if c.epoch = epoch ∧ Admits commits c then commits ++ [c] else commits
  | .revealValidatorCommitment e validatorId reveal =>
      if e = epoch then commits.map (·.told sha256 validatorId reveal) else commits
  | .prune beforeEpoch => if epoch < beforeEpoch then [] else commits
  | _ => commits

def intentsAfter (epoch : U64) (intents : List Bytes32) : Call → List Bytes32
  | .addIntentCommits e commits => if e = epoch then intents ++ commits else intents
  | .prune beforeEpoch => if epoch < beforeEpoch then [] else intents
  | _ => intents

/-- What a call does to the record of one epoch, where no cache is kept. -/
def effect (sha256 : Sha256) (epoch : U64) (r : Record) (call : Call) : Record :=
  { seed := seedAfter epoch r.seed call
    commits := commitsAfter sha256 epoch r.commits call
    intents := intentsAfter epoch r.intents call }

/-- One commitment for each validator, kept under its epoch. -/
structure Filed (epoch : U64) (commits : List ValidatorCommitment) : Prop where
  distinct : (commits.map ValidatorCommitment.validatorId).Nodup
  filed : ∀ c ∈ commits, c.epoch = epoch

structure EntropyEngine.Sound (sha256 : Sha256) (engine : EntropyEngine) : Prop where
  commits : ∀ epoch, Filed epoch (engine.record epoch).commits
  cached : ∀ epoch entropy, engine.cachedEntropy[epoch]? = some entropy →
    entropy = (engine.record epoch).entropy sha256 epoch

@[simp] theorem told_validatorId (validatorId reveal : Bytes32) (c : ValidatorCommitment) :
    (c.told sha256 validatorId reveal).validatorId = c.validatorId := by
  unfold ValidatorCommitment.told
  split <;> rfl

@[simp] theorem told_epoch (validatorId reveal : Bytes32) (c : ValidatorCommitment) :
    (c.told sha256 validatorId reveal).epoch = c.epoch := by
  unfold ValidatorCommitment.told
  split <;> rfl

theorem told_other {validatorId reveal : Bytes32} {c : ValidatorCommitment}
    (other : c.validatorId ≠ validatorId) : c.told sha256 validatorId reveal = c :=
  if_neg fun all => other all.1

@[simp] theorem map_told_validatorId (validatorId reveal : Bytes32) (commits : List ValidatorCommitment) :
    (commits.map (·.told sha256 validatorId reveal)).map ValidatorCommitment.validatorId =
      commits.map ValidatorCommitment.validatorId := by
  rw [List.map_map]
  apply List.map_congr_left
  intro c _
  exact told_validatorId validatorId reveal c

theorem filed_nil : Filed epoch [] := ⟨List.nodup_nil, fun _ member => by cases member⟩

theorem Filed.after (sound : Filed epoch commits) (call : Call) :
    Filed epoch (commitsAfter sha256 epoch commits call) := by
  cases call with
  | addValidatorCommitment c =>
      rw [commitsAfter]
      split
      · rename_i fits
        obtain ⟨here, _, _, fresh⟩ := fits
        refine ⟨?_, ?_⟩
        · rw [List.map_append]
          exact List.nodup_append'.2 ⟨sound.distinct, List.nodup_singleton _, by simpa using fresh⟩
        · intro d member
          rcases List.mem_append.1 member with old | new
          · exact sound.filed d old
          · rw [List.mem_singleton.1 new]
            exact here
      · exact sound
  | revealValidatorCommitment e validatorId reveal =>
      rw [commitsAfter]
      split
      · refine ⟨by rw [map_told_validatorId]; exact sound.distinct, ?_⟩
        intro d member
        obtain ⟨c, held, rfl⟩ := List.mem_map.1 member
        rw [told_epoch]
        exact sound.filed c held
      · exact sound
  | prune beforeEpoch =>
      rw [commitsAfter]
      split
      · exact filed_nil
      · exact sound
  | setEpochSeed | addIntentCommits | aggregate => exact sound

theorem acceptReveal_getD (validatorId reveal : Bytes32) {c : ValidatorCommitment}
    (same : c.validatorId = validatorId) :
    (c.acceptReveal sha256 reveal).toOption.getD c = c.told sha256 validatorId reveal := by
  unfold ValidatorCommitment.acceptReveal ValidatorCommitment.told
  cases shown : c.reveal with
  | some x => simp [Except.toOption]
  | none => cases matched : c.verifyReveal sha256 reveal <;> simp [Except.toOption, same]

theorem revealIn_getD (sha256 : Sha256) (validatorId reveal : Bytes32)
    (distinct : (commits.map ValidatorCommitment.validatorId).Nodup) :
    (EntropyEngine.revealIn sha256 validatorId reveal commits).toOption.getD commits =
      commits.map (·.told sha256 validatorId reveal) := by
  induction commits with
  | nil => rfl
  | cons c rest ih =>
      obtain ⟨fresh, distinct⟩ := List.nodup_cons.1 distinct
      unfold EntropyEngine.revealIn
      by_cases same : c.validatorId = validatorId
      · have others : rest.map (·.told sha256 validatorId reveal) = rest := by
          conv_rhs => rw [← List.map_id rest]
          apply List.map_congr_left
          intro d member
          apply told_other
          intro clash
          exact fresh (List.mem_map.2 ⟨d, member, clash.trans same.symm⟩)
        rw [if_pos same, List.map_cons, others, ← acceptReveal_getD validatorId reveal same]
        cases c.acceptReveal sha256 reveal <;> rfl
      · rw [if_neg same, List.map_cons, told_other same, ← ih distinct]
        cases EntropyEngine.revealIn sha256 validatorId reveal rest <;> rfl

/-- The engine with these commitments for the epoch, whose entropy is no longer cached. -/
def EntropyEngine.refiled (engine : EntropyEngine) (epoch : U64) (commits : List ValidatorCommitment) :
    EntropyEngine :=
  { engine with
    validatorCommits := engine.validatorCommits.insert epoch commits
    cachedEntropy := engine.cachedEntropy.erase epoch }

theorem record_refiled (engine : EntropyEngine) (e epoch : U64) (commits : List ValidatorCommitment) :
    (engine.refiled e commits).record epoch =
      if e = epoch then { engine.record epoch with commits := commits } else engine.record epoch := by
  simp only [EntropyEngine.refiled, EntropyEngine.record, BTree.getElem?_insert]
  split <;> rfl

theorem step_add (engine : EntropyEngine) (c : ValidatorCommitment) :
    step sha256 engine (.addValidatorCommitment c) =
      if Admits (engine.record c.epoch).commits c then
        engine.refiled c.epoch ((engine.record c.epoch).commits ++ [c])
      else engine := by
  have known : ((engine.validatorCommits[c.epoch]?.getD []).any fun d => d.validatorId = c.validatorId) = true ↔
      c.validatorId ∈ (engine.record c.epoch).commits.map ValidatorCommitment.validatorId := by
    simp only [List.any_eq_true, List.mem_map, decide_eq_true_eq]
    rfl
  simp only [step, EntropyEngine.addValidatorCommitment]
  by_cases named : c.validatorId = 0
  · rw [if_pos named, if_neg fun all : Admits _ c => all.1 named]
    rfl
  by_cases committed : c.commitment = 0
  · rw [if_neg named, if_pos committed, if_neg fun all : Admits _ c => all.2.1 committed]
    rfl
  by_cases twice : c.validatorId ∈ (engine.record c.epoch).commits.map ValidatorCommitment.validatorId
  · rw [if_neg named, if_neg committed, if_neg fun all : Admits _ c => all.2.2 twice]
    simp only [if_pos (known.2 twice)]
    rfl
  · rw [if_neg named, if_neg committed, if_pos (show Admits _ c from ⟨named, committed, twice⟩)]
    simp only [if_neg fun found => twice (known.1 found)]
    rfl

theorem step_reveal (filed : Filed epoch (engine.record epoch).commits) (validatorId reveal : Bytes32) :
    step sha256 engine (.revealValidatorCommitment epoch validatorId reveal) =
        engine.refiled epoch ((engine.record epoch).commits.map (·.told sha256 validatorId reveal)) ∨
      step sha256 engine (.revealValidatorCommitment epoch validatorId reveal) = engine ∧
        (engine.record epoch).commits.map (·.told sha256 validatorId reveal) =
          (engine.record epoch).commits := by
  have after := revealIn_getD sha256 validatorId reveal filed.distinct
  simp only [step, EntropyEngine.revealValidatorCommitment]
  cases held : engine.validatorCommits[epoch]? with
  | none =>
      have empty : (engine.record epoch).commits = [] := by
        simp only [EntropyEngine.record, held, Option.getD_none]
      exact .inr ⟨rfl, by rw [empty, List.map_nil]⟩
  | some commits =>
      have listed : (engine.record epoch).commits = commits := by
        simp only [EntropyEngine.record, held, Option.getD_some]
      rw [listed] at after ⊢
      rw [← after]
      dsimp only
      cases EntropyEngine.revealIn sha256 validatorId reveal commits with
      | ok commits => exact .inl rfl
      | error failure => exact .inr ⟨rfl, rfl⟩

theorem getElem?_kept {ν : Type} (m : BTreeMap U64 ν) (beforeEpoch epoch : U64) :
    (m.filter fun e _ => beforeEpoch ≤ e)[epoch]? = if epoch < beforeEpoch then none else m[epoch]? := by
  rw [Std.ExtTreeMap.getElem?_filter']
  split
  · have gone : ¬ beforeEpoch ≤ epoch := by bv_omega
    cases m[epoch]? <;> simp [Option.filter, gone]
  · have kept : beforeEpoch ≤ epoch := by bv_omega
    cases m[epoch]? <;> simp [Option.filter, kept]

theorem record_step (sound : engine.Sound sha256) (call : Call) (epoch : U64) :
    (step sha256 engine call).record epoch = effect sha256 epoch (engine.record epoch) call := by
  cases call with
  | setEpochSeed e seed =>
      simp only [step, effect, EntropyEngine.setEpochSeed, EntropyEngine.record, BTree.getElem?_insert]
      rfl
  | addValidatorCommitment c =>
      simp only [step_add, effect, commitsAfter]
      by_cases here : c.epoch = epoch
      · subst here
        by_cases fits : Admits (engine.record c.epoch).commits c
        · rw [if_pos fits, record_refiled, if_pos rfl, if_pos ⟨rfl, fits⟩]
          rfl
        · rw [if_neg fits, if_neg fun all => fits all.2]
          rfl
      · have apart : ¬ (c.epoch = epoch ∧ Admits (engine.record epoch).commits c) := fun all => here all.1
        rw [if_neg apart]
        split
        · rw [record_refiled, if_neg here]
          rfl
        · rfl
  | revealValidatorCommitment e validatorId reveal =>
      simp only [effect, commitsAfter]
      rcases step_reveal (sound.commits e) validatorId reveal with done | ⟨refused, same⟩
      · rw [done, record_refiled]
        split
        · rename_i here
          subst here
          rfl
        · rfl
      · rw [refused]
        split
        · rename_i here
          subst here
          rw [same]
          rfl
        · rfl
  | addIntentCommits e commits =>
      simp only [step, effect, EntropyEngine.addIntentCommits, EntropyEngine.record, BTree.getElem?_insert,
        intentsAfter]
      split
      · rename_i same
        rw [same, Option.getD_some]
        rfl
      · rfl
  | aggregate e =>
      simp only [step, EntropyEngine.aggregate]
      split <;> rfl
  | prune beforeEpoch =>
      simp only [step, effect, EntropyEngine.prune, EntropyEngine.record, getElem?_kept, seedAfter,
        commitsAfter, intentsAfter]
      split <;> rfl

theorem effect_other {e epoch : U64} (other : e ≠ epoch) (r : Record) :
    (∀ seed, effect sha256 epoch r (.setEpochSeed e seed) = r) ∧
      ∀ commits, effect sha256 epoch r (.addIntentCommits e commits) = r := by
  constructor <;> intro _ <;> simp [effect, seedAfter, commitsAfter, intentsAfter, other]

theorem cached_of_erased {after : EntropyEngine} {e : U64} (sound : engine.Sound sha256)
    (erased : after.cachedEntropy = engine.cachedEntropy.erase e)
    (others : ∀ epoch, e ≠ epoch → after.record epoch = engine.record epoch) {epoch : U64}
    {entropy : EpochEntropy} (cached : after.cachedEntropy[epoch]? = some entropy) :
    entropy = (after.record epoch).entropy sha256 epoch := by
  rw [erased, BTree.getElem?_erase] at cached
  by_cases here : e = epoch
  · rw [if_pos here] at cached
    cases cached
  · rw [if_neg here] at cached
    rw [others epoch here]
    exact sound.cached epoch entropy cached

theorem sound_step (sound : engine.Sound sha256) (call : Call) : (step sha256 engine call).Sound sha256 := by
  refine ⟨?_, ?_⟩
  · intro epoch
    rw [record_step sound]
    exact (sound.commits epoch).after call
  · intro epoch entropy
    cases call with
    | setEpochSeed e seed =>
        exact cached_of_erased sound rfl fun epoch other => by rw [record_step sound, (effect_other other _).1]
    | addValidatorCommitment c =>
        rw [step_add]
        split
        · exact cached_of_erased sound rfl fun epoch other => by rw [record_refiled, if_neg other]
        · exact sound.cached epoch entropy
    | revealValidatorCommitment e validatorId reveal =>
        rcases step_reveal (sound.commits e) validatorId reveal with done | ⟨refused, -⟩
        · rw [done]
          exact cached_of_erased sound rfl fun epoch other => by rw [record_refiled, if_neg other]
        · rw [refused]
          exact sound.cached epoch entropy
    | addIntentCommits e commits =>
        exact cached_of_erased sound rfl fun epoch other => by rw [record_step sound, (effect_other other _).2]
    | aggregate e =>
        intro cached
        rw [record_step sound]
        show entropy = (engine.record epoch).entropy sha256 epoch
        simp only [step, EntropyEngine.aggregate] at cached
        cases held : engine.cachedEntropy[e]? with
        | some _ =>
            rw [held] at cached
            exact sound.cached epoch entropy cached
        | none =>
            rw [held] at cached
            simp only [BTree.getElem?_insert] at cached
            split at cached
            · rename_i here
              rw [← here, Option.some.inj cached]
            · exact sound.cached epoch entropy cached
    | prune beforeEpoch =>
        intro cached
        rw [record_step sound]
        simp only [step, EntropyEngine.prune, getElem?_kept] at cached
        by_cases old : epoch < beforeEpoch
        · rw [if_pos old] at cached
          cases cached
        · rw [if_neg old] at cached
          simp only [effect, seedAfter, commitsAfter, intentsAfter, if_neg old]
          exact sound.cached epoch entropy cached

end Plain

section Runs

variable {sha256 : Sha256} {engine : EntropyEngine} {epoch : U64}

theorem sound_new : EntropyEngine.new.Sound sha256 where
  commits _ := filed_nil
  cached _ _ cached := by simp [EntropyEngine.new] at cached

theorem sound_foldl (sound : engine.Sound sha256) (calls : List Call) :
    (calls.foldl (step sha256) engine).Sound sha256 := by
  have keeps (call : Call) (_ : call ∈ calls) (engine : EntropyEngine) (sound : engine.Sound sha256) :
      (step sha256 engine call).Sound sha256 := sound_step sound call
  exact foldl_keeps keeps sound

theorem record_foldl (sound : engine.Sound sha256) (calls : List Call) (epoch : U64) :
    (calls.foldl (step sha256) engine).record epoch =
      calls.foldl (effect sha256 epoch) (engine.record epoch) := by
  induction calls generalizing engine with
  | nil => rfl
  | cons call calls ih =>
      rw [List.foldl_cons, List.foldl_cons, ih (sound_step sound call), record_step sound]

theorem aggregate_eq (sound : engine.Sound sha256) (epoch : U64) :
    (engine.aggregate sha256 epoch).1 = (engine.record epoch).entropy sha256 epoch := by
  unfold EntropyEngine.aggregate
  cases held : engine.cachedEntropy[epoch]? with
  | some cached => exact sound.cached epoch cached held
  | none => rfl

theorem sound_run (sha256 : Sha256) (calls : List Call) : (run sha256 calls).Sound sha256 :=
  sound_foldl sound_new calls

/-- The cache and the other epochs never show: what is answered after a run is computed afresh from
what the calls did to the epoch's own record. -/
theorem aggregate_run (sha256 : Sha256) (calls : List Call) (epoch : U64) :
    ((run sha256 calls).aggregate sha256 epoch).1 =
      (calls.foldl (effect sha256 epoch) .empty).entropy sha256 epoch := by
  rw [aggregate_eq (sound_run sha256 calls), run, record_foldl sound_new]
  rfl

end Runs

section Order

variable {sha256 : Sha256} {epoch : U64} {commits commits' : List ValidatorCommitment} {a b : Call}
variable {r r' : Record}

/-- Two calls whose order can matter. -/
def Clash : Call → Call → Prop
  | .setEpochSeed e _, .setEpochSeed e' _ => e = e'
  | .addValidatorCommitment c, .addValidatorCommitment c' => c.epoch = c'.epoch ∧ c.validatorId = c'.validatorId
  | .addValidatorCommitment c, .revealValidatorCommitment e validatorId _ =>
      c.epoch = e ∧ c.validatorId = validatorId
  | .revealValidatorCommitment e validatorId _, .addValidatorCommitment c =>
      c.epoch = e ∧ c.validatorId = validatorId
  | .revealValidatorCommitment e validatorId _, .revealValidatorCommitment e' validatorId' _ =>
      e = e' ∧ validatorId = validatorId'
  | .prune beforeEpoch, .setEpochSeed e _ => e < beforeEpoch
  | .setEpochSeed e _, .prune beforeEpoch => e < beforeEpoch
  | .prune beforeEpoch, .addValidatorCommitment c => c.epoch < beforeEpoch
  | .addValidatorCommitment c, .prune beforeEpoch => c.epoch < beforeEpoch
  | .prune beforeEpoch, .addIntentCommits e _ => e < beforeEpoch
  | .addIntentCommits e _, .prune beforeEpoch => e < beforeEpoch
  | _, _ => False

def Independent (a b : Call) : Prop := ¬ Clash a b

/-- Equal but for the order in which commitments and intents came. -/
structure Alike (r r' : Record) : Prop where
  seed : r.seed = r'.seed
  commits : r.commits.Perm r'.commits
  intents : r.intents.Perm r'.intents

theorem alike_equivalence : Equivalence Alike where
  refl _ := ⟨rfl, List.Perm.refl _, List.Perm.refl _⟩
  symm same := ⟨same.seed.symm, same.commits.symm, same.intents.symm⟩
  trans first second :=
    ⟨first.seed.trans second.seed, first.commits.trans second.commits, first.intents.trans second.intents⟩

theorem admits_perm (perm : commits.Perm commits') (c : ValidatorCommitment) :
    Admits commits c ↔ Admits commits' c := by
  simp only [Admits, (perm.map ValidatorCommitment.validatorId).mem_iff]

theorem admits_append {c d : ValidatorCommitment} (apart : c.validatorId ≠ d.validatorId) :
    Admits (commits ++ [d]) c ↔ Admits commits c := by
  simp [Admits, apart]

theorem admits_told (validatorId reveal : Bytes32) (c : ValidatorCommitment) :
    Admits (commits.map (·.told sha256 validatorId reveal)) c ↔ Admits commits c := by
  simp only [Admits, map_told_validatorId]

theorem alike_effect (same : Alike r r') (call : Call) :
    Alike (effect sha256 epoch r call) (effect sha256 epoch r' call) := by
  obtain ⟨seed, commits, intents⟩ := same
  refine ⟨?_, ?_, ?_⟩
  · simp only [effect, seed]
  · cases call with
    | addValidatorCommitment c =>
        simp only [effect, commitsAfter, admits_perm commits c]
        split
        · exact commits.append_right [c]
        · exact commits
    | revealValidatorCommitment e validatorId reveal =>
        simp only [effect, commitsAfter]
        split
        · exact commits.map _
        · exact commits
    | prune beforeEpoch =>
        simp only [effect, commitsAfter]
        split
        · exact List.Perm.refl _
        · exact commits
    | setEpochSeed | addIntentCommits | aggregate => exact commits
  · cases call with
    | addIntentCommits e listed =>
        simp only [effect, intentsAfter]
        split
        · exact intents.append_right listed
        · exact intents
    | prune beforeEpoch =>
        simp only [effect, intentsAfter]
        split
        · exact List.Perm.refl _
        · exact intents
    | setEpochSeed | addValidatorCommitment | revealValidatorCommitment | aggregate => exact intents

theorem seedAfter_comm (apart : Independent a b) (seed : Option Bytes32) :
    seedAfter epoch (seedAfter epoch seed a) b = seedAfter epoch (seedAfter epoch seed b) a := by
  cases a <;> cases b <;> try rfl
  all_goals simp only [Independent, Clash] at apart
  all_goals simp only [seedAfter]
  all_goals grind

theorem intentsAfter_comm (apart : Independent a b) (intents : List Bytes32) :
    (intentsAfter epoch (intentsAfter epoch intents a) b).Perm
      (intentsAfter epoch (intentsAfter epoch intents b) a) := by
  cases a <;> cases b <;> try exact List.Perm.refl _
  case addIntentCommits.addIntentCommits e new e' new' =>
      simp only [intentsAfter]
      split
      · split
        · simp only [List.append_assoc]
          exact List.perm_append_comm.append_left intents
        · exact List.Perm.refl _
      · exact List.Perm.refl _
  all_goals simp only [Independent, Clash] at apart
  all_goals simp only [intentsAfter]
  all_goals apply List.Perm.of_eq
  all_goals grind

theorem told_comm {first second : Bytes32} (apart : first ≠ second) (x y : Bytes32) (c : ValidatorCommitment) :
    (c.told sha256 first x).told sha256 second y = (c.told sha256 second y).told sha256 first x := by
  by_cases one : c.validatorId = first
  · have other : c.validatorId ≠ second := fun clash => apart (one.symm.trans clash)
    rw [told_other other, told_other (by rwa [told_validatorId])]
  · rw [told_other one, told_other (c := c.told sha256 second y) (by rwa [told_validatorId])]

theorem added_added {c d : ValidatorCommitment}
    (apart : Independent (.addValidatorCommitment c) (.addValidatorCommitment d))
    (commits : List ValidatorCommitment) :
    (commitsAfter sha256 epoch (commitsAfter sha256 epoch commits (.addValidatorCommitment c))
        (.addValidatorCommitment d)).Perm
      (commitsAfter sha256 epoch (commitsAfter sha256 epoch commits (.addValidatorCommitment d))
        (.addValidatorCommitment c)) := by
  simp only [commitsAfter]
  by_cases here : c.epoch = epoch
  · by_cases here' : d.epoch = epoch
    · have other : c.validatorId ≠ d.validatorId := fun same => apart ⟨here.trans here'.symm, same⟩
      by_cases fits : Admits commits c <;> by_cases fits' : Admits commits d
      all_goals simp [here, here', fits, fits', admits_append other, admits_append other.symm]
      exact (List.Perm.swap d c []).append_left commits
    · simp [here']
  · simp [here]

theorem added_revealed {c : ValidatorCommitment} {e : U64} {validatorId reveal : Bytes32}
    (apart : Independent (.addValidatorCommitment c) (.revealValidatorCommitment e validatorId reveal))
    (commits : List ValidatorCommitment) :
    commitsAfter sha256 epoch (commitsAfter sha256 epoch commits (.addValidatorCommitment c))
        (.revealValidatorCommitment e validatorId reveal) =
      commitsAfter sha256 epoch
        (commitsAfter sha256 epoch commits (.revealValidatorCommitment e validatorId reveal))
        (.addValidatorCommitment c) := by
  simp only [commitsAfter]
  by_cases here : c.epoch = epoch
  · by_cases here' : e = epoch
    · have other : c.validatorId ≠ validatorId := fun same => apart ⟨here.trans here'.symm, same⟩
      by_cases fits : Admits commits c
      all_goals simp [here, here', fits, admits_told, told_other other]
    · simp [here']
  · simp [here]

theorem commitsAfter_comm (apart : Independent a b) (commits : List ValidatorCommitment) :
    (commitsAfter sha256 epoch (commitsAfter sha256 epoch commits a) b).Perm
      (commitsAfter sha256 epoch (commitsAfter sha256 epoch commits b) a) := by
  cases a <;> cases b <;> try exact List.Perm.refl _
  case addValidatorCommitment.addValidatorCommitment c d =>
      exact added_added apart commits
  case addValidatorCommitment.revealValidatorCommitment c e validatorId reveal =>
      exact List.Perm.of_eq (added_revealed apart commits)
  case revealValidatorCommitment.addValidatorCommitment e validatorId reveal c =>
      exact List.Perm.of_eq (added_revealed apart commits).symm
  case revealValidatorCommitment.revealValidatorCommitment e first x e' second y =>
      apply List.Perm.of_eq
      simp only [commitsAfter]
      by_cases here : e = epoch
      · by_cases here' : e' = epoch
        · have other : first ≠ second := fun same => apart ⟨here.trans here'.symm, same⟩
          rw [if_pos here, if_pos here', if_pos here', if_pos here, List.map_map, List.map_map]
          apply List.map_congr_left
          intro c _
          exact told_comm other x y c
        · rw [if_neg here', if_neg here']
      · rw [if_neg here, if_neg here]
  all_goals simp only [Independent, Clash] at apart
  all_goals simp only [commitsAfter]
  all_goals apply List.Perm.of_eq
  all_goals grind

theorem entropy_alike (filed : Filed epoch r.commits) (same : Alike r r') :
    r.entropy sha256 epoch = r'.entropy sha256 epoch := by
  obtain ⟨seed, commits, intents⟩ := same
  have ranked : Ranking.sort byValidator r.commits = Ranking.sort byValidator r'.commits := by
    apply Ranking.sort_eq_of_perm commits
    intro c held d held' equal
    exact List.inj_on_of_nodup_map filed.distinct held held' (Std.LawfulEqOrd.eq_of_compare equal)
  have ordered : Ranking.sort compare r.intents = Ranking.sort compare r'.intents := by
    apply Ranking.sort_eq_of_perm intents
    intro x _ y _ equal
    exact Std.LawfulEqOrd.eq_of_compare equal
  have bytes : r.aggregated sha256 epoch = r'.aggregated sha256 epoch := by
    simp only [Record.aggregated, ranked, ordered, seed]
  have noIntents : r.intents.isEmpty = r'.intents.isEmpty := by
    rw [Bool.eq_iff_iff, List.isEmpty_iff, List.isEmpty_iff]
    exact ⟨fun none => (none ▸ intents).nil_eq.symm, fun none => (none ▸ intents).eq_nil⟩
  have noCommits : r.commits.isEmpty = r'.commits.isEmpty := by
    rw [Bool.eq_iff_iff, List.isEmpty_iff, List.isEmpty_iff]
    exact ⟨fun none => (none ▸ commits).nil_eq.symm, fun none => (none ▸ commits).eq_nil⟩
  simp only [Record.entropy, bytes, seed, noIntents, noCommits, commits.length_eq, commits.countP_eq]

/-- Replicas that take the calls in different orders answer the same, as long as only independent calls
change places. -/
theorem entropy_rearranged (sha256 : Sha256) {calls calls' : List Call}
    (moved : Rearranged Independent calls calls') (epoch : U64) :
    ((run sha256 calls).aggregate sha256 epoch).1 = ((run sha256 calls').aggregate sha256 epoch).1 := by
  rw [aggregate_run, aggregate_run]
  let inv (r : Record) : Prop := Filed epoch r.commits
  have start : inv .empty := filed_nil
  have keeps (r : Record) (call : Call) (filed : inv r) : inv (effect sha256 epoch r call) := filed.after call
  apply entropy_alike
  · exact foldl_keeps (fun call (_ : call ∈ calls) r => keeps r call) start
  · refine foldl_rearranged alike_equivalence keeps ?_ ?_ moved start
    · intro r r' call _ _ same
      exact alike_effect same call
    · intro a b apart r _
      exact ⟨seedAfter_comm apart r.seed, commitsAfter_comm apart r.commits, intentsAfter_comm apart r.intents⟩

def firstCommit : ValidatorCommitment := .create (fun _ => 7) 1 5 3

def secondCommit : ValidatorCommitment := .create (fun _ => 7) 2 6 3

def bothCommit : List Call := [.addValidatorCommitment firstCommit, .addValidatorCommitment secondCommit]

theorem entropy_rearranged_pair :
    ((run (fun _ => 7) bothCommit).aggregate (fun _ => 7) 3).1 =
      ((run (fun _ => 7) bothCommit.reverse).aggregate (fun _ => 7) 3).1 := by
  have apart : Independent (.addValidatorCommitment firstCommit) (.addValidatorCommitment secondCommit) :=
    fun clash => absurd clash.2 (by decide)
  have moved : Rearranged Independent bothCommit bothCommit.reverse := .swap [] [] apart (.refl _)
  exact entropy_rearranged (fun _ => 7) moved 3

end Order

section Binding

variable {sha256 : Sha256} {epoch : U64} {c d d' : ValidatorCommitment} {calls calls' : List Call} {r : Record}

/-- The call adds no source to the epoch and takes none away: reveals are still open. -/
def Call.Closed (epoch : U64) : Call → Prop
  | .setEpochSeed e _ => e ≠ epoch
  | .addValidatorCommitment c => c.epoch ≠ epoch
  | .addIntentCommits e _ => e ≠ epoch
  | .prune beforeEpoch => ¬ epoch < beforeEpoch
  | .revealValidatorCommitment _ _ _ | .aggregate _ => True

/-- What the calls would have hashed for the epoch to be accepted as reveals. -/
def offered (epoch : U64) (calls : List Call) : List Bytes :=
  calls.filterMap fun
    | .revealValidatorCommitment e validatorId reveal =>
        if e = epoch then some (ValidatorCommitment.preimage reveal validatorId epoch) else none
    | _ => none

def EntropyEngine.revealed (engine : EntropyEngine) (epoch : U64) : List Bytes32 :=
  ((engine.record epoch).commits.filter fun c => c.reveal.isSome).map ValidatorCommitment.validatorId

/-- A commitment before a call and after it. -/
def opened (sha256 : Sha256) (epoch : U64) (c : ValidatorCommitment) : Call → ValidatorCommitment
  | .revealValidatorCommitment e validatorId reveal =>
      if e = epoch then c.told sha256 validatorId reveal else c
  | _ => c

theorem effect_closed (r : Record) {call : Call} (closed : call.Closed epoch) :
    effect sha256 epoch r call = { r with commits := r.commits.map fun c => opened sha256 epoch c call } := by
  cases call with
  | revealValidatorCommitment e validatorId reveal =>
      simp only [effect, seedAfter, commitsAfter, intentsAfter, opened]
      split <;> simp
  | addValidatorCommitment c =>
      have apart : ¬ (c.epoch = epoch ∧ Admits r.commits c) := fun all => closed all.1
      simp [effect, seedAfter, commitsAfter, intentsAfter, opened, if_neg apart]
  | prune beforeEpoch =>
      have kept : ¬ epoch < beforeEpoch := closed
      simp only [effect, seedAfter, commitsAfter, intentsAfter, opened, if_neg kept, List.map_id']
  | setEpochSeed e seed =>
      have apart : e ≠ epoch := closed
      simp [effect, seedAfter, commitsAfter, intentsAfter, opened, apart]
  | addIntentCommits e commits =>
      have apart : e ≠ epoch := closed
      simp [effect, seedAfter, commitsAfter, intentsAfter, opened, apart]
  | aggregate e => simp [effect, seedAfter, commitsAfter, intentsAfter, opened]

theorem foldl_effect_closed (r : Record) (closed : ∀ call ∈ calls, call.Closed epoch) :
    calls.foldl (effect sha256 epoch) r =
      { r with commits := r.commits.map fun c => calls.foldl (opened sha256 epoch) c } := by
  induction calls generalizing r with
  | nil => simp
  | cons call calls ih =>
      rw [List.foldl_cons, effect_closed r (closed call List.mem_cons_self),
        ih _ fun call member => closed call (List.mem_cons_of_mem _ member)]
      simp only [List.map_map, List.foldl_cons]
      rfl

/-- A commitment stays as it was, or is opened by a reveal that was offered and matches it. -/
def OpenedBy (sha256 : Sha256) (inputs : List Bytes) (c d : ValidatorCommitment) : Prop :=
  d = c ∨ c.reveal = none ∧ ∃ reveal, d = { c with reveal := some reveal } ∧
    ValidatorCommitment.preimage reveal c.validatorId c.epoch ∈ inputs ∧
    sha256 (ValidatorCommitment.preimage reveal c.validatorId c.epoch) = c.commitment

theorem told_cases (sha256 : Sha256) (validatorId reveal : Bytes32) (c : ValidatorCommitment) :
    c.told sha256 validatorId reveal = c ∨ c.reveal = none ∧ c.validatorId = validatorId ∧
      c.told sha256 validatorId reveal = { c with reveal := some reveal } ∧
      sha256 (ValidatorCommitment.preimage reveal c.validatorId c.epoch) = c.commitment := by
  unfold ValidatorCommitment.told
  split
  · rename_i all
    obtain ⟨mine, hidden, matched⟩ := all
    exact .inr ⟨hidden, mine, rfl, eq_of_beq matched⟩
  · exact .inl rfl

theorem told_revealed {validatorId reveal : Bytes32} (shown : c.reveal ≠ none) :
    c.told sha256 validatorId reveal = c :=
  if_neg fun all => shown all.2.1

theorem opened_revealed (shown : c.reveal ≠ none) (calls : List Call) :
    calls.foldl (opened sha256 epoch) c = c := by
  induction calls with
  | nil => rfl
  | cons call calls ih =>
      have same : opened sha256 epoch c call = c := by
        unfold opened
        split
        · split
          · exact told_revealed shown
          · rfl
        · rfl
      rw [List.foldl_cons, same, ih]

theorem openedBy_foldl (sha256 : Sha256) (here : c.epoch = epoch) (calls : List Call) :
    OpenedBy sha256 (offered epoch calls) c (calls.foldl (opened sha256 epoch) c) := by
  induction calls with
  | nil => exact .inl rfl
  | cons call calls ih =>
      have later (same : opened sha256 epoch c call = c) : OpenedBy sha256 (offered epoch (call :: calls)) c
          ((call :: calls).foldl (opened sha256 epoch) c) := by
        rw [List.foldl_cons, same]
        rcases ih with kept | ⟨hidden, reveal, shown, listed, matched⟩
        · exact .inl kept
        · refine .inr ⟨hidden, reveal, shown, ?_, matched⟩
          unfold offered
          rw [List.filterMap_cons]
          split
          · exact listed
          · exact List.mem_cons_of_mem _ listed
      cases call with
      | revealValidatorCommitment e validatorId reveal =>
          by_cases mine : e = epoch
          · rcases told_cases sha256 validatorId reveal c with same | ⟨hidden, rfl, shown, matched⟩
            · exact later (by simp only [opened, if_pos mine, same])
            · refine .inr ⟨hidden, reveal, ?_, ?_, matched⟩
              · simp only [List.foldl_cons, opened, if_pos mine, shown]
                exact opened_revealed (by simp) calls
              · simp [offered, mine, here]
          · exact later (by simp only [opened, if_neg mine])
      | setEpochSeed | addValidatorCommitment | addIntentCommits | aggregate | prune => exact later rfl

theorem preimage_injective {reveal reveal' validatorId : Bytes32}
    (same : ValidatorCommitment.preimage reveal validatorId epoch =
      ValidatorCommitment.preimage reveal' validatorId epoch) : reveal = reveal' := by
  simp only [ValidatorCommitment.preimage, List.append_assoc, List.append_cancel_left_eq] at same
  exact (beBytes_code (by decide) same).1

theorem OpenedBy.agree {inputs inputs' : List Bytes} (free : CollisionFree sha256 (inputs ++ inputs'))
    (one : OpenedBy sha256 inputs c d) (other : OpenedBy sha256 inputs' c d')
    (same : d.reveal.isSome = d'.reveal.isSome) : d = d' := by
  rcases one with rfl | ⟨hidden, reveal, rfl, listed, matched⟩
  · rcases other with rfl | ⟨hidden, reveal, rfl, -, -⟩
    · rfl
    · simp [hidden] at same
  · rcases other with rfl | ⟨-, reveal', rfl, listed', matched'⟩
    · simp [hidden] at same
    · have inputs := free _ (List.mem_append_left _ listed) _ (List.mem_append_right _ listed')
        (matched.trans matched'.symm)
      rw [preimage_injective inputs]

theorem mem_revealed {engine : EntropyEngine} (filed : Filed epoch (engine.record epoch).commits)
    (held : c ∈ (engine.record epoch).commits) :
    c.validatorId ∈ engine.revealed epoch ↔ c.reveal.isSome := by
  simp only [EntropyEngine.revealed, List.mem_map, List.mem_filter]
  constructor
  · rintro ⟨other, ⟨member, shown⟩, same⟩
    rwa [← List.inj_on_of_nodup_map filed.distinct member held same]
  · intro shown
    exact ⟨c, ⟨held, shown⟩, rfl⟩

/-- Once the commitments, the intents and the seed of an epoch are in, only the choice of who reveals
moves its entropy, unless two of the offered reveals collide. -/
theorem only_withholding_moves (sha256 : Sha256) (history : List Call) {calls calls' : List Call} {epoch : U64}
    (closed : ∀ call ∈ calls, call.Closed epoch) (closed' : ∀ call ∈ calls', call.Closed epoch)
    (free : CollisionFree sha256 (offered epoch calls ++ offered epoch calls'))
    (same : ∀ validatorId, validatorId ∈ (run sha256 (history ++ calls)).revealed epoch ↔
      validatorId ∈ (run sha256 (history ++ calls')).revealed epoch) :
    ((run sha256 (history ++ calls)).aggregate sha256 epoch).1 =
      ((run sha256 (history ++ calls')).aggregate sha256 epoch).1 := by
  have filed := (sound_run sha256 history).commits epoch
  have after (calls : List Call) (closed : ∀ call ∈ calls, call.Closed epoch) :
      (run sha256 (history ++ calls)).record epoch =
        { (run sha256 history).record epoch with
          commits := ((run sha256 history).record epoch).commits.map
            fun c => calls.foldl (opened sha256 epoch) c } := by
    rw [run, List.foldl_append]
    exact (record_foldl (sound_run sha256 history) calls epoch).trans (foldl_effect_closed _ closed)
  have agree (c : ValidatorCommitment) (held : c ∈ ((run sha256 history).record epoch).commits) :
      calls.foldl (opened sha256 epoch) c = calls'.foldl (opened sha256 epoch) c := by
    have shown (calls : List Call) (closed : ∀ call ∈ calls, call.Closed epoch) :
        c.validatorId ∈ (run sha256 (history ++ calls)).revealed epoch ↔
          (calls.foldl (opened sha256 epoch) c).reveal.isSome := by
      have listed : calls.foldl (opened sha256 epoch) c ∈
          ((run sha256 (history ++ calls)).record epoch).commits := by
        rw [after calls closed]
        exact List.mem_map_of_mem held
      have named : (calls.foldl (opened sha256 epoch) c).validatorId = c.validatorId := by
        rcases openedBy_foldl sha256 (filed.filed c held) calls with kept | ⟨-, reveal, shown, -, -⟩
        · rw [kept]
        · rw [shown]
      rw [← mem_revealed ((sound_run sha256 _).commits epoch) listed, named]
    apply (openedBy_foldl sha256 (filed.filed c held) calls).agree free
      (openedBy_foldl sha256 (filed.filed c held) calls')
    rw [Bool.eq_iff_iff, ← shown calls closed, ← shown calls' closed']
    exact same c.validatorId
  rw [aggregate_eq (sound_run _ _), aggregate_eq (sound_run _ _), after calls closed, after calls' closed',
    List.map_congr_left agree]

theorem only_withholding_moves_pair :
    ((run (fun _ => 7) (bothCommit ++ [.revealValidatorCommitment 3 1 5])).aggregate (fun _ => 7) 3).1 =
      ((run (fun _ => 7) (bothCommit ++ [.aggregate 3, .revealValidatorCommitment 3 1 5])).aggregate
        (fun _ => 7) 3).1 := by
  refine only_withholding_moves (fun _ => 7) bothCommit ?_ ?_ ?_ ?_
  · simp [Call.Closed]
  · simp [Call.Closed]
  · simp [CollisionFree, offered]
  · intro validatorId
    have alike : (run (fun _ => 7) (bothCommit ++ [.revealValidatorCommitment 3 1 5])).revealed 3 =
        (run (fun _ => 7) (bothCommit ++ [.aggregate 3, .revealValidatorCommitment 3 1 5])).revealed 3 := by
      decide
    rw [alike]

end Binding

section Separation

variable {sha256 : Sha256} {entropy entropy' : EpochEntropy} {request request' : RandomnessRequest}

/-- The domain of the request without a target spells out what the other one hashes between its domain and
the end of its target, less the sixteen bytes that are read as epoch and index. -/
def Shadows (request request' : RandomnessRequest) : Prop :=
  ∃ target, request.targetId = some target ∧ request'.targetId = none ∧
    strBytes request'.domain ++ beBytes 8 request'.epoch ++ beBytes 8 request'.index =
      strBytes request.domain ++ beBytes 8 request.epoch ++ beBytes 8 request.index ++ beBytes 32 target

theorem domain_eq {domain domain' : String} {rest rest' : Bytes} (length : rest.length = rest'.length)
    (same : strBytes domain ++ rest = strBytes domain' ++ rest') : domain = domain' ∧ rest = rest' := by
  obtain ⟨domains, rests⟩ := List.append_inj' same length
  exact ⟨strBytes_injective domains, rests⟩

theorem drawn_eq_iff : drawn entropy request = drawn entropy' request' ↔ entropy.seed = entropy'.seed ∧
    (request = request' ∨ Shadows request request' ∨ Shadows request' request) := by
  obtain ⟨domain, epoch, index, targetId⟩ := request
  obtain ⟨domain', epoch', index', targetId'⟩ := request'
  have seeds : IsPrefixCode (beBytes 32 : Bytes32 → Bytes) := beBytes_code (by decide)
  have numbers : IsPrefixCode (beBytes 8 : U64 → Bytes) := beBytes_code (by decide)
  constructor
  · intro same
    simp only [drawn, List.append_assoc, List.append_cancel_left_eq] at same
    obtain ⟨seed, same⟩ := seeds same
    refine ⟨seed, ?_⟩
    cases targetId with
    | none =>
        cases targetId' with
        | none =>
            obtain ⟨domains, rest⟩ := domain_eq (by simp) same
            obtain ⟨epochs, rest⟩ := numbers rest
            obtain ⟨indices, -⟩ := numbers rest
            exact .inl (by rw [domains, epochs, indices])
        | some target => exact .inr (.inr ⟨target, rfl, rfl, by simpa using same⟩)
    | some target =>
        cases targetId' with
        | none => exact .inr (.inl ⟨target, rfl, rfl, by simpa using same.symm⟩)
        | some target' =>
            obtain ⟨domains, rest⟩ := domain_eq (by simp) same
            obtain ⟨epochs, rest⟩ := numbers rest
            obtain ⟨indices, rest⟩ := numbers rest
            have targets : target = target' := seeds.injective (by simpa using rest)
            exact .inl (by rw [domains, epochs, indices, targets])
  · rintro ⟨seed, same | ⟨target, rfl, rfl, spelled⟩ | ⟨target, rfl, rfl, spelled⟩⟩
    · rw [drawn, drawn, seed, same]
    · simp only [List.append_assoc] at spelled
      simp [drawn, seed, spelled]
    · simp only [List.append_assoc] at spelled
      simp [drawn, seed, spelled]

/-- Two draws give the same bytes for the same entropy and request, and otherwise only where a domain
imitates the target of the other request. -/
theorem deriveRandomness_eq_iff (free : CollisionFree sha256 [drawn entropy request, drawn entropy' request']) :
    deriveRandomness sha256 entropy request = deriveRandomness sha256 entropy' request' ↔
      entropy.seed = entropy'.seed ∧
        (request = request' ∨ Shadows request request' ∨ Shadows request' request) := by
  rw [← drawn_eq_iff]
  constructor
  · exact free _ (by simp) _ (by simp)
  · intro same
    exact congrArg sha256 same

def targeted : RandomnessRequest := { domain := "shuffle", epoch := 0, index := 0, targetId := some 0 }

/-- Thirty-two zero bytes more in the domain, and no target. -/
def imitation : RandomnessRequest :=
  { domain := "shuffle\x00\x00\x00\x00\x00\x00\x00\x00\x00\x00\x00\x00\x00\x00\x00\x00" ++
      "\x00\x00\x00\x00\x00\x00\x00\x00\x00\x00\x00\x00\x00\x00\x00\x00"
    epoch := 0
    index := 0
    targetId := none }

theorem shadows_imitation : Shadows targeted imitation := by
  refine ⟨0, rfl, rfl, ?_⟩
  rw [strBytes_eq, strBytes_eq]
  decide

theorem deriveRandomness_imitation :
    deriveRandomness (fun _ => 7) (Record.empty.entropy (fun _ => 7) 0) targeted =
      deriveRandomness (fun _ => 7) (Record.empty.entropy (fun _ => 7) 0) imitation := by
  let entropy := Record.empty.entropy (fun _ => 7) 0
  have same : drawn entropy targeted = drawn entropy imitation :=
    drawn_eq_iff.2 ⟨rfl, .inr (.inl shadows_imitation)⟩
  have free : CollisionFree (fun _ => 7) [drawn entropy targeted, drawn entropy imitation] := by
    simp [CollisionFree, same]
  exact (deriveRandomness_eq_iff free).2 ⟨rfl, .inr (.inl shadows_imitation)⟩

end Separation

end Omniphi.Runtime.Randomness
