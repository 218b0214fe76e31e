import Omniphi.Lib.Run
import Omniphi.Runtime.Intents
import Omniphi.Runtime.PlanSteps

/-! Admission of intent transactions. A sender's nonces are admitted once each and in order until the
tracker's counter wraps. -/

namespace Omniphi.Runtime

open SettlementEngine (bind_ok guard_ok)

structure NonceTracker where
  nonces : BTreeMap Bytes32 U64

namespace NonceTracker

def new : NonceTracker := ⟨∅⟩

def expectedNonce (tracker : NonceTracker) (sender : Bytes32) : U64 :=
  tracker.nonces[sender]?.getD 0

def isValid (tracker : NonceTracker) (sender : Bytes32) (nonce : U64) : Bool :=
  nonce = tracker.expectedNonce sender

/-- The addition is unchecked: in a release build it wraps at the top of the range. -/
def advance (tracker : NonceTracker) (sender : Bytes32) (nonce : U64) :
    Except String Unit × NonceTracker :=
  let expected := tracker.expectedNonce sender
  if nonce ≠ expected then
    (.error ("nonce mismatch: expected " ++ toString expected.toNat ++ ", got " ++
      toString nonce.toNat), tracker)
  else (.ok (), ⟨tracker.nonces.insert sender (nonce + 1)⟩)

end NonceTracker

inductive AdmissionResult
  | accepted
  | rejected (reason : String)
deriving DecidableEq, Repr

structure IntentAdmissionPipeline where
  nonceTracker : NonceTracker
  currentEpoch : U64
  verifySignatures : Bool

namespace IntentAdmissionPipeline

def new (currentEpoch : U64) : IntentAdmissionPipeline :=
  { nonceTracker := .new, currentEpoch, verifySignatures := true }

def checkRequiredVersion (store : ObjectStore) : ObjectId × U64 → Except String Unit
  | (id, required) =>
      match store.get id with
      | some object =>
          if object.info.version ≠ required then
            throw ("constraint: object " ++ id.toHex ++ " version " ++
              toString object.info.version.toNat ++ " != required " ++ toString required.toNat)
          else pure ()
      | none => throw ("constraint: required_version object " ++ id.toHex ++ " not found")

def checkAllowedObjects (allowed targets : List ObjectId) : Except String Unit :=
  if allowed.isEmpty then pure ()
  else targets.forM fun id =>
    if id ∈ allowed then pure ()
    else throw ("constraint: target " ++ id.toHex ++ " not in allowed_objects")

section Admit

variable (sha256 : Sha256) (verify : IntentTransaction.Ed25519Verify)

/-- The checks of `admitIntent` in their order. A thrown text is the reason of the rejection. -/
def checks (pipeline : IntentAdmissionPipeline) (tx : IntentTransaction) (store : ObjectStore) :
    Except String Unit := do
  tx.validate.mapError fun e => "structural: " ++ e.display
  if pipeline.verifySignatures ∧ ¬ tx.verifySignature sha256 verify then
    throw "invalid Ed25519 signature"
  if tx.deadlineEpoch < pipeline.currentEpoch then
    throw ("expired: deadline " ++ toString tx.deadlineEpoch.toNat ++ " < current " ++
      toString pipeline.currentEpoch.toNat)
  if ¬ pipeline.nonceTracker.isValid tx.sender tx.nonce then
    throw ("nonce: expected " ++ toString (pipeline.nonceTracker.expectedNonce tx.sender).toNat ++
      ", got " ++ toString tx.nonce.toNat)
  tx.targetObjects.forM fun id =>
    if (store.get id).isNone then throw ("target object " ++ id.toHex ++ " not found") else pure ()
  if tx.constraints.maxSlippageBps.any fun bps => 10000 < bps then
    throw "constraint: max_slippage_bps > 10000"
  tx.constraints.requiredVersions.forM (checkRequiredVersion store)
  checkAllowedObjects tx.constraints.allowedObjects tx.targetObjects

def admitIntent (pipeline : IntentAdmissionPipeline) (tx : IntentTransaction) (store : ObjectStore) :
    AdmissionResult × IntentAdmissionPipeline :=
  match pipeline.checks sha256 verify tx store with
  | .error reason => (.rejected reason, pipeline)
  | .ok () =>
      (.accepted,
        { pipeline with nonceTracker := (pipeline.nonceTracker.advance tx.sender tx.nonce).2 })

end Admit

theorem forM_ok {α : Type} {check : α → Except String Unit} {items : List α} {r : Unit} :
    items.forM check = .ok r ↔ ∀ item ∈ items, check item = .ok () := by
  induction items with
  | nil => simp [List.forM, pure, Except.pure]
  | cons item items ih =>
      show (check item >>= fun _ => items.forM check) = .ok r ↔ _
      rw [bind_ok, List.forall_mem_cons, ← ih]
      constructor
      · intro checked
        obtain ⟨_, here, rest⟩ := checked
        exact ⟨here, rest⟩
      · intro checked
        exact ⟨(), checked.1, checked.2⟩

theorem unless_ok {P : Prop} [Decidable P] {e : String} :
    (if P then throw e else pure () : Except String Unit) = .ok () ↔ ¬ P := by
  split <;> simp_all [throw, throwThe, MonadExceptOf.throw, pure, Except.pure]

theorem when_ok {P : Prop} [Decidable P] {e : String} :
    (if P then pure () else throw e : Except String Unit) = .ok () ↔ P := by
  split <;> simp_all [throw, throwThe, MonadExceptOf.throw, pure, Except.pure]

theorem mapError_ok {e : RuntimeError → String} {x : Except RuntimeError Unit} {r : Unit} :
    x.mapError e = .ok r ↔ x = .ok () := by
  cases x <;> simp [Except.mapError]

theorem checkRequiredVersion_ok {store : ObjectStore} {entry : ObjectId × U64} :
    checkRequiredVersion store entry = .ok () ↔
      (store.get entry.1).map (fun object => object.info.version) = some entry.2 := by
  simp only [checkRequiredVersion]
  cases found : store.get entry.1 with
  | none => simp [throw, throwThe, MonadExceptOf.throw]
  | some object => simp only [unless_ok, not_not, Option.map_some, Option.some.injEq]

theorem checkAllowedObjects_ok {allowed targets : List ObjectId} :
    checkAllowedObjects allowed targets = .ok () ↔ allowed = [] ∨ ∀ id ∈ targets, id ∈ allowed := by
  unfold checkAllowedObjects
  split
  · rename_i anything
    simp [List.isEmpty_iff.1 anything, pure, Except.pure]
  · rename_i listed
    rw [List.isEmpty_iff] at listed
    simp only [forM_ok, when_ok, listed, false_or]

section Admissible

variable (sha256 : Sha256) (verify : IntentTransaction.Ed25519Verify)

structure Admissible (pipeline : IntentAdmissionPipeline) (tx : IntentTransaction)
    (store : ObjectStore) : Prop where
  structural : tx.validate = .ok ()
  signed : pipeline.verifySignatures = true → tx.verifySignature sha256 verify = true
  inTime : pipeline.currentEpoch ≤ tx.deadlineEpoch
  targets : ∀ id ∈ tx.targetObjects, store.get id ≠ none
  slippage : ∀ bps ∈ tx.constraints.maxSlippageBps, bps ≤ 10000
  versions : ∀ entry ∈ tx.constraints.requiredVersions,
    (store.get entry.1).map (fun object => object.info.version) = some entry.2
  allowed : tx.constraints.allowedObjects = [] ∨
    ∀ id ∈ tx.targetObjects, id ∈ tx.constraints.allowedObjects

variable {sha256 verify} {pipeline : IntentAdmissionPipeline} {tx : IntentTransaction}
  {store : ObjectStore}

theorem checks_ok :
    pipeline.checks sha256 verify tx store = .ok () ↔
      Admissible sha256 verify pipeline tx store ∧
        tx.nonce = pipeline.nonceTracker.expectedNonce tx.sender := by
  simp only [checks, bind_ok, guard_ok, forM_ok, mapError_ok, unless_ok, checkRequiredVersion_ok,
    checkAllowedObjects_ok, exists_const]
  constructor
  · intro ⟨structural, signed, inTime, nonce, targets, slippage, versions, allowed⟩
    refine ⟨⟨structural, by simpa using signed, by simpa using inTime, ?_, ?_, versions, allowed⟩, ?_⟩
    · simpa using targets
    · intro bps given
      rw [given] at slippage
      simpa using slippage
    · simpa [NonceTracker.isValid] using nonce
  · intro ⟨⟨structural, signed, inTime, targets, slippage, versions, allowed⟩, nonce⟩
    refine ⟨structural, by simpa using signed, by simpa using inTime, ?_, ?_, ?_, versions, allowed⟩
    · simpa [NonceTracker.isValid] using nonce
    · simpa using targets
    · rw [Option.any_eq_true]
      intro ⟨bps, given, tooMuch⟩
      exact absurd (slippage bps given) (by simpa using tooMuch)

theorem admit_accepted (admissible : Admissible sha256 verify pipeline tx store)
    (nonce : tx.nonce = pipeline.nonceTracker.expectedNonce tx.sender) :
    pipeline.admitIntent sha256 verify tx store =
      (.accepted, { pipeline with
        nonceTracker := ⟨pipeline.nonceTracker.nonces.insert tx.sender (tx.nonce + 1)⟩ }) := by
  rw [admitIntent, checks_ok.2 ⟨admissible, nonce⟩]
  simp only [NonceTracker.advance, nonce, ne_eq, not_true_eq_false, if_false]

theorem admit_rejected (refused : ¬ (Admissible sha256 verify pipeline tx store ∧
      tx.nonce = pipeline.nonceTracker.expectedNonce tx.sender)) :
    ∃ reason, pipeline.admitIntent sha256 verify tx store = (.rejected reason, pipeline) := by
  unfold admitIntent
  cases outcome : pipeline.checks sha256 verify tx store with
  | error reason => exact ⟨reason, rfl⟩
  | ok done => exact absurd (checks_ok.1 outcome) refused

end Admissible

end IntentAdmissionPipeline

/-! Runs: submissions against whatever store there is at the time, with the pipeline's public settings
changed in between. -/

inductive AdmissionAction
  | submit (tx : IntentTransaction) (store : ObjectStore)
  | setEpoch (epoch : U64)
  | setVerifySignatures (on : Bool)

/-- A pipeline and the pairs of sender and nonce it has admitted, oldest first. -/
structure AdmissionHistory where
  pipeline : IntentAdmissionPipeline
  admitted : List (Bytes32 × U64)

namespace AdmissionHistory

open IntentAdmissionPipeline

def start (currentEpoch : U64) : AdmissionHistory := ⟨.new currentEpoch, []⟩

def noncesOf (sender : Bytes32) (admitted : List (Bytes32 × U64)) : List Nat :=
  (admitted.filter fun pair => pair.1 = sender).map fun pair => pair.2.toNat

section Runs

variable (sha256 : Sha256) (verify : IntentTransaction.Ed25519Verify)

def step (history : AdmissionHistory) : AdmissionAction → AdmissionHistory
  | .submit tx store =>
      match history.pipeline.admitIntent sha256 verify tx store with
      | (.accepted, pipeline) => ⟨pipeline, history.admitted ++ [(tx.sender, tx.nonce)]⟩
      | (.rejected _, pipeline) => ⟨pipeline, history.admitted⟩
  | .setEpoch epoch => { history with pipeline := { history.pipeline with currentEpoch := epoch } }
  | .setVerifySignatures on =>
      { history with pipeline := { history.pipeline with verifySignatures := on } }

/-- A rejected submission leaves the tracker alone. -/
def RejectionKeepsTracker (history : AdmissionHistory) (action : AdmissionAction) : Prop :=
  ∀ tx store reason after, action = .submit tx store →
    history.pipeline.admitIntent sha256 verify tx store = (.rejected reason, after) →
    after.nonceTracker = history.pipeline.nonceTracker

structure ReplayProtected (currentEpoch : U64) (run : List AdmissionAction) : Prop where
  once : (run.foldl (step sha256 verify) (start currentEpoch)).admitted.Nodup
  inOrder : ∀ sender, ∃ n,
    noncesOf sender (run.foldl (step sha256 verify) (start currentEpoch)).admitted = List.range n
  rejections : Run.Along (step sha256 verify) (RejectionKeepsTracker sha256 verify)
    (start currentEpoch) run

/-- No admissible transaction with nonce zero from a sender whose stored counter has come round to
zero again. -/
def Unwrapped (history : AdmissionHistory) (action : AdmissionAction) : Prop :=
  ∀ tx store, action = .submit tx store →
    history.pipeline.nonceTracker.nonces[tx.sender]? = some 0 → tx.nonce = 0 →
    ¬ Admissible sha256 verify history.pipeline tx store

/-- The stored counter is the number of the sender's admitted transactions, cut to 64 bits, and so is
each nonce at its admission. -/
structure Counts (history : AdmissionHistory) : Prop where
  stored : ∀ sender, history.pipeline.nonceTracker.nonces[sender]? =
    if noncesOf sender history.admitted = [] then none
    else some (BitVec.ofNat 64 (noncesOf sender history.admitted).length)
  nonces : ∀ sender, noncesOf sender history.admitted =
    (List.range (noncesOf sender history.admitted).length).map (· % 2 ^ 64)

theorem step_cases (history : AdmissionHistory) (action : AdmissionAction) :
    (∃ tx store, action = .submit tx store ∧ Admissible sha256 verify history.pipeline tx store ∧
      tx.nonce = history.pipeline.nonceTracker.expectedNonce tx.sender ∧
      step sha256 verify history action =
        ⟨{ history.pipeline with
            nonceTracker := ⟨history.pipeline.nonceTracker.nonces.insert tx.sender (tx.nonce + 1)⟩ },
          history.admitted ++ [(tx.sender, tx.nonce)]⟩) ∨
    ((∀ tx store, action = .submit tx store →
        ¬ (Admissible sha256 verify history.pipeline tx store ∧
          tx.nonce = history.pipeline.nonceTracker.expectedNonce tx.sender)) ∧
      (step sha256 verify history action).pipeline.nonceTracker = history.pipeline.nonceTracker ∧
      (step sha256 verify history action).admitted = history.admitted) := by
  cases action with
  | submit tx store =>
      by_cases passes : Admissible sha256 verify history.pipeline tx store ∧
          tx.nonce = history.pipeline.nonceTracker.expectedNonce tx.sender
      · left
        refine ⟨tx, store, rfl, passes.1, passes.2, ?_⟩
        simp only [step, admit_accepted passes.1 passes.2]
      · right
        obtain ⟨reason, refused⟩ := admit_rejected passes
        refine ⟨?_, by simp only [step, refused], by simp only [step, refused]⟩
        intro tx' store' same
        cases same
        exact passes
  | setEpoch epoch =>
      refine .inr ⟨?_, rfl, rfl⟩
      intro tx store same
      cases same
  | setVerifySignatures on =>
      refine .inr ⟨?_, rfl, rfl⟩
      intro tx store same
      cases same

variable {sha256 verify} {history : AdmissionHistory} {action : AdmissionAction}

theorem noncesOf_append (sender : Bytes32) (admitted : List (Bytes32 × U64)) (pair : Bytes32 × U64) :
    noncesOf sender (admitted ++ [pair]) =
      if pair.1 = sender then noncesOf sender admitted ++ [pair.2.toNat]
      else noncesOf sender admitted := by
  unfold noncesOf
  split
  · rename_i same
    simp [List.filter_append, same]
  · rename_i other
    simp [List.filter_append, other]

theorem Counts.expected (counts : Counts history) (sender : Bytes32) :
    history.pipeline.nonceTracker.expectedNonce sender =
      BitVec.ofNat 64 (noncesOf sender history.admitted).length := by
  rw [NonceTracker.expectedNonce, counts.stored]
  split
  · rename_i none
    simp [none]
  · rfl

theorem counts_start (currentEpoch : U64) : Counts (start currentEpoch) where
  stored sender := by simp [start, IntentAdmissionPipeline.new, NonceTracker.new, noncesOf]
  nonces sender := by simp [start, noncesOf]

theorem Counts.step (counts : Counts history) (action : AdmissionAction) :
    Counts (step sha256 verify history action) := by
  obtain ⟨tx, store, -, -, nonce, taken⟩ | ⟨-, tracker, admitted⟩ :=
    step_cases sha256 verify history action
  · rw [taken]
    rw [counts.expected] at nonce
    constructor
    · intro sender
      show (history.pipeline.nonceTracker.nonces.insert tx.sender (tx.nonce + 1))[sender]? = _
      rw [BTree.getElem?_insert, noncesOf_append]
      split
      · rename_i same
        simp [← same, nonce, BitVec.ofNat_add]
      · exact counts.stored sender
    · intro sender
      rw [noncesOf_append]
      split
      · rename_i same
        simp only at same
        simp only [List.length_append, List.length_singleton, List.range_succ, List.map_append,
          List.map_singleton, ← same, nonce, BitVec.toNat_ofNat]
        congr 1
        exact counts.nonces tx.sender
      · exact counts.nonces sender
  · constructor
    · intro sender
      rw [tracker, admitted]
      exact counts.stored sender
    · intro sender
      rw [admitted]
      exact counts.nonces sender

theorem counts_run (currentEpoch : U64) (run : List AdmissionAction) :
    Counts (run.foldl (AdmissionHistory.step sha256 verify) (start currentEpoch)) :=
  Run.invariant (fun _ action counts _ => counts.step action) (counts_start currentEpoch)
    (Run.along_of_forall (fun _ _ => trivial) _ run)

theorem map_mod_range_eq {n m : Nat} :
    (List.range n).map (· % 2 ^ 64) = List.range m ↔ n = m ∧ n ≤ 2 ^ 64 := by
  constructor
  · intro same
    have lengths : n = m := by simpa using congrArg List.length same
    subst lengths
    refine ⟨rfl, ?_⟩
    by_contra long
    have wrapped := congrArg (fun list => list[2 ^ 64]?) same
    simp only [List.getElem?_map, List.getElem?_range (by omega : 2 ^ 64 < n), Option.map_some,
      Nat.mod_self, Option.some.injEq] at wrapped
    omega
  · intro ⟨same, short⟩
    subst same
    nth_rewrite 2 [← List.map_id (List.range n)]
    apply List.map_congr_left
    intro i member
    exact Nat.mod_eq_of_lt (by have := List.mem_range.1 member; omega)

theorem nodup_of_noncesOf {admitted : List (Bytes32 × U64)}
    (each : ∀ sender, (noncesOf sender admitted).Nodup) : admitted.Nodup := by
  induction admitted with
  | nil => exact List.nodup_nil
  | cons pair admitted ih =>
      apply List.nodup_cons.2
      constructor
      · intro member
        have here := each pair.1
        simp only [noncesOf, List.filter_cons, decide_true, if_true, List.map_cons,
          List.nodup_cons] at here
        exact here.1 (List.mem_map.2 ⟨pair, List.mem_filter.2 ⟨member, by simp⟩, rfl⟩)
      · apply ih
        intro sender
        have here := each sender
        simp only [noncesOf, List.filter_cons] at here
        split at here
        · exact (List.nodup_cons.1 here).2
        · exact here

def Bounded (history : AdmissionHistory) : Prop :=
  ∀ sender, (noncesOf sender history.admitted).length ≤ 2 ^ 64

theorem Counts.bounded_step (counts : Counts history) (action : AdmissionAction) :
    Bounded (AdmissionHistory.step sha256 verify history action) ↔
      Bounded history ∧ Unwrapped sha256 verify history action := by
  obtain ⟨tx, store, rfl, admissible, nonce, taken⟩ | ⟨refused, -, admitted⟩ :=
    step_cases sha256 verify history action
  · have grown (sender : Bytes32) :
        (noncesOf sender (AdmissionHistory.step sha256 verify history
          (.submit tx store)).admitted).length =
          (noncesOf sender history.admitted).length + if tx.sender = sender then 1 else 0 := by
      rw [taken, noncesOf_append]
      split <;> simp
    rw [counts.expected] at nonce
    have stored := counts.stored tx.sender
    constructor
    · intro bounded
      refine ⟨fun sender => ?_, ?_⟩
      · have := bounded sender
        rw [grown] at this
        omega
      · intro tx' store' same wrapped zero
        cases same
        have room := bounded tx.sender
        rw [grown, if_pos rfl] at room
        rw [stored] at wrapped
        split at wrapped
        · cases wrapped
        · rename_i some
          have length := congrArg BitVec.toNat (Option.some.inj wrapped)
          have := List.length_pos_of_ne_nil some
          simp only [BitVec.toNat_ofNat, BitVec.ofNat_eq_ofNat, Nat.zero_mod] at length
          omega
    · intro ⟨bounded, unwrapped⟩ sender
      rw [grown]
      have room := bounded sender
      split
      · rename_i same
        subst same
        -- A full range would have left the stored counter at zero, and this submission at nonce zero.
        by_contra full
        have length : (noncesOf tx.sender history.admitted).length = 2 ^ 64 := by omega
        refine unwrapped tx store rfl ?_ ?_ admissible
        · rw [stored, length, if_neg]
          · rfl
          · intro none
            rw [none] at length
            exact absurd length (by simp)
        · rw [nonce, length]
          rfl
      · omega
  · have kept : Bounded (AdmissionHistory.step sha256 verify history action) ↔ Bounded history := by
      unfold Bounded
      rw [admitted]
    rw [kept]
    refine ⟨fun bounded => ⟨bounded, ?_⟩, And.left⟩
    intro tx store same wrapped zero admissible
    refine refused tx store same ⟨admissible, ?_⟩
    rw [zero, NonceTracker.expectedNonce, wrapped]
    rfl

theorem bounded_iff_along (currentEpoch : U64) (run : List AdmissionAction) :
    Bounded (run.foldl (AdmissionHistory.step sha256 verify) (start currentEpoch)) ↔
      Run.Along (AdmissionHistory.step sha256 verify) (Unwrapped sha256 verify) (start currentEpoch)
        run := by
  induction run using List.reverseRecOn with
  | nil => simp [Bounded, start, noncesOf, Run.Along]
  | append_singleton run action ih =>
      rw [List.foldl_append, Run.along_append, ← ih]
      exact ((counts_run currentEpoch run).bounded_step action).trans (by simp [Run.Along])

theorem rejectionKeepsTracker (history : AdmissionHistory) (action : AdmissionAction) :
    RejectionKeepsTracker sha256 verify history action := by
  intro tx store reason after _ rejected
  by_cases passes : Admissible sha256 verify history.pipeline tx store ∧
      tx.nonce = history.pipeline.nonceTracker.expectedNonce tx.sender
  · rw [admit_accepted passes.1 passes.2] at rejected
    cases rejected
  · obtain ⟨_, refused⟩ := admit_rejected passes
    rw [refused] at rejected
    cases rejected
    rfl

theorem replayProtected_iff_bounded (currentEpoch : U64) (run : List AdmissionAction) :
    ReplayProtected sha256 verify currentEpoch run ↔
      Bounded (run.foldl (AdmissionHistory.step sha256 verify) (start currentEpoch)) := by
  have counts : Counts (run.foldl (AdmissionHistory.step sha256 verify) (start currentEpoch)) :=
    counts_run currentEpoch run
  constructor
  · intro protects sender
    obtain ⟨n, ordered⟩ := protects.inOrder sender
    rw [counts.nonces sender] at ordered
    exact (map_mod_range_eq.1 ordered).2
  · intro bounded
    have inOrder (sender : Bytes32) := (counts.nonces sender).trans
      (map_mod_range_eq.2 ⟨rfl, bounded sender⟩)
    refine ⟨nodup_of_noncesOf fun sender => ?_, fun sender => ⟨_, inOrder sender⟩,
      Run.along_of_forall rejectionKeepsTracker _ run⟩
    rw [inOrder sender]
    exact List.nodup_range

/-- In every run each pair of sender and nonce is admitted at most once, a sender's nonces are admitted
from zero up without gaps and rejections leave the tracker alone, exactly when no admissible transaction
with nonce zero comes from a sender whose counter has wrapped. -/
theorem replayProtected_iff_unwrapped (sha256 : Sha256) (verify : IntentTransaction.Ed25519Verify)
    (currentEpoch : U64) (run : List AdmissionAction) :
    ReplayProtected sha256 verify currentEpoch run ↔
      Run.Along (AdmissionHistory.step sha256 verify) (Unwrapped sha256 verify) (start currentEpoch)
        run :=
  (replayProtected_iff_bounded currentEpoch run).trans (bounded_iff_along currentEpoch run)

def transferWithNonce (nonce : U64) : IntentTransaction where
  txId := 1
  sender := 1
  intent := .transfer { assetId := 1, amount := 1, recipient := 1, memo := none }
  maxFee := 1
  deadlineEpoch := 0
  nonce := nonce
  signature := 0
  metadata := ∅
  targetObjects := []
  constraints := {}
  executionMode := .bestEffort
  sponsor := none
  sponsorSignature := none
  sponsorshipLimits := {}
  feePolicy := .senderPays
  feeEnvelope := none

def successiveTransfers (n : Nat) : List AdmissionAction :=
  .setVerifySignatures false ::
    (List.range n).map fun i => .submit (transferWithNonce (BitVec.ofNat 64 i)) .new

theorem transferWithNonce_admissible (tracker : NonceTracker) (nonce : U64) :
    Admissible sha256 verify ⟨tracker, 0, false⟩ (transferWithNonce nonce) .new where
  structural := rfl
  signed := nofun
  inTime := by simp [transferWithNonce]
  targets := by simp [transferWithNonce]
  slippage := by simp [transferWithNonce]
  versions := by simp [transferWithNonce]
  allowed := .inl rfl

theorem successiveTransfers_admitted (sha256 : Sha256) (verify : IntentTransaction.Ed25519Verify)
    (n : Nat) :
    ∃ tracker admitted, (successiveTransfers n).foldl (AdmissionHistory.step sha256 verify) (start 0) =
      ⟨⟨tracker, 0, false⟩, admitted⟩ ∧ (noncesOf 1 admitted).length = n := by
  induction n with
  | zero => exact ⟨.new, [], rfl, rfl⟩
  | succ n ih =>
      obtain ⟨tracker, admitted, reached, length⟩ := ih
      have counts : Counts ((successiveTransfers n).foldl (AdmissionHistory.step sha256 verify)
          (start 0)) := counts_run 0 (successiveTransfers n)
      have next : successiveTransfers (n + 1) =
          successiveTransfers n ++ [.submit (transferWithNonce (BitVec.ofNat 64 n)) .new] := by
        simp [successiveTransfers, List.range_succ]
      rw [reached] at counts
      have nonce : (transferWithNonce (BitVec.ofNat 64 n)).nonce = tracker.expectedNonce 1 := by
        rw [counts.expected 1, length]
        rfl
      rw [next, List.foldl_append, reached]
      refine ⟨⟨tracker.nonces.insert 1 (BitVec.ofNat 64 n + 1)⟩, admitted ++ [(1, BitVec.ofNat 64 n)],
        ?_, ?_⟩
      · simp only [List.foldl_cons, List.foldl_nil, AdmissionHistory.step,
          admit_accepted (transferWithNonce_admissible tracker (BitVec.ofNat 64 n)) nonce]
        rfl
      · rw [noncesOf_append, if_pos rfl, List.length_append, length, List.length_singleton]

/-- After `2 ^ 64` transfers the nonce zero is admitted a second time. -/
theorem nonce_admitted_again :
    ¬ ReplayProtected (fun _ => 0) (fun _ _ _ => false) 0 (successiveTransfers (2 ^ 64 + 1)) := by
  intro protects
  obtain ⟨tracker, admitted, reached, length⟩ :=
    successiveTransfers_admitted (fun _ => 0) (fun _ _ _ => false) (2 ^ 64 + 1)
  have bounded := (replayProtected_iff_bounded 0 (successiveTransfers (2 ^ 64 + 1))).1 protects 1
  rw [reached, length] at bounded
  omega

end Runs

end AdmissionHistory

end Omniphi.Runtime
