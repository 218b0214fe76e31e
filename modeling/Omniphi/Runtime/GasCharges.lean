import Omniphi.Lib.Metering
import Omniphi.Lib.Run
import Omniphi.Runtime.PlanSteps
import Omniphi.Runtime.Resolver

/-! The gas of a plan: the charges that it meets, and what they leave on the meter. -/

namespace Omniphi.Runtime

open Metering

def RuntimeError.lacksGas : RuntimeError → Bool
  | .constraintViolation message =>
      "out of gas: ".toList.isPrefixOf message.toList || message == "gas counter overflow"
  | _ => false

section Binds

variable {α β : Type} {x : Metered α} {f : α → Metered β} {meter : GasMeter}

theorem run_bind_ok {a : α} {after : GasMeter} (ran : x.run.run meter = (.ok a, after)) :
    (x >>= f).run.run meter = (f a).run.run after := by
  rw [ExceptT.run_bind, StateT.run_bind, ran]
  rfl

theorem run_bind_error {e : RuntimeError} {after : GasMeter} (ran : x.run.run meter = (.error e, after)) :
    (x >>= f).run.run meter = (.error e, after) := by
  rw [ExceptT.run_bind, StateT.run_bind, ran]
  rfl

end Binds

namespace GasMeter

def effective (meter : GasMeter) (amount : U64) : U64 :=
  if meter.batchComplexityMultiplierBps = 10000 then amount
  else (MachineInt.saturatingMul (amount.setWidth 128)
    (meter.batchComplexityMultiplierBps.setWidth 128) / 10000).setWidth 64

def outOfGas (meter : GasMeter) : RuntimeError :=
  .constraintViolation ("out of gas: consumed " ++ toString meter.consumed.toNat ++ " limit " ++
    toString meter.limit.toNat)

def overflowed : RuntimeError := .constraintViolation "gas counter overflow"

theorem lacksGas_outOfGas (meter : GasMeter) : meter.outOfGas.lacksGas = true := by
  simp [outOfGas, RuntimeError.lacksGas, String.toList_append, List.isPrefixOf]

variable (meter : GasMeter) (amount : U64)

def charge : GasMeter := { meter with consumed := meter.consumed + meter.effective amount }

theorem run_consume : (consume amount).run.run meter =
    if 2 ^ 64 ≤ meter.consumed.toNat + (meter.effective amount).toNat then (.error overflowed, meter)
    else if meter.limit < (meter.charge amount).consumed then
      (.error (meter.charge amount).outOfGas, meter.charge amount)
    else (.ok (), meter.charge amount) := by
  have sum : MachineInt.checkedAdd meter.consumed (meter.effective amount) =
      if meter.consumed.toNat + (meter.effective amount).toNat < 2 ^ 64
        then some (meter.charge amount).consumed else none := rfl
  by_cases fits : meter.consumed.toNat + (meter.effective amount).toNat < 2 ^ 64
  · rw [if_pos fits] at sum
    rw [if_neg (Nat.not_le.2 fits), consume, run_bind_ok (x := get) (a := meter) rfl]
    unfold effective at sum
    simp only [sum]
    rw [run_bind_ok (x := set _) (a := ()) rfl]
    split
    · rfl
    · rfl
  · rw [if_neg fits] at sum
    rw [if_pos (Nat.not_lt.1 fits), consume, run_bind_ok (x := get) (a := meter) rfl]
    unfold effective at sum
    simp only [sum]
    rfl

end GasMeter

section Spends

variable {α β : Type}

/-- What charges at their own value leave on a meter, and whether one of them is refused. -/
def spent (meter : GasMeter) (charges : List U64) : ℕ × Bool :=
  spend meter.limit.toNat (2 ^ 64) meter.consumed.toNat (charges.map BitVec.toNat)

def GasMeter.spend (meter : GasMeter) (charges : List U64) : GasMeter :=
  { meter with consumed := BitVec.ofNat 64 (spent meter charges).1 }

structure Spends (x : Metered α) (meter : GasMeter) (charges : List U64) (completes : Prop) : Prop where
  counter : (x.run.run meter).2 = meter.spend charges
  lacks : (∃ e, (x.run.run meter).1 = .error e ∧ e.lacksGas = true) ↔ (spent meter charges).2 = true
  ok : (∃ a, (x.run.run meter).1 = .ok a) ↔ (spent meter charges).2 = false ∧ completes

variable {x : Metered α} {f : α → Metered β} {meter : GasMeter} {charges rest : List U64} {P Q : Prop}

theorem toNat_spend (meter : GasMeter) (charges : List U64) :
    (meter.spend charges).consumed.toNat = (spent meter charges).1 :=
  BitVec.toNat_ofNat .. |>.trans (Nat.mod_eq_of_lt (spend_lt meter.consumed.isLt))

theorem spent_append : spent meter (charges ++ rest) =
    if (spent meter charges).2 then spent meter charges else spent (meter.spend charges) rest := by
  have inner : spent (meter.spend charges) rest =
      spend meter.limit.toNat (2 ^ 64) (spent meter charges).1 (rest.map BitVec.toNat) := by
    rw [← toNat_spend]
    rfl
  rw [inner, spent, List.map_append, spend_append]
  rfl

theorem spend_append_of_refused (refused : (spent meter charges).2 = true) :
    spent meter (charges ++ rest) = spent meter charges := by
  rw [spent_append, if_pos refused]

theorem spends_of_ok {a : α} (ran : x.run.run meter = (.ok a, meter.spend charges))
    (taken : (spent meter charges).2 = false) (completes : P) : Spends x meter charges P where
  counter := congrArg Prod.snd ran
  lacks := by
    rw [ran, taken]
    exact ⟨fun ⟨_, done, _⟩ => (by cases done), fun refused => (by cases refused)⟩
  ok := by
    rw [ran]
    exact ⟨fun _ => ⟨taken, completes⟩, fun _ => ⟨a, rfl⟩⟩

theorem spends_of_error {e : RuntimeError} (ran : x.run.run meter = (.error e, meter.spend charges))
    (lacks : e.lacksGas = (spent meter charges).2) (stops : (spent meter charges).2 = false → ¬ P) :
    Spends x meter charges P where
  counter := congrArg Prod.snd ran
  lacks := by
    rw [ran, ← lacks]
    exact ⟨fun ⟨_, same, short⟩ => (by cases same; exact short), fun short => ⟨e, rfl, short⟩⟩
  ok := by
    rw [ran]
    exact ⟨fun ⟨_, done⟩ => (by cases done), fun ⟨taken, completes⟩ => absurd completes (stops taken)⟩

theorem Spends.error (spends : Spends x meter charges P) (refused : (spent meter charges).2 = true) :
    ∃ e, x.run.run meter = (.error e, meter.spend charges) ∧ e.lacksGas = true := by
  obtain ⟨e, failed, lacks⟩ := spends.lacks.2 refused
  exact ⟨e, Prod.ext failed spends.counter, lacks⟩

theorem Spends.blocked (spends : Spends x meter charges P) (taken : (spent meter charges).2 = false)
    (stops : ¬ P) : ∃ e, x.run.run meter = (.error e, meter.spend charges) ∧ e.lacksGas = false := by
  cases ran : x.run.run meter with
  | mk outcome after =>
      have counter := spends.counter
      have ok := spends.ok
      have lacks := spends.lacks
      rw [ran] at counter ok lacks
      cases outcome with
      | ok a => exact absurd (ok.1 ⟨a, rfl⟩).2 stops
      | error e =>
          refine ⟨e, Prod.ext rfl counter, ?_⟩
          rw [taken] at lacks
          cases short : e.lacksGas with
          | false => rfl
          | true => exact absurd (lacks.1 ⟨e, rfl, short⟩) (by simp)

theorem Spends.bind (first : Spends x meter charges True)
    (next : ∀ a, Spends (f a) (meter.spend charges) rest Q) : Spends (x >>= f) meter (charges ++ rest) Q := by
  cases refused : (spent meter charges).2 with
  | true =>
      have same : spent meter (charges ++ rest) = spent meter charges := spend_append_of_refused refused
      obtain ⟨e, ran, lacks⟩ := first.error refused
      have final : meter.spend (charges ++ rest) = meter.spend charges := by
        rw [GasMeter.spend, same, GasMeter.spend]
      refine spends_of_error (e := e) ?_ ?_ ?_
      · rw [run_bind_error ran, final]
      · rw [same, refused, lacks]
      · rw [same, refused]
        intro taken
        cases taken
  | false =>
      have same : spent meter (charges ++ rest) = spent (meter.spend charges) rest := by
        rw [spent_append, refused]
        rfl
      have final : meter.spend (charges ++ rest) = (meter.spend charges).spend rest := by
        rw [GasMeter.spend, same]
        rfl
      obtain ⟨a, done⟩ := first.ok.2 ⟨refused, trivial⟩
      have ran : x.run.run meter = (.ok a, meter.spend charges) := Prod.ext done first.counter
      refine ⟨?_, ?_, ?_⟩
      · rw [run_bind_ok ran, (next a).counter, final]
      · rw [run_bind_ok ran, same]
        exact (next a).lacks
      · rw [run_bind_ok ran, same]
        exact (next a).ok

theorem Spends.bind_blocked (first : Spends x meter charges False) :
    Spends (x >>= f) meter charges False := by
  cases refused : (spent meter charges).2 with
  | true =>
      obtain ⟨e, ran, lacks⟩ := first.error refused
      exact spends_of_error (run_bind_error ran) (lacks.trans refused.symm) fun _ => id
  | false =>
      obtain ⟨e, ran, lacks⟩ := first.blocked refused id
      exact spends_of_error (run_bind_error ran) (lacks.trans refused.symm) fun _ => id

theorem Spends.of_iff (spends : Spends x meter charges P) (same : P ↔ Q) : Spends x meter charges Q :=
  (propext same) ▸ spends

theorem Spends.of_get {f : GasMeter → Metered α} (spends : Spends (f meter) meter charges P) :
    Spends (get >>= f) meter charges P := by
  have same : (get >>= f : Metered α).run.run meter = (f meter).run.run meter := run_bind_ok rfl
  obtain ⟨counter, lacks, ok⟩ := spends
  rw [← same] at counter lacks ok
  exact ⟨counter, lacks, ok⟩

theorem spend_nil : meter.spend [] = meter := by
  show { meter with consumed := BitVec.ofNat 64 meter.consumed.toNat } = meter
  rw [BitVec.ofNat_toNat, BitVec.setWidth_eq]

theorem spends_pure (a : α) (completes : P) : Spends (pure a) meter [] P :=
  spends_of_ok (a := a) (by rw [spend_nil]; rfl) rfl completes

theorem Spends.map (spends : Spends x meter charges P) (g : α → β) :
    Spends (x >>= fun a => pure (g a)) meter charges P := by
  cases ran : x.run.run meter with
  | mk outcome after =>
      obtain ⟨counter, lacks, ok⟩ := spends
      rw [ran] at counter lacks ok
      cases outcome with
      | ok a =>
          have done : (x >>= fun a => pure (g a)).run.run meter = (.ok (g a), after) := run_bind_ok ran
          obtain ⟨taken, completes⟩ := ok.1 ⟨a, rfl⟩
          exact spends_of_ok (a := g a) (by rw [done, ← counter]) taken completes
      | error e =>
          have failed : (x >>= fun a => pure (g a)).run.run meter = (.error e, after) := run_bind_error ran
          refine ⟨by rw [failed]; exact counter, by rw [failed, ← lacks]; simp, ?_⟩
          rw [failed, ← ok]
          exact ⟨fun ⟨_, done⟩ => (by cases done), fun ⟨_, done⟩ => (by cases done)⟩

theorem spends_check_ok {check : Except RuntimeError α} {a : α} (passed : check = .ok a) :
    Spends (liftM check : Metered α) meter [] True :=
  spends_of_ok (a := a) (by rw [spend_nil, passed]; rfl) rfl trivial

theorem spends_check_error {check : Except RuntimeError α} {e : RuntimeError} (failed : check = .error e)
    (gasFree : e.lacksGas = false) : Spends (liftM check : Metered α) meter [] False :=
  spends_of_error (e := e) (by rw [spend_nil, failed]; rfl) gasFree fun _ => id

theorem spends_consume (meter : GasMeter) (unit : meter.batchComplexityMultiplierBps = 10000) (amount : U64) :
    Spends (GasMeter.consume amount) meter [amount] True := by
  have effective : meter.effective amount = amount := if_pos unit
  have ran := GasMeter.run_consume meter amount
  rw [GasMeter.charge, effective] at ran
  by_cases above : 2 ^ 64 ≤ meter.consumed.toNat + amount.toNat
  · have left : spent meter [amount] = (meter.consumed.toNat, true) := if_pos above
    have same : meter.spend [amount] = meter := by
      rw [GasMeter.spend, left]
      exact spend_nil
    rw [if_pos above] at ran
    exact spends_of_error (by rw [ran, same]) (by rw [left]; rfl) (by rw [left]; nofun)
  · have sum : (meter.consumed + amount).toNat = meter.consumed.toNat + amount.toNat :=
      BitVec.toNat_add_of_lt (Nat.not_le.1 above)
    have ofSum : BitVec.ofNat 64 (meter.consumed.toNat + amount.toNat) = meter.consumed + amount := by
      rw [← sum, BitVec.ofNat_toNat, BitVec.setWidth_eq]
    rw [if_neg above] at ran
    by_cases exceeded : meter.limit < meter.consumed + amount
    · have left : spent meter [amount] = (meter.consumed.toNat + amount.toNat, true) := by
        rw [BitVec.lt_def, sum] at exceeded
        exact (if_neg above).trans (if_pos exceeded)
      have same : meter.spend [amount] = { meter with consumed := meter.consumed + amount } := by
        rw [GasMeter.spend, left, ofSum]
      rw [if_pos exceeded, ← same] at ran
      refine spends_of_error ran ?_ (by rw [left]; nofun)
      rw [left]
      exact GasMeter.lacksGas_outOfGas _
    · have left : spent meter [amount] = (meter.consumed.toNat + amount.toNat, false) := by
        rw [BitVec.lt_def, sum] at exceeded
        exact (if_neg above).trans (if_neg exceeded)
      have same : meter.spend [amount] = { meter with consumed := meter.consumed + amount } := by
        rw [GasMeter.spend, left, ofSum]
      rw [if_neg exceeded, ← same] at ran
      exact spends_of_ok ran (by rw [left]) trivial

section Loops

variable {γ : Type} {ok : γ → Bool} {cost : γ → U64}

def metered (ok : γ → Bool) (cost : γ → U64) (items : List γ) : List U64 := (items.takeWhile ok).map cost

structure Step (ok : γ → Bool) (cost : γ → U64) (f : γ → Metered α) : Prop where
  passes : ∀ item meter, meter.batchComplexityMultiplierBps = 10000 → ok item = true →
    Spends (f item) meter [cost item] True
  stops : ∀ item meter, ok item = false → Spends (f item) meter [] False

theorem metered_cons (item : γ) (items : List γ) : metered ok cost (item :: items) =
    if ok item then cost item :: metered ok cost items else [] := by
  rw [metered, List.takeWhile_cons]
  split <;> rfl

theorem spends_mapM {f : γ → Metered α} (step : Step ok cost f) (items : List γ) {meter : GasMeter}
    (unit : meter.batchComplexityMultiplierBps = 10000) :
    Spends (items.mapM f) meter (metered ok cost items) (items.all ok = true) := by
  induction items generalizing meter with
  | nil => exact spends_pure [] rfl
  | cons item items ih =>
      rw [List.mapM_cons, metered_cons, List.all_cons]
      cases passes : ok item with
      | true =>
          have rest (a) := (@ih (meter.spend [cost item]) unit).map (a :: ·)
          rw [Bool.true_and, if_pos rfl]
          exact (step.passes item meter unit passes).bind rest
      | false =>
          rw [Bool.false_and, if_neg (by simp)]
          simpa using (step.stops item meter passes).bind_blocked

theorem spends_forM {f : γ → Metered PUnit} (step : Step ok cost f) (items : List γ) {meter : GasMeter}
    (unit : meter.batchComplexityMultiplierBps = 10000) :
    Spends (items.forM f) meter (metered ok cost items) (items.all ok = true) := by
  induction items generalizing meter with
  | nil => exact spends_pure PUnit.unit rfl
  | cons item items ih =>
      rw [List.forM, metered_cons, List.all_cons]
      cases passes : ok item with
      | true =>
          have rest := @ih (meter.spend [cost item]) unit
          rw [Bool.true_and, if_pos rfl]
          exact (step.passes item meter unit passes).bind fun _ => rest
      | false =>
          rw [Bool.false_and, if_neg (by simp)]
          simpa using (step.stops item meter passes).bind_blocked

end Loops

end Spends

namespace SettlementEngine

section Charged

variable (plan : ExecutionPlan) (store : ObjectStore)

def present (access : ObjectAccess) : Bool := (store.get access.objectId).isSome

def valid (op : ObjectOperation) : Bool := (validateOp store op).isOk

/-- The charges that a plan meets: up to its first missing object, and to its first invalid operation. -/
def charged : List U64 :=
  let costs := GasCosts.defaultCosts
  let reads := metered (present store) (fun _ => costs.objectRead) plan.objectAccess
  costs.baseTx :: if plan.objectAccess.all (present store) then
    reads ++ metered (valid store) (opGasCost · costs) plan.operations
  else reads

variable {plan store}

theorem charged_present (there : plan.objectAccess.all (present store) = true) :
    charged plan store = [GasCosts.defaultCosts.baseTx] ++
      (metered (present store) (fun _ => GasCosts.defaultCosts.objectRead) plan.objectAccess ++
        metered (valid store) (opGasCost · .defaultCosts) plan.operations) :=
  congrArg (List.cons _) (if_pos there)

theorem charged_missing (missing : plan.objectAccess.all (present store) = false) :
    charged plan store = [GasCosts.defaultCosts.baseTx] ++
      metered (present store) (fun _ => GasCosts.defaultCosts.objectRead) plan.objectAccess :=
  congrArg (List.cons _) (if_neg (by simp [missing]))

def GasFree {α : Type} (check : Except RuntimeError α) : Prop := ∀ e, check = .error e → e.lacksGas = false

section GasFree

variable {α β : Type} {check : Except RuntimeError α}

theorem gasFree_pure (a : α) : GasFree (pure a : Except RuntimeError α) := nofun

theorem gasFree_throw {e : RuntimeError} (free : e.lacksGas = false) :
    GasFree (throw e : Except RuntimeError α) := by
  rintro other ⟨⟩
  exact free

theorem gasFree_orNotFound (found : Option α) (id : ObjectId) : GasFree (orNotFound found id) := by
  cases found with
  | none => exact gasFree_throw rfl
  | some a => exact gasFree_pure a

theorem gasFree_bind {f : α → Except RuntimeError β} (first : GasFree check) (next : ∀ a, GasFree (f a)) :
    GasFree (check >>= f) := by
  cases check with
  | error e =>
      rintro other ⟨⟩
      exact first e rfl
  | ok a => exact next a

theorem gasFree_ite {P : Prop} [Decidable P] {other : Except RuntimeError α} (yes : GasFree check)
    (no : GasFree other) : GasFree (if P then check else other) := by
  split
  · exact yes
  · exact no

theorem gasFree_validateOp (op : ObjectOperation) : GasFree (validateOp store op) := by
  cases op with
  | debitBalance balanceId amount | lockBalance balanceId amount =>
      exact gasFree_bind (gasFree_orNotFound _ _) fun _ => gasFree_ite (gasFree_throw rfl) (gasFree_pure _)
  | _ =>
      unfold validateOp
      repeat' first
        | exact gasFree_orNotFound _ _
        | exact gasFree_pure _
        | exact gasFree_throw (by decide)
        | exact gasFree_throw rfl
        | apply gasFree_ite
        | refine gasFree_bind ?_ fun _ => ?_
        | split

end GasFree

theorem step_snapshot (store : ObjectStore) : Step (present store) (fun _ => GasCosts.defaultCosts.objectRead)
    (fun access : ObjectAccess => (do
      let object ← orNotFound (store.get access.objectId) access.objectId
      GasMeter.consume GasCosts.defaultCosts.objectRead
      return (access.objectId, object.info.version) : Metered (ObjectId × ObjectVersion))) where
  passes access meter unit there := by
    obtain ⟨object, found⟩ := Option.isSome_iff_exists.1 there
    rw [found]
    have read := spends_consume (meter.spend []) unit GasCosts.defaultCosts.objectRead
    exact (spends_check_ok (show orNotFound (some object) access.objectId = .ok object from rfl)).bind
      fun object => read.map fun _ => (access.objectId, object.info.version)
  stops access meter missing := by
    have absent : store.get access.objectId = none := by simpa [present] using missing
    rw [absent]
    have failed : orNotFound (none : Option BoxedObject) access.objectId = .error (.objectNotFound _) := rfl
    exact (spends_check_error failed rfl).bind_blocked

theorem step_validate (store : ObjectStore) : Step (valid store) (opGasCost · GasCosts.defaultCosts)
    (fun op : ObjectOperation => (do
      validateOp store op
      GasMeter.consume (opGasCost op GasCosts.defaultCosts) : Metered PUnit)) where
  passes op meter unit holds := by
    cases checked : validateOp store op with
    | ok u =>
        have paid := spends_consume (meter.spend []) unit (opGasCost op GasCosts.defaultCosts)
        exact (spends_check_ok rfl).bind fun _ => paid
    | error e => rw [valid, checked] at holds; cases holds
  stops op meter fails := by
    cases checked : validateOp store op with
    | ok u => rw [valid, checked] at fails; cases fails
    | error e => exact (spends_check_error rfl (gasFree_validateOp op e checked)).bind_blocked

theorem spends_preflight (plan : ExecutionPlan) (store : ObjectStore) :
    Spends (preflight plan store) (.new plan.gasLimit) (charged plan store)
      (plan.objectAccess.all (present store) = true ∧ plan.operations.all (valid store) = true) := by
  have base := spends_consume (.new plan.gasLimit) rfl GasCosts.defaultCosts.baseTx
  have reads := @spends_mapM _ _ _ _ _ (step_snapshot store) plan.objectAccess
    (GasMeter.spend (.new plan.gasLimit) [GasCosts.defaultCosts.baseTx]) rfl
  unfold preflight
  refine Spends.of_get ?_
  cases there : plan.objectAccess.all (present store) with
  | true =>
      rw [charged_present there]
      have checks := @spends_forM _ _ _ _ (step_validate store) plan.operations
        ((GasMeter.spend (.new plan.gasLimit) [GasCosts.defaultCosts.baseTx]).spend
          (metered (present store) (fun _ => GasCosts.defaultCosts.objectRead) plan.objectAccess)) rfl
      refine base.bind fun _ => (reads.of_iff (iff_true_intro there)).bind fun versions => ?_
      exact (checks.map fun _ => versions).of_iff (by simp)
  | false =>
      rw [charged_missing there]
      refine base.bind fun _ => ?_
      have stopped := reads.of_iff (iff_of_eq (eq_false (by simp [there])))
      exact stopped.bind_blocked.of_iff (by simp)

end Charged

section Receipt

variable (sha256 : Sha256) (plan : ExecutionPlan) (store : ObjectStore)

def FailsForGas : Prop :=
  ∃ e meter, (preflight plan store).run.run (.new plan.gasLimit) = (.error e, meter) ∧ e.lacksGas = true

def planGas : ℕ := 1000 + 100 * plan.objectAccess.length +
  (plan.operations.map fun op => (opGasCost op .defaultCosts).toNat).sum

variable {plan store}

theorem gasUsed_applyPlan : (applyPlan sha256 plan store).1.gasUsed.toNat =
    (Metering.spend plan.gasLimit.toNat (2 ^ 64) 0 ((charged plan store).map BitVec.toNat)).1 := by
  have counter := (spends_preflight plan store).counter
  have value := toNat_spend (.new plan.gasLimit) (charged plan store)
  rw [← counter] at value
  refine Eq.trans (congrArg BitVec.toNat ?_) value
  unfold applyPlan
  cases (preflight plan store).run.run (.new plan.gasLimit) with
  | mk outcome meter =>
      cases outcome with
      | error e => rfl
      | ok versions =>
          cases applyOps sha256 store [] plan.operations with
          | mk after outcome => cases outcome <;> rfl

theorem failsForGas_iff : FailsForGas plan store ↔
    plan.gasLimit.toNat < ((charged plan store).map BitVec.toNat).sum := by
  have lacks := (spends_preflight plan store).lacks
  have refused := @refused_iff _ _ 0 ((charged plan store).map BitVec.toNat) plan.gasLimit.isLt (Nat.zero_le _)
  rw [Nat.zero_add] at refused
  rw [← refused]
  refine Iff.trans ?_ lacks
  constructor
  · rintro ⟨e, meter, failed, short⟩
    exact ⟨e, congrArg Prod.fst failed, short⟩
  · rintro ⟨e, failed, short⟩
    cases ran : (preflight plan store).run.run (.new plan.gasLimit) with
    | mk outcome meter =>
        rw [ran] at failed
        obtain rfl : outcome = .error e := failed
        exact ⟨e, meter, ran, short⟩

theorem not_refused_of_success (success : (applyPlan sha256 plan store).1.success = true) :
    ¬ Refused plan store := by
  rcases applyPlan_cases sha256 plan store with ⟨-, failed, -⟩ | ⟨accepted, -⟩
  · rw [failed] at success
    cases success
  · exact accepted

theorem all_of_success (success : (applyPlan sha256 plan store).1.success = true) :
    plan.objectAccess.all (present store) = true ∧ plan.operations.all (valid store) = true := by
  obtain ⟨-, there, checks⟩ := (not_refused_iff plan store).1 (not_refused_of_success sha256 success)
  refine ⟨List.all_eq_true.2 there, List.all_eq_true.2 fun op member => ?_⟩
  rw [valid, checks op member]
  rfl

theorem charged_of_success (success : (applyPlan sha256 plan store).1.success = true) :
    ((charged plan store).map BitVec.toNat).sum = planGas plan := by
  obtain ⟨there, checks⟩ := all_of_success sha256 success
  rw [charged_present there, metered, metered, List.takeWhile_eq_self_iff.2 (List.all_eq_true.1 there),
    List.takeWhile_eq_self_iff.2 (List.all_eq_true.1 checks)]
  have reads : ((plan.objectAccess.map fun _ => GasCosts.defaultCosts.objectRead).map BitVec.toNat).sum =
      100 * plan.objectAccess.length := by
    simp [GasCosts.defaultCosts, Nat.mul_comm]
  rw [List.map_append, List.map_append, List.sum_append, List.sum_append, reads, planGas, List.map_map,
    ← Nat.add_assoc]
  rfl

end Receipt

end SettlementEngine

section Consume

def GasMeter.afterConsume (meter : GasMeter) (amount : U64) : GasMeter :=
  ((GasMeter.consume amount).run.run meter).2

/-- The product fits 64 bits after the division, and the counter takes it. -/
def GasMeter.ChargesWhole (meter : GasMeter) (amount : U64) : Prop :=
  meter.consumed.toNat + amount.toNat * meter.batchComplexityMultiplierBps.toNat / 10000 < 2 ^ 64

instance GasMeter.chargesWhole_decidable (meter : GasMeter) (amount : U64) :
    Decidable (meter.ChargesWhole amount) := Nat.decLt _ _

variable {meter : GasMeter} {amount : U64}

theorem effective_toNat (whole : meter.ChargesWhole amount) :
    (meter.effective amount).toNat = amount.toNat * meter.batchComplexityMultiplierBps.toNat / 10000 := by
  unfold GasMeter.effective
  split
  · rename_i unit
    rw [unit]
    show amount.toNat = amount.toNat * 10000 / 10000
    omega
  · have product : amount.toNat * meter.batchComplexityMultiplierBps.toNat < 2 ^ 128 :=
      (Nat.mul_lt_mul'' amount.isLt meter.batchComplexityMultiplierBps.isLt).trans_eq (by norm_num)
    have wide (x : U64) : (x.setWidth 128).toNat = x.toNat :=
      BitVec.toNat_setWidth_of_le (by decide)
    have quotient := (Nat.le_add_left ..).trans_lt whole
    rw [MachineInt.saturatingMul, wide, wide, if_pos product, BitVec.toNat_setWidth, BitVec.toNat_udiv,
      BitVec.toNat_mul, wide, wide, Nat.mod_eq_of_lt product]
    exact Nat.mod_eq_of_lt quotient

theorem afterConsume_multiplier (meter : GasMeter) (amount : U64) :
    (meter.afterConsume amount).batchComplexityMultiplierBps = meter.batchComplexityMultiplierBps := by
  rw [GasMeter.afterConsume, GasMeter.run_consume]
  split
  · rfl
  · split <;> rfl

theorem consumed_afterConsume (whole : meter.ChargesWhole amount) :
    (meter.afterConsume amount).consumed.toNat =
      meter.consumed.toNat + amount.toNat * meter.batchComplexityMultiplierBps.toNat / 10000 := by
  have effective := effective_toNat whole
  have fits : meter.consumed.toNat + (meter.effective amount).toNat < 2 ^ 64 := by rw [effective]; exact whole
  have counted : (meter.charge amount).consumed.toNat =
      meter.consumed.toNat + amount.toNat * meter.batchComplexityMultiplierBps.toNat / 10000 := by
    rw [← effective]
    exact BitVec.toNat_add_of_lt fits
  rw [GasMeter.afterConsume, GasMeter.run_consume, if_neg (Nat.not_le.2 fits)]
  split
  · exact counted
  · exact counted

theorem consumed_run (amounts : List U64) (meter : GasMeter)
    (atLeastOne : 10000 ≤ meter.batchComplexityMultiplierBps.toNat)
    (whole : Run.Along GasMeter.afterConsume GasMeter.ChargesWhole meter amounts) :
    meter.consumed.toNat + (amounts.map BitVec.toNat).sum ≤
      (amounts.foldl GasMeter.afterConsume meter).consumed.toNat := by
  induction amounts generalizing meter with
  | nil => exact Nat.le_refl _
  | cons amount amounts ih =>
      obtain ⟨here, rest⟩ := whole
      have after := ih (meter.afterConsume amount) (by rw [afterConsume_multiplier]; exact atLeastOne) rest
      have step := consumed_afterConsume here
      have rounding : amount.toNat ≤ amount.toNat * meter.batchComplexityMultiplierBps.toNat / 10000 := by
        rw [Nat.le_div_iff_mul_le (by decide)]
        exact Nat.mul_le_mul_left _ atLeastOne
      rw [List.map_cons, List.sum_cons, List.foldl_cons]
      omega

end Consume

namespace SettlementEngine

/-- A plan's gas stays within its limit exactly if no part of its charges lies between the limit and the
capacity of the counter; it lacks no gas exactly if the limit covers the charges that it meets; and calls of
`consume` count at least their costs as long as each is charged whole. -/
theorem gas_metering_iff (sha256 : Sha256) :
    (∀ plan store, (applyPlan sha256 plan store).1.gasUsed ≤ plan.gasLimit ↔
      ∀ before, before <+: (charged plan store).map BitVec.toNat →
        before.sum ≤ plan.gasLimit.toNat ∨ 2 ^ 64 ≤ before.sum) ∧
    (∀ plan store, estimateGas plan.operations .defaultCosts ≤ plan.gasLimit →
      (¬ FailsForGas plan store ↔ ((charged plan store).map BitVec.toNat).sum ≤ plan.gasLimit.toNat)) ∧
    ∀ (meter : GasMeter) amounts, 10000 ≤ meter.batchComplexityMultiplierBps.toNat →
      Run.Along GasMeter.afterConsume GasMeter.ChargesWhole meter amounts →
      meter.consumed.toNat + (amounts.map BitVec.toNat).sum ≤
        (amounts.foldl GasMeter.afterConsume meter).consumed.toNat := by
  refine ⟨fun plan store => ?_, fun plan store _ => ?_, fun meter amounts atLeastOne whole => ?_⟩
  · rw [BitVec.le_def, gasUsed_applyPlan]
    simpa only [Nat.zero_add] using
      @spent_le_iff plan.gasLimit.toNat (2 ^ 64) 0 ((charged plan store).map BitVec.toNat) (Nat.zero_le _)
  · rw [failsForGas_iff, Nat.not_lt]
  · exact consumed_run amounts meter atLeastOne whole

def doubleMeter (limit : U64) : GasMeter :=
  { limit, consumed := 0, costs := .defaultCosts, batchComplexityMultiplierBps := 20000 }

theorem doubleMeter_counts :
    8 ≤ ([3, 5].foldl GasMeter.afterConsume (doubleMeter 100)).consumed.toNat :=
  (gas_metering_iff fun _ => 0).2.2 (doubleMeter 100) [3, 5] (by decide)
    ⟨by decide,
      by rw [GasMeter.ChargesWhole, consumed_afterConsume (by decide), afterConsume_multiplier]; decide,
      trivial⟩

def readBalance : BalanceObject := .new 1 2 3 0 0

def readingPlan : ExecutionPlan :=
  { txId := 0, operations := [], requiredCapabilities := [], objectAccess := [.write 1]
    gasEstimate := estimateGas [] .defaultCosts, gasLimit := estimateGas [] .defaultCosts }

def readingStore : ObjectStore := ObjectStore.new.insert (.balance readBalance)

theorem charged_reading : charged readingPlan readingStore = [1000, 100] := by
  have there : present readingStore (.write 1) = true := by
    show ((KeyedMap.empty.insert (BoxedObject.balance readBalance)).get? 1).isSome = true
    rw [KeyedMap.get?_insert]
    rfl
  have reads : List.takeWhile (present readingStore) [ObjectAccess.write 1] = [.write 1] := by
    rw [List.takeWhile_cons_of_pos there, List.takeWhile_nil]
  simp only [charged, metered, readingPlan, reads]
  simp [GasCosts.defaultCosts]

/-- The estimate leaves out what reading costs: the plan fails, with more gas used than its limit. And a
charge of 2^63 at twice its cost counts nothing. -/
theorem reading_lacks_gas :
    FailsForGas readingPlan readingStore ∧
      (¬ ∃ sha256, (applyPlan sha256 readingPlan readingStore).1.gasUsed ≤ readingPlan.gasLimit) ∧
      ((doubleMeter 100).afterConsume (2 ^ 63)).consumed = 0 := by
  refine ⟨failsForGas_iff.2 ?_, ?_, by rw [GasMeter.afterConsume, GasMeter.run_consume]; decide +kernel⟩
  · rw [charged_reading]
    decide
  · rintro ⟨sha256, within⟩
    rw [BitVec.le_def, gasUsed_applyPlan, charged_reading] at within
    revert within
    decide

end SettlementEngine

end Omniphi.Runtime
