import Omniphi.Runtime.Settlement

/-! What settling one plan does, case by case, and settlement of groups as a run over plans. -/

namespace Omniphi.Runtime.SettlementEngine

theorem orNotFound_ok {α : Type} {found : Option α} {id : ObjectId} {value : α} :
    orNotFound found id = .ok value ↔ found = some value := by
  cases found <;> simp [orNotFound]

section Bind

/-! An `Except` computation that returns did so at every step. -/

theorem bind_ok {ε α β : Type} {x : Except ε α} {f : α → Except ε β} {r : β} :
    (x >>= f) = .ok r ↔ ∃ a, x = .ok a ∧ f a = .ok r := by
  cases x <;> simp [bind, Except.bind]

theorem guard_ok {ε α : Type} {P : Prop} [Decidable P] {e : ε} {f : PUnit → Except ε α}
    {x : Except ε α} {r : α} :
    (if P then (throw e : Except ε PUnit) >>= f else x) = .ok r ↔ ¬ P ∧ x = .ok r := by
  by_cases fails : P
  · simp only [fails, if_true, not_true_eq_false, false_and, iff_false]
    rintro ⟨⟩
  · simp only [fails, if_false, not_false_eq_true, true_and]

end Bind

theorem asContract_eq_some {object : BoxedObject} {contract : ContractObject} :
    object.asContract = some contract ↔ object = .contract contract := by
  cases object <;> simp [BoxedObject.asContract]

variable (sha256 : Sha256)

section Metered

variable {α β : Type}

def Returns (x : Metered α) (meter : GasMeter) (a : α) (final : GasMeter) : Prop :=
  x.run.run meter = (.ok a, final)

variable {meter final : GasMeter}

theorem returns_bind {x : Metered α} {f : α → Metered β} {b : β} :
    Returns (x >>= f) meter b final ↔
      ∃ a between, Returns x meter a between ∧ Returns (f a) between b final := by
  unfold Returns
  rw [ExceptT.run_bind, StateT.run_bind]
  cases ran : x.run.run meter with
  | mk outcome between =>
      cases outcome with
      | error e =>
          constructor
          · intro returned
            cases returned
          · rintro ⟨a, other, same, -⟩
            cases same
      | ok a =>
          constructor
          · intro returned
            exact ⟨a, between, rfl, returned⟩
          · rintro ⟨a', between', same, returned⟩
            cases same
            exact returned

theorem returns_lift {x : Except RuntimeError α} {a : α} :
    Returns (liftM x : Metered α) meter a final ↔ x = .ok a ∧ meter = final := by
  cases x with
  | error e => exact ⟨fun returned => (by cases returned), fun same => (by cases same.1)⟩
  | ok b =>
      constructor
      · intro returned
        cases returned
        exact ⟨rfl, rfl⟩
      · rintro ⟨same, rfl⟩
        cases same
        rfl

theorem returns_pure {a b : α} :
    Returns (pure a : Metered α) meter b final ↔ a = b ∧ meter = final := by
  constructor
  · intro returned
    cases returned
    exact ⟨rfl, rfl⟩
  · rintro ⟨rfl, rfl⟩
    rfl

end Metered

section Preflight

/-- The plan is turned down before anything is applied: out of gas, an accessed object is missing, or
an operation is invalid in the store as it stands. -/
def Refused (plan : ExecutionPlan) (store : ObjectStore) : Prop :=
  ∃ e meter, (preflight plan store).run.run (GasMeter.new plan.gasLimit) = (.error e, meter)

theorem snapshot_returns (store : ObjectStore) (costs : GasCosts) (accesses : List ObjectAccess)
    (meter final : GasMeter) :
    (∃ versions, Returns (accesses.mapM fun access => (do
        let object ← orNotFound (store.get access.objectId) access.objectId
        GasMeter.consume costs.objectRead
        return (access.objectId, object.info.version))) meter versions final) ↔
      (∀ access ∈ accesses, (store.get access.objectId).isSome) ∧
        Returns (accesses.forM fun _ => GasMeter.consume costs.objectRead) meter () final := by
  induction accesses generalizing meter with
  | nil => simp [List.forM, returns_pure]
  | cons access accesses ih =>
      simp only [List.mapM_cons, List.forM, returns_bind, returns_lift, returns_pure,
        orNotFound_ok, List.forall_mem_cons, Option.isSome_iff_exists]
      constructor
      · rintro ⟨_, _, _, ⟨object, _, ⟨found, rfl⟩, _, _, charged, -, rfl⟩, rest, _, taken, -, rfl⟩
        obtain ⟨present, charges⟩ := (ih _).1 ⟨rest, taken⟩
        simp only [Option.isSome_iff_exists] at present
        exact ⟨⟨⟨object, found⟩, present⟩, _, _, charged, charges⟩
      · rintro ⟨⟨⟨object, found⟩, present⟩, _, between, charged, charges⟩
        simp only [← Option.isSome_iff_exists] at present
        obtain ⟨rest, taken⟩ := (ih between).2 ⟨present, charges⟩
        exact ⟨_, _, between, ⟨object, _, ⟨found, rfl⟩, _, _, charged, rfl, rfl⟩, rest, _, taken, rfl, rfl⟩

theorem validate_returns (store : ObjectStore) (costs : GasCosts) (ops : List ObjectOperation)
    (meter final : GasMeter) :
    Returns (ops.forM fun op => (do
        validateOp store op
        GasMeter.consume (opGasCost op costs))) meter () final ↔
      (∀ op ∈ ops, validateOp store op = .ok ()) ∧
        Returns (ops.forM fun op => GasMeter.consume (opGasCost op costs)) meter () final := by
  induction ops generalizing meter with
  | nil => simp [List.forM]
  | cons op ops ih =>
      simp only [List.forM, returns_bind, returns_lift, List.forall_mem_cons, ih]
      constructor
      · rintro ⟨_, between, ⟨_, _, ⟨valid, rfl⟩, charged⟩, rest, charges⟩
        exact ⟨⟨valid, rest⟩, _, between, charged, charges⟩
      · rintro ⟨⟨valid, rest⟩, _, between, charged, charges⟩
        exact ⟨(), between, ⟨(), meter, ⟨valid, rfl⟩, charged⟩, rest, charges⟩

def charges (plan : ExecutionPlan) : Metered Unit := do
  let costs := (← get).costs
  GasMeter.consume costs.baseTx
  plan.objectAccess.forM fun _ => GasMeter.consume costs.objectRead
  plan.operations.forM fun op => GasMeter.consume (opGasCost op costs)

def GasCovers (plan : ExecutionPlan) : Prop :=
  ∃ final, Returns (charges plan) (GasMeter.new plan.gasLimit) () final

theorem not_refused_iff (plan : ExecutionPlan) (store : ObjectStore) :
    ¬ Refused plan store ↔ GasCovers plan ∧
      (∀ access ∈ plan.objectAccess, (store.get access.objectId).isSome) ∧
      ∀ op ∈ plan.operations, validateOp store op = .ok () := by
  have accepted : ¬ Refused plan store ↔
      ∃ versions final, Returns (preflight plan store) (GasMeter.new plan.gasLimit) versions final := by
    unfold Refused Returns
    cases (preflight plan store).run.run (GasMeter.new plan.gasLimit) with
    | mk outcome meter =>
        cases outcome with
        | error e =>
            refine ⟨fun accepted => absurd ⟨e, meter, rfl⟩ accepted, ?_⟩
            rintro ⟨versions, final, same⟩
            cases same
        | ok versions =>
            refine ⟨fun _ => ⟨versions, meter, rfl⟩, ?_⟩
            rintro - ⟨e, final, same⟩
            cases same
  rw [accepted]
  simp only [GasCovers, preflight, charges, returns_bind, returns_pure]
  constructor
  · rintro ⟨_, final, meter, _, got, _, _, paid, versions, _, taken, _, _, checked, -, rfl⟩
    obtain ⟨present, reads⟩ := (snapshot_returns store _ _ _ _).1 ⟨versions, taken⟩
    obtain ⟨valid, charged⟩ := (validate_returns store _ _ _ _).1 checked
    exact ⟨⟨_, _, _, got, _, _, paid, _, _, reads, charged⟩, present, valid⟩
  · rintro ⟨⟨final, meter, _, got, _, _, paid, _, _, reads, charged⟩, present, valid⟩
    obtain ⟨versions, taken⟩ := (snapshot_returns store _ _ _ _).2 ⟨present, reads⟩
    have checked := (validate_returns store _ _ _ _).2 ⟨valid, charged⟩
    exact ⟨_, _, _, _, got, _, _, paid, versions, _, taken, _, _, checked, rfl, rfl⟩

end Preflight

section Plan

theorem applyPlan_cases (plan : ExecutionPlan) (store : ObjectStore) :
    (Refused plan store ∧ (applyPlan sha256 plan store).1.success = false ∧
      (applyPlan sha256 plan store).2 = store) ∨
    ¬ Refused plan store ∧
      ((∃ after e, applyOps sha256 store [] plan.operations = (after, .error e) ∧
        (applyPlan sha256 plan store).1.success = false ∧ (applyPlan sha256 plan store).2 = after) ∨
      ∃ after affected, applyOps sha256 store [] plan.operations = (after, .ok affected) ∧
        (applyPlan sha256 plan store).1.success = true ∧
        (applyPlan sha256 plan store).2 =
          ((mutatedIds affected).foldl bumpVersion after).syncTypedToCanonical) := by
  unfold applyPlan Refused
  cases checked : (preflight plan store).run.run (GasMeter.new plan.gasLimit) with
  | mk outcome meter =>
      cases outcome with
      | error e => exact .inl ⟨⟨e, meter, rfl⟩, rfl, rfl⟩
      | ok oldVersions =>
          refine .inr ⟨?_, ?_⟩
          · rintro ⟨e, other, same⟩
            cases same
          · cases applied : applyOps sha256 store [] plan.operations with
            | mk after outcome =>
                cases outcome with
                | error e => exact .inl ⟨after, e, rfl, rfl, rfl⟩
                | ok affected => exact .inr ⟨after, affected, rfl, rfl, rfl⟩

end Plan

section Groups

variable (epoch : U64)

def planStep (store : ObjectStore) (plan : ExecutionPlan) : ObjectStore :=
  (applyPlanWithEffects sha256 plan store epoch).2

theorem settle_store (progress : Progress) (plan : ExecutionPlan) :
    (settle sha256 epoch progress plan).store = planStep sha256 epoch progress.store plan := by
  rw [settle, planStep]
  cases applyPlanWithEffects sha256 plan progress.store epoch with
  | mk result store =>
      dsimp only
      split <;> rfl

theorem foldl_settle_store (plans : List ExecutionPlan) (progress : Progress) :
    (plans.foldl (settle sha256 epoch) progress).store =
      plans.foldl (planStep sha256 epoch) progress.store := by
  induction plans generalizing progress with
  | nil => rfl
  | cons plan plans ih => rw [List.foldl_cons, ih, settle_store, List.foldl_cons]

theorem executeGroups_store (encode : BoxedObject → Bytes) (groups : List ExecutionGroup)
    (store : ObjectStore) :
    (executeGroups sha256 encode groups store epoch).2 =
      ((executionOrder groups).foldl (planStep sha256 epoch) store).syncTypedToCanonical := by
  rw [executeGroups, foldl_settle_store]
  rfl

end Groups

end Omniphi.Runtime.SettlementEngine
