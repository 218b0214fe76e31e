import Omniphi.Lib.Footprint
import Omniphi.Runtime.Cells
import Omniphi.Runtime.ScheduleOrder
import Omniphi.Runtime.StoreInvariant

/-! Groups leave the store that the plans leave one by one in canonical order, when the groups keep
the order of conflicting plans and plans that interfere are reported as conflicting. A failed plan
leaves overlay entries that are not in the canonical map yet, so stores are compared after a flush. -/

namespace Omniphi.Runtime

namespace Cell

/-- An overlay entry stands beside a canonical object of its type and owner. Amounts and versions may
differ until the next flush. -/
structure Aligned (cell : Cell) : Prop where
  balance : ∀ b, cell.balance = some b → ∃ old, cell.object = some (.balance old) ∧
    old.info.owner = b.info.owner
  pool : ∀ p, cell.pool = some p → ∃ old, cell.object = some (.pool old) ∧
    old.info.owner = p.info.owner
  vault : ∀ v, cell.vault = some v → ∃ old, cell.object = some (.vault old) ∧
    old.info.owner = v.info.owner

variable {cell : Cell}

theorem Aligned.shape (aligned : cell.Aligned) :
    (∃ object, cell = ⟨object, none, none, none⟩) ∨
    (∃ old b, cell = ⟨some (.balance old), some b, none, none⟩ ∧ old.info.owner = b.info.owner) ∨
    (∃ old p, cell = ⟨some (.pool old), none, some p, none⟩ ∧ old.info.owner = p.info.owner) ∨
    (∃ old v, cell = ⟨some (.vault old), none, none, some v⟩ ∧ old.info.owner = v.info.owner) := by
  obtain ⟨balance, pool, vault⟩ := aligned
  rcases cell with ⟨object, b, p, v⟩
  cases b with
  | some b =>
      obtain ⟨old, rfl, owner⟩ := balance b rfl
      obtain rfl : p = none := by
        cases p with
        | none => rfl
        | some p => obtain ⟨_, same, -⟩ := pool p rfl; cases same
      obtain rfl : v = none := by
        cases v with
        | none => rfl
        | some v => obtain ⟨_, same, -⟩ := vault v rfl; cases same
      exact .inr (.inl ⟨old, b, rfl, owner⟩)
  | none =>
      cases p with
      | some p =>
          obtain ⟨old, rfl, owner⟩ := pool p rfl
          obtain rfl : v = none := by
            cases v with
            | none => rfl
            | some v => obtain ⟨_, same, -⟩ := vault v rfl; cases same
          exact .inr (.inr (.inl ⟨old, p, rfl, owner⟩))
      | none =>
          cases v with
          | some v =>
              obtain ⟨old, rfl, owner⟩ := vault v rfl
              exact .inr (.inr (.inr ⟨old, v, rfl, owner⟩))
          | none => exact .inl ⟨object, rfl⟩

theorem Aligned.sync (aligned : cell.Aligned) : cell.sync.Aligned := by
  rcases aligned.shape with ⟨object, rfl⟩ | ⟨old, b, rfl, -⟩ | ⟨old, p, rfl, -⟩ | ⟨old, v, rfl, -⟩
  · constructor <;> rintro entry ⟨⟩
  all_goals constructor <;> rintro entry ⟨⟩; exact ⟨_, rfl, rfl⟩

theorem Aligned.bump (aligned : cell.Aligned) : cell.bump.Aligned := by
  rcases aligned.shape with ⟨object, rfl⟩ | ⟨old, b, rfl, owner⟩ | ⟨old, p, rfl, owner⟩ |
    ⟨old, v, rfl, owner⟩
  · constructor <;> rintro entry ⟨⟩
  all_goals constructor <;> rintro entry ⟨⟩; exact ⟨_, rfl, owner⟩

def NoOverlay (cell : Cell) : Prop := cell.balance = none ∧ cell.pool = none ∧ cell.vault = none

end Cell

namespace SettlementEngine

variable (sha256 : Sha256)

def TokenFree (cell : Cell) : ObjectOperation → Prop
  | .createToken .. => cell.NoOverlay
  | _ => True

section Flush

theorem applyCell_sync {cell : Cell} (aligned : cell.Aligned) {op : ObjectOperation}
    (free : TokenFree cell op) :
    (applyCell sha256 cell.sync op).map Cell.sync = (applyCell sha256 cell op).map Cell.sync := by
  rcases aligned.shape with ⟨object, rfl⟩ | ⟨old, b, rfl, -⟩ | ⟨old, p, rfl, -⟩ | ⟨old, v, rfl, -⟩
  · cases object <;> rfl
  all_goals
    cases op with
    | createToken => simp [TokenFree, Cell.NoOverlay] at free
    | debitBalance balanceId amount =>
        first
        | rfl
        | simp only [applyCell, Cell.sync, orNotFound, bind, Except.bind]
          cases MachineInt.checkedSub b.amount amount <;> rfl
    | unlockBalance balanceId amount =>
        first
        | rfl
        | simp only [applyCell, Cell.sync, orNotFound, bind, Except.bind]
          cases MachineInt.checkedSub b.lockedAmount amount <;> rfl
    | _ => rfl

theorem applyCell_aligned {cell next : Cell} (aligned : cell.Aligned) {op : ObjectOperation}
    (free : TokenFree cell op) (applied : applyCell sha256 cell op = .ok next) :
    next.Aligned ∧ (cell.NoOverlay → next.NoOverlay) := by
  rcases aligned.shape with ⟨object, rfl⟩ | ⟨old, b, rfl, owner⟩ | ⟨old, p, rfl, owner⟩ |
    ⟨old, v, rfl, owner⟩
  · obtain ⟨object', rfl⟩ : ∃ object', next = ⟨object', none, none, none⟩ := by
      cases op with
      | debitBalance | creditBalance | lockBalance | unlockBalance | swapPoolAmounts => cases applied
      | transferOwnership objectId newOwner =>
          obtain ⟨_, -, applied⟩ := bind_ok.1 applied
          cases applied
          exact ⟨_, rfl⟩
      | contractStateTransition contractId schemaId proposedState =>
          obtain ⟨_, -, applied⟩ := bind_ok.1 applied
          split at applied <;> cases applied
          exact ⟨_, rfl⟩
      | _ =>
          cases applied
          exact ⟨_, rfl⟩
    exact ⟨by constructor <;> rintro entry ⟨⟩, fun _ => ⟨rfl, rfl, rfl⟩⟩
  · refine ⟨?_, fun none => by cases none.1⟩
    cases op with
    | debitBalance balanceId amount | unlockBalance balanceId amount =>
        obtain ⟨_, -, applied⟩ := bind_ok.1 applied
        split at applied <;> cases applied
        constructor <;> rintro entry ⟨⟩
        exact ⟨_, rfl, owner⟩
    | swapPoolAmounts | contractStateTransition => cases applied
    | createToken => simp [TokenFree, Cell.NoOverlay] at free
    | transferOwnership objectId newOwner =>
        cases applied
        constructor <;> rintro entry ⟨⟩
        exact ⟨_, rfl, rfl⟩
    | _ =>
        cases applied
        constructor <;> rintro entry ⟨⟩
        exact ⟨_, rfl, owner⟩
  · refine ⟨?_, fun none => by cases none.2.1⟩
    cases op with
    | debitBalance | creditBalance | lockBalance | unlockBalance | contractStateTransition =>
        cases applied
    | createToken => simp [TokenFree, Cell.NoOverlay] at free
    | transferOwnership objectId newOwner =>
        cases applied
        constructor <;> rintro entry ⟨⟩
        exact ⟨_, rfl, rfl⟩
    | _ =>
        cases applied
        constructor <;> rintro entry ⟨⟩
        exact ⟨_, rfl, owner⟩
  · refine ⟨?_, fun none => by cases none.2.2⟩
    cases op with
    | debitBalance | creditBalance | lockBalance | unlockBalance | swapPoolAmounts
    | contractStateTransition => cases applied
    | createToken => simp [TokenFree, Cell.NoOverlay] at free
    | transferOwnership objectId newOwner =>
        cases applied
        constructor <;> rintro entry ⟨⟩
        exact ⟨_, rfl, rfl⟩
    | _ =>
        cases applied
        constructor <;> rintro entry ⟨⟩
        exact ⟨_, rfl, owner⟩

end Flush

section Check

def view (object : BoxedObject) : Bytes32 × ObjectType × Option ContractObject :=
  (object.info.owner, object.objectType, object.asContract)

structure SameView (one other : Cell) : Prop where
  balance : one.balance = other.balance
  pool : one.pool = other.pool
  object : one.object.map view = other.object.map view

theorem SameView.refl (cell : Cell) : SameView cell cell := ⟨rfl, rfl, rfl⟩

theorem sameView_sync {cell : Cell} (aligned : cell.Aligned) : SameView cell.sync cell := by
  refine ⟨rfl, rfl, ?_⟩
  rcases aligned.shape with ⟨object, rfl⟩ | ⟨old, b, rfl, owner⟩ | ⟨old, p, rfl, owner⟩ |
    ⟨old, v, rfl, owner⟩
  · cases object <;> rfl
  all_goals simp [Cell.sync, Cell.overlay, view, BoxedObject.info, BoxedObject.objectType,
    BoxedObject.asContract, owner]

theorem SameView.present {one other : Cell} (same : SameView one other) :
    one.object.isSome = other.object.isSome := by
  simpa using congrArg Option.isSome same.object

theorem orNotFound_bind_congr {α : Type} {one other : Option BoxedObject}
    (same : one.map view = other.map view) (id : ObjectId)
    {check check' : BoxedObject → Except RuntimeError α}
    (agree : ∀ a b, view a = view b → check a = check' b) :
    (orNotFound one id >>= check) = (orNotFound other id >>= check') := by
  cases one with
  | none =>
      cases other with
      | none => rfl
      | some b => cases same
  | some a =>
      cases other with
      | none => cases same
      | some b => exact agree a b (Option.some.inj same)

theorem validateOp_congr {store other : ObjectStore} {op : ObjectOperation}
    (same : ∀ id ∈ op.checked sha256, SameView (store.cell id) (other.cell id)) :
    validateOp store op = validateOp other op := by
  cases op with
  | debitBalance balanceId amount | lockBalance balanceId amount =>
      have here := (same balanceId (by simp [ObjectOperation.checked, ObjectOperation.target])).balance
      simp only [validateOp, validateAvailable, ObjectStore.getBalanceById_eq, here]
  | creditBalance balanceId amount | unlockBalance balanceId amount =>
      have here := (same balanceId (by simp [ObjectOperation.checked, ObjectOperation.target])).balance
      simp only [validateOp, ObjectStore.getBalanceById_eq, here]
  | swapPoolAmounts poolId deltaA deltaB =>
      have here := (same poolId (by simp [ObjectOperation.checked, ObjectOperation.target])).pool
      simp only [validateOp, ObjectStore.getPoolById_eq, here]
  | createToken => rfl
  | bindContractBalance contractId balanceId schemaId assetId label =>
      have contract := (same contractId (by simp [ObjectOperation.checked])).object
      have balance := (same balanceId (by simp [ObjectOperation.checked])).object
      refine orNotFound_bind_congr contract _ fun a b viewed => ?_
      refine orNotFound_bind_congr balance _ fun _ _ _ => ?_
      rw [(Prod.mk.inj (Prod.mk.inj viewed).2).1]
  | transferOwnership objectId newOwner =>
      have here := (same objectId (by simp [ObjectOperation.checked, ObjectOperation.target])).object
      refine orNotFound_bind_congr here _ fun a b viewed => ?_
      rw [(Prod.mk.inj viewed).1]
  | contractStateTransition contractId schemaId proposedState =>
      have here := (same contractId (by simp [ObjectOperation.checked, ObjectOperation.target])).object
      refine orNotFound_bind_congr here _ fun a b viewed => ?_
      obtain ⟨-, type, contract⟩ := Prod.mk.inj viewed |>.imp id Prod.mk.inj
      rw [type, contract]
  | emitContractEvent contractId schemaId eventType indexed data =>
      have here := (same contractId (by simp [ObjectOperation.checked, ObjectOperation.target])).object
      refine orNotFound_bind_congr here _ fun a b viewed => ?_
      rw [(Prod.mk.inj (Prod.mk.inj viewed).2).1]
  | updateVersion objectId =>
      have here := (same objectId (by simp [ObjectOperation.checked, ObjectOperation.target])).object
      exact orNotFound_bind_congr here _ fun _ _ _ => rfl
  | ibcTransfer sourceContract =>
      have here := (same sourceContract (by simp [ObjectOperation.checked, ObjectOperation.target])).object
      exact orNotFound_bind_congr here _ fun _ _ _ => rfl
  | scheduleExecution contractId =>
      have here := (same contractId (by simp [ObjectOperation.checked, ObjectOperation.target])).object
      exact orNotFound_bind_congr here _ fun _ _ _ => rfl

end Check

end SettlementEngine

section Footprints

variable (sha256 : Sha256)

def ObjectOperation.created (op : ObjectOperation) : List ObjectId :=
  match op with
  | .createToken .. => [op.target sha256]
  | _ => []

namespace ExecutionPlan

def writes (plan : ExecutionPlan) : List ObjectId :=
  plan.operations.flatMap (ObjectOperation.touched sha256)

/-- The objects that decide what settling the plan does: those it declares, which have to exist,
those its operations are checked against, and those it changes. -/
def reads (plan : ExecutionPlan) : List ObjectId :=
  plan.objectAccess.map ObjectAccess.objectId ++
    plan.operations.flatMap (ObjectOperation.checked sha256) ++ plan.writes sha256

def created (plan : ExecutionPlan) : List ObjectId :=
  plan.operations.flatMap (ObjectOperation.created sha256)

theorem target_mem_writes {plan : ExecutionPlan} {op : ObjectOperation}
    (member : op ∈ plan.operations) : op.target sha256 ∈ plan.writes sha256 :=
  List.mem_flatMap.2 ⟨op, member, op.target_mem_touched sha256⟩

theorem writes_subset_reads {plan : ExecutionPlan} {id : ObjectId}
    (written : id ∈ plan.writes sha256) : id ∈ plan.reads sha256 :=
  List.mem_append_right _ written

def Interferes (one other : ExecutionPlan) : Prop :=
  ∃ id ∈ one.writes sha256, id ∈ other.reads sha256

end ExecutionPlan

end Footprints

namespace SettlementEngine

open ExecutionPlan

variable {sha256 : Sha256} {tokens : List ObjectId}

def Ready (tokens : List ObjectId) (id : ObjectId) (cell : Cell) : Prop :=
  cell.Aligned ∧ (id ∈ tokens → cell.NoOverlay)

section Step

variable {plan : ExecutionPlan} (listed : ∀ id ∈ plan.created sha256, id ∈ tokens)

include listed

theorem tokenFree_of_ready {op : ObjectOperation} (member : op ∈ plan.operations) {cell : Cell}
    (ready : Ready tokens (op.target sha256) cell) : TokenFree cell op := by
  cases op with
  | createToken =>
      exact ready.2 (listed _ (List.mem_flatMap.2 ⟨_, member, List.mem_singleton.2 rfl⟩))
  | _ => trivial

theorem ready_applyCell {op : ObjectOperation} (member : op ∈ plan.operations) {cell next : Cell}
    (ready : Ready tokens (op.target sha256) cell) (applied : applyCell sha256 cell op = .ok next) :
    Ready tokens (op.target sha256) next := by
  obtain ⟨aligned, keeps⟩ := applyCell_aligned sha256 ready.1
    (tokenFree_of_ready listed member ready) applied
  exact ⟨aligned, fun token => keeps (ready.2 token)⟩

omit listed in
theorem ready_bump {id : ObjectId} {cell : Cell} (ready : Ready tokens id cell) :
    Ready tokens id cell.bump := by
  refine ⟨ready.1.bump, fun token => ?_⟩
  obtain ⟨balance, pool, vault⟩ := ready.2 token
  simp [Cell.NoOverlay, Cell.bump, balance, pool, vault]

omit listed in
theorem ready_sync {id : ObjectId} {cell : Cell} (ready : Ready tokens id cell) :
    Ready tokens id cell.sync :=
  ⟨ready.1.sync, ready.2⟩

theorem ready_applyPlan {store : ObjectStore} (ready : ∀ id, Ready tokens id (store.cell id)) :
    ∀ id, Ready tokens id ((applyPlan sha256 plan store).2.cell id) :=
  applyPlan_forall (fun _ member _ _ => ready_applyCell listed member) (fun _ _ => ready_bump)
    (fun _ _ => ready_sync) ready

omit listed in
variable (sha256) in
theorem refused_congr {store mirror : ObjectStore}
    (same : ∀ id ∈ plan.reads sha256, SameView (store.cell id) (mirror.cell id)) :
    Refused plan store ↔ Refused plan mirror := by
  have presence : ∀ access ∈ plan.objectAccess,
      (store.get access.objectId).isSome = (mirror.get access.objectId).isSome := by
    intro access member
    refine (same _ ?_).present
    exact List.mem_append_left _ (List.mem_append_left _ (List.mem_map_of_mem member))
  have validity : ∀ op ∈ plan.operations, validateOp store op = validateOp mirror op := by
    intro op member
    refine validateOp_congr sha256 fun id checked => same id ?_
    exact List.mem_append_left _ (List.mem_append_right _ (List.mem_flatMap.2 ⟨op, member, checked⟩))
  rw [← not_iff_not, not_refused_iff, not_refused_iff]
  refine and_congr_right fun _ => and_congr ?_ ?_
  · exact forall₂_congr fun access member => by rw [presence access member]
  · exact forall₂_congr fun op member => by rw [validity op member]

theorem applyPlan_flush {store : ObjectStore} (ready : ∀ id, Ready tokens id (store.cell id))
    (id : ObjectId) :
    ((applyPlan sha256 plan store.syncTypedToCanonical).2.cell id).sync =
      ((applyPlan sha256 plan store).2.cell id).sync := by
  have related : Ready tokens id ((applyPlan sha256 plan store.syncTypedToCanonical).2.cell id) ∧
      Ready tokens id ((applyPlan sha256 plan store).2.cell id) ∧
      ((applyPlan sha256 plan store.syncTypedToCanonical).2.cell id).sync =
        ((applyPlan sha256 plan store).2.cell id).sync := ?_
  · exact related.2.2
  refine applyPlan_simulates (R := fun id one other =>
    Ready tokens id one ∧ Ready tokens id other ∧ one.sync = other.sync) ?_ ?_ ?_ ?_ ?_ id
  · rintro op member one other ⟨readyOne, readyOther, same⟩
    have agree : (applyCell sha256 one op).map Cell.sync = (applyCell sha256 other op).map Cell.sync := by
      rw [← applyCell_sync sha256 readyOne.1 (tokenFree_of_ready listed member readyOne), same,
        applyCell_sync sha256 readyOther.1 (tokenFree_of_ready listed member readyOther)]
    cases effect : applyCell sha256 one op <;> cases effect' : applyCell sha256 other op <;>
      rw [effect, effect'] at agree
    · exact Except.error.inj agree
    · cases agree
    · cases agree
    · exact ⟨ready_applyCell listed member readyOne effect,
        ready_applyCell listed member readyOther effect', Except.ok.inj agree⟩
  · rintro id one other ⟨readyOne, readyOther, same⟩
    refine ⟨ready_bump readyOne, ready_bump readyOther, ?_⟩
    rw [← one.bump_sync, same, other.bump_sync]
  · rintro id one other ⟨readyOne, readyOther, same⟩
    refine ⟨ready_sync readyOne, ready_sync readyOther, ?_⟩
    rw [one.sync_sync, other.sync_sync, same]
  · intro id
    rw [store.cell_sync]
    exact ⟨ready_sync (ready id), ready id, Cell.sync_sync _⟩
  · refine refused_congr sha256 fun id _ => ?_
    rw [store.cell_sync]
    exact sameView_sync (ready id).1

def flushStep (sha256 : Sha256) (store : ObjectStore) (plan : ExecutionPlan) : ObjectStore :=
  (applyPlan sha256 plan store).2.syncTypedToCanonical

def Flushed (tokens : List ObjectId) (store : ObjectStore) : Prop :=
  (∀ id, Ready tokens id (store.cell id)) ∧ ∀ id, (store.cell id).sync = store.cell id

theorem confined_flushStep :
    Footprint.Confined ObjectStore.cell (Flushed tokens) (flushStep sha256 · plan)
      {id | id ∈ plan.reads sha256} {id | id ∈ plan.writes sha256} where
  keeps := by
    rintro store ⟨ready, -⟩
    constructor
    · intro id
      rw [flushStep, ObjectStore.cell_sync]
      exact ready_sync (ready_applyPlan listed ready id)
    · intro id
      rw [flushStep, ObjectStore.cell_sync, Cell.sync_sync]
  frame := by
    rintro store ⟨-, flushed⟩ id untouched
    rw [flushStep, ObjectStore.cell_sync, applyPlan_frame sha256 plan store untouched, flushed]
  depends := by
    rintro store mirror - - agree id written
    rw [flushStep, flushStep, ObjectStore.cell_sync, ObjectStore.cell_sync]
    have same : (applyPlan sha256 plan store).2.cell id = (applyPlan sha256 plan mirror).2.cell id := by
      refine applyPlan_simulates (R := fun id one other => id ∈ plan.reads sha256 → one = other)
        ?_ ?_ ?_ agree ?_ id (writes_subset_reads sha256 written)
      · intro op member one other same
        obtain rfl := same (writes_subset_reads sha256 (target_mem_writes sha256 member))
        cases applyCell sha256 one op
        · exact rfl
        · exact fun _ => rfl
      · intro id one other same read
        rw [same read]
      · intro id one other same read
        rw [same read]
      · exact refused_congr sha256 fun id read => agree id read ▸ SameView.refl _
    rw [same]

end Step

theorem foldl_flush (epoch : U64) {plans : List ExecutionPlan}
    (listed : ∀ plan ∈ plans, ∀ id ∈ plan.created sha256, id ∈ tokens) {store : ObjectStore}
    (ready : ∀ id, Ready tokens id (store.cell id)) :
    (plans.foldl (planStep sha256 epoch) store).syncTypedToCanonical =
      plans.foldl (flushStep sha256) store.syncTypedToCanonical := by
  induction plans generalizing store with
  | nil => rfl
  | cons plan plans ih =>
      have here := listed plan List.mem_cons_self
      have same : flushStep sha256 store.syncTypedToCanonical plan =
          (applyPlan sha256 plan store).2.syncTypedToCanonical := by
        apply ObjectStore.ext_cell
        intro id
        rw [flushStep, ObjectStore.cell_sync, ObjectStore.cell_sync, applyPlan_flush here ready]
      rw [List.foldl_cons, List.foldl_cons, planStep_eq, same]
      exact ih (fun other member => listed other (List.mem_cons_of_mem _ member))
        (ready_applyPlan here ready)

section Schedule

open ParallelScheduler

/-- Plans that interfere are reported as conflicting: what their operations touch is declared. -/
def Declared (sha256 : Sha256) (plans : List ExecutionPlan) : Prop :=
  ∀ one ∈ plans, ∀ other ∈ plans, one ≠ other → Interferes sha256 one other → conflicts one other

def oneByOne (plans : List ExecutionPlan) : List ExecutionGroup := [{ plans, groupIndex := 0 }]

theorem executionOrder_oneByOne (plans : List ExecutionPlan) :
    executionOrder (oneByOne plans) = plans := by
  simp [executionOrder, oneByOne]

theorem ready_of_synced {store : ObjectStore} (synced : store.Synced)
    (free : ∀ id ∈ tokens, (store.cell id).NoOverlay) (id : ObjectId) :
    Ready tokens id (store.cell id) where
  left :=
    { balance := fun b found => ⟨b, synced.1 id b found, rfl⟩
      pool := fun p found => ⟨p, synced.2.1 id p found, rfl⟩
      vault := fun v found => ⟨v, synced.2.2 id v found, rfl⟩ }
  right := free id

theorem flushStep_comm {plans : List ExecutionPlan} (declared : Declared sha256 plans)
    (listed : ∀ plan ∈ plans, ∀ id ∈ plan.created sha256, id ∈ tokens) {one other : ExecutionPlan}
    (first : one ∈ plans) (second : other ∈ plans) (differ : one ≠ other)
    (apart : ¬ conflicts one other) {store : ObjectStore} (flushed : Flushed tokens store) :
    flushStep sha256 (flushStep sha256 store other) one =
      flushStep sha256 (flushStep sha256 store one) other := by
  refine Footprint.Confined.commute (fun _ _ => ObjectStore.ext_cell)
    (confined_flushStep (listed one first)) (confined_flushStep (listed other second)) ?_ ?_ flushed
  · intro id written
    have untouched : id ∉ one.reads sha256 := fun read =>
      apart ((conflicts_comm _ _).1 (declared other second one first differ.symm ⟨id, written, read⟩))
    exact ⟨untouched, fun clash => untouched (writes_subset_reads sha256 clash)⟩
  · intro id written
    have untouched : id ∉ other.reads sha256 := fun read =>
      apart (declared one first other second differ ⟨id, written, read⟩)
    exact ⟨untouched, fun clash => untouched (writes_subset_reads sha256 clash)⟩

theorem executeGroups_schedule (encode : BoxedObject → Bytes) {plans : List ExecutionPlan}
    (distinct : (plans.map ExecutionPlan.txId).Nodup) (levelled : Levelled plans)
    (declared : Declared sha256 plans) {store : ObjectStore} (synced : store.Synced)
    (free : ∀ plan ∈ plans, ∀ id ∈ plan.created sha256, (store.cell id).NoOverlay) (epoch : U64) :
    (executeGroups sha256 encode (schedule plans) store epoch).2 =
      (executeGroups sha256 encode (oneByOne plans) store epoch).2 := by
  let tokens := plans.flatMap fun plan => plan.created sha256
  have listed : ∀ plan ∈ plans, ∀ id ∈ plan.created sha256, id ∈ tokens :=
    fun plan member id created => List.mem_flatMap.2 ⟨plan, member, created⟩
  have ready : ∀ id, Ready tokens id (store.cell id) := by
    refine ready_of_synced synced fun id member => ?_
    obtain ⟨plan, member, created⟩ := List.mem_flatMap.1 member
    exact free plan member id created
  have flushed : Flushed tokens store.syncTypedToCanonical := by
    constructor <;> intro id <;> rw [store.cell_sync]
    · exact ready_sync (ready id)
    · exact Cell.sync_sync _
  -- Only plans that do not conflict change places between the canonical order and the groups.
  have nodup : plans.Pairwise (· ≠ ·) := distinct.of_map
  have order := (ascending_iff distinct).2 levelled
  rw [executeGroups_store, executeGroups_store, executionOrder_oneByOne,
    foldl_flush epoch listed ready, foldl_flush epoch (fun plan member =>
      listed plan (mem_of_mem_executionOrder member)) ready, executionOrder_schedule]
  refine Footprint.foldl_grouped (groupOf plans) (fun plan member => groupOf_lt member)
    (fun plan member => (confined_flushStep (listed plan member)).keeps) ?_ flushed
  refine (nodup.and order).imp_of_mem ?_
  rintro one other first second ⟨differ, before⟩ inverted store flushed
  refine flushStep_comm declared listed first second differ (fun clash => ?_) flushed
  have := before clash
  omega

/-- The scheduler keeps the order of conflicting plans exactly when the plans are levelled, and then
the groups leave the store that the plans leave one at a time in canonical order. -/
theorem schedule_serialises (sha256 : Sha256) (encode : BoxedObject → Bytes)
    (plans : List ExecutionPlan) (distinct : (plans.map ExecutionPlan.txId).Nodup) :
    (OrderPreserved plans ↔ Levelled plans) ∧
    (Levelled plans → Declared sha256 plans → ∀ store : ObjectStore, store.Synced →
      (∀ plan ∈ plans, ∀ id ∈ plan.created sha256, (store.cell id).NoOverlay) → ∀ epoch,
        (executeGroups sha256 encode (schedule plans) store epoch).2 =
          (executeGroups sha256 encode (oneByOne plans) store epoch).2) :=
  ⟨orderPreserved_iff distinct, fun levelled declared _ synced free epoch =>
    executeGroups_schedule encode distinct levelled declared synced free epoch⟩

def writing (txId : Bytes32) (ids : List ObjectId) (operations : List ObjectOperation) :
    ExecutionPlan :=
  { txId, operations, requiredCapabilities := []
    objectAccess := ids.map fun objectId => { objectId, mode := .readWrite }
    gasEstimate := 0, gasLimit := 100000 }

def twoAccounts : ObjectStore :=
  (ObjectStore.new.insert (.balance (BalanceObject.new 1 8 9 100 0))).insert
    (.balance (BalanceObject.new 2 8 9 100 0))

def chain : List ExecutionPlan :=
  [writing 1 [1] [.debitBalance 1 10], writing 2 [1, 2] [.debitBalance 2 100],
    writing 3 [2] [.debitBalance 2 60]]

theorem chain_inverted :
    (chain.map ExecutionPlan.txId).Nodup ∧ ¬ OrderPreserved chain ∧
    (executeGroups (fun _ => 0) (fun _ => []) (schedule chain) twoAccounts 0).2 ≠
      (executeGroups (fun _ => 0) (fun _ => []) (oneByOne chain) twoAccounts 0).2 := by
  have distinct : (chain.map ExecutionPlan.txId).Nodup := by decide
  refine ⟨distinct, ?_, fun same => ?_⟩
  · rw [orderPreserved_iff distinct]
    decide
  · have grouped : ((executeGroups (fun _ => 0) (fun _ => []) (schedule chain) twoAccounts
        0).2.getBalanceById 2).map BalanceObject.amount = some 40 := by decide +kernel
    have single : ((executeGroups (fun _ => 0) (fun _ => []) (oneByOne chain) twoAccounts
        0).2.getBalanceById 2).map BalanceObject.amount = some 0 := by decide +kernel
    rw [same, single] at grouped
    exact absurd grouped (by decide)

theorem synced_insert_balance {store : ObjectStore} (synced : store.Synced) {balance : BalanceObject}
    (vacant : store.get balance.info.id = none) : (store.insert (.balance balance)).Synced := by
  have inserted (id : ObjectId) : (store.insert (.balance balance)).get id =
      if balance.info.id = id then some (.balance balance) else store.get id :=
    KeyedMap.get?_insert _ _ id
  have elsewhere {id : ObjectId} {object : BoxedObject} (found : store.get id = some object) :
      (store.insert (.balance balance)).get id = some object := by
    rw [inserted, if_neg, found]
    rintro rfl
    rw [vacant] at found
    cases found
  refine ⟨?_, fun id pool found => elsewhere (synced.2.1 id pool found),
    fun id vault found => elsewhere (synced.2.2 id vault found)⟩
  intro id other found
  rw [show (store.insert (.balance balance)).getBalanceById id = _ from KeyedMap.get?_insert _ _ id]
    at found
  split at found
  case isTrue here =>
    obtain rfl := Option.some.inj found
    rw [inserted, if_pos here]
  case isFalse => exact elsewhere (synced.1 id other found)

theorem synced_twoAccounts : twoAccounts.Synced := by
  have empty : ObjectStore.new.Synced := by
    refine ⟨?_, ?_, ?_⟩ <;> intro id entry found <;>
      simp [ObjectStore.new, ObjectStore.getBalanceById, ObjectStore.getPoolById,
        ObjectStore.getVault] at found
  refine synced_insert_balance (synced_insert_balance empty ?_) ?_
  · rfl
  · rfl

def contended : List ExecutionPlan :=
  [writing 1 [1] [.debitBalance 1 100], writing 2 [2] [.debitBalance 2 10],
    writing 3 [1] [.debitBalance 1 60]]

theorem contended_serialises :
    (executeGroups (fun _ => 0) (fun _ => []) (schedule contended) twoAccounts 0).2 =
      (executeGroups (fun _ => 0) (fun _ => []) (oneByOne contended) twoAccounts 0).2 := by
  refine (schedule_serialises _ _ contended (by decide)).2 (by decide) ?_ _ synced_twoAccounts ?_ 0
  · intro one first other second _ ⟨id, written, read⟩
    simp only [contended, List.mem_cons, List.not_mem_nil, or_false] at first second
    rcases first with rfl | rfl | rfl <;> obtain rfl := List.mem_singleton.1 written <;>
      rcases second with rfl | rfl | rfl <;> revert read <;> decide
  · intro plan member id created
    simp only [contended, List.mem_cons, List.not_mem_nil, or_false] at member
    rcases member with rfl | rfl | rfl <;> cases created

end Schedule

end SettlementEngine

end Omniphi.Runtime
