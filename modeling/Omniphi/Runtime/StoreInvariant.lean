import Omniphi.Lib.Run
import Omniphi.Runtime.Store

/-! The documented invariant of the store: an overlay has an id exactly when the canonical map holds
an object of the overlay's type under it. `insert` does not clear the overlays of other types, so the
invariant holds as long as no object of one of the three kinds is replaced by one of another type. -/

namespace Omniphi.Runtime

def ObjectType.HasOverlay (type : ObjectType) : Prop :=
  type = .balance ∨ type = .liquidityPool ∨ type = .vault

inductive StoreAction
  | insert (object : BoxedObject)
  | remove (id : ObjectId)
  | mutateBalance (id : ObjectId) (change : BalanceObject → BalanceObject)
      (keeps : ∀ balance, (change balance).id = balance.id)
  | mutatePool (id : ObjectId) (change : LiquidityPoolObject → LiquidityPoolObject)
      (keeps : ∀ pool, (change pool).id = pool.id)
  | mutateVault (id : ObjectId) (change : VaultObject → VaultObject)
      (keeps : ∀ vault, (change vault).id = vault.id)
  | sync

namespace ObjectStore

def step (store : ObjectStore) : StoreAction → ObjectStore
  | .insert object => store.insert object
  | .remove id => (store.remove id).1
  | .mutateBalance id change keeps => store.modifyBalance id change keeps
  | .mutatePool id change keeps => store.modifyPool id change keeps
  | .mutateVault id change keeps => store.modifyVault id change keeps
  | .sync => store.syncTypedToCanonical

def overlayContains (store : ObjectStore) (type : ObjectType) (id : ObjectId) : Bool :=
  match type with
  | .balance => store.balances.contains id
  | .liquidityPool => store.pools.contains id
  | .vault => store.vaults.contains id
  | _ => false

def canonicalType (store : ObjectStore) (id : ObjectId) : Option ObjectType :=
  (store.get id).map BoxedObject.objectType

/-- The keys of each overlay are the ids of the canonical objects of its type. -/
def Represents (store : ObjectStore) : Prop :=
  ∀ type, type.HasOverlay → ∀ id,
    store.overlayContains type id ↔ store.canonicalType id = some type

def Synced (store : ObjectStore) : Prop :=
  (∀ id balance, store.getBalanceById id = some balance → store.get id = some (.balance balance)) ∧
  (∀ id pool, store.getPoolById id = some pool → store.get id = some (.pool pool)) ∧
  (∀ id vault, store.getVault id = some vault → store.get id = some (.vault vault))

/-- The action leaves the invariant in place and, if it is `sync`, the canonical objects equal to
their overlays. -/
def Documented (store : ObjectStore) (action : StoreAction) : Prop :=
  (store.step action).Represents ∧ (action = .sync → (store.step action).Synced)

/-- An insert over an object of a kind with an overlay is of the same type. -/
def KeepsType (store : ObjectStore) : StoreAction → Prop
  | .insert object => ∀ old, store.get object.id = some old → old.objectType.HasOverlay →
      object.objectType = old.objectType
  | _ => True

variable {store : ObjectStore}

theorem represents_new : new.Represents := by
  rintro type (rfl | rfl | rfl) id <;>
    simp [overlayContains, canonicalType, new, get, KeyedMap.contains_eq]

section Insert

theorem overlayContains_insert (object : BoxedObject) {type : ObjectType} (overlaid : type.HasOverlay)
    (id : ObjectId) : (store.insert object).overlayContains type id ↔
      (object.id = id ∧ object.objectType = type) ∨ store.overlayContains type id := by
  rcases overlaid with rfl | rfl | rfl <;> cases object <;>
    simp [insert, overlayContains, BoxedObject.objectType, KeyedMap.contains_eq, KeyedMap.get?_insert] <;>
    split <;> simp_all

theorem canonicalType_insert (object : BoxedObject) (id : ObjectId) :
    (store.insert object).canonicalType id =
      if object.id = id then some object.objectType else store.canonicalType id := by
  have objects : (store.insert object).objects = store.objects.insert object := by
    cases object <;> rfl
  rw [canonicalType, get, objects, KeyedMap.get?_insert]
  split <;> rfl

theorem represents_insert (represents : store.Represents) (object : BoxedObject) :
    (store.insert object).Represents ↔ store.KeepsType (.insert object) := by
  have overlaid_old (old : BoxedObject) (found : store.get object.id = some old)
      (overlaid : old.objectType.HasOverlay) : store.overlayContains old.objectType object.id := by
    rw [represents _ overlaid, canonicalType, found, Option.map_some]
  constructor
  · intro after old found overlaid
    have kept := (overlayContains_insert object overlaid object.id).2 (.inr (overlaid_old old found overlaid))
    rw [after _ overlaid, canonicalType_insert, if_pos rfl] at kept
    exact Option.some.inj kept
  · intro keeps type overlaid id
    rw [overlayContains_insert object overlaid, canonicalType_insert]
    by_cases here : object.id = id
    · subst here
      simp only [true_and, if_true, Option.some.injEq]
      refine ⟨?_, .inl⟩
      rintro (same | stale)
      · exact same
      · rw [represents _ overlaid] at stale
        obtain ⟨old, found, rfl⟩ := Option.map_eq_some_iff.1 stale
        exact keeps old found overlaid
    · simp only [here, false_and, false_or, if_false]
      exact represents _ overlaid id

end Insert

theorem represents_remove (represents : store.Represents) (id : ObjectId) :
    (store.remove id).1.Represents := by
  intro type overlaid other
  have before := represents type overlaid other
  by_cases here : id = other
  · rcases overlaid with rfl | rfl | rfl <;>
      simp [remove, overlayContains, canonicalType, get, KeyedMap.contains_eq, KeyedMap.get?_erase, here]
  · rcases overlaid with rfl | rfl | rfl <;>
      simpa [remove, overlayContains, canonicalType, get, KeyedMap.contains_eq, KeyedMap.get?_erase,
        here] using before

section Mutate

theorem contains_modify {ν : Type} {key : ν → ObjectId} (entries : KeyedMap key) (id other : ObjectId)
    (change : ν → ν) (keeps : ∀ entry, key (change entry) = key entry) :
    (entries.modify id change keeps).contains other = entries.contains other := by
  rw [KeyedMap.contains_eq, KeyedMap.contains_eq, KeyedMap.get?_modify]
  split <;> simp

theorem represents_mutate (represents : store.Represents) {after : ObjectStore}
    (objects : after.objects = store.objects)
    (overlays : ∀ type id, after.overlayContains type id = store.overlayContains type id) :
    after.Represents := by
  intro type overlaid id
  rw [overlays, represents type overlaid id, canonicalType, canonicalType, get, get, objects]

theorem represents_sync (represents : store.Represents) : store.syncTypedToCanonical.Represents := by
  intro type overlaid id
  have same : store.syncTypedToCanonical.overlayContains type id = store.overlayContains type id := rfl
  have balance := represents .balance (.inl rfl) id
  have pool := represents .liquidityPool (.inr (.inl rfl)) id
  have vault := represents .vault (.inr (.inr rfl)) id
  rw [same, represents type overlaid id]
  simp only [overlayContains, KeyedMap.contains_eq] at balance pool vault
  simp only [canonicalType, get, sync_get?, overlay] at balance pool vault ⊢
  cases canonical : store.objects.get? id with
  | none => simp
  | some object =>
      simp only [canonical, Option.map_some, Option.some.injEq] at balance pool vault ⊢
      cases b : store.balances.get? id <;> cases p : store.pools.get? id <;>
        cases v : store.vaults.get? id <;> simp_all [BoxedObject.objectType]

end Mutate

theorem synced_sync (represents : store.Represents) : store.syncTypedToCanonical.Synced := by
  have types (id : ObjectId) :
      ((store.balances.get? id).isSome ↔ store.canonicalType id = some .balance) ∧
      ((store.pools.get? id).isSome ↔ store.canonicalType id = some .liquidityPool) ∧
      ((store.vaults.get? id).isSome ↔ store.canonicalType id = some .vault) := by
    simp only [← KeyedMap.contains_eq]
    exact ⟨represents .balance (.inl rfl) id, represents .liquidityPool (.inr (.inl rfl)) id,
      represents .vault (.inr (.inr rfl)) id⟩
  simp only [canonicalType, get] at types
  refine ⟨?_, ?_, ?_⟩
  · intro id balance found
    obtain ⟨isBalance, isPool, isVault⟩ := types id
    simp only [getBalanceById, sync_balances] at found
    simp only [get, sync_get?, overlay]
    cases canonical : store.objects.get? id <;> cases p : store.pools.get? id <;>
      cases v : store.vaults.get? id <;> simp_all
  · intro id pool found
    obtain ⟨isBalance, isPool, isVault⟩ := types id
    simp only [getPoolById, sync_pools] at found
    simp only [get, sync_get?, overlay]
    cases canonical : store.objects.get? id <;> cases v : store.vaults.get? id <;> simp_all
  · intro id vault found
    obtain ⟨isBalance, isPool, isVault⟩ := types id
    simp only [getVault, sync_vaults] at found
    simp only [get, sync_get?, overlay]
    cases canonical : store.objects.get? id <;> simp_all

theorem documented_iff (store : ObjectStore) (action : StoreAction) (represents : store.Represents) :
    store.Documented action ↔ store.KeepsType action := by
  cases action with
  | insert object =>
      simp only [Documented, step, reduceCtorEq, false_implies, and_true]
      exact represents_insert represents object
  | remove id => exact ⟨fun _ => trivial, fun _ => ⟨represents_remove represents id, by simp⟩⟩
  | mutateBalance id change keeps =>
      refine ⟨fun _ => trivial, fun _ => ⟨represents_mutate represents rfl ?_, by simp⟩⟩
      rintro (_ | _ | _) other <;>
        simp [step, modifyBalance, overlayContains, contains_modify]
  | mutatePool id change keeps =>
      refine ⟨fun _ => trivial, fun _ => ⟨represents_mutate represents rfl ?_, by simp⟩⟩
      rintro (_ | _ | _) other <;> simp [step, modifyPool, overlayContains, contains_modify]
  | mutateVault id change keeps =>
      refine ⟨fun _ => trivial, fun _ => ⟨represents_mutate represents rfl ?_, by simp⟩⟩
      rintro (_ | _ | _) other <;> simp [step, modifyVault, overlayContains, contains_modify]
  | sync =>
      exact ⟨fun _ => trivial, fun _ => ⟨represents_sync represents, fun _ => synced_sync represents⟩⟩

/-- A run from the empty store keeps the documented invariant exactly when no insert replaces an
object that has an overlay by one of another type. -/
theorem documented_run_iff (run : List StoreAction) :
    Run.Along step Documented new run ↔ Run.Along step KeepsType new run :=
  Run.along_congr documented_iff (fun _ _ _ documented => documented.1) represents_new run

section Replaced

def someBalance : BoxedObject := .balance (.new 1 2 3 100 0)

def someToken : BoxedObject := .token (.new 1 2 3 "TOK" 6 100 0)

theorem replaced_balance_stays :
    ¬ Run.Along step Documented new [.insert someBalance, .insert someToken] := by
  rintro ⟨-, ⟨represents, -⟩, -⟩
  have stale := represents .balance (.inl rfl) 1
  revert stale
  decide

end Replaced

end ObjectStore

end Omniphi.Runtime
