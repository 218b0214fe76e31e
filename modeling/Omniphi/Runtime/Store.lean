import Omniphi.Lib.KeyedMap
import Omniphi.Runtime.Objects

/-! The object store: the canonical map of all objects and a typed overlay for each of the three
kinds that settlement changes in place. No code changes the id of an object it has stored, so every
object stands under its own id; beyond that the four maps are independent here. -/

namespace Omniphi.Runtime

/-! The key of each kind of entry. -/

abbrev BoxedObject.id (object : BoxedObject) : ObjectId := object.info.id
abbrev BalanceObject.id (balance : BalanceObject) : ObjectId := balance.info.id
abbrev LiquidityPoolObject.id (pool : LiquidityPoolObject) : ObjectId := pool.info.id
abbrev VaultObject.id (vault : VaultObject) : ObjectId := vault.info.id

namespace BoxedObject

@[simp] theorem id_balance (object : BalanceObject) : (balance object).id = object.id := rfl

@[simp] theorem id_pool (object : LiquidityPoolObject) : (pool object).id = object.id := rfl

@[simp] theorem id_vault (object : VaultObject) : (vault object).id = object.id := rfl

end BoxedObject

/-! Changes that keep it. -/

theorem BalanceObject.id_amount (balance : BalanceObject) (amount : U128) :
    { balance with amount }.id = balance.id := rfl

theorem LiquidityPoolObject.id_reserveA (pool : LiquidityPoolObject) (reserveA : U128) :
    { pool with reserveA }.id = pool.id := rfl

theorem LiquidityPoolObject.id_reserveB (pool : LiquidityPoolObject) (reserveB : U128) :
    { pool with reserveB }.id = pool.id := rfl

theorem ObjectMeta.id_bumped (info : ObjectMeta) :
    { info with version := info.version + 1 }.id = info.id := rfl

theorem BalanceObject.id_bumped (balance : BalanceObject) :
    { balance with info.version := balance.info.version + 1 }.id = balance.id := rfl

theorem LiquidityPoolObject.id_bumped (pool : LiquidityPoolObject) :
    { pool with info.version := pool.info.version + 1 }.id = pool.id := rfl

@[ext]
structure ObjectStore where
  objects : KeyedMap BoxedObject.id
  balances : KeyedMap BalanceObject.id
  pools : KeyedMap LiquidityPoolObject.id
  vaults : KeyedMap VaultObject.id

namespace ObjectStore

def new : ObjectStore := { objects := .empty, balances := .empty, pools := .empty, vaults := .empty }

/-- An object of another type may already stand under the id; its overlay entry is left alone. -/
def insert (store : ObjectStore) (object : BoxedObject) : ObjectStore :=
  let store := match object with
    | .balance balance => { store with balances := store.balances.insert balance }
    | .pool pool => { store with pools := store.pools.insert pool }
    | .vault vault => { store with vaults := store.vaults.insert vault }
    | _ => store
  { store with objects := store.objects.insert object }

def remove (store : ObjectStore) (id : ObjectId) : ObjectStore × Option BoxedObject :=
  ({ balances := store.balances.erase id
     pools := store.pools.erase id
     vaults := store.vaults.erase id
     objects := store.objects.erase id }, store.objects.get? id)

def get (store : ObjectStore) (id : ObjectId) : Option BoxedObject := store.objects.get? id

def findBalance (store : ObjectStore) (owner assetId : Bytes32) : Option BalanceObject :=
  store.balances.values.find? fun balance => balance.owner = owner ∧ balance.assetId = assetId

def getBalanceById (store : ObjectStore) (id : ObjectId) : Option BalanceObject :=
  store.balances.get? id

def findPool (store : ObjectStore) (assetA assetB : Bytes32) : Option LiquidityPoolObject :=
  store.pools.values.find? fun pool =>
    (pool.assetA = assetA ∧ pool.assetB = assetB) ∨ (pool.assetA = assetB ∧ pool.assetB = assetA)

def getPoolById (store : ObjectStore) (id : ObjectId) : Option LiquidityPoolObject :=
  store.pools.get? id

def getVault (store : ObjectStore) (id : ObjectId) : Option VaultObject := store.vaults.get? id

section Mutation

/-! What a caller does through the mutable references. A missing id changes nothing. -/

variable (store : ObjectStore) (id : ObjectId)

def modifyInfo (change : ObjectMeta → ObjectMeta) (keeps : ∀ info, (change info).id = info.id) :
    ObjectStore :=
  { store with objects := store.objects.modify id (BoxedObject.modifyInfo change) (by simp [BoxedObject.id, keeps]) }

def modifyBalance (change : BalanceObject → BalanceObject)
    (keeps : ∀ balance, (change balance).id = balance.id) : ObjectStore :=
  { store with balances := store.balances.modify id change keeps }

def modifyPool (change : LiquidityPoolObject → LiquidityPoolObject)
    (keeps : ∀ pool, (change pool).id = pool.id) : ObjectStore :=
  { store with pools := store.pools.modify id change keeps }

def modifyVault (change : VaultObject → VaultObject)
    (keeps : ∀ vault, (change vault).id = vault.id) : ObjectStore :=
  { store with vaults := store.vaults.modify id change keeps }

end Mutation

/-- Balances, then pools, then vaults are written over the canonical objects of the same id. -/
def syncTypedToCanonical (store : ObjectStore) : ObjectStore :=
  let objects := store.objects.overwrite store.balances .balance BoxedObject.id_balance
  let objects := objects.overwrite store.pools .pool BoxedObject.id_pool
  let objects := objects.overwrite store.vaults .vault BoxedObject.id_vault
  { store with objects }

def stateRoot (sha256 : Sha256) (encode : BoxedObject → Bytes) (store : ObjectStore) : Bytes32 :=
  sha256 (store.objects.toMap.toList.flatMap fun entry =>
    beBytes 32 entry.1 ++ leBytes 8 (BitVec.ofNat 64 (encode entry.2).length) ++ encode entry.2)

section Sync

variable (store : ObjectStore)

@[simp] theorem sync_balances : store.syncTypedToCanonical.balances = store.balances := rfl
@[simp] theorem sync_pools : store.syncTypedToCanonical.pools = store.pools := rfl
@[simp] theorem sync_vaults : store.syncTypedToCanonical.vaults = store.vaults := rfl

def overlay (id : ObjectId) : Option BoxedObject :=
  ((store.vaults.get? id).map .vault) <|> ((store.pools.get? id).map .pool) <|>
    ((store.balances.get? id).map .balance)

theorem sync_get? (id : ObjectId) :
    store.syncTypedToCanonical.objects.get? id =
      (store.objects.get? id).map fun object => (store.overlay id).getD object := by
  simp only [syncTypedToCanonical, KeyedMap.get?_overwrite, Option.map_map, overlay]
  congr 1
  funext object
  cases store.balances.get? id <;> cases store.pools.get? id <;> cases store.vaults.get? id <;> rfl

end Sync

end ObjectStore

end Omniphi.Runtime
