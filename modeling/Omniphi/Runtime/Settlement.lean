import Omniphi.Runtime.Scheduler
import Omniphi.Runtime.Store

/-! Settlement of execution plans. A plan is checked against the store as it stands, operation by
operation, and only then applied; what an operation has changed stays when a later one fails. -/

namespace Omniphi.Runtime

structure ExecutionReceipt where
  txId : Bytes32
  success : Bool
  affectedObjects : List ObjectId
  versionTransitions : List (ObjectId × ObjectVersion × ObjectVersion)
  error : Option String
  gasUsed : U64
  events : List ContractEvent

structure PlanSideEffects where
  ibcHooks : List IBCHook
  schedules : List ScheduledExecution
  bindings : List ContractBalance

structure SettlementResult where
  epoch : U64
  totalPlans : Nat
  succeeded : Nat
  failed : Nat
  receipts : List ExecutionReceipt
  stateRoot : Bytes32
  ibcHooks : List IBCHook
  schedules : List ScheduledExecution
  balanceBindings : List ContractBalance
  allEvents : List ContractEvent

namespace SettlementEngine

def orNotFound {α : Type} (found : Option α) (id : ObjectId) : Except RuntimeError α :=
  match found with
  | some value => .ok value
  | none => .error (.objectNotFound id)

section Validate

variable (store : ObjectStore)

def validateAvailable (balanceId : ObjectId) (amount : U128) : Except RuntimeError Unit := do
  let balance ← orNotFound (store.getBalanceById balanceId) balanceId
  if balance.available < amount then
    throw (.insufficientBalance amount balance.available)

def validateOp : ObjectOperation → Except RuntimeError Unit
  | .debitBalance balanceId amount => validateAvailable store balanceId amount
  | .lockBalance balanceId amount => validateAvailable store balanceId amount
  | .swapPoolAmounts poolId deltaA deltaB => do
      let pool ← orNotFound (store.getPoolById poolId) poolId
      if deltaA.msb ∧ pool.reserveA < -deltaA then
        throw (.constraintViolation "swap would drain pool reserve_a below zero")
      if deltaB.msb ∧ pool.reserveB < -deltaB then
        throw (.constraintViolation "swap would drain pool reserve_b below zero")
  | .creditBalance balanceId _ => do
      let _ ← orNotFound (store.getBalanceById balanceId) balanceId
  | .unlockBalance balanceId amount => do
      let balance ← orNotFound (store.getBalanceById balanceId) balanceId
      if balance.lockedAmount < amount then
        throw (.constraintViolation "unlock amount exceeds locked_amount")
  | .transferOwnership objectId newOwner => do
      let object ← orNotFound (store.get objectId) objectId
      if newOwner = 0 then throw (.invalidIntent "new_owner cannot be zero")
      if object.info.owner = newOwner then throw (.invalidIntent "new_owner is already the owner")
  | .updateVersion objectId => do
      let _ ← orNotFound (store.get objectId) objectId
  | .contractStateTransition contractId schemaId proposedState => do
      let object ← orNotFound (store.get contractId) contractId
      match object.objectType with
      | .contract sid =>
          if sid ≠ schemaId then
            throw (.contractConstraintViolation schemaId "contract object schema_id mismatch")
      | _ => throw (.contractConstraintViolation schemaId "target object is not a Contract type")
      if proposedState.isEmpty then
        throw (.contractConstraintViolation schemaId "proposed_state cannot be empty")
      match object.asContract with
      | some contract =>
          if 0 < contract.maxStateBytes ∧
              contract.maxStateBytes < BitVec.ofNat 64 proposedState.length then
            throw (.contractConstraintViolation schemaId
              ("proposed state " ++ toString proposedState.length ++
                " bytes exceeds max_state_bytes " ++ toString contract.maxStateBytes.toNat))
      | none => pure ()
  | .bindContractBalance contractId balanceId schemaId _ _ => do
      let object ← orNotFound (store.get contractId) contractId
      let _ ← orNotFound (store.get balanceId) balanceId
      if object.objectType ≠ .contract schemaId then
        throw (.contractConstraintViolation schemaId
          "bind target is not a contract with matching schema")
  | .createToken _ _ symbol decimals initialSupply maxSupply => do
      if symbol.isEmpty ∨ 12 < symbol.utf8ByteSize then
        throw (.constraintViolation "symbol must be 1-12 chars")
      if 18 < decimals then throw (.constraintViolation "decimals must be <= 18")
      match maxSupply with
      | some max =>
          if max < initialSupply then throw (.constraintViolation "initial_supply > max_supply")
      | none => pure ()
  | .emitContractEvent contractId schemaId _ _ data => do
      let object ← orNotFound (store.get contractId) contractId
      if object.objectType ≠ .contract schemaId then
        throw (.contractConstraintViolation schemaId "event source is not a valid contract")
      if 65536 < data.length then throw (.constraintViolation "event data exceeds 64KB")
  | .ibcTransfer sourceContract _ _ denom amount receiver _ => do
      let _ ← orNotFound (store.get sourceContract) sourceContract
      if denom.isEmpty then throw (.constraintViolation "IBC denom cannot be empty")
      if amount = 0 then throw (.constraintViolation "IBC amount must be > 0")
      if receiver.isEmpty then throw (.constraintViolation "IBC receiver cannot be empty")
  | .scheduleExecution contractId _ _ _ executeAtEpoch _ _ _ => do
      let _ ← orNotFound (store.get contractId) contractId
      if executeAtEpoch = 0 then throw (.constraintViolation "execute_at_epoch must be > 0")

end Validate

section Apply

variable (sha256 : Sha256)

/-- A reserve moved by a signed delta. The magnitude of the least `i128` is `2^127`, as the wrapped
negation has it. -/
def shiftReserve (reserve : U128) (delta : I128) : U128 :=
  if delta.msb then MachineInt.saturatingSub reserve (-delta)
  else MachineInt.saturatingAdd reserve delta

def newToken (creatorContract : ObjectId) (mintAuthoritySchema : SchemaId) (symbol : String)
    (decimals : U8) (initialSupply : U128) (maxSupply : Option U128) : TokenObject :=
  let assetId := computeAssetId sha256 creatorContract mintAuthoritySchema symbol decimals
  { TokenObject.new assetId creatorContract assetId symbol decimals initialSupply 0 with
    maxSupply, mintAuthority := some creatorContract }

def setOwner (store : ObjectStore) (id : ObjectId) (newOwner : Bytes32) : ObjectStore :=
  (((store.modifyInfo id (fun info => { info with owner := newOwner }) fun _ => rfl).modifyBalance id
    (fun balance => { balance with info.owner := newOwner, owner := newOwner }) fun _ => rfl).modifyPool
    id (fun pool => { pool with info.owner := newOwner }) fun _ => rfl).modifyVault id
    (fun vault => { vault with info.owner := newOwner }) fun _ => rfl

/-- The new store and the ids recorded as affected. A failing operation changes nothing itself. -/
def applyOp (store : ObjectStore) (affected : List ObjectId) :
    ObjectOperation → Except RuntimeError (ObjectStore × List ObjectId)
  | .debitBalance balanceId amount => do
      let balance ← orNotFound (store.getBalanceById balanceId) balanceId
      match MachineInt.checkedSub balance.amount amount with
      | some rest =>
          return (store.modifyBalance balanceId (fun balance => { balance with amount := rest })
            fun _ => rfl, affected ++ [balanceId])
      | none => throw (.insufficientBalance amount balance.amount)
  | .creditBalance balanceId amount => do
      let _ ← orNotFound (store.getBalanceById balanceId) balanceId
      return (store.modifyBalance balanceId
        (fun balance => { balance with amount := MachineInt.saturatingAdd balance.amount amount })
        fun _ => rfl, affected ++ [balanceId])
  | .swapPoolAmounts poolId deltaA deltaB => do
      let _ ← orNotFound (store.getPoolById poolId) poolId
      return (store.modifyPool poolId
        (fun pool => { pool with
          reserveA := shiftReserve pool.reserveA deltaA
          reserveB := shiftReserve pool.reserveB deltaB })
        fun _ => rfl, affected ++ [poolId])
  | .lockBalance balanceId amount => do
      let _ ← orNotFound (store.getBalanceById balanceId) balanceId
      return (store.modifyBalance balanceId
        (fun balance =>
          { balance with lockedAmount := MachineInt.saturatingAdd balance.lockedAmount amount })
        fun _ => rfl, affected ++ [balanceId])
  | .unlockBalance balanceId amount => do
      let balance ← orNotFound (store.getBalanceById balanceId) balanceId
      match MachineInt.checkedSub balance.lockedAmount amount with
      | some rest =>
          return (store.modifyBalance balanceId (fun balance => { balance with lockedAmount := rest })
            fun _ => rfl, affected ++ [balanceId])
      | none => throw (.constraintViolation "unlock exceeds locked_amount")
  | .transferOwnership objectId newOwner => do
      let _ ← orNotFound (store.get objectId) objectId
      return (setOwner store objectId newOwner, affected ++ [objectId])
  | .updateVersion objectId => return (store, affected ++ [objectId])
  | .contractStateTransition contractId _ proposedState => do
      let object ← orNotFound (store.get contractId) contractId
      match object.asContract with
      | some contract =>
          let updated := contract.setState sha256 proposedState
          return (store.insert (.contract
            { updated with info.updatedAt := updated.info.updatedAt + 1 }), affected ++ [contractId])
      | none =>
          throw (.contractValidatorError "failed to deserialize contract object for state update")
  | .bindContractBalance _ balanceId _ _ _ => return (store, affected ++ [balanceId])
  | .createToken creatorContract mintAuthoritySchema symbol decimals initialSupply maxSupply =>
      let token := newToken sha256 creatorContract mintAuthoritySchema symbol decimals initialSupply
        maxSupply
      return (store.insert (.token token), affected ++ [token.info.id, creatorContract])
  | .emitContractEvent contractId _ _ _ _ => return (store, affected ++ [contractId])
  | .ibcTransfer sourceContract _ _ _ _ _ _ => return (store, affected ++ [sourceContract])
  | .scheduleExecution contractId _ _ _ _ _ _ _ => return (store, affected ++ [contractId])

def applyOps (store : ObjectStore) (affected : List ObjectId) :
    List ObjectOperation → ObjectStore × Except RuntimeError (List ObjectId)
  | [] => (store, .ok affected)
  | op :: ops =>
      match applyOp sha256 store affected op with
      | .ok (store, affected) => applyOps store affected ops
      | .error e => (store, .error e)

end Apply

section Plan

/-- Phases 0 to 2: gas, the versions of the accessed objects, and the check of every operation
against the store as it stands. -/
def preflight (plan : ExecutionPlan) (store : ObjectStore) :
    Metered (List (ObjectId × ObjectVersion)) := do
  let costs := (← get).costs
  GasMeter.consume costs.baseTx
  let oldVersions ← plan.objectAccess.mapM fun access => do
    let object ← orNotFound (store.get access.objectId) access.objectId
    GasMeter.consume costs.objectRead
    return (access.objectId, object.info.version)
  plan.operations.forM fun op => do
    validateOp store op
    GasMeter.consume (opGasCost op costs)
  return oldVersions

def bumpVersion (store : ObjectStore) (id : ObjectId) : ObjectStore :=
  (((store.modifyInfo id (fun info => { info with version := info.version + 1 }) fun _ => rfl).modifyBalance
    id (fun balance => { balance with info.version := balance.info.version + 1 }) fun _ => rfl).modifyPool
    id (fun pool => { pool with info.version := pool.info.version + 1 }) fun _ => rfl).modifyVault
    id (fun vault => { vault with info.version := vault.info.version + 1 }) fun _ => rfl

def mutatedIds (affected : List ObjectId) : List ObjectId :=
  (Std.ExtTreeSet.ofList affected compare).toList

def failure (plan : ExecutionPlan) (e : RuntimeError) (meter : GasMeter) : ExecutionReceipt :=
  { txId := plan.txId, success := false, affectedObjects := [], versionTransitions := []
    error := some e.display, gasUsed := meter.consumed, events := [] }

def applyPlan (sha256 : Sha256) (plan : ExecutionPlan) (store : ObjectStore) :
    ExecutionReceipt × ObjectStore :=
  match (preflight plan store).run.run (GasMeter.new plan.gasLimit) with
  | (.error e, meter) => (failure plan e meter, store)
  | (.ok oldVersions, meter) =>
    match applyOps sha256 store [] plan.operations with
    | (store, .error e) => (failure plan e meter, store)
    | (store, .ok affected) =>
      let ids := mutatedIds affected
      let store := (ids.foldl bumpVersion store).syncTypedToCanonical
      ({ txId := plan.txId
         success := true
         affectedObjects := ids
         versionTransitions := oldVersions.map fun old =>
           (old.1, old.2, ((store.get old.1).map fun object => object.info.version).getD old.2)
         error := none
         gasUsed := meter.consumed
         events := [] }, store)

structure Collected where
  store : ObjectStore
  events : List ContractEvent
  sideEffects : PlanSideEffects

def collect (sha256 : Sha256) (epoch : U64) (acc : Collected) : ObjectOperation → Collected
  | .emitContractEvent contractId schemaId eventType indexed data =>
      { acc with events := acc.events ++ [{ contractId, schemaId, eventType, indexed, data, epoch }] }
  | .ibcTransfer sourceContract channelId portId denom amount receiver timeoutSecs =>
      { acc with sideEffects.ibcHooks := acc.sideEffects.ibcHooks ++
          [{ sourceContract, channelId, portId, action := .transfer denom amount receiver
             timeoutSecs }] }
  | .scheduleExecution contractId schemaId method params executeAtEpoch recurring intervalEpochs
      maxRecurrences =>
      { acc with sideEffects.schedules := acc.sideEffects.schedules ++
          [{ scheduleId := ScheduledExecution.computeId sha256 contractId method executeAtEpoch
             contractId, schemaId, method, params, executeAtEpoch, recurring, intervalEpochs
             maxRecurrences, executedCount := 0, active := true }] }
  | .bindContractBalance contractId balanceId schemaId assetId label =>
      { acc with
        store := match acc.store.get balanceId with
          | some _ => acc.store
          | none => acc.store.insert (.balance (.new balanceId contractId assetId 0 epoch))
        sideEffects.bindings := acc.sideEffects.bindings ++
          [{ contractId, balanceId, withdrawalSchemaId := schemaId, assetId, label }] }
  | _ => acc

def applyPlanWithEffects (sha256 : Sha256) (plan : ExecutionPlan) (store : ObjectStore) (epoch : U64) :
    (ExecutionReceipt × PlanSideEffects) × ObjectStore :=
  let (receipt, store) := applyPlan sha256 plan store
  let none : PlanSideEffects := { ibcHooks := [], schedules := [], bindings := [] }
  if !receipt.success then ((receipt, none), store)
  else
    let acc := plan.operations.foldl (collect sha256 epoch) { store, events := [], sideEffects := none }
    (({ receipt with events := acc.events }, acc.sideEffects), acc.store)

end Plan

section Groups

structure Progress where
  store : ObjectStore
  succeeded : Nat
  failed : Nat
  receipts : List ExecutionReceipt
  ibcHooks : List IBCHook
  schedules : List ScheduledExecution
  bindings : List ContractBalance
  events : List ContractEvent

def Progress.start (store : ObjectStore) : Progress :=
  { store, succeeded := 0, failed := 0, receipts := [], ibcHooks := [], schedules := []
    bindings := [], events := [] }

def settle (sha256 : Sha256) (epoch : U64) (progress : Progress) (plan : ExecutionPlan) : Progress :=
  let ((receipt, sideEffects), store) := applyPlanWithEffects sha256 plan progress.store epoch
  let progress := { progress with store, receipts := progress.receipts ++ [receipt] }
  if receipt.success then
    { progress with
      succeeded := progress.succeeded + 1
      ibcHooks := progress.ibcHooks ++ sideEffects.ibcHooks
      schedules := progress.schedules ++ sideEffects.schedules
      bindings := progress.bindings ++ sideEffects.bindings
      events := progress.events ++ receipt.events }
  else { progress with failed := progress.failed + 1 }

def executionOrder (groups : List ExecutionGroup) : List ExecutionPlan :=
  (groups.insertionSort fun a b => a.groupIndex ≤ b.groupIndex).flatMap ExecutionGroup.plans

/-- Both branches of the source, for groups of one plan and for larger ones, execute the plans of a
group one by one. -/
def executeGroups (sha256 : Sha256) (encode : BoxedObject → Bytes) (groups : List ExecutionGroup)
    (store : ObjectStore) (epoch : U64) : SettlementResult × ObjectStore :=
  let progress := (executionOrder groups).foldl (settle sha256 epoch) (.start store)
  let store := progress.store.syncTypedToCanonical
  ({ epoch
     totalPlans := (groups.map fun group => group.plans.length).sum
     succeeded := progress.succeeded
     failed := progress.failed
     receipts := progress.receipts
     stateRoot := store.stateRoot sha256 encode
     ibcHooks := progress.ibcHooks
     schedules := progress.schedules
     balanceBindings := progress.bindings
     allEvents := progress.events }, store)

end Groups

end SettlementEngine

end Omniphi.Runtime
