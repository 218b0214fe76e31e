import Omniphi.Bincode
import Omniphi.Lib.KeyedMap

/-! The public intent pool. Unchecked additions wrap as in a release build, and each call reports whether
one of its additions left the range. -/

namespace Omniphi.PoSeq

section Intents

inductive AssetType
  | native
  | token
  | object
deriving DecidableEq

structure AssetId where
  chainId : U32
  assetType : AssetType
  identifier : Bytes32
deriving DecidableEq

inductive PermissionMode
  | allowAll
  | whitelist
  | blacklist
deriving DecidableEq

structure SolverPermissions where
  mode : PermissionMode
  solverIds : List Bytes32

inductive Priority
  | normal
  | high
  | urgent
deriving DecidableEq

structure ExecutionPrefs where
  priority : Priority
  maxSolverCount : Option U8
  requireFullFill : Bool

structure SwapIntent where
  assetIn : AssetId
  assetOut : AssetId
  amountIn : U128
  minAmountOut : U128
  maxSlippageBps : U16
  routeHint : Option (List AssetId)

structure PaymentIntent where
  asset : AssetId
  amount : U128
  recipient : Bytes32
  memo : Option Bytes

structure RebalanceParams where
  maxHops : U8
  maxPriceImpactBps : U16

structure RouteLiquidityIntent where
  sourcePool : Bytes32
  targetPool : Bytes32
  asset : AssetId
  amount : U128
  minReceived : U128
  rebalanceParams : RebalanceParams

inductive IntentKind
  | swap (intent : SwapIntent)
  | payment (intent : PaymentIntent)
  | routeLiquidity (intent : RouteLiquidityIntent)

def IntentKind.typeTag : IntentKind → UInt8
  | swap _ => 0x01
  | payment _ => 0x02
  | routeLiquidity _ => 0x03

structure IntentTransaction where
  intentId : Bytes32
  intentType : IntentKind
  version : U16
  user : Bytes32
  nonce : U64
  recipient : Option Bytes32
  deadline : U64
  validFrom : Option U64
  maxFee : U64
  tip : Option U64
  partialFillAllowed : Bool
  solverPermissions : SolverPermissions
  executionPreferences : ExecutionPrefs
  witnessHash : Option Bytes32
  signature : Bytes
  metadata : BTreeMap String String

inductive IntentValidationError
  | unsupportedVersion (version : U16)
  | zeroUser
  | zeroIntentId
  | intentIdMismatch
  | feeBelowMinimum (fee min : U64)
  | missingSignature
  | zeroAmount (field : String)
  | zeroRecipient
  | sameAsset
  | samePool
  | invalidSlippage (bps : U16)
  | invalidMaxHops (hops : U8)
  | invalidPriceImpact (bps : U16)
  | memoTooLarge (length : Nat)
  | deadlineExpired (deadline currentBlock : U64)
  | intentTooLarge (size max : Nat)
  | nonceAlreadyUsed (user : Bytes32) (nonce : U64)
  | nonceGapTooLarge (expected got : U64)
  | rateLimitExceeded (user : Bytes32) (count max : U32)
  | poolFull
  | duplicateIntent
deriving DecidableEq

end Intents

namespace Bincode

open Omniphi.Bincode

def assetId (value : AssetId) : Bytes :=
  leBytes 4 value.chainId ++ variant value.assetType.ctorIdx ++ beBytes 32 value.identifier

def intentKind (value : IntentKind) : Bytes :=
  variant value.ctorIdx ++ match value with
    | .swap intent =>
        assetId intent.assetIn ++ assetId intent.assetOut ++ leBytes 16 intent.amountIn ++
          leBytes 16 intent.minAmountOut ++ leBytes 2 intent.maxSlippageBps ++
          optional (sequence assetId) intent.routeHint
    | .payment intent =>
        assetId intent.asset ++ leBytes 16 intent.amount ++ beBytes 32 intent.recipient ++
          optional (sequence fun byte => [byte]) intent.memo
    | .routeLiquidity intent =>
        beBytes 32 intent.sourcePool ++ beBytes 32 intent.targetPool ++ assetId intent.asset ++
          leBytes 16 intent.amount ++ leBytes 16 intent.minReceived ++
          leBytes 1 intent.rebalanceParams.maxHops ++
          leBytes 2 intent.rebalanceParams.maxPriceImpactBps

def intentTransaction (value : IntentTransaction) : Bytes :=
  beBytes 32 value.intentId ++ intentKind value.intentType ++ leBytes 2 value.version ++
    beBytes 32 value.user ++ leBytes 8 value.nonce ++ optional (beBytes 32) value.recipient ++
    leBytes 8 value.deadline ++ optional (leBytes 8) value.validFrom ++ leBytes 8 value.maxFee ++
    optional (leBytes 8) value.tip ++ flag value.partialFillAllowed ++
    variant value.solverPermissions.mode.ctorIdx ++
    sequence (beBytes 32) value.solverPermissions.solverIds ++
    variant value.executionPreferences.priority.ctorIdx ++
    optional (leBytes 1) value.executionPreferences.maxSolverCount ++
    flag value.executionPreferences.requireFullFill ++ optional (beBytes 32) value.witnessHash ++
    sequence (fun byte => [byte]) value.signature ++
    sequence (fun entry => text entry.1 ++ text entry.2) value.metadata.toList

end Bincode

def minIntentLifetime : U64 := 10
def maxPoolResidence : U64 := 1000
def minIntentFeeBps : U64 := 10
def maxIntentsPerBlockPerUser : U32 := 10
def maxNonceGap : U64 := 3
def maxIntentSize : Nat := 4096
def maxPoolSize : Nat := 50000

namespace IntentKind

def validate : IntentKind → Except IntentValidationError Unit
  | swap intent => do
      if intent.amountIn = 0 then throw (.zeroAmount "amount_in")
      if intent.minAmountOut = 0 then throw (.zeroAmount "min_amount_out")
      if intent.assetIn = intent.assetOut then throw .sameAsset
      if 10000 < intent.maxSlippageBps then throw (.invalidSlippage intent.maxSlippageBps)
  | payment intent => do
      if intent.amount = 0 then throw (.zeroAmount "amount")
      if intent.recipient = 0 then throw .zeroRecipient
      match intent.memo with
      | none => pure ()
      | some memo => if 256 < memo.length then throw (.memoTooLarge memo.length) else pure ()
  | routeLiquidity intent => do
      if intent.amount = 0 then throw (.zeroAmount "amount")
      if intent.minReceived = 0 then throw (.zeroAmount "min_received")
      if intent.sourcePool = intent.targetPool then throw .samePool
      if intent.rebalanceParams.maxHops = 0 ∨ 5 < intent.rebalanceParams.maxHops then
        throw (.invalidMaxHops intent.rebalanceParams.maxHops)
      if 500 < intent.rebalanceParams.maxPriceImpactBps then
        throw (.invalidPriceImpact intent.rebalanceParams.maxPriceImpactBps)

end IntentKind

namespace IntentTransaction

def computeIntentId (sha256 : Sha256) (intent : IntentTransaction) : Bytes32 :=
  sha256 (beBytes 32 intent.user ++ beBytes 8 intent.nonce ++ [intent.intentType.typeTag] ++
    Bincode.intentKind intent.intentType ++ beBytes 8 intent.deadline)

def validateBasic (sha256 : Sha256) (intent : IntentTransaction) :
    Except IntentValidationError Unit := do
  if intent.version ≠ 1 then throw (.unsupportedVersion intent.version)
  if intent.user = 0 then throw .zeroUser
  if intent.intentId = 0 then throw .zeroIntentId
  if intent.intentId ≠ intent.computeIntentId sha256 then throw .intentIdMismatch
  if intent.maxFee < minIntentFeeBps then throw (.feeBelowMinimum intent.maxFee minIntentFeeBps)
  if intent.signature.isEmpty then throw .missingSignature
  intent.intentType.validate

def estimatedSize (intent : IntentTransaction) : Nat := (Bincode.intentTransaction intent).length

end IntentTransaction

structure IntentAnnouncement where
  intentId : Bytes32
  intentTypeTag : UInt8
  user : Bytes32
  deadline : U64
  tip : U64
  sizeBytes : U32

def IntentAnnouncement.fromIntent (intent : IntentTransaction) : IntentAnnouncement where
  intentId := intent.intentId
  intentTypeTag := intent.intentType.typeTag
  user := intent.user
  deadline := intent.deadline
  tip := intent.tip.getD 0
  sizeBytes := BitVec.ofNat 32 intent.estimatedSize

inductive IntentState
  | created
  | admitted
  | opened
  | matched
  | sequenced
  | executed
  | settled
  | expired
  | cancelled
  | disputed
  | slashed
deriving DecidableEq, Repr

namespace IntentState

def isCancellable : IntentState → Bool
  | opened | matched => true
  | _ => false

def transition (current target : IntentState) : Option IntentState :=
  match current, target with
  | created, admitted
  | admitted, opened
  | opened, matched
  | matched, sequenced
  | sequenced, executed
  | executed, settled
  | opened, expired
  | matched, expired
  | opened, cancelled
  | matched, cancelled
  | executed, disputed
  | disputed, slashed => some target
  | _, _ => none

end IntentState

structure IntentLifecycleRecord where
  intentId : Bytes32
  state : IntentState
  admittedAtBlock : U64
  lastTransitionBlock : U64
  matchedBundleId : Option Bytes32
  solverId : Option Bytes32
  receiptId : Option Bytes32

namespace IntentLifecycleRecord

def new (intentId : Bytes32) (block : U64) : IntentLifecycleRecord where
  intentId := intentId
  state := .admitted
  admittedAtBlock := block
  lastTransitionBlock := block
  matchedBundleId := none
  solverId := none
  receiptId := none

def transitionTo (record : IntentLifecycleRecord) (target : IntentState) (block : U64) :
    Option IntentLifecycleRecord :=
  (record.state.transition target).map fun state => { record with state, lastTransitionBlock := block }

end IntentLifecycleRecord

structure PoolEntry where
  intent : IntentTransaction
  lifecycle : IntentLifecycleRecord

def PoolEntry.intentId (entry : PoolEntry) : Bytes32 := entry.intent.intentId

def overflows (a b : U64) : Bool := 2 ^ 64 ≤ a.toNat + b.toNat

structure UserRateTracker where
  counts : BTreeMap Bytes32 (U64 × U32)

def UserRateTracker.checkAndIncrement (tracker : UserRateTracker) (user : Bytes32) (currentBlock : U64) :
    Except IntentValidationError Unit × UserRateTracker :=
  let entry := tracker.counts[user]?.getD (currentBlock, 0)
  let entry := if entry.1 ≠ currentBlock then (currentBlock, 0) else entry
  if maxIntentsPerBlockPerUser ≤ entry.2 then
    (.error (.rateLimitExceeded user entry.2 maxIntentsPerBlockPerUser),
      ⟨tracker.counts.insert user entry⟩)
  else (.ok (), ⟨tracker.counts.insert user (entry.1, entry.2 + 1)⟩)

structure NonceTracker where
  highest : BTreeMap Bytes32 U64

/-- The last component tells whether the bound on the gap overflows. -/
def NonceTracker.checkAndRecord (tracker : NonceTracker) (user : Bytes32) (nonce : U64) :
    Except IntentValidationError Unit × NonceTracker × Bool :=
  match tracker.highest[user]? with
  | none => (.ok (), ⟨tracker.highest.insert user nonce⟩, false)
  | some last =>
      if nonce ≤ last then (.error (.nonceAlreadyUsed user nonce), tracker, false)
      else if last + maxNonceGap < nonce then
        (.error (.nonceGapTooLarge (last + 1) nonce), tracker, overflows last maxNonceGap)
      else (.ok (), ⟨tracker.highest.insert user nonce⟩, overflows last maxNonceGap)

structure PoolMetrics where
  totalAdmitted : U64
  totalRejected : U64
  totalExpired : U64
  totalEvicted : U64
  rejectedByReason : BTreeMap String U64

structure IntentPool where
  entries : KeyedMap PoolEntry.intentId
  insertionOrder : List Bytes32
  seenIds : BTreeSet Bytes32
  rateTracker : UserRateTracker
  nonceTracker : NonceTracker
  currentBlock : U64
  metrics : PoolMetrics

namespace IntentPool

def new : IntentPool where
  entries := .empty
  insertionOrder := []
  seenIds := ∅
  rateTracker := ⟨∅⟩
  nonceTracker := ⟨∅⟩
  currentBlock := 0
  metrics := ⟨0, 0, 0, 0, ∅⟩

def setBlockHeight (pool : IntentPool) (block : U64) : IntentPool := { pool with currentBlock := block }

def recordRejection (pool : IntentPool) (reason : String) : IntentPool × Bool :=
  let count := pool.metrics.rejectedByReason[reason]?.getD 0
  ({ pool with
      metrics := { pool.metrics with
        totalRejected := pool.metrics.totalRejected + 1
        rejectedByReason := pool.metrics.rejectedByReason.insert reason (count + 1) } },
    overflows pool.metrics.totalRejected 1 || overflows count 1)

def lower (lowest : Option (Bytes32 × U64)) (entry : PoolEntry) : Option (Bytes32 × U64) :=
  let tip := entry.intent.tip.getD 0
  match lowest with
  | none => some (entry.intentId, tip)
  | some (_, least) => if tip < least then some (entry.intentId, tip) else lowest

/-- The first entry, in the order of the ids, of those with the lowest tip. -/
def lowestTip (entries : List PoolEntry) : Option (Bytes32 × U64) := entries.foldl lower none

def evictLowestTip (pool : IntentPool) : Bool × IntentPool × Bool :=
  match lowestTip pool.entries.values with
  | none => (false, pool, false)
  | some (id, _) =>
      (true,
        { pool with
          entries := pool.entries.erase id
          insertionOrder := pool.insertionOrder.filter (· ≠ id)
          metrics := { pool.metrics with totalEvicted := pool.metrics.totalEvicted + 1 } },
        overflows pool.metrics.totalEvicted 1)

def makeRoom (pool : IntentPool) : Bool × IntentPool × Bool :=
  if maxPoolSize ≤ pool.entries.size then pool.evictLowestTip else (true, pool, false)

def enter (pool : IntentPool) (intent : IntentTransaction) : IntentPool :=
  { pool with
    entries := pool.entries.insert ⟨intent, .new intent.intentId pool.currentBlock⟩
    insertionOrder := pool.insertionOrder ++ [intent.intentId]
    seenIds := pool.seenIds.insert intent.intentId
    metrics := { pool.metrics with totalAdmitted := pool.metrics.totalAdmitted + 1 } }

structure Admission where
  result : Except IntentValidationError IntentAnnouncement
  pool : IntentPool
  overflow : Bool

def rejected (pool : IntentPool) (reason : String) (e : IntentValidationError) (overflow : Bool) :
    Admission :=
  let (pool, more) := pool.recordRejection reason
  { result := .error e, pool, overflow := overflow || more }

def admitIntent (sha256 : Sha256) (pool : IntentPool) (intent : IntentTransaction) : Admission :=
  match intent.validateBasic sha256 with
  | .error e => { result := .error e, pool, overflow := false }
  | .ok () =>
      if pool.seenIds.contains intent.intentId || pool.entries.contains intent.intentId then
        pool.rejected "duplicate" .duplicateIntent false
      else if maxIntentSize < intent.estimatedSize then
        pool.rejected "too_large" (.intentTooLarge intent.estimatedSize maxIntentSize) false
      else
        let overflow := overflows pool.currentBlock minIntentLifetime
        if intent.deadline ≤ pool.currentBlock + minIntentLifetime then
          pool.rejected "deadline_expired" (.deadlineExpired intent.deadline pool.currentBlock) overflow
        else
          match pool.rateTracker.checkAndIncrement intent.user pool.currentBlock with
          | (.error e, rateTracker) => { result := .error e, pool := { pool with rateTracker }, overflow }
          | (.ok (), rateTracker) =>
              match pool.nonceTracker.checkAndRecord intent.user intent.nonce with
              | (.error e, nonceTracker, more) =>
                  { result := .error e, pool := { pool with rateTracker, nonceTracker }
                    overflow := overflow || more }
              | (.ok (), nonceTracker, more) =>
                  let (room, pool, evicting) := { pool with rateTracker, nonceTracker }.makeRoom
                  let overflow := overflow || more || evicting
                  if room = false then pool.rejected "pool_full" .poolFull overflow
                  else
                    { result := .ok (.fromIntent intent), pool := pool.enter intent
                      overflow := overflow || overflows pool.metrics.totalAdmitted 1 }

def remove (pool : IntentPool) (intentId : Bytes32) : Option PoolEntry × IntentPool :=
  match pool.entries.get? intentId with
  | none => (none, pool)
  | some entry =>
      (some entry,
        { pool with
          entries := pool.entries.erase intentId
          insertionOrder := pool.insertionOrder.filter (· ≠ intentId) })

def opened (block : U64) (entry : PoolEntry) : PoolEntry :=
  if entry.lifecycle.state = .admitted then
    { entry with lifecycle := (entry.lifecycle.transitionTo .opened block).getD entry.lifecycle }
  else entry

theorem opened_intentId (block : U64) (entry : PoolEntry) :
    (opened block entry).intentId = entry.intentId := by
  unfold opened
  split <;> rfl

def openAdmittedIntents (pool : IntentPool) : IntentPool :=
  { pool with
    entries := pool.entries.mapValues (opened pool.currentBlock) (opened_intentId pool.currentBlock) }

def markMatched (pool : IntentPool) (intentId bundleId solverId : Bytes32) : Bool × IntentPool :=
  match pool.entries.get? intentId with
  | none => (false, pool)
  | some entry =>
      match entry.lifecycle.transitionTo .matched pool.currentBlock with
      | none => (false, pool)
      | some lifecycle =>
          (true, { pool with
            entries := pool.entries.insert { entry with
              lifecycle := { lifecycle with
                matchedBundleId := some bundleId, solverId := some solverId } } })

def isExpired (block : U64) (entry : PoolEntry) : Bool :=
  (entry.intent.deadline ≤ block ∨ entry.lifecycle.admittedAtBlock + maxPoolResidence ≤ block) ∧
    (entry.lifecycle.state = .opened ∨ entry.lifecycle.state = .admitted ∨
      entry.lifecycle.state = .matched)

def expiredIds (pool : IntentPool) : List Bytes32 :=
  (pool.entries.values.filter (isExpired pool.currentBlock)).map PoolEntry.intentId

/-- An expired entry is marked as such and dropped at once, so the mark is left out. The counter goes up
once for each. -/
def pruneExpired (pool : IntentPool) : List Bytes32 × IntentPool × Bool :=
  let expired := pool.expiredIds
  let entries := expired.foldl KeyedMap.erase pool.entries
  (expired,
    { pool with
      entries
      insertionOrder := pool.insertionOrder.filter entries.contains
      metrics := { pool.metrics with
        totalExpired := pool.metrics.totalExpired + BitVec.ofNat 64 expired.length } },
    pool.entries.values.any (fun entry => overflows entry.lifecycle.admittedAtBlock maxPoolResidence) ||
      2 ^ 64 ≤ pool.metrics.totalExpired.toNat + expired.length)

def cancel (pool : IntentPool) (intentId : Bytes32) : Bool × IntentPool :=
  match pool.entries.get? intentId with
  | none => (false, pool)
  | some entry =>
      if entry.lifecycle.state.isCancellable ∧
          (entry.lifecycle.transitionTo .cancelled pool.currentBlock).isSome then
        (true, { pool with
          entries := pool.entries.erase intentId
          insertionOrder := pool.insertionOrder.filter (· ≠ intentId) })
      else (false, pool)

end IntentPool

end Omniphi.PoSeq
