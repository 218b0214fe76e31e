import Omniphi.Basic
import Omniphi.Lib.OwnerIndex
import Omniphi.Lib.Run

/-! Ownership objects and their registry: who may transfer an object and when, how shares move, and what
the index of owners lists. -/

namespace Omniphi.Runtime.Ownership

inductive TransferCondition
  | minEpoch (threshold : U64)
  | allowedRecipients (list : List Bytes32)
  | requiresLinkedOwnership (linkedId : Bytes32)
  | alwaysTrue

inductive OwnershipMode
  | direct
  | timeLocked (unlockEpoch : U64)
  | conditional (condition : TransferCondition)
  | fractional (shares : BTreeMap Bytes32 U32)
  | delegated (delegate : Bytes32) (expiresEpoch : U64)

structure BehaviorFlags where
  soulbound : Bool
  expiresEpoch : Option U64

structure OwnershipObject where
  objectId : Bytes32
  owner : Bytes32
  ownershipMode : OwnershipMode
  behavior : BehaviorFlags
  linkedObjects : List Bytes32
  version : U64
  updatedAtEpoch : U64

def totalShares (shares : BTreeMap Bytes32 U32) : U32 :=
  (shares.toList.map Prod.snd).foldl (fun total share => total + share) 0

/-- The last of the largest shareholders in the order of their addresses, as `max_by_key` takes it. -/
def largestHolder (shares : BTreeMap Bytes32 U32) : Option Bytes32 :=
  (shares.toList.foldl (fun best entry => match best with
    | some largest => if largest.2 ≤ entry.2 then some entry else some largest
    | none => some entry) none).map Prod.fst

namespace OwnershipObject

def create (objectId owner : Bytes32) (mode : OwnershipMode) (behavior : BehaviorFlags) (currentEpoch : U64) :
    Except String OwnershipObject := do
  if objectId = 0 then throw "object_id must be non-zero"
  if owner = 0 then throw "owner must be non-zero"
  match mode with
  | .fractional shares =>
      let total := totalShares shares
      if total ≠ 10000 then throw ("fractional shares must sum to 10000, got " ++ toString total.toNat)
      if shares.isEmpty then throw "fractional ownership requires at least one shareholder"
  | _ => pure ()
  return { objectId, owner, ownershipMode := mode, behavior, linkedObjects := [], version := 1
           updatedAtEpoch := currentEpoch }

variable (object : OwnershipObject)

def isExpired (currentEpoch : U64) : Bool :=
  object.behavior.expiresEpoch.any fun e => e ≤ currentEpoch

def modeAllows (mode : OwnershipMode) (recipient : Bytes32) (currentEpoch : U64) : Except String Unit :=
  match mode with
  | .direct => .ok ()
  | .timeLocked unlockEpoch =>
      if currentEpoch < unlockEpoch then
        .error ("time-locked until epoch " ++ toString unlockEpoch.toNat ++ " (current: " ++
          toString currentEpoch.toNat ++ ")")
      else .ok ()
  | .conditional (.minEpoch min) =>
      if currentEpoch < min then
        .error ("condition: min epoch " ++ toString min.toNat ++ " not reached (current: " ++
          toString currentEpoch.toNat ++ ")")
      else .ok ()
  | .conditional (.allowedRecipients list) =>
      if recipient ∈ list then .ok () else .error "condition: recipient not in allowlist"
  | .conditional (.requiresLinkedOwnership linkedId) =>
      if linkedId ∈ object.linkedObjects then .ok () else .error "condition: required linked object not found"
  | .conditional .alwaysTrue => .ok ()
  | .fractional _ => .error "fractional ownership cannot be transferred directly; use transfer_shares()"
  | .delegated _ _ => .ok ()

def canTransfer (sender recipient : Bytes32) (currentEpoch : U64) : Except String Unit := do
  if object.behavior.soulbound then throw "object is soulbound and cannot be transferred"
  if object.isExpired currentEpoch then throw "object has expired"
  if sender ≠ object.owner then throw "caller is not the owner"
  if recipient = 0 then throw "cannot transfer to zero address"
  if sender = recipient then throw "cannot transfer to self"
  object.modeAllows object.ownershipMode recipient currentEpoch

def touch (currentEpoch : U64) : OwnershipObject :=
  { object with version := object.version + 1, updatedAtEpoch := currentEpoch }

def transfer (sender recipient : Bytes32) (currentEpoch : U64) : Except String OwnershipObject := do
  object.canTransfer sender recipient currentEpoch
  let ownershipMode := match object.ownershipMode with
    | .delegated _ _ => .direct
    | mode => mode
  return { object.touch currentEpoch with owner := recipient, ownershipMode }

def movedShares (shares : BTreeMap Bytes32 U32) (sender recipient : Bytes32) (amountBps : U32) :
    BTreeMap Bytes32 U32 :=
  let newFrom := shares[sender]?.getD 0 - amountBps
  let shares := if newFrom = 0 then shares.erase sender else shares.insert sender newFrom
  shares.insert recipient (shares[recipient]?.getD 0 + amountBps)

def transferShares (sender recipient : Bytes32) (amountBps : U32) (currentEpoch : U64) :
    Except String OwnershipObject := do
  if recipient = 0 then throw "cannot transfer to zero address"
  if sender = recipient then throw "cannot transfer to self"
  if amountBps = 0 then throw "amount must be > 0"
  match object.ownershipMode with
  | .fractional shares =>
      let fromBalance := shares[sender]?.getD 0
      if fromBalance < amountBps then
        throw ("insufficient shares: have " ++ toString fromBalance.toNat ++ ", need " ++
          toString amountBps.toNat)
      let shares := movedShares shares sender recipient amountBps
      return { object.touch currentEpoch with
        owner := (largestHolder shares).getD object.owner, ownershipMode := .fractional shares }
  | _ => throw "not fractional ownership"

def delegate (owner delegate : Bytes32) (expiresEpoch currentEpoch : U64) : Except String OwnershipObject := do
  if owner ≠ object.owner then throw "only owner can delegate"
  if delegate = 0 then throw "delegate must be non-zero"
  if expiresEpoch ≤ currentEpoch then
    throw ("expires_epoch " ++ toString expiresEpoch.toNat ++ " must be > current " ++
      toString currentEpoch.toNat)
  return { object.touch currentEpoch with ownershipMode := .delegated delegate expiresEpoch }

def revokeDelegation (owner : Bytes32) (currentEpoch : U64) : Except String OwnershipObject := do
  if owner ≠ object.owner then throw "only owner can revoke delegation"
  match object.ownershipMode with
  | .delegated _ _ => return { object.touch currentEpoch with ownershipMode := .direct }
  | _ => throw "no active delegation to revoke"

def addLink (targetId : Bytes32) (currentEpoch : U64) : Except String OwnershipObject := do
  if targetId = object.objectId then throw "cannot link to self"
  if targetId ∈ object.linkedObjects then throw "duplicate link"
  return { object.touch currentEpoch with linkedObjects := object.linkedObjects ++ [targetId] }

def removeLink (targetId : Bytes32) (currentEpoch : U64) : Except String OwnershipObject := do
  let kept := object.linkedObjects.filter fun linked => linked ≠ targetId
  if kept.length = object.linkedObjects.length then throw "link not found"
  return { object.touch currentEpoch with linkedObjects := kept }

end OwnershipObject

structure OwnershipRegistry where
  objects : BTreeMap Bytes32 OwnershipObject
  byOwner : BTreeMap Bytes32 (List Bytes32)

inductive Call
  | transfer (sender recipient : Bytes32) (currentEpoch : U64)
  | transferShares (sender recipient : Bytes32) (amountBps : U32) (currentEpoch : U64)
  | delegate (owner delegate : Bytes32) (expiresEpoch currentEpoch : U64)
  | revokeDelegation (owner : Bytes32) (currentEpoch : U64)
  | addLink (targetId : Bytes32) (currentEpoch : U64)
  | removeLink (targetId : Bytes32) (currentEpoch : U64)

def OwnershipObject.act (object : OwnershipObject) : Call → Except String OwnershipObject
  | .transfer sender recipient currentEpoch => object.transfer sender recipient currentEpoch
  | .transferShares sender recipient amountBps currentEpoch =>
      object.transferShares sender recipient amountBps currentEpoch
  | .delegate owner delegate expiresEpoch currentEpoch => object.delegate owner delegate expiresEpoch currentEpoch
  | .revokeDelegation owner currentEpoch => object.revokeDelegation owner currentEpoch
  | .addLink targetId currentEpoch => object.addLink targetId currentEpoch
  | .removeLink targetId currentEpoch => object.removeLink targetId currentEpoch

/-- An object is created and registered, or one that is registered is called through `get_mut`. -/
inductive Operation
  | register (objectId owner : Bytes32) (mode : OwnershipMode) (behavior : BehaviorFlags) (currentEpoch : U64)
  | call (id : Bytes32) (call : Call)

namespace OwnershipRegistry

def new : OwnershipRegistry := { objects := ∅, byOwner := ∅ }

variable (registry : OwnershipRegistry)

def register (object : OwnershipObject) : Except String OwnershipRegistry :=
  if registry.objects.contains object.objectId then .error "duplicate object_id"
  else .ok
    { objects := registry.objects.insert object.objectId object
      byOwner := BTree.push registry.byOwner object.owner object.objectId }

/-- What an operation returns: the new registry, or the error it is refused with. A call of an id that is
not registered finds no object to act on. -/
def attempt : Operation → Except String OwnershipRegistry
  | .register objectId owner mode behavior currentEpoch => do
      registry.register (← OwnershipObject.create objectId owner mode behavior currentEpoch)
  | .call id call =>
      match registry.objects[id]? with
      | some object => (object.act call).map fun next =>
          { registry with objects := registry.objects.insert id next }
      | none => .ok registry

def step (operation : Operation) : OwnershipRegistry :=
  match registry.attempt operation with
  | .ok next => next
  | .error _ => registry

end OwnershipRegistry

end Omniphi.Runtime.Ownership
