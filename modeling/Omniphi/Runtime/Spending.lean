import Omniphi.Basic

/-! Spend capabilities: bounded, expiring rights to spend from another account, and the registry that
grants, consumes and ends them. -/

namespace Omniphi.Runtime

inductive SpendCapabilityStatus
  | active
  | consumed
  | revoked
  | expired
deriving DecidableEq

def SpendCapabilityStatus.debug : SpendCapabilityStatus → String
  | active => "Active"
  | consumed => "Consumed"
  | revoked => "Revoked"
  | expired => "Expired"

structure SpendCapability where
  capabilityId : Bytes32
  owner : Bytes32
  allowedSpender : Bytes32
  assetId : Bytes32
  maxAmount : U128
  remainingAmount : U128
  expirationEpoch : U64
  scopeHash : Option Bytes32
  status : SpendCapabilityStatus
  createdAtEpoch : U64
deriving DecidableEq

namespace SpendCapability

def computeId (sha256 : Sha256) (owner spender assetId : Bytes32) (maxAmount : U128) (nonce : U64) :
    Bytes32 :=
  sha256 (strBytes "OMNIPHI_SPEND_CAP_V1" ++ beBytes 32 owner ++ beBytes 32 spender ++
    beBytes 32 assetId ++ beBytes 16 maxAmount ++ beBytes 8 nonce)

def create (sha256 : Sha256) (owner allowedSpender assetId : Bytes32) (maxAmount : U128)
    (expirationEpoch : U64) (scopeHash : Option Bytes32) (currentEpoch nonce : U64) :
    Except String SpendCapability := do
  if owner = 0 then throw "owner cannot be zero"
  if allowedSpender = 0 then throw "spender cannot be zero"
  if owner = allowedSpender then throw "owner and spender must differ"
  if maxAmount = 0 then throw "max_amount must be > 0"
  if expirationEpoch ≤ currentEpoch then
    throw ("expiration " ++ toString expirationEpoch.toNat ++ " must be > current epoch " ++
      toString currentEpoch.toNat)
  return {
    capabilityId := computeId sha256 owner allowedSpender assetId maxAmount nonce
    owner, allowedSpender, assetId, maxAmount, remainingAmount := maxAmount, expirationEpoch
    scopeHash, status := .active, createdAtEpoch := currentEpoch }

def isUsable (cap : SpendCapability) (currentEpoch : U64) : Bool :=
  cap.status = .active ∧ currentEpoch < cap.expirationEpoch

def checkScope (cap : SpendCapability) (txScopeHash : Option Bytes32) : Except String Unit :=
  match cap.scopeHash, txScopeHash with
  | none, _ => .ok ()
  | some required, some actual =>
      if actual = required then .ok () else .error "scope_hash mismatch"
  | some _, none => .error "capability is intent-scoped but no scope_hash provided"

/-- The amount consumed, and the capability as the call leaves it: one found to be past its deadline
is marked before it is refused. -/
def consume (cap : SpendCapability) (spender : Bytes32) (amount : U128) (currentEpoch : U64)
    (txScopeHash : Option Bytes32) : Except String U128 × SpendCapability :=
  if cap.status ≠ .active then
    (.error ("capability is " ++ cap.status.debug ++ ", not Active"), cap)
  else if cap.expirationEpoch ≤ currentEpoch then
    (.error "capability has expired", { cap with status := .expired })
  else if spender ≠ cap.allowedSpender then (.error "unauthorized spender", cap)
  else match cap.checkScope txScopeHash with
    | .error e => (.error e, cap)
    | .ok () =>
      if amount = 0 then (.error "consume amount must be > 0", cap)
      else if cap.remainingAmount < amount then
        (.error ("insufficient capability: requested " ++ toString amount.toNat ++ ", remaining " ++
          toString cap.remainingAmount.toNat), cap)
      else
        let remainingAmount := cap.remainingAmount - amount
        (.ok amount, { cap with
          remainingAmount
          status := if remainingAmount = 0 then .consumed else cap.status })

def revoke (cap : SpendCapability) (caller : Bytes32) : Except String SpendCapability := do
  if caller ≠ cap.owner then throw "only owner can revoke"
  if cap.status ≠ .active then throw ("cannot revoke: status is " ++ cap.status.debug)
  return { cap with status := .revoked }

end SpendCapability

instance : Ord (Bytes32 × Bytes32) := lexOrd

instance : Std.TransOrd (Bytes32 × Bytes32) := BTree.lexTrans

instance : Std.LawfulEqOrd (Bytes32 × Bytes32) := BTree.lexLawful

instance : Ord (Bytes32 × Bytes32 × Bytes32) := lexOrd

instance : Std.TransOrd (Bytes32 × Bytes32 × Bytes32) := BTree.lexTrans

instance : Std.LawfulEqOrd (Bytes32 × Bytes32 × Bytes32) := BTree.lexLawful

structure SpendCapabilityRegistry where
  capabilities : BTreeMap Bytes32 SpendCapability
  byGrant : BTreeMap (Bytes32 × Bytes32 × Bytes32) (List Bytes32)
  byOwner : BTreeMap Bytes32 (List Bytes32)
  byExpiration : BTreeMap U64 (List Bytes32)
  ownerNonces : BTreeMap Bytes32 U64

namespace SpendCapabilityRegistry

def new : SpendCapabilityRegistry :=
  { capabilities := ∅, byGrant := ∅, byOwner := ∅, byExpiration := ∅, ownerNonces := ∅ }

def nonce (registry : SpendCapabilityRegistry) (owner : Bytes32) : U64 :=
  registry.ownerNonces[owner]?.getD 0

/-- A refused grant still leaves the owner's nonce entered. -/
def create (sha256 : Sha256) (registry : SpendCapabilityRegistry) (owner spender assetId : Bytes32)
    (maxAmount : U128) (expirationEpoch : U64) (scopeHash : Option Bytes32) (currentEpoch : U64) :
    Except String Bytes32 × SpendCapabilityRegistry :=
  let nonce := registry.nonce owner
  match SpendCapability.create sha256 owner spender assetId maxAmount expirationEpoch scopeHash
      currentEpoch nonce with
  | .error e => (.error e, { registry with ownerNonces := registry.ownerNonces.insert owner nonce })
  | .ok cap =>
      let id := cap.capabilityId
      (.ok id, {
        capabilities := registry.capabilities.insert id cap
        byGrant := BTree.push registry.byGrant (owner, spender, assetId) id
        byOwner := BTree.push registry.byOwner owner id
        byExpiration := BTree.push registry.byExpiration expirationEpoch id
        ownerNonces := registry.ownerNonces.insert owner (nonce + 1) })

def get (registry : SpendCapabilityRegistry) (capabilityId : Bytes32) : Option SpendCapability :=
  registry.capabilities[capabilityId]?

def put (registry : SpendCapabilityRegistry) (capabilityId : Bytes32) (cap : SpendCapability) :
    SpendCapabilityRegistry :=
  { registry with capabilities := registry.capabilities.insert capabilityId cap }

def consume (registry : SpendCapabilityRegistry) (capabilityId spender : Bytes32) (amount : U128)
    (currentEpoch : U64) (txScopeHash : Option Bytes32) :
    Except String U128 × SpendCapabilityRegistry :=
  match registry.get capabilityId with
  | none => (.error "capability not found", registry)
  | some cap =>
      let (outcome, cap) := cap.consume spender amount currentEpoch txScopeHash
      (outcome, registry.put capabilityId cap)

/-- The usable capability of a grant with the most left; the last of several such. -/
def findActive (registry : SpendCapabilityRegistry) (owner spender assetId : Bytes32)
    (currentEpoch : U64) : Option SpendCapability := do
  let ids ← registry.byGrant[(owner, spender, assetId)]?
  let usable := (ids.filterMap registry.get).filter fun cap => cap.isUsable currentEpoch
  usable.foldl (fun best cap => match best with
    | none => some cap
    | some other => if other.remainingAmount ≤ cap.remainingAmount then some cap else some other) none

def revoke (registry : SpendCapabilityRegistry) (capabilityId caller : Bytes32) :
    Except String Unit × SpendCapabilityRegistry :=
  match registry.get capabilityId with
  | none => (.error "capability not found", registry)
  | some cap =>
      match cap.revoke caller with
      | .error e => (.error e, registry)
      | .ok cap => (.ok (), registry.put capabilityId cap)

def close (status : SpendCapabilityStatus) (acc : Nat × BTreeMap Bytes32 SpendCapability)
    (id : Bytes32) : Nat × BTreeMap Bytes32 SpendCapability :=
  match acc.2[id]? with
  | some cap => if cap.status = .active then (acc.1 + 1, acc.2.insert id { cap with status }) else acc
  | none => acc

def closeAll (status : SpendCapabilityStatus) (capabilities : BTreeMap Bytes32 SpendCapability)
    (ids : List Bytes32) : Nat × BTreeMap Bytes32 SpendCapability :=
  ids.foldl (close status) (0, capabilities)

def revokeAllByOwner (registry : SpendCapabilityRegistry) (owner : Bytes32) :
    Nat × SpendCapabilityRegistry :=
  let (count, capabilities) := closeAll .revoked registry.capabilities (registry.byOwner[owner]?.getD [])
  (count, { registry with capabilities })

def expireStale (registry : SpendCapabilityRegistry) (currentEpoch : U64) :
    Nat × SpendCapabilityRegistry :=
  let expired := registry.byExpiration.toList.filter fun entry => entry.1 ≤ currentEpoch
  let (count, capabilities) := closeAll .expired registry.capabilities (expired.flatMap Prod.snd)
  (count, { registry with capabilities })

def prune (registry : SpendCapabilityRegistry) (beforeEpoch : U64) : Nat × SpendCapabilityRegistry :=
  let capabilities := registry.capabilities.filter fun _ cap =>
    cap.status = .active ∨ beforeEpoch ≤ cap.createdAtEpoch
  (registry.capabilities.size - capabilities.size, { registry with capabilities })

end SpendCapabilityRegistry

end Omniphi.Runtime
