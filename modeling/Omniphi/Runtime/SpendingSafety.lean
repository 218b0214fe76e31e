import Omniphi.Lib.Run
import Omniphi.Runtime.PlanSteps
import Omniphi.Runtime.Spending

/-! Over every sequence of registry operations a capability is never spent beyond its amount, and not
at all outside its terms or after it has ended. -/

namespace Omniphi.Runtime

open SettlementEngine (guard_ok)

theorem SpendCapabilityStatus.revoked_ne_active : revoked ≠ active := nofun

theorem SpendCapabilityStatus.expired_ne_active : expired ≠ active := nofun

namespace SpendCapability

/-- A later state of a capability after `amount` more was consumed. An ended one stays ended. -/
structure Moved (before after : SpendCapability) (amount : Nat) : Prop where
  terms : after = { before with remainingAmount := after.remainingAmount, status := after.status }
  remaining : after.remainingAmount.toNat + amount = before.remainingAmount.toNat
  ended : before.status ≠ .active → after.status ≠ .active ∧ amount = 0

theorem Moved.refl (cap : SpendCapability) : Moved cap cap 0 := ⟨rfl, rfl, fun ended => ⟨ended, rfl⟩⟩

theorem Moved.close (cap : SpendCapability) {status : SpendCapabilityStatus} (ending : status ≠ .active) :
    Moved cap { cap with status } 0 :=
  ⟨rfl, rfl, fun _ => ⟨ending, rfl⟩⟩

structure Admits (cap : SpendCapability) (spender : Bytes32) (currentEpoch : U64)
    (txScopeHash : Option Bytes32) : Prop where
  inTime : currentEpoch < cap.expirationEpoch
  spender : spender = cap.allowedSpender
  scope : ∀ required, cap.scopeHash = some required → txScopeHash = some required

theorem checkScope_ok {cap : SpendCapability} {txScopeHash : Option Bytes32} :
    cap.checkScope txScopeHash = .ok () ↔
      ∀ required, cap.scopeHash = some required → txScopeHash = some required := by
  unfold checkScope
  split
  · rename_i anyScope
    simp [anyScope]
  · rename_i required actual oneScope
    simp only [oneScope, Option.some.injEq, forall_eq']
    split <;> simp_all
  · rename_i oneScope
    simp [oneScope]

theorem consume_cases (cap : SpendCapability) (spender : Bytes32) (amount : U128) (currentEpoch : U64)
    (txScopeHash : Option Bytes32) :
    (∃ after, cap.consume spender amount currentEpoch txScopeHash = (.ok amount, after) ∧
      cap.status = .active ∧ cap.Admits spender currentEpoch txScopeHash ∧
      0 < amount.toNat ∧ Moved cap after amount.toNat) ∨
    ∃ e after, cap.consume spender amount currentEpoch txScopeHash = (.error e, after) ∧
      Moved cap after 0 := by
  unfold consume
  split
  · exact .inr ⟨_, _, rfl, .refl cap⟩
  rename_i active
  split
  · exact .inr ⟨_, _, rfl, .close cap SpendCapabilityStatus.expired_ne_active⟩
  rename_i inTime
  split
  · exact .inr ⟨_, _, rfl, .refl cap⟩
  rename_i authorised
  split
  · exact .inr ⟨_, _, rfl, .refl cap⟩
  rename_i inScope
  split
  · exact .inr ⟨_, _, rfl, .refl cap⟩
  rename_i positive
  split
  · exact .inr ⟨_, _, rfl, .refl cap⟩
  rename_i covered
  have active : cap.status = .active := by simpa using active
  have covered : amount ≤ cap.remainingAmount := BitVec.not_lt.1 covered
  refine .inl ⟨_, rfl, active, ⟨BitVec.not_le.1 inTime, by simpa using authorised,
    checkScope_ok.1 inScope⟩, ?_, rfl, ?_, fun ended => absurd active ended⟩
  · have nonzero : amount.toNat ≠ 0 := fun zero => positive (BitVec.eq_of_toNat_eq zero)
    omega
  · dsimp only
    rw [BitVec.toNat_sub_of_le covered]
    exact Nat.sub_add_cancel covered

end SpendCapability

namespace SpendCapabilityRegistry

open SpendCapability (Moved Admits)

inductive Operation
  | create (owner spender assetId : Bytes32) (maxAmount : U128) (expirationEpoch : U64)
      (scopeHash : Option Bytes32) (currentEpoch : U64)
  | consume (capabilityId spender : Bytes32) (amount : U128) (currentEpoch : U64)
      (txScopeHash : Option Bytes32)
  | revoke (capabilityId caller : Bytes32)
  | revokeAllByOwner (owner : Bytes32)
  | expireStale (currentEpoch : U64)
  | prune (beforeEpoch : U64)

variable (sha256 : Sha256)

section Steps

variable (registry : SpendCapabilityRegistry)

def apply : Operation → SpendCapabilityRegistry
  | .create owner spender assetId maxAmount expirationEpoch scopeHash currentEpoch =>
      (registry.create sha256 owner spender assetId maxAmount expirationEpoch scopeHash currentEpoch).2
  | .consume capabilityId spender amount currentEpoch txScopeHash =>
      (registry.consume capabilityId spender amount currentEpoch txScopeHash).2
  | .revoke capabilityId caller => (registry.revoke capabilityId caller).2
  | .revokeAllByOwner owner => (registry.revokeAllByOwner owner).2
  | .expireStale currentEpoch => (registry.expireStale currentEpoch).2
  | .prune beforeEpoch => (registry.prune beforeEpoch).2

def grants : Operation → Option SpendCapability
  | .create owner spender assetId maxAmount expirationEpoch scopeHash currentEpoch =>
      (SpendCapability.create sha256 owner spender assetId maxAmount expirationEpoch scopeHash
        currentEpoch (registry.nonce owner)).toOption
  | _ => none

def spends (id : Bytes32) : Operation → Nat
  | .consume capabilityId spender amount currentEpoch txScopeHash =>
      match (registry.consume capabilityId spender amount currentEpoch txScopeHash).1 with
      | .ok consumed => if capabilityId = id then consumed.toNat else 0
      | .error _ => 0
  | _ => 0

end Steps

section Lookup

variable {registry : SpendCapabilityRegistry}

theorem get_put (id a : Bytes32) (cap : SpendCapability) :
    (registry.put id cap).get a = if id = a then some cap else registry.get a := by
  simp only [get, put]
  exact BTree.getElem?_insert _ _ _ _

theorem getElem?_close (status : SpendCapabilityStatus) (acc : Nat × BTreeMap Bytes32 SpendCapability)
    (id a : Bytes32) :
    (close status acc id).2[a]? = acc.2[a]?.map fun cap =>
      if a = id ∧ cap.status = .active then { cap with status } else cap := by
  unfold close
  split
  · rename_i cap found
    split
    · rename_i active
      rw [BTree.getElem?_insert]
      by_cases here : id = a
      · subst here
        simp [found, active]
      · simp [here, Ne.symm here]
    · rename_i ended
      by_cases here : a = id
      · subst here
        simp [found, ended]
      · simp [here]
  · rename_i absent
    by_cases here : a = id
    · subst here
      simp [absent]
    · simp [here]

theorem getElem?_closeAll (status : SpendCapabilityStatus)
    (capabilities : BTreeMap Bytes32 SpendCapability) (ids : List Bytes32) (a : Bytes32) :
    (closeAll status capabilities ids).2[a]? = capabilities[a]?.map fun cap =>
      if a ∈ ids ∧ cap.status = .active then { cap with status } else cap := by
  unfold closeAll
  generalize start : ((0 : Nat), capabilities) = acc
  have same : capabilities = acc.2 := by rw [← start]
  rw [same]
  clear start same
  induction ids generalizing acc with
  | nil => simp
  | cons id ids ih =>
      rw [List.foldl_cons, ih, getElem?_close, Option.map_map]
      congr 1
      funext cap
      by_cases here : a = id
      · by_cases active : cap.status = .active <;> simp [here, active]
      · simp [here]

theorem get_revokeAllByOwner (owner a : Bytes32) :
    (registry.revokeAllByOwner owner).2.get a = (registry.get a).map fun cap =>
      if a ∈ registry.byOwner[owner]?.getD [] ∧ cap.status = .active then { cap with status := .revoked }
      else cap :=
  getElem?_closeAll _ _ _ _

theorem moved_closeAll {status : SpendCapabilityStatus} (ending : status ≠ .active) (listed : Prop)
    [Decidable listed] (cap : SpendCapability) :
    Moved cap (if listed ∧ cap.status = .active then { cap with status } else cap) 0 := by
  split
  · exact .close cap ending
  · exact .refl cap

theorem get_prune (beforeEpoch : U64) (a : Bytes32) :
    (registry.prune beforeEpoch).2.get a = (registry.get a).filter fun cap =>
      cap.status = .active ∨ beforeEpoch ≤ cap.createdAtEpoch := by
  simp only [get, prune]
  exact Std.ExtTreeMap.getElem?_filter'

theorem consume_ok {capabilityId spender : Bytes32} {amount consumed : U128} {currentEpoch : U64}
    {txScopeHash : Option Bytes32}
    (succeeded : (registry.consume capabilityId spender amount currentEpoch txScopeHash).1 =
      .ok consumed) :
    ∃ cap, registry.get capabilityId = some cap ∧ cap.status = .active ∧
      cap.Admits spender currentEpoch txScopeHash ∧ consumed = amount ∧ 0 < amount.toNat ∧
      ∃ after, (registry.consume capabilityId spender amount currentEpoch txScopeHash).2 =
        registry.put capabilityId after ∧ Moved cap after amount.toNat := by
  unfold consume at succeeded ⊢
  cases found : registry.get capabilityId with
  | none =>
      rw [found] at succeeded
      cases succeeded
  | some cap =>
      rw [found] at succeeded
      rcases cap.consume_cases spender amount currentEpoch txScopeHash with
        ⟨after, call, active, admits, positive, moved⟩ | ⟨e, after, call, -⟩
      · simp only [call, Except.ok.injEq] at succeeded
        exact ⟨cap, rfl, active, admits, succeeded.symm, positive, after, by simp only [call], moved⟩
      · simp only [call] at succeeded
        cases succeeded

end Lookup

section Advances

structure Advances (registry after : SpendCapabilityRegistry) (id : Bytes32) (amount : Nat) : Prop where
  absent : registry.get id = none → after.get id = none ∧ amount = 0
  stored : ∀ cap, registry.get id = some cap →
    (after.get id = none ∧ cap.status ≠ .active ∧ amount = 0) ∨
      ∃ next, after.get id = some next ∧ Moved cap next amount

variable {registry after : SpendCapabilityRegistry}

theorem Advances.of_map {id : Bytes32} {change : SpendCapability → SpendCapability}
    (lookup : after.get id = (registry.get id).map change) (moves : ∀ cap, Moved cap (change cap) 0) :
    Advances registry after id 0 := by
  constructor
  · intro absent
    exact ⟨by rw [lookup, absent, Option.map_none], rfl⟩
  · intro cap found
    exact .inr ⟨change cap, by rw [lookup, found, Option.map_some], moves cap⟩

theorem Advances.same {id : Bytes32} (lookup : after.get id = registry.get id) :
    Advances registry after id 0 :=
  .of_map (lookup.trans Option.map_id_apply.symm) Moved.refl

theorem Advances.put {capabilityId : Bytes32} {cap next : SpendCapability} {amount : Nat}
    (found : registry.get capabilityId = some cap) (moved : Moved cap next amount) (id : Bytes32) :
    Advances registry (registry.put capabilityId next) id (if capabilityId = id then amount else 0) := by
  by_cases here : capabilityId = id
  · subst here
    rw [if_pos rfl]
    constructor
    · intro absent
      cases found.symm.trans absent
    · intro old same
      obtain rfl : cap = old := by simpa [found] using same
      exact .inr ⟨next, by rw [get_put, if_pos rfl], moved⟩
  · rw [if_neg here]
    apply Advances.same
    rw [get_put, if_neg here]

theorem advances_consume (capabilityId spender : Bytes32) (amount : U128) (currentEpoch : U64)
    (txScopeHash : Option Bytes32) (id : Bytes32) :
    Advances registry (registry.consume capabilityId spender amount currentEpoch txScopeHash).2 id
      (registry.spends id (.consume capabilityId spender amount currentEpoch txScopeHash)) := by
  simp only [spends, consume]
  cases found : registry.get capabilityId with
  | none => exact .same rfl
  | some cap =>
      rcases cap.consume_cases spender amount currentEpoch txScopeHash with
        ⟨next, call, -, -, -, moved⟩ | ⟨e, next, call, moved⟩
      · simp only [call]
        exact .put found moved id
      · simp only [call]
        have kept := Advances.put found moved id
        rwa [ite_self] at kept

theorem advances_revoke (capabilityId caller id : Bytes32) :
    Advances registry (registry.revoke capabilityId caller).2 id 0 := by
  unfold revoke
  cases found : registry.get capabilityId with
  | none => exact .same rfl
  | some cap =>
      dsimp only
      cases call : cap.revoke caller with
      | error e => exact .same rfl
      | ok next =>
          simp only [SpendCapability.revoke, guard_ok] at call
          obtain ⟨-, -, same⟩ := call
          obtain rfl : { cap with status := .revoked } = next := Except.ok.inj same
          have kept := Advances.put found (Moved.close cap SpendCapabilityStatus.revoked_ne_active) id
          rwa [ite_self] at kept

theorem advances_prune (beforeEpoch : U64) (id : Bytes32) :
    Advances registry (registry.prune beforeEpoch).2 id 0 := by
  constructor
  · intro absent
    exact ⟨by rw [get_prune, absent, Option.filter_none], rfl⟩
  · intro cap found
    rw [get_prune, found]
    by_cases kept : cap.status = .active ∨ beforeEpoch ≤ cap.createdAtEpoch
    · exact .inr ⟨cap, by simp [kept], .refl cap⟩
    · exact .inl ⟨by simpa using kept, fun active => kept (.inl active), rfl⟩

variable (registry) in
theorem apply_cases (op : Operation) (id : Bytes32) :
    (∃ cap, registry.grants sha256 op = some cap ∧ cap.capabilityId = id ∧
      (registry.apply sha256 op).get id = some cap ∧ registry.spends id op = 0) ∨
    (∀ cap, registry.grants sha256 op = some cap → cap.capabilityId ≠ id) ∧
      Advances registry (registry.apply sha256 op) id (registry.spends id op) := by
  cases op with
  | create owner spender assetId maxAmount expirationEpoch scopeHash currentEpoch =>
      simp only [grants, apply, create, spends]
      cases made : SpendCapability.create sha256 owner spender assetId maxAmount expirationEpoch scopeHash
          currentEpoch (registry.nonce owner) with
      | error e => exact .inr ⟨nofun, .same rfl⟩
      | ok cap =>
          simp only [Except.toOption, Option.some.injEq, exists_eq_left', forall_eq', and_true]
          have lookup : (registry.capabilities.insert cap.capabilityId cap)[id]? =
              if cap.capabilityId = id then some cap else registry.get id :=
            BTree.getElem?_insert _ _ _ _
          by_cases here : cap.capabilityId = id
          · exact .inl ⟨here, by rw [get, lookup, if_pos here]⟩
          · exact .inr ⟨here, .same (by rw [get, lookup, if_neg here])⟩
  | consume capabilityId spender amount currentEpoch txScopeHash =>
      exact .inr ⟨nofun, advances_consume capabilityId spender amount currentEpoch txScopeHash id⟩
  | revoke capabilityId caller => exact .inr ⟨nofun, advances_revoke capabilityId caller id⟩
  | revokeAllByOwner owner =>
      exact .inr ⟨nofun, .of_map (get_revokeAllByOwner owner id)
        (moved_closeAll SpendCapabilityStatus.revoked_ne_active _)⟩
  | expireStale currentEpoch =>
      exact .inr ⟨nofun, .of_map (getElem?_closeAll _ _ _ id)
        (moved_closeAll SpendCapabilityStatus.expired_ne_active _)⟩
  | prune beforeEpoch => exact .inr ⟨nofun, advances_prune beforeEpoch id⟩

variable (registry) in
theorem grants_cases (op : Operation) :
    (∃ cap, registry.grants sha256 op = some cap ∧ cap.remainingAmount = cap.maxAmount ∧
      (registry.apply sha256 op).byOwner = BTree.push registry.byOwner cap.owner cap.capabilityId ∧
      (registry.apply sha256 op).byExpiration =
        BTree.push registry.byExpiration cap.expirationEpoch cap.capabilityId) ∨
    registry.grants sha256 op = none ∧ (registry.apply sha256 op).byOwner = registry.byOwner ∧
      (registry.apply sha256 op).byExpiration = registry.byExpiration := by
  cases op with
  | create owner spender assetId maxAmount expirationEpoch scopeHash currentEpoch =>
      simp only [grants, apply, create]
      cases made : SpendCapability.create sha256 owner spender assetId maxAmount expirationEpoch
          scopeHash currentEpoch (registry.nonce owner) with
      | error e => exact .inr ⟨rfl, rfl, rfl⟩
      | ok cap =>
          simp only [SpendCapability.create, guard_ok] at made
          obtain ⟨-, -, -, -, -, same⟩ := made
          obtain rfl := Except.ok.inj same
          exact .inl ⟨_, rfl, rfl, rfl, rfl⟩
  | consume capabilityId spender amount currentEpoch txScopeHash =>
      refine .inr ⟨rfl, ?_⟩
      simp only [apply, consume]
      split <;> exact ⟨rfl, rfl⟩
  | revoke capabilityId caller =>
      refine .inr ⟨rfl, ?_⟩
      simp only [apply, revoke]
      split
      · exact ⟨rfl, rfl⟩
      · split <;> exact ⟨rfl, rfl⟩
  | revokeAllByOwner owner => exact .inr ⟨rfl, rfl, rfl⟩
  | expireStale currentEpoch => exact .inr ⟨rfl, rfl, rfl⟩
  | prune beforeEpoch => exact .inr ⟨rfl, rfl, rfl⟩

end Advances

/-- The registry together with what happened so far: the capabilities as they were granted, and the
amount consumed under each id. -/
structure History where
  registry : SpendCapabilityRegistry
  granted : List SpendCapability
  spent : Bytes32 → Nat

namespace History

def start : History := { registry := .new, granted := [], spent := fun _ => 0 }

def record (history : History) (op : Operation) : History :=
  { registry := history.registry.apply sha256 op
    granted := history.granted ++ (history.registry.grants sha256 op).toList
    spent := fun id => history.spent id + history.registry.spends id op }

/-- A grant gets an id that no earlier capability had. -/
def Fresh (history : History) (op : Operation) : Prop :=
  ∀ cap, history.registry.grants sha256 op = some cap →
    ∀ earlier ∈ history.granted, earlier.capabilityId ≠ cap.capabilityId

end History

def Live (registry : SpendCapabilityRegistry) (id : Bytes32) : Prop :=
  ∃ cap, registry.get id = some cap ∧ cap.status = .active

def Ends (registry : SpendCapabilityRegistry) (cap : SpendCapability) : Operation → Prop
  | .revoke capabilityId caller =>
      capabilityId = cap.capabilityId ∧ (registry.revoke capabilityId caller).1 = .ok ()
  | .revokeAllByOwner owner => owner = cap.owner
  | .expireStale currentEpoch => cap.expirationEpoch ≤ currentEpoch
  | .prune beforeEpoch => (registry.prune beforeEpoch).2.get cap.capabilityId = none
  | _ => False

def Consumes (registry : SpendCapabilityRegistry) (id : Bytes32) (op : Operation) : Prop :=
  ∃ spender amount currentEpoch txScopeHash consumed,
    op = .consume id spender amount currentEpoch txScopeHash ∧
      (registry.consume id spender amount currentEpoch txScopeHash).1 = .ok consumed

namespace History

structure Sound (history : History) : Prop where
  accounted : ∀ cap ∈ history.granted, ∀ stored,
    history.registry.get cap.capabilityId = some stored →
      stored = { cap with remainingAmount := stored.remainingAmount, status := stored.status } ∧
      stored.remainingAmount.toNat + history.spent cap.capabilityId = cap.maxAmount.toNat
  bounded : ∀ cap ∈ history.granted, history.spent cap.capabilityId ≤ cap.maxAmount.toNat
  known : ∀ id stored, history.registry.get id = some stored →
    ∃ cap ∈ history.granted, cap.capabilityId = id
  unspent : ∀ id, (∀ cap ∈ history.granted, cap.capabilityId ≠ id) → history.spent id = 0
  byOwner : ∀ cap ∈ history.granted,
    cap.capabilityId ∈ history.registry.byOwner[cap.owner]?.getD []
  byExpiration : ∀ cap ∈ history.granted,
    cap.capabilityId ∈ history.registry.byExpiration[cap.expirationEpoch]?.getD []

theorem sound_start : Sound start := by
  constructor <;> simp [start, SpendCapabilityRegistry.new, SpendCapabilityRegistry.get]

variable {sha256} {history : History} {op : Operation}

theorem mem_granted_record {cap : SpendCapability} :
    cap ∈ (history.record sha256 op).granted ↔
      cap ∈ history.granted ∨ history.registry.grants sha256 op = some cap := by
  simp [record]

theorem Fresh.advances (fresh : history.Fresh sha256 op) {cap : SpendCapability}
    (earlier : cap ∈ history.granted) :
    Advances history.registry (history.registry.apply sha256 op) cap.capabilityId
      (history.registry.spends cap.capabilityId op) := by
  rcases history.registry.apply_cases sha256 op cap.capabilityId with ⟨new, granted, same, -, -⟩ | ⟨-, advances⟩
  · exact absurd same.symm (fresh new granted cap earlier)
  · exact advances

theorem Sound.earlier (sound : history.Sound) (fresh : history.Fresh sha256 op) {cap : SpendCapability}
    (earlier : cap ∈ history.granted) :
    (∀ stored, (history.record sha256 op).registry.get cap.capabilityId = some stored →
      stored = { cap with remainingAmount := stored.remainingAmount, status := stored.status } ∧
      stored.remainingAmount.toNat + (history.record sha256 op).spent cap.capabilityId =
        cap.maxAmount.toNat) ∧
    (history.record sha256 op).spent cap.capabilityId ≤ cap.maxAmount.toNat := by
  have advances := fresh.advances earlier
  have bounded := sound.bounded cap earlier
  dsimp only [record]
  cases found : history.registry.get cap.capabilityId with
  | none =>
      obtain ⟨absent, nothing⟩ := advances.absent found
      rw [absent, nothing]
      exact ⟨nofun, bounded⟩
  | some before =>
      obtain ⟨terms, account⟩ := sound.accounted cap earlier before found
      rcases advances.stored before found with ⟨dropped, -, nothing⟩ | ⟨next, kept, moved⟩
      · rw [dropped, nothing]
        exact ⟨nofun, bounded⟩
      · have remaining := moved.remaining
        rw [kept]
        refine ⟨fun stored same => ?_, by omega⟩
        obtain rfl : next = stored := Option.some.inj same
        refine ⟨?_, by omega⟩
        rw [moved.terms, terms]

theorem Sound.record (sound : history.Sound) (fresh : history.Fresh sha256 op) :
    (history.record sha256 op).Sound := by
  -- A new capability is entered whole under an id at which nothing was spent.
  have new : ∀ cap, history.registry.grants sha256 op = some cap →
      (history.registry.apply sha256 op).get cap.capabilityId = some cap ∧
      history.spent cap.capabilityId + history.registry.spends cap.capabilityId op = 0 := by
    intro cap granted
    have unspent := sound.unspent cap.capabilityId (fresh cap granted)
    rcases history.registry.apply_cases sha256 op cap.capabilityId with ⟨other, same, -, lookup, nothing⟩ | ⟨none, -⟩
    · obtain rfl : cap = other := Option.some.inj (granted.symm.trans same)
      exact ⟨lookup, by rw [unspent, nothing]⟩
    · exact absurd rfl (none cap granted)
  constructor
  · intro cap member
    rcases mem_granted_record.1 member with earlier | granted
    · exact (sound.earlier fresh earlier).1
    · intro stored found
      obtain ⟨lookup, unspent⟩ := new cap granted
      obtain rfl : cap = stored := Option.some.inj (lookup.symm.trans found)
      refine ⟨rfl, ?_⟩
      rcases history.registry.grants_cases sha256 op with
        ⟨other, same, whole, -, -⟩ | ⟨none, -, -⟩
      · obtain rfl : cap = other := Option.some.inj (granted.symm.trans same)
        dsimp only [History.record]
        rw [unspent, whole, Nat.add_zero]
      · cases granted.symm.trans none
  · intro cap member
    rcases mem_granted_record.1 member with earlier | granted
    · exact (sound.earlier fresh earlier).2
    · dsimp only [History.record]
      rw [(new cap granted).2]
      exact Nat.zero_le _
  · intro id stored found
    rcases history.registry.apply_cases sha256 op id with ⟨cap, granted, same, -, -⟩ | ⟨-, advances⟩
    · exact ⟨cap, mem_granted_record.2 (.inr granted), same⟩
    · cases before : history.registry.get id with
      | none => cases found.symm.trans (advances.absent before).1
      | some cap =>
          obtain ⟨cap, earlier, same⟩ := sound.known id cap before
          exact ⟨cap, mem_granted_record.2 (.inl earlier), same⟩
  · intro id other
    have earlier : ∀ cap ∈ history.granted, cap.capabilityId ≠ id := fun cap member =>
      other cap (mem_granted_record.2 (.inl member))
    dsimp only [History.record]
    rw [sound.unspent id earlier, Nat.zero_add]
    rcases history.registry.apply_cases sha256 op id with ⟨cap, granted, same, -, -⟩ | ⟨-, advances⟩
    · exact absurd same (other cap (mem_granted_record.2 (.inr granted)))
    · cases before : history.registry.get id with
      | none => exact (advances.absent before).2
      | some stored =>
          obtain ⟨cap, member, same⟩ := sound.known id stored before
          exact absurd same (earlier cap member)
  all_goals
    intro cap member
    dsimp only [History.record]
    rcases history.registry.grants_cases sha256 op with
      ⟨other, same, -, owners, expirations⟩ | ⟨none, owners, expirations⟩
  · rw [owners, BTree.mem_push]
    rcases mem_granted_record.1 member with earlier | granted
    · exact .inr (sound.byOwner cap earlier)
    · obtain rfl : cap = other := Option.some.inj (granted.symm.trans same)
      exact .inl ⟨rfl, rfl⟩
  · rcases mem_granted_record.1 member with earlier | granted
    · rw [owners]
      exact sound.byOwner cap earlier
    · cases granted.symm.trans none
  · rw [expirations, BTree.mem_push]
    rcases mem_granted_record.1 member with earlier | granted
    · exact .inr (sound.byExpiration cap earlier)
    · obtain rfl : cap = other := Option.some.inj (granted.symm.trans same)
      exact .inl ⟨rfl, rfl⟩
  · rcases mem_granted_record.1 member with earlier | granted
    · rw [expirations]
      exact sound.byExpiration cap earlier
    · cases granted.symm.trans none

theorem not_live_record (fresh : history.Fresh sha256 op) {cap : SpendCapability}
    (earlier : cap ∈ history.granted) (ended : ¬ history.registry.Live cap.capabilityId) :
    ¬ (history.record sha256 op).registry.Live cap.capabilityId := by
  have advances := fresh.advances earlier
  rintro ⟨next, found, active⟩
  cases before : history.registry.get cap.capabilityId with
  | none => cases found.symm.trans (advances.absent before).1
  | some stored =>
      have inactive : stored.status ≠ .active := fun still => ended ⟨stored, before, still⟩
      rcases advances.stored stored before with ⟨dropped, -, -⟩ | ⟨after, kept, moved⟩
      · cases found.symm.trans dropped
      · obtain rfl : next = after := Option.some.inj (found.symm.trans kept)
        exact (moved.ended inactive).1 active

theorem Sound.ended (sound : history.Sound) {cap : SpendCapability} (earlier : cap ∈ history.granted)
    (ends : history.registry.Ends cap op) :
    ¬ (history.record sha256 op).registry.Live cap.capabilityId := by
  rintro ⟨next, found, active⟩
  cases op with
  | create owner spender assetId maxAmount expirationEpoch scopeHash currentEpoch => cases ends
  | consume capabilityId spender amount currentEpoch txScopeHash => cases ends
  | revoke capabilityId caller =>
      obtain ⟨rfl, revoked⟩ := ends
      simp only [History.record, apply, revoke] at found revoked
      split at revoked
      · cases revoked
      · rename_i stored lookup
        split at revoked
        · cases revoked
        · rename_i closed call
          simp only [lookup, call] at found
          rw [get_put, if_pos rfl, Option.some.injEq] at found
          simp only [SpendCapability.revoke, guard_ok] at call
          rw [← found, ← Except.ok.inj call.2.2] at active
          cases active
  | revokeAllByOwner owner =>
      obtain rfl : owner = cap.owner := ends
      simp only [History.record, apply, get_revokeAllByOwner, Option.map_eq_some_iff] at found
      obtain ⟨stored, lookup, rfl⟩ := found
      simp only [sound.byOwner cap earlier, true_and] at active
      split at active
      · cases active
      · contradiction
  | expireStale currentEpoch =>
      have listed : cap.capabilityId ∈ (history.registry.byExpiration.toList.filter fun entry =>
          entry.1 ≤ currentEpoch).flatMap Prod.snd := by
        have member := sound.byExpiration cap earlier
        cases lookup : history.registry.byExpiration[cap.expirationEpoch]? with
        | none => simp [lookup] at member
        | some ids =>
            rw [lookup, Option.getD_some] at member
            have entry := Std.ExtTreeMap.mem_toList_iff_getElem?_eq_some.2 lookup
            have due : cap.expirationEpoch ≤ currentEpoch := ends
            rw [List.mem_flatMap]
            exact ⟨_, List.mem_filter.2 ⟨entry, by simpa using due⟩, member⟩
      have lookup := getElem?_closeAll .expired history.registry.capabilities
        ((history.registry.byExpiration.toList.filter fun entry =>
          entry.1 ≤ currentEpoch).flatMap Prod.snd) cap.capabilityId
      simp only [listed, true_and] at lookup
      obtain ⟨stored, -, rfl⟩ := Option.map_eq_some_iff.1 (lookup.symm.trans found)
      split at active
      · cases active
      · contradiction
  | prune beforeEpoch =>
      have dropped : (history.registry.prune beforeEpoch).2.get cap.capabilityId = none := ends
      cases found.symm.trans dropped

theorem not_consumes_of_ended {registry : SpendCapabilityRegistry} {id : Bytes32}
    (ended : ¬ registry.Live id) (op : Operation) : ¬ registry.Consumes id op := by
  rintro ⟨spender, amount, currentEpoch, txScopeHash, consumed, -, succeeded⟩
  obtain ⟨cap, found, active, -⟩ := consume_ok succeeded
  exact ended ⟨cap, found, active⟩

theorem Sound.admits (sound : history.Sound) {cap : SpendCapability} (earlier : cap ∈ history.granted)
    {spender : Bytes32} {amount consumed : U128} {currentEpoch : U64} {txScopeHash : Option Bytes32}
    (succeeded : (history.registry.consume cap.capabilityId spender amount currentEpoch txScopeHash).1 =
      .ok consumed) :
    cap.Admits spender currentEpoch txScopeHash := by
  obtain ⟨stored, found, -, admits, -⟩ := consume_ok succeeded
  rw [(sound.accounted cap earlier stored found).1] at admits
  exact ⟨admits.inTime, admits.spender, admits.scope⟩

end History

section Run

open History

/-- Whatever is called in whatever order, as long as no two capabilities get one id: at every point
the amounts consumed under a capability's id stay within its amount and add up with what remains, an
ended capability is never consumed again, each success meets the capability's terms, and revoking (one
by one or all of an owner's), expiring and pruning do end a capability. -/
theorem spending_within_grant (run : List Operation)
    (fresh : Run.Along (record sha256) (Fresh sha256) start run) :
    (∀ before after, run = before ++ after →
      let reached := before.foldl (record sha256) start
      ∀ cap ∈ reached.granted,
        reached.spent cap.capabilityId ≤ cap.maxAmount.toNat ∧
        (∀ stored, reached.registry.get cap.capabilityId = some stored →
          stored.remainingAmount.toNat + reached.spent cap.capabilityId = cap.maxAmount.toNat) ∧
        (¬ reached.registry.Live cap.capabilityId →
          Run.Along (record sha256)
            (fun history op => ¬ history.registry.Consumes cap.capabilityId op) reached after)) ∧
    Run.Along (record sha256) (fun history op => ∀ cap ∈ history.granted,
      (∀ spender amount currentEpoch txScopeHash consumed,
        op = .consume cap.capabilityId spender amount currentEpoch txScopeHash →
        (history.registry.consume cap.capabilityId spender amount currentEpoch txScopeHash).1 =
          .ok consumed → cap.Admits spender currentEpoch txScopeHash) ∧
      (history.registry.Ends cap op →
        ¬ (history.record sha256 op).registry.Live cap.capabilityId)) start run := by
  have preserved : ∀ history op, Sound history → Fresh sha256 history op →
      Sound (record sha256 history op) := fun _ _ sound fresh => sound.record fresh
  constructor
  · intro before after split reached cap granted
    rw [split, Run.along_append] at fresh
    have sound : Sound reached := Run.invariant preserved sound_start fresh.1
    refine ⟨sound.bounded cap granted, fun stored found => (sound.accounted cap granted stored found).2,
      fun ended => ?_⟩
    have stays : ∀ history op,
        cap ∈ history.granted ∧ ¬ history.registry.Live cap.capabilityId → Fresh sha256 history op →
        cap ∈ (record sha256 history op).granted ∧
          ¬ (record sha256 history op).registry.Live cap.capabilityId := by
      intro history op ⟨granted, ended⟩ fresh
      exact ⟨mem_granted_record.2 (.inl granted), not_live_record fresh granted ended⟩
    refine Run.along_of_invariant stays ?_ ⟨granted, ended⟩ fresh.2
    intro history op ⟨_, ended⟩ _
    exact not_consumes_of_ended ended op
  · refine Run.along_of_invariant preserved (fun history op sound _ cap granted => ⟨?_, ?_⟩)
      sound_start fresh
    · intro spender amount currentEpoch txScopeHash consumed _ succeeded
      exact sound.admits granted succeeded
    · exact sound.ended granted

/-- A grant of 1000, of which 400 is spent before the owner revokes everything. The constant is the
SHA-256 digest of the one id the run computes. -/
theorem spending_within_grant_revoked :
    let sha256 : Sha256 := fun _ =>
      0x0c0c29e875f4775d72113ec62d683f9291f13b8cd8d5f5365c38d1ae6986239f
    let owner : Bytes32 := 1#256 <<< 248
    let spender : Bytes32 := 2#256 <<< 248
    let run : List Operation :=
      [.create owner spender (0xAA#256 <<< 248) 1000 100 none 10, .consume (sha256 []) spender 400 20 none,
        .revokeAllByOwner owner, .consume (sha256 []) spender 100 20 none]
    let reached := run.foldl (record sha256) start
    reached.granted.length = 1 ∧ reached.spent (sha256 []) = 400 ∧
      ∀ cap ∈ reached.granted, ∀ stored, reached.registry.get cap.capabilityId = some stored →
        stored.remainingAmount.toNat + reached.spent cap.capabilityId = cap.maxAmount.toNat := by
  intro sha256 owner spender run reached
  have fresh : Run.Along (record sha256) (Fresh sha256) start run := by
    refine ⟨?_, nofun, nofun, nofun, trivial⟩
    intro cap _ earlier member
    cases member
  refine ⟨by decide +kernel, by decide +kernel, fun cap granted => ?_⟩
  have all := (spending_within_grant sha256 run fresh).1 run [] (List.append_nil run).symm
  exact (all cap granted).2.1

end Run

end SpendCapabilityRegistry

end Omniphi.Runtime
