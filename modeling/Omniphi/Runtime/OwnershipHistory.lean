import Omniphi.Runtime.Ownership
import Omniphi.Runtime.PlanSteps

/-! What ownership promises over whole histories: that a restriction of a transfer holds until it is met,
that shares sum to the whole, and that the index lists each owner's objects. -/

namespace Omniphi.Runtime.Ownership

open SettlementEngine (bind_ok guard_ok)

section Calls

variable {object next : OwnershipObject} {sender recipient : Bytes32} {currentEpoch : U64}

namespace OwnershipObject

theorem canTransfer_ok : object.canTransfer sender recipient currentEpoch = .ok () ↔
    ¬object.behavior.soulbound = true ∧ ¬object.isExpired currentEpoch = true ∧ ¬sender ≠ object.owner ∧
      ¬recipient = 0 ∧ ¬sender = recipient ∧
      object.modeAllows object.ownershipMode recipient currentEpoch = .ok () := by
  simp only [canTransfer, guard_ok]

theorem transfer_ok : object.transfer sender recipient currentEpoch = .ok next ↔
    object.canTransfer sender recipient currentEpoch = .ok () ∧
      next = { object.touch currentEpoch with
        owner := recipient
        ownershipMode := match object.ownershipMode with
          | .delegated _ _ => .direct
          | mode => mode } := by
  unfold transfer
  rw [bind_ok]
  constructor
  · rintro ⟨_, allowed, same⟩
    exact ⟨allowed, (Except.ok.inj same).symm⟩
  · rintro ⟨allowed, rfl⟩
    exact ⟨(), allowed, rfl⟩

def AcceptsShares (shares : BTreeMap Bytes32 U32) (sender recipient : Bytes32) (amountBps : U32) : Prop :=
  recipient ≠ 0 ∧ sender ≠ recipient ∧ amountBps ≠ 0 ∧ amountBps ≤ shares[sender]?.getD 0

theorem transferShares_ok {amountBps : U32} :
    object.transferShares sender recipient amountBps currentEpoch = .ok next ↔
      ∃ shares, object.ownershipMode = .fractional shares ∧ AcceptsShares shares sender recipient amountBps ∧
        next = { object.touch currentEpoch with
          owner := (largestHolder (movedShares shares sender recipient amountBps)).getD object.owner
          ownershipMode := .fractional (movedShares shares sender recipient amountBps) } := by
  unfold transferShares
  simp only [guard_ok]
  cases mode : object.ownershipMode with
  | fractional shares =>
      simp only [guard_ok, AcceptsShares, OwnershipMode.fractional.injEq, exists_eq_left', BitVec.not_lt]
      constructor
      · rintro ⟨some, other, amount, enough, same⟩
        exact ⟨⟨some, other, amount, enough⟩, (Except.ok.inj same).symm⟩
      · rintro ⟨⟨some, other, amount, enough⟩, rfl⟩
        exact ⟨some, other, amount, enough, rfl⟩
  | direct | timeLocked _ | conditional _ | delegated _ _ =>
      constructor
      · rintro ⟨-, -, -, failed⟩
        cases failed
      · rintro ⟨shares, same, -⟩
        cases same

theorem delegate_ok {owner heir : Bytes32} {expiresEpoch : U64} :
    object.delegate owner heir expiresEpoch currentEpoch = .ok next ↔
      ¬owner ≠ object.owner ∧ ¬heir = 0 ∧ ¬expiresEpoch ≤ currentEpoch ∧
        next = { object.touch currentEpoch with ownershipMode := .delegated heir expiresEpoch } := by
  simp only [delegate, guard_ok]
  constructor
  · rintro ⟨a, b, c, same⟩
    exact ⟨a, b, c, (Except.ok.inj same).symm⟩
  · rintro ⟨a, b, c, rfl⟩
    exact ⟨a, b, c, rfl⟩

theorem revokeDelegation_ok {owner : Bytes32} (revoked : object.revokeDelegation owner currentEpoch = .ok next) :
    (∃ heir expiresEpoch, object.ownershipMode = .delegated heir expiresEpoch) ∧
      next = { object.touch currentEpoch with ownershipMode := .direct } := by
  simp only [revokeDelegation, guard_ok] at revoked
  obtain ⟨-, revoked⟩ := revoked
  split at revoked
  · rename_i heir expiresEpoch mode
    exact ⟨⟨heir, expiresEpoch, mode⟩, (Except.ok.inj revoked).symm⟩
  · cases revoked

theorem addLink_ok {targetId : Bytes32} (linked : object.addLink targetId currentEpoch = .ok next) :
    next.owner = object.owner ∧ next.ownershipMode = object.ownershipMode ∧ next.behavior = object.behavior := by
  simp only [addLink, guard_ok] at linked
  obtain ⟨-, -, same⟩ := linked
  cases same
  exact ⟨rfl, rfl, rfl⟩

theorem removeLink_ok {targetId : Bytes32} (unlinked : object.removeLink targetId currentEpoch = .ok next) :
    next.owner = object.owner ∧ next.ownershipMode = object.ownershipMode ∧ next.behavior = object.behavior := by
  simp only [removeLink, guard_ok] at unlinked
  obtain ⟨-, same⟩ := unlinked
  cases same
  exact ⟨rfl, rfl, rfl⟩

end OwnershipObject

end Calls

section Steps

variable {registry : OwnershipRegistry} {id : Bytes32} {object next : OwnershipObject} {call : Call}

theorem step_absent (absent : registry.objects[id]? = none) (call : Call) :
    registry.step (.call id call) = registry := by
  rw [OwnershipRegistry.step, OwnershipRegistry.attempt, absent]

theorem step_refused {e : String} (found : registry.objects[id]? = some object)
    (refused : object.act call = .error e) :
    registry.step (.call id call) = registry := by
  rw [OwnershipRegistry.step, OwnershipRegistry.attempt, found]
  dsimp only
  rw [refused]
  rfl

theorem step_done (found : registry.objects[id]? = some object) (done : object.act call = .ok next) :
    registry.step (.call id call) = { registry with objects := registry.objects.insert id next } := by
  rw [OwnershipRegistry.step, OwnershipRegistry.attempt, found]
  dsimp only
  rw [done]
  rfl

theorem step_cases (registry : OwnershipRegistry) (operation : Operation) :
    registry.step operation = registry ∨
    (∃ objectId owner mode behavior currentEpoch object,
      operation = .register objectId owner mode behavior currentEpoch ∧
      OwnershipObject.create objectId owner mode behavior currentEpoch = .ok object ∧
      registry.objects[object.objectId]? = none ∧ (∃ next, registry.attempt operation = .ok next) ∧
      registry.step operation =
        { objects := registry.objects.insert object.objectId object
          byOwner := BTree.push registry.byOwner object.owner object.objectId }) ∨
    ∃ id call object next, operation = .call id call ∧ registry.objects[id]? = some object ∧
      object.act call = .ok next ∧
      registry.step operation = { registry with objects := registry.objects.insert id next } := by
  cases operation with
  | register objectId owner mode behavior currentEpoch =>
      rw [OwnershipRegistry.step, OwnershipRegistry.attempt]
      cases created : OwnershipObject.create objectId owner mode behavior currentEpoch with
      | error e => exact Or.inl rfl
      | ok object =>
          rw [show (Except.ok object >>= fun made => registry.register made) = registry.register object from rfl,
            OwnershipRegistry.register]
          cases held : registry.objects.contains object.objectId with
          | true => exact Or.inl rfl
          | false =>
              rw [Std.ExtTreeMap.contains_eq_isSome_getElem?, Option.isSome_eq_false_iff, Option.isNone_iff_eq_none]
                at held
              exact Or.inr (Or.inl ⟨objectId, owner, mode, behavior, currentEpoch, object, rfl, created, held,
                ⟨_, rfl⟩, rfl⟩)
  | call id call =>
      cases found : registry.objects[id]? with
      | none => exact Or.inl (step_absent found call)
      | some object =>
          cases answer : object.act call with
          | error e => exact Or.inl (step_refused found answer)
          | ok next => exact Or.inr (Or.inr ⟨id, call, object, next, rfl, found, answer, step_done found answer⟩)

theorem register_ok {objectId owner : Bytes32} {mode : OwnershipMode} {behavior : BehaviorFlags}
    {currentEpoch : U64} {after : OwnershipRegistry}
    (accepted : registry.attempt (.register objectId owner mode behavior currentEpoch) = .ok after) :
    ∃ object, OwnershipObject.create objectId owner mode behavior currentEpoch = .ok object ∧
      registry.step (.register objectId owner mode behavior currentEpoch) =
        { objects := registry.objects.insert object.objectId object
          byOwner := BTree.push registry.byOwner object.owner object.objectId } := by
  rw [OwnershipRegistry.step, accepted]
  obtain ⟨object, created, registered⟩ := bind_ok.1 accepted
  refine ⟨object, created, ?_⟩
  rw [OwnershipRegistry.register] at registered
  split at registered
  · cases registered
  · exact (Except.ok.inj registered).symm

theorem create_ok {objectId owner : Bytes32} {mode : OwnershipMode} {behavior : BehaviorFlags}
    {currentEpoch : U64} (created : OwnershipObject.create objectId owner mode behavior currentEpoch = .ok object) :
    object.objectId = objectId ∧ object.owner = owner ∧ object.ownershipMode = mode ∧
      ∀ shares, mode = .fractional shares → totalShares shares = 10000 := by
  unfold OwnershipObject.create at created
  simp only [guard_ok] at created
  obtain ⟨-, -, created⟩ := created
  cases mode with
  | fractional shares =>
      simp only [guard_ok] at created
      obtain ⟨total, -, same⟩ := created
      cases same
      refine ⟨rfl, rfl, rfl, ?_⟩
      rintro _ ⟨⟩
      exact not_not.1 total
  | direct | timeLocked _ | conditional _ | delegated _ _ =>
      cases created
      exact ⟨rfl, rfl, rfl, nofun⟩

end Steps

section Shares

def SharesWhole (registry : OwnershipRegistry) : Prop :=
  ∀ (id : Bytes32) (object : OwnershipObject) shares, registry.objects[id]? = some object →
    object.ownershipMode = .fractional shares → BTree.sum BitVec.toNat shares = 10000

def SharesFit (registry : OwnershipRegistry) (operation : Operation) : Prop :=
  ∀ objectId owner shares behavior currentEpoch,
    operation = .register objectId owner (.fractional shares) behavior currentEpoch →
    (∃ next, registry.attempt operation = .ok next) → BTree.sum BitVec.toNat shares < 2 ^ 32

theorem toNat_totalShares (shares : BTreeMap Bytes32 U32) :
    (totalShares shares).toNat = BTree.sum BitVec.toNat shares % 2 ^ 32 := by
  have fold : ∀ (values : List U32) (total : U32),
      (values.foldl (fun total share => total + share) total).toNat =
        (total.toNat + (values.map BitVec.toNat).sum) % 2 ^ 32 := by
    intro values
    induction values with
    | nil =>
        intro total
        simp [Nat.mod_eq_of_lt total.isLt]
    | cons value rest ih =>
        intro total
        rw [List.foldl_cons, ih, List.map_cons, List.sum_cons, BitVec.toNat_add]
        omega
  rw [totalShares, fold, BTree.sum, List.map_map]
  simp [Function.comp_def]

theorem sum_erase (shares : BTreeMap Bytes32 U32) (k : Bytes32) :
    BTree.sum BitVec.toNat shares = (shares[k]?.getD 0).toNat + BTree.sum BitVec.toNat (shares.erase k) := by
  cases found : shares[k]? with
  | none =>
      have same : shares.erase k = shares := by
        apply Std.ExtTreeMap.ext_getElem?
        intro a
        rw [BTree.getElem?_erase]
        split
        · rename_i here
          rw [← here, found]
        · rfl
      rw [same]
      simp
  | some share => exact BTree.sum_eq_of_found BitVec.toNat found

theorem sum_movedShares {shares : BTreeMap Bytes32 U32} {sender recipient : Bytes32} {amountBps : U32}
    (whole : BTree.sum BitVec.toNat shares = 10000)
    (accepted : OwnershipObject.AcceptsShares shares sender recipient amountBps) :
    BTree.sum BitVec.toNat (OwnershipObject.movedShares shares sender recipient amountBps) = 10000 := by
  obtain ⟨-, apart, -, enough⟩ := accepted
  have split := sum_erase shares sender
  rw [BitVec.le_def] at enough
  have rest : (shares[sender]?.getD 0 - amountBps).toNat = (shares[sender]?.getD 0).toNat - amountBps.toNat :=
    BitVec.toNat_sub_of_le (BitVec.le_def.2 enough)
  have debited : BTree.sum BitVec.toNat (if shares[sender]?.getD 0 - amountBps = 0 then shares.erase sender
      else shares.insert sender (shares[sender]?.getD 0 - amountBps)) + amountBps.toNat = 10000 := by
    split_ifs with empty
    · rw [empty] at rest
      have zero : (0 : U32).toNat = 0 := rfl
      omega
    · rw [BTree.sum_insert, rest]
      omega
  unfold OwnershipObject.movedShares
  dsimp only
  generalize (if shares[sender]?.getD 0 - amountBps = 0 then shares.erase sender
    else shares.insert sender (shares[sender]?.getD 0 - amountBps)) = left at debited
  have before := sum_erase left recipient
  rw [BTree.sum_insert, BitVec.toNat_add, Nat.mod_eq_of_lt (by omega)]
  omega

theorem act_fractional {object next : OwnershipObject} {call : Call} {shares : BTreeMap Bytes32 U32}
    (done : object.act call = .ok next) (mode : next.ownershipMode = .fractional shares) :
    object.ownershipMode = .fractional shares ∨
      ∃ before sender recipient amountBps, object.ownershipMode = .fractional before ∧
        OwnershipObject.AcceptsShares before sender recipient amountBps ∧
        shares = OwnershipObject.movedShares before sender recipient amountBps := by
  cases call with
  | transfer sender recipient currentEpoch =>
      obtain ⟨-, rfl⟩ := OwnershipObject.transfer_ok.1 done
      left
      dsimp only at mode
      split at mode
      · cases mode
      · exact mode
  | transferShares sender recipient amountBps currentEpoch =>
      obtain ⟨before, was, accepted, rfl⟩ := OwnershipObject.transferShares_ok.1 done
      exact Or.inr ⟨before, sender, recipient, amountBps, was, accepted, (OwnershipMode.fractional.inj mode).symm⟩
  | delegate owner heir expiresEpoch currentEpoch =>
      obtain ⟨-, -, -, rfl⟩ := OwnershipObject.delegate_ok.1 done
      cases mode
  | revokeDelegation owner currentEpoch =>
      obtain ⟨-, rfl⟩ := OwnershipObject.revokeDelegation_ok done
      cases mode
  | addLink targetId currentEpoch => exact Or.inl ((OwnershipObject.addLink_ok done).2.1.symm.trans mode)
  | removeLink targetId currentEpoch => exact Or.inl ((OwnershipObject.removeLink_ok done).2.1.symm.trans mode)

theorem sharesWhole_step_iff {registry : OwnershipRegistry} (whole : SharesWhole registry)
    (operation : Operation) : SharesWhole (registry.step operation) ↔ SharesFit registry operation := by
  constructor
  · rintro after objectId owner shares behavior currentEpoch rfl ⟨next, accepted⟩
    obtain ⟨object, created, stepped⟩ := register_ok accepted
    obtain ⟨id, -, mode, -⟩ := create_ok created
    have whole := after object.objectId object shares (by rw [stepped, BTree.getElem?_insert, if_pos rfl]) mode
    omega
  · intro fit id object shares found mode
    rcases step_cases registry operation with same |
      ⟨objectId, owner, mode', behavior, currentEpoch, made, rfl, created, fresh, accepted, stepped⟩ |
      ⟨called, call, before, next, rfl, held, done, stepped⟩
    · rw [same] at found
      exact whole id object shares found mode
    · rw [stepped, BTree.getElem?_insert] at found
      split at found
      · obtain rfl := Option.some.inj found
        obtain ⟨-, -, same, total⟩ := create_ok created
        rw [mode] at same
        have counted := congrArg BitVec.toNat (total shares same.symm)
        rw [toNat_totalShares] at counted
        subst same
        have bound := fit _ _ _ _ _ rfl accepted
        rwa [Nat.mod_eq_of_lt bound] at counted
      · exact whole id object shares found mode
    · rw [stepped, BTree.getElem?_insert] at found
      split at found
      · obtain rfl := Option.some.inj found
        rcases act_fractional done mode with was | ⟨shares', sender, recipient, amountBps, was, accepted, rfl⟩
        · exact whole called before shares held was
        · exact sum_movedShares (whole called before shares' held was) accepted
      · exact whole id object shares found mode

end Shares

section Index

def holder (registry : OwnershipRegistry) (id : Bytes32) : Option Bytes32 :=
  registry.objects[id]?.map fun object => object.owner

/-- The index lists an object under an address just when that address owns it. -/
def IndexExact (registry : OwnershipRegistry) : Prop := OwnerIndex.Exact registry.byOwner (holder registry)

def KeepsOwner (object : OwnershipObject) : Call → Prop
  | .transfer sender recipient currentEpoch => object.canTransfer sender recipient currentEpoch ≠ .ok ()
  | .transferShares sender recipient amountBps _ => ∀ shares, object.ownershipMode = .fractional shares →
      OwnershipObject.AcceptsShares shares sender recipient amountBps →
      (largestHolder (OwnershipObject.movedShares shares sender recipient amountBps)).getD object.owner =
        object.owner
  | _ => True

def OwnersStay (registry : OwnershipRegistry) (operation : Operation) : Prop :=
  ∀ id call object, operation = .call id call → registry.objects[id]? = some object → KeepsOwner object call

theorem ownersStay_register (registry : OwnershipRegistry) (objectId owner : Bytes32) (mode : OwnershipMode)
    (behavior : BehaviorFlags) (currentEpoch : U64) :
    OwnersStay registry (.register objectId owner mode behavior currentEpoch) := by
  intro id call object asked
  cases asked

theorem ownersStay_call_iff {registry : OwnershipRegistry} {id : Bytes32} {object : OwnershipObject}
    (found : registry.objects[id]? = some object) (call : Call) :
    OwnersStay registry (.call id call) ↔ KeepsOwner object call := by
  constructor
  · intro stays
    exact stays id call object rfl found
  · rintro kept _ _ other ⟨⟩ held
    rwa [← Option.some.inj (found.symm.trans held)]

theorem keepsOwner_iff {object : OwnershipObject} {call : Call} :
    KeepsOwner object call ↔ ∀ next, object.act call = .ok next → next.owner = object.owner := by
  cases call with
  | transfer sender recipient currentEpoch =>
      constructor
      · intro refused next done
        exact absurd (OwnershipObject.transfer_ok.1 done).1 refused
      · intro kept allowed
        have same := kept _ (OwnershipObject.transfer_ok.2 ⟨allowed, rfl⟩)
        obtain ⟨-, -, owns, -, apart, -⟩ := OwnershipObject.canTransfer_ok.1 allowed
        exact apart ((not_not.1 owns).trans same.symm)
  | transferShares sender recipient amountBps currentEpoch =>
      constructor
      · intro stays next done
        obtain ⟨shares, mode, accepted, rfl⟩ := OwnershipObject.transferShares_ok.1 done
        exact stays shares mode accepted
      · intro kept shares mode accepted
        exact kept _ (OwnershipObject.transferShares_ok.2 ⟨shares, mode, accepted, rfl⟩)
  | delegate owner heir expiresEpoch currentEpoch =>
      refine iff_of_true trivial fun next done => ?_
      obtain ⟨-, -, -, rfl⟩ := OwnershipObject.delegate_ok.1 done
      rfl
  | revokeDelegation owner currentEpoch =>
      refine iff_of_true trivial fun next done => ?_
      obtain ⟨-, rfl⟩ := OwnershipObject.revokeDelegation_ok done
      rfl
  | addLink targetId currentEpoch =>
      exact iff_of_true trivial fun next done => (OwnershipObject.addLink_ok done).1
  | removeLink targetId currentEpoch =>
      exact iff_of_true trivial fun next done => (OwnershipObject.removeLink_ok done).1

theorem holder_insert (registry : OwnershipRegistry) (id : Bytes32) (object : OwnershipObject)
    (byOwner : BTreeMap Bytes32 (List Bytes32)) :
    holder { objects := registry.objects.insert id object, byOwner } =
      Function.update (holder registry) id (some object.owner) :=
  OwnerIndex.map_insert registry.objects OwnershipObject.owner id object

theorem indexExact_step_iff {registry : OwnershipRegistry} (exact : IndexExact registry)
    (operation : Operation) : IndexExact (registry.step operation) ↔ OwnersStay registry operation := by
  have called : ∀ id call object, operation = .call id call → registry.objects[id]? = some object →
      (IndexExact (registry.step operation) ↔ KeepsOwner object call) := by
    rintro id call object rfl found
    rw [keepsOwner_iff]
    cases answer : object.act call with
    | error e =>
        rw [step_refused found answer]
        exact iff_of_true exact nofun
    | ok next =>
        rw [step_done found answer, IndexExact, holder_insert, exact.holder_eq]
        have held : holder registry id = some object.owner := by rw [holder, found, Option.map_some]
        constructor
        · rintro same _ ⟨⟩
          have here := congrFun same id
          rw [Function.update_self, held] at here
          exact Option.some.inj here
        · intro kept
          rw [kept next rfl, ← held, Function.update_eq_self]
  rcases step_cases registry operation with same |
    ⟨objectId, owner, mode, behavior, currentEpoch, object, rfl, -, fresh, -, stepped⟩ |
    ⟨id, call, object, next, rfl, found, -, -⟩
  · cases operation with
    | register objectId owner mode behavior currentEpoch =>
        rw [same]
        exact iff_of_true exact (ownersStay_register registry objectId owner mode behavior currentEpoch)
    | call id call =>
        cases found : registry.objects[id]? with
        | none =>
            rw [same]
            refine iff_of_true exact fun other call' object asked held => ?_
            obtain ⟨rfl, -⟩ := Operation.call.inj asked
            cases found.symm.trans held
        | some object =>
            exact (called id call object rfl found).trans (ownersStay_call_iff found call).symm
  · refine iff_of_true ?_ (ownersStay_register registry objectId owner mode behavior currentEpoch)
    rw [stepped, IndexExact, holder_insert]
    refine (exact.push_iff object.owner object.objectId).2 fun a held => ?_
    rw [holder, fresh] at held
    cases held
  · exact (called id call object rfl found).trans (ownersStay_call_iff found call).symm

end Index

section Restrictions

structure History where
  registry : OwnershipRegistry
  created : Bytes32 → Option OwnershipMode

namespace History

def new : History := { registry := .new, created := fun _ => none }

def step (history : History) (operation : Operation) : History where
  registry := history.registry.step operation
  created := match operation, history.registry.attempt operation with
    | .register objectId _ mode _ _, .ok _ => Function.update history.created objectId (some mode)
    | _, _ => history.created

end History

def Restricted : OwnershipMode → Bool
  | .timeLocked _ => true
  | .conditional _ => true
  | _ => false

/-- A restriction that some transfer does not meet. -/
def Bars : OwnershipMode → Bool
  | .timeLocked unlockEpoch => unlockEpoch ≠ 0
  | .conditional (.minEpoch min) => min ≠ 0
  | .conditional (.allowedRecipients _) => true
  | .conditional (.requiresLinkedOwnership _) => true
  | _ => false

/-- A transfer that is accepted meets the restriction that its object was created under. -/
def Held (history : History) : Operation → Prop
  | .call id (.transfer sender recipient currentEpoch) =>
      ∀ object mode, history.registry.objects[id]? = some object → history.created id = some mode →
        object.canTransfer sender recipient currentEpoch = .ok () → Restricted mode →
        object.modeAllows mode recipient currentEpoch = .ok ()
  | _ => True

/-- A delegation that is accepted is of an object without a restriction to lose. -/
def Delegable (history : History) : Operation → Prop
  | .call id (.delegate owner heir expiresEpoch currentEpoch) =>
      ∀ object next, history.registry.objects[id]? = some object →
        object.delegate owner heir expiresEpoch currentEpoch = .ok next →
        object.behavior.soulbound ∨ ¬Bars object.ownershipMode
  | _ => True

/-- Each object that can be transferred still has the restriction it was created under. -/
def Retained (history : History) : Prop :=
  ∀ id object, history.registry.objects[id]? = some object → ∃ mode, history.created id = some mode ∧
    (object.behavior.soulbound ∨ ¬Bars mode ∨ object.ownershipMode = mode)

theorem allows_of_not_bars {mode : OwnershipMode} (free : ¬Bars mode) (restricted : Restricted mode)
    (object : OwnershipObject) (recipient : Bytes32) (currentEpoch : U64) :
    object.modeAllows mode recipient currentEpoch = .ok () := by
  cases mode with
  | timeLocked unlockEpoch =>
      have zero : unlockEpoch = 0 := by simpa [Bars] using free
      rw [zero, OwnershipObject.modeAllows]
      exact if_neg BitVec.not_lt_zero
  | conditional condition =>
      cases condition with
      | minEpoch min =>
          have zero : min = 0 := by simpa [Bars] using free
          rw [zero, OwnershipObject.modeAllows]
          exact if_neg BitVec.not_lt_zero
      | allowedRecipients list => exact absurd rfl free
      | requiresLinkedOwnership linkedId => exact absurd rfl free
      | alwaysTrue => rfl
  | direct | fractional _ | delegated _ _ => cases restricted

theorem held_of_retained {history : History} (retained : Retained history) (operation : Operation) :
    Held history operation := by
  cases operation with
  | register objectId owner mode behavior currentEpoch => trivial
  | call id call =>
      cases call with
      | transfer sender recipient currentEpoch =>
          intro object mode found made allowed restricted
          obtain ⟨mode', made', kept⟩ := retained id object found
          obtain rfl := Option.some.inj (made.symm.trans made')
          obtain ⟨loose, -, -, -, -, allows⟩ := OwnershipObject.canTransfer_ok.1 allowed
          rcases kept with bound | free | same
          · exact absurd bound loose
          · exact allows_of_not_bars free restricted object recipient currentEpoch
          · rwa [← same]
      | transferShares | delegate | revokeDelegation | addLink | removeLink => trivial

theorem act_bars {object next : OwnershipObject} {call : Call} (done : object.act call = .ok next) :
    next.behavior = object.behavior ∧
      (next.ownershipMode = object.ownershipMode ∨ ¬Bars object.ownershipMode ∨
        ∃ owner heir expiresEpoch currentEpoch, call = .delegate owner heir expiresEpoch currentEpoch) := by
  cases call with
  | transfer sender recipient currentEpoch =>
      obtain ⟨-, rfl⟩ := OwnershipObject.transfer_ok.1 done
      refine ⟨rfl, ?_⟩
      cases mode : object.ownershipMode with
      | delegated heir expiresEpoch => exact Or.inr (Or.inl nofun)
      | direct | timeLocked _ | conditional _ | fractional _ => exact Or.inl rfl
  | transferShares sender recipient amountBps currentEpoch =>
      obtain ⟨shares, mode, -, rfl⟩ := OwnershipObject.transferShares_ok.1 done
      rw [mode]
      exact ⟨rfl, Or.inr (Or.inl nofun)⟩
  | delegate owner heir expiresEpoch currentEpoch =>
      obtain ⟨-, -, -, rfl⟩ := OwnershipObject.delegate_ok.1 done
      exact ⟨rfl, Or.inr (Or.inr ⟨owner, heir, expiresEpoch, currentEpoch, rfl⟩)⟩
  | revokeDelegation owner currentEpoch =>
      obtain ⟨⟨heir, expiresEpoch, mode⟩, rfl⟩ := OwnershipObject.revokeDelegation_ok done
      rw [mode]
      exact ⟨rfl, Or.inr (Or.inl nofun)⟩
  | addLink targetId currentEpoch =>
      obtain ⟨-, same, kept⟩ := OwnershipObject.addLink_ok done
      exact ⟨kept, Or.inl same⟩
  | removeLink targetId currentEpoch =>
      obtain ⟨-, same, kept⟩ := OwnershipObject.removeLink_ok done
      exact ⟨kept, Or.inl same⟩

theorem created_call (history : History) (id : Bytes32) (call : Call) :
    (history.step (.call id call)).created = history.created := rfl

theorem retained_step {history : History} (retained : Retained history) (operation : Operation)
    (delegable : Delegable history operation) : Retained (history.step operation) := by
  intro id object found
  change (history.registry.step operation).objects[id]? = some object at found
  cases operation with
  | register objectId owner mode behavior currentEpoch =>
      cases accepted : history.registry.attempt (.register objectId owner mode behavior currentEpoch) with
      | error e =>
          rw [OwnershipRegistry.step, accepted] at found
          unfold History.step
          rw [accepted]
          exact retained id object found
      | ok after =>
          obtain ⟨made, created, stepped⟩ := register_ok accepted
          obtain ⟨rfl, -, rfl, -⟩ := create_ok created
          rw [stepped, BTree.getElem?_insert] at found
          unfold History.step
          rw [accepted]
          split at found
          · rename_i here
            subst here
            obtain rfl := Option.some.inj found
            exact ⟨made.ownershipMode, Function.update_self .., Or.inr (Or.inr rfl)⟩
          · rename_i elsewhere
            dsimp only
            rw [Function.update_of_ne (Ne.symm elsewhere)]
            exact retained id object found
  | call called call =>
      rw [created_call]
      rcases step_cases history.registry (.call called call) with same |
        ⟨_, _, _, _, _, _, ⟨⟩, -⟩ | ⟨_, _, before, next, ⟨⟩, held, done, stepped⟩
      · rw [same] at found
        exact retained id object found
      · rw [stepped, BTree.getElem?_insert] at found
        split at found
        · rename_i here
          subst here
          obtain rfl := Option.some.inj found
          obtain ⟨mode, made, kept⟩ := retained called before held
          obtain ⟨bound, lost⟩ := act_bars done
          refine ⟨mode, made, ?_⟩
          rw [bound]
          rcases kept with loose | free | rfl
          · exact Or.inl loose
          · exact Or.inr (Or.inl free)
          · rcases lost with same | free | ⟨owner, heir, expiresEpoch, currentEpoch, rfl⟩
            · exact Or.inr (Or.inr same)
            · exact Or.inr (Or.inl free)
            · rcases delegable before next held done with loose | free
              · exact Or.inl loose
              · exact Or.inr (Or.inl free)
        · exact retained id object found

end Restrictions

/-- What ownership promises of a run: the restrictions hold at every transfer, and at every step the shares
stay whole and the index exact. -/
def Promised (operations : List Operation) : Prop :=
  Run.Along History.step Held .new operations ∧
    Run.Along OwnershipRegistry.step (fun registry operation => SharesWhole (registry.step operation)) .new
      operations ∧
    Run.Along OwnershipRegistry.step (fun registry operation => IndexExact (registry.step operation)) .new operations

theorem sharesWhole_new : SharesWhole .new := by
  intro id object shares found
  simp [OwnershipRegistry.new] at found

theorem indexExact_new : IndexExact .new := by
  have none : holder .new = fun _ => none := by
    funext id
    simp [holder, OwnershipRegistry.new]
  rw [IndexExact, none]
  exact OwnerIndex.exact_empty

theorem retained_new : Retained .new := by
  intro id object found
  simp [History.new, OwnershipRegistry.new] at found

/-- A restriction holds when no restricted object is delegated. The shares are whole exactly when they are
registered in range, and the index is exact exactly when no object changes its owner. -/
theorem promises_over_runs (operations : List Operation) :
    (Run.Along History.step Delegable .new operations → Run.Along History.step Held .new operations) ∧
      (Run.Along OwnershipRegistry.step (fun registry operation => SharesWhole (registry.step operation)) .new
          operations ↔ Run.Along OwnershipRegistry.step SharesFit .new operations) ∧
      (Run.Along OwnershipRegistry.step (fun registry operation => IndexExact (registry.step operation)) .new
          operations ↔ Run.Along OwnershipRegistry.step OwnersStay .new operations) := by
  refine ⟨?_, ?_, ?_⟩
  · apply Run.along_of_invariant _ _ retained_new
    · intro history operation retained delegable
      exact retained_step retained operation delegable
    · intro history operation retained _
      exact held_of_retained retained operation
  · refine Run.along_congr ?_ ?_ sharesWhole_new operations
    · intro registry operation whole
      exact sharesWhole_step_iff whole operation
    · intro registry operation _ kept
      exact kept
  · refine Run.along_congr ?_ ?_ indexExact_new operations
    · intro registry operation exact_
      exact indexExact_step_iff exact_ operation
    · intro registry operation _ kept
      exact kept

def soldEarly : List Operation :=
  [.register 10 1 (.timeLocked 100) { soulbound := false, expiresEpoch := none } 1,
    .call 10 (.delegate 1 3 50 5), .call 10 (.transfer 1 2 10)]

/-- The lock is gone with the loan, and the index still lists the sword under its seller. -/
theorem soldEarly_breaks_promise : ¬Run.Along History.step Held .new soldEarly ∧
    ¬IndexExact (soldEarly.foldl OwnershipRegistry.step .new) ∧ ¬ ∀ operations, Promised operations := by
  have index : ¬IndexExact (soldEarly.foldl OwnershipRegistry.step .new) := by
    intro listed
    have lists : (10 : Bytes32) ∈
        ((soldEarly.foldl OwnershipRegistry.step .new).byOwner[(1 : Bytes32)]?).getD [] := by decide +kernel
    have owner : holder (soldEarly.foldl OwnershipRegistry.step .new) 10 ≠ some 1 := by decide +kernel
    exact owner ((listed 1 10).1 lists)
  refine ⟨?_, index, fun promised => index (promised soldEarly).2.2.2.2.1⟩
  rintro ⟨-, -, sold, -⟩
  let lent := (soldEarly.take 2).foldl History.step .new
  have created : lent.created 10 = some (.timeLocked 100) := by rfl
  have accepted : (lent.registry.objects[(10 : Bytes32)]?.map fun object =>
      decide (object.canTransfer 1 2 10 = .ok ())) = some true := by decide +kernel
  obtain ⟨object, found, allowed⟩ := Option.map_eq_some_iff.1 accepted
  have meets := sold object (.timeLocked 100) found created (of_decide_eq_true allowed) rfl
  cases meets

end Omniphi.Runtime.Ownership
