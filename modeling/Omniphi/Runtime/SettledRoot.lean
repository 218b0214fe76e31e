import Omniphi.Encoding
import Omniphi.Runtime.Duplicates
import Omniphi.Runtime.FeeCollection
import Omniphi.Runtime.FeeRoundTrip

/-! The root that settlement returns with fees: the charges come after it, and go by position. -/

namespace Omniphi.Runtime

open MachineInt PrefixCode

namespace ObjectStore

section Root

variable {sha256 : Sha256} {encode : BoxedObject → Bytes} {store other : ObjectStore}

def rootInput (encode : BoxedObject → Bytes) (store : ObjectStore) : Bytes :=
  store.objects.toMap.toList.flatMap fun entry =>
    beBytes 32 entry.1 ++ leBytes 8 (BitVec.ofNat 64 (encode entry.2).length) ++ encode entry.2

theorem stateRoot_eq : store.stateRoot sha256 encode = sha256 (store.rootInput encode) := rfl

theorem framed_code : IsPrefixCode fun bytes : { bytes : Bytes // bytes.length < 2 ^ 64 } =>
    leBytes 8 (BitVec.ofNat 64 bytes.1.length) ++ bytes.1 := by
  intro a b u v same
  simp only [List.append_assoc] at same
  obtain ⟨lengths, rest⟩ := leBytes_code (by decide) same
  have count := congrArg BitVec.toNat lengths
  rw [BitVec.toNat_ofNat, BitVec.toNat_ofNat, Nat.mod_eq_of_lt a.2, Nat.mod_eq_of_lt b.2] at count
  obtain ⟨bytes, tails⟩ := List.append_inj rest count
  exact ⟨Subtype.ext bytes, tails⟩

theorem eq_of_flatMap_eq {α : Type} {word : α → Bytes} (code : IsPrefixCode word) (filled : ∀ a, word a ≠ [])
    {as bs : List α} (same : as.flatMap word = bs.flatMap word) : as = bs := by
  induction as generalizing bs with
  | nil =>
      cases bs with
      | nil => rfl
      | cons b bs => exact absurd (List.append_eq_nil_iff.1 same.symm).1 (filled b)
  | cons a as ih =>
      cases bs with
      | nil => exact absurd (List.append_eq_nil_iff.1 same).1 (filled a)
      | cons b bs =>
          obtain ⟨rfl, rest⟩ := code same
          rw [ih rest]

theorem encoded_of_rootInput_eq (bounded : ∀ object, (encode object).length < 2 ^ 64)
    (same : store.rootInput encode = other.rootInput encode) (id : ObjectId) :
    (store.objects.get? id).map encode = (other.objects.get? id).map encode := by
  let framed (entry : ObjectId × BoxedObject) : ObjectId × { bytes : Bytes // bytes.length < 2 ^ 64 } :=
    (entry.1, ⟨encode entry.2, bounded entry.2⟩)
  have input (store : ObjectStore) : store.rootInput encode = (store.objects.toMap.toList.map framed).flatMap
      fun pair => beBytes 32 pair.1 ++ (leBytes 8 (BitVec.ofNat 64 pair.2.1.length) ++ pair.2.1) := by
    simp only [rootInput, List.flatMap_map, List.append_assoc, framed]
  have filled (pair : ObjectId × { bytes : Bytes // bytes.length < 2 ^ 64 }) :
      beBytes 32 pair.1 ++ (leBytes 8 (BitVec.ofNat 64 pair.2.1.length) ++ pair.2.1) ≠ [] := by
    intro empty
    have length := congrArg List.length empty
    rw [List.length_append, length_beBytes, List.length_nil] at length
    omega
  rw [input, input] at same
  have entries := eq_of_flatMap_eq ((beBytes_code (by decide)).pair framed_code) filled same
  have carried {store other : ObjectStore}
      (entries : store.objects.toMap.toList.map framed = other.objects.toMap.toList.map framed)
      {object : BoxedObject} (held : store.objects.get? id = some object) :
      (other.objects.get? id).map encode = some (encode object) := by
    have listed : framed (id, object) ∈ store.objects.toMap.toList.map framed :=
      List.mem_map_of_mem (Std.ExtTreeMap.mem_toList_iff_getElem?_eq_some.2 held)
    rw [entries] at listed
    obtain ⟨⟨again, found⟩, kept, alike⟩ := List.mem_map.1 listed
    obtain rfl : again = id := congrArg Prod.fst alike
    have shown : encode found = encode object := congrArg (fun pair => pair.2.1) alike
    rw [show other.objects.get? again = some found from Std.ExtTreeMap.mem_toList_iff_getElem?_eq_some.1 kept,
      Option.map_some, shown]
  cases here : store.objects.get? id with
  | some object => exact (carried entries here).symm
  | none =>
      cases there : other.objects.get? id with
      | none => rfl
      | some object =>
          have found := carried entries.symm there
          rw [here] at found
          cases found

theorem sync_sync : store.syncTypedToCanonical.syncTypedToCanonical = store.syncTypedToCanonical := by
  refine ObjectStore.ext (KeyedMap.ext fun id => ?_) rfl rfl rfl
  rw [sync_get?, sync_get?, Option.map_map]
  congr 1
  funext object
  show (store.overlay id).getD ((store.overlay id).getD object) = _
  cases store.overlay id <;> rfl

end Root

section Lowered

structure Lowered (before after : BalanceObject) : Prop where
  rest : after = { before with amount := after.amount, lockedAmount := after.lockedAmount }
  amount : after.amount ≤ before.amount
  locked : after.lockedAmount ≤ before.lockedAmount

theorem Lowered.refl (balance : BalanceObject) : Lowered balance balance :=
  ⟨rfl, BitVec.le_refl _, BitVec.le_refl _⟩

theorem Lowered.trans {a b c : BalanceObject} (first : Lowered a b) (second : Lowered b c) : Lowered a c := by
  refine ⟨?_, BitVec.le_trans second.amount first.amount, BitVec.le_trans second.locked first.locked⟩
  rw [second.rest, first.rest]

theorem Lowered.antisymm {a b : BalanceObject} (first : Lowered a b) (second : Lowered b a) : a = b := by
  rw [first.rest, BitVec.le_antisymm first.amount second.amount, BitVec.le_antisymm first.locked second.locked]

theorem Lowered.id_eq {a b : BalanceObject} (lowered : Lowered a b) : b.id = a.id := by
  rw [lowered.rest]

theorem lowered_debitFee (fee : U64) (balance : BalanceObject) : Lowered balance (balance.debitFee fee) where
  rest := rfl
  amount := by
    rw [BalanceObject.debitFee, BitVec.le_def, toNat_saturatingSub]
    omega
  locked := by
    rw [BalanceObject.debitFee, BitVec.le_def, toNat_saturatingSub]
    omega

theorem lowered_unlock (fee : U64) (balance : BalanceObject) : Lowered balance (balance.unlock fee) where
  rest := rfl
  amount := BitVec.le_refl _
  locked := by
    rw [BalanceObject.unlock, BitVec.le_def, toNat_saturatingSub]
    omega

theorem saturatingSub_fee_eq_iff (amount : U128) (fee : U64) :
    saturatingSub amount (fee.setWidth 128) = amount ↔ fee = 0 ∨ amount = 0 := by
  rw [← BitVec.toNat_inj, ← BitVec.toNat_inj (x := fee), ← BitVec.toNat_inj (x := amount), toNat_saturatingSub,
    BalanceObject.toNat_fee]
  simp only [BitVec.ofNat_eq_ofNat, BitVec.toNat_ofNat, Nat.zero_mod]
  omega

theorem debitFee_eq_iff (fee : U64) (balance : BalanceObject) :
    balance.debitFee fee = balance ↔ fee = 0 ∨ (balance.amount = 0 ∧ balance.lockedAmount = 0) := by
  rw [or_and_left, ← saturatingSub_fee_eq_iff, ← saturatingSub_fee_eq_iff]
  constructor
  · intro same
    exact ⟨congrArg BalanceObject.amount same, congrArg BalanceObject.lockedAmount same⟩
  · rintro ⟨amount, locked⟩
    rw [BalanceObject.debitFee, amount, locked]

theorem unlock_eq_iff (fee : U64) (balance : BalanceObject) :
    balance.unlock fee = balance ↔ fee = 0 ∨ balance.lockedAmount = 0 := by
  rw [← saturatingSub_fee_eq_iff]
  constructor
  · intro same
    exact congrArg BalanceObject.lockedAmount same
  · intro same
    rw [BalanceObject.unlock, same]

end Lowered

section Drained

structure Drained (feeToken : Bytes32) (before after : ObjectStore) : Prop where
  objects : after.objects = before.objects
  pools : after.pools = before.pools
  vaults : after.vaults = before.vaults
  held : ∀ id, Option.Rel Lowered (before.balances.get? id) (after.balances.get? id)
  found : ∀ address,
    Option.Rel Lowered (before.findBalance address feeToken) (after.findBalance address feeToken)

/-- The id of a canonical object over which only a balance is written. -/
def Seen (store : ObjectStore) (id : ObjectId) : Prop :=
  (store.objects.get? id).isSome ∧ store.pools.get? id = none ∧ store.vaults.get? id = none

def SameSeen (before after : ObjectStore) : Prop :=
  ∀ id, Seen before id → before.balances.get? id = after.balances.get? id

variable {feeToken : Bytes32} {a b c : ObjectStore}

theorem rel_refl {x : Option BalanceObject} : Option.Rel Lowered x x := by
  cases x with
  | none => exact .none
  | some balance => exact .some (Lowered.refl balance)

theorem rel_trans {x y z : Option BalanceObject} (first : Option.Rel Lowered x y)
    (second : Option.Rel Lowered y z) : Option.Rel Lowered x z := by
  cases first with
  | none => exact second
  | some lowered =>
      cases second with
      | some lower => exact .some (lowered.trans lower)

theorem rel_antisymm {x y : Option BalanceObject} (first : Option.Rel Lowered x y)
    (second : Option.Rel Lowered y x) : x = y := by
  cases first with
  | none => rfl
  | some lowered =>
      cases second with
      | some lower => rw [lowered.antisymm lower]

theorem Drained.refl (store : ObjectStore) : Drained feeToken store store :=
  ⟨rfl, rfl, rfl, fun _ => rel_refl, fun _ => rel_refl⟩

theorem Drained.trans (first : Drained feeToken a b) (second : Drained feeToken b c) :
    Drained feeToken a c where
  objects := second.objects.trans first.objects
  pools := second.pools.trans first.pools
  vaults := second.vaults.trans first.vaults
  held id := rel_trans (first.held id) (second.held id)
  found address := rel_trans (first.found address) (second.found address)

theorem Drained.seen_iff (drained : Drained feeToken a b) (id : ObjectId) : Seen b id ↔ Seen a id := by
  rw [Seen, Seen, drained.objects, drained.pools, drained.vaults]

theorem Drained.sameSeen_trans (first : Drained feeToken a b) (second : Drained feeToken b c) :
    SameSeen a c ↔ SameSeen a b ∧ SameSeen b c := by
  constructor
  · intro same
    have middle : SameSeen a b := by
      intro id seen
      refine rel_antisymm (first.held id) ?_
      rw [same id seen]
      exact second.held id
    refine ⟨middle, fun id seen => ?_⟩
    have seen' := (first.seen_iff id).1 seen
    rw [← middle id seen', same id seen']
  · rintro ⟨left, right⟩ id seen
    rw [left id seen, right id ((first.seen_iff id).2 seen)]

def changeFound (feeToken : Bytes32) (store : ObjectStore) (address : Bytes32)
    (change : BalanceObject → BalanceObject) (keeps : ∀ balance, (change balance).id = balance.id) :
    ObjectStore :=
  (store.updateFound address feeToken change keeps).getD store

def Unseen (feeToken : Bytes32) (store : ObjectStore) (address : Bytes32)
    (change : BalanceObject → BalanceObject) : Prop :=
  ∀ balance, store.findBalance address feeToken = some balance → Seen store balance.id →
    change balance = balance

variable {address : Bytes32} {change : BalanceObject → BalanceObject}
  {keeps : ∀ balance, (change balance).id = balance.id}

theorem Drained.changeFound (lowers : ∀ balance, Lowered balance (change balance)) :
    Drained feeToken a (a.changeFound feeToken address change keeps) := by
  unfold ObjectStore.changeFound
  cases updated : a.updateFound address feeToken change keeps with
  | none => exact .refl a
  | some after =>
      obtain ⟨balance, found, changed⟩ := updateFound_eq_some.1 updated
      have objects : after.objects = a.objects ∧ after.pools = a.pools ∧ after.vaults = a.vaults := by
        rw [← changed]
        exact ⟨rfl, rfl, rfl⟩
      refine ⟨objects.1, objects.2.1, objects.2.2, fun id => ?_, fun other => ?_⟩
      · rw [Option.getD_some, get?_updateFound updated found]
        split
        · rename_i here
          rw [← here, show a.balances.get? balance.id = some balance from (findBalance_spec found).1]
          exact .some (lowers balance)
        · exact rel_refl
      · have keepsOwner (balance : BalanceObject) : (change balance).owner = balance.owner := by
          rw [(lowers balance).rest]
        have keepsAsset (balance : BalanceObject) : (change balance).assetId = balance.assetId := by
          rw [(lowers balance).rest]
        rw [Option.getD_some, findBalance_updateFound updated keepsOwner keepsAsset]
        cases a.findBalance other feeToken with
        | none => exact .none
        | some balance =>
            refine .some ?_
            split
            · exact lowers balance
            · exact .refl balance

theorem sameSeen_changeFound :
    SameSeen a (a.changeFound feeToken address change keeps) ↔ Unseen feeToken a address change := by
  unfold ObjectStore.changeFound Unseen
  cases updated : a.updateFound address feeToken change keeps with
  | none =>
      rw [updateFound_eq_none.1 updated]
      exact iff_of_true (fun _ _ => rfl) fun _ found => by cases found
  | some after =>
      obtain ⟨balance, found, -⟩ := updateFound_eq_some.1 updated
      have held : a.balances.get? balance.id = some balance := (findBalance_spec found).1
      rw [found, Option.getD_some]
      constructor
      · rintro same other rfl' seen
        obtain rfl := Option.some.inj rfl'
        have kept := same balance.id seen
        rw [get?_updateFound updated found, if_pos rfl, held] at kept
        exact (Option.some.inj kept).symm
      · intro quiet id seen
        rw [get?_updateFound updated found]
        split
        · rename_i here
          subst here
          rw [held, quiet balance rfl seen]
        · rfl

theorem Drained.unseen_iff (drained : Drained feeToken a b) (same : SameSeen a b) :
    Unseen feeToken b address change ↔ Unseen feeToken a address change := by
  have alike := drained.found address
  unfold Unseen
  generalize here : a.findBalance address feeToken = before at alike
  generalize there : b.findBalance address feeToken = after at alike
  cases alike with
  | none => exact iff_of_true (fun _ found => by cases found) fun _ found => by cases found
  | @some before after lowered =>
      simp only [Option.some.injEq, forall_eq', drained.seen_iff, lowered.id_eq]
      refine forall_congr' fun seen => ?_
      have first : a.balances.get? before.id = some before := (findBalance_spec here).1
      have second : b.balances.get? after.id = some after := (findBalance_spec there).1
      have kept := same before.id seen
      rw [first, ← lowered.id_eq, second] at kept
      obtain rfl := Option.some.inj kept
      exact Iff.rfl

end Drained

end ObjectStore

namespace SettlementEngine

open ObjectStore

section Charges

variable (feeToken : Bytes32) {store : ObjectStore} {accounting : FeeAccounting} {receipt : ExecutionReceipt}

def runtimeDue (accounting : FeeAccounting) (receipt : ExecutionReceipt) : U64 :=
  if receipt.success = true then
    if (accounting.chargeRuntime receipt.gasUsed).1.success = true then receipt.gasUsed else 0
  else least receipt.gasUsed (accounting.envelope.maxRuntimeFee / 2)

def chargedAccounting (accounting : FeeAccounting) (receipt : ExecutionReceipt) : FeeAccounting :=
  if receipt.success = true then (accounting.chargeRuntime receipt.gasUsed).2
  else accounting.revertRuntime (least receipt.gasUsed (accounting.envelope.maxRuntimeFee / 2))

def refundDue (accounting : FeeAccounting) (receipt : ExecutionReceipt) : U64 :=
  (chargedAccounting accounting receipt).settleRefund.1

structure Unnoticed (store : ObjectStore) (accounting : FeeAccounting) (receipt : ExecutionReceipt) : Prop where
  charge : ∀ balance, store.findBalance accounting.envelope.payer feeToken = some balance →
    Seen store balance.id → runtimeDue accounting receipt = 0 ∨ (balance.amount = 0 ∧ balance.lockedAmount = 0)
  refund : ∀ balance, store.findBalance accounting.envelope.effectiveRefundAddress feeToken = some balance →
    Seen store balance.id → refundDue accounting receipt = 0 ∨ balance.lockedAmount = 0

variable {feeToken}

theorem changeFound_of_fixed {address : Bytes32} {change : BalanceObject → BalanceObject}
    {keeps : ∀ balance, (change balance).id = balance.id} (fixed : ∀ balance, change balance = balance) :
    store.changeFound feeToken address change keeps = store := by
  unfold changeFound updateFound
  cases store.findBalance address feeToken with
  | none => rfl
  | some balance =>
      refine ObjectStore.ext rfl (KeyedMap.ext fun id => ?_) rfl rfl
      show (store.balances.modify balance.id change keeps).get? id = _
      rw [KeyedMap.get?_modify]
      split
      · rw [funext fixed, Option.map_id']
      · rfl

theorem debitFee_zero (balance : BalanceObject) : balance.debitFee 0 = balance :=
  (debitFee_eq_iff 0 balance).2 (.inl rfl)

theorem envelope_chargedAccounting : (chargedAccounting accounting receipt).envelope = accounting.envelope := by
  unfold chargedAccounting
  split
  · unfold FeeAccounting.chargeRuntime
    split
    · rfl
    · split <;> rfl
  · rfl

theorem chargeSuccess_eq (success : receipt.success = true) :
    chargeSuccess feeToken store accounting receipt.gasUsed =
      (store.changeFound feeToken accounting.envelope.payer (.debitFee (runtimeDue accounting receipt))
        (id_debitFee _), chargedAccounting accounting receipt) := by
  have envelope := @envelope_chargedAccounting accounting receipt
  unfold chargeSuccess runtimeDue
  rw [chargedAccounting, if_pos success] at envelope ⊢
  rw [if_pos success]
  by_cases charged : (accounting.chargeRuntime receipt.gasUsed).1.success = true
  · simp only [charged, if_true, envelope]
    rfl
  · simp only [charged, Bool.false_eq_true, if_false, changeFound_of_fixed debitFee_zero]

theorem chargeReverted_eq (failure : receipt.success ≠ true) :
    chargeReverted feeToken store accounting receipt.gasUsed =
      (store.changeFound feeToken accounting.envelope.payer (.debitFee (runtimeDue accounting receipt))
        (id_debitFee _), chargedAccounting accounting receipt) := by
  unfold chargeReverted runtimeDue chargedAccounting
  rw [if_neg failure]
  simp only [if_neg failure]
  split
  · rename_i none
    simp only [none, changeFound_of_fixed debitFee_zero]
  · rfl

theorem chargeReceipt_eq : chargeReceipt feeToken store accounting receipt =
    ((store.changeFound feeToken accounting.envelope.payer (.debitFee (runtimeDue accounting receipt))
        (id_debitFee _)).changeFound feeToken accounting.envelope.effectiveRefundAddress
        (.unlock (refundDue accounting receipt)) (id_unlock _),
      (chargedAccounting accounting receipt).settleRefund.2) := by
  have charged : (if receipt.success = true then chargeSuccess feeToken store accounting receipt.gasUsed
      else chargeReverted feeToken store accounting receipt.gasUsed) =
      (store.changeFound feeToken accounting.envelope.payer (.debitFee (runtimeDue accounting receipt))
        (id_debitFee _), chargedAccounting accounting receipt) := by
    split
    · rename_i success
      exact chargeSuccess_eq success
    · rename_i failure
      exact chargeReverted_eq failure
  have address : (chargedAccounting accounting receipt).settleRefund.2.envelope.effectiveRefundAddress =
      accounting.envelope.effectiveRefundAddress :=
    congrArg FeeEnvelope.effectiveRefundAddress envelope_chargedAccounting
  unfold chargeReceipt
  rw [charged]
  unfold refundReceipt
  dsimp only
  split
  · rename_i none
    have due : refundDue accounting receipt = 0 := none
    rw [due, changeFound_of_fixed fun balance => balance.unlock_zero]
  · simp only [address]
    rfl

theorem drained_chargeReceipt : Drained feeToken store (chargeReceipt feeToken store accounting receipt).1 := by
  rw [chargeReceipt_eq]
  exact (Drained.changeFound (lowered_debitFee _)).trans (Drained.changeFound (lowered_unlock _))

theorem unnoticed_iff : Unnoticed feeToken store accounting receipt ↔
    Unseen feeToken store accounting.envelope.payer (.debitFee (runtimeDue accounting receipt)) ∧
      Unseen feeToken store accounting.envelope.effectiveRefundAddress
        (.unlock (refundDue accounting receipt)) := by
  simp only [Unseen, debitFee_eq_iff, unlock_eq_iff]
  exact ⟨fun quiet => ⟨quiet.charge, quiet.refund⟩, fun quiet => ⟨quiet.1, quiet.2⟩⟩

theorem sameSeen_chargeReceipt :
    SameSeen store (chargeReceipt feeToken store accounting receipt).1 ↔
      Unnoticed feeToken store accounting receipt := by
  have first := @Drained.changeFound feeToken store accounting.envelope.payer
    (.debitFee (runtimeDue accounting receipt)) (id_debitFee _) (lowered_debitFee _)
  rw [chargeReceipt_eq, first.sameSeen_trans (Drained.changeFound (lowered_unlock _)), sameSeen_changeFound,
    sameSeen_changeFound, unnoticed_iff]
  exact and_congr_right fun quiet => first.unseen_iff (sameSeen_changeFound.2 quiet)

theorem drained_chargeReceipts (accountings : List FeeAccounting) (receipts : List ExecutionReceipt)
    (store : ObjectStore) : Drained feeToken store (chargeReceipts feeToken store accountings receipts).1 := by
  induction accountings generalizing store receipts with
  | nil => exact .refl store
  | cons accounting accountings ih =>
      cases receipts with
      | nil => exact .refl store
      | cons receipt receipts => exact drained_chargeReceipt.trans (ih receipts _)

theorem unnoticed_of_sameSeen {other : ObjectStore} (drained : Drained feeToken store other)
    (same : SameSeen store other) :
    Unnoticed feeToken other accounting receipt ↔ Unnoticed feeToken store accounting receipt := by
  rw [unnoticed_iff, unnoticed_iff, drained.unseen_iff same, drained.unseen_iff same]

theorem sameSeen_chargeReceipts (accountings : List FeeAccounting) (receipts : List ExecutionReceipt)
    (store : ObjectStore) :
    SameSeen store (chargeReceipts feeToken store accountings receipts).1 ↔
      ∀ pair ∈ accountings.zip receipts, Unnoticed feeToken store pair.1 pair.2 := by
  induction accountings generalizing store receipts with
  | nil => exact iff_of_true (fun _ _ => rfl) fun pair listed => by cases listed
  | cons accounting accountings ih =>
      cases receipts with
      | nil => exact iff_of_true (fun _ _ => rfl) fun pair listed => by cases listed
      | cons receipt receipts =>
          have first := @drained_chargeReceipt feeToken store accounting receipt
          have rest := @drained_chargeReceipts feeToken accountings receipts
            (chargeReceipt feeToken store accounting receipt).1
          show SameSeen store (chargeReceipts feeToken (chargeReceipt feeToken store accounting receipt).1
            accountings receipts).1 ↔ _
          rw [first.sameSeen_trans rest, ih, sameSeen_chargeReceipt, List.zip_cons_cons, List.forall_mem_cons]
          refine and_congr_right fun quiet => forall₂_congr fun pair _ => ?_
          exact unnoticed_of_sameSeen first (sameSeen_chargeReceipt.2 quiet)

end Charges

section Settled

variable {feeToken : Bytes32} {sha256 : Sha256} {encode : BoxedObject → Bytes}

/-- The encoding of a balance shows how much is in it. -/
def ShowsAmounts (encode : BoxedObject → Bytes) : Prop :=
  ∀ (balance : BalanceObject) (amount lockedAmount : U128),
    encode (.balance { balance with amount, lockedAmount }) = encode (.balance balance) →
      amount = balance.amount ∧ lockedAmount = balance.lockedAmount

theorem stateRoot_drained_iff (bounded : ∀ object, (encode object).length < 2 ^ 64)
    (shows : ShowsAmounts encode) {store after : ObjectStore} (drained : Drained feeToken store after)
    (free : CollisionFree sha256
      [store.syncTypedToCanonical.rootInput encode, after.syncTypedToCanonical.rootInput encode]) :
    store.syncTypedToCanonical.stateRoot sha256 encode = after.syncTypedToCanonical.stateRoot sha256 encode ↔
      SameSeen store after := by
  constructor
  · intro roots id seen
    have inputs := free _ List.mem_cons_self _ (List.mem_cons_of_mem _ List.mem_cons_self) roots
    have encoded := encoded_of_rootInput_eq bounded inputs id
    rw [sync_get?, sync_get?, drained.objects, overlay, overlay, drained.pools, drained.vaults, seen.2.1,
      seen.2.2] at encoded
    obtain ⟨object, present⟩ := Option.isSome_iff_exists.1 seen.1
    have held := drained.held id
    rw [present] at encoded
    generalize store.balances.get? id = before at held encoded ⊢
    generalize after.balances.get? id = afterwards at held encoded ⊢
    cases held with
    | none => rfl
    | @some balance lower lowered =>
        have shown : encode (.balance balance) = encode (.balance lower) := Option.some.inj encoded
        rw [lowered.rest] at shown
        obtain ⟨amount, locked⟩ := shows _ _ _ shown.symm
        rw [lowered.rest, amount, locked]
  · intro same
    have objects : store.syncTypedToCanonical.objects = after.syncTypedToCanonical.objects := by
      refine KeyedMap.ext fun id => ?_
      rw [sync_get?, sync_get?, drained.objects, overlay, overlay, drained.pools, drained.vaults]
      cases present : store.objects.get? id with
      | none => rfl
      | some object =>
          rw [Option.map_some, Option.map_some]
          cases vault : store.vaults.get? id with
          | some vault => rfl
          | none =>
              cases pool : store.pools.get? id with
              | some pool => rfl
              | none => rw [same id ⟨Option.isSome_iff_exists.2 ⟨object, present⟩, pool, vault⟩]
    rw [stateRoot, stateRoot, objects]

theorem charged_getElem? (accountings : List FeeAccounting) (receipts : List ExecutionReceipt)
    (store : ObjectStore) {i : Nat} {accounting : FeeAccounting} {receipt : ExecutionReceipt}
    (placed : accountings[i]? = some accounting) (settled : receipts[i]? = some receipt) :
    (chargeReceipts feeToken store accountings receipts).2[i]? =
      some (chargedAccounting accounting receipt).settleRefund.2 := by
  induction accountings generalizing store receipts i with
  | nil => cases placed
  | cons first accountings ih =>
      cases receipts with
      | nil => cases settled
      | cons receipt' receipts =>
          cases i with
          | zero =>
              obtain rfl := Option.some.inj placed
              obtain rfl := Option.some.inj settled
              show some (chargeReceipt feeToken store first receipt').2 = _
              rw [chargeReceipt_eq]
          | succ i => exact ih receipts _ placed settled

/-- Each record is charged with the receipt of the plan that it was made for. -/
def ChargedForOwn (submitted : List ExecutionPlan) (accountings charged : List FeeAccounting)
    (receipts : List ExecutionReceipt) : Prop :=
  ∀ (i : Nat) (accounting : FeeAccounting) (receipt : ExecutionReceipt), accountings[i]? = some accounting →
    receipts[i]? = some receipt →
      charged[i]? = some (chargedAccounting accounting receipt).settleRefund.2 ∧
        submitted[i]?.map ExecutionPlan.txId = some receipt.txId

theorem chargedForOwn_iff {groups : List ExecutionGroup} {store : ObjectStore} {epoch : U64}
    {accountings : List FeeAccounting} (submitted : List ExecutionPlan) :
    ChargedForOwn submitted accountings
        (executeGroupsWithFees feeToken sha256 encode groups store epoch accountings).2.2
        (executeGroupsWithFees feeToken sha256 encode groups store epoch accountings).1.receipts ↔
      ∀ (i : Nat) (plan : ExecutionPlan), i < accountings.length → (executionOrder groups)[i]? = some plan →
        submitted[i]?.map ExecutionPlan.txId = some plan.txId := by
  have receipts (i : Nat) := receiptsOf_getElem? sha256 epoch (executionOrder groups) store i
  rw [← receipts_executeGroups sha256 epoch encode] at receipts
  constructor
  · intro own i plan within planned
    have placed := List.getElem?_eq_getElem within
    have settled := receipts i
    rw [planned, Option.map_some] at settled
    rw [(own i _ _ placed settled).2, txId_applyPlanWithEffects]
  · intro same i accounting receipt placed settled
    refine ⟨charged_getElem? _ _ _ placed settled, ?_⟩
    have settled' := (receipts i).symm.trans settled
    obtain ⟨plan, planned, rfl⟩ := Option.map_eq_some_iff.1 settled'
    rw [same i plan (List.getElem?_eq_some_iff.1 placed).1 planned, txId_applyPlanWithEffects]

/-- Settlement with fees: the root it returns is that of the store it leaves just when no charge and no refund
changes a balance that the root shows, and the records are charged for their own plans just when the groups keep
the order in which those were submitted. -/
theorem fees_reflected_iff (bounded : ∀ object, (encode object).length < 2 ^ 64) (shows : ShowsAmounts encode)
    (groups : List ExecutionGroup) (store : ObjectStore) (epoch : U64) (accountings : List FeeAccounting)
    (free : CollisionFree sha256
      [(executeGroups sha256 encode groups store epoch).2.rootInput encode,
        (executeGroupsWithFees feeToken sha256 encode groups store epoch
          accountings).2.1.syncTypedToCanonical.rootInput encode]) :
    let settled := (executeGroups sha256 encode groups store epoch).2
    let charged := executeGroupsWithFees feeToken sha256 encode groups store epoch accountings
    (charged.1.stateRoot = charged.2.1.syncTypedToCanonical.stateRoot sha256 encode ↔
      ∀ pair ∈ accountings.zip charged.1.receipts, Unnoticed feeToken settled pair.1 pair.2) ∧
    ∀ submitted : List ExecutionPlan,
      ChargedForOwn submitted accountings charged.2.2 charged.1.receipts ↔
        ∀ (i : Nat) (plan : ExecutionPlan), i < accountings.length → (executionOrder groups)[i]? = some plan →
          submitted[i]?.map ExecutionPlan.txId = some plan.txId := by
  intro settled charged
  have drained : Drained feeToken settled charged.2.1 :=
    drained_chargeReceipts accountings charged.1.receipts settled
  have synced : settled.syncTypedToCanonical = settled := sync_sync
  refine ⟨?_, chargedForOwn_iff⟩
  have roots := @stateRoot_drained_iff feeToken sha256 encode bounded shows settled _ drained
    (by rw [synced]; exact free)
  rw [synced] at roots
  exact roots.trans (sameSeen_chargeReceipts accountings charged.1.receipts settled)

section Examples

def wordDigest : Sha256 := fun bytes =>
  BitVec.ofNat 256 (bytes.foldl (fun value byte => 257 * value + byte.toNat) 0)

def encodeBalance : BoxedObject → Bytes
  | .balance balance =>
      beBytes 32 balance.id ++ leBytes 4 (1 : U32) ++ beBytes 32 balance.info.owner ++
        leBytes 8 balance.info.version ++ leBytes 8 balance.info.createdAt ++
        leBytes 8 balance.info.updatedAt ++ beBytes 32 balance.owner ++ beBytes 32 balance.assetId ++
        leBytes 16 balance.amount ++ leBytes 16 balance.lockedAmount
  | _ => []

theorem encodeBalance_bounded (object : BoxedObject) : (encodeBalance object).length < 2 ^ 64 := by
  cases object <;> simp [encodeBalance]

theorem encodeBalance_shows : ShowsAmounts encodeBalance := by
  intro balance amount lockedAmount same
  simp only [encodeBalance, List.append_assoc, List.append_cancel_left_eq] at same
  obtain ⟨amounts, rest⟩ := leBytes_code (by decide) same
  exact ⟨amounts, (leBytes_code (by decide)).injective rest⟩

def lockingPlanOf (txId : Bytes32) (id : ObjectId) : ExecutionPlan :=
  IntentResolver.planOf txId 2 [.writeObject] [.lockBalance id 10, .updateVersion id] [.write id, .write id]

def payersStore : ObjectStore :=
  (ObjectStore.new.insert (.balance (.new 1 7 3 100000 0))).insert (.balance (.new 2 8 3 100000 0))

/-- The second of three plans shares a balance with the first, so the third comes before it. The root is not
that of the store that is left. -/
theorem charges_after_root :
    let submitted := [lockingPlanOf 1 1, lockingPlanOf 2 1, lockingPlanOf 3 2]
    let charged := executeGroupsWithFees 3 wordDigest encodeBalance
      (ParallelScheduler.schedule submitted) payersStore 0
      [chargedRecord 1600, chargedRecord 1600, chargedRecord 1600]
    charged.1.receipts.map ExecutionReceipt.txId = [1, 3, 2] ∧
    charged.2.2.map FeeAccounting.chargedRuntime = [1550, 1550, 1550] ∧
    charged.1.stateRoot ≠ charged.2.1.syncTypedToCanonical.stateRoot wordDigest encodeBalance := by
  decide +kernel

def strangerRecord : FeeAccounting := { chargedRecord 1600 with envelope.payer := 9 }

/-- Nothing is taken where the payer has no balance. -/
theorem stranger_reflected :
    let charged := executeGroupsWithFees 3 wordDigest encodeBalance [⟨[lockingPlan], 0⟩] payerStore 0
      [strangerRecord]
    charged.1.stateRoot = charged.2.1.syncTypedToCanonical.stateRoot wordDigest encodeBalance := by
  have same :
      (executeGroups wordDigest encodeBalance [⟨[lockingPlan], 0⟩] payerStore 0).2.rootInput encodeBalance =
      (executeGroupsWithFees 3 wordDigest encodeBalance [⟨[lockingPlan], 0⟩] payerStore 0
        [strangerRecord]).2.1.syncTypedToCanonical.rootInput encodeBalance := by
    decide +kernel
  have free : CollisionFree wordDigest
      [(executeGroups wordDigest encodeBalance [⟨[lockingPlan], 0⟩] payerStore 0).2.rootInput encodeBalance,
        (executeGroupsWithFees 3 wordDigest encodeBalance [⟨[lockingPlan], 0⟩] payerStore 0
          [strangerRecord]).2.1.syncTypedToCanonical.rootInput encodeBalance] := by
    rw [← same]
    simp [CollisionFree]
  have absent : (executeGroups wordDigest encodeBalance [⟨[lockingPlan], 0⟩] payerStore 0).2.findBalance 9 3 =
      none := by
    decide +kernel
  refine (fees_reflected_iff encodeBalance_bounded encodeBalance_shows [⟨[lockingPlan], 0⟩] payerStore 0
    [strangerRecord] free).1.2 ?_
  intro pair listed
  have record : pair.1 = strangerRecord := List.mem_singleton.1 (List.of_mem_zip listed).1
  rw [record]
  refine ⟨fun balance found => ?_, fun balance found => ?_⟩
  · cases absent.symm.trans found
  · cases absent.symm.trans found

end Examples

end Settled

end SettlementEngine

end Omniphi.Runtime
