import Omniphi.Encoding
import Omniphi.Runtime.Market

/-! What the hash of a candidate plan binds. It covers target and amount of every action, but neither
the metadata nor, since methods are not framed, where one action ends. -/

namespace Omniphi.Runtime

open PrefixCode

/-- What the conversion to an operation takes from the kind and the metadata of an action. -/
inductive ActionReading
  | debit
  | credit
  | swap (deltaB : I128)
  | lock
  | unlock
  | contract (schemaId : SchemaId) (proposedState : Bytes)
  | ownership (newOwner : Bytes32)
  | version

namespace ActionReading

def operation (target : ObjectId) (amount : U128) : ActionReading → ObjectOperation
  | debit => .debitBalance target amount
  | credit => .creditBalance target amount
  | swap deltaB => .swapPoolAmounts target amount deltaB
  | lock => .lockBalance target amount
  | unlock => .unlockBalance target amount
  | contract schemaId proposedState => .contractStateTransition target schemaId proposedState
  | ownership newOwner => .transferOwnership target newOwner
  | version => .updateVersion target

theorem eq_of_operation {target target' : ObjectId} {amount amount' : U128}
    {reading reading' : ActionReading}
    (same : reading.operation target amount = reading'.operation target' amount') :
    reading = reading' := by
  cases reading <;> cases reading' <;> simp_all [operation]

def tag : ActionReading → Option UInt8
  | debit => some 0
  | credit => some 1
  | swap _ => some 2
  | lock => some 3
  | unlock => some 4
  | _ => none

end ActionReading

namespace PlanAction

def reading (action : PlanAction) : ActionReading :=
  match action.actionType with
  | .debitBalance => .debit
  | .creditBalance => .credit
  | .swapPoolAmounts => .swap ((action.metadata["delta_b"]?.bind parseI128).getD 0)
  | .lockBalance => .lock
  | .unlockBalance => .unlock
  | .custom _ =>
      match action.metadata["schema_id"]?, action.metadata["proposed_state"]? with
      | some schemaHex, some stateHex =>
          .contract (decodeBytes32 schemaHex) ((hexDecode stateHex).getD [])
      | _, _ =>
          match action.metadata["new_owner"]? with
          | some newOwnerHex => .ownership (decodeBytes32 newOwnerHex)
          | none => .version

theorem planActionToOperation_eq (action : PlanAction) :
    planActionToOperation action =
      action.reading.operation action.targetObject (action.amount.getD 0) := by
  unfold planActionToOperation reading
  cases action.actionType with
  | custom method =>
      cases action.metadata["schema_id"]? <;> cases action.metadata["proposed_state"]? <;>
        cases action.metadata["new_owner"]? <;> rfl
  | _ => rfl

theorem hashBytes_actionType (action : PlanAction) :
    match action.reading.tag with
    | some tag => action.actionType.hashBytes = [tag]
    | none => ∃ method, action.actionType = .custom method := by
  unfold reading
  cases action.actionType with
  | custom method =>
      cases action.metadata["schema_id"]? <;> cases action.metadata["proposed_state"]? <;>
        cases action.metadata["new_owner"]? <;> exact ⟨method, rfl⟩
  | _ => rfl

theorem amountBytes_code : IsPrefixCode amountBytes := by
  intro a b u v same
  have code : IsPrefixCode (leBytes 16 : U128 → Bytes) := leBytes_code (by decide)
  cases a with
  | none =>
      cases b with
      | none => exact ⟨rfl, by simpa [amountBytes] using same⟩
      | some amount => simp [amountBytes] at same
  | some amount =>
      cases b with
      | none => simp [amountBytes] at same
      | some amount' =>
          simp only [amountBytes, List.cons_append, List.nil_append, List.cons.injEq, true_and] at same
          obtain ⟨rfl, rest⟩ := code same
          exact ⟨rfl, rest⟩

theorem rest_of_actionType {a b : PlanAction} {u v : Bytes} (readings : a.reading = b.reading)
    (same : a.actionType.hashBytes ++ u = b.actionType.hashBytes ++ v) : u = v := by
  have first := hashBytes_actionType a
  have second := hashBytes_actionType b
  rw [← readings] at second
  cases tag : a.reading.tag with
  | some tag =>
      simp only [tag] at first second
      rw [first, second] at same
      exact (List.cons.inj same).2
  | none =>
      simp only [tag] at first second
      obtain ⟨method, kind⟩ := first
      obtain ⟨method', kind'⟩ := second
      rw [kind, kind'] at same
      exact (of_terminator strBytes_injective not_mem_strBytes same).2

theorem fields_of_hashBytes {a b : PlanAction} {u v : Bytes} (readings : a.reading = b.reading)
    (same : a.hashBytes ++ u = b.hashBytes ++ v) :
    planActionToOperation a = planActionToOperation b ∧ u = v := by
  have code : IsPrefixCode (beBytes 32 : Bytes32 → Bytes) := beBytes_code (by decide)
  simp only [hashBytes, List.append_assoc] at same
  obtain ⟨target, same⟩ := code (rest_of_actionType readings same)
  obtain ⟨amount, rest⟩ := amountBytes_code same
  rw [planActionToOperation_eq, planActionToOperation_eq, readings, target, amount]
  exact ⟨rfl, rest⟩

theorem operations_of_hashBytes {as bs : List PlanAction} {u v : Bytes}
    (readings : as.map reading = bs.map reading)
    (same : as.flatMap hashBytes ++ u = bs.flatMap hashBytes ++ v) :
    as.map planActionToOperation = bs.map planActionToOperation := by
  induction as generalizing bs with
  | nil =>
      obtain rfl := List.map_eq_nil_iff.1 readings.symm
      rfl
  | cons a as ih =>
      cases bs with
      | nil => cases readings
      | cons b bs =>
          obtain ⟨first, others⟩ := List.cons.inj readings
          simp only [List.flatMap_cons, List.append_assoc] at same
          obtain ⟨operation, rest⟩ := fields_of_hashBytes first same
          rw [List.map_cons, List.map_cons, operation, ih others rest]

theorem readings_of_operations {as bs : List PlanAction}
    (same : as.map planActionToOperation = bs.map planActionToOperation) :
    as.map reading = bs.map reading := by
  induction as generalizing bs with
  | nil =>
      obtain rfl := List.map_eq_nil_iff.1 same.symm
      rfl
  | cons a as ih =>
      cases bs with
      | nil => cases same
      | cons b bs =>
          obtain ⟨first, others⟩ := List.cons.inj same
          rw [planActionToOperation_eq, planActionToOperation_eq] at first
          rw [List.map_cons, List.map_cons, ActionReading.eq_of_operation first, ih others]

end PlanAction

/-- Two plans with one hash stand for the same operations exactly when their actions, one by one, are of
the same kind and their metadata reads alike. -/
theorem planHash_binds_operations (sha256 : Sha256) (plan plan' : CandidatePlan)
    (collisionFree : sha256 plan.hashPreimage = sha256 plan'.hashPreimage →
      plan.hashPreimage = plan'.hashPreimage)
    (hashed : plan.computeHash sha256 = plan'.computeHash sha256)
    (planId : plan.planId = plan'.planId) (solverId : plan.solverId = plan'.solverId)
    (intentId : plan.intentId = plan'.intentId) :
    plan.actions.map planActionToOperation = plan'.actions.map planActionToOperation ↔
      plan.actions.map PlanAction.reading = plan'.actions.map PlanAction.reading := by
  constructor
  · exact PlanAction.readings_of_operations
  · intro readings
    have same := collisionFree hashed
    simp only [CandidatePlan.hashPreimage, planId, solverId, intentId, List.append_assoc,
      List.append_cancel_left_eq] at same
    exact PlanAction.operations_of_hashBytes readings same

section Examples

def handOver (metadata : List (String × String)) : CandidatePlan :=
  { planId := 1, intentId := 2, solverId := 3
    actions := [⟨.custom "transfer_ownership", 7, none, metadataOf metadata⟩]
    requiredCapabilities := [], objectReads := [], objectWrites := [7], expectedOutputAmount := 1
    feeQuote := 10, qualityScore := 5000, constraintProofs := []
    planHash := 0x3282417a70f41e6a50a5b66d9c238bcaced5fd19fef2f4e5bd96c1499696491b
    submittedAtSequence := 0, explanation := none, metadata := ∅ }

def handOverSha256 : Sha256 := fun _ => (handOver []).planHash

def newOwner : String × String :=
  ("new_owner", "0000000000000000000000000000000000000000000000000000000000000008")

theorem handOver_with_note :
    (handOver [newOwner]).actions.map planActionToOperation =
      (handOver [("note", "sold"), newOwner]).actions.map planActionToOperation := by
  apply (planHash_binds_operations handOverSha256 (handOver [newOwner])
    (handOver [("note", "sold"), newOwner]) (fun _ => rfl) rfl rfl rfl rfl).2
  simp [handOver, newOwner, PlanAction.reading, metadataOf]

theorem handOver_with_owner :
    ¬ ∀ (sha256 : Sha256) (plan plan' : CandidatePlan),
      (sha256 plan.hashPreimage = sha256 plan'.hashPreimage → plan.hashPreimage = plan'.hashPreimage) →
      plan.computeHash sha256 = plan'.computeHash sha256 → plan.planId = plan'.planId →
      plan.solverId = plan'.solverId → plan.intentId = plan'.intentId →
      plan.actions.map planActionToOperation = plan'.actions.map planActionToOperation := by
  intro binds
  have same := binds handOverSha256 (handOver []) (handOver [newOwner]) (fun _ => rfl) rfl rfl rfl rfl
  simp [handOver, newOwner, planActionToOperation, metadataOf] at same

end Examples

end Omniphi.Runtime
