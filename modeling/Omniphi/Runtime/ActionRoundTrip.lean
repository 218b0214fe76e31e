import Omniphi.BigEndian
import Omniphi.Hex
import Omniphi.Runtime.Fallback
import Omniphi.Runtime.PlanHash

/-! Operations and the actions that stand for them in candidate plans, both ways. -/

namespace Omniphi.Runtime

section Text

theorem shift_or_eq (s : Nat) (byte : UInt8) :
    (BitVec.ofNat 256 s <<< 8) ||| byte.toBitVec.setWidth 256 = BitVec.ofNat 256 (256 * s + byte.toNat) := by
  have apart : (BitVec.ofNat 256 s <<< 8) &&& byte.toBitVec.setWidth 256 = 0 := by
    apply BitVec.eq_of_getLsbD_eq
    intro i inside
    by_cases low : i < 8
    · simp [low]
    · simp [BitVec.getLsbD_of_ge byte.toBitVec i (Nat.not_lt.1 low)]
  rw [← BitVec.add_eq_or_of_and_eq_zero _ _ apart]
  apply BitVec.eq_of_toNat_eq
  simp [Nat.shiftLeft_eq, Nat.mul_comm]

theorem bytes32OfList_eq (bytes : Bytes) : bytes32OfList bytes = ofBeBytes 256 bytes := by
  have steps (start : Nat) :
      bytes.foldl (fun (value : Bytes32) byte => (value <<< 8) ||| byte.toBitVec.setWidth 256)
        (BitVec.ofNat 256 start) =
      BitVec.ofNat 256 (bytes.foldl (fun value byte => 256 * value + byte.toNat) start) := by
    induction bytes generalizing start with
    | nil => rfl
    | cons byte bytes ih => rw [List.foldl_cons, List.foldl_cons, shift_or_eq, ih]
  exact steps 0

theorem decodeBytes32_hexOf (bytes : Bytes32) : decodeBytes32 (hexOf bytes) = bytes := by
  simp only [decodeBytes32, hexOf, hexDecode_hexEncode, length_beBytes, if_true]
  rw [bytes32OfList_eq, ofBeBytes_beBytes (by decide)]

end Text

/-- The operations that actions stand for. -/
def ObjectOperation.IsAction : ObjectOperation → Prop
  | unlockBalance .. | transferOwnership .. | contractStateTransition .. => True
  | op => op.IsResolved

theorem operation_of_action (action : PlanAction) : (planActionToOperation action).IsAction := by
  rw [PlanAction.planActionToOperation_eq]
  cases action.reading <;> trivial

theorem operation_roundTrip {op : ObjectOperation} (stands : op.IsAction) :
    planActionToOperation (operationToPlanAction op) = op := by
  cases op with
  | unlockBalance balanceId amount => rfl
  | transferOwnership objectId newOwner =>
      have owner : (metadataOf [("new_owner", hexOf newOwner)])["new_owner"]? = some (hexOf newOwner) := by
        simp [metadataOf]
      have schema : (metadataOf [("new_owner", hexOf newOwner)])["schema_id"]? = none := by
        simp [metadataOf]
      simp only [operationToPlanAction, planActionToOperation, owner, schema, decodeBytes32_hexOf]
  | contractStateTransition contractId schemaId proposedState =>
      have schema : (metadataOf [("schema_id", hexOf schemaId),
          ("proposed_state", hexEncode proposedState)])["schema_id"]? = some (hexOf schemaId) := by
        rw [metadataOf, List.foldl_cons, List.foldl_cons, List.foldl_nil, BTree.getElem?_insert,
          BTree.getElem?_insert]
        rfl
      have state : (metadataOf [("schema_id", hexOf schemaId),
          ("proposed_state", hexEncode proposedState)])["proposed_state"]? = some (hexEncode proposedState) := by
        simp [metadataOf]
      simp only [operationToPlanAction, planActionToOperation, schema, state, decodeBytes32_hexOf,
        hexDecode_hexEncode, Option.getD_some]
  | _ => exact planActionToOperation_operationToPlanAction stands

/-- Each operation of a resolved plan is the one its action stands for, and every action is mapped to one that
stands for the same operation. -/
theorem actions_round_trip :
    (∀ tx store caps plan, IntentResolver.resolve tx store caps = .ok plan → ∀ op ∈ plan.operations,
      planActionToOperation (operationToPlanAction op) = op) ∧
    ∀ action, planActionToOperation (operationToPlanAction (planActionToOperation action)) =
      planActionToOperation action := by
  constructor
  · intro tx store caps plan resolved op member
    exact planActionToOperation_operationToPlanAction
      ((IntentResolver.resolvedFor resolved).operations op member)
  · intro action
    exact operation_roundTrip (operation_of_action action)

end Omniphi.Runtime
