import Omniphi.Lib.KeyedMap
import Omniphi.Lib.Run
import Omniphi.Basic

/-! The registry of operator bonds. Several operators may bond one node, but the index from nodes to
operators has room for one of them and a withdrawal clears it whoever is left. -/

namespace Omniphi.PoSeq

inductive BondState
  | active
  | partiallySlashed
  | jailed
  | exhausted
  | retired
deriving DecidableEq

structure OperatorBond where
  operatorAddress : String
  nodeId : Bytes32
  bondAmount : U64
  bondDenom : String
  bondedSinceEpoch : U64
  isActive : Bool
  withdrawnAtEpoch : U64
  state : BondState
  slashedAmount : U64
  availableBond : U64
  lastSlashEpoch : U64
  slashCount : U32
deriving DecidableEq

namespace OperatorBond

def new (operatorAddress : String) (nodeId : Bytes32) (bondAmount : U64) (bondDenom : String)
    (epoch : U64) : OperatorBond :=
  { operatorAddress, nodeId, bondAmount, bondDenom, bondedSinceEpoch := epoch, isActive := true
    withdrawnAtEpoch := 0, state := .active, slashedAmount := 0, availableBond := bondAmount
    lastSlashEpoch := 0, slashCount := 0 }

def withdraw (bond : OperatorBond) (epoch : U64) : OperatorBond :=
  { bond with isActive := false, withdrawnAtEpoch := epoch }

def key (bond : OperatorBond) : String × Bytes32 := (bond.operatorAddress, bond.nodeId)

end OperatorBond

inductive BondError
  | bondAlreadyActive
  | bondNotFound
  | bondAlreadyWithdrawn
  | invalidBondAmount
  | invalidDenom
deriving DecidableEq

instance : Ord (String × Bytes32) := lexOrd

instance : Std.TransOrd (String × Bytes32) := BTree.lexTrans

instance : Std.LawfulEqOrd (String × Bytes32) := BTree.lexLawful

structure BondingStore where
  bonds : KeyedMap OperatorBond.key
  nodeIndex : BTreeMap Bytes32 String

namespace BondingStore

def new : BondingStore := { bonds := .empty, nodeIndex := ∅ }

def declare (store : BondingStore) (operatorAddress : String) (nodeId : Bytes32) (bondAmount : U64)
    (bondDenom : String) (epoch : U64) : Except BondError Unit × BondingStore :=
  if bondAmount = 0 then (.error .invalidBondAmount, store)
  else if bondDenom.isEmpty then (.error .invalidDenom, store)
  else if (store.bonds.get? (operatorAddress, nodeId)).any (·.isActive) then
    (.error .bondAlreadyActive, store)
  else (.ok (),
    { bonds := store.bonds.insert (.new operatorAddress nodeId bondAmount bondDenom epoch)
      nodeIndex := store.nodeIndex.insert nodeId operatorAddress })

def withdraw (store : BondingStore) (operatorAddress : String) (nodeId : Bytes32) (epoch : U64) :
    Except BondError Unit × BondingStore :=
  match store.bonds.get? (operatorAddress, nodeId) with
  | none => (.error .bondNotFound, store)
  | some bond =>
      if bond.isActive then (.ok (),
        { bonds := store.bonds.insert (bond.withdraw epoch), nodeIndex := store.nodeIndex.erase nodeId })
      else (.error .bondAlreadyWithdrawn, store)

def getByNode (store : BondingStore) (nodeId : Bytes32) : Option OperatorBond :=
  store.nodeIndex[nodeId]?.bind fun operator => store.bonds.get? (operator, nodeId)

def hasActiveBond (store : BondingStore) (nodeId : Bytes32) : Bool :=
  ((store.nodeIndex[nodeId]?.bind fun operator => store.bonds.get? (operator, nodeId)).map
    (·.isActive)).getD false

def load (store : BondingStore) (bond : OperatorBond) : BondingStore where
  bonds := store.bonds.insert bond
  nodeIndex := if bond.isActive then store.nodeIndex.insert bond.nodeId bond.operatorAddress
    else store.nodeIndex

/-- What was there before is dropped. -/
def loadFromChain (bonds : List OperatorBond) : BondingStore := bonds.foldl load new

section Runs

inductive Call
  | declare (operatorAddress : String) (nodeId : Bytes32) (bondAmount : U64) (bondDenom : String)
      (epoch : U64)
  | withdraw (operatorAddress : String) (nodeId : Bytes32) (epoch : U64)
  | loadFromChain (bonds : List OperatorBond)

def perform (store : BondingStore) : Call → Except BondError Unit × BondingStore
  | .declare operatorAddress nodeId bondAmount bondDenom epoch =>
      store.declare operatorAddress nodeId bondAmount bondDenom epoch
  | .withdraw operatorAddress nodeId epoch => store.withdraw operatorAddress nodeId epoch
  | .loadFromChain bonds => (.ok (), loadFromChain bonds)

def step (store : BondingStore) (call : Call) : BondingStore := (store.perform call).2

def Bonded (store : BondingStore) (nodeId : Bytes32) : Prop :=
  ∃ bond, store.bonds.get? bond.key = some bond ∧ bond.nodeId = nodeId ∧ bond.isActive = true

structure Agrees (store : BondingStore) : Prop where
  exact : ∀ nodeId, store.hasActiveBond nodeId = true ↔ store.Bonded nodeId
  shown : ∀ nodeId, store.hasActiveBond nodeId = true →
    ∃ bond, store.getByNode nodeId = some bond ∧ bond.nodeId = nodeId ∧ bond.isActive = true

structure Upheld (store : BondingStore) (call : Call) : Prop where
  agrees : Agrees (store.step call)
  refused : ∀ e, (store.perform call).1 = .error e → store.step call = store

def lastRecord (bonds : List OperatorBond) (key : String × Bytes32) : Option OperatorBond :=
  bonds.reverse.find? (·.key = key)

def lastActive (bonds : List OperatorBond) (nodeId : Bytes32) : Option OperatorBond :=
  bonds.reverse.find? fun bond => bond.nodeId = nodeId ∧ bond.isActive = true

/-- The bond that is withdrawn is the only active one of its node, and in a list from the chain the
operator of a node's last active record has an active bond for it if any operator does. -/
def Unshared (store : BondingStore) : Call → Prop
  | .declare .. => True
  | .withdraw operatorAddress nodeId _ =>
      ∀ own, store.bonds.get? (operatorAddress, nodeId) = some own → own.isActive = true →
        ∀ other, store.bonds.get? other.key = some other → other.nodeId = nodeId →
          other.isActive = true → other.operatorAddress = operatorAddress
  | .loadFromChain bonds =>
      ∀ other, lastRecord bonds other.key = some other → other.isActive = true →
        ∀ indexed, lastActive bonds other.nodeId = some indexed →
          ∃ held, lastRecord bonds indexed.key = some held ∧ held.isActive = true

end Runs

section Lookup

variable {store store' : BondingStore} {nodeId : Bytes32}

theorem hasActiveBond_iff :
    store.hasActiveBond nodeId = true ↔
      ∃ bond, store.getByNode nodeId = some bond ∧ bond.isActive = true := by
  rw [hasActiveBond, ← getByNode]
  cases store.getByNode nodeId with
  | none => simp
  | some bond => simp

theorem getByNode_some {bond : OperatorBond} (found : store.getByNode nodeId = some bond) :
    store.bonds.get? bond.key = some bond ∧ bond.nodeId = nodeId := by
  obtain ⟨operator, -, held⟩ := Option.bind_eq_some_iff.1 found
  have names := store.bonds.key_of_get? held
  exact ⟨by rw [names, held], congrArg Prod.snd names⟩

theorem agrees_iff : Agrees store ↔ ∀ nodeId, store.Bonded nodeId → store.hasActiveBond nodeId = true := by
  constructor
  · intro agrees nodeId
    exact (agrees.exact nodeId).2
  · intro finds
    have shown (nodeId : Bytes32) (active : store.hasActiveBond nodeId = true) :
        ∃ bond, store.getByNode nodeId = some bond ∧ bond.nodeId = nodeId ∧ bond.isActive = true := by
      obtain ⟨bond, found, active⟩ := hasActiveBond_iff.1 active
      exact ⟨bond, found, (getByNode_some found).2, active⟩
    refine ⟨?_, shown⟩
    intro nodeId
    refine ⟨?_, finds nodeId⟩
    intro active
    obtain ⟨bond, found, names, active⟩ := shown nodeId active
    exact ⟨bond, (getByNode_some found).1, names, active⟩

structure SameAt (store store' : BondingStore) (nodeId : Bytes32) : Prop where
  index : store'.nodeIndex[nodeId]? = store.nodeIndex[nodeId]?
  bonds : ∀ operator, store'.bonds.get? (operator, nodeId) = store.bonds.get? (operator, nodeId)

theorem SameAt.hasActiveBond (same : SameAt store store' nodeId) :
    store'.hasActiveBond nodeId = store.hasActiveBond nodeId := by
  simp only [BondingStore.hasActiveBond, same.index, same.bonds]

theorem SameAt.bonded (same : SameAt store store' nodeId) (bonded : store'.Bonded nodeId) :
    store.Bonded nodeId := by
  obtain ⟨bond, held, rfl, active⟩ := bonded
  exact ⟨bond, (same.bonds bond.operatorAddress).symm.trans held, rfl, active⟩

end Lookup

section Steps

variable {store : BondingStore}

theorem sameAt_insert {bond : OperatorBond} {nodeIndex : BTreeMap Bytes32 String} {nodeId : Bytes32}
    (elsewhere : bond.nodeId ≠ nodeId) (index : nodeIndex[nodeId]? = store.nodeIndex[nodeId]?) :
    SameAt store ⟨store.bonds.insert bond, nodeIndex⟩ nodeId := by
  refine ⟨index, ?_⟩
  intro operator
  rw [KeyedMap.get?_insert, if_neg]
  intro same
  exact elsewhere (congrArg Prod.snd same)

theorem declare_cases (store : BondingStore) (operatorAddress : String) (nodeId : Bytes32)
    (bondAmount : U64) (bondDenom : String) (epoch : U64) :
    ((store.declare operatorAddress nodeId bondAmount bondDenom epoch).1 = .ok () ∧
      (store.declare operatorAddress nodeId bondAmount bondDenom epoch).2 =
        ⟨store.bonds.insert (.new operatorAddress nodeId bondAmount bondDenom epoch),
          store.nodeIndex.insert nodeId operatorAddress⟩) ∨
    (store.declare operatorAddress nodeId bondAmount bondDenom epoch).2 = store := by
  unfold declare
  split
  · exact .inr rfl
  split
  · exact .inr rfl
  split
  · exact .inr rfl
  · exact .inl ⟨rfl, rfl⟩

theorem declare_agrees (agrees : Agrees store) (operatorAddress : String) (nodeId : Bytes32)
    (bondAmount : U64) (bondDenom : String) (epoch : U64) :
    Agrees (store.declare operatorAddress nodeId bondAmount bondDenom epoch).2 := by
  obtain ⟨-, made⟩ | kept := declare_cases store operatorAddress nodeId bondAmount bondDenom epoch
  · rw [made, agrees_iff]
    intro other bonded
    by_cases here : nodeId = other
    · subst here
      rw [hasActiveBond_iff]
      refine ⟨.new operatorAddress nodeId bondAmount bondDenom epoch, ?_, rfl⟩
      rw [getByNode, BTree.getElem?_insert, if_pos rfl, Option.bind_some, KeyedMap.get?_insert]
      exact if_pos rfl
    · have same := @sameAt_insert store (.new operatorAddress nodeId bondAmount bondDenom epoch)
        (store.nodeIndex.insert nodeId operatorAddress) other here
        (by rw [BTree.getElem?_insert, if_neg here])
      rw [same.hasActiveBond]
      exact agrees_iff.1 agrees other (same.bonded bonded)
  · rw [kept]
    exact agrees

theorem withdraw_cases (store : BondingStore) (operatorAddress : String) (nodeId : Bytes32)
    (epoch : U64) :
    (∃ bond, store.bonds.get? (operatorAddress, nodeId) = some bond ∧ bond.isActive = true ∧
      (store.withdraw operatorAddress nodeId epoch).1 = .ok () ∧
      (store.withdraw operatorAddress nodeId epoch).2 =
        ⟨store.bonds.insert (bond.withdraw epoch), store.nodeIndex.erase nodeId⟩) ∨
    ((∀ bond, store.bonds.get? (operatorAddress, nodeId) = some bond → bond.isActive = false) ∧
      (store.withdraw operatorAddress nodeId epoch).2 = store) := by
  unfold withdraw
  cases store.bonds.get? (operatorAddress, nodeId) with
  | none => simp
  | some bond =>
      cases active : bond.isActive with
      | false => simp [active]
      | true => simp [active]

theorem withdraw_agrees_iff (agrees : Agrees store) (operatorAddress : String) (nodeId : Bytes32)
    (epoch : U64) :
    Agrees (store.withdraw operatorAddress nodeId epoch).2 ↔
      store.Unshared (.withdraw operatorAddress nodeId epoch) := by
  obtain ⟨bond, found, active, -, left⟩ | ⟨inactive, kept⟩ :=
    withdraw_cases store operatorAddress nodeId epoch
  · have names : bond.key = (operatorAddress, nodeId) := store.bonds.key_of_get? found
    rw [left, agrees_iff]
    constructor
    · intro finds own _ _ other held here otherActive
      -- The index is empty at the node, so a second active bond would be missed.
      by_contra another
      have missed := finds nodeId ⟨other, ?_, here, otherActive⟩
      · rw [hasActiveBond, BTree.getElem?_erase, if_pos rfl] at missed
        cases missed
      · rw [KeyedMap.get?_insert, if_neg]
        · exact held
        · intro same
          exact another (congrArg Prod.fst (same.symm.trans names))
    · intro alone other bonded
      by_cases here : nodeId = other
      · subst here
        obtain ⟨rest, held, restNode, restActive⟩ := bonded
        rw [KeyedMap.get?_insert] at held
        split at held
        · cases held
          cases restActive
        · rename_i different
          have operator := alone bond found active rest held restNode restActive
          exact absurd (names.trans (Prod.ext operator restNode).symm) different
      · have away : (bond.withdraw epoch).nodeId ≠ other := by
          rw [show (bond.withdraw epoch).nodeId = nodeId from congrArg Prod.snd names]
          exact here
        have same := @sameAt_insert store _ (store.nodeIndex.erase nodeId) other away
          (by rw [BTree.getElem?_erase, if_neg here])
        rw [same.hasActiveBond]
        exact agrees_iff.1 agrees other (same.bonded bonded)
  · rw [kept]
    refine iff_of_true agrees ?_
    intro own held active
    rw [inactive own held] at active
    cases active

theorem loadFromChain_append (bonds : List OperatorBond) (bond : OperatorBond) :
    loadFromChain (bonds ++ [bond]) = (loadFromChain bonds).load bond := by
  rw [loadFromChain, List.foldl_append]
  rfl

theorem loadFromChain_bonds (bonds : List OperatorBond) (key : String × Bytes32) :
    (loadFromChain bonds).bonds.get? key = lastRecord bonds key := by
  induction bonds using List.reverseRecOn with
  | nil => simp [loadFromChain, new, lastRecord]
  | append_singleton bonds bond ih =>
      rw [loadFromChain_append, load, KeyedMap.get?_insert, ih]
      simp only [lastRecord, List.reverse_append, List.reverse_singleton, List.singleton_append,
        List.find?_cons]
      by_cases here : bond.key = key
      · simp [here]
      · simp [here]

theorem loadFromChain_index (bonds : List OperatorBond) (nodeId : Bytes32) :
    (loadFromChain bonds).nodeIndex[nodeId]? = (lastActive bonds nodeId).map (·.operatorAddress) := by
  induction bonds using List.reverseRecOn with
  | nil => simp [loadFromChain, new, lastActive]
  | append_singleton bonds bond ih =>
      rw [loadFromChain_append, load]
      simp only [lastActive, List.reverse_append, List.reverse_singleton, List.singleton_append,
        List.find?_cons]
      cases active : bond.isActive with
      | false => simpa [lastActive] using ih
      | true =>
          simp only [if_true, BTree.getElem?_insert, ih]
          by_cases here : bond.nodeId = nodeId
          · simp [here]
          · simp [here, lastActive]

theorem lastActive_some {bonds : List OperatorBond} {nodeId : Bytes32} {bond : OperatorBond}
    (found : lastActive bonds nodeId = some bond) : bond.nodeId = nodeId ∧ bond.isActive = true := by
  simpa using List.find?_some found

theorem loadFromChain_agrees_iff (bonds : List OperatorBond) :
    Agrees (loadFromChain bonds) ↔ store.Unshared (.loadFromChain bonds) := by
  rw [agrees_iff]
  constructor
  · intro finds other held active indexed found
    obtain ⟨shown, reached, shownActive⟩ := hasActiveBond_iff.1
      (finds other.nodeId ⟨other, (loadFromChain_bonds bonds other.key).trans held, rfl, active⟩)
    rw [getByNode, loadFromChain_index, found, Option.map_some, Option.bind_some,
      loadFromChain_bonds] at reached
    refine ⟨shown, ?_, shownActive⟩
    rw [OperatorBond.key, (lastActive_some found).1, reached]
  · intro unshared nodeId bonded
    obtain ⟨other, held, rfl, active⟩ := bonded
    rw [loadFromChain_bonds] at held
    -- The record is in the list, so the node has a last active one.
    have listed : other ∈ bonds := List.mem_reverse.1 (List.mem_of_find?_eq_some held)
    have indexedSome : (lastActive bonds other.nodeId).isSome := by
      rw [lastActive, List.find?_isSome]
      exact ⟨other, List.mem_reverse.2 listed, by simp [active]⟩
    obtain ⟨indexed, found⟩ := Option.isSome_iff_exists.1 indexedSome
    obtain ⟨shown, reached, shownActive⟩ := unshared other held active indexed found
    rw [hasActiveBond_iff]
    refine ⟨shown, ?_, shownActive⟩
    rw [getByNode, loadFromChain_index, found, Option.map_some, Option.bind_some, loadFromChain_bonds]
    rw [OperatorBond.key, (lastActive_some found).1] at reached
    exact reached

theorem perform_refused {call : Call} {e : BondError} (failed : (store.perform call).1 = .error e) :
    store.step call = store := by
  cases call with
  | declare operatorAddress nodeId bondAmount bondDenom epoch =>
      obtain ⟨made, -⟩ | kept := declare_cases store operatorAddress nodeId bondAmount bondDenom epoch
      · cases failed.symm.trans made
      · exact kept
  | withdraw operatorAddress nodeId epoch =>
      obtain ⟨-, -, -, made, -⟩ | ⟨-, kept⟩ := withdraw_cases store operatorAddress nodeId epoch
      · cases failed.symm.trans made
      · exact kept
  | loadFromChain bonds => cases failed

theorem upheld_iff_unshared (agrees : Agrees store) (call : Call) :
    store.Upheld call ↔ store.Unshared call := by
  have kept : store.Upheld call ↔ Agrees (store.step call) := by
    refine ⟨Upheld.agrees, ?_⟩
    intro after
    exact ⟨after, fun e failed => perform_refused failed⟩
  rw [kept]
  cases call with
  | declare operatorAddress nodeId bondAmount bondDenom epoch =>
      exact iff_of_true (declare_agrees agrees operatorAddress nodeId bondAmount bondDenom epoch) trivial
  | withdraw operatorAddress nodeId epoch =>
      exact withdraw_agrees_iff agrees operatorAddress nodeId epoch
  | loadFromChain bonds => exact loadFromChain_agrees_iff bonds

end Steps

theorem agrees_new : Agrees new := by
  rw [agrees_iff]
  intro nodeId bonded
  obtain ⟨bond, held, -⟩ := bonded
  simp [new] at held

/-- Over every run the index agrees with the bonds, and refused calls change nothing, exactly when no
bond is withdrawn or loaded under another active one of its node. -/
theorem run_agrees_iff_unshared (calls : List Call) :
    Run.Along step Upheld new calls ↔ Run.Along step Unshared new calls := by
  refine Run.along_congr ?_ ?_ agrees_new calls
  · intro store call agrees
    exact upheld_iff_unshared agrees call
  · intro store call _ upheld
    exact upheld.agrees

def sharedNode : List Call :=
  [.declare "operator-a" 7 100 "uomni" 1, .declare "operator-b" 7 100 "uomni" 1,
    .withdraw "operator-a" 7 2]

theorem shared_node_forgotten : ¬ Run.Along step Upheld new sharedNode := by
  intro upheld
  have bonded := (upheld.2.2.1.agrees.exact 7).2
    ⟨.new "operator-b" 7 100 "uomni" 1, by decide +kernel, rfl, rfl⟩
  exact absurd bonded (by decide +kernel)

end BondingStore

end Omniphi.PoSeq
