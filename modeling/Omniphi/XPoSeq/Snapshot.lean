import Omniphi.Encoding
import Omniphi.Hex
import Omniphi.Lib.KeyedMap

/-! Committee snapshots. The chain recomputes the hash of one before it stores it, and a node before it
imports it; the two write the hash out each for itself. -/

namespace Omniphi.XPoSeq

structure CommitteeSnapshotMember where
  nodeId : String
  publicKey : String
  moniker : String
  role : String
deriving DecidableEq

structure CommitteeSnapshot where
  epoch : U64
  members : List CommitteeSnapshotMember
  snapshotHash : Bytes
  producedAtBlock : Int
deriving DecidableEq

def rawNodeId (nodeId : String) : Option Bytes := do
  let bytes ← hexDecode nodeId
  if bytes.length ≠ 32 then none else some bytes

def CommitteeSnapshot.memberIds (snap : CommitteeSnapshot) : Option (List Bytes) :=
  snap.members.mapM fun member => rawNodeId member.nodeId

section Chain

variable (sha256 : Sha256)

/-- The first place where the two differ decides, and past the end of one of them their lengths. -/
def lessBytes : Bytes → Bytes → Bool
  | a :: as, b :: bs => if a ≠ b then decide (a < b) else lessBytes as bs
  | as, bs => decide (as.length < bs.length)

def computeCommitteeSnapshotHash (snap : CommitteeSnapshot) : Option Bytes32 := do
  let nodeIds ← snap.memberIds
  let nodeIds := nodeIds.insertionSort fun a b => lessBytes b a = false
  return sha256 (strBytes "committee_snapshot" ++ beBytes 8 snap.epoch ++
    beBytes 4 (BitVec.ofNat 32 nodeIds.length) ++ nodeIds.flatten)

def verifyCommitteeSnapshotHash (snap : CommitteeSnapshot) : Bool :=
  match computeCommitteeSnapshotHash sha256 snap with
  | none => false
  | some computed => decide (beBytes 32 computed = snap.snapshotHash)

inductive SnapshotError
  | invalidSnapshotEpoch
  | snapshotHashMismatch (text : String)
  | duplicateSnapshot (text : String)
deriving DecidableEq

abbrev CommitteeSnapshots := KeyedMap CommitteeSnapshot.epoch

def storeCommitteeSnapshot (stored : CommitteeSnapshots) (snap : CommitteeSnapshot) :
    Except SnapshotError CommitteeSnapshots :=
  if snap.epoch = 0 then .error .invalidSnapshotEpoch
  else if snap.snapshotHash.length ≠ 32 then
    .error (.snapshotHashMismatch "snapshot_hash must be 32 bytes")
  else if verifyCommitteeSnapshotHash sha256 snap = false then .error (.snapshotHashMismatch "")
  else if stored.contains snap.epoch then
    .error (.duplicateSnapshot ("epoch " ++ toString snap.epoch.toNat))
  else .ok (stored.insert snap)

end Chain

section Node

variable (sha256 : Sha256)

abbrev ChainCommitteeSnapshot := CommitteeSnapshot

namespace ChainCommitteeSnapshot

def hashInput (epoch : U64) (sortedNodeIds : List Bytes) : Bytes :=
  strBytes "committee_snapshot" ++ beBytes 8 epoch ++
    beBytes 4 (BitVec.ofNat 32 sortedNodeIds.length) ++ sortedNodeIds.flatten

def computeHash (epoch : U64) (sortedNodeIds : List Bytes) : Bytes32 :=
  sha256 (hashInput epoch sortedNodeIds)

def sortedMemberIds (snap : ChainCommitteeSnapshot) : Option (List Bytes) := do
  let ids ← snap.memberIds
  return ids.insertionSort (· ≤ ·)

def verifyHash (snap : ChainCommitteeSnapshot) : Bool :=
  match sortedMemberIds snap with
  | none => false
  | some ids =>
      if snap.snapshotHash.length ≠ 32 then false
      else decide (beBytes 32 (computeHash sha256 snap.epoch ids) = snap.snapshotHash)

end ChainCommitteeSnapshot

inductive SnapshotImportError
  | hashMismatch (epoch : U64)
  | duplicateEpoch (epoch : U64)
  | staleSnapshot (epoch : U64) (producedAt maxSeen : Int)
deriving DecidableEq

structure SnapshotImporter where
  snapshots : KeyedMap CommitteeSnapshot.epoch
  maxProducedAtBlock : Int

namespace SnapshotImporter

def new : SnapshotImporter := { snapshots := .empty, maxProducedAtBlock := 0 }

def importSnapshot (importer : SnapshotImporter) (snap : ChainCommitteeSnapshot) :
    Except SnapshotImportError SnapshotImporter :=
  if importer.snapshots.contains snap.epoch then .error (.duplicateEpoch snap.epoch)
  else if ChainCommitteeSnapshot.verifyHash sha256 snap = false then .error (.hashMismatch snap.epoch)
  else if 0 < snap.producedAtBlock ∧ snap.producedAtBlock < importer.maxProducedAtBlock then
    .error (.staleSnapshot snap.epoch snap.producedAtBlock importer.maxProducedAtBlock)
  else .ok
    { snapshots := importer.snapshots.insert snap
      maxProducedAtBlock := max importer.maxProducedAtBlock snap.producedAtBlock }

end SnapshotImporter

end Node

open ChainCommitteeSnapshot

section Agreement

theorem lessBytes_eq (a b : Bytes) : lessBytes a b = decide (a < b) := by
  induction a generalizing b with
  | nil => cases b <;> simp [lessBytes]
  | cons x a ih =>
      cases b with
      | nil => simp [lessBytes]
      | cons y b =>
          rw [lessBytes, ih]
          by_cases same : x = y
          · simp [same]
          · simp [same, List.cons_lt_cons_iff]

theorem insertionSort_congr {α : Type} {r s : α → α → Prop} [DecidableRel r] [DecidableRel s] (same : r = s)
    (items : List α) : items.insertionSort r = items.insertionSort s := by
  subst same
  congr

theorem sortedMemberIds_eq (snap : CommitteeSnapshot) :
    sortedMemberIds snap =
      snap.memberIds.map fun ids => ids.insertionSort fun a b => lessBytes b a = false := by
  have order : (fun a b : Bytes => a ≤ b) = fun a b => lessBytes b a = false := by
    funext a b
    rw [lessBytes_eq, decide_eq_false_iff_not, List.not_lt]
  have sorts : (fun ids : List Bytes => ids.insertionSort (· ≤ ·)) =
      fun ids => ids.insertionSort fun a b => lessBytes b a = false := by
    funext ids
    exact insertionSort_congr order ids
  rw [← sorts, Option.map_eq_bind]
  rfl

variable (sha256 : Sha256)

theorem computeCommitteeSnapshotHash_eq (snap : CommitteeSnapshot) :
    computeCommitteeSnapshotHash sha256 snap =
      (sortedMemberIds snap).map (computeHash sha256 snap.epoch) := by
  rw [sortedMemberIds_eq, Option.map_map, Option.map_eq_bind]
  rfl

theorem verifyHash_eq (snap : CommitteeSnapshot) :
    verifyHash sha256 snap = verifyCommitteeSnapshotHash sha256 snap := by
  rw [verifyHash, verifyCommitteeSnapshotHash, computeCommitteeSnapshotHash_eq]
  cases sortedMemberIds snap with
  | none => rfl
  | some ids =>
      by_cases full : snap.snapshotHash.length = 32
      · simp [full]
      · have other : beBytes 32 (computeHash sha256 snap.epoch ids) ≠ snap.snapshotHash := by
          intro same
          rw [← same, length_beBytes] at full
          exact full rfl
        simp [full, other]

end Agreement

section Binding

theorem length_of_rawNodeId {nodeId : String} {bytes : Bytes} (raw : rawNodeId nodeId = some bytes) :
    bytes.length = 32 := by
  obtain ⟨decoded, -, checked⟩ := Option.bind_eq_some_iff.1 raw
  split at checked
  · cases checked
  · rename_i full
    rw [← Option.some.inj checked]
    exact not_not.1 full

theorem length_of_mem_memberIds {members : List CommitteeSnapshotMember} {ids : List Bytes}
    (decoded : (members.mapM fun member => rawNodeId member.nodeId) = some ids) :
    ∀ id ∈ ids, id.length = 32 := by
  induction members generalizing ids with
  | nil =>
      cases decoded
      intro id member
      cases member
  | cons member members ih =>
      rw [List.mapM_cons] at decoded
      obtain ⟨id, raw, decoded⟩ := Option.bind_eq_some_iff.1 decoded
      obtain ⟨others, rest, decoded⟩ := Option.bind_eq_some_iff.1 decoded
      cases decoded
      intro other listed
      obtain rfl | listed := List.mem_cons.1 listed
      · exact length_of_rawNodeId raw
      · exact ih rest other listed

theorem flatten_injective {n : Nat} {words others : List Bytes} (pos : 0 < n)
    (even : ∀ word ∈ words, word.length = n) (even' : ∀ word ∈ others, word.length = n)
    (same : words.flatten = others.flatten) : words = others := by
  induction words generalizing others with
  | nil =>
      cases others with
      | nil => rfl
      | cons other others =>
          have long := even' other List.mem_cons_self
          rw [List.flatten_nil, List.flatten_cons] at same
          rw [(List.append_eq_nil_iff.1 same.symm).1, List.length_nil] at long
          exact absurd long pos.ne
  | cons word words ih =>
      have long := even word List.mem_cons_self
      cases others with
      | nil =>
          rw [List.flatten_nil, List.flatten_cons] at same
          rw [(List.append_eq_nil_iff.1 same).1, List.length_nil] at long
          exact absurd long pos.ne
      | cons other others =>
          have long' := even' other List.mem_cons_self
          rw [List.flatten_cons, List.flatten_cons] at same
          obtain ⟨first, rest⟩ := List.append_inj same (long.trans long'.symm)
          rw [first, ih (fun w member => even w (List.mem_cons_of_mem _ member))
            (fun w member => even' w (List.mem_cons_of_mem _ member)) rest]

theorem hashInput_injective {epoch epoch' : U64} {ids ids' : List Bytes}
    (even : ∀ id ∈ ids, id.length = 32) (even' : ∀ id ∈ ids', id.length = 32)
    (same : hashInput epoch ids = hashInput epoch' ids') : epoch = epoch' ∧ ids = ids' := by
  simp only [hashInput, List.append_assoc] at same
  have same := List.append_cancel_left same
  obtain ⟨epochs, same⟩ := beBytes_code (by decide) same
  obtain ⟨-, same⟩ := beBytes_code (by decide) same
  exact ⟨epochs, flatten_injective (by decide) even even' same⟩

/-- What of the snapshot is hashed, where its node ids can be read. -/
def CommitteeSnapshot.hashInputs (snap : CommitteeSnapshot) : List Bytes :=
  ((sortedMemberIds snap).map (hashInput snap.epoch)).toList

variable {sha256 : Sha256}

def Accepted (sha256 : Sha256) (snap : CommitteeSnapshot) : Prop :=
  (∃ stored after, storeCommitteeSnapshot sha256 stored snap = .ok after) ∨
    ∃ importer after, SnapshotImporter.importSnapshot sha256 importer snap = .ok after

theorem Accepted.verified {snap : CommitteeSnapshot} (accepted : Accepted sha256 snap) :
    verifyCommitteeSnapshotHash sha256 snap = true := by
  rcases accepted with ⟨stored, after, ok⟩ | ⟨importer, after, ok⟩
  · unfold storeCommitteeSnapshot at ok
    split at ok
    · cases ok
    split at ok
    · cases ok
    split at ok
    · cases ok
    · rename_i verified
      exact Bool.eq_true_of_not_eq_false verified
  · unfold SnapshotImporter.importSnapshot at ok
    split at ok
    · cases ok
    split at ok
    · cases ok
    · rename_i verified
      rw [← verifyHash_eq]
      exact Bool.eq_true_of_not_eq_false verified

theorem hash_of_verified {snap : CommitteeSnapshot}
    (verified : verifyCommitteeSnapshotHash sha256 snap = true) :
    ∃ ids, snap.memberIds = some ids ∧
      snap.snapshotHash = beBytes 32 (sha256 (hashInput snap.epoch (ids.insertionSort (· ≤ ·)))) ∧
      hashInput snap.epoch (ids.insertionSort (· ≤ ·)) ∈ snap.hashInputs := by
  rw [verifyCommitteeSnapshotHash, computeCommitteeSnapshotHash_eq] at verified
  unfold CommitteeSnapshot.hashInputs
  cases decoded : snap.memberIds with
  | none =>
      have none : sortedMemberIds snap = none := by rw [sortedMemberIds, decoded]; rfl
      rw [none] at verified
      cases verified
  | some ids =>
      have sorted : sortedMemberIds snap = some (ids.insertionSort (· ≤ ·)) := by
        rw [sortedMemberIds, decoded]
        rfl
      rw [sorted] at verified ⊢
      exact ⟨ids, rfl, (of_decide_eq_true verified).symm, List.mem_singleton_self _⟩

/-- The two name the same nodes of the same epoch, each node equally often. -/
structure SameNodes (first second : CommitteeSnapshot) : Prop where
  epoch : first.epoch = second.epoch
  nodes : ∃ ids ids', first.memberIds = some ids ∧ second.memberIds = some ids' ∧ ids.Perm ids'

theorem sameNodes_of_hash {first second : CommitteeSnapshot}
    (free : CollisionFree sha256 (first.hashInputs ++ second.hashInputs))
    (verified : verifyCommitteeSnapshotHash sha256 first = true)
    (verified' : verifyCommitteeSnapshotHash sha256 second = true)
    (same : first.snapshotHash = second.snapshotHash) : SameNodes first second := by
  obtain ⟨ids, decoded, hash, hashed⟩ := hash_of_verified verified
  obtain ⟨ids', decoded', hash', hashed'⟩ := hash_of_verified verified'
  rw [hash, hash'] at same
  have inputs := free _ (List.mem_append_left _ hashed) _ (List.mem_append_right _ hashed')
    (beBytes_injective (by decide) same)
  have even : ∀ id ∈ ids.insertionSort (· ≤ ·), id.length = 32 := by
    intro id member
    exact length_of_mem_memberIds decoded id ((List.mem_insertionSort _).1 member)
  have even' : ∀ id ∈ ids'.insertionSort (· ≤ ·), id.length = 32 := by
    intro id member
    exact length_of_mem_memberIds decoded' id ((List.mem_insertionSort _).1 member)
  obtain ⟨epochs, sorted⟩ := hashInput_injective even even' inputs
  refine ⟨epochs, ids, ids', decoded, decoded', ?_⟩
  calc ids.Perm (ids.insertionSort (· ≤ ·)) := (List.perm_insertionSort _ ids).symm
    _ = ids'.insertionSort (· ≤ ·) := sorted
    List.Perm _ ids' := List.perm_insertionSort _ ids'

end Binding

section Claims

/-- The two name the same nodes, none of them twice, and the same key for each. -/
structure SameCommittee (first second : CommitteeSnapshot) : Prop where
  nodes : SameNodes first second
  once : ∀ ids, first.memberIds = some ids → ids.Nodup
  keys : ∀ member ∈ first.members, ∀ other ∈ second.members,
    rawNodeId member.nodeId = rawNodeId other.nodeId →
      hexDecode member.publicKey = hexDecode other.publicKey

def zeroDigest : Sha256 := fun _ => 0

def memberOf (node key : UInt8) : CommitteeSnapshotMember :=
  { nodeId := hexEncode (List.replicate 32 node), publicKey := hexEncode (List.replicate 32 key)
    moniker := "", role := "Sequencer" }

def snapshotOf (members : List (UInt8 × UInt8)) : CommitteeSnapshot :=
  { epoch := 1, members := members.map fun pair => memberOf pair.1 pair.2
    snapshotHash := List.replicate 32 0, producedAtBlock := 1 }

theorem memberIds_snapshotOf (members : List (UInt8 × UInt8)) :
    (snapshotOf members).memberIds = some (members.map fun pair => List.replicate 32 pair.1) := by
  show (members.map fun pair => memberOf pair.1 pair.2).mapM (fun member => rawNodeId member.nodeId) = _
  induction members with
  | nil => rfl
  | cons pair members ih =>
      have raw : rawNodeId (memberOf pair.1 pair.2).nodeId = some (List.replicate 32 pair.1) := by
        simp [rawNodeId, memberOf]
      rw [List.map_cons, List.mapM_cons, raw, ih]
      rfl

theorem accepted_snapshotOf (members : List (UInt8 × UInt8)) : Accepted zeroDigest (snapshotOf members) := by
  have verified : verifyCommitteeSnapshotHash zeroDigest (snapshotOf members) = true := by
    rw [verifyCommitteeSnapshotHash, computeCommitteeSnapshotHash, memberIds_snapshotOf]
    exact decide_eq_true (by decide : beBytes 32 (0 : Bytes32) = List.replicate 32 0)
  refine .inl ⟨.empty, KeyedMap.empty.insert (snapshotOf members), ?_⟩
  unfold storeCommitteeSnapshot
  rw [verified]
  rfl

theorem free_snapshotOf {members others : List (UInt8 × UInt8)}
    (nodes : members.map Prod.fst = others.map Prod.fst) :
    CollisionFree zeroDigest ((snapshotOf members).hashInputs ++ (snapshotOf others).hashInputs) := by
  have same : (snapshotOf members).memberIds = (snapshotOf others).memberIds := by
    have lists := congrArg (List.map (List.replicate 32)) nodes
    rw [List.map_map, List.map_map] at lists
    rw [memberIds_snapshotOf, memberIds_snapshotOf]
    exact congrArg some lists
  have inputs : (snapshotOf members).hashInputs = (snapshotOf others).hashInputs := by
    rw [CommitteeSnapshot.hashInputs, CommitteeSnapshot.hashInputs, sortedMemberIds, sortedMemberIds, same]
    rfl
  rw [inputs, CommitteeSnapshot.hashInputs]
  intro a member b member' _
  cases held : (sortedMemberIds (snapshotOf others)).map (hashInput (snapshotOf others).epoch) with
  | none =>
      rw [held] at member
      cases member
  | some input =>
      rw [held] at member member'
      simp only [Option.toList_some, List.mem_append, List.mem_singleton, or_self] at member member'
      rw [member, member']

end Claims

end Omniphi.XPoSeq
