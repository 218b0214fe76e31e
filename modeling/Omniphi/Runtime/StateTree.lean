import Omniphi.Lib.Merkle
import Omniphi.Encoding
import Omniphi.Runtime.Objects

/-! The Merkle tree over the objects of the ledger. The first byte of what is hashed tells leaves and
inner nodes apart. -/

namespace Omniphi.Runtime

structure ProofNode where
  hash : Bytes32
  isLeft : Bool
deriving DecidableEq

structure MerkleProof where
  key : Bytes32
  valueHash : Bytes32
  path : List ProofNode
  root : Bytes32
deriving DecidableEq

structure MerkleTree where
  leaves : List (Bytes32 × Bytes32)
  levels : List (List Bytes32)
  root : Bytes32
deriving DecidableEq

namespace MerkleTree

def emptyLeaf : Bytes := strBytes "OMNIPHI_EMPTY_LEAF"

def leafPreimage (entry : Bytes32 × Bytes32) : Bytes := 0x00 :: (beBytes 32 entry.1 ++ beBytes 32 entry.2)

def internalPreimage (pair : Bytes32 × Bytes32) : Bytes := 0x01 :: (beBytes 32 pair.1 ++ beBytes 32 pair.2)

section Trees

variable (sha256 : Sha256)

def emptyLeafHash : Bytes32 := sha256 emptyLeaf

def hashLeaf (key valueHash : Bytes32) : Bytes32 := sha256 (leafPreimage (key, valueHash))

def hashInternal (left right : Bytes32) : Bytes32 := sha256 (internalPreimage (left, right))

def nextLevel : List Bytes32 → List Bytes32
  | left :: right :: rest => hashInternal sha256 left right :: nextLevel rest
  | [last] => [hashInternal sha256 last last]
  | [] => []

/-- A level has half the length of the one below it, so the number of leaves is fuel enough. -/
def levelsFrom : Nat → List Bytes32 → List (List Bytes32)
  | 0, current => [current]
  | fuel + 1, current =>
      if current.length = 1 then [current] else current :: levelsFrom fuel (nextLevel sha256 current)

def leafHashes (entries : List (Bytes32 × Bytes32)) : List Bytes32 :=
  entries.map fun entry => hashLeaf sha256 entry.1 entry.2

def build (entries : List (Bytes32 × Bytes32)) : MerkleTree :=
  if entries.isEmpty then
    { leaves := [], levels := [[emptyLeafHash sha256]], root := emptyLeafHash sha256 }
  else
    let levels := levelsFrom sha256 entries.length (leafHashes sha256 entries)
    { leaves := (entries.zip (leafHashes sha256 entries)).map fun item => (item.1.1, item.2)
      levels
      root := (levels.getLast?.bind List.head?).getD 0 }

end Trees

def siblingHash (level : List Bytes32) (idx : Nat) : Bytes32 :=
  let siblingIdx := if idx % 2 = 0 then idx + 1 else idx - 1
  if siblingIdx < level.length then level.getD siblingIdx 0 else level.getD idx 0

def pathFrom : List (List Bytes32) → Nat → List ProofNode
  | [], _ => []
  | level :: above, idx => ⟨siblingHash level idx, idx % 2 = 1⟩ :: pathFrom above (idx / 2)

/-- The caller has to fill in the hash of the value. -/
def prove (tree : MerkleTree) (index : Nat) : Option MerkleProof :=
  if tree.leaves.length ≤ index then none
  else some
    { key := (tree.leaves.getD index (0, 0)).1
      valueHash := 0
      path := pathFrom tree.levels.dropLast index
      root := tree.root }

end MerkleTree

open MerkleTree in
def MerkleProof.verify (sha256 : Sha256) (proof : MerkleProof) : Bool :=
  proof.path.foldl
    (fun current node =>
      if node.isLeft then hashInternal sha256 node.hash current else hashInternal sha256 current node.hash)
    (hashLeaf sha256 proof.key proof.valueHash) = proof.root

def merkleEntries (sha256 : Sha256) (encode : BoxedObject → Bytes) (objects : BTreeMap ObjectId BoxedObject) :
    List (Bytes32 × Bytes32) :=
  objects.toList.map fun entry => (entry.1, sha256 (encode entry.2))

def computeMerkleRoot (sha256 : Sha256) (encode : BoxedObject → Bytes)
    (objects : BTreeMap ObjectId BoxedObject) : MerkleTree × Bytes32 :=
  let tree := MerkleTree.build sha256 (merkleEntries sha256 encode objects)
  (tree, tree.root)

namespace MerkleTree

variable {sha256 : Sha256}

def node (sha256 : Sha256) (pair : Bytes32 × Bytes32) : Bytes32 := sha256 (internalPreimage pair)

def stepOf (node : ProofNode) : Merkle.Step Bytes32 := ⟨node.hash, node.isLeft⟩

section Levels

theorem nextLevel_eq (level : List Bytes32) :
    nextLevel sha256 level = Merkle.parents (node sha256) level := by
  unfold Merkle.parents
  induction level using nextLevel.induct with
  | case1 left right rest ih => simp [nextLevel, Merkle.pairs_pad_cons_cons, ih, node, hashInternal]
  | case2 last => simp [nextLevel, Merkle.pairs_pad_singleton, node, hashInternal]
  | case3 => simp [nextLevel, Merkle.pairs_pad_nil]

theorem levelsFrom_eq (fuel : Nat) {level : List Bytes32} (filled : level ≠ []) :
    levelsFrom sha256 fuel level = Merkle.layers (node sha256) fuel level := by
  have positive := List.length_pos_iff.2 filled
  induction fuel generalizing level with
  | zero => rfl
  | succ fuel ih =>
      by_cases long : 1 < level.length
      · have above : Merkle.parents (node sha256) level ≠ [] := Merkle.parents_ne_nil filled
        rw [levelsFrom, if_neg (Nat.ne_of_gt long), Merkle.layers, if_pos long, nextLevel_eq,
          ih above (List.length_pos_iff.2 above)]
      · rw [levelsFrom, if_pos (by omega), Merkle.layers, if_neg long]

end Levels

section Proofs

theorem getD_pad {level : List Bytes32} {i : Nat} (inside : i < level.length) :
    (Merkle.pad level).getD i default = level.getD i 0 := by
  rw [List.getD_eq_getElem?_getD, List.getD_eq_getElem?_getD, Merkle.getElem?_pad inside]
  rfl

theorem sibling_siblingOf {level : List Bytes32} {idx : Nat} (inside : idx < level.length) :
    (Merkle.siblingOf level idx).sibling = siblingHash level idx := by
  have size := Merkle.length_pad level
  unfold Merkle.siblingOf siblingHash
  dsimp only
  by_cases even : idx % 2 = 0
  · rw [if_pos even, Nat.min_eq_left (by omega)]
    by_cases next : idx + 1 < level.length
    · rw [if_pos next, getD_pad next]
    · -- The level is filled up with its last digest.
      obtain rfl : idx = level.length - 1 := by omega
      have odd : ¬ level.length % 2 = 0 := by omega
      have past : level.length - 1 + 1 = level.length := by omega
      rw [if_neg next, past, Merkle.pad, if_neg odd, List.getLast?_eq_getElem?,
        List.getElem?_eq_getElem inside]
      simp [inside]
  · rw [if_neg even, Nat.min_eq_left (by omega), if_pos (by omega), getD_pad (by omega)]

theorem stepOf_siblingHash {level : List Bytes32} {idx : Nat} (inside : idx < level.length) :
    stepOf ⟨siblingHash level idx, idx % 2 = 1⟩ = Merkle.siblingOf level idx := by
  have side : decide (idx % 2 = 1) = decide (idx % 2 ≠ 0) := by simp
  rw [stepOf, ← sibling_siblingOf inside, side]
  rfl

theorem map_pathFrom (fuel : Nat) {level : List Bytes32} {idx : Nat} (inside : idx < level.length) :
    (pathFrom (Merkle.layers (node sha256) fuel level).dropLast idx).map stepOf =
      Merkle.siblings (Merkle.layers (node sha256) fuel level).dropLast idx := by
  induction fuel generalizing level idx with
  | zero => rfl
  | succ fuel ih =>
      unfold Merkle.layers
      split
      · have half : idx / 2 < (Merkle.parents (node sha256) level).length := by
          rw [Merkle.length_parents]
          omega
        rw [List.dropLast_cons_of_ne_nil (Merkle.layers_ne_nil (node sha256) fuel _), pathFrom, List.map_cons,
          stepOf_siblingHash inside, ih half]
        rfl
      · rfl

theorem verify_eq (proof : MerkleProof) :
    proof.verify sha256 = decide (Merkle.climb (node sha256) (hashLeaf sha256 proof.key proof.valueHash)
      (proof.path.map stepOf) = proof.root) := by
  rw [Merkle.climb, List.foldl_map]
  unfold MerkleProof.verify
  congr 3
  funext current sibling
  unfold Merkle.Step.pair stepOf
  cases sibling.isLeft <;> rfl

theorem build_of_ne_nil {entries : List (Bytes32 × Bytes32)} (filled : entries ≠ []) :
    build sha256 entries =
      { leaves := (entries.zip (leafHashes sha256 entries)).map fun item => (item.1.1, item.2)
        levels := Merkle.layers (node sha256) entries.length (leafHashes sha256 entries)
        root := (Merkle.root? (node sha256) entries.length (leafHashes sha256 entries)).getD 0 } := by
  have filled' : leafHashes sha256 entries ≠ [] := by simpa [leafHashes] using filled
  have stocked : ¬ entries.isEmpty = true := by simpa using filled
  rw [build, if_neg stocked]
  dsimp only
  rw [levelsFrom_eq entries.length filled']
  rfl

theorem length_leafHashes (entries : List (Bytes32 × Bytes32)) :
    (leafHashes sha256 entries).length = entries.length := List.length_map _

theorem prove_verifies {entries : List (Bytes32 × Bytes32)} {index : Nat} {entry : Bytes32 × Bytes32}
    (found : entries[index]? = some entry) :
    ∃ proof, (build sha256 entries).prove index = some proof ∧ proof.key = entry.1 ∧
      proof.root = (build sha256 entries).root ∧
      { proof with valueHash := entry.2 }.verify sha256 = true := by
  obtain ⟨inside, -⟩ := List.getElem?_eq_some_iff.1 found
  have filled : entries ≠ [] := List.ne_nil_of_length_pos (Nat.zero_lt_of_lt inside)
  have hashed : (leafHashes sha256 entries)[index]? = some (hashLeaf sha256 entry.1 entry.2) := by
    rw [leafHashes, List.getElem?_map, found, Option.map_some]
  have size : (build sha256 entries).leaves.length = entries.length := by
    simp [build_of_ne_nil filled, leafHashes]
  have paired : (entries.zip (leafHashes sha256 entries))[index]? =
      some (entry, hashLeaf sha256 entry.1 entry.2) := List.getElem?_zip_eq_some.2 ⟨found, hashed⟩
  have named : ((build sha256 entries).leaves.getD index (0, 0)).1 = entry.1 := by
    simp [build_of_ne_nil filled, List.getD_eq_getElem?_getD, paired]
  have enough : (leafHashes sha256 entries).length ≤ 2 ^ entries.length := by
    rw [length_leafHashes]
    exact Nat.le_of_lt Nat.lt_two_pow_self
  have top := Merkle.climb_siblings (node sha256) enough hashed
  rw [prove, if_neg (by omega)]
  refine ⟨_, rfl, named, rfl, ?_⟩
  rw [verify_eq, decide_eq_true_eq]
  dsimp only
  rw [named, build_of_ne_nil filled, map_pathFrom, Merkle.root?, top]
  · rfl
  · rwa [length_leafHashes]

end Proofs

section Determination

def preimages (sha256 : Sha256) (entries : List (Bytes32 × Bytes32)) : List Bytes :=
  if entries.isEmpty then [emptyLeaf]
  else
    entries.map leafPreimage ++
      (Merkle.treePairs (node sha256) entries.length (leafHashes sha256 entries)).map internalPreimage

def Increasing (entries : List (Bytes32 × Bytes32)) : Prop :=
  entries.Pairwise fun entry later => entry.1 < later.1

instance (entries : List (Bytes32 × Bytes32)) : Decidable (Increasing entries) :=
  inferInstanceAs (Decidable (entries.Pairwise fun entry later => entry.1 < later.1))

section Preimages

theorem digests_injective :
    Function.Injective fun pair : Bytes32 × Bytes32 => beBytes 32 pair.1 ++ beBytes 32 pair.2 :=
  (PrefixCode.IsPrefixCode.pair (beBytes_code (by decide)) (beBytes_code (by decide))).injective

theorem leafPreimage_injective : Function.Injective leafPreimage := by
  intro entry other same
  exact digests_injective (List.cons.inj same).2

theorem internalPreimage_injective : Function.Injective internalPreimage := by
  intro pair other same
  exact digests_injective (List.cons.inj same).2

theorem leafPreimage_ne (entry pair : Bytes32 × Bytes32) : leafPreimage entry ≠ internalPreimage pair := by
  intro same
  exact absurd (List.cons.inj same).1 (by decide)

theorem emptyLeaf_length : emptyLeaf.length = 18 := by
  decide +kernel

theorem emptyLeaf_ne (tag : UInt8) (pair : Bytes32 × Bytes32) :
    emptyLeaf ≠ tag :: (beBytes 32 pair.1 ++ beBytes 32 pair.2) := by
  intro same
  have lengths := congrArg List.length same
  rw [emptyLeaf_length] at lengths
  simp at lengths

end Preimages

theorem preimages_of_ne_nil {entries : List (Bytes32 × Bytes32)} (filled : entries ≠ []) :
    preimages sha256 entries = entries.map leafPreimage ++
      (Merkle.treePairs (node sha256) entries.length (leafHashes sha256 entries)).map internalPreimage := by
  rw [preimages, if_neg (by simpa using filled)]

variable {entries entries' : List (Bytes32 × Bytes32)} {inputs : List Bytes}

def Combined (inputs : List Bytes) (pair : Bytes32 × Bytes32) : Prop := internalPreimage pair ∈ inputs

def IsLeaf (sha256 : Sha256) (inputs : List Bytes) (digest : Bytes32) : Prop :=
  ∃ entry, leafPreimage entry ∈ inputs ∧ digest = sha256 (leafPreimage entry)

theorem separating (free : CollisionFree sha256 inputs) :
    Merkle.Separating (node sha256) (Combined inputs) (IsLeaf sha256 inputs) where
  injective pair listed other listed' same := internalPreimage_injective (free _ listed _ listed' same)
  apart := by
    rintro _ ⟨entry, hashed, rfl⟩ pair listed same
    exact leafPreimage_ne entry pair (free _ hashed _ listed same)

theorem eq_of_hashLeaf (free : CollisionFree sha256 inputs) {entry other : Bytes32 × Bytes32}
    (hashed : leafPreimage entry ∈ inputs) (hashed' : leafPreimage other ∈ inputs)
    (same : hashLeaf sha256 entry.1 entry.2 = hashLeaf sha256 other.1 other.2) : entry = other :=
  leafPreimage_injective (free _ hashed _ hashed' same)

theorem leaf_mem (filled : entries ≠ []) (within : preimages sha256 entries ⊆ inputs) :
    ∀ entry ∈ entries, leafPreimage entry ∈ inputs := by
  intro entry member
  apply within
  rw [preimages_of_ne_nil filled]
  exact List.mem_append_left _ (List.mem_map_of_mem member)

theorem bottomLayer (free : CollisionFree sha256 inputs) (filled : entries ≠ []) (distinct : entries.Nodup)
    (within : preimages sha256 entries ⊆ inputs) :
    Merkle.Layer (node sha256) (Combined inputs) (IsLeaf sha256 inputs) entries.length 0
      (leafHashes sha256 entries) := by
  have hashed := leaf_mem filled within
  constructor
  · rw [length_leafHashes]
    exact Nat.le_of_lt Nat.lt_two_pow_self
  · apply List.Nodup.map_on _ distinct
    intro entry member other member' same
    exact eq_of_hashLeaf free (hashed entry member) (hashed other member') same
  · intro pair member
    apply within
    rw [preimages_of_ne_nil filled]
    exact List.mem_append_right _ (List.mem_map_of_mem member)
  · intro digest member
    obtain ⟨entry, listed, rfl⟩ := List.mem_map.1 member
    exact .leaf ⟨entry, hashed entry listed, rfl⟩

theorem root_ne_empty (free : CollisionFree sha256 inputs) (sentinel : emptyLeaf ∈ inputs)
    (filled : entries ≠ []) (distinct : entries.Nodup) (within : preimages sha256 entries ⊆ inputs) :
    (build sha256 entries).root ≠ emptyLeafHash sha256 := by
  have filled' : leafHashes sha256 entries ≠ [] := by simpa [leafHashes] using filled
  obtain ⟨root, above, top, height, -⟩ :=
    (bottomLayer free filled distinct within).height_root? (separating free) filled'
  rw [build_of_ne_nil filled, top]
  apply Ne.symm
  apply height.digest_ne
  · rintro _ ⟨entry, hashed, rfl⟩ same
    exact emptyLeaf_ne _ entry (free _ sentinel _ hashed same)
  · intro pair listed same
    exact emptyLeaf_ne _ pair (free _ sentinel _ listed same)

theorem entries_eq (free : CollisionFree sha256 inputs) (distinct : entries.Nodup) (distinct' : entries'.Nodup)
    (within : preimages sha256 entries ⊆ inputs) (within' : preimages sha256 entries' ⊆ inputs)
    (same : (build sha256 entries).root = (build sha256 entries').root) : entries = entries' := by
  have sentinel {entries : List (Bytes32 × Bytes32)} (within : preimages sha256 entries ⊆ inputs)
      (empty : entries = []) : emptyLeaf ∈ inputs := within (empty ▸ List.mem_singleton_self _)
  by_cases filled : entries = []
  · by_cases filled' : entries' = []
    · rw [filled, filled']
    · rw [filled] at same
      exact absurd same.symm (root_ne_empty free (sentinel within filled) filled' distinct' within')
  · by_cases filled' : entries' = []
    · rw [filled'] at same
      exact absurd same (root_ne_empty free (sentinel within' filled') filled distinct within)
    · have bottom := bottomLayer free filled distinct within
      have bottom' := bottomLayer free filled' distinct' within'
      have hashes : leafHashes sha256 entries ≠ [] := by simpa [leafHashes] using filled
      have hashes' : leafHashes sha256 entries' ≠ [] := by simpa [leafHashes] using filled'
      obtain ⟨root, -, top, -⟩ := bottom.height_root? (separating free) hashes
      obtain ⟨root', -, top', -⟩ := bottom'.height_root? (separating free) hashes'
      rw [build_of_ne_nil filled, build_of_ne_nil filled', top, top'] at same
      have roots : root = root' := same
      have layers := bottom.eq_of_root? (separating free) bottom' hashes hashes' (by rw [top, top', roots])
      exact Merkle.eq_of_map (fun entry hashed other hashed' => eq_of_hashLeaf free hashed hashed')
        (leaf_mem filled within) (leaf_mem filled' within') layers

theorem nodup_of_increasing (increasing : Increasing entries) : entries.Nodup := by
  apply increasing.imp
  rintro entry _ less rfl
  exact BitVec.lt_irrefl _ less

end Determination

section States

variable (encode : BoxedObject → Bytes) {objects objects' : BTreeMap ObjectId BoxedObject}

def statePreimages (sha256 : Sha256) (objects : BTreeMap ObjectId BoxedObject) : List Bytes :=
  objects.toList.map (fun entry => encode entry.2) ++ preimages sha256 (merkleEntries sha256 encode objects)

theorem increasing_merkleEntries : Increasing (merkleEntries sha256 encode objects) := by
  rw [Increasing, merkleEntries, List.pairwise_map]
  exact (Std.ExtTreeMap.ordered_keys_toList (t := objects)).imp compareOfLessAndEq_eq_lt.1

variable {encode} {inputs : List Bytes}

theorem encoding_mem (within : statePreimages encode sha256 objects ⊆ inputs) {id : ObjectId}
    {object : BoxedObject} (listed : (id, object) ∈ objects.toList) : encode object ∈ inputs :=
  within (List.mem_append_left _ (List.mem_map.2 ⟨(id, object), listed, rfl⟩))

theorem encoding_of_entries (free : CollisionFree sha256 inputs)
    (within : statePreimages encode sha256 objects ⊆ inputs)
    (within' : statePreimages encode sha256 objects' ⊆ inputs)
    (same : merkleEntries sha256 encode objects = merkleEntries sha256 encode objects') {id : ObjectId}
    {object : BoxedObject} (held : objects[id]? = some object) :
    objects'[id]?.map encode = some (encode object) := by
  have listed : (id, object) ∈ objects.toList := Std.ExtTreeMap.mem_toList_iff_getElem?_eq_some.2 held
  have entered : (id, sha256 (encode object)) ∈ merkleEntries sha256 encode objects' := by
    rw [← same]
    exact List.mem_map.2 ⟨(id, object), listed, rfl⟩
  obtain ⟨⟨id', object'⟩, listed', equal⟩ := List.mem_map.1 entered
  obtain ⟨rfl, digest⟩ := Prod.mk.inj equal
  rw [Std.ExtTreeMap.mem_toList_iff_getElem?_eq_some.1 listed', Option.map_some]
  exact congrArg some (free _ (encoding_mem within' listed') _ (encoding_mem within listed) digest)

theorem encodings_eq (free : CollisionFree sha256 inputs)
    (within : statePreimages encode sha256 objects ⊆ inputs)
    (within' : statePreimages encode sha256 objects' ⊆ inputs)
    (same : (computeMerkleRoot sha256 encode objects).2 = (computeMerkleRoot sha256 encode objects').2)
    (id : ObjectId) : objects[id]?.map encode = objects'[id]?.map encode := by
  have entries : merkleEntries sha256 encode objects = merkleEntries sha256 encode objects' :=
    entries_eq free (nodup_of_increasing (increasing_merkleEntries encode))
      (nodup_of_increasing (increasing_merkleEntries encode))
      (fun _ member => within (List.mem_append_right _ member))
      (fun _ member => within' (List.mem_append_right _ member)) same
  cases held : objects[id]? with
  | some object => exact (encoding_of_entries free within within' entries held).symm
  | none =>
      cases held' : objects'[id]? with
      | none => rfl
      | some object =>
          have back := encoding_of_entries free within' within entries.symm held'
          rw [held] at back
          cases back

end States

/-- Once the caller has filled in the value, the proof of every leaf verifies; the root determines the
leaves, and so the ids of a state and what is encoded under each. -/
theorem state_root_determines_state (sha256 : Sha256) :
    (∀ entries : List (Bytes32 × Bytes32), ∀ index entry, entries[index]? = some entry →
      ∃ proof, (build sha256 entries).prove index = some proof ∧ proof.key = entry.1 ∧
        proof.root = (build sha256 entries).root ∧
        { proof with valueHash := entry.2 }.verify sha256 = true) ∧
    (∀ entries entries', Increasing entries → Increasing entries' →
      CollisionFree sha256 (preimages sha256 entries ++ preimages sha256 entries') →
      (build sha256 entries).root = (build sha256 entries').root → entries = entries') ∧
    ∀ (encode : BoxedObject → Bytes) (objects objects' : BTreeMap ObjectId BoxedObject),
      CollisionFree sha256
        (statePreimages encode sha256 objects ++ statePreimages encode sha256 objects') →
      (computeMerkleRoot sha256 encode objects).2 = (computeMerkleRoot sha256 encode objects').2 →
      ∀ id : ObjectId, objects[id]?.map encode = objects'[id]?.map encode := by
  refine ⟨fun entries index entry found => prove_verifies found, ?_, ?_⟩
  · intro entries entries' increasing increasing' free same
    exact entries_eq free (nodup_of_increasing increasing) (nodup_of_increasing increasing')
      (List.subset_append_left _ _) (List.subset_append_right _ _) same
  · intro encode objects objects' free same id
    exact encodings_eq free (List.subset_append_left _ _) (List.subset_append_right _ _) same id

section Examples

def threeEntries : List (Bytes32 × Bytes32) :=
  [(1#256 <<< 248, 1#256 <<< 248 ||| 0xff), (2#256 <<< 248, 2#256 <<< 248 ||| 0xff),
    (3#256 <<< 248, 3#256 <<< 248 ||| 0xff)]

def threeEntryDigests : Sha256 := fun input =>
  let first : Bytes32 := 0x736961805967c6a77e5daea72cd02a5d42ce02d60a8f0417ff6a351bbd1d5faa
  let second : Bytes32 := 0xad042079cc329faee04a792c2e1be4dee6a538e8fddfa4e6e035fa8325d29a41
  let third : Bytes32 := 0xf4412e09b9f20816d44798fab4777cd06c1946df91ae1588f3647f0aeb038fd7
  let left : Bytes32 := 0xc054205e49397f750461cff2d586f98831dc53cfef0b670da9a667b93517b981
  let right : Bytes32 := 0x262530691c52529fccb605f77253b25468c604492dada5b504d16997886f25f1
  if input = leafPreimage (1#256 <<< 248, 1#256 <<< 248 ||| 0xff) then first
  else if input = leafPreimage (2#256 <<< 248, 2#256 <<< 248 ||| 0xff) then second
  else if input = leafPreimage (3#256 <<< 248, 3#256 <<< 248 ||| 0xff) then third
  else if input = internalPreimage (first, second) then left
  else if input = internalPreimage (third, third) then right
  else if input = internalPreimage (left, right) then
    0xb42764788e6e36017e3a376b3f5788b50b87a64fffc0ba389710cfd4b108bbde
  else if input = leafPreimage (1#256 <<< 248, 0) then
    0xec817ca76a98978fd35c8a49070d06a35c30fe54b17747cef9a8ebdc3210a820
  else 0

/-- The third leaf is its own sibling. -/
theorem third_entry_proved :
    (∃ proof, (build threeEntryDigests threeEntries).prove 2 = some proof ∧ proof.key = 3#256 <<< 248 ∧
      proof.root = (build threeEntryDigests threeEntries).root ∧
      { proof with valueHash := 3#256 <<< 248 ||| 0xff }.verify threeEntryDigests = true) ∧
    (build threeEntryDigests (threeEntries.take 2)).root ≠ (build threeEntryDigests threeEntries).root :=
  ⟨(state_root_determines_state threeEntryDigests).1 threeEntries 2
      (3#256 <<< 248, 3#256 <<< 248 ||| 0xff) rfl,
    fun same => absurd ((state_root_determines_state threeEntryDigests).2.1 (threeEntries.take 2) threeEntries
      (by decide +kernel) (by decide +kernel) (by unfold CollisionFree; decide +kernel) same)
      (by decide +kernel)⟩

/-- As it is generated, the proof of a leaf is one for the value zero. -/
theorem generated_proof_fails :
    ∃ proof, (build threeEntryDigests (threeEntries.take 1)).prove 0 = some proof ∧
      CollisionFree threeEntryDigests
        (leafPreimage (proof.key, proof.valueHash) :: preimages threeEntryDigests (threeEntries.take 1)) ∧
      proof.verify threeEntryDigests = false :=
  ⟨⟨1#256 <<< 248, 0, [], 0x736961805967c6a77e5daea72cd02a5d42ce02d60a8f0417ff6a351bbd1d5faa⟩,
    by decide +kernel, by unfold CollisionFree; decide +kernel, by decide +kernel⟩

end Examples

end MerkleTree

end Omniphi.Runtime
