import Omniphi.Lib.Merkle
import Omniphi.Encoding

/-! Proofs of inclusion in the tree of finalized batches. Leaves and inner nodes go through the same hash;
what keeps them apart is the length of what is hashed. -/

namespace Omniphi.PoSeq

structure MerkleProof where
  leafHash : Bytes32
  path : List (Merkle.Step Bytes32)
  rootHash : Bytes32
deriving DecidableEq

section Trees

variable (sha256 : Sha256)

def nodePreimage (pair : Bytes32 × Bytes32) : Bytes := beBytes 32 pair.1 ++ beBytes 32 pair.2

def nodeHash (pair : Bytes32 × Bytes32) : Bytes32 := sha256 (nodePreimage pair)

def MerkleProof.verify (proof : MerkleProof) : Bool :=
  Merkle.climb (nodeHash sha256) proof.leafHash proof.path = proof.rootHash

def computeMerkleRoot (leaves : List Bytes32) : Bytes32 × List (List Bytes32) :=
  if leaves.isEmpty then (0, [])
  else
    let layers := Merkle.layers (nodeHash sha256) leaves.length leaves
    ((layers.getLast?.bind List.head?).getD 0, layers)

def generateProof (leaves : List Bytes32) (index : Nat) : Option MerkleProof :=
  if leaves.length ≤ index ∨ leaves.isEmpty then none
  else
    let (rootHash, layers) := computeMerkleRoot sha256 leaves
    some { leafHash := leaves.getD index 0, path := Merkle.siblings layers.dropLast index, rootHash }

end Trees

structure FinalityProof where
  batchId : Bytes32
  epoch : U64
  slot : U64
  finalizationHash : Bytes32
  inclusionProof : MerkleProof
  quorumApprovals : U64
  committeeSize : U64
deriving DecidableEq

structure FinalityLeaf where
  batchId : Bytes32
  finalizationHash : Bytes32
  epoch : U64
  slot : U64
deriving DecidableEq

def FinalityLeaf.preimage (leaf : FinalityLeaf) : Bytes :=
  beBytes 32 leaf.batchId ++ beBytes 32 leaf.finalizationHash ++ beBytes 8 leaf.epoch ++
    beBytes 8 leaf.slot

def finalityLeafHash (sha256 : Sha256) (leaf : FinalityLeaf) : Bytes32 := sha256 leaf.preimage

namespace FinalityProof

def leaf (proof : FinalityProof) : FinalityLeaf :=
  ⟨proof.batchId, proof.finalizationHash, proof.epoch, proof.slot⟩

def verify (sha256 : Sha256) (proof : FinalityProof) : Bool :=
  proof.inclusionProof.verify sha256 &&
    (sha256 proof.leaf.preimage = proof.inclusionProof.leafHash &&
      (proof.committeeSize * 2 + 2) / 3 ≤ proof.quorumApprovals)

end FinalityProof

section Results

variable (sha256 : Sha256) (batches : List FinalityLeaf)

def leafHashes : List Bytes32 := batches.map (finalityLeafHash sha256)

def treePreimages : List Bytes :=
  batches.map FinalityLeaf.preimage ++
    (Merkle.treePairs (nodeHash sha256) batches.length (leafHashes sha256 batches)).map nodePreimage

def FinalityProof.preimages (proof : FinalityProof) : List Bytes :=
  proof.leaf.preimage :: (Merkle.pathPairs (nodeHash sha256) proof.inclusionProof.leafHash
    proof.inclusionProof.path).map nodePreimage

/-- No digest of the tree is shared by another input of the proof, and none of the proof is zero. -/
structure Separates (proof : FinalityProof) : Prop where
  injective : ∀ input ∈ treePreimages sha256 batches, ∀ other ∈ proof.preimages sha256,
    sha256 input = sha256 other → input = other
  nonzero : ∀ input ∈ proof.preimages sha256, sha256 input ≠ 0

section Preimages

theorem length_nodePreimage (pair : Bytes32 × Bytes32) : (nodePreimage pair).length = 64 := by
  simp [nodePreimage]

theorem FinalityLeaf.length_preimage (leaf : FinalityLeaf) : leaf.preimage.length = 80 := by
  simp [FinalityLeaf.preimage]

theorem nodePreimage_ne (pair : Bytes32 × Bytes32) (leaf : FinalityLeaf) :
    nodePreimage pair ≠ leaf.preimage := by
  intro same
  have lengths := congrArg List.length same
  rw [length_nodePreimage, leaf.length_preimage] at lengths
  cases lengths

theorem nodePreimage_injective : Function.Injective nodePreimage :=
  (PrefixCode.IsPrefixCode.pair (beBytes_code (by decide)) (beBytes_code (by decide))).injective

theorem FinalityLeaf.preimage_injective : Function.Injective FinalityLeaf.preimage := by
  intro leaf other same
  unfold FinalityLeaf.preimage at same
  have words := @beBytes_code 8 64 (by decide)
  have digests := @beBytes_code 32 256 (by decide)
  simp only [List.append_assoc] at same
  obtain ⟨batchId, same⟩ := digests same
  obtain ⟨finalizationHash, same⟩ := digests same
  obtain ⟨epoch, same⟩ := words same
  have slot := words.injective same
  obtain ⟨_, _, _, _⟩ := leaf
  obtain ⟨_, _, _, _⟩ := other
  simp only at batchId finalizationHash epoch slot
  rw [batchId, finalizationHash, epoch, slot]

end Preimages

variable {sha256 batches}

theorem computeMerkleRoot_eq {leaves : List Bytes32} {index : Nat} {digest : Bytes32}
    (found : leaves[index]? = some digest) :
    computeMerkleRoot sha256 leaves =
      (Merkle.climb (nodeHash sha256) digest
        (Merkle.siblings (Merkle.layers (nodeHash sha256) leaves.length leaves).dropLast index),
        Merkle.layers (nodeHash sha256) leaves.length leaves) := by
  have filled : leaves.isEmpty = false := by
    cases leaves with
    | nil => simp at found
    | cons => rfl
  unfold computeMerkleRoot
  dsimp only
  rw [filled, Merkle.climb_siblings (nodeHash sha256) (Nat.le_of_lt Nat.lt_two_pow_self) found]
  rfl

theorem generateProof_verifies {leaves : List Bytes32} {index : Nat} (inside : index < leaves.length) :
    ∃ proof, generateProof sha256 leaves index = some proof ∧ leaves[index]? = some proof.leafHash ∧
      proof.rootHash = (computeMerkleRoot sha256 leaves).1 ∧ proof.verify sha256 = true := by
  have filled : leaves.isEmpty = false := by
    cases leaves with
    | nil => cases inside
    | cons => rfl
  have found : leaves[index]? = some (leaves.getD index 0) := by
    rw [List.getD_eq_getElem?_getD, List.getElem?_eq_getElem inside, Option.getD_some]
  have ready : ¬ (leaves.length ≤ index ∨ leaves.isEmpty = true) := by
    rw [filled]
    simp [inside]
  unfold generateProof
  rw [if_neg ready, computeMerkleRoot_eq found]
  exact ⟨_, rfl, found, rfl, decide_eq_true rfl⟩

theorem climb_eq_nodeHash {leaf : Bytes32} {path lower upper : List (Merkle.Step Bytes32)}
    (split : path = lower ++ upper) :
    lower = [] ∨ ∃ pair ∈ Merkle.pathPairs (nodeHash sha256) leaf path,
      Merkle.climb (nodeHash sha256) leaf lower = nodeHash sha256 pair := by
  rcases List.eq_nil_or_concat lower with none | ⟨before, step, rfl⟩
  · exact .inl none
  · refine .inr ⟨step.pair (Merkle.climb (nodeHash sha256) leaf before), ?_, ?_⟩
    · rw [split, List.concat_eq_append, List.append_assoc]
      exact Merkle.pair_mem_pathPairs before upper step
    · rw [List.concat_eq_append, Merkle.climb_append]
      rfl

namespace Separates

variable {proof : FinalityProof} (separates : Separates sha256 batches proof)

include separates

theorem node_ne_zero {pair : Bytes32 × Bytes32}
    (onPath : pair ∈ Merkle.pathPairs (nodeHash sha256) proof.inclusionProof.leafHash
      proof.inclusionProof.path) : nodeHash sha256 pair ≠ 0 :=
  separates.nonzero _ (List.mem_cons_of_mem _ (List.mem_map_of_mem onPath))

theorem climb_ne_zero (named : sha256 proof.leaf.preimage = proof.inclusionProof.leafHash) :
    Merkle.climb (nodeHash sha256) proof.inclusionProof.leafHash proof.inclusionProof.path ≠ 0 := by
  rcases @climb_eq_nodeHash sha256 proof.inclusionProof.leafHash _ _ []
      (List.append_nil proof.inclusionProof.path).symm with none | ⟨pair, onPath, reached⟩
  · rw [none, ← named]
    exact separates.nonzero _ List.mem_cons_self
  · rw [reached]
    exact separates.node_ne_zero onPath

theorem leaf_mem (named : sha256 proof.leaf.preimage = proof.inclusionProof.leafHash)
    (reached : Merkle.climb (nodeHash sha256) proof.inclusionProof.leafHash proof.inclusionProof.path =
      (computeMerkleRoot sha256 (leafHashes sha256 batches)).1) : proof.leaf ∈ batches := by
  have onLeaf := List.mem_cons_self (a := proof.leaf.preimage)
    (l := (Merkle.pathPairs (nodeHash sha256) proof.inclusionProof.leafHash
      proof.inclusionProof.path).map nodePreimage)
  cases first : (leafHashes sha256 batches)[0]? with
  | none =>
      have empty : leafHashes sha256 batches = [] := by simpa using first
      rw [empty] at reached
      exact absurd reached (separates.climb_ne_zero named)
  | some digest =>
      have size : (leafHashes sha256 batches).length = batches.length := List.length_map _
      have top := Merkle.climb_siblings (nodeHash sha256) (Nat.le_of_lt Nat.lt_two_pow_self) first
      rw [computeMerkleRoot_eq first] at reached
      dsimp only at reached
      rw [← reached, size] at top
      -- The leaf of the proof is no inner digest: what is hashed for it is longer.
      obtain ⟨lower, upper, split, member⟩ := Merkle.exists_prefix_of_climb top rfl
        (by
          intro pair inTree same
          have inTree := List.mem_append_right (batches.map FinalityLeaf.preimage)
            (List.mem_map_of_mem (f := nodePreimage) inTree)
          exact nodePreimage_ne pair proof.leaf
            (separates.injective _ inTree _ onLeaf (same.symm.trans named.symm)))
        (by
          intro pair inTree other onPath same
          have inTree := List.mem_append_right (batches.map FinalityLeaf.preimage)
            (List.mem_map_of_mem (f := nodePreimage) inTree)
          exact nodePreimage_injective (separates.injective _ inTree _
            (List.mem_cons_of_mem _ (List.mem_map_of_mem onPath)) same))
      obtain ⟨batch, listed, hashed⟩ := List.mem_map.1 member
      have inTree := List.mem_append_left
        ((Merkle.treePairs (nodeHash sha256) batches.length (leafHashes sha256 batches)).map nodePreimage)
        (List.mem_map_of_mem (f := FinalityLeaf.preimage) listed)
      rcases climb_eq_nodeHash split with rfl | ⟨pair, onPath, inner⟩
      · have same := separates.injective _ inTree _ onLeaf (hashed.trans named.symm)
        rw [← FinalityLeaf.preimage_injective same]
        exact listed
      · have same := separates.injective _ inTree _ (List.mem_cons_of_mem _ (List.mem_map_of_mem onPath))
          (hashed.trans inner)
        exact absurd same.symm (nodePreimage_ne pair batch)

end Separates

/-- Each leaf of the tree over some batches has a proof that checks, and a proof that checks against the
root of the tree names one of the batches. -/
theorem inclusion_complete_sound (sha256 : Sha256) (batches : List FinalityLeaf) :
    (∀ index < batches.length, ∃ proof, generateProof sha256 (leafHashes sha256 batches) index = some proof ∧
      (leafHashes sha256 batches)[index]? = some proof.leafHash ∧
      proof.rootHash = (computeMerkleRoot sha256 (leafHashes sha256 batches)).1 ∧
      proof.verify sha256 = true) ∧
    ∀ proof : FinalityProof,
      proof.inclusionProof.rootHash = (computeMerkleRoot sha256 (leafHashes sha256 batches)).1 →
      proof.verify sha256 = true → Separates sha256 batches proof → proof.leaf ∈ batches := by
  constructor
  · intro index inside
    exact generateProof_verifies (by rw [leafHashes, List.length_map]; exact inside)
  · intro proof rooted verified separates
    simp only [FinalityProof.verify, MerkleProof.verify, Bool.and_eq_true, decide_eq_true_eq] at verified
    obtain ⟨reached, named, -⟩ := verified
    exact separates.leaf_mem named (reached.trans rooted)

section Examples

def threeBatches : List FinalityLeaf := [⟨1, 11, 5, 1⟩, ⟨2, 12, 5, 2⟩, ⟨3, 13, 5, 3⟩]

def threeDigests : Sha256 := fun input =>
  let first : Bytes32 := 0x1b3c5f3b1e0df66c7955a11f890fdf326715ec1f8cf21f244d6275521e10cf5c
  let second : Bytes32 := 0x9ff208dc63f1f75e975da97732a17044e119c8e9a6135b866900e4ea65ac9811
  let third : Bytes32 := 0x27a541811cdde9007dc158d778cccf304351e43098a3a194444d5d1b73c4ed03
  let left : Bytes32 := 0x14978d2285e18e4590090d462781519338d5b5849945fd32e8aa920800baa2dd
  let right : Bytes32 := 0x4f14e97dc7647292d4ca7a17e9fd8d53f8511f78087695907b02d50ce2310162
  if input = FinalityLeaf.preimage ⟨1, 11, 5, 1⟩ then first
  else if input = FinalityLeaf.preimage ⟨2, 12, 5, 2⟩ then second
  else if input = FinalityLeaf.preimage ⟨3, 13, 5, 3⟩ then third
  else if input = nodePreimage (first, second) then left
  else if input = nodePreimage (third, third) then right
  else if input = nodePreimage (left, right) then
    0x061ad66c65d534ae92502f95c86077e207c0188b59e82a92f4a62cd9750908bb
  else 0

def thirdBatchProof : FinalityProof where
  batchId := 3
  epoch := 5
  slot := 3
  finalizationHash := 13
  inclusionProof :=
    { leafHash := 0x27a541811cdde9007dc158d778cccf304351e43098a3a194444d5d1b73c4ed03
      path := [⟨0x27a541811cdde9007dc158d778cccf304351e43098a3a194444d5d1b73c4ed03, false⟩,
        ⟨0x14978d2285e18e4590090d462781519338d5b5849945fd32e8aa920800baa2dd, true⟩]
      rootHash := 0x061ad66c65d534ae92502f95c86077e207c0188b59e82a92f4a62cd9750908bb }
  quorumApprovals := 3
  committeeSize := 4

theorem third_batch_included :
    generateProof threeDigests (leafHashes threeDigests threeBatches) 2 =
      some thirdBatchProof.inclusionProof ∧ thirdBatchProof.leaf ∈ threeBatches :=
  ⟨by decide +kernel, (inclusion_complete_sound threeDigests threeBatches).2 thirdBatchProof
    (by decide +kernel) (by decide +kernel) ⟨by decide +kernel, by decide +kernel⟩⟩

end Examples

end Results

end Omniphi.PoSeq
