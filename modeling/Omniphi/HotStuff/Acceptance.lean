import Omniphi.Lib.FirstOfKey
import Omniphi.HotStuff.Engine

/-! The two checks a certificate has to pass: enough entries of committee members, and enough entries
whose signature verifies. The second counts each signer once, by its first entry. -/

namespace Omniphi.HotStuff

inductive ConsensusVerificationError
  | invalidSignature (signer : NodeId)
  | notCommitteeMember (signer : NodeId)
  | staleView (messageView currentView : View)
  | duplicateMessage (signer : NodeId) (view : View)
  | insufficientQuorum (required valid : Nat)
  | wrongLeader (expected actual : NodeId)
  | replayDetected (signer : NodeId)
deriving DecidableEq

def verifyQcCommittee (qc : QuorumCertificate) (committee : BTreeSet NodeId) (quorumThreshold : Nat) :
    Except ConsensusVerificationError Nat :=
  let validCount := (qc.signatures.filter fun entry => committee.contains entry.1).length
  if validCount < quorumThreshold then .error (.insufficientQuorum quorumThreshold validCount)
  else .ok validCount

namespace QuorumCertificate

def voteHash (sha256 : Sha256) (view : View) (blockId : Bytes32) (phase : Phase) : Bytes32 :=
  sha256 (strBytes "HOTSTUFF_VOTE_V1" ++ beBytes 8 view ++ beBytes 32 blockId ++
    [UInt8.ofNat phase.ctorIdx])

end QuorumCertificate

/-- What is read of the Ed25519 package: keys and signatures from their bytes, and the strict check. -/
structure Ed25519 where
  Key : Type
  Signature : Type
  keyFromBytes : Bytes32 → Option Key
  signatureFromSlice : Bytes → Option Signature
  verifyStrict : Key → Bytes32 → Signature → Bool

def Ed25519.accepts (ed25519 : Ed25519) (pubkeyLookup : NodeId → Option Bytes32) (voteHash : Bytes32)
    (entry : NodeId × Bytes) : Bool :=
  match pubkeyLookup entry.1 with
  | none => false
  | some pubkeyBytes => match ed25519.keyFromBytes pubkeyBytes with
    | none => false
    | some key =>
        if entry.2.length ≠ 64 then false
        else match ed25519.signatureFromSlice entry.2 with
          | none => false
          | some signature => ed25519.verifyStrict key voteHash signature

def countEntry (accepts : NodeId × Bytes → Bool) (acc : BTreeSet NodeId × Nat) (entry : NodeId × Bytes) :
    BTreeSet NodeId × Nat :=
  if acc.1.contains entry.1 then acc
  else (acc.1.insert entry.1, if accepts entry then acc.2 + 1 else acc.2)

def HotStuffEngine.verifyQc (sha256 : Sha256) (ed25519 : Ed25519) (engine : HotStuffEngine)
    (qc : QuorumCertificate) (pubkeyLookup : NodeId → Option Bytes32) : Bool :=
  let voteHash := QuorumCertificate.voteHash sha256 qc.view qc.blockId qc.phase
  engine.quorumThreshold ≤
    (qc.signatures.foldl (countEntry (ed25519.accepts pubkeyLookup voteHash)) (∅, 0)).2

/-! The entries that come first of their signer. -/

def firstEntries (seen : BTreeSet NodeId) : List (NodeId × Bytes) → List (NodeId × Bytes)
  | [] => []
  | entry :: rest =>
      if seen.contains entry.1 then firstEntries seen rest
      else entry :: firstEntries (seen.insert entry.1) rest

theorem firstEntries_eq (entries : List (NodeId × Bytes)) (seen : BTreeSet NodeId) :
    firstEntries seen entries = FirstOfKey.firsts Prod.fst seen entries := by
  induction entries generalizing seen with
  | nil => rfl
  | cons entry rest ih => rw [firstEntries, FirstOfKey.firsts, ih, ih]

section Signers

variable (qc : QuorumCertificate) (committee : BTreeSet NodeId) (accepts : NodeId × Bytes → Bool)

def memberEntries : List (NodeId × Bytes) :=
  qc.signatures.filter fun entry => committee.contains entry.1

def members : Finset NodeId := ((memberEntries qc committee).map Prod.fst).toFinset

def signers : Finset NodeId := ((qc.signatures.filter accepts).map Prod.fst).toFinset

def promptSigners : Finset NodeId :=
  (((firstEntries ∅ qc.signatures).filter accepts).map Prod.fst).toFinset

theorem promptSigners_eq : promptSigners qc accepts = FirstOfKey.keys Prod.fst accepts qc.signatures := by
  rw [promptSigners, firstEntries_eq]
  rfl

theorem promptSigners_subset : promptSigners qc accepts ⊆ signers qc accepts := by
  intro signer member
  rw [promptSigners_eq] at member
  obtain ⟨entry, listed, valid, rfl⟩ := FirstOfKey.exists_of_mem_keys member
  exact List.mem_toFinset.2 (List.mem_map_of_mem (List.mem_filter.2 ⟨listed, valid⟩))

theorem card_promptSigners :
    (promptSigners qc accepts).card = (qc.signatures.foldl (countEntry accepts) (∅, 0)).2 := by
  rw [promptSigners_eq]
  exact FirstOfKey.card_keys qc.signatures

theorem card_members_le : (members qc committee).card ≤ (memberEntries qc committee).length := by
  have bound := List.toFinset_card_le ((memberEntries qc committee).map Prod.fst)
  rwa [List.length_map] at bound

theorem card_signers :
    ((signers qc accepts).filter (· ∈ committee)).card +
        ((promptSigners qc accepts).filter (· ∉ committee)).card =
      (promptSigners qc accepts).card +
        ((signers qc accepts \ promptSigners qc accepts).filter (· ∈ committee)).card := by
  have prompt := promptSigners_subset qc accepts
  have split := Finset.card_filter_add_card_filter_not (s := promptSigners qc accepts) (· ∈ committee)
  have parts : (signers qc accepts).filter (· ∈ committee) =
      (promptSigners qc accepts).filter (· ∈ committee) ∪
        (signers qc accepts \ promptSigners qc accepts).filter (· ∈ committee) := by
    rw [← Finset.filter_union, Finset.union_sdiff_of_subset prompt]
  have apart : Disjoint ((promptSigners qc accepts).filter (· ∈ committee))
      ((signers qc accepts \ promptSigners qc accepts).filter (· ∈ committee)) :=
    Finset.disjoint_filter_filter Finset.disjoint_sdiff
  rw [parts, Finset.card_union_of_disjoint apart]
  omega

end Signers

section Claims

variable (sha256 : Sha256) (ed25519 : Ed25519) (pubkeyLookup : NodeId → Option Bytes32)
  (engine : HotStuffEngine) (qc : QuorumCertificate) (committee : BTreeSet NodeId)

def accepting : NodeId × Bytes → Bool :=
  ed25519.accepts pubkeyLookup (QuorumCertificate.voteHash sha256 qc.view qc.blockId qc.phase)

/-- What passes the committee check lists a quorum of members, and what passes both is signed by one. -/
structure CountsMembers : Prop where
  listed : (∃ count, verifyQcCommittee qc committee engine.quorumThreshold = .ok count) →
    engine.quorumThreshold ≤ (members qc committee).card
  signed : (∃ count, verifyQcCommittee qc committee engine.quorumThreshold = .ok count) →
    engine.verifyQc sha256 ed25519 qc pubkeyLookup = true →
    engine.quorumThreshold ≤
      ((signers qc (accepting sha256 ed25519 pubkeyLookup qc)).filter (· ∈ committee)).card

/-- Where the members' entries are a quorum, the repeated ones are a surplus. Where also the signers whose
first entry verifies are one, the outsiders among them are a surplus, or made up for by members of whom
a later entry verifies. -/
structure Surplus : Prop where
  repeated : engine.quorumThreshold ≤ (memberEntries qc committee).length →
    (memberEntries qc committee).length - (members qc committee).card ≤
      (memberEntries qc committee).length - engine.quorumThreshold
  outsiders : engine.quorumThreshold ≤ (memberEntries qc committee).length →
    engine.quorumThreshold ≤ (promptSigners qc (accepting sha256 ed25519 pubkeyLookup qc)).card →
    ((promptSigners qc (accepting sha256 ed25519 pubkeyLookup qc)).filter (· ∉ committee)).card ≤
      (promptSigners qc (accepting sha256 ed25519 pubkeyLookup qc)).card - engine.quorumThreshold +
        ((signers qc (accepting sha256 ed25519 pubkeyLookup qc) \
          promptSigners qc (accepting sha256 ed25519 pubkeyLookup qc)).filter (· ∈ committee)).card

theorem verifyQcCommittee_ok_iff (quorumThreshold : Nat) :
    (∃ count, verifyQcCommittee qc committee quorumThreshold = .ok count) ↔
      quorumThreshold ≤ (memberEntries qc committee).length := by
  unfold verifyQcCommittee memberEntries
  dsimp only
  split
  · rename_i few
    exact iff_of_false (by rintro ⟨count, ok⟩; cases ok) (Nat.not_le.2 few)
  · rename_i many
    exact iff_of_true ⟨_, rfl⟩ (Nat.not_lt.1 many)

theorem verifyQc_iff : engine.verifyQc sha256 ed25519 qc pubkeyLookup = true ↔
    engine.quorumThreshold ≤ (promptSigners qc (accepting sha256 ed25519 pubkeyLookup qc)).card := by
  rw [card_promptSigners]
  exact decide_eq_true_iff

end Claims

section Repeated

def byteScheme : Ed25519 where
  Key := Bytes32
  Signature := Bytes
  keyFromBytes := some
  signatureFromSlice := some
  verifyStrict key _ signature := decide (signature = List.replicate 64 (UInt8.ofNat (key.toNat % 256)))

def repeatedQc : QuorumCertificate :=
  { view := 1, blockId := 5, phase := .prepare
    signatures := [(1, List.replicate 64 1), (1, List.replicate 64 1), (9, List.replicate 64 9)] }

def pairCommittee : BTreeSet NodeId := (∅ : BTreeSet NodeId).insert 1 |>.insert 2

end Repeated

end Omniphi.HotStuff
