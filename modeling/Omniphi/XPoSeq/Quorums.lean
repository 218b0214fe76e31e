import Omniphi.Lib.FirstOfKey
import Omniphi.XPoSeq.Commits

/-! What a quorum has signed of the batches on the chain. -/

namespace Omniphi.XPoSeq

open PoSeqKeeper

section Votes

variable {lib : Library} {sha256 : Sha256}

theorem mem_of_pubkeyLookup_foldl {members listed : List CommitteeSnapshotMember}
    {lookup : BTreeMap String Bytes}
    (known : ∀ id pubkey, lookup[id]? = some pubkey →
      ∃ member ∈ listed, member.nodeId = id ∧ hexDecode member.publicKey = some pubkey)
    (within : members ⊆ listed) {id : String} {pubkey : Bytes}
    (found : (members.foldl (fun lookup member =>
      match hexDecode member.publicKey with
      | some pubkey => if pubkey.length = 32 then lookup.insert member.nodeId pubkey else lookup
      | none => lookup) lookup)[id]? = some pubkey) :
    ∃ member ∈ listed, member.nodeId = id ∧ hexDecode member.publicKey = some pubkey := by
  induction members generalizing lookup with
  | nil => exact known id pubkey found
  | cons head rest ih =>
      refine ih ?_ (List.cons_subset.1 within).2 found
      intro other key held
      dsimp only at held
      split at held
      · rename_i decoded read
        split at held
        · rw [BTree.getElem?_insert] at held
          split at held
          · rename_i here
            obtain rfl := Option.some.inj held
            exact ⟨head, (List.cons_subset.1 within).1, here, read⟩
          · exact known other key held
        · exact known other key held
      · exact known other key held

theorem CommitteeSnapshot.mem_of_pubkeyLookup {snap : CommitteeSnapshot} {id : String} {pubkey : Bytes}
    (found : snap.pubkeyLookup[id]? = some pubkey) :
    ∃ member ∈ snap.members, member.nodeId = id ∧ hexDecode member.publicKey = some pubkey := by
  refine mem_of_pubkeyLookup_foldl ?_ (List.Subset.refl _) found
  intro other key held
  simp at held

def CommitteeSnapshot.nodeIds (snap : CommitteeSnapshot) : Finset String :=
  (snap.members.map CommitteeSnapshotMember.nodeId).toFinset

theorem CommitteeSnapshot.card_nodeIds_le (snap : CommitteeSnapshot) :
    snap.nodeIds.card ≤ snap.members.length := by
  have bound := List.toFinset_card_le (snap.members.map CommitteeSnapshotMember.nodeId)
  rwa [List.length_map] at bound

/-- Signatures cannot be forged: what verifies was issued by the holder of the key. -/
def Genuine (lib : Library) (issued : Bytes → Bytes → Bytes → Prop) (msg : MsgCommitExecution) : Prop :=
  ∀ entry ∈ msg.qcSignatures, ∀ signature, hexDecode entry.signature = some signature →
    ∀ pubkey text, lib.ed25519Verify pubkey text signature = true → issued pubkey text signature

def Voted (lib : Library) (issued : Bytes → Bytes → Bytes → Prop) (snap : CommitteeSnapshot)
    (voteHash : Bytes32) (nodeId : String) : Prop :=
  ∃ member ∈ snap.members, member.nodeId = nodeId ∧ ∃ pubkey signature,
    hexDecode member.publicKey = some pubkey ∧ issued pubkey (beBytes 32 voteHash) signature ∧
      lib.ed25519Verify pubkey (beBytes 32 voteHash) signature = true

variable {issued : Bytes → Bytes → Bytes → Prop} {msg : MsgCommitExecution} {snap : CommitteeSnapshot}

theorem voted_of_signs (genuine : Genuine lib issued msg) {entry : QCSignatureEntry}
    (listed : entry ∈ msg.qcSignatures) {voteHash : Bytes32}
    (valid : signs lib snap.pubkeyLookup voteHash entry = true) :
    Voted lib issued snap voteHash entry.nodeId := by
  unfold signs at valid
  split at valid
  · cases valid
  rename_i pubkey found
  split at valid
  · cases valid
  split at valid
  · cases valid
  rename_i signature read
  split at valid
  · cases valid
  obtain ⟨member, mem, named, decoded⟩ := CommitteeSnapshot.mem_of_pubkeyLookup found
  exact ⟨member, mem, named, pubkey, signature, decoded,
    genuine entry listed signature read pubkey _ valid, valid⟩

theorem verifyQC_eq_card (qcSigs : List QCSignatureEntry) (voteHash : Bytes32)
    (lookup : BTreeMap String Bytes) :
    verifyQC lib qcSigs voteHash lookup =
      (FirstOfKey.keys QCSignatureEntry.nodeId (signs lib lookup voteHash) qcSigs).card :=
  (FirstOfKey.card_keys qcSigs).symm

theorem verifyQC_singleton {entry : QCSignatureEntry} {voteHash : Bytes32}
    {lookup : BTreeMap String Bytes} (valid : signs lib lookup voteHash entry = true) :
    verifyQC lib [entry] voteHash lookup = 1 := by
  rw [verifyQC, List.foldl_cons, List.foldl_nil, countSignature, if_neg, if_pos valid]
  simp

theorem quorum_of_checkQC {params : Params} (required : params.requireQCSignatures = true)
    (slice : snap.members.length < 2 ^ 63) (genuine : Genuine lib issued msg)
    (certified : checkQC lib sha256 params snap msg = .ok ()) :
    ∃ voters : Finset String, 2 * snap.nodeIds.card < 3 * voters.card ∧
      ∀ id ∈ voters, Voted lib issued snap (computeVoteHash sha256 msg.slot (decodeString msg.batchId)) id := by
  have present : msg.qcSignatures.isEmpty = false := by
    by_contra absent
    rw [Bool.not_eq_false] at absent
    rw [checkQC, if_pos absent, if_pos required] at certified
    cases certified
  rw [checkQC, if_neg (Bool.eq_false_iff.1 present)] at certified
  obtain ⟨many, -⟩ := Outcome.guard_ok.1 certified
  rw [verifyQC_eq_card] at many
  refine ⟨FirstOfKey.keys QCSignatureEntry.nodeId
    (signs lib snap.pubkeyLookup (computeVoteHash sha256 msg.slot (decodeString msg.batchId)))
    msg.qcSignatures, ?_, ?_⟩
  · have distinct := snap.card_nodeIds_le
    rw [BitVec.not_le, BitVec.lt_def, BitVec.toNat_mul, BitVec.toNat_mul, BitVec.toNat_ofNat,
      BitVec.toNat_ofNat, Nat.mod_mul_mod, Nat.mod_mul_mod] at many
    have wraps := Nat.mod_le ((FirstOfKey.keys QCSignatureEntry.nodeId
      (signs lib snap.pubkeyLookup (computeVoteHash sha256 msg.slot (decodeString msg.batchId)))
      msg.qcSignatures).card * (3 : BitVec 64).toNat) (2 ^ 64)
    have whole : snap.members.length * (2 : BitVec 64).toNat % 2 ^ 64 = snap.members.length * 2 :=
      Nat.mod_eq_of_lt (by change snap.members.length * 2 < _; omega)
    change _ ≤ _ * 3 at wraps
    omega
  · intro id member
    obtain ⟨entry, listed, valid, rfl⟩ := FirstOfKey.exists_of_mem_keys member
    exact voted_of_signs genuine listed valid

end Votes

section Runs

namespace PoSeqKeeper

variable (lib : Library) (sha256 : Sha256)

def afterMessages (keeper : PoSeqKeeper) : List MsgCommitExecution → PoSeqKeeper
  | [] => keeper
  | msg :: rest =>
      match keeper.commitExecution lib sha256 msg with
      | .ok after => after.afterMessages rest
      | .error _ => keeper.afterMessages rest

def taken (keeper : PoSeqKeeper) : List MsgCommitExecution → List MsgCommitExecution
  | [] => []
  | msg :: rest =>
      match keeper.commitExecution lib sha256 msg with
      | .ok after => msg :: after.taken rest
      | .error _ => keeper.taken rest

def requiringQCs (authorizedSubmitter : String) (snapshots : CommitteeSnapshots) : PoSeqKeeper :=
  { params := { authorizedSubmitter, requireQCSignatures := true }
    committeeSnapshots := snapshots
    committedBatches := .empty }

end PoSeqKeeper

/-- More than two thirds of a record's committee have signed the hash of its slot and batch. -/
def SignedByQuorum (lib : Library) (sha256 : Sha256) (issued : Bytes → Bytes → Bytes → Prop)
    (snapshots : CommitteeSnapshots) (rec : CommittedBatchRecord) : Prop :=
  ∃ snap, snapshots.get? rec.epoch = some snap ∧
    ∃ voters : Finset String, 2 * snap.nodeIds.card < 3 * voters.card ∧
      ∀ id ∈ voters, Voted lib issued snap (computeVoteHash sha256 rec.slot (decodeString rec.batchId)) id

variable {lib : Library} {sha256 : Sha256} {issued : Bytes → Bytes → Bytes → Prop}
  {keeper after : PoSeqKeeper} {msg : MsgCommitExecution}

theorem after_eq_of_commitExecution (ok : keeper.commitExecution lib sha256 msg = .ok after) :
    keeper.committedBatches.contains msg.batchId = false ∧
      after = { keeper with committedBatches := keeper.committedBatches.insert (recordOf msg) } := by
  obtain ⟨snap, -, checked⟩ := commitExecution_ok_iff.1 ok
  exact (commitChecked_ok_iff.1 checked).2.2

theorem signed_of_commitExecution (required : keeper.params.requireQCSignatures = true)
    (slices : ∀ epoch snap, keeper.committeeSnapshots.get? epoch = some snap → snap.members.length < 2 ^ 63)
    (genuine : Genuine lib issued msg) (ok : keeper.commitExecution lib sha256 msg = .ok after) :
    SignedByQuorum lib sha256 issued keeper.committeeSnapshots (recordOf msg) := by
  obtain ⟨snap, passes, -⟩ := commitExecution_ok_iff.1 ok
  exact ⟨snap, passes.listed,
    quorum_of_checkQC required (slices _ _ passes.listed) genuine passes.certified⟩

theorem get?_afterMessages (msgs : List MsgCommitExecution) (id : String) (rec : CommittedBatchRecord) :
    (keeper.afterMessages lib sha256 msgs).committedBatches.get? id = some rec ↔
      keeper.committedBatches.get? id = some rec ∨
        ∃ msg ∈ keeper.taken lib sha256 msgs, recordOf msg = rec ∧ msg.batchId = id := by
  induction msgs generalizing keeper with
  | nil => simp [PoSeqKeeper.afterMessages, PoSeqKeeper.taken]
  | cons msg rest ih =>
      rw [PoSeqKeeper.afterMessages, PoSeqKeeper.taken]
      split
      · rename_i after ok
        obtain ⟨fresh, rfl⟩ := after_eq_of_commitExecution ok
        rw [ih, KeyedMap.get?_insert]
        by_cases here : msg.batchId = id
        · subst here
          have absent : keeper.committedBatches.get? msg.batchId = none := by
            rwa [KeyedMap.contains_eq, Option.isSome_eq_false_iff, Option.isNone_iff_eq_none] at fresh
          simp [recordOf, absent]
        · simp [recordOf, here]
      · exact ih

theorem signed_of_mem_taken (required : keeper.params.requireQCSignatures = true)
    (slices : ∀ epoch snap, keeper.committeeSnapshots.get? epoch = some snap → snap.members.length < 2 ^ 63)
    {msgs : List MsgCommitExecution} (genuine : ∀ msg ∈ msgs, Genuine lib issued msg)
    (member : msg ∈ keeper.taken lib sha256 msgs) :
    SignedByQuorum lib sha256 issued keeper.committeeSnapshots (recordOf msg) := by
  induction msgs generalizing keeper with
  | nil => exact absurd member List.not_mem_nil
  | cons head rest ih =>
      obtain ⟨here, others⟩ := List.forall_mem_cons.1 genuine
      rw [PoSeqKeeper.taken] at member
      split at member
      · rename_i after ok
        rcases List.mem_cons.1 member with rfl | later
        · exact signed_of_commitExecution required slices here ok
        · obtain ⟨-, rfl⟩ := after_eq_of_commitExecution ok
          have signed := fun required slices => ih required slices others later
          exact signed required slices
      · exact ih required slices others member

theorem fresh_of_mem_taken {msgs : List MsgCommitExecution} (member : msg ∈ keeper.taken lib sha256 msgs) :
    keeper.committedBatches.contains msg.batchId = false := by
  induction msgs generalizing keeper with
  | nil => exact absurd member List.not_mem_nil
  | cons head rest ih =>
      rw [PoSeqKeeper.taken] at member
      split at member
      · rename_i after ok
        obtain ⟨fresh, rfl⟩ := after_eq_of_commitExecution ok
        rcases List.mem_cons.1 member with rfl | later
        · exact fresh
        · have absent := ih later
          rw [KeyedMap.contains_insert, Bool.or_eq_false_iff] at absent
          exact absent.2
      · exact ih member

theorem nodup_taken (keeper : PoSeqKeeper) (msgs : List MsgCommitExecution) :
    ((keeper.taken lib sha256 msgs).map MsgCommitExecution.batchId).Nodup := by
  induction msgs generalizing keeper with
  | nil => exact List.nodup_nil
  | cons head rest ih =>
      rw [PoSeqKeeper.taken]
      split
      · rename_i after ok
        rw [List.map_cons, List.nodup_cons]
        refine ⟨?_, ih after⟩
        intro again
        obtain ⟨other, later, same⟩ := List.mem_map.1 again
        have absent := fresh_of_mem_taken later
        obtain ⟨-, rfl⟩ := after_eq_of_commitExecution ok
        rw [same, KeyedMap.contains_insert, Bool.or_eq_false_iff, decide_eq_false_iff_not] at absent
        exact absent.1 rfl
      · exact ih keeper

end Runs

section Claims

/-- What every run stores: batches that a quorum has signed, each once. -/
structure StoresQuorums (lib : Library) (sha256 : Sha256) (issued : Bytes → Bytes → Bytes → Prop)
    (start : PoSeqKeeper) : Prop where
  signed : ∀ msgs, (∀ msg ∈ msgs, Genuine lib issued msg) → ∀ id rec,
    (start.afterMessages lib sha256 msgs).committedBatches.get? id = some rec →
      SignedByQuorum lib sha256 issued start.committeeSnapshots rec
  once : ∀ msgs, (∀ msg ∈ msgs, Genuine lib issued msg) →
    ((start.taken lib sha256 msgs).map MsgCommitExecution.batchId).Nodup

def ApprovedWithin (keeper : PoSeqKeeper) : Prop :=
  ∀ id rec, keeper.committedBatches.get? id = some rec → rec.approvals ≤ rec.committeeSize

/-- A quorum's signatures also bound what is stored with a batch: no more approvals than members, and one
order, epoch, slot and leader that any message for the batch can have. -/
structure CommitsQuorums (lib : Library) (sha256 : Sha256) (issued : Bytes → Bytes → Bytes → Prop)
    (start : PoSeqKeeper) : Prop extends StoresQuorums lib sha256 issued start where
  approved : ∀ msgs, (∀ msg ∈ msgs, Genuine lib issued msg) →
    ApprovedWithin (start.afterMessages lib sha256 msgs)
  bound : ∀ msgs, (∀ msg ∈ msgs, Genuine lib issued msg) → ∀ first second,
    Genuine lib issued first → Genuine lib issued second →
    CollisionFree sha256 [batchIdInput first, batchIdInput second] →
    Commits lib sha256 (start.afterMessages lib sha256 msgs) first →
    Commits lib sha256 (start.afterMessages lib sha256 msgs) second → first.batchId = second.batchId →
      first.orderedSubmissionIds = second.orderedSubmissionIds ∧ first.epoch = second.epoch ∧
        first.slot = second.slot ∧ first.leaderId = second.leaderId

/-- The signatures of a message are a quorum's for a batch that is not on the chain. Nothing is asked of the
leader, the approvals and the order that it names. -/
structure Certified (lib : Library) (sha256 : Sha256) (issued : Bytes → Bytes → Bytes → Prop)
    (keeper : PoSeqKeeper) (msg : MsgCommitExecution) : Prop where
  genuine : Genuine lib issued msg
  sender : lib.addressError msg.sender = none
  authorized : ¬ (keeper.params.authorizedSubmitter ≠ "" ∧ keeper.params.authorizedSubmitter ≠ msg.sender)
  proposalId : isHexOf 32 msg.proposalId = true
  batchRoot : isHexOf 32 msg.batchRoot = true
  entries : validateSignatures 0 msg.qcSignatures = .ok ()
  epoch : msg.epoch ≠ 0
  batchId : expectedBatchId sha256 msg = msg.batchId
  fresh : keeper.committedBatches.contains msg.batchId = false
  quorum : ∃ snap, keeper.committeeSnapshots.get? msg.epoch = some snap ∧
    BitVec.ofNat 64 snap.members.length ≠ 0 ∧ checkQC lib sha256 keeper.params snap msg = .ok ()

variable {lib : Library} {sha256 : Sha256} {issued : Bytes → Bytes → Bytes → Prop}
  {keeper : PoSeqKeeper} {msg : MsgCommitExecution}

theorem isHexOf_hexEncode (digest : Bytes32) : isHexOf 32 (hexEncode (beBytes 32 digest)) = true := by
  simp [isHexOf]

def manyApprovals : U64 := 0x5555555555555555

theorem manyApprovals_suffice (size : U64) : ¬ manyApprovals * 3 ≤ size * 2 := by
  unfold manyApprovals
  bv_omega

def MsgCommitExecution.filled (sha256 : Sha256) (msg : MsgCommitExecution) (leaderId : String)
    (committeeSize : U64) : MsgCommitExecution :=
  let named := { msg with leaderId, committeeSize, approvals := manyApprovals }
  { named with finalizationHash := expectedFinalizationHash sha256 named }

theorem certified_of_commits (genuine : Genuine lib issued msg) (commits : Commits lib sha256 keeper msg) :
    Certified lib sha256 issued keeper msg := by
  obtain ⟨after, ok⟩ := commits
  obtain ⟨snap, passes, checked⟩ := commitExecution_ok_iff.1 ok
  obtain ⟨sender, -, -, proposalId, batchRoot, epoch, -, size, -, entries⟩ :=
    validateBasic_ok_iff.1 passes.basic
  obtain ⟨-, batchId, fresh, -⟩ := commitChecked_ok_iff.1 checked
  constructor
  case quorum =>
    refine ⟨snap, passes.listed, ?_, passes.certified⟩
    rw [passes.size]
    exact size
  case authorized => exact passes.authorized
  all_goals assumption

theorem commits_of_certified (certified : Certified lib sha256 issued keeper msg) :
    ∃ filled, Genuine lib issued filled ∧ Commits lib sha256 keeper filled := by
  obtain ⟨snap, listed, size, quorum⟩ := certified.quorum
  obtain ⟨leader, others, members⟩ : ∃ leader others, snap.members = leader :: others := by
    apply List.exists_cons_of_ne_nil
    intro empty
    rw [empty] at size
    exact size rfl
  refine ⟨msg.filled sha256 leader.nodeId (BitVec.ofNat 64 snap.members.length), certified.genuine, _,
    commitExecution_ok_iff.2 ⟨snap, ?_,
      commitChecked_ok_iff.2 ⟨rfl, certified.batchId, certified.fresh, rfl⟩⟩⟩
  constructor
  case basic =>
    refine validateBasic_ok_iff.2 ⟨certified.sender, ?_, isHexOf_hexEncode _, certified.proposalId,
      certified.batchRoot, certified.epoch, (by decide : manyApprovals ≠ 0), size,
      manyApprovals_suffice _, certified.entries⟩
    change isHexOf 32 msg.batchId = true
    rw [← certified.batchId]
    exact isHexOf_hexEncode _
  case authorized => exact certified.authorized
  case listed => exact listed
  case size => rfl
  case leads =>
    refine ⟨leader, ?_, rfl⟩
    rw [members]
    exact List.mem_cons_self
  case certified => exact quorum

theorem commits_reordered (commits : Commits lib sha256 keeper msg) (ids : List String) :
    Commits lib sha256 keeper { msg with orderedSubmissionIds := ids } := by
  obtain ⟨after, ok⟩ := commits
  obtain ⟨snap, passes, checked⟩ := commitExecution_ok_iff.1 ok
  obtain ⟨finalization, batchId, fresh, -⟩ := commitChecked_ok_iff.1 checked
  exact ⟨_, commitExecution_ok_iff.2 ⟨snap,
    ⟨passes.basic, passes.authorized, passes.listed, passes.size, passes.leads, passes.certified⟩,
    commitChecked_ok_iff.2 ⟨finalization, batchId, fresh, rfl⟩⟩⟩

theorem not_bound_of_certified (certified : Certified lib sha256 issued keeper msg) :
    ¬ CommitsQuorums lib sha256 issued keeper := by
  intro commits
  obtain ⟨filled, genuine, taken⟩ := commits_of_certified certified
  have free : CollisionFree sha256 [batchIdInput filled, batchIdInput filled] := by
    intro a first b second _
    simp only [List.mem_cons, List.not_mem_nil, or_false, or_self] at first second
    rw [first, second]
  have same := commits.bound [] (fun _ member => absurd member List.not_mem_nil) filled
    { filled with orderedSubmissionIds := "" :: filled.orderedSubmissionIds } genuine genuine free taken
    (commits_reordered taken _) rfl
  exact List.cons_ne_self _ _ same.1.symm

theorem afterMessages_eq (uncertified : ¬ ∃ msg, Certified lib sha256 issued keeper msg)
    {msgs : List MsgCommitExecution} (genuine : ∀ msg ∈ msgs, Genuine lib issued msg) :
    keeper.afterMessages lib sha256 msgs = keeper := by
  induction msgs with
  | nil => rfl
  | cons msg rest ih =>
      obtain ⟨here, others⟩ := List.forall_mem_cons.1 genuine
      rw [PoSeqKeeper.afterMessages]
      split
      · rename_i after ok
        exact absurd ⟨msg, certified_of_commits here ⟨after, ok⟩⟩ uncertified
      · exact ih others

theorem stored_iff (authorizedSubmitter : String) (snapshots : CommitteeSnapshots)
    (msgs : List MsgCommitExecution) (id : String) (rec : CommittedBatchRecord) :
    ((requiringQCs authorizedSubmitter snapshots).afterMessages lib sha256 msgs).committedBatches.get? id =
        some rec ↔
      ∃ msg ∈ (requiringQCs authorizedSubmitter snapshots).taken lib sha256 msgs,
        recordOf msg = rec ∧ msg.batchId = id := by
  rw [get?_afterMessages, requiringQCs, KeyedMap.get?_empty]
  exact or_iff_right (by rintro ⟨⟩)

/-- Every run stores batches that a quorum has signed, each once, and with no more approvals than members
exactly when it takes no message with more. All that is stored is bound exactly when there is nothing to
store. -/
theorem commitsQuorums_iff_uncertified (lib : Library) (sha256 : Sha256)
    (issued : Bytes → Bytes → Bytes → Prop) (authorizedSubmitter : String) (snapshots : CommitteeSnapshots)
    (slices : ∀ epoch snap, snapshots.get? epoch = some snap → snap.members.length < 2 ^ 63) :
    StoresQuorums lib sha256 issued (requiringQCs authorizedSubmitter snapshots) ∧
      (∀ msgs, ApprovedWithin ((requiringQCs authorizedSubmitter snapshots).afterMessages lib sha256 msgs) ↔
        ∀ msg ∈ (requiringQCs authorizedSubmitter snapshots).taken lib sha256 msgs,
          msg.approvals ≤ msg.committeeSize) ∧
      (CommitsQuorums lib sha256 issued (requiringQCs authorizedSubmitter snapshots) ↔
        ¬ ∃ msg, Certified lib sha256 issued (requiringQCs authorizedSubmitter snapshots) msg) := by
  have stores : StoresQuorums lib sha256 issued (requiringQCs authorizedSubmitter snapshots) := by
    constructor
    case signed =>
      intro msgs genuine id rec stored
      obtain ⟨msg, member, rfl, -⟩ := (stored_iff authorizedSubmitter snapshots msgs id rec).1 stored
      exact signed_of_mem_taken rfl slices genuine member
    case once => exact fun msgs _ => nodup_taken _ msgs
  refine ⟨stores, ?_, ?_, ?_⟩
  · intro msgs
    constructor
    · intro approved msg member
      exact approved msg.batchId (recordOf msg)
        ((stored_iff authorizedSubmitter snapshots msgs _ _).2 ⟨msg, member, rfl, rfl⟩)
    · intro within id rec stored
      obtain ⟨msg, member, rfl, -⟩ := (stored_iff authorizedSubmitter snapshots msgs id rec).1 stored
      exact within msg member
  · rintro commits ⟨msg, certified⟩
    exact not_bound_of_certified certified commits
  · intro uncertified
    constructor
    case toStoresQuorums => exact stores
    case approved =>
      intro msgs genuine id rec stored
      rw [afterMessages_eq uncertified genuine, requiringQCs, KeyedMap.get?_empty] at stored
      cases stored
    case bound =>
      intro msgs genuine first second signed _ _ taken
      rw [afterMessages_eq uncertified genuine] at taken
      exact absurd ⟨first, certified_of_commits signed taken⟩ uncertified

end Claims

section Sole

/-! The committee of one again, whose member has signed for one batch. -/

def soleBatchId : Bytes32 :=
  lengthDigest (strBytes "batch:" ++ beBytes 32 (7 : Bytes32) ++ beBytes 32 (5 : Bytes32))

def soleVote : Bytes := beBytes 32 (computeVoteHash lengthDigest 3 (beBytes 32 soleBatchId))

def keyedLibrary : Library where
  addressError _ := none
  ed25519Verify pubkey message signature := decide (pubkey.length = 32 ∧ signature = pubkey ++ message)

def soleIssued (pubkey message signature : Bytes) : Prop :=
  pubkey = beBytes 32 (1 : Bytes32) ∧ message = soleVote ∧ signature = pubkey ++ message

def soleMessage (orderedSubmissionIds : List String) : MsgCommitExecution :=
  let named : MsgCommitExecution :=
    { sender := "relayer", batchId := hex32 soleBatchId, finalizationHash := "", epoch := 1, slot := 3
      orderedSubmissionIds, leaderId := hex32 1, approvals := 5, committeeSize := 1
      proposalId := hex32 7, batchRoot := hex32 5
      qcSignatures := [{ nodeId := hex32 1, signature := hexEncode (beBytes 32 (1 : Bytes32) ++ soleVote) }] }
  { named with finalizationHash := expectedFinalizationHash lengthDigest named }

theorem soleMessage_genuine (ids : List String) : Genuine keyedLibrary soleIssued (soleMessage ids) := by
  intro entry listed signature read pubkey text valid
  obtain rfl := List.mem_singleton.1 listed
  rw [hexDecode_hexEncode] at read
  obtain rfl := Option.some.inj read
  obtain ⟨length, same⟩ := of_decide_eq_true valid
  have parts := List.append_inj same (by rw [length_beBytes, length])
  exact ⟨parts.1.symm, parts.2.symm, same⟩

theorem soleSnapshot_pubkeyLookup :
    soleSnapshot.pubkeyLookup[hex32 1]? = some (beBytes 32 (1 : Bytes32)) := by
  simp [CommitteeSnapshot.pubkeyLookup, soleSnapshot, hex32]

theorem keyedLibrary_verifies {pubkey : Bytes} (length : pubkey.length = 32) (message : Bytes) :
    keyedLibrary.ed25519Verify pubkey message (pubkey ++ message) = true :=
  decide_eq_true ⟨length, rfl⟩

theorem signs_keyed {lookup : BTreeMap String Bytes} {nodeId : String} {pubkey : Bytes}
    (listed : lookup[nodeId]? = some pubkey) (length : pubkey.length = 32) (voteHash : Bytes32) :
    signs keyedLibrary lookup voteHash ⟨nodeId, hexEncode (pubkey ++ beBytes 32 voteHash)⟩ = true := by
  have signed : (pubkey ++ beBytes 32 voteHash).length = 64 := by
    rw [List.length_append, length, length_beBytes]
  unfold signs
  simp only [listed, hexDecode_hexEncode]
  rw [if_neg (not_not.2 length), if_neg (not_not.2 signed)]
  exact keyedLibrary_verifies length _

theorem signs_soleMessage : signs keyedLibrary soleSnapshot.pubkeyLookup
    (computeVoteHash lengthDigest 3 (beBytes 32 soleBatchId))
    ⟨hex32 1, hexEncode (beBytes 32 (1 : Bytes32) ++ soleVote)⟩ = true :=
  signs_keyed soleSnapshot_pubkeyLookup (length_beBytes _ _) _

theorem soleMessage_commits (ids : List String) :
    Commits keyedLibrary lengthDigest soleKeeper (soleMessage ids) := by
  refine ⟨_, commitExecution_ok_iff.2 ⟨soleSnapshot, ?_, commitChecked_ok_iff.2 ⟨rfl, ?_, ?_, rfl⟩⟩⟩
  · constructor
    case basic =>
      refine validateBasic_ok_iff.2 ⟨rfl, isHexOf_hexEncode _, isHexOf_hexEncode _, isHexOf_hexEncode _,
        isHexOf_hexEncode _, ?_, ?_, ?_, ?_, ?_⟩
      · exact (by decide : (1 : U64) ≠ 0)
      · exact (by decide : (5 : U64) ≠ 0)
      · exact (by decide : (1 : U64) ≠ 0)
      · exact (by decide : ¬ (5 : U64) * 3 ≤ 1 * 2)
      · simp [soleMessage, validateSignatures, hex32, isHexOf, soleVote]
    case authorized => exact fun named => named.1 rfl
    case listed => exact (KeyedMap.get?_insert _ _ _).trans (if_pos rfl)
    case size => rfl
    case leads => exact ⟨_, List.mem_singleton_self _, rfl⟩
    case certified =>
      have counted : verifyQC keyedLibrary (soleMessage ids).qcSignatures
          (computeVoteHash lengthDigest 3 (decodeString (hex32 soleBatchId))) soleSnapshot.pubkeyLookup = 1 := by
        rw [decodeString_hex32]
        exact verifyQC_singleton signs_soleMessage
      rw [checkQC, if_neg (by rintro ⟨⟩)]
      refine Outcome.guard_ok.2 ⟨?_, rfl⟩
      change ¬ BitVec.ofNat 64 (verifyQC _ _
        (computeVoteHash lengthDigest 3 (decodeString (hex32 soleBatchId))) _) * 3 ≤ _
      rw [counted]
      exact (by decide : ¬ BitVec.ofNat 64 1 * 3 ≤ BitVec.ofNat 64 1 * 2)
  · change hexEncode (beBytes 32 (lengthDigest (strBytes "batch:" ++ decodeString (hex32 7) ++
      decodeString (hex32 5)))) = hex32 soleBatchId
    rw [decodeString_hex32, decodeString_hex32]
    rfl
  · rfl

/-- The chain takes the batch in either order of its submissions, with five approvals from a committee of
one. -/
theorem either_order_taken :
    Commits keyedLibrary lengthDigest soleKeeper (soleMessage ["a", "b"]) ∧
      Commits keyedLibrary lengthDigest soleKeeper (soleMessage ["b", "a"]) ∧
      ¬ CommitsQuorums keyedLibrary lengthDigest soleIssued (requiringQCs "" soleKeeper.committeeSnapshots) :=
  ⟨soleMessage_commits _, soleMessage_commits _,
    not_bound_of_certified (certified_of_commits (soleMessage_genuine []) (soleMessage_commits []))⟩

theorem sole_slice (epoch : U64) (snap : CommitteeSnapshot)
    (listed : soleKeeper.committeeSnapshots.get? epoch = some snap) : snap.members.length < 2 ^ 63 := by
  rw [soleKeeper, KeyedMap.get?_insert, KeyedMap.get?_empty] at listed
  split at listed
  · obtain rfl := Option.some.inj listed
    decide
  · cases listed

theorem commitsQuorums_iff_uncertified_sole :
    StoresQuorums keyedLibrary lengthDigest soleIssued (requiringQCs "" soleKeeper.committeeSnapshots) ∧
      (∀ msgs, ApprovedWithin
          ((requiringQCs "" soleKeeper.committeeSnapshots).afterMessages keyedLibrary lengthDigest msgs) ↔
        ∀ msg ∈ (requiringQCs "" soleKeeper.committeeSnapshots).taken keyedLibrary lengthDigest msgs,
          msg.approvals ≤ msg.committeeSize) ∧
      (CommitsQuorums keyedLibrary lengthDigest soleIssued (requiringQCs "" soleKeeper.committeeSnapshots) ↔
        ¬ ∃ msg, Certified keyedLibrary lengthDigest soleIssued
          (requiringQCs "" soleKeeper.committeeSnapshots) msg) :=
  commitsQuorums_iff_uncertified keyedLibrary lengthDigest soleIssued "" soleKeeper.committeeSnapshots
    sole_slice

end Sole

end Omniphi.XPoSeq
