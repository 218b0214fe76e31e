import Omniphi.BigEndian
import Omniphi.Lib.KeySpace
import Omniphi.Lib.Ranking
import Omniphi.PoSeq.BridgeRecovery
import Omniphi.PoSeq.Checkpoints

/-! The durable store: records of every kind under keys of one byte-keyed map, told apart by their names. -/

namespace Omniphi.PoSeq

inductive SubmissionDecision
  | accepted
  | rejected (reason : String)
deriving DecidableEq

structure SubmissionDecisionRecord where
  submissionId : Bytes32
  decision : SubmissionDecision
  reason : Option String
deriving DecidableEq

structure SequencingReceipt where
  receiptId : Bytes32
  batchId : Bytes32
  height : U64
  acceptedCount : Nat
  rejectedCount : Nat
  decisions : List SubmissionDecisionRecord
  orderedIds : List Bytes32
  policyVersion : U32
  receiptHash : Bytes32
deriving DecidableEq

section Keys

inductive Family
  | proposals | attestations | fairness | slashing | rotation | jail | finalized | node | epoch
  | simulation | chainSnapshot | liveness | perf
  | finality | bridgeRec | checkpoint | replay | receipt | ckptEpoch | metaSchemaVer
deriving DecidableEq

def Family.name : Family → String
  | proposals => "proposals:"
  | attestations => "attestations:"
  | fairness => "fairness:"
  | slashing => "slashing:"
  | rotation => "rotation:"
  | jail => "jail:"
  | finalized => "finalized:"
  | node => "node:"
  | epoch => "epoch:"
  | simulation => "simulation:"
  | chainSnapshot => "chain_snapshot:"
  | liveness => "liveness:"
  | perf => "perf:"
  | finality => "finality:"
  | bridgeRec => "bridge_rec:"
  | checkpoint => "checkpoint:"
  | replay => "replay:"
  | receipt => "receipt:"
  | ckptEpoch => "ckpt_epoch:"
  | metaSchemaVer => "meta:schema_ver"

def Family.bytes (family : Family) : Bytes := strBytes family.name

inductive PersistenceKey
  | proposal (proposalId : Bytes32)
  | attestation (proposalId : Bytes32)
  | finalized (batchId : Bytes32)
  | fairness (recordId : Bytes32)
  | slashRecord (nodeId : Bytes32) (index : U64)
  | jail (nodeId : Bytes32)
  | rotationSnapshot (epoch : U64)
  | node (nodeId : Bytes32)
  | epoch (epoch : U64)
  | simulation (label : Bytes)
  | chainSnapshot (epoch : U64)
  | liveness (nodeId : Bytes32) (epoch : U64)
  | performance (nodeId : Bytes32) (epoch : U64)
deriving DecidableEq

inductive Cell
  | engine (key : PersistenceKey)
  | schemaVersion
  | finality (batchId : Bytes32)
  | bridgeRec (batchId : Bytes32)
  | checkpoint (checkpointId : Bytes32)
  | ckptEpoch (epoch : U64)
  | replay (submissionId : Bytes32)
  | receipt (batchId : Bytes32)
deriving DecidableEq

def PersistenceKey.family : PersistenceKey → Family
  | proposal _ => .proposals
  | attestation _ => .attestations
  | finalized _ => .finalized
  | fairness _ => .fairness
  | slashRecord .. => .slashing
  | jail _ => .jail
  | rotationSnapshot _ => .rotation
  | node _ => .node
  | epoch _ => .epoch
  | simulation _ => .simulation
  | chainSnapshot _ => .chainSnapshot
  | liveness .. => .liveness
  | performance .. => .perf

def PersistenceKey.suffix : PersistenceKey → Bytes
  | proposal id | attestation id | finalized id | fairness id | jail id | node id => beBytes 32 id
  | slashRecord nodeId index => beBytes 32 nodeId ++ strBytes ":" ++ beBytes 8 index
  | rotationSnapshot number | epoch number | chainSnapshot number => beBytes 8 number
  | simulation label => label
  | liveness nodeId number | performance nodeId number => beBytes 32 nodeId ++ beBytes 8 number

namespace Cell

def family : Cell → Family
  | engine key => key.family
  | schemaVersion => .metaSchemaVer
  | finality _ => .finality
  | bridgeRec _ => .bridgeRec
  | checkpoint _ => .checkpoint
  | ckptEpoch _ => .ckptEpoch
  | replay _ => .replay
  | receipt _ => .receipt

def suffix : Cell → Bytes
  | engine key => key.suffix
  | schemaVersion => []
  | finality id | bridgeRec id | checkpoint id | replay id | receipt id => beBytes 32 id
  | ckptEpoch epoch => beBytes 8 epoch

def key (cell : Cell) : Bytes := cell.family.bytes ++ cell.suffix

end Cell

theorem family_separate : KeySpace.Separate Family.bytes := by
  intro f g begins
  cases f <;> cases g <;> first | rfl | (revert begins; decide +kernel)

section Injective

variable {id id' : Bytes32} {number number' : U64}

theorem eq_of_id (same : beBytes 32 id = beBytes 32 id') : id = id' := beBytes_injective (by decide) same

theorem eq_of_number (same : beBytes 8 number = beBytes 8 number') : number = number' :=
  beBytes_injective (by decide) same

theorem eq_of_pair (same : beBytes 32 id ++ beBytes 8 number = beBytes 32 id' ++ beBytes 8 number') :
    id = id' ∧ number = number' := by
  obtain ⟨ids, numbers⟩ := @beBytes_code 32 256 (by decide) _ _ _ _ same
  exact ⟨ids, eq_of_number numbers⟩

theorem eq_of_indexed (same : beBytes 32 id ++ strBytes ":" ++ beBytes 8 number =
    beBytes 32 id' ++ strBytes ":" ++ beBytes 8 number') : id = id' ∧ number = number' := by
  rw [List.append_assoc, List.append_assoc] at same
  obtain ⟨ids, rest⟩ := @beBytes_code 32 256 (by decide) _ _ _ _ same
  exact ⟨ids, eq_of_number (List.append_cancel_left rest)⟩

end Injective

theorem PersistenceKey.eq_of_suffix {first second : PersistenceKey} (family : first.family = second.family)
    (same : first.suffix = second.suffix) : first = second := by
  cases first with
  | slashRecord =>
      cases second with
      | slashRecord =>
          obtain ⟨rfl, rfl⟩ := eq_of_indexed same
          rfl
      | _ => cases family
  | liveness =>
      cases second with
      | liveness =>
          obtain ⟨rfl, rfl⟩ := eq_of_pair same
          rfl
      | _ => cases family
  | performance =>
      cases second with
      | performance =>
          obtain ⟨rfl, rfl⟩ := eq_of_pair same
          rfl
      | _ => cases family
  | simulation =>
      cases second with
      | simulation => exact congrArg _ same
      | _ => cases family
  | rotationSnapshot | epoch | chainSnapshot =>
      cases second <;> first | (cases family; done) | exact congrArg _ (eq_of_number same)
  | _ => cases second <;> first | (cases family; done) | exact congrArg _ (eq_of_id same)

theorem Cell.eq_of_suffix {first second : Cell} (family : first.family = second.family)
    (same : first.suffix = second.suffix) : first = second := by
  cases first with
  | engine key =>
      cases second with
      | engine key' => exact congrArg _ (PersistenceKey.eq_of_suffix family same)
      | _ => cases key <;> cases family
  | schemaVersion =>
      cases second with
      | engine key => cases key <;> cases family
      | schemaVersion => rfl
      | _ => cases family
  | ckptEpoch epoch =>
      cases second with
      | engine key => cases key <;> cases family
      | ckptEpoch epoch' => exact congrArg _ (eq_of_number same)
      | _ => cases family
  | _ =>
      cases second with
      | engine key => cases key <;> cases family
      | _ => first | (cases family; done) | exact congrArg _ (eq_of_id same)

theorem Cell.key_injective : Function.Injective Cell.key := by
  intro first second same
  obtain ⟨family, suffix⟩ := family_separate.append_inj same
  exact Cell.eq_of_suffix family suffix

theorem Cell.begins_iff {family : Family} {cell : Cell} :
    family.bytes <+: cell.key ↔ cell.family = family :=
  family_separate.begins_iff.trans eq_comm

end Keys

structure PersistenceEngine where
  backend : BTreeMap Bytes Bytes

namespace PersistenceEngine

def new : PersistenceEngine := ⟨∅⟩

variable (engine : PersistenceEngine)

def getRaw (key : Bytes) : Option Bytes := engine.backend[key]?

def putRaw (key value : Bytes) : PersistenceEngine := ⟨engine.backend.insert key value⟩

def deleteRaw (key : Bytes) : PersistenceEngine := ⟨engine.backend.erase key⟩

def prefixScanRaw (name : Bytes) : List (Bytes × Bytes) := KeySpace.scan engine.backend name

def getKey (key : PersistenceKey) : Option Bytes := engine.getRaw (Cell.engine key).key

def putKey (key : PersistenceKey) (data : Bytes) : PersistenceEngine :=
  engine.putRaw (Cell.engine key).key data

def putProposal (proposalId : Bytes32) := engine.putKey (.proposal proposalId)

def getProposal (proposalId : Bytes32) := engine.getKey (.proposal proposalId)

def scanProposals := engine.prefixScanRaw Family.proposals.bytes

def putAttestation (proposalId : Bytes32) := engine.putKey (.attestation proposalId)

def getAttestation (proposalId : Bytes32) := engine.getKey (.attestation proposalId)

def putFinalized (batchId : Bytes32) := engine.putKey (.finalized batchId)

def getFinalized (batchId : Bytes32) := engine.getKey (.finalized batchId)

def scanFinalized := engine.prefixScanRaw Family.finalized.bytes

def putSlashRecord (nodeId : Bytes32) (index : U64) := engine.putKey (.slashRecord nodeId index)

def getSlashRecord (nodeId : Bytes32) (index : U64) := engine.getKey (.slashRecord nodeId index)

def scanSlashRecords (nodeId : Bytes32) :=
  engine.prefixScanRaw (Family.slashing.bytes ++ beBytes 32 nodeId ++ strBytes ":")

def putJailRecord (nodeId : Bytes32) := engine.putKey (.jail nodeId)

def getJailRecord (nodeId : Bytes32) := engine.getKey (.jail nodeId)

def deleteJailRecord (nodeId : Bytes32) : PersistenceEngine :=
  engine.deleteRaw (Cell.engine (.jail nodeId)).key

def scanJailRecords := engine.prefixScanRaw Family.jail.bytes

def putRotationSnapshot (epoch : U64) := engine.putKey (.rotationSnapshot epoch)

def getRotationSnapshot (epoch : U64) := engine.getKey (.rotationSnapshot epoch)

def scanRotationSnapshots := engine.prefixScanRaw Family.rotation.bytes

def putFairnessRecord (recordId : Bytes32) := engine.putKey (.fairness recordId)

def getFairnessRecord (recordId : Bytes32) := engine.getKey (.fairness recordId)

def scanFairnessRecords := engine.prefixScanRaw Family.fairness.bytes

end PersistenceEngine

/-- What `bincode` does for a type, with the round trip that the store relies on. -/
structure Codec (α : Type) where
  encode : α → Bytes
  decode : Bytes → Option α
  roundTrip : ∀ value, decode (encode value) = some value

structure Codecs where
  finality : Codec BatchFinalityStatus
  bridge : Codec BridgeRecoveryRecord
  checkpoint : Codec PoSeqCheckpoint
  receipt : Codec SequencingReceipt

inductive StorageError
  | schemaMismatch (stored expected : U32)
deriving DecidableEq

structure DurableStore where
  engine : PersistenceEngine

def currentSchemaVersion : U32 := 1

def readExact (n w : Nat) (bytes : Bytes) : Option (BitVec w) :=
  if bytes.length = n then some (ofBeBytes w bytes) else none

namespace DurableStore

def new (engine : PersistenceEngine) : DurableStore := ⟨engine⟩

section Access

variable (codecs : Codecs) (store : DurableStore)

def get (cell : Cell) : Option Bytes := store.engine.getRaw cell.key

def put (cell : Cell) (value : Bytes) : DurableStore := ⟨store.engine.putRaw cell.key value⟩

def delete (cell : Cell) : DurableStore := ⟨store.engine.deleteRaw cell.key⟩

def scanValues {α : Type} (codec : Codec α) (family : Family) : List α :=
  (store.engine.prefixScanRaw family.bytes).filterMap fun entry => codec.decode entry.2

def writeSchemaVersion : DurableStore := store.put .schemaVersion (beBytes 4 currentSchemaVersion)

def readSchemaVersion : Option U32 := (store.get .schemaVersion).bind (readExact 4 32)

def validateSchema : Except StorageError Unit :=
  match store.readSchemaVersion with
  | none => .ok ()
  | some stored =>
      if stored = currentSchemaVersion then .ok ()
      else .error (.schemaMismatch stored currentSchemaVersion)

def putFinalityStatus (status : BatchFinalityStatus) : DurableStore :=
  store.put (.finality status.batchId) (codecs.finality.encode status)

def getFinalityStatus (batchId : Bytes32) : Option BatchFinalityStatus :=
  (store.get (.finality batchId)).bind codecs.finality.decode

def scanFinalityStatuses : List BatchFinalityStatus := store.scanValues codecs.finality .finality

def putBridgeRecord (record : BridgeRecoveryRecord) : DurableStore :=
  store.put (.bridgeRec record.batchId) (codecs.bridge.encode record)

def getBridgeRecord (batchId : Bytes32) : Option BridgeRecoveryRecord :=
  (store.get (.bridgeRec batchId)).bind codecs.bridge.decode

def scanBridgeRecords : List BridgeRecoveryRecord := store.scanValues codecs.bridge .bridgeRec

/-- The index entry of the epoch is written after the checkpoint; entries of other epochs stay. -/
def putCheckpoint (checkpoint : PoSeqCheckpoint) : DurableStore :=
  (store.put (.checkpoint checkpoint.checkpointId) (codecs.checkpoint.encode checkpoint)).put
    (.ckptEpoch checkpoint.metadata.epoch) (beBytes 32 checkpoint.checkpointId)

def getCheckpoint (checkpointId : Bytes32) : Option PoSeqCheckpoint :=
  (store.get (.checkpoint checkpointId)).bind codecs.checkpoint.decode

def getCheckpointIdForEpoch (epoch : U64) : Option Bytes32 :=
  (store.get (.ckptEpoch epoch)).bind (readExact 32 256)

def getCheckpointForEpoch (epoch : U64) : Option PoSeqCheckpoint :=
  (store.getCheckpointIdForEpoch epoch).bind (store.getCheckpoint codecs)

def scanCheckpoints : List PoSeqCheckpoint := store.scanValues codecs.checkpoint .checkpoint

def latestCheckpoint : Option PoSeqCheckpoint :=
  (store.engine.prefixScanRaw Family.ckptEpoch.bytes).getLast?.bind fun entry =>
    (readExact 32 256 entry.2).bind (store.getCheckpoint codecs)

def putReplayEntry (submissionId : Bytes32) (seq : U64) : DurableStore :=
  store.put (.replay submissionId) (beBytes 8 seq)

def getReplaySeq (submissionId : Bytes32) : Option U64 :=
  (store.get (.replay submissionId)).bind (readExact 8 64)

def deleteReplayEntry (submissionId : Bytes32) : DurableStore := store.delete (.replay submissionId)

def readReplayEntry (entry : Bytes × Bytes) : Option (Bytes32 × U64) := do
  let name := Family.replay.bytes
  if entry.1.length = name.length + 32 then
    let seq ← readExact 8 64 entry.2
    return (ofBeBytes 256 (entry.1.drop name.length), seq)
  else none

def scanReplayEntries : List (Bytes32 × U64) :=
  Ranking.sort (fun a b => compare a.2 b.2)
    ((store.engine.prefixScanRaw Family.replay.bytes).filterMap readReplayEntry)

def putReceipt (batchId : Bytes32) (receipt : SequencingReceipt) : DurableStore :=
  store.put (.receipt batchId) (codecs.receipt.encode receipt)

def getReceipt (batchId : Bytes32) : Option SequencingReceipt :=
  (store.get (.receipt batchId)).bind codecs.receipt.decode

def scanReceipts : List SequencingReceipt := store.scanValues codecs.receipt .receipt

end Access

/-- The operations that write. The engine's are given by the key they write under; it deletes jail records
only. -/
inductive Operation
  | putKey (key : PersistenceKey) (data : Bytes)
  | deleteJailRecord (nodeId : Bytes32)
  | writeSchemaVersion
  | putFinalityStatus (status : BatchFinalityStatus)
  | putBridgeRecord (record : BridgeRecoveryRecord)
  | putCheckpoint (checkpoint : PoSeqCheckpoint)
  | putReplayEntry (submissionId : Bytes32) (seq : U64)
  | deleteReplayEntry (submissionId : Bytes32)
  | putReceipt (batchId : Bytes32) (receipt : SequencingReceipt)

def apply (codecs : Codecs) (store : DurableStore) : Operation → DurableStore
  | .putKey key data => ⟨store.engine.putKey key data⟩
  | .deleteJailRecord nodeId => ⟨store.engine.deleteJailRecord nodeId⟩
  | .writeSchemaVersion => store.writeSchemaVersion
  | .putFinalityStatus status => store.putFinalityStatus codecs status
  | .putBridgeRecord record => store.putBridgeRecord codecs record
  | .putCheckpoint checkpoint => store.putCheckpoint codecs checkpoint
  | .putReplayEntry submissionId seq => store.putReplayEntry submissionId seq
  | .deleteReplayEntry submissionId => store.deleteReplayEntry submissionId
  | .putReceipt batchId receipt => store.putReceipt codecs batchId receipt

end DurableStore

end Omniphi.PoSeq
