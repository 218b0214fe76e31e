import Omniphi.Lib.Choice
import Omniphi.Encoding
import Omniphi.Text

/-! Evidence packets and their export to the chain. -/

namespace Omniphi.PoSeq

inductive MisbehaviorSeverity where
  | minor
  | moderate
  | severe
  | critical
deriving DecidableEq

inductive MisbehaviorType where
  | equivocation
  | invalidProposalAuthority
  | invalidFairnessEnvelope
  | invalidAttestation
  | duplicateAttestationAbuse
  | persistentOmission
  | invalidBatchDeliveryAttempt
  | runtimeBridgeAbuse
  | staleCommitteeParticipation
  | slotHijackingAttempt
  | boundaryTransitionAbuse
  | repeatedInvalidProposalSpam
  | fairnessViolation
  | replayAttack
  | absentFromDuty
deriving DecidableEq

namespace MisbehaviorType

def defaultSeverity : MisbehaviorType → MisbehaviorSeverity
  | equivocation => .critical
  | slotHijackingAttempt => .critical
  | runtimeBridgeAbuse => .critical
  | replayAttack => .critical
  | invalidProposalAuthority => .severe
  | invalidBatchDeliveryAttempt => .severe
  | boundaryTransitionAbuse => .severe
  | duplicateAttestationAbuse => .moderate
  | invalidFairnessEnvelope => .moderate
  | invalidAttestation => .moderate
  | staleCommitteeParticipation => .moderate
  | repeatedInvalidProposalSpam => .moderate
  | fairnessViolation => .minor
  | persistentOmission => .minor
  | absentFromDuty => .minor

def debug : MisbehaviorType → String
  | equivocation => "Equivocation"
  | invalidProposalAuthority => "InvalidProposalAuthority"
  | invalidFairnessEnvelope => "InvalidFairnessEnvelope"
  | invalidAttestation => "InvalidAttestation"
  | duplicateAttestationAbuse => "DuplicateAttestationAbuse"
  | persistentOmission => "PersistentOmission"
  | invalidBatchDeliveryAttempt => "InvalidBatchDeliveryAttempt"
  | runtimeBridgeAbuse => "RuntimeBridgeAbuse"
  | staleCommitteeParticipation => "StaleCommitteeParticipation"
  | slotHijackingAttempt => "SlotHijackingAttempt"
  | boundaryTransitionAbuse => "BoundaryTransitionAbuse"
  | repeatedInvalidProposalSpam => "RepeatedInvalidProposalSpam"
  | fairnessViolation => "FairnessViolation"
  | replayAttack => "ReplayAttack"
  | absentFromDuty => "AbsentFromDuty"

end MisbehaviorType

inductive EvidenceKind where
  | equivocation
  | unauthorizedProposal
  | unfairSequencing
  | replayAbuse
  | bridgeAbuse
  | persistentAbsence
  | staleAuthority
  | invalidProposalSpam
deriving DecidableEq

namespace EvidenceKind

def kindTag : EvidenceKind → UInt8
  | equivocation => 1
  | unauthorizedProposal => 2
  | unfairSequencing => 3
  | replayAbuse => 4
  | bridgeAbuse => 5
  | persistentAbsence => 6
  | staleAuthority => 7
  | invalidProposalSpam => 8

def baseSlashBps : EvidenceKind → U32
  | equivocation => 5000
  | unauthorizedProposal => 2000
  | unfairSequencing => 1000
  | replayAbuse => 3000
  | bridgeAbuse => 5000
  | persistentAbsence => 50
  | staleAuthority => 200
  | invalidProposalSpam => 300

def debug : EvidenceKind → String
  | equivocation => "Equivocation"
  | unauthorizedProposal => "UnauthorizedProposal"
  | unfairSequencing => "UnfairSequencing"
  | replayAbuse => "ReplayAbuse"
  | bridgeAbuse => "BridgeAbuse"
  | persistentAbsence => "PersistentAbsence"
  | staleAuthority => "StaleAuthority"
  | invalidProposalSpam => "InvalidProposalSpam"

def fromMisbehaviorType : MisbehaviorType → EvidenceKind
  | .equivocation | .slotHijackingAttempt => equivocation
  | .invalidProposalAuthority | .boundaryTransitionAbuse => unauthorizedProposal
  | .invalidFairnessEnvelope | .fairnessViolation => unfairSequencing
  | .replayAttack => replayAbuse
  | .runtimeBridgeAbuse | .invalidBatchDeliveryAttempt => bridgeAbuse
  | .persistentOmission | .absentFromDuty => persistentAbsence
  | .staleCommitteeParticipation => staleAuthority
  | .repeatedInvalidProposalSpam | .invalidAttestation | .duplicateAttestationAbuse =>
      invalidProposalSpam

end EvidenceKind

/-- What a packet hash is made of. -/
structure EvidenceSubject where
  kind : EvidenceKind
  nodeId : Bytes32
  epoch : U64
  evidenceHashes : List Bytes32

namespace EvidenceSubject

def preimage (subject : EvidenceSubject) : Bytes :=
  subject.kind.kindTag :: (beBytes 32 subject.nodeId ++ beBytes 8 subject.epoch ++
    (subject.evidenceHashes.insertionSort (· ≤ ·)).flatMap (beBytes 32))

def Same (a b : EvidenceSubject) : Prop :=
  a.kind = b.kind ∧ a.nodeId = b.nodeId ∧ a.epoch = b.epoch ∧ a.evidenceHashes.Perm b.evidenceHashes

end EvidenceSubject

def computePacketHash (sha256 : Sha256) (subject : EvidenceSubject) : Bytes32 := sha256 subject.preimage

structure EvidencePacket where
  packetHash : Bytes32
  kind : EvidenceKind
  offenderNodeId : Bytes32
  epoch : U64
  slot : U64
  severity : MisbehaviorSeverity
  proposedSlashBps : U32
  evidenceHashes : List Bytes32
  description : String
  requiresGovernance : Bool
  recommendSuspension : Bool
  linkedBatchId : Option Bytes32
deriving DecidableEq

structure PenaltyRecommendation where
  nodeId : Bytes32
  reason : String
  slashBps : U32
  suspendEpochs : U64
  ban : Bool
  governanceEscalation : Bool
deriving DecidableEq

structure MisbehaviorIncidentInput where
  mtype : MisbehaviorType
  offenderNodeId : Bytes32
  epoch : U64
  slot : U64
  evidenceHashes : List Bytes32
  linkedBatchId : Option Bytes32
  penalty : Option PenaltyRecommendation
deriving DecidableEq

namespace EvidencePacket

def subject (packet : EvidencePacket) : EvidenceSubject :=
  ⟨packet.kind, packet.offenderNodeId, packet.epoch, packet.evidenceHashes⟩

def fromMisbehavior (sha256 : Sha256) (mtype : MisbehaviorType) (nodeId : Bytes32) (epoch slot : U64)
    (evidenceHashes : List Bytes32) (linkedBatchId : Option Bytes32) : EvidencePacket :=
  let kind := EvidenceKind.fromMisbehaviorType mtype
  let severity := mtype.defaultSeverity
  let evidenceHashes := evidenceHashes.insertionSort (· ≤ ·)
  let (requiresGovernance, recommendSuspension) :=
    match severity with
    | .critical => (true, true)
    | .severe => (true, true)
    | .moderate => (false, false)
    | .minor => (false, false)
  let proposedSlashBps :=
    match severity with
    | .critical => kind.baseSlashBps
    | .severe => kind.baseSlashBps / 2
    | .moderate => kind.baseSlashBps / 5
    | .minor => 0
  { packetHash := computePacketHash sha256 ⟨kind, nodeId, epoch, evidenceHashes⟩
    kind
    offenderNodeId := nodeId
    epoch
    slot
    severity
    proposedSlashBps
    evidenceHashes
    description := mtype.debug ++ " at epoch=" ++ toString epoch.toNat ++ " slot=" ++ toString slot.toNat
    requiresGovernance
    recommendSuspension
    linkedBatchId }

def verify (sha256 : Sha256) (packet : EvidencePacket) : Bool :=
  computePacketHash sha256 packet.subject = packet.packetHash

def Agrees (p q : EvidencePacket) : Prop :=
  p.kind = q.kind ∧ p.offenderNodeId = q.offenderNodeId ∧ p.epoch = q.epoch ∧ p.slot = q.slot ∧
    p.severity = q.severity ∧ p.proposedSlashBps = q.proposedSlashBps ∧
    p.linkedBatchId = q.linkedBatchId ∧ p.evidenceHashes.Perm q.evidenceHashes

end EvidencePacket

structure PenaltyRecommendationRecord where
  packetHash : Bytes32
  offenderNodeId : Bytes32
  slashBps : U32
  suspendEpochs : U64
  ban : Bool
  requiresGovernanceVote : Bool
  reason : String
  epoch : U64
deriving DecidableEq

def PenaltyRecommendationRecord.fromPenalty (packetHash : Bytes32) (rec : PenaltyRecommendation)
    (epoch : U64) : PenaltyRecommendationRecord where
  packetHash := packetHash
  offenderNodeId := rec.nodeId
  slashBps := rec.slashBps
  suspendEpochs := rec.suspendEpochs
  ban := rec.ban
  requiresGovernanceVote := rec.governanceEscalation
  reason := rec.reason
  epoch := epoch

structure EvidencePacketSet where
  epoch : U64
  packets : List EvidencePacket
  penaltyRecords : List PenaltyRecommendationRecord
  setHash : Bytes32
deriving DecidableEq

namespace EvidencePacketSet

def computeSetHash (sha256 : Sha256) (epoch : U64) (packets : List EvidencePacket) : Bytes32 :=
  sha256 (beBytes 8 epoch ++
    ((packets.map EvidencePacket.packetHash).insertionSort (· ≤ ·)).flatMap (beBytes 32))

def new (sha256 : Sha256) (epoch : U64) (packets : List EvidencePacket)
    (penaltyRecords : List PenaltyRecommendationRecord) : EvidencePacketSet :=
  ⟨epoch, packets, penaltyRecords, computeSetHash sha256 epoch packets⟩

end EvidencePacketSet

inductive EscalationSeverity where
  | severe
  | critical
deriving DecidableEq

def EscalationSeverity.debug : EscalationSeverity → String
  | severe => "Severe"
  | critical => "Critical"

inductive EscalationAction where
  | suspendFromCommittee (epochs : U64)
  | permanentBan
  | committeeFreeze (committeeEpoch : U64)
  | governanceReview
deriving DecidableEq

def EscalationAction.actionTag : EscalationAction → String
  | suspendFromCommittee _ => "suspend_committee"
  | permanentBan => "permanent_ban"
  | committeeFreeze _ => "committee_freeze"
  | governanceReview => "governance_review"

structure GovernanceEscalationRecord where
  escalationId : Bytes32
  offenderNodeId : Bytes32
  evidencePacketHash : Bytes32
  epoch : U64
  severity : EscalationSeverity
  recommendedAction : EscalationAction
  rationale : String
  blockPendingGovernance : Bool
deriving DecidableEq

namespace GovernanceEscalationRecord

def computeEscalationId (sha256 : Sha256) (offender : Bytes32) (epoch : U64) (evidenceHash : Bytes32) :
    Bytes32 :=
  sha256 (strBytes "esc" ++ beBytes 32 offender ++ beBytes 8 epoch ++ beBytes 32 evidenceHash)

def fromEvidence (sha256 : Sha256) (packet : EvidencePacket) (action : EscalationAction)
    (blockPendingGovernance : Bool) : GovernanceEscalationRecord :=
  let severity : EscalationSeverity :=
    match packet.severity with
    | .critical => .critical
    | .severe => .severe
    | _ => .severe
  { escalationId := computeEscalationId sha256 packet.offenderNodeId packet.epoch packet.packetHash
    offenderNodeId := packet.offenderNodeId
    evidencePacketHash := packet.packetHash
    epoch := packet.epoch
    severity
    recommendedAction := action
    rationale := "PoSeq misbehavior detected: " ++ packet.kind.debug ++ " at epoch=" ++
      toString packet.epoch.toNat ++ " slot=" ++ toString packet.slot.toNat ++ ". Evidence hashes: " ++
      ", ".intercalate (packet.evidenceHashes.map fun hash => hexEncode ((beBytes 32 hash).take 4)) ++
      ". Severity: " ++ severity.debug ++ ". Recommended action: " ++ action.actionTag ++ "."
    blockPendingGovernance }

end GovernanceEscalationRecord

structure CommitteeSuspensionRecommendation where
  nodeId : Bytes32
  suspendFromEpoch : U64
  suspendUntilEpoch : U64
  evidencePacketHash : Bytes32
  reason : String
deriving DecidableEq

def CommitteeSuspensionRecommendation.new (nodeId : Bytes32) (currentEpoch suspendEpochs : U64)
    (packetHash : Bytes32) (reason : String) : CommitteeSuspensionRecommendation :=
  ⟨nodeId, currentEpoch, currentEpoch + suspendEpochs, packetHash, reason⟩

structure DuplicateEvidenceGuard where
  seen : BTreeSet Bytes32

namespace DuplicateEvidenceGuard

def new : DuplicateEvidenceGuard := ⟨∅⟩

def isSeen (guard : DuplicateEvidenceGuard) (packetHash : Bytes32) : Bool := guard.seen.contains packetHash

def register (guard : DuplicateEvidenceGuard) (packet : EvidencePacket) : Bool × DuplicateEvidenceGuard :=
  (!guard.isSeen packet.packetHash, ⟨guard.seen.insert packet.packetHash⟩)

end DuplicateEvidenceGuard

structure EpochStateReference where
  epoch : U64
  committeeHash : Bytes32
  finalizedBatchCount : U64
  misbehaviorCount : U32
  evidencePacketCount : U32
  governanceEscalations : U32
  epochStateHash : Bytes32
deriving DecidableEq

namespace EpochStateReference

def computeEpochStateHash (sha256 : Sha256) (epoch : U64) (committeeHash : Bytes32)
    (finalizedBatchCount : U64) : Bytes32 :=
  sha256 (strBytes "epoch" ++ beBytes 8 epoch ++ beBytes 32 committeeHash ++ beBytes 8 finalizedBatchCount)

def new (sha256 : Sha256) (epoch : U64) (committeeHash : Bytes32) (finalizedBatchCount : U64)
    (misbehaviorCount evidencePacketCount governanceEscalations : U32) : EpochStateReference :=
  ⟨epoch, committeeHash, finalizedBatchCount, misbehaviorCount, evidencePacketCount, governanceEscalations,
    computeEpochStateHash sha256 epoch committeeHash finalizedBatchCount⟩

end EpochStateReference

structure BatchFinalityReference where
  batchId : Bytes32
  slot : U64
  epoch : U64
  finalizationHash : Bytes32
  submissionCount : U64
  quorumApprovals : U64
  committeeSize : U64
deriving DecidableEq

structure CheckpointAnchorRecord where
  checkpointId : Bytes32
  epoch : U64
  slot : U64
  epochStateHash : Bytes32
  bridgeStateHash : Bytes32
  misbehaviorCount : U32
  finalitySummary : BatchFinalityReference
  anchorHash : Bytes32
deriving DecidableEq

structure ExportBatch where
  epoch : U64
  evidenceSet : EvidencePacketSet
  escalations : List GovernanceEscalationRecord
  suspensions : List CommitteeSuspensionRecommendation
  checkpointAnchor : Option CheckpointAnchorRecord
  epochState : EpochStateReference
deriving DecidableEq

structure ExportResult where
  epoch : U64
  evidencePackaged : Nat
  evidenceDeduplicated : Nat
  escalations : Nat
  suspensions : Nat
  hasCheckpoint : Bool
deriving DecidableEq

structure ChainBridgeExporter where
  dedupGuard : DuplicateEvidenceGuard

/-- The locals of the export loop, with the guard. -/
structure Packaging where
  dedupGuard : DuplicateEvidenceGuard
  packets : List EvidencePacket
  penaltyRecords : List PenaltyRecommendationRecord
  escalations : List GovernanceEscalationRecord
  suspensions : List CommitteeSuspensionRecommendation
  dedupCount : Nat

namespace MisbehaviorIncidentInput

def packet (sha256 : Sha256) (incident : MisbehaviorIncidentInput) : EvidencePacket :=
  EvidencePacket.fromMisbehavior sha256 incident.mtype incident.offenderNodeId incident.epoch incident.slot
    incident.evidenceHashes incident.linkedBatchId

def penaltyRecords (sha256 : Sha256) (epoch : U64) (incident : MisbehaviorIncidentInput) :
    List PenaltyRecommendationRecord :=
  match incident.penalty with
  | some penalty => [.fromPenalty (incident.packet sha256).packetHash penalty epoch]
  | none => []

def escalations (sha256 : Sha256) (incident : MisbehaviorIncidentInput) : List GovernanceEscalationRecord :=
  match incident.mtype.defaultSeverity with
  | .critical =>
      let action : EscalationAction :=
        if incident.mtype = .equivocation ∨ incident.mtype = .slotHijackingAttempt ∨
            incident.mtype = .replayAttack ∨ incident.mtype = .runtimeBridgeAbuse then .permanentBan
        else .suspendFromCommittee 10
      [.fromEvidence sha256 (incident.packet sha256) action true]
  | .severe => [.fromEvidence sha256 (incident.packet sha256) (.suspendFromCommittee 5) true]
  | _ => []

def suspensions (sha256 : Sha256) (epoch : U64) (incident : MisbehaviorIncidentInput) :
    List CommitteeSuspensionRecommendation :=
  match incident.mtype.defaultSeverity with
  | .critical =>
      [.new incident.offenderNodeId epoch 10 (incident.packet sha256).packetHash
        ("Critical misbehavior: " ++ incident.mtype.debug)]
  | .severe =>
      [.new incident.offenderNodeId epoch 5 (incident.packet sha256).packetHash
        ("Severe misbehavior: " ++ incident.mtype.debug)]
  | _ => []

def subject (incident : MisbehaviorIncidentInput) : EvidenceSubject :=
  ⟨.fromMisbehaviorType incident.mtype, incident.offenderNodeId, incident.epoch, incident.evidenceHashes⟩

end MisbehaviorIncidentInput

namespace ChainBridgeExporter

section Exporting

variable (sha256 : Sha256)

def packageIncident (epoch : U64) (made : Packaging) (incident : MisbehaviorIncidentInput) : Packaging :=
  let packet := incident.packet sha256
  let (new, dedupGuard) := made.dedupGuard.register packet
  if !new then { made with dedupGuard, dedupCount := made.dedupCount + 1 }
  else
    { dedupGuard
      packets := made.packets ++ [packet]
      penaltyRecords := made.penaltyRecords ++ incident.penaltyRecords sha256 epoch
      escalations := made.escalations ++ incident.escalations sha256
      suspensions := made.suspensions ++ incident.suspensions sha256 epoch
      dedupCount := made.dedupCount }

def package (exporter : ChainBridgeExporter) (epoch : U64) (incidents : List MisbehaviorIncidentInput) :
    Packaging :=
  incidents.foldl (packageIncident sha256 epoch) ⟨exporter.dedupGuard, [], [], [], [], 0⟩

def exportEpoch (exporter : ChainBridgeExporter) (epoch : U64) (incidents : List MisbehaviorIncidentInput)
    (committeeHash : Bytes32) (finalizedBatchCount : U64)
    (checkpointAnchor : Option CheckpointAnchorRecord) :
    (ExportBatch × ExportResult) × ChainBridgeExporter :=
  let made := exporter.package sha256 epoch incidents
  (({ epoch
      evidenceSet := .new sha256 epoch made.packets made.penaltyRecords
      escalations := made.escalations
      suspensions := made.suspensions
      checkpointAnchor
      epochState := .new sha256 epoch committeeHash finalizedBatchCount
        (BitVec.ofNat 32 incidents.length) (BitVec.ofNat 32 made.packets.length)
        (BitVec.ofNat 32 made.escalations.length) },
    { epoch
      evidencePackaged := made.packets.length
      evidenceDeduplicated := made.dedupCount
      escalations := made.escalations.length
      suspensions := made.suspensions.length
      hasCheckpoint := checkpointAnchor.isSome }),
    ⟨made.dedupGuard⟩)

end Exporting

end ChainBridgeExporter

section Hashes

theorem EvidenceKind.kindTag_injective : Function.Injective EvidenceKind.kindTag := by
  intro a b same
  cases a <;> cases b <;> first | rfl | exact absurd same (by decide)

theorem insertionSort_eq_iff {a b : List Bytes32} :
    a.insertionSort (· ≤ ·) = b.insertionSort (· ≤ ·) ↔ a.Perm b := by
  constructor
  · intro same
    exact (List.perm_insertionSort _ a).symm.trans (same ▸ List.perm_insertionSort _ b)
  · intro perm
    apply List.Perm.eq_of_pairwise' (List.pairwise_insertionSort _ a) (List.pairwise_insertionSort _ b)
    exact (List.perm_insertionSort _ a).trans (perm.trans (List.perm_insertionSort _ b).symm)

theorem flatMap_beBytes_injective {a b : List Bytes32}
    (same : a.flatMap (beBytes 32) = b.flatMap (beBytes 32)) : a = b := by
  have digests := @beBytes_code 32 256 (by decide)
  have size : a.length = b.length := by
    have lengths := congrArg List.length same
    rw [PrefixCode.length_flatMap_of_length (length_beBytes 32),
      PrefixCode.length_flatMap_of_length (length_beBytes 32)] at lengths
    omega
  have same : a.flatMap (beBytes 32) ++ [] = b.flatMap (beBytes 32) ++ [] := by rw [same]
  exact (digests.flatMap size same).1

theorem EvidenceSubject.preimage_eq_iff {a b : EvidenceSubject} : a.preimage = b.preimage ↔ a.Same b := by
  unfold preimage Same
  constructor
  · intro same
    obtain ⟨tag, same⟩ := List.cons.inj same
    rw [List.append_assoc, List.append_assoc] at same
    obtain ⟨nodeId, same⟩ := @beBytes_code 32 256 (by decide) _ _ _ _ same
    obtain ⟨epoch, same⟩ := @beBytes_code 8 64 (by decide) _ _ _ _ same
    exact ⟨EvidenceKind.kindTag_injective tag, nodeId, epoch,
      insertionSort_eq_iff.1 (flatMap_beBytes_injective same)⟩
  · rintro ⟨kind, nodeId, epoch, evidence⟩
    rw [kind, nodeId, epoch, insertionSort_eq_iff.2 evidence]

end Hashes

namespace MisbehaviorIncidentInput

variable {sha256 : Sha256} {a b : MisbehaviorIncidentInput}

theorem packetHash_packet (incident : MisbehaviorIncidentInput) :
    (incident.packet sha256).packetHash = computePacketHash sha256 incident.subject := by
  show sha256 _ = sha256 _
  congr 1
  exact EvidenceSubject.preimage_eq_iff.2 ⟨rfl, rfl, rfl, List.perm_insertionSort _ _⟩

theorem debug_injective : Function.Injective MisbehaviorType.debug := by
  intro a b same
  cases a <;> cases b <;> simp [MisbehaviorType.debug] at same ⊢

theorem mtype_of_description (epoch : a.epoch = b.epoch) (slot : a.slot = b.slot)
    (description : (a.packet sha256).description = (b.packet sha256).description) : a.mtype = b.mtype := by
  apply debug_injective
  change a.mtype.debug ++ " at epoch=" ++ toString a.epoch.toNat ++ " slot=" ++ toString a.slot.toNat =
    b.mtype.debug ++ " at epoch=" ++ toString b.epoch.toNat ++ " slot=" ++ toString b.slot.toNat
    at description
  rw [epoch, slot] at description
  have chars := congrArg String.toList description
  simp only [String.toList_append, List.append_assoc, List.append_cancel_right_eq] at chars
  exact String.toList_inj.1 chars

theorem of_packet_eq (same : a.packet sha256 = b.packet sha256) :
    a.mtype = b.mtype ∧ a.slot = b.slot ∧ a.linkedBatchId = b.linkedBatchId := by
  have epoch : a.epoch = b.epoch := congrArg EvidencePacket.epoch same
  have slot : a.slot = b.slot := congrArg EvidencePacket.slot same
  exact ⟨mtype_of_description epoch slot (congrArg EvidencePacket.description same), slot,
    congrArg EvidencePacket.linkedBatchId same⟩

section Alike

variable (same : a.subject.Same b.subject) (mtype : a.mtype = b.mtype) (slot : a.slot = b.slot)
  (linked : a.linkedBatchId = b.linkedBatchId)

include same mtype slot linked

theorem packet_eq : a.packet sha256 = b.packet sha256 := by
  obtain ⟨-, nodeId, epoch, evidence⟩ := same
  change a.offenderNodeId = b.offenderNodeId at nodeId
  change a.epoch = b.epoch at epoch
  have sorted : a.evidenceHashes.insertionSort (· ≤ ·) = b.evidenceHashes.insertionSort (· ≤ ·) :=
    insertionSort_eq_iff.2 evidence
  unfold packet EvidencePacket.fromMisbehavior
  rw [mtype, slot, linked, nodeId, epoch, sorted]

theorem escalations_eq : a.escalations sha256 = b.escalations sha256 := by
  unfold escalations
  rw [packet_eq same mtype slot linked, mtype]

theorem suspensions_eq (epoch : U64) : a.suspensions sha256 epoch = b.suspensions sha256 epoch := by
  have nodeId : a.offenderNodeId = b.offenderNodeId := same.2.1
  unfold suspensions
  rw [packet_eq same mtype slot linked, mtype, nodeId]

end Alike

end MisbehaviorIncidentInput

namespace ChainBridgeExporter

variable {sha256 : Sha256} {exporter : ChainBridgeExporter} {epoch : U64}
  {incidents : List MisbehaviorIncidentInput}

def kept (sha256 : Sha256) (seen : DuplicateEvidenceGuard) (incidents : List MisbehaviorIncidentInput) :
    List MisbehaviorIncidentInput :=
  Choice.firsts (fun incident => computePacketHash sha256 incident.subject) seen.isSeen incidents

theorem isSeen_register (seen : DuplicateEvidenceGuard) (packet : EvidencePacket) :
    (seen.register packet).2.isSeen = fun hash => seen.isSeen hash || hash = packet.packetHash := by
  funext hash
  unfold DuplicateEvidenceGuard.register DuplicateEvidenceGuard.isSeen
  rw [Std.ExtTreeSet.contains_insert, Bool.or_comm, Bool.eq_iff_iff]
  simp only [Bool.or_eq_true, beq_iff_eq, Std.LawfulEqCmp.compare_eq_iff_eq, decide_eq_true_eq]
  rw [@eq_comm _ hash]

theorem kept_cons (seen : DuplicateEvidenceGuard) (incident : MisbehaviorIncidentInput) :
    kept sha256 seen (incident :: incidents) =
      if seen.isSeen (computePacketHash sha256 incident.subject) then
        kept sha256 (seen.register (incident.packet sha256)).2 incidents
      else incident :: kept sha256 (seen.register (incident.packet sha256)).2 incidents := by
  unfold kept
  rw [Choice.firsts, isSeen_register, incident.packetHash_packet]
  split
  · rename_i already
    -- To register a hash again changes nothing.
    congr 1
    funext hash
    by_cases same : hash = computePacketHash sha256 incident.subject
    · rw [same, already, Bool.true_or]
    · rw [decide_eq_false same, Bool.or_false]
  · rfl

theorem foldl_packageIncident (made : Packaging) :
    (incidents.foldl (packageIncident sha256 epoch) made).packets =
        made.packets ++ (kept sha256 made.dedupGuard incidents).map (·.packet sha256) ∧
      (incidents.foldl (packageIncident sha256 epoch) made).escalations =
        made.escalations ++ (kept sha256 made.dedupGuard incidents).flatMap (·.escalations sha256) ∧
      (incidents.foldl (packageIncident sha256 epoch) made).suspensions =
        made.suspensions ++ (kept sha256 made.dedupGuard incidents).flatMap (·.suspensions sha256 epoch) := by
  induction incidents generalizing made with
  | nil => simp [kept, Choice.firsts]
  | cons incident rest ih =>
      rw [List.foldl_cons]
      obtain ⟨packets, escalations, suspensions⟩ := ih (packageIncident sha256 epoch made incident)
      rw [packets, escalations, suspensions, kept_cons]
      unfold packageIncident
      rw [← incident.packetHash_packet]
      cases seen : made.dedupGuard.isSeen (incident.packet sha256).packetHash <;>
        simp [DuplicateEvidenceGuard.register, seen]

section Order

variable (sha256 exporter epoch incidents)

/-- What is emitted does not depend on the order of the incidents. -/
def OrderFree (committeeHash : Bytes32) (finalizedBatchCount : U64)
    (checkpointAnchor : Option CheckpointAnchorRecord) : Prop :=
  ∀ incidents', incidents.Perm incidents' →
    let batch := (exporter.exportEpoch sha256 epoch incidents committeeHash finalizedBatchCount
      checkpointAnchor).1.1
    let batch' := (exporter.exportEpoch sha256 epoch incidents' committeeHash finalizedBatchCount
      checkpointAnchor).1.1
    (∀ packet, packet ∈ batch.evidenceSet.packets ↔ packet ∈ batch'.evidenceSet.packets) ∧
      (∀ record, record ∈ batch.escalations ↔ record ∈ batch'.escalations) ∧
      ∀ record, record ∈ batch.suspensions ↔ record ∈ batch'.suspensions

/-- The incidents of one subject, as long as it is not reported, are of one type, slot and batch. -/
def Undisputed : Prop :=
  ∀ a ∈ incidents, ∀ b ∈ incidents, a.subject.Same b.subject →
    exporter.dedupGuard.isSeen (computePacketHash sha256 a.subject) = false →
    a.mtype = b.mtype ∧ a.slot = b.slot ∧ a.linkedBatchId = b.linkedBatchId

end Order

theorem orderFree_iff {committeeHash : Bytes32} {finalizedBatchCount : U64}
    {checkpointAnchor : Option CheckpointAnchorRecord} :
    exporter.OrderFree sha256 epoch incidents committeeHash finalizedBatchCount checkpointAnchor ↔
      ∀ incidents', incidents.Perm incidents' →
        (∀ packet, packet ∈ (kept sha256 exporter.dedupGuard incidents).map (·.packet sha256) ↔
          packet ∈ (kept sha256 exporter.dedupGuard incidents').map (·.packet sha256)) ∧
        (∀ record, record ∈ (kept sha256 exporter.dedupGuard incidents).flatMap (·.escalations sha256) ↔
          record ∈ (kept sha256 exporter.dedupGuard incidents').flatMap (·.escalations sha256)) ∧
        ∀ record, record ∈ (kept sha256 exporter.dedupGuard incidents).flatMap (·.suspensions sha256 epoch) ↔
          record ∈ (kept sha256 exporter.dedupGuard incidents').flatMap (·.suspensions sha256 epoch) := by
  have emitted : ∀ incidents,
      (exporter.package sha256 epoch incidents).packets =
          (kept sha256 exporter.dedupGuard incidents).map (·.packet sha256) ∧
        (exporter.package sha256 epoch incidents).escalations =
          (kept sha256 exporter.dedupGuard incidents).flatMap (·.escalations sha256) ∧
        (exporter.package sha256 epoch incidents).suspensions =
          (kept sha256 exporter.dedupGuard incidents).flatMap (·.suspensions sha256 epoch) := by
    intro incidents
    exact foldl_packageIncident ⟨exporter.dedupGuard, [], [], [], [], 0⟩
  apply forall_congr'
  intro incidents'
  obtain ⟨packets, escalations, suspensions⟩ := emitted incidents
  obtain ⟨packets', escalations', suspensions'⟩ := emitted incidents'
  rw [← packets, ← escalations, ← suspensions, ← packets', ← escalations', ← suspensions']
  rfl

section Competing

variable (free : CollisionFree sha256 (incidents.map fun incident => incident.subject.preimage))

include free

theorem same_of_hash {a b : MisbehaviorIncidentInput} (memberA : a ∈ incidents) (memberB : b ∈ incidents)
    (same : computePacketHash sha256 a.subject = computePacketHash sha256 b.subject) :
    a.subject.Same b.subject :=
  EvidenceSubject.preimage_eq_iff.1 (free _ (List.mem_map_of_mem memberA) _ (List.mem_map_of_mem memberB) same)

theorem orderFree_iff_undisputed {committeeHash : Bytes32} {finalizedBatchCount : U64}
    {checkpointAnchor : Option CheckpointAnchorRecord} :
    exporter.OrderFree sha256 epoch incidents committeeHash finalizedBatchCount checkpointAnchor ↔
      exporter.Undisputed sha256 incidents := by
  rw [orderFree_iff]
  constructor
  · intro stable a memberA b memberB same fresh
    refine @MisbehaviorIncidentInput.of_packet_eq sha256 a b ?_
    refine Choice.agree_of_perm ?_ (fun incidents' perm => (stable incidents' perm).1) a memberA b memberB ?_
      fresh
    · intro a b same
      have hashes := congrArg EvidencePacket.packetHash same
      rw [a.packetHash_packet, b.packetHash_packet] at hashes
      exact hashes
    · exact congrArg sha256 (EvidenceSubject.preimage_eq_iff.2 same)
  · intro undisputed incidents' perm
    have agree {β : Type} {yields : MisbehaviorIncidentInput → List β}
        (alike : ∀ a b, a.subject.Same b.subject → a.mtype = b.mtype → a.slot = b.slot →
          a.linkedBatchId = b.linkedBatchId → yields a = yields b) :
        Choice.Agree (fun incident => computePacketHash sha256 incident.subject) exporter.dedupGuard.isSeen
          yields incidents := by
      intro a memberA b memberB hashes fresh
      have same := same_of_hash free memberA memberB hashes
      obtain ⟨mtype, slot, linked⟩ := undisputed a memberA b memberB same fresh
      exact alike a b same mtype slot linked
    simp only [List.map_eq_flatMap]
    refine ⟨?_, ?_, ?_⟩
    · intro packet
      refine Choice.mem_flatMap_firsts_perm perm (agree ?_)
      intro a b same mtype slot linked
      rw [MisbehaviorIncidentInput.packet_eq same mtype slot linked]
    · intro record
      refine Choice.mem_flatMap_firsts_perm perm (agree ?_)
      intro a b same mtype slot linked
      exact MisbehaviorIncidentInput.escalations_eq same mtype slot linked
    · intro record
      refine Choice.mem_flatMap_firsts_perm perm (agree ?_)
      intro a b same mtype slot linked
      exact MisbehaviorIncidentInput.suspensions_eq same mtype slot linked epoch

end Competing

end ChainBridgeExporter

theorem EvidencePacket.verify_iff {sha256 : Sha256} {packet : EvidencePacket} :
    packet.verify sha256 = true ↔ sha256 packet.subject.preimage = packet.packetHash :=
  decide_eq_true_iff

theorem EvidencePacket.agrees_iff {sha256 : Sha256} {p q : EvidencePacket}
    (free : sha256 p.subject.preimage = sha256 q.subject.preimage → p.subject.preimage = q.subject.preimage) :
    (p.packetHash = q.packetHash → p.verify sha256 = true → q.verify sha256 = true → p.Agrees q) ↔
      (p.verify sha256 = true → q.verify sha256 = true → p.subject.Same q.subject →
        p.slot = q.slot ∧ p.severity = q.severity ∧ p.proposedSlashBps = q.proposedSlashBps ∧
          p.linkedBatchId = q.linkedBatchId) := by
  simp only [verify_iff]
  constructor
  · intro bound hashedP hashedQ same
    have hashes := congrArg sha256 (EvidenceSubject.preimage_eq_iff.2 same)
    obtain ⟨-, -, -, slot, severity, slash, linked, -⟩ :=
      bound (hashedP.symm.trans (hashes.trans hashedQ)) hashedP hashedQ
    exact ⟨slot, severity, slash, linked⟩
  · intro bound hashes hashedP hashedQ
    have same := EvidenceSubject.preimage_eq_iff.1 (free (hashedP.trans (hashes.trans hashedQ.symm)))
    obtain ⟨slot, severity, slash, linked⟩ := bound hashedP hashedQ same
    obtain ⟨kind, nodeId, epoch, evidence⟩ := same
    exact ⟨kind, nodeId, epoch, slot, severity, slash, linked, evidence⟩

/-- Packets are told apart by their hash, and incidents are exported in whatever order they come, just as
far as what the hash leaves out is settled by what it covers. -/
theorem evidence_bound_iff_undisputed (sha256 : Sha256) (p q : EvidencePacket)
    (exporter : ChainBridgeExporter) (epoch : U64) (incidents : List MisbehaviorIncidentInput)
    (committeeHash : Bytes32) (finalizedBatchCount : U64) (checkpointAnchor : Option CheckpointAnchorRecord)
    (free : CollisionFree sha256 (p.subject.preimage :: q.subject.preimage ::
      incidents.map fun incident => incident.subject.preimage)) :
    ((p.packetHash = q.packetHash → p.verify sha256 = true → q.verify sha256 = true → p.Agrees q) ∧
      exporter.OrderFree sha256 epoch incidents committeeHash finalizedBatchCount checkpointAnchor) ↔
    ((p.verify sha256 = true → q.verify sha256 = true → p.subject.Same q.subject →
      p.slot = q.slot ∧ p.severity = q.severity ∧ p.proposedSlashBps = q.proposedSlashBps ∧
        p.linkedBatchId = q.linkedBatchId) ∧
      exporter.Undisputed sha256 incidents) := by
  refine and_congr (EvidencePacket.agrees_iff ?_) (ChainBridgeExporter.orderFree_iff_undisputed ?_)
  · exact free _ List.mem_cons_self _ (List.mem_cons_of_mem _ List.mem_cons_self)
  · intro a memberA b memberB
    exact free a (List.mem_cons_of_mem _ (List.mem_cons_of_mem _ memberA)) b
      (List.mem_cons_of_mem _ (List.mem_cons_of_mem _ memberB))

section Samples

/-- Of these two incidents, the one that comes first decides between a ban and a suspension. -/
def bridgeAbuse : MisbehaviorIncidentInput where
  mtype := .runtimeBridgeAbuse
  offenderNodeId := 7
  epoch := 3
  slot := 12
  evidenceHashes := [1]
  linkedBatchId := none
  penalty := none

def invalidDelivery : MisbehaviorIncidentInput :=
  { bridgeAbuse with mtype := .invalidBatchDeliveryAttempt, slot := 13 }

def longAbsence : MisbehaviorIncidentInput :=
  { bridgeAbuse with mtype := .persistentOmission, evidenceHashes := [2] }

def sampleDigests : Sha256 := fun input =>
  if input = bridgeAbuse.subject.preimage then
    0x920293b6040c4d855e03490830aacf5618b0e7f877cc7a7da642eee7d56c64e6
  else if input = longAbsence.subject.preimage then
    0xb4a4a7d1071dda3506b4508d4b954f9f00dec92cf7d694da9d00d9a74e0f9d29
  else 0

theorem invalidDelivery_preimage : invalidDelivery.subject.preimage = bridgeAbuse.subject.preimage := rfl

theorem longAbsence_preimage_ne : longAbsence.subject.preimage ≠ bridgeAbuse.subject.preimage := by
  intro same
  exact absurd (EvidenceSubject.preimage_eq_iff.1 same).1 (by decide)

theorem sampleDigests_injective :
    sampleDigests bridgeAbuse.subject.preimage ≠ sampleDigests longAbsence.subject.preimage := by
  rw [sampleDigests, sampleDigests, if_pos rfl, if_neg longAbsence_preimage_ne, if_pos rfl]
  decide

end Samples

theorem first_incident_decides :
    CollisionFree sampleDigests ([bridgeAbuse, invalidDelivery].map fun incident => incident.subject.preimage) ∧
      ¬ ((bridgeAbuse.packet sampleDigests).packetHash = (invalidDelivery.packet sampleDigests).packetHash →
        (bridgeAbuse.packet sampleDigests).verify sampleDigests = true →
        (invalidDelivery.packet sampleDigests).verify sampleDigests = true →
        (bridgeAbuse.packet sampleDigests).Agrees (invalidDelivery.packet sampleDigests)) ∧
      ¬ (ChainBridgeExporter.mk .new).OrderFree sampleDigests 3 [bridgeAbuse, invalidDelivery] 0 0 none := by
  have free : CollisionFree sampleDigests
      ([bridgeAbuse, invalidDelivery].map fun incident => incident.subject.preimage) := by
    simp [CollisionFree, invalidDelivery_preimage]
  refine ⟨free, ?_, ?_⟩
  · intro bound
    have agrees := bound rfl (EvidencePacket.verify_iff.2 rfl) (EvidencePacket.verify_iff.2 rfl)
    exact absurd agrees.2.2.2.1 (by decide)
  · rw [ChainBridgeExporter.orderFree_iff_undisputed free]
    intro undisputed
    obtain ⟨mtype, -, -⟩ := undisputed bridgeAbuse (by simp) invalidDelivery (by simp)
      (EvidenceSubject.preimage_eq_iff.1 invalidDelivery_preimage.symm)
      (by simp [DuplicateEvidenceGuard.isSeen, DuplicateEvidenceGuard.new])
    cases mtype

theorem absence_and_abuse_bound :
    ((bridgeAbuse.packet sampleDigests).packetHash = (longAbsence.packet sampleDigests).packetHash →
      (bridgeAbuse.packet sampleDigests).verify sampleDigests = true →
      (longAbsence.packet sampleDigests).verify sampleDigests = true →
      (bridgeAbuse.packet sampleDigests).Agrees (longAbsence.packet sampleDigests)) ∧
    (ChainBridgeExporter.mk .new).OrderFree sampleDigests 3 [bridgeAbuse, longAbsence] 0 0 none := by
  have differ : ¬ bridgeAbuse.subject.Same longAbsence.subject := by
    intro same
    exact absurd same.1 (by decide)
  refine (evidence_bound_iff_undisputed sampleDigests _ _ _ _ _ _ _ _ ?_).2 ⟨?_, ?_⟩
  · have two : ∀ input ∈ [bridgeAbuse.subject.preimage, longAbsence.subject.preimage,
        bridgeAbuse.subject.preimage, longAbsence.subject.preimage],
        input = bridgeAbuse.subject.preimage ∨ input = longAbsence.subject.preimage := by
      simp
    intro a memberA b memberB same
    rcases two a memberA with rfl | rfl <;> rcases two b memberB with rfl | rfl
    · rfl
    · exact absurd same sampleDigests_injective
    · exact absurd same.symm sampleDigests_injective
    · rfl
  · intro _ _ same
    exact absurd same differ
  · intro a memberA b memberB same _
    rcases List.mem_pair.1 memberA with rfl | rfl <;> rcases List.mem_pair.1 memberB with rfl | rfl
    · exact ⟨rfl, rfl, rfl⟩
    · exact absurd same differ
    · exact absurd same.1 (by decide)
    · exact ⟨rfl, rfl, rfl⟩

end Omniphi.PoSeq
