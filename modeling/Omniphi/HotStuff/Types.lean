import Omniphi.Basic

/-! The data types of the HotStuff engine and its locking rule. -/

namespace Omniphi.HotStuff

abbrev NodeId := Bytes32
abbrev View := U64

inductive Phase
  | prepare
  | preCommit
  | commit
  | decide
deriving DecidableEq, Repr

namespace Phase

def next : Phase → Option Phase
  | prepare => some preCommit
  | preCommit => some commit
  | commit => some .decide
  | .decide => none

instance : Ord Phase := ⟨compareOn Phase.ctorIdx⟩

instance : Std.TransOrd Phase := inferInstanceAs (Std.TransCmp (compareOn Phase.ctorIdx))

instance : Std.LawfulEqOrd Phase :=
  BTree.lawfulEq_of_injective Phase.ctorIdx (by
    intro a b same
    cases a <;> cases b <;> first | rfl | cases same)

end Phase

instance : Ord (View × Phase) := lexOrd

instance : Std.TransOrd (View × Phase) := BTree.lexTrans

instance : Std.LawfulEqOrd (View × Phase) := BTree.lexLawful

structure QuorumCertificate where
  view : View
  blockId : Bytes32
  phase : Phase
  signatures : List (NodeId × Bytes)
deriving DecidableEq

namespace QuorumCertificate

def genesis : QuorumCertificate :=
  { view := 0, blockId := 0, phase := .decide, signatures := [] }

end QuorumCertificate

structure HotStuffBlock where
  blockId : Bytes32
  parentId : Bytes32
  view : View
  leaderId : NodeId
  batchRoot : Bytes32
  orderedSubmissionIds : List Bytes32
  justifyQc : Option QuorumCertificate
deriving DecidableEq

namespace HotStuffBlock

def computeId (sha256 : Sha256) (parentId batchRoot : Bytes32) (view : View) (leaderId : NodeId) :
    Bytes32 :=
  sha256 (strBytes "HOTSTUFF_BLOCK_V1" ++ beBytes 32 parentId ++ beBytes 32 batchRoot ++
    beBytes 8 view ++ beBytes 32 leaderId)

def extendsDirect (block : HotStuffBlock) (ancestorId : Bytes32) : Bool :=
  block.parentId = ancestorId

end HotStuffBlock

structure HotStuffVote where
  view : View
  blockId : Bytes32
  phase : Phase
  voterId : NodeId
  signature : Bytes
deriving DecidableEq

structure NewViewMessage where
  newView : View
  highQc : QuorumCertificate
  senderId : NodeId
deriving DecidableEq

structure SafetyRule where
  lockedQc : QuorumCertificate
  highQc : QuorumCertificate
  currentView : View
  lastVotedView : View
deriving DecidableEq

namespace SafetyRule

def new : SafetyRule :=
  { lockedQc := .genesis, highQc := .genesis, currentView := 0, lastVotedView := 0 }

/-- The three accepting branches stand in the order of the source; the last one, for blocks that
name the zero parent, is taken under any lock. -/
def safeToVote (rule : SafetyRule) (block : HotStuffBlock) : Bool :=
  if block.view ≤ rule.lastVotedView then false
  else if block.extendsDirect rule.lockedQc.blockId then true
  else match block.justifyQc with
    | some justify => if rule.lockedQc.view < justify.view then true else block.parentId = 0
    | none => block.parentId = 0

def recordVote (rule : SafetyRule) (view : View) : SafetyRule :=
  if rule.lastVotedView < view then { rule with lastVotedView := view } else rule

def updateHighQc (rule : SafetyRule) (qc : QuorumCertificate) : SafetyRule :=
  if rule.highQc.view < qc.view then { rule with highQc := qc } else rule

def noteHighQc (rule : SafetyRule) : Option QuorumCertificate → SafetyRule
  | some qc => rule.updateHighQc qc
  | none => rule

def lock (rule : SafetyRule) (qc : QuorumCertificate) : SafetyRule :=
  if rule.lockedQc.view ≤ qc.view then ({ rule with lockedQc := qc }).updateHighQc qc else rule

def advanceView (rule : SafetyRule) (newView : View) : SafetyRule :=
  if rule.currentView < newView then { rule with currentView := newView } else rule

/-! Every operation but `recordVote` leaves the last voted view alone, and that one only raises it. -/

@[simp] theorem updateHighQc_lastVotedView (rule : SafetyRule) (qc : QuorumCertificate) :
    (rule.updateHighQc qc).lastVotedView = rule.lastVotedView := by
  unfold updateHighQc; split <;> rfl

@[simp] theorem updateHighQc_lockedQc (rule : SafetyRule) (qc : QuorumCertificate) :
    (rule.updateHighQc qc).lockedQc = rule.lockedQc := by
  unfold updateHighQc; split <;> rfl

@[simp] theorem noteHighQc_lastVotedView (rule : SafetyRule) (qc : Option QuorumCertificate) :
    (rule.noteHighQc qc).lastVotedView = rule.lastVotedView := by
  cases qc <;> simp [noteHighQc]

@[simp] theorem noteHighQc_lockedQc (rule : SafetyRule) (qc : Option QuorumCertificate) :
    (rule.noteHighQc qc).lockedQc = rule.lockedQc := by
  cases qc <;> simp [noteHighQc]

@[simp] theorem lock_lastVotedView (rule : SafetyRule) (qc : QuorumCertificate) :
    (rule.lock qc).lastVotedView = rule.lastVotedView := by
  unfold lock; split <;> simp

@[simp] theorem advanceView_lastVotedView (rule : SafetyRule) (view : View) :
    (rule.advanceView view).lastVotedView = rule.lastVotedView := by
  unfold advanceView; split <;> rfl

@[simp] theorem advanceView_lockedQc (rule : SafetyRule) (view : View) :
    (rule.advanceView view).lockedQc = rule.lockedQc := by
  unfold advanceView; split <;> rfl

theorem le_recordVote (rule : SafetyRule) (view : View) :
    rule.lastVotedView ≤ (rule.recordVote view).lastVotedView := by
  unfold recordVote; split <;> bv_omega

theorem recordVote_covers (rule : SafetyRule) (view : View) :
    view ≤ (rule.recordVote view).lastVotedView := by
  unfold recordVote; split <;> bv_omega

end SafetyRule

end Omniphi.HotStuff
