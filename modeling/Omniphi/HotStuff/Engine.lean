import Omniphi.HotStuff.Pacemaker

/-! The consensus state machine. Each handler takes the engine and a message and returns the new
engine with what the node is asked to send. -/

namespace Omniphi.HotStuff

inductive HotStuffOutput
  | none
  | sendVote (vote : HotStuffVote)
  | broadcastQC (qc : QuorumCertificate)
  | sendNewView (message : NewViewMessage)
  | finalize (block : HotStuffBlock)
  | multi (outputs : List HotStuffOutput)

namespace HotStuffOutput

mutual
def leaves : HotStuffOutput → List HotStuffOutput
  | none => []
  | sendVote vote => [sendVote vote]
  | broadcastQC qc => [broadcastQC qc]
  | sendNewView message => [sendNewView message]
  | finalize block => [finalize block]
  | multi outputs => leavesOf outputs

def leavesOf : List HotStuffOutput → List HotStuffOutput
  | [] => []
  | output :: outputs => leaves output ++ leavesOf outputs
end

attribute [simp] leaves leavesOf

end HotStuffOutput

structure HotStuffEngine where
  selfId : NodeId
  quorumThreshold : Nat
  safety : SafetyRule
  pacemaker : Pacemaker
  pendingBlock : Option HotStuffBlock
  votes : BTreeMap (View × Phase) (List HotStuffVote)
  newViews : List NewViewMessage
  voted : BTreeMap (View × Phase) Bool
  decidedBlocks : BTreeMap View Bytes32

namespace HotStuffEngine

def new (selfId : NodeId) (quorumThreshold : Nat) (baseTimeoutMs : U64) : HotStuffEngine :=
  { selfId, quorumThreshold
    safety := .new
    pacemaker := .new baseTimeoutMs
    pendingBlock := none
    votes := ∅
    newViews := []
    voted := ∅
    decidedBlocks := ∅ }

def bucket (engine : HotStuffEngine) (view : View) (phase : Phase) : List HotStuffVote :=
  engine.votes[(view, phase)]?.getD []

def unsignedVoteSig : Bytes := []

def onBlock (engine : HotStuffEngine) (block : HotStuffBlock) : HotStuffEngine × HotStuffOutput :=
  let view := block.view
  if view < engine.pacemaker.currentView then (engine, .none)
  else
    let engine := { engine with
      safety := (engine.safety.noteHighQc block.justifyQc).advanceView view
      pacemaker := engine.pacemaker.resetViewTimer view }
    if !engine.safety.safeToVote block then (engine, .none)
    else
      let engine := { engine with pendingBlock := some block }
      let key := (view, Phase.prepare)
      if engine.voted.contains key then (engine, .none)
      else
        ({ engine with
            voted := engine.voted.insert key true
            safety := engine.safety.recordVote view
            pacemaker := engine.pacemaker.onVoted },
         .sendVote
          { view, blockId := block.blockId, phase := .prepare, voterId := engine.selfId,
            signature := unsignedVoteSig })

def onVote (engine : HotStuffEngine) (vote : HotStuffVote) : HotStuffEngine × HotStuffOutput :=
  let view := vote.view
  let phase := vote.phase
  let entry := engine.bucket view phase
  if entry.any fun v => v.voterId = vote.voterId then (engine, .none)
  else
    let entry := entry ++ [vote]
    let engine := { engine with votes := engine.votes.insert (view, phase) entry }
    if entry.length < engine.quorumThreshold then (engine, .none)
    else
      -- The certificate takes the block of the last vote and the signatures of the whole bucket.
      let qc : QuorumCertificate :=
        { view, blockId := vote.blockId, phase
          signatures := entry.map fun v => (v.voterId, v.signature) }
      match phase with
      | .prepare => ({ engine with safety := engine.safety.updateHighQc qc }, .broadcastQC qc)
      | .preCommit => ({ engine with safety := engine.safety.lock qc }, .broadcastQC qc)
      | .commit =>
        match engine.pendingBlock with
        | none => (engine, .broadcastQC qc)
        | some block =>
          if block.blockId = vote.blockId then
            if engine.decidedBlocks.contains view then (engine, .none)
            else
              ({ engine with
                  decidedBlocks := engine.decidedBlocks.insert view block.blockId
                  pacemaker := engine.pacemaker.onDecide },
               .multi [.broadcastQC qc, .finalize block])
          else (engine, .broadcastQC qc)
      | .decide => (engine, .none)

def onQc (engine : HotStuffEngine) (qc : QuorumCertificate) : HotStuffEngine × HotStuffOutput :=
  let view := qc.view
  match qc.phase.next with
  | none => (engine, .none)
  | some nextPhase =>
    let safety := engine.safety.updateHighQc qc
    let safety := if qc.phase = .preCommit then safety.lock qc else safety
    let engine := { engine with safety }
    let key := (view, nextPhase)
    if engine.voted.contains key then (engine, .none)
    else if qc.phase = .commit then
      match engine.pendingBlock with
      | some block =>
        if block.blockId = qc.blockId ∧ ¬ engine.decidedBlocks.contains view then
          ({ engine with
              decidedBlocks := engine.decidedBlocks.insert view block.blockId
              pacemaker := engine.pacemaker.onDecide },
           .finalize block)
        else (engine, .none)
      | none => (engine, .none)
    else
      ({ engine with
          voted := engine.voted.insert key true
          safety := engine.safety.recordVote view },
       .sendVote
        { view, blockId := qc.blockId, phase := nextPhase, voterId := engine.selfId,
          signature := unsignedVoteSig })

def clearViewState (engine : HotStuffEngine) : HotStuffEngine :=
  let v := engine.pacemaker.currentView
  { engine with
    votes := engine.votes.filter fun key _ => v ≤ key.1
    voted := engine.voted.filter fun key _ => v ≤ key.1
    newViews := []
    pendingBlock := engine.pendingBlock.filter fun block => v ≤ block.view }

def onNewView (engine : HotStuffEngine) (nv : NewViewMessage) : HotStuffEngine × HotStuffOutput :=
  if engine.newViews.any fun n => n.senderId = nv.senderId then (engine, .none)
  else
    let newViews := engine.newViews ++ [nv]
    let engine := { engine with
      newViews
      safety := engine.safety.noteHighQc (Pacemaker.selectHighQc newViews) }
    if !Pacemaker.newViewQuorumReached engine.newViews engine.quorumThreshold then (engine, .none)
    else
      let engine := { engine with
        pacemaker := engine.pacemaker.resetViewTimer nv.newView
        safety := engine.safety.advanceView nv.newView }
      (engine.clearViewState, .none)

def onTimeout (engine : HotStuffEngine) : HotStuffEngine × HotStuffOutput :=
  let (pacemaker, nv) := engine.pacemaker.advanceView engine.selfId engine.safety
  (({ engine with pacemaker }).clearViewState, .sendNewView nv)

def propose (sha256 : Sha256) (engine : HotStuffEngine) (parentBlockId batchRoot : Bytes32)
    (orderedSubmissionIds : List Bytes32) : HotStuffEngine × HotStuffBlock :=
  let view := engine.pacemaker.currentView
  let block : HotStuffBlock :=
    { blockId := HotStuffBlock.computeId sha256 parentBlockId batchRoot view engine.selfId
      parentId := parentBlockId
      view
      leaderId := engine.selfId
      batchRoot
      orderedSubmissionIds
      justifyQc := some engine.safety.highQc }
  ({ engine with pendingBlock := some block }, block)

section Persistence

/-- The serialised form of the locking state. `fromBytes` may fail on bytes that `toBytes` did not
write. -/
structure RuleCodec (β : Type) where
  toBytes : SafetyRule → β
  fromBytes : β → Option SafetyRule
  roundTrip : ∀ rule, fromBytes (toBytes rule) = some rule

variable {β : Type} (codec : RuleCodec β)

def persistSafetyRule (engine : HotStuffEngine) (_stored : Option β) : Option β :=
  some (codec.toBytes engine.safety)

def restoreSafetyRule (engine : HotStuffEngine) (stored : Option β) : HotStuffEngine × Bool :=
  match stored with
  | some bytes =>
    match codec.fromBytes bytes with
    | some rule =>
      ({ engine with
          safety := rule
          pacemaker := engine.pacemaker.resetViewTimer rule.currentView }, true)
    | none => (engine, false)
  | none => (engine, false)

end Persistence

end HotStuffEngine

end Omniphi.HotStuff
