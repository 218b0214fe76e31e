import Omniphi.HotStuff.Types

/-! View advancement. Wall-clock time is left out: a timeout is a call the environment may make at
any moment, and the durations kept here are milliseconds. -/

namespace Omniphi.HotStuff

inductive ViewState
  | awaitingProposal
  | voted
  | decided
  | timedOut
deriving DecidableEq, Repr

structure Pacemaker where
  currentView : View
  state : ViewState
  currentTimeout : Nat
  baseTimeout : Nat
  maxTimeout : Nat
  consecutiveTimeouts : U32
  totalViewChanges : U64
deriving DecidableEq

namespace Pacemaker

def new (baseTimeoutMs : U64) : Pacemaker :=
  { currentView := 1
    state := .awaitingProposal
    currentTimeout := baseTimeoutMs.toNat
    baseTimeout := baseTimeoutMs.toNat
    maxTimeout := baseTimeoutMs.toNat * 32
    consecutiveTimeouts := 0
    totalViewChanges := 0 }

def advanceView (pacemaker : Pacemaker) (selfId : NodeId) (safety : SafetyRule) :
    Pacemaker × NewViewMessage :=
  let view := pacemaker.currentView + 1
  ({ pacemaker with
      currentView := view
      state := .awaitingProposal
      consecutiveTimeouts := pacemaker.consecutiveTimeouts + 1
      totalViewChanges := pacemaker.totalViewChanges + 1
      currentTimeout := min (pacemaker.currentTimeout * 2) pacemaker.maxTimeout },
   { newView := view, highQc := safety.highQc, senderId := selfId })

def onDecide (pacemaker : Pacemaker) : Pacemaker :=
  { pacemaker with
    state := .decided, consecutiveTimeouts := 0, currentTimeout := pacemaker.baseTimeout }

def onVoted (pacemaker : Pacemaker) : Pacemaker := { pacemaker with state := .voted }

def resetViewTimer (pacemaker : Pacemaker) (newView : View) : Pacemaker :=
  if pacemaker.currentView < newView then
    { pacemaker with currentView := newView, state := .awaitingProposal }
  else pacemaker

/-- The certificate of the highest view, the last one among equals (`max_by_key`). -/
def selectHighQc (newViews : List NewViewMessage) : Option QuorumCertificate :=
  newViews.foldl (fun best nv => match best with
    | none => some nv.highQc
    | some qc => if qc.view ≤ nv.highQc.view then some nv.highQc else some qc) none

def newViewQuorumReached (newViews : List NewViewMessage) (threshold : Nat) : Bool :=
  threshold ≤ newViews.length

end Pacemaker

end Omniphi.HotStuff
