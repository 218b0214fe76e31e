import Omniphi.HotStuff.Equivocation

/-! The five counters of a node: the views of the two certificates it keeps, the last view it voted in, and
the current view, which the locking rule and the pacemaker each keep for themselves. -/

namespace Omniphi.HotStuff

structure Progress where
  safety : SafetyRule
  pacemaker : Pacemaker

namespace Progress

structure Grows (before after : Progress) : Prop where
  locked : before.safety.lockedQc.view ≤ after.safety.lockedQc.view
  high : before.safety.highQc.view ≤ after.safety.highQc.view
  voted : before.safety.lastVotedView ≤ after.safety.lastVotedView
  current : before.safety.currentView ≤ after.safety.currentView
  view : before.pacemaker.currentView ≤ after.pacemaker.currentView

structure Ordered (progress : Progress) : Prop where
  certificates : progress.safety.lockedQc.view ≤ progress.safety.highQc.view
  views : progress.safety.currentView ≤ progress.pacemaker.currentView

structure Advances (before after : Progress) : Prop where
  grows : before.Grows after
  ordered : before.Ordered → after.Ordered

variable {before after last : Progress}

theorem Grows.refl (progress : Progress) : progress.Grows progress :=
  ⟨BitVec.le_refl _, BitVec.le_refl _, BitVec.le_refl _, BitVec.le_refl _, BitVec.le_refl _⟩

theorem Grows.trans (first : before.Grows after) (second : after.Grows last) : before.Grows last where
  locked := BitVec.le_trans first.locked second.locked
  high := BitVec.le_trans first.high second.high
  voted := BitVec.le_trans first.voted second.voted
  current := BitVec.le_trans first.current second.current
  view := BitVec.le_trans first.view second.view

theorem Advances.refl (progress : Progress) : progress.Advances progress :=
  ⟨.refl progress, fun ordered => ordered⟩

theorem Advances.trans (first : before.Advances after) (second : after.Advances last) :
    before.Advances last :=
  ⟨first.grows.trans second.grows, fun ordered => second.ordered (first.ordered ordered)⟩

variable (safety : SafetyRule) (pacemaker : Pacemaker)

theorem advances_recordVote (view : View) :
    Advances ⟨safety, pacemaker⟩ ⟨safety.recordVote view, pacemaker⟩ := by
  unfold SafetyRule.recordVote
  split
  · rename_i later
    exact ⟨⟨BitVec.le_refl _, BitVec.le_refl _, BitVec.le_of_lt later, BitVec.le_refl _, BitVec.le_refl _⟩,
      fun ordered => ⟨ordered.certificates, ordered.views⟩⟩
  · exact .refl _

theorem advances_updateHighQc (qc : QuorumCertificate) :
    Advances ⟨safety, pacemaker⟩ ⟨safety.updateHighQc qc, pacemaker⟩ := by
  unfold SafetyRule.updateHighQc
  split
  · rename_i higher
    exact ⟨⟨BitVec.le_refl _, BitVec.le_of_lt higher, BitVec.le_refl _, BitVec.le_refl _, BitVec.le_refl _⟩,
      fun ordered => ⟨BitVec.le_trans ordered.certificates (BitVec.le_of_lt higher), ordered.views⟩⟩
  · exact .refl _

theorem advances_noteHighQc (qc : Option QuorumCertificate) :
    Advances ⟨safety, pacemaker⟩ ⟨safety.noteHighQc qc, pacemaker⟩ := by
  cases qc with
  | none => exact .refl _
  | some qc => exact advances_updateHighQc safety pacemaker qc

theorem advances_lock (qc : QuorumCertificate) :
    Advances ⟨safety, pacemaker⟩ ⟨safety.lock qc, pacemaker⟩ := by
  unfold SafetyRule.lock
  split
  · rename_i reached
    unfold SafetyRule.updateHighQc
    split
    · rename_i higher
      exact ⟨⟨reached, BitVec.le_of_lt higher, BitVec.le_refl _, BitVec.le_refl _, BitVec.le_refl _⟩,
        fun ordered => ⟨BitVec.le_refl _, ordered.views⟩⟩
    · rename_i covered
      exact ⟨⟨reached, BitVec.le_refl _, BitVec.le_refl _, BitVec.le_refl _, BitVec.le_refl _⟩,
        fun ordered => ⟨BitVec.not_lt.1 covered, ordered.views⟩⟩
  · exact .refl _

theorem advances_pacemaker {other : Pacemaker} (same : other.currentView = pacemaker.currentView) :
    Advances ⟨safety, pacemaker⟩ ⟨safety, other⟩ :=
  ⟨⟨BitVec.le_refl _, BitVec.le_refl _, BitVec.le_refl _, BitVec.le_refl _, BitVec.le_of_eq same.symm⟩,
    fun ordered => ⟨ordered.certificates, BitVec.le_trans ordered.views (BitVec.le_of_eq same.symm)⟩⟩

theorem advances_enter (view : View) :
    Advances ⟨safety, pacemaker⟩ ⟨safety.advanceView view, pacemaker.resetViewTimer view⟩ := by
  have current : safety.currentView ≤ (safety.advanceView view).currentView := by
    unfold SafetyRule.advanceView
    split
    · rename_i later
      exact BitVec.le_of_lt later
    · exact BitVec.le_refl _
  have moved : pacemaker.currentView ≤ (pacemaker.resetViewTimer view).currentView := by
    unfold Pacemaker.resetViewTimer
    split
    · rename_i later
      exact BitVec.le_of_lt later
    · exact BitVec.le_refl _
  have locked : (safety.advanceView view).lockedQc = safety.lockedQc := safety.advanceView_lockedQc view
  have high : (safety.advanceView view).highQc = safety.highQc := by
    unfold SafetyRule.advanceView
    split <;> rfl
  constructor
  · constructor
    · exact BitVec.le_of_eq (congrArg QuorumCertificate.view locked.symm)
    · exact BitVec.le_of_eq (congrArg QuorumCertificate.view high.symm)
    · exact BitVec.le_of_eq (safety.advanceView_lastVotedView view).symm
    · exact current
    · exact moved
  · intro ordered
    constructor
    · rw [locked, high]
      exact ordered.certificates
    · have views := ordered.views
      dsimp only at views ⊢
      unfold SafetyRule.advanceView Pacemaker.resetViewTimer
      split <;> split <;> bv_omega

end Progress

namespace HotStuffEngine

def progress (engine : HotStuffEngine) : Progress := ⟨engine.safety, engine.pacemaker⟩

variable (sha256 : Sha256) (engine : HotStuffEngine)

open Progress

theorem onBlock_advances (block : HotStuffBlock) :
    engine.progress.Advances (engine.onBlock block).1.progress := by
  have entered := (advances_noteHighQc engine.safety engine.pacemaker block.justifyQc).trans
    (advances_enter _ _ block.view)
  unfold onBlock
  dsimp only
  split
  · exact .refl _
  · split
    · exact entered
    · split
      · exact entered
      · exact (entered.trans (advances_recordVote _ _ block.view)).trans (advances_pacemaker _ _ rfl)

theorem onVote_advances (vote : HotStuffVote) :
    engine.progress.Advances (engine.onVote vote).1.progress := by
  unfold onVote
  dsimp only
  split
  · exact .refl _
  · split
    · exact .refl _
    · split
      · exact advances_updateHighQc _ _ _
      · exact advances_lock _ _ _
      · split
        · exact .refl _
        · split
          · split
            · exact .refl _
            · exact advances_pacemaker _ _ rfl
          · exact .refl _
      · exact .refl _

theorem onQc_advances (qc : QuorumCertificate) :
    engine.progress.Advances (engine.onQc qc).1.progress := by
  have noted : engine.progress.Advances ⟨if qc.phase = .preCommit then
      (engine.safety.updateHighQc qc).lock qc else engine.safety.updateHighQc qc, engine.pacemaker⟩ := by
    split
    · exact (advances_updateHighQc _ _ qc).trans (advances_lock _ _ qc)
    · exact advances_updateHighQc _ _ qc
  unfold onQc
  dsimp only
  split
  · exact .refl _
  · split
    · exact noted
    · split
      · split
        · split
          · exact noted.trans (advances_pacemaker _ _ rfl)
          · exact noted
        · exact noted
      · exact noted.trans (advances_recordVote _ _ qc.view)

theorem onNewView_advances (nv : NewViewMessage) :
    engine.progress.Advances (engine.onNewView nv).1.progress := by
  unfold onNewView
  split
  · exact .refl _
  · have noted := advances_noteHighQc engine.safety engine.pacemaker
      (Pacemaker.selectHighQc (engine.newViews ++ [nv]))
    dsimp only
    split
    · exact noted
    · exact noted.trans (advances_enter _ _ nv.newView)

theorem step_advances (call : Call)
    (room : call = .onTimeout → engine.pacemaker.currentView ≠ BitVec.allOnes 64) :
    engine.progress.Advances (engine.step sha256 call).progress := by
  cases call with
  | onBlock block => exact engine.onBlock_advances block
  | onVote vote => exact engine.onVote_advances vote
  | onQc qc => exact engine.onQc_advances qc
  | onNewView nv => exact engine.onNewView_advances nv
  | propose parent root ids => exact .refl _
  | onTimeout =>
      have later : engine.pacemaker.currentView ≤ engine.pacemaker.currentView + 1 := by
        have room := room rfl
        have top : BitVec.allOnes 64 = 18446744073709551615#64 := by decide
        rw [top] at room
        bv_omega
      exact ⟨⟨BitVec.le_refl _, BitVec.le_refl _, BitVec.le_refl _, BitVec.le_refl _, later⟩,
        fun ordered => ⟨ordered.certificates, BitVec.le_trans ordered.views later⟩⟩

end HotStuffEngine

namespace Node

variable {β : Type} (codec : HotStuffEngine.RuleCodec β) (sha256 : Sha256) (selfId : NodeId)
  (quorumThreshold : Nat) (baseTimeoutMs : U64)

structure Progresses (node : Node β) (action : NodeAction) : Prop where
  before : node.engine.progress.Ordered
  grows : node.engine.progress.Grows
    (node.step codec sha256 selfId quorumThreshold baseTimeoutMs action).engine.progress
  after : (node.step codec sha256 selfId quorumThreshold baseTimeoutMs action).engine.progress.Ordered

def lastStored (node : Node β) : SafetyRule := (node.stored.bind codec.fromBytes).getD .new

/-- The stored rule holds all that was learned, the view of the pacemaker included. -/
structure Recoverable (node : Node β) : Prop where
  locked : node.engine.safety.lockedQc.view ≤ (node.lastStored codec).lockedQc.view
  high : node.engine.safety.highQc.view ≤ (node.lastStored codec).highQc.view
  voted : node.engine.safety.lastVotedView ≤ (node.lastStored codec).lastVotedView
  current : node.engine.safety.currentView ≤ (node.lastStored codec).currentView
  view : node.engine.pacemaker.currentView ≤ 1 ∨
    node.engine.pacemaker.currentView ≤ (node.lastStored codec).currentView

/-- A timeout leaves a view to enter, and a restart finds what it needs in storage. -/
def Retains (node : Node β) : NodeAction → Prop
  | .call .onTimeout => node.engine.pacemaker.currentView ≠ BitVec.allOnes 64
  | .restart => node.Recoverable codec
  | _ => True

structure Sorted (node : Node β) : Prop where
  engine : node.engine.progress.Ordered
  stored : (node.lastStored codec).lockedQc.view ≤ (node.lastStored codec).highQc.view

theorem step_restart (node : Node β) :
    (node.step codec sha256 selfId quorumThreshold baseTimeoutMs .restart).engine.progress =
      ⟨node.lastStored codec,
        (Pacemaker.new baseTimeoutMs).resetViewTimer (node.lastStored codec).currentView⟩ := by
  unfold step lastStored
  dsimp only
  cases node.stored with
  | none => rfl
  | some bytes =>
      simp only [HotStuffEngine.restoreSafetyRule, Option.bind_some]
      cases codec.fromBytes bytes <;> rfl

theorem restart_view_iff (view current : View) :
    view ≤ ((Pacemaker.new baseTimeoutMs).resetViewTimer current).currentView ↔
      view ≤ 1 ∨ view ≤ current := by
  unfold Pacemaker.resetViewTimer Pacemaker.new
  dsimp only
  split <;> dsimp only <;> bv_omega

theorem sorted_start : (start (β := β) selfId quorumThreshold baseTimeoutMs).Sorted codec where
  engine := ⟨BitVec.le_refl _, (by decide : (0 : View) ≤ 1)⟩
  stored := BitVec.le_refl _

variable {codec}

theorem sorted_step {node : Node β} (sorted : node.Sorted codec) {action : NodeAction}
    (after : (node.step codec sha256 selfId quorumThreshold baseTimeoutMs action).engine.progress.Ordered) :
    (node.step codec sha256 selfId quorumThreshold baseTimeoutMs action).Sorted codec := by
  refine ⟨after, ?_⟩
  cases action with
  | call call => exact sorted.stored
  | restart => exact sorted.stored
  | persist =>
      have read : (node.step codec sha256 selfId quorumThreshold baseTimeoutMs .persist).lastStored codec =
          node.engine.safety := by
        simp only [step, lastStored, HotStuffEngine.persistSafetyRule, Option.bind_some, codec.roundTrip,
          Option.getD_some]
      rw [read]
      exact sorted.engine.certificates

theorem restart_ordered {node : Node β} (sorted : node.Sorted codec) :
    (node.step codec sha256 selfId quorumThreshold baseTimeoutMs .restart).engine.progress.Ordered := by
  rw [step_restart]
  exact ⟨sorted.stored, (restart_view_iff baseTimeoutMs _ _).2 (.inr (BitVec.le_refl _))⟩

theorem restart_grows_iff {node : Node β} :
    node.engine.progress.Grows
        (node.step codec sha256 selfId quorumThreshold baseTimeoutMs .restart).engine.progress ↔
      node.Recoverable codec := by
  rw [step_restart]
  constructor
  · intro grows
    exact ⟨grows.locked, grows.high, grows.voted, grows.current,
      (restart_view_iff baseTimeoutMs _ _).1 grows.view⟩
  · intro kept
    exact ⟨kept.locked, kept.high, kept.voted, kept.current,
      (restart_view_iff baseTimeoutMs _ _).2 kept.view⟩

theorem progresses_iff_retains {node : Node β} (sorted : node.Sorted codec) (action : NodeAction) :
    node.Progresses codec sha256 selfId quorumThreshold baseTimeoutMs action ↔ node.Retains codec action := by
  have moves (call : Call)
      (room : call = .onTimeout → node.engine.pacemaker.currentView ≠ BitVec.allOnes 64) :
      node.Progresses codec sha256 selfId quorumThreshold baseTimeoutMs (.call call) := by
    have advances := node.engine.step_advances sha256 call room
    exact ⟨sorted.engine, advances.grows, advances.ordered sorted.engine⟩
  cases action with
  | persist => exact iff_of_true ⟨sorted.engine, .refl _, sorted.engine⟩ trivial
  | restart =>
      constructor
      · intro progresses
        exact (restart_grows_iff sha256 selfId quorumThreshold baseTimeoutMs).1 progresses.grows
      · intro kept
        exact ⟨sorted.engine, (restart_grows_iff sha256 selfId quorumThreshold baseTimeoutMs).2 kept,
          restart_ordered sha256 selfId quorumThreshold baseTimeoutMs sorted⟩
  | call call =>
      cases call with
      | onTimeout =>
          constructor
          · intro progresses last
            have view : node.engine.pacemaker.currentView ≤ node.engine.pacemaker.currentView + 1 :=
              progresses.grows.view
            rw [last] at view
            exact absurd view (by decide)
          · intro room
            exact moves .onTimeout fun _ => room
      | _ => exact iff_of_true (moves _ (by rintro ⟨⟩)) trivial

/-- Over every run of calls, writes to storage and restarts, the counters grow and keep their order exactly
when no timeout comes at the last view and every restart finds in storage what the node had learned. -/
theorem progresses_along_iff (codec : HotStuffEngine.RuleCodec β) (run : List NodeAction) :
    Run.Along (step codec sha256 selfId quorumThreshold baseTimeoutMs)
        (fun node action => node.Progresses codec sha256 selfId quorumThreshold baseTimeoutMs action)
        (start selfId quorumThreshold baseTimeoutMs) run ↔
      Run.Along (step codec sha256 selfId quorumThreshold baseTimeoutMs)
        (fun node action => node.Retains codec action)
        (start selfId quorumThreshold baseTimeoutMs) run := by
  have same (node : Node β) (action : NodeAction) (sorted : node.Sorted codec) :
      node.Progresses codec sha256 selfId quorumThreshold baseTimeoutMs action ↔ node.Retains codec action :=
    progresses_iff_retains sha256 selfId quorumThreshold baseTimeoutMs sorted action
  have preserved (node : Node β) (action : NodeAction) (sorted : node.Sorted codec)
      (progresses : node.Progresses codec sha256 selfId quorumThreshold baseTimeoutMs action) :
      (node.step codec sha256 selfId quorumThreshold baseTimeoutMs action).Sorted codec :=
    sorted_step sha256 selfId quorumThreshold baseTimeoutMs sorted progresses.after
  exact Run.along_congr same preserved (sorted_start codec selfId quorumThreshold baseTimeoutMs) run

section Lost

def lastView : HotStuffBlock :=
  { blockId := 5, parentId := 0, view := BitVec.allOnes 64, leaderId := 2, batchRoot := 0
    orderedSubmissionIds := [], justifyQc := none }

/-- A timeout at the last view returns to view 0, and the view a timeout entered is not stored. -/
theorem view_lost_by_timeout_or_restart :
    ¬ Run.Along (step plainCodec (fun _ => 0) 1 3 1000)
        (fun node action => node.Progresses plainCodec (fun _ => 0) 1 3 1000 action) (start 1 3 1000)
        [.call (.onBlock lastView), .call .onTimeout] ∧
      ¬ Run.Along (step plainCodec (fun _ => 0) 1 3 1000)
        (fun node action => node.Progresses plainCodec (fun _ => 0) 1 3 1000 action) (start 1 3 1000)
        [.call .onTimeout, .persist, .restart] := by
  constructor
  · rintro ⟨-, progresses, -⟩
    exact absurd progresses.grows.view (by decide +kernel)
  · rintro ⟨-, -, progresses, -⟩
    exact absurd progresses.grows.view (by decide +kernel)

end Lost

end Node

end Omniphi.HotStuff
