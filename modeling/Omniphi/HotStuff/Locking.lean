import Omniphi.HotStuff.Transition

/-! When a PREPARE vote respects the lock. The two documented cases of the locking rule hold for
every vote except those that only the genesis branch of `safeToVote` lets through. -/

namespace Omniphi.HotStuff

def HotStuffBlock.Overrides (block : HotStuffBlock) (lock : QuorumCertificate) : Prop :=
  ∃ justify, block.justifyQc = some justify ∧ lock.view < justify.view

namespace SafetyRule

theorem safeToVote_iff (rule : SafetyRule) (block : HotStuffBlock) :
    rule.safeToVote block ↔ rule.lastVotedView < block.view ∧
      (block.parentId = rule.lockedQc.blockId ∨ block.Overrides rule.lockedQc ∨ block.parentId = 0) := by
  unfold safeToVote HotStuffBlock.extendsDirect HotStuffBlock.Overrides
  by_cases voted : block.view ≤ rule.lastVotedView
  · simp only [voted, if_true, Bool.false_eq_true, false_iff, not_and]
    intro above
    bv_omega
  · have above : rule.lastVotedView < block.view := by bv_omega
    simp only [voted, if_false, above, true_and]
    by_cases direct : block.parentId = rule.lockedQc.blockId
    · simp [direct]
    · simp only [direct, decide_false, Bool.false_eq_true, if_false, false_or]
      cases block.justifyQc with
      | none => simp
      | some justify => by_cases later : rule.lockedQc.view < justify.view <;> simp [later]

end SafetyRule

namespace HotStuffEngine

def Votable (engine : HotStuffEngine) (block : HotStuffBlock) : Prop :=
  engine.pacemaker.currentView ≤ block.view ∧ engine.safety.lastVotedView < block.view ∧
    (block.view, Phase.prepare) ∉ engine.voted

def VotesPrepare (engine : HotStuffEngine) (block : HotStuffBlock) : Prop :=
  ∃ vote, .sendVote vote ∈ (engine.onBlock block).2.leaves ∧ vote.phase = .prepare ∧
    vote.blockId = block.blockId

/-- With a lock taken, a PREPARE vote goes to a child of the locked block or to a block whose
certificate is newer than the lock. -/
def RespectsLock (engine : HotStuffEngine) (block : HotStuffBlock) : Prop :=
  0 < engine.safety.lockedQc.view → engine.VotesPrepare block →
    block.parentId = engine.safety.lockedQc.blockId ∨ block.Overrides engine.safety.lockedQc

/-- A votable block that names the zero parent while a lock on another block stands and brings no
newer certificate: only the genesis branch accepts it. -/
def GenesisOnly (engine : HotStuffEngine) (block : HotStuffBlock) : Prop :=
  0 < engine.safety.lockedQc.view ∧ engine.Votable block ∧ block.parentId = 0 ∧
    engine.safety.lockedQc.blockId ≠ 0 ∧ ¬ block.Overrides engine.safety.lockedQc

theorem votesPrepare_iff (engine : HotStuffEngine) (block : HotStuffBlock) :
    engine.VotesPrepare block ↔ engine.Votable block ∧
      (block.parentId = engine.safety.lockedQc.blockId ∨
        block.Overrides engine.safety.lockedQc ∨ block.parentId = 0) := by
  -- `onBlock` raises the high certificate and the view before it checks the block; neither the lock
  -- nor the last voted view moves.
  have safe := SafetyRule.safeToVote_iff
    ((engine.safety.noteHighQc block.justifyQc).advanceView block.view) block
  simp only [SafetyRule.advanceView_lastVotedView, SafetyRule.noteHighQc_lastVotedView,
    SafetyRule.advanceView_lockedQc, SafetyRule.noteHighQc_lockedQc] at safe
  unfold VotesPrepare onBlock Votable
  dsimp only
  split
  · rename_i old
    have stale : ¬ engine.pacemaker.currentView ≤ block.view := by bv_omega
    simp [stale]
  · rename_i current
    have current : engine.pacemaker.currentView ≤ block.view := by bv_omega
    split
    · rename_i refused
      rw [Bool.not_eq_true', ← Bool.not_eq_true, safe] at refused
      simp only [HotStuffOutput.leaves, List.not_mem_nil, false_and, exists_false, false_iff]
      rintro ⟨⟨-, above, -⟩, accepted⟩
      exact refused ⟨above, accepted⟩
    · rename_i accepted
      rw [Bool.not_eq_true', ← Bool.not_eq_true, not_not, safe] at accepted
      split
      · rename_i voted
        have voted : (block.view, Phase.prepare) ∈ engine.voted := by simpa using voted
        simp [voted]
      · rename_i unvoted
        have unvoted : (block.view, Phase.prepare) ∉ engine.voted := by simpa using unvoted
        simp only [HotStuffOutput.leaves, List.mem_singleton, HotStuffOutput.sendVote.injEq]
        exact ⟨fun _ => ⟨⟨current, accepted.1, unvoted⟩, accepted.2⟩, fun _ => ⟨_, rfl, rfl, rfl⟩⟩

/-- In every reachable state the lock is respected by exactly the blocks that do not hang on the
genesis branch. -/
theorem respectsLock_iff (sha256 : Sha256) (selfId : NodeId) (quorumThreshold : Nat)
    (baseTimeoutMs : U64) (calls : List Call) (block : HotStuffBlock) :
    (after sha256 selfId quorumThreshold baseTimeoutMs calls).RespectsLock block ↔
      ¬ (after sha256 selfId quorumThreshold baseTimeoutMs calls).GenesisOnly block := by
  generalize after sha256 selfId quorumThreshold baseTimeoutMs calls = engine
  unfold RespectsLock GenesisOnly
  rw [votesPrepare_iff]
  constructor
  · rintro respects ⟨locked, votable, zero, other, plain⟩
    rcases respects locked ⟨votable, .inr (.inr zero)⟩ with direct | newer
    · exact other (direct ▸ zero)
    · exact plain newer
  · rintro notGenesis locked ⟨votable, direct | newer | zero⟩
    · exact .inl direct
    · exact .inr newer
    · by_contra conflict
      push Not at conflict
      exact notGenesis ⟨locked, votable, zero, fun same => conflict.1 (zero.trans same.symm), conflict.2⟩

section Genesis

def lockingQc : QuorumCertificate :=
  { view := 1, blockId := 5, phase := .preCommit, signatures := [] }

def zeroParentBlock : HotStuffBlock :=
  { blockId := 9, parentId := 0, view := 2, leaderId := 3, batchRoot := 0,
    orderedSubmissionIds := [], justifyQc := none }

theorem zero_parent_breaks_lock :
    ¬ (after (fun _ => 0) 1 3 1000 [.onQc lockingQc]).RespectsLock zeroParentBlock := by
  intro respects
  rcases respects (by decide) ⟨_, List.mem_singleton.2 rfl, rfl, rfl⟩ with direct | ⟨justify, some, -⟩
  · exact absurd direct (by decide)
  · cases some

end Genesis

end HotStuffEngine

end Omniphi.HotStuff
