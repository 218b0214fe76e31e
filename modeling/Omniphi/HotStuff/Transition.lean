import Omniphi.HotStuff.Engine
import Omniphi.Lib.Run

/-! The handlers as one transition function, and what a single call can change or emit. -/

namespace Omniphi.HotStuff

inductive Call
  | onBlock (block : HotStuffBlock)
  | onVote (vote : HotStuffVote)
  | onQc (qc : QuorumCertificate)
  | onNewView (nv : NewViewMessage)
  | onTimeout
  | propose (parentBlockId batchRoot : Bytes32) (orderedSubmissionIds : List Bytes32)

def Call.Quiet : Call → Prop
  | .onNewView _ | .onTimeout | .propose .. => True
  | _ => False

theorem Call.split (call : Call) : (∃ block, call = .onBlock block) ∨ (∃ vote, call = .onVote vote) ∨
    (∃ qc, call = .onQc qc) ∨ call.Quiet := by
  cases call <;> simp [Quiet]

namespace HotStuffOutput

def votes (output : HotStuffOutput) : List HotStuffVote :=
  output.leaves.filterMap fun
    | .sendVote vote => some vote
    | _ => Option.none

def finals (output : HotStuffOutput) : List HotStuffBlock :=
  output.leaves.filterMap fun
    | .finalize block => some block
    | _ => Option.none

theorem mem_votes {output : HotStuffOutput} {vote : HotStuffVote} :
    vote ∈ output.votes ↔ .sendVote vote ∈ output.leaves := by
  constructor
  · intro member
    obtain ⟨leaf, listed, same⟩ := List.mem_filterMap.1 member
    cases leaf <;> simp at same
    exact same ▸ listed
  · intro listed
    exact List.mem_filterMap.2 ⟨_, listed, rfl⟩

theorem mem_finals {output : HotStuffOutput} {block : HotStuffBlock} :
    block ∈ output.finals ↔ .finalize block ∈ output.leaves := by
  constructor
  · intro member
    obtain ⟨leaf, listed, same⟩ := List.mem_filterMap.1 member
    cases leaf <;> simp at same
    exact same ▸ listed
  · intro listed
    exact List.mem_filterMap.2 ⟨_, listed, rfl⟩

end HotStuffOutput

namespace HotStuffEngine

def handle (sha256 : Sha256) (engine : HotStuffEngine) : Call → HotStuffEngine × HotStuffOutput
  | .onBlock block => engine.onBlock block
  | .onVote vote => engine.onVote vote
  | .onQc qc => engine.onQc qc
  | .onNewView nv => engine.onNewView nv
  | .onTimeout => engine.onTimeout
  | .propose parentBlockId batchRoot ids => ((engine.propose sha256 parentBlockId batchRoot ids).1, .none)

def step (sha256 : Sha256) (engine : HotStuffEngine) (call : Call) : HotStuffEngine :=
  (engine.handle sha256 call).1

def after (sha256 : Sha256) (selfId : NodeId) (quorumThreshold : Nat) (baseTimeoutMs : U64)
    (calls : List Call) : HotStuffEngine :=
  calls.foldl (step sha256) (new selfId quorumThreshold baseTimeoutMs)

def Fresh (engine : HotStuffEngine) (vote : HotStuffVote) : Prop :=
  ∀ stored ∈ engine.bucket vote.view vote.phase, stored.voterId ≠ vote.voterId

def Completes (engine : HotStuffEngine) (vote : HotStuffVote) : Prop :=
  engine.Fresh vote ∧ engine.quorumThreshold ≤ (engine.bucket vote.view vote.phase).length + 1

def formedQc (engine : HotStuffEngine) (vote : HotStuffVote) : QuorumCertificate :=
  { view := vote.view, blockId := vote.blockId, phase := vote.phase
    signatures := (engine.bucket vote.view vote.phase ++ [vote]).map fun v => (v.voterId, v.signature) }

def prepareVote (engine : HotStuffEngine) (block : HotStuffBlock) : HotStuffVote :=
  { view := block.view, blockId := block.blockId, phase := .prepare, voterId := engine.selfId,
    signature := unsignedVoteSig }

def nextVote (engine : HotStuffEngine) (qc : QuorumCertificate) (phase : Phase) : HotStuffVote :=
  { view := qc.view, blockId := qc.blockId, phase, voterId := engine.selfId,
    signature := unsignedVoteSig }

variable (sha256 : Sha256) (engine : HotStuffEngine)

theorem any_voter_iff (vote : HotStuffVote) :
    ((engine.bucket vote.view vote.phase).any fun v => v.voterId = vote.voterId) = false ↔
      engine.Fresh vote := by
  simp [Fresh]

theorem onBlock_cases (block : HotStuffBlock) :
    (engine.onBlock block).1.votes = engine.votes ∧
    (engine.onBlock block).1.selfId = engine.selfId ∧
    (engine.onBlock block).1.quorumThreshold = engine.quorumThreshold ∧
    (((engine.onBlock block).2 = .none ∧
        (engine.onBlock block).1.voted = engine.voted ∧
        (engine.onBlock block).1.safety.lastVotedView = engine.safety.lastVotedView) ∨
      ((engine.onBlock block).2 = .sendVote (engine.prepareVote block) ∧
        engine.safety.lastVotedView < block.view ∧
        (engine.onBlock block).1.voted = engine.voted.insert (block.view, .prepare) true ∧
        (engine.onBlock block).1.safety.lastVotedView = block.view)) := by
  have safeAbove (rule : SafetyRule) (safe : ¬ (!rule.safeToVote block) = true) :
      rule.lastVotedView < block.view := by
    unfold SafetyRule.safeToVote at safe
    split at safe
    · simp at safe
    · bv_omega
  unfold onBlock
  dsimp only
  split
  · simp
  · split
    · exact ⟨rfl, rfl, rfl, .inl ⟨rfl, rfl, by simp⟩⟩
    · rename_i safe
      have above := safeAbove _ safe
      split
      · exact ⟨rfl, rfl, rfl, .inl ⟨rfl, rfl, by simp⟩⟩
      · refine ⟨rfl, rfl, rfl, .inr ⟨rfl, by simpa using above, rfl, ?_⟩⟩
        simp only [SafetyRule.recordVote, above, if_true]

theorem onVote_cases (vote : HotStuffVote) :
    (engine.onVote vote).1.selfId = engine.selfId ∧
    (engine.onVote vote).1.quorumThreshold = engine.quorumThreshold ∧
    (engine.onVote vote).1.voted = engine.voted ∧
    (engine.onVote vote).1.safety.lastVotedView = engine.safety.lastVotedView ∧
    ((¬ engine.Fresh vote ∧ engine.onVote vote = (engine, .none)) ∨
      (engine.Fresh vote ∧
        (engine.onVote vote).1.votes = engine.votes.insert (vote.view, vote.phase)
          (engine.bucket vote.view vote.phase ++ [vote]) ∧
        ((engine.onVote vote).2 = .none ∨
          engine.Completes vote ∧ (engine.onVote vote).2 = .broadcastQC (engine.formedQc vote) ∨
          engine.Completes vote ∧ vote.phase = .commit ∧ ∃ block,
            engine.pendingBlock = some block ∧ block.blockId = vote.blockId ∧
            (engine.onVote vote).2 =
              .multi [.broadcastQC (engine.formedQc vote), .finalize block]))) := by
  unfold onVote
  dsimp only
  split
  · rename_i stored
    refine ⟨rfl, rfl, rfl, rfl, .inl ⟨?_, rfl⟩⟩
    rw [← any_voter_iff, stored]
    simp
  · rename_i fresh
    have fresh : engine.Fresh vote := (any_voter_iff engine vote).1 (by simpa using fresh)
    split
    · exact ⟨rfl, rfl, rfl, rfl, .inr ⟨fresh, rfl, .inl rfl⟩⟩
    · rename_i reached
      have completes : engine.Completes vote := ⟨fresh, by simpa using reached⟩
      split
      · exact ⟨rfl, rfl, rfl, by simp, .inr ⟨fresh, rfl, .inr (.inl ⟨completes, rfl⟩)⟩⟩
      · exact ⟨rfl, rfl, rfl, by simp, .inr ⟨fresh, rfl, .inr (.inl ⟨completes, rfl⟩)⟩⟩
      · rename_i phase
        split
        · exact ⟨rfl, rfl, rfl, rfl, .inr ⟨fresh, rfl, .inr (.inl ⟨completes, rfl⟩)⟩⟩
        · rename_i block pending
          split
          · rename_i same
            split
            · exact ⟨rfl, rfl, rfl, rfl, .inr ⟨fresh, rfl, .inl rfl⟩⟩
            · exact ⟨rfl, rfl, rfl, rfl, .inr ⟨fresh, rfl,
                .inr (.inr ⟨completes, phase, block, pending, same, rfl⟩)⟩⟩
          · exact ⟨rfl, rfl, rfl, rfl, .inr ⟨fresh, rfl, .inr (.inl ⟨completes, rfl⟩)⟩⟩
      · exact ⟨rfl, rfl, rfl, rfl, .inr ⟨fresh, rfl, .inl rfl⟩⟩

theorem onQc_cases (qc : QuorumCertificate) :
    (engine.onQc qc).1.selfId = engine.selfId ∧
    (engine.onQc qc).1.quorumThreshold = engine.quorumThreshold ∧
    (engine.onQc qc).1.votes = engine.votes ∧
    (((engine.onQc qc).1.voted = engine.voted ∧
        (engine.onQc qc).1.safety.lastVotedView = engine.safety.lastVotedView ∧
        ((engine.onQc qc).2 = .none ∨ qc.phase = .commit ∧ ∃ block,
          engine.pendingBlock = some block ∧ block.blockId = qc.blockId ∧
          (engine.onQc qc).2 = .finalize block)) ∨
      ∃ phase, qc.phase.next = some phase ∧ qc.phase ≠ .commit ∧
        (qc.view, phase) ∉ engine.voted ∧
        (engine.onQc qc).2 = .sendVote (engine.nextVote qc phase) ∧
        (engine.onQc qc).1.voted = engine.voted.insert (qc.view, phase) true ∧
        engine.safety.lastVotedView ≤ (engine.onQc qc).1.safety.lastVotedView ∧
        qc.view ≤ (engine.onQc qc).1.safety.lastVotedView) := by
  have kept (rule : SafetyRule) :
      (if qc.phase = .preCommit then (rule.updateHighQc qc).lock qc
        else rule.updateHighQc qc).lastVotedView = rule.lastVotedView := by
    split <;> simp
  unfold onQc
  dsimp only
  split
  · exact ⟨rfl, rfl, rfl, .inl ⟨rfl, rfl, .inl rfl⟩⟩
  · rename_i phase next
    split
    · exact ⟨rfl, rfl, rfl, .inl ⟨rfl, kept _, .inl rfl⟩⟩
    · rename_i unvoted
      split
      · rename_i commit
        split
        · rename_i block pending
          split
          · rename_i final
            exact ⟨rfl, rfl, rfl, .inl ⟨rfl, kept _, .inr ⟨commit, block, pending, final.1, rfl⟩⟩⟩
          · exact ⟨rfl, rfl, rfl, .inl ⟨rfl, kept _, .inl rfl⟩⟩
        · exact ⟨rfl, rfl, rfl, .inl ⟨rfl, kept _, .inl rfl⟩⟩
      · rename_i commit
        refine ⟨rfl, rfl, rfl, .inr ⟨phase, next, commit, ?_, rfl, rfl, ?_, ?_⟩⟩
        · simpa using unvoted
        · have grows := SafetyRule.le_recordVote (if qc.phase = .preCommit then
            (engine.safety.updateHighQc qc).lock qc else engine.safety.updateHighQc qc) qc.view
          rwa [kept] at grows
        · exact SafetyRule.recordVote_covers _ _

theorem quiet_cases {call : Call} (quiet : call.Quiet) :
    (engine.step sha256 call).selfId = engine.selfId ∧
    (engine.step sha256 call).quorumThreshold = engine.quorumThreshold ∧
    (engine.step sha256 call).safety.lastVotedView = engine.safety.lastVotedView ∧
    (∀ view phase, (engine.step sha256 call).bucket view phase = engine.bucket view phase ∨
      (engine.step sha256 call).bucket view phase = []) ∧
    ((engine.handle sha256 call).2 = .none ∨
      ∃ nv, (engine.handle sha256 call).2 = .sendNewView nv) := by
  have pruned (e : HotStuffEngine) (view : View) (phase : Phase) :
      e.clearViewState.bucket view phase = e.bucket view phase ∨
        e.clearViewState.bucket view phase = [] := by
    simp only [bucket, clearViewState, Std.ExtTreeMap.getElem?_filter']
    cases e.votes[(view, phase)]? with
    | none => exact .inl rfl
    | some entry => by_cases kept : e.pacemaker.currentView ≤ view <;> simp [Option.filter, kept]
  cases call with
  | onBlock _ | onVote _ | onQc _ => exact quiet.elim
  | propose parent root ids => exact ⟨rfl, rfl, rfl, fun _ _ => .inl rfl, .inl rfl⟩
  | onTimeout => exact ⟨rfl, rfl, rfl, pruned _, .inr ⟨_, rfl⟩⟩
  | onNewView nv =>
    unfold step handle onNewView
    dsimp only
    split
    · exact ⟨rfl, rfl, rfl, fun _ _ => .inl rfl, .inl rfl⟩
    · split
      · exact ⟨rfl, rfl, by simp, fun _ _ => .inl rfl, .inl rfl⟩
      · exact ⟨rfl, rfl, by simp [clearViewState], pruned _, .inl rfl⟩

@[simp] theorem step_selfId (call : Call) : (engine.step sha256 call).selfId = engine.selfId := by
  rcases call.split with ⟨block, rfl⟩ | ⟨vote, rfl⟩ | ⟨qc, rfl⟩ | quiet
  · exact (engine.onBlock_cases block).2.1
  · exact (engine.onVote_cases vote).1
  · exact (engine.onQc_cases qc).1
  · exact (engine.quiet_cases sha256 quiet).1

@[simp] theorem step_quorumThreshold (call : Call) :
    (engine.step sha256 call).quorumThreshold = engine.quorumThreshold := by
  rcases call.split with ⟨block, rfl⟩ | ⟨vote, rfl⟩ | ⟨qc, rfl⟩ | quiet
  · exact (engine.onBlock_cases block).2.2.1
  · exact (engine.onVote_cases vote).2.1
  · exact (engine.onQc_cases qc).2.1
  · exact (engine.quiet_cases sha256 quiet).2.1

theorem lastVotedView_le_step (call : Call) :
    engine.safety.lastVotedView ≤ (engine.step sha256 call).safety.lastVotedView := by
  rcases call.split with ⟨block, rfl⟩ | ⟨vote, rfl⟩ | ⟨qc, rfl⟩ | quiet
  · rcases (engine.onBlock_cases block).2.2.2 with ⟨-, -, same⟩ | ⟨-, above, -, raised⟩
    · exact BitVec.le_of_eq same.symm
    · exact raised ▸ BitVec.le_of_lt above
  · exact BitVec.le_of_eq (engine.onVote_cases vote).2.2.2.1.symm
  · rcases (engine.onQc_cases qc).2.2.2 with ⟨-, same, -⟩ | ⟨phase, -, -, -, -, -, grows, -⟩
    · exact BitVec.le_of_eq same.symm
    · exact grows
  · exact BitVec.le_of_eq (engine.quiet_cases sha256 quiet).2.2.1.symm

theorem bucket_step (call : Call) (view : View) (phase : Phase) :
    (engine.step sha256 call).bucket view phase = engine.bucket view phase ∨
    (engine.step sha256 call).bucket view phase = [] ∨
    ∃ vote, call = .onVote vote ∧ engine.Fresh vote ∧ vote.view = view ∧ vote.phase = phase ∧
      (engine.step sha256 call).bucket view phase = engine.bucket view phase ++ [vote] := by
  rcases call.split with ⟨block, rfl⟩ | ⟨vote, rfl⟩ | ⟨qc, rfl⟩ | quiet
  · exact .inl (by simp only [bucket, step, handle, (engine.onBlock_cases block).1])
  · rcases (engine.onVote_cases vote).2.2.2.2 with ⟨-, same⟩ | ⟨fresh, votes, -⟩
    · exact .inl (by simp only [step, handle, same])
    · by_cases target : (vote.view, vote.phase) = (view, phase)
      · obtain ⟨rfl, rfl⟩ := Prod.mk.inj target
        refine .inr (.inr ⟨vote, rfl, fresh, rfl, rfl, ?_⟩)
        simp only [step, handle]
        rw [bucket, votes, Std.ExtTreeMap.getElem?_insert_self, Option.getD_some]
      · refine .inl ?_
        simp only [step, handle]
        rw [bucket, votes, Std.ExtTreeMap.getElem?_insert,
          if_neg (by rwa [Std.LawfulEqCmp.compare_eq_iff_eq]), bucket]
  · exact .inl (by simp only [bucket, step, handle, (engine.onQc_cases qc).2.2.1])
  · rcases (engine.quiet_cases sha256 quiet).2.2.2.1 view phase with same | pruned
    · exact .inl same
    · exact .inr (.inl pruned)

theorem nodup_append_fresh {vote : HotStuffVote}
    (nodup : ((engine.bucket vote.view vote.phase).map HotStuffVote.voterId).Nodup)
    (fresh : engine.Fresh vote) :
    ((engine.bucket vote.view vote.phase ++ [vote]).map HotStuffVote.voterId).Nodup := by
  rw [List.map_append, List.nodup_append]
  refine ⟨nodup, by simp, ?_⟩
  rintro _ voter _ other rfl
  obtain ⟨earlier, member, rfl⟩ := List.mem_map.1 voter
  exact fresh earlier member (by simpa using other)

def voters (vote : HotStuffVote) : Finset NodeId :=
  ((engine.bucket vote.view vote.phase ++ [vote]).map HotStuffVote.voterId).toFinset

theorem mem_voters {vote : HotStuffVote} {voter : NodeId} : voter ∈ engine.voters vote ↔
    ∃ cast ∈ engine.bucket vote.view vote.phase ++ [vote], cast.voterId = voter := by
  simp only [voters, List.mem_toFinset, List.mem_map]

theorem le_card_voters {vote : HotStuffVote}
    (nodup : ((engine.bucket vote.view vote.phase).map HotStuffVote.voterId).Nodup)
    (completes : engine.Completes vote) : engine.quorumThreshold ≤ (engine.voters vote).card := by
  rw [voters, List.toFinset_card_of_nodup (engine.nodup_append_fresh nodup completes.1)]
  simpa using completes.2

def Bucketed (P : HotStuffVote → Prop) : Prop :=
  ∀ view phase, ((engine.bucket view phase).map HotStuffVote.voterId).Nodup ∧
    ∀ vote ∈ engine.bucket view phase, P vote ∧ vote.view = view ∧ vote.phase = phase

theorem bucketed_new (P : HotStuffVote → Prop) (selfId : NodeId) (quorumThreshold : Nat)
    (baseTimeoutMs : U64) : (new selfId quorumThreshold baseTimeoutMs).Bucketed P := by
  intro view phase
  simp [new, bucket]

theorem Bucketed.mono {engine : HotStuffEngine} {P Q : HotStuffVote → Prop}
    (bucketed : engine.Bucketed P) (weaker : ∀ vote, P vote → Q vote) : engine.Bucketed Q :=
  fun view phase => ⟨(bucketed view phase).1, fun vote member =>
    ⟨weaker vote ((bucketed view phase).2 vote member).1, ((bucketed view phase).2 vote member).2⟩⟩

theorem bucketed_step {P : HotStuffVote → Prop} (bucketed : engine.Bucketed P) (call : Call)
    (handed : ∀ vote, call = .onVote vote → P vote) : (engine.step sha256 call).Bucketed P := by
  intro view phase
  obtain ⟨nodup, stored⟩ := bucketed view phase
  rcases engine.bucket_step sha256 call view phase with same | pruned |
    ⟨vote, rfl, fresh, rfl, rfl, grown⟩
  · rw [same]
    exact ⟨nodup, stored⟩
  · simp [pruned]
  · rw [grown]
    refine ⟨engine.nodup_append_fresh nodup fresh, ?_⟩
    intro other member
    rcases List.mem_append.1 member with earlier | last
    · exact stored other earlier
    · obtain rfl : other = vote := by simpa using last
      exact ⟨handed other rfl, rfl, rfl⟩

inductive Emits (engine : HotStuffEngine) : Call → HotStuffOutput → Prop
  | prepareVote (block : HotStuffBlock) (above : engine.safety.lastVotedView < block.view) :
      Emits engine (.onBlock block) (.sendVote (engine.prepareVote block))
  | nextVote (qc : QuorumCertificate) (phase : Phase) (next : qc.phase.next = some phase)
      (early : qc.phase ≠ .commit) (unvoted : (qc.view, phase) ∉ engine.voted) :
      Emits engine (.onQc qc) (.sendVote (engine.nextVote qc phase))
  | certificate (vote : HotStuffVote) (completes : engine.Completes vote) :
      Emits engine (.onVote vote) (.broadcastQC (engine.formedQc vote))
  | decideByVotes (vote : HotStuffVote) (block : HotStuffBlock) (completes : engine.Completes vote)
      (commit : vote.phase = .commit) (pending : engine.pendingBlock = some block)
      (same : block.blockId = vote.blockId) : Emits engine (.onVote vote) (.finalize block)
  | decideByQc (qc : QuorumCertificate) (block : HotStuffBlock) (commit : qc.phase = .commit)
      (pending : engine.pendingBlock = some block) (same : block.blockId = qc.blockId) :
      Emits engine (.onQc qc) (.finalize block)
  | newView (call : Call) (nv : NewViewMessage) : Emits engine call (.sendNewView nv)

theorem emits_of_leaf {call : Call} {leaf : HotStuffOutput}
    (sent : leaf ∈ (engine.handle sha256 call).2.leaves) : engine.Emits call leaf := by
  rcases call.split with ⟨block, rfl⟩ | ⟨vote, rfl⟩ | ⟨qc, rfl⟩ | quiet
  · simp only [handle] at sent
    rcases (engine.onBlock_cases block).2.2.2 with ⟨none, -⟩ | ⟨cast, above, -, -⟩
    · simp [none] at sent
    · obtain rfl : leaf = _ := by simpa [cast] using sent
      exact .prepareVote block above
  · simp only [handle] at sent
    rcases (engine.onVote_cases vote).2.2.2.2 with ⟨-, same⟩ |
      ⟨-, -, none | ⟨completes, formed⟩ | ⟨completes, commit, block, pending, same, final⟩⟩
    · simp [same] at sent
    · simp [none] at sent
    · obtain rfl : leaf = _ := by simpa [formed] using sent
      exact .certificate vote completes
    · obtain rfl | rfl : leaf = _ ∨ leaf = _ := by simpa [final] using sent
      · exact .certificate vote completes
      · exact .decideByVotes vote block completes commit pending same
  · simp only [handle] at sent
    rcases (engine.onQc_cases qc).2.2.2 with ⟨-, -, none | ⟨commit, block, pending, same, final⟩⟩ |
      ⟨phase, next, early, unvoted, cast, -⟩
    · simp [none] at sent
    · obtain rfl : leaf = _ := by simpa [final] using sent
      exact .decideByQc qc block commit pending same
    · obtain rfl : leaf = _ := by simpa [cast] using sent
      exact .nextVote qc phase next early unvoted
  · rcases (engine.quiet_cases sha256 quiet).2.2.2.2 with none | ⟨nv, message⟩
    · rw [none] at sent; simp at sent
    · rw [message] at sent
      obtain rfl : leaf = .sendNewView nv := by simpa using sent
      exact .newView call nv

theorem votes_eq {engine : HotStuffEngine} {call : Call} {one other : HotStuffVote}
    (first : one ∈ (engine.handle sha256 call).2.votes)
    (second : other ∈ (engine.handle sha256 call).2.votes) : one = other := by
  cases engine.emits_of_leaf sha256 (HotStuffOutput.mem_votes.1 first) with
  | prepareVote block above =>
      cases engine.emits_of_leaf sha256 (HotStuffOutput.mem_votes.1 second) with
      | prepareVote => rfl
  | nextVote qc phase next early unvoted =>
      cases engine.emits_of_leaf sha256 (HotStuffOutput.mem_votes.1 second) with
      | nextVote _ phase' next' _ _ =>
          obtain rfl : phase = phase' := Option.some.inj (next.symm.trans next')
          rfl

theorem sendVote_covered {call : Call} {vote : HotStuffVote}
    (sent : .sendVote vote ∈ (engine.handle sha256 call).2.leaves) :
    vote.view ≤ (engine.step sha256 call).safety.lastVotedView := by
  cases engine.emits_of_leaf sha256 sent with
  | prepareVote block above =>
      rcases (engine.onBlock_cases block).2.2.2 with ⟨none, -⟩ | ⟨-, -, -, raised⟩
      · simp [handle, none] at sent
      · exact BitVec.le_of_eq raised.symm
  | nextVote qc phase next early unvoted =>
      rcases (engine.onQc_cases qc).2.2.2 with ⟨-, -, none | ⟨commit, -⟩⟩ |
        ⟨-, -, -, -, -, -, -, covers⟩
      · simp [handle, none] at sent
      · exact absurd commit early
      · exact covers

end HotStuffEngine

end Omniphi.HotStuff
