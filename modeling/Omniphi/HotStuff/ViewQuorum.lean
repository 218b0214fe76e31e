import Omniphi.HotStuff.Transition

/-! View changes by NewView messages. The list of messages holds one of each sender, whatever view it
names, and the message that completes it alone says which view is entered. -/

namespace Omniphi.HotStuff

namespace HotStuffEngine

variable (sha256 : Sha256) (engine : HotStuffEngine)

def CompletesList (nv : NewViewMessage) : Prop :=
  (∀ stored ∈ engine.newViews, stored.senderId ≠ nv.senderId) ∧
    engine.quorumThreshold ≤ engine.newViews.length + 1

structure Collecting : Prop where
  distinct : (engine.newViews.map NewViewMessage.senderId).Nodup
  short : engine.newViews = [] ∨ engine.newViews.length < engine.quorumThreshold

theorem onNewView_cases (nv : NewViewMessage) :
    (engine.onNewView nv).1 = engine ∧ ¬ engine.CompletesList nv ∨
      ((∀ stored ∈ engine.newViews, stored.senderId ≠ nv.senderId) ∧
        engine.newViews.length + 1 < engine.quorumThreshold ∧
        (engine.onNewView nv).1.newViews = engine.newViews ++ [nv] ∧
        (engine.onNewView nv).1.pacemaker = engine.pacemaker) ∨
      (engine.CompletesList nv ∧ (engine.onNewView nv).1.newViews = [] ∧
        (engine.onNewView nv).1.pacemaker = engine.pacemaker.resetViewTimer nv.newView) := by
  unfold onNewView
  split
  · rename_i known
    obtain ⟨stored, member, same⟩ := List.any_eq_true.1 known
    left
    exact ⟨rfl, fun completes => completes.1 stored member (of_decide_eq_true same)⟩
  · rename_i unknown
    have fresh : ∀ stored ∈ engine.newViews, stored.senderId ≠ nv.senderId := by
      intro stored member same
      exact unknown (List.any_eq_true.2 ⟨stored, member, decide_eq_true same⟩)
    right
    dsimp only
    split
    · rename_i few
      left
      simp only [Pacemaker.newViewQuorumReached, List.length_append, List.length_singleton,
        Bool.not_eq_true', decide_eq_false_iff_not] at few
      exact ⟨fresh, by omega, rfl, rfl⟩
    · rename_i many
      right
      simp only [Pacemaker.newViewQuorumReached, List.length_append, List.length_singleton,
        Bool.not_eq_true', decide_eq_false_iff_not, not_not] at many
      exact ⟨⟨fresh, many⟩, rfl, rfl⟩

theorem newViews_step (call : Call) : (engine.step sha256 call).newViews = engine.newViews ∨
    (engine.step sha256 call).newViews = [] ∨
    ∃ nv, call = .onNewView nv ∧ (∀ stored ∈ engine.newViews, stored.senderId ≠ nv.senderId) ∧
      engine.newViews.length + 1 < engine.quorumThreshold ∧
      (engine.step sha256 call).newViews = engine.newViews ++ [nv] := by
  cases call with
  | onNewView nv =>
      simp only [step, handle]
      rcases engine.onNewView_cases nv with ⟨same, -⟩ | ⟨fresh, few, grown, -⟩ | ⟨-, cleared, -⟩
      · left
        rw [same]
      · right; right
        exact ⟨nv, rfl, fresh, few, grown⟩
      · right; left
        exact cleared
  | onTimeout =>
      right; left
      rfl
  | propose parent root ids =>
      left
      rfl
  | onBlock block =>
      left
      simp only [step, handle, onBlock]
      split
      · rfl
      · split
        · rfl
        · split <;> rfl
  | onVote vote =>
      left
      simp only [step, handle]
      unfold onVote
      dsimp only
      repeat' split
      all_goals rfl
  | onQc qc =>
      left
      simp only [step, handle]
      unfold onQc
      dsimp only
      repeat' split
      all_goals rfl

theorem collecting_new (selfId : NodeId) (quorumThreshold : Nat) (baseTimeoutMs : U64) :
    (new selfId quorumThreshold baseTimeoutMs).Collecting :=
  ⟨List.nodup_nil, .inl rfl⟩

theorem collecting_step (collecting : engine.Collecting) (call : Call) :
    (engine.step sha256 call).Collecting := by
  rcases engine.newViews_step sha256 call with same | cleared | ⟨nv, rfl, fresh, few, grown⟩
  · constructor
    · rw [same]
      exact collecting.distinct
    · rw [same, step_quorumThreshold]
      exact collecting.short
  · constructor
    · rw [cleared]
      exact List.nodup_nil
    · exact .inl cleared
  · constructor
    · rw [grown, List.map_append, List.nodup_append]
      refine ⟨collecting.distinct, List.nodup_singleton _, ?_⟩
      intro sender known other last same
      obtain ⟨stored, member, named⟩ := List.mem_map.1 known
      rw [List.map_singleton, List.mem_singleton] at last
      exact fresh stored member (named.trans (same.trans last))
    · right
      rw [grown, step_quorumThreshold, List.length_append, List.length_singleton]
      exact few

end HotStuffEngine

/-- An engine with the NewView messages handed to it since its view last changed. -/
structure Heard where
  engine : HotStuffEngine
  received : List NewViewMessage

namespace Heard

def start (selfId : NodeId) (quorumThreshold : Nat) (baseTimeoutMs : U64) : Heard :=
  ⟨.new selfId quorumThreshold baseTimeoutMs, []⟩

def handed : Call → List NewViewMessage
  | .onNewView nv => [nv]
  | _ => []

def step (sha256 : Sha256) (heard : Heard) (call : Call) : Heard :=
  let engine := heard.engine.step sha256 call
  ⟨engine, if engine.pacemaker.currentView = heard.engine.pacemaker.currentView then
    heard.received ++ handed call else []⟩

variable (heard : Heard)

/-- If the message raises the view, a quorum has named the view entered since the last change. -/
def QuorumBehind (nv : NewViewMessage) : Prop :=
  let entered := (heard.engine.onNewView nv).1.pacemaker.currentView
  heard.engine.pacemaker.currentView < entered → ∃ senders : Finset NodeId,
    heard.engine.quorumThreshold ≤ senders.card ∧
      ∀ sender ∈ senders, ∃ message ∈ heard.received ++ [nv],
        message.senderId = sender ∧ entered ≤ message.newView

def listed : Finset NodeId := (heard.engine.newViews.map NewViewMessage.senderId).toFinset

def supporters (view : View) : Finset NodeId :=
  ((heard.received.filter fun message => view ≤ message.newView).map NewViewMessage.senderId).toFinset

def Covered (nv : NewViewMessage) : Prop :=
  heard.engine.CompletesList nv → heard.engine.pacemaker.currentView < nv.newView →
    (heard.listed \ heard.supporters nv.newView).card ≤
      (heard.supporters nv.newView \ insert nv.senderId heard.listed).card

variable {heard}

theorem mem_supporters {view : View} {sender : NodeId} : sender ∈ heard.supporters view ↔
    ∃ message ∈ heard.received, message.senderId = sender ∧ view ≤ message.newView := by
  simp only [supporters, List.mem_toFinset, List.mem_map, List.mem_filter, decide_eq_true_eq]
  constructor
  · rintro ⟨message, ⟨member, high⟩, same⟩
    exact ⟨message, member, same, high⟩
  · rintro ⟨message, member, same, high⟩
    exact ⟨message, ⟨member, high⟩, same⟩

theorem not_mem_listed {nv : NewViewMessage} (completes : heard.engine.CompletesList nv) :
    nv.senderId ∉ heard.listed := by
  intro member
  obtain ⟨stored, known, same⟩ := List.mem_map.1 (List.mem_toFinset.1 member)
  exact completes.1 stored known same

theorem card_supporters {nv : NewViewMessage} (completes : heard.engine.CompletesList nv) :
    (insert nv.senderId (heard.supporters nv.newView)).card +
        (heard.listed \ heard.supporters nv.newView).card =
      heard.listed.card + 1 + (heard.supporters nv.newView \ insert nv.senderId heard.listed).card := by
  have unlisted := not_mem_listed completes
  generalize heard.supporters nv.newView = supporters
  have inside := Finset.card_sdiff_add_card_inter heard.listed supporters
  have outside := Finset.card_sdiff_add_card_inter (insert nv.senderId supporters)
    (insert nv.senderId heard.listed)
  have apart : insert nv.senderId supporters \ insert nv.senderId heard.listed =
      supporters \ insert nv.senderId heard.listed := by
    ext sender
    simp only [Finset.mem_sdiff, Finset.mem_insert]
    tauto
  have common : (insert nv.senderId supporters ∩ insert nv.senderId heard.listed).card =
      (heard.listed ∩ supporters).card + 1 := by
    rw [← Finset.insert_inter_distrib, Finset.card_insert_of_notMem, Finset.inter_comm]
    intro member
    exact unlisted (Finset.mem_inter.1 member).2
  rw [apart, common] at outside
  omega

theorem quorum_iff {nv : NewViewMessage} (entered : View) (same : entered = nv.newView) :
    (∃ senders : Finset NodeId, heard.engine.quorumThreshold ≤ senders.card ∧
      ∀ sender ∈ senders, ∃ message ∈ heard.received ++ [nv],
        message.senderId = sender ∧ entered ≤ message.newView) ↔
      heard.engine.quorumThreshold ≤ (insert nv.senderId (heard.supporters nv.newView)).card := by
  subst same
  constructor
  · rintro ⟨senders, large, named⟩
    refine large.trans (Finset.card_le_card fun sender member => ?_)
    obtain ⟨message, received, same, high⟩ := named sender member
    rcases List.mem_append.1 received with earlier | last
    · exact Finset.mem_insert_of_mem (mem_supporters.2 ⟨message, earlier, same, high⟩)
    · obtain rfl := List.mem_singleton.1 last
      rw [← same]
      exact Finset.mem_insert_self _ _
  · intro large
    refine ⟨_, large, fun sender member => ?_⟩
    rcases Finset.mem_insert.1 member with rfl | earlier
    · exact ⟨nv, List.mem_append_right _ (List.mem_singleton.2 rfl), rfl, BitVec.le_refl _⟩
    · obtain ⟨message, received, same, high⟩ := mem_supporters.1 earlier
      exact ⟨message, List.mem_append_left _ received, same, high⟩

theorem quorumBehind_iff (collecting : heard.engine.Collecting) (nv : NewViewMessage) :
    heard.QuorumBehind nv ↔ heard.Covered nv := by
  have stays (same : (heard.engine.onNewView nv).1.pacemaker = heard.engine.pacemaker) :
      heard.QuorumBehind nv := by
    intro raised
    rw [same] at raised
    exact absurd raised (BitVec.lt_irrefl _)
  unfold Covered
  rcases heard.engine.onNewView_cases nv with ⟨same, incomplete⟩ | ⟨-, few, -, same⟩ | ⟨completes, -, moved⟩
  · exact iff_of_true (stays (by rw [same])) fun completes => absurd completes incomplete
  · refine iff_of_true (stays same) fun completes => ?_
    have enough := completes.2
    omega
  · by_cases later : heard.engine.pacemaker.currentView < nv.newView
    · have entered : (heard.engine.onNewView nv).1.pacemaker.currentView = nv.newView := by
        rw [moved, Pacemaker.resetViewTimer, if_pos later]
      have size : heard.listed.card = heard.engine.newViews.length := by
        rw [listed, List.toFinset_card_of_nodup collecting.distinct, List.length_map]
      have cards := card_supporters completes
      have enough := completes.2
      have some : 0 < (insert nv.senderId (heard.supporters nv.newView)).card :=
        Finset.card_pos.2 ⟨_, Finset.mem_insert_self _ _⟩
      unfold QuorumBehind
      dsimp only
      rw [quorum_iff _ entered, entered]
      constructor
      · intro behind _ _
        have large := behind later
        rcases collecting.short with empty | short
        · have none : heard.listed = ∅ := by rw [listed, empty]; rfl
          rw [none, Finset.empty_sdiff, Finset.card_empty]
          exact Nat.zero_le _
        · omega
      · intro covered _
        have covered := covered completes later
        rcases collecting.short with empty | short
        · rw [empty, List.length_nil] at enough
          omega
        · omega
    · have same : (heard.engine.onNewView nv).1.pacemaker = heard.engine.pacemaker := by
        rw [moved, Pacemaker.resetViewTimer, if_neg later]
      exact iff_of_true (stays same) fun _ raised => absurd raised later

def named (sender : NodeId) (newView : View) : NewViewMessage :=
  { newView, highQc := .genesis, senderId := sender }

end Heard

end Omniphi.HotStuff
