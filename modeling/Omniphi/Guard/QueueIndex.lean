import Omniphi.Guard.Runs

/-! The index by height over a run: when it has one entry for each live execution, ahead of the block
processed last, and none for a finished one. -/

namespace Omniphi

open Guard

namespace GuardKeeper

variable {k k' : GuardKeeper} {env : Env} {proposalId other height processed : Nat}
  {exec : QueuedExecution}

def IsLive (k : GuardKeeper) (proposalId : Nat) : Prop :=
  ∃ exec ∈ k.getQueuedExecution proposalId, exec.isTerminal = false

/-- A live execution has one entry, which the next scan after block `processed` can reach; a finished
one has none. -/
structure Exactly (k : GuardKeeper) (processed proposalId : Nat) : Prop where
  entries : ∀ height, (height, proposalId) ∈ k.queueIndex ↔
    ∃ exec ∈ k.getQueuedExecution proposalId, exec.isTerminal = false ∧
      height = max exec.earliestExecHeight (processed + 1)
  active : proposalId ∈ k.activeExecutions ↔ k.IsLive proposalId

theorem Exactly.of_frame (exactly : k.Exactly processed other) (frame : Frame other k k') :
    k'.Exactly processed other := by
  refine ⟨?_, ?_⟩
  · intro height
    rw [frame.index, frame.exec]
    exact exactly.entries height
  · rw [frame.active, IsLive, frame.exec]
    exact exactly.active

theorem Exactly.of_record {record : QueuedExecution}
    (written : k.getQueuedExecution proposalId = some record)
    (active : proposalId ∈ k.activeExecutions ↔ record.isTerminal = false)
    (entries : ∀ height, (height, proposalId) ∈ k.queueIndex ↔
      record.isTerminal = false ∧ height = max record.earliestExecHeight (processed + 1)) :
    k.Exactly processed proposalId := by
  refine ⟨?_, ?_⟩
  · intro height
    rw [entries, written]
    simp
  · rw [active, IsLive, written]
    simp

section Scan

/-- What a visit has to leave of a proposal's entries for the scan to put the index right. -/
structure Visited (k : GuardKeeper) (height proposalId : Nat) : Prop where
  entries : ∀ indexed, (indexed, proposalId) ∈ k.queueIndex → indexed = height ∨
    ∃ exec ∈ k.getQueuedExecution proposalId, exec.isTerminal = false ∧
      indexed = max exec.earliestExecHeight (height + 1)
  active : proposalId ∈ k.activeExecutions ↔ k.IsLive proposalId

theorem Visited.of_frame (visited : k.Visited height other) (frame : Frame other k k') :
    k'.Visited height other := by
  refine ⟨?_, ?_⟩
  · intro indexed
    rw [frame.index, frame.exec]
    exact visited.entries indexed
  · rw [frame.active, IsLive, frame.exec]
    exact visited.active

theorem Visited.of_record {record : QueuedExecution}
    (written : k.getQueuedExecution proposalId = some record)
    (active : proposalId ∈ k.activeExecutions ↔ record.isTerminal = false)
    (entries : ∀ indexed, (indexed, proposalId) ∈ k.queueIndex → indexed = height ∨
      record.isTerminal = false ∧ indexed = max record.earliestExecHeight (height + 1)) :
    k.Visited height proposalId := by
  refine ⟨?_, ?_⟩
  · intro indexed member
    refine (entries indexed member).imp_right fun kept => ?_
    exact ⟨record, written, kept⟩
  · rw [active, IsLive, written]
    simp

theorem reindex_exactly (visited : k.Visited height proposalId) :
    (k.reindex height proposalId).Exactly height proposalId := by
  have record : (k.reindex height proposalId).getQueuedExecution proposalId =
      k.getQueuedExecution proposalId := by
    unfold reindex
    dsimp only
    split
    · rfl
    · split <;> rfl
  have active : (k.reindex height proposalId).activeExecutions = k.activeExecutions := by
    unfold reindex
    dsimp only
    split
    · rfl
    · split <;> rfl
  refine ⟨?_, by rw [active, IsLive, record]; exact visited.active⟩
  intro indexed
  rw [record]
  have entries := visited.entries indexed
  cases found : k.getQueuedExecution proposalId with
  | none =>
      simp only [found, Option.mem_def, reduceCtorEq, false_and, exists_false, or_false] at entries ⊢
      simp only [reindex, getQueuedExecution_deleteQueueIndexEntry, found, iff_false,
        mem_deleteQueueIndexEntry]
      rintro ⟨away, member⟩
      exact away (by rw [entries member])
  | some exec =>
      simp only [found, Option.mem_def, Option.some.injEq, exists_eq_left'] at entries ⊢
      simp only [reindex, getQueuedExecution_deleteQueueIndexEntry, found]
      cases finished : exec.isTerminal with
      | true =>
          simp only [finished, if_true, Bool.true_eq_false, false_and, or_false, iff_false,
            mem_deleteQueueIndexEntry] at entries ⊢
          rintro ⟨away, member⟩
          exact away (by rw [entries member])
      | false =>
          have next : (if exec.earliestExecHeight ≤ height then height + 1 else exec.earliestExecHeight) =
              max exec.earliestExecHeight (height + 1) := by
            split <;> omega
          simp only [finished, Bool.false_eq_true, if_false, true_and, mem_setQueueIndexEntry, next,
            mem_deleteQueueIndexEntry, Prod.mk.injEq, and_true] at entries ⊢
          constructor
          · rintro (same | ⟨away, member⟩)
            · exact same.symm
            · exact (entries member).resolve_left fun same => away (by rw [same])
          · exact fun same => .inl same.symm

@[mk_iff] structure Tidy (k : GuardKeeper) (env : Env) (exec : QueuedExecution) (blocksInGate : Nat)
    (changed : Prop) : Prop where
  reassessed : changed → ¬ (exec.gateState = .conditionalExecution ∧ k.Unstable env exec.proposalId) →
    env.height ≤ exec.earliestExecHeight
  visibility : exec.gateState = .visibility → k.params.visibilityWindowBlocks ≤ blocksInGate →
    env.height ≤ exec.earliestExecHeight
  shockAbsorber : exec.gateState = .shockAbsorber → k.params.shockAbsorberWindowBlocks ≤ blocksInGate →
    env.height ≤ exec.earliestExecHeight
  postponed : exec.gateState = .conditionalExecution → k.Unstable env exec.proposalId →
    env.height ≤ u64 (env.height + k.extension exec)
  stable : exec.gateState = .conditionalExecution → ¬ k.Unstable env exec.proposalId →
    env.height ≤ exec.earliestExecHeight
  restarted : exec.gateState = .ready → exec.needsConfirmation = true →
    k.params.criticalSecondConfirmWindowBlocks < blocksInGate →
    env.height ≤ u64 (env.height + k.params.extensionCriticalBlocks) ∧
      (changed → exec.earliestExecHeight = env.height ∨
        exec.earliestExecHeight = u64 (env.height + k.params.extensionCriticalBlocks))
  finished : exec.gateState = .ready → exec.needsConfirmation = false →
    exec.earliestExecHeight = env.height ∨
      (verifyVotingThreshold env exec).isOk = true ∧ k.hasExecutionMarker exec.proposalId = false ∧
        env.isTrackFrozen exec.proposalId = true ∧
        (changed → exec.earliestExecHeight = u64 (env.height + deferralBackoff))

set_option synthInstance.maxSize 512 in
instance decidableTidy (k : GuardKeeper) (env : Env) (exec : QueuedExecution) (blocksInGate : Nat)
    (changed : Prop) [Decidable changed] : Decidable (k.Tidy env exec blocksInGate changed) :=
  decidable_of_iff' _ (tidy_iff ..)

variable {blocksInGate : Nat} {changed : Prop}

theorem mem_active_written (k : GuardKeeper) (record : QueuedExecution) :
    record.proposalId ∈ (k.setQueuedExecution record).activeExecutions ↔ record.isTerminal = false := by
  rw [mem_active_setQueuedExecution, if_pos rfl]

theorem written_visited (k : GuardKeeper) {record : QueuedExecution} (live : record.isTerminal = false)
    (due : height ≤ record.earliestExecHeight)
    (entries : ∀ indexed, (indexed, record.proposalId) ∈ k.queueIndex →
      indexed = height ∨ indexed = record.earliestExecHeight) :
    (k.setQueuedExecution record).Visited height record.proposalId := by
  refine Visited.of_record (getQueuedExecution_written k rfl) (mem_active_written k record) ?_
  intro indexed member
  obtain same | held := mem_setQueuedExecution.1 member
  · have here : indexed = record.earliestExecHeight := (Prod.mk.inj same).1.symm
    by_cases now : indexed = height
    · exact .inl now
    · exact .inr ⟨live, by omega⟩
  · obtain now | here := entries indexed held
    · exact .inl now
    · by_cases now : indexed = height
      · exact .inl now
      · exact .inr ⟨live, by omega⟩

theorem finished_visited (k : GuardKeeper) {record : QueuedExecution}
    (due : record.earliestExecHeight = height)
    (entries : ∀ indexed, (indexed, record.proposalId) ∈ k.queueIndex → indexed = height) :
    (k.setQueuedExecution record).Visited height record.proposalId := by
  refine Visited.of_record (getQueuedExecution_written k rfl) (mem_active_written k record) ?_
  intro indexed member
  obtain same | held := mem_setQueuedExecution.1 member
  · exact .inl ((Prod.mk.inj same).1.symm.trans due)
  · exact .inl (entries indexed held)

theorem Visited.emitEvent (visited : k.Visited height proposalId) (event : Event) :
    (k.emitEvent event).Visited height proposalId := ⟨visited.entries, visited.active⟩

theorem GateOutcome.visited (outcome : k.GateOutcome env exec blocksInGate k')
    (found : k.getQueuedExecution exec.proposalId = some exec)
    (live : exec.isTerminal = false) (active : exec.proposalId ∈ k.activeExecutions)
    (entries : ∀ indexed, (indexed, exec.proposalId) ∈ k.queueIndex → indexed = env.height ∨
      changed ∧ indexed = exec.earliestExecHeight)
    (fits : env.height < 2 ^ 63) (tidy : k.Tidy env exec blocksInGate changed) :
    k'.Visited env.height exec.proposalId := by
  cases outcome with
  | waits unconditional =>
      refine Visited.of_record found (by simp [active, live]) ?_
      intro indexed member
      obtain now | ⟨changed, here⟩ := entries indexed member
      · exact .inl now
      · have ahead := tidy.reassessed changed fun shaken => unconditional shaken.1
        by_cases due : indexed = env.height
        · exact .inl due
        · exact .inr ⟨live, by omega⟩
  | entersShockAbsorber gate elapsed =>
      refine (written_visited k ?_ ?_ ?_).emitEvent _
      · rfl
      · exact tidy.visibility gate elapsed
      · exact fun indexed member => (entries indexed member).imp_right And.right
  | entersConditionalExecution gate elapsed snapshotted kept =>
      refine (written_visited snapshotted ?_ ?_ ?_).emitEvent _
      · rfl
      · exact tidy.shockAbsorber gate elapsed
      · intro indexed member
        refine (entries indexed ?_).imp_right And.right
        obtain rfl | rfl := kept
        · exact member
        · exact ((frame_snapshotValidatorPower k env).index indexed).1 member
  | postpones gate unstable note =>
      refine (written_visited _ (by rw [← live]; rfl) (tidy.postponed gate unstable) ?_).emitEvent _
      intro indexed member
      have held := ((frame_snapshotValidatorPower _ env).index indexed).1 member
      obtain ⟨away, held⟩ := mem_deleteQueueIndexEntry.1 held
      obtain now | ⟨-, here⟩ := entries indexed held
      · exact .inl now
      · exact absurd (by rw [here]) away
  | entersReady gate stable =>
      refine (written_visited k ?_ ?_ ?_).emitEvent _
      · rfl
      · exact tidy.stable gate stable
      · exact fun indexed member => (entries indexed member).imp_right And.right
  | restarts gate needs expired =>
      obtain ⟨ahead, moved⟩ := tidy.restarted gate needs expired
      refine (written_visited k ?_ ahead ?_).emitEvent _
      · rfl
      · intro indexed member
        obtain now | ⟨written, here⟩ := entries indexed member
        · exact .inl now
        · rw [here]
          exact moved written
  | aborts gate clear error rejected =>
      obtain due | ⟨verified, -⟩ := tidy.finished gate clear
      · refine finished_visited k due fun indexed member => ?_
        exact (entries indexed member).elim id fun written => written.2.trans due
      · rw [rejected] at verified
        cases verified
  | defers gate clear note =>
      have ahead : env.height ≤ u64 (env.height + deferralBackoff) := by
        unfold u64 deferralBackoff
        omega
      refine written_visited _ (by rw [← live]; rfl) ahead ?_
      intro indexed member
      obtain now | ⟨written, here⟩ := entries indexed member
      · exact .inl now
      · obtain due | ⟨-, -, -, moved⟩ := tidy.finished gate clear
        · exact .inl (here.trans due)
        · exact .inr (here.trans (moved written))
  | fails gate clear refused error =>
      obtain due | ⟨-, unmarked, frozen, -⟩ := tidy.finished gate clear
      · refine finished_visited _ due fun indexed member => ?_
        exact (entries indexed member).elim id fun written => written.2.trans due
      · rw [unmarked, frozen] at refused
        simp at refused
  | executes gate clear unmarked unfrozen ran effect =>
      obtain due | ⟨-, -, frozen, -⟩ := tidy.finished gate clear
      · refine finished_visited _ due fun indexed member => ?_
        refine (entries indexed ?_).elim id fun written => written.2.trans due
        obtain rfl | ⟨rfl, -⟩ := effect <;> exact member
      · rw [unfrozen] at frozen
        cases frozen

theorem Tidy.of_settled (tidy : k.Tidy env exec blocksInGate changed) (params : k'.params = k.params)
    (snapshots : k'.powerSnapshots = k.powerSnapshots)
    (markers : k'.executionMarkers = k.executionMarkers) : k'.Tidy env exec blocksInGate changed := by
  have unstable : k'.Unstable env exec.proposalId ↔ k.Unstable env exec.proposalId := by
    unfold Unstable checkStabilityConditions
    rw [params, snapshots]
  have extension : k'.extension exec = k.extension exec := by
    unfold GuardKeeper.extension
    rw [params]
  have marked : k'.hasExecutionMarker exec.proposalId = k.hasExecutionMarker exec.proposalId := by
    unfold hasExecutionMarker
    rw [markers]
  rw [tidy_iff, unstable, extension, marked, params, ← tidy_iff]
  exact tidy

def Orderly (env : Env) (k : GuardKeeper) (proposalId : Nat) : Prop :=
  ∀ exec ∈ k.getQueuedExecution proposalId, exec.isTerminal = false →
    exec.earliestExecHeight ≤ env.height →
    k.Tidy env (k.reassessed env exec) (blocksSince env.height exec.gateEnteredHeight)
      (k.ChangesRisk env proposalId)

instance decidableOrderly (env : Env) (k : GuardKeeper) (proposalId : Nat) :
    Decidable (Orderly env k proposalId) :=
  inferInstanceAs (Decidable (∀ exec ∈ k.getQueuedExecution proposalId, _))

theorem isTerminal_reassessed (k : GuardKeeper) (env : Env) (exec : QueuedExecution) :
    (k.reassessed env exec).isTerminal = exec.isTerminal := by
  unfold reassessed
  split
  · rfl
  · split <;> rfl

variable (env) in
theorem mem_active_reevaluated (found : k.getQueuedExecution proposalId = some exec)
    (live : exec.isTerminal = false) (active : proposalId ∈ k.activeExecutions) :
    proposalId ∈ (k.reevaluated env proposalId).activeExecutions := by
  have named := proposalId_of_getQueuedExecution found
  obtain ⟨-, records, same⟩ | ⟨existing, report, records, -, -, -, -, same⟩ :=
    reevaluated_cases env found live
  · rw [same]
    exact active
  · rw [same, reassign, mem_active_setQueuedExecution, proposalId_rescheduled, if_pos named]
    exact live

theorem visit_visited (exactly : k.Exactly processed proposalId)
    (member : (env.height, proposalId) ∈ k.queueIndex) (fits : env.height < 2 ^ 63)
    (orderly : Orderly env k proposalId) : (k.visit env proposalId).Visited env.height proposalId := by
  obtain ⟨exec, found, live, here⟩ := (exactly.entries env.height).1 member
  have entries : ∀ indexed, (indexed, proposalId) ∈ k.queueIndex → indexed = env.height := by
    intro indexed held
    obtain ⟨exec', found', -, there⟩ := (exactly.entries indexed).1 held
    obtain rfl := Option.some.inj (found.symm.trans found')
    exact there.trans here.symm
  obtain same | ⟨exec', found', -, due, outcome⟩ := visit_cases k env proposalId
  · rw [same]
    exact ⟨fun indexed held => .inl (entries indexed held), exactly.active⟩
  · obtain rfl := Option.some.inj (found.symm.trans found')
    obtain ⟨settled, -, markers, snapshots⟩ := reevaluated_settled env found live
    have named := (proposalId_reassessed k env exec).trans (proposalId_of_getQueuedExecution found)
    have tidy := (orderly exec found live due).of_settled settled.params snapshots markers
    have visited := outcome.visited
      (by rw [named]; exact reevaluated_record _ found live)
      (by rw [isTerminal_reassessed, live])
      (by rw [named]; exact mem_active_reevaluated _ found live (exactly.active.2 ⟨exec, found, live⟩))
      (by
        rw [named]
        intro indexed held
        obtain moved | ⟨kept, -⟩ := (mem_reevaluated found live indexed).1 held
        · exact .inr moved
        · exact .inl (entries indexed kept)) fits tidy
    rwa [named] at visited

theorem visits_frame {pending : List Nat} (away : other ∉ pending) :
    Frame other k (pending.foldl (fun k proposalId => k.visit env proposalId) k) := by
  induction pending generalizing k with
  | nil => exact Frame.refl k
  | cons proposalId rest ih =>
      rw [List.mem_cons, not_or] at away
      exact (visit_frame k env (Ne.symm away.1)).trans (ih away.2)

theorem visits_visited {pending : List Nat} (distinct : pending.Nodup)
    (exactly : ∀ proposalId ∈ pending, k.Exactly processed proposalId)
    (due : ∀ proposalId ∈ pending, (env.height, proposalId) ∈ k.queueIndex)
    (fits : env.height < 2 ^ 63)
    (orderly : Run.Along (fun k proposalId => k.visit env proposalId) (Orderly env) k pending) :
    ∀ proposalId ∈ pending,
      (pending.foldl (fun k proposalId => k.visit env proposalId) k).Visited env.height proposalId := by
  induction pending generalizing k with
  | nil => exact fun _ member => absurd member List.not_mem_nil
  | cons first rest ih =>
      obtain ⟨here, onwards⟩ := orderly
      obtain ⟨fresh, distinct⟩ := List.nodup_cons.1 distinct
      intro proposalId member
      obtain rfl | member := List.mem_cons.1 member
      · exact (visit_visited (exactly _ List.mem_cons_self) (due _ List.mem_cons_self) fits here).of_frame
          (visits_frame fresh)
      · refine ih distinct ?_ ?_ onwards proposalId member
        · intro other listed
          have away : first ≠ other := fun same => fresh (same ▸ listed)
          exact (exactly other (List.mem_cons_of_mem _ listed)).of_frame (visit_frame k env away)
        · intro other listed
          have away : first ≠ other := fun same => fresh (same ▸ listed)
          exact ((visit_frame k env away).index env.height).2 (due other (List.mem_cons_of_mem _ listed))

theorem reindexed_frame {scanned : List Nat} (away : other ∉ scanned) :
    Frame other k (scanned.foldl (fun k proposalId => k.reindex height proposalId) k) := by
  induction scanned generalizing k with
  | nil => exact Frame.refl k
  | cons proposalId rest ih =>
      rw [List.mem_cons, not_or] at away
      exact (reindex_frame k height (Ne.symm away.1)).trans (ih away.2)

theorem reindexed_exactly {scanned : List Nat} (distinct : scanned.Nodup)
    (visited : ∀ proposalId ∈ scanned, k.Visited height proposalId) :
    ∀ proposalId ∈ scanned,
      (scanned.foldl (fun k proposalId => k.reindex height proposalId) k).Exactly height proposalId := by
  induction scanned generalizing k with
  | nil => exact fun _ member => absurd member List.not_mem_nil
  | cons first rest ih =>
      obtain ⟨fresh, distinct⟩ := List.nodup_cons.1 distinct
      intro proposalId member
      obtain rfl | member := List.mem_cons.1 member
      · exact (reindex_exactly (visited _ List.mem_cons_self)).of_frame (reindexed_frame fresh)
      · refine ih distinct ?_ proposalId member
        intro other listed
        have away : first ≠ other := fun same => fresh (same ▸ listed)
        exact (visited other (List.mem_cons_of_mem _ listed)).of_frame (reindex_frame k height away)

theorem nodup_queueByHeight (exactly : ∀ proposalId, k.Exactly processed proposalId) (height : Nat) :
    (k.queueByHeight height).Nodup := by
  have distinct : k.queueIndex.toList.Nodup := by
    refine Std.ExtTreeSet.distinct_toList.imp ?_
    intro first second apart same
    exact apart (Std.LawfulEqCmp.compare_eq_iff_eq.2 same)
  have entries : (k.queueIndex.toList.filter fun entry => entry.1 ≤ height).Nodup := distinct.filter _
  refine entries.map_on ?_
  intro first firstHeld second secondHeld same
  have firstHeld := Std.ExtTreeSet.mem_toList.1 (List.mem_of_mem_filter firstHeld)
  have secondHeld := Std.ExtTreeSet.mem_toList.1 (List.mem_of_mem_filter secondHeld)
  obtain ⟨exec, found, -, here⟩ := ((exactly first.2).entries first.1).1 firstHeld
  rw [same] at found
  obtain ⟨exec', found', -, there⟩ := ((exactly second.2).entries second.1).1 secondHeld
  obtain rfl := Option.some.inj (found.symm.trans found')
  exact Prod.ext (here.trans there.symm) same

theorem processQueue_exactly (exactly : ∀ proposalId, k.Exactly processed proposalId)
    (later : processed < env.height) (fits : env.height < 2 ^ 63)
    (punctual : ∀ entry ∈ k.queueIndex.toList, env.height ≤ entry.1)
    (room : (k.queueByHeight env.height).length ≤ k.params.maxQueueScanDepth)
    (orderly : Run.Along (fun k proposalId => k.visit env proposalId) (Orderly env) k (k.scanned env))
    (proposalId : Nat) : (k.processQueue env).Exactly env.height proposalId := by
  have all : k.scanned env = k.queueByHeight env.height := List.take_of_length_le room
  have due : ∀ proposalId ∈ k.scanned env, (env.height, proposalId) ∈ k.queueIndex := by
    intro proposalId member
    rw [all] at member
    obtain ⟨height, below, held⟩ := mem_queueByHeight.1 member
    have above := punctual _ (Std.ExtTreeSet.mem_toList.2 held)
    rwa [Nat.le_antisymm below above] at held
  have distinct : (k.scanned env).Nodup := by
    rw [all]
    exact nodup_queueByHeight exactly env.height
  by_cases member : proposalId ∈ k.scanned env
  · exact reindexed_exactly distinct
      (visits_visited distinct (fun other _ => exactly other) due fits orderly) proposalId member
  · have frame : Frame proposalId k (k.processQueue env) :=
      (visits_frame member).trans (reindexed_frame member)
    refine Exactly.of_frame ?_ frame
    refine ⟨?_, (exactly proposalId).active⟩
    intro height
    rw [(exactly proposalId).entries]
    refine exists_congr fun exec => and_congr_right fun found => and_congr_right fun live => ?_
    have ahead : env.height < max exec.earliestExecHeight (processed + 1) := by
      by_contra reached
      rw [all] at member
      exact member (mem_queueByHeight.2 ⟨_, Nat.le_of_not_lt reached,
        ((exactly proposalId).entries _).2 ⟨exec, found, live, rfl⟩⟩)
    omega

end Scan

section Actions

theorem onProposalPassed_exactly (exactly : ∀ proposalId, k.Exactly processed proposalId)
    (ahead : k.getQueuedExecution proposalId = none → ∀ proposal ∈ env.getProposal proposalId,
      processed < u64 (env.height + (k.initialReport env proposal).computedDelayBlocks)) (other : Nat) :
    ((k.onProposalPassed env proposalId).getD k).Exactly processed other := by
  obtain same | ⟨report, absent, reported, ⟨proposal, proposed, initial⟩, same⟩ :=
    onProposalPassed_cases k env proposalId
  · rw [same]
    exact exactly other
  · rw [same]
    by_cases here : proposalId = other
    · subst here
      have unlisted : ∀ height, (height, proposalId) ∉ k.queueIndex := by
        intro height member
        obtain ⟨exec, found, -⟩ := ((exactly proposalId).entries height).1 member
        rw [absent] at found
        cases found
      have later := ahead absent proposal proposed
      rw [initial] at later
      refine Exactly.of_record (getQueuedExecution_announced _ _ rfl)
        (mem_active_written _ (k.initialExecution env proposalId report)) ?_
      intro height
      have delay : (k.initialExecution env proposalId report).earliestExecHeight =
          u64 (env.height + report.computedDelayBlocks) := rfl
      refine mem_setQueuedExecution.trans ?_
      rw [delay, Nat.max_eq_left later]
      constructor
      · rintro (entered | held)
        · exact ⟨rfl, (Prod.mk.inj entered).1.symm⟩
        · exact absurd held (unlisted height)
      · rintro ⟨-, rfl⟩
        exact .inl rfl
    · exact (exactly other).of_frame (frame_enqueue k env reported here)

theorem reevaluated_exactly (exactly : ∀ proposalId, k.Exactly processed proposalId)
    (ahead : ∀ exec ∈ k.getQueuedExecution proposalId, exec.isTerminal = false →
      k.ChangesRisk env proposalId →
      processed < (k.reassessed env exec).earliestExecHeight ∧
        (processed < exec.earliestExecHeight ∨
          (k.reassessed env exec).earliestExecHeight = processed + 1)) (other : Nat) :
    (k.reevaluated env proposalId).Exactly processed other := by
  by_cases idle : ∀ exec ∈ k.getQueuedExecution proposalId, exec.isTerminal = true
  · rw [reevaluated_idle k env idle]
    exact exactly other
  · push Not at idle
    obtain ⟨exec, found, live⟩ := idle
    rw [ne_eq, Bool.not_eq_true] at live
    by_cases here : proposalId = other
    · subst here
      have before : ∀ height, (height, proposalId) ∈ k.queueIndex ↔
          height = max exec.earliestExecHeight (processed + 1) := by
        intro height
        rw [(exactly proposalId).entries, found]
        simp [live]
      have active := mem_active_reevaluated env found live
        ((exactly proposalId).active.2 ⟨exec, found, live⟩)
      refine Exactly.of_record (reevaluated_record _ found live)
        (by simp [active, isTerminal_reassessed, live]) ?_
      intro height
      rw [mem_reevaluated found live, before, isTerminal_reassessed]
      simp only [live, true_and]
      have named := proposalId_of_getQueuedExecution found
      subst named
      by_cases changes : k.ChangesRisk env exec.proposalId
      · obtain ⟨later, forward⟩ := ahead exec found live changes
        by_cases raises : k.RaisesDelay env exec.proposalId
        · simp only [changes, raises, true_and, true_imp_iff, ne_eq]
          omega
        · rw [reassessed_height raises] at later ⊢
          simp only [changes, raises, true_and, false_imp_iff, and_true]
          omega
      · have still : ¬ k.RaisesDelay env exec.proposalId := fun raises => changes raises.changesRisk
        rw [reassessed_of_unchanged changes]
        simp [changes, still]
    · exact (exactly other).of_frame (reevaluated_frame found live here)

theorem confirmed_exactly (exactly : ∀ proposalId, k.Exactly processed proposalId) (authority : String)
    (justification : String)
    (ahead : k.authority = authority → ∀ exec ∈ k.getQueuedExecution proposalId,
      exec.gateState = .ready → exec.needsConfirmation = true → processed < exec.earliestExecHeight)
    (other : Nat) :
    (k.orUnchanged (k.confirmExecution authority proposalId justification)).Exactly processed other := by
  obtain same | ⟨accepted, exec, found, ready, needs, same⟩ :=
    confirmExecution_cases k authority proposalId justification
  · rw [same]
    exact exactly other
  · rw [same]
    have named := proposalId_of_getQueuedExecution found
    subst named
    have live : exec.isTerminal = false := by simp [QueuedExecution.isTerminal, ready]; rfl
    have later := ahead accepted exec found ready needs
    by_cases here : exec.proposalId = other
    · subst here
      refine Exactly.of_record (getQueuedExecution_written k rfl)
        (mem_active_written k { exec with
          secondConfirmReceived := true
          statusNote := .secondConfirmationReceived justification }) ?_
      intro height
      refine mem_setQueuedExecution.trans ?_
      rw [(exactly exec.proposalId).entries, found]
      show _ ↔ exec.isTerminal = false ∧ height = max exec.earliestExecHeight (processed + 1)
      constructor
      · rintro (entered | ⟨held, same, -, indexed⟩)
        · obtain rfl := (Prod.mk.inj entered).1
          exact ⟨live, (Nat.max_eq_left later).symm⟩
        · obtain rfl := Option.some.inj same
          exact ⟨live, indexed⟩
      · rintro ⟨-, indexed⟩
        exact .inr ⟨exec, rfl, live, indexed⟩
    · exact (exactly other).of_frame (frame_setQueuedExecution k here)

theorem scanned_length_le (exactly : ∀ proposalId, k.Exactly processed proposalId) (env : Env) :
    (k.scanned env).length ≤
      (k.queuedExecutions.values.filter fun exec => !exec.isTerminal).length := by
  have distinct := nodup_queueByHeight exactly env.height
  have listed : k.queueByHeight env.height ⊆
      (k.queuedExecutions.values.filter fun exec => !exec.isTerminal).map QueuedExecution.proposalId := by
    intro proposalId member
    obtain ⟨height, -, held⟩ := mem_queueByHeight.1 member
    obtain ⟨exec, found, live, -⟩ := ((exactly proposalId).entries height).1 held
    have named := proposalId_of_getQueuedExecution found
    subst named
    exact List.mem_map.2 ⟨exec, List.mem_filter.2 ⟨KeyedMap.mem_values.2 found, by simp [live]⟩, rfl⟩
  calc (k.scanned env).length ≤ (k.queueByHeight env.height).length := List.length_take_le' ..
    _ ≤ _ := (distinct.subperm listed).length_le
    _ = _ := List.length_map _

end Actions

end GuardKeeper

namespace Guard.Timeline

open GuardKeeper

def Punctual (t : Timeline) : Action → Prop
  | .onProposalPassed env proposalId =>
      t.keeper.getQueuedExecution proposalId = none → ∀ proposal ∈ env.getProposal proposalId,
        t.processed < u64 (env.height + (t.keeper.initialReport env proposal).computedDelayBlocks)
  | .onTimelockQueued env proposalId =>
      t.keeper.getQueuedExecution proposalId = none → ∀ proposal ∈ env.getProposal proposalId,
        t.processed < u64 (env.height + (t.keeper.initialReport env proposal).computedDelayBlocks)
  | .processQueue env =>
      (∀ entry ∈ t.keeper.queueIndex.toList, env.height ≤ entry.1) ∧
      (t.keeper.queueByHeight env.height).length ≤ t.keeper.params.maxQueueScanDepth ∧
      Run.Along (fun k proposalId => k.visit env proposalId) (Orderly env) t.keeper (t.keeper.scanned env)
  | .reevaluateRisk env proposalId =>
      ∀ exec ∈ t.keeper.getQueuedExecution proposalId, exec.isTerminal = false →
        t.keeper.ChangesRisk env proposalId →
        t.processed < (t.keeper.reassessed env exec).earliestExecHeight ∧
          (t.processed < exec.earliestExecHeight ∨
            (t.keeper.reassessed env exec).earliestExecHeight = t.processed + 1)
  | .confirmExecution authority proposalId _ =>
      t.keeper.authority = authority → ∀ exec ∈ t.keeper.getQueuedExecution proposalId,
        exec.gateState = .ready → exec.needsConfirmation = true →
        t.processed < exec.earliestExecHeight
  | _ => True

instance decidablePunctual (t : Timeline) : ∀ action, Decidable (t.Punctual action)
  | .onProposalPassed .. => by dsimp only [Punctual]; infer_instance
  | .onTimelockQueued .. => by dsimp only [Punctual]; infer_instance
  | .processQueue .. => by dsimp only [Punctual]; infer_instance
  | .reevaluateRisk .. => by dsimp only [Punctual]; infer_instance
  | .confirmExecution .. => by dsimp only [Punctual]; infer_instance
  | .setEmergencyHardeningMode .. => instDecidableTrue
  | .updateParams .. => instDecidableTrue

theorem step_exactly {t : Timeline} {action : Action}
    (exactly : ∀ proposalId, t.keeper.Exactly t.processed proposalId)
    (chronological : t.Chronological action) (punctual : t.Punctual action) (proposalId : Nat) :
    (t.step action).keeper.Exactly (t.step action).processed proposalId := by
  cases action with
  | onProposalPassed env passed => exact onProposalPassed_exactly exactly punctual proposalId
  | onTimelockQueued env passed =>
      obtain same | same := onTimelockQueued_cases t.keeper env passed
      · rw [step, same]
        exact exactly proposalId
      · have kept := onProposalPassed_exactly exactly punctual proposalId
        rw [step, same]
        exact ⟨kept.entries, kept.active⟩
  | processQueue env =>
      obtain ⟨-, later, fits⟩ := chronological
      obtain ⟨early, room, orderly⟩ := punctual
      exact processQueue_exactly exactly later fits early room orderly proposalId
  | reevaluateRisk env risky => exact reevaluated_exactly exactly punctual proposalId
  | confirmExecution authority confirmed justification =>
      exact confirmed_exactly exactly authority justification punctual proposalId
  | setEmergencyHardeningMode enabled =>
      exact ⟨(exactly proposalId).entries, (exactly proposalId).active⟩
  | updateParams authority params =>
      obtain same | ⟨-, -, same⟩ := updateParams_cases t.keeper authority params
      · rw [step, same]
        exact exactly proposalId
      · rw [step, same]
        exact ⟨(exactly proposalId).entries, (exactly proposalId).active⟩

theorem start_exactly (authority : String) (params : Params) (proposalId : Nat) :
    (start authority params).keeper.Exactly 0 proposalId := by
  have none : (start authority params).keeper.getQueuedExecution proposalId = none :=
    KeyedMap.get?_empty proposalId
  refine ⟨?_, ?_⟩
  · intro height
    rw [none]
    simp [start, GuardKeeper.new]
  · rw [IsLive, none]
    simp [start, GuardKeeper.new]

/-- In every run whose steps are punctual, the index has one entry for each live execution, above the
block processed last, and none for a finished one, and a scan is no longer than there are live ones. -/
theorem index_exact (authority : String) (params : Params) (run : List Action)
    (punctual : Run.Along step (fun t action => t.Chronological action ∧ t.Punctual action)
      (start authority params) run) :
    (∀ proposalId, (run.foldl step (start authority params)).keeper.Exactly
      (run.foldl step (start authority params)).processed proposalId) ∧
    ∀ env, ((run.foldl step (start authority params)).keeper.scanned env).length ≤
      ((run.foldl step (start authority params)).keeper.queuedExecutions.values.filter
        fun exec => !exec.isTerminal).length := by
  have exactly : ∀ proposalId, (run.foldl step (start authority params)).keeper.Exactly
      (run.foldl step (start authority params)).processed proposalId :=
    @Run.invariant _ _ step _ (fun t => ∀ proposalId, t.keeper.Exactly t.processed proposalId)
      (fun t action exactly meets => step_exactly exactly meets.1 meets.2) _
      (start_exactly authority params) run punctual
  exact ⟨exactly, scanned_length_le exactly⟩

def firstGateRun : List Action :=
  .onProposalPassed (textPassed 1) 7 ::
    [2, 3, 4, 5].map fun height => .processQueue (textPassed height)

theorem index_exact_firstGateRun :
    (∀ proposalId, (firstGateRun.foldl step (start "gov" briefParams)).keeper.Exactly
      (firstGateRun.foldl step (start "gov" briefParams)).processed proposalId) ∧
    ∀ env, ((firstGateRun.foldl step (start "gov" briefParams)).keeper.scanned env).length ≤
      ((firstGateRun.foldl step (start "gov" briefParams)).keeper.queuedExecutions.values.filter
        fun exec => !exec.isTerminal).length :=
  index_exact "gov" briefParams firstGateRun (by decide +kernel)

def executedRun : List Action := textRun ++ [.processQueue (textPassed 7)]

/-- Executed in block 7, the proposal keeps its entry at height 5. -/
theorem executed_stays_indexed : briefParams.Valid ∧
    Run.Along step (fun t action => t.Chronological action) (start "gov" briefParams) executedRun ∧
    (executedRun.foldl step (start "gov" briefParams)).processed = 7 ∧
    (∃ exec ∈ (executedRun.foldl step (start "gov" briefParams)).keeper.getQueuedExecution 7,
      exec.isTerminal = true) ∧
    (5, 7) ∈ (executedRun.foldl step (start "gov" briefParams)).keeper.queueIndex :=
  ⟨by decide, by decide +kernel, by decide +kernel, by decide +kernel, by decide +kernel⟩

end Guard.Timeline

end Omniphi
