import Omniphi.Lib.Run
import Omniphi.Poc.Vesting

/-! Vesting pays each reward once: what is transferred for a schedule is what the schedule says. -/

namespace Omniphi.Poc

structure Standing where
  total : Int
  released : Int
  status : VestingStatus
  deriving DecidableEq

inductive Phase : Option Standing → Receipt → Prop
  | fresh : Phase none ⟨none, 0, false, none⟩
  | live {total released : Int} {status : VestingStatus} (runs : status = .active ∨ status = .paused)
      (nonneg : 0 ≤ released) (within : released ≤ total) :
      Phase (some ⟨total, released, status⟩) ⟨some total, released, false, none⟩
  | completed {total : Int} {standing : Option Standing}
      (ended : ∀ s ∈ standing, s = ⟨total, total, .completed⟩) :
      Phase standing ⟨some total, total, true, none⟩
  | clawedBack {paid unvested : Int} {standing : Option Standing} (nonneg : 0 ≤ unvested)
      (ended : ∀ s ∈ standing, s = ⟨paid + unvested, paid, .clawedBack⟩) :
      Phase standing ⟨some (paid + unvested), paid, false, some unvested⟩

namespace Phase

variable {standing : Option Standing} {s : Standing} {receipt : Receipt}

theorem fresh_of (phase : Phase standing receipt) (granted : receipt.granted = none) :
    standing = none ∧ receipt = ⟨none, 0, false, none⟩ := by
  cases phase with
  | fresh => exact ⟨rfl, rfl⟩
  | live runs nonneg within => cases granted
  | completed ended => cases granted
  | clawedBack nonneg ended => cases granted

theorem live_of (phase : Phase (some s) receipt) (runs : s.status = .active ∨ s.status = .paused) :
    receipt = ⟨some s.total, s.released, false, none⟩ ∧ 0 ≤ s.released ∧ s.released ≤ s.total := by
  cases phase with
  | live runs nonneg within => exact ⟨rfl, nonneg, within⟩
  | completed ended =>
    obtain rfl := ended s rfl
    obtain runs | runs := runs <;> cases runs
  | clawedBack nonneg ended =>
    obtain rfl := ended s rfl
    obtain runs | runs := runs <;> cases runs

theorem accounts (phase : Phase standing receipt) :
    (∀ s, standing = some s → receipt.granted = some s.total ∧ receipt.paid = s.released) ∧
    (∀ total, receipt.granted = some total → receipt.paid ≤ total) ∧
    (∀ total, receipt.granted = some total → receipt.completed = true → receipt.paid = total) ∧
    ∀ total unvested, receipt.granted = some total → receipt.returned = some unvested →
      receipt.paid + unvested = total := by
  cases phase with
  | fresh => simp
  | live runs nonneg within => simp [within]
  | completed ended =>
    refine ⟨fun s held => ?_, by simp, by simp, by simp⟩
    obtain rfl := ended s held
    exact ⟨rfl, rfl⟩
  | clawedBack nonneg ended =>
    refine ⟨fun s held => ?_, by simp [nonneg], by simp, by simp⟩
    obtain rfl := ended s held
    exact ⟨rfl, rfl⟩

end Phase

namespace ARVSVestingSchedule

structure WellStaged (s : ARVSVestingSchedule) : Prop where
  nonneg : ∀ stage ∈ s.stages, 0 ≤ stage.amount
  released : VestingKeeper.releasedSum s.stages = s.releasedAmount
  total : VestingKeeper.releasedSum s.stages + VestingKeeper.unreleasedSum s.stages = s.totalAmount

end ARVSVestingSchedule

namespace VestingKeeper

variable {k k' : VestingKeeper} {call : VestingCall} {key : VestingKey} {contributor recipient : String}

def standing (k : VestingKeeper) : Scheme → VestingKey → Option Standing
  | .legacy, key => (k.getVestingSchedule key).map fun s => ⟨s.totalAmount, s.releasedAmount, s.status⟩
  | .arvs, key => (k.getARVSVestingSchedule key).map fun s => ⟨s.totalAmount, s.releasedAmount, s.status⟩

theorem standing_legacy (k : VestingKeeper) (key : VestingKey) : k.standing .legacy key =
    (k.getVestingSchedule key).map fun s => ⟨s.totalAmount, s.releasedAmount, s.status⟩ := rfl

theorem standing_arvs (k : VestingKeeper) (key : VestingKey) : k.standing .arvs key =
    (k.getARVSVestingSchedule key).map fun s => ⟨s.totalAmount, s.releasedAmount, s.status⟩ := rfl

def owed (contributor : String) (s : VestingSchedule) : Int :=
  if s.contributor = contributor then s.totalAmount - s.releasedAmount else 0

def outstanding (k : VestingKeeper) (contributor : String) : Int := k.schedules.total (owed contributor)

structure Books (k : VestingKeeper) : Prop where
  phase : ∀ scheme key, Phase (k.standing scheme key) (k.receipts scheme key)
  staged : ∀ key s, k.getARVSVestingSchedule key = some s → s.WellStaged
  balance : ∀ contributor, k.getVestingBalance contributor = k.outstanding contributor

structure Continues (k k' : VestingKeeper) : Prop where
  books : Books k'
  settled : ∀ scheme key, (k.receipts scheme key).returned.isSome →
    k'.receipts scheme key = k.receipts scheme key

theorem Continues.refl (books : Books k) : Continues k k := ⟨books, fun _ _ _ => rfl⟩

theorem Continues.trans {k'' : VestingKeeper} (first : Continues k k') (second : Continues k' k'') :
    Continues k k'' := by
  refine ⟨second.books, fun scheme key returned => ?_⟩
  have same := first.settled scheme key returned
  rw [second.settled scheme key (by rwa [same]), same]

section Changes

structure SameBooks (k k' : VestingKeeper) : Prop where
  schedules : k'.schedules = k.schedules
  vestingBalances : k'.vestingBalances = k.vestingBalances
  arvsSchedules : k'.arvsSchedules = k.arvsSchedules
  receipts : k'.receipts = k.receipts

theorem receipts_record_same {scheme : Scheme} {change : Receipt → Receipt} :
    (k.record scheme key change).receipts scheme key = change (k.receipts scheme key) :=
  if_pos ⟨rfl, rfl⟩

theorem receipts_record_other {scheme s : Scheme} {a : VestingKey} {change : Receipt → Receipt}
    (elsewhere : ¬ (s = scheme ∧ a = key)) :
    (k.record scheme key change).receipts s a = k.receipts s a :=
  if_neg elsewhere

theorem SameBooks.refl (k : VestingKeeper) : SameBooks k k := ⟨rfl, rfl, rfl, rfl⟩

theorem SameBooks.trans {k'' : VestingKeeper} (first : SameBooks k k') (second : SameBooks k' k'') :
    SameBooks k k'' :=
  ⟨second.schedules.trans first.schedules, second.vestingBalances.trans first.vestingBalances,
    second.arvsSchedules.trans first.arvsSchedules, second.receipts.trans first.receipts⟩

theorem SameBooks.standing (same : SameBooks k k') (scheme : Scheme) (key : VestingKey) :
    k'.standing scheme key = k.standing scheme key := by
  cases scheme with
  | legacy => rw [standing_legacy, standing_legacy, getVestingSchedule, same.schedules, getVestingSchedule]
  | arvs =>
    rw [standing_arvs, standing_arvs, getARVSVestingSchedule, same.arvsSchedules, getARVSVestingSchedule]

theorem SameBooks.continues (same : SameBooks k k') (books : Books k) : Continues k k' := by
  refine ⟨⟨fun scheme key => ?_, fun key s found => ?_, fun contributor => ?_⟩, fun scheme key _ => ?_⟩
  · rw [same.standing, same.receipts]
    exact books.phase scheme key
  · rw [getARVSVestingSchedule, same.arvsSchedules] at found
    exact books.staged key s found
  · rw [getVestingBalance, same.vestingBalances, outstanding, same.schedules]
    exact books.balance contributor
  · rw [same.receipts]

theorem Books.legacy (books : Books k) (key : VestingKey) (unsettled : (k.receipts .legacy key).returned = none)
    (arvs : k'.arvsSchedules = k.arvsSchedules)
    (others : ∀ a, key ≠ a → k'.getVestingSchedule a = k.getVestingSchedule a)
    (receipts : ∀ scheme a, ¬ (scheme = .legacy ∧ a = key) → k'.receipts scheme a = k.receipts scheme a)
    (here : Phase (k'.standing .legacy key) (k'.receipts .legacy key))
    (balance : ∀ contributor, k'.getVestingBalance contributor = k'.outstanding contributor) :
    Continues k k' := by
  refine ⟨⟨fun scheme a => ?_, fun a s found => ?_, balance⟩, fun scheme a returned => ?_⟩
  · by_cases same : scheme = .legacy ∧ a = key
    · obtain ⟨rfl, rfl⟩ := same
      exact here
    · rw [receipts scheme a same]
      have before := books.phase scheme a
      cases scheme with
      | legacy =>
        have elsewhere : key ≠ a := fun here => same ⟨rfl, here.symm⟩
        rw [standing_legacy] at before ⊢
        rwa [others a elsewhere]
      | arvs =>
        rw [standing_arvs, getARVSVestingSchedule] at before ⊢
        rwa [arvs]
  · rw [getARVSVestingSchedule, arvs] at found
    exact books.staged a s found
  · refine receipts scheme a ?_
    rintro ⟨rfl, rfl⟩
    rw [unsettled] at returned
    cases returned

theorem Books.arvs (books : Books k) (key : VestingKey) (unsettled : (k.receipts .arvs key).returned = none)
    (schedules : k'.schedules = k.schedules) (balances : k'.vestingBalances = k.vestingBalances)
    (others : ∀ a, key ≠ a → k'.getARVSVestingSchedule a = k.getARVSVestingSchedule a)
    (receipts : ∀ scheme a, ¬ (scheme = .arvs ∧ a = key) → k'.receipts scheme a = k.receipts scheme a)
    (here : Phase (k'.standing .arvs key) (k'.receipts .arvs key))
    (staged : ∀ s, k'.getARVSVestingSchedule key = some s → s.WellStaged) : Continues k k' := by
  refine ⟨⟨fun scheme a => ?_, fun a s found => ?_, fun contributor => ?_⟩, fun scheme a returned => ?_⟩
  · by_cases same : scheme = .arvs ∧ a = key
    · obtain ⟨rfl, rfl⟩ := same
      exact here
    · rw [receipts scheme a same]
      have before := books.phase scheme a
      cases scheme with
      | legacy =>
        rw [standing_legacy, getVestingSchedule] at before ⊢
        rwa [schedules]
      | arvs =>
        have elsewhere : key ≠ a := fun here => same ⟨rfl, here.symm⟩
        rw [standing_arvs] at before ⊢
        rwa [others a elsewhere]
  · by_cases same : key = a
    · subst same
      exact staged s found
    · rw [others a same] at found
      exact books.staged a s found
  · rw [getVestingBalance, balances, outstanding, schedules]
    exact books.balance contributor
  · refine receipts scheme a ?_
    rintro ⟨rfl, rfl⟩
    rw [unsettled] at returned
    cases returned

end Changes

section Legacy

variable {schedule : VestingSchedule}

theorem Books.live (books : Books k) (found : k.getVestingSchedule key = some schedule)
    (runs : schedule.status = .active ∨ schedule.status = .paused) :
    k.receipts .legacy key = ⟨some schedule.totalAmount, schedule.releasedAmount, false, none⟩ ∧
      0 ≤ schedule.releasedAmount ∧ schedule.releasedAmount ≤ schedule.totalAmount := by
  have phase := books.phase .legacy key
  rw [standing, found] at phase
  exact phase.live_of runs

theorem Books.unvested_nonneg (books : Books k) (contributor : String) :
    ∀ key s, k.schedules.get? key = some s → 0 ≤ owed contributor s := by
  intro key s found
  have phase := books.phase .legacy key
  rw [standing, getVestingSchedule, found] at phase
  unfold owed
  split
  · generalize k.receipts .legacy key = receipt at phase
    generalize standing_eq : (some s).map _ = standing at phase
    cases phase with
    | fresh => cases standing_eq
    | live runs nonneg within =>
      obtain ⟨rfl, rfl, -⟩ := Standing.mk.inj (Option.some.inj standing_eq)
      omega
    | completed ended =>
      obtain ⟨total, released, -⟩ := Standing.mk.inj (ended _ standing_eq.symm)
      omega
    | clawedBack nonneg ended =>
      obtain ⟨total, released, -⟩ := Standing.mk.inj (ended _ standing_eq.symm)
      omega
  · exact le_refl 0

theorem continues_createVestingSchedule (books : Books k)
    (fresh : (k.receipts .legacy schedule.key).granted = none) (runs : schedule.status = .active)
    (unreleased : schedule.releasedAmount = 0) (positive : 0 < schedule.totalAmount) :
    Continues k (k.createVestingSchedule schedule) := by
  obtain ⟨absent, blank⟩ := (books.phase .legacy schedule.key).fresh_of fresh
  have absent : k.schedules.get? schedule.key = none := Option.map_eq_none_iff.1 absent
  refine books.legacy schedule.key (by rw [blank]) rfl (fun a elsewhere => ?_)
    (fun scheme a elsewhere => if_neg elsewhere) ?_ fun contributor => ?_
  · show (k.schedules.insert schedule).get? a = _
    rw [KeyedMap.get?_insert, if_neg elsewhere]
    rfl
  · have stored : (k.createVestingSchedule schedule).standing .legacy schedule.key =
        some ⟨schedule.totalAmount, 0, .active⟩ := by
      show ((k.schedules.insert schedule).get? schedule.key).map _ = _
      rw [KeyedMap.get?_insert, if_pos rfl, Option.map_some, unreleased, runs]
    have granted : (k.createVestingSchedule schedule).receipts .legacy schedule.key =
        ⟨some schedule.totalAmount, 0, false, none⟩ := by
      show (if _ then _ else _) = _
      rw [if_pos ⟨rfl, rfl⟩]
      show { k.receipts .legacy schedule.key with granted := some schedule.totalAmount } = _
      rw [blank]
    rw [stored, granted]
    exact .live (Or.inl rfl) (le_refl 0) (le_of_lt positive)
  · have before := books.balance contributor
    show (if contributor = schedule.contributor then _ else k.vestingBalances contributor) =
      (k.schedules.insert schedule).total (owed contributor)
    rw [KeyedMap.total_insert_absent _ absent]
    change k.vestingBalances contributor = k.schedules.total (owed contributor) at before
    rw [← before, owed, unreleased]
    by_cases same : contributor = schedule.contributor
    · subst same
      rw [if_pos rfl, if_pos rfl, Int.sub_zero]
      rfl
    · rw [if_neg same, if_neg (Ne.symm same), Int.add_zero]

theorem sendCoins_same {refused : Bool} {amount : Int}
    (sent : k.sendCoinsFromModuleToAccount refused recipient amount = some k') :
    SameBooks k k' := by
  unfold sendCoinsFromModuleToAccount at sent
  split at sent
  · cases sent
  · obtain ⟨bank, -, rfl⟩ := Option.map_eq_some_iff.1 sent
    exact ⟨rfl, rfl, rfl, rfl⟩

theorem totalReleasable_le {epoch : U64} {n : Int} (nonneg : 0 ≤ schedule.totalAmount)
    (matured : totalReleasable schedule epoch = some n) : n ≤ schedule.totalAmount := by
  unfold totalReleasable at matured
  dsimp only at matured
  generalize elapsed_eq : (epoch - schedule.startEpoch).toInt = elapsed at matured
  generalize epochs_eq : (if schedule.vestingEpochs ≤ 0 then 1 else schedule.vestingEpochs) = epochs
    at matured
  split at matured
  · cases matured
  split at matured
  · exact (Option.some.inj matured).ge
  · rename_i some_elapsed running
    obtain rfl := Option.some.inj matured
    have later : 0 < epochs := by omega
    rw [Int.tdiv_eq_ediv_of_nonneg (mul_nonneg nonneg (by omega))]
    apply Int.ediv_le_of_le_mul later
    exact mul_le_mul_of_nonneg_left (by omega) nonneg

theorem reduced_balance (books : Books k) (found : k.getVestingSchedule key = some schedule) {n : Int}
    (within : schedule.releasedAmount + n ≤ schedule.totalAmount) {k₁ : VestingKeeper}
    (balances : k₁.vestingBalances = k.vestingBalances)
    (less : ∀ c, k₁.outstanding c + (if c = schedule.contributor then n else 0) = k.outstanding c)
    (contributor : String) :
    (k₁.reduceVestingBalance schedule.contributor n).getVestingBalance contributor =
      k₁.outstanding contributor := by
  have before := books.balance contributor
  rw [← less contributor] at before
  change k.vestingBalances contributor = _ at before
  show (if contributor = schedule.contributor then
    if k₁.vestingBalances schedule.contributor - n < 0 then 0
    else k₁.vestingBalances schedule.contributor - n else k₁.vestingBalances contributor) = _
  by_cases same : contributor = schedule.contributor
  · subst same
    rw [if_pos rfl] at before ⊢
    have held := KeyedMap.le_total (owed schedule.contributor) (books.unvested_nonneg _) found
    change owed schedule.contributor schedule ≤ k.outstanding schedule.contributor at held
    rw [owed, if_pos rfl, ← less, if_pos rfl] at held
    rw [balances, before, if_neg (by omega)]
    omega
  · rw [if_neg same] at before ⊢
    rw [balances, before]
    omega

theorem settleRelease_eq (n : Int) : k.settleRelease schedule n =
    if schedule.totalAmount ≤ schedule.releasedAmount + n then
      (((k.recordPaid .legacy schedule.key n).recordCompleted .legacy schedule.key).deleteVestingSchedule
        schedule.key).reduceVestingBalance schedule.contributor n
    else ((k.recordPaid .legacy schedule.key n).setVestingSchedule
      { normalised schedule with
        releasedAmount := schedule.releasedAmount + n }).reduceVestingBalance schedule.contributor n := by
  by_cases all : schedule.totalAmount ≤ schedule.releasedAmount + n
  · rw [if_pos all]
    exact congrArg (fun k => reduceVestingBalance k schedule.contributor n) (if_pos all)
  · rw [if_neg all]
    exact congrArg (fun k => reduceVestingBalance k schedule.contributor n) (if_neg all)

theorem continues_settleRelease (books : Books k) (found : k.getVestingSchedule schedule.key = some schedule)
    (active : schedule.status = .active) {n : Int} (positive : 0 < n)
    (within : schedule.releasedAmount + n ≤ schedule.totalAmount) :
    Continues k (k.settleRelease schedule n) := by
  obtain ⟨receipt, nonneg, -⟩ := books.live found (Or.inl active)
  rw [settleRelease_eq]
  split
  · have all : schedule.releasedAmount + n = schedule.totalAmount := by omega
    refine books.legacy schedule.key (by rw [receipt]) rfl (fun a elsewhere => ?_)
      (fun scheme a elsewhere => ?_) ?_ (reduced_balance books found within rfl fun c => ?_)
    · show (k.schedules.erase schedule.key).get? a = _
      rw [KeyedMap.get?_erase, if_neg elsewhere]
      rfl
    · show ((k.recordPaid .legacy schedule.key n).recordCompleted .legacy schedule.key).receipts scheme a = _
      rw [recordCompleted, receipts_record_other elsewhere, recordPaid, receipts_record_other elsewhere]
    · have gone : ∀ k₁ : VestingKeeper, k₁.schedules = k.schedules.erase schedule.key →
          k₁.standing .legacy schedule.key = none := by
        intro k₁ erased
        rw [standing_legacy, getVestingSchedule, erased, KeyedMap.get?_erase, if_pos rfl]
        rfl
      have settled : ((k.recordPaid .legacy schedule.key n).recordCompleted .legacy schedule.key).receipts
          .legacy schedule.key = ⟨some schedule.totalAmount, schedule.totalAmount, true, none⟩ := by
        rw [recordCompleted, receipts_record_same, recordPaid, receipts_record_same, receipt, ← all]
      rw [gone _ rfl]
      show Phase none (((k.recordPaid .legacy schedule.key n).recordCompleted .legacy schedule.key).receipts
        .legacy schedule.key)
      rw [settled]
      exact .completed (by simp)
    · have erased := KeyedMap.total_erase (owed c) found
      change (k.schedules.erase schedule.key).total (owed c) + _ = k.schedules.total (owed c)
      rw [← erased, owed, all.symm]
      by_cases same : c = schedule.contributor
      · subst same
        rw [if_pos rfl, if_pos rfl]
        omega
      · rw [if_neg same, if_neg (Ne.symm same)]
  · have stored : (k.schedules.insert { normalised schedule with
        releasedAmount := schedule.releasedAmount + n }).get? schedule.key =
        some { normalised schedule with releasedAmount := schedule.releasedAmount + n } := by
      rw [KeyedMap.get?_insert]
      exact if_pos rfl
    refine books.legacy schedule.key (by rw [receipt]) rfl (fun a elsewhere => ?_)
      (fun scheme a elsewhere => ?_) ?_ (reduced_balance books found within rfl fun c => ?_)
    · show (k.schedules.insert _).get? a = _
      rw [KeyedMap.get?_insert]
      exact if_neg elsewhere
    · show (k.recordPaid .legacy schedule.key n).receipts scheme a = _
      rw [recordPaid, receipts_record_other elsewhere]
    · have settled : (k.recordPaid .legacy schedule.key n).receipts .legacy schedule.key =
          ⟨some schedule.totalAmount, schedule.releasedAmount + n, false, none⟩ := by
        rw [recordPaid, receipts_record_same, receipt]
      have runs : ∀ k₁ : VestingKeeper, k₁.schedules = k.schedules.insert { normalised schedule with
          releasedAmount := schedule.releasedAmount + n } →
          k₁.standing .legacy schedule.key =
            some ⟨schedule.totalAmount, schedule.releasedAmount + n, .active⟩ := by
        intro k₁ inserted
        rw [standing_legacy, getVestingSchedule, inserted, stored, ← active]
        rfl
      rw [runs _ rfl]
      show Phase _ ((k.recordPaid .legacy schedule.key n).receipts .legacy schedule.key)
      rw [settled]
      exact .live (Or.inl rfl) (by omega) within
    · have replaced := KeyedMap.total_insert_found (owed c) (v := { normalised schedule with
        releasedAmount := schedule.releasedAmount + n }) found
      change (k.schedules.insert _).total (owed c) + _ = k.schedules.total (owed c)
      have less : owed c { normalised schedule with releasedAmount := schedule.releasedAmount + n } +
          (if c = schedule.contributor then n else 0) = owed c schedule := by
        show (if schedule.contributor = c then _ else _) + _ = (if schedule.contributor = c then _ else _)
        by_cases same : c = schedule.contributor
        · subst same
          rw [if_pos rfl, if_pos rfl, if_pos rfl]
          show schedule.totalAmount - (schedule.releasedAmount + n) + n = _
          omega
        · rw [if_neg same, if_neg (Ne.symm same), if_neg (Ne.symm same)]
          rfl
      omega

theorem continues_releaseSchedule (books : Books k)
    (found : k.getVestingSchedule schedule.key = some schedule)
    (ran : k.releaseSchedule call schedule = some k') :
    Continues k k' ∧ ∀ a, schedule.key ≠ a → k'.getVestingSchedule a = k.getVestingSchedule a := by
  unfold releaseSchedule at ran
  by_cases active : schedule.status = .active
  · obtain ⟨receipt, nonneg, within⟩ := books.live found (Or.inl active)
    rw [if_neg (not_not.2 active)] at ran
    cases matured : totalReleasable schedule call.currentEpoch with
    | none =>
      rw [matured] at ran
      cases ran
    | some releasable =>
      have bounded := totalReleasable_le (by omega) matured
      rw [matured] at ran
      by_cases none_new : releasable - schedule.releasedAmount ≤ 0
      · simp at ran
        exact absurd ran.1 (by omega)
      · simp only [Option.pure_def, Option.bind_eq_bind, Option.bind_some, none_new, if_false] at ran
        obtain ⟨recipient, -, ran⟩ := Option.bind_eq_some_iff.1 ran
        obtain ⟨k₁, sent, ran⟩ := Option.bind_eq_some_iff.1 ran
        obtain rfl := Option.some.inj ran
        have same := sendCoins_same sent
        have found₁ : k₁.getVestingSchedule schedule.key = some schedule := by
          rw [getVestingSchedule, same.schedules]
          exact found
        have first := same.continues books
        refine ⟨first.trans (continues_settleRelease first.books found₁ active (by omega) (by omega)), ?_⟩
        intro a elsewhere
        rw [settleRelease_eq]
        have kept : k₁.schedules.get? a = k.getVestingSchedule a := by
          rw [same.schedules]
          rfl
        split
        · refine Eq.trans ?_ kept
          show (k₁.schedules.erase schedule.key).get? a = _
          rw [KeyedMap.get?_erase, if_neg elsewhere]
        · refine Eq.trans ?_ kept
          show (k₁.schedules.insert _).get? a = _
          rw [KeyedMap.get?_insert]
          exact if_neg elsewhere
  · simp [active] at ran

theorem continues_releases {schedules : List VestingSchedule}
    (distinct : (schedules.map VestingSchedule.key).Nodup) (n : Nat) (books : Books k)
    (held : ∀ s ∈ schedules, k.getVestingSchedule s.key = some s) :
    Continues k (schedules.foldl (releaseNext call) (k, n)).1 := by
  induction schedules generalizing k n with
  | nil => exact .refl books
  | cons schedule rest ih =>
    obtain ⟨apart, distinct⟩ := List.nodup_cons.1 distinct
    have there := held schedule List.mem_cons_self
    have after := fun s listed => held s (List.mem_cons_of_mem schedule listed)
    rw [List.foldl_cons, releaseNext]
    dsimp only
    split
    · cases ran : k.releaseSchedule call schedule with
      | none => exact ih distinct n books after
      | some k₁ =>
        obtain ⟨first, others⟩ := continues_releaseSchedule books there ran
        refine first.trans (ih distinct (n + 1) first.books fun s listed => ?_)
        rw [others s.key, after s listed]
        intro same
        exact apart (List.mem_map.2 ⟨s, listed, same.symm⟩)
    · exact ih distinct n books after

theorem continues_processVestingReleases (books : Books k) : Continues k (k.processVestingReleases call) :=
  continues_releases k.schedules.nodup_map_key_values 0 books fun _ listed => KeyedMap.mem_values.1 listed

theorem key_of_found (found : k.getVestingSchedule key = some schedule) : schedule.key = key :=
  k.schedules.key_of_get? found

theorem continues_setStatus {status : VestingStatus} (books : Books k)
    (found : k.getVestingSchedule key = some schedule)
    (ran : schedule.status = .active ∨ schedule.status = .paused)
    (runs : status = .active ∨ status = .paused) :
    Continues k (k.setVestingSchedule { schedule with status := status }) := by
  obtain rfl := key_of_found found
  obtain ⟨receipt, nonneg, within⟩ := books.live found ran
  refine books.legacy schedule.key (by rw [receipt]) rfl (fun a elsewhere => ?_)
    (fun _ _ _ => rfl) ?_ fun contributor => ?_
  · show (k.schedules.insert _).get? a = _
    rw [KeyedMap.get?_insert]
    exact if_neg elsewhere
  · have stored : (k.schedules.insert { schedule with status := status }).get? schedule.key =
        some { schedule with status := status } := by
      rw [KeyedMap.get?_insert]
      exact if_pos rfl
    show Phase (((k.schedules.insert _).get? schedule.key).map _) (k.receipts .legacy schedule.key)
    rw [stored, receipt]
    exact .live runs nonneg within
  · have before := books.balance contributor
    have replaced := KeyedMap.total_insert_found (owed contributor) (v := { schedule with status := status })
      found
    change k.vestingBalances contributor = k.schedules.total (owed contributor) at before
    show k.vestingBalances contributor = (k.schedules.insert _).total (owed contributor)
    rw [before]
    have same : owed contributor { schedule with status := status } = owed contributor schedule := rfl
    omega

theorem continues_pauseVesting (books : Books k) (key : VestingKey) : Continues k (k.pauseVesting key) := by
  unfold pauseVesting
  cases found : k.getVestingSchedule key with
  | none => exact .refl books
  | some schedule =>
    dsimp only
    split
    · exact .refl books
    · rename_i active
      exact continues_setStatus books found (Or.inl (not_not.1 active)) (Or.inr rfl)

theorem continues_resumeVesting (books : Books k) (key : VestingKey) : Continues k (k.resumeVesting key) := by
  unfold resumeVesting
  cases found : k.getVestingSchedule key with
  | none => exact .refl books
  | some schedule =>
    dsimp only
    split
    · exact .refl books
    · rename_i paused
      exact continues_setStatus books found (Or.inr (not_not.1 paused)) (Or.inl rfl)

theorem continues_clawbackVesting (books : Books k) (key : VestingKey) :
    Continues k (k.clawbackVesting key).1 := by
  unfold clawbackVesting
  cases found : k.getVestingSchedule key with
  | none => exact .refl books
  | some schedule =>
    dsimp only
    split
    · exact .refl books
    · rename_i runs
      obtain rfl := key_of_found found
      obtain ⟨receipt, nonneg, within⟩ := books.live found (by
        by_cases active : schedule.status = .active
        · exact Or.inl active
        · exact Or.inr (not_not.1 fun paused => runs ⟨active, paused⟩))
      rw [max_eq_right (by omega)]
      refine books.legacy schedule.key (by rw [receipt]) rfl (fun a elsewhere => ?_)
        (fun scheme a elsewhere => ?_) ?_
        (reduced_balance books found (by omega) rfl fun c => ?_)
      · show (k.schedules.erase schedule.key).get? a = _
        rw [KeyedMap.get?_erase, if_neg elsewhere]
        rfl
      · show (k.recordReturned .legacy schedule.key _).receipts scheme a = _
        rw [recordReturned, receipts_record_other elsewhere]
      · have gone : (k.schedules.erase schedule.key).get? schedule.key = none := by
          rw [KeyedMap.get?_erase, if_pos rfl]
        have settled : (k.recordReturned .legacy schedule.key
            (schedule.totalAmount - schedule.releasedAmount)).receipts .legacy schedule.key =
            ⟨some (schedule.releasedAmount + (schedule.totalAmount - schedule.releasedAmount)),
              schedule.releasedAmount, false, some (schedule.totalAmount - schedule.releasedAmount)⟩ := by
          rw [recordReturned, receipts_record_same, receipt, add_sub_cancel]
        show Phase (((k.schedules.erase schedule.key).get? schedule.key).map _)
          ((k.recordReturned .legacy schedule.key
            (schedule.totalAmount - schedule.releasedAmount)).receipts .legacy schedule.key)
        rw [gone, settled]
        exact .clawedBack (by omega) (by simp)
      · have erased := KeyedMap.total_erase (owed c) found
        change (k.schedules.erase schedule.key).total (owed c) + _ = k.schedules.total (owed c)
        rw [← erased, owed]
        by_cases same : c = schedule.contributor
        · subst same
          rw [if_pos rfl]
        · rw [if_neg (Ne.symm same), if_neg same]

end Legacy

section Adaptive

variable {schedule : ARVSVestingSchedule}

theorem arvs_key_of_found (found : k.getARVSVestingSchedule key = some schedule) : schedule.key = key :=
  k.arvsSchedules.key_of_get? found

theorem Books.live_arvs (books : Books k) (found : k.getARVSVestingSchedule key = some schedule)
    (runs : schedule.status = .active ∨ schedule.status = .paused) :
    k.receipts .arvs key = ⟨some schedule.totalAmount, schedule.releasedAmount, false, none⟩ ∧
      0 ≤ schedule.releasedAmount ∧ schedule.releasedAmount ≤ schedule.totalAmount := by
  have phase := books.phase .arvs key
  rw [standing_arvs, found] at phase
  exact phase.live_of runs

section Stages

variable {stage : ARVSStageEntry} {stages : List ARVSStageEntry}

theorem releasedSum_cons : releasedSum (stage :: stages) =
    (if stage.released then stage.amount else 0) + releasedSum stages := by
  unfold releasedSum
  cases released : stage.released <;> simp [released]

theorem unreleasedSum_cons : unreleasedSum (stage :: stages) =
    (if stage.released then 0 else stage.amount) + unreleasedSum stages := by
  unfold unreleasedSum
  cases released : stage.released <;> simp [released]

theorem releasedSum_nonneg (nonneg : ∀ stage ∈ stages, 0 ≤ stage.amount) : 0 ≤ releasedSum stages := by
  apply List.sum_nonneg
  intro n listed
  obtain ⟨stage, kept, rfl⟩ := List.mem_map.1 listed
  exact nonneg stage (List.mem_filter.1 kept).1

theorem unreleasedSum_nonneg (nonneg : ∀ stage ∈ stages, 0 ≤ stage.amount) :
    0 ≤ unreleasedSum stages := by
  apply List.sum_nonneg
  intro n listed
  obtain ⟨stage, kept, rfl⟩ := List.mem_map.1 listed
  exact nonneg stage (List.mem_filter.1 kept).1

theorem unreleasedSum_all (all : stages.all (fun stage => stage.released) = true) :
    unreleasedSum stages = 0 := by
  induction stages with
  | nil => rfl
  | cons stage rest ih =>
    rw [List.all_cons, Bool.and_eq_true] at all
    rw [unreleasedSum_cons, if_pos all.1, ih all.2]
    rfl

end Stages

structure StagesRun (k : VestingKeeper) (key : VestingKey) (stages : List ARVSStageEntry) (run : StageRun) :
    Prop where
  schedules : run.keeper.schedules = k.schedules
  vestingBalances : run.keeper.vestingBalances = k.vestingBalances
  arvsSchedules : run.keeper.arvsSchedules = k.arvsSchedules
  receipts : ∀ scheme a, ¬ (scheme = .arvs ∧ a = key) → run.keeper.receipts scheme a = k.receipts scheme a
  paid : run.keeper.receipts .arvs key =
    { k.receipts .arvs key with paid := (k.receipts .arvs key).paid + run.amount }
  amounts : (∀ stage ∈ stages, 0 ≤ stage.amount) → ∀ stage ∈ run.stages, 0 ≤ stage.amount
  nonneg : (∀ stage ∈ stages, 0 ≤ stage.amount) → 0 ≤ run.amount
  released : releasedSum run.stages = releasedSum stages + run.amount
  unreleased : unreleasedSum run.stages + run.amount = unreleasedSum stages

theorem StagesRun.cons {run : StageRun} {stage marked : ARVSStageEntry} {rest : List ARVSStageEntry}
    (ran : StagesRun k key rest run) (same : marked.amount = stage.amount)
    (mark : marked.released = stage.released ∨ stage.amount = 0) :
    StagesRun k key (stage :: rest) (run.keep marked) := by
  obtain ⟨schedules, vestingBalances, arvsSchedules, receipts, paid, amounts, nonneg, released, unreleased⟩ :=
    ran
  refine ⟨schedules, vestingBalances, arvsSchedules, receipts, paid, fun all => ?_, fun all => ?_, ?_, ?_⟩
  · obtain ⟨here, all⟩ := List.forall_mem_cons.1 all
    exact List.forall_mem_cons.2 ⟨by rw [same]; exact here, amounts all⟩
  · exact nonneg (List.forall_mem_cons.1 all).2
  · show releasedSum (marked :: run.stages) = _ + run.amount
    rw [releasedSum_cons, releasedSum_cons, released, same, add_assoc]
    obtain mark | zero := mark
    · rw [mark]
    · simp [zero]
  · show unreleasedSum (marked :: run.stages) + run.amount = _
    rw [unreleasedSum_cons, unreleasedSum_cons, ← unreleased, same, add_assoc]
    obtain mark | zero := mark
    · rw [mark]
    · simp [zero]

theorem releaseStages_run (call : VestingCall) (key : VestingKey) (recipient : String) (k : VestingKeeper)
    (stages : List ARVSStageEntry) :
    StagesRun k key stages (releaseStages call key recipient k stages) := by
  induction stages generalizing k with
  | nil => exact ⟨rfl, rfl, rfl, fun _ _ _ => rfl, by simp [releaseStages], fun all => all, fun _ => le_refl 0,
      rfl, rfl⟩
  | cons stage rest ih =>
    rw [releaseStages]
    split
    · exact (ih k).cons rfl (Or.inl rfl)
    · rename_i due
      split
      · rename_i zero
        exact (ih k).cons rfl (Or.inr zero)
      · split
        · exact (ih k).cons rfl (Or.inl rfl)
        · rename_i k₁ sent
          have same := sendCoins_same sent
          have marked : stage.released = false := by simpa using fun released => due (Or.inl released)
          obtain ⟨schedules, vestingBalances, arvsSchedules, receipts, paid, amounts, nonneg, released,
            unreleased⟩ := ih (k₁.recordPaid .arvs key stage.amount)
          refine ⟨schedules.trans same.schedules, vestingBalances.trans same.vestingBalances,
            arvsSchedules.trans same.arvsSchedules, fun scheme a elsewhere => ?_, ?_, fun all => ?_,
            fun all => ?_, ?_, ?_⟩
          · show (releaseStages _ _ _ _ _).keeper.receipts scheme a = _
            rw [receipts scheme a elsewhere, recordPaid, receipts_record_other elsewhere, same.receipts]
          · show (releaseStages _ _ _ _ _).keeper.receipts .arvs key = _
            rw [paid, recordPaid, receipts_record_same, same.receipts, add_assoc]
          · obtain ⟨here, all⟩ := List.forall_mem_cons.1 all
            exact List.forall_mem_cons.2 ⟨here, amounts all⟩
          · obtain ⟨here, all⟩ := List.forall_mem_cons.1 all
            exact add_nonneg here (nonneg all)
          · show releasedSum ({ stage with released := true } :: _) = _ + (stage.amount + _)
            rw [releasedSum_cons, releasedSum_cons, released, marked, if_pos rfl, if_neg Bool.false_ne_true]
            show stage.amount + _ = _
            omega
          · show unreleasedSum ({ stage with released := true } :: _) + (stage.amount + _) = _
            rw [unreleasedSum_cons, unreleasedSum_cons, ← unreleased, marked, if_pos rfl,
              if_neg Bool.false_ne_true]
            omega

theorem releaseARVSSchedule_some (ran : k.releaseARVSSchedule call schedule = some k') :
    schedule.status = .active ∧ ∃ recipient, ∃ run : StageRun,
      run = releaseStages call schedule.key recipient k schedule.stages ∧
      (run.stages.all (fun stage => stage.released) = true ∧
        k' = (run.keeper.setARVSVestingSchedule { schedule with
          stages := run.stages, releasedAmount := schedule.releasedAmount + run.amount,
          status := .completed }).recordCompleted .arvs schedule.key ∨
      k' = run.keeper.setARVSVestingSchedule { schedule with
        stages := run.stages, releasedAmount := schedule.releasedAmount + run.amount }) := by
  unfold releaseARVSSchedule at ran
  by_cases active : schedule.status = .active
  · refine ⟨active, ?_⟩
    simp only [Option.pure_def, Option.bind_eq_bind, if_neg (not_not.2 active)] at ran
    obtain ⟨recipient, -, ran⟩ := Option.bind_eq_some_iff.1 ran
    refine ⟨recipient, _, rfl, ?_⟩
    split at ran
    · split at ran
      · rename_i all
        exact Or.inl ⟨all, (Option.some.inj ran).symm⟩
      · exact Or.inr (Option.some.inj ran).symm
    · cases ran
  · simp [active] at ran

theorem Books.restage (books : Books k) (k' : VestingKeeper) (next : ARVSVestingSchedule)
    (unsettled : (k.receipts .arvs next.key).returned = none) (schedules : k'.schedules = k.schedules)
    (balances : k'.vestingBalances = k.vestingBalances)
    (arvs : k'.arvsSchedules = k.arvsSchedules.insert next)
    (receipts : ∀ scheme a, ¬ (scheme = .arvs ∧ a = next.key) → k'.receipts scheme a = k.receipts scheme a)
    (here : Phase (some ⟨next.totalAmount, next.releasedAmount, next.status⟩) (k'.receipts .arvs next.key))
    (staged : next.WellStaged) :
    Continues k k' ∧ ∀ a, next.key ≠ a → k'.getARVSVestingSchedule a = k.getARVSVestingSchedule a := by
  have stored : k'.getARVSVestingSchedule next.key = some next := by
    rw [getARVSVestingSchedule, arvs, KeyedMap.get?_insert, if_pos rfl]
  have others : ∀ a, next.key ≠ a → k'.getARVSVestingSchedule a = k.getARVSVestingSchedule a := by
    intro a elsewhere
    rw [getARVSVestingSchedule, arvs, KeyedMap.get?_insert, if_neg elsewhere, getARVSVestingSchedule]
  refine ⟨books.arvs next.key unsettled schedules balances others receipts ?_ fun s found => ?_, others⟩
  · rw [standing_arvs, stored]
    exact here
  · rw [stored] at found
    rwa [← Option.some.inj found]

theorem continues_releaseARVSSchedule (books : Books k)
    (found : k.getARVSVestingSchedule schedule.key = some schedule)
    (ran : k.releaseARVSSchedule call schedule = some k') :
    Continues k k' ∧ ∀ a, schedule.key ≠ a → k'.getARVSVestingSchedule a = k.getARVSVestingSchedule a := by
  obtain ⟨active, recipient, run, run_eq, ends⟩ := releaseARVSSchedule_some ran
  obtain ⟨schedules, vestingBalances, arvsSchedules, receipts, paid, amounts, nonneg, released,
    unreleased⟩ := releaseStages_run call schedule.key recipient k schedule.stages
  rw [← run_eq] at schedules vestingBalances arvsSchedules receipts paid amounts nonneg released unreleased
  obtain ⟨receipt, some_released, -⟩ := books.live_arvs found (Or.inl active)
  obtain ⟨all_nonneg, released_eq, total_eq⟩ := books.staged schedule.key schedule found
  have more := nonneg all_nonneg
  have left := unreleasedSum_nonneg (amounts all_nonneg)
  have total : releasedSum run.stages + unreleasedSum run.stages = schedule.totalAmount := by omega
  have marked : releasedSum run.stages = schedule.releasedAmount + run.amount := by omega
  have bounds : 0 ≤ schedule.releasedAmount + run.amount ∧
      schedule.releasedAmount + run.amount ≤ schedule.totalAmount := by omega
  have unsettled : (k.receipts .arvs schedule.key).returned = none := by rw [receipt]
  rw [receipt] at paid
  obtain ⟨all, rfl⟩ | rfl := ends
  · have whole : schedule.releasedAmount + run.amount = schedule.totalAmount := by
      have none_left := unreleasedSum_all all
      omega
    refine books.restage _ { schedule with
      stages := run.stages, releasedAmount := schedule.releasedAmount + run.amount, status := .completed }
      unsettled schedules vestingBalances (congrArg (KeyedMap.insert · _) arvsSchedules)
      (fun scheme a elsewhere => ?_) ?_ ⟨amounts all_nonneg, marked, total⟩
    · exact (receipts_record_other elsewhere).trans (receipts scheme a elsewhere)
    · show Phase _ (((run.keeper.setARVSVestingSchedule _).recordCompleted .arvs schedule.key).receipts .arvs
        schedule.key)
      rw [recordCompleted, receipts_record_same]
      show Phase (some ⟨schedule.totalAmount, schedule.releasedAmount + run.amount, .completed⟩)
        { run.keeper.receipts .arvs schedule.key with completed := true }
      rw [paid, whole]
      exact .completed (by simp)
  · refine books.restage _ { schedule with
      stages := run.stages, releasedAmount := schedule.releasedAmount + run.amount }
      unsettled schedules vestingBalances (congrArg (KeyedMap.insert · _) arvsSchedules) receipts ?_
      ⟨amounts all_nonneg, marked, total⟩
    show Phase (some ⟨schedule.totalAmount, schedule.releasedAmount + run.amount, schedule.status⟩)
      (run.keeper.receipts .arvs schedule.key)
    rw [paid]
    exact .live (Or.inl active) bounds.1 bounds.2

theorem continues_arvsReleases {schedules : List ARVSVestingSchedule}
    (distinct : (schedules.map ARVSVestingSchedule.key).Nodup) (n : Nat) (books : Books k)
    (held : ∀ s ∈ schedules, k.getARVSVestingSchedule s.key = some s) :
    Continues k (schedules.foldl (releaseNextARVS call) (k, n)).1 := by
  induction schedules generalizing k n with
  | nil => exact .refl books
  | cons schedule rest ih =>
    obtain ⟨apart, distinct⟩ := List.nodup_cons.1 distinct
    have there := held schedule List.mem_cons_self
    have after := fun s listed => held s (List.mem_cons_of_mem schedule listed)
    rw [List.foldl_cons, releaseNextARVS]
    dsimp only
    split
    · cases ran : k.releaseARVSSchedule call schedule with
      | none => exact ih distinct n books after
      | some k₁ =>
        obtain ⟨first, others⟩ := continues_releaseARVSSchedule books there ran
        refine first.trans (ih distinct (n + 1) first.books fun s listed => ?_)
        rw [others s.key, after s listed]
        intro same
        exact apart (List.mem_map.2 ⟨s, listed, same.symm⟩)
    · exact ih distinct n books after

theorem continues_processARVSVestingReleases (books : Books k) :
    Continues k (k.processARVSVestingReleases call) :=
  continues_arvsReleases k.arvsSchedules.nodup_map_key_values 0 books
    fun _ listed => KeyedMap.mem_values.1 listed

theorem continues_setARVSStatus {status : VestingStatus} (books : Books k)
    (found : k.getARVSVestingSchedule key = some schedule)
    (ran : schedule.status = .active ∨ schedule.status = .paused)
    (runs : status = .active ∨ status = .paused) :
    Continues k (k.setARVSVestingSchedule { schedule with status := status }) := by
  obtain rfl := arvs_key_of_found found
  obtain ⟨receipt, nonneg, within⟩ := books.live_arvs found ran
  obtain ⟨amounts, released, total⟩ := books.staged schedule.key schedule found
  refine (books.restage (k.setARVSVestingSchedule { schedule with status := status })
    { schedule with status := status } ?_ rfl rfl rfl (fun _ _ _ => rfl) ?_ ⟨amounts, released, total⟩).1
  · show (k.receipts .arvs schedule.key).returned = none
    rw [receipt]
  · show Phase _ (k.receipts .arvs schedule.key)
    rw [receipt]
    exact .live runs nonneg within

theorem continues_pauseARVSVesting (books : Books k) (key : VestingKey) :
    Continues k (k.pauseARVSVesting key) := by
  unfold pauseARVSVesting
  cases found : k.getARVSVestingSchedule key with
  | none => exact .refl books
  | some schedule =>
    dsimp only
    split
    · exact .refl books
    · rename_i active
      exact continues_setARVSStatus books found (Or.inl (not_not.1 active)) (Or.inr rfl)

theorem continues_resumeARVSVesting (books : Books k) (key : VestingKey) :
    Continues k (k.resumeARVSVesting key) := by
  unfold resumeARVSVesting
  cases found : k.getARVSVestingSchedule key with
  | none => exact .refl books
  | some schedule =>
    dsimp only
    split
    · exact .refl books
    · rename_i paused
      exact continues_setARVSStatus books found (Or.inr (not_not.1 paused)) (Or.inl rfl)

theorem continues_clawbackARVSVesting (books : Books k) (key : VestingKey) :
    Continues k (k.clawbackARVSVesting key).1 := by
  unfold clawbackARVSVesting
  cases found : k.getARVSVestingSchedule key with
  | none => exact .refl books
  | some schedule =>
    dsimp only
    split
    · exact .refl books
    · rename_i runs
      obtain rfl := arvs_key_of_found found
      obtain ⟨receipt, -, -⟩ := books.live_arvs found (by
        by_cases active : schedule.status = .active
        · exact Or.inl active
        · exact Or.inr (not_not.1 fun paused => runs ⟨active, paused⟩))
      obtain ⟨amounts, released, total⟩ := books.staged schedule.key schedule found
      refine (books.restage ((k.setARVSVestingSchedule { schedule with status := .clawedBack }).recordReturned
        .arvs schedule.key (unreleasedSum schedule.stages)) { schedule with status := .clawedBack } ?_ rfl rfl
        rfl (fun scheme a elsewhere => ?_) ?_ ⟨amounts, released, total⟩).1
      · show (k.receipts .arvs schedule.key).returned = none
        rw [receipt]
      · exact receipts_record_other elsewhere
      · show Phase (some ⟨schedule.totalAmount, schedule.releasedAmount, .clawedBack⟩)
          ((k.recordReturned .arvs schedule.key (unreleasedSum schedule.stages)).receipts .arvs schedule.key)
        have split : schedule.totalAmount = schedule.releasedAmount + unreleasedSum schedule.stages := by omega
        rw [recordReturned, receipts_record_same, receipt, split]
        exact .clawedBack (unreleasedSum_nonneg amounts) (by simp)

end Adaptive

section Distribution

theorem sendCoins_royalty (k : VestingKeeper) (index : Nat) (amount : Int) :
    SameBooks k (k.payRoyalty call index recipient amount) := by
  unfold payRoyalty
  split
  · exact .refl k
  · split
    · exact .refl k
    · rename_i account _
      cases sent : k.sendCoinsFromModuleToAccount (call.refused (.royalty index)) account amount with
      | none => exact .refl k
      | some k₁ => exact sendCoins_same sent

theorem payRoyaltyRoutes_same (call : VestingCall) (k : VestingKeeper) (routes : List RoyaltyRoute) :
    SameBooks k (k.payRoyaltyRoutes call routes) := by
  unfold payRoyaltyRoutes
  generalize routes.zipIdx = entries
  induction entries generalizing k with
  | nil => exact .refl k
  | cons entry rest ih => exact (sendCoins_royalty k entry.2 entry.1.amount).trans (ih _)

theorem payRoyalties_same (call : VestingCall) (k : VestingKeeper) (output : RewardOutput) :
    SameBooks k (k.payRoyalties call output) := by
  unfold payRoyalties
  split
  · exact sendCoins_royalty k 0 output.royaltyAmount
  · exact payRoyaltyRoutes_same call k output.royaltyRoutes

theorem payReward_same {refused : Bool} {amount : Int} (paid : k.payReward refused recipient amount = .ok k') :
    SameBooks k k' := by
  unfold payReward at paid
  split at paid
  · split at paid
    · cases paid
    · rename_i k₁ sent
      obtain rfl := Except.ok.inj paid
      exact sendCoins_same sent
  · obtain rfl := Except.ok.inj paid
    exact .refl k

def Pays (k : VestingKeeper) (refused : Bool) (account : String) (amount : Int) : Prop :=
  0 < amount → (k.sendCoinsFromModuleToAccount refused account amount).isSome = true

theorem Pays.of_bank {refused : Bool} {amount : Int} (pays : k.Pays refused recipient amount)
    (same : k'.bank = k.bank) : k'.Pays refused recipient amount := by
  intro positive
  have sends := pays positive
  unfold sendCoinsFromModuleToAccount at sends ⊢
  rw [same]
  cases refused with
  | true => cases sends
  | false =>
    rw [if_neg Bool.false_ne_true, Option.isSome_map] at sends ⊢
    exact sends

theorem payReward_ok {refused : Bool} {amount : Int} (pays : k.Pays refused recipient amount) :
    ∃ k', k.payReward refused recipient amount = .ok k' := by
  unfold payReward
  split
  · rename_i positive
    obtain ⟨k₁, sent⟩ := Option.isSome_iff_exists.1 (pays positive)
    rw [sent]
    exact ⟨k₁, rfl⟩
  · exact ⟨k, rfl⟩

theorem pays_of_payReward {refused : Bool} {amount : Int}
    (paid : k.payReward refused recipient amount = .ok k') : k.Pays refused recipient amount := by
  intro positive
  rw [payReward, if_pos positive] at paid
  cases sent : k.sendCoinsFromModuleToAccount refused recipient amount with
  | none =>
    rw [sent] at paid
    cases paid
  | some k₁ => rfl

theorem continues_distributeRewards (books : Books k) (output : RewardOutput)
    (first : 0 < output.vestedAmount → 0 < output.claimID →
      (k.payRoyalties call output).Pays (call.refused .reward)
        ((call.addresses.accAddress recipient).getD "") output.immediateAmount →
      (k.receipts .legacy ⟨recipient, output.claimID⟩).granted = none) :
    Continues k (k.distributeRewards call output recipient).1 := by
  have royalties := payRoyalties_same call k output
  unfold distributeRewards
  dsimp only
  cases paid : (k.payRoyalties call output).payReward (call.refused .reward)
      ((call.addresses.accAddress recipient).getD "") output.immediateAmount with
  | error error => exact royalties.continues books
  | ok k₁ =>
    have same := royalties.trans (payReward_same paid)
    have continues := same.continues books
    dsimp only
    split
    · rename_i vests
      have fresh := first vests.1 vests.2 (pays_of_payReward paid)
      rw [← same.receipts] at fresh
      exact continues.trans (continues_createVestingSchedule continues.books fresh rfl rfl vests.1)
    · exact continues

section Tranches

variable {epoch : U64} {total : Int}

def unlockSum (stages : List UnlockStage) : Nat := (stages.map fun stage => stage.unlockBps.toNat).sum

theorem share_bounds {bps remaining rest : Int} (nonneg : 0 ≤ bps * total)
    (fits : (bps + rest) * total ≤ 10000 * remaining) :
    0 ≤ (bps * total).tdiv 10000 ∧ rest * total ≤ 10000 * (remaining - (bps * total).tdiv 10000) := by
  rw [Int.tdiv_eq_ediv_of_nonneg nonneg]
  rw [add_mul] at fits
  omega

theorem stageEntries_sum (epoch : U64) (nonneg : 0 ≤ total) (stages : List UnlockStage) (some_stages : stages ≠ [])
    (i : Nat) (remaining : Int) (fits : unlockSum stages * total ≤ 10000 * remaining) :
    (∀ entry ∈ stageEntries epoch total i remaining stages, 0 ≤ entry.amount) ∧
      releasedSum (stageEntries epoch total i remaining stages) +
        unreleasedSum (stageEntries epoch total i remaining stages) = remaining := by
  induction stages generalizing i remaining with
  | nil => exact absurd rfl some_stages
  | cons stage rest ih =>
    have share_nonneg : (0 : Int) ≤ stage.unlockBps.toNat * total :=
      mul_nonneg (Int.natCast_nonneg _) nonneg
    have fits : ((stage.unlockBps.toNat : Int) + unlockSum rest) * total ≤ 10000 * remaining := by
      have split : unlockSum (stage :: rest) = stage.unlockBps.toNat + unlockSum rest := rfl
      rw [split, Nat.cast_add] at fits
      exact fits
    rw [stageEntries]
    rw [releasedSum_cons, unreleasedSum_cons]
    by_cases last : rest = []
    · subst last
      have left : 0 ≤ remaining := by
        have none_more : unlockSum [] = 0 := rfl
        rw [none_more, Nat.cast_zero, add_zero] at fits
        omega
      rw [if_pos rfl, if_neg (not_lt.2 left), stageEntries]
      refine ⟨by simpa using left, ?_⟩
      show (if _ then remaining else 0) + 0 + ((if _ then 0 else remaining) + 0) = remaining
      split <;> simp
    · obtain ⟨share, more⟩ := share_bounds share_nonneg fits
      rw [if_neg last, if_neg (not_lt.2 share)]
      obtain ⟨amounts, sums⟩ := ih last (i + 1) _ more
      refine ⟨List.forall_mem_cons.2 ⟨share, amounts⟩, ?_⟩
      dsimp only
      split <;> omega

theorem wellStaged_new (nonneg : 0 ≤ total) (key : VestingKey) (profile : VestingProfile) (score : Nat)
    (some_stages : profile.stages ≠ []) (whole : unlockSum profile.stages = 10000) :
    (newARVSVestingSchedule epoch key total profile score).WellStaged := by
  obtain ⟨amounts, sums⟩ := stageEntries_sum epoch nonneg profile.stages some_stages 0 total
    (by rw [whole]; rfl)
  exact ⟨amounts, rfl, sums⟩

end Tranches

theorem stages_some {profile : VestingProfile} (valid : profile.validate = .ok ()) : profile.stages ≠ [] := by
  intro none_given
  rw [VestingProfile.validate, if_pos none_given] at valid
  cases valid

theorem findProfile_mem {profiles : List VestingProfile} {id : VestingProfileID} {p : VestingProfile}
    (found : findProfile profiles id = some p) : p ∈ profiles :=
  List.mem_of_find?_eq_some found

theorem profileOrFirst_mem (params : ARVSParams) (id : VestingProfileID) (score : Nat) :
    (profileOrFirst params id score).1 ∈ params.vestingProfiles := by
  unfold profileOrFirst
  split
  · rename_i p found
    exact findProfile_mem found
  · exact List.head_mem params.profiles_some

theorem selectVestingProfile_mem (input : RiskScoreInput) (params : ARVSParams) :
    (selectVestingProfile input params).1 ∈ params.vestingProfiles := by
  unfold selectVestingProfile
  dsimp only
  split
  · rename_i p _ found
    exact findProfile_mem found
  · split
    · rename_i p _ found
      exact findProfile_mem found
    · exact profileOrFirst_mem params _ _

/-- The claim has no staged schedule yet, the chosen profile gives out the whole and no more, and what is due
at once is transferred. -/
structure GrantsOnce (k : VestingKeeper) (call : VestingCall) (arvs : ARVSParams) (output : RewardOutput)
    (recipient account : String) (signals : RiskSignals) : Prop where
  first : (k.receipts .arvs ⟨recipient, output.claimID⟩).granted = none
  whole : unlockSum (signals.profile call arvs recipient).1.stages = 10000
  pays : (k.payRoyaltyRoutes call output.royaltyRoutes).Pays (call.refused .reward) account
    (newARVSVestingSchedule call.currentEpoch ⟨recipient, output.claimID⟩ output.finalRewardAmount
      (signals.profile call arvs recipient).1 (signals.profile call arvs recipient).2).releasedAmount

theorem continues_distributeRewardsARVS (books : Books k) (arvs : ARVSParams) (output : RewardOutput)
    (signals : RiskSignals) (positive : 0 < output.finalRewardAmount)
    (grants : ∀ account, call.addresses.accAddress recipient = some account →
      k.GrantsOnce call arvs output recipient account signals) :
    Continues k (k.distributeRewardsARVS call arvs output recipient signals).1 := by
  unfold distributeRewardsARVS
  cases decoded : call.addresses.accAddress recipient with
  | none => exact .refl books
  | some account =>
    obtain ⟨first, whole, pays⟩ := grants account decoded
    have royalties := payRoyaltyRoutes_same call k output.royaltyRoutes
    have valid := arvs.profiles_valid _ (selectVestingProfile_mem (buildRiskScoreInput (call.stats recipient)
      signals.category signals.similarityScore signals.verifierConfidence signals.isDerivative call.params)
      arvs)
    dsimp only
    rw [if_neg (by omega)]
    generalize selected_eq : signals.profile call arvs recipient = selected at whole pays
    have valid : selected.1.validate = .ok () := by
      rw [← selected_eq]
      exact valid
    generalize key_eq : VestingKey.mk recipient output.claimID = key at first pays
    generalize schedule_eq : newARVSVestingSchedule call.currentEpoch key output.finalRewardAmount
      selected.1 selected.2 = schedule at pays
    have staged : schedule.WellStaged := by
      rw [← schedule_eq]
      exact wellStaged_new positive.le key selected.1 selected.2 (stages_some valid) whole
    have total_eq : schedule.totalAmount = output.finalRewardAmount := by
      rw [← schedule_eq]
      rfl
    have active : schedule.status = .active := by
      rw [← schedule_eq]
      rfl
    have named : schedule.key = key := by
      rw [← schedule_eq]
      rfl
    have books₀ := (royalties.continues books).books
    obtain ⟨absent, blank⟩ := (books₀.phase .arvs key).fresh_of (by rw [royalties.receipts]; exact first)
    unfold createARVSVestingSchedule payImmediate
    rw [schedule_eq]
    dsimp only
    generalize k.payRoyaltyRoutes call output.royaltyRoutes = k₀ at royalties pays books₀ absent blank
    have pays : ((k₀.setARVSVestingSchedule schedule).recordGrant .arvs key output.finalRewardAmount).Pays
      (call.refused .reward) account schedule.releasedAmount := pays.of_bank rfl
    obtain ⟨k₁, paid⟩ := payReward_ok pays
    have same := payReward_same paid
    rw [paid]
    refine (royalties.continues books).trans (books₀.restage (k₁.recordPaid .arvs key schedule.releasedAmount)
      schedule ?_ same.schedules same.vestingBalances same.arvsSchedules (fun scheme a elsewhere => ?_) ?_ staged).1
    · rw [named, blank]
    · rw [named] at elsewhere
      show (k₁.recordPaid .arvs key schedule.releasedAmount).receipts scheme a = _
      rw [recordPaid, receipts_record_other elsewhere, same.receipts, recordGrant,
        receipts_record_other elsewhere]
      rfl
    · show Phase _ ((k₁.recordPaid .arvs key schedule.releasedAmount).receipts .arvs schedule.key)
      have granted : k₁.receipts .arvs key = ⟨some schedule.totalAmount, 0, false, none⟩ := by
        rw [same.receipts, recordGrant, receipts_record_same, total_eq]
        show { k₀.receipts .arvs key with granted := some output.finalRewardAmount } = _
        rw [blank]
      rw [named, recordPaid, receipts_record_same, granted, active]
      show Phase _ ⟨some schedule.totalAmount, 0 + schedule.releasedAmount, false, none⟩
      rw [zero_add]
      have left := unreleasedSum_nonneg staged.nonneg
      refine .live (Or.inl rfl) ?_ ?_
      · rw [← staged.released]
        exact releasedSum_nonneg staged.nonneg
      · rw [← staged.released, ← staged.total]
        omega

end Distribution

end VestingKeeper

/-- What can happen to the rewards. The rest of the chain moves coins as it likes. -/
inductive VestingAction
  | rewardAccepted (call : VestingCall) (arvs : Option ARVSParams) (output : RewardOutput)
      (recipient : String) (signals : VestingKeeper.RiskSignals)
  | processVestingReleases (call : VestingCall)
  | processARVSVestingReleases (call : VestingCall)
  | pauseVesting (key : VestingKey)
  | resumeVesting (key : VestingKey)
  | pauseARVSVesting (key : VestingKey)
  | resumeARVSVesting (key : VestingKey)
  | clawbackVesting (key : VestingKey)
  | clawbackARVSVesting (key : VestingKey)
  | moveCoins (bank : Bank)

namespace VestingKeeper

variable {k : VestingKeeper}

section Runs

def step (k : VestingKeeper) : VestingAction → VestingKeeper
  | .rewardAccepted call arvs output recipient signals => k.rewardAccepted call arvs output recipient signals
  | .processVestingReleases call => k.processVestingReleases call
  | .processARVSVestingReleases call => k.processARVSVestingReleases call
  | .pauseVesting key => k.pauseVesting key
  | .resumeVesting key => k.resumeVesting key
  | .pauseARVSVesting key => k.pauseARVSVesting key
  | .resumeARVSVesting key => k.resumeARVSVesting key
  | .clawbackVesting key => (k.clawbackVesting key).1
  | .clawbackARVSVesting key => (k.clawbackARVSVesting key).1
  | .moveCoins bank => { k with bank := bank }

/-- Every schedule that a distribution creates is the first for its claim. With staged vesting, moreover, the
profile gives out the whole, and what is due at once is transferred. -/
def Orderly (k : VestingKeeper) : VestingAction → Prop
  | .rewardAccepted call none output recipient _ =>
      0 < output.finalRewardAmount → 0 < output.vestedAmount → 0 < output.claimID →
        (k.payRoyalties call output).Pays (call.refused .reward)
          ((call.addresses.accAddress recipient).getD "") output.immediateAmount →
        (k.receipts .legacy ⟨recipient, output.claimID⟩).granted = none
  | .rewardAccepted call (some arvs) output recipient signals =>
      0 < output.finalRewardAmount → ∀ account, call.addresses.accAddress recipient = some account →
        k.GrantsOnce call arvs output recipient account signals
  | _ => True

/-- What the records of the transfers say of every schedule, and of the aggregates. -/
structure PaidOnce (k : VestingKeeper) : Prop where
  stored : ∀ scheme key s, k.standing scheme key = some s →
    (k.receipts scheme key).granted = some s.total ∧ (k.receipts scheme key).paid = s.released
  within : ∀ scheme key total, (k.receipts scheme key).granted = some total →
    (k.receipts scheme key).paid ≤ total
  completed : ∀ scheme key total, (k.receipts scheme key).granted = some total →
    (k.receipts scheme key).completed = true → (k.receipts scheme key).paid = total
  clawedBack : ∀ scheme key total unvested, (k.receipts scheme key).granted = some total →
    (k.receipts scheme key).returned = some unvested → (k.receipts scheme key).paid + unvested = total
  balance : ∀ contributor, k.getVestingBalance contributor = k.outstanding contributor

def NoFurtherRelease (k : VestingKeeper) (action : VestingAction) : Prop :=
  ∀ scheme key, (k.receipts scheme key).returned.isSome →
    ((k.step action).receipts scheme key).paid = (k.receipts scheme key).paid

theorem Books.paidOnce (books : Books k) : PaidOnce k where
  stored scheme key := (books.phase scheme key).accounts.1
  within scheme key := (books.phase scheme key).accounts.2.1
  completed scheme key := (books.phase scheme key).accounts.2.2.1
  clawedBack scheme key := (books.phase scheme key).accounts.2.2.2
  balance := books.balance

theorem books_init (bank : Bank) : Books (init bank) := by
  have absent : ∀ scheme key, (init bank).standing scheme key = none := by
    intro scheme key
    cases scheme <;> simp [standing_legacy, standing_arvs, getVestingSchedule, getARVSVestingSchedule, init]
  refine ⟨fun scheme key => ?_, fun key s found => ?_, fun contributor => ?_⟩
  · rw [absent]
    exact .fresh
  · have none_held := absent .arvs key
    rw [standing_arvs, found] at none_held
    cases none_held
  · exact (KeyedMap.total_empty (owed contributor)).symm

theorem continues_step (books : Books k) (action : VestingAction) (orderly : k.Orderly action) :
    Continues k (k.step action) := by
  cases action with
  | rewardAccepted call arvs output recipient signals =>
    show Continues k (k.rewardAccepted call arvs output recipient signals)
    unfold rewardAccepted
    split
    · rename_i positive
      cases arvs with
      | none => exact continues_distributeRewards books output (orderly positive)
      | some arvs => exact continues_distributeRewardsARVS books arvs output signals positive (orderly positive)
    · exact .refl books
  | processVestingReleases call => exact continues_processVestingReleases books
  | processARVSVestingReleases call => exact continues_processARVSVestingReleases books
  | pauseVesting key => exact continues_pauseVesting books key
  | resumeVesting key => exact continues_resumeVesting books key
  | pauseARVSVesting key => exact continues_pauseARVSVesting books key
  | resumeARVSVesting key => exact continues_resumeARVSVesting books key
  | clawbackVesting key => exact continues_clawbackVesting books key
  | clawbackARVSVesting key => exact continues_clawbackARVSVesting books key
  | moveCoins bank =>
    have same : SameBooks k { k with bank := bank } := ⟨rfl, rfl, rfl, rfl⟩
    exact same.continues books

/-- In an orderly run what is transferred for a reward is what its schedule says, in every state, and a
clawback ends it. -/
theorem paid_exactly_once (bank : Bank) (run : List VestingAction)
    (orderly : Run.Along step Orderly (init bank) run) :
    PaidOnce (run.foldl step (init bank)) ∧ Run.Along step NoFurtherRelease (init bank) run := by
  have preserved : ∀ k action, Books k → k.Orderly action → Books (k.step action) :=
    fun _ action books orderly => (continues_step books action orderly).books
  refine ⟨(Run.invariant preserved (books_init bank) orderly).paidOnce,
    Run.along_of_invariant preserved ?_ (books_init bank) orderly⟩
  intro k action books orderly scheme key returned
  rw [(continues_step books action orderly).settled scheme key returned]

section ImmediateRefused

def sampleCall (currentEpoch : U64) (refused : Payout → Bool) : VestingCall where
  currentEpoch := currentEpoch
  params := ⟨10, 3, some (LegacyDec.ofInt 2), 200⟩
  addresses := ⟨some, some, id⟩
  stats _ := ⟨1, 0, 0, 0, LegacyDec.ofInt 1⟩
  refused := refused

def sampleOutput : RewardOutput := ⟨1000, 0, "", 500, 500, [], 7⟩

def sampleSignals : RiskSignals := ⟨0, LegacyDec.ofInt 1, "documentation", false⟩

def sampleBank : Bank := .mint .empty pocAccount 1000

/-- Six hundred are due at once and their transfer fails, but the schedule counts them as released. -/
theorem refused_immediate_counts_as_released :
    ¬ PaidOnce ([VestingAction.rewardAccepted (sampleCall 5 fun _ => true) (some defaultARVSParams)
      sampleOutput "alice" sampleSignals].foldl step (init sampleBank)) := by
  intro once
  have stored := once.stored .arvs ⟨"alice", 7⟩ ⟨1000, 600, .active⟩ (by decide +kernel)
  have unpaid : ([VestingAction.rewardAccepted (sampleCall 5 fun _ => true) (some defaultARVSParams)
      sampleOutput "alice" sampleSignals].foldl step (init sampleBank)).receipts .arvs ⟨"alice", 7⟩ =
      ⟨some 1000, 0, false, none⟩ := rfl
  rw [unpaid] at stored
  exact absurd stored.2 (by decide)

end ImmediateRefused

def sampleRun : List VestingAction :=
  [.rewardAccepted (sampleCall 5 fun _ => false) none sampleOutput "alice" sampleSignals,
    .processVestingReleases (sampleCall 7 fun _ => false), .clawbackVesting ⟨"alice", 7⟩]

theorem paid_exactly_once_sampleRun :
    PaidOnce (sampleRun.foldl step (init sampleBank)) ∧
      Run.Along step NoFurtherRelease (init sampleBank) sampleRun :=
  paid_exactly_once sampleBank sampleRun ⟨fun _ _ _ _ => rfl, trivial, trivial, trivial⟩

end Runs

end VestingKeeper

end Omniphi.Poc
