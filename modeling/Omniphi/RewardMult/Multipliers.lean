import Omniphi.Decimals

/-! The reward multipliers of the validators: the smoothed average, the normalisation that keeps
the budget, and the processing of an epoch. What the staking, slashing, poc and por modules give
for a validator is an input of the epoch. -/

namespace Omniphi.RewardMult

open LegacyDec

/-- The parameters that smoothing and normalising read. -/
structure Params where
  minMultiplier : LegacyDec
  maxMultiplier : LegacyDec
  emaWindow : Int
  epochLength : Int

def one : LegacyDec := ofInt 1

/-- The checks of `Validate` on these parameters. -/
def Params.Valid (p : Params) : Prop :=
  0 ≤ p.minMultiplier ∧ p.minMultiplier < p.maxMultiplier ∧ 5 * 10 ^ 17 ≤ p.minMultiplier ∧
    p.maxMultiplier ≤ 2 * 10 ^ 18 ∧ 1 ≤ p.emaWindow ∧ p.emaWindow ≤ 100 ∧
    50 ≤ p.epochLength ∧ p.epochLength ≤ 10000

instance (p : Params) : Decidable p.Valid := by
  unfold Params.Valid
  infer_instance

def Params.default : Params :=
  { minMultiplier := 85 * 10 ^ 16, maxMultiplier := 115 * 10 ^ 16, emaWindow := 8, epochLength := 100 }

def defaultEpochLength : Int := 100

section Smoothing

/-- `EMAHistory.AddValue`. -/
def addValue (values : List LegacyDec) (value : LegacyDec) (maxSize : Int) : List LegacyDec :=
  let values := values ++ [value]
  if values.length > maxSize then values.drop (values.length - maxSize.toNat) else values

def alpha (window : Int) : LegacyDec := quo (ofInt 2) (ofInt (window + 1))

/-- `EMAHistory.ComputeEMA`. -/
def computeEMA (values : List LegacyDec) (window : Int) : LegacyDec :=
  match values with
  | [] => one
  | first :: rest =>
      rest.foldl (fun ema value => mul (alpha window) value + mul (one - alpha window) ema) first

/-- `warmStartEMA`, with the history it leaves. -/
def warmStartEMA (values : List LegacyDec) (mRaw : LegacyDec) (window : Int) : List LegacyDec × LegacyDec :=
  let values := addValue values mRaw window
  (values, computeEMA values window)

def clamp (value min max : LegacyDec) : LegacyDec :=
  if value < min then min else if value > max then max else value

end Smoothing

section Normalising

/-- A validator in the normalisation: `effective[i]` and `clamped[i]` beside the entry. -/
structure Slot where
  stakeWt : LegacyDec
  mFinal : LegacyDec
  effective : LegacyDec
  clamped : Bool

variable (params : Params) (norm : LegacyDec)

def totalWeight (slots : List Slot) : LegacyDec := (slots.map (·.stakeWt)).sum

def weightedMultSum (slots : List Slot) : LegacyDec := (slots.map fun s => mul s.stakeWt s.effective).sum

/-- One validator in a round. -/
def Slot.normalize (s : Slot) : Slot :=
  if s.clamped = true then s
  else
    let normalized := mul s.effective norm
    if normalized < params.minMultiplier then { s with effective := params.minMultiplier, clamped := true }
    else if normalized > params.maxMultiplier then { s with effective := params.maxMultiplier, clamped := true }
    else { s with effective := normalized }

def Slot.newlyClamped (s : Slot) : Bool := !s.clamped && (s.normalize params norm).clamped

/-- A free validator starts the next round from its own multiplier. -/
def Slot.reset (s : Slot) : Slot := if s.clamped = true then s else { s with effective := s.mFinal }

/-- What the round counts as clamped at the minimum. One clamped in an earlier round is looked at
again, one of this round is counted where it is clamped. -/
def Slot.countsMin (s : Slot) : Bool :=
  if s.clamped = true then s.effective == params.minMultiplier else mul s.effective norm < params.minMultiplier

structure NormResult where
  norm : LegacyDec
  rounds : Nat
  clampedMin : Nat
  clampedMax : Nat
  slots : List Slot

/-- The rounds that are left. When the weights cancel nothing is written: each validator keeps the
multiplier it came with. -/
def iterate : Nat → NormResult → NormResult
  | 0, result => result
  | left + 1, result =>
      let slots := result.slots
      if weightedMultSum slots = 0 then
        { norm := one, rounds := result.rounds + 1, clampedMin := 0, clampedMax := 0
          slots := slots.map fun s => { s with effective := s.mFinal } }
      else
        let norm := quo (totalWeight slots) (weightedMultSum slots)
        let normalized := slots.map (Slot.normalize params norm)
        let clampedMin := slots.countP (Slot.countsMin params norm)
        let clampedMax := normalized.countP (·.clamped) - clampedMin
        if slots.any (Slot.newlyClamped params norm) then
          iterate left
            { norm, rounds := result.rounds + 1, clampedMin, clampedMax, slots := normalized.map Slot.reset }
        else { norm, rounds := result.rounds + 1, clampedMin, clampedMax, slots := normalized }

def maxIterativeNormRounds : Nat := 3

/-- The entries: the stake weight and the clamped average of each bonded validator. -/
def iterativeNormalize (entries : List (LegacyDec × LegacyDec)) : NormResult :=
  let start : NormResult :=
    { norm := one, rounds := 0, clampedMin := 0, clampedMax := 0
      slots := entries.map fun e => { stakeWt := e.1, mFinal := e.2, effective := e.2, clamped := false } }
  if entries = [] then start else iterate params maxIterativeNormRounds start

end Normalising

section Epochs

/-- The parts of the raw multiplier of a validator. -/
structure Components where
  uptimeBonus : LegacyDec
  participationBonus : LegacyDec
  qualityBonus : LegacyDec
  slashPenalty : LegacyDec
  fraudPenalty : LegacyDec

def Components.mRaw (c : Components) : LegacyDec :=
  one + c.uptimeBonus + c.participationBonus + c.qualityBonus - c.slashPenalty - c.fraudPenalty

structure Validator where
  operator : String
  tokens : Int
  bonded : Bool
  components : Components

structure ValidatorMultiplier where
  epoch : Int
  mRaw : LegacyDec
  mEMA : LegacyDec
  mEffective : LegacyDec
  components : Components

structure Keeper where
  params : Params
  multipliers : BTreeMap String ValidatorMultiplier
  emaHistories : BTreeMap String (List LegacyDec)
  lastProcessedEpoch : Int

def Keeper.genesis (params : Params) : Keeper :=
  { params, multipliers := ∅, emaHistories := ∅, lastProcessedEpoch := 0 }

/-- What the staking keeper returns: the validators and the bonded tokens, unless it fails. -/
structure Staking where
  validators : Option (List Validator)
  totalBonded : Option Int

structure Entry where
  valAddr : String
  stakeWt : LegacyDec
  mFinal : LegacyDec
  multiplier : ValidatorMultiplier

variable (k : Keeper) (epoch : Int)

/-- Phase 1 for one validator: its history and its entry. -/
def addEntry (state : BTreeMap String (List LegacyDec) × List Entry) (v : Validator) :
    BTreeMap String (List LegacyDec) × List Entry :=
  if v.bonded = false then state
  else
    let mRaw := v.components.mRaw
    let (values, mEma) := warmStartEMA (state.1[v.operator]?.getD []) mRaw k.params.emaWindow
    let mFinal := clamp mEma k.params.minMultiplier k.params.maxMultiplier
    (state.1.insert v.operator values,
      state.2 ++ [{ valAddr := v.operator, stakeWt := ofInt v.tokens, mFinal
                    multiplier :=
                      { epoch, mRaw, mEMA := mEma, mEffective := mFinal, components := v.components } }])

def setMultiplier (multipliers : BTreeMap String ValidatorMultiplier)
    (e : Entry × Slot) : BTreeMap String ValidatorMultiplier :=
  multipliers.insert e.1.valAddr { e.1.multiplier with mEffective := e.2.effective }

def processEpoch (staking : Staking) : Keeper :=
  if epoch ≤ k.lastProcessedEpoch then k
  else
    match staking.validators, staking.totalBonded with
    | some validators, some totalBonded =>
        if totalBonded = 0 then k
        else
          let (emaHistories, entries) := validators.foldl (addEntry k epoch) (k.emaHistories, [])
          let k := { k with emaHistories }
          if entries = [] then { k with lastProcessedEpoch := epoch }
          else if (entries.map fun e => mul e.stakeWt e.mFinal).sum = 0 then k
          else
            let result := iterativeNormalize k.params (entries.map fun e => (e.stakeWt, e.mFinal))
            { k with
              multipliers := (entries.zip result.slots).foldl setMultiplier k.multipliers
              lastProcessedEpoch := epoch }
    | _, _ => k

/-- The end blocker, and the message that changes the parameters. -/
inductive Step
  | endBlocker (height : Nat) (staking : Staking)
  | updateParams (authorised : Bool) (params : Params)

def endBlocker (height : Nat) (staking : Staking) : Keeper :=
  let epochLength := if k.params.epochLength ≤ 0 then defaultEpochLength else k.params.epochLength
  if Int.tmod height epochLength ≠ 0 then k else processEpoch k (Int.tdiv height epochLength) staking

def step : Step → Keeper
  | .endBlocker height staking => endBlocker k height staking
  | .updateParams authorised params => if authorised = true ∧ params.Valid then { k with params } else k

end Epochs

section Order

variable {params : Params} {norm : LegacyDec} {s t : Slot}

def Slot.AtMin (params : Params) (s : Slot) : Prop := s.clamped = true ∧ s.effective = params.minMultiplier

def Slot.AtMax (params : Params) (s : Slot) : Prop := s.clamped = true ∧ s.effective = params.maxMultiplier

def Slot.Bounded (params : Params) (s : Slot) : Prop :=
  params.minMultiplier ≤ s.effective ∧ s.effective ≤ params.maxMultiplier

/-- Between rounds: who is clamped is at a bound, and whoever has more than one at the maximum, or
less than one at the minimum, is there too. -/
structure Aligned (params : Params) (slots : List Slot) : Prop where
  free : ∀ s ∈ slots, s.clamped = false → s.effective = s.mFinal ∧ s.Bounded params
  bound : ∀ s ∈ slots, s.clamped = true → s.AtMin params ∨ s.AtMax params
  above : ∀ s ∈ slots, ∀ t ∈ slots, s.mFinal ≤ t.mFinal → s.AtMax params → t.AtMax params
  below : ∀ s ∈ slots, ∀ t ∈ slots, s.mFinal ≤ t.mFinal → t.AtMin params → s.AtMin params

theorem Slot.normalize_clamped (fixed : s.clamped = true) : s.normalize params norm = s := by
  rw [Slot.normalize, if_pos fixed]

theorem Slot.normalize_mFinal : (s.normalize params norm).mFinal = s.mFinal := by
  unfold Slot.normalize
  split
  · rfl
  · dsimp only
    split
    · rfl
    · split <;> rfl

theorem Slot.normalize_stakeWt : (s.normalize params norm).stakeWt = s.stakeWt := by
  unfold Slot.normalize
  split
  · rfl
  · dsimp only
    split
    · rfl
    · split <;> rfl

theorem Slot.normalize_cases (params : Params) (norm : LegacyDec) (loose : s.clamped = false) :
    mul s.effective norm < params.minMultiplier ∧
        s.normalize params norm = { s with effective := params.minMultiplier, clamped := true } ∨
      params.maxMultiplier < mul s.effective norm ∧
        s.normalize params norm = { s with effective := params.maxMultiplier, clamped := true } ∨
      params.minMultiplier ≤ mul s.effective norm ∧ mul s.effective norm ≤ params.maxMultiplier ∧
        s.normalize params norm = { s with effective := mul s.effective norm } := by
  unfold Slot.normalize
  rw [if_neg (by simp [loose])]
  dsimp only
  split
  · exact .inl ⟨‹_›, rfl⟩
  · split
    · exact .inr (.inl ⟨‹_›, rfl⟩)
    · exact .inr (.inr ⟨not_lt.1 ‹_›, not_lt.1 ‹_›, rfl⟩)

theorem mul_mono {a b : LegacyDec} (nonneg : 0 ≤ norm) (le : a ≤ b) : mul a norm ≤ mul b norm :=
  chop_mono (Int.mul_le_mul_of_nonneg_right le nonneg)

theorem not_atMin_of_atMax (valid : params.Valid) (top : s.AtMax params) : ¬ s.AtMin params := by
  intro bottom
  have same : params.minMultiplier = params.maxMultiplier := bottom.2.symm.trans top.2
  exact absurd valid.2.1 (by rw [same]; exact lt_irrefl _)

theorem Aligned.bounded (valid : params.Valid) {slots : List Slot} (aligned : Aligned params slots)
    (member : s ∈ slots) :
    s.Bounded params := by
  cases fixed : s.clamped with
  | false => exact (aligned.free s member fixed).2
  | true =>
      rcases aligned.bound s member fixed with bottom | top
      · exact ⟨le_of_eq bottom.2.symm, bottom.2.trans_le (le_of_lt valid.2.1)⟩
      · exact ⟨(le_of_lt valid.2.1).trans_eq top.2.symm, le_of_eq top.2⟩

theorem Aligned.normalize (valid : params.Valid) {slots : List Slot} (aligned : Aligned params slots)
    (nonneg : 0 ≤ norm)
    {s t : Slot} (left : s ∈ slots) (right : t ∈ slots) (le : s.mFinal ≤ t.mFinal) :
    ((s.normalize params norm).AtMax params → (t.normalize params norm).AtMax params) ∧
      ((t.normalize params norm).AtMin params → (s.normalize params norm).AtMin params) ∧
      (s.normalize params norm).effective ≤ (t.normalize params norm).effective := by
  have span := valid.2.1
  cases fixed : s.clamped with
  | true =>
      rw [Slot.normalize_clamped fixed]
      cases fixed' : t.clamped with
      | true =>
          rw [Slot.normalize_clamped fixed']
          refine ⟨aligned.above s left t right le, aligned.below s left t right le, ?_⟩
          rcases aligned.bound s left fixed with bottom | top
          · rw [bottom.2]
            exact (aligned.bounded valid right).1
          · rw [top.2, (aligned.above s left t right le top).2]
      | false =>
          have notTop : ¬ s.AtMax params := fun top => by
            have here := (aligned.above s left t right le top).1
            rw [fixed'] at here
            cases here
          have bottom := (aligned.bound s left fixed).resolve_right notTop
          refine ⟨fun top => absurd top notTop, fun _ => bottom, ?_⟩
          rw [bottom.2]
          rcases Slot.normalize_cases params norm fixed' with ⟨_, after⟩ | ⟨_, after⟩ | ⟨low, _, after⟩
          · rw [after]
          · rw [after]
            exact le_of_lt span
          · rw [after]
            exact low
  | false =>
      have start := (aligned.free s left fixed).1
      cases fixed' : t.clamped with
      | true =>
          rw [Slot.normalize_clamped fixed']
          have notBottom : ¬ t.AtMin params := fun bottom => by
            have here := (aligned.below s left t right le bottom).1
            rw [fixed] at here
            cases here
          have top := (aligned.bound t right fixed').resolve_left notBottom
          refine ⟨fun _ => top, fun bottom => absurd bottom notBottom, ?_⟩
          rw [top.2]
          rcases Slot.normalize_cases params norm fixed with ⟨_, after⟩ | ⟨_, after⟩ | ⟨_, high, after⟩
          · rw [after]
            exact le_of_lt span
          · rw [after]
          · rw [after]
            exact high
      | false =>
          have start' := (aligned.free t right fixed').1
          have mono : mul s.effective norm ≤ mul t.effective norm :=
            mul_mono nonneg (by rw [start, start']; exact le)
          rcases Slot.normalize_cases params norm fixed with ⟨low, after⟩ | ⟨high, after⟩ | ⟨low, high, after⟩
          · have notTop : ¬ (s.normalize params norm).AtMax params := by
              intro top
              refine not_atMin_of_atMax valid top ?_
              rw [after]
              exact ⟨rfl, rfl⟩
            refine ⟨fun top => absurd top notTop, fun _ => by rw [after]; exact ⟨rfl, rfl⟩, ?_⟩
            rw [after]
            rcases Slot.normalize_cases params norm fixed' with ⟨_, after'⟩ | ⟨_, after'⟩ | ⟨low', _, after'⟩
            · rw [after']
            · rw [after']
              exact le_of_lt span
            · rw [after']
              exact low'
          · have top' : (t.normalize params norm).AtMax params := by
              rcases Slot.normalize_cases params norm fixed' with ⟨low', _⟩ | ⟨_, after'⟩ | ⟨_, high', _⟩
              · exact absurd (high.trans_le mono) (not_lt.2 (le_of_lt (low'.trans span)))
              · rw [after']
                exact ⟨rfl, rfl⟩
              · exact absurd (high.trans_le mono) (not_lt.2 high')
            refine ⟨fun _ => top', fun bottom => absurd bottom (not_atMin_of_atMax valid top'), ?_⟩
            rw [after, top'.2]
          · have loose : (s.normalize params norm).clamped = false := by rw [after]; exact fixed
            refine ⟨fun top => absurd top.1 (by rw [loose]; decide), ?_, ?_⟩
            · intro bottom
              rcases Slot.normalize_cases params norm fixed' with ⟨low', _⟩ | ⟨_, after'⟩ | ⟨_, _, after'⟩
              · exact absurd (low.trans mono) (not_le.2 low')
              · exact absurd bottom (not_atMin_of_atMax valid (by rw [after']; exact ⟨rfl, rfl⟩))
              · refine absurd bottom.1 ?_
                rw [after', fixed']
                decide
            · rw [after]
              rcases Slot.normalize_cases params norm fixed' with ⟨low', _⟩ | ⟨_, after'⟩ | ⟨_, _, after'⟩
              · exact absurd (low.trans mono) (not_le.2 low')
              · rw [after']
                exact high
              · rw [after']
                exact mono

theorem Slot.reset_atMax : s.reset.AtMax params ↔ s.AtMax params := by
  unfold Slot.reset Slot.AtMax
  cases fixed : s.clamped <;> simp [fixed]

theorem Slot.reset_atMin : s.reset.AtMin params ↔ s.AtMin params := by
  unfold Slot.reset Slot.AtMin
  cases fixed : s.clamped <;> simp [fixed]

@[simp] theorem Slot.reset_clamped : s.reset.clamped = s.clamped := by
  unfold Slot.reset
  split <;> rfl

@[simp] theorem Slot.reset_mFinal : s.reset.mFinal = s.mFinal := by
  unfold Slot.reset
  split <;> rfl

@[simp] theorem Slot.reset_stakeWt : s.reset.stakeWt = s.stakeWt := by
  unfold Slot.reset
  split <;> rfl

theorem Slot.normalize_free (loose : (s.normalize params norm).clamped = false) : s.clamped = false := by
  cases fixed : s.clamped with
  | false => rfl
  | true =>
      rw [Slot.normalize_clamped fixed, fixed] at loose
      cases loose

theorem Aligned.next (valid : params.Valid) {slots : List Slot} (aligned : Aligned params slots)
    (nonneg : 0 ≤ norm) :
    Aligned params ((slots.map (Slot.normalize params norm)).map Slot.reset) := by
  rw [List.map_map]
  constructor
  · intro s member loose
    obtain ⟨s, mine, rfl⟩ := List.mem_map.1 member
    have loose : (s.normalize params norm).clamped = false := by simpa using loose
    obtain ⟨start, bounded⟩ := aligned.free s mine (Slot.normalize_free loose)
    have effective : (s.normalize params norm).reset.effective = s.mFinal := by
      rw [Slot.reset, if_neg (by simp [loose])]
      exact Slot.normalize_mFinal
    refine ⟨by simp [effective, Slot.normalize_mFinal], ?_⟩
    simp only [Function.comp, Slot.Bounded, effective, ← start]
    exact bounded
  · intro s member fixed
    obtain ⟨s, mine, rfl⟩ := List.mem_map.1 member
    simp only [Function.comp, Slot.reset_atMin, Slot.reset_atMax, Slot.reset_clamped] at fixed ⊢
    cases before : s.clamped with
    | true =>
        rw [Slot.normalize_clamped before]
        exact aligned.bound s mine before
    | false =>
        rcases Slot.normalize_cases params norm before with ⟨_, after⟩ | ⟨_, after⟩ | ⟨_, _, after⟩
        · exact .inl (by rw [after]; exact ⟨rfl, rfl⟩)
        · exact .inr (by rw [after]; exact ⟨rfl, rfl⟩)
        · rw [after, before] at fixed
          cases fixed
  · intro s left t right le top
    obtain ⟨s, mine, rfl⟩ := List.mem_map.1 left
    obtain ⟨t, yours, rfl⟩ := List.mem_map.1 right
    simp only [Function.comp, Slot.reset_atMax, Slot.reset_mFinal, Slot.normalize_mFinal] at le top ⊢
    exact (aligned.normalize valid nonneg mine yours le).1 top
  · intro s left t right le bottom
    obtain ⟨s, mine, rfl⟩ := List.mem_map.1 left
    obtain ⟨t, yours, rfl⟩ := List.mem_map.1 right
    simp only [Function.comp, Slot.reset_atMin, Slot.reset_mFinal, Slot.normalize_mFinal] at le bottom ⊢
    exact (aligned.normalize valid nonneg mine yours le).2.1 bottom

theorem Aligned.fair (valid : params.Valid) {slots : List Slot} (aligned : Aligned params slots)
    (left : s ∈ slots) (right : t ∈ slots)
    (le : s.mFinal ≤ t.mFinal) : s.effective ≤ t.effective := by
  cases fixed : s.clamped with
  | true =>
      rcases aligned.bound s left fixed with bottom | top
      · rw [bottom.2]
        exact (aligned.bounded valid right).1
      · rw [top.2, (aligned.above s left t right le top).2]
  | false =>
      obtain ⟨start, bounded⟩ := aligned.free s left fixed
      cases fixed' : t.clamped with
      | false => rwa [start, (aligned.free t right fixed').1]
      | true =>
          rcases aligned.bound t right fixed' with bottom | top
          · rw [bottom.2, (aligned.below s left t right le bottom).2]
          · rw [top.2]
            exact bounded.2

theorem Slot.normalize_bounded (valid : params.Valid) {slots : List Slot} (aligned : Aligned params slots)
    (member : s ∈ slots) :
    (s.normalize params norm).Bounded params := by
  cases fixed : s.clamped with
  | true =>
      rw [Slot.normalize_clamped fixed]
      exact aligned.bounded valid member
  | false =>
      rcases Slot.normalize_cases params norm fixed with ⟨_, after⟩ | ⟨_, after⟩ | ⟨low, high, after⟩
      · rw [after]
        exact ⟨le_refl _, le_of_lt valid.2.1⟩
      · rw [after]
        exact ⟨le_of_lt valid.2.1, le_refl _⟩
      · rw [after]
        exact ⟨low, high⟩

end Order

section Rounds

variable {params : Params}

/-- What a normalisation starts from: stakes that are not negative, multipliers within the bounds. -/
def Ready (params : Params) (slots : List Slot) : Prop :=
  ∀ s ∈ slots, 0 ≤ s.stakeWt ∧ params.minMultiplier ≤ s.mFinal ∧ s.mFinal ≤ params.maxMultiplier

theorem sum_nonneg_of_mem {values : List Int} (nonneg : ∀ v ∈ values, 0 ≤ v) : 0 ≤ values.sum :=
  List.sum_nonneg nonneg

theorem norm_nonneg (valid : params.Valid) {slots : List Slot} (ready : Ready params slots)
    (aligned : Aligned params slots) :
    0 ≤ quo (totalWeight slots) (weightedMultSum slots) := by
  have total : 0 ≤ totalWeight slots := by
    refine sum_nonneg_of_mem fun v member => ?_
    obtain ⟨s, mine, rfl⟩ := List.mem_map.1 member
    exact (ready s mine).1
  have weighted : 0 ≤ weightedMultSum slots := by
    refine sum_nonneg_of_mem fun v member => ?_
    obtain ⟨s, mine, rfl⟩ := List.mem_map.1 member
    exact nonneg_mul (ready s mine).1 (valid.1.trans (aligned.bounded valid mine).1)
  refine chop_nonneg (Int.tdiv_nonneg ?_ weighted)
  exact Int.mul_nonneg (Int.mul_nonneg total (by decide)) (by decide)

theorem Ready.map {slots : List Slot} (ready : Ready params slots) {f : Slot → Slot}
    (stakeWt : ∀ s, (f s).stakeWt = s.stakeWt) (mFinal : ∀ s, (f s).mFinal = s.mFinal) :
    Ready params (slots.map f) := by
  intro s member
  obtain ⟨s, mine, rfl⟩ := List.mem_map.1 member
  rw [stakeWt, mFinal]
  exact ready s mine

theorem iterate_fair (valid : params.Valid) (left : Nat) {result : NormResult}
    (ready : Ready params result.slots)
    (aligned : Aligned params result.slots) :
    (∀ s ∈ (iterate params left result).slots, s.Bounded params) ∧
      ∀ s ∈ (iterate params left result).slots, ∀ t ∈ (iterate params left result).slots,
        s.mFinal ≤ t.mFinal → s.effective ≤ t.effective := by
  induction left generalizing result with
  | zero =>
      rw [iterate]
      exact ⟨fun s member => aligned.bounded valid member, fun s here t there => aligned.fair valid here there⟩
  | succ left ih =>
      rw [iterate]
      dsimp only
      split
      · constructor
        · intro s member
          obtain ⟨s, mine, rfl⟩ := List.mem_map.1 member
          exact (ready s mine).2
        · intro s here t there le
          obtain ⟨s, mine, rfl⟩ := List.mem_map.1 here
          obtain ⟨t, yours, rfl⟩ := List.mem_map.1 there
          exact le
      · have nonneg := norm_nonneg valid ready aligned
        split
        · refine ih ?_ (aligned.next valid nonneg)
          exact (ready.map (fun _ => Slot.normalize_stakeWt) fun _ => Slot.normalize_mFinal).map
            (fun _ => Slot.reset_stakeWt) fun _ => Slot.reset_mFinal
        · constructor
          · intro s member
            obtain ⟨s, mine, rfl⟩ := List.mem_map.1 member
            exact Slot.normalize_bounded valid aligned mine
          · intro s here t there le
            obtain ⟨s, mine, rfl⟩ := List.mem_map.1 here
            obtain ⟨t, yours, rfl⟩ := List.mem_map.1 there
            rw [Slot.normalize_mFinal, Slot.normalize_mFinal] at le
            exact (aligned.normalize valid nonneg mine yours le).2.2

theorem iterate_same (left : Nat) (result : NormResult) :
    (iterate params left result).slots.map (fun s => (s.stakeWt, s.mFinal)) =
      result.slots.map fun s => (s.stakeWt, s.mFinal) := by
  induction left generalizing result with
  | zero => rw [iterate]
  | succ left ih =>
      rw [iterate]
      dsimp only
      split
      · rw [List.map_map]
        rfl
      · split
        · rw [ih, List.map_map, List.map_map]
          exact List.map_congr_left fun s _ => by simp [Slot.normalize_stakeWt, Slot.normalize_mFinal]
        · rw [List.map_map]
          exact List.map_congr_left fun s _ => by simp [Slot.normalize_stakeWt, Slot.normalize_mFinal]

theorem start_ready {entries : List (LegacyDec × LegacyDec)} (stakes : ∀ e ∈ entries, 0 ≤ e.1)
    (range : ∀ e ∈ entries, params.minMultiplier ≤ e.2 ∧ e.2 ≤ params.maxMultiplier) :
    Ready params (entries.map fun e =>
      { stakeWt := e.1, mFinal := e.2, effective := e.2, clamped := false }) := by
  intro s member
  obtain ⟨e, mine, rfl⟩ := List.mem_map.1 member
  exact ⟨stakes e mine, range e mine⟩

theorem start_aligned {entries : List (LegacyDec × LegacyDec)}
    (range : ∀ e ∈ entries, params.minMultiplier ≤ e.2 ∧ e.2 ≤ params.maxMultiplier) :
    Aligned params (entries.map fun e =>
      { stakeWt := e.1, mFinal := e.2, effective := e.2, clamped := false }) := by
  constructor
  · intro s member _
    obtain ⟨e, mine, rfl⟩ := List.mem_map.1 member
    exact ⟨rfl, range e mine⟩
  · intro s member fixed
    obtain ⟨e, mine, rfl⟩ := List.mem_map.1 member
    cases fixed
  · intro s member t _ _ top
    obtain ⟨e, mine, rfl⟩ := List.mem_map.1 member
    cases top.1
  · intro s _ t member _ bottom
    obtain ⟨e, mine, rfl⟩ := List.mem_map.1 member
    cases bottom.1

/-- The normalisation keeps the validators in the order of their averages and within the bounds,
also when it stops after its last round without having settled. -/
theorem normalize_monotone (valid : params.Valid) {entries : List (LegacyDec × LegacyDec)}
    (stakes : ∀ e ∈ entries, 0 ≤ e.1)
    (range : ∀ e ∈ entries, params.minMultiplier ≤ e.2 ∧ e.2 ≤ params.maxMultiplier) :
    (iterativeNormalize params entries).slots.map (fun s => (s.stakeWt, s.mFinal)) = entries ∧
      (∀ s ∈ (iterativeNormalize params entries).slots, s.Bounded params) ∧
      ∀ s ∈ (iterativeNormalize params entries).slots, ∀ t ∈ (iterativeNormalize params entries).slots,
        s.mFinal ≤ t.mFinal → s.effective ≤ t.effective := by
  unfold iterativeNormalize
  dsimp only
  split
  · rename_i empty
    subst empty
    simp
  · refine ⟨?_, iterate_fair valid _ (start_ready stakes range) (start_aligned range)⟩
    rw [iterate_same, List.map_map]
    exact List.map_id _

theorem normalize_monotone_three :
    (iterativeNormalize .default [(ofInt 5, 85 * 10 ^ 16), (ofInt 1, 115 * 10 ^ 16)]).slots.map
      (fun s => (s.stakeWt, s.mFinal)) =
        [(ofInt 5, 85 * 10 ^ 16), (ofInt 1, 115 * 10 ^ 16)] ∧
      (∀ s ∈ (iterativeNormalize .default [(ofInt 5, 85 * 10 ^ 16), (ofInt 1, 115 * 10 ^ 16)]).slots,
        s.Bounded .default) ∧
      ∀ s ∈ (iterativeNormalize .default [(ofInt 5, 85 * 10 ^ 16), (ofInt 1, 115 * 10 ^ 16)]).slots,
        ∀ t ∈ (iterativeNormalize .default [(ofInt 5, 85 * 10 ^ 16), (ofInt 1, 115 * 10 ^ 16)]).slots,
          s.mFinal ≤ t.mFinal → s.effective ≤ t.effective :=
  normalize_monotone (by decide) (by decide) (by decide)

end Rounds

section Average

variable {window low high : Int}

theorem alpha_unit (positive : 1 ≤ window) : 0 ≤ alpha window ∧ alpha window ≤ one := by
  have divisor : (0 : Int) < ofInt (window + 1) := by
    unfold ofInt precisionReuse
    omega
  have scaled : 0 ≤ ofInt 2 * precisionReuse * precisionReuse := by decide
  unfold alpha quo
  rw [Int.tdiv_eq_ediv_of_nonneg scaled]
  refine ⟨chop_nonneg (Int.ediv_nonneg scaled (le_of_lt divisor)), chop_le_whole ?_⟩
  refine Int.ediv_le_of_le_mul divisor ?_
  unfold one ofInt precisionReuse
  omega

theorem average_step {a value ema slack : Int} (unit : 0 ≤ a ∧ a ≤ one) (nonneg : 0 ≤ slack)
    (inside : low ≤ value ∧ value ≤ high) (near : low - slack ≤ ema ∧ ema ≤ high + slack) :
    low - (slack + 1) ≤ mul a value + mul (one - a) ema ∧ mul a value + mul (one - a) ema ≤ high +
      (slack + 1) := by
  have unit' : a ≤ 10 ^ 18 := unit.2
  have complement : (one : Int) - a = 10 ^ 18 - a := rfl
  obtain ⟨below, above⟩ := chop_error (a * value)
  obtain ⟨below', above'⟩ := chop_error ((one - a) * ema)
  change a * value - 5 * 10 ^ 17 ≤ mul a value * 10 ^ 18 at below
  change mul a value * 10 ^ 18 ≤ a * value + 5 * 10 ^ 17 at above
  change (one - a) * ema - 5 * 10 ^ 17 ≤ mul (one - a) ema * 10 ^ 18 at below'
  change mul (one - a) ema * 10 ^ 18 ≤ (one - a) * ema + 5 * 10 ^ 17 at above'
  have first := Int.mul_le_mul_of_nonneg_left (show low - slack ≤ value by omega) unit.1
  have first' := Int.mul_le_mul_of_nonneg_left (show value ≤ high + slack by omega) unit.1
  have rest : (0 : Int) ≤ one - a := by rw [complement]; omega
  have second := Int.mul_le_mul_of_nonneg_left near.1 rest
  have second' := Int.mul_le_mul_of_nonneg_left near.2 rest
  rw [complement] at second second' below' above' ⊢
  have lower : a * (low - slack) + (10 ^ 18 - a) * (low - slack) = 10 ^ 18 * (low - slack) := by ring
  have upper : a * (high + slack) + (10 ^ 18 - a) * (high + slack) = 10 ^ 18 * (high + slack) := by ring
  constructor <;> linarith

theorem computeEMA_range (positive : 1 ≤ window) {values : List LegacyDec} (some : values ≠ [])
    (inside : ∀ v ∈ values, low ≤ v ∧ v ≤ high) :
    low - (values.length - 1) ≤ computeEMA values window ∧ computeEMA values window ≤ high +
      (values.length - 1) := by
  obtain ⟨first, rest, rfl⟩ := List.exists_cons_of_ne_nil some
  have walk (rest : List LegacyDec) (inside : ∀ v ∈ rest, low ≤ v ∧ v ≤ high) (ema slack : Int)
    (nonneg : 0 ≤ slack)
      (near : low - slack ≤ ema ∧ ema ≤ high + slack) :
      low - (slack + rest.length) ≤
          rest.foldl (fun ema value => mul (alpha window) value + mul (one - alpha window) ema) ema ∧
        rest.foldl (fun ema value => mul (alpha window) value + mul (one - alpha window) ema) ema ≤
          high + (slack + rest.length) := by
    induction rest generalizing ema slack with
    | nil => simpa using near
    | cons value rest ih =>
        have step := average_step (alpha_unit positive) nonneg (inside value List.mem_cons_self) near
        have walked := ih (fun v member => inside v (List.mem_cons_of_mem _ member)) _ (slack + 1)
          (by omega) step
        rw [List.foldl_cons, List.length_cons]
        push_cast
        constructor
        · linarith [walked.1]
        · linarith [walked.2]
  have here := inside first List.mem_cons_self
  have walked := walk rest (fun v member => inside v (List.mem_cons_of_mem _ member)) first 0 (le_refl _)
    (by simpa using here)
  unfold computeEMA
  rw [List.length_cons]
  push_cast
  constructor
  · linarith [walked.1]
  · linarith [walked.2]

theorem addValue_length (values : List LegacyDec) (value : LegacyDec) {maxSize : Int} (positive : 1 ≤ maxSize) :
    ((addValue values value maxSize).length : Int) ≤ maxSize ∧ addValue values value maxSize ≠ [] := by
  unfold addValue
  dsimp only
  split
  · refine ⟨?_, List.ne_nil_of_length_pos ?_⟩
    all_goals
      rw [List.length_drop]
      omega
  · exact ⟨not_lt.1 ‹_›, by simp⟩

theorem mem_addValue {values : List LegacyDec} {value v : LegacyDec} {maxSize : Int}
    (member : v ∈ addValue values value maxSize) :
    v ∈ values ∨ v = value := by
  unfold addValue at member
  dsimp only at member
  split at member
  · simpa using List.mem_of_mem_drop member
  · simpa using member

end Average

section Runs

def Validator.Ranges (low high : Int) (v : Validator) : Prop :=
  v.bonded = true → 0 ≤ v.tokens ∧ low ≤ v.components.mRaw ∧ v.components.mRaw ≤ high

/-- What an epoch is given: stakes that are not negative, raw multipliers from `low` to `high`. -/
def Staking.Ranges (low high : Int) (staking : Staking) : Prop :=
  ∀ validators, staking.validators = some validators → ∀ v ∈ validators, v.Ranges low high

def Remembers (low high : Int) (histories : BTreeMap String (List LegacyDec)) : Prop :=
  ∀ (a : String) (values : List LegacyDec), histories[a]? = some values → ∀ x ∈ values, low ≤ x ∧ x ≤ high

/-- A step of a run: the epochs are given raw multipliers from `low` to `high`, and parameters
that pass keep the multipliers from `floor` to `ceiling`. -/
def Step.Admissible (floor ceiling low high : Int) : Step → Prop
  | .endBlocker _ staking => staking.Ranges low high
  | .updateParams authorised params =>
      authorised = true → params.Valid → floor ≤ params.minMultiplier ∧ params.maxMultiplier ≤ ceiling

structure Sound (floor ceiling low high : Int) (k : Keeper) : Prop where
  valid : k.params.Valid
  bounds : floor ≤ k.params.minMultiplier ∧ k.params.maxMultiplier ≤ ceiling
  history : Remembers low high k.emaHistories
  multipliers : ∀ (v : String) (vm : ValidatorMultiplier), k.multipliers[v]? = some vm →
    floor ≤ vm.mEffective ∧ vm.mEffective ≤ ceiling ∧ low ≤ vm.mRaw ∧ vm.mRaw ≤ high ∧
      low - 99 ≤ vm.mEMA ∧ vm.mEMA ≤ high + 99

variable {floor ceiling low high : Int} {k : Keeper} {epoch : Int}

/-- What phase 1 has put into an entry. -/
def Entry.Fits (params : Params) (low high : Int) (e : Entry) : Prop :=
  0 ≤ e.stakeWt ∧ params.minMultiplier ≤ e.mFinal ∧ e.mFinal ≤ params.maxMultiplier ∧
    low ≤ e.multiplier.mRaw ∧ e.multiplier.mRaw ≤ high ∧
    low - 99 ≤ e.multiplier.mEMA ∧ e.multiplier.mEMA ≤ high + 99

theorem clamp_range {min max : Int} (le : min ≤ max) (value : Int) :
    min ≤ clamp value min max ∧ clamp value min max ≤ max := by
  unfold clamp
  split
  · exact ⟨le_refl _, le⟩
  · split
    · exact ⟨le, le_refl _⟩
    · exact ⟨not_lt.1 ‹_›, not_lt.1 ‹_›⟩

theorem addEntry_fits (epoch : Int) (valid : k.params.Valid)
    {state : BTreeMap String (List LegacyDec) × List Entry} {v : Validator}
    (given : v.Ranges low high)
    (history : Remembers low high state.1)
    (entries : ∀ e ∈ state.2, e.Fits k.params low high) :
    Remembers low high (addEntry k epoch state v).1 ∧
      ∀ e ∈ (addEntry k epoch state v).2, e.Fits k.params low high := by
  unfold addEntry
  split
  · exact ⟨history, entries⟩
  · obtain ⟨tokens, above, below⟩ := given (by simpa using ‹¬ v.bonded = false›)
    have inside : ∀ x ∈ addValue (state.1[v.operator]?.getD []) v.components.mRaw k.params.emaWindow, low ≤ x ∧
      x ≤ high := by
      intro x member
      rcases mem_addValue member with old | rfl
      · cases found : state.1[v.operator]? with
        | none =>
            rw [found] at old
            cases old
        | some values =>
            rw [found] at old
            exact history _ _ found x old
      · exact ⟨above, below⟩
    have length := addValue_length (state.1[v.operator]?.getD []) v.components.mRaw valid.2.2.2.2.1
    have range := computeEMA_range valid.2.2.2.2.1 length.2 inside
    have window := valid.2.2.2.2.2.1
    constructor
    · intro a values found
      simp only [warmStartEMA, BTree.getElem?_insert] at found
      split at found
      · cases found
        exact inside
      · exact history a values found
    · intro e member
      rcases List.mem_append.1 member with old | new
      · exact entries e old
      · rw [List.mem_singleton.1 new]
        have final := clamp_range (le_of_lt valid.2.1)
          (computeEMA (addValue
            (state.1[v.operator]?.getD []) v.components.mRaw k.params.emaWindow) k.params.emaWindow)
        refine ⟨Int.mul_nonneg tokens (by decide), final.1, final.2, above, below, ?_, ?_⟩
        · exact le_trans (by linarith) range.1
        · exact range.2.trans (by linarith)

theorem addEntries_fit (epoch : Int) (valid : k.params.Valid) (validators : List Validator)
    (given : ∀ v ∈ validators, v.Ranges low high)
    (state : BTreeMap String (List LegacyDec) × List Entry)
    (history : Remembers low high state.1)
    (entries : ∀ e ∈ state.2, e.Fits k.params low high) :
    Remembers low high (validators.foldl (addEntry k epoch) state).1 ∧
      ∀ e ∈ (validators.foldl (addEntry k epoch) state).2, e.Fits k.params low high := by
  induction validators generalizing state with
  | nil => exact ⟨history, entries⟩
  | cons v validators ih =>
      obtain ⟨history, entries⟩ := addEntry_fits epoch valid (given v List.mem_cons_self) history entries
      exact ih (fun v member => given v (List.mem_cons_of_mem _ member)) _ history entries

theorem setMultipliers_sound {P : ValidatorMultiplier → Prop}
    {multipliers : BTreeMap String ValidatorMultiplier}
    (stored : ∀ (v : String) (vm : ValidatorMultiplier), multipliers[v]? = some vm → P vm)
      {zipped : List (Entry × Slot)}
    (fresh : ∀ e ∈ zipped, P { e.1.multiplier with mEffective := e.2.effective }) :
    ∀ (v : String) (vm : ValidatorMultiplier), (zipped.foldl setMultiplier multipliers)[v]? = some vm →
      P vm := by
  induction zipped generalizing multipliers with
  | nil => exact stored
  | cons e zipped ih =>
      refine ih ?_ fun e member => fresh e (List.mem_cons_of_mem _ member)
      intro v vm found
      rw [setMultiplier, BTree.getElem?_insert] at found
      split at found
      · cases found
        exact fresh e List.mem_cons_self
      · exact stored v vm found

theorem processEpoch_sound (sound : Sound floor ceiling low high k) {staking : Staking}
    (given : staking.Ranges low high) :
    Sound floor ceiling low high (processEpoch k epoch staking) := by
  unfold processEpoch
  split
  · exact sound
  · split
    · rename_i validators totalBonded known bonded
      split
      · exact sound
      · obtain ⟨history, entries⟩ := addEntries_fit epoch sound.valid validators (given validators known)
          (k.emaHistories, []) sound.history (by simp)
        dsimp only
        split
        · exact ⟨sound.valid, sound.bounds, history, sound.multipliers⟩
        · split
          · exact ⟨sound.valid, sound.bounds, history, sound.multipliers⟩
          · refine ⟨sound.valid, sound.bounds, history, setMultipliers_sound sound.multipliers ?_⟩
            rintro ⟨e, s⟩ member
            obtain ⟨left, right⟩ := List.of_mem_zip member
            obtain ⟨_, _, _, above, below, lower, upper⟩ := entries e left
            have fits : ∀ pair ∈ (validators.foldl (addEntry k epoch) (k.emaHistories, [])).2.map
                (fun e => (e.stakeWt, e.mFinal)),
                0 ≤ pair.1 ∧ k.params.minMultiplier ≤ pair.2 ∧ pair.2 ≤ k.params.maxMultiplier := by
              intro pair member
              obtain ⟨e, mine, rfl⟩ := List.mem_map.1 member
              exact ⟨(entries e mine).1, (entries e mine).2.1, (entries e mine).2.2.1⟩
            have kept := (normalize_monotone sound.valid (fun pair member => (fits pair member).1)
              fun pair member => (fits pair member).2).2.1 s right
            exact ⟨sound.bounds.1.trans kept.1, kept.2.trans sound.bounds.2, above, below, lower, upper⟩
    · exact sound

theorem step_sound (sound : Sound floor ceiling low high k) {a : Step}
    (admissible : a.Admissible floor ceiling low high) :
    Sound floor ceiling low high (step k a) := by
  cases a with
  | endBlocker height staking =>
      show Sound _ _ _ _ (endBlocker k height staking)
      unfold endBlocker
      dsimp only
      generalize (if k.params.epochLength ≤ 0 then defaultEpochLength else k.params.epochLength) = epochLength
      split
      · exact sound
      · exact processEpoch_sound sound admissible
  | updateParams authorised params =>
      show Sound _ _ _ _ (if authorised = true ∧ params.Valid then { k with params } else k)
      split
      · rename_i accepted
        exact ⟨accepted.2, admissible accepted.1 accepted.2, sound.history, sound.multipliers⟩
      · exact sound

theorem run_sound (sound : Sound floor ceiling low high k) {steps : List Step}
    (admissible : ∀ a ∈ steps, a.Admissible floor ceiling low high) : Sound floor ceiling low high
      (steps.foldl step k) := by
  induction steps generalizing k with
  | nil => exact sound
  | cons a steps ih =>
      exact ih (step_sound sound (admissible a List.mem_cons_self)) fun b member =>
        admissible b (List.mem_cons_of_mem _ member)

theorem genesis_sound {params : Params} (valid : params.Valid)
    (bounds : floor ≤ params.minMultiplier ∧ params.maxMultiplier ≤ ceiling) :
    Sound floor ceiling low high (Keeper.genesis params) := by
  refine ⟨valid, bounds, ?_, ?_⟩
  · intro v values found
    simp [Keeper.genesis] at found
  · intro v vm found
    simp [Keeper.genesis] at found

/-- Over every run of blocks and changes of the parameters, every stored multiplier is within the
bounds that the parameters kept to, and its average within the range of all raw multipliers, up to
99 in the 18th place. -/
theorem multipliers_in_bounds {params : Params} (valid : params.Valid)
    (bounds : floor ≤ params.minMultiplier ∧ params.maxMultiplier ≤ ceiling) {steps : List Step}
    (admissible : ∀ a ∈ steps, a.Admissible floor ceiling low high) {v : String} {vm : ValidatorMultiplier}
    (found : (steps.foldl step (Keeper.genesis params)).multipliers[v]? = some vm) :
    floor ≤ vm.mEffective ∧ vm.mEffective ≤ ceiling ∧ low - 99 ≤ vm.mEMA ∧ vm.mEMA ≤ high + 99 := by
  obtain ⟨least, most, _, _, lower, upper⟩ :=
    (run_sound (genesis_sound valid bounds) admissible).multipliers v vm found
  exact ⟨least, most, lower, upper⟩

def twoValidators : Staking :=
  { validators := some
      [{ operator := "a", tokens := 3, bonded := true, components := ⟨3 * 10 ^ 16, 0, 0, 0, 0⟩ },
        { operator := "b", tokens := 1, bonded := true, components := ⟨0, 0, 0, 5 * 10 ^ 16, 0⟩ }]
    totalBonded := some 4 }

theorem twoValidators_ranges : twoValidators.Ranges (95 * 10 ^ 16) (103 * 10 ^ 16) := by
  intro validators known v member _
  cases known
  simp only [List.mem_cons, List.not_mem_nil, or_false] at member
  rcases member with rfl | rfl <;> decide

/-- The better of the two validators, after the first epoch. -/
def smoothed : ValidatorMultiplier :=
  { epoch := 1, mRaw := 103 * 10 ^ 16, mEMA := 103 * 10 ^ 16, mEffective := 1019801980198019802
    components := ⟨3 * 10 ^ 16, 0, 0, 0, 0⟩ }

theorem multipliers_in_bounds_two :
    85 * 10 ^ 16 ≤ smoothed.mEffective ∧ smoothed.mEffective ≤ 115 * 10 ^ 16 ∧
      95 * 10 ^ 16 - 99 ≤ smoothed.mEMA ∧ smoothed.mEMA ≤ 103 * 10 ^ 16 + 99 := by
  have found : ([Step.endBlocker 100 twoValidators].foldl step (Keeper.genesis .default)).multipliers["a"]? =
    some smoothed := rfl
  refine multipliers_in_bounds (by decide) (by decide) ?_ found
  intro a member
  rw [List.mem_singleton.1 member]
  exact twoValidators_ranges

end Runs

end Omniphi.RewardMult
