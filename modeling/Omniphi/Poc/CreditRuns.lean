import Omniphi.Decimals
import Omniphi.Lib.Run
import Omniphi.Poc.Finality

/-! The credits of contributors: how they are earned, frozen, burned, withdrawn and decay, and what holds of
them over whole runs. -/

namespace Omniphi.Poc

section Curve

def defaultCreditCap : Int := 100000

def defaultEpochCreditCap : Int := 10000

def defaultTypeCreditCap : Int := 50000

def creditDecayRate : LegacyDec := 50 * 10 ^ 14

/-- Newton's rounds, until the guess does not change. -/
def sqrtRounds (x : LegacyDec) : Nat → LegacyDec → LegacyDec
  | 0, guess => guess
  | rounds + 1, guess =>
      if guess = 0 then guess
      else
        let newGuess := LegacyDec.quo (guess + LegacyDec.quo x guess) (LegacyDec.ofInt 2)
        if (newGuess - guess).natAbs < 1 then newGuess else sqrtRounds x rounds newGuess

def approxSqrt (x : LegacyDec) : LegacyDec :=
  if x ≤ 0 then 0
  else if x = LegacyDec.ofInt 1 then LegacyDec.ofInt 1
  else sqrtRounds x 10 (LegacyDec.quo x (LegacyDec.ofInt 2))

def diminishingReturnsCurve (rawCredits cap : Int) : Int :=
  if rawCredits = 0 ∨ cap = 0 then 0
  else
    let ratio := LegacyDec.quo (LegacyDec.ofInt rawCredits) (LegacyDec.ofInt cap)
    let ratio := if LegacyDec.ofInt 1 < ratio then LegacyDec.ofInt 1 else ratio
    LegacyDec.truncateInt (LegacyDec.mul (LegacyDec.ofInt cap) (approxSqrt ratio))

def withinCreditCap (existing amount : Int) : Option Int :=
  if defaultCreditCap < existing + amount then
    let effectiveAmount := diminishingReturnsCurve amount (defaultCreditCap - existing)
    if effectiveAmount = 0 then none else some effectiveAmount
  else some amount

def withinCap (cap held amount : Int) : Option Int :=
  if cap < held + amount then
    let remaining := cap - held
    if remaining ≤ 0 then none
    else
      let effectiveAmount := diminishingReturnsCurve amount remaining
      if effectiveAmount = 0 then none else some effectiveAmount
  else some amount

def decayed (amount : Int) : Int :=
  let decayAmount := LegacyDec.truncateInt (LegacyDec.mul (LegacyDec.ofInt amount) creditDecayRate)
  if amount = 0 ∨ decayAmount = 0 then amount
  else if amount - decayAmount < 0 then 0
  else amount - decayAmount

def powerRounds : Nat → Nat → LegacyDec → LegacyDec → LegacyDec
  | 0, _, _, factor => factor
  | rounds + 1, exp, base, factor =>
      if exp = 0 then factor
      else powerRounds rounds (exp / 2) (LegacyDec.mul base base)
        (if exp % 2 = 1 then LegacyDec.mul factor base else factor)

def retainFactor (epochsMissed : U64) : LegacyDec :=
  powerRounds 64 epochsMissed.toNat (LegacyDec.ofInt 1 - creditDecayRate) (LegacyDec.ofInt 1)

def retained (amount : Int) (epochsMissed : U64) : Int :=
  let newAmount := LegacyDec.truncateInt (LegacyDec.mul (LegacyDec.ofInt amount) (retainFactor epochsMissed))
  if newAmount < 0 then 0 else newAmount

end Curve

section Decimals

theorem decayed_eq {amount : Int} (nonneg : 0 ≤ amount) : decayed amount = amount - amount / 200 := by
  have part :
      LegacyDec.truncateInt (LegacyDec.mul (LegacyDec.ofInt amount) creditDecayRate) = amount / 200 := by
    rw [LegacyDec.ofInt_mul, LegacyDec.mulInt, LegacyDec.truncateInt,
      Int.tdiv_eq_ediv_of_nonneg (Int.mul_nonneg (by decide) nonneg)]
    unfold creditDecayRate LegacyDec.precisionReuse
    omega
  unfold decayed
  rw [part]
  dsimp only
  split
  · omega
  · split <;> omega

theorem inUnit_powerRounds (rounds exp : Nat) {base factor : LegacyDec} (left : LegacyDec.InUnit base)
    (right : LegacyDec.InUnit factor) : LegacyDec.InUnit (powerRounds rounds exp base factor) := by
  induction rounds generalizing exp base factor with
  | zero => exact right
  | succ rounds ih =>
      unfold powerRounds
      split
      · exact right
      · refine ih _ (left.mul left) ?_
        split
        · exact right.mul left
        · exact right

theorem powerRounds_ends {rounds exp : Nat} (enough : exp < 2 ^ rounds) (more : Nat) (base factor : LegacyDec) :
    powerRounds (rounds + more) exp base factor = powerRounds rounds exp base factor := by
  induction rounds generalizing exp base factor with
  | zero =>
      obtain rfl : exp = 0 := by omega
      cases more <;> simp [powerRounds]
  | succ rounds ih =>
      rw [Nat.succ_add]
      unfold powerRounds
      split
      · rfl
      · exact ih (by omega) _ _

theorem retained_bounds {amount : Int} (nonneg : 0 ≤ amount) (epochsMissed : U64) :
    0 ≤ retained amount epochsMissed ∧ retained amount epochsMissed ≤ amount := by
  have unit : LegacyDec.InUnit (retainFactor epochsMissed) :=
    inUnit_powerRounds _ _ ⟨by decide, by decide⟩ ⟨by decide, by decide⟩
  have bounds := unit.truncateInt nonneg
  unfold retained
  rw [LegacyDec.ofInt_mul]
  dsimp only
  rw [if_neg (Int.not_lt.2 bounds.1)]
  exact bounds

theorem diminishingReturnsCurve_eq {raw cap : Int} (positive : 0 < cap) (beyond : cap < raw) :
    diminishingReturnsCurve raw cap = cap := by
  have ratio : LegacyDec.ofInt 1 ≤ LegacyDec.quo (LegacyDec.ofInt raw) (LegacyDec.ofInt cap) := by
    refine LegacyDec.le_chop (Int.le_ediv_of_mul_le (Int.mul_pos positive (by decide)) ?_ |>.trans_eq
      (Int.tdiv_eq_ediv_of_nonneg ?_).symm)
    · unfold LegacyDec.ofInt LegacyDec.precisionReuse
      omega
    · unfold LegacyDec.ofInt LegacyDec.precisionReuse
      omega
  have clamped : (if LegacyDec.ofInt 1 < LegacyDec.quo (LegacyDec.ofInt raw) (LegacyDec.ofInt cap) then
      LegacyDec.ofInt 1
      else LegacyDec.quo (LegacyDec.ofInt raw) (LegacyDec.ofInt cap)) = LegacyDec.ofInt 1 := by
    split
    · rfl
    · rename_i most
      exact Int.le_antisymm (Int.not_lt.1 most) ratio
  have root : approxSqrt (LegacyDec.ofInt 1) = LegacyDec.ofInt 1 := by decide
  have some : ¬ (raw = 0 ∨ cap = 0) := by omega
  unfold diminishingReturnsCurve
  rw [if_neg some]
  dsimp only
  rw [clamped, root, LegacyDec.mul_ofInt, LegacyDec.mulInt, Int.mul_one, LegacyDec.truncateInt_ofInt]

theorem withinCreditCap_some {existing amount left : Int} (capped : existing ≤ defaultCreditCap)
    (given : withinCreditCap existing amount = some left) : existing + left ≤ defaultCreditCap := by
  unfold withinCreditCap at given
  split at given
  · rename_i beyond
    dsimp only at given
    split at given
    · cases given
    · rename_i more
      obtain rfl := Option.some.inj given
      rcases Int.lt_or_eq_of_le capped with room | full
      · rw [diminishingReturnsCurve_eq (by omega) (by omega)]
        omega
      · rw [full, Int.sub_self] at more
        exact absurd (if_pos (.inr rfl)) more
  · rename_i within
    obtain rfl := Option.some.inj given
    omega

theorem withinCap_some {cap held amount left : Int} (given : withinCap cap held amount = some left) :
    left ≤ amount := by
  unfold withinCap at given
  split at given
  · rename_i beyond
    dsimp only at given
    split at given
    · cases given
    · rename_i room
      split at given
      · cases given
      · obtain rfl := Option.some.inj given
        rw [diminishingReturnsCurve_eq (by omega) (by omega)]
        omega
  · obtain rfl := Option.some.inj given
    exact Int.le_refl _

end Decimals

structure TypeCredits where
  credits : Int
  count : U64

inductive CreditError
  | creditCapExceeded | epochCreditCapExceeded | typeCreditCapExceeded | noCredits
  | insufficientModuleBalance | sendFailed
  | finality (error : FinalityError)
  deriving DecidableEq

structure CreditKeeper extends FinalityKeeper where
  epochCredits : String → U64 → Int
  typeCredits : String → String → TypeCredits
  lastDecayEpoch : U64
  lazyDecayMarker : String → U64

namespace CreditKeeper

def new (params : FinalityParams) : CreditKeeper where
  params := params
  contributions := .empty
  finalities := .empty
  challengeWindows := .empty
  fraudProofs := .empty
  credits _ := 0
  frozenCredits addr := ⟨addr, 0, 0⟩
  slashed := []
  reached := []
  epochCredits _ _ := 0
  typeCredits _ _ := ⟨0, 0⟩
  lastDecayEpoch := 0
  lazyDecayMarker _ := 0

section Operations

variable (k : CreditKeeper)

def addCreditsWithCaps (addr : String) (amount : Int) (ctype : String) (epoch : U64) :
    Except CreditError CreditKeeper :=
  match withinCreditCap (k.credits addr) amount with
  | none => .error .creditCapExceeded
  | some amount =>
    match withinCap defaultEpochCreditCap (k.epochCredits addr epoch) amount with
    | none => .error .epochCreditCapExceeded
    | some amount =>
      match withinCap defaultTypeCreditCap (k.typeCredits addr ctype).credits amount with
      | none => .error .typeCreditCapExceeded
      | some amount =>
        match k.addCreditsWithOverflowCheck addr amount with
        | .error error => .error (.finality error)
        | .ok added =>
          let typeCredits := k.typeCredits addr ctype
          .ok { k with
            toFinalityKeeper := added
            epochCredits := Function.update k.epochCredits addr
              (Function.update (k.epochCredits addr) epoch (k.epochCredits addr epoch + amount))
            typeCredits := Function.update k.typeCredits addr
              (Function.update (k.typeCredits addr) ctype
                ⟨typeCredits.credits + amount, typeCredits.count + 1⟩) }

/-- The record of an address is written over. -/
def freezeCredits (addr : String) (amount : Int) (contributionID : Nat) : CreditKeeper :=
  { k with frozenCredits := Function.update k.frozenCredits addr ⟨addr, amount, contributionID⟩ }

def getAvailableCredits (addr : String) : Int :=
  let available := k.credits addr - (k.frozenCredits addr).amount
  if available < 0 then 0 else available

/-- All the credits are paid, the frozen ones too. -/
def withdrawCredits (addr : String) (moduleBalance : Int) (sends : Bool) :
    Except CreditError Int × CreditKeeper :=
  let amount := k.credits addr
  if amount ≤ 0 then (.error .noCredits, k)
  else
    let zeroed := { k with credits := Function.update k.credits addr 0 }
    let restored := { zeroed with credits := Function.update zeroed.credits addr amount }
    if moduleBalance < amount then (.error .insufficientModuleBalance, restored)
    else if sends = false then (.error .sendFailed, restored)
    else (.ok amount, zeroed)

def applyCreditDecay (currentEpoch : U64) : CreditKeeper :=
  if currentEpoch ≤ k.lastDecayEpoch then k
  else { k with credits := fun addr => decayed (k.credits addr), lastDecayEpoch := currentEpoch }

def applyLazyDecay (addr : String) (currentEpoch : U64) : CreditKeeper :=
  let lastDecayEpoch := k.lazyDecayMarker addr
  if currentEpoch ≤ lastDecayEpoch then k
  else
    let marked := { k with lazyDecayMarker := Function.update k.lazyDecayMarker addr currentEpoch }
    if k.credits addr = 0 then marked
    else { marked with
      credits := Function.update k.credits addr (retained (k.credits addr) (currentEpoch - lastDecayEpoch)) }

end Operations

/-- The calls that read and write credits. A resolved challenge is of a contribution, of which the keeper is
only told the contributor. -/
inductive CreditCall
  | enqueueReward (params : FinalityParams) (c : Contribution)
  | addCreditsWithOverflowCheck (addr : String) (amount : Int)
  | addCreditsWithCaps (addr : String) (amount : Int) (ctype : String) (epoch : U64)
  | freezeCredits (addr : String) (amount : Int) (contributionID : Nat)
  | unfreezeCredits (addr : String) (contributionID : Nat)
  | burnFrozenCredits (addr : String) (contributionID : Nat)
  | withdrawCredits (addr : String) (moduleBalance : Int) (sends : Bool)
  | applyCreditDecay (currentEpoch : U64)
  | applyLazyDecay (addr : String) (currentEpoch : U64)

def CreditCall.Resolves (addr : String) (contributionID : Nat) : CreditCall → Prop
  | .unfreezeCredits addr' id | .burnFrozenCredits addr' id => addr' = addr ∧ id = contributionID
  | _ => False

section Steps

variable (addresses : Addresses) (k : CreditKeeper)

def orKept (result : Except FinalityError FinalityKeeper) : CreditKeeper :=
  match result with
  | .error _ => k
  | .ok changed => { k with toFinalityKeeper := changed }

def creditStep : CreditCall → CreditKeeper
  | .enqueueReward params c => k.orKept ({ k.toFinalityKeeper with params }.enqueueReward addresses c)
  | .addCreditsWithOverflowCheck addr amount =>
      k.orKept (k.toFinalityKeeper.addCreditsWithOverflowCheck addr amount)
  | .addCreditsWithCaps addr amount ctype epoch =>
      (k.addCreditsWithCaps addr amount ctype epoch).toOption.getD k
  | .freezeCredits addr amount id => k.freezeCredits addr amount id
  | .unfreezeCredits addr _ => { k with toFinalityKeeper := k.toFinalityKeeper.unfreezeCredits addr }
  | .burnFrozenCredits addr _ =>
      { k with toFinalityKeeper := k.toFinalityKeeper.burnFrozenCredits addresses addr }
  | .withdrawCredits addr moduleBalance sends => (k.withdrawCredits addr moduleBalance sends).2
  | .applyCreditDecay currentEpoch => k.applyCreditDecay currentEpoch
  | .applyLazyDecay addr currentEpoch => k.applyLazyDecay addr currentEpoch

/-- No withdrawal pays more than what is available. -/
def PaysAvailable : CreditCall → Prop
  | .withdrawCredits addr moduleBalance sends =>
      ∀ amount, (k.withdrawCredits addr moduleBalance sends).1 = .ok amount →
        amount ≤ k.getAvailableCredits addr
  | _ => True

structure CreditsSound (k : CreditKeeper) : Prop where
  range : ∀ addr, 0 ≤ k.credits addr ∧ k.credits addr ≤ defaultCreditCap
  covered : ∀ addr, (k.frozenCredits addr).amount ≤ k.credits addr

/-- A call after which the invariants hold, that lets what is frozen be until it is resolved, and pays nothing
of it. -/
structure CreditsKept (k : CreditKeeper) (call : CreditCall) : Prop where
  sound : CreditsSound (k.creditStep addresses call)
  stays : ∀ addr, 0 < (k.frozenCredits addr).amount →
    ¬ call.Resolves addr (k.frozenCredits addr).contributionID →
      ((k.creditStep addresses call).frozenCredits addr).contributionID =
          (k.frozenCredits addr).contributionID ∧
        (k.frozenCredits addr).amount ≤ ((k.creditStep addresses call).frozenCredits addr).amount
  pays : PaysAvailable k call

def Capped (addr : String) (amount : Int) : Prop :=
  amount ≤ 0 ∨ maxSafeCredits < k.credits addr + amount ∨ k.credits addr + amount ≤ defaultCreditCap

/-- The calls that keep the ledger in order. -/
def CreditMeets : CreditCall → Prop
  | .enqueueReward params c =>
      let credits := params.baseRewardUnit * { k.toFinalityKeeper with params }.weightFor c
      ∀ contributor, addresses.accAddress c.contributor = some contributor →
        maxSafeCredits ≤ credits ∨ Capped k contributor credits
  | .addCreditsWithOverflowCheck addr amount => Capped k addr amount
  | .addCreditsWithCaps _ _ _ _ => True
  | .freezeCredits addr amount id =>
      let fc := k.frozenCredits addr
      amount ≤ k.credits addr ∧ (fc.amount ≤ 0 ∨ (fc.contributionID = id ∧ fc.amount ≤ amount))
  | .unfreezeCredits addr id =>
      let fc := k.frozenCredits addr
      0 < fc.amount → fc.contributionID = id
  | .burnFrozenCredits addr id =>
      let fc := k.frozenCredits addr
      ∀ account, addresses.accAddress addr = some account → fc.amount ≠ 0 →
        (0 < fc.amount → fc.contributionID = id) ∧ k.credits account - fc.amount ≤ defaultCreditCap ∧
          (account ≠ addr → (k.frozenCredits account).amount ≤ 0 ∨
            (k.frozenCredits account).amount ≤ k.credits account - fc.amount)
  | .withdrawCredits addr moduleBalance sends =>
      0 < k.credits addr → k.credits addr ≤ moduleBalance → sends = true → (k.frozenCredits addr).amount ≤ 0
  | .applyCreditDecay currentEpoch =>
      k.lastDecayEpoch < currentEpoch →
        ∀ addr, (k.frozenCredits addr).amount ≤ k.credits addr - k.credits addr / 200
  | .applyLazyDecay addr currentEpoch =>
      k.lazyDecayMarker addr < currentEpoch →
        (k.frozenCredits addr).amount ≤ retained (k.credits addr) (currentEpoch - k.lazyDecayMarker addr)

end Steps

section Kept

variable {addresses : Addresses} {k : CreditKeeper} {call : CreditCall}

theorem creditsKept_iff_of_frozen (same : (k.creditStep addresses call).frozenCredits = k.frozenCredits)
    (pays : PaysAvailable k call) :
    CreditsKept addresses k call ↔
      ∀ addr, 0 ≤ (k.creditStep addresses call).credits addr ∧
        (k.creditStep addresses call).credits addr ≤ defaultCreditCap ∧
          (k.frozenCredits addr).amount ≤ (k.creditStep addresses call).credits addr := by
  constructor
  · intro kept addr
    refine ⟨(kept.sound.range addr).1, (kept.sound.range addr).2, ?_⟩
    rw [← same]
    exact kept.sound.covered addr
  · intro bounds
    refine ⟨⟨fun addr => ⟨(bounds addr).1, (bounds addr).2.1⟩, fun addr => ?_⟩, fun addr _ _ => ?_, pays⟩
    · rw [same]
      exact (bounds addr).2.2
    · rw [same]
      exact ⟨rfl, Int.le_refl _⟩

theorem creditsKept_of_same (sound : CreditsSound k)
    (same : (k.creditStep addresses call).frozenCredits = k.frozenCredits)
    (credits : (k.creditStep addresses call).credits = k.credits) (pays : PaysAvailable k call) :
    CreditsKept addresses k call := by
  rw [creditsKept_iff_of_frozen same pays, credits]
  exact fun addr => ⟨(sound.range addr).1, (sound.range addr).2, sound.covered addr⟩

theorem creditsKept_iff_of_update (sound : CreditsSound k) {addr : String} {amount : Int}
    (same : (k.creditStep addresses call).frozenCredits = k.frozenCredits)
    (credits : (k.creditStep addresses call).credits = Function.update k.credits addr amount)
    (pays : PaysAvailable k call) :
    CreditsKept addresses k call ↔
      0 ≤ amount ∧ amount ≤ defaultCreditCap ∧ (k.frozenCredits addr).amount ≤ amount := by
  rw [creditsKept_iff_of_frozen same pays, credits]
  constructor
  · intro bounds
    have here := bounds addr
    rw [Function.update_self] at here
    exact here
  · intro bounds other
    by_cases here : other = addr
    · rw [here, Function.update_self]
      exact bounds
    · rw [Function.update_of_ne here]
      exact ⟨(sound.range other).1, (sound.range other).2, sound.covered other⟩

theorem addCreditsWithOverflowCheck_cases (k : FinalityKeeper) (addr : String) (amount : Int) :
    (∃ error, k.addCreditsWithOverflowCheck addr amount = .error error ∧
      (amount ≤ 0 ∨ maxSafeCredits < k.credits addr + amount)) ∨
    (k.addCreditsWithOverflowCheck addr amount =
        .ok { k with credits := Function.update k.credits addr (k.credits addr + amount) } ∧
      0 < amount ∧ k.credits addr + amount ≤ maxSafeCredits) := by
  unfold FinalityKeeper.addCreditsWithOverflowCheck
  split
  · rename_i refused
    exact .inl ⟨_, rfl, .inl refused⟩
  · rename_i positive
    dsimp only
    split
    · omega
    · split
      · rename_i great
        exact .inl ⟨_, rfl, .inr great⟩
      · rename_i safe
        exact .inr ⟨rfl, by omega, by omega⟩

theorem capped_iff (sound : CreditsSound k) {addr : String} {amount : Int} (positive : 0 < amount)
    (safe : k.credits addr + amount ≤ maxSafeCredits) :
    (0 ≤ k.credits addr + amount ∧ k.credits addr + amount ≤ defaultCreditCap ∧
      (k.frozenCredits addr).amount ≤ k.credits addr + amount) ↔ Capped k addr amount := by
  have range := sound.range addr
  have covered := sound.covered addr
  unfold Capped
  constructor
  · rintro ⟨-, capped, -⟩
    exact .inr (.inr capped)
  · rintro (refused | great | capped) <;> refine ⟨?_, ?_, ?_⟩ <;> omega

theorem enqueueReward_iff (sound : CreditsSound k) (params : FinalityParams) (c : Contribution) :
    CreditsKept addresses k (.enqueueReward params c) ↔ CreditMeets addresses k (.enqueueReward params c) := by
  have pays : PaysAvailable k (.enqueueReward params c) := trivial
  let rewarding : FinalityKeeper := { k.toFinalityKeeper with params }
  let credits := params.baseRewardUnit * rewarding.weightFor c
  show _ ↔ ∀ contributor, addresses.accAddress c.contributor = some contributor →
    maxSafeCredits ≤ credits ∨ Capped k contributor credits
  have unchanged (error : FinalityError) (refused : rewarding.enqueueReward addresses c = .error error) :
      CreditsKept addresses k (.enqueueReward params c) := by
    have kept : k.creditStep addresses (.enqueueReward params c) = k := by
      show k.orKept (rewarding.enqueueReward addresses c) = k
      rw [refused, orKept]
    exact creditsKept_of_same sound (by rw [kept]) (by rw [kept]) pays
  by_cases negative : credits < 0
  · exact iff_of_true (unchanged _ (if_pos negative)) fun contributor _ => .inr (.inl (by omega))
  · by_cases great : credits ≥ maxSafeCredits
    · exact iff_of_true (unchanged _ ((if_neg negative).trans (if_pos great))) fun contributor _ => .inl great
    · cases account : addresses.accAddress c.contributor with
      | none =>
          have reward : rewarding.enqueueReward addresses c = .error .invalidContributor := by
            refine (if_neg negative).trans ((if_neg great).trans ?_)
            rw [account]
          exact iff_of_true (unchanged _ reward) fun contributor read => by cases read
      | some contributor =>
          have reward : rewarding.enqueueReward addresses c =
              rewarding.addCreditsWithOverflowCheck contributor credits := by
            refine (if_neg negative).trans ((if_neg great).trans ?_)
            rw [account]
          simp only [Option.some.injEq, forall_eq', or_iff_right great]
          rcases addCreditsWithOverflowCheck_cases rewarding contributor credits with
            ⟨error, refused, why⟩ | ⟨added, positive, safe⟩
          · refine iff_of_true (unchanged _ (reward.trans refused)) ?_
            exact why.elim .inl fun great => .inr (.inl great)
          · have after : k.creditStep addresses (.enqueueReward params c) =
                k.orKept (rewarding.addCreditsWithOverflowCheck contributor credits) :=
              congrArg k.orKept reward
            rw [added] at after
            rw [creditsKept_iff_of_update sound (by rw [after]; rfl) (by rw [after]; rfl) pays]
            exact capped_iff sound positive safe

theorem addCredits_iff (sound : CreditsSound k) (addr : String) (amount : Int) :
    CreditsKept addresses k (.addCreditsWithOverflowCheck addr amount) ↔
      CreditMeets addresses k (.addCreditsWithOverflowCheck addr amount) := by
  show _ ↔ Capped k addr amount
  rcases addCreditsWithOverflowCheck_cases k.toFinalityKeeper addr amount with
    ⟨error, refused, why⟩ | ⟨added, positive, safe⟩
  · have kept : k.creditStep addresses (.addCreditsWithOverflowCheck addr amount) = k := by
      rw [creditStep, refused, orKept]
    refine iff_of_true (creditsKept_of_same sound ?_ ?_ trivial) ?_
    · rw [kept]
    · rw [kept]
    · exact why.elim .inl fun great => .inr (.inl great)
  · have after : k.creditStep addresses (.addCreditsWithOverflowCheck addr amount) =
        { k with credits := Function.update k.credits addr (k.credits addr + amount) } := by
      rw [creditStep, added, orKept]
    have pays : PaysAvailable k (.addCreditsWithOverflowCheck addr amount) := trivial
    rw [creditsKept_iff_of_update sound (by rw [after]) (by rw [after]) pays]
    exact capped_iff sound positive safe

theorem addCreditsWithCaps_kept (sound : CreditsSound k) (addr : String) (amount : Int) (ctype : String)
    (epoch : U64) : CreditsKept addresses k (.addCreditsWithCaps addr amount ctype epoch) := by
  have pays : PaysAvailable k (.addCreditsWithCaps addr amount ctype epoch) := trivial
  have unchanged (error : CreditError) (refused : k.addCreditsWithCaps addr amount ctype epoch = .error error) :
      CreditsKept addresses k (.addCreditsWithCaps addr amount ctype epoch) := by
    have kept : k.creditStep addresses (.addCreditsWithCaps addr amount ctype epoch) = k := by
      rw [creditStep, refused]
      rfl
    exact creditsKept_of_same sound (by rw [kept]) (by rw [kept]) pays
  cases total : withinCreditCap (k.credits addr) amount with
  | none => exact unchanged .creditCapExceeded (by rw [addCreditsWithCaps, total])
  | some first =>
    cases ofEpoch : withinCap defaultEpochCreditCap (k.epochCredits addr epoch) first with
    | none =>
        exact unchanged .epochCreditCapExceeded
          (by rw [addCreditsWithCaps, total]; dsimp only; rw [ofEpoch])
    | some second =>
      cases ofType : withinCap defaultTypeCreditCap (k.typeCredits addr ctype).credits second with
      | none =>
          exact unchanged .typeCreditCapExceeded
            (by rw [addCreditsWithCaps, total]; dsimp only; rw [ofEpoch]; dsimp only; rw [ofType])
      | some third =>
          have capped := withinCreditCap_some (sound.range addr).2 total
          have less := withinCap_some ofEpoch
          have least := withinCap_some ofType
          rcases addCreditsWithOverflowCheck_cases k.toFinalityKeeper addr third with
            ⟨error, refused, -⟩ | ⟨added, positive, safe⟩
          · refine unchanged (.finality error) ?_
            rw [addCreditsWithCaps, total]
            dsimp only
            rw [ofEpoch]
            dsimp only
            rw [ofType]
            dsimp only
            rw [refused]
          · have after :
                (k.creditStep addresses (.addCreditsWithCaps addr amount ctype epoch)).toFinalityKeeper =
                  { k.toFinalityKeeper with
                    credits := Function.update k.credits addr (k.credits addr + third) } := by
              rw [creditStep, addCreditsWithCaps, total]
              dsimp only
              rw [ofEpoch]
              dsimp only
              rw [ofType]
              dsimp only
              rw [added]
              rfl
            rw [creditsKept_iff_of_update sound (by rw [after]) (by rw [after]) pays]
            have range := sound.range addr
            have covered := sound.covered addr
            refine ⟨?_, ?_, ?_⟩ <;> omega

theorem freezeCredits_iff (sound : CreditsSound k) (addr : String) (amount : Int) (id : Nat) :
    CreditsKept addresses k (.freezeCredits addr amount id) ↔
      CreditMeets addresses k (.freezeCredits addr amount id) := by
  show _ ↔ amount ≤ k.credits addr ∧ ((k.frozenCredits addr).amount ≤ 0 ∨
    ((k.frozenCredits addr).contributionID = id ∧ (k.frozenCredits addr).amount ≤ amount))
  have frozen : (k.creditStep addresses (.freezeCredits addr amount id)).frozenCredits =
      Function.update k.frozenCredits addr ⟨addr, amount, id⟩ := rfl
  constructor
  · intro kept
    have covered := kept.sound.covered addr
    have stays := kept.stays addr
    rw [frozen, Function.update_self] at covered stays
    refine ⟨covered, ?_⟩
    rcases Int.lt_or_le 0 (k.frozenCredits addr).amount with some | none
    · obtain ⟨same, more⟩ := stays some not_false
      exact .inr ⟨same.symm, more⟩
    · exact .inl none
  · rintro ⟨within, holds⟩
    refine ⟨⟨sound.range, fun other => ?_⟩, fun other some _ => ?_, trivial⟩
    · rw [frozen]
      by_cases here : other = addr
      · rw [here, Function.update_self]
        exact within
      · rw [Function.update_of_ne here]
        exact sound.covered other
    · rw [frozen]
      by_cases here : other = addr
      · subst here
        rw [Function.update_self]
        obtain ⟨same, more⟩ := holds.resolve_left (Int.not_le.2 some)
        exact ⟨same.symm, more⟩
      · rw [Function.update_of_ne here]
        exact ⟨rfl, Int.le_refl _⟩

theorem unfreezeCredits_cases (k : FinalityKeeper) (addr : String)
    (address : (k.frozenCredits addr).address = addr) :
    ((k.frozenCredits addr).amount = 0 ∧ k.unfreezeCredits addr = k) ∨
    ((k.frozenCredits addr).amount ≠ 0 ∧ k.unfreezeCredits addr =
      { k with
        frozenCredits := Function.update k.frozenCredits addr
          { k.frozenCredits addr with amount := 0 } }) := by
  unfold FinalityKeeper.unfreezeCredits
  dsimp only
  split
  · rename_i none
    exact .inl ⟨none, rfl⟩
  · rename_i some
    rw [address]
    exact .inr ⟨some, rfl⟩

theorem burnFrozenCredits_cases (k : FinalityKeeper) (addr : String)
    (address : (k.frozenCredits addr).address = addr) :
    (((k.frozenCredits addr).amount = 0 ∨ addresses.accAddress addr = none) ∧
      k.burnFrozenCredits addresses addr = k) ∨
    ∃ account, addresses.accAddress addr = some account ∧ (k.frozenCredits addr).amount ≠ 0 ∧
      k.burnFrozenCredits addresses addr =
        { k with
          credits := Function.update k.credits account
            (if k.credits account < (k.frozenCredits addr).amount then 0
              else k.credits account - (k.frozenCredits addr).amount)
          frozenCredits := Function.update k.frozenCredits addr
            { k.frozenCredits addr with amount := 0 } } := by
  unfold FinalityKeeper.burnFrozenCredits
  dsimp only
  split
  · rename_i none
    exact .inl ⟨.inl none, rfl⟩
  · rename_i some
    cases read : addresses.accAddress addr with
    | none => exact .inl ⟨.inr rfl, rfl⟩
    | some account =>
        rw [address]
        exact .inr ⟨account, rfl, some, rfl⟩

theorem stays_iff_of_cleared {k' : CreditKeeper} {addr : String} {id : Nat} (resolves : ∀ other contributionID,
      call.Resolves other contributionID ↔ addr = other ∧ id = contributionID)
    (frozen : k'.frozenCredits =
      Function.update k.frozenCredits addr { k.frozenCredits addr with amount := 0 }) :
    (∀ other, 0 < (k.frozenCredits other).amount →
      ¬ call.Resolves other (k.frozenCredits other).contributionID →
        (k'.frozenCredits other).contributionID = (k.frozenCredits other).contributionID ∧
          (k.frozenCredits other).amount ≤ (k'.frozenCredits other).amount) ↔
      (0 < (k.frozenCredits addr).amount → (k.frozenCredits addr).contributionID = id) := by
  rw [frozen]
  constructor
  · intro stays some
    by_contra other
    have kept := stays addr some fun resolved => other ((resolves _ _).1 resolved).2.symm
    rw [Function.update_self] at kept
    exact absurd kept.2 (Int.not_le.2 some)
  · intro own other some unresolved
    by_cases here : other = addr
    · subst here
      exact absurd ((resolves _ _).2 ⟨rfl, (own some).symm⟩) unresolved
    · rw [Function.update_of_ne here]
      exact ⟨rfl, Int.le_refl _⟩

theorem unfreezeCredits_iff (sound : CreditsSound k) (addr : String) (id : Nat)
    (address : (k.frozenCredits addr).address = addr) :
    CreditsKept addresses k (.unfreezeCredits addr id) ↔
      CreditMeets addresses k (.unfreezeCredits addr id) := by
  show _ ↔ (0 < (k.frozenCredits addr).amount → (k.frozenCredits addr).contributionID = id)
  have step : (k.creditStep addresses (.unfreezeCredits addr id)).toFinalityKeeper =
      k.toFinalityKeeper.unfreezeCredits addr := rfl
  rcases unfreezeCredits_cases k.toFinalityKeeper addr address with ⟨none, same⟩ | ⟨some, after⟩
  · refine iff_of_true (creditsKept_of_same sound ?_ ?_ trivial) fun some => absurd some (by omega)
    · rw [step, same]
    · rw [step, same]
  · have frozen : (k.creditStep addresses (.unfreezeCredits addr id)).frozenCredits =
        Function.update k.frozenCredits addr { k.frozenCredits addr with amount := 0 } := by
      rw [step, after]
    have credits : (k.creditStep addresses (.unfreezeCredits addr id)).credits = k.credits := by
      rw [step, after]
    rw [← @stays_iff_of_cleared k (.unfreezeCredits addr id) _ addr id (fun _ _ => Iff.rfl) frozen]
    refine ⟨CreditsKept.stays, fun stays => ⟨⟨?_, fun other => ?_⟩, stays, trivial⟩⟩
    · rw [credits]
      exact sound.range
    · rw [credits, frozen]
      by_cases here : other = addr
      · rw [here, Function.update_self]
        exact (sound.range addr).1
      · rw [Function.update_of_ne here]
        exact sound.covered other

theorem burnFrozenCredits_iff (sound : CreditsSound k) (addr : String) (id : Nat)
    (address : (k.frozenCredits addr).address = addr) :
    CreditsKept addresses k (.burnFrozenCredits addr id) ↔
      CreditMeets addresses k (.burnFrozenCredits addr id) := by
  show _ ↔ ∀ account, addresses.accAddress addr = some account → (k.frozenCredits addr).amount ≠ 0 →
    (0 < (k.frozenCredits addr).amount → (k.frozenCredits addr).contributionID = id) ∧
      k.credits account - (k.frozenCredits addr).amount ≤ defaultCreditCap ∧
      (account ≠ addr → (k.frozenCredits account).amount ≤ 0 ∨
        (k.frozenCredits account).amount ≤ k.credits account - (k.frozenCredits addr).amount)
  have step : (k.creditStep addresses (.burnFrozenCredits addr id)).toFinalityKeeper =
      k.toFinalityKeeper.burnFrozenCredits addresses addr := rfl
  rcases @burnFrozenCredits_cases addresses k.toFinalityKeeper addr address with
    ⟨none, same⟩ | ⟨account, read, some, after⟩
  · refine iff_of_true (creditsKept_of_same sound ?_ ?_ trivial) fun account read some => ?_
    · rw [step, same]
    · rw [step, same]
    · rcases none with none | unread
      · exact absurd none some
      · cases unread.symm.trans read
  · have frozen : (k.creditStep addresses (.burnFrozenCredits addr id)).frozenCredits =
        Function.update k.frozenCredits addr { k.frozenCredits addr with amount := 0 } := by
      rw [step, after]
    have credits : (k.creditStep addresses (.burnFrozenCredits addr id)).credits =
        Function.update k.credits account (if k.credits account < (k.frozenCredits addr).amount then 0
          else k.credits account - (k.frozenCredits addr).amount) := by
      rw [step, after]
    have cleared := @stays_iff_of_cleared k (.burnFrozenCredits addr id) _ addr id (fun _ _ => Iff.rfl) frozen
    simp only [read, Option.some.injEq, forall_eq', forall_prop_of_true some]
    rw [← cleared]
    have range := sound.range account
    constructor
    · intro kept
      have after := kept.sound.range account
      rw [credits, Function.update_self] at after
      refine ⟨kept.stays, ?_, fun elsewhere => ?_⟩
      · split at after <;> omega
      · have covered := kept.sound.covered account
        rw [credits, frozen, Function.update_self, Function.update_of_ne elsewhere] at covered
        split at covered <;> omega
    · rintro ⟨stays, capped, covers⟩
      refine ⟨⟨fun other => ?_, fun other => ?_⟩, stays, trivial⟩
      · rw [credits]
        by_cases here : other = account
        · rw [here, Function.update_self]
          split <;> refine ⟨?_, ?_⟩ <;> omega
        · rw [Function.update_of_ne here]
          exact sound.range other
      · rw [credits, frozen]
        by_cases own : other = addr
        · subst own
          rw [Function.update_self]
          by_cases here : other = account
          · rw [here, Function.update_self]
            show (0 : Int) ≤ _
            split <;> omega
          · rw [Function.update_of_ne here]
            exact (sound.range other).1
        · rw [Function.update_of_ne own]
          by_cases here : other = account
          · subst here
            rw [Function.update_self]
            have covered := covers own
            split <;> omega
          · rw [Function.update_of_ne here]
            exact sound.covered other

theorem creditsKept_of_refused (sound : CreditsSound k) {addr : String} {moduleBalance : Int} {sends : Bool}
    {error : CreditError} (refused : k.withdrawCredits addr moduleBalance sends = (.error error, k)) :
    CreditsKept addresses k (.withdrawCredits addr moduleBalance sends) := by
  have step : k.creditStep addresses (.withdrawCredits addr moduleBalance sends) = k := by
    rw [creditStep, refused]
  refine creditsKept_of_same sound (by rw [step]) (by rw [step]) ?_
  intro amount answered
  rw [refused] at answered
  cases answered

theorem withdrawCredits_iff (sound : CreditsSound k) (addr : String) (moduleBalance : Int) (sends : Bool) :
    CreditsKept addresses k (.withdrawCredits addr moduleBalance sends) ↔
      CreditMeets addresses k (.withdrawCredits addr moduleBalance sends) := by
  show _ ↔ (0 < k.credits addr → k.credits addr ≤ moduleBalance → sends = true →
    (k.frozenCredits addr).amount ≤ 0)
  have restored : Function.update (Function.update k.credits addr 0) addr (k.credits addr) = k.credits := by
    rw [Function.update_idem, Function.update_eq_self]
  by_cases positive : 0 < k.credits addr
  · have starts (sends : Bool) : k.withdrawCredits addr moduleBalance sends =
        if moduleBalance < k.credits addr then (.error .insufficientModuleBalance, k)
        else if sends = false then (.error .sendFailed, k)
        else (.ok (k.credits addr), { k with credits := Function.update k.credits addr 0 }) := by
      unfold withdrawCredits
      rw [if_neg (Int.not_le.2 positive)]
      dsimp only
      rw [restored]
    by_cases enough : k.credits addr ≤ moduleBalance
    · simp only [if_neg (Int.not_lt.2 enough)] at starts
      cases sends with
      | true =>
          have paid := starts true
          rw [if_neg Bool.true_eq_false_eq_False] at paid
          have step : k.creditStep addresses (.withdrawCredits addr moduleBalance true) =
              { k with credits := Function.update k.credits addr 0 } := by
            rw [creditStep, paid]
          have pays : PaysAvailable k (.withdrawCredits addr moduleBalance true) ↔
              k.credits addr ≤ k.getAvailableCredits addr := by
            show (∀ amount, (k.withdrawCredits addr moduleBalance true).1 = .ok amount →
              amount ≤ k.getAvailableCredits addr) ↔ _
            rw [paid]
            simp
          constructor
          · intro kept _ _ _
            have covered := kept.sound.covered addr
            rw [step] at covered
            simpa using covered
          · intro unfrozen
            have none := unfrozen positive enough rfl
            refine (creditsKept_iff_of_update sound (by rw [step]) (by rw [step]) (pays.2 ?_)).2
              ⟨Int.le_refl 0, by decide, none⟩
            unfold getAvailableCredits
            dsimp only
            split <;> omega
      | false => exact iff_of_true (creditsKept_of_refused sound (starts false)) fun _ _ sent => by cases sent
    · simp only [if_pos (Int.not_le.1 enough)] at starts
      exact iff_of_true (creditsKept_of_refused sound (starts sends)) fun _ covers => absurd covers enough
  · have refused : k.withdrawCredits addr moduleBalance sends = (.error .noCredits, k) :=
      if_pos (Int.not_lt.1 positive)
    exact iff_of_true (creditsKept_of_refused sound refused) fun some => absurd some positive

theorem applyCreditDecay_iff (sound : CreditsSound k) (currentEpoch : U64) :
    CreditsKept addresses k (.applyCreditDecay currentEpoch) ↔
      CreditMeets addresses k (.applyCreditDecay currentEpoch) := by
  show _ ↔ (k.lastDecayEpoch < currentEpoch →
    ∀ addr, (k.frozenCredits addr).amount ≤ k.credits addr - k.credits addr / 200)
  have step : k.creditStep addresses (.applyCreditDecay currentEpoch) = k.applyCreditDecay currentEpoch := rfl
  have pays : PaysAvailable k (.applyCreditDecay currentEpoch) := trivial
  by_cases applied : currentEpoch ≤ k.lastDecayEpoch
  · have same : k.applyCreditDecay currentEpoch = k := if_pos applied
    exact iff_of_true (creditsKept_of_same sound (by rw [step, same]) (by rw [step, same]) pays)
      fun later => absurd applied (BitVec.not_le.2 later)
  · have after : k.applyCreditDecay currentEpoch =
        { k with credits := fun addr => decayed (k.credits addr), lastDecayEpoch := currentEpoch } :=
      if_neg applied
    rw [creditsKept_iff_of_frozen (by rw [step, after]) pays, step, after]
    constructor
    · intro bounds _ addr
      rw [← decayed_eq (sound.range addr).1]
      exact (bounds addr).2.2
    · intro covers addr
      have range := sound.range addr
      have left := covers (BitVec.not_le.1 applied) addr
      show 0 ≤ decayed (k.credits addr) ∧ decayed (k.credits addr) ≤ defaultCreditCap ∧
        (k.frozenCredits addr).amount ≤ decayed (k.credits addr)
      rw [decayed_eq range.1]
      refine ⟨?_, ?_, left⟩ <;> omega

theorem applyLazyDecay_iff (sound : CreditsSound k) (addr : String) (currentEpoch : U64) :
    CreditsKept addresses k (.applyLazyDecay addr currentEpoch) ↔
      CreditMeets addresses k (.applyLazyDecay addr currentEpoch) := by
  show _ ↔ (k.lazyDecayMarker addr < currentEpoch →
    (k.frozenCredits addr).amount ≤ retained (k.credits addr) (currentEpoch - k.lazyDecayMarker addr))
  have step : k.creditStep addresses (.applyLazyDecay addr currentEpoch) =
      k.applyLazyDecay addr currentEpoch := rfl
  have pays : PaysAvailable k (.applyLazyDecay addr currentEpoch) := trivial
  have bounds := retained_bounds (sound.range addr).1 (currentEpoch - k.lazyDecayMarker addr)
  by_cases applied : currentEpoch ≤ k.lazyDecayMarker addr
  · have same : k.applyLazyDecay addr currentEpoch = k := if_pos applied
    exact iff_of_true (creditsKept_of_same sound (by rw [step, same]) (by rw [step, same]) pays)
      fun later => absurd applied (BitVec.not_le.2 later)
  · rw [forall_prop_of_true (BitVec.not_le.1 applied)]
    have range := sound.range addr
    have covered := sound.covered addr
    by_cases none : k.credits addr = 0
    · have frozen : (k.applyLazyDecay addr currentEpoch).frozenCredits = k.frozenCredits := by
        rw [applyLazyDecay, if_neg applied, if_pos none]
      have credits : (k.applyLazyDecay addr currentEpoch).credits = k.credits := by
        rw [applyLazyDecay, if_neg applied, if_pos none]
      refine iff_of_true (creditsKept_of_same sound ?_ ?_ pays) (by omega)
      · rw [step, frozen]
      · rw [step, credits]
    · have frozen : (k.applyLazyDecay addr currentEpoch).frozenCredits = k.frozenCredits := by
        rw [applyLazyDecay, if_neg applied, if_neg none]
      have credits : (k.applyLazyDecay addr currentEpoch).credits = Function.update k.credits addr
          (retained (k.credits addr) (currentEpoch - k.lazyDecayMarker addr)) := by
        rw [applyLazyDecay, if_neg applied, if_neg none]
      rw [creditsKept_iff_of_update sound (by rw [step, frozen]) (by rw [step, credits]) pays]
      exact ⟨fun kept => kept.2.2, fun left => ⟨bounds.1, by omega, left⟩⟩

structure CreditsStand (k : CreditKeeper) : Prop where
  sound : CreditsSound k
  address : ∀ addr, (k.frozenCredits addr).address = addr

theorem creditsKept_iff_meets (stand : CreditsStand k) (call : CreditCall) :
    CreditsKept addresses k call ↔ CreditMeets addresses k call := by
  cases call with
  | enqueueReward params c => exact enqueueReward_iff stand.sound params c
  | addCreditsWithOverflowCheck addr amount => exact addCredits_iff stand.sound addr amount
  | addCreditsWithCaps addr amount ctype epoch =>
      exact iff_of_true (addCreditsWithCaps_kept stand.sound addr amount ctype epoch) trivial
  | freezeCredits addr amount id => exact freezeCredits_iff stand.sound addr amount id
  | unfreezeCredits addr id => exact unfreezeCredits_iff stand.sound addr id (stand.address addr)
  | burnFrozenCredits addr id => exact burnFrozenCredits_iff stand.sound addr id (stand.address addr)
  | withdrawCredits addr moduleBalance sends => exact withdrawCredits_iff stand.sound addr moduleBalance sends
  | applyCreditDecay currentEpoch => exact applyCreditDecay_iff stand.sound currentEpoch
  | applyLazyDecay addr currentEpoch => exact applyLazyDecay_iff stand.sound addr currentEpoch

theorem frozen_orKept {result : Except FinalityError FinalityKeeper}
    (same : ∀ changed, result = .ok changed → changed.frozenCredits = k.frozenCredits) :
    (k.orKept result).frozenCredits = k.frozenCredits := by
  cases result with
  | error error => rfl
  | ok changed => exact same changed rfl

theorem frozen_addCredits {k changed : FinalityKeeper} {addr : String} {amount : Int}
    (ran : k.addCreditsWithOverflowCheck addr amount = .ok changed) :
    changed.frozenCredits = k.frozenCredits := by
  rcases addCreditsWithOverflowCheck_cases k addr amount with ⟨error, refused, -⟩ | ⟨added, -, -⟩
  · cases refused.symm.trans ran
  · obtain rfl := Except.ok.inj (added.symm.trans ran)
    rfl

theorem frozen_enqueueReward {k changed : FinalityKeeper} {c : Contribution}
    (ran : k.enqueueReward addresses c = .ok changed) : changed.frozenCredits = k.frozenCredits := by
  unfold FinalityKeeper.enqueueReward at ran
  dsimp only at ran
  split at ran
  · cases ran
  · split at ran
    · cases ran
    · split at ran
      · cases ran
      · exact frozen_addCredits ran

theorem frozen_addCreditsWithCaps (addr : String) (amount : Int) (ctype : String) (epoch : U64) :
    ((k.addCreditsWithCaps addr amount ctype epoch).toOption.getD k).frozenCredits = k.frozenCredits := by
  unfold addCreditsWithCaps
  split
  · rfl
  · split
    · rfl
    · split
      · rfl
      · split
        · rfl
        · rename_i ran
          exact frozen_addCredits ran

theorem address_step (address : ∀ addr, (k.frozenCredits addr).address = addr) (call : CreditCall)
    (other : String) :
    ((k.creditStep addresses call).frozenCredits other).address = other := by
  have updated (addr : String) (fc : FrozenCredits) (own : fc.address = addr) :
      (Function.update k.frozenCredits addr fc other).address = other := by
    by_cases here : other = addr
    · subst here
      rw [Function.update_self, own]
    · rw [Function.update_of_ne here, address]
  cases call with
  | enqueueReward params c =>
      let rewarding : FinalityKeeper := { k.toFinalityKeeper with params }
      have same : (k.orKept (rewarding.enqueueReward addresses c)).frozenCredits = k.frozenCredits :=
        frozen_orKept fun changed ran => @frozen_enqueueReward addresses rewarding changed c ran
      exact (congrArg (fun frozen => (frozen other).address) same).trans (address other)
  | addCreditsWithOverflowCheck addr amount =>
      rw [creditStep, frozen_orKept fun changed ran => frozen_addCredits ran, address]
  | addCreditsWithCaps addr amount ctype epoch => rw [creditStep, frozen_addCreditsWithCaps, address]
  | freezeCredits addr amount id => exact updated addr _ rfl
  | unfreezeCredits addr id =>
      show ((k.toFinalityKeeper.unfreezeCredits addr).frozenCredits other).address = other
      rcases unfreezeCredits_cases k.toFinalityKeeper addr (address addr) with ⟨-, same⟩ | ⟨-, after⟩
      · rw [same, address]
      · rw [after]
        exact updated addr _ (address addr)
  | burnFrozenCredits addr id =>
      show ((k.toFinalityKeeper.burnFrozenCredits addresses addr).frozenCredits other).address = other
      rcases @burnFrozenCredits_cases addresses k.toFinalityKeeper addr (address addr) with
        ⟨-, same⟩ | ⟨account, -, -, after⟩
      · rw [same, address]
      · rw [after]
        exact updated addr _ (address addr)
  | withdrawCredits addr moduleBalance sends =>
      show ((k.withdrawCredits addr moduleBalance sends).2.frozenCredits other).address = other
      unfold withdrawCredits
      dsimp only
      split
      · exact address other
      · split
        · exact address other
        · split <;> exact address other
  | applyCreditDecay currentEpoch =>
      show ((k.applyCreditDecay currentEpoch).frozenCredits other).address = other
      unfold applyCreditDecay
      split <;> exact address other
  | applyLazyDecay addr currentEpoch =>
      show ((k.applyLazyDecay addr currentEpoch).frozenCredits other).address = other
      unfold applyLazyDecay
      dsimp only
      split
      · exact address other
      · split <;> exact address other

end Kept

theorem stand_new (params : FinalityParams) : CreditsStand (new params) where
  sound := by
    have room : (0 : Int) ≤ defaultCreditCap := by decide
    exact ⟨fun _ => ⟨Int.le_refl 0, room⟩, fun _ => Int.le_refl 0⟩
  address _ := rfl

/-- Over any run of calls the ledger is in order after each just as long as every addition that is not made with
caps keeps to the cap, only one contribution at a time has credits of an address frozen, no more than there are,
each resolution is of that contribution, and no withdrawal or decay goes below what is frozen. -/
theorem credits_in_order_iff (addresses : Addresses) (params : FinalityParams) (run : List CreditCall) :
    Run.Along (creditStep addresses) (CreditsKept addresses) (new params) run ↔
      Run.Along (creditStep addresses) (CreditMeets addresses) (new params) run := by
  have preserved (k : CreditKeeper) (call : CreditCall) (stand : CreditsStand k)
      (kept : CreditsKept addresses k call) : CreditsStand (k.creditStep addresses call) :=
    ⟨kept.sound, address_step stand.address call⟩
  refine @Run.along_congr _ _ _ _ _ CreditsStand ?_ preserved _ (stand_new params) run
  intro k call stand
  exact creditsKept_iff_meets stand call

section Instance

def plainAddresses : Addresses := ⟨some, some, id⟩

def plainParams : FinalityParams := ⟨0, 1000, []⟩

/-- Credits beyond the cap; a second freeze that undoes a first; and a withdrawal of frozen credits. -/
theorem ledger_out_of_order :
    let after (run : List CreditCall) := run.foldl (creditStep plainAddresses) (new plainParams)
    let frozen := [.addCreditsWithOverflowCheck "a" 100, .freezeCredits "a" 60 1]
    (after [.addCreditsWithOverflowCheck "a" 100001]).credits "a" = 100001 ∧
    ((after (frozen ++ [.freezeCredits "a" 10 2])).frozenCredits "a").amount = 10 ∧
    ((after (frozen ++ [.freezeCredits "a" 10 2])).frozenCredits "a").contributionID = 2 ∧
    ((after frozen).withdrawCredits "a" 500 true).1.toOption = some 100 ∧
    ((after (frozen ++ [.withdrawCredits "a" 500 true])).frozenCredits "a").amount = 60 ∧
    (after (frozen ++ [.withdrawCredits "a" 500 true])).credits "a" = 0 := by
  decide

end Instance

end CreditKeeper

end Omniphi.Poc
