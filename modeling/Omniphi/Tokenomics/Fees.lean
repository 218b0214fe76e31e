import Omniphi.Lib.Outcome
import Omniphi.Tokenomics.Keeper

/-! All or nothing: processing the fees of a block and burning tokens. -/

namespace Omniphi.Tokenomics.TokenomicsKeeper

open Outcome

variable {k k' : TokenomicsKeeper} {refused : Call → Bool} {burner : Account} {amount : Int}

theorem truncated_share {ratio n : Int} (ratioNonneg : 0 ≤ ratio) (ratioLe : ratio ≤ legacyOneDec)
    (nonneg : 0 ≤ n) :
    0 ≤ LegacyDec.truncateInt (LegacyDec.mulInt ratio n) ∧
      LegacyDec.truncateInt (LegacyDec.mulInt ratio n) ≤ n := by
  have product : 0 ≤ ratio * n := Int.mul_nonneg ratioNonneg nonneg
  have bounded : ratio * n ≤ legacyOneDec * n := Int.mul_le_mul_of_nonneg_right ratioLe nonneg
  simp only [LegacyDec.truncateInt, LegacyDec.mulInt, Int.tdiv_eq_ediv_of_nonneg product]
  simp only [legacyOneDec, LegacyDec.precisionReuse] at *
  omega

section Splits

variable (k)

abbrev Adaptive : Prop := k.params.adaptiveBurnEnabled = true ∧ k.params.emergencyBurnOverride = false

def treasuryCut (n : Int) : Int := LegacyDec.truncateInt (LegacyDec.mulInt k.params.treasuryFeeRatio n)

def burnCut (n : Int) : Int :=
  if k.Adaptive then
    LegacyDec.truncateInt (LegacyDec.mulInt k.getCurrentBurnRatio (n - k.treasuryCut n))
  else n - k.treasuryCut n

def validatorCut (n : Int) : Int := n - k.treasuryCut n - k.burnCut n

variable {k}

theorem currentBurnRatio_bounds (valid : k.params.Valid) (on : k.Adaptive) :
    0 ≤ k.getCurrentBurnRatio ∧ k.getCurrentBurnRatio ≤ legacyOneDec := by
  obtain ⟨min, max, below, above, last⟩ := valid.burnRatios on.1
  have floor : (0 : Int) ≤ newDecWithPrec 70 2 := by decide
  have cap : newDecWithPrec 95 2 ≤ legacyOneDec := by decide
  rw [getCurrentBurnRatio, if_neg (by simp [on.1, on.2])]
  split
  · exact ⟨floor.trans (min.trans below), above.trans (max.trans cap)⟩
  · rename_i applied
    obtain ⟨low, high⟩ := last applied
    exact ⟨floor.trans (min.trans low), high.trans (max.trans cap)⟩

theorem cuts_nonneg (valid : k.params.Valid) (enabled : k.params.feeBurnEnabled = true) {n : Int}
    (nonneg : 0 ≤ n) : 0 ≤ k.treasuryCut n ∧ 0 ≤ k.burnCut n ∧ 0 ≤ k.validatorCut n := by
  obtain ⟨-, ratio, ratioLe, -⟩ := valid.feeRatios enabled
  obtain ⟨treasury, treasuryLe⟩ := truncated_share ratio ratioLe nonneg
  change 0 ≤ k.treasuryCut n at treasury
  change k.treasuryCut n ≤ n at treasuryLe
  refine ⟨treasury, ?_⟩
  rw [validatorCut, burnCut]
  split
  · rename_i on
    obtain ⟨low, high⟩ := currentBurnRatio_bounds valid on
    have share := truncated_share low high (Int.sub_nonneg_of_le treasuryLe)
    omega
  · omega

theorem dust_burned {burn treasury n : Int} (whole : burn + treasury = 1000000000000000000 * n) :
    (if n - burn / 10 ^ 18 - treasury / 10 ^ 18 > 0 then
        burn / 10 ^ 18 + (n - burn / 10 ^ 18 - treasury / 10 ^ 18)
      else burn / 10 ^ 18) = n - treasury / 10 ^ 18 ∧
    0 = n - treasury / 10 ^ 18 - (n - treasury / 10 ^ 18) := by
  constructor
  · split <;> omega
  · omega

theorem splitFees_eq (valid : k.params.Valid) (enabled : k.params.feeBurnEnabled = true) {n : Int}
    (nonneg : 0 ≤ n) : k.splitFees n = .ok ⟨k.burnCut n, k.treasuryCut n, k.validatorCut n⟩ := by
  obtain ⟨burnNonneg, treasuryNonneg, -, sum⟩ := valid.feeRatios enabled
  rw [splitFees]
  by_cases on : k.params.adaptiveBurnEnabled = true ∧ k.params.emergencyBurnOverride = false
  · rw [if_pos on, validatorCut, burnCut, if_pos on]
    rfl
  · rw [if_neg on, if_neg (not_not.2 sum), validatorCut, burnCut, if_neg on, fixedSplit]
    have whole : k.params.feeBurnRatio * n + k.params.treasuryFeeRatio * n = legacyOneDec * n := by
      rw [← Int.add_mul, sum]
    have burnProduct := Int.mul_nonneg burnNonneg nonneg
    have treasuryProduct := Int.mul_nonneg treasuryNonneg nonneg
    simp only [treasuryCut, LegacyDec.truncateInt, LegacyDec.mulInt, LegacyDec.precisionReuse,
      Int.tdiv_eq_ediv_of_nonneg burnProduct, Int.tdiv_eq_ediv_of_nonneg treasuryProduct, Except.ok.injEq,
      FeeSplit.mk.injEq, true_and]
    exact dust_burned whole

end Splits

section Steps

def withBank (k : TokenomicsKeeper) (bank : Bank) : TokenomicsKeeper := { k with bank := bank }

theorem send_covered {bank : Bank} {src : Account} (dst : Account) {n : Nat} (covers : n ≤ bank.balance src) :
    ∃ bank', bank.send src dst n = some bank' ∧
      ∀ a, bank'.balance a + (if a = src then n else 0) = bank.balance a + if a = dst then n else 0 := by
  have sends : (bank.send src dst n).isSome = true := Ledger.send_isSome covers
  obtain ⟨bank', sent⟩ := Option.isSome_iff_exists.1 sends
  exact ⟨bank', sent, (Ledger.send_spec sent).2⟩

theorem burn_covered {bank : Bank} {src : Account} {n : Nat} (covers : n ≤ bank.balance src) :
    ∃ bank', bank.burn src n = some bank' ∧
      ∀ a, bank'.balance a + (if a = src then n else 0) = bank.balance a := by
  obtain ⟨bank', burned⟩ := Option.isSome_iff_exists.1 (Ledger.burn_isSome covers)
  exact ⟨bank', burned, (Ledger.burn_spec burned).2⟩

theorem sendCoins_covered {off : Bool} {src : Account} (dst : Account) {n : Nat} (goes : off = false)
    (covers : n ≤ k.bank.balance src) :
    ∃ bank, k.sendCoins off src dst n = some (k.withBank bank) ∧
      ∀ a, bank.balance a + (if a = src then n else 0) = k.bank.balance a + if a = dst then n else 0 := by
  obtain ⟨bank, sent, moved⟩ := send_covered dst covers
  refine ⟨bank, ?_, moved⟩
  rw [sendCoins, goes, Int.toNat_natCast, sent]
  rfl

theorem collectFees_ok (goes : refused .collect = false) :
    ∃ bank, k.collectFees refused (k.bank.balance feeCollector) = .ok (k.withBank bank) ∧
      ∀ a, bank.balance a + (if a = feeCollector then k.bank.balance feeCollector else 0) =
        k.bank.balance a + if a = moduleAccount then k.bank.balance feeCollector else 0 := by
  obtain ⟨bank, sent, moved⟩ := sendCoins_covered moduleAccount goes (le_refl (k.bank.balance feeCollector))
  refine ⟨bank, ?_, moved⟩
  rw [collectFees, sent]

theorem burnCoins_ok {off : Bool} {n : Nat} (goes : off = false) (covers : n ≤ k.bank.balance moduleAccount) :
    ∃ bank, k.burnCoins off n = some (k.withBank bank) ∧
      ∀ a, bank.balance a + (if a = moduleAccount then n else 0) = k.bank.balance a := by
  obtain ⟨bank, burned, moved⟩ := burn_covered covers
  refine ⟨bank, ?_, moved⟩
  rw [TokenomicsKeeper.burnCoins, goes, Int.toNat_natCast, burned]
  rfl

theorem burnFees_ok (total : Int) {n : Nat} (goes : ¬ (0 < n ∧ refused .burn = true))
    (covers : n ≤ k.bank.balance moduleAccount) :
    ∃ bank, k.burnFees refused total n = .ok (k.withBank bank) ∧
      ∀ a, bank.balance a + (if a = moduleAccount then n else 0) = k.bank.balance a := by
  by_cases some_burned : 0 < n
  · have off : refused .burn = false := by simpa [some_burned] using goes
    obtain ⟨bank, burned, moved⟩ := burnCoins_ok off covers
    refine ⟨bank, ?_, moved⟩
    rw [burnFees, if_pos (Int.natCast_pos.2 some_burned), burned]
  · obtain rfl : n = 0 := by omega
    exact ⟨k.bank, rfl, by simp⟩

/-- What the treasury was paid is counted twice over. -/
def countInflow (k : TokenomicsKeeper) (amount : Int) : TokenomicsKeeper :=
  (k.incrementTreasuryInflows amount).incrementAccumulatedRedirectInflows amount

theorem countInflow_zero : k.countInflow 0 = k := by
  simp [countInflow, incrementTreasuryInflows, incrementAccumulatedRedirectInflows]

def RefusesTreasury (k : TokenomicsKeeper) (refused : Call → Bool) : Prop :=
  (refused .treasury || k.blockedAddrs k.getTreasuryAddress) = true

theorem sendToTreasury_covered {n : Nat} (goes : ¬ (0 < n ∧ k.RefusesTreasury refused)) (some_paid : 0 < n)
    (covers : n ≤ k.bank.balance moduleAccount) :
    ∃ bank, k.sendCoinsFromModuleToAccount (refused .treasury) k.getTreasuryAddress n = some (k.withBank bank) ∧
      ∀ a, bank.balance a + (if a = moduleAccount then n else 0) =
        k.bank.balance a + if a = k.getTreasuryAddress then n else 0 := by
  have off : (refused .treasury || k.blockedAddrs k.getTreasuryAddress) = false := by
    simpa [some_paid, RefusesTreasury] using goes
  exact sendCoins_covered k.getTreasuryAddress off covers

theorem payTreasury_ok {n : Nat} (goes : ¬ (0 < n ∧ k.RefusesTreasury refused))
    (covers : n ≤ k.bank.balance moduleAccount) :
    ∃ bank, k.payTreasury refused n = .ok ((k.withBank bank).countInflow n) ∧
      ∀ a, bank.balance a + (if a = moduleAccount then n else 0) =
        k.bank.balance a + if a = k.getTreasuryAddress then n else 0 := by
  by_cases some_paid : 0 < n
  · obtain ⟨bank, sent, moved⟩ := sendToTreasury_covered goes some_paid covers
    refine ⟨bank, ?_, moved⟩
    rw [payTreasury, if_pos (Int.natCast_pos.2 some_paid), sent]
    rfl
  · obtain rfl : n = 0 := by omega
    refine ⟨k.bank, ?_, by simp⟩
    rw [Int.natCast_zero, countInflow_zero]
    rfl

theorem returnToValidators_ok {n : Nat} (goes : ¬ (0 < n ∧ refused .validators = true))
    (covers : n ≤ k.bank.balance moduleAccount) :
    ∃ bank, k.returnToValidators refused n = .ok (k.withBank bank) ∧
      ∀ a, bank.balance a + (if a = moduleAccount then n else 0) =
        k.bank.balance a + if a = feeCollector then n else 0 := by
  by_cases some_returned : 0 < n
  · have off : refused .validators = false := by simpa [some_returned] using goes
    obtain ⟨bank, sent, moved⟩ := sendCoins_covered feeCollector off covers
    refine ⟨bank, ?_, moved⟩
    rw [returnToValidators, if_pos (Int.natCast_pos.2 some_returned), sent]
  · obtain rfl : n = 0 := by omega
    exact ⟨k.bank, rfl, by simp⟩

end Steps

section AllOrNothing

def AllOrNothing {α : Type} (k : TokenomicsKeeper) (settled : α → Prop) : Except Failed α → Prop
  | .ok result => settled result
  | .error failed => failed.kept = k

def countFees (k : TokenomicsKeeper) (burned treasury : Int) : TokenomicsKeeper :=
  ((((k.countInflow treasury).countBurn burned).incrementTotalFeesBurned burned).incrementTotalFeesToTreasury
    treasury).incrementBurnsBySource .posGas burned

/-- All that was collected is burned, paid to the treasury or given back, and counted as that. -/
def FeesSettled (k k' : TokenomicsKeeper) : Prop :=
  ∃ (burned treasury validators : Nat) (bank : Bank),
    burned + treasury + validators = k.bank.balance feeCollector ∧
    (∀ a, bank.balance a + (if a = feeCollector then k.bank.balance feeCollector else 0) =
      k.bank.balance a + (if a = k.getTreasuryAddress then treasury else 0) +
        if a = feeCollector then validators else 0) ∧
    k' = (k.withBank bank).countFees burned treasury

/-- Either no fee leaves the collector for good, or every call that is made goes through and the supply
counter covers what is burned. -/
def FeesGoThrough (k : TokenomicsKeeper) (refused : Call → Bool) : Prop :=
  let n : Int := k.bank.balance feeCollector
  k.params.feeBurnEnabled = false ∨ n = 0 ∨ refused .collect = true ∨
    (0 < k.burnCut n ∧ refused .burn = true ∧ refused .restore = false) ∨
    (¬ (0 < k.burnCut n ∧ refused .burn = true) ∧ ¬ (0 < k.treasuryCut n ∧ k.RefusesTreasury refused) ∧
      ¬ (0 < k.validatorCut n ∧ refused .validators = true) ∧
      (k.burnCut n ≤ k.currentSupply ∨ k.validatorCut n = n))

-- Fees that are left where they are count as returned.
theorem untouched_settled : FeesSettled k k := by
  refine ⟨0, 0, k.bank.balance feeCollector, k.bank, by omega, fun a => by simp, ?_⟩
  simp [countFees, countInflow, countBurn, incrementTreasuryInflows, incrementAccumulatedRedirectInflows,
    incrementTotalFeesBurned, incrementTotalFeesToTreasury, incrementBurnsBySource, withBank]

def feeSteps (k : TokenomicsKeeper) (refused : Call → Bool) (total burn treasury validators : Int) :
    Except Failed TokenomicsKeeper := do
  let collected ← k.collectFees refused total
  let burned ← collected.burnFees refused total burn
  let paid ← burned.payTreasury refused treasury
  let returned ← paid.returnToValidators refused validators
  returned.recordFees burn treasury

theorem processBlockFees_eq (valid : k.params.Valid) (enabled : k.params.feeBurnEnabled = true)
    (collected : k.bank.balance feeCollector ≠ 0) :
    k.processBlockFees refused =
      let n : Int := k.bank.balance feeCollector
      k.feeSteps refused n (k.burnCut n) (k.treasuryCut n) (k.validatorCut n) := by
  rw [processBlockFees, if_neg (by simp [enabled])]
  dsimp only
  rw [if_neg (Int.natCast_ne_zero.2 collected), splitFees_eq valid enabled (Int.natCast_nonneg _)]
  rfl

theorem withBank_ne {bank : Bank} {a : Account}
    (differs : bank.balance a ≠ k.bank.balance a) : k.withBank bank ≠ k :=
  fun same => differs (congrArg (fun k : TokenomicsKeeper => k.bank.balance a) same)

theorem withBank_countInflow_ne {bank : Bank} {a : Account} {n : Int}
    (differs : bank.balance a ≠ k.bank.balance a) : (k.withBank bank).countInflow n ≠ k :=
  fun same => differs (congrArg (fun k : TokenomicsKeeper => k.bank.balance a) same)

theorem feeSteps_allOrNothing {b t v : Nat} (sum : b + t + v = k.bank.balance feeCollector) (goes : refused .collect = false) :
    AllOrNothing k (FeesSettled k) (k.feeSteps refused (k.bank.balance feeCollector) b t v) ↔
      (0 < b ∧ refused .burn = true ∧ refused .restore = false) ∨
        (¬ (0 < b ∧ refused .burn = true) ∧ ¬ (0 < t ∧ k.RefusesTreasury refused) ∧
          ¬ (0 < v ∧ refused .validators = true) ∧
          ((b : Int) ≤ k.currentSupply ∨ v = k.bank.balance feeCollector)) := by
  have apart : feeCollector ≠ moduleAccount := by decide
  obtain ⟨bank₁, collects, moved₁⟩ := collectFees_ok (k := k) goes
  have emptied := moved₁ feeCollector
  have filled := moved₁ moduleAccount
  rw [if_pos rfl, if_neg apart] at emptied
  rw [if_neg apart.symm, if_pos rfl] at filled
  by_cases burnStops : 0 < b ∧ refused .burn = true
  · have stops : (k.withBank bank₁).burnFees refused (k.bank.balance feeCollector) b =
        .error ⟨.burnFees, (k.withBank bank₁).orElseKeep ((k.withBank bank₁).sendCoins (refused .restore)
          moduleAccount feeCollector (k.bank.balance feeCollector))⟩ := by
      rw [burnFees, if_pos (Int.natCast_pos.2 burnStops.1), TokenomicsKeeper.burnCoins, if_pos burnStops.2]
    rw [feeSteps, bind_ok collects, bind_error stops]
    cases restores : refused .restore with
    | true =>
      refine iff_of_false (withBank_ne (a := feeCollector) (by omega)) ?_
      simp [burnStops]
    | false =>
      refine iff_of_true ?_ (Or.inl ⟨burnStops.1, burnStops.2, rfl⟩)
      obtain ⟨bank₂, sent, moved₂⟩ := sendCoins_covered feeCollector (Eq.refl false)
        (show k.bank.balance feeCollector ≤ (k.withBank bank₁).bank.balance moduleAccount by
          show _ ≤ bank₁.balance moduleAccount
          omega)
      have back : bank₂ = k.bank := by
        refine congrArg Ledger.mk (funext fun a => ?_)
        show bank₂.balance a = k.bank.balance a
        have into := moved₁ a
        have out := moved₂ a
        change bank₂.balance a + _ = bank₁.balance a + _ at out
        omega
      rw [sent, back]
      rfl
  have before (rest : Prop) : (0 < b ∧ refused .burn = true ∧ refused .restore = false) ∨
      (¬ (0 < b ∧ refused .burn = true) ∧ rest) ↔ rest := by
    constructor
    · rintro (⟨some_burned, off, -⟩ | ⟨-, holds⟩)
      · exact absurd ⟨some_burned, off⟩ burnStops
      · exact holds
    · exact fun holds => Or.inr ⟨burnStops, holds⟩
  rw [before]
  obtain ⟨bank₂, burns, moved₂⟩ := burnFees_ok (k.bank.balance feeCollector) burnStops
    (show b ≤ (k.withBank bank₁).bank.balance moduleAccount by
      show _ ≤ bank₁.balance moduleAccount
      omega)
  change ∀ a, bank₂.balance a + _ = bank₁.balance a at moved₂
  change _ = Except.ok (k.withBank bank₂) at burns
  have emptied₂ := moved₂ feeCollector
  have filled₂ := moved₂ moduleAccount
  rw [if_neg apart] at emptied₂
  rw [if_pos rfl] at filled₂
  by_cases treasuryStops : 0 < t ∧ k.RefusesTreasury refused
  · have off : (refused .treasury ||
        (k.withBank bank₂).blockedAddrs (k.withBank bank₂).getTreasuryAddress) = true := treasuryStops.2
    have stops : (k.withBank bank₂).payTreasury refused t = .error ⟨.sendTreasury, k.withBank bank₂⟩ := by
      rw [payTreasury, if_pos (Int.natCast_pos.2 treasuryStops.1), sendCoinsFromModuleToAccount, sendCoins,
        if_pos off]
    rw [feeSteps, bind_ok collects, bind_ok burns, bind_error stops]
    exact iff_of_false (withBank_ne (a := feeCollector) (by omega)) fun holds => holds.1 treasuryStops
  obtain ⟨bank₃, pays, moved₃⟩ := payTreasury_ok (k := k.withBank bank₂) treasuryStops
    (show t ≤ bank₂.balance moduleAccount by omega)
  change ∀ a, bank₃.balance a + _ = bank₂.balance a + if a = k.getTreasuryAddress then t else 0 at moved₃
  change _ = Except.ok ((k.withBank bank₃).countInflow t) at pays
  have emptied₃ := moved₃ feeCollector
  have filled₃ := moved₃ moduleAccount
  rw [if_neg apart] at emptied₃
  rw [if_pos rfl] at filled₃
  by_cases validatorsStop : 0 < v ∧ refused .validators = true
  · have stops : ((k.withBank bank₃).countInflow t).returnToValidators refused v =
        .error ⟨.returnValidators, (k.withBank bank₃).countInflow t⟩ := by
      rw [returnToValidators, if_pos (Int.natCast_pos.2 validatorsStop.1), sendCoins, if_pos validatorsStop.2]
    rw [feeSteps, bind_ok collects, bind_ok burns, bind_ok pays, bind_error stops]
    refine iff_of_false (withBank_countInflow_ne (a := feeCollector) ?_) fun holds => holds.2.1 validatorsStop
    split at emptied₃ <;> omega
  obtain ⟨bank₄, returns, moved₄⟩ := returnToValidators_ok (k := (k.withBank bank₃).countInflow t)
    validatorsStop (show v ≤ bank₃.balance moduleAccount by split at filled₃ <;> omega)
  change ∀ a, bank₄.balance a + _ = bank₃.balance a + _ at moved₄
  change _ = Except.ok ((k.withBank bank₄).countInflow t) at returns
  rw [feeSteps, bind_ok collects, bind_ok burns, bind_ok pays, bind_ok returns, recordFees]
  have emptied₄ := moved₄ feeCollector
  rw [if_neg apart, if_pos rfl] at emptied₄
  change AllOrNothing k (FeesSettled k) (if k.currentSupply < b then _ else _) ↔ _
  have moved : ∀ a, bank₄.balance a + (if a = feeCollector then k.bank.balance feeCollector else 0) =
      k.bank.balance a + (if a = k.getTreasuryAddress then t else 0) +
        if a = feeCollector then v else 0 := by
    intro a
    have first := moved₁ a
    have second := moved₂ a
    have third := moved₃ a
    have fourth := moved₄ a
    rcases eq_or_ne a moduleAccount with rfl | away
    · rw [if_neg apart.symm, if_pos rfl] at first
      rw [if_pos rfl] at second third
      rw [if_pos rfl, if_neg apart.symm] at fourth
      rw [if_neg apart.symm, if_neg apart.symm]
      omega
    · rw [if_neg away] at first second third fourth
      omega
  split
  · rename_i short
    by_cases whole : v = k.bank.balance feeCollector
    · refine iff_of_true ?_ ⟨treasuryStops, validatorsStop, Or.inr whole⟩
      obtain rfl : b = 0 := by omega
      obtain rfl : t = 0 := by omega
      have same : bank₄ = k.bank := by
        refine congrArg Ledger.mk (funext fun a => ?_)
        show bank₄.balance a = k.bank.balance a
        have := moved a
        rw [whole, ite_self] at this
        omega
      show (k.withBank bank₄).countInflow 0 = k
      rw [countInflow_zero, same]
      rfl
    · refine iff_of_false ?_ fun holds => whole (holds.2.2.resolve_left (by omega))
      have left := moved feeCollector
      rw [if_pos rfl, if_pos rfl] at left
      rcases Nat.eq_zero_or_pos t with rfl | paid
      · rw [ite_self] at left
        exact withBank_countInflow_ne (a := feeCollector) (by omega)
      · intro same
        have inflows : k.treasuryInflows + (t : Int) = k.treasuryInflows :=
          congrArg TokenomicsKeeper.treasuryInflows same
        omega
  · rename_i enough
    refine iff_of_true ⟨b, t, v, bank₄, sum, moved, rfl⟩ ⟨treasuryStops, validatorsStop, Or.inl (by omega)⟩

theorem processBlockFees_allOrNothing (valid : k.params.Valid) :
    AllOrNothing k (FeesSettled k) (k.processBlockFees refused) ↔ k.FeesGoThrough refused := by
  by_cases enabled : k.params.feeBurnEnabled = true
  · by_cases collected : k.bank.balance feeCollector = 0
    · refine iff_of_true ?_ (Or.inr (Or.inl (Int.natCast_eq_zero.2 collected)))
      have value : k.processBlockFees refused = .ok k := by
        rw [processBlockFees, if_neg (by simp [enabled])]
        dsimp only
        rw [if_pos (Int.natCast_eq_zero.2 collected)]
        rfl
      rw [value]
      exact untouched_settled
    · rw [processBlockFees_eq valid enabled collected, FeesGoThrough]
      dsimp only
      obtain ⟨treasuryNonneg, burnNonneg, validatorNonneg⟩ :=
        cuts_nonneg valid enabled (Int.natCast_nonneg (k.bank.balance feeCollector))
      have whole : k.burnCut (k.bank.balance feeCollector) + k.treasuryCut (k.bank.balance feeCollector) +
          k.validatorCut (k.bank.balance feeCollector) = k.bank.balance feeCollector := by
        rw [validatorCut]
        omega
      generalize k.burnCut (k.bank.balance feeCollector) = burn at *
      generalize k.treasuryCut (k.bank.balance feeCollector) = treasury at *
      generalize k.validatorCut (k.bank.balance feeCollector) = validators at *
      lift burn to Nat using burnNonneg with b
      lift treasury to Nat using treasuryNonneg with t
      lift validators to Nat using validatorNonneg with v
      cases goes : refused .collect with
      | true =>
        have stops : k.collectFees refused (k.bank.balance feeCollector) = .error ⟨.collectFees, k⟩ := by
          rw [collectFees, sendCoins, if_pos goes]
        rw [feeSteps, bind_error stops]
        exact iff_of_true rfl (Or.inr (Or.inr (Or.inl rfl)))
      | false =>
        rw [feeSteps_allOrNothing (by omega) goes]
        simp [enabled, collected]
  · refine iff_of_true ?_ (Or.inl (by simpa using enabled))
    have value : k.processBlockFees refused = .ok k := by
      rw [processBlockFees, if_pos (by simpa using enabled)]
      rfl
    rw [value]
    exact untouched_settled

end AllOrNothing

section Burning

variable {ctx : Ctx} {source : BurnSource} {chainID : String}

def redirectCut (k : TokenomicsKeeper) (amount : Int) : Int :=
  LegacyDec.truncateInt (LegacyDec.mulInt k.params.treasuryBurnRedirect amount)

theorem fifth_rounded {share amount : Int} (nonneg : 0 ≤ share)
    (bounded : share ≤ 200000000000000000 * amount) (positive : 0 < amount) :
    0 ≤ share / 10 ^ 18 ∧ share / 10 ^ 18 < amount := by
  omega

theorem redirectCut_bounds (valid : k.params.Valid) (positive : 0 < amount) :
    0 ≤ k.redirectCut amount ∧ k.redirectCut amount < amount := by
  obtain ⟨nonneg, le⟩ := valid.redirect
  have product := Int.mul_nonneg nonneg positive.le
  have bounded : k.params.treasuryBurnRedirect * amount ≤ 200000000000000000 * amount :=
    Int.mul_le_mul_of_nonneg_right le positive.le
  rw [redirectCut, LegacyDec.truncateInt, LegacyDec.mulInt, Int.tdiv_eq_ediv_of_nonneg product]
  exact fifth_rounded product bounded positive

def countTokensBurned (k : TokenomicsKeeper) (ctx : Ctx) (burner : Account) (amount burned redirected : Int)
    (source : BurnSource) (chainID : String) : TokenomicsKeeper :=
  ((k.incrementTreasuryInflows redirected).countBurn burned).storeBurnRecord ctx burner amount burned
    redirected source chainID

/-- All that was taken from the burner is burned or paid to the treasury, and counted as that. -/
def BurnSettled (k : TokenomicsKeeper) (ctx : Ctx) (burner : Account) (amount : Int) (source : BurnSource)
    (chainID : String) (result : TokenomicsKeeper × Int × Int) : Prop :=
  ∃ (burned redirected : Nat) (bank : Bank),
    result = ((k.withBank bank).countTokensBurned ctx burner amount burned redirected source chainID,
      (burned : Int), (redirected : Int)) ∧
    (burned + redirected : Int) = amount ∧
    ∀ a, bank.balance a + (if a = burner then burned + redirected else 0) =
      k.bank.balance a + if a = k.getTreasuryAddress then redirected else 0

/-- Either nothing stays taken from the burner, or every call that is made goes through and the supply
counter covers what is burned. -/
def BurnGoesThrough (k : TokenomicsKeeper) (refused : Call → Bool) (burner : Account) (amount : Int) :
    Prop :=
  amount ≤ 0 ∨ (k.bank.balance burner : Int) < amount ∨ refused .collect = true ∨
    (refused .burn = true ∧
      ((refused .restore || k.blockedAddrs burner) = false ∨ burner = moduleAccount)) ∨
    (refused .burn = false ∧ ¬ (0 < k.redirectCut amount ∧ k.RefusesTreasury refused) ∧
      amount - k.redirectCut amount ≤ k.currentSupply)

def burnSteps (k : TokenomicsKeeper) (refused : Call → Bool) (ctx : Ctx) (burner : Account)
    (amount burn redirect : Int) (source : BurnSource) (chainID : String) :
    Except Failed (TokenomicsKeeper × Int × Int) := do
  let taken ← k.takeFromBurner refused burner amount
  let burned ← taken.burnPortion refused burner amount burn
  let paid ← burned.payRedirect refused redirect
  let recorded ← paid.recordBurn ctx burner amount burn redirect source chainID
  return (recorded, burn, redirect)

theorem incrementTreasuryInflows_zero : k.incrementTreasuryInflows 0 = k := by
  simp [incrementTreasuryInflows]

theorem takeFromBurner_ok {n : Nat} (goes : refused .collect = false) (covers : n ≤ k.bank.balance burner) :
    ∃ bank, k.takeFromBurner refused burner n = .ok (k.withBank bank) ∧
      ∀ a, bank.balance a + (if a = burner then n else 0) =
        k.bank.balance a + if a = moduleAccount then n else 0 := by
  obtain ⟨bank, sent, moved⟩ := sendCoins_covered moduleAccount goes covers
  refine ⟨bank, ?_, moved⟩
  rw [takeFromBurner, sent]

theorem payRedirect_ok {n : Nat} (goes : ¬ (0 < n ∧ k.RefusesTreasury refused))
    (covers : n ≤ k.bank.balance moduleAccount) :
    ∃ bank, k.payRedirect refused n = .ok ((k.withBank bank).incrementTreasuryInflows n) ∧
      ∀ a, bank.balance a + (if a = moduleAccount then n else 0) =
        k.bank.balance a + if a = k.getTreasuryAddress then n else 0 := by
  by_cases some_paid : 0 < n
  · obtain ⟨bank, sent, moved⟩ := sendToTreasury_covered goes some_paid covers
    refine ⟨bank, ?_, moved⟩
    rw [payRedirect, if_pos (Int.natCast_pos.2 some_paid), sent]
  · obtain rfl : n = 0 := by omega
    refine ⟨k.bank, ?_, by simp⟩
    rw [Int.natCast_zero, incrementTreasuryInflows_zero]
    rfl

theorem burnSteps_allOrNothing {b r : Nat} (some_burned : 0 < b) (covers : b + r ≤ k.bank.balance burner)
    (goes : refused .collect = false) :
    AllOrNothing k (BurnSettled k ctx burner ((b + r : Nat) : Int) source chainID)
        (k.burnSteps refused ctx burner ((b + r : Nat) : Int) b r source chainID) ↔
      (refused .burn = true ∧
          ((refused .restore || k.blockedAddrs burner) = false ∨ burner = moduleAccount)) ∨
        (refused .burn = false ∧ ¬ (0 < r ∧ k.RefusesTreasury refused) ∧ (b : Int) ≤ k.currentSupply) := by
  obtain ⟨bank₁, takes, moved₁⟩ := takeFromBurner_ok goes covers
  have filled := moved₁ moduleAccount
  rw [if_pos rfl] at filled
  have funded : b + r ≤ bank₁.balance moduleAccount := by
    split at filled
    · rename_i same
      rw [← same] at covers
      omega
    · omega
  cases burnStops : refused .burn with
  | true =>
    have stops : (k.withBank bank₁).burnPortion refused burner ((b + r : Nat) : Int) b =
        .error ⟨.burnCoins, (k.withBank bank₁).orElseKeep ((k.withBank bank₁).sendCoinsFromModuleToAccount
          (refused .restore) burner ((b + r : Nat) : Int))⟩ := by
      rw [burnPortion, if_pos (Int.natCast_pos.2 some_burned), TokenomicsKeeper.burnCoins, if_pos burnStops]
    rw [burnSteps, bind_ok takes, bind_error stops]
    simp only [true_and, Bool.true_eq_false, false_and, or_false]
    cases restores : (refused .restore || k.blockedAddrs burner) with
    | true =>
      have off : (refused .restore || (k.withBank bank₁).blockedAddrs burner) = true := restores
      rw [sendCoinsFromModuleToAccount, sendCoins, if_pos off]
      by_cases own : burner = moduleAccount
      · refine iff_of_true ?_ (Or.inr own)
        have same : bank₁ = k.bank := by
          refine congrArg Ledger.mk (funext fun a => ?_)
          show bank₁.balance a = k.bank.balance a
          have into := moved₁ a
          rw [own] at into
          omega
        rw [same]
        rfl
      · refine iff_of_false (withBank_ne (a := burner) ?_) (by simpa using own)
        have taken := moved₁ burner
        rw [if_pos rfl, if_neg own] at taken
        omega
    | false =>
      refine iff_of_true ?_ (Or.inl rfl)
      obtain ⟨bank₂, sent, moved₂⟩ := sendCoins_covered (k := k.withBank bank₁) burner restores funded
      have back : bank₂ = k.bank := by
        refine congrArg Ledger.mk (funext fun a => ?_)
        show bank₂.balance a = k.bank.balance a
        have into := moved₁ a
        have out := moved₂ a
        change bank₂.balance a + _ = bank₁.balance a + _ at out
        omega
      have restored : (k.withBank bank₁).sendCoinsFromModuleToAccount (refused .restore) burner
          ((b + r : Nat) : Int) = some (k.withBank bank₂) := sent
      rw [restored, back]
      rfl
  | false =>
    simp only [Bool.false_eq_true, false_and, false_or, true_and]
    obtain ⟨bank₂, burns, moved₂⟩ := burnCoins_ok (k := k.withBank bank₁) burnStops
      (show b ≤ bank₁.balance moduleAccount by omega)
    change ∀ a, bank₂.balance a + _ = bank₁.balance a at moved₂
    have burned : (k.withBank bank₁).burnPortion refused burner ((b + r : Nat) : Int) b =
        .ok (k.withBank bank₂) := by
      rw [burnPortion, if_pos (Int.natCast_pos.2 some_burned), burns]
      rfl
    have filled₂ := moved₂ moduleAccount
    rw [if_pos rfl] at filled₂
    have taken := moved₁ burner
    have taken₂ := moved₂ burner
    rw [if_pos rfl] at taken
    by_cases treasuryStops : 0 < r ∧ k.RefusesTreasury refused
    · have off : (refused .treasury ||
          (k.withBank bank₂).blockedAddrs (k.withBank bank₂).getTreasuryAddress) = true := treasuryStops.2
      have stops : (k.withBank bank₂).payRedirect refused r = .error ⟨.sendRedirect, k.withBank bank₂⟩ := by
        rw [payRedirect, if_pos (Int.natCast_pos.2 treasuryStops.1), sendCoinsFromModuleToAccount, sendCoins,
          if_pos off]
      rw [burnSteps, bind_ok takes, bind_ok burned, bind_error stops]
      refine iff_of_false (withBank_ne (a := burner) ?_) fun holds => holds.1 treasuryStops
      split at taken <;> split at taken₂ <;> omega
    obtain ⟨bank₃, pays, moved₃⟩ := payRedirect_ok (k := k.withBank bank₂) treasuryStops
      (show r ≤ bank₂.balance moduleAccount by omega)
    change ∀ a, bank₃.balance a + _ = bank₂.balance a + if a = k.getTreasuryAddress then r else 0 at moved₃
    change _ = Except.ok ((k.withBank bank₃).incrementTreasuryInflows r) at pays
    have moved : ∀ a, bank₃.balance a + (if a = burner then b + r else 0) =
        k.bank.balance a + if a = k.getTreasuryAddress then r else 0 := by
      intro a
      have first := moved₁ a
      have second := moved₂ a
      have third := moved₃ a
      rcases eq_or_ne a moduleAccount with rfl | away
      · rw [if_pos rfl] at second third
        rw [if_pos rfl] at first
        omega
      · rw [if_neg away] at first second third
        omega
    rw [burnSteps, bind_ok takes, bind_ok burned, bind_ok pays, recordBurn]
    change AllOrNothing k _ (bind (if k.currentSupply < b then _ else _) _) ↔ _
    split
    · rename_i short
      refine iff_of_false ?_ fun holds => absurd holds.2 (by omega)
      intro same
      have left := moved burner
      rw [if_pos rfl] at left
      have kept : bank₃.balance burner = k.bank.balance burner :=
        congrArg (fun k : TokenomicsKeeper => k.bank.balance burner) same
      split at left <;> omega
    · exact iff_of_true ⟨b, r, bank₃, rfl, (Int.natCast_add b r).symm, moved⟩ ⟨treasuryStops, by omega⟩

theorem burnTokens_allOrNothing (valid : k.params.Valid) :
    AllOrNothing k (BurnSettled k ctx burner amount source chainID)
        (k.burnTokens refused ctx burner amount source chainID) ↔ k.BurnGoesThrough refused burner amount := by
  rw [burnTokens, BurnGoesThrough]
  by_cases positive : amount ≤ 0
  · rw [if_pos positive]
    exact iff_of_true rfl (Or.inl positive)
  rw [if_neg positive]
  by_cases poor : (k.bank.balance burner : Int) < amount
  · rw [if_pos poor]
    exact iff_of_true rfl (Or.inr (Or.inl poor))
  rw [if_neg poor]
  cases goes : refused .collect with
  | true =>
    have stops : k.takeFromBurner refused burner amount = .error ⟨.takeCoins, k⟩ := by
      rw [takeFromBurner, sendCoins, if_pos goes]
    rw [bind_error stops]
    exact iff_of_true rfl (Or.inr (Or.inr (Or.inl rfl)))
  | false =>
    obtain ⟨redirectNonneg, redirectLt⟩ := redirectCut_bounds valid (Int.not_le.1 positive)
    simp only [positive, poor, false_or, Bool.false_eq_true]
    change AllOrNothing k _ (k.burnSteps refused ctx burner amount (amount - k.redirectCut amount)
      (k.redirectCut amount) source chainID) ↔ _
    generalize k.redirectCut amount = redirect at *
    obtain ⟨b, bEq⟩ := Int.eq_ofNat_of_zero_le (Int.sub_nonneg_of_le redirectLt.le)
    lift redirect to Nat using redirectNonneg with r
    obtain rfl : amount = ((b + r : Nat) : Int) := by omega
    rw [bEq, burnSteps_allOrNothing (by omega) (by omega) goes, Int.natCast_pos]

end Burning

section Settled

/-- Processing fees and burning tokens are all or nothing just when no call is refused that comes after
tokens were moved for good, and the supply counter covers the burn. -/
theorem settles_iff_goes_through (k : TokenomicsKeeper) (refused : Call → Bool) (valid : k.params.Valid) :
    (AllOrNothing k (FeesSettled k) (k.processBlockFees refused) ↔ k.FeesGoThrough refused) ∧
      ∀ ctx burner amount source chainID,
        AllOrNothing k (BurnSettled k ctx burner amount source chainID)
          (k.burnTokens refused ctx burner amount source chainID) ↔ k.BurnGoesThrough refused burner amount :=
  ⟨processBlockFees_allOrNothing valid, fun _ _ _ _ _ => burnTokens_allOrNothing valid⟩

section BlockedTreasury

def distribution : Account := .module "distribution"

def blockedTreasury : TokenomicsKeeper where
  authority := "gov"
  ibcWired := false
  params := defaultParams
  bank := ⟨fun a => if a = feeCollector then 1000 else 0⟩
  blockedAddrs := fun a => decide (a = distribution)
  treasuryAddress := some distribution
  currentSupply := 375000000000000
  totalMinted := 375000000000000
  totalBurned := 0
  treasuryInflows := 0
  accumulatedRedirectInflows := 0
  totalFeesBurned := 0
  totalFeesToTreasury := 0
  burnsBySource := fun _ => 0
  burnsByChain := fun _ => 0
  burnRecords := []
  nextBurnID := 1
  processedBurnReports := []

theorem blockedTreasury_valid : blockedTreasury.params.Valid := by decide +kernel

/-- The block ends with the fees gone from the collector, most of them burned, and nothing counted. -/
theorem blocked_treasury_strands_fees :
    blockedTreasury.params.Valid ∧
      ¬ AllOrNothing blockedTreasury (FeesSettled blockedTreasury)
        (blockedTreasury.processBlockFees fun _ => false) ∧
      (blockedTreasury.endBlock fun _ => false).bank.balance feeCollector = 0 ∧
      (blockedTreasury.endBlock fun _ => false).bank.balance moduleAccount = 100 ∧
      (blockedTreasury.endBlock fun _ => false).totalBurned = 0 := by
  refine ⟨blockedTreasury_valid, ?_, by decide +kernel, by decide +kernel, by decide +kernel⟩
  rw [processBlockFees_allOrNothing blockedTreasury_valid, FeesGoThrough, RefusesTreasury]
  decide +kernel

end BlockedTreasury

theorem settles_iff_goes_through_blockedTreasury :
    blockedTreasury.params.Valid ∧
      (AllOrNothing blockedTreasury (FeesSettled blockedTreasury)
        (blockedTreasury.processBlockFees fun _ => false) ↔ blockedTreasury.FeesGoThrough fun _ => false) :=
  ⟨by decide +kernel, (settles_iff_goes_through blockedTreasury (fun _ => false) (by decide +kernel)).1⟩

end Settled

end Omniphi.Tokenomics.TokenomicsKeeper
