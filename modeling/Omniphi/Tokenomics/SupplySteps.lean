import Omniphi.Decimals
import Omniphi.Lib.LedgerTotal
import Omniphi.Tokenomics.RewardRuns
import Omniphi.Tokenomics.Supply

/-! What each call does to the supply: when it moves a counter, and that it changes nothing of the supply
when it does not. -/

namespace Omniphi.Tokenomics

open Outcome

namespace TokenomicsKeeper

variable {k k' : TokenomicsKeeper} {amount : Int}

section Drained

structure Drained (k k' : TokenomicsKeeper) : Prop where
  params : k'.params = k.params
  currentSupply : k'.currentSupply = k.currentSupply
  totalMinted : k'.totalMinted = k.totalMinted
  totalBurned : k'.totalBurned = k.totalBurned
  blockedAddrs : k'.blockedAddrs = k.blockedAddrs
  treasuryAddress : k'.treasuryAddress = k.treasuryAddress
  bank : k.bank.Finite → k'.bank.Finite ∧ k'.bank.total ≤ k.bank.total

theorem Drained.refl (k : TokenomicsKeeper) : Drained k k :=
  ⟨rfl, rfl, rfl, rfl, rfl, rfl, fun finite => ⟨finite, le_rfl⟩⟩

theorem Drained.trans {k'' : TokenomicsKeeper} (first : Drained k k') (second : Drained k' k'') :
    Drained k k'' where
  params := second.params.trans first.params
  currentSupply := second.currentSupply.trans first.currentSupply
  totalMinted := second.totalMinted.trans first.totalMinted
  totalBurned := second.totalBurned.trans first.totalBurned
  blockedAddrs := second.blockedAddrs.trans first.blockedAddrs
  treasuryAddress := second.treasuryAddress.trans first.treasuryAddress
  bank := fun finite =>
    have before := first.bank finite
    have after := second.bank before.1
    ⟨after.1, after.2.trans before.2⟩

theorem Drained.getTreasuryAddress (drained : Drained k k') : k'.getTreasuryAddress = k.getTreasuryAddress := by
  rw [TokenomicsKeeper.getTreasuryAddress, drained.treasuryAddress, TokenomicsKeeper.getTreasuryAddress]

theorem drained_sendCoins {off : Bool} {src dst : Account} (ran : k.sendCoins off src dst amount = some k') :
    Drained k k' := by
  unfold TokenomicsKeeper.sendCoins at ran
  split at ran
  · cases ran
  obtain ⟨bank, sent, rfl⟩ := Option.map_eq_some_iff.1 ran
  refine ⟨rfl, rfl, rfl, rfl, rfl, rfl, fun finite => ?_⟩
  obtain ⟨finite', same⟩ := Ledger.total_send finite sent
  exact ⟨finite', same.le⟩

theorem drained_burnCoins {off : Bool} (ran : k.burnCoins off amount = some k') : Drained k k' := by
  unfold TokenomicsKeeper.burnCoins at ran
  split at ran
  · cases ran
  obtain ⟨bank, burned, rfl⟩ := Option.map_eq_some_iff.1 ran
  refine ⟨rfl, rfl, rfl, rfl, rfl, rfl, fun finite => ?_⟩
  obtain ⟨finite', lost⟩ := Ledger.total_burn finite burned
  exact ⟨finite', Nat.le_of_add_right_le lost.le⟩

theorem drained_orElseKeep {step : Option TokenomicsKeeper} (goes : ∀ k', step = some k' → Drained k k') :
    Drained k (k.orElseKeep step) := by
  cases step with
  | none => exact Drained.refl k
  | some k' => exact goes k' rfl

def After (P : TokenomicsKeeper → Prop) : Except Failed TokenomicsKeeper → Prop
  | .ok k => P k
  | .error failed => P failed.kept

theorem After.ok {P : TokenomicsKeeper → Prop} {result : Except Failed TokenomicsKeeper} (after : After P result)
    (ran : result = .ok k) : P k := by
  subst ran
  exact after

theorem After.bind {first : Except Failed TokenomicsKeeper}
    {next : TokenomicsKeeper → Except Failed TokenomicsKeeper} (start : After (Drained k) first)
    (rest : ∀ k', first = .ok k' → Drained k k' → After (Drained k') (next k')) :
    After (Drained k) (first >>= next) := by
  cases first with
  | error failed => exact start
  | ok k' =>
    have later := rest k' rfl start
    change After (Drained k) (next k')
    cases result : next k' with
    | error failed =>
      rw [result] at later
      exact Drained.trans start later
    | ok k'' =>
      rw [result] at later
      exact Drained.trans start later

end Drained

section Fees

variable {refused : Call → Bool} {burn treasury : Int}

theorem collectFees_drained (total : Int) : After (Drained k) (k.collectFees refused total) := by
  unfold collectFees
  split
  · exact Drained.refl k
  · rename_i k' ran
    exact drained_sendCoins ran

theorem burnFees_drained (total : Int) : After (Drained k) (k.burnFees refused total burn) := by
  unfold burnFees
  split
  · split
    · exact drained_orElseKeep fun _ => drained_sendCoins
    · rename_i k' ran
      exact drained_burnCoins ran
  · exact Drained.refl k

theorem payTreasury_drained : After (Drained k) (k.payTreasury refused treasury) := by
  unfold payTreasury
  split
  · split
    · exact Drained.refl k
    · rename_i k' ran
      have sent := drained_sendCoins ran
      exact ⟨sent.params, sent.currentSupply, sent.totalMinted, sent.totalBurned, sent.blockedAddrs,
        sent.treasuryAddress, sent.bank⟩
  · exact Drained.refl k

theorem returnToValidators_drained : After (Drained k) (k.returnToValidators refused amount) := by
  unfold returnToValidators
  split
  · split
    · exact Drained.refl k
    · rename_i k' ran
      exact drained_sendCoins ran
  · exact Drained.refl k

theorem recordFees_drained (quiet : burn = 0 ∨ k.currentSupply < burn) :
    After (Drained k) (k.recordFees burn treasury) := by
  unfold recordFees
  split
  · exact Drained.refl k
  · rename_i covered
    obtain rfl : burn = 0 := quiet.resolve_right covered
    exact ⟨rfl, Int.sub_zero _, rfl, Int.add_zero _, rfl, rfl, fun finite => ⟨finite, le_rfl⟩⟩

def TreasuryBlocked (k : TokenomicsKeeper) : Prop := k.blockedAddrs k.getTreasuryAddress = true

theorem payTreasury_pays (ran : k.payTreasury refused treasury = .ok k') :
    ¬ (0 < treasury ∧ k.TreasuryBlocked) := by
  rintro ⟨positive, blocked⟩
  have off : (refused .treasury || k.blockedAddrs k.getTreasuryAddress) = true := by
    rw [blocked, Bool.or_true]
  rw [payTreasury, if_pos positive, sendCoinsFromModuleToAccount, TokenomicsKeeper.sendCoins, if_pos off] at ran
  cases ran

def FeesMove (k : TokenomicsKeeper) : Prop :=
  let n : Int := k.bank.balance feeCollector
  k.params.feeBurnEnabled = true ∧ n ≠ 0 ∧ 0 < k.burnCut n ∧ k.burnCut n ≤ k.currentSupply ∧
    ¬ (0 < k.treasuryCut n ∧ k.TreasuryBlocked)

theorem processBlockFees_drained (valid : k.params.Valid) (quiet : ¬ k.FeesMove) :
    After (Drained k) (k.processBlockFees fun _ => false) := by
  cases enabled : k.params.feeBurnEnabled with
  | false =>
    rw [processBlockFees, if_pos enabled]
    exact Drained.refl k
  | true =>
    by_cases none_collected : k.bank.balance feeCollector = 0
    · rw [processBlockFees, if_neg (by simp [enabled])]
      dsimp only
      rw [if_pos (Int.natCast_eq_zero.2 none_collected)]
      exact Drained.refl k
    rw [processBlockFees_eq valid enabled none_collected]
    dsimp only
    have nonneg := (cuts_nonneg valid enabled (Int.natCast_nonneg (k.bank.balance feeCollector))).2.1
    unfold feeSteps
    refine After.bind (collectFees_drained _) fun k₁ _ first =>
      After.bind (burnFees_drained _) fun k₂ _ second =>
      After.bind payTreasury_drained fun k₃ paid third =>
      After.bind returnToValidators_drained fun k₄ _ fourth => recordFees_drained ?_
    have before := first.trans second
    have same : k₄.currentSupply = k.currentSupply := (before.trans (third.trans fourth)).currentSupply
    have pays := payTreasury_pays paid
    rw [TreasuryBlocked, before.blockedAddrs, before.getTreasuryAddress] at pays
    rw [same]
    by_contra moves
    push Not at moves
    obtain ⟨some_burned, covered⟩ := moves
    exact quiet ⟨enabled, Int.natCast_ne_zero.2 none_collected, by omega, covered, pays⟩

theorem endBlock_drained (valid : k.params.Valid) (quiet : ¬ k.FeesMove) :
    Drained k (k.endBlock fun _ => false) := by
  have after := processBlockFees_drained valid quiet
  unfold endBlock
  cases result : k.processBlockFees fun _ => false with
  | ok k' => exact after.ok result
  | error failed =>
    rw [result] at after
    exact after

theorem feeSteps_ok (accepts : ∀ call, refused call = false) {b t v : Nat}
    (sum : b + t + v = k.bank.balance feeCollector)
    (pays : ¬ (0 < t ∧ k.TreasuryBlocked)) (covered : (b : Int) ≤ k.currentSupply) :
    ∃ bank, k.feeSteps refused (k.bank.balance feeCollector) b t v =
      .ok ((k.withBank bank).countFees b t) := by
  have accepted (n : Nat) (call : Call) : ¬ (0 < n ∧ refused call = true) := by simp [accepts]
  have apart : feeCollector ≠ moduleAccount := by decide
  obtain ⟨bank₁, collects, moved₁⟩ := collectFees_ok (k := k) (accepts .collect)
  have filled₁ := moved₁ moduleAccount
  rw [if_pos rfl, if_neg apart.symm] at filled₁
  obtain ⟨bank₂, burns, moved₂⟩ := burnFees_ok (k.bank.balance feeCollector) (accepted b .burn)
    (show b ≤ (k.withBank bank₁).bank.balance moduleAccount by
      show _ ≤ bank₁.balance moduleAccount
      omega)
  have filled₂ := moved₂ moduleAccount
  rw [if_pos rfl] at filled₂
  change bank₂.balance moduleAccount + b = bank₁.balance moduleAccount at filled₂
  have goes : ¬ (0 < t ∧ (k.withBank bank₂).RefusesTreasury refused) := by
    rw [RefusesTreasury, accepts, Bool.false_or]
    exact pays
  obtain ⟨bank₃, paid, moved₃⟩ := payTreasury_ok goes
    (show t ≤ bank₂.balance moduleAccount by omega)
  have filled₃ := moved₃ moduleAccount
  rw [if_pos rfl] at filled₃
  change bank₃.balance moduleAccount + t = bank₂.balance moduleAccount + _ at filled₃
  obtain ⟨bank₄, returns, -⟩ := returnToValidators_ok (k := (k.withBank bank₃).countInflow t)
    (accepted v .validators) (show v ≤ bank₃.balance moduleAccount by split at filled₃ <;> omega)
  refine ⟨bank₄, ?_⟩
  rw [feeSteps, bind_ok collects, bind_ok burns]
  refine (bind_ok paid _).trans ((bind_ok returns _).trans ?_)
  exact if_neg (Int.not_lt.2 covered)

theorem endBlock_moves (valid : k.params.Valid) (moves : k.FeesMove) :
    (k.endBlock fun _ => false).params = k.params ∧
      (k.endBlock fun _ => false).totalBurned =
        k.totalBurned + k.burnCut (k.bank.balance feeCollector) := by
  obtain ⟨enabled, some_collected, some_burned, covered, pays⟩ := moves
  obtain ⟨treasuryNonneg, burnNonneg, validatorNonneg⟩ :=
    cuts_nonneg valid enabled (Int.natCast_nonneg (k.bank.balance feeCollector))
  have sum : k.burnCut (k.bank.balance feeCollector) + k.treasuryCut (k.bank.balance feeCollector) +
      k.validatorCut (k.bank.balance feeCollector) = k.bank.balance feeCollector := by
    unfold validatorCut
    omega
  rw [endBlock, processBlockFees_eq valid enabled (Int.natCast_ne_zero.1 some_collected)]
  dsimp only
  generalize k.burnCut (k.bank.balance feeCollector) = burn at *
  generalize k.treasuryCut (k.bank.balance feeCollector) = treasury at *
  generalize k.validatorCut (k.bank.balance feeCollector) = validators at *
  lift burn to Nat using burnNonneg with b
  lift treasury to Nat using treasuryNonneg with t
  lift validators to Nat using validatorNonneg with v
  rw [Int.natCast_pos] at pays
  obtain ⟨bank, steps⟩ := feeSteps_ok (fun _ => rfl) (b := b) (t := t) (v := v) (by omega) pays covered
  rw [steps]
  exact ⟨rfl, rfl⟩

end Fees

section Burn

variable {refused : Call → Bool} {ctx : Ctx} {burner : Account} {source : BurnSource} {chainID : String}

theorem takeFromBurner_drained : After (Drained k) (k.takeFromBurner refused burner amount) := by
  unfold takeFromBurner
  split
  · exact Drained.refl k
  · rename_i k' ran
    exact drained_sendCoins ran

theorem burnPortion_drained (burn : Int) : After (Drained k) (k.burnPortion refused burner amount burn) := by
  unfold burnPortion
  split
  · split
    · exact drained_orElseKeep fun _ => drained_sendCoins
    · rename_i k' ran
      exact drained_burnCoins ran
  · exact Drained.refl k

theorem payRedirect_pays (ran : k.payRedirect refused amount = .ok k') :
    ¬ (0 < amount ∧ k.TreasuryBlocked) ∧ k'.currentSupply = k.currentSupply := by
  unfold payRedirect at ran
  split at ran
  · rename_i positive
    split at ran
    · cases ran
    rename_i paid sent
    obtain rfl := Except.ok.inj ran
    refine ⟨?_, (drained_sendCoins sent).currentSupply⟩
    rintro ⟨-, blocked⟩
    have off : (refused .treasury || k.blockedAddrs k.getTreasuryAddress) = true := by
      rw [blocked, Bool.or_true]
    rw [sendCoinsFromModuleToAccount, TokenomicsKeeper.sendCoins, if_pos off] at sent
    cases sent
  · rename_i zero
    obtain rfl := Except.ok.inj ran
    exact ⟨fun paid => zero paid.1, rfl⟩

def BurnMoves (k : TokenomicsKeeper) (burner : Account) (amount : Int) : Prop :=
  0 < amount ∧ amount ≤ k.bank.balance burner ∧ amount - k.redirectCut amount ≤ k.currentSupply ∧
    ¬ (0 < k.redirectCut amount ∧ k.TreasuryBlocked)

theorem burnMoves_of_ok {result : TokenomicsKeeper × Int × Int}
    (ran : k.burnTokens refused ctx burner amount source chainID = .ok result) : k.BurnMoves burner amount := by
  unfold burnTokens at ran
  obtain ⟨positive, ran⟩ := guard_ok.1 ran
  dsimp only at ran
  obtain ⟨covers, ran⟩ := guard_ok.1 ran
  obtain ⟨taken, took, ran⟩ := of_bind_ok ran
  obtain ⟨burned, burns, ran⟩ := of_bind_ok ran
  obtain ⟨paid, pays, ran⟩ := of_bind_ok ran
  obtain ⟨recorded, records, -⟩ := of_bind_ok ran
  have drained := (takeFromBurner_drained.ok took).trans ((burnPortion_drained _).ok burns)
  obtain ⟨allowed, sameSupply⟩ := payRedirect_pays pays
  rw [TreasuryBlocked, drained.blockedAddrs, drained.getTreasuryAddress] at allowed
  unfold recordBurn at records
  obtain ⟨enough, -⟩ := guard_ok.1 records
  rw [sameSupply, drained.currentSupply] at enough
  exact ⟨Int.not_le.1 positive, Int.not_lt.1 covers, Int.not_lt.1 enough, allowed⟩

theorem burnSteps_ok (accepts : ∀ call, refused call = false) {b r : Nat} (some_burned : 0 < b)
    (covers : b + r ≤ k.bank.balance burner) (pays : ¬ (0 < r ∧ k.TreasuryBlocked))
    (covered : (b : Int) ≤ k.currentSupply) :
    ∃ bank, k.burnSteps refused ctx burner ((b + r : Nat) : Int) b r source chainID =
      .ok ((k.withBank bank).countTokensBurned ctx burner ((b + r : Nat) : Int) b r source chainID, b, r) := by
  obtain ⟨bank₁, takes, moved₁⟩ := takeFromBurner_ok (k := k) (accepts .collect) covers
  have filled₁ := moved₁ moduleAccount
  rw [if_pos rfl] at filled₁
  have taken := moved₁ burner
  rw [if_pos rfl] at taken
  have held : b + r ≤ bank₁.balance moduleAccount := by
    by_cases own : burner = moduleAccount
    · subst own
      rw [if_pos rfl] at filled₁
      omega
    · rw [if_neg (Ne.symm own)] at filled₁
      omega
  obtain ⟨bank₂, burns, moved₂⟩ := burnCoins_ok (k := k.withBank bank₁) (accepts .burn)
    (show b ≤ bank₁.balance moduleAccount by omega)
  have filled₂ := moved₂ moduleAccount
  rw [if_pos rfl] at filled₂
  change bank₂.balance moduleAccount + b = bank₁.balance moduleAccount at filled₂
  have burned : (k.withBank bank₁).burnPortion refused burner ((b + r : Nat) : Int) b =
      .ok (k.withBank bank₂) := by
    rw [burnPortion, if_pos (Int.natCast_pos.2 some_burned), burns]
    rfl
  have goes : ¬ (0 < r ∧ (k.withBank bank₂).RefusesTreasury refused) := by
    rw [RefusesTreasury, accepts, Bool.false_or]
    exact pays
  obtain ⟨bank₃, paid, -⟩ := payRedirect_ok goes (show r ≤ bank₂.balance moduleAccount by omega)
  refine ⟨bank₃, ?_⟩
  rw [burnSteps, bind_ok takes, bind_ok burned]
  refine (bind_ok paid _).trans ?_
  have recorded : (((k.withBank bank₂).withBank bank₃).incrementTreasuryInflows r).recordBurn ctx burner
      ((b + r : Nat) : Int) b r source chainID =
        .ok ((k.withBank bank₃).countTokensBurned ctx burner ((b + r : Nat) : Int) b r source chainID) :=
    if_neg (Int.not_lt.2 covered)
  exact bind_ok recorded _

theorem burnTokens_moves (accepts : ∀ call, refused call = false) (valid : k.params.Valid)
    (moves : k.BurnMoves burner amount) :
    ∃ result, k.burnTokens refused ctx burner amount source chainID = .ok result ∧
      result.1.params = k.params ∧ result.1.totalBurned = k.totalBurned + (amount - k.redirectCut amount) ∧
        0 < amount - k.redirectCut amount := by
  obtain ⟨positive, covers, covered, pays⟩ := moves
  obtain ⟨redirectNonneg, redirectLt⟩ := redirectCut_bounds valid positive
  rw [burnTokens, if_neg (Int.not_le.2 positive)]
  dsimp only
  rw [if_neg (Int.not_lt.2 covers)]
  change ∃ result, k.burnSteps refused ctx burner amount (amount - k.redirectCut amount) (k.redirectCut amount)
    source chainID = .ok result ∧ _
  generalize k.redirectCut amount = redirect at *
  obtain ⟨b, bEq⟩ := Int.eq_ofNat_of_zero_le (Int.sub_nonneg_of_le redirectLt.le)
  lift redirect to Nat using redirectNonneg with r
  obtain rfl : amount = ((b + r : Nat) : Int) := by omega
  rw [Int.natCast_pos] at pays
  rw [bEq] at covered ⊢
  obtain ⟨bank, steps⟩ := burnSteps_ok accepts (show 0 < b by omega)
    (show b + r ≤ k.bank.balance burner by omega) pays covered
  exact ⟨_, steps, rfl, rfl, by omega⟩

end Burn

section Mint

def MintMoves (k : TokenomicsKeeper) (amount : Int) (recipient : Account) : Prop :=
  0 < amount ∧ k.currentSupply + amount ≤ k.params.totalSupplyCap ∧ k.blockedAddrs recipient = false

theorem mintMoves_of_ok {recipient : Account} (ran : k.mintTokens (fun _ => false) amount recipient = .ok k') :
    k.MintMoves amount recipient := by
  obtain ⟨positive, allowed, -⟩ := mintTokens_ok ran
  unfold mintTokens at ran
  exact ⟨positive, Int.not_lt.1 (guard_ok.1 ran).1, allowed⟩

theorem sendMinted_ok (dst : Account) (positive : 0 < amount) :
    ∃ bank, { k with bank := k.bank.mint moduleAccount amount.toNat }.sendCoins false moduleAccount dst amount =
      some (k.withBank bank) := by
  lift amount to Nat using positive.le with n
  obtain ⟨bank, sent, -⟩ := sendCoins_covered
    (k := { k with bank := k.bank.mint moduleAccount n }) dst rfl
    (show n ≤ (k.bank.mint moduleAccount n).balance moduleAccount by simp)
  exact ⟨bank, sent⟩

theorem mintTokens_moves {recipient : Account} (moves : k.MintMoves amount recipient) :
    ∃ minted, k.mintTokens (fun _ => false) amount recipient = .ok minted ∧ minted.params = k.params ∧
      minted.totalMinted = k.totalMinted + amount := by
  obtain ⟨positive, capped, allowed⟩ := moves
  obtain ⟨bank, sent⟩ := sendMinted_ok (k := k) recipient positive
  have delivered : k.deliverMinted (fun _ => false) recipient amount = .ok (k.withBank bank) := by
    unfold deliverMinted TokenomicsKeeper.mintCoins sendCoinsFromModuleToAccount
    rw [if_neg (by decide)]
    dsimp only
    rw [allowed, Bool.or_false, sent]
  rw [mintTokens, if_neg (Int.not_lt.2 capped), if_neg (Int.not_lt.2 positive.le), if_neg positive.ne',
    bind_ok delivered]
  exact ⟨_, rfl, rfl, rfl⟩

end Mint

section Inflation

variable {hasStaking : Bool} {height : Int}

theorem withBank_of_sendCoins {off : Bool} {src dst : Account} (ran : k.sendCoins off src dst amount = some k') :
    off = false ∧ ∃ bank, k' = k.withBank bank := by
  unfold TokenomicsKeeper.sendCoins at ran
  split at ran
  · cases ran
  rename_i goes
  obtain ⟨bank, -, rfl⟩ := Option.map_eq_some_iff.1 ran
  exact ⟨Bool.not_eq_true _ ▸ goes, bank, rfl⟩

theorem mintCoins_accepted : k.mintCoins false amount =
    some (k.withBank (k.bank.mint moduleAccount amount.toNat)) := rfl

theorem mintStaking_cases (ran : k.mintStaking hasStaking amount = .ok k') :
    (0 < amount → hasStaking = true) ∧ ∃ bank, k' = k.withBank bank := by
  rw [mintStaking, mintCoins_accepted] at ran
  split at ran
  · dsimp only at ran
    split at ran
    · cases ran
    · rename_i sent
      obtain rfl := Except.ok.inj ran
      obtain ⟨goes, bank, rfl⟩ := withBank_of_sendCoins sent
      exact ⟨fun _ => by simpa using goes, bank, rfl⟩
  · rename_i zero
    obtain rfl := Except.ok.inj ran
    exact ⟨fun positive => absurd positive zero, k.bank, rfl⟩

theorem mintKept_cases (k : TokenomicsKeeper) (amount : Int) :
    ∃ bank, k.mintKept amount = .ok (k.withBank bank) := by
  unfold mintKept
  split
  · exact ⟨_, rfl⟩
  · exact ⟨k.bank, rfl⟩

theorem mintTreasury_cases (ran : k.mintTreasury amount = .ok k') :
    ¬ (0 < amount ∧ k.TreasuryBlocked) ∧ ∃ bank, k' = k.withBank bank := by
  rw [mintTreasury, mintCoins_accepted] at ran
  split at ran
  · dsimp only at ran
    split at ran
    · cases ran
    · rename_i sent
      obtain rfl := Except.ok.inj ran
      obtain ⟨goes, bank, rfl⟩ := withBank_of_sendCoins sent
      refine ⟨fun stops => ?_, bank, rfl⟩
      rw [Bool.false_or] at goes
      exact Bool.false_ne_true (goes.symm.trans stops.2)
  · rename_i zero
    obtain rfl := Except.ok.inj ran
    exact ⟨fun stops => zero stops.1, k.bank, rfl⟩

def EmissionsDeliver (k : TokenomicsKeeper) (hasStaking : Bool) (totalAmount : Int) : Prop :=
  (0 < Params.emissionShare k.params.emissionSplitStaking totalAmount → hasStaking = true) ∧
    ¬ (0 < k.params.treasuryEmission totalAmount ∧ k.TreasuryBlocked)

theorem distributeEmissions_cases (ran : k.distributeEmissions hasStaking amount = .ok k') :
    k.EmissionsDeliver hasStaking amount ∧ ∃ bank, k' = k.withBank bank := by
  unfold distributeEmissions at ran
  obtain ⟨staked, stakes, ran⟩ := of_bind_ok ran
  obtain ⟨staking, bank₁, rfl⟩ := mintStaking_cases stakes
  obtain ⟨bank₂, kept₂⟩ := mintKept_cases (k.withBank bank₁)
    (Params.emissionShare k.params.emissionSplitPoc amount)
  obtain ⟨bank₃, kept₃⟩ := mintKept_cases (k.withBank bank₂)
    (Params.emissionShare k.params.emissionSplitSequencer amount)
  rw [bind_ok kept₂] at ran
  have ran := (bind_ok kept₃ _).symm.trans ran
  obtain ⟨treasury, bank, rfl⟩ := mintTreasury_cases ran
  exact ⟨⟨staking, treasury⟩, bank, rfl⟩

theorem mintStaking_ok (delivers : 0 < amount → hasStaking = true) :
    ∃ bank, k.mintStaking hasStaking amount = .ok (k.withBank bank) := by
  by_cases positive : 0 < amount
  · obtain ⟨bank, sent⟩ := sendMinted_ok (k := k) (.module "staking") positive
    change (k.withBank _).sendCoins _ _ _ _ = _ at sent
    refine ⟨bank, ?_⟩
    rw [mintStaking, if_pos positive, mintCoins_accepted, delivers positive]
    dsimp only
    rw [Bool.not_true, sent]
  · exact ⟨k.bank, if_neg positive⟩

theorem mintTreasury_ok (pays : ¬ (0 < amount ∧ k.TreasuryBlocked)) :
    ∃ bank, k.mintTreasury amount = .ok (k.withBank bank) := by
  by_cases positive : 0 < amount
  · obtain ⟨bank, sent⟩ := sendMinted_ok (k := k) k.getTreasuryAddress positive
    change (k.withBank _).sendCoins _ _ _ _ = _ at sent
    have allowed : k.blockedAddrs k.getTreasuryAddress = false :=
      Bool.eq_false_iff.2 fun blocked => pays ⟨positive, blocked⟩
    have delivered : (k.withBank (k.bank.mint moduleAccount amount.toNat)).sendCoinsFromModuleToAccount false
        (k.withBank (k.bank.mint moduleAccount amount.toNat)).getTreasuryAddress amount =
          some (k.withBank bank) := by
      rw [sendCoinsFromModuleToAccount, Bool.false_or]
      show (k.withBank _).sendCoins (k.blockedAddrs k.getTreasuryAddress) _ k.getTreasuryAddress _ = _
      rw [allowed, sent]
    refine ⟨bank, ?_⟩
    rw [mintTreasury, if_pos positive, mintCoins_accepted]
    dsimp only
    rw [delivered]
  · exact ⟨k.bank, if_neg positive⟩

theorem distributeEmissions_ok (delivers : k.EmissionsDeliver hasStaking amount) :
    ∃ bank, k.distributeEmissions hasStaking amount = .ok (k.withBank bank) := by
  obtain ⟨bank₁, staked⟩ := mintStaking_ok delivers.1
  obtain ⟨bank₂, kept₂⟩ := mintKept_cases (k.withBank bank₁)
    (Params.emissionShare k.params.emissionSplitPoc amount)
  obtain ⟨bank₃, kept₃⟩ := mintKept_cases (k.withBank bank₂)
    (Params.emissionShare k.params.emissionSplitSequencer amount)
  obtain ⟨bank, paid⟩ := mintTreasury_ok (k := k.withBank bank₃) delivers.2
  refine ⟨bank, ?_⟩
  rw [distributeEmissions, bind_ok staked, bind_ok kept₂]
  exact (bind_ok kept₃ _).trans paid

def InflationMoves (k : TokenomicsKeeper) (hasStaking : Bool) (height : Int) : Prop :=
  k.params.currentTotalSupply < k.params.totalSupplyCap ∧ k.params.calculateBlockProvision height ≠ 0 ∧
    0 ≤ k.params.calculateDecayingInflation height ∧
      k.EmissionsDeliver hasStaking (k.cappedProvision height)

theorem valid_iff {p : Params} : p.Valid ↔ ∀ check ∈ p.checks, check.1 = false := by
  refine ⟨Params.Valid.passes, fun passes => ?_⟩
  rw [Params.Valid, Params.validate, Option.map_eq_none_iff, List.find?_eq_none]
  intro check mem fires
  rw [passes check mem] at fires
  cases fires

theorem supplyChecks_iff {p : Params} : (∀ check ∈ p.supplyChecks, check.1 = false) ↔
    0 < p.totalSupplyCap ∧ p.totalSupplyCap ≤ 1500000000000000 ∧ p.currentTotalSupply ≤ p.totalSupplyCap ∧
      p.totalBurned ≤ p.totalMinted ∧ p.currentTotalSupply = p.totalMinted - p.totalBurned ∧
      0 ≤ p.inflationRate ∧ p.inflationMin ≤ p.inflationRate ∧ p.inflationRate ≤ p.inflationMax ∧
      p.inflationMax ≤ newDecWithPrec 3 2 ∧ p.inflationMin ≤ p.inflationMax := by
  simp only [Params.supplyChecks, List.forall_mem_cons, decide_eq_false_iff_not, not_le, gt_iff_lt, not_lt,
    ne_eq, not_not, List.not_mem_nil, false_imp_iff, implies_true, and_true]

theorem supply_of_valid {p : Params} (valid : p.Valid) : ∀ check ∈ p.supplyChecks, check.1 = false := by
  have passes := valid.passes
  simp only [Params.checks, List.forall_mem_append] at passes
  exact passes.1.1.1.1

theorem mintInflation_cases (ran : k.mintInflation hasStaking height = .ok k') :
    k' = k ∨ k.InflationMoves hasStaking height := by
  unfold mintInflation at ran
  split at ran
  · exact Or.inl (Except.ok.inj ran).symm
  rename_i below
  split at ran
  · exact Or.inl (Except.ok.inj ran).symm
  rename_i some_provision
  obtain ⟨distributed, distributes, ran⟩ := of_bind_ok ran
  obtain ⟨error, refused⟩ | ⟨valid, -⟩ := setParams_cases (k := distributed)
    (k.inflated height (k.cappedProvision height))
  · rw [refused] at ran
    cases ran
  · have rate := (supplyChecks_iff.1 (supply_of_valid valid)).2.2.2.2.2.1
    exact Or.inr ⟨Int.not_le.1 below, some_provision, rate, (distributeEmissions_cases distributes).1⟩

theorem calculateBlockProvision_nonneg (nonneg : 0 ≤ k.params.currentTotalSupply)
    (rate : 0 ≤ k.params.calculateDecayingInflation height) : 0 ≤ k.params.calculateBlockProvision height := by
  have scaled : 0 ≤ LegacyDec.ofInt k.params.currentTotalSupply := Int.mul_nonneg nonneg (by decide)
  have product := LegacyDec.nonneg_mul scaled rate
  exact Int.tdiv_nonneg (Int.tdiv_nonneg product (by decide)) (by decide)

theorem cappedProvision_pos (nonneg : 0 ≤ k.params.currentTotalSupply)
    (moves : k.InflationMoves hasStaking height) :
    0 < k.cappedProvision height ∧
      k.params.currentTotalSupply + k.cappedProvision height ≤ k.params.totalSupplyCap := by
  obtain ⟨below, some_provision, rate, -⟩ := moves
  have provision := calculateBlockProvision_nonneg nonneg rate
  unfold cappedProvision
  dsimp only
  split <;> omega

theorem clamped_bounds {rate low high : Int} (bounds : low ≤ high) :
    low ≤ (if (if rate < low then low else rate) > high then high else if rate < low then low else rate) ∧
      (if (if rate < low then low else rate) > high then high else if rate < low then low else rate) ≤ high := by
  split <;> split <;> omega

theorem calculateDecayingInflation_bounds {p : Params} (height : Int) (bounds : p.inflationMin ≤ p.inflationMax) :
    p.inflationMin ≤ p.calculateDecayingInflation height ∧
      p.calculateDecayingInflation height ≤ p.inflationMax :=
  clamped_bounds bounds

theorem inflated_valid (valid : k.params.Valid) (nonneg : 0 ≤ k.params.currentTotalSupply)
    (moves : k.InflationMoves hasStaking height) :
    (k.inflated height (k.cappedProvision height)).Valid := by
  obtain ⟨positive, capped⟩ := cappedProvision_pos nonneg moves
  obtain ⟨capPositive, hardCap, -, burned, conserved, -, -, -, maxBound, bounds⟩ :=
    supplyChecks_iff.1 (supply_of_valid valid)
  obtain ⟨low, high⟩ := calculateDecayingInflation_bounds height bounds
  have supply : ∀ check ∈ (k.inflated height (k.cappedProvision height)).supplyChecks, check.1 = false :=
    supplyChecks_iff.2 ⟨capPositive, hardCap, capped, by
      show k.params.totalBurned ≤ k.params.totalMinted + _
      omega, by
      show k.params.currentTotalSupply + _ = k.params.totalMinted + _ - k.params.totalBurned
      omega, moves.2.2.1, low, high, maxBound, bounds⟩
  have passes := valid.passes
  rw [valid_iff]
  simp only [Params.checks, List.forall_mem_append] at passes ⊢
  exact ⟨⟨⟨⟨supply, passes.1.1.1.2⟩, passes.1.1.2⟩, passes.1.2⟩, passes.2⟩

theorem mintInflation_moves (valid : k.params.Valid) (nonneg : 0 ≤ k.params.currentTotalSupply)
    (moves : k.InflationMoves hasStaking height) :
    ∃ inflated, k.mintInflation hasStaking height = .ok inflated ∧ inflated.totalMinted = k.totalMinted ∧
      inflated.params.totalMinted = k.params.totalMinted + k.cappedProvision height := by
  obtain ⟨bank, distributes⟩ := distributeEmissions_ok moves.2.2.2
  have stillValid := inflated_valid valid nonneg moves
  rw [mintInflation, if_neg (Int.not_le.2 moves.1), if_neg moves.2.1, bind_ok distributes]
  have stored : (k.withBank bank).setParams (k.inflated height (k.cappedProvision height)) =
      .ok { k.withBank bank with params := k.inflated height (k.cappedProvision height) } := by
    have kept : ¬ (k.params.totalSupplyCap ≠ 0 ∧
        (k.inflated height (k.cappedProvision height)).totalSupplyCap ≠ k.params.totalSupplyCap) :=
      fun changed => changed.2 rfl
    refine (if_neg kept).trans ?_
    rw [show (k.inflated height (k.cappedProvision height)).validate = none from stillValid]
  exact ⟨_, stored, rfl, rfl⟩

end Inflation

section Reports

variable {lib : Library}

theorem countBurn_zero : k.countBurn 0 = k := by simp [countBurn]

def ReportMoves (lib : Library) (k : TokenomicsKeeper) (packet : IBCBurnReportPacket) : Prop :=
  ∃ amount, lib.newIntFromString packet.amount = some amount ∧ amount ≠ 0 ∧
    k.allowedChain packet.chainID = true ∧ packet.proof ≠ [] ∧
      (packet.chainID, packet.txHash) ∉ k.processedBurnReports

theorem onRecvBurnReport_cases {packet : IBCBurnReportPacket} (ran : k.onRecvBurnReport lib packet = .ok k') :
    ∃ amount, lib.newIntFromString packet.amount = some amount ∧
      k.allowedChain packet.chainID = true ∧ packet.proof ≠ [] ∧
      (packet.chainID, packet.txHash) ∉ k.processedBurnReports ∧ (amount = 0 → Drained k k') := by
  unfold onRecvBurnReport at ran
  cases read : lib.newIntFromString packet.amount with
  | none =>
    rw [read] at ran
    cases ran
  | some amount =>
    rw [read] at ran
    obtain ⟨allowed, ran⟩ := guard_ok.1 ran
    obtain ⟨proven, ran⟩ := guard_ok.1 ran
    obtain ⟨fresh, ran⟩ := guard_ok.1 ran
    obtain rfl := Except.ok.inj ran
    refine ⟨amount, rfl, Bool.not_eq_false _ ▸ allowed, proven, fresh, ?_⟩
    rintro rfl
    rw [countBurn_zero]
    exact ⟨rfl, rfl, rfl, rfl, rfl, rfl, fun finite => ⟨finite, le_rfl⟩⟩

theorem onRecvBurnReport_moves {packet : IBCBurnReportPacket} (moves : ReportMoves lib k packet) :
    ∃ reported amount, k.onRecvBurnReport lib packet = .ok reported ∧ amount ≠ 0 ∧
      reported.params = k.params ∧ reported.totalBurned = k.totalBurned + amount := by
  obtain ⟨amount, read, some_burned, allowed, proven, fresh⟩ := moves
  rw [onRecvBurnReport, read]
  dsimp only
  rw [if_neg (by simp [allowed]), if_neg proven, if_neg fresh]
  exact ⟨_, amount, rfl, some_burned, rfl, rfl⟩

end Reports

end TokenomicsKeeper

end Omniphi.Tokenomics
