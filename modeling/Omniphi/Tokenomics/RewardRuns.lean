import Omniphi.Lib.Run
import Omniphi.Tokenomics.Fees
import Omniphi.Tokenomics.Rewards

/-! Whether the rewards of an epoch reach their recipients, and what packets that time out are refunded. -/

namespace Omniphi.Tokenomics

open Outcome

namespace TokenomicsKeeper

variable {k k' minted : TokenomicsKeeper} {lib : Library} {block : Block} {amount : Int}

section BurnRatio

theorem setParams_cases (params : Params) :
    (∃ error, k.setParams params = .error ⟨error, k⟩) ∨
      params.Valid ∧ k.setParams params = .ok { k with params := params } := by
  unfold setParams
  split
  · exact Or.inl ⟨_, rfl⟩
  · cases checked : params.validate with
    | none => exact Or.inr ⟨checked, rfl⟩
    | some error => exact Or.inl ⟨_, rfl⟩

theorem withBurnRatio_cases (k : TokenomicsKeeper) (block : Block) :
    k.withBurnRatio block = k ∨ ∃ ratio trigger,
      Params.Valid { k.params with lastAppliedBurnRatio := ratio, lastBurnTrigger := trigger } ∧
        k.withBurnRatio block =
          { k with params := { k.params with lastAppliedBurnRatio := ratio, lastBurnTrigger := trigger } } := by
  unfold withBurnRatio updateBurnRatio
  dsimp only
  obtain ⟨error, refused⟩ | ⟨valid, stored⟩ := setParams_cases (k := k)
    { k.params with lastAppliedBurnRatio := k.applySmoothing (k.getAdaptiveBurnRatio block).1,
                    lastBurnTrigger := (k.getAdaptiveBurnRatio block).2 }
  · rw [refused]
    exact Or.inl rfl
  · rw [stored]
    exact Or.inr ⟨_, _, valid, rfl⟩

theorem withBurnRatio_valid (valid : k.params.Valid) : (k.withBurnRatio block).params.Valid := by
  obtain same | ⟨ratio, trigger, stillValid, same⟩ := withBurnRatio_cases k block
  · rwa [same]
  · rw [same]
    exact stillValid

@[simp] theorem withBurnRatio_bank : (k.withBurnRatio block).bank = k.bank := by
  obtain same | ⟨_, _, -, same⟩ := withBurnRatio_cases k block <;> rw [same]

end BurnRatio

section Minting

def credited (k : TokenomicsKeeper) (bank : Bank) (amount : Int) : TokenomicsKeeper :=
  { k with bank := bank, currentSupply := k.currentSupply + amount, totalMinted := k.totalMinted + amount }

theorem mintTokens_ok {recipient : Account}
    (ran : k.mintTokens (fun _ => false) amount recipient = .ok minted) :
    0 < amount ∧ k.blockedAddrs recipient = false ∧
      ∃ bank, minted = k.credited bank amount ∧
        ∀ a, bank.balance a = k.bank.balance a + if a = recipient then amount.toNat else 0 := by
  unfold mintTokens at ran
  split at ran
  · cases ran
  split at ran
  · cases ran
  split at ran
  · cases ran
  rename_i notNegative notZero
  refine ⟨by omega, ?_⟩
  unfold deliverMinted TokenomicsKeeper.mintCoins sendCoinsFromModuleToAccount sendCoins at ran
  simp only [Bool.false_eq_true, if_false, Bool.false_or] at ran
  cases blocked : k.blockedAddrs recipient with
  | true =>
    rw [blocked] at ran
    cases ran
  | false =>
    refine ⟨rfl, ?_⟩
    simp only [blocked, Bool.false_eq_true, if_false] at ran
    cases sent : (k.bank.mint moduleAccount amount.toNat).send moduleAccount recipient amount.toNat with
    | none =>
      rw [sent] at ran
      cases ran
    | some bank =>
      rw [sent] at ran
      obtain rfl := Except.ok.inj ran
      refine ⟨bank, rfl, fun a => ?_⟩
      have moved := (Ledger.send_spec sent).2 a
      rw [Ledger.balance_mint] at moved
      omega

end Minting

section Shares

theorem shares_of_four {w x y z total : Int} (wNonneg : 0 ≤ w) (xNonneg : 0 ≤ x) (yNonneg : 0 ≤ y)
    (zNonneg : 0 ≤ z) (whole : w + x + y + z = 1000000000000000000 * total) :
    w / 10 ^ 18 + x / 10 ^ 18 + y / 10 ^ 18 + z / 10 ^ 18 ≤ total ∧
      total ≤ w / 10 ^ 18 + x / 10 ^ 18 + y / 10 ^ 18 + z / 10 ^ 18 + 3 ∧
      0 ≤ w / 10 ^ 18 ∧ 0 ≤ x / 10 ^ 18 ∧ 0 ≤ y / 10 ^ 18 ∧ 0 ≤ z / 10 ^ 18 := by
  omega

theorem share_eq {split total : Int} (splitNonneg : 0 ≤ split) (totalNonneg : 0 ≤ total) :
    share split total = split * total / 10 ^ 18 := by
  rw [share, LegacyDec.truncateInt, LegacyDec.mulInt,
    Int.tdiv_eq_ediv_of_nonneg (Int.mul_nonneg splitNonneg totalNonneg)]
  rfl

theorem shares_bounds (valid : k.params.Valid) {total : Int} (nonneg : 0 ≤ total) :
    let staking := share k.params.emissionSplitStaking total
    let poc := share k.params.emissionSplitPoc total
    let sequencer := share k.params.emissionSplitSequencer total
    let treasury := share k.params.emissionSplitTreasury total
    staking + poc + sequencer + treasury ≤ total ∧
      total ≤ staking + poc + sequencer + treasury + 3 ∧
      0 ≤ staking ∧ 0 ≤ poc ∧ 0 ≤ sequencer ∧ 0 ≤ treasury := by
  obtain ⟨sum, stakingLe, poc, sequencer, treasury⟩ := valid.splits
  have staking : (0 : Int) ≤ k.params.emissionSplitStaking :=
    le_trans (show (0 : Int) ≤ minStakingShare by decide) stakingLe
  dsimp only
  rw [share_eq staking nonneg, share_eq poc nonneg, share_eq sequencer nonneg, share_eq treasury nonneg]
  refine shares_of_four (Int.mul_nonneg staking nonneg) (Int.mul_nonneg poc nonneg)
    (Int.mul_nonneg sequencer nonneg) (Int.mul_nonneg treasury nonneg) ?_
  rw [← Int.add_mul, ← Int.add_mul, ← Int.add_mul]
  exact congrArg (fun splits : Int => splits * total) sum

end Shares

section Distribution

def Paid (k : TokenomicsKeeper) (n : Nat) (d d' : Distribution) : Prop :=
  ∃ bank, d' = { d with keeper := d.keeper.withBank bank, localDist := d.localDist + n } ∧
    ∀ a, bank.balance a + (if a = moduleAccount then n else 0) =
      d.keeper.bank.balance a + if a = k.getTreasuryAddress then n else 0

theorem paid_zero {d : Distribution} : Paid k 0 d d :=
  ⟨d.keeper.bank, by simp [withBank], by simp⟩

variable {height : Int} {d d' : Distribution} {n : Nat}

theorem payRecipient_single (recipient : RewardRecipient) :
    [recipient].foldlM (payRecipient lib height) d = payRecipient lib height d recipient := by
  rw [List.foldlM_cons]
  cases payRecipient lib height d recipient <;> rfl

theorem treasuryRecipients_ok (lawful : lib.Lawful)
    (ran : (k.treasuryRecipients lib n).foldlM (payRecipient lib height) d = .ok d') : Paid k n d d' := by
  rw [treasuryRecipients] at ran
  split at ran
  · rw [payRecipient_single, payRecipient, lawful.roundTrip] at ran
    dsimp only at ran
    rw [if_pos rfl, sendCoinsFromModuleToAccount, sendCoins, Bool.false_or] at ran
    split at ran
    · cases ran
    · rename_i keeper sent
      split at sent
      · cases sent
      · obtain ⟨bank, moved, rfl⟩ := Option.map_eq_some_iff.1 sent
        obtain rfl := Except.ok.inj ran
        exact ⟨bank, rfl, (Ledger.send_spec moved).2⟩
  · rename_i nothing
    obtain rfl : n = 0 := by omega
    obtain rfl := Except.ok.inj ran
    exact paid_zero

theorem treasuryRecipients_runs (height : Int) (lawful : lib.Lawful)
    (payable : n = 0 ∨ k.getTreasuryAddress = moduleAccount ∧ d.keeper.blockedAddrs moduleAccount = false ∧
      n ≤ d.keeper.bank.balance moduleAccount) :
    ∃ d', (k.treasuryRecipients lib n).foldlM (payRecipient lib height) d = .ok d' := by
  rw [treasuryRecipients]
  split
  · rename_i positive
    obtain rfl | ⟨own, unblocked, covers⟩ := payable
    · omega
    · obtain ⟨bank, sent, -⟩ := send_covered moduleAccount covers
      refine ⟨{ d with keeper := d.keeper.withBank bank, localDist := d.localDist + n }, ?_⟩
      rw [payRecipient_single, payRecipient, lawful.roundTrip, own]
      dsimp only
      rw [if_pos rfl, sendCoinsFromModuleToAccount, sendCoins, Bool.false_or, unblocked, Int.toNat_natCast,
        sent]
      rfl
  · exact ⟨d, rfl⟩

theorem stakingRecipients_ok (lawful : lib.Lawful)
    (ran : (stakingRecipients n).foldlM (payRecipient lib height) d = .ok d') : n = 0 ∧ d' = d := by
  rw [stakingRecipients] at ran
  split at ran
  · rw [List.foldlM_cons, payRecipient] at ran
    cases known : lib.accAddressFromBech32 "staking" with
    | none =>
      rw [known] at ran
      cases ran
    | some account => exact absurd (lawful.separated _ _ known) (by decide)
  · rename_i nothing
    exact ⟨by omega, (Except.ok.inj ran).symm⟩

variable {name chain channel : String}

theorem chainRecipients_ok (lawful : lib.Lawful) (unseparated : '1' ∉ name.toList)
    (ran : (k.chainRecipients lib name chain channel n).foldlM (payRecipient lib height) d = .ok d') :
    (n = 0 ∨ channel = "" ∨ k.ibcWired = false) ∧ Paid k n d d' := by
  rw [chainRecipients] at ran
  split at ran
  · rw [List.foldlM_cons, payRecipient] at ran
    dsimp only at ran
    cases known : lib.accAddressFromBech32 name with
    | none =>
      rw [known] at ran
      cases ran
    | some account => exact absurd (lawful.separated _ _ known) unseparated
  · rename_i there
    refine ⟨?_, treasuryRecipients_ok lawful ran⟩
    simp only [not_and, Bool.not_eq_true] at there
    rcases Nat.eq_zero_or_pos n with zero | positive
    · exact Or.inl zero
    · by_cases named : channel = ""
      · exact Or.inr (Or.inl named)
      · exact Or.inr (Or.inr (there (by omega) named))

theorem chainRecipients_eq (missing : n = 0 ∨ channel = "" ∨ k.ibcWired = false) :
    k.chainRecipients lib name chain channel n = k.treasuryRecipients lib n := by
  rw [chainRecipients, if_neg]
  rintro ⟨positive, named, wired⟩
  obtain rfl | rfl | unwired := missing
  · exact absurd positive (by decide)
  · exact named rfl
  · exact absurd (wired.symm.trans unwired) (by decide)

end Distribution

section Epoch

def RewardsRound (k : TokenomicsKeeper) : Prop :=
  let total := k.epochRewards
  share k.params.emissionSplitStaking total = 0 ∧
    (share k.params.emissionSplitPoc total = 0 ∨ k.params.continuityIbcChannel = "" ∨ k.ibcWired = false) ∧
    (share k.params.emissionSplitSequencer total = 0 ∨ k.params.sequencerIbcChannel = "" ∨
      k.ibcWired = false) ∧
    (k.getTreasuryAddress = moduleAccount ∨
      share k.params.emissionSplitPoc total = 0 ∧ share k.params.emissionSplitSequencer total = 0 ∧
        share k.params.emissionSplitTreasury total = 0)

/-- The distribution of `total`: it is all given out but for rounding, and no account pays for it. -/
def RewardsReach (k : TokenomicsKeeper) (total : Int) (result : Except Failed Distribution) : Prop :=
  ∃ d, result = .ok d ∧ d.localDist + d.ibcDist ≤ total ∧ total ≤ d.localDist + d.ibcDist + 3 ∧
    ∀ a, k.bank.balance a ≤ d.keeper.bank.balance a

theorem distribute_eq {total : Int} (height : Int) :
    minted.distributeRewardsViaIBC lib height (minted.calculateRewardSplits lib total) = (do
      let d ← (stakingRecipients (share minted.params.emissionSplitStaking total)).foldlM
        (payRecipient lib height) ⟨minted, 0, 0, []⟩
      let d ← (minted.chainRecipients lib "poc" "omniphi-continuity-1" minted.params.continuityIbcChannel
        (share minted.params.emissionSplitPoc total)).foldlM (payRecipient lib height) d
      let d ← (minted.chainRecipients lib "sequencer" "omniphi-sequencer-1" minted.params.sequencerIbcChannel
        (share minted.params.emissionSplitSequencer total)).foldlM (payRecipient lib height) d
      (minted.treasuryRecipients lib (share minted.params.emissionSplitTreasury total)).foldlM
        (payRecipient lib height) d) := by
  rw [distributeRewardsViaIBC, calculateRewardSplits, List.foldlM_append]
  refine congrArg _ (funext fun d => ?_)
  rw [List.foldlM_append]
  refine congrArg _ (funext fun d => ?_)
  rw [List.foldlM_append]

variable {height : Int}

theorem distribute_ok (lawful : lib.Lawful) (valid : minted.params.Valid) {total : Int} (nonneg : 0 ≤ total)
    {d : Distribution}
    (ran : minted.distributeRewardsViaIBC lib height (minted.calculateRewardSplits lib total) = .ok d) :
    ∃ poc sequencer treasury : Nat,
      share minted.params.emissionSplitStaking total = 0 ∧
      share minted.params.emissionSplitPoc total = poc ∧
      share minted.params.emissionSplitSequencer total = sequencer ∧
      share minted.params.emissionSplitTreasury total = treasury ∧
      (poc = 0 ∨ minted.params.continuityIbcChannel = "" ∨ minted.ibcWired = false) ∧
      (sequencer = 0 ∨ minted.params.sequencerIbcChannel = "" ∨ minted.ibcWired = false) ∧
      d.packets = [] ∧ d.ibcDist = 0 ∧ d.localDist = poc + sequencer + treasury ∧
      d.keeper.params = minted.params ∧
      ∀ a, d.keeper.bank.balance a + (if a = moduleAccount then poc + sequencer + treasury else 0) =
        minted.bank.balance a + if a = minted.getTreasuryAddress then poc + sequencer + treasury else 0 := by
  obtain ⟨-, -, stakingNonneg, pocNonneg, sequencerNonneg, treasuryNonneg⟩ := shares_bounds valid nonneg
  rw [distribute_eq] at ran
  generalize share minted.params.emissionSplitStaking total = staking at *
  generalize share minted.params.emissionSplitPoc total = poc at *
  generalize share minted.params.emissionSplitSequencer total = sequencer at *
  generalize share minted.params.emissionSplitTreasury total = treasury at *
  lift staking to Nat using stakingNonneg
  lift poc to Nat using pocNonneg
  lift sequencer to Nat using sequencerNonneg
  lift treasury to Nat using treasuryNonneg
  obtain ⟨d₁, first, ran⟩ := of_bind_ok ran
  obtain ⟨d₂, second, ran⟩ := of_bind_ok ran
  obtain ⟨d₃, third, ran⟩ := of_bind_ok ran
  obtain ⟨noStaking, rfl⟩ := stakingRecipients_ok lawful first
  obtain ⟨noPoc, bank₁, rfl, moved₁⟩ := chainRecipients_ok lawful (by decide) second
  obtain ⟨noSequencer, bank₂, rfl, moved₂⟩ := chainRecipients_ok lawful (by decide) third
  obtain ⟨bank₃, rfl, moved₃⟩ := treasuryRecipients_ok lawful ran
  refine ⟨poc, sequencer, treasury, by omega, rfl, rfl, rfl, noPoc, noSequencer, rfl, rfl, ?_, rfl, ?_⟩
  · show (0 : Int) + poc + sequencer + treasury = _
    omega
  · intro a
    have one := moved₁ a
    have two := moved₂ a
    have three := moved₃ a
    change bank₁.balance a + _ = minted.bank.balance a + _ at one
    change bank₂.balance a + _ = bank₁.balance a + _ at two
    change bank₃.balance a + _ = bank₂.balance a + _ at three
    show bank₃.balance a + _ = _
    by_cases atModule : a = moduleAccount
    · rw [if_pos atModule] at one two three ⊢
      by_cases toTreasury : a = minted.getTreasuryAddress
      · rw [if_pos toTreasury] at one two three ⊢
        omega
      · rw [if_neg toTreasury] at one two three ⊢
        omega
    · rw [if_neg atModule] at one two three ⊢
      by_cases toTreasury : a = minted.getTreasuryAddress
      · rw [if_pos toTreasury] at one two three ⊢
        omega
      · rw [if_neg toTreasury] at one two three ⊢
        omega

theorem distribute_runs (height : Int) (lawful : lib.Lawful) (valid : minted.params.Valid) {total : Int} (nonneg : 0 ≤ total)
    (noStaking : share minted.params.emissionSplitStaking total = 0)
    (noPoc : share minted.params.emissionSplitPoc total = 0 ∨ minted.params.continuityIbcChannel = "" ∨
      minted.ibcWired = false)
    (noSequencer : share minted.params.emissionSplitSequencer total = 0 ∨
      minted.params.sequencerIbcChannel = "" ∨ minted.ibcWired = false)
    (payable : minted.getTreasuryAddress = moduleAccount ∧ minted.blockedAddrs moduleAccount = false ∧
        total ≤ minted.bank.balance moduleAccount ∨
      share minted.params.emissionSplitPoc total = 0 ∧ share minted.params.emissionSplitSequencer total = 0 ∧
        share minted.params.emissionSplitTreasury total = 0) :
    ∃ d, minted.distributeRewardsViaIBC lib height (minted.calculateRewardSplits lib total) = .ok d := by
  obtain ⟨within, -, -, pocNonneg, sequencerNonneg, treasuryNonneg⟩ := shares_bounds valid nonneg
  rw [distribute_eq, noStaking]
  rw [noStaking] at within
  generalize share minted.params.emissionSplitPoc total = poc at *
  generalize share minted.params.emissionSplitSequencer total = sequencer at *
  generalize share minted.params.emissionSplitTreasury total = treasury at *
  lift poc to Nat using pocNonneg
  lift sequencer to Nat using sequencerNonneg
  lift treasury to Nat using treasuryNonneg
  simp only [Int.natCast_eq_zero] at noPoc noSequencer payable
  rw [chainRecipients_eq noPoc, chainRecipients_eq noSequencer]
  have noStep : (stakingRecipients 0).foldlM (payRecipient lib height) ⟨minted, 0, 0, []⟩ =
      Except.ok ⟨minted, 0, 0, []⟩ := rfl
  rw [bind_ok noStep]
  obtain ⟨d₁, first⟩ := treasuryRecipients_runs (k := minted) (n := poc) (d := ⟨minted, 0, 0, []⟩) height
    lawful (by
      obtain ⟨own, unblocked, covers⟩ | ⟨none, -, -⟩ := payable
      · exact Or.inr ⟨own, unblocked, by show _ ≤ minted.bank.balance moduleAccount; omega⟩
      · exact Or.inl none)
  rw [bind_ok first]
  obtain ⟨bank₁, rfl, moved₁⟩ := treasuryRecipients_ok lawful first
  change ∀ a, bank₁.balance a + _ = minted.bank.balance a + _ at moved₁
  obtain ⟨d₂, second⟩ := treasuryRecipients_runs (k := minted) (n := sequencer)
    (d := ⟨minted.withBank bank₁, 0 + poc, 0, []⟩) height lawful (by
      obtain ⟨own, unblocked, covers⟩ | ⟨-, none, -⟩ := payable
      · refine Or.inr ⟨own, unblocked, ?_⟩
        have same := moved₁ moduleAccount
        rw [if_pos rfl, own, if_pos rfl] at same
        show _ ≤ bank₁.balance moduleAccount
        omega
      · exact Or.inl none)
  rw [bind_ok second]
  obtain ⟨bank₂, rfl, moved₂⟩ := treasuryRecipients_ok lawful second
  change ∀ a, bank₂.balance a + _ = bank₁.balance a + _ at moved₂
  refine treasuryRecipients_runs height lawful ?_
  obtain ⟨own, unblocked, covers⟩ | ⟨-, -, none⟩ := payable
  · refine Or.inr ⟨own, unblocked, ?_⟩
    have same := moved₁ moduleAccount
    have again := moved₂ moduleAccount
    rw [if_pos rfl, own, if_pos rfl] at same again
    show _ ≤ bank₂.balance moduleAccount
    omega
  · exact Or.inl none

end Epoch

section BeginBlock

/-- At a reward height the epoch has rewards, and minting them for the treasury succeeds. -/
def Mints (k : TokenomicsKeeper) (block : Block) : Prop :=
  (k.withBurnRatio block).shouldDistributeRewards block = true ∧ 0 < k.epochRewards ∧
    ∃ minted, (k.withBurnRatio block).mintTokens (fun _ => false) k.epochRewards k.getTreasuryAddress =
      .ok minted

theorem withBurnRatio_frame (k : TokenomicsKeeper) (block : Block) :
    (k.withBurnRatio block).epochRewards = k.epochRewards ∧
      (k.withBurnRatio block).getTreasuryAddress = k.getTreasuryAddress ∧
      ((k.withBurnRatio block).RewardsRound ↔ k.RewardsRound) := by
  obtain same | ⟨_, _, -, same⟩ := withBurnRatio_cases k block
  · rw [same]
    exact ⟨rfl, rfl, Iff.rfl⟩
  · rw [same]
    exact ⟨rfl, rfl, Iff.rfl⟩

theorem distributeEpoch_reaches (block : Block) (lawful : lib.Lawful) (valid : k.params.Valid) (positive : 0 < k.epochRewards)
    (ran : k.mintTokens (fun _ => false) k.epochRewards k.getTreasuryAddress = .ok minted) :
    RewardsReach k k.epochRewards (k.distributeEpoch lib block) ↔ k.RewardsRound := by
  obtain ⟨-, unblocked, bank, rfl, given⟩ := mintTokens_ok ran
  have validMinted : (k.credited bank k.epochRewards).params.Valid := valid
  rw [distributeEpoch, if_neg (Int.not_le.2 positive), bind_ok ran, RewardsRound]
  obtain ⟨low, high, -⟩ := shares_bounds valid positive.le
  constructor
  · rintro ⟨d, distributed, -, -, kept⟩
    obtain ⟨poc, sequencer, treasury, noStaking, pocEq, sequencerEq, treasuryEq, noPoc, noSequencer, -, -, -, -,
      moved⟩ := distribute_ok lawful validMinted positive.le distributed
    refine ⟨noStaking, ?_, ?_, ?_⟩
    · exact noPoc.imp_left fun zero => pocEq.trans (by rw [zero]; rfl)
    · exact noSequencer.imp_left fun zero => sequencerEq.trans (by rw [zero]; rfl)
    · by_cases own : k.getTreasuryAddress = moduleAccount
      · exact Or.inl own
      · have paid := moved moduleAccount
        have before := given moduleAccount
        have least := kept moduleAccount
        change _ = bank.balance moduleAccount +
          if moduleAccount = k.getTreasuryAddress then poc + sequencer + treasury else 0 at paid
        rw [if_pos rfl, if_neg (Ne.symm own)] at paid
        rw [if_neg (Ne.symm own)] at before
        exact Or.inr ⟨pocEq.trans (by omega), sequencerEq.trans (by omega), treasuryEq.trans (by omega)⟩
  · rintro ⟨noStaking, noPoc, noSequencer, own⟩
    obtain ⟨d, distributed⟩ := distribute_runs block.height lawful validMinted positive.le noStaking noPoc
      noSequencer (own.imp_left fun (own : k.getTreasuryAddress = moduleAccount) =>
        ⟨own, by rw [← own]; exact unblocked, by
        have filled := given moduleAccount
        rw [own, if_pos rfl] at filled
        show _ ≤ (bank.balance moduleAccount : Int)
        omega⟩)
    obtain ⟨poc, sequencer, treasury, -, pocEq, sequencerEq, treasuryEq, -, -, -, noIbc, paid, -, moved⟩ :=
      distribute_ok lawful validMinted positive.le distributed
    change share k.params.emissionSplitPoc k.epochRewards = poc at pocEq
    change share k.params.emissionSplitSequencer k.epochRewards = sequencer at sequencerEq
    change share k.params.emissionSplitTreasury k.epochRewards = treasury at treasuryEq
    refine ⟨d, distributed, by omega, by omega, fun a => ?_⟩
    have change₁ := given a
    have change₂ := moved a
    change _ = bank.balance a + if a = k.getTreasuryAddress then poc + sequencer + treasury else 0 at change₂
    obtain own | ⟨zeroPoc, zeroSequencer, zeroTreasury⟩ := own
    · rw [own] at change₂
      omega
    · have none : poc + sequencer + treasury = 0 := by omega
      rw [none, ite_self, ite_self] at change₂
      omega

theorem beginBlock_reaches (lawful : lib.Lawful) (valid : k.params.Valid) (mints : k.Mints block) :
    RewardsReach k k.epochRewards (k.beginBlock lib block) ↔ k.RewardsRound := by
  obtain ⟨due, positive, minted, ran⟩ := mints
  obtain ⟨rewards, treasury, round⟩ := withBurnRatio_frame k block
  rw [← round, beginBlock]
  rw [if_pos due, ← distributeEpoch_reaches block lawful (withBurnRatio_valid valid)
    (by rwa [rewards]) (by rwa [rewards, treasury]), rewards, RewardsReach, RewardsReach, withBurnRatio_bank]

theorem beginBlock_ok (lawful : lib.Lawful) (valid : k.params.Valid) {d : Distribution}
    (ran : k.beginBlock lib block = .ok d) : d.packets = [] ∧ d.keeper.params.Valid := by
  have stillValid : (k.withBurnRatio block).params.Valid := withBurnRatio_valid valid
  rw [beginBlock] at ran
  split at ran
  · rw [distributeEpoch] at ran
    split at ran
    · obtain rfl := Except.ok.inj ran
      exact ⟨rfl, stillValid⟩
    · rename_i positive
      obtain ⟨minted, mints, distributed⟩ := of_bind_ok ran
      obtain ⟨-, -, bank, rfl, -⟩ := mintTokens_ok mints
      have validMinted : ((k.withBurnRatio block).credited bank
          (k.withBurnRatio block).epochRewards).params.Valid := stillValid
      obtain ⟨_, _, _, -, -, -, -, -, -, none, -, -, params, -⟩ :=
        distribute_ok lawful validMinted (Int.not_le.1 positive).le distributed
      exact ⟨none, by rw [params]; exact validMinted⟩
  · obtain rfl := Except.ok.inj ran
    exact ⟨rfl, stillValid⟩

end BeginBlock

section Timeouts

/-- The packet's amount is positive, and the module can and may pay it to the authority. -/
def Refundable (lib : Library) (k : TokenomicsKeeper) (packet : IBCRewardPacket) : Prop :=
  ∃ amount account, lib.newIntFromString packet.amount = some amount ∧ 0 < amount ∧ k.authority ≠ "" ∧
    lib.accAddressFromBech32 k.authority = some account ∧ k.blockedAddrs account = false ∧
    amount.toNat ≤ k.bank.balance moduleAccount

theorem onTimeoutIBCReward_ok {packet : IBCRewardPacket}
    (ran : k.onTimeoutIBCReward lib packet = .ok k') : k.Refundable lib packet ∧ k'.params = k.params := by
  unfold onTimeoutIBCReward at ran
  cases parsed : lib.newIntFromString packet.amount with
  | none =>
    rw [parsed] at ran
    cases ran
  | some amount =>
    rw [parsed] at ran
    dsimp only at ran
    split at ran
    · cases ran
    split at ran
    · cases ran
    rename_i positive named
    cases known : lib.accAddressFromBech32 k.authority with
    | none =>
      rw [known] at ran
      cases ran
    | some account =>
      rw [known] at ran
      dsimp only [sendCoinsFromModuleToAccount, sendCoins] at ran
      cases unblocked : k.blockedAddrs account with
      | true =>
        rw [unblocked] at ran
        cases ran
      | false =>
        simp only [unblocked, Bool.or_false, Bool.false_eq_true, if_false] at ran
        cases sent : k.bank.send moduleAccount account amount.toNat with
        | none =>
          rw [sent] at ran
          cases ran
        | some bank =>
          rw [sent] at ran
          obtain rfl := Except.ok.inj ran
          exact ⟨⟨amount, account, parsed, Int.not_le.1 positive, named, known, unblocked,
            (Ledger.send_spec sent).1⟩, rfl⟩

theorem onTimeoutIBCReward_runs {packet : IBCRewardPacket} (refundable : k.Refundable lib packet) :
    ∃ k', k.onTimeoutIBCReward lib packet = .ok k' := by
  obtain ⟨amount, account, parsed, positive, named, known, unblocked, covers⟩ := refundable
  obtain ⟨bank, sent, -⟩ := send_covered account covers
  refine ⟨k.withBank bank, ?_⟩
  rw [onTimeoutIBCReward, parsed]
  dsimp only
  rw [if_neg (Int.not_le.2 positive), if_neg named, known]
  dsimp only
  rw [sendCoinsFromModuleToAccount, sendCoins, unblocked, if_neg (by decide), sent]
  rfl

end Timeouts

end TokenomicsKeeper

structure World where
  keeper : TokenomicsKeeper
  queued : List IBCRewardPacket
  recovered : List IBCRewardPacket

inductive Action
  | beginBlock (block : Block)
  | timeout (packet : IBCRewardPacket)
  -- Whatever else happens on the chain, it leaves params that are valid.
  | elsewhere (keeper : TokenomicsKeeper)

namespace World

open TokenomicsKeeper

variable (lib : Library) (w : World)

-- What ends in an error is not committed.
def step : World → Action → World
  | w, .beginBlock block =>
    match w.keeper.beginBlock lib block with
    | .ok d => { w with keeper := d.keeper, queued := w.queued ++ d.packets }
    | .error _ => w
  | w, .timeout packet =>
    match w.keeper.onTimeoutIBCReward lib packet with
    | .ok k => { w with keeper := k, recovered := w.recovered ++ [packet] }
    | .error _ => w
  | w, .elsewhere keeper => if keeper.params.Valid then { w with keeper := keeper } else w

def amountOf (packet : IBCRewardPacket) (packets : List IBCRewardPacket) : Int :=
  ((packets.filter fun other => decide (other = packet)).map fun other =>
    (lib.newIntFromString other.amount).getD 0).sum

/-- No packet is refunded for more than was queued for it. -/
def RefundsCovered : Prop := ∀ packet, amountOf lib packet w.recovered ≤ amountOf lib packet w.queued

def Delivers (action : Action) : Prop :=
  (match action with
    | .beginBlock block =>
      w.keeper.Mints block →
        RewardsReach w.keeper w.keeper.epochRewards (w.keeper.beginBlock lib block)
    | _ => True) ∧
  (step lib w action).RefundsCovered lib

def Meets : Action → Prop
  | .beginBlock block => w.keeper.Mints block → w.keeper.RewardsRound
  | .timeout packet => ¬ w.keeper.Refundable lib packet
  | .elsewhere _ => True

structure Untouched : Prop where
  valid : w.keeper.params.Valid
  queued : w.queued = []
  recovered : w.recovered = []

variable {lib w}

theorem Untouched.covered (untouched : w.Untouched) : w.RefundsCovered lib := by
  intro packet
  rw [untouched.queued, untouched.recovered]

theorem beginBlock_untouched (lawful : lib.Lawful) (untouched : w.Untouched) (block : Block) :
    (step lib w (.beginBlock block)).Untouched := by
  simp only [step]
  cases ran : w.keeper.beginBlock lib block with
  | error failed => exact untouched
  | ok d =>
    obtain ⟨none, valid⟩ := beginBlock_ok lawful untouched.valid ran
    exact ⟨valid, by simp [untouched.queued, none], untouched.recovered⟩

theorem elsewhere_untouched (untouched : w.Untouched) (keeper : TokenomicsKeeper) :
    (step lib w (.elsewhere keeper)).Untouched := by
  simp only [step]
  split
  · rename_i valid
    exact ⟨valid, untouched.queued, untouched.recovered⟩
  · exact untouched

theorem timeout_covered (untouched : w.Untouched) (packet : IBCRewardPacket) :
    (step lib w (.timeout packet)).RefundsCovered lib ↔ ¬ w.keeper.Refundable lib packet := by
  simp only [step]
  cases ran : w.keeper.onTimeoutIBCReward lib packet with
  | error failed =>
    refine iff_of_true untouched.covered fun refundable => ?_
    obtain ⟨k, runs⟩ := onTimeoutIBCReward_runs refundable
    rw [ran] at runs
    cases runs
  | ok k =>
    obtain ⟨refundable, -⟩ := onTimeoutIBCReward_ok ran
    refine iff_of_false (fun covered => ?_) (not_not.2 refundable)
    obtain ⟨amount, _, parsed, positive, -⟩ := refundable
    have most := covered packet
    simp only [untouched.queued, untouched.recovered, amountOf, List.nil_append, List.filter_cons,
      List.filter_nil, decide_true, if_true, List.map_cons, List.map_nil, List.sum_cons, List.sum_nil, parsed,
      Option.getD_some] at most
    omega

theorem delivers_iff (lawful : lib.Lawful) (untouched : w.Untouched) (action : Action) :
    w.Delivers lib action ↔ w.Meets lib action := by
  cases action with
  | beginBlock block =>
    rw [Delivers, Meets, and_iff_left (beginBlock_untouched lawful untouched block).covered]
    exact forall_congr' fun mints => beginBlock_reaches lawful untouched.valid mints
  | timeout packet =>
    show True ∧ _ ↔ _
    rw [true_and]
    exact timeout_covered untouched packet
  | elsewhere keeper =>
    exact iff_of_true ⟨trivial, (elsewhere_untouched untouched keeper).covered⟩ trivial

theorem step_untouched (lawful : lib.Lawful) (untouched : w.Untouched) (action : Action)
    (meets : w.Meets lib action) : (step lib w action).Untouched := by
  cases action with
  | beginBlock block => exact beginBlock_untouched lawful untouched block
  | timeout packet =>
    simp only [step]
    cases ran : w.keeper.onTimeoutIBCReward lib packet with
    | error failed => exact untouched
    | ok k => exact absurd (onTimeoutIBCReward_ok ran).1 meets
  | elsewhere keeper => exact elsewhere_untouched untouched keeper

def start (k : TokenomicsKeeper) : World := ⟨k, [], []⟩

/-- A run delivers all rewards and covers all refunds just when every epoch it mints for rounds to nothing
that would leave the module, and no packet that times out can be refunded. -/
theorem delivers_iff_meets (lib : Library) (lawful : lib.Lawful) (k : TokenomicsKeeper) (valid : k.params.Valid)
    (run : List Action) :
    Run.Along (step lib) (Delivers lib) (start k) run ↔ Run.Along (step lib) (Meets lib) (start k) run := by
  have begun : (start k).Untouched := ⟨valid, rfl, rfl⟩
  refine Run.along_congr ?_ ?_ begun run
  · intro w action untouched
    exact delivers_iff lawful untouched action
  · intro w action untouched delivers
    exact step_untouched lawful untouched action ((delivers_iff lawful untouched action).1 delivers)

section DefaultEpoch

def plainLibrary : Library where
  accAddressFromBech32 text :=
    match text.toList with
    | 'o' :: 'm' :: 'n' :: 'i' :: '1' :: 'u' :: rest => some (.user (String.ofList rest))
    | 'o' :: 'm' :: 'n' :: 'i' :: '1' :: 'm' :: rest => some (.module (String.ofList rest))
    | _ => none
  bech32
    | .user address => String.ofList ("omni1u".toList ++ address.toList)
    | .module name => String.ofList ("omni1m".toList ++ name.toList)
  newIntFromString text := text.toInt?

theorem plainLibrary_lawful : plainLibrary.Lawful := by
  constructor
  · intro account
    cases account <;> simp [plainLibrary]
  · intro text account known
    unfold plainLibrary at known
    dsimp only at known
    split at known
    · rename_i listed
      rw [listed]
      simp
    · rename_i listed
      rw [listed]
      simp
    · cases known

def ownTreasury : TokenomicsKeeper := { blockedTreasury with treasuryAddress := some (.user "treasury") }

def hundredth : Block := ⟨100, 0, 0⟩

theorem ownTreasury_valid : ownTreasury.params.Valid := by decide +kernel

theorem hundredth_mints : ownTreasury.Mints hundredth := by
  have ok : ((ownTreasury.withBurnRatio hundredth).mintTokens (fun _ => false) ownTreasury.epochRewards
      ownTreasury.getTreasuryAddress).isOk = true := by decide +kernel
  refine ⟨by decide +kernel, by decide +kernel, ?_⟩
  cases ran : (ownTreasury.withBurnRatio hundredth).mintTokens (fun _ => false) ownTreasury.epochRewards
      ownTreasury.getTreasuryAddress with
  | ok minted => exact ⟨minted, rfl⟩
  | error failed =>
    rw [ran] at ok
    cases ok

/-- At the default params the first reward height mints, and the staking module is no address. -/
theorem epoch_rewards_stop_the_block :
    plainLibrary.Lawful ∧ ownTreasury.params.Valid ∧ ownTreasury.Mints hundredth ∧
      (ownTreasury.beginBlock plainLibrary hundredth).isOk = false ∧
      ¬ Run.Along (step plainLibrary) (Delivers plainLibrary) (start ownTreasury) [.beginBlock hundredth] := by
  refine ⟨plainLibrary_lawful, ownTreasury_valid, hundredth_mints, by decide +kernel, fun along => ?_⟩
  have meets := (delivers_iff plainLibrary_lawful ⟨ownTreasury_valid, rfl, rfl⟩ _).1 along.1
  exact absurd (meets hundredth_mints).1 (by decide +kernel)

theorem delivers_iff_meets_hundredth :
    plainLibrary.Lawful ∧ ownTreasury.params.Valid ∧
      (Run.Along (step plainLibrary) (Delivers plainLibrary) (start ownTreasury) [.beginBlock hundredth] ↔
        Run.Along (step plainLibrary) (Meets plainLibrary) (start ownTreasury) [.beginBlock hundredth]) :=
  ⟨plainLibrary_lawful, ownTreasury_valid,
    delivers_iff_meets plainLibrary plainLibrary_lawful ownTreasury ownTreasury_valid [.beginBlock hundredth]⟩

end DefaultEpoch

end World

end Omniphi.Tokenomics
