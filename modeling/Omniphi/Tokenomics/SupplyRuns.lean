import Omniphi.Tokenomics.SupplySteps

/-! The two sets of supply counters, from genesis over runs of all that mints and burns. -/

namespace Omniphi.Tokenomics

open Outcome

section Runs

/-- A keeper, and the burns on other chains that have lowered its supply. -/
structure SupplyWorld where
  keeper : TokenomicsKeeper
  lowered : List (String × String)

inductive SupplyAction
  | mintTokens (amount : Int) (recipient : Account)
  | mintInflation (height : Int)
  | burnTokens (ctx : Ctx) (burner : Account) (amount : Int) (source : BurnSource) (chainID : String)
  | processBlockFees
  | reportBurn (msg : MsgReportBurn)
  | onRecvBurnReport (packet : IBCBurnReportPacket)
  | updateParams (authority : String) (params : Params)

namespace SupplyWorld

variable (lib : Library) (hasStaking : Bool) (w : SupplyWorld)

-- What a message or a packet that fails has written is undone.
def commit (result : Except Failed TokenomicsKeeper) : SupplyWorld :=
  match result with
  | .ok k => { w with keeper := k }
  | .error _ => w

def report (burn : String × String) (amount : Int) (result : Except Failed TokenomicsKeeper) : SupplyWorld :=
  match result with
  | .ok k => { keeper := k, lowered := if 0 < amount then w.lowered ++ [burn] else w.lowered }
  | .error _ => w

/-- The bank is a ledger that refuses only what an account does not hold and what goes to a blocked
account. The end of a block goes on with what the fees left behind. -/
def step : SupplyAction → SupplyWorld
  | .mintTokens amount recipient => w.commit (w.keeper.mintTokens (fun _ => false) amount recipient)
  | .mintInflation height => w.commit (w.keeper.mintInflation hasStaking height)
  | .burnTokens ctx burner amount source chainID =>
      w.commit ((w.keeper.burnTokens (fun _ => false) ctx burner amount source chainID).map Prod.fst)
  | .processBlockFees => { w with keeper := w.keeper.endBlock fun _ => false }
  | .reportBurn msg => w.report (msg.chainId, msg.txHash) msg.amount (w.keeper.reportBurn msg)
  | .onRecvBurnReport packet =>
      w.report (packet.chainID, packet.txHash) ((lib.newIntFromString packet.amount).getD 0)
        (w.keeper.onRecvBurnReport lib packet)
  | .updateParams authority params => w.commit (w.keeper.updateParams authority params)

/-- The supply is within the cap and accounted for, in the store as in the params. What the bank holds more
than before genesis is what was minted and not burned. -/
structure SupplyAccounts (before : Bank) : Prop where
  nonneg : 0 ≤ w.keeper.currentSupply
  capped : w.keeper.currentSupply ≤ w.keeper.params.totalSupplyCap
  conserved : w.keeper.currentSupply = w.keeper.totalMinted - w.keeper.totalBurned
  currentAgrees : w.keeper.currentSupply = w.keeper.params.currentTotalSupply
  mintedAgrees : w.keeper.totalMinted = w.keeper.params.totalMinted
  burnedAgrees : w.keeper.totalBurned = w.keeper.params.totalBurned
  bankCapped : (w.keeper.bank.total : Int) ≤ before.total + w.keeper.params.totalSupplyCap
  once : w.lowered.Nodup

def Moves (k : TokenomicsKeeper) : SupplyAction → Prop
  | .mintTokens amount recipient => k.MintMoves amount recipient
  | .mintInflation height => k.InflationMoves hasStaking height
  | .burnTokens _ burner amount _ _ => k.BurnMoves burner amount
  | .processBlockFees => k.FeesMove
  | .reportBurn msg => msg.proof ≠ [] ∧ msg.amount ≠ 0
  | .onRecvBurnReport packet => TokenomicsKeeper.ReportMoves lib k packet
  | .updateParams authority params =>
      authority = k.authority ∧ params.Valid ∧ params.totalSupplyCap = k.params.totalSupplyCap ∧
        ¬ (params.currentTotalSupply = k.params.currentTotalSupply ∧ params.totalMinted = k.params.totalMinted ∧
          params.totalBurned = k.params.totalBurned)

structure Sound (before : Bank) : Prop extends SupplyAccounts w before where
  valid : w.keeper.params.Valid
  finite : w.keeper.bank.Finite

variable {lib} {hasStaking} {w} {before : Bank}

theorem SupplyAccounts.drained (accounts : w.SupplyAccounts before) (finite : w.keeper.bank.Finite)
    {k : TokenomicsKeeper} (drained : TokenomicsKeeper.Drained w.keeper k) :
    SupplyAccounts ⟨k, w.lowered⟩ before := by
  constructor
  case nonneg => exact accounts.nonneg.trans_eq drained.currentSupply.symm
  case capped =>
    rw [drained.currentSupply, drained.params]
    exact accounts.capped
  case conserved =>
    rw [drained.currentSupply, drained.totalMinted, drained.totalBurned]
    exact accounts.conserved
  case currentAgrees =>
    rw [drained.currentSupply, drained.params]
    exact accounts.currentAgrees
  case mintedAgrees =>
    rw [drained.totalMinted, drained.params]
    exact accounts.mintedAgrees
  case burnedAgrees =>
    rw [drained.totalBurned, drained.params]
    exact accounts.burnedAgrees
  case bankCapped =>
    rw [drained.params]
    exact (Int.ofNat_le.2 (drained.bank finite).2).trans accounts.bankCapped
  case once => exact accounts.once

theorem Sound.drained (sound : w.Sound before) {k : TokenomicsKeeper}
    (drained : TokenomicsKeeper.Drained w.keeper k) : Sound ⟨k, w.lowered⟩ before where
  toSupplyAccounts := sound.toSupplyAccounts.drained sound.finite drained
  valid := drained.params ▸ sound.valid
  finite := (drained.bank sound.finite).1

theorem Sound.commit (sound : w.Sound before) {result : Except Failed TokenomicsKeeper}
    (goes : ∀ k, result = .ok k → Sound ⟨k, w.lowered⟩ before) : (w.commit result).Sound before := by
  cases result with
  | ok k => exact goes k rfl
  | error failed => exact sound

theorem Sound.report (sound : w.Sound before) {burn : String × String} {amount : Int}
    {result : Except Failed TokenomicsKeeper}
    (goes : ∀ k, result = .ok k → amount = 0 ∧ Sound ⟨k, w.lowered⟩ before) :
    (w.report burn amount result).Sound before := by
  cases result with
  | ok k =>
    obtain ⟨rfl, after⟩ := goes k rfl
    exact after
  | error failed => exact sound

theorem updateParams_cases {authority : String} {params : Params} {k : TokenomicsKeeper}
    (ran : w.keeper.updateParams authority params = .ok k) :
    authority = w.keeper.authority ∧ params.Valid ∧ k = { w.keeper with params := params } ∧
      (w.keeper.params.totalSupplyCap ≠ 0 → params.totalSupplyCap = w.keeper.params.totalSupplyCap) := by
  unfold TokenomicsKeeper.updateParams at ran
  obtain ⟨authorized, ran⟩ := guard_ok.1 ran
  split at ran
  · cases ran
  rename_i valid
  unfold TokenomicsKeeper.setParams at ran
  obtain ⟨capKept, ran⟩ := guard_ok.1 ran
  rw [valid] at ran
  obtain rfl := Except.ok.inj ran
  exact ⟨not_not.1 authorized, valid, rfl, fun set => by_contra fun changed => capKept ⟨set, changed⟩⟩

theorem Sound.updateParams (sound : w.Sound before) {authority : String} {params : Params}
    (quiet : ¬ Moves lib hasStaking w.keeper (.updateParams authority params)) :
    (w.step lib hasStaking (.updateParams authority params)).Sound before := by
  refine sound.commit fun k ran => ?_
  obtain ⟨authorized, valid, rfl, kept⟩ := updateParams_cases ran
  have positive := (TokenomicsKeeper.supplyChecks_iff.1 (TokenomicsKeeper.supply_of_valid sound.valid)).1
  have cap := kept positive.ne'
  obtain ⟨current, minted, burned⟩ := by_contra fun changed => quiet ⟨authorized, valid, cap, changed⟩
  refine ⟨?_, valid, sound.finite⟩
  constructor
  case nonneg => exact sound.nonneg
  case capped => exact sound.capped.trans_eq cap.symm
  case conserved => exact sound.conserved
  case currentAgrees => exact sound.currentAgrees.trans current.symm
  case mintedAgrees => exact sound.mintedAgrees.trans minted.symm
  case burnedAgrees => exact sound.burnedAgrees.trans burned.symm
  case bankCapped =>
    show (w.keeper.bank.total : Int) ≤ before.total + params.totalSupplyCap
    rw [cap]
    exact sound.bankCapped
  case once => exact sound.once

theorem Sound.step (sound : w.Sound before) (action : SupplyAction)
    (quiet : ¬ Moves lib hasStaking w.keeper action) : (w.step lib hasStaking action).Sound before := by
  cases action with
  | mintTokens amount recipient =>
    exact sound.commit fun k ran => absurd (TokenomicsKeeper.mintMoves_of_ok ran) quiet
  | mintInflation height =>
    refine sound.commit fun k ran => ?_
    obtain rfl | moves := TokenomicsKeeper.mintInflation_cases ran
    · exact sound
    · exact absurd moves quiet
  | burnTokens ctx burner amount source chainID =>
    refine sound.commit fun k ran => ?_
    cases result : w.keeper.burnTokens (fun _ => false) ctx burner amount source chainID with
    | error failed =>
      rw [result] at ran
      cases ran
    | ok burned => exact absurd (TokenomicsKeeper.burnMoves_of_ok result) quiet
  | processBlockFees => exact sound.drained (TokenomicsKeeper.endBlock_drained sound.valid quiet)
  | reportBurn msg =>
    refine sound.report fun k ran => ?_
    obtain ⟨proven, ran⟩ := guard_ok.1 ran
    have zero : msg.amount = 0 := by_contra fun some_burned => quiet ⟨proven, some_burned⟩
    obtain rfl := Except.ok.inj ran
    rw [zero, TokenomicsKeeper.countBurn_zero]
    exact ⟨rfl, sound.drained ⟨rfl, rfl, rfl, rfl, rfl, rfl, fun finite => ⟨finite, le_rfl⟩⟩⟩
  | onRecvBurnReport packet =>
    refine sound.report fun k ran => ?_
    obtain ⟨amount, read, allowed, proven, fresh, drained⟩ := TokenomicsKeeper.onRecvBurnReport_cases ran
    have zero : amount = 0 :=
      by_contra fun some_burned => quiet ⟨amount, read, some_burned, allowed, proven, fresh⟩
    rw [read]
    exact ⟨zero, sound.drained (drained zero)⟩
  | updateParams authority params => exact sound.updateParams quiet

theorem Sound.not_accounts (sound : w.Sound before) (action : SupplyAction)
    (moves : Moves lib hasStaking w.keeper action) :
    ¬ (w.step lib hasStaking action).SupplyAccounts before := by
  intro accounts
  have minted := accounts.mintedAgrees
  have burned := accounts.burnedAgrees
  have mintedBefore := sound.mintedAgrees
  have burnedBefore := sound.burnedAgrees
  cases action with
  | mintTokens amount recipient =>
    obtain ⟨k, ran, params, more⟩ := TokenomicsKeeper.mintTokens_moves moves
    have positive := moves.1
    rw [SupplyWorld.step, ran] at minted
    change k.totalMinted = k.params.totalMinted at minted
    rw [params, more] at minted
    omega
  | mintInflation height =>
    have nonneg : 0 ≤ w.keeper.params.currentTotalSupply := sound.currentAgrees ▸ sound.nonneg
    obtain ⟨k, ran, same, more⟩ := TokenomicsKeeper.mintInflation_moves sound.valid nonneg moves
    have positive := (TokenomicsKeeper.cappedProvision_pos nonneg moves).1
    rw [SupplyWorld.step, ran] at minted
    change k.totalMinted = k.params.totalMinted at minted
    rw [same, more] at minted
    omega
  | burnTokens ctx burner amount source chainID =>
    obtain ⟨result, ran, params, more, positive⟩ :=
      TokenomicsKeeper.burnTokens_moves (fun _ => rfl) sound.valid moves
    rw [SupplyWorld.step, ran] at burned
    change result.1.totalBurned = result.1.params.totalBurned at burned
    rw [params, more] at burned
    omega
  | processBlockFees =>
    obtain ⟨params, more⟩ := TokenomicsKeeper.endBlock_moves sound.valid moves
    have positive := moves.2.2.1
    change (w.keeper.endBlock fun _ => false).totalBurned =
      (w.keeper.endBlock fun _ => false).params.totalBurned at burned
    rw [params, more] at burned
    omega
  | reportBurn msg =>
    obtain ⟨proven, some_burned⟩ := moves
    rw [SupplyWorld.step, TokenomicsKeeper.reportBurn, if_neg proven] at burned
    change w.keeper.totalBurned + msg.amount = w.keeper.params.totalBurned at burned
    omega
  | onRecvBurnReport packet =>
    obtain ⟨k, amount, ran, some_burned, params, more⟩ := TokenomicsKeeper.onRecvBurnReport_moves moves
    rw [SupplyWorld.step, ran] at burned
    change k.totalBurned = k.params.totalBurned at burned
    rw [params, more] at burned
    omega
  | updateParams authority params =>
    obtain ⟨authorized, valid, cap, changed⟩ := moves
    have current := accounts.currentAgrees
    have currentBefore := sound.currentAgrees
    have ran : w.keeper.updateParams authority params = .ok { w.keeper with params := params } := by
      rw [TokenomicsKeeper.updateParams, if_neg (not_not.2 authorized), show params.validate = none from valid]
      dsimp only
      rw [TokenomicsKeeper.setParams, if_neg fun moved => moved.2 cap, show params.validate = none from valid]
    rw [SupplyWorld.step, ran] at minted burned current
    exact changed ⟨current.symm.trans currentBefore, minted.symm.trans mintedBefore,
      burned.symm.trans burnedBefore⟩

end SupplyWorld

end Runs

section Genesis

variable {lib : Library} {hasStaking : Bool} {k k' : TokenomicsKeeper}

theorem positive_of_validateAllocations {i : Nat} {seenAddresses : List String}
    {allocations : List GenesisAllocation} (valid : validateAllocations i seenAddresses allocations = none) :
    ∀ alloc ∈ allocations, 0 < alloc.amount := by
  induction allocations generalizing i seenAddresses with
  | nil => exact fun _ member => absurd member List.not_mem_nil
  | cons alloc rest ih =>
    unfold validateAllocations at valid
    split at valid
    · cases valid
    split at valid
    · cases valid
    split at valid
    · cases valid
    rename_i positive
    refine List.forall_mem_cons.2 ⟨Int.not_le.1 positive, ?_⟩
    split at valid
    · exact ih valid
    · split at valid
      · cases valid
      split at valid
      · cases valid
      exact ih valid

structure Credited (k k' : TokenomicsKeeper) (amount : Int) : Prop where
  params : k'.params = k.params
  currentSupply : k'.currentSupply = k.currentSupply
  totalMinted : k'.totalMinted = k.totalMinted
  totalBurned : k'.totalBurned = k.totalBurned
  blockedAddrs : k'.blockedAddrs = k.blockedAddrs
  bank : k.bank.Finite → k'.bank.Finite ∧ (k'.bank.total : Int) = k.bank.total + amount

theorem processGenesisAllocation_credited {alloc : GenesisAllocation} (positive : 0 < alloc.amount)
    (ran : k.processGenesisAllocation lib alloc = .ok k') : Credited k k' alloc.amount := by
  unfold TokenomicsKeeper.processGenesisAllocation at ran
  split at ran
  · cases ran
  rename_i recipient _
  rw [TokenomicsKeeper.mintCoins_accepted] at ran
  dsimp only at ran
  split at ran
  · cases ran
  rename_i sent
  obtain rfl := Except.ok.inj ran
  have drained := TokenomicsKeeper.drained_sendCoins sent
  unfold TokenomicsKeeper.sendCoinsFromModuleToAccount TokenomicsKeeper.sendCoins at sent
  split at sent
  · cases sent
  obtain ⟨bank, moved, rfl⟩ := Option.map_eq_some_iff.1 sent
  refine ⟨rfl, rfl, rfl, rfl, rfl, fun finite => ?_⟩
  obtain ⟨minted, more⟩ := Ledger.total_mint moduleAccount alloc.amount.toNat finite
  obtain ⟨finite', same⟩ := Ledger.total_send minted moved
  refine ⟨finite', ?_⟩
  show (bank.total : Int) = _
  rw [same, more]
  omega

theorem processAllocations_credited {allocations : List GenesisAllocation}
    (positive : ∀ alloc ∈ allocations, 0 < alloc.amount)
    (ran : TokenomicsKeeper.processAllocations lib k allocations = .ok k') :
    Credited k k' (allocations.map GenesisAllocation.amount).sum := by
  induction allocations generalizing k with
  | nil =>
    obtain rfl := Except.ok.inj ran
    exact ⟨rfl, rfl, rfl, rfl, rfl, fun finite => ⟨finite, (Int.add_zero _).symm⟩⟩
  | cons alloc rest ih =>
    obtain ⟨here, others⟩ := List.forall_mem_cons.1 positive
    obtain ⟨next, processed, ran⟩ := of_bind_ok ran
    have first := processGenesisAllocation_credited here processed
    have later := ih others ran
    refine ⟨later.params.trans first.params, later.currentSupply.trans first.currentSupply,
      later.totalMinted.trans first.totalMinted, later.totalBurned.trans first.totalBurned,
      later.blockedAddrs.trans first.blockedAddrs, fun finite => ?_⟩
    obtain ⟨finite₁, more⟩ := first.bank finite
    obtain ⟨finite₂, more'⟩ := later.bank finite₁
    refine ⟨finite₂, ?_⟩
    rw [more', more, List.map_cons, List.sum_cons, Int.add_assoc]

structure Started (k : TokenomicsKeeper) (data : GenesisState) (started : TokenomicsKeeper) : Prop where
  valid : data.params.Valid
  params : started.params = data.params
  currentSupply : started.currentSupply = data.supplyState.currentTotalSupply
  totalMinted : started.totalMinted = data.supplyState.totalMinted
  totalBurned : started.totalBurned = data.supplyState.totalBurned
  blockedAddrs : started.blockedAddrs = k.blockedAddrs
  nonneg : 0 ≤ data.supplyState.currentTotalSupply
  conserved : data.supplyState.currentTotalSupply =
    data.supplyState.totalMinted - data.supplyState.totalBurned
  bank : k.bank.Finite → started.bank.Finite ∧
    (started.bank.total : Int) = k.bank.total + data.supplyState.currentTotalSupply

theorem supply_of_validate {data : GenesisState} (valid : data.validate = none) :
    data.params.Valid ∧ 0 ≤ data.supplyState.currentTotalSupply ∧
      data.supplyState.currentTotalSupply = data.supplyState.totalMinted - data.supplyState.totalBurned ∧
      ∀ alloc ∈ data.allocations, 0 < alloc.amount := by
  simp only [GenesisState.validate, Option.orElse_eq_orElse, Option.orElse_eq_or, Option.or_eq_none_iff,
    Option.map_eq_none_iff] at valid
  obtain ⟨params, supply, allocations, -⟩ := valid
  unfold GenesisState.validateSupply at supply
  split_ifs at supply with negative _ _ unaccounted
  exact ⟨params, Int.not_lt.1 negative, not_not.1 unaccounted, positive_of_validateAllocations allocations⟩

theorem storeParams_eq {params : Params} (ran : k.storeParams params = .ok k') :
    k' = { k with params := params } := by
  unfold TokenomicsKeeper.storeParams at ran
  obtain ⟨error, refused⟩ | ⟨-, stored⟩ := TokenomicsKeeper.setParams_cases (k := k) params
  · rw [refused] at ran
    cases ran
  · rw [stored] at ran
    exact (Except.ok.inj ran).symm

theorem initTreasury_cases {treasury : TreasuryState} (ran : k.initTreasury lib treasury = .ok k') :
    k' = k ∨ ∃ address, k' =
      { k with treasuryAddress := some address, treasuryInflows := treasury.totalInflows } := by
  unfold TokenomicsKeeper.initTreasury at ran
  split at ran
  · exact Or.inl (Except.ok.inj ran).symm
  split at ran
  · cases ran
  · exact Or.inr ⟨_, (Except.ok.inj ran).symm⟩

theorem started_of_initGenesis {data : GenesisState} {started : TokenomicsKeeper}
    (ran : k.initGenesis lib data = .ok started) : Started k data started := by
  unfold TokenomicsKeeper.initGenesis at ran
  split at ran
  · cases ran
  rename_i valid
  obtain ⟨paramsValid, nonneg, conserved, positive⟩ := supply_of_validate valid
  obtain ⟨allocated, ran⟩ := guard_ok.1 ran
  obtain ⟨configured, stores, ran⟩ := of_bind_ok ran
  obtain rfl := storeParams_eq stores
  obtain ⟨funded, funds, ran⟩ := of_bind_ok ran
  have credited := processAllocations_credited positive funds
  have bank (finite : k.bank.Finite) : funded.bank.Finite ∧
      (funded.bank.total : Int) = k.bank.total + data.supplyState.currentTotalSupply := by
    rw [← not_not.1 allocated]
    exact credited.bank finite
  obtain rfl | ⟨address, rfl⟩ := initTreasury_cases ran
  · exact ⟨paramsValid, credited.params, credited.currentSupply, credited.totalMinted, credited.totalBurned,
      credited.blockedAddrs, nonneg, conserved, bank⟩
  · exact ⟨paramsValid, credited.params, credited.currentSupply, credited.totalMinted, credited.totalBurned,
      credited.blockedAddrs, nonneg, conserved, bank⟩

def GenesisState.Agrees (data : GenesisState) : Prop :=
  data.supplyState.currentTotalSupply = data.params.currentTotalSupply ∧
    data.supplyState.totalMinted = data.params.totalMinted ∧
    data.supplyState.totalBurned = data.params.totalBurned

theorem Started.sound {data : GenesisState} {started : TokenomicsKeeper} (begun : Started k data started)
    (finite : k.bank.Finite) (agrees : data.Agrees) : SupplyWorld.Sound ⟨started, []⟩ k.bank := by
  obtain ⟨current, minted, burned⟩ := agrees
  obtain ⟨-, -, capped, -⟩ := TokenomicsKeeper.supplyChecks_iff.1 (TokenomicsKeeper.supply_of_valid begun.valid)
  obtain ⟨finite', total⟩ := begun.bank finite
  refine ⟨?_, begun.params ▸ begun.valid, finite'⟩
  constructor
  case nonneg => exact begun.nonneg.trans_eq begun.currentSupply.symm
  case capped =>
    rw [begun.currentSupply, begun.params, current]
    exact capped
  case conserved =>
    rw [begun.currentSupply, begun.totalMinted, begun.totalBurned]
    exact begun.conserved
  case currentAgrees =>
    rw [begun.currentSupply, begun.params]
    exact current
  case mintedAgrees =>
    rw [begun.totalMinted, begun.params]
    exact minted
  case burnedAgrees =>
    rw [begun.totalBurned, begun.params]
    exact burned
  case bankCapped =>
    rw [begun.params]
    show (started.bank.total : Int) ≤ _
    rw [total, current]
    exact Int.add_le_add_left capped _
  case once => exact List.nodup_nil

theorem Started.agrees {data : GenesisState} {started : TokenomicsKeeper} (begun : Started k data started)
    (accounts : SupplyWorld.SupplyAccounts ⟨started, []⟩ k.bank) : data.Agrees := by
  have current := accounts.currentAgrees
  have minted := accounts.mintedAgrees
  have burned := accounts.burnedAgrees
  change started.currentSupply = started.params.currentTotalSupply at current
  change started.totalMinted = started.params.totalMinted at minted
  change started.totalBurned = started.params.totalBurned at burned
  rw [begun.currentSupply, begun.params] at current
  rw [begun.totalMinted, begun.params] at minted
  rw [begun.totalBurned, begun.params] at burned
  exact ⟨current, minted, burned⟩

/-- The supply is accounted for in every state of a run exactly when genesis gives both sets of counters the
same values and no action of the run moves one. -/
theorem accounted_iff_unmoved (lib : Library) (hasStaking : Bool) (k : TokenomicsKeeper) (data : GenesisState)
    (started : TokenomicsKeeper) (finite : k.bank.Finite) (ran : k.initGenesis lib data = .ok started)
    (run : List SupplyAction) :
    (SupplyWorld.SupplyAccounts ⟨started, []⟩ k.bank ∧
        Run.Along (SupplyWorld.step lib hasStaking)
          (fun w action => (w.step lib hasStaking action).SupplyAccounts k.bank) ⟨started, []⟩ run) ↔
      data.Agrees ∧
        Run.Along (SupplyWorld.step lib hasStaking)
          (fun w action => ¬ SupplyWorld.Moves lib hasStaking w.keeper action) ⟨started, []⟩ run := by
  have begun := started_of_initGenesis ran
  have same (w : SupplyWorld) (action : SupplyAction) (sound : w.Sound k.bank) :
      (w.step lib hasStaking action).SupplyAccounts k.bank ↔
        ¬ SupplyWorld.Moves lib hasStaking w.keeper action :=
    ⟨fun accounts moves => sound.not_accounts action moves accounts,
      fun quiet => (sound.step action quiet).toSupplyAccounts⟩
  have preserved (w : SupplyWorld) (action : SupplyAction) (sound : w.Sound k.bank)
      (accounts : (w.step lib hasStaking action).SupplyAccounts k.bank) :
      (w.step lib hasStaking action).Sound k.bank :=
    sound.step action ((same w action sound).1 accounts)
  constructor
  · rintro ⟨accounts, along⟩
    have agrees := begun.agrees accounts
    exact ⟨agrees, (Run.along_congr same preserved (begun.sound finite agrees) run).1 along⟩
  · rintro ⟨agrees, along⟩
    have sound := begun.sound finite agrees
    exact ⟨sound.toSupplyAccounts, (Run.along_congr same preserved sound run).2 along⟩

section DefaultGenesis

def defaultGenesis : GenesisState where
  params := defaultParams
  supplyState := ⟨375000000000000, 375000000000000, 0⟩
  allocations := [⟨"omni1ufounders", 375000000000000, false, none⟩]
  treasuryState := ⟨"omni1utreasury", 0, 0⟩

def unstarted : TokenomicsKeeper :=
  { TokenomicsKeeper.blockedTreasury with
    bank := ⟨fun _ => 0⟩, currentSupply := 0, totalMinted := 0, treasuryAddress := none }

theorem unstarted_finite : unstarted.bank.Finite :=
  Set.finite_empty.subset fun _ held => absurd rfl held

theorem defaultGenesis_starts :
    ∃ started, unstarted.initGenesis World.plainLibrary defaultGenesis = .ok started := by
  have ok : (unstarted.initGenesis World.plainLibrary defaultGenesis).isOk = true := by decide +kernel
  cases ran : unstarted.initGenesis World.plainLibrary defaultGenesis with
  | ok started => exact ⟨started, rfl⟩
  | error error =>
    rw [ran] at ok
    cases ok

/-- After the default genesis one minted unit is counted in the store and not in the params. -/
theorem one_unit_splits_the_counters :
    ∃ started, unstarted.initGenesis World.plainLibrary defaultGenesis = .ok started ∧
      SupplyWorld.SupplyAccounts ⟨started, []⟩ unstarted.bank ∧
      ¬ (SupplyWorld.step World.plainLibrary true ⟨started, []⟩
        (.mintTokens 1 (.user "recipient"))).SupplyAccounts unstarted.bank := by
  obtain ⟨started, ran⟩ := defaultGenesis_starts
  have begun := started_of_initGenesis ran
  have sound := begun.sound unstarted_finite ⟨rfl, rfl, rfl⟩
  refine ⟨started, ran, sound.toSupplyAccounts, sound.not_accounts _ ⟨by decide, ?_, ?_⟩⟩
  · show started.currentSupply + 1 ≤ started.params.totalSupplyCap
    rw [begun.currentSupply, begun.params]
    decide
  · show started.blockedAddrs (.user "recipient") = false
    rw [begun.blockedAddrs]
    decide

theorem accounted_iff_unmoved_defaultGenesis :
    ∃ started, unstarted.bank.Finite ∧
      unstarted.initGenesis World.plainLibrary defaultGenesis = .ok started ∧
      ((SupplyWorld.SupplyAccounts ⟨started, []⟩ unstarted.bank ∧
        Run.Along (SupplyWorld.step World.plainLibrary true)
          (fun w action => (w.step World.plainLibrary true action).SupplyAccounts unstarted.bank)
          ⟨started, []⟩ [.mintTokens 1 (.user "recipient")]) ↔
      defaultGenesis.Agrees ∧
        Run.Along (SupplyWorld.step World.plainLibrary true)
          (fun w action => ¬ SupplyWorld.Moves World.plainLibrary true w.keeper action)
          ⟨started, []⟩ [.mintTokens 1 (.user "recipient")]) := by
  obtain ⟨started, ran⟩ := defaultGenesis_starts
  exact ⟨started, unstarted_finite, ran,
    accounted_iff_unmoved World.plainLibrary true unstarted defaultGenesis started unstarted_finite ran _⟩

end DefaultGenesis

end Genesis

end Omniphi.Tokenomics
