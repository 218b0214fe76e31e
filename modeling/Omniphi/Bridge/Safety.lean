import Omniphi.Bridge.Contract
import Omniphi.Lib.Outcome

/-! What the bridge keeps over every run, whatever tokens and recipients call back while they are paid. -/

namespace Omniphi.Bridge

open CallTree

variable {env : Env} {w w' : World} {token : Address}

section Funds

def Event.asDeposit : Event → Option DepositEvent
  | .deposit event => some event
  | _ => none

def Event.asWithdrawal : Event → Option WithdrawalEvent
  | .withdrawal event => some event
  | _ => none

def deposits (w : World) : List DepositEvent := w.events.filterMap Event.asDeposit

def withdrawals (w : World) : List WithdrawalEvent := w.events.filterMap Event.asWithdrawal

def DepositEvent.of (token : Address) (event : DepositEvent) : Nat :=
  if event.token = token then event.amount else 0

def WithdrawalEvent.of (token : Address) (event : WithdrawalEvent) : Nat :=
  if event.token = token then event.amount.toNat else 0

def deposited (token : Address) (w : World) : Nat := ((deposits w).map (·.of token)).sum

def withdrawn (token : Address) (w : World) : Nat := ((withdrawals w).map (·.of token)).sum

/-- What the contract has of a token, Ether being the token of address zero. -/
def holdings (token : Address) (w : World) : Nat := if token = ethAddress then w.eth else w.balanceOf token

/-- The token takes from the contract no more than it is asked to send. Ether cannot do otherwise. -/
def Behaves (token : Address) : Call → Prop
  | .withdraw paid amount _ _ _ _ debit => token ≠ ethAddress → paid = token → debit ≤ amount.toNat
  | .tokenDebit debited amount => token ≠ ethAddress → debited = token → amount = 0
  | _ => True

theorem behaves_eth (call : Call) : Behaves ethAddress call := by
  cases call with
  | withdraw => exact fun other => absurd rfl other
  | tokenDebit => exact fun other => absurd rfl other
  | _ => trivial

end Funds

section Quorum

def relayers (w : World) : Set Address := {a | w.isRelayer a = true}

/-- The relayers are counted right, and enough of them are left to meet the threshold. -/
structure Quorum (w : World) : Prop where
  zero : w.isRelayer 0 = false
  count : (relayers w).ncard = w.relayerCount
  positive : 0 < w.threshold
  reachable : w.threshold ≤ w.relayerCount

theorem Quorum.congr (quorum : Quorum w) (relayer : w'.isRelayer = w.isRelayer)
    (count : w'.relayerCount = w.relayerCount)
    (threshold : w'.threshold = w.threshold) : Quorum w' := by
  have same : relayers w' = relayers w := by rw [relayers, relayer]; rfl
  refine ⟨?_, ?_, ?_, ?_⟩
  · rw [relayer]; exact quorum.zero
  · rw [same, count]; exact quorum.count
  · rw [threshold]; exact quorum.positive
  · rw [threshold, count]; exact quorum.reachable

theorem relayers_update_true (isRelayer : Address → Bool) (relayer : Address) :
    {a | Function.update isRelayer relayer true a = true} = insert relayer {a | isRelayer a = true} := by
  ext a
  by_cases same : a = relayer
  · simp [same]
  · simp [same]

theorem relayers_update_false (isRelayer : Address → Bool) (relayer : Address) :
    {a | Function.update isRelayer relayer false a = true} = {a | isRelayer a = true} \ {relayer} := by
  ext a
  by_cases same : a = relayer
  · simp [same]
  · simp [same]

theorem ncard_register {isRelayer : Address → Bool} {relayer : Address} (fresh : isRelayer relayer = false) :
    {a | Function.update isRelayer relayer true a = true}.ncard = {a | isRelayer a = true}.ncard + 1 := by
  rw [relayers_update_true]
  exact Set.ncard_insert_of_notMem (by simp [fresh]) (Set.toFinite _)

theorem addRelayer_quorum {sender relayer : Address} (quorum : Quorum w)
    (ran : addRelayer w sender relayer = .ok w') :
    Quorum w' := by
  simp only [addRelayer, Outcome.guard_ok] at ran
  obtain ⟨_, nonzero, fresh, ran⟩ := ran
  cases ran
  have fresh : w.isRelayer relayer = false := by simpa using fresh
  refine ⟨?_, ?_, quorum.positive, Nat.le_succ_of_le quorum.reachable⟩
  · exact (Function.update_of_ne (Ne.symm nonzero) _ _).trans quorum.zero
  · exact (ncard_register fresh).trans (congrArg (· + 1) quorum.count)

theorem removeRelayer_quorum {sender relayer : Address} (quorum : Quorum w)
    (ran : removeRelayer w sender relayer = .ok w') :
    Quorum w' := by
  simp only [removeRelayer, Outcome.guard_ok] at ran
  obtain ⟨_, registered, _, enough, ran⟩ := ran
  cases ran
  have registered : w.isRelayer relayer = true := by simpa using registered
  refine ⟨?_, ?_, quorum.positive, Nat.not_lt.1 enough⟩
  · have other : (0 : Address) ≠ relayer := by
      rintro rfl
      rw [quorum.zero] at registered
      cases registered
    exact (Function.update_of_ne other _ _).trans quorum.zero
  · refine Eq.trans ?_ (congrArg (· - 1) quorum.count)
    show {a | Function.update w.isRelayer relayer false a = true}.ncard = _
    rw [relayers_update_false]
    exact Set.ncard_sdiff_singleton_of_mem registered

theorem setThreshold_quorum {sender : Address} {newThreshold : Nat} (quorum : Quorum w)
    (ran : setThreshold w sender newThreshold = .ok w') : Quorum w' := by
  simp only [setThreshold, Outcome.guard_ok] at ran
  obtain ⟨_, nonzero, small, ran⟩ := ran
  cases ran
  exact ⟨quorum.zero, quorum.count, Nat.pos_of_ne_zero nonzero, Nat.not_lt.1 small⟩

theorem registerAll_spec {isRelayer after : Address → Bool} {initialRelayers : List Address}
    (zero : isRelayer 0 = false)
    (ran : registerAll isRelayer initialRelayers = .ok after) :
    after 0 = false ∧ {a | after a = true}.ncard = {a | isRelayer a = true}.ncard + initialRelayers.length := by
  induction initialRelayers generalizing isRelayer with
  | nil =>
      cases ran
      exact ⟨zero, rfl⟩
  | cons r rest ih =>
      simp only [registerAll, Outcome.guard_ok] at ran
      obtain ⟨nonzero, fresh, ran⟩ := ran
      have still : Function.update isRelayer r true 0 = false :=
        (Function.update_of_ne (Ne.symm nonzero) _ _).trans zero
      obtain ⟨zero', count⟩ := ih still ran
      refine ⟨zero', ?_⟩
      rw [count, ncard_register (by simpa using fresh), List.length_cons]
      omega

end Quorum

section Steps

/-- What a call may do while a token or a recipient is being paid: no funds move through the contract. -/
structure Within (token : Address) (w w' : World) : Prop where
  entered : w'.entered = w.entered
  depositNonce : w'.depositNonce = w.depositNonce
  processed : w'.processedWithdrawals = w.processedWithdrawals
  locked : w'.lockedBalance = w.lockedBalance
  deposits : deposits w' = deposits w
  withdrawals : withdrawals w' = withdrawals w
  holdings : holdings token w ≤ holdings token w'
  quorum : Quorum w → Quorum w'

theorem Within.refl (w : World) : Within token w w := ⟨rfl, rfl, rfl, rfl, rfl, rfl, Nat.le_refl _, id⟩

theorem Within.trans {w₁ w₂ w₃ : World} (first : Within token w₁ w₂)
    (second : Within token w₂ w₃) : Within token w₁ w₃ where
  entered := second.entered.trans first.entered
  depositNonce := second.depositNonce.trans first.depositNonce
  processed := second.processed.trans first.processed
  locked := second.locked.trans first.locked
  deposits := second.deposits.trans first.deposits
  withdrawals := second.withdrawals.trans first.withdrawals
  holdings := first.holdings.trans second.holdings
  quorum := second.quorum ∘ first.quorum

/-- A call that touches neither funds nor relayers, and adds an event about neither. -/
theorem within_of_event (event : Event) (notDeposit : event.asDeposit = none)
    (notWithdrawal : event.asWithdrawal = none)
    (events : w'.events = w.events ++ [event])
    (entered : w'.entered = w.entered) (depositNonce : w'.depositNonce = w.depositNonce)
    (processed : w'.processedWithdrawals = w.processedWithdrawals) (locked : w'.lockedBalance = w.lockedBalance)
    (eth : w'.eth = w.eth) (balance : w'.balanceOf = w.balanceOf) (quorum : Quorum w → Quorum w') :
    Within token w w' where
  entered := entered
  depositNonce := depositNonce
  processed := processed
  locked := locked
  deposits := by simp [Bridge.deposits, events, notDeposit]
  withdrawals := by simp [Bridge.withdrawals, events, notWithdrawal]
  holdings := by simp [Bridge.holdings, eth, balance]
  quorum := quorum

theorem holdings_credit (amount : Nat) (credited : Address) :
    holdings token w ≤
      holdings token
        { w with balanceOf := Function.update w.balanceOf credited (w.balanceOf credited + amount) } := by
  unfold holdings
  split
  · exact Nat.le_refl _
  · by_cases same : token = credited
    · subst same
      simp
    · exact le_of_eq (Function.update_of_ne same _ _).symm

theorem holdings_debit {amount : Nat} (limit : Nat) {debited : Address}
    (bounded : token ≠ ethAddress → debited = token → amount ≤ limit) :
    holdings token w ≤
      holdings token
          { w with balanceOf := Function.update w.balanceOf debited (w.balanceOf debited - amount) } +
        (if debited = token then limit else 0) := by
  unfold holdings
  split
  · exact Nat.le_add_right _ _
  · rename_i notEth
    by_cases same : debited = token
    · subst same
      have small := bounded notEth rfl
      simp
      omega
    · simp [same, Function.update_of_ne (Ne.symm same)]

/-- Outside the deposits and withdrawals no funds move. -/
theorem quiet_within {call : Call} {waiting : World} (behaves : Behaves token call)
    (plain : ∀ sender value paid amount recipient reply credit,
      call ≠ .deposit sender value paid amount recipient reply credit)
    (plain' : ∀ paid amount recipient nonce signatures reply debit,
      call ≠ .withdraw paid amount recipient nonce signatures reply debit)
    (entered : enter env call w = .ok waiting) (left : leave call w waiting = .ok w') : Within token w w' := by
  cases call with
  | deposit => exact absurd rfl (plain _ _ _ _ _ _ _)
  | withdraw => exact absurd rfl (plain' _ _ _ _ _ _ _)
  | addRelayer sender relayer =>
      have quorum (sound : Quorum w) := addRelayer_quorum sound entered
      simp only [enter, addRelayer, Outcome.guard_ok] at entered
      obtain ⟨_, _, _, entered⟩ := entered
      cases entered
      cases left
      exact within_of_event (.relayerAdded relayer) rfl rfl rfl rfl rfl rfl rfl rfl rfl quorum
  | removeRelayer sender relayer =>
      have quorum (sound : Quorum w) := removeRelayer_quorum sound entered
      simp only [enter, removeRelayer, Outcome.guard_ok] at entered
      obtain ⟨_, _, _, _, entered⟩ := entered
      cases entered
      cases left
      exact within_of_event (.relayerRemoved relayer) rfl rfl rfl rfl rfl rfl rfl rfl rfl quorum
  | setThreshold sender newThreshold =>
      have quorum (sound : Quorum w) := setThreshold_quorum sound entered
      simp only [enter, setThreshold, Outcome.guard_ok] at entered
      obtain ⟨_, _, _, entered⟩ := entered
      cases entered
      cases left
      exact within_of_event (.thresholdChanged _ _) rfl rfl rfl rfl rfl rfl rfl rfl rfl quorum
  | pause sender =>
      simp only [enter, pause, Outcome.guard_ok] at entered
      obtain ⟨_, _, entered⟩ := entered
      cases entered
      cases left
      exact within_of_event (.paused _) rfl rfl rfl rfl rfl rfl rfl rfl rfl fun sound => sound.congr rfl rfl rfl
  | unpause sender =>
      simp only [enter, unpause, Outcome.guard_ok] at entered
      obtain ⟨_, _, entered⟩ := entered
      cases entered
      cases left
      exact within_of_event (.unpaused _) rfl rfl rfl rfl rfl rfl rfl rfl rfl fun sound =>
        sound.congr rfl rfl rfl
  | transferOwnership sender newOwner =>
      simp only [enter, transferOwnership, Outcome.guard_ok] at entered
      obtain ⟨_, _, entered⟩ := entered
      cases entered
      cases left
      exact within_of_event (.ownershipTransferStarted _ _) rfl rfl rfl rfl rfl rfl rfl rfl rfl fun sound =>
        sound.congr rfl rfl rfl
  | acceptOwnership sender =>
      simp only [enter, acceptOwnership, Outcome.guard_ok] at entered
      obtain ⟨_, entered⟩ := entered
      cases entered
      cases left
      exact within_of_event (.ownershipTransferred _ _) rfl rfl rfl rfl rfl rfl rfl rfl rfl fun sound =>
        sound.congr rfl rfl rfl
  | receive value =>
      cases entered
      cases left
      refine ⟨rfl, rfl, rfl, rfl, rfl, rfl, ?_, fun sound => sound.congr rfl rfl rfl⟩
      unfold holdings
      split
      · exact Nat.le_add_right _ _
      · exact Nat.le_refl _
  | tokenCredit credited amount =>
      cases entered
      cases left
      exact ⟨rfl, rfl, rfl, rfl, rfl, rfl, holdings_credit amount credited, fun sound =>
        sound.congr rfl rfl rfl⟩
  | tokenDebit debited amount =>
      cases entered
      cases left
      refine ⟨rfl, rfl, rfl, rfl, rfl, rfl, ?_, fun sound => sound.congr rfl rfl rfl⟩
      have bound := holdings_debit (w := w) 0 fun other same => Nat.le_of_eq (behaves other same)
      simpa using bound

theorem depositEnter_ok {value : Nat} {paid : Address} {amount : U256} {recipient : String}
    (ran : depositEnter w value paid amount recipient = .ok w') :
    w.entered = false ∧
      w' = { w with entered := true, eth := if paid = ethAddress then w.eth + value else w.eth } ∧
      (paid = ethAddress → 0 < value) := by
  simp only [depositEnter, Outcome.guard_ok] at ran
  obtain ⟨_, idle, _, ran⟩ := ran
  refine ⟨by simpa using idle, ?_⟩
  by_cases isEth : paid = ethAddress
  · rw [if_pos isEth, Outcome.guard_ok] at ran
    obtain ⟨positive, ran⟩ := ran
    cases ran
    exact ⟨by rw [if_pos isEth], fun _ => Nat.pos_of_ne_zero positive⟩
  · rw [if_neg isEth, Outcome.guard_ok, Outcome.guard_ok] at ran
    obtain ⟨_, _, ran⟩ := ran
    cases ran
    exact ⟨by rw [if_neg isEth], fun same => absurd same isEth⟩

theorem withdrawEnter_ok {paid : Address} {amount : U256} {recipient : Address} {nonce : U256}
    {signatures : Bytes}
    (ran : withdrawEnter env w paid amount recipient nonce signatures = .ok w') :
    w.entered = false ∧ w.processedWithdrawals nonce = false ∧
      verifySignatures env w paid amount recipient nonce signatures = .ok () ∧
      amount.toNat ≤ w.lockedBalance paid ∧
      (paid = ethAddress → amount.toNat ≤ w.eth) ∧
      w' = { w with
        entered := true
        processedWithdrawals := Function.update w.processedWithdrawals nonce true
        lockedBalance := Function.update w.lockedBalance paid (w.lockedBalance paid - amount.toNat)
        eth := if paid = ethAddress then w.eth - amount.toNat else w.eth } := by
  simp only [withdrawEnter, Outcome.guard_ok] at ran
  obtain ⟨_, idle, _, _, fresh, ran⟩ := ran
  cases verified : verifySignatures env w paid amount recipient nonce signatures with
  | error error => rw [verified] at ran; cases ran
  | ok verdict =>
      rw [verified] at ran
      simp only [Outcome.guard_ok] at ran
      obtain ⟨covered, funded, ran⟩ := ran
      cases ran
      exact ⟨by simpa using idle, by simpa using fresh, rfl, Nat.not_lt.1 covered,
        fun isEth => Nat.not_lt.1 fun short => funded ⟨isEth, short⟩, rfl⟩

/-- The reentrancy guard: while a token or a recipient is being paid, no deposit or withdrawal gets in. -/
theorem guarded (token : Address) :
    Guarded (contract env) (Behaves token) (fun w => w.entered = true) (Within token) where
  refl := Within.refl
  trans _ _ _ := Within.trans
  keeps _ _ busy within := within.entered.trans busy
  locks call w waiting entered outside := by
    cases call with
    | deposit sender value paid amount recipient reply credit =>
        obtain ⟨idle, after, _⟩ := depositEnter_ok entered
        subst after
        exact ⟨by simp [idle], rfl⟩
    | withdraw paid amount recipient nonce signatures reply debit =>
        obtain ⟨idle, _, _, _, _, after⟩ := withdrawEnter_ok entered
        subst after
        exact ⟨by simp [idle], rfl⟩
    | _ => cases outside
  within call w waiting w' behaves busy entered left := by
    refine quiet_within behaves ?_ ?_ entered left
    · rintro sender value paid amount recipient reply credit rfl
      rw [(depositEnter_ok entered).1] at busy
      cases busy
    · rintro paid amount recipient nonce signatures reply debit rfl
      rw [(withdrawEnter_ok entered).1] at busy
      cases busy

end Steps

section Signatures

def Signed (env : Env) (messageHash : Bytes32) (signer : Address) : Prop :=
  ∃ v r s, s.toNat ≤ maxS ∧ env.ecrecover messageHash v r s = signer

/-- Distinct relayers, as many as the threshold asks for, have signed this withdrawal. -/
def Attested (env : Env) (w : World) (event : WithdrawalEvent) : Prop :=
  ∃ signers : List Address, signers.Nodup ∧ w.threshold ≤ signers.length ∧
    ∀ signer ∈ signers, w.isRelayer signer = true ∧
      Signed env (withdrawalHash env event.token event.amount event.recipient event.nonce) signer

theorem recover_ok {messageHash : Bytes32} {signature : Bytes} {signer : Address}
    (ran : recover env messageHash signature = .ok signer) : Signed env messageHash signer := by
  simp only [recover, Outcome.guard_ok] at ran
  obtain ⟨low, _, ran⟩ := ran
  cases ran
  exact ⟨_, _, _, Nat.not_lt.1 low, rfl⟩

theorem checkSigners_ok {isRelayer : Address → Bool} {messageHash : Bytes32} {n : Nat} {signatures : Bytes}
    {lastSigner : Address} (ran : checkSigners env isRelayer messageHash n signatures lastSigner = .ok ()) :
    ∃ signers : List Address, signers.length = n ∧ (lastSigner :: signers).Pairwise (· < ·) ∧
      ∀ signer ∈ signers, isRelayer signer = true ∧ Signed env messageHash signer := by
  induction n generalizing signatures lastSigner with
  | zero => exact ⟨[], rfl, List.pairwise_singleton _ _, by simp⟩
  | succ n ih =>
      rw [checkSigners] at ran
      cases recovered : recover env messageHash signatures with
      | error error => rw [recovered] at ran; cases ran
      | ok signer =>
          rw [recovered] at ran
          simp only [Outcome.guard_ok] at ran
          obtain ⟨registered, ascending, ran⟩ := ran
          obtain ⟨signers, length, sorted, signed⟩ := ih ran
          have above : lastSigner < signer := BitVec.not_le.1 ascending
          refine ⟨signer :: signers, by rw [List.length_cons, length], ?_, ?_⟩
          · refine List.pairwise_cons.2 ⟨?_, sorted⟩
            intro later member
            rcases List.mem_cons.1 member with rfl | member
            · exact above
            · exact BitVec.lt_trans above ((List.pairwise_cons.1 sorted).1 later member)
          · intro later member
            rcases List.mem_cons.1 member with rfl | member
            · exact ⟨by simpa using registered, recover_ok recovered⟩
            · exact signed later member

/-- Ascending signers are distinct signers. -/
theorem verifySignatures_ok {event : WithdrawalEvent} {signatures : Bytes}
    (ran : verifySignatures env w event.token event.amount event.recipient event.nonce signatures = .ok ()) :
    Attested env w event := by
  simp only [verifySignatures, Outcome.guard_ok] at ran
  obtain ⟨enough, _, ran⟩ := ran
  obtain ⟨signers, length, sorted, signed⟩ := checkSigners_ok ran
  refine ⟨signers, ?_, ?_, signed⟩
  · refine (List.pairwise_cons.1 sorted).2.imp ?_
    rintro a b less rfl
    exact absurd less (BitVec.lt_irrefl a)
  · rw [length]
    exact Nat.not_lt.1 enough

end Signatures

section Effects

/-- What a deposit leaves. -/
structure Deposited (token : Address) (event : DepositEvent) (w w' : World) : Prop where
  nonce : event.nonce = w.depositNonce
  positive : 0 < event.amount
  entered : w'.entered = false
  depositNonce : w'.depositNonce = w.depositNonce + 1
  processed : w'.processedWithdrawals = w.processedWithdrawals
  locked : w'.lockedBalance =
    Function.update w.lockedBalance event.token (w.lockedBalance event.token + event.amount)
  deposits : deposits w' = deposits w ++ [event]
  withdrawals : withdrawals w' = withdrawals w
  holdings : holdings token w + event.of token ≤ holdings token w'
  quorum : Quorum w → Quorum w'

/-- What a withdrawal needs, and what it leaves. -/
structure Withdrew (env : Env) (token : Address) (event : WithdrawalEvent) (w w' : World) : Prop where
  fresh : w.processedWithdrawals event.nonce = false
  attested : Attested env w event
  covered : event.amount.toNat ≤ w.lockedBalance event.token
  entered : w'.entered = false
  depositNonce : w'.depositNonce = w.depositNonce
  processed : w'.processedWithdrawals = Function.update w.processedWithdrawals event.nonce true
  locked : w'.lockedBalance =
    Function.update w.lockedBalance event.token (w.lockedBalance event.token - event.amount.toNat)
  deposits : deposits w' = deposits w
  withdrawals : withdrawals w' = withdrawals w ++ [event]
  holdings : holdings token w ≤ holdings token w' + event.of token
  quorum : Quorum w → Quorum w'

/-- What a call does that does not fail. -/
inductive Effect (env : Env) (token : Address) (w w' : World) : Prop
  | quiet (within : Within token w w')
  | deposit (event : DepositEvent) (deposited : Deposited token event w w')
  | withdrawal (event : WithdrawalEvent) (withdrew : Withdrew env token event w w')

theorem recordDeposit_ok {paid sender : Address} {bridgedAmount : Nat} {recipient : String}
    (ran : recordDeposit w paid bridgedAmount sender recipient = .ok w') :
    w' = { w with
      lockedBalance := Function.update w.lockedBalance paid (w.lockedBalance paid + bridgedAmount)
      depositNonce := w.depositNonce + 1
      entered := false
      events := w.events ++ [.deposit ⟨w.depositNonce, paid, bridgedAmount, sender, recipient⟩] } := by
  simp only [recordDeposit, Outcome.guard_ok] at ran
  obtain ⟨_, _, ran⟩ := ran
  cases ran
  rfl

theorem deposit_effect {waiting resumed : World} {sender paid : Address} {value credit : Nat} {amount : U256}
    {recipient : String}
    {reply : Reply} (entered : depositEnter w value paid amount recipient = .ok waiting)
    (within : Within token waiting resumed) (direct : paid = ethAddress → resumed = waiting)
    (left : depositLeave resumed (w.balanceOf paid) sender value paid recipient reply credit = .ok w') :
    ∃ event, Deposited token event w w' := by
  obtain ⟨_, after, positive⟩ := depositEnter_ok entered
  have sound (quorum : Quorum w) : Quorum resumed :=
    within.quorum (by subst after; exact quorum.congr rfl rfl rfl)
  have nonce : resumed.depositNonce = w.depositNonce := within.depositNonce.trans (by rw [after])
  have processed : resumed.processedWithdrawals = w.processedWithdrawals :=
    within.processed.trans (by rw [after])
  have locked : resumed.lockedBalance = w.lockedBalance := within.locked.trans (by rw [after])
  have logged : deposits resumed = deposits w := within.deposits.trans (by rw [after]; rfl)
  have logged' : withdrawals resumed = withdrawals w := within.withdrawals.trans (by rw [after]; rfl)
  unfold depositLeave at left
  by_cases isEth : paid = ethAddress
  · rw [if_pos isEth] at left
    have final := recordDeposit_ok left
    refine ⟨⟨w.depositNonce, paid, value, sender, recipient⟩, rfl, positive isEth, ?_, ?_, ?_, ?_,
      ?_, ?_, ?_, ?_⟩
    · rw [final]
    · rw [final, nonce]
    · rw [final, processed]
    · rw [final, locked]
    · rw [← logged]
      simp [final, deposits, Event.asDeposit, nonce]
    · rw [← logged']
      simp [final, withdrawals, Event.asWithdrawal]
    · rw [final, direct isEth, after]
      unfold holdings DepositEvent.of
      by_cases same : token = ethAddress
      · simp [same, isEth]
      · simp [same, isEth, Ne.symm same]
    · exact fun quorum => (sound quorum).congr (by rw [final]) (by rw [final]) (by rw [final])
  · rw [if_neg isEth] at left
    cases checked : reply.check .erc20TransferFromFailed with
    | error error => rw [checked] at left; cases left
    | ok accepted =>
        rw [checked] at left
        simp only [Outcome.guard_ok] at left
        obtain ⟨grown, gained, left⟩ := left
        have final := recordDeposit_ok left
        refine ⟨⟨w.depositNonce, paid, _, sender, recipient⟩, rfl, Nat.pos_of_ne_zero gained, ?_, ?_, ?_, ?_,
          ?_, ?_, ?_, ?_⟩
        · rw [final]
        · rw [final]
          exact congrArg (· + 1) nonce
        · rw [final]
          exact processed
        · rw [final, ← locked]
        · rw [← logged]
          simp [final, deposits, Event.asDeposit, nonce]
        · rw [← logged']
          simp [final, withdrawals, Event.asWithdrawal]
        · have kept := within.holdings
          rw [final]
          rw [after] at kept
          unfold holdings at kept ⊢
          unfold DepositEvent.of
          by_cases same : token = ethAddress
          · subst same
            simpa [isEth] using kept
          · simp only [if_neg same] at kept ⊢
            by_cases mine : paid = token
            · subst mine
              simp only [if_true, Function.update_self]
              omega
            · simpa [mine, Function.update_of_ne (Ne.symm mine)] using kept
        · exact fun quorum => (sound quorum).congr (by rw [final]) (by rw [final]) (by rw [final])

theorem withdraw_effect {waiting resumed : World} {paid recipient : Address} {amount nonce : U256}
    {signatures : Bytes}
    {reply : Reply} {debit : Nat} (behaves : token ≠ ethAddress → paid = token → debit ≤ amount.toNat)
    (entered : withdrawEnter env w paid amount recipient nonce signatures = .ok waiting)
    (within : Within token waiting resumed)
    (left : withdrawLeave resumed paid amount recipient nonce reply debit = .ok w') :
    Withdrew env token ⟨nonce, paid, amount, recipient⟩ w w' := by
  obtain ⟨_, fresh, verified, covered, funded, after⟩ := withdrawEnter_ok entered
  have final : ∃ balance, w' = { resumed with
      balanceOf := balance, entered := false
      events := resumed.events ++ [.withdrawal ⟨nonce, paid, amount, recipient⟩] } ∧
      holdings token resumed ≤ holdings token { resumed with balanceOf := balance } +
        (if token ≠ ethAddress ∧ paid = token then amount.toNat else 0) := by
    unfold withdrawLeave at left
    by_cases isEth : paid = ethAddress
    · rw [if_pos isEth, Outcome.guard_ok] at left
      obtain ⟨_, left⟩ := left
      cases left
      exact ⟨resumed.balanceOf, rfl, Nat.le_add_right _ _⟩
    · rw [if_neg isEth] at left
      cases checked : reply.check .erc20TransferFailed with
      | error error => rw [checked] at left; cases left
      | ok accepted =>
          rw [checked] at left
          cases left
          refine ⟨_, rfl, (holdings_debit _ behaves).trans ?_⟩
          refine Nat.add_le_add_left ?_ _
          by_cases mine : paid = token
          · simp [mine, mine ▸ isEth]
          · simp [mine]
  obtain ⟨balance, final, kept⟩ := final
  refine ⟨fresh, verifySignatures_ok verified, covered, ?_, ?_, ?_, ?_, ?_, ?_, ?_, ?_⟩
  · rw [final]
  · rw [final]
    exact within.depositNonce.trans (by rw [after])
  · rw [final]
    exact within.processed.trans (by rw [after])
  · rw [final]
    exact within.locked.trans (by rw [after])
  · refine Eq.trans ?_ (within.deposits.trans (by rw [after]; rfl))
    simp [final, deposits, Event.asDeposit]
  · have logged : withdrawals resumed = withdrawals w := within.withdrawals.trans (by rw [after]; rfl)
    rw [← logged]
    simp [final, withdrawals, Event.asWithdrawal]
  · have earlier := within.holdings
    rw [after] at earlier
    rw [final]
    unfold holdings at earlier kept ⊢
    unfold WithdrawalEvent.of
    by_cases same : token = ethAddress
    · subst same
      simp only [if_true] at earlier kept ⊢
      by_cases isEth : paid = ethAddress
      · have funds := funded isEth
        simp only [isEth, if_true] at earlier ⊢
        simp at kept
        omega
      · simp only [isEth, if_false] at earlier ⊢
        simp at kept
        omega
    · simp only [same, if_false, ne_eq, not_false_eq_true, true_and] at earlier kept ⊢
      exact earlier.trans kept
  · intro quorum
    have waits : Quorum waiting := by
      subst after
      exact quorum.congr rfl rfl rfl
    exact (within.quorum waits).congr (by rw [final]) (by rw [final]) (by rw [final])

theorem exec_effect {tree : CallTree.Tree Call} (admissible : tree.All (Behaves token))
    (ran : exec (contract env) tree w = .ok w') : Effect env token w w' := by
  obtain ⟨call, inner⟩ := tree
  obtain ⟨waiting, resumed, entered, within, direct, left⟩ := (guarded token).exec_cases admissible ran
  change enter env call w = .ok waiting at entered
  cases call with
  | deposit sender value paid amount recipient reply credit =>
      have direct (isEth : paid = ethAddress) : resumed = waiting :=
        direct (by simp [contract, external, isEth])
      obtain ⟨event, deposited⟩ := deposit_effect entered within direct left
      exact .deposit event deposited
  | withdraw paid amount recipient nonce signatures reply debit =>
      exact .withdrawal _ (withdraw_effect admissible.1 entered within left)
  | _ =>
      have same := direct rfl
      subst same
      exact .quiet (quiet_within admissible.1 (by rintro _ _ _ _ _ _ _ ⟨⟩)
        (by rintro _ _ _ _ _ _ _ ⟨⟩) entered left)

end Effects

section Runs

/-- The state of the contract between transactions. -/
structure Sound (token : Address) (w : World) : Prop where
  idle : w.entered = false
  quorum : Quorum w
  nonces : (deposits w).map (·.nonce) = List.range w.depositNonce
  conserved : ∀ t, deposited t w = w.lockedBalance t + withdrawn t w
  processed : ∀ event ∈ withdrawals w, w.processedWithdrawals event.nonce = true
  once : ((withdrawals w).map (·.nonce)).Nodup
  backed : w.lockedBalance token ≤ holdings token w

section Deployment

variable {sender : Address} {initialRelayers : List Address} {initialThreshold : Nat}

theorem deployed_empty (deployed : constructor sender initialRelayers initialThreshold = .ok w) :
    deposits w = [] ∧ withdrawals w = [] := by
  simp only [constructor, Outcome.guard_ok] at deployed
  obtain ⟨_, _, deployed⟩ := deployed
  cases registered : registerAll (fun _ => false) initialRelayers with
  | error error => rw [registered] at deployed; cases deployed
  | ok isRelayer =>
      rw [registered] at deployed
      cases deployed
      constructor
      · refine List.filterMap_eq_nil_iff.2 fun event member => ?_
        rcases List.mem_append.1 member with added | last
        · obtain ⟨relayer, _, rfl⟩ := List.mem_map.1 added
          rfl
        · simp only [List.mem_cons, List.not_mem_nil, or_false] at last
          rcases last with rfl | rfl <;> rfl
      · refine List.filterMap_eq_nil_iff.2 fun event member => ?_
        rcases List.mem_append.1 member with added | last
        · obtain ⟨relayer, _, rfl⟩ := List.mem_map.1 added
          rfl
        · simp only [List.mem_cons, List.not_mem_nil, or_false] at last
          rcases last with rfl | rfl <;> rfl

theorem deployed_sound
    (deployed : constructor sender initialRelayers initialThreshold = .ok w) : Sound token w := by
  obtain ⟨noDeposits, noWithdrawals⟩ := deployed_empty deployed
  simp only [constructor, Outcome.guard_ok] at deployed
  obtain ⟨positive, reachable, deployed⟩ := deployed
  cases registered : registerAll (fun _ => false) initialRelayers with
  | error error => rw [registered] at deployed; cases deployed
  | ok isRelayer =>
      rw [registered] at deployed
      cases deployed
      obtain ⟨zero, count⟩ := registerAll_spec rfl registered
      refine ⟨rfl, ⟨zero, ?_, Nat.pos_of_ne_zero positive, Nat.not_lt.1 reachable⟩, ?_, ?_, ?_, ?_,
        Nat.zero_le _⟩
      · refine count.trans ?_
        simp
      · rw [noDeposits]
        rfl
      · intro t
        rw [deposited, withdrawn, noDeposits, noWithdrawals]
        rfl
      · rw [noWithdrawals]
        rintro event ⟨⟩
      · rw [noWithdrawals]
        exact List.nodup_nil

end Deployment

theorem within_sound (sound : Sound token w) (within : Within token w w') : Sound token w' where
  idle := within.entered.trans sound.idle
  quorum := within.quorum sound.quorum
  nonces := by rw [within.deposits, within.depositNonce]; exact sound.nonces
  conserved t := by
    unfold deposited withdrawn
    rw [within.deposits, within.withdrawals, within.locked]
    exact sound.conserved t
  processed := by rw [within.withdrawals, within.processed]; exact sound.processed
  once := by rw [within.withdrawals]; exact sound.once
  backed := by rw [within.locked]; exact sound.backed.trans within.holdings

theorem deposited_sound {event : DepositEvent} (sound : Sound token w)
    (deposit : Deposited token event w w') : Sound token w' where
  idle := deposit.entered
  quorum := deposit.quorum sound.quorum
  nonces := by
    rw [deposit.deposits, deposit.depositNonce, List.map_append, sound.nonces, List.range_succ]
    simp [deposit.nonce]
  conserved t := by
    have before := sound.conserved t
    unfold deposited withdrawn at before ⊢
    rw [deposit.deposits, deposit.withdrawals, deposit.locked, List.map_append, List.sum_append]
    by_cases mine : event.token = t
    · simp [DepositEvent.of, mine] at before ⊢
      omega
    · simp [DepositEvent.of, mine, Function.update_of_ne (Ne.symm mine)] at before ⊢
      omega
  processed := by rw [deposit.withdrawals, deposit.processed]; exact sound.processed
  once := by rw [deposit.withdrawals]; exact sound.once
  backed := by
    have kept := deposit.holdings
    have backed := sound.backed
    rw [deposit.locked]
    unfold DepositEvent.of at kept
    by_cases mine : event.token = token
    · subst mine
      simp only [if_true, Function.update_self] at kept ⊢
      omega
    · simp only [mine, if_false, Function.update_of_ne (Ne.symm mine)] at kept ⊢
      omega

theorem withdrew_sound {event : WithdrawalEvent} (sound : Sound token w)
    (withdrawal : Withdrew env token event w w') :
    Sound token w' where
  idle := withdrawal.entered
  quorum := withdrawal.quorum sound.quorum
  nonces := by rw [withdrawal.deposits, withdrawal.depositNonce]; exact sound.nonces
  conserved t := by
    have before := sound.conserved t
    have covered := withdrawal.covered
    unfold deposited withdrawn at before ⊢
    rw [withdrawal.deposits, withdrawal.withdrawals, withdrawal.locked, List.map_append, List.sum_append]
    by_cases mine : event.token = t
    · subst mine
      simp [WithdrawalEvent.of] at before ⊢
      omega
    · simp [WithdrawalEvent.of, mine, Function.update_of_ne (Ne.symm mine)] at before ⊢
      omega
  processed := by
    rw [withdrawal.withdrawals, withdrawal.processed]
    intro earlier member
    rcases List.mem_append.1 member with member | member
    · by_cases same : earlier.nonce = event.nonce
      · rw [same, Function.update_self]
      · rw [Function.update_of_ne same]
        exact sound.processed earlier member
    · rw [List.mem_singleton.1 member, Function.update_self]
  once := by
    rw [withdrawal.withdrawals, List.map_append]
    refine List.nodup_append.2 ⟨sound.once, List.nodup_singleton _, ?_⟩
    intro nonce member other last
    obtain ⟨earlier, member, rfl⟩ := List.mem_map.1 member
    rintro rfl
    have done := sound.processed earlier ‹_›
    rw [List.map_singleton, List.mem_singleton] at last
    rw [last, withdrawal.fresh] at done
    cases done
  backed := by
    have kept := withdrawal.holdings
    have backed := sound.backed
    have covered := withdrawal.covered
    rw [withdrawal.locked]
    unfold WithdrawalEvent.of at kept
    by_cases mine : event.token = token
    · subst mine
      simp only [if_true, Function.update_self] at kept ⊢
      omega
    · simp only [mine, if_false, Function.update_of_ne (Ne.symm mine)] at kept ⊢
      omega

theorem exec_sound {tree : CallTree.Tree Call} (admissible : tree.All (Behaves token)) (sound : Sound token w)
    (ran : exec (contract env) tree w = .ok w') : Sound token w' := by
  cases exec_effect admissible ran with
  | quiet within => exact within_sound sound within
  | deposit event deposited => exact deposited_sound sound deposited
  | withdrawal event withdrew => exact withdrew_sound sound withdrew

theorem run_sound {calls : List (CallTree.Tree Call)} (admissible : allOf (Behaves token) calls)
    (sound : Sound token w) :
    Sound token (run env w calls) :=
  execAll_invariant (contract env)
    (fun _ _ _ behaves sound ran => exec_sound behaves sound ran) sound admissible

theorem run_sound_eth (calls : List (CallTree.Tree Call)) (sound : Sound ethAddress w) :
    Sound ethAddress (run env w calls) :=
  run_sound (allOf_of_forall behaves_eth calls) sound

variable {sender : Address} {initialRelayers : List Address} {initialThreshold : Nat}

def soloBridge : World :=
  { owner := 1, pendingOwner := 0, isPaused := false, entered := false, depositNonce := 0, threshold := 1
    isRelayer := Function.update (fun _ => false) 7 true, relayerCount := 1
    processedWithdrawals := fun _ => false, lockedBalance := fun _ => 0, eth := 0, balanceOf := fun _ => 0
    events := [.relayerAdded 7, .thresholdChanged 0 1, .ownershipTransferred 0 1] }

theorem soloBridge_deployed : constructor 1 [7] 1 = .ok soloBridge := rfl

def soloEnv : Env := { keccak256 := fun _ => 0, ecrecover := fun _ _ _ _ => 7, chainid := 1, self := 2 }

/-- A deposit of 5 wei, and a withdrawal of 3 whose recipient asks for them again while it is paid. -/
def reentrantCalls : List (CallTree.Tree Call) :=
  let withdrawal : Call := .withdraw ethAddress 3 8 0 (List.replicate 65 0) ⟨true, []⟩ 0
  [.node (.deposit 9 5 ethAddress 0 "omni1" ⟨true, []⟩ 0) [], .node withdrawal [.node withdrawal []]]

/-- What has been deposited of a token is locked or has been withdrawn, after any transactions
with any calls inside them. -/
theorem bridge_conserves (env : Env) (deployed : constructor sender initialRelayers initialThreshold = .ok w)
    (calls : List (CallTree.Tree Call)) (token : Address) :
    deposited token (run env w calls) = (run env w calls).lockedBalance token +
      withdrawn token (run env w calls) :=
  (run_sound_eth calls (deployed_sound deployed)).conserved token

theorem bridge_conserves_solo :
    deposited ethAddress (run soloEnv soloBridge reentrantCalls) =
      (run soloEnv soloBridge reentrantCalls).lockedBalance ethAddress +
        withdrawn ethAddress (run soloEnv soloBridge reentrantCalls) :=
  bridge_conserves soloEnv soloBridge_deployed reentrantCalls ethAddress

example : deposited ethAddress (run soloEnv soloBridge reentrantCalls) = 5 := by decide
example : withdrawn ethAddress (run soloEnv soloBridge reentrantCalls) = 3 := by decide

/-- The contract has the Ether it counts as locked, and of every token that takes no more than it
is asked to send what it counts as locked. -/
theorem bridge_solvent (env : Env) (deployed : constructor sender initialRelayers initialThreshold = .ok w)
    (calls : List (CallTree.Tree Call)) :
    (run env w calls).lockedBalance ethAddress ≤ (run env w calls).eth ∧
      ∀ token, token ≠ ethAddress → allOf (Behaves token) calls →
        (run env w calls).lockedBalance token ≤ (run env w calls).balanceOf token := by
  constructor
  · have sound : Sound ethAddress (run env w calls) := run_sound_eth calls (deployed_sound deployed)
    simpa [holdings] using sound.backed
  · intro token other behaves
    have sound : Sound token (run env w calls) := run_sound behaves (deployed_sound deployed)
    simpa [holdings, other] using sound.backed

theorem bridge_solvent_solo :
    (run soloEnv soloBridge reentrantCalls).lockedBalance ethAddress ≤
      (run soloEnv soloBridge reentrantCalls).eth ∧
      ∀ token, token ≠ ethAddress → allOf (Behaves token) reentrantCalls →
        (run soloEnv soloBridge reentrantCalls).lockedBalance token ≤
          (run soloEnv soloBridge reentrantCalls).balanceOf token :=
  bridge_solvent soloEnv soloBridge_deployed reentrantCalls

/-- The relayers are counted right in every state, and are never too few for the threshold. -/
theorem quorum_reachable (env : Env) (deployed : constructor sender initialRelayers initialThreshold = .ok w)
    (calls : List (CallTree.Tree Call)) : Quorum (run env w calls) :=
  (run_sound_eth calls (deployed_sound deployed)).quorum

theorem quorum_reachable_solo : Quorum (run soloEnv soloBridge reentrantCalls) :=
  quorum_reachable soloEnv soloBridge_deployed reentrantCalls

/-- The deposits are numbered from zero without a gap, in the order of their events. -/
theorem deposits_numbered (env : Env) (deployed : constructor sender initialRelayers initialThreshold = .ok w)
    (calls : List (CallTree.Tree Call)) :
    (deposits (run env w calls)).map (·.nonce) = List.range (run env w calls).depositNonce :=
  (run_sound_eth calls (deployed_sound deployed)).nonces

theorem deposits_numbered_solo :
    (deposits (run soloEnv soloBridge reentrantCalls)).map (·.nonce) =
      List.range (run soloEnv soloBridge reentrantCalls).depositNonce :=
  deposits_numbered soloEnv soloBridge_deployed reentrantCalls

theorem run_cons (tree : CallTree.Tree Call) (calls : List (CallTree.Tree Call)) :
    run env w (tree :: calls) = run env ((exec (contract env) tree w).toOption.getD w) calls :=
  execAll_cons _ _ _ _

/-- A withdrawal found after a run was made by one of its transactions. -/
theorem withdrawal_of_run {event : WithdrawalEvent} {calls : List (CallTree.Tree Call)}
    (sound : Sound ethAddress w)
    (member : event ∈ withdrawals (run env w calls)) :
    event ∈ withdrawals w ∨ ∃ before rest, calls = before ++ rest ∧ Attested env (run env w before) event ∧
      (run env w before).processedWithdrawals event.nonce = false := by
  induction calls generalizing w with
  | nil =>
      rw [run, execAll] at member
      exact .inl member
  | cons tree calls ih =>
      rw [run_cons] at member
      have behaves := all_of_forall behaves_eth tree
      cases ran : exec (contract env) tree w with
      | error error =>
          rw [ran] at member
          rcases ih sound member with old | ⟨before, rest, split, attested, fresh⟩
          · exact .inl old
          · refine .inr ⟨tree :: before, rest, by rw [split, List.cons_append], ?_⟩
            rw [run_cons, ran]
            exact ⟨attested, fresh⟩
      | ok after =>
          rw [ran] at member
          rcases ih (exec_sound behaves sound ran) member with old | ⟨before, rest, split, attested, fresh⟩
          · cases exec_effect behaves ran with
            | quiet within =>
                rw [within.withdrawals] at old
                exact .inl old
            | deposit event' deposited =>
                rw [deposited.withdrawals] at old
                exact .inl old
            | withdrawal event' withdrew =>
                rw [withdrew.withdrawals] at old
                rcases List.mem_append.1 old with old | new
                · exact .inl old
                · rw [List.mem_singleton.1 new]
                  refine .inr ⟨[], tree :: calls, rfl, ?_⟩
                  rw [run, execAll]
                  exact ⟨withdrew.attested, withdrew.fresh⟩
          · refine .inr ⟨tree :: before, rest, by rw [split, List.cons_append], ?_⟩
            rw [run_cons, ran]
            exact ⟨attested, fresh⟩

end Runs

end Omniphi.Bridge
