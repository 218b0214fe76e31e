import Omniphi.BigEndian
import Omniphi.Lib.CallTree

/-! OmniphiBridge.sol: the contract that locks funds on Ethereum and releases them against the
signatures of its relayers. `uint256` counters and balances are natural numbers with the overflow
checks of the compiler. -/

namespace Omniphi.Bridge

abbrev Address := BitVec 160
abbrev U256 := BitVec 256

def ethAddress : Address := 0

/-- The environment of a call: the hash, the recovery of signers, `block.chainid`, `address(this)`. -/
structure Env where
  keccak256 : Bytes → Bytes32
  ecrecover : Bytes32 → UInt8 → Bytes32 → Bytes32 → Address
  chainid : U256
  self : Address

inductive BridgeError
  | notOwner
  | notPendingOwner
  | contractPaused
  | contractNotPaused
  | reentrantCall
  | zeroAmount
  | emptyRecipient
  | invalidSignatureCount
  | duplicateSignature
  | invalidSignature
  | signerNotRelayer
  | withdrawalAlreadyProcessed
  | relayerAlreadyRegistered
  | relayerNotRegistered
  | thresholdTooHigh
  | thresholdZero
  | insufficientLockedBalance
  | ethTransferFailed
  | erc20TransferFailed
  | erc20TransferFromFailed
  | zeroAddress
  /-- Checked arithmetic of the compiler. -/
  | overflow
  /-- `abi.decode` of what a token returned. -/
  | badReturn

structure DepositEvent where
  nonce : Nat
  token : Address
  amount : Nat
  sender : Address
  omniphiRecipient : String
deriving DecidableEq

structure WithdrawalEvent where
  nonce : U256
  token : Address
  amount : U256
  recipient : Address
deriving DecidableEq

inductive Event
  | deposit (event : DepositEvent)
  | withdrawal (event : WithdrawalEvent)
  | relayerAdded (relayer : Address)
  | relayerRemoved (relayer : Address)
  | thresholdChanged (oldThreshold newThreshold : Nat)
  | paused (account : Address)
  | unpaused (account : Address)
  | ownershipTransferStarted (previousOwner newOwner : Address)
  | ownershipTransferred (previousOwner newOwner : Address)

/-- The storage of the contract, its Ether, what each token reads as its balance, and its events. -/
structure World where
  owner : Address
  pendingOwner : Address
  isPaused : Bool
  entered : Bool
  depositNonce : Nat
  threshold : Nat
  isRelayer : Address → Bool
  relayerCount : Nat
  processedWithdrawals : U256 → Bool
  lockedBalance : Address → Nat
  eth : Nat
  balanceOf : Address → Nat
  events : List Event

section Constructor

def registerAll (isRelayer : Address → Bool) : List Address → Except BridgeError (Address → Bool)
  | [] => .ok isRelayer
  | r :: rest =>
      if r = 0 then .error .zeroAddress
      else if isRelayer r = true then .error .relayerAlreadyRegistered
      else registerAll (Function.update isRelayer r true) rest

def constructor (sender : Address) (initialRelayers : List Address) (initialThreshold : Nat) :
    Except BridgeError World :=
  if initialThreshold = 0 then .error .thresholdZero
  else if initialThreshold > initialRelayers.length then .error .thresholdTooHigh
  else
    (registerAll (fun _ => false) initialRelayers).map fun isRelayer =>
      { owner := sender, pendingOwner := 0, isPaused := false, entered := false, depositNonce := 0
        threshold := initialThreshold, isRelayer, relayerCount := initialRelayers.length
        processedWithdrawals := fun _ => false, lockedBalance := fun _ => 0
        eth := 0, balanceOf := fun _ => 0
        events := initialRelayers.map .relayerAdded ++
          [.thresholdChanged 0 initialThreshold, .ownershipTransferred 0 sender] }

end Constructor

section Signatures

variable (env : Env)

def packWithdrawal (chainid : U256) (contract token : Address) (amount : U256) (recipient : Address)
    (nonce : U256) : Bytes :=
  beBytes 32 chainid ++ beBytes 20 contract ++ beBytes 20 token ++ beBytes 32 amount ++
    beBytes 20 recipient ++ beBytes 32 nonce

def eip191 (digest : Bytes32) : Bytes :=
  (0x19 : UInt8) :: (strBytes "Ethereum Signed Message:\n32" ++ beBytes 32 digest)

def withdrawalHash (token : Address) (amount : U256) (recipient : Address) (nonce : U256) : Bytes32 :=
  env.keccak256 (eip191 (env.keccak256 (packWithdrawal env.chainid env.self token amount recipient nonce)))

def maxS : Nat := 0x7FFFFFFFFFFFFFFFFFFFFFFFFFFFFFFF5D576E7357A4501DDFE92F46681B20A0

/-- The signer of the first 65 bytes. -/
def recover (messageHash : Bytes32) (signature : Bytes) : Except BridgeError Address :=
  let r : Bytes32 := ofBeBytes 256 (signature.take 32)
  let s : Bytes32 := ofBeBytes 256 ((signature.drop 32).take 32)
  let v := (signature.drop 64).headD 0
  let v := if v < 27 then v + 27 else v
  if s.toNat > maxS then .error .invalidSignature
  else
    let signer := env.ecrecover messageHash v r s
    if signer = 0 then .error .invalidSignature else .ok signer

/-- The loop of `_verifySignatures`, from the signatures still to be read. -/
def checkSigners (isRelayer : Address → Bool) (messageHash : Bytes32) :
    Nat → Bytes → Address → Except BridgeError Unit
  | 0, _, _ => .ok ()
  | n + 1, signatures, lastSigner =>
    match recover env messageHash signatures with
    | .error error => .error error
    | .ok signer =>
        if isRelayer signer = false then .error .signerNotRelayer
        else if signer ≤ lastSigner then .error .duplicateSignature
        else checkSigners isRelayer messageHash n (signatures.drop 65) signer

def verifySignatures (w : World) (token : Address) (amount : U256) (recipient : Address) (nonce : U256)
    (signatures : Bytes) : Except BridgeError Unit :=
  let sigCount := signatures.length / 65
  if sigCount < w.threshold then .error .invalidSignatureCount
  else if signatures.length % 65 ≠ 0 then .error .invalidSignatureCount
  else checkSigners env w.isRelayer (withdrawalHash env token amount recipient nonce) sigCount signatures 0

end Signatures

/-- What a low-level call of an account outside gave back. -/
structure Reply where
  ok : Bool
  ret : Bytes

/-- `abi.decode(ret, (bool))`. -/
def decodeBool (ret : Bytes) : Except BridgeError Bool :=
  if ret.length < 32 then .error .badReturn
  else
    let word : Bytes32 := ofBeBytes 256 (ret.take 32)
    if word = 0 then .ok false else if word = 1 then .ok true else .error .badReturn

/-- `if (!ok || (ret.length > 0 && !abi.decode(ret, (bool)))) revert`. -/
def Reply.check (reply : Reply) (failed : BridgeError) : Except BridgeError Unit :=
  if reply.ok = false then .error failed
  else if reply.ret.length = 0 then .ok ()
  else
    match decodeBool reply.ret with
    | .error error => .error error
    | .ok accepted => if accepted then .ok () else .error failed

/-- The calls of the contract; `reply`, `credit` and `debit` are what the token or the recipient
does in its turn. The last two are not calls: a token changes what it reads as the balance. -/
inductive Call
  | deposit (sender : Address) (value : Nat) (token : Address) (amount : U256) (omniphiRecipient : String)
      (reply : Reply) (credit : Nat)
  | withdraw (token : Address) (amount : U256) (recipient : Address) (nonce : U256) (signatures : Bytes)
      (reply : Reply) (debit : Nat)
  | addRelayer (sender relayer : Address)
  | removeRelayer (sender relayer : Address)
  | setThreshold (sender : Address) (newThreshold : Nat)
  | pause (sender : Address)
  | unpause (sender : Address)
  | transferOwnership (sender newOwner : Address)
  | acceptOwnership (sender : Address)
  | receive (value : Nat)
  | tokenCredit (token : Address) (amount : Nat)
  | tokenDebit (token : Address) (amount : Nat)

section Transfers

variable (env : Env) (w : World)

def depositEnter (value : Nat) (token : Address) (amount : U256)
    (omniphiRecipient : String) : Except BridgeError World :=
  if w.isPaused = true then .error .contractPaused
  else if w.entered = true then .error .reentrantCall
  else if omniphiRecipient.utf8ByteSize = 0 then .error .emptyRecipient
  else if token = ethAddress then
    if value = 0 then .error .zeroAmount else .ok { w with entered := true, eth := w.eth + value }
  else if amount = 0 then .error .zeroAmount
  else if value ≠ 0 then .error .zeroAmount
  else .ok { w with entered := true }

/-- From the line that adds to `lockedBalance` on. -/
def recordDeposit (token : Address) (bridgedAmount : Nat) (sender : Address)
    (omniphiRecipient : String) : Except BridgeError World :=
  if 2 ^ 256 ≤ w.lockedBalance token + bridgedAmount then .error .overflow
  else if 2 ^ 256 ≤ w.depositNonce + 1 then .error .overflow
  else
    .ok { w with
      lockedBalance := Function.update w.lockedBalance token (w.lockedBalance token + bridgedAmount)
      depositNonce := w.depositNonce + 1
      entered := false
      events := w.events ++ [.deposit ⟨w.depositNonce, token, bridgedAmount, sender, omniphiRecipient⟩] }

/-- The rest of `deposit`, with the balance read before the token was called. -/
def depositLeave (balanceBefore : Nat) (sender : Address) (value : Nat) (token : Address)
    (omniphiRecipient : String)
    (reply : Reply) (credit : Nat) : Except BridgeError World :=
  if token = ethAddress then recordDeposit w token value sender omniphiRecipient
  else
    match reply.check .erc20TransferFromFailed with
    | .error error => .error error
    | .ok _ =>
        let balanceAfter := w.balanceOf token + credit
        if balanceAfter < balanceBefore then .error .overflow
        else if balanceAfter - balanceBefore = 0 then .error .zeroAmount
        else
          recordDeposit { w with balanceOf := Function.update w.balanceOf token balanceAfter } token
            (balanceAfter - balanceBefore) sender omniphiRecipient

def withdrawEnter (token : Address) (amount : U256) (recipient : Address) (nonce : U256) (signatures : Bytes) :
    Except BridgeError World :=
  if w.isPaused = true then .error .contractPaused
  else if w.entered = true then .error .reentrantCall
  else if amount = 0 then .error .zeroAmount
  else if recipient = 0 then .error .zeroAddress
  else if w.processedWithdrawals nonce = true then .error .withdrawalAlreadyProcessed
  else
    match verifySignatures env w token amount recipient nonce signatures with
    | .error error => .error error
    | .ok _ =>
        if w.lockedBalance token < amount.toNat then .error .insufficientLockedBalance
        else if token = ethAddress ∧ w.eth < amount.toNat then .error .ethTransferFailed
        else
          .ok { w with
            entered := true
            processedWithdrawals := Function.update w.processedWithdrawals nonce true
            lockedBalance := Function.update w.lockedBalance token (w.lockedBalance token - amount.toNat)
            eth := if token = ethAddress then w.eth - amount.toNat else w.eth }

def withdrawLeave (token : Address) (amount : U256) (recipient : Address) (nonce : U256) (reply : Reply)
    (debit : Nat) :
    Except BridgeError World :=
  let released (w : World) : World :=
    { w with entered := false, events := w.events ++ [.withdrawal ⟨nonce, token, amount, recipient⟩] }
  if token = ethAddress then
    if reply.ok = false then .error .ethTransferFailed else .ok (released w)
  else
    match reply.check .erc20TransferFailed with
    | .error error => .error error
    | .ok _ =>
      .ok (released { w with balanceOf := Function.update w.balanceOf token (w.balanceOf token - debit) })

end Transfers

section Management

variable (w : World) (sender : Address)

def addRelayer (relayer : Address) : Except BridgeError World :=
  if sender ≠ w.owner then .error .notOwner
  else if relayer = 0 then .error .zeroAddress
  else if w.isRelayer relayer = true then .error .relayerAlreadyRegistered
  else
    .ok { w with
      isRelayer := Function.update w.isRelayer relayer true
      relayerCount := w.relayerCount + 1
      events := w.events ++ [.relayerAdded relayer] }

def removeRelayer (relayer : Address) : Except BridgeError World :=
  if sender ≠ w.owner then .error .notOwner
  else if w.isRelayer relayer = false then .error .relayerNotRegistered
  else if w.relayerCount = 0 then .error .overflow
  else if w.relayerCount - 1 < w.threshold then .error .thresholdTooHigh
  else
    .ok { w with
      isRelayer := Function.update w.isRelayer relayer false
      relayerCount := w.relayerCount - 1
      events := w.events ++ [.relayerRemoved relayer] }

def setThreshold (newThreshold : Nat) : Except BridgeError World :=
  if sender ≠ w.owner then .error .notOwner
  else if newThreshold = 0 then .error .thresholdZero
  else if newThreshold > w.relayerCount then .error .thresholdTooHigh
  else
    .ok { w with
      threshold := newThreshold
      events := w.events ++ [.thresholdChanged w.threshold newThreshold] }

def pause : Except BridgeError World :=
  if sender ≠ w.owner then .error .notOwner
  else if w.isPaused = true then .error .contractPaused
  else .ok { w with isPaused := true, events := w.events ++ [.paused sender] }

def unpause : Except BridgeError World :=
  if sender ≠ w.owner then .error .notOwner
  else if w.isPaused = false then .error .contractNotPaused
  else .ok { w with isPaused := false, events := w.events ++ [.unpaused sender] }

def transferOwnership (newOwner : Address) : Except BridgeError World :=
  if sender ≠ w.owner then .error .notOwner
  else if newOwner = 0 then .error .zeroAddress
  else
    .ok { w with
      pendingOwner := newOwner
      events := w.events ++ [.ownershipTransferStarted w.owner newOwner] }

def acceptOwnership : Except BridgeError World :=
  if sender ≠ w.pendingOwner then .error .notPendingOwner
  else
    .ok { w with
      owner := sender
      pendingOwner := 0
      events := w.events ++ [.ownershipTransferred w.owner sender] }

end Management

section Execution

variable (env : Env)

/-- A call up to where it calls a token or a recipient, or to its end. -/
def enter (call : Call) (w : World) : Except BridgeError World :=
  match call with
  | .deposit _ value token amount omniphiRecipient _ _ => depositEnter w value token amount omniphiRecipient
  | .withdraw token amount recipient nonce signatures _ _ =>
      withdrawEnter env w token amount recipient nonce signatures
  | .addRelayer sender relayer => addRelayer w sender relayer
  | .removeRelayer sender relayer => removeRelayer w sender relayer
  | .setThreshold sender newThreshold => setThreshold w sender newThreshold
  | .pause sender => pause w sender
  | .unpause sender => unpause w sender
  | .transferOwnership sender newOwner => transferOwnership w sender newOwner
  | .acceptOwnership sender => acceptOwnership w sender
  | .receive value => .ok { w with eth := w.eth + value }
  | .tokenCredit token amount =>
      .ok { w with balanceOf := Function.update w.balanceOf token (w.balanceOf token + amount) }
  | .tokenDebit token amount =>
      .ok { w with balanceOf := Function.update w.balanceOf token (w.balanceOf token - amount) }

/-- Whether the call hands control to an account outside: a deposit of Ether does not. -/
def external : Call → Bool
  | .deposit _ _ token .. => token != ethAddress
  | .withdraw .. => true
  | _ => false

def leave (call : Call) (start w : World) : Except BridgeError World :=
  match call with
  | .deposit sender value token _ omniphiRecipient reply credit =>
      depositLeave w (start.balanceOf token) sender value token omniphiRecipient reply credit
  | .withdraw token amount recipient nonce _ reply debit =>
      withdrawLeave w token amount recipient nonce reply debit
  | _ => .ok w

def contract : CallTree.Machine World Call BridgeError where
  enter := enter env
  external := external
  leave := leave

/-- The contract after the transactions, one after the other, each with the calls made inside it. -/
def run (w : World) (calls : List (CallTree.Tree Call)) : World := CallTree.execAll (contract env) calls w

end Execution

end Omniphi.Bridge
