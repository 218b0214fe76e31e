import Omniphi.Bridge.Safety
import Omniphi.XPoSeq.Execution

/-! relay.go: the relayer. It signs the withdrawals that burns on Omniphi ask of the contract, and
submits what the contract's deposits are to mint. -/

namespace Omniphi.Bridge.Relay

open XPoSeq (decodeString)

section Words

/-- `strings.TrimPrefix(text, "0x")`. -/
def trimHex (text : String) : String :=
  match text.toList with
  | '0' :: 'x' :: rest => String.ofList rest
  | _ => text

/-- The last 20 bytes, or all of them behind zeros. -/
def addressBytes (addr : String) : Bytes :=
  let b := decodeString (trimHex addr)
  if 20 ≤ b.length then b.drop (b.length - 20) else List.replicate (20 - b.length) 0 ++ b

def padAddress (addr : String) : Bytes := List.replicate 12 0 ++ addressBytes addr

/-- `big.Int.Bytes`: the absolute value, without leading zeros. -/
def bigBytes (n : Int) : Bytes := bigEndian (Nat.digits 256 n.natAbs).length n.natAbs

/-- The bytes copied to the end of 32 zeros, which panics when there are more of them. -/
def padded (bytes : Bytes) : Option Bytes :=
  if bytes.length ≤ 32 then some (List.replicate (32 - bytes.length) 0 ++ bytes) else none

def readHex (digits : List Char) (start : Option Nat) : Option Nat :=
  digits.foldl (fun value c => do return 16 * (← value) + (← hexDigit c)) start

/-- `big.Int.SetString(text, 16)`. -/
def parseHex (text : String) : Option Int :=
  let number (digits : List Char) : Option Int :=
    if digits = [] then none else (readHex digits (some 0)).map Int.ofNat
  match text.toList with
  | '-' :: digits => (number digits).map (- ·)
  | '+' :: digits => number digits
  | digits => number digits

end Words

structure Config where
  ethChainID : BitVec 64
  bridgeContractAddress : String
  ethConfirmations : U64
  batchSize : BitVec 64
  chainPositive : 0 < ethChainID.toInt
  confirmationsPositive : 0 < ethConfirmations
  batchPositive : 0 < batchSize.toInt

structure BurnEvent where
  nonce : U64
  token : String
  amount : Int
  recipient : String

section Withdrawals

variable (keccak256 : Bytes → Bytes32)

/-- None where a number has more than 32 bytes. -/
def solidityPack (chainID : BitVec 64) (contractAddr token : String) (amount : Int) (recipient : String)
    (nonce : U64) : Option Bytes := do
  let chain ← padded (bigBytes chainID.toInt)
  let amountPadded ← padded (bigBytes amount)
  let noncePadded ← padded (bigBytes nonce.toNat)
  return chain ++ addressBytes contractAddr ++ addressBytes token ++ amountPadded ++
    addressBytes recipient ++ noncePadded

def messageHash (cfg : Config) (burn : BurnEvent) : Option Bytes32 :=
  (solidityPack cfg.ethChainID cfg.bridgeContractAddress burn.token burn.amount burn.recipient
    burn.nonce).map fun inner => keccak256 (eip191 (keccak256 inner))

def selector : Bytes :=
  (beBytes 32 (keccak256 (strBytes "withdraw(address,uint256,address,uint256,bytes)"))).take 4

def encodeWithdrawCall (token : String) (amount : Int) (recipient : String) (nonce : U64)
    (signatures : Bytes) : Option Bytes := do
  let amountPadded ← padded (bigBytes amount)
  let noncePadded ← padded (bigBytes nonce.toNat)
  let sigLenPadded ← padded (bigBytes signatures.length)
  let pad := signatures.length % 32
  return selector keccak256 ++ padAddress token ++ amountPadded ++ padAddress recipient ++ noncePadded ++
    (List.replicate 31 0 ++ [0xA0]) ++ sigLenPadded ++ signatures ++
    (if pad ≠ 0 then List.replicate (32 - pad) 0 else [])

variable (recoverSigner : Bytes32 → Bytes → Option String)

def sortSignaturesBySigner (hash : Bytes32) (sigs : List Bytes) : Option (List Bytes) := do
  let entries ← sigs.mapM fun sig =>
    if sig.length ≠ 65 then none else (recoverSigner hash sig).map fun addr => (addr, sig)
  return (entries.mergeSort fun a b => a.1.toLower ≤ b.1.toLower).map (·.2)

def callBridgeWithdraw (cfg : Config) (burn : BurnEvent) (sigs : List Bytes) : Option Bytes := do
  let hash ← messageHash keccak256 cfg burn
  let sortedSigs ← sortSignaturesBySigner recoverSigner hash sigs
  encodeWithdrawCall keccak256 burn.token burn.amount burn.recipient burn.nonce sortedSigs.flatten

/-- The calldata of the transaction that is sent; `sign` is `ecdsaSign` with the key of the relayer. -/
def submitEthWithdrawal (sign : Bytes32 → Bytes) (cfg : Config) (burn : BurnEvent) : Option Bytes := do
  let hash ← messageHash keccak256 cfg burn
  callBridgeWithdraw keccak256 recoverSigner cfg burn [sign hash]

def wordAt (args : Bytes) (offset : Nat) : U256 := ofBeBytes 256 ((args.drop offset).take 32)

/-- What the contract's dispatcher reads from the calldata of `withdraw`; none where it reverts. -/
def decodeWithdrawCall (calldata : Bytes) : Option (Address × U256 × Address × U256 × Bytes) :=
  let args := calldata.drop 4
  let start := (wordAt args 128).toNat
  let length := (wordAt args start).toNat
  if calldata.take 4 ≠ selector keccak256 ∨ args.length < 160 then none
  else if 2 ^ 160 ≤ (wordAt args 0).toNat ∨ 2 ^ 160 ≤ (wordAt args 64).toNat then none
  else if 2 ^ 64 ≤ start ∨ args.length < start + 32 then none
  else if 2 ^ 64 ≤ length ∨ args.length < start + 32 + length then none
  else
    some ((wordAt args 0).setWidth 160, wordAt args 32, (wordAt args 64).setWidth 160, wordAt args 96,
      (args.drop (start + 32)).take length)

end Withdrawals

section Deposits

structure EthLog where
  topics : List String
  data : String
  blockNumber : String
  transactionHash : String
  removed : Bool

structure DepositEvent where
  nonce : Int
  token : String
  amount : Nat
  sender : String
  omniphiRecipient : Bytes
  blockNumber : U64
  txHash : String
deriving DecidableEq

inductive ParseError
  | refused (reason : String)
  /-- A slice out of range. -/
  | panics
  /-- A number that `SetString` cannot read leaves its target undefined. -/
  | undefined

def hexToUint64 (text : String) : Except ParseError U64 :=
  match parseHex (trimHex text) with
  | none => .error (.refused ("invalid hex: " ++ trimHex text))
  | some n =>
      if 0 ≤ n ∧ n < 2 ^ 64 then .ok (BitVec.ofInt 64 n)
      else .error (.refused ("hex value overflows uint64: " ++ trimHex text))

/-- The text from its 27th character on. -/
def lastOfTopic (topic : String) : Except ParseError String :=
  if topic.length < 26 then .error .panics else .ok ("0x" ++ String.ofList (topic.toList.drop 26))

def slice (data : Bytes) (first last : U64) : Except ParseError Bytes :=
  if first ≤ last ∧ last.toNat ≤ data.length then
    .ok ((data.drop first.toNat).take (last.toNat - first.toNat))
  else .error .panics

/-- The recipient in the data of a log, whose first word is the amount. -/
def decodeRecipient (data : Bytes) : Except ParseError Bytes := do
  let off : U64 := (ofBeBytes 256 ((data.drop 32).take 32)).setWidth 64
  let size : U64 := BitVec.ofNat 64 data.length
  if size < off + 32 then .error (.refused "string offset out of range")
  else
    let strLen : U64 := (ofBeBytes 256 (← slice data off (off + 32))).setWidth 64
    if size < off + 32 + strLen then .error (.refused "string length out of range")
    else slice data (off + 32) (off + 32 + strLen)

def parseDepositLog (log : EthLog) : Except ParseError DepositEvent :=
  match log.topics with
  | _ :: nonceTopic :: tokenTopic :: senderTopic :: _ => do
      let nonce ← (parseHex (trimHex nonceTopic)).elim (.error .undefined) .ok
      let token ← lastOfTopic tokenTopic
      let sender ← lastOfTopic senderTopic
      let data ← (hexDecode (trimHex log.data)).elim (.error (.refused "decoding data")) .ok
      if data.length < 64 then
        .error (.refused ("data too short: " ++ toString data.length ++ " bytes"))
      else
        let amount : U256 := ofBeBytes 256 (data.take 32)
        let omniphiRecipient ← decodeRecipient data
        let blockNumber ← hexToUint64 log.blockNumber
        return { nonce, token, amount := amount.toNat, sender, omniphiRecipient, blockNumber
                 txHash := log.transactionHash }
  | topics => .error (.refused ("expected 4 topics, got " ++ toString topics.length))

/-- None when a log stops the relayer. -/
def ethGetLogs : List EthLog → Option (List DepositEvent)
  | [] => some []
  | log :: rest =>
      if log.removed = true then ethGetLogs rest
      else
        match parseDepositLog log with
        | .ok deposit => (ethGetLogs rest).map (deposit :: ·)
        | .error (.refused _) => ethGetLogs rest
        | .error _ => none

structure MsgBridgeMint where
  relayer : String
  nonce : String
  token : String
  amount : String
  recipient : Bytes
  ethTxHash : String
  attestationSig : String
deriving DecidableEq

/-- The address of the relayer, and its signature of the JSON of a deposit. -/
structure Identity where
  ethAddress : String
  attest : DepositEvent → String

def Identity.mint (relayer : Identity) (deposit : DepositEvent) : MsgBridgeMint :=
  { relayer := relayer.ethAddress, nonce := toString deposit.nonce, token := deposit.token
    amount := toString deposit.amount, recipient := deposit.omniphiRecipient
    ethTxHash := deposit.txHash, attestationSig := relayer.attest deposit }

/-- What one poll meets: the head and the logs that the node answers, if it does, and which of the
messages of the poll, by their number, Omniphi takes. -/
structure Poll where
  head : Option U64
  getLogs : U64 → U64 → Option (List EthLog)
  takes : Nat → Bool

/-- `minted` are the messages that Omniphi has taken. -/
structure State where
  lastEthBlock : U64
  minted : List MsgBridgeMint

/-- The messages before the first one that fails. -/
def submitAll (takes : Nat → Bool) : Nat → List MsgBridgeMint → List MsgBridgeMint
  | _, [] => []
  | i, msg :: rest => if takes i = true then msg :: submitAll takes (i + 1) rest else []

def pollEthDeposits (cfg : Config) (relayer : Identity) (poll : Poll) (s : State) : Option State :=
  match poll.head with
  | none => some s
  | some head =>
      let confirmed := head - cfg.ethConfirmations
      if confirmed ≤ s.lastEthBlock then some s
      else
        let fromBlock := s.lastEthBlock + 1
        let toBlock :=
          if cfg.batchSize < confirmed - fromBlock + 1 then fromBlock + cfg.batchSize - 1 else confirmed
        match poll.getLogs fromBlock toBlock with
        | none => some s
        | some logs =>
            (ethGetLogs logs).map fun deposits =>
              let sent := submitAll poll.takes 0 (deposits.map relayer.mint)
              { lastEthBlock := if sent.length = deposits.length then toBlock else s.lastEthBlock
                minted := s.minted ++ sent }

def runPolls (cfg : Config) (relayer : Identity) (s : State) (polls : List Poll) : Option State :=
  polls.foldlM (fun s poll => pollEthDeposits cfg relayer poll s) s

end Deposits

section Words

variable {n : Nat}

theorem bigEndian_add (n b v : Nat) : bigEndian n (2 ^ (8 * n) * b + v) = bigEndian n v := by
  induction n generalizing b with
  | zero => rfl
  | succ n ih =>
      have pow : 2 ^ (8 * (n + 1)) * b = 2 ^ (8 * n) * (256 * b) := by
        rw [Nat.mul_succ, Nat.pow_add, Nat.mul_assoc]
      have high : (2 ^ (8 * n) * (256 * b) + v) / 2 ^ (8 * n) = 256 * b + v / 2 ^ (8 * n) :=
        Nat.mul_add_div (by positivity) _ _
      have byte : UInt8.ofNat (256 * b + v / 2 ^ (8 * n)) = UInt8.ofNat (v / 2 ^ (8 * n)) := by
        apply UInt8.toNat_inj.1
        rw [UInt8.toNat_ofNat', UInt8.toNat_ofNat']
        omega
      rw [bigEndian_succ, bigEndian_succ, pow, high, byte, ih]

theorem bigEndian_widen {x : Nat} (small : x < 2 ^ (8 * n)) (k : Nat) :
    bigEndian (k + n) x = List.replicate k 0 ++ bigEndian n x := by
  induction k with
  | zero => rw [Nat.zero_add, List.replicate_zero, List.nil_append]
  | succ k ih =>
      have high : x / 2 ^ (8 * (k + n)) = 0 :=
        Nat.div_eq_of_lt (small.trans_le (Nat.pow_le_pow_right (by decide) (by omega)))
      rw [Nat.add_right_comm, bigEndian_succ, high, ih]
      rfl

theorem foldl_bytes (bytes : Bytes) (start : Nat) :
    bytes.foldl (fun value byte => 256 * value + byte.toNat) start =
      2 ^ (8 * bytes.length) * start + bytes.foldl (fun value byte => 256 * value + byte.toNat) 0 ∧
    bytes.foldl (fun value byte => 256 * value + byte.toNat) 0 < 2 ^ (8 * bytes.length) := by
  induction bytes generalizing start with
  | nil => simp
  | cons byte rest ih =>
      obtain ⟨split, -⟩ := ih (256 * start + byte.toNat)
      obtain ⟨split', small⟩ := ih (256 * 0 + byte.toNat)
      have pow : 2 ^ (8 * (rest.length + 1)) = 2 ^ (8 * rest.length) * 256 := by rw [Nat.mul_succ, Nat.pow_add]
      have bound : byte.toNat < 256 := byte.toNat_lt
      rw [List.foldl_cons, List.foldl_cons, List.length_cons, split, split', pow]
      constructor
      · ring
      · nlinarith

theorem bigEndian_foldl (bytes : Bytes) :
    bigEndian bytes.length (bytes.foldl (fun value byte => 256 * value + byte.toNat) 0) = bytes := by
  induction bytes with
  | nil => rfl
  | cons byte rest ih =>
      obtain ⟨split, small⟩ := foldl_bytes rest (256 * 0 + byte.toNat)
      have high : (2 ^ (8 * rest.length) * (256 * 0 + byte.toNat) +
          rest.foldl (fun value byte => 256 * value + byte.toNat) 0) / 2 ^ (8 * rest.length) = byte.toNat := by
        rw [Nat.mul_add_div (by positivity), Nat.div_eq_of_lt small]
        omega
      rw [List.foldl_cons, List.length_cons, bigEndian_succ, split, high, bigEndian_add, ih,
        UInt8.ofNat_toNat]

theorem beBytes_ofBeBytes {bytes : Bytes} (length : bytes.length = n) :
    beBytes n (ofBeBytes (8 * n) bytes) = bytes := by
  obtain ⟨-, small⟩ := foldl_bytes bytes 0
  rw [length] at small
  rw [beBytes_eq, ofBeBytes, BitVec.toNat_ofNat, Nat.mod_eq_of_lt small, ← length, bigEndian_foldl]

theorem padded_bigBytes (n : Int) :
    padded (bigBytes n) = if n.natAbs < 2 ^ 256 then some (bigEndian 32 n.natAbs) else none := by
  have small : n.natAbs < 2 ^ (8 * (Nat.digits 256 n.natAbs).length) := by
    rw [Nat.pow_mul]
    exact Nat.lt_base_pow_length_digits (by decide)
  have fits : (Nat.digits 256 n.natAbs).length ≤ 32 ↔ n.natAbs < 2 ^ 256 :=
    (Nat.digits_length_le_iff (by decide) _).trans (by norm_num)
  have length : (bigBytes n).length = (Nat.digits 256 n.natAbs).length := by
    rw [bigBytes, bigEndian, List.length_map, List.length_range]
  rw [padded, length]
  by_cases short : (Nat.digits 256 n.natAbs).length ≤ 32
  · rw [if_pos short, if_pos (fits.1 short), bigBytes, ← bigEndian_widen small, Nat.sub_add_cancel short]
  · rw [if_neg short, if_neg (fun less => short (fits.2 less))]

theorem padded_of_lt {n : Int} (small : n.natAbs < 2 ^ 256) :
    padded (bigBytes n) = some (beBytes 32 (BitVec.ofNat 256 n.natAbs)) := by
  rw [padded_bigBytes, if_pos small, beBytes_eq, BitVec.toNat_ofNat, Nat.mod_eq_of_lt small]

@[simp] theorem length_addressBytes (addr : String) : (addressBytes addr).length = 20 := by
  unfold addressBytes
  dsimp only
  split
  · rw [List.length_drop]; omega
  · rw [List.length_append, List.length_replicate]; omega

/-- The address that a text stands for. -/
def addressOf (addr : String) : Address := ofBeBytes 160 (addressBytes addr)

@[simp] theorem beBytes_addressOf (addr : String) : beBytes 20 (addressOf addr) = addressBytes addr :=
  beBytes_ofBeBytes (length_addressBytes addr)

end Words

section Withdrawals

variable {env : Env} {cfg : Config} {burn : BurnEvent}

theorem beBytes_setWidth {w n : Nat} (wide : w ≤ 8 * n) (x : BitVec w) (k : Nat) :
    beBytes (k + n) (x.setWidth (8 * (k + n))) = List.replicate k 0 ++ beBytes n x := by
  have small : x.toNat < 2 ^ (8 * n) := x.isLt.trans_le (Nat.pow_le_pow_right (by decide) wide)
  have same : (x.setWidth (8 * (k + n))).toNat = x.toNat := by
    rw [BitVec.toNat_setWidth, Nat.mod_eq_of_lt]
    exact small.trans_le (Nat.pow_le_pow_right (by decide) (by omega))
  rw [beBytes_eq, beBytes_eq, same, bigEndian_widen small]

theorem padAddress_eq (addr : String) : padAddress addr = beBytes 32 ((addressOf addr).setWidth 256) := by
  rw [padAddress, ← beBytes_addressOf]
  exact (beBytes_setWidth (n := 20) (by decide) (addressOf addr) 12).symm

theorem padded_nonce (nonce : U64) :
    padded (bigBytes nonce.toNat) = some (beBytes 32 (nonce.setWidth 256 : U256)) := by
  have small : nonce.toNat < 2 ^ 64 := nonce.isLt
  rw [padded_of_lt (by omega), Int.natAbs_natCast, BitVec.ofNat_toNat]

theorem padded_chainID {chainID : BitVec 64} (positive : 0 < chainID.toInt) :
    padded (bigBytes chainID.toInt) = some (beBytes 32 (chainID.setWidth 256 : U256)) := by
  have small : chainID.toNat < 2 ^ 64 := chainID.isLt
  have same : chainID.toInt = chainID.toNat := by
    rw [BitVec.toInt_eq_toNat_cond] at positive ⊢
    split at positive <;> omega
  rw [same]
  exact padded_nonce chainID

/-- The withdrawal that a burn asks for. -/
def BurnEvent.asked (burn : BurnEvent) : WithdrawalEvent :=
  { nonce := burn.nonce.setWidth 256, token := addressOf burn.token
    amount := BitVec.ofNat 256 burn.amount.natAbs, recipient := addressOf burn.recipient }

/-- What is signed for it. -/
def Config.packed (cfg : Config) (burn : BurnEvent) : Bytes :=
  packWithdrawal (cfg.ethChainID.setWidth 256) (addressOf cfg.bridgeContractAddress) burn.asked.token
    burn.asked.amount burn.asked.recipient burn.asked.nonce

theorem solidityPack_eq (cfg : Config) (burn : BurnEvent) :
    solidityPack cfg.ethChainID cfg.bridgeContractAddress burn.token burn.amount burn.recipient burn.nonce =
      if burn.amount.natAbs < 2 ^ 256 then some (cfg.packed burn) else none := by
  rw [solidityPack, padded_chainID cfg.chainPositive, padded_nonce]
  by_cases small : burn.amount.natAbs < 2 ^ 256
  · rw [padded_of_lt small, if_pos small, Config.packed, packWithdrawal]
    simp only [BurnEvent.asked, beBytes_addressOf]
    rfl
  · rw [padded_bigBytes, if_neg small, if_neg small]
    rfl

def soloConfig : Config :=
  { ethChainID := 1, bridgeContractAddress := "0x02", ethConfirmations := 12, batchSize := 50
    chainPositive := by decide, confirmationsPositive := by decide, batchPositive := by decide }

/-- A burn that is paid to address 9. -/
def soloBurn : BurnEvent := { nonce := 4, token := "0x00", amount := 3, recipient := "0x09" }

/-- The relayer signs for a burn what the contract checks for the withdrawal it asks for. A negative amount
is taken as its absolute value, and one of more than 256 bits stops the relayer. -/
theorem relay_digest (env : Env) (cfg : Config) (burn : BurnEvent)
    (chain : env.chainid = cfg.ethChainID.setWidth 256)
    (self : env.self = addressOf cfg.bridgeContractAddress) :
    messageHash env.keccak256 cfg burn =
      if burn.amount.natAbs < 2 ^ 256 then
        some (withdrawalHash env burn.asked.token burn.asked.amount burn.asked.recipient burn.asked.nonce)
      else none := by
  rw [messageHash, solidityPack_eq, withdrawalHash, chain, self]
  split <;> rfl

theorem relay_digest_solo : messageHash soloEnv.keccak256 soloConfig soloBurn =
    some (withdrawalHash soloEnv (addressOf "0x") 3 (addressOf "0x09") 4) :=
  relay_digest soloEnv soloConfig soloBurn (by decide) (by decide)

theorem eip191_injective : Function.Injective eip191 := by
  intro digest digest' same
  simp only [eip191, List.cons.injEq, true_and, List.append_cancel_left_eq] at same
  exact beBytes_injective (by decide) same

theorem packWithdrawal_injective {chainid chainid' : U256} {contract contract' token token' : Address}
    {amount amount' : U256} {recipient recipient' : Address} {nonce nonce' : U256}
    (same : packWithdrawal chainid contract token amount recipient nonce =
      packWithdrawal chainid' contract' token' amount' recipient' nonce') :
    (chainid = chainid' ∧ contract = contract') ∧ token = token' ∧ amount = amount' ∧
      recipient = recipient' ∧ nonce = nonce' := by
  have lengths (n : Nat) {w : Nat} (x y : BitVec w) : (beBytes n x).length = (beBytes n y).length := by
    rw [length_beBytes, length_beBytes]
  unfold packWithdrawal at same
  obtain ⟨same, nonces⟩ := List.append_inj' same (lengths 32 _ _)
  obtain ⟨same, recipients⟩ := List.append_inj' same (lengths 20 _ _)
  obtain ⟨same, amounts⟩ := List.append_inj' same (lengths 32 _ _)
  obtain ⟨same, tokens⟩ := List.append_inj' same (lengths 20 _ _)
  obtain ⟨chains, contracts⟩ := List.append_inj' same (lengths 20 _ _)
  exact ⟨⟨beBytes_injective (by decide) chains, beBytes_injective (by decide) contracts⟩,
    beBytes_injective (by decide) tokens, beBytes_injective (by decide) amounts,
    beBytes_injective (by decide) recipients, beBytes_injective (by decide) nonces⟩

/-- What is signed for a burn stands for that withdrawal on that chain and contract alone. -/
theorem digests_bind {keccak256 : Bytes → Bytes32} {cfg cfg' : Config} {burn burn' : BurnEvent}
    (small : burn.amount.natAbs < 2 ^ 256) (small' : burn'.amount.natAbs < 2 ^ 256)
    (free : CollisionFree keccak256 [cfg.packed burn, cfg'.packed burn'])
    (freePrefixed : CollisionFree keccak256
      [eip191 (keccak256 (cfg.packed burn)), eip191 (keccak256 (cfg'.packed burn'))]) :
    messageHash keccak256 cfg burn = messageHash keccak256 cfg' burn' ↔
      (cfg.ethChainID = cfg'.ethChainID ∧
        addressOf cfg.bridgeContractAddress = addressOf cfg'.bridgeContractAddress) ∧
        burn.asked = burn'.asked := by
  rw [messageHash, messageHash, solidityPack_eq, solidityPack_eq, if_pos small, if_pos small',
    Option.map_some, Option.map_some, Option.some.injEq]
  constructor
  · intro same
    have packed := free _ (by simp) _ (by simp)
      (eip191_injective (freePrefixed _ (by simp) _ (by simp) same))
    obtain ⟨⟨chain, contract⟩, tokens, amounts, recipients, nonces⟩ := packWithdrawal_injective packed
    have narrow : cfg.ethChainID = cfg'.ethChainID := by
      have same := congrArg (BitVec.setWidth 64) chain
      simpa using same
    refine ⟨⟨narrow, contract⟩, ?_⟩
    cases asked : burn.asked
    cases asked' : burn'.asked
    simp_all
  · rintro ⟨⟨chain, contract⟩, asked⟩
    rw [Config.packed, Config.packed, chain, contract, asked]

def lastWord (bytes : Bytes) : Bytes32 := ofBeBytes 256 (bytes.drop (bytes.length - 32))

theorem digests_bind_solo : messageHash lastWord soloConfig soloBurn =
    messageHash lastWord soloConfig { soloBurn with nonce := 5 } ↔
      (soloConfig.ethChainID = soloConfig.ethChainID ∧
        addressOf soloConfig.bridgeContractAddress = addressOf soloConfig.bridgeContractAddress) ∧
        soloBurn.asked = { soloBurn with nonce := 5 : BurnEvent }.asked :=
  digests_bind (by decide) (by decide) (by unfold CollisionFree; decide +kernel)
    (by unfold CollisionFree; decide +kernel)

@[simp] theorem wordAt_zero (x : U256) (rest : Bytes) : wordAt (beBytes 32 x ++ rest) 0 = x := by
  rw [wordAt, List.drop_zero, List.take_left' (length_beBytes 32 x), ofBeBytes_beBytes (by decide)]

@[simp] theorem drop_word (x : U256) (rest : Bytes) (k : Nat) :
    (beBytes 32 x ++ rest).drop (k + 32) = rest.drop k := by
  rw [Nat.add_comm, ← List.drop_drop, List.drop_left' (length_beBytes 32 x)]

@[simp] theorem wordAt_add (x : U256) (rest : Bytes) (k : Nat) :
    wordAt (beBytes 32 x ++ rest) (k + 32) = wordAt rest k := by
  rw [wordAt, drop_word, wordAt]

theorem setWidth_address (address : Address) : (address.setWidth 256).setWidth 160 = address ∧
    (address.setWidth 256).toNat < 2 ^ 160 := by
  have same : (address.setWidth 256).toNat = address.toNat := by
    rw [BitVec.toNat_setWidth, Nat.mod_eq_of_lt (address.isLt.trans (by decide))]
  refine ⟨?_, same ▸ address.isLt⟩
  apply BitVec.eq_of_toNat_eq
  rw [BitVec.toNat_setWidth, same, Nat.mod_eq_of_lt address.isLt]

/-- Arguments in front of a word that tells the length of the bytes after it. -/
theorem decode_words {keccak256 : Bytes → Bytes32} (token recipient : Address) (amount nonce : U256)
    {signatures : Bytes} (short : signatures.length < 2 ^ 64) (filler : Bytes) :
    decodeWithdrawCall keccak256 (selector keccak256 ++ (beBytes 32 (token.setWidth 256) ++
      (beBytes 32 amount ++ (beBytes 32 (recipient.setWidth 256) ++ (beBytes 32 nonce ++
        (beBytes 32 (160 : U256) ++ (beBytes 32 (BitVec.ofNat 256 signatures.length : U256) ++
          (signatures ++ filler)))))))) = some (token, amount, recipient, nonce, signatures) := by
  have head : (selector keccak256).length = 4 := by
    rw [selector, List.length_take, length_beBytes]
    rfl
  have width : (BitVec.ofNat 256 signatures.length : U256).toNat = signatures.length := by
    rw [BitVec.toNat_ofNat, Nat.mod_eq_of_lt (short.trans (by decide))]
  have start : (160 : U256).toNat = 160 := by decide
  obtain ⟨tokenBack, tokenSmall⟩ := setWidth_address token
  obtain ⟨recipientBack, recipientSmall⟩ := setWidth_address recipient
  unfold decodeWithdrawCall
  rw [List.take_left' head, List.drop_left' head]
  simp only [wordAt_add, wordAt_zero, drop_word, start, width, List.length_append, length_beBytes,
    List.drop_zero, List.take_left, tokenBack, recipientBack]
  rw [if_neg (by rintro (other | few) <;> [exact other rfl; omega]), if_neg (by omega), if_neg (by omega),
    if_neg (by omega)]

theorem decode_encodeWithdrawCall {keccak256 : Bytes → Bytes32} {signatures : Bytes}
    (small : burn.amount.natAbs < 2 ^ 256) (short : signatures.length < 2 ^ 64) :
    ∃ data, encodeWithdrawCall keccak256 burn.token burn.amount burn.recipient burn.nonce signatures =
        some data ∧
      decodeWithdrawCall keccak256 data = some (burn.asked.token, burn.asked.amount, burn.asked.recipient,
        burn.asked.nonce, signatures) := by
  have sized : padded (bigBytes signatures.length) =
      some (beBytes 32 (BitVec.ofNat 256 signatures.length : U256)) := by
    rw [padded_of_lt (by omega), Int.natAbs_natCast]
  have offset : List.replicate 31 (0 : UInt8) ++ [0xA0] = beBytes 32 (160 : U256) := by decide
  rw [encodeWithdrawCall, padded_of_lt small, padded_nonce, sized, offset, padAddress_eq, padAddress_eq]
  refine ⟨_, rfl, ?_⟩
  simp only [List.append_assoc]
  exact decode_words _ _ _ _ short _

theorem sortSignatures_single (recoverSigner : Bytes32 → Bytes → Option String) (hash : Bytes32) (sig : Bytes) :
    sortSignaturesBySigner recoverSigner hash [sig] =
      if sig.length = 65 ∧ (recoverSigner hash sig).isSome = true then some [sig] else none := by
  by_cases length : sig.length = 65
  · cases recovered : recoverSigner hash sig with
    | none => simp [sortSignaturesBySigner, length, recovered]
    | some addr => simp [sortSignaturesBySigner, length, recovered]
  · simp [sortSignaturesBySigner, length]

theorem verifySignatures_single {event : WithdrawalEvent} {sig : Bytes} (length : sig.length = 65) (w : World) :
    verifySignatures env w event.token event.amount event.recipient event.nonce sig = .ok () ↔
      w.threshold ≤ 1 ∧ ∃ signer,
        recover env (withdrawalHash env event.token event.amount event.recipient event.nonce) sig =
          .ok signer ∧ w.isRelayer signer = true := by
  unfold verifySignatures
  simp only [length, Nat.reduceDiv, Nat.reduceMod, Outcome.guard_ok, not_lt, ne_eq, not_true_eq_false,
    not_false_eq_true, true_and, checkSigners]
  apply and_congr_right
  intro _
  generalize withdrawalHash env event.token event.amount event.recipient event.nonce = hash
  cases recovered : recover env hash sig with
  | error error => simp
  | ok signer =>
      have nonzero : ¬ signer = 0#160 := by
        simp only [recover, Outcome.guard_ok] at recovered
        obtain ⟨_, nonzero, recovered⟩ := recovered
        cases recovered
        exact nonzero
      cases registered : w.isRelayer signer <;> simp [registered, nonzero]

end Withdrawals

section Deposits

/-- How the contract's events are written: the text of an address, and the log that a node reports. -/
def addressText (address : Address) : String := "0x" ++ hexEncode (beBytes 20 address)

def topic (word : U256) : String := "0x" ++ hexEncode (beBytes 32 word)

def depositData (event : Bridge.DepositEvent) : Bytes :=
  let recipient := strBytes event.omniphiRecipient
  beBytes 32 (BitVec.ofNat 256 event.amount : U256) ++ (beBytes 32 (64 : U256) ++
    (beBytes 32 (BitVec.ofNat 256 recipient.length : U256) ++
      (recipient ++ List.replicate ((32 - recipient.length % 32) % 32) 0)))

/-- A deposit with its block and its transaction. -/
structure Recorded where
  block : Nat
  tx : String
  event : Bridge.DepositEvent

def Recorded.log (signature : String) (deposit : Recorded) : EthLog :=
  { topics := [signature, topic (BitVec.ofNat 256 deposit.event.nonce),
      topic (deposit.event.token.setWidth 256), topic (deposit.event.sender.setWidth 256)]
    data := "0x" ++ hexEncode (depositData deposit.event)
    blockNumber := "0x" ++ String.ofList (Nat.toDigits 16 deposit.block)
    transactionHash := deposit.tx, removed := false }

def Recorded.seen (deposit : Recorded) : DepositEvent :=
  { nonce := deposit.event.nonce, token := addressText deposit.event.token, amount := deposit.event.amount
    sender := addressText deposit.event.sender, omniphiRecipient := strBytes deposit.event.omniphiRecipient
    blockNumber := BitVec.ofNat 64 deposit.block, txHash := deposit.tx }

structure Recorded.Fits (deposit : Recorded) : Prop where
  block : deposit.block < 2 ^ 64
  nonce : deposit.event.nonce < 2 ^ 256
  amount : deposit.event.amount < 2 ^ 256
  recipient : (strBytes deposit.event.omniphiRecipient).length < 2 ^ 63

theorem readHex_digitChar {k : Nat} (small : k < 16) (rest : List Char) (start : Nat) :
    readHex (Nat.digitChar k :: rest) (some start) = readHex rest (some (16 * start + k)) := by
  simp [readHex, hexDigit_digitChar small]

theorem readHex_bytes (bytes : Bytes) (start : Nat) :
    readHex (bytes.flatMap fun byte => [Nat.digitChar (byte.toNat / 16), Nat.digitChar (byte.toNat % 16)])
      (some start) = some (bytes.foldl (fun value byte => 256 * value + byte.toNat) start) := by
  induction bytes generalizing start with
  | nil => rfl
  | cons byte rest ih =>
      have bound : byte.toNat < 256 := byte.toNat_lt
      have whole : 16 * (16 * start + byte.toNat / 16) + byte.toNat % 16 = 256 * start + byte.toNat := by omega
      rw [List.flatMap_cons, List.cons_append, List.cons_append, List.nil_append,
        readHex_digitChar (by omega), readHex_digitChar (by omega), whole, ih, List.foldl_cons]

theorem toDigits_hex (n : Nat) : (∃ k < 16, ∃ rest, Nat.toDigits 16 n = Nat.digitChar k :: rest) ∧
    readHex (Nat.toDigits 16 n) (some 0) = some n := by
  induction n using Nat.strong_induction_on with
  | h n ih =>
      rw [Nat.toDigits_eq_if (by decide)]
      split
      case isTrue small => exact ⟨⟨n, small, [], rfl⟩, by simpa [readHex] using readHex_digitChar small [] 0⟩
      case isFalse large =>
        obtain ⟨⟨k, small, rest, digits⟩, read⟩ := ih (n / 16) (by omega)
        refine ⟨⟨k, small, rest ++ [Nat.digitChar (n % 16)], by rw [digits, List.cons_append]⟩, ?_⟩
        have last := readHex_digitChar (Nat.mod_lt n (by decide : 16 > 0)) [] (n / 16)
        rw [readHex] at read last ⊢
        rw [List.foldl_append, read, last]
        show some (16 * (n / 16) + n % 16) = some n
        rw [Nat.div_add_mod]

@[simp] theorem trimHex_hex (text : String) : trimHex ("0x" ++ text) = text := by
  rw [trimHex, String.toList_append]
  exact String.ofList_toList

theorem digitChar_unsigned {k : Nat} (small : k < 16) : Nat.digitChar k ≠ '-' ∧ Nat.digitChar k ≠ '+' := by
  revert k
  decide

theorem parseHex_digits {k n : Nat} (small : k < 16) {rest : List Char}
    (read : readHex (Nat.digitChar k :: rest) (some 0) = some n) :
    parseHex (String.ofList (Nat.digitChar k :: rest)) = some (n : Int) := by
  obtain ⟨minus, plus⟩ := digitChar_unsigned small
  rw [parseHex, String.toList_ofList]
  split
  case h_1 same => exact absurd (List.cons.inj same).1 minus
  case h_2 same => exact absurd (List.cons.inj same).1 plus
  case h_3 => simp [read]

theorem parseHex_topic (word : U256) : parseHex (trimHex (topic word)) = some (word.toNat : Int) := by
  obtain ⟨byte, rest, bytes⟩ : ∃ byte rest, beBytes 32 word = byte :: rest := ⟨_, _, rfl⟩
  have bound : byte.toNat < 256 := byte.toNat_lt
  have value := congrArg BitVec.toNat (ofBeBytes_beBytes (n := 32) (by decide) word)
  obtain ⟨-, small⟩ := foldl_bytes (beBytes 32 word) 0
  rw [length_beBytes] at small
  rw [ofBeBytes, BitVec.toNat_ofNat, Nat.mod_eq_of_lt small] at value
  have read := readHex_bytes (beBytes 32 word) 0
  rw [value] at read
  rw [topic, trimHex_hex, hexEncode]
  rw [bytes] at read ⊢
  exact parseHex_digits (by omega) read

theorem hexToUint64_quantity {block : Nat} (small : block < 2 ^ 64) :
    hexToUint64 ("0x" ++ String.ofList (Nat.toDigits 16 block)) = .ok (BitVec.ofNat 64 block) := by
  obtain ⟨⟨k, digit, rest, digits⟩, read⟩ := toDigits_hex block
  rw [digits] at read ⊢
  rw [hexToUint64, trimHex_hex, parseHex_digits digit read]
  simp only [Int.natCast_nonneg, true_and]
  rw [if_pos (by omega), BitVec.ofInt_natCast]

theorem lastOfTopic_address (address : Address) :
    lastOfTopic (topic (address.setWidth 256)) = .ok (addressText address) := by
  have spread : (topic (address.setWidth 256)).toList =
      '0' :: 'x' :: (List.replicate 24 '0' ++ (hexEncode (beBytes 20 address)).toList) := by
    rw [topic, beBytes_setWidth (n := 20) (by decide) address 12, hexEncode, String.toList_append,
      String.toList_ofList, List.flatMap_append, hexEncode, String.toList_ofList, String.toList_ofList]
    rfl
  have long : ¬ (topic (address.setWidth 256)).length < 26 := by
    rw [← String.length_toList, spread]
    simp only [List.length_append, List.length_replicate, List.length_cons]
    omega
  rw [lastOfTopic, if_neg long, spread]
  show Except.ok ("0x" ++ String.ofList (hexEncode (beBytes 20 address)).toList) = _
  rw [String.ofList_toList, addressText]

theorem slice_eq {data : Bytes} {first last : U64} (ordered : first.toNat ≤ last.toNat)
    (within : last.toNat ≤ data.length) :
    slice data first last = .ok ((data.drop first.toNat).take (last.toNat - first.toNat)) := by
  rw [slice, if_pos ⟨BitVec.le_def.2 ordered, within⟩]

theorem decodeRecipient_depositData {deposit : Recorded} (fits : deposit.Fits) :
    decodeRecipient (depositData deposit.event) = .ok (strBytes deposit.event.omniphiRecipient) := by
  have short := fits.recipient
  unfold depositData
  dsimp only
  generalize strBytes deposit.event.omniphiRecipient = recipient at short ⊢
  generalize filled : List.replicate ((32 - recipient.length % 32) % 32) (0 : UInt8) = filler
  have few : filler.length < 32 := by
    rw [← filled, List.length_replicate]
    omega
  generalize BitVec.ofNat 256 deposit.event.amount = amount
  generalize whole : beBytes 32 amount ++ (beBytes 32 (64 : U256) ++
    (beBytes 32 (BitVec.ofNat 256 recipient.length : U256) ++ (recipient ++ filler))) = data
  have length : data.length = 96 + recipient.length + filler.length := by
    simp only [← whole, List.length_append, length_beBytes]
    omega
  have width : ((BitVec.ofNat 256 recipient.length : U256).setWidth 64).toNat = recipient.length := by
    rw [BitVec.toNat_setWidth, BitVec.toNat_ofNat]
    omega
  have size : (BitVec.ofNat 64 data.length).toNat = data.length := by
    rw [BitVec.toNat_ofNat]
    omega
  have start : (64 + 32 : U64).toNat = 96 := by decide
  have stop : (64 + 32 + (BitVec.ofNat 256 recipient.length : U256).setWidth 64 : U64).toNat =
      96 + recipient.length := by
    rw [BitVec.toNat_add, start, width]
    omega
  have offset : (ofBeBytes 256 ((data.drop 32).take 32) : U256).setWidth 64 = (64 : U64) := by
    have second : data.drop 32 = beBytes 32 (64 : U256) ++
        (beBytes 32 (BitVec.ofNat 256 recipient.length : U256) ++ (recipient ++ filler)) := by
      rw [← whole, drop_word _ _ 0, List.drop_zero]
    rw [second, List.take_left' (length_beBytes 32 _), ofBeBytes_beBytes (by decide)]
    rfl
  have third : data.drop 64 =
      beBytes 32 (BitVec.ofNat 256 recipient.length : U256) ++ (recipient ++ filler) := by
    rw [← whole, drop_word _ _ 32, drop_word _ _ 0, List.drop_zero]
  have rest : data.drop 96 = recipient ++ filler := by
    rw [← whole, drop_word _ _ 64, drop_word _ _ 32, drop_word _ _ 0, List.drop_zero]
  have word : slice data 64 (64 + 32) = .ok (beBytes 32 (BitVec.ofNat 256 recipient.length : U256)) := by
    rw [slice_eq (by rw [start]; decide) (by omega), start]
    show Except.ok ((data.drop 64).take 32) = _
    rw [third, List.take_left' (length_beBytes 32 _)]
  have text : slice data (64 + 32) (64 + 32 + (BitVec.ofNat 256 recipient.length : U256).setWidth 64) =
      .ok recipient := by
    rw [slice_eq (by omega) (by omega), start, stop, Nat.add_sub_cancel_left, rest, List.take_left]
  unfold decodeRecipient
  simp only [offset, word]
  rw [if_neg (by rw [BitVec.lt_def]; omega)]
  show (if _ then _ else _) = _
  rw [ofBeBytes_beBytes (by decide), if_neg (by rw [BitVec.lt_def]; omega), text]

/-- The relayer reads from the log of a deposit what the contract put in its event. -/
theorem parseDepositLog_log {deposit : Recorded} (fits : deposit.Fits) (signature : String) :
    parseDepositLog (deposit.log signature) = .ok deposit.seen := by
  have nonce : (BitVec.ofNat 256 deposit.event.nonce).toNat = deposit.event.nonce := by
    rw [BitVec.toNat_ofNat, Nat.mod_eq_of_lt fits.nonce]
  have amount : (ofBeBytes 256 ((depositData deposit.event).take 32)).toNat = deposit.event.amount := by
    rw [depositData, List.take_left' (length_beBytes 32 _), ofBeBytes_beBytes (by decide), BitVec.toNat_ofNat,
      Nat.mod_eq_of_lt fits.amount]
  have long : ¬ (depositData deposit.event).length < 64 := by
    simp only [depositData, List.length_append, length_beBytes]
    omega
  simp only [parseDepositLog, Recorded.log, parseHex_topic, lastOfTopic_address, trimHex_hex,
    hexDecode_hexEncode, Option.elim_some, nonce, bind, Except.bind, pure, Except.pure, if_neg long,
    decodeRecipient_depositData fits, hexToUint64_quantity fits.block, amount]
  rfl

section Polls

variable (chain : Nat → List (String × Bridge.DepositEvent))

/-- The deposits of the blocks from one to another, in their order. -/
def recorded (first last : Nat) : List Recorded :=
  (List.range' first (last + 1 - first)).flatMap fun block => (chain block).map fun d => ⟨block, d.1, d.2⟩

/-- A node that is past the confirmations answers with the deposits of the confirmed blocks. -/
def Poll.Honest (cfg : Config) (signature : String) (poll : Poll) : Prop :=
  ∀ head, poll.head = some head → cfg.ethConfirmations ≤ head ∧
    ∀ first last logs, last ≤ head - cfg.ethConfirmations → poll.getLogs first last = some logs →
      logs = (recorded chain first.toNat last.toNat).map (·.log signature)

/-- The blocks up to this one are confirmed in the poll. -/
def Poll.Confirms (cfg : Config) (poll : Poll) (last : Nat) : Prop :=
  ∃ head, poll.head = some head ∧ last + cfg.ethConfirmations.toNat ≤ head.toNat

variable {chain}

theorem mem_recorded {first last : Nat} {deposit : Recorded} : deposit ∈ recorded chain first last ↔
    first ≤ deposit.block ∧ deposit.block ≤ last ∧ (deposit.tx, deposit.event) ∈ chain deposit.block := by
  simp only [recorded, List.mem_flatMap, List.mem_range'_1, List.mem_map]
  constructor
  · rintro ⟨block, within, d, member, rfl⟩
    have high : block ≤ last := by omega
    exact ⟨within.1, high, member⟩
  · rintro ⟨low, high, member⟩
    exact ⟨deposit.block, ⟨low, by omega⟩, _, member, rfl⟩

theorem recorded_append {first middle last : Nat} (low : first ≤ middle + 1) (high : middle ≤ last) :
    recorded chain first middle ++ recorded chain (middle + 1) last = recorded chain first last := by
  have sizes : last + 1 - first = (middle + 1 - first) + (last + 1 - (middle + 1)) := by omega
  have next : middle + 1 = first + (middle + 1 - first) := by omega
  rw [recorded, recorded, recorded, sizes, ← List.range'_append_1, List.flatMap_append, ← next]

theorem ethGetLogs_logs {signature : String} {deposits : List Recorded} (fits : ∀ d ∈ deposits, d.Fits) :
    ethGetLogs (deposits.map (·.log signature)) = some (deposits.map (·.seen)) := by
  induction deposits with
  | nil => rfl
  | cons deposit rest ih =>
      rw [List.map_cons, ethGetLogs, if_neg (by simp [Recorded.log]),
        parseDepositLog_log (fits deposit (List.mem_cons_self ..)),
        ih fun d member => fits d (List.mem_cons_of_mem _ member)]
      rfl

theorem submitAll_part (takes : Nat → Bool) (i : Nat) (msgs : List MsgBridgeMint) :
    submitAll takes i msgs <+: msgs := by
  induction msgs generalizing i with
  | nil => exact ⟨[], rfl⟩
  | cons msg rest ih =>
      rw [submitAll]
      split
      · exact (List.prefix_cons_inj msg).2 (ih (i + 1))
      · exact ⟨_, rfl⟩

theorem submitAll_all {takes : Nat → Bool} (all : ∀ i, takes i = true) (i : Nat) (msgs : List MsgBridgeMint) :
    submitAll takes i msgs = msgs := by
  induction msgs generalizing i with
  | nil => rfl
  | cons msg rest ih => rw [submitAll, if_pos (all i), ih]

/-- What a poll can do: nothing, mint for the next blocks and pass them, or fail on the way. -/
inductive Polled (chain : Nat → List (String × Bridge.DepositEvent)) (cfg : Config) (relayer : Identity)
    (poll : Poll) (s s' : State) : Prop
  | idle (same : s' = s)
  | passed (later : s.lastEthBlock.toNat < s'.lastEthBlock.toNat)
      (confirmed : poll.Confirms cfg s'.lastEthBlock.toNat)
      (minted : s'.minted = s.minted ++ (recorded chain (s.lastEthBlock.toNat + 1)
        s'.lastEthBlock.toNat).map (relayer.mint ·.seen))
  | failed (stays : s'.lastEthBlock = s.lastEthBlock) (last : Nat) (confirmed : poll.Confirms cfg last)
      (sent : List MsgBridgeMint) (minted : s'.minted = s.minted ++ sent)
      (part : sent <+: (recorded chain (s.lastEthBlock.toNat + 1) last).map (relayer.mint ·.seen))
      (refused : ∃ i, poll.takes i = false)

theorem poll_cases {cfg : Config} (relayer : Identity) {signature : String} {poll : Poll}
    (honest : poll.Honest chain cfg signature) (fits : ∀ first last, ∀ d ∈ recorded chain first last, d.Fits)
    (s : State) : ∃ s', pollEthDeposits cfg relayer poll s = some s' ∧ Polled chain cfg relayer poll s s' := by
  unfold pollEthDeposits
  cases answered : poll.head with
  | none => exact ⟨s, rfl, .idle rfl⟩
  | some head =>
      obtain ⟨past, answers⟩ := honest head answered
      dsimp only
      split
      case isTrue => exact ⟨s, rfl, .idle rfl⟩
      case isFalse behind =>
        generalize chosen : (if cfg.batchSize < head - cfg.ethConfirmations - (s.lastEthBlock + 1) + 1 then
          s.lastEthBlock + 1 + cfg.batchSize - 1 else head - cfg.ethConfirmations) = last
        have positive : 0 < cfg.batchSize.toNat := by
          have positive := cfg.batchPositive
          rw [BitVec.toInt_eq_toNat_cond] at positive
          split at positive <;> omega
        have next : (s.lastEthBlock + 1).toNat = s.lastEthBlock.toNat + 1 := by bv_omega
        have bounds : s.lastEthBlock.toNat < last.toNat ∧ last ≤ head - cfg.ethConfirmations := by
          rw [← chosen]
          split <;> constructor <;> bv_omega
        have confirmed : poll.Confirms cfg last.toNat := ⟨head, answered, by bv_omega⟩
        cases replied : poll.getLogs (s.lastEthBlock + 1) last with
        | none => exact ⟨s, rfl, .idle rfl⟩
        | some logs =>
            have logged := answers _ _ _ bounds.2 replied
            rw [next] at logged
            generalize found : recorded chain (s.lastEthBlock.toNat + 1) last.toNat = deposits at logged
            have part := submitAll_part poll.takes 0 (deposits.map (relayer.mint ·.seen))
            rw [logged]
            dsimp only
            rw [ethGetLogs_logs (found ▸ fits _ _), Option.map_some, List.map_map, List.length_map,
              Function.comp_def]
            refine ⟨_, rfl, ?_⟩
            by_cases full :
                (submitAll poll.takes 0 (deposits.map (relayer.mint ·.seen))).length = deposits.length
            · rw [part.eq_of_length (full.trans (List.length_map _).symm), if_pos (List.length_map _)]
              exact .passed bounds.1 confirmed (by rw [found])
            · refine .failed (if_neg full) last.toNat confirmed _ rfl (found ▸ part) ?_
              by_contra all
              simp only [not_exists, Bool.not_eq_false] at all
              exact full (by rw [submitAll_all all, List.length_map])

/-- What polls do from one state to another: they mint for every deposit of the blocks they pass, for none that
is not confirmed, and once for each in the order of the chain where no message fails. -/
structure Delivered (chain : Nat → List (String × Bridge.DepositEvent)) (cfg : Config) (relayer : Identity)
    (polls : List Poll) (s s' : State) : Prop where
  later : s.lastEthBlock.toNat ≤ s'.lastEthBlock.toNat
  kept : s.minted ⊆ s'.minted
  minted : ∀ d ∈ recorded chain (s.lastEthBlock.toNat + 1) s'.lastEthBlock.toNat,
    relayer.mint d.seen ∈ s'.minted
  confirmed : ∀ msg ∈ s'.minted, msg ∈ s.minted ∨ ∃ poll ∈ polls, ∃ last, poll.Confirms cfg last ∧
    ∃ d ∈ recorded chain (s.lastEthBlock.toNat + 1) last, msg = relayer.mint d.seen
  once : (∀ poll ∈ polls, ∀ i, poll.takes i = true) → s'.minted = s.minted ++
    (recorded chain (s.lastEthBlock.toNat + 1) s'.lastEthBlock.toNat).map (relayer.mint ·.seen)

theorem recorded_self (last : Nat) : recorded chain (last + 1) last = [] := by
  rw [recorded, Nat.sub_self]
  rfl

theorem Polled.delivered {cfg : Config} {relayer : Identity} {poll : Poll} {s s' : State}
    (polled : Polled chain cfg relayer poll s s') : Delivered chain cfg relayer [poll] s s' := by
  cases polled with
  | idle same =>
      subst same
      exact ⟨Nat.le_refl _, fun _ => id, by simp [recorded_self], fun _ => .inl, by simp [recorded_self]⟩
  | passed later confirmed minted =>
      refine ⟨later.le, by simp [minted], fun d member => ?_, fun msg member => ?_, fun _ => minted⟩
      · rw [minted]
        exact List.mem_append_right _ (List.mem_map_of_mem member)
      · rw [minted] at member
        rcases List.mem_append.1 member with old | new
        · exact .inl old
        · obtain ⟨d, found, same⟩ := List.mem_map.1 new
          exact .inr ⟨poll, List.mem_singleton_self _, _, confirmed, d, found, same.symm⟩
  | failed stays last confirmed sent minted part refused =>
      refine ⟨(congrArg BitVec.toNat stays).ge, by simp [minted], ?_, fun msg member => ?_, fun all => ?_⟩
      · rw [stays, recorded_self]
        exact fun _ member => absurd member (List.not_mem_nil)
      · rw [minted] at member
        rcases List.mem_append.1 member with old | new
        · exact .inl old
        · obtain ⟨d, found, same⟩ := List.mem_map.1 (part.subset new)
          exact .inr ⟨poll, List.mem_singleton_self _, last, confirmed, d, found, same.symm⟩
      · obtain ⟨i, refused⟩ := refused
        rw [all poll (List.mem_singleton_self _) i] at refused
        cases refused

theorem Delivered.trans {cfg : Config} {relayer : Identity} {polls polls' : List Poll} {s₁ s₂ s₃ : State}
    (first : Delivered chain cfg relayer polls s₁ s₂) (second : Delivered chain cfg relayer polls' s₂ s₃) :
    Delivered chain cfg relayer (polls ++ polls') s₁ s₃ := by
  have split : recorded chain _ _ ++ recorded chain _ _ = recorded chain _ _ :=
    recorded_append (Nat.add_le_add_right first.later 1) second.later
  refine ⟨first.later.trans second.later, List.Subset.trans first.kept second.kept, fun d member => ?_,
    fun msg member => ?_, fun all => ?_⟩
  · rw [← split] at member
    rcases List.mem_append.1 member with early | late
    · exact second.kept (first.minted d early)
    · exact second.minted d late
  · rcases second.confirmed msg member with old | ⟨poll, among, last, confirmed, d, found, same⟩
    · rcases first.confirmed msg old with older | ⟨poll, among, rest⟩
      · exact .inl older
      · exact .inr ⟨poll, List.mem_append_left _ among, rest⟩
    · obtain ⟨low, high⟩ := mem_recorded.1 found
      have below : s₁.lastEthBlock.toNat + 1 ≤ d.block := (Nat.add_le_add_right first.later 1).trans low
      exact .inr ⟨poll, List.mem_append_right _ among, last, confirmed, d, mem_recorded.2 ⟨below, high⟩, same⟩
  · rw [second.once fun poll among => all poll (List.mem_append_right _ among),
      first.once fun poll among => all poll (List.mem_append_left _ among), List.append_assoc,
      ← List.map_append, split]

def soloChain (block : Nat) : List (String × Bridge.DepositEvent) :=
  if block = 5 then [("0xaa", ⟨0, ethAddress, 5, 9, "omni1"⟩)] else []

def soloPoll : Poll :=
  { head := some 20
    getLogs := fun first last => some ((recorded soloChain first.toNat last.toNat).map (·.log ""))
    takes := fun _ => true }

/-- While the chain is shorter than the confirmations, the difference wraps and blocks to come are passed. -/
example (relayer : Identity) (takes : Nat → Bool) :
    pollEthDeposits soloConfig relayer ⟨some 3, fun _ _ => some [], takes⟩ ⟨0, []⟩ = some ⟨50, []⟩ := rfl

end Polls

end Deposits

end Omniphi.Bridge.Relay
