import Omniphi.Encoding
import Omniphi.Runtime.Resolved

/-! What a signature binds: the signed bytes fix every field the resolver reads, except the pools a
swap is allowed to use. -/

namespace Omniphi.Runtime

open PrefixCode Resolution SettlementEngine

section Signed

/-- The two intents agree in what their canonical bytes hold. -/
def IntentType.SignedAlike : IntentType → IntentType → Prop
  | .transfer t, .transfer t' =>
      t.assetId = t'.assetId ∧ t.amount = t'.amount ∧ t.recipient = t'.recipient
  | .swap s, .swap s' => s' = { s with allowedPoolIds := s'.allowedPoolIds }
  | .yieldAllocate y, .yieldAllocate y' => y = y'
  | .treasuryRebalance r, .treasuryRebalance r' => r = r'
  | .routeLiquidity rl, .routeLiquidity rl' => rl = rl'
  | .contractCall _, .contractCall _ => True
  | _, _ => False

def IntentType.tag : IntentType → UInt8
  | .transfer _ => 0x01
  | .swap _ => 0x02
  | .yieldAllocate _ => 0x03
  | .treasuryRebalance _ => 0x04
  | .routeLiquidity _ => 0x05
  | .contractCall _ => 0x06

namespace IntentTransaction

def signingPreimage (tx : IntentTransaction) : Bytes :=
  strBytes "OMNIPHI_INTENT_V1" ++ beBytes 32 tx.txId ++ beBytes 32 tx.sender ++
    beBytes 8 tx.nonce ++ tx.intentCanonicalBytes ++ beBytes 8 tx.maxFee ++ beBytes 8 tx.deadlineEpoch

theorem signingPayload_eq (sha256 : Sha256) (tx : IntentTransaction) :
    tx.signingPayload sha256 = sha256 tx.signingPreimage := rfl

theorem be32 : IsPrefixCode (beBytes 32 : Bytes32 → Bytes) := beBytes_code (by decide)

theorem be16 : IsPrefixCode (beBytes 16 : U128 → Bytes) := beBytes_code (by decide)

theorem be8 : IsPrefixCode (beBytes 8 : U64 → Bytes) := beBytes_code (by decide)

theorem be1 : IsPrefixCode (beBytes 1 : U8 → Bytes) := beBytes_code (by decide)

theorem be4 : IsPrefixCode (beBytes 4 : U32 → Bytes) := beBytes_code (by decide)

variable {tx tx' : IntentTransaction}

theorem head_intentCanonicalBytes (tx : IntentTransaction) :
    tx.intentCanonicalBytes.head? = some tx.intent.tag := by
  unfold intentCanonicalBytes
  cases tx.intent <;> rfl

theorem signedAlike_of_bytes (same : tx.intentCanonicalBytes = tx'.intentCanonicalBytes) :
    tx.intent.SignedAlike tx'.intent := by
  have tags : tx.intent.tag = tx'.intent.tag := by
    rw [← Option.some.injEq, ← head_intentCanonicalBytes, ← head_intentCanonicalBytes, same]
  unfold intentCanonicalBytes at same
  cases intent : tx.intent <;> cases intent' : tx'.intent <;> rw [intent, intent'] at tags same <;>
    first
    | (simp [IntentType.tag] at tags; done)
    | simp only [List.append_assoc, List.append_cancel_left_eq] at same
  case transfer.transfer t t' =>
      obtain ⟨asset, same⟩ := be32 same
      obtain ⟨amount, same⟩ := be16 same
      exact ⟨asset, amount, be32.injective same⟩
  case swap.swap s s' =>
      obtain ⟨input, same⟩ := be32 same
      obtain ⟨output, same⟩ := be32 same
      obtain ⟨amount, same⟩ := be16 same
      obtain ⟨least, same⟩ := be16 same
      have slippage := be4.injective same
      simp only [IntentType.SignedAlike, input, output, amount, least, slippage]
  case yieldAllocate.yieldAllocate y y' =>
      obtain ⟨asset, same⟩ := be32 same
      obtain ⟨amount, same⟩ := be16 same
      obtain ⟨vault, same⟩ := be32 same
      have apy := be4.injective same
      obtain ⟨⟩ := y
      obtain ⟨⟩ := y'
      simp_all [IntentType.SignedAlike]
  case treasuryRebalance.treasuryRebalance r r' =>
      obtain ⟨source, same⟩ := be32 same
      obtain ⟨target, same⟩ := be32 same
      obtain ⟨amount, same⟩ := be16 same
      obtain ⟨-, same⟩ := be4 same
      have lengths := congrArg List.length same
      rw [length_flatMap_of_length (length_beBytes 32), length_flatMap_of_length (length_beBytes 32)]
        at lengths
      have count : r.authorizedBy.length = r'.authorizedBy.length := by omega
      obtain ⟨authorities, -⟩ := be32.flatMap count (congrArg (· ++ []) same)
      obtain ⟨⟩ := r
      obtain ⟨⟩ := r'
      simp_all [IntentType.SignedAlike]
  case routeLiquidity.routeLiquidity rl rl' =>
      obtain ⟨source, same⟩ := be32 same
      obtain ⟨target, same⟩ := be32 same
      obtain ⟨asset, same⟩ := be32 same
      obtain ⟨amount, same⟩ := be16 same
      obtain ⟨least, same⟩ := be16 same
      obtain ⟨hops, same⟩ := be1 same
      have impact := beBytes_injective (by decide) same
      obtain ⟨⟩ := rl
      obtain ⟨⟩ := rl'
      simp_all [IntentType.SignedAlike]
  case contractCall.contractCall c c' => trivial

structure SignedAlike (tx tx' : IntentTransaction) : Prop where
  txId : tx.txId = tx'.txId
  sender : tx.sender = tx'.sender
  maxFee : tx.maxFee = tx'.maxFee
  intent : tx.intent.SignedAlike tx'.intent

theorem signedAlike_of_preimage (same : tx.signingPreimage = tx'.signingPreimage) :
    SignedAlike tx tx' := by
  unfold signingPreimage at same
  obtain ⟨same, -⟩ := List.append_inj' same (by simp)
  obtain ⟨same, fee⟩ := List.append_inj' same (by simp)
  simp only [List.append_assoc] at same
  have same := List.append_cancel_left same
  obtain ⟨txId, same⟩ := be32 same
  obtain ⟨sender, same⟩ := be32 same
  obtain ⟨-, same⟩ := be8 same
  exact ⟨txId, sender, be8.injective fee, signedAlike_of_bytes same⟩

end IntentTransaction

end Signed

section Pools

def SwapIntent.Allows (s : SwapIntent) (poolId : ObjectId) : Prop :=
  ∀ ids, s.allowedPoolIds = some ids → poolId ∈ ids

def IntentType.SamePools : IntentType → IntentType → Prop
  | .swap s, .swap s' => ∀ poolId, s.Allows poolId ↔ s'.Allows poolId
  | _, _ => True

def LiquidityPoolObject.Trades (pool : LiquidityPoolObject) (assetA assetB : Bytes32) : Prop :=
  (pool.assetA = assetA ∧ pool.assetB = assetB) ∨ (pool.assetA = assetB ∧ pool.assetB = assetA)

namespace IntentResolver

variable {store : ObjectStore} {s s' : SwapIntent} {pool : LiquidityPoolObject}

theorem eligiblePool_of_allowed {listed : LiquidityPoolObject} {poolId : ObjectId}
    (found : store.findPool s.inputAsset s.outputAsset = some pool)
    (held : store.getPoolById poolId = some listed) (trades : listed.Trades s.inputAsset s.outputAsset)
    (allowed : s.Allows poolId) : eligiblePool store s = some pool := by
  have searched : (eligiblePool store s).isSome := by
    unfold eligiblePool
    cases restriction : s.allowedPoolIds with
    | none => exact Option.isSome_of_eq_some found
    | some ids =>
        apply List.findSome?_isSome_iff.2
        refine ⟨poolId, allowed ids restriction, ?_⟩
        simp only [held, Option.bind_eq_bind, Option.bind_some]
        unfold LiquidityPoolObject.Trades at trades
        rw [if_pos trades]
        exact Option.isSome_of_eq_some found
  obtain ⟨used, eligible⟩ := Option.isSome_iff_exists.1 searched
  rw [eligible, ← eligiblePool_some eligible, found]

theorem eligiblePool_eq_some :
    eligiblePool store s = some pool ↔ store.findPool s.inputAsset s.outputAsset = some pool ∧
      ∃ poolId listed, store.getPoolById poolId = some listed ∧
        listed.Trades s.inputAsset s.outputAsset ∧ s.Allows poolId := by
  constructor
  · intro eligible
    have found := eligiblePool_some eligible
    refine ⟨found, ?_⟩
    unfold eligiblePool at eligible
    cases restriction : s.allowedPoolIds with
    | none =>
        obtain ⟨held, trades⟩ := ObjectStore.findPool_spec found
        refine ⟨pool.id, pool, held, trades, ?_⟩
        intro ids given
        rw [restriction] at given
        cases given
    | some ids =>
        rw [restriction] at eligible
        obtain ⟨poolId, member, here⟩ := List.exists_of_findSome?_eq_some eligible
        obtain ⟨listed, held, here⟩ := Option.bind_eq_some_iff.1 here
        split at here
        · rename_i trades
          refine ⟨poolId, listed, held, trades, ?_⟩
          intro ids' given
          obtain rfl := Option.some.inj (restriction.symm.trans given)
          exact member
        · cases here
  · intro ⟨found, poolId, listed, held, trades, allowed⟩
    exact eligiblePool_of_allowed found held trades allowed

theorem eligiblePool_congr (alike : s' = { s with allowedPoolIds := s'.allowedPoolIds })
    (pools : ∀ poolId, s.Allows poolId ↔ s'.Allows poolId) :
    eligiblePool store s = eligiblePool store s' := by
  have input : s'.inputAsset = s.inputAsset := by rw [alike]
  have output : s'.outputAsset = s.outputAsset := by rw [alike]
  apply Option.ext
  intro pool
  rw [eligiblePool_eq_some, eligiblePool_eq_some, input, output]
  simp only [pools]

theorem resolve_congr {tx tx' : IntentTransaction} (alike : IntentTransaction.SignedAlike tx tx')
    (pools : tx.intent.SamePools tx'.intent) (store : ObjectStore) (caps : CapabilitySet) :
    resolve tx store caps = resolve tx' store caps := by
  obtain ⟨txId, sender, maxFee, intent⟩ := alike
  unfold resolve
  rw [← txId, ← sender, ← maxFee]
  cases kind : tx.intent <;> cases kind' : tx'.intent <;> rw [kind, kind'] at intent pools <;>
    first
    | exact absurd intent id
    | (obtain rfl := intent; rfl)
    | skip
  case transfer.transfer t t' =>
    obtain ⟨asset, amount, recipient⟩ := intent
    simp only [resolveTransfer, asset, amount, recipient]
  case swap.swap s s' =>
    have eligible : eligiblePool store s = eligiblePool store s' := eligiblePool_congr intent pools
    rw [intent] at eligible ⊢
    simp only [resolveSwap, eligible]
    rfl

end IntentResolver

end Pools

section OnePool

/-! A store with one pool, filled so that a swap through it pays its least output exactly. -/

namespace SwapIntent

variable (s : SwapIntent) (poolId : ObjectId) (sender : Bytes32)

def exactPool : LiquidityPoolObject :=
  { info := .new poolId .liquidityPool sender 0, assetA := s.inputAsset, assetB := s.outputAsset
    reserveA := 0, reserveB := s.minOutputAmount, feeBps := 9999, lpTokenId := 0, totalLpSupply := 0 }

def inputBalance : BalanceObject := .new (poolId + 1) sender s.inputAsset s.inputAmount 0

def outputBalance : BalanceObject := .new (poolId + 2) sender s.outputAsset 0 0

def onePoolStore : ObjectStore :=
  ((ObjectStore.new.insert (.pool (s.exactPool poolId sender))).insert
    (.balance (s.inputBalance poolId sender))).insert (.balance (s.outputBalance poolId sender))

variable {s poolId sender}

theorem getPoolById_onePoolStore (id : ObjectId) :
    (s.onePoolStore poolId sender).getPoolById id =
      if poolId = id then some (s.exactPool poolId sender) else none := by
  show (KeyedMap.empty.insert (s.exactPool poolId sender)).get? id = _
  rw [KeyedMap.get?_insert, KeyedMap.get?_empty]
  rfl

theorem getBalanceById_onePoolStore (id : ObjectId) :
    (s.onePoolStore poolId sender).getBalanceById id =
      if poolId + 2 = id then some (s.outputBalance poolId sender)
      else if poolId + 1 = id then some (s.inputBalance poolId sender) else none := by
  show ((KeyedMap.empty.insert (s.inputBalance poolId sender)).insert
    (s.outputBalance poolId sender)).get? id = _
  rw [KeyedMap.get?_insert, KeyedMap.get?_insert, KeyedMap.get?_empty]
  rfl

theorem findPool_onePoolStore :
    (s.onePoolStore poolId sender).findPool s.inputAsset s.outputAsset =
      some (s.exactPool poolId sender) := by
  apply KeyedMap.find?_values_of_unique
  · exact (getPoolById_onePoolStore poolId).trans (if_pos rfl)
  · simp [exactPool]
  · intro id pool held _
    have held := (getPoolById_onePoolStore id).symm.trans held
    split at held
    · exact (Option.some.inj held).symm
    · cases held

theorem findBalance_input (differ : s.inputAsset ≠ s.outputAsset) :
    (s.onePoolStore poolId sender).findBalance sender s.inputAsset =
      some (s.inputBalance poolId sender) := by
  have apart : poolId + 2 ≠ poolId + 1 := by bv_omega
  apply KeyedMap.find?_values_of_unique
  · refine (getBalanceById_onePoolStore (poolId + 1)).trans ?_
    rw [if_neg apart, if_pos rfl]
  · simp [inputBalance, BalanceObject.new]
  · intro id balance held fits
    have held := (getBalanceById_onePoolStore id).symm.trans held
    split at held
    · obtain rfl := Option.some.inj held
      simp [outputBalance, BalanceObject.new, differ.symm] at fits
    · split at held
      · exact (Option.some.inj held).symm
      · cases held

theorem findBalance_output (differ : s.inputAsset ≠ s.outputAsset) :
    (s.onePoolStore poolId sender).findBalance sender s.outputAsset =
      some (s.outputBalance poolId sender) := by
  apply KeyedMap.find?_values_of_unique
  · exact (getBalanceById_onePoolStore (poolId + 2)).trans (if_pos rfl)
  · simp [outputBalance, BalanceObject.new]
  · intro id balance held fits
    have held := (getBalanceById_onePoolStore id).symm.trans held
    split at held
    · exact (Option.some.inj held).symm
    · split at held
      · obtain rfl := Option.some.inj held
        simp [inputBalance, BalanceObject.new, differ] at fits
      · cases held

end SwapIntent

namespace IntentResolver

theorem product_lt (a b : U128) : a.toNat * b.toNat < 2 ^ 256 :=
  calc
    a.toNat * b.toNat < 2 ^ 128 * 2 ^ 128 := Nat.mul_lt_mul'' a.isLt b.isLt
    _ = 2 ^ 256 := by norm_num

theorem ammOutput_exact {input reserve : U128} (positive : input ≠ 0) :
    ammOutput input 0 reserve 9999 = .ok reserve := by
  have nonzero : input.toNat ≠ 0 := BitVec.toNat_ne.1 positive
  have inputBound := input.isLt
  have quotient : input.toNat * reserve.toNat / input.toNat = reserve.toNat :=
    Nat.mul_div_cancel_left _ (Nat.pos_of_ne_zero nonzero)
  simp only [ammOutput, fail, bind_ok, guard_ok, U256.add_ok, U256.sub_ok, U256.mul_ok]
  refine ⟨1, by decide, input.toNat, by omega, _, ⟨product_lt input reserve, rfl⟩, 0, by decide,
    input.toNat, by omega, nonzero, ?_, ?_⟩
  · rw [quotient]
    have reserveBound := reserve.isLt
    omega
  · rw [quotient, BitVec.ofNat_toNat, BitVec.setWidth_eq]
    rfl

theorem checkSlippage_exact (s : SwapIntent) (positive : s.inputAmount ≠ 0) :
    checkSlippage s 0 s.minOutputAmount s.minOutputAmount = .ok () := by
  have nonzero : s.inputAmount.toNat ≠ 0 := BitVec.toNat_ne.1 positive
  have inputBound := s.inputAmount.isLt
  have quotient : s.inputAmount.toNat * s.minOutputAmount.toNat / s.inputAmount.toNat =
      s.minOutputAmount.toNat :=
    Nat.mul_div_cancel_left _ (Nat.pos_of_ne_zero nonzero)
  have sum : U256.add (0 : U128).toNat s.inputAmount.toNat = .ok s.inputAmount.toNat :=
    U256.add_ok.2 (by simp; omega)
  have product : U256.mul s.inputAmount.toNat s.minOutputAmount.toNat =
      .ok (s.inputAmount.toNat * s.minOutputAmount.toNat) :=
    U256.mul_ok.2 ⟨product_lt _ _, rfl⟩
  simp only [checkSlippage, sum, product, bind, Except.bind, quotient, lt_irrefl, if_false]
  rw [if_pos nonzero]
  rfl

theorem resolveSwap_onePoolStore {s : SwapIntent} {poolId : ObjectId} (txId : Bytes32) (maxFee : U64)
    (sender : Bytes32) (positive : s.inputAmount ≠ 0) (differ : s.inputAsset ≠ s.outputAsset)
    (allowed : s.Allows poolId) :
    ∃ plan, resolveSwap txId maxFee sender (s.onePoolStore poolId sender) .userDefault s = .ok plan := by
  have eligible : eligiblePool (s.onePoolStore poolId sender) s = some (s.exactPool poolId sender) :=
    eligiblePool_of_allowed SwapIntent.findPool_onePoolStore
      ((SwapIntent.getPoolById_onePoolStore poolId).trans (if_pos rfl)) (.inl ⟨rfl, rfl⟩) allowed
  have enough : s.inputAmount ≤ (s.inputBalance poolId sender).available := by
    rw [BitVec.le_def, BalanceObject.available, MachineInt.toNat_saturatingSub]
    exact Nat.le_refl _
  simp only [resolveSwap, fail, bind_ok, guard_ok, orElse_ok, spendable_ok, ownBalance_ok]
  refine ⟨_, (), rfl, s.exactPool poolId sender, eligible, s.minOutputAmount, ?_, BitVec.lt_irrefl _, (),
    ?_,
    s.inputBalance poolId sender, ⟨SwapIntent.findBalance_input differ, enough⟩,
    s.outputBalance poolId sender, SwapIntent.findBalance_output differ, rfl⟩
  · simp only [SwapIntent.exactPool, decide_true, if_true]
    exact ammOutput_exact positive
  · simp only [SwapIntent.exactPool, decide_true, if_true]
    exact checkSlippage_exact s positive

end IntentResolver

end OnePool

section Binding

def SameResult : Resolution ExecutionPlan → Resolution ExecutionPlan → Prop
  | .ok plan, .ok plan' =>
      plan.operations = plan'.operations ∧ plan.objectAccess = plan'.objectAccess ∧
        plan.gasLimit = plan'.gasLimit
  | .error (.error _), .error (.error _) => True
  | .error .panic, .error .panic => True
  | _, _ => False

theorem SameResult.refl : (result : Resolution ExecutionPlan) → SameResult result result
  | .ok _ => ⟨rfl, rfl, rfl⟩
  | .error (.error _) => trivial
  | .error .panic => trivial

theorem SameResult.symm {result result' : Resolution ExecutionPlan} (same : SameResult result result') :
    SameResult result' result := by
  match result, result', same with
  | .ok _, .ok _, ⟨operations, access, gas⟩ => exact ⟨operations.symm, access.symm, gas.symm⟩
  | .error (.error _), .error (.error _), _ => trivial
  | .error .panic, .error .panic, _ => trivial

namespace IntentResolver

variable {s s' : SwapIntent} {poolId : ObjectId}

theorem eligiblePool_onePoolStore_of_not_allowed {sender : Bytes32} (forbidden : ¬ s'.Allows poolId) :
    eligiblePool (s.onePoolStore poolId sender) s' = none := by
  apply Option.eq_none_iff_forall_not_mem.2
  intro pool eligible
  obtain ⟨-, id, listed, held, -, allowed⟩ := eligiblePool_eq_some.1 eligible
  rw [SwapIntent.getPoolById_onePoolStore] at held
  split at held
  · rename_i same
    exact forbidden (same ▸ allowed)
  · cases held

theorem allows_of_sameResult {txId sender : Bytes32} {maxFee : U64} (positive : s.inputAmount ≠ 0)
    (differ : s.inputAsset ≠ s.outputAsset)
    (same : ∀ store caps, SameResult (resolveSwap txId maxFee sender store caps s)
      (resolveSwap txId maxFee sender store caps s'))
    (allowed : s.Allows poolId) : s'.Allows poolId := by
  by_contra forbidden
  have here := same (s.onePoolStore poolId sender) .userDefault
  obtain ⟨plan, resolved⟩ := resolveSwap_onePoolStore txId maxFee sender positive differ allowed
  have failed : resolveSwap txId maxFee sender (s.onePoolStore poolId sender) .userDefault s' =
      .error (.error (.resolutionFailure "no eligible liquidity pool found for swap")) := by
    simp only [resolveSwap, eligiblePool_onePoolStore_of_not_allowed forbidden]
    rfl
  rw [resolved, failed] at here
  exact here

theorem swap_validate {tx : IntentTransaction} (valid : tx.validate = .ok ()) (kind : tx.intent = .swap s) :
    s.inputAmount ≠ 0 ∧ s.inputAsset ≠ s.outputAsset := by
  simp only [IntentTransaction.validate, IntentType.validate, kind, guard_ok] at valid
  obtain ⟨-, -, -, positive, differ, -⟩ := valid
  exact ⟨positive, differ⟩

theorem resolve_binds {tx tx' : IntentTransaction} (valid : tx.validate = .ok ())
    (valid' : tx'.validate = .ok ()) (alike : IntentTransaction.SignedAlike tx tx') :
    (∀ store caps, SameResult (resolve tx store caps) (resolve tx' store caps)) ↔
      tx.intent.SamePools tx'.intent := by
  constructor
  · intro same
    cases kind : tx.intent <;> cases kind' : tx'.intent <;> try trivial
    case swap.swap s s' =>
      obtain ⟨positive, differ⟩ := swap_validate valid kind
      obtain ⟨positive', differ'⟩ := swap_validate valid' kind'
      simp only [resolve, kind, kind', ← alike.txId, ← alike.sender, ← alike.maxFee] at same
      intro poolId
      constructor
      · apply allows_of_sameResult positive differ same
      · apply allows_of_sameResult positive' differ'
        intro store caps
        exact (same store caps).symm
  · intro pools store caps
    rw [resolve_congr alike pools store caps]
    exact .refl _

end IntentResolver

/-- Two valid transactions with one signing hash resolve alike in every state exactly when, as swaps,
they allow the same pools. -/
theorem signature_binds_resolution (sha256 : Sha256) (tx tx' : IntentTransaction)
    (valid : tx.validate = .ok ()) (valid' : tx'.validate = .ok ())
    (collisionFree : sha256 tx.signingPreimage = sha256 tx'.signingPreimage →
      tx.signingPreimage = tx'.signingPreimage)
    (signed : tx.signingPayload sha256 = tx'.signingPayload sha256) :
    (∀ store caps, SameResult (IntentResolver.resolve tx store caps)
      (IntentResolver.resolve tx' store caps)) ↔ tx.intent.SamePools tx'.intent := by
  rw [IntentTransaction.signingPayload_eq, IntentTransaction.signingPayload_eq] at signed
  apply IntentResolver.resolve_binds valid valid'
  exact IntentTransaction.signedAlike_of_preimage (collisionFree signed)

def signedSwap (allowedPoolIds : Option (List ObjectId)) : IntentTransaction :=
  { txId := 1, sender := 7, maxFee := 100, deadlineEpoch := 10, nonce := 0, signature := 0
    intent := .swap { inputAsset := 3, outputAsset := 4, inputAmount := 100, minOutputAmount := 80
                      maxSlippageBps := 500, allowedPoolIds }
    metadata := ∅, targetObjects := [], constraints := {}, executionMode := .bestEffort
    sponsor := none, sponsorSignature := none, sponsorshipLimits := {}, feePolicy := .senderPays
    feeEnvelope := none }

def signedSwapDigest : Sha256 :=
  fun _ => 0x61ba6e29af419ed81fb7e8a7d6e58259ecdecd338160ed9df031a552532fdbee

def tradedMarket : ObjectStore :=
  ((ObjectStore.new.insert (.balance (.new 1 7 3 100 0))).insert (.balance (.new 2 7 4 0 0))).insert
    (.pool { info := .new 5 .liquidityPool 9 0, assetA := 3, assetB := 4, reserveA := 1000
             reserveB := 1000, feeBps := 30, lpTokenId := 6, totalLpSupply := 1000 })

theorem signedSwap_repeated_pool :
    SameResult (IntentResolver.resolve (signedSwap (some [5])) tradedMarket .userDefault)
      (IntentResolver.resolve (signedSwap (some [5, 5])) tradedMarket .userDefault) := by
  apply (signature_binds_resolution signedSwapDigest (signedSwap (some [5])) (signedSwap (some [5, 5]))
    rfl rfl (fun _ => rfl) rfl).2
  intro poolId
  simp [SwapIntent.Allows]

theorem signedSwap_changed_pools :
    ¬ ∀ (sha256 : Sha256) (tx tx' : IntentTransaction), tx.validate = .ok () → tx'.validate = .ok () →
      (sha256 tx.signingPreimage = sha256 tx'.signingPreimage →
        tx.signingPreimage = tx'.signingPreimage) →
      tx.signingPayload sha256 = tx'.signingPayload sha256 →
      ∀ store caps, SameResult (IntentResolver.resolve tx store caps)
        (IntentResolver.resolve tx' store caps) := by
  intro binds
  have same := binds signedSwapDigest (signedSwap none) (signedSwap (some [6])) rfl rfl (fun _ => rfl) rfl
    tradedMarket .userDefault
  exact same

end Binding

end Omniphi.Runtime
