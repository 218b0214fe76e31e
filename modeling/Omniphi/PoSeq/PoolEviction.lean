import Omniphi.PoSeq.PoolInvariant

/-! What a full pool gives up for a new intent. The entry is chosen by its tip alone: neither its state nor
the tip of the newcomer is looked at. -/

namespace Omniphi.PoSeq

def PoolEntry.effectiveTip (entry : PoolEntry) : U64 := entry.intent.tip.getD 0

namespace IntentPool

section Lowest

/-- The entry has the lowest tip, and no earlier one has the same. -/
structure Cheapest (entries : List PoolEntry) (entry : PoolEntry) : Prop where
  member : entry ∈ entries
  least : ∀ other ∈ entries, entry.effectiveTip ≤ other.effectiveTip
  first : lowestTip entries = some (entry.intentId, entry.effectiveTip)

theorem cheapest_exists {entries : List PoolEntry} (some : entries ≠ []) :
    ∃ entry, Cheapest entries entry := by
  induction entries using List.reverseRecOn with
  | nil => exact absurd rfl some
  | append_singleton entries last ih =>
      have final : lowestTip (entries ++ [last]) = lower (lowestTip entries) last := by
        rw [lowestTip, List.foldl_append]
        rfl
      by_cases empty : entries = []
      · subst empty
        refine ⟨last, List.mem_singleton_self _, ?_, rfl⟩
        intro other member
        rw [List.nil_append, List.mem_singleton] at member
        rw [member]
        exact BitVec.le_refl _
      · obtain ⟨entry, member, least, first⟩ := ih empty
        rw [first] at final
        by_cases cheaper : last.effectiveTip < entry.effectiveTip
        · refine ⟨last, List.mem_append_right _ (List.mem_singleton_self _), ?_, ?_⟩
          · intro other listed
            rcases List.mem_append.1 listed with earlier | here
            · exact BitVec.le_trans (BitVec.le_of_lt cheaper) (least other earlier)
            · rw [List.mem_singleton.1 here]
              exact BitVec.le_refl _
          · rw [final]
            exact if_pos cheaper
        · refine ⟨entry, List.mem_append_left _ member, ?_, ?_⟩
          · intro other listed
            rcases List.mem_append.1 listed with earlier | here
            · exact least other earlier
            · rw [List.mem_singleton.1 here]
              exact BitVec.not_lt.1 cheaper
          · rw [final]
            exact if_neg cheaper

end Lowest

variable {sha256 : Sha256} {pool : IntentPool} {intent : IntentTransaction}

structure Acceptable (sha256 : Sha256) (pool : IntentPool) (intent : IntentTransaction) : Prop where
  eligible : Eligible sha256 pool intent
  allowed : ¬ pool.Exhausted intent.user
  follows : pool.nonceTracker.Follows intent.user intent.nonce

/-- The entry may make way for the intent: it is not matched, no entry that is not matched has a lower tip,
and the intent's tip is not lower either. -/
structure MakesWay (pool : IntentPool) (intent : IntentTransaction) (entry : PoolEntry) : Prop where
  held : pool.entries.get? entry.intentId = some entry
  unmatched : entry.lifecycle.state ≠ .matched
  lowest : ∀ other ∈ pool.entries.values, other.lifecycle.state ≠ .matched →
    entry.effectiveTip ≤ other.effectiveTip
  within : entry.effectiveTip ≤ intent.tip.getD 0

def entriesAfter (pool : IntentPool) (intent : IntentTransaction) (entry : PoolEntry) :
    KeyedMap PoolEntry.intentId :=
  (pool.entries.erase entry.intentId).insert ⟨intent, .new intent.intentId pool.currentBlock⟩

/-- An acceptable intent is admitted to a full pool in the place of an entry that may make way for it, and
where there is none it is refused without effect. -/
structure KeepsBest (sha256 : Sha256) (pool : IntentPool) (intent : IntentTransaction) : Prop where
  admitted : ∀ announcement, (pool.admitIntent sha256 intent).result = .ok announcement →
    ∃ entry, MakesWay pool intent entry ∧
      (pool.admitIntent sha256 intent).pool.entries = pool.entriesAfter intent entry
  refused : (∀ entry, ¬ MakesWay pool intent entry) →
    (∃ e, (pool.admitIntent sha256 intent).result = .error e) ∧
      (pool.admitIntent sha256 intent).pool = pool

theorem admit_full (full : maxPoolSize ≤ pool.entries.size) (acceptable : Acceptable sha256 pool intent)
    {entry : PoolEntry} (cheapest : Cheapest pool.entries.values entry) :
    (pool.admitIntent sha256 intent).result = .ok (.fromIntent intent) ∧
      (pool.admitIntent sha256 intent).pool.entries = pool.entriesAfter intent entry := by
  have evicted : (pool.recorded intent).makeRoom =
      (true,
        { (pool.recorded intent).dropped entry.intentId with
          metrics := { pool.metrics with totalEvicted := pool.metrics.totalEvicted + 1 } },
        overflows pool.metrics.totalEvicted 1) := by
    have full : maxPoolSize ≤ (pool.recorded intent).entries.size := full
    have first : lowestTip (pool.recorded intent).entries.values =
      some (entry.intentId, entry.effectiveTip) := cheapest.first
    rw [makeRoom, if_pos full, evictLowestTip, first]
    rfl
  rw [admit_numbered acceptable.eligible acceptable.allowed acceptable.follows, evicted]
  exact ⟨rfl, rfl⟩

theorem entriesAfter_inj (unknown : pool.knows intent.intentId = false) {entry other : PoolEntry}
    (held : pool.entries.get? entry.intentId = some entry)
    (same : pool.entriesAfter intent entry = pool.entriesAfter intent other)
    (heldOther : pool.entries.get? other.intentId = some other) : entry = other := by
  rw [knows, Bool.or_eq_false_iff] at unknown
  have apart : intent.intentId ≠ entry.intentId := by
    intro equal
    rw [equal, KeyedMap.contains_eq, held] at unknown
    exact Bool.false_ne_true unknown.2.symm
  have missing := congrArg (fun entries => KeyedMap.get? entries entry.intentId) same
  have after (gone : PoolEntry) : (pool.entriesAfter intent gone).get? entry.intentId =
      if gone.intentId = entry.intentId then none else pool.entries.get? entry.intentId := by
    rw [entriesAfter, KeyedMap.get?_insert, KeyedMap.get?_erase]
    exact if_neg apart
  simp only [after, if_true] at missing
  by_cases equal : other.intentId = entry.intentId
  · rw [equal, held] at heldOther
    exact Option.some.inj heldOther
  · rw [if_neg equal, held] at missing
    cases missing

theorem keepsBest_full (full : maxPoolSize ≤ pool.entries.size)
    (acceptable : Acceptable sha256 pool intent) {entry : PoolEntry}
    (cheapest : Cheapest pool.entries.values entry) : KeepsBest sha256 pool intent ↔
      entry.lifecycle.state ≠ .matched ∧ entry.effectiveTip ≤ intent.tip.getD 0 := by
  obtain ⟨accepted, entries⟩ := admit_full full acceptable cheapest
  have held := KeyedMap.mem_values.1 cheapest.member
  constructor
  · intro best
    obtain ⟨evicted, makesWay, after⟩ := best.admitted _ accepted
    rw [entries] at after
    obtain rfl := entriesAfter_inj acceptable.eligible.unknown held after makesWay.held
    exact ⟨makesWay.unmatched, makesWay.within⟩
  · rintro ⟨unmatched, within⟩
    have makesWay : MakesWay pool intent entry :=
      ⟨held, unmatched, fun other listed _ => cheapest.least other listed, within⟩
    constructor
    · intro announcement _
      exact ⟨entry, makesWay, entries⟩
    · intro none
      exact absurd makesWay (none entry)

/-- A full pool keeps its best intents exactly when the first entry with the lowest tip of all is not
matched and has no higher tip than the newcomer. -/
theorem keepsBest_iff_cheapest_makes_way (sha256 : Sha256) (pool : IntentPool)
    (intent : IntentTransaction) :
    (maxPoolSize ≤ pool.entries.size → Acceptable sha256 pool intent → KeepsBest sha256 pool intent) ↔
      (maxPoolSize ≤ pool.entries.size → Acceptable sha256 pool intent →
        ∀ entry, Cheapest pool.entries.values entry →
          entry.lifecycle.state ≠ .matched ∧ entry.effectiveTip ≤ intent.tip.getD 0) := by
  constructor
  · intro best full acceptable entry cheapest
    exact (keepsBest_full full acceptable cheapest).1 (best full acceptable)
  · intro condition full acceptable
    obtain ⟨entry, cheapest⟩ := cheapest_exists (values_ne_nil_of_full full)
    exact (keepsBest_full full acceptable cheapest).2 (condition full acceptable entry cheapest)

end IntentPool

namespace PoolHistory

open IntentPool

section Full

noncomputable def userSha256 : Sha256 := fun bytes => Function.invFun (beBytes 32) (bytes.take 32)

def offer (user : Bytes32) (tip : U64) : IntentTransaction where
  intentId := user
  intentType := .payment { asset := ⟨1, .native, 7⟩, amount := 100, recipient := 2, memo := none }
  version := 1
  user := user
  nonce := 0
  recipient := none
  deadline := 100
  validFrom := none
  maxFee := 10
  tip := some tip
  partialFillAllowed := false
  solverPermissions := ⟨.allowAll, []⟩
  executionPreferences := ⟨.normal, none, false⟩
  witnessHash := none
  signature := [1]
  metadata := ∅

theorem userSha256_offer (user : Bytes32) (tip : U64) :
    (offer user tip).computeIntentId userSha256 = user := by
  have front (rest : Bytes) : (beBytes 32 user ++ rest).take 32 = beBytes 32 user :=
    List.take_left' (length_beBytes 32 user)
  have back : Function.invFun (beBytes 32) (beBytes 32 user) = user :=
    Function.leftInverse_invFun (beBytes_injective (by decide)) user
  simp only [IntentTransaction.computeIntentId, userSha256, offer, List.append_assoc, front, back]

theorem offer_valid {user : Bytes32} (nonzero : user ≠ 0) (tip : U64) :
    (offer user tip).validateBasic userSha256 = .ok () := by
  have nonzero : user ≠ 0#256 := nonzero
  unfold IntentTransaction.validateBasic
  rw [userSha256_offer]
  simp [offer, nonzero, minIntentFeeBps, IntentKind.validate]
  rfl

theorem offer_small (user : Bytes32) (tip : U64) : (offer user tip).estimatedSize ≤ maxIntentSize := by
  have none : (∅ : BTreeMap String String).toList = [] := rfl
  simp [offer, none, IntentTransaction.estimatedSize, Bincode.intentTransaction, Bincode.intentKind,
    Bincode.assetId, Omniphi.Bincode.variant, Omniphi.Bincode.optional, Omniphi.Bincode.sequence,
    Omniphi.Bincode.flag, maxIntentSize]

structure Filled (tip : U64) (n : Nat) (pool : IntentPool) : Prop where
  size : pool.entries.size = n
  atStart : pool.currentBlock = 0
  known : ∀ id, pool.knows id = true → id.toNat ≤ n
  tips : ∀ entry ∈ pool.entries.values, entry.effectiveTip = tip
  unused : ∀ user : Bytes32, n < user.toNat → pool.rateTracker.used user 0 = 0
  unnumbered : ∀ user : Bytes32, n < user.toNat → pool.nonceTracker.highest[user]? = none

variable {tip : U64} {n : Nat} {pool : IntentPool}

theorem filled_acceptable (filled : Filled tip n pool) {user : Bytes32} (next : n < user.toNat)
    (other : U64) : IntentPool.Acceptable userSha256 pool (offer user other) where
  eligible := by
    have nonzero : user ≠ 0 := by
      rintro rfl
      exact absurd next (Nat.not_lt_zero n)
    refine ⟨offer_valid nonzero other, ?_, offer_small user other, ?_⟩
    · rw [Bool.eq_false_iff]
      intro known
      exact absurd (filled.known user known) (Nat.not_le.2 next)
    · rw [filled.atStart]
      exact (by decide : (0 : U64) + minIntentLifetime < 100)
  allowed := by
    show ¬ maxIntentsPerBlockPerUser ≤ pool.rateTracker.used user pool.currentBlock
    rw [filled.atStart, filled.unused user next]
    decide
  follows := by
    intro last recorded
    have recorded : pool.nonceTracker.highest[user]? = some last := recorded
    rw [filled.unnumbered user next] at recorded
    cases recorded

theorem filled_admit (filled : Filled tip n pool) (room : n < maxPoolSize) {user : Bytes32}
    (next : user.toNat = n + 1) :
    (pool.admitIntent userSha256 (offer user tip)).result = .ok (.fromIntent (offer user tip)) ∧
      (pool.admitIntent userSha256 (offer user tip)).pool =
        (pool.recorded (offer user tip)).enter (offer user tip) := by
  have acceptable := filled_acceptable filled (by omega : n < user.toNat) tip
  have fits : (pool.recorded (offer user tip)).makeRoom = (true, pool.recorded (offer user tip), false) := by
    have small : ¬ maxPoolSize ≤ (pool.recorded (offer user tip)).entries.size := by
      show ¬ maxPoolSize ≤ pool.entries.size
      rw [filled.size]
      omega
    rw [makeRoom, if_neg small]
  rw [admit_numbered acceptable.eligible acceptable.allowed acceptable.follows, fits]
  exact ⟨rfl, rfl⟩

theorem filled_next (filled : Filled tip n pool) {user : Bytes32} (next : user.toNat = n + 1) :
    Filled tip (n + 1) ((pool.recorded (offer user tip)).enter (offer user tip)) := by
  have absent : pool.entries.get? user = none := by
    rw [← Option.not_isSome_iff_eq_none, ← KeyedMap.contains_eq]
    intro held
    have bound := filled.known user (by rw [knows, held, Bool.or_true])
    omega
  have apart {other : Bytes32} (later : n + 1 < other.toNat) : user ≠ other := by
    rintro rfl
    omega
  constructor
  · show (pool.entries.insert _).size = n + 1
    rw [← KeyedMap.length_values, ← filled.size, ← KeyedMap.length_values, ← List.countP_true,
      KeyedMap.countP_values_insert absent, List.countP_true, if_pos rfl]
  · exact filled.atStart
  · intro id known
    have known : ((pool.seenIds.insert user).contains id ||
        (pool.entries.insert ⟨offer user tip, .new user pool.currentBlock⟩).contains id) = true := known
    rw [Std.ExtTreeSet.contains_insert, KeyedMap.contains_insert, Bool.or_eq_true, Bool.or_eq_true,
      Bool.or_eq_true, beq_iff_eq, Std.LawfulEqOrd.compare_eq_iff_eq, decide_eq_true_eq] at known
    have kept (earlier : pool.knows id = true) : id.toNat ≤ n + 1 :=
      (filled.known id earlier).trans (Nat.le_succ n)
    rcases known with (rfl | seen) | (same | held)
    · exact le_of_eq next
    · exact kept (by rw [knows, seen, Bool.true_or])
    · rw [← show user = id from same]
      exact le_of_eq next
    · exact kept (by rw [knows, held, Bool.or_true])
  · intro entry member
    have held := KeyedMap.mem_values.1 member
    have held : (pool.entries.insert ⟨offer user tip, .new user pool.currentBlock⟩).get? entry.intentId =
      some entry := held
    rw [KeyedMap.get?_insert] at held
    split at held
    · rw [← Option.some.inj held]
      rfl
    · exact filled.tips entry (KeyedMap.mem_values.2 held)
  · intro other later
    show (UserRateTracker.mk (pool.rateTracker.counts.insert user _)).used other 0 = 0
    rw [UserRateTracker.used_insert, if_neg (apart later)]
    exact filled.unused other (by omega)
  · intro other later
    show (pool.nonceTracker.highest.insert user _)[other]? = none
    rw [BTree.getElem?_insert, if_neg (apart later)]
    exact filled.unnumbered other (by omega)

def filling (tip : U64) (n : Nat) : List PoolCall :=
  (List.range n).map fun i => .admitIntent (offer (BitVec.ofNat 256 (i + 1)) tip)

theorem filled_filling (tip : U64) (within : n ≤ maxPoolSize) :
    Filled tip n ((filling tip n).foldl (step userSha256) start).pool := by
  induction n with
  | zero =>
      refine ⟨rfl, rfl, ?_, ?_, ?_, ?_⟩
      · intro id known
        simp [filling, start, IntentPool.new, knows, KeyedMap.contains_eq] at known
      · intro entry member
        exact absurd member List.not_mem_nil
      · intro user later
        simp [filling, start, IntentPool.new, UserRateTracker.used]
      · intro user later
        simp [filling, start, IntentPool.new]
  | succ n ih =>
      have filled := ih (by omega)
      have last : filling tip (n + 1) =
          filling tip n ++ [.admitIntent (offer (BitVec.ofNat 256 (n + 1)) tip)] := by
        rw [filling, List.range_succ, List.map_append]
        rfl
      have numbered : (BitVec.ofNat 256 (n + 1)).toNat = n + 1 := by
        have bound : maxPoolSize = 50000 := rfl
        rw [BitVec.toNat_ofNat]
        omega
      obtain ⟨accepted, entered⟩ := filled_admit filled (by omega) numbered
      rw [last, List.foldl_append, List.foldl_cons, List.foldl_nil]
      generalize (filling tip n).foldl (step userSha256) start = history at filled accepted entered
      simp only [step, accepted, entered]
      exact filled_next filled numbered

/-- With fifty thousand intents of tip 5 in the pool, one without a tip is admitted in the place of one
of them. -/
theorem tipless_newcomer_admitted :
    maxPoolSize ≤ ((filling 5 maxPoolSize).foldl (step userSha256) start).pool.entries.size ∧
      IntentPool.Acceptable userSha256 ((filling 5 maxPoolSize).foldl (step userSha256) start).pool
        (offer 50001 0) ∧
      ¬ KeepsBest userSha256 ((filling 5 maxPoolSize).foldl (step userSha256) start).pool
        (offer 50001 0) := by
  have filled := filled_filling 5 (le_refl maxPoolSize)
  generalize ((filling 5 maxPoolSize).foldl (step userSha256) start).pool = pool at filled
  have full : maxPoolSize ≤ pool.entries.size := filled.size.ge
  have acceptable := filled_acceptable filled (by decide : maxPoolSize < (50001 : Bytes32).toNat) 0
  refine ⟨full, acceptable, fun best => ?_⟩
  obtain ⟨entry, cheapest⟩ := cheapest_exists (values_ne_nil_of_full full)
  have within := ((keepsBest_full full acceptable cheapest).1 best).2
  rw [filled.tips entry cheapest.member] at within
  exact absurd within (by decide)

end Full

end PoolHistory

end Omniphi.PoSeq
