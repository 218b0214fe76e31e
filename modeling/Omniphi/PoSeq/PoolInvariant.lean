import Omniphi.Lib.Run
import Omniphi.PoSeq.IntentPool

/-! What holds of the intent pool over every sequence of calls, and which calls leave a rejected user with
less than before or add past the end of the range. -/

namespace Omniphi.PoSeq

theorem overflows_eq_false {a b : U64} : overflows a b = false ↔ a.toNat + b.toNat < 2 ^ 64 := by
  simp [overflows]

namespace UserRateTracker

def used (tracker : UserRateTracker) (user : Bytes32) (block : U64) : U32 :=
  match tracker.counts[user]? with
  | some (height, count) => if height = block then count else 0
  | none => 0

variable {tracker : UserRateTracker} {user : Bytes32} {block : U64}

theorem reset_eq :
    (let entry := tracker.counts[user]?.getD (block, 0)
     if entry.1 ≠ block then (block, 0) else entry) = (block, tracker.used user block) := by
  unfold used
  cases tracker.counts[user]? with
  | none => simp
  | some entry =>
      obtain ⟨height, count⟩ := entry
      by_cases same : height = block
      · simp [same]
      · simp [same]

theorem checkAndIncrement_eq :
    tracker.checkAndIncrement user block =
      if maxIntentsPerBlockPerUser ≤ tracker.used user block then
        (.error (.rateLimitExceeded user (tracker.used user block) maxIntentsPerBlockPerUser),
          ⟨tracker.counts.insert user (block, tracker.used user block)⟩)
      else (.ok (), ⟨tracker.counts.insert user (block, tracker.used user block + 1)⟩) := by
  have entry := @reset_eq tracker user block
  simp only at entry
  simp only [checkAndIncrement, entry]

theorem used_insert (count : U32) (other : Bytes32) (height : U64) :
    (⟨tracker.counts.insert user (block, count)⟩ : UserRateTracker).used other height =
      if user = other then (if block = height then count else 0) else tracker.used other height := by
  simp only [used, BTree.getElem?_insert]
  by_cases same : user = other
  · simp only [same, if_true]
  · simp only [same, if_false]

end UserRateTracker

namespace NonceTracker

def Follows (tracker : NonceTracker) (user : Bytes32) (nonce : U64) : Prop :=
  ∀ last ∈ tracker.highest[user]?, last < nonce ∧ nonce ≤ last + maxNonceGap

instance (tracker : NonceTracker) (user : Bytes32) (nonce : U64) :
    Decidable (tracker.Follows user nonce) :=
  inferInstanceAs (Decidable (∀ last ∈ tracker.highest[user]?, _))

variable {tracker : NonceTracker} {user : Bytes32} {nonce : U64}

theorem in_range_of_between {last : U64} (above : last < nonce) (within : nonce ≤ last + maxNonceGap) :
    last.toNat + maxNonceGap.toNat < 2 ^ 64 := by
  rw [BitVec.lt_def] at above
  rw [BitVec.le_def, BitVec.toNat_add] at within
  have small := last.isLt
  have gap : maxNonceGap.toNat = 3 := rfl
  omega

theorem checkAndRecord_follows (follows : tracker.Follows user nonce) :
    tracker.checkAndRecord user nonce = (.ok (), ⟨tracker.highest.insert user nonce⟩, false) := by
  unfold checkAndRecord
  cases recorded : tracker.highest[user]? with
  | none => rfl
  | some last =>
      obtain ⟨above, within⟩ := follows last recorded
      have room := overflows_eq_false.2 (in_range_of_between above within)
      simp only [BitVec.not_le.2 above, BitVec.not_lt.2 within, if_false, room]

theorem checkAndRecord_fails (fails : ¬ tracker.Follows user nonce) :
    ∃ e overflow, tracker.checkAndRecord user nonce = (.error e, tracker, overflow) := by
  unfold checkAndRecord
  cases recorded : tracker.highest[user]? with
  | none => simp [Follows, recorded] at fails
  | some last =>
      simp only [Follows, recorded, Option.mem_def, Option.some.injEq, forall_eq'] at fails
      by_cases above : last < nonce
      · have beyond : last + maxNonceGap < nonce := by
          rw [← BitVec.not_le]
          intro within
          exact fails ⟨above, within⟩
        simp only [BitVec.not_le.2 above, beyond, if_false, if_true]
        exact ⟨_, _, rfl⟩
      · simp only [BitVec.not_lt.1 above, if_true]
        exact ⟨_, _, rfl⟩

end NonceTracker

namespace IntentPool

section Exits

variable {sha256 : Sha256} {pool : IntentPool} {intent : IntentTransaction}

def knows (pool : IntentPool) (id : Bytes32) : Bool :=
  pool.seenIds.contains id || pool.entries.contains id

structure Eligible (sha256 : Sha256) (pool : IntentPool) (intent : IntentTransaction) : Prop where
  valid : intent.validateBasic sha256 = .ok ()
  unknown : pool.knows intent.intentId = false
  small : intent.estimatedSize ≤ maxIntentSize
  inTime : pool.currentBlock + minIntentLifetime < intent.deadline

def Exhausted (pool : IntentPool) (user : Bytes32) : Prop :=
  maxIntentsPerBlockPerUser ≤ pool.rateTracker.used user pool.currentBlock

theorem admit_invalid {e : IntentValidationError} (invalid : intent.validateBasic sha256 = .error e) :
    pool.admitIntent sha256 intent = { result := .error e, pool, overflow := false } := by
  unfold admitIntent
  rw [invalid]

theorem admit_duplicate (valid : intent.validateBasic sha256 = .ok ())
    (known : pool.knows intent.intentId = true) :
    pool.admitIntent sha256 intent = pool.rejected "duplicate" .duplicateIntent false := by
  unfold admitIntent
  rw [valid]
  exact if_pos known

theorem admit_large (valid : intent.validateBasic sha256 = .ok ())
    (unknown : pool.knows intent.intentId = false) (large : maxIntentSize < intent.estimatedSize) :
    pool.admitIntent sha256 intent =
      pool.rejected "too_large" (.intentTooLarge intent.estimatedSize maxIntentSize) false := by
  unfold admitIntent
  unfold knows at unknown
  rw [valid]
  simp only [unknown, Bool.false_eq_true, large, if_false, if_true]

theorem admit_late (valid : intent.validateBasic sha256 = .ok ())
    (unknown : pool.knows intent.intentId = false) (small : intent.estimatedSize ≤ maxIntentSize)
    (late : intent.deadline ≤ pool.currentBlock + minIntentLifetime) :
    pool.admitIntent sha256 intent =
      pool.rejected "deadline_expired" (.deadlineExpired intent.deadline pool.currentBlock)
        (overflows pool.currentBlock minIntentLifetime) := by
  unfold admitIntent
  unfold knows at unknown
  rw [valid]
  simp only [unknown, Bool.false_eq_true, Nat.not_lt.2 small, late, if_false, if_true]

theorem admit_exhausted (eligible : Eligible sha256 pool intent) (exhausted : pool.Exhausted intent.user) :
    ∃ e, pool.admitIntent sha256 intent =
      { result := .error e
        pool := { pool with
          rateTracker := ⟨pool.rateTracker.counts.insert intent.user
            (pool.currentBlock, pool.rateTracker.used intent.user pool.currentBlock)⟩ }
        overflow := overflows pool.currentBlock minIntentLifetime } := by
  refine ⟨.rateLimitExceeded intent.user (pool.rateTracker.used intent.user pool.currentBlock)
    maxIntentsPerBlockPerUser, ?_⟩
  unfold admitIntent
  have unknown := eligible.unknown
  unfold knows at unknown
  unfold Exhausted at exhausted
  rw [eligible.valid]
  simp only [unknown, Bool.false_eq_true, Nat.not_lt.2 eligible.small, BitVec.not_le.2 eligible.inTime,
    UserRateTracker.checkAndIncrement_eq, exhausted, if_false, if_true]

def charged (pool : IntentPool) (user : Bytes32) : IntentPool :=
  { pool with
    rateTracker := ⟨pool.rateTracker.counts.insert user
      (pool.currentBlock, pool.rateTracker.used user pool.currentBlock + 1)⟩ }

theorem admit_misnumbered (eligible : Eligible sha256 pool intent) (allowed : ¬ pool.Exhausted intent.user)
    (fails : ¬ pool.nonceTracker.Follows intent.user intent.nonce) :
    ∃ e overflow, pool.admitIntent sha256 intent =
      { result := .error e, pool := pool.charged intent.user, overflow } := by
  obtain ⟨e, more, refused⟩ := NonceTracker.checkAndRecord_fails fails
  refine ⟨e, overflows pool.currentBlock minIntentLifetime || more, ?_⟩
  unfold admitIntent
  have unknown := eligible.unknown
  unfold knows at unknown
  unfold Exhausted at allowed
  rw [eligible.valid]
  simp only [unknown, Bool.false_eq_true, Nat.not_lt.2 eligible.small, BitVec.not_le.2 eligible.inTime,
    UserRateTracker.checkAndIncrement_eq, allowed, if_false, refused]
  rfl

def recorded (pool : IntentPool) (intent : IntentTransaction) : IntentPool :=
  { pool.charged intent.user with
    nonceTracker := ⟨pool.nonceTracker.highest.insert intent.user intent.nonce⟩ }

theorem admit_numbered (eligible : Eligible sha256 pool intent) (allowed : ¬ pool.Exhausted intent.user)
    (follows : pool.nonceTracker.Follows intent.user intent.nonce) :
    pool.admitIntent sha256 intent =
      (let (room, pool', evicting) := (pool.recorded intent).makeRoom
       let overflow := overflows pool.currentBlock minIntentLifetime || evicting
       if room = false then pool'.rejected "pool_full" .poolFull overflow
       else
        { result := .ok (.fromIntent intent), pool := pool'.enter intent
          overflow := overflow || overflows pool'.metrics.totalAdmitted 1 }) := by
  have unknown := eligible.unknown
  unfold knows at unknown
  unfold Exhausted at allowed
  unfold admitIntent
  rw [eligible.valid]
  simp only [unknown, Bool.false_eq_true, Nat.not_lt.2 eligible.small, BitVec.not_le.2 eligible.inTime,
    UserRateTracker.checkAndIncrement_eq, allowed, if_false, NonceTracker.checkAndRecord_follows follows,
    Bool.or_false]
  rfl

end Exits

section Room

variable {pool : IntentPool} {entries : List PoolEntry} {id : Bytes32}

/-- The order queue lists the keys of the entries, each once. -/
structure Listed (pool : IntentPool) : Prop where
  once : pool.insertionOrder.Nodup
  exactly : ∀ id, id ∈ pool.insertionOrder ↔ pool.entries.contains id = true

structure Shrinks (before after : IntentPool) : Prop where
  order : after.insertionOrder = before.insertionOrder.filter after.entries.contains
  entries : ∀ id, after.entries.contains id = true → before.entries.contains id = true
  size : after.entries.size ≤ before.entries.size
  seenIds : after.seenIds = before.seenIds
  rateTracker : after.rateTracker = before.rateTracker
  nonceTracker : after.nonceTracker = before.nonceTracker
  currentBlock : after.currentBlock = before.currentBlock

theorem Listed.shrinks {after : IntentPool} (listed : pool.Listed) (shrinks : Shrinks pool after) :
    after.Listed where
  once := by
    rw [shrinks.order]
    exact listed.once.filter _
  exactly := by
    intro id
    rw [shrinks.order, List.mem_filter, listed.exactly]
    exact ⟨fun held => held.2, fun held => ⟨shrinks.entries id held, held⟩⟩

theorem Listed.same_keys {after : IntentPool} (listed : pool.Listed)
    (order : after.insertionOrder = pool.insertionOrder)
    (keys : ∀ id, after.entries.contains id = pool.entries.contains id) :
    after.insertionOrder = pool.insertionOrder.filter after.entries.contains := by
  rw [order]
  symm
  apply List.filter_eq_self.2
  intro id member
  rw [keys]
  exact (listed.exactly id).1 member

def dropped (pool : IntentPool) (id : Bytes32) : IntentPool :=
  { pool with
    entries := pool.entries.erase id
    insertionOrder := pool.insertionOrder.filter (· ≠ id) }

theorem Listed.dropped (listed : pool.Listed) (id : Bytes32) : Shrinks pool (pool.dropped id) where
  order := by
    show pool.insertionOrder.filter (· ≠ id) = pool.insertionOrder.filter (pool.entries.erase id).contains
    apply List.filter_congr
    intro other member
    simp only [KeyedMap.contains_erase, (listed.exactly other).1 member, Bool.and_true, ne_comm]
  entries := by
    intro other held
    have held : (pool.entries.erase id).contains other = true := held
    rw [KeyedMap.contains_erase, Bool.and_eq_true] at held
    exact held.2
  size := KeyedMap.size_erase_le _ id
  seenIds := rfl
  rateTracker := rfl
  nonceTracker := rfl
  currentBlock := rfl

theorem lower_cases (lowest : Option (Bytes32 × U64)) (entry : PoolEntry) :
    (lower lowest entry).map Prod.fst = some entry.intentId ∨
      lower lowest entry = lowest ∧ lowest ≠ none := by
  unfold lower
  cases lowest with
  | none => exact .inl rfl
  | some held =>
      simp only
      split
      · exact .inl rfl
      · exact .inr ⟨rfl, Option.some_ne_none held⟩

theorem foldl_lower_cases (start : Option (Bytes32 × U64)) :
    (∃ entry ∈ entries, (entries.foldl lower start).map Prod.fst = some entry.intentId) ∨
      entries.foldl lower start = start ∧ (start = none → entries = []) := by
  induction entries generalizing start with
  | nil => exact .inr ⟨rfl, fun _ => rfl⟩
  | cons entry entries ih =>
      rw [List.foldl_cons]
      obtain ⟨later, member, found⟩ | ⟨same, -⟩ := ih (lower start entry)
      · exact .inl ⟨later, List.mem_cons_of_mem _ member, found⟩
      · rw [same]
        obtain here | ⟨same, held⟩ := lower_cases start entry
        · exact .inl ⟨entry, List.mem_cons_self, here⟩
        · exact .inr ⟨same, fun absent => absurd absent held⟩

theorem values_ne_nil_of_full (full : maxPoolSize ≤ pool.entries.size) : pool.entries.values ≠ [] := by
  intro empty
  rw [← KeyedMap.length_values, empty] at full
  exact absurd full (by decide)

theorem evictLowestTip_full (full : maxPoolSize ≤ pool.entries.size) :
    ∃ entry ∈ pool.entries.values, pool.evictLowestTip =
      (true,
        { pool.dropped entry.intentId with
          metrics := { pool.metrics with totalEvicted := pool.metrics.totalEvicted + 1 } },
        overflows pool.metrics.totalEvicted 1) := by
  obtain ⟨entry, member, lowest⟩ | ⟨-, empty⟩ := @foldl_lower_cases pool.entries.values none
  · refine ⟨entry, member, ?_⟩
    obtain ⟨⟨id, tip⟩, found, same⟩ := Option.map_eq_some_iff.1 lowest
    have same : id = entry.intentId := same
    unfold evictLowestTip lowestTip
    rw [found, same]
    rfl
  · exact absurd (empty rfl) (values_ne_nil_of_full full)

theorem makeRoom_cases (bounded : pool.entries.size ≤ maxPoolSize) (listed : pool.Listed) :
    ∃ room, pool.makeRoom =
        (true, room, decide (maxPoolSize ≤ pool.entries.size) && overflows pool.metrics.totalEvicted 1) ∧
      Shrinks pool room ∧ room.entries.size < maxPoolSize ∧
      room.metrics.totalAdmitted = pool.metrics.totalAdmitted := by
  unfold makeRoom
  by_cases full : maxPoolSize ≤ pool.entries.size
  · obtain ⟨entry, member, evicted⟩ := evictLowestTip_full full
    rw [if_pos full, evicted]
    have shrinks := listed.dropped entry.intentId
    refine ⟨{ pool.dropped entry.intentId with
        metrics := { pool.metrics with totalEvicted := pool.metrics.totalEvicted + 1 } },
      by rw [decide_eq_true full, Bool.true_and],
      ⟨shrinks.order, shrinks.entries, shrinks.size, rfl, rfl, rfl, rfl⟩, ?_, rfl⟩
    show (pool.entries.erase entry.intentId).size < maxPoolSize
    rw [KeyedMap.size_erase_of_mem _ (KeyedMap.mem_values.1 member)]
    have positive : 0 < maxPoolSize := by decide
    omega
  · rw [if_neg full]
    refine ⟨pool, by simp [full], ?_, Nat.not_le.1 full, rfl⟩
    exact ⟨listed.same_keys rfl fun _ => rfl, fun _ held => held, le_rfl, rfl, rfl, rfl, rfl⟩

end Room

section Calls

variable {pool : IntentPool} (listed : pool.Listed)

include listed

theorem shrinks_self : Shrinks pool pool :=
  ⟨listed.same_keys rfl fun _ => rfl, fun _ held => held, le_rfl, rfl, rfl, rfl, rfl⟩

theorem shrinks_remove (id : Bytes32) : Shrinks pool (pool.remove id).2 := by
  unfold remove
  cases pool.entries.get? id with
  | none => exact shrinks_self listed
  | some entry => exact listed.dropped id

theorem shrinks_cancel (id : Bytes32) : Shrinks pool (pool.cancel id).2 := by
  unfold cancel
  cases pool.entries.get? id with
  | none => exact shrinks_self listed
  | some entry =>
      simp only
      split
      · exact listed.dropped id
      · exact shrinks_self listed

theorem shrinks_of_same_keys {entries : KeyedMap PoolEntry.intentId}
    (keys : ∀ id, entries.contains id = pool.entries.contains id)
    (size : entries.size = pool.entries.size) : Shrinks pool { pool with entries } where
  order := listed.same_keys rfl keys
  entries := fun id held => (keys id).symm.trans held
  size := le_of_eq size
  seenIds := rfl
  rateTracker := rfl
  nonceTracker := rfl
  currentBlock := rfl

theorem shrinks_openAdmittedIntents : Shrinks pool pool.openAdmittedIntents := by
  apply shrinks_of_same_keys listed
  · intro id
    rw [KeyedMap.contains_eq, KeyedMap.get?_mapValues, Option.isSome_map, KeyedMap.contains_eq]
  · exact KeyedMap.size_mapValues ..

theorem shrinks_markMatched (id bundleId solverId : Bytes32) :
    Shrinks pool (pool.markMatched id bundleId solverId).2 := by
  unfold markMatched
  cases found : pool.entries.get? id with
  | none => exact shrinks_self listed
  | some entry =>
      simp only
      split
      · exact shrinks_self listed
      · rename_i lifecycle moved
        obtain rfl : entry.intentId = id := pool.entries.key_of_get? found
        apply shrinks_of_same_keys listed
        · intro other
          rw [KeyedMap.contains_insert]
          by_cases same : entry.intentId = other
          · subst same
            rw [KeyedMap.contains_eq, found]
            simp
          · have other_key : ¬ entry.intent.intentId = other := same
            simp [PoolEntry.intentId, other_key]
        · exact KeyedMap.size_insert_of_mem _ found

omit listed in
theorem foldl_erase (ids : List Bytes32) (entries : KeyedMap PoolEntry.intentId) :
    (∀ id, (ids.foldl KeyedMap.erase entries).contains id = true → entries.contains id = true) ∧
      (ids.foldl KeyedMap.erase entries).size ≤ entries.size := by
  induction ids generalizing entries with
  | nil => exact ⟨fun _ held => held, le_rfl⟩
  | cons id ids ih =>
      obtain ⟨kept, size⟩ := ih (entries.erase id)
      refine ⟨?_, size.trans (KeyedMap.size_erase_le _ id)⟩
      intro other held
      have held := kept other held
      rw [KeyedMap.contains_erase, Bool.and_eq_true] at held
      exact held.2

omit listed in
theorem shrinks_pruneExpired : Shrinks pool pool.pruneExpired.2.1 :=
  ⟨rfl, (foldl_erase _ pool.entries).1, (foldl_erase _ pool.entries).2, rfl, rfl, rfl, rfl⟩

end Calls

section Rejections

variable {sha256 : Sha256} {pool : IntentPool} {intent : IntentTransaction}

structure Unchanged (before after : IntentPool) : Prop where
  entries : after.entries = before.entries
  insertionOrder : after.insertionOrder = before.insertionOrder
  seenIds : after.seenIds = before.seenIds
  rateTracker : after.rateTracker = before.rateTracker
  nonceTracker : after.nonceTracker = before.nonceTracker
  currentBlock : after.currentBlock = before.currentBlock

theorem unchanged_self : Unchanged pool pool := ⟨rfl, rfl, rfl, rfl, rfl, rfl⟩

theorem unchanged_rejected (reason : String) (e : IntentValidationError) (overflow : Bool) :
    Unchanged pool (pool.rejected reason e overflow).pool := ⟨rfl, rfl, rfl, rfl, rfl, rfl⟩

theorem unchanged_exhausted {user : Bytes32} (exhausted : pool.Exhausted user) :
    Unchanged pool { pool with
      rateTracker := ⟨pool.rateTracker.counts.insert user
        (pool.currentBlock, pool.rateTracker.used user pool.currentBlock)⟩ } := by
  refine ⟨rfl, rfl, rfl, ?_, rfl, rfl⟩
  have same : pool.rateTracker.counts.insert user
      (pool.currentBlock, pool.rateTracker.used user pool.currentBlock) = pool.rateTracker.counts := by
    apply Std.ExtTreeMap.ext_getElem?
    intro other
    rw [BTree.getElem?_insert]
    split
    · rename_i same
      subst same
      unfold Exhausted at exhausted
      unfold UserRateTracker.used at exhausted ⊢
      cases recorded : pool.rateTracker.counts[user]? with
      | none =>
          simp only [recorded] at exhausted
          exact absurd exhausted (by decide)
      | some entry =>
          obtain ⟨height, count⟩ := entry
          simp only [recorded] at exhausted
          by_cases current : height = pool.currentBlock
          · simp [current]
          · rw [if_neg current] at exhausted
            exact absurd exhausted (by decide)
    · rfl
  simp only [same]

theorem not_unchanged_charged (user : Bytes32) : ¬ Unchanged pool (pool.charged user) := by
  intro unchanged
  have same := congrArg (fun tracker => tracker.used user pool.currentBlock) unchanged.rateTracker
  simp only [charged, UserRateTracker.used_insert, if_true] at same
  have numbers := congrArg BitVec.toNat same
  have one : (1 : U32).toNat = 1 := rfl
  rw [BitVec.toNat_add] at numbers
  omega

theorem admit_accepted (listed : pool.Listed) (bounded : pool.entries.size ≤ maxPoolSize)
    (eligible : Eligible sha256 pool intent) (allowed : ¬ pool.Exhausted intent.user)
    (follows : pool.nonceTracker.Follows intent.user intent.nonce) :
    ∃ room, Shrinks (pool.recorded intent) room ∧ room.entries.size < maxPoolSize ∧
      pool.admitIntent sha256 intent =
        { result := .ok (.fromIntent intent), pool := room.enter intent
          overflow := overflows pool.currentBlock minIntentLifetime ||
            (decide (maxPoolSize ≤ pool.entries.size) && overflows pool.metrics.totalEvicted 1) ||
            overflows pool.metrics.totalAdmitted 1 } := by
  obtain ⟨room, made, shrinks, below, admitted⟩ :=
    (pool.recorded intent).makeRoom_cases bounded ⟨listed.once, listed.exactly⟩
  refine ⟨room, shrinks, below, ?_⟩
  rw [admit_numbered eligible allowed follows, made]
  simp only [Bool.true_eq_false, if_false, admitted]
  rfl

theorem admit_cases (listed : pool.Listed) (bounded : pool.entries.size ≤ maxPoolSize)
    (intent : IntentTransaction) :
    (∃ e, (pool.admitIntent sha256 intent).result = .error e ∧
      Unchanged pool (pool.admitIntent sha256 intent).pool) ∨
    (Eligible sha256 pool intent ∧ ¬ pool.Exhausted intent.user ∧
      ¬ pool.nonceTracker.Follows intent.user intent.nonce ∧
      ∃ e, (pool.admitIntent sha256 intent).result = .error e ∧
        (pool.admitIntent sha256 intent).pool = pool.charged intent.user) ∨
    (Eligible sha256 pool intent ∧ ¬ pool.Exhausted intent.user ∧
      pool.nonceTracker.Follows intent.user intent.nonce ∧
      ∃ room, Shrinks (pool.recorded intent) room ∧ room.entries.size < maxPoolSize ∧
        (pool.admitIntent sha256 intent).result = .ok (.fromIntent intent) ∧
        (pool.admitIntent sha256 intent).pool = room.enter intent) := by
  cases valid : intent.validateBasic sha256 with
  | error e =>
      rw [admit_invalid valid]
      exact .inl ⟨e, rfl, unchanged_self⟩
  | ok done =>
      by_cases known : pool.knows intent.intentId = true
      · rw [admit_duplicate valid known]
        exact .inl ⟨_, rfl, unchanged_rejected ..⟩
      have unknown := Bool.eq_false_of_not_eq_true known
      by_cases large : maxIntentSize < intent.estimatedSize
      · rw [admit_large valid unknown large]
        exact .inl ⟨_, rfl, unchanged_rejected ..⟩
      have small := Nat.not_lt.1 large
      by_cases late : intent.deadline ≤ pool.currentBlock + minIntentLifetime
      · rw [admit_late valid unknown small late]
        exact .inl ⟨_, rfl, unchanged_rejected ..⟩
      have eligible : Eligible sha256 pool intent := ⟨valid, unknown, small, BitVec.not_le.1 late⟩
      by_cases exhausted : pool.Exhausted intent.user
      · obtain ⟨e, exit⟩ := admit_exhausted eligible exhausted
        rw [exit]
        exact .inl ⟨e, rfl, unchanged_exhausted exhausted⟩
      by_cases follows : pool.nonceTracker.Follows intent.user intent.nonce
      · obtain ⟨room, shrinks, below, exit⟩ :=
          admit_accepted listed bounded eligible exhausted follows
        rw [exit]
        exact .inr (.inr ⟨eligible, exhausted, follows, room, shrinks, below, rfl, rfl⟩)
      · obtain ⟨e, overflow, exit⟩ := admit_misnumbered eligible exhausted follows
        rw [exit]
        exact .inr (.inl ⟨eligible, exhausted, follows, e, rfl, rfl⟩)

end Rejections

end IntentPool

inductive PoolCall
  | setBlockHeight (block : U64)
  | admitIntent (intent : IntentTransaction)
  | openAdmittedIntents
  | markMatched (intentId bundleId solverId : Bytes32)
  | pruneExpired
  | cancel (intentId : Bytes32)
  | remove (intentId : Bytes32)

/-- A pool, the intents it has admitted, oldest first, and the users of those admitted since the block
height last changed. -/
structure PoolHistory where
  pool : IntentPool
  admitted : List IntentTransaction
  sinceChange : List Bytes32

namespace PoolHistory

open IntentPool

def start : PoolHistory := ⟨.new, [], []⟩

def noncesOf (user : Bytes32) (admitted : List IntentTransaction) : List Nat :=
  (admitted.filter fun intent => intent.user = user).map fun intent => intent.nonce.toNat

section Runs

variable (sha256 : Sha256)

def step (history : PoolHistory) : PoolCall → PoolHistory
  | .setBlockHeight block =>
      { history with
        pool := history.pool.setBlockHeight block
        sinceChange := if block = history.pool.currentBlock then history.sinceChange else [] }
  | .admitIntent intent =>
      let admission := history.pool.admitIntent sha256 intent
      match admission.result with
      | .ok _ =>
          { pool := admission.pool, admitted := history.admitted ++ [intent]
            sinceChange := history.sinceChange ++ [intent.user] }
      | .error _ => { history with pool := admission.pool }
  | .openAdmittedIntents => { history with pool := history.pool.openAdmittedIntents }
  | .markMatched intentId bundleId solverId =>
      { history with pool := (history.pool.markMatched intentId bundleId solverId).2 }
  | .pruneExpired => { history with pool := history.pool.pruneExpired.2.1 }
  | .cancel intentId => { history with pool := (history.pool.cancel intentId).2 }
  | .remove intentId => { history with pool := (history.pool.remove intentId).2 }

def overflowing (history : PoolHistory) : PoolCall → Bool
  | .admitIntent intent => (history.pool.admitIntent sha256 intent).overflow
  | .pruneExpired => history.pool.pruneExpired.2.2
  | _ => false

structure Sound (history : PoolHistory) : Prop where
  listed : history.pool.Listed
  bounded : history.pool.entries.size ≤ maxPoolSize
  once : (history.admitted.map IntentTransaction.intentId).Nodup
  nonces : ∀ user, (noncesOf user history.admitted).IsChain fun earlier later =>
    earlier < later ∧ later ≤ earlier + maxNonceGap.toNat
  rate : ∀ user, history.sinceChange.count user ≤ maxIntentsPerBlockPerUser.toNat

structure Upheld (history : PoolHistory) (call : PoolCall) : Prop where
  sound : Sound (step sha256 history call)
  rejection : ∀ intent e, call = .admitIntent intent →
    (history.pool.admitIntent sha256 intent).result = .error e →
    Unchanged history.pool (history.pool.admitIntent sha256 intent).pool
  inRange : overflowing sha256 history call = false

def RejectionCounted (pool : IntentPool) (reason : String) : Prop :=
  pool.metrics.totalRejected.toNat + 1 < 2 ^ 64 ∧
    (pool.metrics.rejectedByReason[reason]?.getD 0).toNat + 1 < 2 ^ 64

/-- An intent that gets as far as the nonce check passes it, and the counters met on the way have room. -/
def CleanAdmission (pool : IntentPool) (intent : IntentTransaction) : Prop :=
  intent.validateBasic sha256 = .ok () →
    if pool.knows intent.intentId then RejectionCounted pool "duplicate"
    else if maxIntentSize < intent.estimatedSize then RejectionCounted pool "too_large"
    else pool.currentBlock.toNat + minIntentLifetime.toNat < 2 ^ 64 ∧
      if intent.deadline ≤ pool.currentBlock + minIntentLifetime then
        RejectionCounted pool "deadline_expired"
      else ¬ pool.Exhausted intent.user →
        pool.nonceTracker.Follows intent.user intent.nonce ∧
          (maxPoolSize ≤ pool.entries.size → pool.metrics.totalEvicted.toNat + 1 < 2 ^ 64) ∧
          pool.metrics.totalAdmitted.toNat + 1 < 2 ^ 64

def Clean (history : PoolHistory) : PoolCall → Prop
  | .admitIntent intent => CleanAdmission sha256 history.pool intent
  | .pruneExpired =>
      (∀ entry ∈ history.pool.entries.values,
        entry.lifecycle.admittedAtBlock.toNat + maxPoolResidence.toNat < 2 ^ 64) ∧
      history.pool.metrics.totalExpired.toNat + history.pool.expiredIds.length < 2 ^ 64
  | _ => True

structure Tracked (history : PoolHistory) : Prop where
  listed : history.pool.Listed
  bounded : history.pool.entries.size ≤ maxPoolSize
  seen : ∀ id, history.pool.seenIds.contains id = true ↔
    id ∈ history.admitted.map IntentTransaction.intentId
  once : (history.admitted.map IntentTransaction.intentId).Nodup
  highest : ∀ user, history.pool.nonceTracker.highest[user]?.map BitVec.toNat =
    (noncesOf user history.admitted).getLast?
  nonces : ∀ user, (noncesOf user history.admitted).IsChain fun earlier later =>
    earlier < later ∧ later ≤ earlier + maxNonceGap.toNat
  limited : ∀ user block,
    (history.pool.rateTracker.used user block).toNat ≤ maxIntentsPerBlockPerUser.toNat
  counted : ∀ user, history.sinceChange.count user ≤
    (history.pool.rateTracker.used user history.pool.currentBlock).toNat

variable {sha256} {history : PoolHistory}

theorem Tracked.sound (tracked : Tracked history) : Sound history where
  listed := tracked.listed
  bounded := tracked.bounded
  once := tracked.once
  nonces := tracked.nonces
  rate := fun user => (tracked.counted user).trans (tracked.limited user history.pool.currentBlock)

theorem tracked_start : Tracked start where
  listed := ⟨List.nodup_nil, fun id => by simp [start, IntentPool.new, KeyedMap.contains_eq]⟩
  bounded := by decide
  seen := fun id => by simp [start, IntentPool.new]
  once := List.nodup_nil
  highest := fun user => by simp [start, IntentPool.new, noncesOf]
  nonces := fun user => List.IsChain.nil
  limited := fun user block => by simp [start, IntentPool.new, UserRateTracker.used]
  counted := fun user => by simp [start]

theorem Tracked.shrinks {after : IntentPool} (tracked : Tracked history)
    (shrinks : Shrinks history.pool after) : Tracked { history with pool := after } where
  listed := tracked.listed.shrinks shrinks
  bounded := shrinks.size.trans tracked.bounded
  seen := by
    show ∀ id, after.seenIds.contains id = true ↔ _
    rw [shrinks.seenIds]
    exact tracked.seen
  once := tracked.once
  highest := by
    show ∀ user, after.nonceTracker.highest[user]?.map BitVec.toNat = _
    rw [shrinks.nonceTracker]
    exact tracked.highest
  nonces := tracked.nonces
  limited := by
    show ∀ user block, (after.rateTracker.used user block).toNat ≤ _
    rw [shrinks.rateTracker]
    exact tracked.limited
  counted := by
    show ∀ user, _ ≤ (after.rateTracker.used user after.currentBlock).toNat
    rw [shrinks.rateTracker, shrinks.currentBlock]
    exact tracked.counted

theorem Tracked.unchanged {after : IntentPool} (tracked : Tracked history)
    (unchanged : Unchanged history.pool after) : Tracked { history with pool := after } := by
  apply tracked.shrinks
  have keys : ∀ id, after.entries.contains id = history.pool.entries.contains id := by
    intro id
    rw [unchanged.entries]
  refine ⟨tracked.listed.same_keys unchanged.insertionOrder keys, ?_, ?_, unchanged.seenIds,
    unchanged.rateTracker, unchanged.nonceTracker, unchanged.currentBlock⟩
  · intro id held
    rw [← keys]
    exact held
  · rw [unchanged.entries]

theorem Tracked.setBlockHeight (tracked : Tracked history) (block : U64) :
    Tracked (PoolHistory.step sha256 history (.setBlockHeight block)) where
  listed := ⟨tracked.listed.once, tracked.listed.exactly⟩
  bounded := tracked.bounded
  seen := tracked.seen
  once := tracked.once
  highest := tracked.highest
  nonces := tracked.nonces
  limited := tracked.limited
  counted := by
    intro user
    show (if block = history.pool.currentBlock then history.sinceChange else []).count user ≤
      (history.pool.rateTracker.used user block).toNat
    split
    · rename_i same
      rw [same]
      exact tracked.counted user
    · exact Nat.zero_le _

theorem toNat_succ_of_allowed {count : U32} (allowed : ¬ maxIntentsPerBlockPerUser ≤ count) :
    (count + 1).toNat = count.toNat + 1 ∧ count.toNat + 1 ≤ maxIntentsPerBlockPerUser.toNat := by
  rw [BitVec.not_le, BitVec.lt_def] at allowed
  have limit : maxIntentsPerBlockPerUser.toNat = 10 := rfl
  have one : (1 : U32).toNat = 1 := rfl
  rw [BitVec.toNat_add]
  omega

theorem Tracked.charged (tracked : Tracked history) {user : Bytes32}
    (allowed : ¬ history.pool.Exhausted user) :
    (∀ other block, ((history.pool.charged user).rateTracker.used other block).toNat ≤
      maxIntentsPerBlockPerUser.toNat) ∧
    ∀ other, (history.sinceChange ++ [user]).count other ≤
      ((history.pool.charged user).rateTracker.used other history.pool.currentBlock).toNat := by
  obtain ⟨moved, within⟩ := toNat_succ_of_allowed allowed
  constructor
  · intro other block
    simp only [IntentPool.charged, UserRateTracker.used_insert]
    split
    · split
      · rw [moved]
        exact within
      · exact Nat.zero_le _
    · exact tracked.limited other block
  · intro other
    simp only [IntentPool.charged, UserRateTracker.used_insert, List.count_append]
    by_cases same : user = other
    · subst same
      simp only [if_true, List.count_singleton_self, moved]
      exact Nat.add_le_add_right (tracked.counted user) 1
    · simp only [same, if_false, List.count_singleton, beq_iff_eq, Nat.add_zero]
      exact tracked.counted other

theorem noncesOf_append (user : Bytes32) (admitted : List IntentTransaction) (intent : IntentTransaction) :
    noncesOf user (admitted ++ [intent]) =
      if intent.user = user then noncesOf user admitted ++ [intent.nonce.toNat]
      else noncesOf user admitted := by
  unfold noncesOf
  by_cases same : intent.user = user
  · simp [List.filter_append, same]
  · simp [List.filter_append, same]

theorem Tracked.nonces_append (tracked : Tracked history) {intent : IntentTransaction}
    (follows : history.pool.nonceTracker.Follows intent.user intent.nonce) (user : Bytes32) :
    (noncesOf user (history.admitted ++ [intent])).IsChain fun earlier later =>
      earlier < later ∧ later ≤ earlier + maxNonceGap.toNat := by
  rw [noncesOf_append]
  split
  · rename_i same
    subst same
    rw [List.isChain_append]
    refine ⟨tracked.nonces _, List.IsChain.singleton _, ?_⟩
    intro last held next nextIs
    rw [← tracked.highest] at held
    obtain ⟨highest, recorded, rfl⟩ := Option.map_eq_some_iff.1 held
    obtain rfl : intent.nonce.toNat = next := by simpa using nextIs
    obtain ⟨above, within⟩ := follows highest recorded
    have room := NonceTracker.in_range_of_between above within
    rw [BitVec.lt_def] at above
    rw [BitVec.le_def, BitVec.toNat_add, Nat.mod_eq_of_lt room] at within
    exact ⟨above, within⟩
  · exact tracked.nonces user

theorem Tracked.admitted {intent : IntentTransaction} {room : IntentPool} (tracked : Tracked history)
    (eligible : Eligible sha256 history.pool intent) (allowed : ¬ history.pool.Exhausted intent.user)
    (follows : history.pool.nonceTracker.Follows intent.user intent.nonce)
    (shrinks : Shrinks (history.pool.recorded intent) room) (below : room.entries.size < maxPoolSize) :
    Tracked ⟨room.enter intent, history.admitted ++ [intent], history.sinceChange ++ [intent.user]⟩ := by
  have unknown := eligible.unknown
  rw [knows, Bool.or_eq_false_iff] at unknown
  obtain ⟨limited, counted⟩ := tracked.charged allowed
  have listed : (history.pool.recorded intent).Listed := ⟨tracked.listed.once, tracked.listed.exactly⟩
  have listed := listed.shrinks shrinks
  have absent : room.entries.contains intent.intentId = false := by
    rw [Bool.eq_false_iff]
    intro held
    have held := shrinks.entries _ held
    rw [show (history.pool.recorded intent).entries = history.pool.entries from rfl, unknown.2] at held
    exact Bool.false_ne_true held
  refine ⟨⟨?_, ?_⟩, ?_, ?_, ?_, ?_, tracked.nonces_append follows, ?_, ?_⟩
  · show (room.insertionOrder ++ [intent.intentId]).Nodup
    refine List.nodup_append.2 ⟨listed.once, List.nodup_singleton _, ?_⟩
    intro id member other isNew same
    rw [List.mem_singleton.1 isNew] at same
    rw [same, listed.exactly, absent] at member
    exact Bool.false_ne_true member
  · intro id
    show id ∈ room.insertionOrder ++ [intent.intentId] ↔ (room.entries.insert _).contains id = true
    rw [List.mem_append, List.mem_singleton, listed.exactly, KeyedMap.contains_insert, Bool.or_eq_true,
      decide_eq_true_eq, or_comm, eq_comm]
    rfl
  · exact (KeyedMap.size_insert_le _ _).trans below
  · intro id
    show (room.seenIds.insert intent.intentId).contains id = true ↔ _
    rw [shrinks.seenIds]
    show (history.pool.seenIds.insert intent.intentId).contains id = true ↔ _
    rw [Std.ExtTreeSet.contains_insert, Bool.or_eq_true, tracked.seen, beq_iff_eq,
      Std.LawfulEqOrd.compare_eq_iff_eq, List.map_append, List.mem_append, List.map_singleton,
      List.mem_singleton, or_comm, eq_comm]
  · rw [List.map_append]
    refine List.nodup_append.2 ⟨tracked.once, List.nodup_singleton _, ?_⟩
    intro id member other isNew same
    rw [List.mem_singleton.1 isNew] at same
    rw [same, ← tracked.seen, unknown.1] at member
    exact Bool.false_ne_true member
  · intro user
    show room.nonceTracker.highest[user]?.map BitVec.toNat = _
    rw [shrinks.nonceTracker, noncesOf_append]
    show (history.pool.nonceTracker.highest.insert intent.user intent.nonce)[user]?.map _ = _
    rw [BTree.getElem?_insert]
    split
    · simp
    · exact tracked.highest user
  · show ∀ user block, (room.rateTracker.used user block).toNat ≤ _
    rw [shrinks.rateTracker]
    exact limited
  · show ∀ user, _ ≤ (room.rateTracker.used user room.currentBlock).toNat
    rw [shrinks.rateTracker, shrinks.currentBlock]
    exact counted

theorem Tracked.misnumbered (tracked : Tracked history) {user : Bytes32}
    (allowed : ¬ history.pool.Exhausted user) :
    Tracked { history with pool := history.pool.charged user } := by
  obtain ⟨limited, counted⟩ := tracked.charged allowed
  refine ⟨⟨tracked.listed.once, tracked.listed.exactly⟩, tracked.bounded, tracked.seen, tracked.once,
    tracked.highest, tracked.nonces, limited, ?_⟩
  intro other
  apply le_trans _ (counted other)
  rw [List.count_append]
  exact Nat.le_add_right ..

theorem Tracked.step (tracked : Tracked history) (call : PoolCall) :
    Tracked (PoolHistory.step sha256 history call) := by
  cases call with
  | setBlockHeight block => exact tracked.setBlockHeight block
  | admitIntent intent =>
      obtain ⟨e, refused, unchanged⟩ | ⟨-, allowed, -, e, refused, charged⟩ |
          ⟨eligible, allowed, follows, room, shrinks, below, accepted, entered⟩ :=
        @admit_cases sha256 history.pool tracked.listed tracked.bounded intent
      · simp only [PoolHistory.step, refused]
        exact tracked.unchanged unchanged
      · simp only [PoolHistory.step, refused, charged]
        exact tracked.misnumbered allowed
      · simp only [PoolHistory.step, accepted, entered]
        exact tracked.admitted eligible allowed follows shrinks below
  | openAdmittedIntents => exact tracked.shrinks (shrinks_openAdmittedIntents tracked.listed)
  | markMatched intentId bundleId solverId =>
      exact tracked.shrinks (shrinks_markMatched tracked.listed intentId bundleId solverId)
  | pruneExpired => exact tracked.shrinks shrinks_pruneExpired
  | cancel intentId => exact tracked.shrinks (shrinks_cancel tracked.listed intentId)
  | remove intentId => exact tracked.shrinks (shrinks_remove tracked.listed intentId)

section Exact

theorem rejected_inRange {pool : IntentPool} {reason : String} {e : IntentValidationError}
    {overflow : Bool} :
    (pool.rejected reason e overflow).overflow = false ↔
      overflow = false ∧ RejectionCounted pool reason := by
  simp only [IntentPool.rejected, recordRejection, Bool.or_eq_false_iff, overflows_eq_false]
  rfl

theorem admit_clean {intent : IntentTransaction} (tracked : Tracked history) :
    (∀ e, (history.pool.admitIntent sha256 intent).result = .error e →
        Unchanged history.pool (history.pool.admitIntent sha256 intent).pool) ∧
      (history.pool.admitIntent sha256 intent).overflow = false ↔
    CleanAdmission sha256 history.pool intent := by
  unfold CleanAdmission
  cases valid : intent.validateBasic sha256 with
  | error e =>
      rw [admit_invalid valid]
      simp [unchanged_self]
  | ok done =>
      rw [forall_prop_of_true rfl]
      by_cases known : history.pool.knows intent.intentId = true
      · rw [admit_duplicate valid known, rejected_inRange, if_pos known]
        exact ⟨fun kept => kept.2.2, fun counted => ⟨fun _ _ => unchanged_rejected .., rfl, counted⟩⟩
      have unknown := Bool.eq_false_of_not_eq_true known
      rw [if_neg known]
      by_cases large : maxIntentSize < intent.estimatedSize
      · rw [admit_large valid unknown large, rejected_inRange, if_pos large]
        exact ⟨fun kept => kept.2.2, fun counted => ⟨fun _ _ => unchanged_rejected .., rfl, counted⟩⟩
      have small := Nat.not_lt.1 large
      rw [if_neg large, ← overflows_eq_false]
      by_cases late : intent.deadline ≤ history.pool.currentBlock + minIntentLifetime
      · rw [admit_late valid unknown small late, rejected_inRange, if_pos late]
        exact ⟨fun kept => kept.2, fun clean => ⟨fun _ _ => unchanged_rejected .., clean⟩⟩
      rw [if_neg late]
      have eligible : Eligible sha256 history.pool intent :=
        ⟨valid, unknown, small, BitVec.not_le.1 late⟩
      by_cases exhausted : history.pool.Exhausted intent.user
      · obtain ⟨e, exit⟩ := admit_exhausted eligible exhausted
        rw [exit]
        refine ⟨fun kept => ⟨kept.2, fun allowed => absurd exhausted allowed⟩, fun clean => ⟨?_, clean.1⟩⟩
        exact fun _ _ => unchanged_exhausted exhausted
      by_cases follows : history.pool.nonceTracker.Follows intent.user intent.nonce
      · obtain ⟨room, -, -, exit⟩ :=
          admit_accepted tracked.listed tracked.bounded eligible exhausted follows
        simp only [exit, Bool.or_eq_false_iff, Bool.and_eq_false_imp, decide_eq_true_eq,
          overflows_eq_false]
        constructor
        · intro ⟨_, ⟨height, evicting⟩, admitting⟩
          exact ⟨height, fun _ => ⟨follows, evicting, admitting⟩⟩
        · intro ⟨height, counters⟩
          obtain ⟨-, evicting, admitting⟩ := counters exhausted
          refine ⟨?_, ⟨height, evicting⟩, admitting⟩
          intro e refused
          cases refused
      · obtain ⟨e, overflow, exit⟩ := admit_misnumbered eligible exhausted follows
        rw [exit]
        constructor
        · intro kept
          exact absurd (kept.1 e rfl) (not_unchanged_charged intent.user)
        · intro clean
          exact absurd (clean.2 exhausted).1 follows

theorem pruneExpired_clean :
    history.pool.pruneExpired.2.2 = false ↔ Clean sha256 history .pruneExpired := by
  show (_ || decide _) = false ↔ _
  rw [Bool.or_eq_false_iff, decide_eq_false_iff_not, Nat.not_le, List.any_eq_false]
  simp only [Bool.not_eq_true, overflows_eq_false]
  rfl

theorem upheld_of_other {call : PoolCall} (other : ∀ intent, call ≠ .admitIntent intent)
    (sound : Sound (PoolHistory.step sha256 history call))
    (inRange : overflowing sha256 history call = false) : Upheld sha256 history call :=
  ⟨sound, fun intent _ isAdmit _ => absurd isAdmit (other intent), inRange⟩

theorem upheld_iff_clean (tracked : Tracked history) (call : PoolCall) :
    Upheld sha256 history call ↔ Clean sha256 history call := by
  have sound : Sound (PoolHistory.step sha256 history call) := (tracked.step call).sound
  cases call with
  | admitIntent intent =>
      show _ ↔ CleanAdmission sha256 history.pool intent
      rw [← admit_clean tracked]
      constructor
      · intro upheld
        exact ⟨fun e refused => upheld.rejection intent e rfl refused, upheld.inRange⟩
      · intro ⟨rejection, inRange⟩
        refine ⟨sound, ?_, inRange⟩
        intro same e isCall refused
        cases isCall
        exact rejection e refused
  | pruneExpired =>
      rw [← pruneExpired_clean]
      exact ⟨fun upheld => upheld.inRange, fun inRange => upheld_of_other (fun _ => nofun) sound inRange⟩
  | setBlockHeight block => exact ⟨fun _ => trivial, fun _ => upheld_of_other (fun _ => nofun) sound rfl⟩
  | openAdmittedIntents => exact ⟨fun _ => trivial, fun _ => upheld_of_other (fun _ => nofun) sound rfl⟩
  | markMatched intentId bundleId solverId =>
      exact ⟨fun _ => trivial, fun _ => upheld_of_other (fun _ => nofun) sound rfl⟩
  | cancel intentId => exact ⟨fun _ => trivial, fun _ => upheld_of_other (fun _ => nofun) sound rfl⟩
  | remove intentId => exact ⟨fun _ => trivial, fun _ => upheld_of_other (fun _ => nofun) sound rfl⟩

end Exact

/-- A run keeps all that is promised of the pool exactly when each of its calls is clean. -/
theorem run_upheld_iff_clean (run : List PoolCall) :
    Run.Along (PoolHistory.step sha256) (Upheld sha256) start run ↔
      Run.Along (PoolHistory.step sha256) (Clean sha256) start run := by
  refine Run.along_congr ?_ ?_ tracked_start run
  · intro history call tracked
    exact upheld_iff_clean tracked call
  · intro history call tracked _
    exact tracked.step call

end Runs

section Misnumbered

def paymentSha256 : Sha256 := fun bytes =>
  if bytes[39]? = some 5 then 0x3e0ef0d824b2f4dcd4e14d9366acccab43176025521569055cb481fcf2927b5d
  else 0x2234543575160abdae79cde56a356d497b78cbd6b30ded154eac9dc6a23aa31c

def payment (intentId : Bytes32) (nonce : U64) : IntentTransaction where
  intentId := intentId
  intentType := .payment { asset := ⟨1, .native, 7⟩, amount := 100, recipient := 2, memo := none }
  version := 1
  user := 1
  nonce := nonce
  recipient := none
  deadline := 100
  validFrom := none
  maxFee := 10
  tip := none
  partialFillAllowed := false
  solverPermissions := ⟨.allowAll, []⟩
  executionPreferences := ⟨.normal, none, false⟩
  witnessHash := none
  signature := [1]
  metadata := ∅

def fifth : IntentTransaction :=
  payment 0x3e0ef0d824b2f4dcd4e14d9366acccab43176025521569055cb481fcf2927b5d 5

def third : IntentTransaction :=
  payment 0x2234543575160abdae79cde56a356d497b78cbd6b30ded154eac9dc6a23aa31c 3

def afterFifth : PoolHistory := step paymentSha256 start (.admitIntent fifth)

theorem third_refused :
    ∃ e, (afterFifth.pool.admitIntent paymentSha256 third).result = .error e := by
  have refused : (afterFifth.pool.admitIntent paymentSha256 third).result.isOk = false := by decide +kernel
  cases outcome : (afterFifth.pool.admitIntent paymentSha256 third).result with
  | error e => exact ⟨e, rfl⟩
  | ok announcement =>
      rw [outcome] at refused
      cases refused

/-- The intent with the old nonce is turned away, and the user has two admissions of the block less
instead of one. -/
theorem refused_nonce_charged :
    ¬ Run.Along (step paymentSha256) (Upheld paymentSha256) start
      [.admitIntent fifth, .admitIntent third] := by
  intro upheld
  obtain ⟨e, refused⟩ := third_refused
  have unchanged := upheld.2.1.rejection third e rfl refused
  have same := congrArg (fun tracker => tracker.used 1 0) unchanged.rateTracker
  exact absurd same (by decide +kernel)

end Misnumbered

end PoolHistory

end Omniphi.PoSeq
