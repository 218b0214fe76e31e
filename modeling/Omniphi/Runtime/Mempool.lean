import Omniphi.Lib.Run
import Omniphi.Runtime.Ingestion

/-! The mempool with its fee index: the pending transactions by id, and their keys by priority. -/

namespace Omniphi.Runtime

/-- The negated fee comes first, so the highest fee is the first key; the id breaks ties. -/
structure PriorityKey where
  negFee : Int
  txId : Bytes32
deriving DecidableEq

namespace PriorityKey

def fields (key : PriorityKey) : Int × Bytes32 := (key.negFee, key.txId)

instance : Ord PriorityKey := ⟨@compareOn _ _ lexOrd fields⟩

instance : Std.TransOrd PriorityKey := inferInstanceAs (Std.TransCmp (@compareOn _ _ lexOrd fields))

instance : Std.LawfulEqOrd PriorityKey :=
  @BTree.lawfulEq_of_injective _ _ lexOrd fields _ (by
    rintro ⟨negFee, txId⟩ ⟨negFee', txId'⟩ same
    obtain ⟨rfl, rfl⟩ := Prod.mk.inj same
    rfl)

theorem compare_lt_iff {a b : PriorityKey} :
    compare a b = .lt ↔ a.negFee < b.negFee ∨ a.negFee = b.negFee ∧ a.txId < b.txId := by
  show (compare a.negFee b.negFee).then (compare a.txId b.txId) = .lt ↔ _
  rw [Ordering.then_eq_lt, Int.compare_eq_lt, Int.compare_eq_eq]
  exact or_congr_right (and_congr_right fun _ => compareOfLessAndEq_eq_lt)

end PriorityKey

def IntentTransaction.priorityKey (tx : IntentTransaction) : PriorityKey :=
  { negFee := -(tx.maxFee.toNat : Int), txId := tx.txId }

structure PriorityMempool extends IntentMempool where
  priorityIndex : BTreeSet PriorityKey
  maxSize : Nat

namespace PriorityMempool

def new (maxSize : Nat) : PriorityMempool := { pending := .empty, priorityIndex := ∅, maxSize }

section Operations

variable (pool : PriorityMempool)

def len : Nat := pool.pending.size

def file (tx : IntentTransaction) : PriorityMempool :=
  { pool with priorityIndex := pool.priorityIndex.insert tx.priorityKey, pending := pool.pending.insert tx }

def drop (key : PriorityKey) : PriorityMempool :=
  { pool with priorityIndex := pool.priorityIndex.erase key, pending := pool.pending.erase key.txId }

def lowest : Option PriorityKey := pool.priorityIndex.toList.getLast?

/-- A full pool gives up its lowest transaction to one with a higher fee. -/
def insert (tx : IntentTransaction) : Bool × PriorityMempool :=
  if pool.pending.contains tx.txId then (false, pool)
  else if pool.maxSize ≤ pool.len then
    match pool.lowest with
    | some lowest =>
        let lowestFee := BitVec.ofInt 64 (-lowest.negFee)
        if tx.maxFee ≤ lowestFee then (false, pool) else (true, (pool.drop lowest).file tx)
    | none => (false, pool)
  else (true, pool.file tx)

def remove (submissionId : Bytes32) : Option IntentTransaction × PriorityMempool :=
  match pool.pending.get? submissionId with
  | some tx => (some tx,
      { pool with pending := pool.pending.erase submissionId
                  priorityIndex := pool.priorityIndex.erase tx.priorityKey })
  | none => (none, pool)

def topN (n : Nat) : List IntentTransaction :=
  (pool.priorityIndex.toList.take n).filterMap fun key => pool.pending.get? key.txId

def expire (currentEpoch : U64) : Nat × PriorityMempool :=
  let expired := (pool.pending.values.filter fun tx => tx.deadlineEpoch ≤ currentEpoch).map IntentTransaction.txId
  (expired.length, expired.foldl (fun pool id => (pool.remove id).2) pool)

def clear : PriorityMempool := { pool with pending := .empty, priorityIndex := ∅ }

end Operations

inductive Operation
  | insert (tx : IntentTransaction)
  | remove (submissionId : Bytes32)
  | expire (currentEpoch : U64)
  | clear

def apply (pool : PriorityMempool) : Operation → PriorityMempool
  | .insert tx => (pool.insert tx).2
  | .remove submissionId => (pool.remove submissionId).2
  | .expire currentEpoch => (pool.expire currentEpoch).2
  | .clear => pool.clear

/-- The index has the keys of the pending transactions, and the pool keeps to its size. -/
structure Indexed (pool : PriorityMempool) : Prop where
  mirrored : ∀ key, key ∈ pool.priorityIndex ↔
    ∃ tx, pool.pending.get? key.txId = some tx ∧ tx.priorityKey = key
  bounded : pool.len ≤ pool.maxSize

section Indexed

variable {pool : PriorityMempool}

theorem indexed_new (maxSize : Nat) : (new maxSize).Indexed where
  mirrored key := by simp [new]
  bounded := Nat.zero_le _

theorem mem_file {tx : IntentTransaction} {key : PriorityKey} :
    key ∈ (pool.file tx).priorityIndex ↔ tx.priorityKey = key ∨ key ∈ pool.priorityIndex := by
  rw [file, Std.ExtTreeSet.mem_insert, Std.LawfulEqCmp.compare_eq_iff_eq]

theorem mem_drop {key other : PriorityKey} :
    other ∈ (pool.drop key).priorityIndex ↔ key ≠ other ∧ other ∈ pool.priorityIndex := by
  rw [drop, Std.ExtTreeSet.mem_erase, ne_eq, Std.LawfulEqCmp.compare_eq_iff_eq]

theorem Indexed.file (indexed : pool.Indexed) {tx : IntentTransaction}
    (absent : pool.pending.get? tx.txId = none) (room : pool.len < pool.maxSize) : (pool.file tx).Indexed where
  mirrored key := by
    rw [mem_file, indexed.mirrored]
    show _ ↔ ∃ other, (pool.pending.insert tx).get? key.txId = some other ∧ _
    rw [KeyedMap.get?_insert]
    split
    · rename_i same
      constructor
      · rintro (rfl | ⟨other, held, rfl⟩)
        · exact ⟨tx, rfl, rfl⟩
        · rw [← same, absent] at held
          cases held
      · rintro ⟨other, found, rfl⟩
        obtain rfl := Option.some.inj found
        exact .inl rfl
    · rename_i different
      constructor
      · rintro (rfl | held)
        · exact absurd rfl different
        · exact held
      · exact .inr
  bounded := (pool.pending.size_insert_le tx).trans room

theorem Indexed.drop (indexed : pool.Indexed) {tx : IntentTransaction}
    (held : pool.pending.get? tx.txId = some tx) :
    (pool.drop tx.priorityKey).Indexed ∧ (pool.drop tx.priorityKey).len + 1 = pool.len := by
  have smaller : (pool.drop tx.priorityKey).len + 1 = pool.len := by
    have present : 0 < pool.len := by
      have listed : tx ∈ pool.pending.values := KeyedMap.mem_values.2 held
      have length := pool.pending.length_values
      have positive := List.length_pos_of_mem listed
      rw [len, ← length]
      exact positive
    show (pool.pending.erase tx.txId).size + 1 = pool.pending.size
    rw [KeyedMap.size_erase_of_mem _ held]
    exact Nat.sub_add_cancel present
  refine ⟨⟨fun key => ?_, ?_⟩, smaller⟩
  · rw [mem_drop, indexed.mirrored]
    show _ ↔ ∃ other, (pool.pending.erase tx.txId).get? key.txId = some other ∧ _
    rw [KeyedMap.get?_erase]
    constructor
    · rintro ⟨different, other, found, rfl⟩
      have apart : tx.txId ≠ other.priorityKey.txId := by
        intro same
        rw [← same, held] at found
        obtain rfl := Option.some.inj found
        exact different rfl
      exact ⟨other, by rw [if_neg apart]; exact found, rfl⟩
    · rintro ⟨other, found, rfl⟩
      split at found
      · cases found
      · rename_i apart
        refine ⟨fun same => apart ?_, other, found, rfl⟩
        exact congrArg PriorityKey.txId same
  · have bounded := indexed.bounded
    show (pool.drop tx.priorityKey).len ≤ pool.maxSize
    omega

theorem Indexed.lowest (indexed : pool.Indexed) {key : PriorityKey} (last : pool.lowest = some key) :
    ∃ tx, pool.pending.get? tx.txId = some tx ∧ tx.priorityKey = key ∧
      ∀ other ∈ pool.priorityIndex, other = key ∨ compare other key = .lt := by
  obtain ⟨before, split⟩ := List.getLast?_eq_some_iff.1 last
  have member : key ∈ pool.priorityIndex := by
    rw [← Std.ExtTreeSet.mem_toList, split]
    simp
  obtain ⟨tx, held, rfl⟩ := (indexed.mirrored key).1 member
  refine ⟨tx, held, rfl, fun other listed => ?_⟩
  have ordered := Std.ExtTreeSet.ordered_toList (t := pool.priorityIndex)
  rw [← Std.ExtTreeSet.mem_toList] at listed
  rw [split] at ordered listed
  rcases List.mem_append.1 listed with earlier | same
  · exact .inr ((List.pairwise_append.1 ordered).2.2 other earlier _ List.mem_cons_self)
  · exact .inl (List.mem_singleton.1 same)

theorem lowestFee_eq (tx : IntentTransaction) :
    BitVec.ofInt 64 (-tx.priorityKey.negFee) = tx.maxFee := by
  show BitVec.ofInt 64 (- -(tx.maxFee.toNat : Int)) = _
  rw [Int.neg_neg, BitVec.ofInt_natCast, BitVec.ofNat_toNat, BitVec.setWidth_eq]

theorem Indexed.insert_cases (indexed : pool.Indexed) (tx : IntentTransaction) :
    pool.insert tx = (false, pool) ∨
    pool.pending.get? tx.txId = none ∧ pool.len < pool.maxSize ∧ pool.insert tx = (true, pool.file tx) ∨
    pool.pending.get? tx.txId = none ∧ pool.maxSize ≤ pool.len ∧
      ∃ victim, pool.lowest = some victim.priorityKey ∧ pool.pending.get? victim.txId = some victim ∧
        victim.maxFee < tx.maxFee ∧ pool.insert tx = (true, (pool.drop victim.priorityKey).file tx) := by
  unfold insert
  cases here : pool.pending.get? tx.txId with
  | some other => simp [KeyedMap.contains_eq, here]
  | none =>
      rw [KeyedMap.contains_eq, here, Option.isSome_none, if_neg (by simp)]
      by_cases full : pool.maxSize ≤ pool.len
      · rw [if_pos full]
        cases last : pool.lowest with
        | none => exact .inl rfl
        | some key =>
            obtain ⟨victim, held, rfl, -⟩ := indexed.lowest last
            dsimp only
            rw [lowestFee_eq]
            split
            · exact .inl rfl
            · rename_i higher
              exact .inr (.inr ⟨rfl, full, victim, rfl, held, BitVec.not_le.1 higher, rfl⟩)
      · rw [if_neg full]
        exact .inr (.inl ⟨rfl, Nat.not_le.1 full, rfl⟩)

theorem Indexed.insert (indexed : pool.Indexed) (tx : IntentTransaction) : (pool.insert tx).2.Indexed := by
  rcases indexed.insert_cases tx with same | ⟨absent, room, same⟩ | ⟨absent, -, victim, -, held, -, same⟩
  · rw [same]
    exact indexed
  · rw [same]
    exact indexed.file absent room
  · obtain ⟨dropped, smaller⟩ := indexed.drop held
    have bounded := indexed.bounded
    rw [same]
    refine dropped.file ?_ ?_
    · show (pool.pending.erase victim.txId).get? tx.txId = none
      rw [KeyedMap.get?_erase, absent, ite_self]
    · show (pool.drop victim.priorityKey).len < pool.maxSize
      omega

theorem remove_eq (pool : PriorityMempool) (submissionId : Bytes32) :
    pool.pending.get? submissionId = none ∧ pool.remove submissionId = (none, pool) ∨
    ∃ tx, pool.pending.get? tx.txId = some tx ∧ pool.remove submissionId = (some tx, pool.drop tx.priorityKey) := by
  unfold remove
  cases found : pool.pending.get? submissionId with
  | none => exact .inl ⟨rfl, rfl⟩
  | some tx =>
      have own : tx.txId = submissionId := pool.pending.key_of_get? found
      subst own
      exact .inr ⟨tx, found, rfl⟩

theorem maxSize_remove (pool : PriorityMempool) (submissionId : Bytes32) :
    (pool.remove submissionId).2.maxSize = pool.maxSize := by
  rcases pool.remove_eq submissionId with ⟨-, same⟩ | ⟨tx, -, same⟩
  · rw [same]
  · rw [same]
    rfl

theorem Indexed.remove (indexed : pool.Indexed) (submissionId : Bytes32) :
    (pool.remove submissionId).2.Indexed := by
  rcases pool.remove_eq submissionId with ⟨-, same⟩ | ⟨tx, held, same⟩
  · rw [same]
    exact indexed
  · rw [same]
    exact (indexed.drop held).1

theorem Indexed.expire (indexed : pool.Indexed) (currentEpoch : U64) : (pool.expire currentEpoch).2.Indexed := by
  unfold PriorityMempool.expire
  generalize (pool.pending.values.filter _).map IntentTransaction.txId = expired
  induction expired generalizing pool with
  | nil => exact indexed
  | cons id expired ih => exact ih (indexed.remove id)

theorem Indexed.apply (indexed : pool.Indexed) (operation : Operation) : (pool.apply operation).Indexed := by
  cases operation with
  | insert tx => exact indexed.insert tx
  | remove submissionId => exact indexed.remove submissionId
  | expire currentEpoch => exact indexed.expire currentEpoch
  | clear => exact ⟨fun key => by simp [PriorityMempool.apply, clear], Nat.zero_le _⟩

theorem maxSize_apply (pool : PriorityMempool) (operation : Operation) :
    (pool.apply operation).maxSize = pool.maxSize := by
  cases operation with
  | insert tx =>
      show (pool.insert tx).2.maxSize = _
      unfold PriorityMempool.insert
      split
      · rfl
      · split
        · split
          · dsimp only
            split <;> rfl
          · rfl
        · rfl
  | remove submissionId => exact maxSize_remove pool submissionId
  | expire currentEpoch =>
      show (pool.expire currentEpoch).2.maxSize = _
      unfold PriorityMempool.expire
      generalize (pool.pending.values.filter _).map IntentTransaction.txId = expired
      induction expired generalizing pool with
      | nil => rfl
      | cons id expired ih => exact (ih (pool.remove id).2).trans (maxSize_remove pool id)
  | clear => rfl

theorem maxSize_run (maxSize : Nat) (operations : List Operation) :
    (operations.foldl PriorityMempool.apply (new maxSize)).maxSize = maxSize :=
  @Run.invariant _ _ _ (fun _ _ => True) (fun pool => pool.maxSize = maxSize)
    (fun pool operation same _ => (maxSize_apply pool operation).trans same) _ rfl _
    (Run.along_of_forall (fun _ _ => trivial) _ _)

theorem indexed_run (maxSize : Nat) (operations : List Operation) :
    (operations.foldl PriorityMempool.apply (new maxSize)).Indexed :=
  Run.invariant (P := fun _ _ => True) (fun _ operation indexed _ => indexed.apply operation)
    (indexed_new maxSize) (Run.along_of_forall (fun _ _ => trivial) _ _)

end Indexed

section Ranking

def Outranks (a b : IntentTransaction) : Prop := b.maxFee < a.maxFee ∨ a.maxFee = b.maxFee ∧ a.txId < b.txId

theorem outranks_iff {a b : IntentTransaction} :
    compare a.priorityKey b.priorityKey = .lt ↔ Outranks a b := by
  rw [PriorityKey.compare_lt_iff]
  show -(a.maxFee.toNat : Int) < -(b.maxFee.toNat : Int) ∨ -(a.maxFee.toNat : Int) = -(b.maxFee.toNat : Int) ∧ _ ↔ _
  rw [Int.neg_lt_neg_iff, Int.neg_inj, Int.ofNat_lt, Int.ofNat_inj, ← BitVec.lt_def, BitVec.toNat_inj]
  rfl

variable {pool : PriorityMempool}

def ranked (pool : PriorityMempool) : List IntentTransaction := pool.topN pool.priorityIndex.toList.length

theorem filterMap_take {α β : Type} {f : α → Option β} {g : β → α} {l : List α}
    (inverse : ∀ a ∈ l, ∃ b, f a = some b ∧ g b = a) (n : ℕ) :
    (l.take n).filterMap f = (l.filterMap f).take n ∧ (l.filterMap f).map g = l := by
  induction l generalizing n with
  | nil => simp
  | cons a l ih =>
      obtain ⟨b, found, back⟩ := inverse a List.mem_cons_self
      have rest := ih fun a member => inverse a (List.mem_cons_of_mem _ member)
      rw [List.filterMap_cons_some found, List.map_cons, back, (rest 0).2]
      refine ⟨?_, rfl⟩
      cases n with
      | zero => rfl
      | succ n => rw [List.take_succ_cons, List.filterMap_cons_some found, (rest n).1, List.take_succ_cons]

theorem Indexed.inverse (indexed : pool.Indexed) : ∀ key ∈ pool.priorityIndex.toList,
    ∃ tx, pool.pending.get? key.txId = some tx ∧ tx.priorityKey = key :=
  fun key listed => (indexed.mirrored key).1 (Std.ExtTreeSet.mem_toList.1 listed)

theorem Indexed.topN_eq (indexed : pool.Indexed) (n : ℕ) : pool.topN n = pool.ranked.take n := by
  rw [ranked, topN, topN, List.take_length, (filterMap_take indexed.inverse n).1]

theorem Indexed.map_ranked (indexed : pool.Indexed) :
    pool.ranked.map IntentTransaction.priorityKey = pool.priorityIndex.toList := by
  rw [ranked, topN, List.take_length, (filterMap_take indexed.inverse 0).2]

theorem Indexed.ranked_sorted (indexed : pool.Indexed) : pool.ranked.Pairwise Outranks := by
  have ordered := Std.ExtTreeSet.ordered_toList (t := pool.priorityIndex)
  rw [← indexed.map_ranked, List.pairwise_map] at ordered
  exact ordered.imp outranks_iff.1

theorem Indexed.mem_ranked (indexed : pool.Indexed) {tx : IntentTransaction} :
    tx ∈ pool.ranked ↔ pool.pending.get? tx.txId = some tx := by
  rw [ranked, topN, List.take_length, List.mem_filterMap]
  constructor
  · rintro ⟨key, listed, found⟩
    obtain ⟨other, held, rfl⟩ := indexed.inverse key listed
    obtain rfl := Option.some.inj (held.symm.trans found)
    exact held
  · intro held
    exact ⟨tx.priorityKey, Std.ExtTreeSet.mem_toList.2 ((indexed.mirrored _).2 ⟨tx, held, rfl⟩), held⟩

theorem outranks_irrefl (tx : IntentTransaction) : ¬ Outranks tx tx := by
  rintro (less | ⟨-, less⟩)
  · exact BitVec.lt_irrefl _ less
  · exact BitVec.lt_irrefl _ less

theorem Indexed.ranked_perm (indexed : pool.Indexed) : pool.ranked.Perm pool.pending.values := by
  have nodup : pool.ranked.Nodup := by
    refine indexed.ranked_sorted.imp ?_
    rintro tx other outranks rfl
    exact outranks_irrefl tx outranks
  have nodup' : pool.pending.values.Nodup := List.Nodup.of_map _ pool.pending.nodup_map_key_values
  refine (List.perm_ext_iff_of_nodup nodup nodup').2 fun tx => ?_
  rw [indexed.mem_ranked, KeyedMap.mem_values]

theorem Indexed.evicted (indexed : pool.Indexed) {tx victim : IntentTransaction}
    (held : pool.pending.get? victim.txId = some victim)
    (lost : (pool.insert tx).2.pending.get? victim.txId = none) :
    pool.maxSize ≤ pool.len ∧ victim.maxFee < tx.maxFee ∧
      ∀ other, pool.pending.get? other.txId = some other → other = victim ∨ Outranks other victim := by
  rcases indexed.insert_cases tx with same | ⟨absent, -, same⟩ | ⟨absent, full, lowest, last, there, below, same⟩
  · rw [same, held] at lost
    cases lost
  · rw [same] at lost
    change (pool.pending.insert tx).get? victim.txId = none at lost
    rw [KeyedMap.get?_insert] at lost
    split at lost
    · cases lost
    · rw [held] at lost
      cases lost
  · rw [same] at lost
    change ((pool.pending.erase lowest.txId).insert tx).get? victim.txId = none at lost
    rw [KeyedMap.get?_insert, KeyedMap.get?_erase] at lost
    split at lost
    · cases lost
    · split at lost
      · rename_i own
        rw [← own, there] at held
        obtain rfl := Option.some.inj held
        obtain ⟨-, -, -, greatest⟩ := indexed.lowest last
        refine ⟨full, below, fun other pending => ?_⟩
        rcases greatest other.priorityKey ((indexed.mirrored _).2 ⟨other, pending, rfl⟩) with equal | before
        · have ids : other.txId = lowest.txId := congrArg PriorityKey.txId equal
          rw [ids, there] at pending
          exact .inl (Option.some.inj pending).symm
        · exact .inr (outranks_iff.1 before)
      · rw [held] at lost
        cases lost

/-- In every state of every run the index holds the keys of the pending transactions, each once; the pool keeps
to its size; the first `n` of the ranking answer the query; and an insertion pushes out only the transaction
of the lowest priority, for a higher fee. -/
theorem mempool_sound (maxSize : Nat) (operations : List Operation) :
    let pool := operations.foldl apply (new maxSize)
    pool.priorityIndex.toList.Perm (pool.pending.values.map IntentTransaction.priorityKey) ∧
      pool.len ≤ maxSize ∧
      (∃ ranking : List IntentTransaction, ranking.Perm pool.pending.values ∧ ranking.Pairwise Outranks ∧
        ∀ n, pool.topN n = ranking.take n) ∧
      ∀ tx victim, pool.pending.get? victim.txId = some victim →
        (pool.insert tx).2.pending.get? victim.txId = none →
        pool.maxSize ≤ pool.len ∧ victim.maxFee < tx.maxFee ∧
          ∀ other, pool.pending.get? other.txId = some other → other = victim ∨ Outranks other victim := by
  intro pool
  have indexed : pool.Indexed := indexed_run maxSize operations
  have size : pool.maxSize = maxSize := maxSize_run maxSize operations
  refine ⟨?_, size ▸ indexed.bounded, ⟨pool.ranked, indexed.ranked_perm, indexed.ranked_sorted, indexed.topN_eq⟩,
    fun tx victim held lost => indexed.evicted held lost⟩
  rw [← indexed.map_ranked]
  exact indexed.ranked_perm.map _

end Ranking

end PriorityMempool

end Omniphi.Runtime
