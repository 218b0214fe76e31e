import Omniphi.BigEndian
import Omniphi.Lib.KeyRange
import Omniphi.Poc.Provenance

/-! The indexes of the provenance registry: which claims a query finds under the keys of its range. -/

namespace Omniphi.Poc.ProvenanceRegistry

section Queries

variable (k : ProvenanceRegistry)

def claimAt (position : Nat) (key : Bytes) : U64 := ofBeBytes 64 ((key.drop position).take 8)

def claimsIn (start : Bytes) (stop : Option Bytes) (least position : Nat) : List U64 :=
  (KeyRange.iterate k.index start stop).filterMap fun entry =>
    if least ≤ entry.1.length then some (claimAt position entry.1) else none

def claimsUnder (start : Bytes) : List U64 :=
  k.claimsIn start (KeyRange.prefixEnd start) (start.length + 8) start.length

def getProvenanceChildren (parentClaimID : U64) : List U64 :=
  k.claimsUnder (getProvenanceChildIndexPrefix parentClaimID)

def getProvenanceByHash (canonicalHash : Bytes) : List U64 :=
  k.claimsUnder (getProvenanceHashIndexPrefix canonicalHash)

def getProvenanceBySubmitter (addr : String) : List U64 :=
  k.claimsUnder (getProvenanceSubmitterIndexPrefix addr)

def getProvenanceByCategory (category : String) : List U64 :=
  k.claimsUnder (getProvenanceCategoryIndexPrefix category)

def getProvenanceByEpochRange (startEpoch endEpoch : U64) : List U64 :=
  k.claimsIn (getProvenanceEpochIndexPrefix startEpoch) (some (getProvenanceEpochIndexPrefix (endEpoch + 1)))
    17 9

end Queries

section Families

inductive IndexFamily
  | child | hash | submitter | category | epoch

namespace IndexFamily

def letter : IndexFamily → UInt8
  | child => 0x28
  | hash => 0x29
  | submitter => 0x2A
  | category => 0x2B
  | epoch => 0x2C

def field (entry : ProvenanceEntry) : IndexFamily → Option Bytes
  | child => if entry.parentClaimID = 0 then none else some (beBytes 8 entry.parentClaimID)
  | hash => if entry.canonicalHash = [] then none else some entry.canonicalHash
  | submitter => if entry.submitter = "" then none else some (strBytes entry.submitter)
  | category => if entry.category = "" then none else some (strBytes entry.category)
  | epoch => some (beBytes 8 entry.epoch)

theorem letter_injective {f g : IndexFamily} (same : f.letter = g.letter) : f = g := by
  cases f <;> cases g <;> first | rfl | cases same

def keyOf (f : IndexFamily) (entry : ProvenanceEntry) : Bytes :=
  indexKey (f.letter :: (field entry f).getD []) entry.claimID

end IndexFamily

def Indexed (k : ProvenanceRegistry) : Prop :=
  ∀ key, k.index[key]? = some () ↔ ∃ entry ∈ k.entries.values, ∃ f : IndexFamily,
    (IndexFamily.field entry f).isSome ∧ key = f.keyOf entry

/-- An entry as accepted contributions make it. -/
structure WellFormed (entry : ProvenanceEntry) : Prop where
  category : entry.category ≠ ""
  submitter : entry.submitter ≠ ""
  hash : entry.canonicalHash = [] ∨ entry.canonicalHash.length = canonicalHashSize

end Families

section Writes

variable {k : ProvenanceRegistry}

theorem index_setIndex (key other : Bytes) : (k.setIndex key).index[other]? =
    if key = other then some () else k.index[other]? :=
  BTree.getElem?_insert _ _ _ _

theorem index_setIndexIf (indexed : Bool) (key other : Bytes) :
    (k.setIndexIf indexed key).index[other]? = some () ↔
      (indexed = true ∧ other = key) ∨ k.index[other]? = some () := by
  cases indexed with
  | false => simp [setIndexIf]
  | true =>
      rw [setIndexIf, if_pos rfl, index_setIndex]
      split
      · rename_i same
        simp [same]
      · rename_i other'
        simp [Ne.symm other']

theorem index_setProvenanceEntry {entry : ProvenanceEntry} (formed : WellFormed entry) (key : Bytes) :
    (k.setProvenanceEntry entry).2.index[key]? = some () ↔
      (∃ f : IndexFamily, (IndexFamily.field entry f).isSome ∧ key = f.keyOf entry) ∨
        k.index[key]? = some () := by
  have fits : ¬ (entry.canonicalHash ≠ [] ∧ entry.canonicalHash.length ≠ canonicalHashSize) :=
    fun both => formed.hash.elim both.1 both.2
  have always (k : ProvenanceRegistry) (key : Bytes) : k.setIndex key = k.setIndexIf true key := rfl
  unfold setProvenanceEntry
  dsimp only
  rw [if_neg fits]
  simp only [always, index_setIndexIf, decide_eq_true_eq, true_and]
  constructor
  · rintro (rfl | ⟨_, rfl⟩ | ⟨_, rfl⟩ | ⟨given, rfl⟩ | ⟨given, rfl⟩ | old)
    · exact .inl ⟨.epoch, rfl, rfl⟩
    · exact .inl ⟨.category, by simp [IndexFamily.field, formed.category],
        by simp [IndexFamily.keyOf, IndexFamily.field, formed.category, IndexFamily.letter,
          getProvenanceCategoryIndexPrefix]⟩
    · exact .inl ⟨.submitter, by simp [IndexFamily.field, formed.submitter],
        by simp [IndexFamily.keyOf, IndexFamily.field, formed.submitter, IndexFamily.letter,
          getProvenanceSubmitterIndexPrefix]⟩
    · exact .inl ⟨.hash, by simp [IndexFamily.field, given],
        by simp [IndexFamily.keyOf, IndexFamily.field, given, IndexFamily.letter, getProvenanceHashIndexPrefix]⟩
    · refine .inl ⟨.child, ?_, ?_⟩
      · rw [IndexFamily.field, if_neg given]
        rfl
      · rw [IndexFamily.keyOf, IndexFamily.field, if_neg given]
        rfl
    · exact .inr old
  · rintro (⟨f, given, rfl⟩ | old)
    · cases f with
      | epoch => exact .inl rfl
      | category =>
          refine .inr (.inl ⟨formed.category, ?_⟩)
          rw [IndexFamily.keyOf, IndexFamily.field, if_neg formed.category]
          rfl
      | submitter =>
          refine .inr (.inr (.inl ⟨formed.submitter, ?_⟩))
          rw [IndexFamily.keyOf, IndexFamily.field, if_neg formed.submitter]
          rfl
      | hash =>
          rw [IndexFamily.field] at given
          split at given
          · cases given
          · rename_i hashed
            refine .inr (.inr (.inr (.inl ⟨hashed, ?_⟩)))
            rw [IndexFamily.keyOf, IndexFamily.field, if_neg hashed]
            rfl
      | child =>
          rw [IndexFamily.field] at given
          split at given
          · cases given
          · rename_i below
            refine .inr (.inr (.inr (.inr (.inl ⟨below, ?_⟩))))
            rw [IndexFamily.keyOf, IndexFamily.field, if_neg below]
            rfl
    · exact .inr (.inr (.inr (.inr (.inr old))))

structure Kept (k : ProvenanceRegistry) : Prop where
  indexed : Indexed k
  formed : ∀ entry ∈ k.entries.values, WellFormed entry

theorem kept_empty : Kept empty where
  indexed key := by
    refine iff_of_false ?_ ?_
    · show (∅ : BTreeMap Bytes Unit)[key]? ≠ some ()
      simp
    · rintro ⟨entry, listed, -⟩
      cases (KeyedMap.mem_values.1 listed).symm.trans (KeyedMap.get?_empty _)
  formed entry listed := by
    cases (KeyedMap.mem_values.1 listed).symm.trans (KeyedMap.get?_empty _)

theorem mem_values_insert {entry : ProvenanceEntry} (fresh : k.entries.get? entry.claimID = none)
    (other : ProvenanceEntry) :
    other ∈ (k.entries.insert entry).values ↔ other = entry ∨ other ∈ k.entries.values := by
  rw [KeyedMap.mem_values, KeyedMap.mem_values, KeyedMap.get?_insert]
  split
  · rename_i same
    rw [← same, fresh]
    simp [eq_comm]
  · rename_i elsewhere
    refine (or_iff_right ?_).symm
    rintro rfl
    exact elsewhere rfl

theorem Kept.set (kept : Kept k) {entry : ProvenanceEntry} (fresh : k.entries.get? entry.claimID = none)
    (formed : WellFormed entry) : Kept (k.setProvenanceEntry entry).2 where
  indexed key := by
    rw [index_setProvenanceEntry formed, entries_setProvenanceEntry, kept.indexed]
    simp only [mem_values_insert fresh, or_and_right, exists_or, exists_eq_left]
  formed other listed := by
    rw [entries_setProvenanceEntry, mem_values_insert fresh] at listed
    rcases listed with rfl | listed
    · exact formed
    · exact kept.formed other listed

/-- What the submission of a contribution has checked. -/
structure Submitted (contribution : AcceptedContribution) : Prop where
  ctype : contribution.ctype ≠ ""
  contributor : contribution.contributor ≠ ""
  canonicalHash : contribution.canonicalHash = [] ∨ contribution.canonicalHash.length = canonicalHashSize

theorem Kept.register (kept : Kept k) {registration : Registration}
    (given : Submitted registration.contribution) :
    Kept (k.register registration) := by
  unfold ProvenanceRegistry.register registerProvenance
  split
  · exact kept
  · split
    · exact kept
    · rename_i registered
      split
      · exact kept
      · have fresh : k.entries.get? registration.contribution.id = none := by
          simpa [hasProvenanceEntry, getProvenanceEntry] using registered
        exact kept.set fresh ⟨given.ctype, given.contributor, given.canonicalHash⟩

theorem kept_run {run : List Registration} (given : ∀ registration ∈ run, Submitted registration.contribution) :
    Kept (run.foldl register empty) := by
  suffices ∀ k, Kept k → Kept (run.foldl register k) from this empty kept_empty
  intro k kept
  induction run generalizing k with
  | nil => exact kept
  | cons registration rest ih =>
      exact ih (fun other listed => given other (List.mem_cons_of_mem _ listed)) _
        (kept.register (given registration List.mem_cons_self))

end Writes

section Scans

variable {k : ProvenanceRegistry}

theorem filterMap_if {α β : Type} (P : α → Prop) [DecidablePred P] (f : α → β) (items : List α) :
    items.filterMap (fun a => if P a then some (f a) else none) = (items.filter fun a => P a).map f := by
  induction items with
  | nil => rfl
  | cons a rest ih => by_cases fits : P a <;> simp [fits, ih]

def keysIn (k : ProvenanceRegistry) (start : Bytes) (stop : Option Bytes) (least : Nat) : List Bytes :=
  ((KeyRange.iterate k.index start stop).map Prod.fst).filter fun key => least ≤ key.length

theorem claimsIn_eq (start : Bytes) (stop : Option Bytes) (least position : Nat) :
    k.claimsIn start stop least position = (k.keysIn start stop least).map (claimAt position) := by
  rw [claimsIn, filterMap_if (fun entry : Bytes × Unit => least ≤ entry.1.length)
    (fun entry => claimAt position entry.1), keysIn, List.filter_map, List.map_map]
  rfl

theorem nodup_keysIn (start : Bytes) (stop : Option Bytes) (least : Nat) :
    (k.keysIn start stop least).Nodup := by
  have sub : ((KeyRange.iterate k.index start stop).map Prod.fst).Sublist (k.index.toList.map Prod.fst) :=
    List.filter_sublist.map _
  refine (sub.nodup ?_).filter _
  rw [Std.ExtTreeMap.map_fst_toList_eq_keys]
  exact Std.ExtTreeMap.nodup_keys

theorem mem_keysIn {start : Bytes} {stop : Option Bytes} {least : Nat} {key : Bytes} :
    key ∈ k.keysIn start stop least ↔
      KeyRange.within start stop key = true ∧ k.index[key]? = some () ∧ least ≤ key.length := by
  simp only [keysIn, KeyRange.iterate, List.mem_filter, List.mem_map, Prod.exists, decide_eq_true_eq,
    exists_and_right, exists_eq_right, Std.ExtTreeMap.mem_toList_iff_getElem?_eq_some]
  constructor
  · rintro ⟨⟨⟨_, held⟩, between⟩, long⟩
    exact ⟨between, held, long⟩
  · rintro ⟨between, held, long⟩
    exact ⟨⟨⟨(), held⟩, between⟩, long⟩

variable (indexed : Indexed k) {f : IndexFamily} {P Q : ProvenanceEntry → Bool} {start : Bytes}
  {stop : Option Bytes} {least position : Nat}

def Reads (k : ProvenanceRegistry) (f : IndexFamily) (P : ProvenanceEntry → Bool) (start : Bytes)
    (stop : Option Bytes) (least : Nat) : Prop :=
  (∀ entry ∈ k.entries.values, P entry = true → (IndexFamily.field entry f).isSome) ∧
  ∀ entry ∈ k.entries.values, ∀ g : IndexFamily, (IndexFamily.field entry g).isSome →
    ((KeyRange.within start stop (g.keyOf entry) = true ∧ least ≤ (g.keyOf entry).length) ↔
      g = f ∧ P entry = true)

include indexed

theorem claimsIn_perm (reads : Reads k f P start stop least) :
    (k.claimsIn start stop least position).Perm
      ((k.entries.values.filter P).map fun entry => claimAt position (f.keyOf entry)) := by
  have keys : (k.keysIn start stop least).Perm ((k.entries.values.filter P).map f.keyOf) := by
    rw [List.perm_ext_iff_of_nodup (nodup_keysIn _ _ _)]
    · intro key
      rw [mem_keysIn, indexed, List.mem_map]
      constructor
      · rintro ⟨between, ⟨entry, listed, g, given, rfl⟩, long⟩
        obtain ⟨rfl, fits⟩ := (reads.2 entry listed g given).1 ⟨between, long⟩
        exact ⟨entry, List.mem_filter.2 ⟨listed, fits⟩, rfl⟩
      · rintro ⟨entry, kept, rfl⟩
        obtain ⟨listed, fits⟩ := List.mem_filter.1 kept
        have given := reads.1 entry listed fits
        obtain ⟨between, long⟩ := (reads.2 entry listed f given).2 ⟨rfl, fits⟩
        exact ⟨between, ⟨entry, listed, f, given, rfl⟩, long⟩
    · have ids : ((k.entries.values.filter P).map ProvenanceEntry.claimID).Nodup :=
        (List.filter_sublist.map _).nodup k.entries.nodup_map_key_values
      refine List.Nodup.of_map (fun key => ofBeBytes 64 (key.drop (key.length - 8))) ?_
      rw [List.map_map]
      convert ids using 2
      funext entry
      simp [IndexFamily.keyOf, indexKey]
  rw [claimsIn_eq]
  simpa [List.map_map, Function.comp_def] using keys.map (claimAt position)

/-- The claims of just the entries that are asked for, each once. -/
def Exact (k : ProvenanceRegistry) (claims : List U64) (Q : ProvenanceEntry → Bool) : Prop :=
  claims.Perm ((k.entries.values.filter Q).map ProvenanceEntry.claimID)

theorem exact_iff (reads : Reads k f P start stop least)
    (asked : ∀ entry ∈ k.entries.values, Q entry = true → P entry = true ∧
      claimAt position (f.keyOf entry) = entry.claimID) :
    Exact k (k.claimsIn start stop least position) Q ↔
      ∀ entry ∈ k.entries.values, P entry = true → Q entry = true := by
  have found := @claimsIn_perm k indexed f _ _ _ _ position reads
  have among : k.entries.values.filter Q = (k.entries.values.filter P).filter Q := by
    rw [List.filter_filter]
    refine List.filter_congr fun entry listed => ?_
    by_cases fits : Q entry = true
    · rw [fits, (asked entry listed fits).1]
      rfl
    · simp [fits]
  constructor
  · intro exactly
    have sizes := (found.symm.trans exactly).length_eq
    rw [List.length_map, List.length_map, among] at sizes
    have same := List.filter_sublist.eq_of_length sizes.symm
    intro entry listed fits
    exact List.filter_eq_self.1 same entry (List.mem_filter.2 ⟨listed, fits⟩)
  · intro only
    have same : k.entries.values.filter P = k.entries.values.filter Q := by
      rw [among, List.filter_eq_self.2 fun entry kept =>
        only entry (List.mem_filter.1 kept).1 (List.mem_filter.1 kept).2]
    have ids : (k.entries.values.filter Q).map (fun entry => claimAt position (f.keyOf entry)) =
        (k.entries.values.filter Q).map ProvenanceEntry.claimID := by
      refine List.map_congr_left fun entry kept => ?_
      obtain ⟨listed, fits⟩ := List.mem_filter.1 kept
      exact (asked entry listed fits).2
    rw [same, ids] at found
    exact found

theorem exact_nothing (reads : Reads k f (fun _ => false) start stop least) :
    Exact k (k.claimsIn start stop least position) Q ↔ ∀ entry ∈ k.entries.values, Q entry = false := by
  have found := @claimsIn_perm k indexed f _ _ _ _ position reads
  rw [List.filter_false, List.map_nil, List.perm_nil] at found
  rw [found, Exact, List.nil_perm, List.map_eq_nil_iff, List.filter_eq_nil_iff]
  simp only [Bool.not_eq_true]

end Scans

section Families

variable {k : ProvenanceRegistry} {f : IndexFamily} {Q : ProvenanceEntry → Bool} {word : Bytes}

theorem reads_under : Reads k f (fun entry => (IndexFamily.field entry f).any word.isPrefixOf)
    (f.letter :: word) (KeyRange.prefixEnd (f.letter :: word)) ((f.letter :: word).length + 8) := by
  constructor
  · intro entry _ fits
    exact Option.isSome_of_any fits
  · intro entry _ g given
    obtain ⟨bytes, held⟩ := Option.isSome_iff_exists.1 given
    rw [KeyRange.within_prefixEnd, IndexFamily.keyOf, indexKey, held, List.isPrefixOf_iff_prefix]
    simp only [Option.getD_some, List.cons_append, List.cons_prefix_cons, List.length_cons, List.length_append,
      length_beBytes]
    constructor
    · rintro ⟨⟨same, begins⟩, long⟩
      obtain rfl := IndexFamily.letter_injective same
      rw [held, Option.any_some, List.isPrefixOf_iff_prefix]
      exact ⟨rfl, List.prefix_of_prefix_length_le begins (List.prefix_append _ _) (by omega)⟩
    · rintro ⟨rfl, begins⟩
      rw [held, Option.any_some, List.isPrefixOf_iff_prefix] at begins
      have short := begins.length_le
      exact ⟨⟨rfl, begins.trans (List.prefix_append _ _)⟩, by omega⟩

theorem claimAt_keyOf {entry : ProvenanceEntry} (held : IndexFamily.field entry f = some word) :
    claimAt (f.letter :: word).length (f.keyOf entry) = entry.claimID := by
  rw [claimAt, IndexFamily.keyOf, held, Option.getD_some, indexKey, List.drop_left,
    List.take_of_length_le (length_beBytes 8 _).le, ofBeBytes_beBytes (by decide)]

theorem exact_under_iff (indexed : Indexed k)
    (asked : ∀ entry ∈ k.entries.values, Q entry = true → IndexFamily.field entry f = some word) :
    Exact k (k.claimsUnder (f.letter :: word)) Q ↔
      ∀ entry ∈ k.entries.values, ∀ other, IndexFamily.field entry f = some other → word <+: other →
        Q entry = true := by
  rw [claimsUnder, exact_iff indexed reads_under]
  · refine forall₂_congr fun entry _ => ?_
    simp [Option.any_eq_true, List.isPrefixOf_iff_prefix]
  · intro entry listed fits
    have held := asked entry listed fits
    refine ⟨?_, claimAt_keyOf held⟩
    rw [held, Option.any_some, List.isPrefixOf_iff_prefix]

end Families

section Epochs

variable {k : ProvenanceRegistry} {Q : ProvenanceEntry → Bool} {position : Nat}

theorem isLE_compare_beBytes (x y : U64) : (compare (beBytes 8 x) (beBytes 8 y)).isLE = decide (x ≤ y) := by
  rcases BitVec.lt_trichotomy x y with less | rfl | above
  · rw [compare_beBytes (by decide) less, decide_eq_true (BitVec.le_of_lt less)]
    rfl
  · rw [Std.ReflOrd.compare_self, decide_eq_true (BitVec.le_refl x)]
    rfl
  · rw [@Std.OrientedCmp.eq_swap _ compare _ (beBytes 8 x), compare_beBytes (by decide) above,
      decide_eq_false (BitVec.not_le.2 above)]
    rfl

theorem isLT_compare_beBytes (x y : U64) : (compare (beBytes 8 x) (beBytes 8 y)).isLT = decide (x < y) := by
  rcases BitVec.lt_trichotomy x y with less | rfl | above
  · rw [compare_beBytes (by decide) less, decide_eq_true less]
    rfl
  · rw [Std.ReflOrd.compare_self, decide_eq_false (BitVec.lt_irrefl x)]
    rfl
  · rw [@Std.OrientedCmp.eq_swap _ compare _ (beBytes 8 x), compare_beBytes (by decide) above,
      decide_eq_false (BitVec.lt_asymm above)]
    rfl

theorem reads_epochs (first last : U64) : Reads k .epoch
    (fun entry => decide (first ≤ entry.epoch) && decide (entry.epoch < last))
    (getProvenanceEpochIndexPrefix first) (some (getProvenanceEpochIndexPrefix last)) 17 := by
  constructor
  · intro entry _ _
    rfl
  · intro entry _ g _
    have range (word : Bytes) : KeyRange.within (getProvenanceEpochIndexPrefix first)
        (some (getProvenanceEpochIndexPrefix last)) (0x2C :: word) =
        KeyRange.within (beBytes 8 first) (some (beBytes 8 last)) word :=
      @KeyRange.within_name _ _ _ _ _ [0x2C] _ _ word
    constructor
    · rintro ⟨between, -⟩
      have begins : [0x2C] <+: g.keyOf entry := KeyRange.begins_of_within between
      obtain rfl : g = .epoch := IndexFamily.letter_injective (List.cons_prefix_cons.1 begins).1.symm
      refine ⟨rfl, ?_⟩
      dsimp only
      rw [← isLE_compare_beBytes, ← isLT_compare_beBytes, ← KeyRange.within_word (by simp) (by simp)]
      exact (range _).symm.trans between
    · rintro ⟨rfl, fits⟩
      dsimp only at fits
      rw [← isLE_compare_beBytes, ← isLT_compare_beBytes,
        ← @KeyRange.within_word _ _ _ _ _ _ _ _ (beBytes 8 entry.claimID) (by simp) (by simp)] at fits
      refine ⟨(range _).trans fits, ?_⟩
      simp [IndexFamily.keyOf, IndexFamily.field, indexKey]

theorem exact_epochs_iff (indexed : Indexed k) (first last : U64) :
    Exact k (k.getProvenanceByEpochRange first last)
        (fun entry => decide (first ≤ entry.epoch) && decide (entry.epoch ≤ last)) ↔
      (last = BitVec.allOnes 64 → ∀ entry ∈ k.entries.values, entry.epoch < first) := by
  have reads := @reads_epochs k first (last + 1)
  by_cases top : last = BitVec.allOnes 64
  · subst top
    have none : (fun entry : ProvenanceEntry => decide (first ≤ entry.epoch) && decide (entry.epoch < 0#64)) =
        fun _ => false := by
      funext entry
      simp
    have wrapped : BitVec.allOnes 64 + 1 = 0#64 := rfl
    rw [wrapped, none] at reads
    rw [getProvenanceByEpochRange, wrapped, exact_nothing indexed reads, forall_prop_of_true rfl]
    refine forall₂_congr fun entry _ => ?_
    have below : entry.epoch ≤ BitVec.allOnes 64 := BitVec.le_def.2 (Nat.le_pred_of_lt entry.epoch.isLt)
    rw [decide_eq_true below, Bool.and_true, decide_eq_false_iff_not, BitVec.not_le]
  · have next (epoch : U64) : epoch < last + 1 ↔ epoch ≤ last := by
      have room : last.toNat + 1 < 2 ^ 64 := by
        have other : last.toNat ≠ 2 ^ 64 - 1 := fun same => top (BitVec.eq_of_toNat_eq same)
        have bound := last.isLt
        omega
      have sum : (last + 1).toNat = last.toNat + 1 := Nat.mod_eq_of_lt room
      rw [BitVec.lt_def, BitVec.le_def, sum, Nat.lt_succ_iff]
    simp only [next] at reads
    rw [getProvenanceByEpochRange, exact_iff indexed reads]
    · exact iff_of_true (fun _ _ fits => fits) fun same => absurd same top
    · intro entry _ fits
      exact ⟨fits, claimAt_keyOf (f := .epoch) rfl⟩

end Epochs

section Exactness

variable {k : ProvenanceRegistry}

theorem field_category {entry : ProvenanceEntry} {word : Bytes} (given : entry.category ≠ "") :
    IndexFamily.field entry .category = some word ↔ strBytes entry.category = word := by
  rw [IndexFamily.field, if_neg given, Option.some_inj]

theorem field_submitter {entry : ProvenanceEntry} {word : Bytes} (given : entry.submitter ≠ "") :
    IndexFamily.field entry .submitter = some word ↔ strBytes entry.submitter = word := by
  rw [IndexFamily.field, if_neg given, Option.some_inj]

theorem Kept.category_iff (kept : Kept k) (category : String) :
    Exact k (k.getProvenanceByCategory category) (fun entry => entry.category = category) ↔
      ∀ entry ∈ k.entries.values, strBytes category <+: strBytes entry.category →
        entry.category = category := by
  have shape : k.getProvenanceByCategory category =
      k.claimsUnder (IndexFamily.category.letter :: strBytes category) := rfl
  rw [shape, exact_under_iff kept.indexed]
  · refine forall₂_congr fun entry listed => ?_
    simp [field_category (kept.formed entry listed).category]
  · intro entry listed same
    rw [field_category (kept.formed entry listed).category, of_decide_eq_true same]

theorem Kept.submitter_iff (kept : Kept k) (addr : String) :
    Exact k (k.getProvenanceBySubmitter addr) (fun entry => entry.submitter = addr) ↔
      ∀ entry ∈ k.entries.values, strBytes addr <+: strBytes entry.submitter → entry.submitter = addr := by
  have shape : k.getProvenanceBySubmitter addr =
      k.claimsUnder (IndexFamily.submitter.letter :: strBytes addr) := rfl
  rw [shape, exact_under_iff kept.indexed]
  · refine forall₂_congr fun entry listed => ?_
    simp [field_submitter (kept.formed entry listed).submitter]
  · intro entry listed same
    rw [field_submitter (kept.formed entry listed).submitter, of_decide_eq_true same]

theorem Kept.hash_iff (kept : Kept k) {canonicalHash : Bytes} (given : canonicalHash ≠ []) :
    Exact k (k.getProvenanceByHash canonicalHash) (fun entry => entry.canonicalHash = canonicalHash) ↔
      ∀ entry ∈ k.entries.values, canonicalHash <+: entry.canonicalHash →
        entry.canonicalHash = canonicalHash := by
  have shape : k.getProvenanceByHash canonicalHash =
      k.claimsUnder (IndexFamily.hash.letter :: canonicalHash) := rfl
  have field_hash {entry : ProvenanceEntry} {word : Bytes} (hashed : word ≠ []) :
      IndexFamily.field entry .hash = some word ↔ entry.canonicalHash = word := by
    rw [IndexFamily.field]
    split
    · rename_i none
      rw [none]
      exact iff_of_false (Option.some_ne_none _).symm hashed.symm
    · exact Option.some_inj
  rw [shape, exact_under_iff kept.indexed]
  · refine forall₂_congr fun entry _ => ?_
    constructor
    · intro only begins
      have hashed : entry.canonicalHash ≠ [] := by
        intro none
        rw [none] at begins
        exact given (List.prefix_nil.1 begins)
      exact of_decide_eq_true (only _ ((field_hash hashed).2 rfl) begins)
    · intro only other held begins
      have hashed : other ≠ [] := by
        rintro rfl
        exact given (List.prefix_nil.1 begins)
      obtain rfl := (field_hash hashed).1 held
      exact decide_eq_true (only begins)
  · intro entry _ same
    exact (field_hash given).2 (of_decide_eq_true same)

theorem Kept.hash_exact (kept : Kept k) {canonicalHash : Bytes}
    (length : canonicalHash.length = canonicalHashSize) :
    Exact k (k.getProvenanceByHash canonicalHash) (fun entry => entry.canonicalHash = canonicalHash) := by
  have given : canonicalHash ≠ [] := by
    rintro rfl
    cases length
  rw [kept.hash_iff given]
  intro entry listed begins
  have hashed : entry.canonicalHash ≠ [] := by
    intro none
    rw [none] at begins
    exact given (List.prefix_nil.1 begins)
  have size := (kept.formed entry listed).hash.resolve_left hashed
  exact (begins.eq_of_length (length.trans size.symm)).symm

theorem Kept.children_iff (kept : Kept k) (parentClaimID : U64) :
    Exact k (k.getProvenanceChildren parentClaimID) (fun entry => entry.parentClaimID = parentClaimID) ↔
      (parentClaimID = 0 → ∀ entry ∈ k.entries.values, entry.parentClaimID ≠ 0) := by
  have shape : k.getProvenanceChildren parentClaimID =
      k.claimsUnder (IndexFamily.child.letter :: beBytes 8 parentClaimID) := rfl
  have child {entry : ProvenanceEntry} (begins : beBytes 8 parentClaimID <+: beBytes 8 entry.parentClaimID) :
      entry.parentClaimID = parentClaimID :=
    (beBytes_injective (by decide) (begins.eq_of_length (by simp))).symm
  by_cases root : parentClaimID = 0
  · subst root
    have nothing : Reads k .child (fun _ => false) (IndexFamily.child.letter :: beBytes 8 (0 : U64))
        (KeyRange.prefixEnd (IndexFamily.child.letter :: beBytes 8 (0 : U64)))
        ((IndexFamily.child.letter :: beBytes 8 (0 : U64)).length + 8) := by
      convert @reads_under k .child (beBytes 8 (0 : U64)) using 2 with entry
      by_cases top : entry.parentClaimID = 0
      · simp [IndexFamily.field, top]
      · have apart : ¬ beBytes 8 (0 : U64) <+: beBytes 8 entry.parentClaimID := fun begins => top (child begins)
        rw [IndexFamily.field, if_neg top, Option.any_some,
          Bool.eq_false_iff.2 (mt List.isPrefixOf_iff_prefix.1 apart)]
    rw [shape, claimsUnder, exact_nothing kept.indexed nothing]
    simp
  · rw [shape, exact_under_iff kept.indexed]
    · refine iff_of_true ?_ fun top => absurd top root
      intro entry _ other held begins
      rw [IndexFamily.field] at held
      split at held
      · cases held
      · obtain rfl := Option.some_inj.1 held
        exact decide_eq_true (child begins)
    · intro entry _ same
      obtain rfl := of_decide_eq_true same
      rw [IndexFamily.field, if_neg root]

end Exactness

/-- What the queries find after any registrations. Hashes are always found just so, the claims below a parent
unless the roots are asked for, and epochs up to one before the last. A category or a submitter is found just so
unless that of another entry begins with it. -/
theorem exact_queries_iff {run : List Registration}
    (submitted : ∀ registration ∈ run, Submitted registration.contribution) (category addr : String)
    (canonicalHash : Bytes) (parentClaimID first last : U64) :
    let k := run.foldl register empty
    (Exact k (k.getProvenanceByCategory category) (fun entry => entry.category = category) ↔
      ∀ entry ∈ k.entries.values, strBytes category <+: strBytes entry.category → entry.category = category) ∧
    (Exact k (k.getProvenanceBySubmitter addr) (fun entry => entry.submitter = addr) ↔
      ∀ entry ∈ k.entries.values, strBytes addr <+: strBytes entry.submitter → entry.submitter = addr) ∧
    (canonicalHash ≠ [] →
      (Exact k (k.getProvenanceByHash canonicalHash) (fun entry => entry.canonicalHash = canonicalHash) ↔
        ∀ entry ∈ k.entries.values, canonicalHash <+: entry.canonicalHash →
          entry.canonicalHash = canonicalHash)) ∧
    (canonicalHash.length = canonicalHashSize →
      Exact k (k.getProvenanceByHash canonicalHash) (fun entry => entry.canonicalHash = canonicalHash)) ∧
    (Exact k (k.getProvenanceChildren parentClaimID) (fun entry => entry.parentClaimID = parentClaimID) ↔
      (parentClaimID = 0 → ∀ entry ∈ k.entries.values, entry.parentClaimID ≠ 0)) ∧
    (Exact k (k.getProvenanceByEpochRange first last)
        (fun entry => decide (first ≤ entry.epoch) && decide (entry.epoch ≤ last)) ↔
      (last = BitVec.allOnes 64 → ∀ entry ∈ k.entries.values, entry.epoch < first)) := by
  have kept := kept_run submitted
  exact ⟨kept.category_iff category, kept.submitter_iff addr, kept.hash_iff,
    kept.hash_exact, kept.children_iff parentClaimID,
    exact_epochs_iff kept.indexed first last⟩

section Instance

def contributionOf (id : U64) (ctype : String) : Registration :=
  { registrationOf id 0 with contribution := ⟨id, "author", ctype, [], false, 0⟩ }

/-- Of two categories the name of one begins with the other: its claim is found with an id that no claim has.
Up to the last epoch nothing is found. -/
theorem category_within_another :
    let k := [contributionOf 1 "code", contributionOf 2 "code2"].foldl register empty
    k.entries.values.map (fun entry => (entry.claimID, entry.category, entry.epoch)) =
      [(1, "code", 1), (2, "code2", 1)] ∧
    k.getProvenanceByCategory "code" = [1, 0x3200000000000000] ∧
    k.getProvenanceByEpochRange 0 (2 ^ 64 - 2) = [1, 2] ∧
    k.getProvenanceByEpochRange 0 (2 ^ 64 - 1) = [] := by
  decide +kernel

theorem code_found :
    let k := [contributionOf 1 "code"].foldl register empty
    Exact k (k.getProvenanceByCategory "code") (fun entry => entry.category = "code") := by
  have submitted : ∀ registration ∈ [contributionOf 1 "code"], Submitted registration.contribution := by
    intro registration listed
    obtain rfl := List.mem_singleton.1 listed
    exact ⟨by decide, by decide, .inl rfl⟩
  refine ((exact_queries_iff submitted "code" "author" [] 0 0 0).1).2 ?_
  decide +kernel

end Instance

end Omniphi.Poc.ProvenanceRegistry
