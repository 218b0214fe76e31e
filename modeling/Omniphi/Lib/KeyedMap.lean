import Omniphi.Lib.BTree

/-! Ordered maps whose values carry their own key. -/

set_option linter.unusedSectionVars false

/-- A map that holds each value under the key the value names. -/
structure KeyedMap {κ ν : Type} [Ord κ] [Std.TransOrd κ] (key : ν → κ) where
  toMap : BTreeMap κ ν
  keyed : ∀ k v, toMap[k]? = some v → key v = k

namespace KeyedMap

variable {κ ν ω : Type} [Ord κ] [Std.TransOrd κ] [Std.LawfulEqOrd κ] [DecidableEq κ] {key : ν → κ}
  {other : ω → κ}

def empty : KeyedMap key := ⟨∅, by simp⟩

def get? (m : KeyedMap key) (k : κ) : Option ν := m.toMap[k]?

def contains (m : KeyedMap key) (k : κ) : Bool := m.toMap.contains k

def values (m : KeyedMap key) : List ν := m.toMap.toList.map Prod.snd

def insert (m : KeyedMap key) (v : ν) : KeyedMap key where
  toMap := m.toMap.insert (key v) v
  keyed := by
    intro k w found
    rw [BTree.getElem?_insert] at found
    split at found
    · rename_i same
      rw [← Option.some.inj found, same]
    · exact m.keyed k w found

def erase (m : KeyedMap key) (k : κ) : KeyedMap key where
  toMap := m.toMap.erase k
  keyed := by
    intro a v found
    rw [BTree.getElem?_erase] at found
    split at found
    · cases found
    · exact m.keyed a v found

def modify (m : KeyedMap key) (k : κ) (change : ν → ν) (keeps : ∀ v, key (change v) = key v) :
    KeyedMap key where
  toMap := m.toMap.modify k change
  keyed := by
    intro a v found
    rw [BTree.getElem?_modify] at found
    split at found
    · obtain ⟨w, held, rfl⟩ := Option.map_eq_some_iff.1 found
      rw [keeps, m.keyed a w held]
    · exact m.keyed a v found

def overwrite (m : KeyedMap key) (upper : KeyedMap other) (put : ω → ν)
    (keeps : ∀ w, key (put w) = other w) : KeyedMap key where
  toMap := BTree.overwrite put m.toMap upper.toMap
  keyed := by
    intro a v found
    rw [BTree.getElem?_overwrite] at found
    obtain ⟨old, held, rfl⟩ := Option.map_eq_some_iff.1 found
    cases new : upper.toMap[a]? with
    | none => exact m.keyed a old held
    | some w => exact (keeps w).trans (upper.keyed a w new)

def mapValues (m : KeyedMap key) (change : ν → ν) (keeps : ∀ v, key (change v) = key v) :
    KeyedMap key where
  toMap := m.toMap.map fun _ => change
  keyed := by
    intro a v found
    rw [Std.ExtTreeMap.getElem?_map] at found
    obtain ⟨w, held, rfl⟩ := Option.map_eq_some_iff.1 found
    rw [keeps, m.keyed a w held]

def size (m : KeyedMap key) : Nat := m.toMap.size

/-- The entries of `m` under the listed keys. -/
def pick (m : KeyedMap key) (keys : List κ) : KeyedMap key :=
  keys.foldl (fun picked k => match m.get? k with
    | some v => picked.insert v
    | none => picked) empty

variable (m : KeyedMap key)

@[simp] theorem get?_empty (k : κ) : (empty : KeyedMap key).get? k = none := by
  simp [get?, empty]

theorem key_of_get? {k : κ} {v : ν} (found : m.get? k = some v) : key v = k := m.keyed k v found

theorem contains_eq (k : κ) : m.contains k = (m.get? k).isSome :=
  Std.ExtTreeMap.isSome_getElem?_eq_contains.symm

theorem get?_insert (v : ν) (a : κ) :
    (m.insert v).get? a = if key v = a then some v else m.get? a :=
  BTree.getElem?_insert m.toMap (key v) a v

theorem get?_erase (k a : κ) : (m.erase k).get? a = if k = a then none else m.get? a :=
  BTree.getElem?_erase m.toMap k a

theorem contains_insert (v : ν) (a : κ) :
    (m.insert v).contains a = (decide (key v = a) || m.contains a) := by
  rw [contains_eq, get?_insert, contains_eq]
  by_cases same : key v = a
  · simp [same]
  · simp [same]

theorem contains_erase (k a : κ) : (m.erase k).contains a = (decide (k ≠ a) && m.contains a) := by
  rw [contains_eq, get?_erase, contains_eq]
  by_cases same : k = a
  · simp [same]
  · simp [same]

theorem get?_modify (k a : κ) (change : ν → ν) (keeps : ∀ v, key (change v) = key v) :
    (m.modify k change keeps).get? a = if k = a then (m.get? a).map change else m.get? a :=
  BTree.getElem?_modify m.toMap k a change

theorem get?_overwrite (upper : KeyedMap other) (put : ω → ν) (keeps : ∀ w, key (put w) = other w)
    (a : κ) :
    (m.overwrite upper put keeps).get? a = (m.get? a).map fun v => ((upper.get? a).map put).getD v :=
  BTree.getElem?_overwrite put m.toMap upper.toMap a

theorem get?_foldl_pick (keys : List κ) (picked : KeyedMap key) (a : κ) :
    (keys.foldl (fun picked k => match m.get? k with
      | some v => picked.insert v
      | none => picked) picked).get? a =
      if a ∈ keys then (m.get? a <|> picked.get? a) else picked.get? a := by
  induction keys generalizing picked with
  | nil => rfl
  | cons k keys ih =>
      rw [List.foldl_cons, ih]
      cases found : m.get? k with
      | none =>
          by_cases here : a = k
          · subst here
            simp [found]
          · simp [here]
      | some v =>
          simp only [get?_insert, m.key_of_get? found]
          by_cases here : a = k
          · subst here
            simp [found]
          · simp [here, Ne.symm here]

theorem get?_pick (keys : List κ) (a : κ) :
    (m.pick keys).get? a = if a ∈ keys then m.get? a else none := by
  rw [pick, get?_foldl_pick, get?_empty, Option.orElse_eq_orElse, Option.orElse_eq_or, Option.or_none]

/-- Entries that were picked come back, as long as none appeared or vanished in between. -/
theorem get?_overwrite_pick (now : KeyedMap key) {keys : List κ} {a : κ}
    (present : (now.get? a).isSome = (m.get? a).isSome)
    (elsewhere : a ∉ keys → now.get? a = m.get? a) :
    (now.overwrite (m.pick keys) (fun v => v) (fun _ => rfl)).get? a = m.get? a := by
  rw [get?_overwrite, get?_pick]
  split
  · cases before : m.get? a with
    | none =>
        have absent : now.get? a = none := by
          rw [← Option.not_isSome_iff_eq_none, present, before]
          exact Bool.false_ne_true
        rw [absent, Option.map_none]
    | some v =>
        rw [before] at present
        obtain ⟨w, found⟩ := Option.isSome_iff_exists.1 present
        rw [found]
        rfl
  · rename_i outside
    rw [elsewhere outside]
    exact Option.map_id'

theorem values_modify (k : κ) (change : ν → ν) (keeps : ∀ v, key (change v) = key v) :
    (m.modify k change keeps).values = m.values.map fun v => if key v = k then change v else v := by
  have asMap : m.toMap.modify k change = m.toMap.map fun a v => if a = k then change v else v := by
    apply Std.ExtTreeMap.ext_getElem?
    intro a
    rw [BTree.getElem?_modify, Std.ExtTreeMap.getElem?_map]
    by_cases same : k = a
    · simp [same]
    · simp [same, Ne.symm same]
  show (m.toMap.modify k change).toList.map Prod.snd = _
  rw [asMap, Std.ExtTreeMap.toList_map, values, List.map_map, List.map_map]
  apply List.map_congr_left
  intro entry member
  rw [Std.ExtTreeMap.mem_toList_iff_getElem?_eq_some] at member
  simp only [Function.comp_apply, m.keyed _ _ member]

theorem find?_values_modify (k : κ) (change : ν → ν) (keeps : ∀ v, key (change v) = key v)
    (P : ν → Bool) (same : ∀ v, P (change v) = P v) :
    (m.modify k change keeps).values.find? P =
      (m.values.find? P).map fun v => if key v = k then change v else v := by
  rw [values_modify, List.find?_map]
  congr 2
  funext v
  simp only [Function.comp_apply]
  split
  · exact same v
  · rfl

theorem get?_mapValues (change : ν → ν) (keeps : ∀ v, key (change v) = key v) (a : κ) :
    (m.mapValues change keeps).get? a = (m.get? a).map change :=
  Std.ExtTreeMap.getElem?_map ..

theorem size_mapValues (change : ν → ν) (keeps : ∀ v, key (change v) = key v) :
    (m.mapValues change keeps).size = m.size := by
  simp only [size, mapValues, ← Std.ExtTreeMap.length_toList, Std.ExtTreeMap.toList_map,
    List.length_map]

theorem size_insert_of_mem {v w : ν} (held : m.get? (key v) = some w) : (m.insert v).size = m.size := by
  have mem : m.toMap.contains (key v) = true := by
    rw [← Std.ExtTreeMap.isSome_getElem?_eq_contains, show m.toMap[key v]? = some w from held,
      Option.isSome_some]
  rw [size, insert, Std.ExtTreeMap.size_insert, if_pos mem, size]

theorem length_values : m.values.length = m.size := by
  rw [values, List.length_map, Std.ExtTreeMap.length_toList, size]

theorem size_insert_le (v : ν) : (m.insert v).size ≤ m.size + 1 := Std.ExtTreeMap.size_insert_le

theorem size_erase_le (k : κ) : (m.erase k).size ≤ m.size := Std.ExtTreeMap.size_erase_le

theorem size_erase_of_mem {k : κ} {v : ν} (held : m.get? k = some v) :
    (m.erase k).size = m.size - 1 := by
  have mem : m.toMap.contains k = true := by
    rw [← Std.ExtTreeMap.isSome_getElem?_eq_contains, show m.toMap[k]? = some v from held,
      Option.isSome_some]
  rw [size, erase, Std.ExtTreeMap.size_erase, if_pos mem, size]

theorem map_key_values : m.values.map key = m.toMap.keys := by
  rw [values, List.map_map, ← Std.ExtTreeMap.map_fst_toList_eq_keys]
  apply List.map_congr_left
  intro entry member
  rw [Std.ExtTreeMap.mem_toList_iff_getElem?_eq_some] at member
  exact m.keyed _ _ member

theorem nodup_map_key_values : (m.values.map key).Nodup := by
  rw [map_key_values]
  exact Std.ExtTreeMap.nodup_keys

variable {m}

@[ext] theorem ext {n : KeyedMap key} (same : ∀ k, m.get? k = n.get? k) : m = n := by
  obtain ⟨m, keyed⟩ := m
  obtain ⟨n, keyed'⟩ := n
  obtain rfl : m = n := Std.ExtTreeMap.ext_getElem? (by intro k; exact same k)
  rfl

theorem modify_eq_self {k : κ} (absent : m.get? k = none) (change : ν → ν)
    (keeps : ∀ v, key (change v) = key v) : m.modify k change keeps = m := by
  ext1 a
  rw [get?_modify]
  split
  · rename_i same
    rw [← same, absent, Option.map_none]
  · rfl

theorem mem_values {v : ν} : v ∈ m.values ↔ m.get? (key v) = some v := by
  constructor
  · intro member
    obtain ⟨⟨k, w⟩, listed, rfl⟩ := List.mem_map.1 member
    rw [Std.ExtTreeMap.mem_toList_iff_getElem?_eq_some] at listed
    rw [m.keyed k w listed]
    exact listed
  · intro held
    exact List.mem_map.2 ⟨(key v, v), Std.ExtTreeMap.mem_toList_iff_getElem?_eq_some.2 held, rfl⟩

/-- The values come in the order of their keys. -/
theorem pairwise_values : m.values.Pairwise fun v w => compare (key v) (key w) = .lt := by
  rw [values, List.pairwise_map]
  refine (Std.ExtTreeMap.ordered_keys_toList (t := m.toMap)).imp_of_mem ?_
  intro a b first second ordered
  rw [Std.ExtTreeMap.mem_toList_iff_getElem?_eq_some] at first second
  rwa [m.keyed _ _ first, m.keyed _ _ second]

theorem countP_values_insert {v : ν} (absent : m.get? (key v) = none) (P : ν → Bool) :
    (m.insert v).values.countP P = m.values.countP P + if P v then 1 else 0 := by
  have erased : m.toMap.erase (key v) = m.toMap := by
    apply Std.ExtTreeMap.ext_getElem?
    intro a
    rw [BTree.getElem?_erase]
    split
    · rename_i same
      rw [← same]
      exact absent.symm
    · rfl
  have perm := (BTree.toList_insert_perm m.toMap (key v) v).map Prod.snd
  rw [erased, List.map_cons] at perm
  exact (perm.countP_eq P).trans List.countP_cons

theorem get?_of_find? {P : ν → Bool} {v : ν} (found : m.values.find? P = some v) :
    m.get? (key v) = some v ∧ P v :=
  ⟨mem_values.1 (List.mem_of_find?_eq_some found), List.find?_some found⟩

theorem find?_values_of_unique {P : ν → Bool} {v : ν} (found : m.get? (key v) = some v) (fits : P v)
    (unique : ∀ k w, m.get? k = some w → P w → w = v) : m.values.find? P = some v := by
  have member : v ∈ m.values := mem_values.2 found
  cases search : m.values.find? P with
  | none => exact absurd fits (List.find?_eq_none.1 search v member)
  | some w =>
      obtain ⟨held, fits⟩ := get?_of_find? search
      rw [unique _ w held fits]

section Sum

def sum (quantity : ν → Nat) (m : KeyedMap key) : Nat := BTree.sum quantity m.toMap

theorem sum_modify (quantity : ν → Nat) {k : κ} {v : ν} (found : m.get? k = some v) (change : ν → ν)
    (keeps : ∀ v, key (change v) = key v) :
    (m.modify k change keeps).sum quantity + quantity v = m.sum quantity + quantity (change v) :=
  BTree.sum_modify quantity found change

theorem sum_modify_eq (quantity : ν → Nat) (k : κ) (change : ν → ν)
    (keeps : ∀ v, key (change v) = key v) (same : ∀ v, quantity (change v) = quantity v) :
    (m.modify k change keeps).sum quantity = m.sum quantity := by
  cases found : m.get? k with
  | none => rw [modify_eq_self found]
  | some v =>
      have moved := sum_modify quantity found change keeps
      rw [same] at moved
      omega

theorem le_sum (quantity : ν → Nat) {k : κ} {v : ν} (found : m.get? k = some v) :
    quantity v ≤ m.sum quantity := by
  rw [sum, BTree.sum_eq_of_found quantity found]
  exact Nat.le_add_right ..

end Sum

end KeyedMap
