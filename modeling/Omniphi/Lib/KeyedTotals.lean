import Omniphi.Lib.KeyedMap

/-! Signed totals over the values of a keyed map. -/

set_option linter.unusedSectionVars false

namespace KeyedMap

variable {κ ν : Type} [Ord κ] [Std.TransOrd κ] [Std.LawfulEqOrd κ] [DecidableEq κ] {key : ν → κ}

def total (quantity : ν → Int) (m : KeyedMap key) : Int := (m.values.map quantity).sum

variable (quantity : ν → Int) {m : KeyedMap key}

theorem total_empty : (empty : KeyedMap key).total quantity = 0 := by
  have none_held : (empty : KeyedMap key).values = [] := by
    apply List.eq_nil_iff_forall_not_mem.2
    intro v held
    have found : (empty : KeyedMap key).get? (key v) = some v := mem_values.1 held
    simp [get?, empty] at found
  rw [total, none_held]
  rfl

theorem total_insert (v : ν) : (m.insert v).total quantity = quantity v + (m.erase (key v)).total quantity := by
  have perm := ((BTree.toList_insert_perm m.toMap (key v) v).map Prod.snd).map quantity
  rw [List.map_cons, List.map_cons] at perm
  exact perm.sum_eq.trans List.sum_cons

theorem erase_absent {k : κ} (absent : m.get? k = none) : m.erase k = m := by
  ext1 a
  rw [get?_erase]
  split
  · rename_i same
    rw [← same, absent]
  · rfl

theorem insert_found {v : ν} (found : m.get? (key v) = some v) : m.insert v = m := by
  ext1 a
  rw [get?_insert]
  split
  · rename_i same
    rw [← same, found]
  · rfl

theorem total_insert_absent {v : ν} (absent : m.get? (key v) = none) :
    (m.insert v).total quantity = m.total quantity + quantity v := by
  rw [total_insert, erase_absent absent]
  omega

theorem total_erase {k : κ} {v : ν} (found : m.get? k = some v) :
    (m.erase k).total quantity + quantity v = m.total quantity := by
  obtain rfl := m.key_of_get? found
  have split := total_insert quantity (m := m) v
  rw [insert_found found] at split
  omega

theorem total_insert_found {v w : ν} (found : m.get? (key v) = some w) :
    (m.insert v).total quantity + quantity w = m.total quantity + quantity v := by
  have split := total_insert quantity (m := m) v
  have erased := total_erase quantity found
  omega

theorem total_nonneg (nonneg : ∀ k v, m.get? k = some v → 0 ≤ quantity v) : 0 ≤ m.total quantity := by
  apply List.sum_nonneg
  intro n listed
  obtain ⟨v, held, rfl⟩ := List.mem_map.1 listed
  exact nonneg (key v) v (mem_values.1 held)

theorem le_total (nonneg : ∀ k v, m.get? k = some v → 0 ≤ quantity v) {k : κ} {v : ν}
    (found : m.get? k = some v) : quantity v ≤ m.total quantity := by
  have rest : 0 ≤ (m.erase k).total quantity := by
    apply total_nonneg
    intro a w held
    rw [get?_erase] at held
    split at held
    · cases held
    · exact nonneg a w held
  have split := total_erase quantity found
  omega

end KeyedMap
