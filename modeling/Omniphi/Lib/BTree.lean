import Mathlib

/-! Ordered maps and sets keyed by a lawful order. Two maps with the same entries are equal, and
iteration goes up the keys. -/

abbrev BTreeMap (κ ν : Type) [Ord κ] := Std.ExtTreeMap κ ν compare

abbrev BTreeSet (κ : Type) [Ord κ] := Std.ExtTreeSet κ compare

namespace BTree

section Order

variable {α β : Type} [Ord α] [Ord β]

instance lexTrans [Std.TransOrd α] [Std.TransOrd β] :
    @Std.TransOrd (α × β) lexOrd :=
  inferInstanceAs (Std.TransCmp (compareLex (compareOn Prod.fst) (compareOn Prod.snd)))

instance lexLawful [Std.LawfulEqOrd α] [Std.LawfulEqOrd β] :
    @Std.LawfulEqOrd (α × β) lexOrd :=
  @Std.LawfulEqCmp.mk _ _ (@Std.ReflCmp.mk _ _ (by
      intro a
      show (compare a.1 a.1).then (compare a.2 a.2) = .eq
      simp)) (by
    intro a b same
    change (compare a.1 b.1).then (compare a.2 b.2) = .eq at same
    rw [Ordering.then_eq_eq] at same
    exact Prod.ext (Std.LawfulEqOrd.eq_of_compare same.1) (Std.LawfulEqOrd.eq_of_compare same.2))

omit [Ord α] in
theorem lawfulEq_of_injective (code : α → β) [Std.LawfulEqOrd β]
    (injective : Function.Injective code) : Std.LawfulEqCmp (compareOn code) :=
  @Std.LawfulEqCmp.mk _ _ (@Std.ReflCmp.mk _ _ (by intro a; simp [compareOn])) (by
    intro a b same
    exact injective (Std.LawfulEqOrd.eq_of_compare same))

end Order

variable {κ ν ω : Type} [Ord κ] [Std.TransOrd κ] [Std.LawfulEqOrd κ]

section Lookup

variable [DecidableEq κ] (m : BTreeMap κ ν) (k a : κ)

theorem getElem?_insert (v : ν) : (m.insert k v)[a]? = if k = a then some v else m[a]? := by
  rw [Std.ExtTreeMap.getElem?_insert]
  simp only [Std.LawfulEqCmp.compare_eq_iff_eq]

theorem getElem?_erase : (m.erase k)[a]? = if k = a then none else m[a]? := by
  rw [Std.ExtTreeMap.getElem?_erase]
  simp only [Std.LawfulEqCmp.compare_eq_iff_eq]

theorem getElem?_modify (f : ν → ν) :
    (m.modify k f)[a]? = if k = a then m[a]?.map f else m[a]? := by
  rw [Std.ExtTreeMap.getElem?_modify]
  simp only [Std.LawfulEqCmp.compare_eq_iff_eq]
  split
  · rename_i same
    rw [same]
  · rfl

theorem modify_eq_insert {k : κ} {v : ν} (found : m[k]? = some v) (f : ν → ν) :
    m.modify k f = m.insert k (f v) := by
  apply Std.ExtTreeMap.ext_getElem?
  intro a
  rw [getElem?_modify, getElem?_insert]
  split
  · rename_i same
    rw [← same, found, Option.map_some]
  · rfl

theorem insert_erase_eq {k : κ} {v : ν} (found : m[k]? = some v) : (m.erase k).insert k v = m := by
  apply Std.ExtTreeMap.ext_getElem?
  intro a
  rw [getElem?_insert, getElem?_erase]
  split
  · rename_i same
    rw [← same, found]
  · rfl

end Lookup

section Overwrite

/-- Replace the value at each key that both maps have. -/
def overwrite (put : ω → ν) (m : BTreeMap κ ν) (upper : BTreeMap κ ω) : BTreeMap κ ν :=
  upper.toList.foldl (fun m entry => if m.contains entry.1 then m.insert entry.1 (put entry.2) else m) m

theorem getElem?_foldl_overwrite [DecidableEq κ] (put : ω → ν) (m : BTreeMap κ ν) (a : κ)
    (entries : List (κ × ω)) (nodup : (entries.map Prod.fst).Nodup) :
    (entries.foldl (fun m entry => if m.contains entry.1 then m.insert entry.1 (put entry.2) else m)
      m)[a]? = m[a]?.map fun v =>
        ((entries.find? fun entry => entry.1 = a).map fun entry => put entry.2).getD v := by
  induction entries generalizing m with
  | nil => simp
  | cons entry entries ih =>
      obtain ⟨fresh, nodup⟩ := List.nodup_cons.1 nodup
      rw [List.foldl_cons, ih _ nodup]
      by_cases here : entry.1 = a
      · subst here
        have absent : (entries.find? fun other => other.1 = entry.1) = none := by
          rw [List.find?_eq_none]
          intro other member same
          exact fresh (List.mem_map.2 ⟨other, member, by simpa using same⟩)
        rw [absent, List.find?_cons_of_pos (by simp)]
        cases found : m[entry.1]? with
        | none =>
            have unheld : m.contains entry.1 = false := by
              rw [← Std.ExtTreeMap.isSome_getElem?_eq_contains, found, Option.isSome_none]
            simp [unheld, found]
        | some v =>
            have held : m.contains entry.1 = true := by
              rw [← Std.ExtTreeMap.isSome_getElem?_eq_contains, found, Option.isSome_some]
            simp [held]
      · have unchanged : (if m.contains entry.1 then m.insert entry.1 (put entry.2) else m)[a]? =
            m[a]? := by
          split
          · rw [getElem?_insert, if_neg here]
          · rfl
        rw [unchanged, List.find?_cons_of_neg (by simpa using here)]

theorem find?_toList [DecidableEq κ] (m : BTreeMap κ ν) (a : κ) :
    (m.toList.find? fun entry => entry.1 = a).map Prod.snd = m[a]? := by
  cases search : m.toList.find? fun entry => entry.1 = a with
  | none =>
      rw [List.find?_eq_none] at search
      cases lookup : m[a]? with
      | none => rfl
      | some v =>
          exact absurd (search (a, v) (Std.ExtTreeMap.mem_toList_iff_getElem?_eq_some.2 lookup))
            (by simp)
  | some entry =>
      have same : entry.1 = a := by simpa using List.find?_some search
      have member := List.mem_of_find?_eq_some search
      rw [← Prod.eta entry, Std.ExtTreeMap.mem_toList_iff_getElem?_eq_some, same] at member
      exact member.symm

theorem getElem?_overwrite (put : ω → ν) (m : BTreeMap κ ν) (upper : BTreeMap κ ω) (a : κ) :
    (overwrite put m upper)[a]? = m[a]?.map fun v => (upper[a]?.map put).getD v := by
  classical
  have keys : (upper.toList.map Prod.fst).Nodup := by
    rw [Std.ExtTreeMap.map_fst_toList_eq_keys]
    exact upper.nodup_keys
  rw [overwrite, getElem?_foldl_overwrite put m a _ keys, ← find?_toList upper a, Option.map_map]
  rfl

end Overwrite

section Sum

def sum (quantity : ν → Nat) (m : BTreeMap κ ν) : Nat :=
  (m.toList.map fun entry => quantity entry.2).sum

omit [Std.LawfulEqOrd κ] in
theorem nodup_toList (m : BTreeMap κ ν) : m.toList.Nodup := by
  have keys := m.nodup_keys
  rw [← Std.ExtTreeMap.map_fst_toList_eq_keys] at keys
  exact keys.of_map

theorem toList_insert_perm (m : BTreeMap κ ν) (k : κ) (v : ν) :
    (m.insert k v).toList.Perm ((k, v) :: (m.erase k).toList) := by
  classical
  have absent : (k, v) ∉ (m.erase k).toList := by
    rw [Std.ExtTreeMap.mem_toList_iff_getElem?_eq_some, getElem?_erase, if_pos rfl]
    simp
  rw [List.perm_ext_iff_of_nodup (nodup_toList _) (List.nodup_cons.2 ⟨absent, nodup_toList _⟩)]
  rintro ⟨a, w⟩
  rw [List.mem_cons, Std.ExtTreeMap.mem_toList_iff_getElem?_eq_some,
    Std.ExtTreeMap.mem_toList_iff_getElem?_eq_some, getElem?_insert, getElem?_erase]
  by_cases same : k = a
  · subst same
    simp [eq_comm]
  · simp [same, Ne.symm same]

theorem sum_insert (quantity : ν → Nat) (m : BTreeMap κ ν) (k : κ) (v : ν) :
    sum quantity (m.insert k v) = quantity v + sum quantity (m.erase k) := by
  unfold sum
  rw [((toList_insert_perm m k v).map _).sum_eq, List.map_cons, List.sum_cons]

theorem sum_eq_of_found (quantity : ν → Nat) {m : BTreeMap κ ν} {k : κ} {v : ν}
    (found : m[k]? = some v) : sum quantity m = quantity v + sum quantity (m.erase k) := by
  classical
  have split := sum_insert quantity (m.erase k) k v
  have twice : (m.erase k).erase k = m.erase k := by
    apply Std.ExtTreeMap.ext_getElem?
    intro a
    rw [getElem?_erase, getElem?_erase]
    split <;> rfl
  rwa [insert_erase_eq m found, twice] at split

theorem sum_modify (quantity : ν → Nat) {m : BTreeMap κ ν} {k : κ} {v : ν} (found : m[k]? = some v)
    (f : ν → ν) :
    sum quantity (m.modify k f) + quantity v = sum quantity m + quantity (f v) := by
  classical
  rw [modify_eq_insert m found, sum_insert, sum_eq_of_found quantity found]
  omega

end Sum

section Push

/-! Lists kept under the keys of a map, as `entry(key).or_default().push(value)` grows them. -/

variable [DecidableEq κ]

def push (m : BTreeMap κ (List ν)) (k : κ) (v : ν) : BTreeMap κ (List ν) :=
  m.insert k (m[k]?.getD [] ++ [v])

theorem map_push (g : ν → ω) (m : BTreeMap κ (List ν)) (k : κ) (v : ν) :
    (push m k v).map (fun _ => List.map g) = push (m.map fun _ => List.map g) k (g v) := by
  apply Std.ExtTreeMap.ext_getElem?
  intro a
  simp only [push, Std.ExtTreeMap.getElem?_map, getElem?_insert]
  split
  · cases m[k]? <;> simp
  · rfl

theorem getD_push (m : BTreeMap κ (List ν)) (k a : κ) (v : ν) :
    (push m k v)[a]?.getD [] = if k = a then m[a]?.getD [] ++ [v] else m[a]?.getD [] := by
  rw [push, getElem?_insert]
  split
  · rename_i same
    rw [same, Option.getD_some]
  · rfl

theorem mem_push (m : BTreeMap κ (List ν)) (k a : κ) (v w : ν) :
    w ∈ (push m k v)[a]?.getD [] ↔ (a = k ∧ w = v) ∨ w ∈ m[a]?.getD [] := by
  rw [getD_push]
  split
  · rename_i same
    simp [same, or_comm]
  · rename_i different
    simp [Ne.symm different]

end Push

end BTree
