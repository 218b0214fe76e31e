import Omniphi.Lib.BTree

/-! Lists of which only the first entry of each key counts. -/

namespace FirstOfKey

variable {α κ : Type} [Ord κ] [Std.TransOrd κ] (key : α → κ) (accepts : α → Bool)

/-- One step of a count that skips the keys it has seen. -/
def count (acc : BTreeSet κ × Nat) (a : α) : BTreeSet κ × Nat :=
  if acc.1.contains (key a) then acc
  else (acc.1.insert (key a), if accepts a then acc.2 + 1 else acc.2)

def firsts (seen : BTreeSet κ) : List α → List α
  | [] => []
  | a :: rest =>
      if seen.contains (key a) then firsts seen rest else a :: firsts (seen.insert (key a)) rest

variable {key} {accepts}

theorem foldl_count (entries : List α) (seen : BTreeSet κ) (n : Nat) :
    (entries.foldl (count key accepts) (seen, n)).2 = n + (firsts key seen entries).countP accepts := by
  induction entries generalizing seen n with
  | nil => rfl
  | cons a rest ih =>
      rw [List.foldl_cons, count, firsts]
      dsimp only
      by_cases known : seen.contains (key a)
      · rw [if_pos known, if_pos known, ih]
      · rw [if_neg known, if_neg known, ih, List.countP_cons]
        by_cases valid : accepts a
        · rw [if_pos valid, if_pos valid]
          omega
        · rw [if_neg valid, if_neg valid]
          omega

theorem firsts_subset (entries : List α) (seen : BTreeSet κ) : firsts key seen entries ⊆ entries := by
  induction entries generalizing seen with
  | nil => exact List.Subset.refl _
  | cons a rest ih =>
      rw [firsts]
      split
      · exact List.subset_cons_of_subset _ (ih seen)
      · exact List.cons_subset_cons _ (ih _)

theorem not_seen_of_mem_firsts {entries : List α} {seen : BTreeSet κ} {a : α}
    (member : a ∈ firsts key seen entries) : key a ∉ seen := by
  induction entries generalizing seen with
  | nil => exact absurd member List.not_mem_nil
  | cons head rest ih =>
      rw [firsts] at member
      split at member
      · exact ih member
      · rename_i fresh
        rcases List.mem_cons.1 member with rfl | later
        · exact fun known => fresh (Std.ExtTreeSet.contains_iff_mem.2 known)
        · exact fun known => ih later (Std.ExtTreeSet.mem_insert.2 (.inr known))

theorem nodup_firsts (entries : List α) (seen : BTreeSet κ) :
    ((firsts key seen entries).map key).Nodup := by
  induction entries generalizing seen with
  | nil => exact List.nodup_nil
  | cons a rest ih =>
      rw [firsts]
      split
      · exact ih seen
      · rw [List.map_cons, List.nodup_cons]
        refine ⟨?_, ih _⟩
        intro listed
        obtain ⟨other, later, same⟩ := List.mem_map.1 listed
        apply not_seen_of_mem_firsts later
        rw [same]
        exact Std.ExtTreeSet.mem_insert_self

/-- The keys of which the first entry is accepted. -/
def keys [DecidableEq κ] (key : α → κ) (accepts : α → Bool) (entries : List α) : Finset κ :=
  (((firsts key ∅ entries).filter accepts).map key).toFinset

variable [DecidableEq κ]

theorem card_keys (entries : List α) :
    (keys key accepts entries).card = (entries.foldl (count key accepts) (∅, 0)).2 := by
  rw [foldl_count, Nat.zero_add, keys, List.toFinset_card_of_nodup, List.length_map,
    List.countP_eq_length_filter]
  exact (nodup_firsts entries ∅).sublist (List.filter_sublist.map _)

theorem exists_of_mem_keys {entries : List α} {k : κ} (member : k ∈ keys key accepts entries) :
    ∃ a ∈ entries, accepts a = true ∧ key a = k := by
  obtain ⟨a, listed, named⟩ := List.mem_map.1 (List.mem_toFinset.1 member)
  obtain ⟨first, valid⟩ := List.mem_filter.1 listed
  exact ⟨a, firsts_subset entries ∅ first, valid, named⟩

end FirstOfKey
