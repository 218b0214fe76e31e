import Omniphi.Lib.BTree

/-! Where the items of a list stand. A map from items to places keeps the last place of each. -/

namespace Positions

variable {κ : Type}

/-- The item stands there, and nowhere after. -/
def LastAt (items : List κ) (item : κ) (i : Nat) : Prop :=
  items[i]? = some item ∧ ∀ j, i < j → items[j]? ≠ some item

/-- Each item with its last place. -/
def lastPlaces [DecidableEq κ] (items : List κ) : List (κ × Nat) :=
  items.zipIdx.filter fun entry => entry.1 ∉ items.drop (entry.2 + 1)

variable {items : List κ} {item : κ} {i : Nat}

theorem lastAt_append (other : κ) :
    LastAt (items ++ [other]) item i ↔
      (item = other ∧ i = items.length) ∨ (item ≠ other ∧ LastAt items item i) := by
  unfold LastAt
  constructor
  · rintro ⟨here, after⟩
    rcases Nat.lt_trichotomy i items.length with before | rfl | beyond
    · have differ : item ≠ other := by
        rintro rfl
        exact after items.length before List.getElem?_concat_length
      refine .inr ⟨differ, ?_, ?_⟩
      · rwa [List.getElem?_append_left before] at here
      · intro j later
        by_cases inside : j < items.length
        · rw [← List.getElem?_append_left inside]
          exact after j later
        · rw [List.getElem?_eq_none (not_lt.1 inside)]
          exact (Option.some_ne_none item).symm
    · rw [List.getElem?_concat_length] at here
      exact .inl ⟨(Option.some.inj here).symm, rfl⟩
    · rw [List.getElem?_eq_none (by simpa using beyond)] at here
      cases here
  · rintro (⟨rfl, rfl⟩ | ⟨differ, here, after⟩)
    · refine ⟨List.getElem?_concat_length, ?_⟩
      intro j later
      rw [List.getElem?_eq_none (by simpa using later)]
      exact (Option.some_ne_none item).symm
    · have inside := (List.getElem?_eq_some_iff.1 here).1
      refine ⟨by rwa [List.getElem?_append_left inside], ?_⟩
      intro j later
      rcases Nat.lt_trichotomy j items.length with before | rfl | beyond
      · rw [List.getElem?_append_left before]
        exact after j later
      · rw [List.getElem?_concat_length]
        exact fun same => differ (Option.some.inj same).symm
      · rw [List.getElem?_eq_none (by simpa using beyond)]
        exact (Option.some_ne_none item).symm

theorem LastAt.eq {j : Nat} (last : LastAt items item i) (again : LastAt items item j) : i = j := by
  rcases Nat.lt_trichotomy i j with before | same | after
  · exact absurd again.1 (last.2 j before)
  · exact same
  · exact absurd last.1 (again.2 i after)

theorem exists_lastAt (member : item ∈ items) : ∃ i, LastAt items item i := by
  induction items using List.reverseRecOn with
  | nil => cases member
  | append_singleton items other ih =>
      by_cases same : item = other
      · exact ⟨items.length, (lastAt_append other).2 (.inl ⟨same, rfl⟩)⟩
      · have before : item ∈ items := by simpa [same] using member
        obtain ⟨i, last⟩ := ih before
        exact ⟨i, (lastAt_append other).2 (.inr ⟨same, last⟩)⟩

theorem lastAt_iff_of_nodup (nodup : items.Nodup) : LastAt items item i ↔ items[i]? = some item := by
  constructor
  · exact fun last => last.1
  · intro here
    refine ⟨here, ?_⟩
    intro j later again
    have inside := (List.getElem?_eq_some_iff.1 here).1
    exact Nat.ne_of_lt later ((List.getElem?_inj inside nodup).1 (here.trans again.symm))

section Places

variable [DecidableEq κ]

theorem mem_lastPlaces : (item, i) ∈ lastPlaces items ↔ LastAt items item i := by
  unfold lastPlaces LastAt
  rw [List.mem_filter, List.mem_zipIdx_iff_getElem?, decide_eq_true_iff]
  apply and_congr_right
  intro _
  rw [List.mem_iff_getElem?]
  constructor
  · intro absent j later same
    refine absent ⟨j - (i + 1), ?_⟩
    rw [List.getElem?_drop, Nat.add_sub_cancel' later]
    exact same
  · rintro last ⟨j, same⟩
    rw [List.getElem?_drop] at same
    exact last (i + 1 + j) (by omega) same

theorem nodup_lastPlaces : (lastPlaces items).Nodup := by
  have places : (items.zipIdx.map Prod.snd).Nodup := by
    rw [List.zipIdx_map_snd]
    exact List.nodup_range'
  exact places.of_map.filter _

theorem lastPlaces_of_nodup (nodup : items.Nodup) : lastPlaces items = items.zipIdx := by
  apply List.filter_eq_self.2
  rintro ⟨item, i⟩ member
  have last := (lastAt_iff_of_nodup nodup).2 (List.mem_zipIdx_iff_getElem?.1 member)
  exact (List.mem_filter.1 (mem_lastPlaces.2 last)).2

end Places

section Maps

variable [Ord κ] [Std.TransOrd κ] [Std.LawfulEqOrd κ] [DecidableEq κ]

/-- `enumerate`, then `collect` into a map from items to places. -/
def positions (items : List κ) : BTreeMap κ Nat :=
  items.zipIdx.foldl (fun places entry => places.insert entry.1 entry.2) ∅

omit [Std.LawfulEqOrd κ] [DecidableEq κ] in
theorem positions_append (item : κ) :
    positions (items ++ [item]) = (positions items).insert item items.length := by
  unfold positions
  rw [List.zipIdx_append, List.foldl_append]
  simp

theorem getElem?_positions : (positions items)[item]? = some i ↔ LastAt items item i := by
  induction items using List.reverseRecOn generalizing i with
  | nil => simp [positions, LastAt]
  | append_singleton items other ih =>
      rw [positions_append, BTree.getElem?_insert, lastAt_append]
      split
      · rename_i same
        simp [same, eq_comm]
      · rename_i differ
        rw [ih]
        simp [Ne.symm differ]

end Maps

end Positions
