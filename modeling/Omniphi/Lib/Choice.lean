import Mathlib

/-! Choosing from a list: the first item of each key, and the best item. What of the choice does not depend
on the order of the list. -/

namespace Choice

section Firsts

variable {α β κ : Type} [DecidableEq κ] (key : α → κ)

/-- The items whose key was not met before, neither among the keys already seen nor earlier in the list. -/
def firsts (seen : κ → Bool) : List α → List α
  | [] => []
  | item :: rest =>
      if seen (key item) then firsts seen rest
      else item :: firsts (fun k => seen k || k = key item) rest

/-- Items that compete for a place in the result yield the same. -/
def Agree (seen : κ → Bool) (yields : α → List β) (items : List α) : Prop :=
  ∀ a ∈ items, ∀ b ∈ items, key a = key b → seen (key a) = false → yields a = yields b

variable {key} {seen : κ → Bool} {items : List α} {item other : α}

theorem mem_of_mem_firsts (kept : item ∈ firsts key seen items) :
    item ∈ items ∧ seen (key item) = false := by
  induction items generalizing seen with
  | nil => cases kept
  | cons head rest ih =>
      rw [firsts] at kept
      split at kept
      · obtain ⟨member, fresh⟩ := ih kept
        exact ⟨List.mem_cons_of_mem _ member, fresh⟩
      · rename_i fresh
        rcases List.mem_cons.1 kept with rfl | kept
        · exact ⟨List.mem_cons_self, Bool.not_eq_true _ ▸ fresh⟩
        · obtain ⟨member, fresh⟩ := ih kept
          exact ⟨List.mem_cons_of_mem _ member, (Bool.or_eq_false_iff.1 fresh).1⟩

theorem exists_mem_firsts (member : item ∈ items) (fresh : seen (key item) = false) :
    ∃ kept ∈ firsts key seen items, key kept = key item := by
  induction items generalizing seen with
  | nil => cases member
  | cons head rest ih =>
      rw [firsts]
      by_cases same : key item = key head
      · rw [← same, fresh, if_neg Bool.false_ne_true]
        exact ⟨head, List.mem_cons_self, same.symm⟩
      · have later : item ∈ rest := by
          rcases List.mem_cons.1 member with rfl | later
          · exact absurd rfl same
          · exact later
        split
        · exact ih later fresh
        · have unmet : (seen (key item) || key item = key head) = false := by
            rw [fresh, Bool.false_or, decide_eq_false same]
          obtain ⟨kept, listed, keyed⟩ := @ih (fun k => seen k || k = key head) later unmet
          exact ⟨kept, List.mem_cons_of_mem _ listed, keyed⟩

theorem nodup_map_firsts : ((firsts key seen items).map key).Nodup := by
  induction items generalizing seen with
  | nil => exact .nil
  | cons head rest ih =>
      rw [firsts]
      split
      · exact ih
      · refine List.nodup_cons.2 ⟨?_, ih⟩
        intro listed
        obtain ⟨later, kept, same⟩ := List.mem_map.1 listed
        have fresh := (mem_of_mem_firsts kept).2
        rw [same] at fresh
        simp at fresh

theorem eq_of_mem_firsts (kept : item ∈ firsts key seen items) (another : other ∈ firsts key seen items)
    (same : key item = key other) : item = other :=
  List.inj_on_of_nodup_map nodup_map_firsts kept another same

/-- The head of a list wins its key. -/
theorem head_mem_firsts {rest : List α} (fresh : seen (key item) = false) :
    item ∈ firsts key seen (item :: rest) := by
  rw [firsts, fresh, if_neg Bool.false_ne_true]
  exact List.mem_cons_self

theorem mem_flatMap_firsts {yields : α → List β} (agree : Agree key seen yields items) {y : β} :
    y ∈ (firsts key seen items).flatMap yields ↔
      ∃ item ∈ items, seen (key item) = false ∧ y ∈ yields item := by
  rw [List.mem_flatMap]
  constructor
  · rintro ⟨item, kept, yielded⟩
    obtain ⟨member, fresh⟩ := mem_of_mem_firsts kept
    exact ⟨item, member, fresh, yielded⟩
  · rintro ⟨item, member, fresh, yielded⟩
    obtain ⟨kept, listed, keyed⟩ := exists_mem_firsts member fresh
    refine ⟨kept, listed, ?_⟩
    rw [agree kept (mem_of_mem_firsts listed).1 item member keyed (keyed ▸ fresh)]
    exact yielded

/-- Where competing items yield the same, the order of the list does not show in what is yielded. -/
theorem mem_flatMap_firsts_perm {yields : α → List β} {items' : List α} (perm : items.Perm items')
    (agree : Agree key seen yields items) {y : β} :
    y ∈ (firsts key seen items).flatMap yields ↔ y ∈ (firsts key seen items').flatMap yields := by
  have agree' : Agree key seen yields items' := by
    intro a memberA b memberB
    exact agree a (perm.mem_iff.2 memberA) b (perm.mem_iff.2 memberB)
  rw [mem_flatMap_firsts agree, mem_flatMap_firsts agree']
  simp only [perm.mem_iff]

/-- Where competing items differ, either of them can come first. -/
theorem agree_of_perm {f : α → β} (keyed : ∀ a b, f a = f b → key a = key b)
    (stable : ∀ items', items.Perm items' → ∀ y, y ∈ (firsts key seen items).map f ↔
      y ∈ (firsts key seen items').map f) :
    ∀ a ∈ items, ∀ b ∈ items, key a = key b → seen (key a) = false → f a = f b := by
  -- Whichever of the two is listed first is the one that is kept.
  have wins : ∀ a ∈ items, seen (key a) = false → f a ∈ (firsts key seen items).map f := by
    intro a member fresh
    obtain ⟨before, after, rfl⟩ := List.append_of_mem member
    rw [stable _ List.perm_middle]
    exact List.mem_map_of_mem (head_mem_firsts fresh)
  intro a memberA b memberB same fresh
  obtain ⟨keptA, listedA, equalA⟩ := List.mem_map.1 (wins a memberA fresh)
  obtain ⟨keptB, listedB, equalB⟩ := List.mem_map.1 (wins b memberB (same ▸ fresh))
  have keys : key keptA = key keptB := (keyed _ _ equalA).trans (same.trans (keyed _ _ equalB).symm)
  rw [← equalA, ← equalB, eq_of_mem_firsts listedA listedB keys]

end Firsts

section Best

variable {α : Type} (better : α → α → Prop) [DecidableRel better]

/-- The head of the sorted list. -/
def best (items : List α) : Option α := (items.insertionSort better).head?

variable {better} {items items' : List α} {item : α}

theorem best_eq_none : best better items = none ↔ items = [] := by
  unfold best
  rw [List.head?_eq_none_iff, ← List.length_eq_zero_iff, List.length_insertionSort,
    List.length_eq_zero_iff]

theorem mem_of_best (chosen : best better items = some item) : item ∈ items :=
  (List.mem_insertionSort better).1 (List.mem_of_head? chosen)

variable [Std.Total better] [IsTrans α better]

theorem better_of_best (chosen : best better items = some item) {other : α} (member : other ∈ items) :
    better item other := by
  have sorted := List.pairwise_insertionSort better items
  obtain ⟨rest, split⟩ := List.head?_eq_some_iff.1 chosen
  rw [split, List.pairwise_cons] at sorted
  have listed := (List.mem_insertionSort better).2 member
  rw [split, List.mem_cons] at listed
  rcases listed with rfl | later
  · exact (Std.Total.total (r := better) other other).elim id id
  · exact sorted.1 other later

/-- Among items that are never equally good, the best one is known by what it is. -/
theorem best_eq_some_iff (strict : ∀ a ∈ items, ∀ b ∈ items, better a b → better b a → a = b) :
    best better items = some item ↔ item ∈ items ∧ ∀ other ∈ items, better item other := by
  constructor
  · intro chosen
    exact ⟨mem_of_best chosen, fun _ => better_of_best chosen⟩
  · rintro ⟨member, wins⟩
    cases chosen : best better items with
    | none =>
        rw [best_eq_none.1 chosen] at member
        cases member
    | some found =>
        have held := mem_of_best chosen
        rw [strict found held item member (better_of_best chosen member) (wins found held)]

end Best

end Choice
