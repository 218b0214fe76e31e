import Mathlib

/-! Sorting by a comparison, as a stable sort does it: what the result owes to the items, and what to the
order in which they came. -/

namespace Ranking

variable {α β : Type}

def sort (cmp : α → α → Ordering) (items : List α) : List α :=
  items.insertionSort fun a b => cmp a b ≠ .gt

section Result

variable {cmp : α → α → Ordering} {items items' : List α} {a b : α}

theorem sort_perm (cmp : α → α → Ordering) (items : List α) : (sort cmp items).Perm items :=
  List.perm_insertionSort _ _

@[simp] theorem mem_sort : a ∈ sort cmp items ↔ a ∈ items := (sort_perm cmp items).mem_iff

@[simp] theorem length_sort : (sort cmp items).length = items.length := (sort_perm cmp items).length_eq

/-- Sorting sees only what the comparison reads. -/
theorem map_sort {cmp' : β → β → Ordering} {f : α → β} (same : ∀ a b, cmp a b = cmp' (f a) (f b)) :
    (sort cmp items).map f = sort cmp' (items.map f) := by
  apply List.map_insertionSort
  intro a _ b _
  rw [same]

variable [Std.TransCmp cmp]

theorem total_le : Std.Total fun a b => cmp a b ≠ .gt where
  total a b := by
    rw [@Std.OrientedCmp.eq_swap _ cmp _ b a]
    cases cmp a b <;> decide

theorem trans_le : IsTrans α fun a b => cmp a b ≠ .gt where
  trans a b c first second := by
    simp only [ne_eq, ← Ordering.isLE_iff_ne_gt] at first second ⊢
    exact Std.TransCmp.isLE_trans first second

theorem sort_sorted : (sort cmp items).Pairwise fun a b => cmp a b ≠ .gt :=
  have := @total_le α cmp _
  have := @trans_le α cmp _
  List.pairwise_insertionSort _ _

theorem eq_of_le_of_le (le : cmp a b ≠ .gt) (ge : cmp b a ≠ .gt) : cmp a b = .eq := by
  rw [@Std.OrientedCmp.eq_swap _ cmp _ b a] at ge
  cases compared : cmp a b with
  | lt => rw [compared] at ge; exact absurd rfl ge
  | eq => rfl
  | gt => exact absurd compared le

/-- Where no two items tie, the order in which they came does not show. -/
theorem sort_eq_of_perm (perm : items.Perm items')
    (strict : ∀ a ∈ items, ∀ b ∈ items, cmp a b = .eq → a = b) : sort cmp items = sort cmp items' := by
  refine List.Perm.eq_of_pairwise ?_ sort_sorted sort_sorted
    ((sort_perm cmp items).trans (perm.trans (sort_perm cmp items').symm))
  intro a b memberA memberB le ge
  exact strict a (mem_sort.1 memberA) b (perm.mem_iff.2 (mem_sort.1 memberB)) (eq_of_le_of_le le ge)

omit [Std.TransCmp cmp] in
/-- Up to ties it never shows. -/
theorem map_sort_eq_of_perm {cmp' : β → β → Ordering} [Std.LawfulEqCmp cmp'] [Std.TransCmp cmp'] {f : α → β}
    (same : ∀ a b, cmp a b = cmp' (f a) (f b)) (perm : items.Perm items') :
    (sort cmp items).map f = (sort cmp items').map f := by
  rw [map_sort same, map_sort same]
  apply sort_eq_of_perm (perm.map f)
  intro a _ b _
  exact Std.LawfulEqCmp.eq_of_compare

end Result

end Ranking
