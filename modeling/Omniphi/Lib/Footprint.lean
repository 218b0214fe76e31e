import Mathlib

/-! Transformations of a state made of cells, with the cells they read and write. Disjoint ones
commute, and a sequence may be regrouped as long as only commuting steps change places. -/

namespace Footprint

section Commute

variable {σ ι κ : Type*} (cell : σ → ι → κ) (Inv : σ → Prop)

/-- On the states of an invariant, which it keeps, the transformation changes `writes` only, and the
new contents are determined by `reads`. -/
structure Confined (T : σ → σ) (reads writes : Set ι) : Prop where
  keeps : ∀ s, Inv s → Inv (T s)
  frame : ∀ s, Inv s → ∀ i ∉ writes, cell (T s) i = cell s i
  depends : ∀ s t, Inv s → Inv t → (∀ i ∈ reads, cell s i = cell t i) →
    ∀ i ∈ writes, cell (T s) i = cell (T t) i

variable {cell Inv} {T U : σ → σ} {reads writes reads' writes' : Set ι}

theorem Confined.undisturbed (one : Confined cell Inv T reads writes)
    (other : Confined cell Inv U reads' writes') (apart : ∀ i ∈ writes', i ∉ reads ∧ i ∉ writes)
    {s : σ} (inv : Inv s) {i : ι} (written : i ∈ writes) : cell (T (U s)) i = cell (U (T s)) i := by
  rw [other.frame _ (one.keeps s inv) i fun clash => (apart i clash).2 written]
  refine one.depends _ _ (other.keeps s inv) inv ?_ i written
  intro j read
  exact other.frame s inv j fun clash => (apart j clash).1 read

theorem Confined.commute (ext : ∀ s t, (∀ i, cell s i = cell t i) → s = t)
    (one : Confined cell Inv T reads writes) (other : Confined cell Inv U reads' writes')
    (apart : ∀ i ∈ writes', i ∉ reads ∧ i ∉ writes) (apart' : ∀ i ∈ writes, i ∉ reads' ∧ i ∉ writes')
    {s : σ} (inv : Inv s) : T (U s) = U (T s) := by
  apply ext
  intro i
  by_cases first : i ∈ writes
  · exact one.undisturbed other apart inv first
  · by_cases second : i ∈ writes'
    · exact (other.undisturbed one apart' inv second).symm
    · rw [one.frame _ (other.keeps s inv) i first, other.frame s inv i second,
        other.frame _ (one.keeps s inv) i second, one.frame s inv i first]

end Commute

section Regroup

variable {σ α : Type*} {step : σ → α → σ} {Inv : σ → Prop}

theorem foldl_keeps {items : List α} (keeps : ∀ a ∈ items, ∀ s, Inv s → Inv (step s a)) {s : σ}
    (inv : Inv s) : Inv (items.foldl step s) := by
  induction items generalizing s with
  | nil => exact inv
  | cons a items ih =>
      exact ih (fun b member => keeps b (List.mem_cons_of_mem _ member))
        (keeps a List.mem_cons_self s inv)

theorem foldl_comm {items : List α} {x : α} (keeps : ∀ a ∈ items, ∀ s, Inv s → Inv (step s a))
    (commute : ∀ a ∈ items, ∀ s, Inv s → step (step s x) a = step (step s a) x) {s : σ} (inv : Inv s) :
    items.foldl step (step s x) = step (items.foldl step s) x := by
  induction items generalizing s with
  | nil => rfl
  | cons a items ih =>
      rw [List.foldl_cons, List.foldl_cons, commute a List.mem_cons_self s inv]
      exact ih (fun b member => keeps b (List.mem_cons_of_mem _ member))
        (fun b member => commute b (List.mem_cons_of_mem _ member))
        (keeps a List.mem_cons_self s inv)

variable (group : α → ℕ)

def grouped (n : ℕ) (items : List α) : List α :=
  (List.range n).flatMap fun k => items.filter fun a => group a = k

theorem mem_grouped {n : ℕ} {items : List α} {a : α} (member : a ∈ grouped group n items) :
    a ∈ items := by
  obtain ⟨k, -, kept⟩ := List.mem_flatMap.1 member
  exact List.mem_of_mem_filter kept

theorem grouped_append (items : List α) (x : α) (later : ℕ) :
    ∃ front back, grouped group (group x + 1 + later) items = front ++ back ∧
      grouped group (group x + 1 + later) (items ++ [x]) = front ++ [x] ++ back ∧
      (∀ a ∈ front, a ∈ items) ∧ ∀ a ∈ back, a ∈ items ∧ group x < group a := by
  refine ⟨grouped group (group x + 1) items, (List.range later).flatMap fun k =>
    items.filter fun a => group a = group x + 1 + k, ?_, ?_, fun a => mem_grouped group, ?_⟩
  · simp [grouped, List.range_add, List.flatMap_append, List.flatMap_map]
  · have upto : grouped group (group x + 1) (items ++ [x]) = grouped group (group x + 1) items ++ [x] := by
      have before : (List.range (group x)).flatMap (fun k => (items ++ [x]).filter fun a => group a = k) =
          (List.range (group x)).flatMap fun k => items.filter fun a => group a = k := by
        apply List.flatMap_congr
        intro k inside
        have other : group x ≠ k := by
          have := List.mem_range.1 inside
          omega
        simp [other]
      rw [grouped, grouped, List.range_succ, List.flatMap_append, List.flatMap_append, before]
      simp
    have after : (List.range later).flatMap (fun k => (items ++ [x]).filter fun a =>
        group a = group x + 1 + k) =
        (List.range later).flatMap fun k => items.filter fun a => group a = group x + 1 + k := by
      apply List.flatMap_congr
      intro k _
      have other : group x ≠ group x + 1 + k := by omega
      simp [other]
    rw [← upto, ← after]
    simp [grouped, List.range_add, List.flatMap_append, List.flatMap_map]
  · intro a member
    obtain ⟨k, -, kept⟩ := List.mem_flatMap.1 member
    obtain ⟨listed, same⟩ := List.mem_filter.1 kept
    have same : group a = group x + 1 + k := by simpa using same
    exact ⟨listed, by omega⟩

/-- Going group by group ends in the same state as the original order when every item commutes with
the earlier ones of later groups. -/
theorem foldl_grouped {n : ℕ} {items : List α} (bounded : ∀ a ∈ items, group a < n)
    (keeps : ∀ a ∈ items, ∀ s, Inv s → Inv (step s a))
    (commute : items.Pairwise fun a b => group b < group a →
      ∀ s, Inv s → step (step s b) a = step (step s a) b) {s : σ} (inv : Inv s) :
    (grouped group n items).foldl step s = items.foldl step s := by
  induction items using List.reverseRecOn with
  | nil =>
      have none : grouped group n [] = [] := List.flatMap_eq_nil_iff.2 fun _ _ => rfl
      rw [none]
  | append_singleton items x ih =>
      rw [List.pairwise_append] at commute
      obtain ⟨earlier, -, across⟩ := commute
      have inside : group x < n := bounded x (by simp)
      obtain ⟨later, rfl⟩ : ∃ later, n = group x + 1 + later := ⟨n - (group x + 1), by omega⟩
      have keepsItems : ∀ a ∈ items, ∀ s, Inv s → Inv (step s a) :=
        fun a member => keeps a (List.mem_append_left _ member)
      have same := ih (fun a member => bounded a (List.mem_append_left _ member)) keepsItems earlier
      obtain ⟨front, back, without, withItem, frontIn, backIn⟩ := grouped_append group items x later
      rw [without, List.foldl_append] at same
      rw [withItem, List.foldl_append, List.foldl_append, List.foldl_append, ← same]
      exact foldl_comm (fun a member => keepsItems a (backIn a member).1)
        (fun a member => across a (backIn a member).1 x (by simp) (backIn a member).2)
        (foldl_keeps (fun a member => keepsItems a (frontIn a member)) inv)

end Regroup

section Rearrange

variable {σ α : Type*} {independent : α → α → Prop} {step : σ → α → σ} {Inv : σ → Prop}
variable {alike : σ → σ → Prop}

/-- Neighbours that are independent of one another change places, any number of times. -/
inductive Rearranged (independent : α → α → Prop) : List α → List α → Prop
  | refl (items : List α) : Rearranged independent items items
  | swap (front back : List α) {a b : α} {items : List α} : independent a b →
      Rearranged independent (front ++ b :: a :: back) items →
      Rearranged independent (front ++ a :: b :: back) items

theorem foldl_alike (keeps : ∀ s a, Inv s → Inv (step s a))
    (congr : ∀ s t a, Inv s → Inv t → alike s t → alike (step s a) (step t a)) (items : List α) {s t : σ}
    (inv : Inv s) (inv' : Inv t) (same : alike s t) : alike (items.foldl step s) (items.foldl step t) := by
  induction items generalizing s t with
  | nil => exact same
  | cons a items ih => exact ih (keeps s a inv) (keeps t a inv') (congr s t a inv inv' same)

/-- Where independent steps commute up to an equivalence that every step respects, the order shows only up
to that equivalence. -/
theorem foldl_rearranged (equivalence : Equivalence alike) (keeps : ∀ s a, Inv s → Inv (step s a))
    (congr : ∀ s t a, Inv s → Inv t → alike s t → alike (step s a) (step t a))
    (commute : ∀ a b, independent a b → ∀ s, Inv s → alike (step (step s a) b) (step (step s b) a))
    {items items' : List α} (moved : Rearranged independent items items') {s : σ} (inv : Inv s) :
    alike (items.foldl step s) (items'.foldl step s) := by
  induction moved with
  | refl items => exact equivalence.refl _
  | swap front back apart moved ih =>
      refine equivalence.trans ?_ ih
      simp only [List.foldl_append, List.foldl_cons]
      have reached := foldl_keeps (fun a (_ : a ∈ front) s => keeps s a) inv
      exact foldl_alike keeps congr back (keeps _ _ (keeps _ _ reached)) (keeps _ _ (keeps _ _ reached))
        (commute _ _ apart _ reached)

end Rearrange

end Footprint
