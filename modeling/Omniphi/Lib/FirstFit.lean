import Omniphi.Lib.Run

/-! First-fit labelling of a sequence under a conflict relation: each item takes the least label that
no earlier item in conflict with it has. It keeps conflicting items in order exactly when it agrees
with the labelling by the length of the longest chain of conflicts that ends in an item. -/

namespace FirstFit

section Labels

theorem exists_free (labels : Finset ℕ) : ∃ n, n ∉ labels := Infinite.exists_notMem_finset labels

def mex (labels : Finset ℕ) : ℕ := Nat.find (exists_free labels)

def height (labels : Finset ℕ) : ℕ := labels.sup (· + 1)

def Closed (labels : Finset ℕ) : Prop := ∀ n ∈ labels, ∀ m < n, m ∈ labels

instance : DecidablePred Closed := fun labels =>
  inferInstanceAs (Decidable (∀ n ∈ labels, ∀ m < n, m ∈ labels))

variable {labels : Finset ℕ}

theorem mem_of_lt_mex {n : ℕ} (below : n < mex labels) : n ∈ labels :=
  not_not.1 (Nat.find_min (exists_free labels) below)

theorem mex_notMem : mex labels ∉ labels := Nat.find_spec (exists_free labels)

theorem mex_eq {n : ℕ} (free : n ∉ labels) (below : ∀ m < n, m ∈ labels) : mex labels = n := by
  apply le_antisymm
  · exact Nat.find_min' _ free
  · by_contra short
    exact mex_notMem (below _ (not_le.1 short))

theorem lt_height {n : ℕ} (used : n ∈ labels) : n < height labels :=
  Finset.le_sup (f := (· + 1)) used

theorem below_mex_iff : (∀ n ∈ labels, n < mex labels) ↔ Closed labels := by
  constructor
  · intro below n used m less
    exact mem_of_lt_mex (less.trans (below n used))
  · intro closed n used
    rcases lt_trichotomy n (mex labels) with less | same | more
    · exact less
    · exact absurd (same ▸ used) mex_notMem
    · exact absurd (closed n used _ more) mex_notMem

theorem mex_eq_height (closed : Closed labels) : mex labels = height labels := by
  apply mex_eq
  · intro used
    exact absurd (lt_height used) (lt_irrefl _)
  · intro m less
    obtain ⟨n, used, reaches⟩ := (Finset.lt_sup_iff).1 less
    rcases Nat.lt_or_ge m n with less | same
    · exact closed n used m less
    · obtain rfl : m = n := by omega
      exact used

end Labels

variable {α : Type*} (conflict : α → α → Prop) [DecidableRel conflict]

def taken (seen : List (α × ℕ)) (x : α) : Finset ℕ :=
  ((seen.filter fun entry => conflict x entry.1).map Prod.snd).toFinset

theorem mem_taken {seen : List (α × ℕ)} {x : α} {n : ℕ} :
    n ∈ taken conflict seen x ↔ ∃ y, (y, n) ∈ seen ∧ conflict x y := by
  simp [taken]

def extend (value : Finset ℕ → ℕ) (seen : List (α × ℕ)) (x : α) : List (α × ℕ) :=
  seen ++ [(x, value (taken conflict seen x))]

def label (value : Finset ℕ → ℕ) (items : List α) : List (α × ℕ) :=
  items.foldl (extend conflict value) []

theorem label_append (value : Finset ℕ → ℕ) (items : List α) (x : α) :
    label conflict value (items ++ [x]) = extend conflict value (label conflict value items) x := by
  simp [label]

theorem label_fst (value : Finset ℕ → ℕ) (items : List α) :
    (label conflict value items).map Prod.fst = items := by
  induction items using List.reverseRecOn with
  | nil => rfl
  | append_singleton items x ih => rw [label_append, extend, List.map_append, ih]; rfl

def Ascending (seen : List (α × ℕ)) : Prop :=
  seen.Pairwise fun a b => conflict b.1 a.1 → a.2 < b.2

theorem ascending_extend (value : Finset ℕ → ℕ) (seen : List (α × ℕ)) (x : α) :
    Ascending conflict (extend conflict value seen x) ↔ Ascending conflict seen ∧
      ∀ n ∈ taken conflict seen x, n < value (taken conflict seen x) := by
  simp only [Ascending, extend, List.pairwise_append, List.pairwise_singleton, true_and,
    List.mem_singleton, forall_eq, mem_taken]
  refine and_congr_right fun _ => ⟨?_, ?_⟩
  · rintro below n ⟨y, member, clash⟩
    exact below (y, n) member clash
  · rintro below ⟨y, n⟩ member clash
    exact below n ⟨y, member, clash⟩

/-- First fit gives conflicting items different labels. -/
theorem apart_label (items : List α) :
    (label conflict mex items).Pairwise fun a b => conflict b.1 a.1 → a.2 ≠ b.2 := by
  induction items using List.reverseRecOn with
  | nil => exact List.Pairwise.nil
  | append_singleton items x ih =>
      rw [label_append, extend, List.pairwise_append]
      refine ⟨ih, List.pairwise_singleton _ _, ?_⟩
      intro earlier member last same clash
      rw [List.mem_singleton.1 same] at clash ⊢
      intro shared
      have shared : earlier.2 = mex (taken conflict (label conflict mex items) x) := shared
      have used : earlier.2 ∈ taken conflict (label conflict mex items) x := by
        rw [mem_taken]
        exact ⟨earlier.1, member, clash⟩
      rw [shared] at used
      exact mex_notMem used

/-- Label by longest chains, and let each item close the labels it finds. -/
def Levelled (items : List α) : Prop :=
  Run.Along (extend conflict height) (fun seen x => Closed (taken conflict seen x)) [] items

instance (items : List α) : Decidable (Levelled conflict items) :=
  inferInstanceAs (Decidable (Run.Along _ _ _ _))

theorem levelled_append (items : List α) (x : α) :
    Levelled conflict (items ++ [x]) ↔ Levelled conflict items ∧
      Closed (taken conflict (label conflict height items) x) := by
  simp [Levelled, Run.along_append, Run.Along, label]

/-- First fit keeps the order of conflicting items exactly when every item closes the levels of the
items it conflicts with; the labels are then the levels. -/
theorem ascending_iff_levelled (items : List α) :
    (Ascending conflict (label conflict mex items) ↔ Levelled conflict items) ∧
    (Levelled conflict items → label conflict mex items = label conflict height items) := by
  induction items using List.reverseRecOn with
  | nil => simp [label, Ascending, Levelled, Run.Along]
  | append_singleton items x ih =>
      obtain ⟨order, agree⟩ := ih
      rw [levelled_append, label_append, label_append, ascending_extend, order]
      refine ⟨and_congr_right fun levelled => ?_, ?_⟩
      · rw [← agree levelled]
        exact below_mex_iff
      · rintro ⟨levelled, closed⟩
        rw [← agree levelled] at closed ⊢
        rw [extend, extend, mex_eq_height closed]

end FirstFit
