import Mathlib

/-! A window over the last items recorded, where an item that the window holds is not recorded again. -/

namespace SlidingWindow

variable {α : Type*}

/-- The last `n` items of a log. -/
def last (n : ℕ) (log : List α) : List α := log.drop (log.length - n)

/-- An item slides into a window of at most `n` items and moves the oldest one out of a full window. -/
def slide (n : ℕ) (window : List α) (a : α) : List α :=
  if window.length < n then window ++ [a] else window.tail ++ [a]

theorem length_last (n : ℕ) (log : List α) : (last n log).length = min n log.length := by
  rw [last, List.length_drop]
  omega

theorem last_append {n : ℕ} (positive : 0 < n) (log : List α) (a : α) :
    last n (log ++ [a]) = slide n (last n log) a := by
  unfold slide
  rw [length_last]
  by_cases room : log.length < n
  · have short : log.length - n = 0 := by omega
    have short' : (log ++ [a]).length - n = 0 := by
      rw [List.length_append, List.length_singleton]
      omega
    rw [if_pos (by omega), last, last, short, short', List.drop_zero, List.drop_zero]
  · have start : (log ++ [a]).length - n = log.length - n + 1 := by
      rw [List.length_append, List.length_singleton]
      omega
    rw [if_neg (by omega), last, last, start, List.tail_drop, List.drop_append_of_le_length (by omega)]

theorem nodup_slide {n : ℕ} {window : List α} (nodup : window.Nodup) {a : α} (fresh : a ∉ window) :
    (slide n window a).Nodup := by
  unfold slide
  split
  · exact List.Nodup.append nodup (List.nodup_singleton a) (by simpa using fresh)
  · have absent : a ∉ window.tail := fun member => fresh (List.mem_of_mem_tail member)
    exact List.Nodup.append nodup.tail (List.nodup_singleton a) (by simpa using absent)

variable [DecidableEq α]

def record (n : ℕ) (log : List α) (a : α) : List α := if a ∈ last n log then log else log ++ [a]

/-- The items of a sequence that were recorded, in order. -/
def recorded (n : ℕ) (items : List α) : List α := items.foldl (record n) []

theorem recorded_append (n : ℕ) (items : List α) (a : α) :
    recorded n (items ++ [a]) = record n (recorded n items) a := by
  rw [recorded, List.foldl_append, List.foldl_cons, List.foldl_nil, recorded]

/-- The items in the window differ. -/
theorem nodup_last_recorded {n : ℕ} (positive : 0 < n) (items : List α) :
    (last n (recorded n items)).Nodup := by
  induction items using List.reverseRecOn with
  | nil => simp [recorded, last]
  | append_singleton items a ih =>
      rw [recorded_append, record]
      split
      · exact ih
      · rename_i fresh
        rw [last_append positive]
        exact nodup_slide ih fresh

/-- What slides along with the window holds of the last items recorded. -/
theorem holds_recorded {σ : Type*} {step : σ → α → σ} (Holds : σ → List α → Prop) {n : ℕ} (positive : 0 < n)
    (kept : ∀ s window a, Holds s window → a ∈ window → step s a = s)
    (slides : ∀ s window a, Holds s window → window.Nodup → window.length ≤ n → a ∉ window →
      Holds (step s a) (slide n window a))
    {s : σ} (start : Holds s []) (items : List α) :
    Holds (items.foldl step s) (last n (recorded n items)) := by
  induction items using List.reverseRecOn with
  | nil => simpa [recorded, last] using start
  | append_singleton items a ih =>
      rw [List.foldl_append, List.foldl_cons, List.foldl_nil, recorded_append, record]
      split
      · rename_i member
        rw [kept _ _ a ih member]
        exact ih
      · rename_i fresh
        have bounded := length_last n (recorded n items)
        rw [last_append positive]
        exact slides _ _ a ih (nodup_last_recorded positive items) (by omega) fresh

end SlidingWindow
