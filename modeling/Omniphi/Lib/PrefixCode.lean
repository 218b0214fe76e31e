import Mathlib

/-! Codes whose words are recognised at the start of any longer word, so that a concatenation of them
can be taken apart again. -/

namespace PrefixCode

variable {α β σ : Type*}

def IsPrefixCode (encode : α → List σ) : Prop :=
  ∀ ⦃a b : α⦄ ⦃u v : List σ⦄, encode a ++ u = encode b ++ v → a = b ∧ u = v

variable {encode : α → List σ} {encode' : β → List σ}

theorem IsPrefixCode.injective (code : IsPrefixCode encode) : Function.Injective encode := by
  intro a b same
  exact (code (congrArg (· ++ []) same)).1

/-- Words of one length. -/
theorem of_length (injective : Function.Injective encode) {n : Nat}
    (length : ∀ a, (encode a).length = n) : IsPrefixCode encode := by
  intro a b u v same
  obtain ⟨heads, tails⟩ := List.append_inj same ((length a).trans (length b).symm)
  exact ⟨injective heads, tails⟩

theorem IsPrefixCode.pair (first : IsPrefixCode encode) (second : IsPrefixCode encode') :
    IsPrefixCode fun pair : α × β => encode pair.1 ++ encode' pair.2 := by
  intro a b u v same
  simp only [List.append_assoc] at same
  obtain ⟨left, same⟩ := first same
  obtain ⟨right, rest⟩ := second same
  exact ⟨Prod.ext left right, rest⟩

/-- Words that are closed by a letter none of them contains. -/
theorem of_terminator (injective : Function.Injective encode) {stop : σ}
    (free : ∀ a, stop ∉ encode a) : IsPrefixCode fun a => encode a ++ [stop] := by
  intro a b u v same
  simp only [List.append_assoc, List.singleton_append] at same
  rcases List.append_eq_append_iff.1 same with ⟨more, longer, rest⟩ | ⟨more, longer, rest⟩
  all_goals cases more with
    | nil =>
        rw [List.append_nil] at longer
        rw [List.nil_append] at rest
        injection rest with _ rest
        exact ⟨injective (by rw [longer]), by rw [rest]⟩
    | cons letter more =>
        rw [List.cons_append] at rest
        injection rest with same _
        subst same
        exact absurd (longer ▸ List.mem_append_right _ List.mem_cons_self) (free _)

/-- As many words on both sides. -/
theorem IsPrefixCode.flatMap (code : IsPrefixCode encode) {as bs : List α} {u v : List σ}
    (count : as.length = bs.length) (same : as.flatMap encode ++ u = bs.flatMap encode ++ v) :
    as = bs ∧ u = v := by
  induction as generalizing bs with
  | nil =>
      obtain rfl := List.eq_nil_of_length_eq_zero count.symm
      exact ⟨rfl, same⟩
  | cons a as ih =>
      cases bs with
      | nil => cases count
      | cons b bs =>
          simp only [List.flatMap_cons, List.append_assoc] at same
          obtain ⟨rfl, others⟩ := code same
          obtain ⟨rfl, rest⟩ := ih (Nat.succ.inj count) others
          exact ⟨rfl, rest⟩

theorem length_flatMap_of_length {n : Nat} (length : ∀ a, (encode a).length = n) (as : List α) :
    (as.flatMap encode).length = n * as.length := by
  induction as with
  | nil => simp
  | cons a as ih =>
      rw [List.flatMap_cons, List.length_append, length, ih, List.length_cons, Nat.mul_succ, Nat.add_comm]

end PrefixCode
