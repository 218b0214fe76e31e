import Omniphi.Lib.KeySpace

/-! Ranges of an ordered store whose keys are words of bytes: from a start up to an end that is left out. -/

set_option linter.unusedSectionVars false

namespace KeyRange

section Order

variable {σ : Type} [Ord σ]

theorem compare_cons_cons (a b : σ) (u v : List σ) :
    compare (a :: u) (b :: v) = (compare a b).then (compare u v) :=
  List.compareLex_cons_cons

/-- Where the word on the right goes on, it is the greater of two that are the same so far. -/
theorem compare_append_right {u v : List σ} (width : u.length = v.length) (tail : List σ) :
    compare u (v ++ tail) = (compare u v).then (compare [] tail) := by
  induction u generalizing v with
  | nil =>
      obtain rfl := List.length_eq_zero_iff.1 width.symm
      rfl
  | cons a u ih =>
      cases v with
      | nil => cases width
      | cons b v =>
          rw [List.cons_append, compare_cons_cons, compare_cons_cons, ih (Nat.succ.inj width),
            Ordering.then_assoc]

theorem compare_append_left {u v : List σ} (width : u.length = v.length) (tail : List σ) :
    compare (u ++ tail) v = (compare u v).then (compare tail []) := by
  induction u generalizing v with
  | nil =>
      obtain rfl := List.length_eq_zero_iff.1 width.symm
      rfl
  | cons a u ih =>
      cases v with
      | nil => cases width
      | cons b v =>
          rw [List.cons_append, compare_cons_cons, compare_cons_cons, ih (Nat.succ.inj width),
            Ordering.then_assoc]

theorem nil_isLE (tail : List σ) : (compare [] tail).isLE = true := by
  cases tail <;> rfl

theorem not_isLT_nil (tail : List σ) : (compare tail []).isLT = false := by
  cases tail <;> rfl

end Order

section Range

variable {σ ν : Type} [Ord σ] [Std.TransOrd σ] [Std.LawfulEqOrd σ] [DecidableEq σ]

def within (start : List σ) (stop : Option (List σ)) (key : List σ) : Bool :=
  (compare start key).isLE && stop.all fun stop => (compare key stop).isLT

def iterate (store : BTreeMap (List σ) ν) (start : List σ) (stop : Option (List σ)) : List (List σ × ν) :=
  store.toList.filter fun entry => within start stop entry.1

variable {name start stop word tail key : List σ}

theorem within_name (rest : List σ) :
    within (name ++ start) (some (name ++ stop)) (name ++ rest) = within start (some stop) rest := by
  simp only [within, Option.all_some, KeySpace.compare_append]

/-- Keys between two that begin with a name begin with it, too. -/
theorem begins_of_within (between : within (name ++ start) (some (name ++ stop)) key = true) : name <+: key := by
  simp only [within, Option.all_some, Bool.and_eq_true] at between
  induction name generalizing key with
  | nil => exact List.nil_prefix
  | cons letter name ih =>
      cases key with
      | nil => exact absurd between.1 (by rw [List.cons_append]; exact Bool.false_ne_true)
      | cons letter' key =>
          obtain ⟨above, below⟩ := between
          rw [List.cons_append, compare_cons_cons] at above below
          have same : letter = letter' := by
            apply Std.LawfulEqOrd.eq_of_compare
            rw [@Std.OrientedCmp.eq_swap _ compare _ letter' letter] at below
            cases order : compare letter letter' with
            | lt => rw [order] at below; cases below
            | eq => rfl
            | gt => rw [order] at above; cases above
          subst same
          rw [Std.ReflOrd.compare_self] at above below
          exact List.cons_prefix_cons.2 ⟨rfl, ih ⟨above, below⟩⟩

/-- Words of one width are in the range as they are ordered, whatever follows them. -/
theorem within_word (width : start.length = word.length) (width' : word.length = stop.length) :
    within start (some stop) (word ++ tail) = ((compare start word).isLE && (compare word stop).isLT) := by
  have lower := nil_isLE tail
  have upper := not_isLT_nil tail
  simp only [within, Option.all_some, compare_append_right width, compare_append_left width']
  cases compare start word <;> cases compare word stop <;> simp_all [Ordering.then]

end Range

section Prefix

/-- The first word after all those that begin with this one; there is none after words of `0xff`. -/
def prefixEnd : List UInt8 → Option (List UInt8)
  | [] => none
  | byte :: rest =>
      match prefixEnd rest with
      | some stop => some (byte :: stop)
      | none => if byte = 255 then none else some [byte + 1]

variable {ν : Type}

theorem compare_succ_of_lt {byte letter : UInt8} (above : byte < letter) (tail : List UInt8) :
    ((compare letter (byte + 1)).then (compare tail [])).isLT = false := by
  have least : byte + 1 ≤ letter := by
    rw [UInt8.lt_iff_toNat_lt] at above
    have top := letter.toNat_lt
    rw [UInt8.le_iff_toNat_le, UInt8.toNat_add, UInt8.toNat_one]
    omega
  rcases UInt8.le_iff_lt_or_eq.1 least with less | rfl
  · rw [Std.compare_eq_gt.2 less]
    rfl
  · rw [Std.ReflOrd.compare_self]
    exact not_isLT_nil tail

/-- The range up to the end of a prefix holds the keys that begin with it. -/
theorem within_prefixEnd (word key : List UInt8) : within word (prefixEnd word) key = word.isPrefixOf key := by
  induction word generalizing key with
  | nil => simp [within, prefixEnd, nil_isLE]
  | cons byte rest ih =>
      cases key with
      | nil => rfl
      | cons letter key =>
          have tail := ih key
          unfold within at tail ⊢
          unfold prefixEnd
          rw [compare_cons_cons]
          show _ = (byte == letter && rest.isPrefixOf key)
          rw [← tail]
          -- The first bytes decide, unless they are the same.
          cases order : compare byte letter with
          | lt =>
              have above := Std.compare_eq_lt.1 order
              rw [beq_false_of_ne (UInt8.ne_of_lt above)]
              cases prefixEnd rest with
              | some stop => simp [Std.compare_eq_gt.2 above]
              | none =>
                  have room : byte ≠ 255 := by
                    rintro rfl
                    exact absurd (UInt8.lt_iff_toNat_lt.1 above) (by have := letter.toNat_lt; simp; omega)
                  simp [room, compare_succ_of_lt above]
          | eq =>
              obtain rfl := Std.LawfulEqOrd.eq_of_compare order
              cases prefixEnd rest with
              | some stop => simp
              | none =>
                  by_cases top : byte = 255
                  · simp [top]
                  · have less : byte < byte + 1 := by
                      rw [UInt8.lt_iff_toNat_lt, UInt8.toNat_add, UInt8.toNat_one]
                      have bound := byte.toNat_lt
                      have other : byte.toNat ≠ 255 := fun same => top (UInt8.toNat_inj.1 same)
                      omega
                    simp [top, Std.compare_eq_lt.2 less]
          | gt =>
              have below := Std.compare_eq_gt.1 order
              rw [beq_false_of_ne (UInt8.ne_of_lt below).symm]
              rfl

end Prefix

end KeyRange
