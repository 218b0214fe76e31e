import Omniphi.Lib.BTree

/-! An ordered store whose keys are words, shared by families of keys that begin each with a name of their
own. -/

namespace KeySpace

section Names

variable {φ σ : Type}

/-- No family's name begins another's. -/
def Separate (name : φ → List σ) : Prop := ∀ f g, name f <+: name g → f = g

variable {name : φ → List σ} {f g : φ} {u v : List σ}

theorem Separate.append_inj (separate : Separate name) (same : name f ++ u = name g ++ v) : f = g ∧ u = v := by
  have family : f = g := by
    rcases List.append_eq_append_iff.1 same with ⟨more, longer, -⟩ | ⟨more, longer, -⟩
    · exact separate f g ⟨more, longer.symm⟩
    · exact (separate g f ⟨more, longer.symm⟩).symm
  subst family
  exact ⟨rfl, List.append_cancel_left same⟩

theorem Separate.begins_iff (separate : Separate name) : name f <+: name g ++ v ↔ f = g := by
  constructor
  · rintro ⟨rest, same⟩
    exact (separate.append_inj same).1
  · rintro rfl
    exact List.prefix_append _ _

end Names

section Order

variable {σ : Type} [Ord σ]

theorem compare_append [Std.ReflOrd σ] (name u v : List σ) :
    compare (name ++ u) (name ++ v) = compare u v := by
  induction name with
  | nil => rfl
  | cons letter name ih =>
      show List.compareLex compare (letter :: (name ++ u)) (letter :: (name ++ v)) = _
      rw [List.compareLex_cons_cons, Std.ReflOrd.compare_self]
      exact ih

end Order

section Scan

variable {σ ν : Type} [Ord σ] [Std.TransOrd σ] [DecidableEq σ]

/-- The entries whose keys begin with the name, in the order of the keys. -/
def scan (store : BTreeMap (List σ) ν) (name : List σ) : List (List σ × ν) :=
  store.toList.filter fun entry => name.isPrefixOf entry.1

variable {store : BTreeMap (List σ) ν} {name key : List σ} {value : ν}

theorem mem_scan [Std.LawfulEqOrd σ] : (key, value) ∈ scan store name ↔ name <+: key ∧ store[key]? = some value := by
  rw [scan, List.mem_filter, Std.ExtTreeMap.mem_toList_iff_getElem?_eq_some, List.isPrefixOf_iff_prefix]
  exact and_comm

theorem scan_ordered : (scan store name).Pairwise fun a b => compare a.1 b.1 = .lt :=
  Std.ExtTreeMap.ordered_keys_toList.filter _

/-- The last entry of a scan has the greatest of the keys. -/
theorem getLast?_scan (last : (scan store name).getLast? = some (key, value)) :
    (key, value) ∈ scan store name ∧
      ∀ entry ∈ scan store name, entry = (key, value) ∨ compare entry.1 key = .lt := by
  obtain ⟨before, split⟩ := List.getLast?_eq_some_iff.1 last
  have ordered := @scan_ordered σ ν _ _ _ store name
  rw [split] at ordered ⊢
  refine ⟨by simp, ?_⟩
  intro entry member
  rcases List.mem_append.1 member with earlier | same
  · exact .inr ((List.pairwise_append.1 ordered).2.2 entry earlier _ List.mem_cons_self)
  · exact .inl (List.mem_singleton.1 same)

end Scan

end KeySpace
