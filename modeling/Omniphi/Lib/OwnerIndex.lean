import Omniphi.Lib.BTree

/-! An index from holders to the items they hold, and when an update keeps it in step with them. -/

namespace OwnerIndex

variable {κ ν : Type} [Ord κ] [Std.TransOrd κ]

/-- An item stands under a key just when that key holds it. -/
def Exact (index : BTreeMap κ (List ν)) (holder : ν → Option κ) : Prop :=
  ∀ k v, v ∈ index[k]?.getD [] ↔ holder v = some k

variable {index : BTreeMap κ (List ν)} {holder other : ν → Option κ}

theorem exact_empty : Exact (∅ : BTreeMap κ (List ν)) fun _ => none := by
  intro k v
  simp

theorem Exact.holder_eq (exact : Exact index holder) : Exact index other ↔ other = holder := by
  constructor
  · intro same
    funext v
    apply Option.ext
    intro k
    rw [← same k v, exact k v]
  · rintro rfl
    exact exact

/-- A held item stands under its holder's key alone. -/
theorem Exact.existsUnique (exact : Exact index holder) {k : κ} {v : ν} (held : holder v = some k) :
    ∃! a : κ, v ∈ index[a]?.getD [] := by
  refine ⟨k, (exact k v).2 held, fun a listed => ?_⟩
  exact Option.some.inj (((exact a v).1 listed).symm.trans held)

variable [Std.LawfulEqOrd κ] [DecidableEq κ] [DecidableEq ν]

/-- Strikes an item off the list of one key. -/
def retain (index : BTreeMap κ (List ν)) (k : κ) (v : ν) : BTreeMap κ (List ν) :=
  match index[k]? with
  | some items => index.insert k (items.filter fun w => w ≠ v)
  | none => index

theorem mem_retain (index : BTreeMap κ (List ν)) (k a : κ) (v w : ν) :
    w ∈ (retain index k v)[a]?.getD [] ↔ w ∈ index[a]?.getD [] ∧ ¬(a = k ∧ w = v) := by
  unfold retain
  cases found : index[k]? with
  | none =>
      dsimp only
      constructor
      · intro listed
        refine ⟨listed, ?_⟩
        rintro ⟨rfl, -⟩
        rw [found] at listed
        cases listed
      · exact And.left
  | some items =>
      dsimp only
      rw [BTree.getElem?_insert]
      by_cases here : k = a
      · subst here
        rw [if_pos rfl, found]
        simp
      · rw [if_neg here]
        simp [Ne.symm here]

/-- A new entry is in step unless another key still lists the item. -/
theorem Exact.push_iff (exact : Exact index holder) (k : κ) (v : ν) :
    Exact (BTree.push index k v) (Function.update holder v (some k)) ↔ ∀ a, holder v = some a → a = k := by
  constructor
  · intro pushed a held
    have listed := (BTree.mem_push index k a v v).2 (Or.inr ((exact a v).2 held))
    rw [pushed a v, Function.update_self] at listed
    exact (Option.some.inj listed).symm
  · intro alone a w
    rw [BTree.mem_push, exact a w]
    by_cases here : w = v
    · subst here
      rw [Function.update_self]
      constructor
      · rintro (⟨rfl, -⟩ | held)
        · rfl
        · rw [alone a held]
      · intro same
        exact Or.inl ⟨(Option.some.inj same).symm, rfl⟩
    · rw [Function.update_of_ne here]
      simp [here]

theorem Exact.retain (exact : Exact index holder) {k : κ} {v : ν} (held : holder v = some k) :
    Exact (retain index k v) (Function.update holder v none) := by
  intro a w
  rw [mem_retain, exact a w]
  by_cases here : w = v
  · subst here
    rw [Function.update_self, held]
    simp [eq_comm]
  · rw [Function.update_of_ne here]
    simp [here]

/-- An item that is struck off one list and entered in another is in step just when it was struck off its
holder's list, or stays with its holder. -/
theorem Exact.move_iff (exact : Exact index holder) {owner struck next : κ} {v : ν} (held : holder v = some owner) :
    Exact (BTree.push (OwnerIndex.retain index struck v) next v) (Function.update holder v (some next)) ↔
      struck = owner ∨ next = owner := by
  constructor
  · intro moved
    by_contra apart
    obtain ⟨elsewhere, away⟩ := not_or.1 apart
    have listed : v ∈ (BTree.push (OwnerIndex.retain index struck v) next v)[owner]?.getD [] := by
      rw [BTree.mem_push, mem_retain, exact owner v]
      exact Or.inr ⟨held, fun here => elsewhere here.1.symm⟩
    rw [moved owner v, Function.update_self] at listed
    exact away (Option.some.inj listed)
  · intro either a w
    rw [BTree.mem_push, mem_retain, exact a w]
    by_cases here : w = v
    · subst here
      rw [Function.update_self, held]
      constructor
      · rintro (⟨rfl, -⟩ | ⟨same, kept⟩)
        · rfl
        · obtain rfl := Option.some.inj same
          rcases either with rfl | rfl
          · exact absurd ⟨rfl, rfl⟩ kept
          · rfl
      · intro same
        exact Or.inl ⟨(Option.some.inj same).symm, rfl⟩
    · rw [Function.update_of_ne here]
      simp [here]

section Holders

/-! The holders of the items of a map, each of which names its owner. -/

variable {ι ω α : Type} [Ord ι] [Std.TransOrd ι] [Std.LawfulEqOrd ι] [DecidableEq ι]

theorem map_insert (items : BTreeMap ι ω) (owner : ω → α) (i : ι) (item : ω) :
    (fun j => (items.insert i item)[j]?.map owner) =
      Function.update (fun j => items[j]?.map owner) i (some (owner item)) := by
  funext j
  rw [BTree.getElem?_insert]
  by_cases here : i = j
  · subst here
    rw [if_pos rfl, Function.update_self, Option.map_some]
  · rw [if_neg here, Function.update_of_ne (Ne.symm here)]

theorem map_erase (items : BTreeMap ι ω) (owner : ω → α) (i : ι) :
    (fun j => (items.erase i)[j]?.map owner) = Function.update (fun j => items[j]?.map owner) i none := by
  funext j
  rw [BTree.getElem?_erase]
  by_cases here : i = j
  · subst here
    rw [if_pos rfl, Function.update_self, Option.map_none]
  · rw [if_neg here, Function.update_of_ne (Ne.symm here)]

end Holders

end OwnerIndex
