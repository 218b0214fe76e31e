import Mathlib

/-! Maps kept as lists of entries in ascending order of their keys, under a comparison that need not be an
order. An entry is looked for from the left, as in one leaf of a search tree. -/

namespace SortedMap

variable {κ ν : Type} (cmp : κ → κ → Ordering)

/-- A key that is already there keeps its place and gets the new value. -/
def insert (key : κ) (value : ν) : List (κ × ν) → List (κ × ν)
  | [] => [(key, value)]
  | entry :: rest =>
      match cmp key entry.1 with
      | .lt => (key, value) :: entry :: rest
      | .eq => (entry.1, value) :: rest
      | .gt => entry :: insert key value rest

def ofList (entries : List (κ × ν)) : List (κ × ν) :=
  entries.foldl (fun map entry => insert cmp entry.1 entry.2 map) []

/-- The comparison is a strict order on the keys that occur. -/
structure OrderOn (occurs : κ → Prop) : Prop where
  swap : ∀ a b, occurs a → occurs b → cmp b a = (cmp a b).swap
  trans : ∀ a b c, occurs a → occurs b → occurs c → cmp a b = .lt → cmp b c = .lt → cmp a c = .lt

def Ascending (map : List (κ × ν)) : Prop := map.Pairwise fun entry later => cmp entry.1 later.1 = .lt

variable {cmp} {occurs : κ → Prop} {key : κ} {value : ν} {map entries : List (κ × ν)}

theorem mem_insert {entry : κ × ν} (member : entry ∈ insert cmp key value map) :
    entry = (key, value) ∨ entry ∈ map ∨ ∃ held ∈ map, entry = (held.1, value) := by
  induction map with
  | nil => exact .inl (List.mem_singleton.1 member)
  | cons head rest ih =>
      unfold insert at member
      cases compared : cmp key head.1 with
      | lt =>
          rw [compared] at member
          rcases List.mem_cons.1 member with rfl | member
          · exact .inl rfl
          · exact .inr (.inl member)
      | eq =>
          rw [compared] at member
          rcases List.mem_cons.1 member with rfl | member
          · exact .inr (.inr ⟨head, List.mem_cons_self, rfl⟩)
          · exact .inr (.inl (List.mem_cons_of_mem _ member))
      | gt =>
          rw [compared] at member
          rcases List.mem_cons.1 member with rfl | member
          · exact .inr (.inl List.mem_cons_self)
          · rcases ih member with new | old | ⟨held, listed, rfl⟩
            · exact .inl new
            · exact .inr (.inl (List.mem_cons_of_mem _ old))
            · exact .inr (.inr ⟨held, List.mem_cons_of_mem _ listed, rfl⟩)

theorem occurs_insert (new : occurs key) (old : ∀ entry ∈ map, occurs entry.1) :
    ∀ entry ∈ insert cmp key value map, occurs entry.1 := by
  intro entry member
  rcases mem_insert member with rfl | kept | ⟨held, listed, rfl⟩
  · exact new
  · exact old entry kept
  · exact old held listed

theorem ascending_insert (order : OrderOn cmp occurs) (new : occurs key)
    (old : ∀ entry ∈ map, occurs entry.1) (ascending : Ascending cmp map) :
    Ascending cmp (insert cmp key value map) := by
  induction map with
  | nil => exact List.pairwise_singleton _ _
  | cons head rest ih =>
      have headOccurs := old head List.mem_cons_self
      have restOccurs : ∀ entry ∈ rest, occurs entry.1 := fun entry member =>
        old entry (List.mem_cons_of_mem _ member)
      obtain ⟨above, restAscending⟩ := List.pairwise_cons.1 ascending
      unfold insert
      cases compared : cmp key head.1 with
      | lt =>
          refine List.pairwise_cons.2 ⟨?_, ascending⟩
          intro entry member
          rcases List.mem_cons.1 member with rfl | member
          · exact compared
          · exact order.trans _ _ _ new headOccurs (restOccurs entry member) compared (above entry member)
      | eq => exact List.pairwise_cons.2 ⟨above, restAscending⟩
      | gt =>
          refine List.pairwise_cons.2 ⟨?_, ih restOccurs restAscending⟩
          intro entry member
          rcases mem_insert member with rfl | member | ⟨held, listed, rfl⟩
          · rw [order.swap key head.1 new headOccurs, compared]
            rfl
          · exact above entry member
          · exact above held listed

theorem perm_insert (fresh : ∀ entry ∈ map, cmp key entry.1 ≠ .eq) :
    (insert cmp key value map).Perm ((key, value) :: map) := by
  induction map with
  | nil => exact List.Perm.refl _
  | cons head rest ih =>
      unfold insert
      cases compared : cmp key head.1 with
      | lt => exact List.Perm.refl _
      | eq => exact absurd compared (fresh head List.mem_cons_self)
      | gt =>
          have moved := ih fun entry member => fresh entry (List.mem_cons_of_mem _ member)
          exact (moved.cons head).trans (List.Perm.swap _ _ _)

theorem ofList_append (entries : List (κ × ν)) (entry : κ × ν) :
    ofList cmp (entries ++ [entry]) = insert cmp entry.1 entry.2 (ofList cmp entries) := by
  rw [ofList, List.foldl_append]
  rfl

theorem occurs_ofList (all : ∀ entry ∈ entries, occurs entry.1) :
    ∀ entry ∈ ofList cmp entries, occurs entry.1 := by
  induction entries using List.reverseRecOn with
  | nil => intro entry member; cases member
  | append_singleton entries last ih =>
      rw [ofList_append]
      apply occurs_insert
      · exact all last (List.mem_append_right _ (List.mem_singleton_self last))
      · exact ih fun entry member => all entry (List.mem_append_left _ member)

theorem ascending_ofList (order : OrderOn cmp occurs) (all : ∀ entry ∈ entries, occurs entry.1) :
    Ascending cmp (ofList cmp entries) := by
  induction entries using List.reverseRecOn with
  | nil => exact List.Pairwise.nil
  | append_singleton entries last ih =>
      have earlier : ∀ entry ∈ entries, occurs entry.1 := fun entry member =>
        all entry (List.mem_append_left _ member)
      rw [ofList_append]
      exact ascending_insert order (all last (List.mem_append_right _ (List.mem_singleton_self last)))
        (occurs_ofList earlier) (ih earlier)

theorem perm_ofList (distinct : entries.Pairwise fun entry later => cmp later.1 entry.1 ≠ .eq) :
    (ofList cmp entries).Perm entries := by
  induction entries using List.reverseRecOn with
  | nil => exact List.Perm.refl _
  | append_singleton entries last ih =>
      obtain ⟨earlier, -, apart⟩ := List.pairwise_append.1 distinct
      have sorted := ih earlier
      rw [ofList_append]
      refine (perm_insert ?_).trans ?_
      · intro entry member
        exact apart entry (sorted.mem_iff.1 member) last (List.mem_singleton_self last)
      · exact (sorted.cons _).trans (List.perm_append_singleton _ _).symm

/-- Two maps with the same entries are one list. -/
theorem Ascending.eq_of_perm (order : OrderOn cmp occurs) {other : List (κ × ν)}
    (all : ∀ entry ∈ map, occurs entry.1) (ascending : Ascending cmp map)
    (ascending' : Ascending cmp other) (perm : map.Perm other) : map = other := by
  refine perm.eq_of_pairwise ?_ ascending ascending'
  intro entry later member member' below above
  have back := order.swap entry.1 later.1 (all entry member) (all later (perm.mem_iff.2 member'))
  rw [below, above] at back
  cases back

end SortedMap
