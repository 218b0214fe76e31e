import Mathlib

/-! Quorums: what two of them share, and those among `3f + 1` members of which at least `2f + 1` are
honest. -/

theorem List.countP_add_countP_le {α : Type*} (p q : α → Bool) (members : List α) :
    members.countP p + members.countP q ≤ members.length + members.countP fun a => p a && q a := by
  induction members with
  | nil => simp
  | cons a members ih =>
      simp only [List.countP_cons, List.length_cons]
      cases p a <;> cases q a <;> simp <;> omega

structure ByzantineQuorum (ι : Type*) [DecidableEq ι] where
  f : Nat
  members : Finset ι
  honest : Finset ι
  size : members.card = 3 * f + 1
  honest_subset : honest ⊆ members
  honest_many : 2 * f + 1 ≤ honest.card

namespace ByzantineQuorum

variable {ι : Type*} [DecidableEq ι] (system : ByzantineQuorum ι)

/-- A quorum of members of which every honest one has `voted`. The others may have said anything. -/
def Certified (voted : ι → Prop) : Prop :=
  ∃ quorum ⊆ system.members, 2 * system.f + 1 ≤ quorum.card ∧
    ∀ i ∈ quorum, i ∈ system.honest → voted i

variable {system} {voted other : ι → Prop}

theorem Certified.mono (certified : system.Certified voted) (weaker : ∀ i, voted i → other i) :
    system.Certified other := by
  obtain ⟨quorum, members, large, backs⟩ := certified
  exact ⟨quorum, members, large, fun i member honest => weaker i (backs i member honest)⟩

theorem Certified.common (first : system.Certified voted) (second : system.Certified other) :
    ∃ i ∈ system.honest, voted i ∧ other i := by
  obtain ⟨one, oneMembers, oneLarge, oneBacks⟩ := first
  obtain ⟨two, twoMembers, twoLarge, twoBacks⟩ := second
  have overlap : system.f + 1 ≤ (one ∩ two).card := by
    have total := Finset.card_union_add_card_inter one two
    have bound := Finset.card_le_card (Finset.union_subset oneMembers twoMembers)
    rw [system.size] at bound
    omega
  have faulty : (system.members \ system.honest).card ≤ system.f := by
    have total := Finset.card_sdiff_add_card_eq_card system.honest_subset
    have many := system.honest_many
    rw [system.size] at total
    omega
  obtain ⟨i, shared, notFaulty⟩ : ∃ i ∈ one ∩ two, i ∉ system.members \ system.honest := by
    by_contra allFaulty
    push Not at allFaulty
    have bound := Finset.card_le_card (fun i member => allFaulty i member :
      one ∩ two ⊆ system.members \ system.honest)
    omega
  rw [Finset.mem_inter] at shared
  have honest : i ∈ system.honest := by
    by_contra dishonest
    exact notFaulty (Finset.mem_sdiff.2 ⟨oneMembers shared.1, dishonest⟩)
  exact ⟨i, honest, oneBacks i shared.1 honest, twoBacks i shared.2 honest⟩

theorem Certified.honest_voter (certified : system.Certified voted) : ∃ i ∈ system.honest, voted i := by
  obtain ⟨i, honest, votes, -⟩ := certified.common certified
  exact ⟨i, honest, votes⟩

end ByzantineQuorum
