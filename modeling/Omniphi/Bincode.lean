import Omniphi.Encoding

/-! The format of `bincode`: fixed widths, little endian, a length of eight bytes before what is counted. -/

namespace Omniphi.Bincode

variable {α : Type}

def text (value : String) : Bytes :=
  leBytes 8 (BitVec.ofNat 64 (strBytes value).length) ++ strBytes value

def optional (encode : α → Bytes) : Option α → Bytes
  | none => [0]
  | some value => 1 :: encode value

def sequence (encode : α → Bytes) (values : List α) : Bytes :=
  leBytes 8 (BitVec.ofNat 64 values.length) ++ values.flatMap encode

def variant (index : Nat) : Bytes := leBytes 4 (BitVec.ofNat 32 index)

def flag (value : Bool) : Bytes := [if value then 1 else 0]

section Codes

open PrefixCode

variable {encode : α → Bytes}

theorem optional_code (code : IsPrefixCode encode) : IsPrefixCode (optional encode) := by
  intro a b u v same
  cases a with
  | none =>
      cases b with
      | none => exact ⟨rfl, (List.cons.inj same).2⟩
      | some _ => exact absurd (List.cons.inj same).1 (by decide)
  | some value =>
      cases b with
      | none => exact absurd (List.cons.inj same).1 (by decide)
      | some other =>
          obtain ⟨rfl, rest⟩ := code (List.cons.inj same).2
          exact ⟨rfl, rest⟩

theorem variant_code {index : α → Nat} (injective : Function.Injective index)
    (small : ∀ a, index a < 2 ^ 32) : IsPrefixCode fun a => variant (index a) := by
  intro a b u v same
  obtain ⟨indices, rest⟩ := leBytes_code (by decide) same
  have values := congrArg BitVec.toNat indices
  rw [BitVec.toNat_ofNat, BitVec.toNat_ofNat, Nat.mod_eq_of_lt (small a), Nat.mod_eq_of_lt (small b)]
    at values
  exact ⟨injective values, rest⟩

/-- Sequences whose length fits its prefix. -/
theorem sequence_code (code : IsPrefixCode encode) :
    IsPrefixCode fun values : {values : List α // values.length < 2 ^ 64} => sequence encode values.val := by
  rintro ⟨a, smallA⟩ ⟨b, smallB⟩ u v same
  unfold sequence at same
  simp only [List.append_assoc] at same
  obtain ⟨lengths, same⟩ := leBytes_code (by decide) same
  have lengths := congrArg BitVec.toNat lengths
  rw [BitVec.toNat_ofNat, BitVec.toNat_ofNat, Nat.mod_eq_of_lt smallA, Nat.mod_eq_of_lt smallB] at lengths
  obtain ⟨rfl, rest⟩ := code.flatMap lengths same
  exact ⟨rfl, rest⟩

theorem byte_code : IsPrefixCode fun byte : UInt8 => [byte] := by
  intro a b u v same
  exact List.cons.inj same

end Codes

end Omniphi.Bincode
