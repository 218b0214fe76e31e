import Omniphi.Basic
import Omniphi.Lib.PrefixCode

/-! The byte encodings are codes: numbers of one width give words of one length, and the UTF-8 bytes of
a text never contain `0xff`. -/

namespace Omniphi

open PrefixCode

/-- No two of the inputs share a digest. -/
def CollisionFree (sha256 : Sha256) (inputs : List Bytes) : Prop :=
  ∀ a ∈ inputs, ∀ b ∈ inputs, sha256 a = sha256 b → a = b

@[simp] theorem length_beBytes (n : Nat) {w : Nat} (x : BitVec w) : (beBytes n x).length = n := by
  simp [beBytes]

@[simp] theorem length_leBytes (n : Nat) {w : Nat} (x : BitVec w) : (leBytes n x).length = n := by
  simp [leBytes]

theorem beBytes_injective {n w : Nat} (wide : w ≤ 8 * n) :
    Function.Injective (beBytes n : BitVec w → Bytes) := by
  intro x y same
  apply BitVec.eq_of_toNat_eq
  apply Nat.eq_of_testBit_eq
  intro j
  by_cases inside : j < 8 * n
  · -- Bit `j` lies in byte `j / 8`, counted from the low end.
    have place : n - 1 - j / 8 < n := by omega
    have byte : n - 1 - (n - 1 - j / 8) = j / 8 := by omega
    have bytes := congrArg (fun word : Bytes => word[n - 1 - j / 8]?) same
    simp only [beBytes, List.getElem?_map, List.getElem?_range place, Option.map_some,
      Option.some.injEq, byte] at bytes
    have values := congrArg UInt8.toNat bytes
    simp only [UInt8.toNat_ofNat'] at values
    have bits := congrArg (fun value => value.testBit (j % 8)) values
    have low : j % 8 < 8 := Nat.mod_lt _ (by omega)
    simpa only [Nat.testBit_mod_two_pow, low, decide_true, Bool.true_and, Nat.testBit_shiftRight,
      Nat.div_add_mod] using bits
  · have high : 2 ^ w ≤ 2 ^ j := Nat.pow_le_pow_right (by omega) (by omega)
    rw [Nat.testBit_lt_two_pow (x.isLt.trans_le high), Nat.testBit_lt_two_pow (y.isLt.trans_le high)]

theorem beBytes_code {n w : Nat} (wide : w ≤ 8 * n) : IsPrefixCode (beBytes n : BitVec w → Bytes) :=
  of_length (beBytes_injective wide) (length_beBytes n)

theorem leBytes_code {n w : Nat} (wide : w ≤ 8 * n) : IsPrefixCode (leBytes n : BitVec w → Bytes) :=
  of_length (fun _ _ same => beBytes_injective wide (List.reverse_injective same)) (length_leBytes n)

section Text

theorem toList_loop (bytes : ByteArray) (i : Nat) (acc : Bytes) :
    ByteArray.toList.loop bytes i acc = acc.reverse ++ bytes.data.toList.drop i := by
  induction i, acc using ByteArray.toList.loop.induct bytes with
  | case1 i acc inside ih =>
      rw [ByteArray.toList.loop, if_pos inside, ih]
      have here : i < bytes.data.toList.length := inside
      rw [List.drop_eq_getElem_cons here, List.reverse_cons, List.append_assoc]
      simp [ByteArray.get!, getElem!_pos, inside]
  | case2 i acc outside =>
      rw [ByteArray.toList.loop, if_neg outside, List.drop_eq_nil_of_le (not_lt.1 outside),
        List.append_nil]

theorem strBytes_eq (s : String) : strBytes s = s.toByteArray.data.toList := by
  rw [strBytes, ByteArray.toList, toList_loop]
  rfl

theorem strBytes_injective : Function.Injective strBytes := by
  intro s t same
  rw [strBytes_eq, strBytes_eq] at same
  apply String.toByteArray_inj.1
  exact ByteArray.ext (Array.toList_inj.1 same)

theorem not_mem_strBytes (s : String) : (0xff : UInt8) ∉ strBytes s := by
  obtain ⟨chars, encoded⟩ := s.isValidUTF8
  rw [strBytes_eq, encoded, List.utf8Encode, List.toList_data_toByteArray, List.mem_flatMap]
  rintro ⟨char, -, member⟩
  simp only [String.utf8EncodeChar] at member
  have small : ∀ value : Nat, value < 255 → (0xff : UInt8) ≠ UInt8.ofNat value := by
    intro value bound same
    have := congrArg UInt8.toNat same
    rw [UInt8.toNat_ofNat'] at this
    simp at this
    omega
  split at member
  · simp only [List.mem_singleton] at member
    exact small _ (by omega) member
  split at member
  · simp only [List.mem_cons, List.not_mem_nil, or_false] at member
    rcases member with first | second
    · exact small _ (by omega) first
    · exact small _ (by omega) second
  split at member
  · simp only [List.mem_cons, List.not_mem_nil, or_false] at member
    rcases member with first | second | third
    · exact small _ (by omega) first
    · exact small _ (by omega) second
    · exact small _ (by omega) third
  · simp only [List.mem_cons, List.not_mem_nil, or_false] at member
    rcases member with first | second | third | fourth
    · exact small _ (by omega) first
    · exact small _ (by omega) second
    · exact small _ (by omega) third
    · exact small _ (by omega) fourth

end Text

end Omniphi
