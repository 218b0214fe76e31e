import Omniphi.Text

/-! Bytes written in hex are read back. -/

namespace Omniphi

theorem hexDigit_digitChar {digit : Nat} (small : digit < 16) : hexDigit (Nat.digitChar digit) = some digit := by
  revert digit
  decide

theorem hexDecodeChars_digits (bytes : Bytes) :
    hexDecodeChars (bytes.flatMap fun byte =>
      [Nat.digitChar (byte.toNat / 16), Nat.digitChar (byte.toNat % 16)]) = some bytes := by
  induction bytes with
  | nil => rfl
  | cons byte bytes ih =>
      have bound : byte.toNat < 256 := byte.toNat_lt
      have high := @hexDigit_digitChar (byte.toNat / 16) (by omega)
      have low := @hexDigit_digitChar (byte.toNat % 16) (by omega)
      have whole : UInt8.ofNat (16 * (byte.toNat / 16) + byte.toNat % 16) = byte := by
        rw [Nat.div_add_mod, UInt8.ofNat_toNat]
      simp only [List.flatMap_cons, List.cons_append, List.nil_append, hexDecodeChars, high, low, ih,
        Option.bind_eq_bind, Option.bind_some, whole]
      rfl

@[simp] theorem hexDecode_hexEncode (bytes : Bytes) : hexDecode (hexEncode bytes) = some bytes := by
  rw [hexDecode, hexEncode, String.toList_ofList, hexDecodeChars_digits]

theorem hexEncode_injective : Function.Injective hexEncode := by
  intro first second same
  have read := hexDecode_hexEncode first
  rw [same, hexDecode_hexEncode] at read
  exact (Option.some.inj read).symm

end Omniphi
