import Omniphi.Encoding

/-! Numbers written in big-endian bytes: reading them back, and their order as words. -/

namespace Omniphi

def bigEndian (n x : Nat) : Bytes :=
  (List.range n).map fun i => UInt8.ofNat (x >>> (8 * (n - 1 - i)))

/-- `from_be_bytes`, and the filling of an array from a slice of its length. -/
def ofBeBytes (w : Nat) (bytes : Bytes) : BitVec w :=
  BitVec.ofNat w (bytes.foldl (fun value byte => 256 * value + byte.toNat) 0)

section BigEndian

theorem beBytes_eq {n w : Nat} (x : BitVec w) : beBytes n x = bigEndian n x.toNat := rfl

theorem bigEndian_succ (n x : Nat) :
    bigEndian (n + 1) x = UInt8.ofNat (x / 2 ^ (8 * n)) :: bigEndian n x := by
  unfold bigEndian
  rw [List.range_succ_eq_map, List.map_cons, List.map_map, Nat.sub_zero, Nat.add_sub_cancel,
    Nat.shiftRight_eq_div_pow]
  congr 1
  apply List.map_congr_left
  intro i _
  have place : n + 1 - 1 - (i + 1) = n - 1 - i := by omega
  show UInt8.ofNat (x >>> (8 * (n + 1 - 1 - (i + 1)))) = _
  rw [place]

/-- One more byte splits the value into what that byte counts and the rest. -/
theorem mod_pow_succ (n x : Nat) :
    x % 2 ^ (8 * (n + 1)) = 2 ^ (8 * n) * (x / 2 ^ (8 * n) % 256) + x % 2 ^ (8 * n) := by
  have pow : 2 ^ (8 * (n + 1)) = 2 ^ (8 * n) * 256 := by rw [Nat.mul_succ, Nat.pow_add]
  rw [pow, Nat.mod_mul, Nat.add_comm]

theorem foldl_bigEndian (n x start : Nat) :
    (bigEndian n x).foldl (fun value byte => 256 * value + byte.toNat) start =
      2 ^ (8 * n) * start + x % 2 ^ (8 * n) := by
  induction n generalizing start with
  | zero => simp [bigEndian, Nat.mod_one]
  | succ n ih =>
      have pow : 2 ^ (8 * (n + 1)) = 2 ^ (8 * n) * 256 := by rw [Nat.mul_succ, Nat.pow_add]
      rw [bigEndian_succ, List.foldl_cons, ih, mod_pow_succ, UInt8.toNat_ofNat', pow]
      ring

@[simp] theorem ofBeBytes_beBytes {n w : Nat} (wide : w ≤ 8 * n) (x : BitVec w) :
    ofBeBytes w (beBytes n x) = x := by
  have small : x.toNat < 2 ^ (8 * n) := x.isLt.trans_le (Nat.pow_le_pow_right (by decide) wide)
  rw [ofBeBytes, beBytes_eq, foldl_bigEndian, Nat.mul_zero, Nat.zero_add, Nat.mod_eq_of_lt small,
    BitVec.ofNat_toNat, BitVec.setWidth_eq]

theorem compare_bigEndian {n x y : Nat} (less : x % 2 ^ (8 * n) < y % 2 ^ (8 * n)) :
    compare (bigEndian n x) (bigEndian n y) = .lt := by
  induction n with
  | zero =>
      rw [Nat.mul_zero, Nat.pow_zero, Nat.mod_one, Nat.mod_one] at less
      exact absurd less (Nat.lt_irrefl 0)
  | succ n ih =>
      rw [bigEndian_succ, bigEndian_succ]
      show List.compareLex compare (_ :: bigEndian n x) (_ :: bigEndian n y) = .lt
      rw [List.compareLex_cons_cons, Ordering.then_eq_lt]
      rw [mod_pow_succ, mod_pow_succ] at less
      have low := Nat.mod_lt x (Nat.two_pow_pos (8 * n))
      have low' := Nat.mod_lt y (Nat.two_pow_pos (8 * n))
      -- The leading bytes decide, unless they are the same.
      rcases Nat.lt_trichotomy (x / 2 ^ (8 * n) % 256) (y / 2 ^ (8 * n) % 256) with lt | same | gt
      · left
        apply Std.compare_eq_lt.2
        rwa [UInt8.lt_iff_toNat_lt, UInt8.toNat_ofNat', UInt8.toNat_ofNat']
      · right
        rw [same] at less
        have bytes : UInt8.ofNat (x / 2 ^ (8 * n)) = UInt8.ofNat (y / 2 ^ (8 * n)) := by
          apply UInt8.toNat_inj.1
          rwa [UInt8.toNat_ofNat', UInt8.toNat_ofNat']
        exact ⟨by rw [bytes, Std.ReflOrd.compare_self], ih (by omega)⟩
      · have step := Nat.mul_le_mul_left (2 ^ (8 * n)) (Nat.succ_le_of_lt gt)
        rw [Nat.mul_succ] at step
        omega

/-- The words are ordered as the numbers are. -/
theorem compare_beBytes {n w : Nat} (wide : w ≤ 8 * n) {x y : BitVec w} (less : x < y) :
    compare (beBytes n x) (beBytes n y) = .lt := by
  rw [beBytes_eq, beBytes_eq]
  apply compare_bigEndian
  have pow : 2 ^ w ≤ 2 ^ (8 * n) := Nat.pow_le_pow_right (by decide) wide
  rwa [Nat.mod_eq_of_lt (x.isLt.trans_le pow), Nat.mod_eq_of_lt (y.isLt.trans_le pow), ← BitVec.lt_def]

end BigEndian

end Omniphi
