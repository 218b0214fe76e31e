import Omniphi.Basic

/-! The texts in which plan metadata carries bytes and numbers: the `hex` crate's encoding and the
decimal notation of the standard library. -/

namespace Omniphi

def hexDigit (c : Char) : Option Nat :=
  if '0' ≤ c ∧ c ≤ '9' then some (c.toNat - '0'.toNat)
  else if 'a' ≤ c ∧ c ≤ 'f' then some (c.toNat - 'a'.toNat + 10)
  else if 'A' ≤ c ∧ c ≤ 'F' then some (c.toNat - 'A'.toNat + 10)
  else none

def hexDecodeChars : List Char → Option Bytes
  | [] => some []
  | [_] => none
  | high :: low :: rest => do
      let h ← hexDigit high
      let l ← hexDigit low
      return UInt8.ofNat (16 * h + l) :: (← hexDecodeChars rest)

def hexDecode (text : String) : Option Bytes := hexDecodeChars text.toList

def hexEncode (bytes : Bytes) : String :=
  String.ofList (bytes.flatMap fun byte =>
    [Nat.digitChar (byte.toNat / 16), Nat.digitChar (byte.toNat % 16)])

def bytes32OfList (bytes : Bytes) : Bytes32 :=
  bytes.foldl (fun value byte => (value <<< 8) ||| byte.toBitVec.setWidth 256) 0

def decimalDigits (digits : List Char) : Option Nat :=
  digits.foldl (fun value c => do
    let n ← value
    if '0' ≤ c ∧ c ≤ '9' then some (10 * n + (c.toNat - '0'.toNat)) else none) (some 0)

/-- `str::parse::<i128>`. The value only grows from digit to digit, so the source's check for overflow
at each of them fails just when the whole number is out of range. -/
def parseI128 (text : String) : Option I128 :=
  match text.toList with
  | [] | ['+'] | ['-'] => none
  | '-' :: digits => do
      let n ← decimalDigits digits
      if n ≤ 2 ^ 127 then some (-BitVec.ofNat 128 n) else none
  | '+' :: digits => do
      let n ← decimalDigits digits
      if n < 2 ^ 127 then some (BitVec.ofNat 128 n) else none
  | digits => do
      let n ← decimalDigits digits
      if n < 2 ^ 127 then some (BitVec.ofNat 128 n) else none

section Decimal

theorem foldl_decimal {digits : List Char} (numeric : ∀ c ∈ digits, c.isDigit = true) (start : Nat) :
    digits.foldl (fun value c => do
      let n ← value
      if '0' ≤ c ∧ c ≤ '9' then some (10 * n + (c.toNat - '0'.toNat)) else none) (some start) =
      some (Nat.ofDigitChars 10 digits start) := by
  induction digits generalizing start with
  | nil => rfl
  | cons c digits ih =>
      have digit := numeric c List.mem_cons_self
      have range : '0' ≤ c ∧ c ≤ '9' := by
        rw [Char.isDigit, Bool.and_eq_true, decide_eq_true_eq, decide_eq_true_eq] at digit
        exact digit
      rw [List.foldl_cons, Nat.ofDigitChars_cons, ← ih fun c member => numeric c (List.mem_cons_of_mem _ member)]
      simp [range]

theorem isDigit_of_mem_toDigits {n : Nat} {c : Char} (member : c ∈ Nat.toDigits 10 n) :
    c.isDigit = true :=
  Nat.isDigit_of_mem_toDigits (by decide) (by decide) member

theorem decimalDigits_toDigits (n : Nat) : decimalDigits (Nat.toDigits 10 n) = some n := by
  rw [decimalDigits, foldl_decimal fun _ => isDigit_of_mem_toDigits, Nat.ofDigitChars_ten_toDigits]

theorem parseI128_digits {text : String} {n : Nat} (written : text.toList = Nat.toDigits 10 n)
    (small : n < 2 ^ 127) : parseI128 text = some (BitVec.ofNat 128 n) := by
  have parsed := decimalDigits_toDigits n
  have digit : ∀ c ∈ text.toList, c.isDigit = true := by
    rw [written]
    exact fun _ => isDigit_of_mem_toDigits
  unfold parseI128
  rw [← written] at parsed
  split
  · rename_i empty
    exact absurd (written.symm.trans empty) Nat.toDigits_ne_nil
  · rename_i sign
    exact absurd (digit '+' (sign ▸ List.mem_cons_self)) (by decide)
  · rename_i sign
    exact absurd (digit '-' (sign ▸ List.mem_cons_self)) (by decide)
  · rename_i sign
    exact absurd (digit '-' (sign ▸ List.mem_cons_self)) (by decide)
  · rename_i sign
    exact absurd (digit '+' (sign ▸ List.mem_cons_self)) (by decide)
  · rw [parsed]
    exact if_pos small

theorem parseI128_negative {text : String} {n : Nat} (written : text.toList = '-' :: Nat.toDigits 10 n)
    (small : n ≤ 2 ^ 127) : parseI128 text = some (-BitVec.ofNat 128 n) := by
  have parsed := decimalDigits_toDigits n
  unfold parseI128
  rw [written]
  obtain ⟨c, digits, same⟩ := List.exists_cons_of_ne_nil (@Nat.toDigits_ne_nil n 10)
  rw [same] at parsed ⊢
  simp only [parsed]
  exact if_pos small

theorem parseI128_toString (x : I128) : parseI128 (toString x.toInt) = some x := by
  have upper : x.toInt < 2 ^ 127 := BitVec.toInt_lt
  have lower : -2 ^ 127 ≤ x.toInt := BitVec.le_toInt x
  have back : BitVec.ofInt 128 x.toInt = x := BitVec.ofInt_toInt
  cases value : x.toInt with
  | ofNat n =>
      rw [value] at upper back
      rw [← back]
      apply parseI128_digits
      · show (Nat.repr n).toList = _
        exact Nat.toList_repr
      · exact Int.ofNat_lt.1 upper
  | negSucc m =>
      rw [value] at lower back
      rw [← back]
      have written : (toString (Int.negSucc m)).toList = '-' :: Nat.toDigits 10 (m + 1) := by
        show ("-" ++ Nat.repr (m + 1)).toList = _
        rw [String.toList_append, Nat.toList_repr]
        rfl
      have bits : BitVec.ofInt 128 (Int.negSucc m) = -BitVec.ofNat 128 (m + 1) := by
        rw [Int.negSucc_eq, BitVec.ofInt_neg, ← Int.natCast_succ, BitVec.ofInt_natCast]
      rw [parseI128_negative written (by omega), bits]

end Decimal

end Omniphi
