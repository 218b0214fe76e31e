import Omniphi.Lib.BTree
import Omniphi.Lib.MachineInt

/-! The byte strings and machine integers of the Rust sources. A `[u8; 32]` is the 256-bit number
its bytes spell in big-endian order, so the numeric order is the lexicographic order of the bytes. -/

namespace Omniphi

abbrev U8 := BitVec 8
abbrev U16 := BitVec 16
abbrev U32 := BitVec 32
abbrev U64 := BitVec 64
abbrev U128 := BitVec 128

/-- Signed 128-bit integers in two's complement, so that the casts between `u128` and `i128` keep
the bits. -/
abbrev I128 := BitVec 128

abbrev Bytes32 := BitVec 256
abbrev Bytes64 := BitVec 512
abbrev Bytes := List UInt8

instance : Std.TransOrd Bytes32 := inferInstance

instance : Std.LawfulEqOrd Bytes32 := inferInstance

instance : LawfulBEq Bytes32 := inferInstance

instance : Std.TransOrd U64 := inferInstance

instance : Std.LawfulEqOrd U64 := inferInstance

instance : Std.TransOrd U32 := inferInstance

instance : Std.LawfulEqOrd U32 := inferInstance

instance transOrdString : Std.TransOrd String := inferInstance

instance lawfulEqOrdString : Std.LawfulEqOrd String := inferInstance

def beBytes (n : Nat) {w : Nat} (x : BitVec w) : Bytes :=
  (List.range n).map fun i => UInt8.ofNat (x.toNat >>> (8 * (n - 1 - i)))

def leBytes (n : Nat) {w : Nat} (x : BitVec w) : Bytes :=
  (beBytes n x).reverse

def strBytes (s : String) : Bytes := s.toUTF8.toList

abbrev Sha256 := Bytes → Bytes32

end Omniphi
