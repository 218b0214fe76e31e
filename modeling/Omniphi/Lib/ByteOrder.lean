import Mathlib

/-! The order a byte-keyed store gives to the keys it encodes. -/

namespace ByteOrder

variable {κ : Type} (bytes : κ → List UInt8)

@[reducible] def ord : Ord κ := ⟨fun a b => compare (bytes a) (bytes b)⟩

theorem trans : @Std.TransOrd κ (ord bytes) :=
  @Std.TransCmp.mk κ (fun a b => compare (bytes a) (bytes b))
    ⟨fun {_ _} => Std.OrientedCmp.eq_swap⟩ fun {_ _ _} => Std.TransCmp.isLE_trans

variable {bytes}

theorem lawful (injective : Function.Injective bytes) : @Std.LawfulEqOrd κ (ord bytes) :=
  @Std.LawfulEqCmp.mk κ (fun a b => compare (bytes a) (bytes b))
    ⟨fun {_} => Std.ReflCmp.compare_self⟩ fun {_ _} same => injective (Std.LawfulEqCmp.eq_of_compare same)

end ByteOrder
