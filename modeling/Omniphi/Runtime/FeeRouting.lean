import Omniphi.Runtime.FeeExecutor

/-! The routing of a sequencing fee: what the destinations get together, and how far each is from its share. -/

namespace Omniphi.Runtime

open MachineInt

namespace FeeRoutingParams

def total (params : FeeRoutingParams) : U64 :=
  params.burnBps + params.sequencerRewardBps + params.sharedSecurityBps + params.treasuryBps

/-- The additions are unchecked: in a release build they wrap. -/
def validate (params : FeeRoutingParams) : Except String Unit :=
  if params.total ≠ 10000 then
    .error ("routing splits must sum to 10000, got " ++ toString params.total.toNat)
  else .ok ()

def wholeTotal (params : FeeRoutingParams) : Nat :=
  params.burnBps.toNat + params.sequencerRewardBps.toNat + params.sharedSecurityBps.toNat +
    params.treasuryBps.toNat

theorem toNat_total (params : FeeRoutingParams) : params.total.toNat = params.wholeTotal % 2 ^ 64 := by
  simp only [total, wholeTotal, BitVec.toNat_add]
  omega

theorem total_of_validate {params : FeeRoutingParams} (accepted : params.validate = .ok ()) :
    params.wholeTotal % 2 ^ 64 = 10000 := by
  unfold validate at accepted
  split at accepted
  · cases accepted
  · rename_i whole
    rw [← toNat_total, not_not.1 whole]
    rfl

end FeeRoutingParams

namespace FeeRouting

/-- In units of a basis point, a part is at most four whole units away from its share. -/
def Near (amount bps part : U64) : Prop :=
  amount.toNat * bps.toNat ≤ 10000 * (part.toNat + 4) ∧ 10000 * part.toNat ≤ amount.toNat * bps.toNat + 40000

/-- The destinations get the fee, and each of them its share up to rounding. -/
structure RoutesWhole (amount : U64) (params : FeeRoutingParams) (routed : RoutedFees) : Prop where
  conserved : routed.burned.toNat + routed.sequencerReward.toNat + routed.sharedSecurity.toNat +
    routed.treasury.toNat = amount.toNat
  burned : Near amount params.burnBps routed.burned
  sequencerReward : Near amount params.sequencerRewardBps routed.sequencerReward
  sharedSecurity : Near amount params.sharedSecurityBps routed.sharedSecurity
  treasury : Near amount params.treasuryBps routed.treasury

variable {amount : U64} {params : FeeRoutingParams}

theorem toNat_share {bps : U64} (within : bps.toNat ≤ 10000) :
    (share amount bps).toNat = amount.toNat * bps.toNat / 10000 := by
  have wide : amount.toNat * bps.toNat < 2 ^ 128 := by
    have product := Nat.mul_lt_mul'' amount.isLt bps.isLt
    omega
  have product : (amount.setWidth 128 * bps.setWidth 128).toNat = amount.toNat * bps.toNat := by
    rw [BitVec.toNat_mul, BitVec.toNat_setWidth_of_le (by decide), BitVec.toNat_setWidth_of_le (by decide),
      Nat.mod_eq_of_lt wide]
  have bounded : amount.toNat * bps.toNat ≤ amount.toNat * 10000 := Nat.mul_le_mul_left _ within
  have small := amount.isLt
  rw [share, BitVec.toNat_setWidth, BitVec.toNat_udiv, product]
  apply Nat.mod_eq_of_lt
  show amount.toNat * bps.toNat / 10000 < 2 ^ 64
  omega

theorem routesWhole_zero : RoutesWhole 0 params (route 0 params) := by
  constructor <;> simp [route, Near]

theorem routesWhole_of_total (whole : params.wholeTotal = 10000) :
    RoutesWhole amount params (route amount params) := by
  by_cases zero : amount = 0
  · rw [zero]
    exact routesWhole_zero
  · unfold FeeRoutingParams.wholeTotal at whole
    have shares : amount.toNat * params.burnBps.toNat + amount.toNat * params.sequencerRewardBps.toNat +
        amount.toNat * params.sharedSecurityBps.toNat + amount.toNat * params.treasuryBps.toNat =
          amount.toNat * 10000 := by
      rw [← Nat.mul_add, ← Nat.mul_add, ← Nat.mul_add, whole]
    have burn := @toNat_share amount params.burnBps (by omega)
    have sequencer := @toNat_share amount params.sequencerRewardBps (by omega)
    have security := @toNat_share amount params.sharedSecurityBps (by omega)
    have treasury := @toNat_share amount params.treasuryBps (by omega)
    have small := amount.isLt
    unfold route
    rw [if_neg zero]
    constructor <;>
      simp only [Near, toNat_saturatingAdd, toNat_saturatingSub, burn, sequencer, security, treasury] <;>
      omega

theorem total_of_routesWhole (some : amount ≠ 0) {routed : RoutedFees}
    (routes : RoutesWhole amount params routed) : params.wholeTotal < 2 ^ 64 := by
  obtain ⟨conserved, ⟨burned, -⟩, ⟨sequencer, -⟩, ⟨security, -⟩, ⟨treasury, -⟩⟩ := routes
  have positive : 0 < amount.toNat := 
    Nat.pos_of_ne_zero fun zero => some (BitVec.eq_of_toNat_eq zero)
  have together : amount.toNat * params.wholeTotal ≤ 10000 * (amount.toNat + 16) := by
    rw [FeeRoutingParams.wholeTotal, Nat.mul_add, Nat.mul_add, Nat.mul_add]
    omega
  by_contra above
  have product := Nat.mul_le_mul_left amount.toNat (Nat.not_lt.1 above)
  omega

/-- An accepted configuration routes the fee whole exactly if its splits add up without wrapping, or if there
is nothing to route. -/
theorem routes_whole_iff (accepted : params.validate = .ok ()) :
    RoutesWhole amount params (route amount params) ↔ amount = 0 ∨ params.wholeTotal = 10000 := by
  constructor
  · intro routes
    by_cases zero : amount = 0
    · exact .inl zero
    · have whole := FeeRoutingParams.total_of_validate accepted
      rw [Nat.mod_eq_of_lt (total_of_routesWhole zero routes)] at whole
      exact .inr whole
  · rintro (rfl | whole)
    · exact routesWhole_zero
    · exact routesWhole_of_total whole

def defaultRouting : FeeRoutingParams where
  burnBps := 2000
  sequencerRewardBps := 5000
  sharedSecurityBps := 2000
  treasuryBps := 1000

theorem largest_fee_routed : RoutesWhole (BitVec.allOnes 64) defaultRouting
    (route (BitVec.allOnes 64) defaultRouting) :=
  (routes_whole_iff (by decide)).2 (.inr (by decide))

def wrappedRouting : FeeRoutingParams where
  burnBps := 10001
  sequencerRewardBps := BitVec.allOnes 64
  sharedSecurityBps := 0
  treasuryBps := 0

theorem wrapped_splits_route_more : wrappedRouting.validate = .ok () ∧
    ¬ RoutesWhole 10000 wrappedRouting (route 10000 wrappedRouting) := by
  refine ⟨by decide, fun routes => ?_⟩
  have conserved := routes.conserved
  revert conserved
  decide

end FeeRouting

end Omniphi.Runtime
