import Omniphi.PoSeq.Bonding

/-! Slashing a bond on both sides of the bridge: the record of the sequencer and the one the chain keeps,
compared over any sequence of slashes. -/

namespace Omniphi.PoSeq

def BondState.name : BondState → String
  | .active => "Active"
  | .partiallySlashed => "PartiallySlashed"
  | .jailed => "Jailed"
  | .exhausted => "Exhausted"
  | .retired => "Retired"

namespace OperatorBond

/-- The share of the declared bond, at least one and at most what is available. -/
def slashAmount (bond : OperatorBond) (slashBps : U32) : U64 :=
  let product : U128 := bond.bondAmount.setWidth 128 * slashBps.setWidth 128
  let amount : U64 := (product / 10000).setWidth 64
  let amount := if amount = 0 then 1 else amount
  if amount > bond.availableBond then bond.availableBond else amount

def takeSlash (bond : OperatorBond) (amount epoch : U64) : OperatorBond :=
  let available := bond.availableBond - amount
  { bond with
    availableBond := available
    slashedAmount := bond.slashedAmount + amount
    lastSlashEpoch := epoch
    slashCount := bond.slashCount + 1
    state := if available = 0 then .exhausted
      else if bond.state = .active then .partiallySlashed else bond.state }

-- The second guard of the source, on old records, comes after the first and is never met.
def applySlash (bond : OperatorBond) (slashBps : U32) (epoch : U64) : U64 × OperatorBond :=
  if bond.availableBond = 0 then (0, bond)
  else
    let bond := if bond.availableBond = 0 ∧ bond.slashedAmount = 0 then
      { bond with availableBond := bond.bondAmount } else bond
    let amount := bond.slashAmount slashBps
    (amount, bond.takeSlash amount epoch)

end OperatorBond

end Omniphi.PoSeq

namespace Omniphi.XPoSeq

structure OperatorBond where
  operatorAddress : String
  nodeId : String
  bondAmount : U64
  bondDenom : String
  bondedSinceEpoch : U64
  isActive : Bool
  withdrawnAtEpoch : U64
  state : String
  slashedAmount : U64
  availableBond : U64
  lastSlashEpoch : U64
  slashCount : U32
deriving DecidableEq

def bondStateActive : String := "Active"

def bondStatePartiallySlashed : String := "PartiallySlashed"

def bondStateExhausted : String := "Exhausted"

def getOperatorBondKey (operatorAddress nodeIdHex : String) : String :=
  operatorAddress ++ "\x00" ++ nodeIdHex

def OperatorBond.key (bond : OperatorBond) : String := getOperatorBondKey bond.operatorAddress bond.nodeId

structure BondKeeper where
  bonds : KeyedMap OperatorBond.key
  nodeBondIndex : BTreeMap String String

inductive SlashError
  | nodeNotBonded
  | bondExhausted
deriving DecidableEq

namespace OperatorBond

-- The product is taken in 64 bits.
def slashAmount (bond : OperatorBond) (slashBps : U32) : U64 :=
  let amount : U64 := slashBps.setWidth 64 * bond.bondAmount / 10000
  let amount := if amount = 0 then 1 else amount
  if amount > bond.availableBond then bond.availableBond else amount

def takeSlash (bond : OperatorBond) (amount epoch : U64) : OperatorBond :=
  let available := bond.availableBond - amount
  let state := if bond.state = "" then bondStateActive else bond.state
  { bond with
    availableBond := available
    slashedAmount := bond.slashedAmount + amount
    lastSlashEpoch := epoch
    slashCount := bond.slashCount + 1
    state := if available = 0 then bondStateExhausted
      else if state = bondStateActive then bondStatePartiallySlashed else state }

def initialised (bond : OperatorBond) : OperatorBond :=
  if bond.availableBond = 0 ∧ bond.slashedAmount = 0 then
    { bond with availableBond := bond.bondAmount } else bond

end OperatorBond

namespace BondKeeper

variable (k : BondKeeper)

def getOperatorBond (operatorAddress nodeIdHex : String) : Option OperatorBond :=
  k.bonds.get? (getOperatorBondKey operatorAddress nodeIdHex)

def indexedBond (nodeIdHex : String) : Option OperatorBond :=
  k.nodeBondIndex[nodeIdHex]?.bind fun operatorAddress => k.getOperatorBond operatorAddress nodeIdHex

def getActiveBondForNode (nodeIdHex : String) : Option OperatorBond :=
  (k.indexedBond nodeIdHex).filter (·.isActive)

def setBond (bond : OperatorBond) : BondKeeper := { k with bonds := k.bonds.insert bond }

def applyBondSlash (nodeIdHex : String) (slashBps : U32) (epoch : U64) :
    Except SlashError U64 × BondKeeper :=
  match k.getActiveBondForNode nodeIdHex with
  | none => (.error .nodeNotBonded, k)
  | some bond =>
      let bond := bond.initialised
      if bond.availableBond = 0 then (.error .bondExhausted, k)
      else
        let amount := bond.slashAmount slashBps
        (.ok amount, k.setBond (bond.takeSlash amount epoch))

end BondKeeper

section Amounts

theorem toNat_capped (raw available : U64) :
    (if (if raw = 0 then 1 else raw) > available then available else if raw = 0 then 1 else raw).toNat =
      min available.toNat (max 1 raw.toNat) := by
  have least : (if raw = 0 then 1 else raw : U64).toNat = max 1 raw.toNat := by
    by_cases none : raw = 0
    · simp [none]
    · have pos : raw.toNat ≠ 0 := fun zero => none (BitVec.eq_of_toNat_eq zero)
      rw [if_neg none]
      omega
  rw [← least]
  generalize (if raw = 0 then 1 else raw : U64) = amount
  by_cases above : amount > available
  · have above' : available.toNat < amount.toNat := BitVec.lt_def.1 above
    rw [if_pos above]
    omega
  · have below : ¬ available.toNat < amount.toNat := fun less => above (BitVec.lt_def.2 less)
    rw [if_neg above]
    omega

theorem toNat_slashAmount_poseq (bond : PoSeq.OperatorBond) {slashBps : U32}
    (share : slashBps.toNat ≤ 10000) : (bond.slashAmount slashBps).toNat =
      min bond.availableBond.toNat (max 1 (bond.bondAmount.toNat * slashBps.toNat / 10000)) := by
  have bound : bond.bondAmount.toNat * slashBps.toNat ≤ bond.bondAmount.toNat * 10000 :=
    Nat.mul_le_mul_left _ share
  have below : bond.bondAmount.toNat < 2 ^ 64 := bond.bondAmount.isLt
  have raw : ((bond.bondAmount.setWidth 128 * slashBps.setWidth 128 : U128) / 10000).setWidth 64 =
      BitVec.ofNat 64 (bond.bondAmount.toNat * slashBps.toNat / 10000) := by
    apply BitVec.eq_of_toNat_eq
    have wide : (bond.bondAmount.setWidth 128 * slashBps.setWidth 128 : U128).toNat =
        bond.bondAmount.toNat * slashBps.toNat := by
      rw [BitVec.toNat_mul, BitVec.toNat_setWidth, BitVec.toNat_setWidth,
        Nat.mod_eq_of_lt (by omega : bond.bondAmount.toNat < 2 ^ 128),
        Nat.mod_eq_of_lt (by omega : slashBps.toNat < 2 ^ 128), Nat.mod_eq_of_lt (by omega)]
    rw [BitVec.toNat_setWidth, BitVec.toNat_udiv, wide]
    rfl
  have value : (BitVec.ofNat 64 (bond.bondAmount.toNat * slashBps.toNat / 10000)).toNat =
      bond.bondAmount.toNat * slashBps.toNat / 10000 :=
    Nat.mod_eq_of_lt (by omega)
  rw [← value, ← raw]
  exact toNat_capped _ _

theorem toNat_slashAmount (bond : OperatorBond) (slashBps : U32) : (bond.slashAmount slashBps).toNat =
    min bond.availableBond.toNat (max 1 (bond.bondAmount.toNat * slashBps.toNat % 2 ^ 64 / 10000)) := by
  have raw : (slashBps.setWidth 64 * bond.bondAmount / 10000 : U64).toNat =
      bond.bondAmount.toNat * slashBps.toNat % 2 ^ 64 / 10000 := by
    rw [BitVec.toNat_udiv, BitVec.toNat_mul, BitVec.toNat_setWidth,
      Nat.mod_eq_of_lt (by omega : slashBps.toNat < 2 ^ 64), Nat.mul_comm]
    rfl
  rw [← raw]
  exact toNat_capped _ _

theorem capped_eq_iff (product available : Nat) :
    min available (max 1 (product / 10000)) = min available (max 1 (product % 2 ^ 64 / 10000)) ↔
      product < 2 ^ 64 ∨ available ≤ max 1 (product % 2 ^ 64 / 10000) := by
  rcases Nat.lt_or_ge product (2 ^ 64) with fits | wraps
  · rw [Nat.mod_eq_of_lt fits]
    exact iff_of_true rfl (.inl fits)
  · have split := Nat.div_add_mod product (2 ^ 64)
    have once : 1 ≤ product / 2 ^ 64 := (Nat.one_le_div_iff (by decide)).2 wraps
    have more : product % 2 ^ 64 / 10000 < product / 10000 := by omega
    constructor
    · intro same
      right
      omega
    · rintro (fits | hidden)
      · omega
      · omega

end Amounts

section Runs

open PoSeq (BondState)

structure Slash where
  bps : U32
  epoch : U64
  share : bps.toNat ≤ 10000

/-- The chain's record says what the sequencer's does. A record without a state is an active one. -/
structure Mirrors (bond : OperatorBond) (record : PoSeq.OperatorBond) : Prop where
  bondAmount : bond.bondAmount = record.bondAmount
  availableBond : bond.availableBond = record.availableBond
  slashedAmount : bond.slashedAmount = record.slashedAmount
  slashCount : bond.slashCount = record.slashCount
  isActive : bond.isActive = record.isActive
  state : bond.state = record.state.name ∨ bond.state = "" ∧ record.state = .active

def Mirrored (nodeIdHex : String) (record : PoSeq.OperatorBond) (k : BondKeeper) : Prop :=
  ∃ bond, k.indexedBond nodeIdHex = some bond ∧ Mirrors bond record

def Balanced (record : PoSeq.OperatorBond) : Prop :=
  record.availableBond.toNat + record.slashedAmount.toNat = record.bondAmount.toNat

/-- The same amount on both sides; where the record of the chain is exhausted, nothing. -/
def AnswersAgree (amount : U64) (answer : Except SlashError U64) : Prop :=
  answer = .ok amount ∨ answer = .error .bondExhausted ∧ amount = 0

variable (nodeIdHex : String)

def slashBoth (sides : PoSeq.OperatorBond × BondKeeper) (slash : Slash) : PoSeq.OperatorBond × BondKeeper :=
  ((sides.1.applySlash slash.bps slash.epoch).2, (sides.2.applyBondSlash nodeIdHex slash.bps slash.epoch).2)

def SlashAgrees (sides : PoSeq.OperatorBond × BondKeeper) (slash : Slash) : Prop :=
  AnswersAgree (sides.1.applySlash slash.bps slash.epoch).1
    (sides.2.applyBondSlash nodeIdHex slash.bps slash.epoch).1 ∧
  Mirrored nodeIdHex (slashBoth nodeIdHex sides slash).1 (slashBoth nodeIdHex sides slash).2 ∧
  (Balanced sides.1 → Balanced (slashBoth nodeIdHex sides slash).1)

/-- The bond is active, and is neither an old record with something to take nor so large that the product
wraps to a share below what is available. -/
def Slashable (sides : PoSeq.OperatorBond × BondKeeper) (slash : Slash) : Prop :=
  let record := sides.1
  let product := record.bondAmount.toNat * slash.bps.toNat
  record.isActive = true ∧
    if record.availableBond = 0 then record.slashedAmount ≠ 0 ∨ record.bondAmount = 0
    else product < 2 ^ 64 ∨ record.availableBond.toNat ≤ max 1 (product % 2 ^ 64 / 10000)

instance (sides : PoSeq.OperatorBond × BondKeeper) (slash : Slash) : Decidable (Slashable sides slash) :=
  inferInstanceAs (Decidable (_ ∧ _))

variable {nodeIdHex}

theorem Mirrors.takeSlash {bond : OperatorBond} {record : PoSeq.OperatorBond} (same : Mirrors bond record)
    (amount epoch : U64) : Mirrors (bond.takeSlash amount epoch) (record.takeSlash amount epoch) where
  bondAmount := same.bondAmount
  availableBond := by
    simp only [OperatorBond.takeSlash, PoSeq.OperatorBond.takeSlash, same.availableBond]
  slashedAmount := by
    simp only [OperatorBond.takeSlash, PoSeq.OperatorBond.takeSlash, same.slashedAmount]
  slashCount := by
    simp only [OperatorBond.takeSlash, PoSeq.OperatorBond.takeSlash, same.slashCount]
  isActive := same.isActive
  state := by
    simp only [OperatorBond.takeSlash, PoSeq.OperatorBond.takeSlash, same.availableBond]
    have shown : (if bond.state = "" then bondStateActive else bond.state) = record.state.name := by
      rcases same.state with named | ⟨unnamed, active⟩
      · rw [named]
        cases record.state <;> decide
      · rw [unnamed, active]
        decide
    left
    rw [shown]
    split
    · rfl
    · cases record.state <;> decide

theorem Balanced.takeSlash {record : PoSeq.OperatorBond} (balanced : Balanced record) {amount : U64}
    (covered : amount.toNat ≤ record.availableBond.toNat) (epoch : U64) :
    Balanced (record.takeSlash amount epoch) := by
  have bound : record.bondAmount.toNat < 2 ^ 64 := record.bondAmount.isLt
  unfold Balanced at balanced ⊢
  simp only [PoSeq.OperatorBond.takeSlash]
  rw [BitVec.toNat_sub_of_le (BitVec.le_def.2 covered), BitVec.toNat_add, Nat.mod_eq_of_lt (by omega)]
  omega

theorem applySlash_none {record : PoSeq.OperatorBond} (none : record.availableBond = 0) (bps : U32)
    (epoch : U64) : record.applySlash bps epoch = (0, record) := if_pos none

theorem applySlash_some {record : PoSeq.OperatorBond} (held : record.availableBond ≠ 0) (bps : U32)
    (epoch : U64) : record.applySlash bps epoch =
      (record.slashAmount bps, record.takeSlash (record.slashAmount bps) epoch) := by
  have current : ¬ (record.availableBond = 0 ∧ record.slashedAmount = 0) := fun old => held old.1
  unfold PoSeq.OperatorBond.applySlash
  rw [if_neg held, if_neg current]

section Keeper

variable {k : BondKeeper} {bond : OperatorBond} (indexed : k.indexedBond nodeIdHex = some bond)

include indexed

theorem applyBondSlash_inactive (inactive : bond.isActive = false) (bps : U32) (epoch : U64) :
    k.applyBondSlash nodeIdHex bps epoch = (.error .nodeNotBonded, k) := by
  have missing : k.getActiveBondForNode nodeIdHex = none := by
    simp [BondKeeper.getActiveBondForNode, indexed, inactive]
  simp only [BondKeeper.applyBondSlash, missing]

theorem applyBondSlash_active (active : bond.isActive = true) (bps : U32) (epoch : U64) :
    k.applyBondSlash nodeIdHex bps epoch =
      if bond.initialised.availableBond = 0 then (.error .bondExhausted, k)
      else (.ok (bond.initialised.slashAmount bps),
        k.setBond (bond.initialised.takeSlash (bond.initialised.slashAmount bps) epoch)) := by
  have found : k.getActiveBondForNode nodeIdHex = some bond := by
    simp [BondKeeper.getActiveBondForNode, indexed, active]
  simp only [BondKeeper.applyBondSlash, found]

theorem indexedBond_setBond {changed : OperatorBond} (same : changed.key = bond.key) :
    (k.setBond changed).indexedBond nodeIdHex = some changed := by
  unfold BondKeeper.indexedBond BondKeeper.setBond at *
  cases operator : k.nodeBondIndex[nodeIdHex]? with
  | none =>
      rw [operator] at indexed
      cases indexed
  | some operatorAddress =>
      rw [operator] at indexed
      have key := KeyedMap.key_of_get? k.bonds indexed
      simp only [Option.bind_some, BondKeeper.getOperatorBond, KeyedMap.get?_insert]
      rw [if_pos (same.trans key)]

end Keeper

theorem slashAmount_ne_zero {bond : OperatorBond} (held : bond.availableBond ≠ 0) (bps : U32) :
    bond.slashAmount bps ≠ 0 := by
  intro zero
  have amount := toNat_slashAmount bond bps
  have pos : bond.availableBond.toNat ≠ 0 := fun none => held (BitVec.eq_of_toNat_eq none)
  rw [zero] at amount
  have least : (0 : U64).toNat = 0 := rfl
  omega

theorem slashAmount_eq_iff {bond : OperatorBond} {record : PoSeq.OperatorBond} (same : Mirrors bond record)
    (slash : Slash) : bond.slashAmount slash.bps = record.slashAmount slash.bps ↔
      record.bondAmount.toNat * slash.bps.toNat < 2 ^ 64 ∨
        record.availableBond.toNat ≤
          max 1 (record.bondAmount.toNat * slash.bps.toNat % 2 ^ 64 / 10000) := by
  rw [← BitVec.toNat_inj, toNat_slashAmount, toNat_slashAmount_poseq record slash.share, same.availableBond,
    same.bondAmount, eq_comm]
  exact capped_eq_iff _ _

theorem slashAgrees_none_iff {record : PoSeq.OperatorBond} {k : BondKeeper} {bond : OperatorBond}
    (indexed : k.indexedBond nodeIdHex = some bond) (same : Mirrors bond record)
    (active : record.isActive = true) (none : record.availableBond = 0) (slash : Slash) :
    SlashAgrees nodeIdHex (record, k) slash ↔ record.slashedAmount ≠ 0 ∨ record.bondAmount = 0 := by
  have empty : bond.availableBond = 0 := same.availableBond.trans none
  unfold SlashAgrees slashBoth
  rw [applyBondSlash_active indexed (same.isActive.trans active), applySlash_none none]
  by_cases old : record.slashedAmount = 0
  · have initialised : bond.initialised = { bond with availableBond := bond.bondAmount } :=
      if_pos ⟨empty, same.slashedAmount.trans old⟩
    by_cases nothing : record.bondAmount = 0
    · have exhausted : bond.initialised.availableBond = 0 := by
        rw [initialised]
        exact same.bondAmount.trans nothing
      rw [if_pos exhausted]
      exact iff_of_true ⟨.inr ⟨rfl, rfl⟩, ⟨bond, indexed, same⟩, id⟩ (.inr nothing)
    · have held : bond.initialised.availableBond ≠ 0 := by
        rw [initialised]
        exact fun zero => nothing (same.bondAmount.symm.trans zero)
      rw [if_neg held]
      refine iff_of_false ?_ fun either => either.elim (fun charged => charged old) nothing
      rintro ⟨answered | ⟨failed, -⟩, -⟩
      · exact slashAmount_ne_zero held slash.bps (Except.ok.inj answered)
      · cases failed
  · have current : bond.initialised = bond := if_neg fun fresh =>
      old (same.slashedAmount.symm.trans fresh.2)
    rw [current, if_pos empty]
    exact iff_of_true ⟨.inr ⟨rfl, rfl⟩, ⟨bond, indexed, same⟩, id⟩ (.inl old)

theorem slashAgrees_some_iff {record : PoSeq.OperatorBond} {k : BondKeeper} {bond : OperatorBond}
    (indexed : k.indexedBond nodeIdHex = some bond) (same : Mirrors bond record)
    (active : record.isActive = true) (held : record.availableBond ≠ 0) (slash : Slash) :
    SlashAgrees nodeIdHex (record, k) slash ↔
      bond.slashAmount slash.bps = record.slashAmount slash.bps := by
  have available : bond.availableBond ≠ 0 := fun zero => held (same.availableBond.symm.trans zero)
  have current : bond.initialised = bond := if_neg fun old => available old.1
  unfold SlashAgrees slashBoth
  rw [applyBondSlash_active indexed (same.isActive.trans active), applySlash_some held, current,
    if_neg available]
  constructor
  · rintro ⟨answered | ⟨failed, -⟩, -⟩
    · exact Except.ok.inj answered
    · cases failed
  · intro equal
    have covered : (record.slashAmount slash.bps).toNat ≤ record.availableBond.toNat := by
      rw [toNat_slashAmount_poseq record slash.share]
      exact Nat.min_le_left _ _
    rw [equal]
    exact ⟨.inl rfl, ⟨_, indexedBond_setBond indexed rfl, same.takeSlash _ _⟩,
      fun balanced => balanced.takeSlash covered _⟩

theorem slashAgrees_iff {record : PoSeq.OperatorBond} {k : BondKeeper}
    (mirrored : Mirrored nodeIdHex record k) (slash : Slash) :
    SlashAgrees nodeIdHex (record, k) slash ↔ Slashable (record, k) slash := by
  obtain ⟨bond, indexed, same⟩ := mirrored
  unfold Slashable
  cases active : record.isActive with
  | false =>
      unfold SlashAgrees
      rw [applyBondSlash_inactive indexed (same.isActive.trans active)]
      simp [AnswersAgree, active]
  | true =>
      rw [and_iff_right active]
      by_cases none : record.availableBond = 0
      · rw [slashAgrees_none_iff indexed same active none, if_pos none]
      · rw [slashAgrees_some_iff indexed same active none, if_neg none, slashAmount_eq_iff same]

/-- Over any run of slashes the two records go together just as long as each slash finds the bond active,
kept up to date and small enough. -/
theorem slashes_agree_iff (nodeIdHex : String) {record : PoSeq.OperatorBond} {k : BondKeeper}
    (mirrored : Mirrored nodeIdHex record k) (slashes : List Slash) :
    Run.Along (slashBoth nodeIdHex) (SlashAgrees nodeIdHex) (record, k) slashes ↔
      Run.Along (slashBoth nodeIdHex) Slashable (record, k) slashes :=
  Run.along_congr
    (fun (sides : PoSeq.OperatorBond × BondKeeper) slash (mirrored : Mirrored nodeIdHex sides.1 sides.2) =>
      slashAgrees_iff mirrored slash)
    (fun _ _ _ agrees => agrees.2.1) mirrored slashes

section Instance

def sequencerRecord (bondAmount availableBond : U64) : PoSeq.OperatorBond :=
  { PoSeq.OperatorBond.new "operator" 1 bondAmount "uomni" 1 with availableBond := availableBond }

def bondOf (bondAmount availableBond : U64) : OperatorBond where
  operatorAddress := "operator"
  nodeId := "01"
  bondAmount := bondAmount
  bondDenom := "uomni"
  bondedSinceEpoch := 1
  isActive := true
  withdrawnAtEpoch := 0
  state := ""
  slashedAmount := 0
  availableBond := availableBond
  lastSlashEpoch := 0
  slashCount := 0

def keeperOf (bondAmount availableBond : U64) : BondKeeper where
  bonds := KeyedMap.empty.insert (bondOf bondAmount availableBond)
  nodeBondIndex := (∅ : BTreeMap String String).insert "01" "operator"

theorem mirrored_of (bondAmount availableBond : U64) :
    Mirrored "01" (sequencerRecord bondAmount availableBond) (keeperOf bondAmount availableBond) := by
  refine ⟨bondOf bondAmount availableBond, ?_, ⟨rfl, rfl, rfl, rfl, rfl, .inr ⟨rfl, rfl⟩⟩⟩
  simp [BondKeeper.indexedBond, keeperOf, BondKeeper.getOperatorBond, KeyedMap.get?_insert,
    OperatorBond.key, bondOf]

theorem slashes_agree_iff_half :
    Run.Along (slashBoth "01") (SlashAgrees "01") (sequencerRecord 1000 1000, keeperOf 1000 1000)
      [⟨5000, 2, by decide⟩, ⟨10000, 3, by decide⟩, ⟨1, 4, by decide⟩] :=
  (slashes_agree_iff "01" (mirrored_of 1000 1000) _).2 (by decide +kernel)

/-- An old record is slashed on the chain alone, and of a bond of 2^61 slashed in full the chain takes
one. -/
theorem slash_sides_differ :
    ((sequencerRecord 1000 0).applySlash 300 2).1 = 0 ∧
    ((keeperOf 1000 0).applyBondSlash "01" 300 2).1 = .ok 30 ∧
    ((sequencerRecord (2 ^ 61) (2 ^ 61)).applySlash 10000 2).1 = 2 ^ 61 ∧
    ((keeperOf (2 ^ 61) (2 ^ 61)).applyBondSlash "01" 10000 2).1 = .ok 1 := by
  decide +kernel

end Instance

end Runs

end Omniphi.XPoSeq
