import Omniphi.Guard.Queue
import Omniphi.Text

/-! The final tally of a proposal, from the texts of its counts to the verdict on the required
threshold. -/

namespace Omniphi.Guard

open Gov

structure FinalTally where
  yesCount : String
  abstainCount : String
  noCount : String
  noWithVetoCount : String

structure TalliedProposal where
  status : ProposalStatus
  finalTallyResult : FinalTally

def parseUint (text : String) : Option Nat :=
  if text.isEmpty then none else (decimalDigits text.toList).filter (· < 2 ^ 64)

/-- `Int.Uint64`, which panics out of range. -/
def uint64 (n : Int) : Option Nat := if 0 ≤ n ∧ n < 2 ^ 64 then some n.toNat else none

section Threshold

variable (newIntFromString : String → Option Int)

/-- None when the call panics, and none inside for a count reported as invalid. -/
def parseVoteCount (count : String) : Option (Option Nat) :=
  if count = "" ∨ count = "0" then some (some 0)
  else match newIntFromString count with
  | some n => (uint64 n).map some
  | none => some (parseUint count)

def uncheckedVoteCount (count : String) : Option Nat :=
  (parseVoteCount newIntFromString count).map (·.getD 0)

def compareShare (yesCount noCount vetoCount requiredThresholdBps : Nat) : Except ThresholdError Unit :=
  let totalNonAbstain := u64 (u64 (yesCount + noCount) + vetoCount)
  if totalNonAbstain = 0 then .error .noVotesCast
  else
    let yesVoteBps := u64 (yesCount * 10000) / totalNonAbstain
    if yesVoteBps < requiredThresholdBps then .error (.belowRequired yesVoteBps requiredThresholdBps)
    else .ok ()

def verifyTally (tally : FinalTally) (requiredThresholdBps : Nat) : Option (Except ThresholdError Unit) :=
  match parseVoteCount newIntFromString tally.yesCount with
  | none => none
  | some none => some (.error .invalidYesCount)
  | some (some yesCount) => do
      let noCount ← uncheckedVoteCount newIntFromString tally.noCount
      let _abstainCount ← uncheckedVoteCount newIntFromString tally.abstainCount
      let vetoCount ← uncheckedVoteCount newIntFromString tally.noWithVetoCount
      return compareShare yesCount noCount vetoCount requiredThresholdBps

def verifyVotingThreshold (getProposal : Nat → Option TalliedProposal) (exec : QueuedExecution) :
    Option (Except ThresholdError Unit) :=
  match getProposal exec.proposalId with
  | none => some (.error (.proposalNotFound exec.proposalId))
  | some proposal =>
      if !isProposalExecutable proposal.status then some (.error (.proposalNotPassed proposal.status))
      else verifyTally newIntFromString proposal.finalTallyResult exec.requiredThresholdBps

theorem verifyVotingThreshold_eq {getProposal : Nat → Option TalliedProposal} {env : Env}
    {exec : QueuedExecution} {texts : TalliedProposal} {proposal : Proposal}
    (written : getProposal exec.proposalId = some texts)
    (found : env.getProposal exec.proposalId = some proposal) (same : proposal.status = texts.status)
    (yes : parseVoteCount newIntFromString texts.finalTallyResult.yesCount =
      some proposal.finalTallyResult.yesCount)
    (abstain : parseVoteCount newIntFromString texts.finalTallyResult.abstainCount =
      some proposal.finalTallyResult.abstainCount)
    (no : parseVoteCount newIntFromString texts.finalTallyResult.noCount =
      some proposal.finalTallyResult.noCount)
    (veto : parseVoteCount newIntFromString texts.finalTallyResult.noWithVetoCount =
      some proposal.finalTallyResult.noWithVetoCount) :
    verifyVotingThreshold newIntFromString getProposal exec =
      some (GuardKeeper.verifyVotingThreshold env exec) := by
  unfold verifyVotingThreshold GuardKeeper.verifyVotingThreshold
  simp only [written, found, same]
  cases executable : isProposalExecutable texts.status with
  | false => rfl
  | true =>
      simp only [Bool.not_true, Bool.false_eq_true, if_false, verifyTally, uncheckedVoteCount, yes,
        abstain, no, veto]
      cases proposal.finalTallyResult.yesCount with
      | none => rfl
      | some yesCount => rfl

variable {newIntFromString}

@[simp] theorem parseVoteCount_zero : parseVoteCount newIntFromString "0" = some (some 0) := by
  simp [parseVoteCount]

theorem uncheckedVoteCount_of_invalid {count : String}
    (invalid : parseVoteCount newIntFromString count = some none) :
    uncheckedVoteCount newIntFromString count = uncheckedVoteCount newIntFromString "0" := by
  rw [uncheckedVoteCount, uncheckedVoteCount, invalid, parseVoteCount_zero]
  rfl

theorem verifyTally_of_invalid_no {tally : FinalTally}
    (invalid : parseVoteCount newIntFromString tally.noCount = some none) (required : Nat) :
    verifyTally newIntFromString tally required =
      verifyTally newIntFromString { tally with noCount := "0" } required := by
  simp only [verifyTally, uncheckedVoteCount_of_invalid invalid]

theorem verifyTally_of_invalid_veto {tally : FinalTally}
    (invalid : parseVoteCount newIntFromString tally.noWithVetoCount = some none) (required : Nat) :
    verifyTally newIntFromString tally required =
      verifyTally newIntFromString { tally with noWithVetoCount := "0" } required := by
  simp only [verifyTally, uncheckedVoteCount_of_invalid invalid]

end Threshold

section Share

variable {yes no veto required : Nat}

def Reaches (yes no veto required : Nat) : Prop :=
  0 < yes + no + veto ∧ required * (yes + no + veto) ≤ 10000 * yes
deriving Decidable

/-- Neither the total nor the product of the comparison leaves 64 bits. Where the total does, both may
still wrap to the same quotient. -/
def ShareFits (yes total : Nat) : Prop :=
  total < 2 ^ 64 ∧ 10000 * yes < 2 ^ 64 ∨
    2 ^ 64 ≤ total ∧ u64 total ≠ 0 ∧ u64 (10000 * yes) / u64 total = 10000 * yes / total
deriving Decidable

theorem u64_total (yes no veto : Nat) : u64 (u64 (yes + no) + veto) = u64 (yes + no + veto) :=
  Nat.mod_add_mod _ _ _

theorem compareShare_ok_iff : compareShare yes no veto required = .ok () ↔
    u64 (yes + no + veto) ≠ 0 ∧ required ≤ u64 (10000 * yes) / u64 (yes + no + veto) := by
  simp only [compareShare, u64_total, Nat.mul_comm yes]
  split
  · simp_all
  · split <;> simp_all

theorem reaches_iff : Reaches yes no veto required ↔
    0 < yes + no + veto ∧ required ≤ 10000 * yes / (yes + no + veto) :=
  and_congr_right fun cast => (Nat.le_div_iff_mul_le cast).symm

theorem quotient_lost {product total : Nat} (cast : 0 < total) (fits : total < 2 ^ 64)
    (same : u64 product / total = product / total) : product < 2 ^ 64 := by
  by_contra wraps
  have least : u64 product + 2 ^ 64 ≤ product := by
    have split := Nat.div_add_mod product (2 ^ 64)
    have once : 1 ≤ product / 2 ^ 64 := (Nat.one_le_div_iff (by decide)).2 (Nat.le_of_not_lt wraps)
    unfold u64
    omega
  have more : (u64 product + total) / total ≤ product / total := Nat.div_le_div_right (by omega)
  rw [Nat.add_div_right _ cast] at more
  omega

theorem quotients_eq {total product : Nat}
    (agree : ∀ required < 2 ^ 64, (u64 total ≠ 0 ∧ required ≤ u64 product / u64 total) ↔
      0 < total ∧ required ≤ product / total) (cast : 0 < total) (small : product / total < 2 ^ 64) :
    u64 total ≠ 0 ∧ u64 product / u64 total = product / total := by
  have counted := ((agree _ small).2 ⟨cast, le_rfl⟩)
  refine ⟨counted.1, le_antisymm ?_ counted.2⟩
  have below : u64 product / u64 total < 2 ^ 64 :=
    (Nat.div_le_self _ _).trans_lt (Nat.mod_lt _ (by decide))
  exact ((agree _ below).1 ⟨counted.1, le_rfl⟩).2

theorem compareShare_exact_iff :
    (∀ required < 2 ^ 64, compareShare yes no veto required = .ok () ↔ Reaches yes no veto required) ↔
      ShareFits yes (yes + no + veto) := by
  simp only [compareShare_ok_iff, reaches_iff]
  generalize total_eq : yes + no + veto = total
  have part : yes ≤ total := by omega
  have small : 10000 * yes / total < 2 ^ 64 := by
    have bound : 10000 * yes / total ≤ 10000 := Nat.div_le_of_le_mul (by omega)
    omega
  constructor
  · intro agree
    rcases Nat.eq_zero_or_pos total with none | cast
    · exact .inl (by omega)
    · have same := quotients_eq agree cast small
      rcases Nat.lt_or_ge total (2 ^ 64) with fits | wraps
      · rw [u64_of_lt fits] at same
        exact .inl ⟨fits, quotient_lost cast fits same.2⟩
      · exact .inr ⟨wraps, same⟩
  · rintro (⟨fits, product⟩ | ⟨wraps, counted, same⟩) required -
    · rw [u64_of_lt fits, u64_of_lt product, Nat.pos_iff_ne_zero]
    · rw [same]
      exact and_congr_left' (iff_of_true counted (by omega))

end Share

section Decimal

variable {newIntFromString : String → Option Int}

def FinalTally.ofCounts (yes abstain no veto : Nat) : FinalTally :=
  ⟨Nat.repr yes, Nat.repr abstain, Nat.repr no, Nat.repr veto⟩

/-- What the decimal notation of a number is read as. -/
def ReadsDecimals (newIntFromString : String → Option Int) : Prop :=
  ∀ n : Nat, newIntFromString (Nat.repr n) = if n < 2 ^ 256 then some (n : Int) else none

theorem parseUint_repr (n : Nat) : parseUint (Nat.repr n) = if n < 2 ^ 64 then some n else none := by
  have written : (Nat.repr n).toList = Nat.toDigits 10 n := by simp [Nat.repr]
  have nonempty : (Nat.repr n).isEmpty = false := by
    simp
  rw [parseUint, nonempty, if_neg Bool.false_ne_true, written, decimalDigits_toDigits]
  simp [Option.filter]

theorem parseVoteCount_repr (reads : ReadsDecimals newIntFromString) (n : Nat) :
    parseVoteCount newIntFromString (Nat.repr n) =
      if n < 2 ^ 64 then some (some n) else if n < 2 ^ 256 then none else some none := by
  unfold parseVoteCount
  split
  · rename_i plain
    have zero : n = 0 := by
      have back := parseUint_repr n
      rcases plain with plain | plain <;> rw [plain] at back
      · exact absurd plain (by simp)
      · have read : parseUint "0" = some 0 := by decide
        rw [read] at back
        split at back
        · exact (Option.some.inj back).symm
        · cases back
    subst zero
    rfl
  · rw [reads]
    by_cases small : n < 2 ^ 64
    · rw [if_pos small, if_pos (show n < 2 ^ 256 by omega)]
      simp only [uint64]
      rw [if_pos ⟨Int.natCast_nonneg n, by omega⟩]
      rfl
    · rw [if_neg small]
      by_cases wide : n < 2 ^ 256
      · rw [if_pos wide, if_pos wide]
        simp only [uint64]
        rw [if_neg (by omega)]
        rfl
      · rw [if_neg wide, if_neg wide, parseUint_repr, if_neg small]

/-- The check of a tally of decimal counts never panics, passes just when the votes reach the share,
and passes no tally whose votes against it cannot parse. -/
def DecidesExactly (newIntFromString : String → Option Int)
    (check : Nat → Option (Except ThresholdError Unit)) (yes no veto : Nat) : Prop :=
  ∀ required < 2 ^ 64,
    (∃ verdict, check required = some verdict ∧ (verdict = .ok () ↔ Reaches yes no veto required)) ∧
    (parseVoteCount newIntFromString (Nat.repr no) = some none ∨
      parseVoteCount newIntFromString (Nat.repr veto) = some none → check required ≠ some (.ok ()))

/-- Every count is a `uint64`, but for abstentions too many for a big integer, which are ignored. -/
def CountsFit (yes abstain no veto : Nat) : Prop :=
  yes < 2 ^ 64 ∧ (abstain < 2 ^ 64 ∨ 2 ^ 256 ≤ abstain) ∧ no < 2 ^ 64 ∧ veto < 2 ^ 64
deriving Decidable

section Counts

variable (reads : ReadsDecimals newIntFromString) {yes abstain no veto n : Nat}

include reads

theorem parse_small (small : n < 2 ^ 64) :
    parseVoteCount newIntFromString (Nat.repr n) = some (some n) := by
  rw [parseVoteCount_repr reads, if_pos small]

theorem parse_panics (large : 2 ^ 64 ≤ n) (wide : n < 2 ^ 256) :
    parseVoteCount newIntFromString (Nat.repr n) = none := by
  rw [parseVoteCount_repr reads, if_neg (Nat.not_lt.2 large), if_pos wide]

theorem parse_invalid (huge : 2 ^ 256 ≤ n) :
    parseVoteCount newIntFromString (Nat.repr n) = some none := by
  rw [parseVoteCount_repr reads, if_neg (by omega), if_neg (Nat.not_lt.2 huge)]

theorem unchecked_small (small : n < 2 ^ 64) :
    uncheckedVoteCount newIntFromString (Nat.repr n) = some n := by
  rw [uncheckedVoteCount, parse_small reads small]
  rfl

theorem unchecked_panics (large : 2 ^ 64 ≤ n) (wide : n < 2 ^ 256) :
    uncheckedVoteCount newIntFromString (Nat.repr n) = none := by
  rw [uncheckedVoteCount, parse_panics reads large wide]
  rfl

theorem unchecked_invalid (huge : 2 ^ 256 ≤ n) :
    uncheckedVoteCount newIntFromString (Nat.repr n) = some 0 := by
  rw [uncheckedVoteCount, parse_invalid reads huge]
  rfl

theorem verifyTally_ofCounts (fit : CountsFit yes abstain no veto) (required : Nat) :
    verifyTally newIntFromString (.ofCounts yes abstain no veto) required =
      some (compareShare yes no veto required) := by
  obtain ⟨yesFits, abstainFits, noFits, vetoFits⟩ := fit
  have abstained : ∃ n, uncheckedVoteCount newIntFromString (Nat.repr abstain) = some n :=
    abstainFits.elim (fun small => ⟨_, unchecked_small reads small⟩)
      fun huge => ⟨_, unchecked_invalid reads huge⟩
  obtain ⟨n, abstained⟩ := abstained
  simp [verifyTally, FinalTally.ofCounts, parse_small reads yesFits, abstained,
    unchecked_small reads noFits, unchecked_small reads vetoFits]

theorem decidesExactly_iff :
    DecidesExactly newIntFromString (verifyTally newIntFromString (.ofCounts yes abstain no veto)) yes no
      veto ↔ CountsFit yes abstain no veto ∧ ShareFits yes (yes + no + veto) := by
  constructor
  · intro exact
    have fit : CountsFit yes abstain no veto := by
      obtain ⟨⟨verdict, checked, passes⟩, refuses⟩ := exact 0 (by decide)
      have free : 0 < yes + no + veto → verifyTally newIntFromString (.ofCounts yes abstain no veto) 0 =
          some (.ok ()) := fun cast => by
        rw [checked, passes.2 ⟨cast, by omega⟩]
      have yesFits : yes < 2 ^ 64 := by
        by_contra large
        have passed := free (by omega)
        by_cases wide : yes < 2 ^ 256
        · simp [verifyTally, FinalTally.ofCounts, parse_panics reads (Nat.le_of_not_lt large) wide] at passed
        · simp [verifyTally, FinalTally.ofCounts, parse_invalid reads (Nat.le_of_not_lt wide)] at passed
      have noFits : no < 2 ^ 64 := by
        by_contra large
        by_cases wide : no < 2 ^ 256
        · simp [verifyTally, FinalTally.ofCounts, parse_small reads yesFits,
            unchecked_panics reads (Nat.le_of_not_lt large) wide] at checked
        · exact refuses (.inl (parse_invalid reads (Nat.le_of_not_lt wide))) (free (by omega))
      have abstainFits : abstain < 2 ^ 64 ∨ 2 ^ 256 ≤ abstain := by
        by_contra! panics
        simp [verifyTally, FinalTally.ofCounts, parse_small reads yesFits, unchecked_small reads noFits,
          unchecked_panics reads panics.1 panics.2] at checked
      refine ⟨yesFits, abstainFits, noFits, ?_⟩
      by_contra large
      by_cases wide : veto < 2 ^ 256
      · obtain ⟨n, abstained⟩ : ∃ n, uncheckedVoteCount newIntFromString (Nat.repr abstain) = some n :=
          abstainFits.elim (fun small => ⟨_, unchecked_small reads small⟩)
            fun huge => ⟨_, unchecked_invalid reads huge⟩
        simp [verifyTally, FinalTally.ofCounts, parse_small reads yesFits, unchecked_small reads noFits,
          abstained, unchecked_panics reads (Nat.le_of_not_lt large) wide] at checked
      · exact refuses (.inr (parse_invalid reads (Nat.le_of_not_lt wide))) (free (by omega))
    refine ⟨fit, compareShare_exact_iff.1 fun required bounded => ?_⟩
    obtain ⟨⟨verdict, checked, passes⟩, -⟩ := exact required bounded
    rw [verifyTally_ofCounts reads fit] at checked
    rw [Option.some.inj checked]
    exact passes
  · rintro ⟨fit, shares⟩ required bounded
    refine ⟨⟨_, verifyTally_ofCounts reads fit required, compareShare_exact_iff.2 shares required bounded⟩, ?_⟩
    rintro (invalid | invalid)
    · rw [parse_small reads fit.2.2.1] at invalid
      cases invalid
    · rw [parse_small reads fit.2.2.2] at invalid
      cases invalid

end Counts

section Instance

def intOfDecimal (text : String) : Option Int :=
  ((decimalDigits text.toList).filter (· < 2 ^ 256)).map Int.ofNat

theorem intOfDecimal_reads : ReadsDecimals intOfDecimal := by
  intro n
  have written : (Nat.repr n).toList = Nat.toDigits 10 n := by simp [Nat.repr]
  rw [intOfDecimal, written, decimalDigits_toDigits]
  by_cases fits : n < 2 ^ 256
  · rw [if_pos fits, Option.filter_some, decide_eq_true fits]
    rfl
  · rw [if_neg fits, Option.filter_some, decide_eq_false fits]
    rfl

def passedWith (tally : FinalTally) : TalliedProposal := ⟨.passed, tally⟩

def pending : QueuedExecution where
  proposalId := 1
  queuedHeight := 0
  earliestExecHeight := 0
  gateState := .ready
  gateEnteredHeight := 0
  tier := .low
  requiredThresholdBps := 5000
  requiresSecondConfirm := false
  secondConfirmReceived := false
  statusNote := .queuedForGuardedExecution

end Instance

end Decimal

end Omniphi.Guard
