import Omniphi.Basic

/-! The governance proposals the guard reads and the records it keeps. Go's `uint64` values are
naturals, wrapped where the source adds or multiplies them. -/

namespace Omniphi

def u64 (n : Nat) : Nat := n % 2 ^ 64

def u64OfInt (n : Int) : Nat := (n % 2 ^ 64).toNat

def i64 (n : Int) : Int := n.bmod (2 ^ 64)

theorem u64_of_lt {n : Nat} (fits : n < 2 ^ 64) : u64 n = n := Nat.mod_eq_of_lt fits

def contains (text sub : String) : Bool := text.toList.tails.any sub.toList.isPrefixOf

namespace Gov

structure Coin where
  denom : String
  amount : Int
  deriving DecidableEq

/-- A message once unpacked, as far as the guard looks into it. -/
inductive MsgContent
  | communityPoolSpend (amount : List Coin)
  | send (fromAddress : String) (amount : List Coin)
  | other
  deriving DecidableEq

/-- `unpacked` is none when neither a cached value nor the interface registry decodes the message. -/
structure AnyMsg where
  typeUrl : String
  value : Bytes
  unpacked : Option MsgContent
  deriving DecidableEq

inductive ProposalStatus
  | unspecified
  | depositPeriod
  | votingPeriod
  | passed
  | rejected
  | failed
  deriving DecidableEq

/-- The counts as `ParseVoteCount` reads them, none where it reports an invalid count. -/
structure TallyResult where
  yesCount : Option Nat
  abstainCount : Option Nat
  noCount : Option Nat
  noWithVetoCount : Option Nat
  deriving DecidableEq

structure Proposal where
  id : Nat
  status : ProposalStatus
  messages : List AnyMsg
  finalTallyResult : TallyResult
  deriving DecidableEq

end Gov

namespace Guard

inductive RiskTier
  | unspecified
  | low
  | med
  | high
  | critical
  deriving DecidableEq

def RiskTier.rank : RiskTier → Nat
  | .unspecified => 0
  | .low => 1
  | .med => 2
  | .high => 3
  | .critical => 4

inductive ExecutionGateState
  | unspecified
  | visibility
  | shockAbsorber
  | conditionalExecution
  | ready
  | executed
  | aborted
  deriving DecidableEq

def ExecutionGateState.isTerminal (gate : ExecutionGateState) : Bool :=
  gate = .executed || gate = .aborted

structure Params where
  delayLowBlocks : Nat
  delayMedBlocks : Nat
  delayHighBlocks : Nat
  delayCriticalBlocks : Nat
  visibilityWindowBlocks : Nat
  shockAbsorberWindowBlocks : Nat
  thresholdDefaultBps : Nat
  thresholdHighBps : Nat
  thresholdCriticalBps : Nat
  treasuryMaxOutflowBpsPerDay : Nat
  enableStabilityChecks : Bool
  maxValidatorChurnBps : Nat
  bindingAiEnabled : Bool
  aiShadowMode : Bool
  criticalRequiresSecondConfirm : Bool
  criticalSecondConfirmWindowBlocks : Nat
  extensionHighBlocks : Nat
  extensionCriticalBlocks : Nat
  maxProposalsPerBlock : Nat
  maxQueueScanDepth : Nat
  timelockIntegrationEnabled : Bool
  deriving DecidableEq

def blocksPerDay : Nat := 17280

def defaultParams : Params where
  delayLowBlocks := blocksPerDay
  delayMedBlocks := blocksPerDay * 2
  delayHighBlocks := blocksPerDay * 7
  delayCriticalBlocks := blocksPerDay * 14
  visibilityWindowBlocks := blocksPerDay
  shockAbsorberWindowBlocks := blocksPerDay * 2
  thresholdDefaultBps := 5000
  thresholdHighBps := 6667
  thresholdCriticalBps := 7500
  treasuryMaxOutflowBpsPerDay := 1000
  enableStabilityChecks := true
  maxValidatorChurnBps := 2000
  bindingAiEnabled := false
  aiShadowMode := false
  criticalRequiresSecondConfirm := true
  criticalSecondConfirmWindowBlocks := blocksPerDay * 3
  extensionHighBlocks := blocksPerDay
  extensionCriticalBlocks := blocksPerDay * 3
  maxProposalsPerBlock := 10
  maxQueueScanDepth := 100
  timelockIntegrationEnabled := true

namespace Params

variable (p : Params)

/-- The checks of `Validate` in the source's order, each with the text of its refusal. -/
def checks : List (Bool × String) :=
  [(p.delayLowBlocks = 0 || p.delayMedBlocks = 0 || p.delayHighBlocks = 0 || p.delayCriticalBlocks = 0,
      "delay blocks must be greater than 0"),
    (p.delayLowBlocks > p.delayMedBlocks || p.delayMedBlocks > p.delayHighBlocks ||
      p.delayHighBlocks > p.delayCriticalBlocks, "delays must be ordered: LOW <= MED <= HIGH <= CRITICAL"),
    (p.visibilityWindowBlocks = 0 || p.shockAbsorberWindowBlocks = 0,
      "gate window blocks must be greater than 0"),
    (p.thresholdDefaultBps > 10000 || p.thresholdHighBps > 10000 || p.thresholdCriticalBps > 10000,
      "thresholds cannot exceed 10000 basis points (100%)"),
    (p.thresholdDefaultBps > p.thresholdHighBps || p.thresholdHighBps > p.thresholdCriticalBps,
      "thresholds must be ordered: DEFAULT <= HIGH <= CRITICAL"),
    (p.treasuryMaxOutflowBpsPerDay > 10000,
      "treasury max outflow cannot exceed 10000 basis points (100%)"),
    (p.maxValidatorChurnBps > 10000, "max validator churn cannot exceed 10000 basis points (100%)"),
    (p.extensionHighBlocks = 0 || p.extensionCriticalBlocks = 0,
      "extension blocks must be greater than 0"),
    (p.maxProposalsPerBlock = 0, "max_proposals_per_block must be greater than 0"),
    (p.maxQueueScanDepth = 0, "max_queue_scan_depth must be greater than 0"),
    (p.maxProposalsPerBlock > 1000, "max_proposals_per_block cannot exceed 1000"),
    (p.maxQueueScanDepth > 10000, "max_queue_scan_depth cannot exceed 10000")]

def validate : Except String Unit :=
  match p.checks.find? fun check => check.1 with
  | some check => .error check.2
  | none => .ok ()

def Valid : Prop := p.validate = .ok ()

theorem valid_iff : p.Valid ↔ ∀ check ∈ p.checks, check.1 = false := by
  rw [Valid, validate]
  cases found : p.checks.find? fun check => check.1 with
  | none =>
      rw [List.find?_eq_none] at found
      simpa using found
  | some check =>
      have holds := List.find?_some found
      have member := List.mem_of_find?_eq_some found
      simp only [reduceCtorEq, false_iff, not_forall]
      exact ⟨check, member, by simp [holds]⟩

instance decidableValid : Decidable p.Valid := decidable_of_iff _ (valid_iff p).symm

variable {p}

theorem Valid.windows_pos (valid : p.Valid) :
    0 < p.visibilityWindowBlocks ∧ 0 < p.shockAbsorberWindowBlocks := by
  have passes := (valid_iff p).1 valid _ (List.mem_cons_of_mem _ (List.mem_cons_of_mem _ List.mem_cons_self))
  simp only [Bool.or_eq_false_iff, decide_eq_false_iff_not] at passes
  omega

end Params

end Guard

end Omniphi
