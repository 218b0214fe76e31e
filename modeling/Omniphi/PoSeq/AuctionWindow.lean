import Omniphi.PoSeq.Auction

/-! The window of one auction: commitments first, then the reveals that open them. -/

namespace Omniphi.PoSeq

def commitPhaseBlocks : U64 := 5
def revealPhaseBlocks : U64 := 3
def maxCommitmentsPerSolverPerWindow : Nat := 10
def maxBundleSteps : Nat := 64
def commitWithoutRevealPenaltyBps : U64 := 100

inductive AuctionPhase where
  | commit
  | reveal
  | selection
  | closed
deriving DecidableEq

inductive AuctionError where
  | commitPhaseEnded
  | revealPhaseNotStarted
  | revealPhaseClosed
  | duplicateCommitment (bundleId : Bytes32)
  | duplicateReveal (bundleId : Bytes32)
  | noMatchingCommitment (bundleId : Bytes32)
  | maxCommitmentsExceeded (solverId : Bytes32) (max : Nat)
  | tooManySteps (count max : Nat)
  | revealValidation (error : RevealValidationError)
deriving DecidableEq

structure NoRevealRecord where
  bundleId : Bytes32
  solverId : Bytes32
  batchWindow : U64
  bondLocked : U128
  penaltyBps : U64
deriving DecidableEq

structure AuctionWindow where
  batchWindow : U64
  commitStartBlock : U64
  revealStartBlock : U64
  selectionBlock : U64
  commitments : KeyedMap BundleCommitment.bundleId
  solverCommitmentCounts : BTreeMap Bytes32 Nat
  reveals : KeyedMap BundleReveal.bundleId
  committedButNotRevealed : BTreeSet Bytes32

namespace AuctionWindow

def new (batchWindow startBlock : U64) : AuctionWindow where
  batchWindow := batchWindow
  commitStartBlock := startBlock
  revealStartBlock := startBlock + commitPhaseBlocks
  selectionBlock := startBlock + commitPhaseBlocks + revealPhaseBlocks
  commitments := .empty
  solverCommitmentCounts := ∅
  reveals := .empty
  committedButNotRevealed := ∅

section Operations

variable (window : AuctionWindow)

def phaseAt (block : U64) : AuctionPhase :=
  if block < window.revealStartBlock then .commit
  else if block < window.selectionBlock then .reveal
  else if block = window.selectionBlock then .selection
  else .closed

def commitmentCount (solverId : Bytes32) : Nat := window.solverCommitmentCounts[solverId]?.getD 0

def recordCommitment (commitment : BundleCommitment) (currentBlock : U64) :
    Except AuctionError Unit × AuctionWindow :=
  if window.phaseAt currentBlock ≠ .commit then (.error .commitPhaseEnded, window)
  else
    -- The solver gets its counter before the limit is checked.
    let count := window.commitmentCount commitment.solverId
    let counted := { window with
      solverCommitmentCounts := window.solverCommitmentCounts.insert commitment.solverId count }
    if maxCommitmentsPerSolverPerWindow ≤ count then
      (.error (.maxCommitmentsExceeded commitment.solverId maxCommitmentsPerSolverPerWindow), counted)
    else if window.commitments.contains commitment.bundleId then
      (.error (.duplicateCommitment commitment.bundleId), counted)
    else
      (.ok (), { counted with
        commitments := window.commitments.insert commitment
        solverCommitmentCounts := window.solverCommitmentCounts.insert commitment.solverId (count + 1) })

def recordReveal (sha256 : Sha256) (reveal : BundleReveal) (currentBlock : U64) :
    Except AuctionError Unit × AuctionWindow :=
  if window.phaseAt currentBlock = .commit then (.error .revealPhaseNotStarted, window)
  else if window.phaseAt currentBlock ≠ .reveal then (.error .revealPhaseClosed, window)
  else if window.reveals.contains reveal.bundleId then (.error (.duplicateReveal reveal.bundleId), window)
  else
    match window.commitments.get? reveal.bundleId with
    | none => (.error (.noMatchingCommitment reveal.bundleId), window)
    | some commitment =>
        match reveal.verifyAgainstCommitment sha256 commitment with
        | .error error => (.error (.revealValidation error), window)
        | .ok () =>
            if maxBundleSteps < reveal.executionSteps.val.length then
              (.error (.tooManySteps reveal.executionSteps.val.length maxBundleSteps), window)
            else (.ok (), { window with reveals := window.reveals.insert reveal })

def unrevealed : List BundleCommitment :=
  window.commitments.values.filter fun commitment => !window.reveals.contains commitment.bundleId

def finalizeNoReveals : List NoRevealRecord × AuctionWindow :=
  (window.unrevealed.map fun commitment =>
      { bundleId := commitment.bundleId
        solverId := commitment.solverId
        batchWindow := window.batchWindow
        bondLocked := commitment.bondLocked
        penaltyBps := commitWithoutRevealPenaltyBps },
    { window with
      committedButNotRevealed :=
        window.unrevealed.foldl (fun solvers commitment => solvers.insert commitment.solverId) ∅ })

end Operations

inductive Call where
  | commitment (commitment : BundleCommitment) (block : U64)
  | reveal (reveal : BundleReveal) (block : U64)

section Runs

variable (sha256 : Sha256)

def answer (window : AuctionWindow) : Call → Except AuctionError Unit × AuctionWindow
  | .commitment commitment block => window.recordCommitment commitment block
  | .reveal reveal block => window.recordReveal sha256 reveal block

def run (window : AuctionWindow) (calls : List Call) : AuctionWindow :=
  calls.foldl (fun window call => (window.answer sha256 call).2) window

end Runs

end AuctionWindow

def Acceptable (sha256 : Sha256) (commitment : BundleCommitment) (reveal : BundleReveal) : Prop :=
  reveal.verifyAgainstCommitment sha256 commitment = .ok () ∧
    reveal.executionSteps.val.length ≤ maxBundleSteps

section Binding

variable {sha256 : Sha256} {commitment : BundleCommitment} {reveal first second : BundleReveal}

theorem BundleReveal.verifyAgainstCommitment_eq_ok :
    reveal.verifyAgainstCommitment sha256 commitment = .ok () ↔
      reveal.bundleId = commitment.bundleId ∧ reveal.solverId = commitment.solverId ∧
        reveal.batchWindow = commitment.batchWindow ∧
        reveal.computeCommitmentHash sha256 = commitment.commitmentHash ∧
        reveal.computeExpectedOutputsHash sha256 = commitment.expectedOutputsHash ∧
        reveal.computeExecutionPlanHash sha256 = commitment.executionPlanHash := by
  unfold verifyAgainstCommitment
  split_ifs <;> simp_all

theorem executionSteps_eq (same : first.stepsBytes = second.stepsBytes) :
    first.executionSteps = second.executionSteps :=
  (Omniphi.Bincode.sequence_code Bincode.executionStep_code).injective same

theorem predictedOutputs_eq (same : first.outputsBytes = second.outputsBytes) :
    first.predictedOutputs = second.predictedOutputs :=
  (Omniphi.Bincode.sequence_code Bincode.predictedOutput_code).injective same

theorem Acceptable.agree (free : CollisionFree sha256
      [first.stepsBytes, second.stepsBytes, first.outputsBytes, second.outputsBytes])
    (one : Acceptable sha256 commitment first) (other : Acceptable sha256 commitment second) :
    first.executionSteps = second.executionSteps ∧ first.predictedOutputs = second.predictedOutputs := by
  obtain ⟨-, -, -, -, outputs, plan⟩ := BundleReveal.verifyAgainstCommitment_eq_ok.1 one.1
  obtain ⟨-, -, -, -, outputs', plan'⟩ := BundleReveal.verifyAgainstCommitment_eq_ok.1 other.1
  constructor
  · apply executionSteps_eq
    exact free _ (by simp) _ (by simp) (plan.trans plan'.symm)
  · apply predictedOutputs_eq
    exact free _ (by simp) _ (by simp) (outputs.trans outputs'.symm)

theorem Acceptable.retargeted (one : Acceptable sha256 commitment reveal) (targetIntentIds : List Bytes32)
    (resourceDeclarations : List ResourceAccess) :
    Acceptable sha256 commitment { reveal with targetIntentIds, resourceDeclarations } := one

end Binding

namespace AuctionWindow

section Steps

variable (window : AuctionWindow) (sha256 : Sha256)

theorem recordCommitment_cases (commitment : BundleCommitment) (block : U64) :
    ((window.recordCommitment commitment block).1 = .ok () ∧
      window.commitments.get? commitment.bundleId = none ∧
      window.commitmentCount commitment.solverId < maxCommitmentsPerSolverPerWindow ∧
      (window.recordCommitment commitment block).2 = { window with
        commitments := window.commitments.insert commitment
        solverCommitmentCounts := window.solverCommitmentCounts.insert commitment.solverId
          (window.commitmentCount commitment.solverId + 1) }) ∨
    ((window.recordCommitment commitment block).2.commitments = window.commitments ∧
      (window.recordCommitment commitment block).2.reveals = window.reveals ∧
      ∀ solverId, (window.recordCommitment commitment block).2.commitmentCount solverId =
        window.commitmentCount solverId) := by
  have counted (solverId : Bytes32) : (window.solverCommitmentCounts.insert commitment.solverId
      (window.commitmentCount commitment.solverId))[solverId]?.getD 0 = window.commitmentCount solverId := by
    rw [BTree.getElem?_insert]
    split
    · rename_i same
      rw [same, Option.getD_some]
    · rfl
  unfold recordCommitment
  dsimp only
  split_ifs with late full held
  · exact .inr ⟨rfl, rfl, fun _ => rfl⟩
  · exact .inr ⟨rfl, rfl, counted⟩
  · exact .inr ⟨rfl, rfl, counted⟩
  · rw [KeyedMap.contains_eq, Bool.not_eq_true, Option.isSome_eq_false_iff, Option.isNone_iff_eq_none] at held
    exact .inl ⟨rfl, held, not_le.1 full, rfl⟩

theorem recordReveal_cases (reveal : BundleReveal) (block : U64) :
    ((window.recordReveal sha256 reveal block).1 = .ok () ∧
      (∃ commitment, window.commitments.get? reveal.bundleId = some commitment ∧
        Acceptable sha256 commitment reveal) ∧
      (window.recordReveal sha256 reveal block).2 =
        { window with reveals := window.reveals.insert reveal }) ∨
    (window.recordReveal sha256 reveal block).2 = window := by
  unfold recordReveal
  split
  · exact .inr rfl
  split
  · exact .inr rfl
  split
  · exact .inr rfl
  split
  · exact .inr rfl
  · rename_i commitment found
    split
    · exact .inr rfl
    · rename_i verified
      split
      · exact .inr rfl
      · rename_i short
        exact .inl ⟨rfl, ⟨commitment, found, verified, not_lt.1 short⟩, rfl⟩

end Steps

section Histories

variable (sha256 : Sha256) (start : AuctionWindow) (calls : List Call)

def Committed (commitment : BundleCommitment) : Prop :=
  ∃ before block after, calls = before ++ .commitment commitment block :: after ∧
    ((start.run sha256 before).recordCommitment commitment block).1 = .ok ()

def Opened (reveal : BundleReveal) : Prop :=
  ∃ before block after, calls = before ++ .reveal reveal block :: after ∧
    ((start.run sha256 before).recordReveal sha256 reveal block).1 = .ok () ∧
    ∃ commitment, Committed sha256 start before commitment ∧ commitment.bundleId = reveal.bundleId ∧
      commitment.solverId = reveal.solverId ∧ commitment.batchWindow = reveal.batchWindow

structure Accounted (window : AuctionWindow) : Prop where
  committed : ∀ commitment, window.commitments.get? commitment.bundleId = some commitment →
    Committed sha256 start calls commitment
  opened : ∀ reveal, window.reveals.get? reveal.bundleId = some reveal → Opened sha256 start calls reveal
  counted : ∀ solverId, window.commitments.values.countP (fun commitment => commitment.solverId = solverId) =
    window.commitmentCount solverId
  limited : ∀ solverId, window.commitmentCount solverId ≤ maxCommitmentsPerSolverPerWindow

variable {sha256 start calls} {window : AuctionWindow} {call : Call}

theorem Committed.later {commitment : BundleCommitment} (committed : Committed sha256 start calls commitment) :
    Committed sha256 start (calls ++ [call]) commitment := by
  obtain ⟨before, block, after, rfl, accepted⟩ := committed
  exact ⟨before, block, after ++ [call], by simp, accepted⟩

theorem Opened.later {reveal : BundleReveal} (opened : Opened sha256 start calls reveal) :
    Opened sha256 start (calls ++ [call]) reveal := by
  obtain ⟨before, block, after, rfl, accepted, earlier⟩ := opened
  exact ⟨before, block, after ++ [call], by simp, accepted, earlier⟩

theorem Accounted.commitment (accounted : Accounted sha256 start calls (start.run sha256 calls))
    (commitment : BundleCommitment) (block : U64) :
    Accounted sha256 start (calls ++ [.commitment commitment block])
      ((start.run sha256 calls).recordCommitment commitment block).2 := by
  rcases recordCommitment_cases (start.run sha256 calls) commitment block with
    ⟨accepted, fresh, room, result⟩ | ⟨commitments, reveals, counts⟩
  · rw [result]
    have counts (solverId : Bytes32) :
        ((start.run sha256 calls).solverCommitmentCounts.insert commitment.solverId
          ((start.run sha256 calls).commitmentCount commitment.solverId + 1))[solverId]?.getD 0 =
        (start.run sha256 calls).commitmentCount solverId +
          if commitment.solverId = solverId then 1 else 0 := by
      rw [BTree.getElem?_insert]
      split
      · rename_i same
        rw [same, Option.getD_some]
      · rfl
    constructor
    · intro other held
      rw [KeyedMap.get?_insert] at held
      split at held
      · obtain rfl := Option.some.inj held
        exact ⟨calls, block, [], rfl, accepted⟩
      · exact (accounted.committed other held).later
    · intro reveal held
      exact (accounted.opened reveal held).later
    · intro solverId
      refine Eq.trans ?_ (counts solverId).symm
      rw [KeyedMap.countP_values_insert fresh, accounted.counted]
      simp
    · intro solverId
      refine Nat.le_trans (Nat.le_of_eq (counts solverId)) ?_
      have held := accounted.limited solverId
      split
      · rename_i same
        rw [← same]
        exact room
      · exact held
  · constructor
    · intro other held
      rw [commitments] at held
      exact (accounted.committed other held).later
    · intro reveal held
      rw [reveals] at held
      exact (accounted.opened reveal held).later
    · intro solverId
      rw [commitments, counts]
      exact accounted.counted solverId
    · intro solverId
      rw [counts]
      exact accounted.limited solverId

theorem Accounted.reveal (accounted : Accounted sha256 start calls (start.run sha256 calls))
    (reveal : BundleReveal) (block : U64) :
    Accounted sha256 start (calls ++ [.reveal reveal block])
      ((start.run sha256 calls).recordReveal sha256 reveal block).2 := by
  rcases recordReveal_cases (start.run sha256 calls) sha256 reveal block with
    ⟨accepted, ⟨commitment, found, acceptable⟩, result⟩ | unchanged
  · rw [result]
    refine ⟨fun other held => (accounted.committed other held).later, ?_, accounted.counted,
      accounted.limited⟩
    intro other held
    rw [KeyedMap.get?_insert] at held
    split at held
    · obtain rfl := Option.some.inj held
      obtain ⟨bundleId, solverId, batchWindow, -⟩ :=
        BundleReveal.verifyAgainstCommitment_eq_ok.1 acceptable.1
      rw [bundleId] at found
      exact ⟨calls, block, [], rfl, accepted, commitment, accounted.committed commitment found,
        bundleId.symm, solverId.symm, batchWindow.symm⟩
    · exact (accounted.opened other held).later
  · rw [unchanged]
    exact ⟨fun other held => (accounted.committed other held).later,
      fun other held => (accounted.opened other held).later, accounted.counted, accounted.limited⟩

theorem accounted_run (batchWindow startBlock : U64) (calls : List Call) :
    Accounted sha256 (new batchWindow startBlock) calls ((new batchWindow startBlock).run sha256 calls) := by
  induction calls using List.reverseRecOn with
  | nil =>
      refine ⟨?_, ?_, ?_, ?_⟩
      · intro commitment held
        simp [run, new] at held
      · intro reveal held
        simp [run, new] at held
      · intro solverId
        simp [run, new, commitmentCount, KeyedMap.values, KeyedMap.empty]
      · intro solverId
        simp [run, new, commitmentCount]
  | append_singleton calls call ih =>
      have last : (new batchWindow startBlock).run sha256 (calls ++ [call]) =
          (((new batchWindow startBlock).run sha256 calls).answer sha256 call).2 := by
        rw [run, List.foldl_append]
        rfl
      rw [last]
      cases call with
      | commitment commitment block => exact ih.commitment commitment block
      | reveal reveal block => exact ih.reveal reveal block

theorem finalizeNoReveals_exact (window : AuctionWindow) :
    (window.finalizeNoReveals.1.map NoRevealRecord.bundleId).Nodup ∧
      ∀ bundleId, bundleId ∈ window.finalizeNoReveals.1.map NoRevealRecord.bundleId ↔
        (window.commitments.get? bundleId).isSome ∧ window.reveals.get? bundleId = none := by
  have listed : window.finalizeNoReveals.1.map NoRevealRecord.bundleId =
      window.unrevealed.map BundleCommitment.bundleId := by
    rw [finalizeNoReveals, List.map_map]
    rfl
  rw [listed]
  constructor
  · exact (List.filter_sublist.map _).nodup window.commitments.nodup_map_key_values
  · intro bundleId
    simp only [unrevealed, List.mem_map, List.mem_filter, KeyedMap.mem_values, KeyedMap.contains_eq,
      Bool.not_eq_true', Option.isSome_eq_false_iff, Option.isNone_iff_eq_none]
    constructor
    · rintro ⟨commitment, ⟨held, unopened⟩, rfl⟩
      exact ⟨Option.isSome_of_mem held, unopened⟩
    · rintro ⟨held, unopened⟩
      obtain ⟨commitment, found⟩ := Option.isSome_iff_exists.1 held
      obtain rfl := window.commitments.key_of_get? found
      exact ⟨commitment, ⟨found, unopened⟩, rfl⟩

end Histories

/-- Reveals open earlier commitments of their solvers, no solver holds too many, the unopened ones are
reported, and what a commitment fixes is the plan and the predicted outputs, not the targets and the
declared resources. -/
theorem commitments_bind (sha256 : Sha256) (batchWindow startBlock : U64) (calls : List Call) :
    (∀ reveal, ((new batchWindow startBlock).run sha256 calls).reveals.get? reveal.bundleId = some reveal →
      Opened sha256 (new batchWindow startBlock) calls reveal) ∧
    (∀ solverId, ((new batchWindow startBlock).run sha256 calls).commitments.values.countP
      (fun commitment => commitment.solverId = solverId) ≤ maxCommitmentsPerSolverPerWindow) ∧
    ((((new batchWindow startBlock).run sha256 calls).finalizeNoReveals.1.map
        NoRevealRecord.bundleId).Nodup ∧
      ∀ bundleId, bundleId ∈ ((new batchWindow startBlock).run sha256 calls).finalizeNoReveals.1.map
          NoRevealRecord.bundleId ↔
        (((new batchWindow startBlock).run sha256 calls).commitments.get? bundleId).isSome ∧
          ((new batchWindow startBlock).run sha256 calls).reveals.get? bundleId = none) ∧
    ∀ commitment first, Acceptable sha256 commitment first →
      (∀ second, Acceptable sha256 commitment second →
        CollisionFree sha256
          [first.stepsBytes, second.stepsBytes, first.outputsBytes, second.outputsBytes] →
        first.executionSteps = second.executionSteps ∧ first.predictedOutputs = second.predictedOutputs) ∧
      ∀ targetIntentIds resourceDeclarations,
        Acceptable sha256 commitment { first with targetIntentIds, resourceDeclarations } := by
  have accounted := @accounted_run sha256 batchWindow startBlock calls
  refine ⟨accounted.opened, ?_, finalizeNoReveals_exact _, ?_⟩
  · intro solverId
    rw [accounted.counted]
    exact accounted.limited solverId
  · intro commitment first acceptable
    exact ⟨fun second other free => Acceptable.agree free acceptable other, acceptable.retargeted⟩

end AuctionWindow

section Samples

def sampleReveal : BundleReveal where
  bundleId := 1
  solverId := 2
  batchWindow := 1
  targetIntentIds := [5]
  executionSteps := .empty
  liquiditySources := []
  predictedOutputs := .one ⟨5, ⟨0, .token, 2⟩, 950, 30⟩
  feeBreakdown := ⟨20, 10, 30⟩
  resourceDeclarations := []
  nonce := 3
  proofData := []
  signature := []

def rivalReveal : BundleReveal :=
  { sampleReveal with targetIntentIds := [6, 7], resourceDeclarations := [⟨8, .write⟩] }

def revealDigests : Sha256 := fun input =>
  if input = sampleReveal.commitmentPreimage then
    0x2f39e2a2f0fef76065f4c989f14ee983d400e737450fc2c49650fe0624efb6fa
  else if input = sampleReveal.outputsBytes then
    0x766856903205b771bfd3c4088a7cb14c8147112d4cdde49f4304f773ecc1392c
  else if input = sampleReveal.stepsBytes then
    0xaf5570f5a1810b7af78caf4bc70a660f0df51e42baf91d4de5b2328de0e83dfc
  else 0

def sampleCommitment : BundleCommitment where
  bundleId := 1
  solverId := 2
  batchWindow := 1
  targetIntentCount := 1
  commitmentHash := 0x2f39e2a2f0fef76065f4c989f14ee983d400e737450fc2c49650fe0624efb6fa
  expectedOutputsHash := 0x766856903205b771bfd3c4088a7cb14c8147112d4cdde49f4304f773ecc1392c
  executionPlanHash := 0xaf5570f5a1810b7af78caf4bc70a660f0df51e42baf91d4de5b2328de0e83dfc
  validUntil := 200
  bondLocked := 50000
  signature := []

theorem sampleReveal_acceptable : Acceptable revealDigests sampleCommitment sampleReveal := by
  refine ⟨BundleReveal.verifyAgainstCommitment_eq_ok.2 ⟨rfl, rfl, rfl, ?_, ?_, ?_⟩, by decide⟩
  · rw [BundleReveal.computeCommitmentHash, revealDigests, if_pos rfl]
    rfl
  · rw [BundleReveal.computeExpectedOutputsHash, revealDigests, if_neg (by decide +kernel), if_pos rfl]
    rfl
  · rw [BundleReveal.computeExecutionPlanHash, revealDigests, if_neg (by decide +kernel),
      if_neg (by decide +kernel), if_pos rfl]
    rfl

theorem revealDigests_free : CollisionFree revealDigests
    [sampleReveal.stepsBytes, rivalReveal.stepsBytes, sampleReveal.outputsBytes, rivalReveal.outputsBytes] := by
  show CollisionFree revealDigests
    [sampleReveal.stepsBytes, sampleReveal.stepsBytes, sampleReveal.outputsBytes, sampleReveal.outputsBytes]
  unfold CollisionFree
  decide +kernel

def committedWindow : AuctionWindow :=
  { AuctionWindow.new 9 100 with
    commitments := KeyedMap.empty.insert sampleCommitment
    solverCommitmentCounts := (∅ : BTreeMap Bytes32 Nat).insert 2 1 }

theorem recordCommitment_sample :
    ((AuctionWindow.new 9 100).recordCommitment sampleCommitment 100).2 = committedWindow := by
  have phase : (AuctionWindow.new 9 100).phaseAt 100 = .commit := by decide
  have count : (AuctionWindow.new 9 100).commitmentCount 2 = 0 := by
    simp [AuctionWindow.new, AuctionWindow.commitmentCount]
  have absent : (AuctionWindow.new 9 100).commitments.contains 1 = false := by
    rw [KeyedMap.contains_eq]
    simp [AuctionWindow.new]
  simp only [AuctionWindow.recordCommitment, phase, ne_eq, not_true_eq_false, if_false]
  rw [show sampleCommitment.solverId = 2 from rfl, count, if_neg (by decide),
    show sampleCommitment.bundleId = 1 from rfl, absent]
  rfl

theorem committedWindow_get? : committedWindow.commitments.get? 1 = some sampleCommitment := by
  unfold committedWindow
  rw [KeyedMap.get?_insert, if_pos (by decide)]

theorem recordReveal_sample :
    (committedWindow.recordReveal revealDigests sampleReveal 105).2 =
      { committedWindow with reveals := KeyedMap.empty.insert sampleReveal } := by
  have absent : committedWindow.reveals.contains 1 = false := by
    rw [KeyedMap.contains_eq]
    simp [committedWindow, AuctionWindow.new]
  unfold AuctionWindow.recordReveal
  rw [if_neg (by decide), if_neg (by decide), show sampleReveal.bundleId = 1 from rfl, absent,
    if_neg (by decide), committedWindow_get?]
  dsimp only
  rw [sampleReveal_acceptable.1]
  rfl

theorem sample_run :
    (AuctionWindow.new 9 100).run revealDigests [.commitment sampleCommitment 100, .reveal sampleReveal 105] =
      { committedWindow with reveals := KeyedMap.empty.insert sampleReveal } := by
  rw [← recordReveal_sample, ← recordCommitment_sample]
  rfl

end Samples

/-- A commitment that names the window `1` is opened in the window `9`, and could have been opened for other
intents. -/
theorem commitment_leaves_targets_open :
    let window := (AuctionWindow.new 9 100).run revealDigests
      [.commitment sampleCommitment 100, .reveal sampleReveal 105]
    window.reveals.get? 1 = some sampleReveal ∧ window.commitments.get? 1 = some sampleCommitment ∧
      sampleCommitment.batchWindow ≠ window.batchWindow ∧
      Acceptable revealDigests sampleCommitment sampleReveal ∧
      Acceptable revealDigests sampleCommitment rivalReveal ∧
      CollisionFree revealDigests [sampleReveal.stepsBytes, rivalReveal.stepsBytes,
        sampleReveal.outputsBytes, rivalReveal.outputsBytes] ∧
      sampleReveal.targetIntentIds ≠ rivalReveal.targetIntentIds ∧
      sampleReveal.resourceDeclarations ≠ rivalReveal.resourceDeclarations := by
  intro window
  have result : window = { committedWindow with reveals := KeyedMap.empty.insert sampleReveal } := sample_run
  have other : window.batchWindow = 9 := by rw [result]; rfl
  refine ⟨?_, ?_, ?_, sampleReveal_acceptable,
    sampleReveal_acceptable.retargeted [6, 7] [⟨8, .write⟩], revealDigests_free, by decide, by decide⟩
  · rw [result]
    dsimp only
    rw [KeyedMap.get?_insert, if_pos (by decide)]
  · rw [result]
    exact committedWindow_get?
  · rw [other]
    decide

theorem opened_commitment_binds :
    AuctionWindow.Opened revealDigests (AuctionWindow.new 9 100)
      [.commitment sampleCommitment 100, .reveal sampleReveal 105] sampleReveal ∧
    sampleReveal.executionSteps = rivalReveal.executionSteps ∧
    sampleReveal.predictedOutputs = rivalReveal.predictedOutputs := by
  obtain ⟨opened, -, -, binds⟩ := AuctionWindow.commitments_bind revealDigests 9 100
    [.commitment sampleCommitment 100, .reveal sampleReveal 105]
  refine ⟨opened sampleReveal ?_, (binds sampleCommitment sampleReveal sampleReveal_acceptable).1 rivalReveal
    (sampleReveal_acceptable.retargeted [6, 7] [⟨8, .write⟩]) revealDigests_free⟩
  rw [sample_run]
  dsimp only
  rw [KeyedMap.get?_insert, if_pos (by decide)]

end Omniphi.PoSeq
