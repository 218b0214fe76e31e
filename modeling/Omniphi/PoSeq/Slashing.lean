import Omniphi.Basic
import Omniphi.Lib.KeyedMap

/-! Slashing: the offenses of a node add up to its jailing, and a cooldown has to pass before its release. -/

namespace Omniphi.PoSeq

section Offenses

inductive SlashableOffense
  | doubleProposal
  | absentFromDuty
  | fairnessViolation
  | invalidAttestation
  | replayAttack
deriving DecidableEq, Repr

structure SlashRecord where
  offense : SlashableOffense
  nodeId : Bytes32
  epoch : U64
  evidenceHash : Bytes32
  slashAmountBps : U64
deriving DecidableEq

def SlashRecord.new (sha256 : Sha256) (offense : SlashableOffense) (nodeId : Bytes32) (epoch : U64)
    (evidence : Bytes) (slashAmountBps : U64) : SlashRecord :=
  { offense, nodeId, epoch, evidenceHash := sha256 evidence, slashAmountBps }

structure SlashingConfig where
  doubleProposalBps : U64
  absentFromDutyBps : U64
  fairnessViolationBps : U64
  invalidAttestationBps : U64
  replayAttackBps : U64
  jailThresholdBps : U64
  unjailCooldownEpochs : U64

namespace SlashingConfig

def defaultConfig : SlashingConfig where
  doubleProposalBps := 500
  absentFromDutyBps := 50
  fairnessViolationBps := 200
  invalidAttestationBps := 100
  replayAttackBps := 50
  jailThresholdBps := 1000
  unjailCooldownEpochs := 10

def slashRate (config : SlashingConfig) : SlashableOffense → U64
  | .doubleProposal => config.doubleProposalBps
  | .absentFromDuty => config.absentFromDutyBps
  | .fairnessViolation => config.fairnessViolationBps
  | .invalidAttestation => config.invalidAttestationBps
  | .replayAttack => config.replayAttackBps

end SlashingConfig

inductive Phase4Error
  | alreadyJailed (nodeId : Bytes32)
  | notJailed (nodeId : Bytes32)
  | unjailCooldownActive (eligibleAt current : U64)
deriving DecidableEq

structure SlashingEngine where
  config : SlashingConfig
  cumulativeSlash : BTreeMap Bytes32 U64

namespace SlashingEngine

variable (engine : SlashingEngine) (nodeId : Bytes32)

def new (config : SlashingConfig) : SlashingEngine := { config, cumulativeSlash := ∅ }

def cumulativeSlashBps : U64 := engine.cumulativeSlash[nodeId]?.getD 0

/-- The source gives a `Result`, and never an error. -/
def processOffense (sha256 : Sha256) (offense : SlashableOffense) (epoch : U64) (evidence : Bytes) :
    SlashingEngine × SlashRecord :=
  let bps := engine.config.slashRate offense
  let record := SlashRecord.new sha256 offense nodeId epoch evidence bps
  let cumulative := engine.cumulativeSlash[nodeId]?.getD 0
  ({ engine with
      cumulativeSlash := engine.cumulativeSlash.insert nodeId (MachineInt.saturatingAdd cumulative bps) },
    record)

def shouldJail : Bool := engine.config.jailThresholdBps ≤ engine.cumulativeSlash[nodeId]?.getD 0

def resetSlash : SlashingEngine :=
  { engine with cumulativeSlash := engine.cumulativeSlash.erase nodeId }

end SlashingEngine

end Offenses

section Jail

structure JailRecord where
  nodeId : Bytes32
  jailedAtEpoch : U64
  eligibleUnjailEpoch : U64
deriving DecidableEq

namespace JailRecord

def new (nodeId : Bytes32) (jailedAtEpoch cooldownEpochs : U64) : JailRecord where
  nodeId := nodeId
  jailedAtEpoch := jailedAtEpoch
  eligibleUnjailEpoch := MachineInt.saturatingAdd jailedAtEpoch cooldownEpochs

def canUnjail (record : JailRecord) (currentEpoch : U64) : Bool :=
  record.eligibleUnjailEpoch ≤ currentEpoch

end JailRecord

structure JailStore where
  records : KeyedMap JailRecord.nodeId

namespace JailStore

variable (jails : JailStore) (nodeId : Bytes32)

def new : JailStore := ⟨.empty⟩

def isJailed : Bool := jails.records.contains nodeId

def getRecord : Option JailRecord := jails.records.get? nodeId

def jail (epoch cooldownEpochs : U64) : Except Phase4Error JailStore :=
  if jails.records.contains nodeId then .error (.alreadyJailed nodeId)
  else .ok ⟨jails.records.insert (.new nodeId epoch cooldownEpochs)⟩

def unjail (currentEpoch : U64) : Except Phase4Error JailStore :=
  match jails.records.get? nodeId with
  | none => .error (.notJailed nodeId)
  | some record =>
      if record.canUnjail currentEpoch = false then
        .error (.unjailCooldownActive record.eligibleUnjailEpoch currentEpoch)
      else .ok ⟨jails.records.erase nodeId⟩

end JailStore

end Jail

structure SlashingStore where
  records : BTreeMap Bytes32 (List SlashRecord)
  jailStore : JailStore
  engine : SlashingEngine

structure ProcessResult where
  record : SlashRecord
  jailed : Bool
deriving DecidableEq

namespace SlashingStore

variable (store : SlashingStore)

def new (config : SlashingConfig) : SlashingStore := { records := ∅, jailStore := .new, engine := .new config }

def getRecords (nodeId : Bytes32) : List SlashRecord := store.records[nodeId]?.getD []

def isJailed (nodeId : Bytes32) : Bool := store.jailStore.isJailed nodeId

def process (sha256 : Sha256) (offense : SlashableOffense) (nodeId : Bytes32) (epoch : U64)
    (evidence : Bytes) : SlashingStore × Except Phase4Error ProcessResult :=
  let (engine, record) := store.engine.processOffense nodeId sha256 offense epoch evidence
  let store := { store with
    engine := engine
    records := store.records.insert nodeId ((store.records[nodeId]?.getD []) ++ [record]) }
  if engine.shouldJail nodeId ∧ store.jailStore.isJailed nodeId = false then
    match store.jailStore.jail nodeId epoch engine.config.unjailCooldownEpochs with
    | .error e => (store, .error e)
    | .ok jailStore => ({ store with jailStore := jailStore }, .ok ⟨record, true⟩)
  else (store, .ok ⟨record, false⟩)

def unjail (nodeId : Bytes32) (currentEpoch : U64) : SlashingStore × Except Phase4Error Unit :=
  match store.jailStore.unjail nodeId currentEpoch with
  | .error e => (store, .error e)
  | .ok jailStore => ({ store with jailStore := jailStore, engine := store.engine.resetSlash nodeId }, .ok ())

end SlashingStore

inductive SlashingRequest
  | process (offense : SlashableOffense) (nodeId : Bytes32) (epoch : U64) (evidence : Bytes)
  | unjail (nodeId : Bytes32) (currentEpoch : U64)

/-- A store beside what was asked of it: the offenses recorded against each node, the basis points they
add up to since its last release, and the epoch in which it was jailed. -/
structure SlashHistory where
  store : SlashingStore
  offenses : Bytes32 → List SlashRecord
  accumulated : Bytes32 → Nat
  jailedAt : Bytes32 → Option U64

namespace SlashHistory

def start (config : SlashingConfig) : SlashHistory where
  store := .new config
  offenses := fun _ => []
  accumulated := fun _ => 0
  jailedAt := fun _ => none

def step (sha256 : Sha256) (history : SlashHistory) : SlashingRequest → SlashHistory
  | .process offense nodeId epoch evidence =>
      let (store, _) := history.store.process sha256 offense nodeId epoch evidence
      let bps := history.store.engine.config.slashRate offense
      let record := SlashRecord.new sha256 offense nodeId epoch evidence bps
      { store := store
        offenses := fun node =>
          if node = nodeId then history.offenses node ++ [record] else history.offenses node
        accumulated := fun node =>
          if node = nodeId then history.accumulated node + bps.toNat else history.accumulated node
        jailedAt := fun node =>
          if store.isJailed node = true ∧ history.store.isJailed node = false then some epoch
          else history.jailedAt node }
  | .unjail nodeId currentEpoch =>
      match history.store.unjail nodeId currentEpoch with
      | (_, .error _) => history
      | (store, .ok ()) =>
          { history with
            store := store
            accumulated := fun node => if node = nodeId then 0 else history.accumulated node
            jailedAt := fun node => if node = nodeId then none else history.jailedAt node }

def after (sha256 : Sha256) (config : SlashingConfig) (requests : List SlashingRequest) : SlashHistory :=
  requests.foldl (step sha256) (start config)

/-- A node is jailed when its offenses since its last release reach the threshold, it is released from the
epoch `eligible` on, and its records are the offenses recorded against it. -/
structure Follows (history : SlashHistory) (eligible : U64 → Nat) : Prop where
  jailed : ∀ node, history.store.isJailed node = true ↔
    history.store.engine.config.jailThresholdBps.toNat ≤ history.accumulated node
  released : ∀ node epoch, (history.store.unjail node epoch).2 = .ok () →
    ∃ jailed, history.jailedAt node = some jailed ∧ eligible jailed ≤ epoch.toNat
  records : ∀ node, history.store.getRecords node = history.offenses node

section Invariant

structure Booked (config : SlashingConfig) (history : SlashHistory) : Prop where
  configured : history.store.engine.config = config
  cumulative : ∀ node, (history.store.engine.cumulativeSlash[node]?.getD 0).toNat =
    min (history.accumulated node) (2 ^ 64 - 1)
  jails : ∀ node, history.store.jailStore.getRecord node =
    (history.jailedAt node).map fun epoch => .new node epoch config.unjailCooldownEpochs
  reached : ∀ node, (history.jailedAt node).isSome = true ↔
    config.jailThresholdBps.toNat ≤ history.accumulated node
  records : ∀ node, history.store.getRecords node = history.offenses node

variable {config : SlashingConfig} {history : SlashHistory}

theorem Booked.isJailed (booked : Booked config history) (node : Bytes32) :
    history.store.isJailed node = (history.jailedAt node).isSome := by
  rw [SlashingStore.isJailed, JailStore.isJailed, KeyedMap.contains_eq]
  have kept := booked.jails node
  rw [JailStore.getRecord] at kept
  rw [kept, Option.isSome_map]

theorem booked_start (positive : 0 < config.jailThresholdBps) : Booked config (start config) where
  configured := rfl
  cumulative := by
    intro node
    simp [start, SlashingStore.new, SlashingEngine.new]
  jails := by
    intro node
    simp [start, SlashingStore.new, JailStore.new, JailStore.getRecord]
  reached := by
    intro node
    have positive : 0 < config.jailThresholdBps.toNat := positive
    simp only [start, Option.isSome_none, Bool.false_eq_true, false_iff]
    omega
  records := by
    intro node
    simp [start, SlashingStore.new, SlashingStore.getRecords]

theorem process_store (sha256 : Sha256) (store : SlashingStore) (offense : SlashableOffense)
    (nodeId : Bytes32) (epoch : U64) (evidence : Bytes) :
    let bps := store.engine.config.slashRate offense
    let total := MachineInt.saturatingAdd (store.engine.cumulativeSlash[nodeId]?.getD 0) bps
    let after := (store.process sha256 offense nodeId epoch evidence).1
    after.engine = { store.engine with
      cumulativeSlash := store.engine.cumulativeSlash.insert nodeId total } ∧
    after.records = store.records.insert nodeId
      ((store.records[nodeId]?.getD []) ++ [.new sha256 offense nodeId epoch evidence bps]) ∧
    after.jailStore.records =
      if store.engine.config.jailThresholdBps ≤ total ∧ store.isJailed nodeId = false then
        store.jailStore.records.insert (.new nodeId epoch store.engine.config.unjailCooldownEpochs)
      else store.jailStore.records := by
  intro bps total after
  have reaches : (store.engine.processOffense nodeId sha256 offense epoch evidence).1.shouldJail nodeId =
      decide (store.engine.config.jailThresholdBps ≤ total) := by
    simp [SlashingEngine.processOffense, SlashingEngine.shouldJail, total, bps]
  unfold after SlashingStore.process
  dsimp only
  rw [reaches]
  by_cases jails : store.engine.config.jailThresholdBps ≤ total ∧ store.isJailed nodeId = false
  · obtain ⟨reached, free⟩ := jails
    have free' : store.jailStore.records.contains nodeId = false := free
    rw [if_pos ⟨decide_eq_true reached, free⟩, if_pos ⟨reached, free⟩, JailStore.jail, free']
    exact ⟨rfl, rfl, rfl⟩
  · rw [if_neg (by simpa [SlashingStore.isJailed] using jails), if_neg jails]
    exact ⟨rfl, rfl, rfl⟩

theorem jailed_and_free (b : Bool) : ¬ (b = true ∧ b = false) := by
  rintro ⟨rfl, no⟩
  cases no

theorem booked_process (sha256 : Sha256) (booked : Booked config history) (offense : SlashableOffense)
    (nodeId : Bytes32) (epoch : U64) (evidence : Bytes) :
    Booked config (history.step sha256 (.process offense nodeId epoch evidence)) := by
  obtain ⟨engine, records, jails⟩ := process_store sha256 history.store offense nodeId epoch evidence
  rw [booked.configured] at engine records jails
  generalize bps_eq : config.slashRate offense = bps at engine records jails
  have total : (MachineInt.saturatingAdd (history.store.engine.cumulativeSlash[nodeId]?.getD 0) bps).toNat =
      min (history.accumulated nodeId + bps.toNat) (2 ^ 64 - 1) := by
    have cumulative := booked.cumulative nodeId
    rw [MachineInt.toNat_saturatingAdd]
    omega
  generalize MachineInt.saturatingAdd (history.store.engine.cumulativeSlash[nodeId]?.getD 0) bps = sum
    at engine jails total
  have threshold := config.jailThresholdBps.isLt
  unfold step
  dsimp only
  rw [booked.configured, bps_eq]
  generalize (history.store.process sha256 offense nodeId epoch evidence).1 = store at engine records jails
  have known (node : Bytes32) : history.store.jailStore.records.get? node =
      (history.jailedAt node).map fun epoch => .new node epoch config.unjailCooldownEpochs :=
    booked.jails node
  have was := booked.isJailed
  have now (node : Bytes32) : store.isJailed node = (store.jailStore.records.get? node).isSome :=
    KeyedMap.contains_eq _ node
  have cumulative (node : Bytes32) : (store.engine.cumulativeSlash[node]?.getD 0).toNat =
      min (if node = nodeId then history.accumulated node + bps.toNat else history.accumulated node)
        (2 ^ 64 - 1) := by
    have before := booked.cumulative node
    rw [engine, BTree.getElem?_insert]
    by_cases here : nodeId = node
    · subst here
      simpa using total
    · simpa [here, Ne.symm here] using before
  have listed (node : Bytes32) : store.getRecords node =
      if node = nodeId then history.offenses node ++ [.new sha256 offense nodeId epoch evidence bps]
      else history.offenses node := by
    have before := booked.records node
    unfold SlashingStore.getRecords at before ⊢
    rw [records, BTree.getElem?_insert]
    by_cases here : nodeId = node
    · subst here
      simpa using before
    · simpa [here, Ne.symm here] using before
  refine ⟨by rw [engine, booked.configured], cumulative, ?_, ?_, listed⟩
  all_goals
    intro node
    dsimp only
  · by_cases jailing : config.jailThresholdBps ≤ sum ∧ history.store.isJailed nodeId = false
    · rw [if_pos jailing] at jails
      rw [now, JailStore.getRecord, jails, KeyedMap.get?_insert]
      by_cases here : nodeId = node
      · subst here
        simp [JailRecord.new, jailing.2]
      · have other : (JailRecord.new nodeId epoch config.unjailCooldownEpochs).nodeId ≠ node := here
        rw [if_neg other, known, Option.isSome_map, ← was, if_neg (jailed_and_free _)]
    · rw [if_neg jailing] at jails
      rw [now, JailStore.getRecord, jails, known, Option.isSome_map, ← was, if_neg (jailed_and_free _)]
  · by_cases here : node = nodeId
    · subst here
      have before := booked.reached node
      rw [if_pos rfl]
      by_cases jailed : history.store.isJailed node = true
      · have reached := before.1 (by rwa [← was])
        have held : (history.jailedAt node).isSome = true := by rwa [← was]
        rw [if_neg (by simp [jailed])]
        refine iff_of_true held ?_
        omega
      · have free : history.store.isJailed node = false := by simpa using jailed
        have unjailed : (history.jailedAt node).isSome = false := by rwa [← was]
        by_cases reached : config.jailThresholdBps ≤ sum
        · rw [if_pos ⟨reached, free⟩] at jails
          have reached : config.jailThresholdBps.toNat ≤ sum.toNat := reached
          rw [now, jails, KeyedMap.get?_insert]
          simp only [JailRecord.new, free, if_true, Option.isSome_some, and_self, true_iff]
          omega
        · rw [if_neg fun jailing => reached jailing.1] at jails
          have short : ¬ config.jailThresholdBps.toNat ≤ sum.toNat := reached
          rw [now, jails, known, Option.isSome_map, unjailed, if_neg (by simp), unjailed]
          simp only [Bool.false_eq_true, false_iff]
          omega
    · have same : store.isJailed node = history.store.isJailed node := by
        rw [now, jails, was node]
        split
        · have other : (JailRecord.new nodeId epoch config.unjailCooldownEpochs).nodeId ≠ node := Ne.symm here
          rw [KeyedMap.get?_insert, if_neg other, known, Option.isSome_map]
        · rw [known, Option.isSome_map]
      rw [same, if_neg (jailed_and_free _), if_neg here]
      exact booked.reached node

theorem booked_unjail (sha256 : Sha256) (booked : Booked config history)
    (positive : 0 < config.jailThresholdBps) (nodeId : Bytes32) (epoch : U64) :
    Booked config (history.step sha256 (.unjail nodeId epoch)) := by
  unfold step SlashingStore.unjail JailStore.unjail
  dsimp only
  cases found : history.store.jailStore.records.get? nodeId with
  | none => exact booked
  | some record =>
      dsimp only
      by_cases early : record.canUnjail epoch = false
      · rw [if_pos early]
        exact booked
      · rw [if_neg early]
        have positive : 0 < config.jailThresholdBps.toNat := positive
        refine ⟨booked.configured, ?_, ?_, ?_, booked.records⟩
        · intro node
          have before := booked.cumulative node
          dsimp only [SlashingEngine.resetSlash]
          rw [BTree.getElem?_erase]
          by_cases here : nodeId = node
          · subst here
            simp
          · simpa [here, Ne.symm here] using before
        · intro node
          have before := booked.jails node
          dsimp only [JailStore.getRecord] at before ⊢
          rw [KeyedMap.get?_erase]
          by_cases here : nodeId = node
          · subst here
            simp
          · simpa [here, Ne.symm here] using before
        · intro node
          have before := booked.reached node
          dsimp only
          by_cases here : node = nodeId
          · rw [if_pos here, if_pos here, Option.isSome_none]
            simp only [Bool.false_eq_true, false_iff]
            omega
          · rwa [if_neg here, if_neg here]

theorem booked_after (sha256 : Sha256) (positive : 0 < config.jailThresholdBps)
    (requests : List SlashingRequest) : Booked config (after sha256 config requests) := by
  induction requests using List.reverseRecOn with
  | nil => exact booked_start positive
  | append_singleton requests request ih =>
      rw [after, List.foldl_append, List.foldl_cons, List.foldl_nil]
      cases request with
      | process offense nodeId epoch evidence => exact booked_process sha256 ih offense nodeId epoch evidence
      | unjail nodeId epoch => exact booked_unjail sha256 ih positive nodeId epoch

end Invariant

def eligibleUnjail (config : SlashingConfig) (jailed : U64) : Nat :=
  min (jailed.toNat + config.unjailCooldownEpochs.toNat) (2 ^ 64 - 1)

theorem jailing_follows_history (sha256 : Sha256) (config : SlashingConfig)
    (positive : 0 < config.jailThresholdBps) (requests : List SlashingRequest) :
    (after sha256 config requests).Follows (eligibleUnjail config) := by
  have booked := booked_after sha256 positive requests
  generalize after sha256 config requests = history at booked
  refine ⟨?_, ?_, booked.records⟩
  · intro node
    rw [booked.isJailed, booked.reached, booked.configured]
  · intro node epoch released
    have jails := booked.jails node
    unfold SlashingStore.unjail JailStore.unjail at released
    unfold JailStore.getRecord at jails
    rw [jails] at released
    cases jailed : history.jailedAt node with
    | none =>
        rw [jailed] at released
        cases released
    | some since =>
        refine ⟨since, rfl, ?_⟩
        rw [jailed, Option.map_some] at released
        dsimp only at released
        by_cases early : (JailRecord.new node since config.unjailCooldownEpochs).canUnjail epoch = false
        · rw [if_pos early] at released
          cases released
        · have due : MachineInt.saturatingAdd since config.unjailCooldownEpochs ≤ epoch := by
            unfold JailRecord.canUnjail at early
            exact of_decide_eq_true ((Bool.not_eq_false _).mp early)
          have due := BitVec.le_def.1 due
          rwa [MachineInt.toNat_saturatingAdd] at due

section LastEpoch

def jailedLast : SlashHistory :=
  after (fun _ => 0) .defaultConfig
    [.process .doubleProposal 1 (BitVec.ofNat 64 (2 ^ 64 - 1)) [],
      .process .doubleProposal 1 (BitVec.ofNat 64 (2 ^ 64 - 1)) []]

theorem released_before_cooldown : ¬ jailedLast.Follows fun jailed =>
    jailed.toNat + SlashingConfig.defaultConfig.unjailCooldownEpochs.toNat := by
  intro follows
  obtain ⟨jailed, since, elapsed⟩ := follows.released 1 (BitVec.ofNat 64 (2 ^ 64 - 1)) (by decide +kernel)
  have late : jailedLast.jailedAt 1 = some (BitVec.ofNat 64 (2 ^ 64 - 1)) := by decide +kernel
  rw [late, Option.some.injEq] at since
  subst since
  revert elapsed
  decide

end LastEpoch

theorem jailing_follows_default_history :
    (after (fun _ => 0) .defaultConfig [.process .doubleProposal 1 4 [], .process .doubleProposal 1 5 [],
      .unjail 1 15, .process .absentFromDuty 1 16 []]).Follows (eligibleUnjail .defaultConfig) :=
  jailing_follows_history _ _ (by decide) _

end SlashHistory

end Omniphi.PoSeq
