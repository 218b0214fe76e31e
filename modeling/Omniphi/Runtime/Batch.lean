import Omniphi.Runtime.Resolver
import Omniphi.Runtime.Settlement

/-! The runtime behind the sequencer: an ordered batch of intents is resolved against the store as it
stands, scheduled, and settled. -/

namespace Omniphi.Runtime

structure CapabilityRegistry where
  entries : BTreeMap Bytes32 CapabilitySet
  defaultCaps : CapabilitySet

def CapabilityRegistry.resolve (registry : CapabilityRegistry) (sender : Bytes32) : CapabilitySet :=
  registry.entries[sender]?.getD registry.defaultCaps

structure SafetyKernel where
  quarantinedObjects : BTreeSet Bytes32
  emergencyMode : Bool

def SafetyKernel.isObjectQuarantined (kernel : SafetyKernel) (id : ObjectId) : Bool :=
  kernel.quarantinedObjects.contains id

structure OrderedBatch where
  batchId : Bytes32
  epoch : U64
  sequenceNumber : U64
  transactions : List IntentTransaction

structure PoSeqRuntime where
  store : ObjectStore
  currentEpoch : U64
  safety : Option SafetyKernel
  capabilityRegistry : Option CapabilityRegistry

namespace PoSeqRuntime

def new : PoSeqRuntime :=
  { store := .new, currentEpoch := 0, safety := none, capabilityRegistry := none }

def capsOf (runtime : PoSeqRuntime) (sender : Bytes32) : CapabilitySet :=
  match runtime.capabilityRegistry with
  | some registry => registry.resolve sender
  | none => .userDefault

def resolveAll (runtime : PoSeqRuntime) : List IntentTransaction → Resolution (List ExecutionPlan)
  | [] => .ok []
  | tx :: rest =>
      match IntentResolver.resolve tx runtime.store (runtime.capsOf tx.sender) with
      | .ok plan => do
          let plans ← resolveAll runtime rest
          return plan :: plans
      | .error (.error _) => resolveAll runtime rest
      | .error .panic => .error .panic

def admissible (runtime : PoSeqRuntime) (plans : List ExecutionPlan) : List ExecutionPlan :=
  match runtime.safety with
  | some safety => plans.filter fun plan =>
      !plan.objectAccess.any fun access => safety.isObjectQuarantined access.objectId
  | none => plans

def inEmergency (runtime : PoSeqRuntime) : Bool :=
  match runtime.safety with
  | some safety => safety.emergencyMode
  | none => false

/-- The outcome, and the runtime as the call leaves it. A panic leaves what was changed before it. -/
def processBatch (sha256 : Sha256) (encode : BoxedObject → Bytes) (runtime : PoSeqRuntime)
    (batch : OrderedBatch) : Resolution SettlementResult × PoSeqRuntime :=
  if runtime.inEmergency then
    (.error (.error (.domainPaused
      "emergency mode active — all execution halted until governance reset")), runtime)
  else
    let runtime := { runtime with currentEpoch := batch.epoch }
    let validTxns := batch.transactions.filter fun tx => tx.validate matches .ok ()
    match runtime.resolveAll validTxns with
    | .error halt => (.error halt, runtime)
    | .ok plans =>
      let groups := ParallelScheduler.schedule (runtime.admissible plans)
      let (result, store) := SettlementEngine.executeGroups sha256 encode groups runtime.store
        batch.epoch
      (.ok result, { runtime with store })

end PoSeqRuntime

end Omniphi.Runtime
