import Omniphi.Runtime.Objects

/-! Capabilities and the errors of the runtime, with the texts a receipt carries. -/

namespace Omniphi.Runtime

inductive Capability
  | readObject
  | writeObject
  | transferAsset
  | swapAsset
  | provideLiquidity
  | withdrawLiquidity
  | mintAsset
  | burnAsset
  | modifyGovernance
  | updateIdentity
  | contractCall (schemaId : SchemaId)
  | contractAdmin (schemaId : SchemaId)
  | contractDeploy
deriving DecidableEq, Repr

def debugBytes (bytes : Bytes32) : String :=
  "[" ++ ", ".intercalate ((beBytes 32 bytes).map toString) ++ "]"

namespace Capability

def debug : Capability → String
  | readObject => "ReadObject"
  | writeObject => "WriteObject"
  | transferAsset => "TransferAsset"
  | swapAsset => "SwapAsset"
  | provideLiquidity => "ProvideLiquidity"
  | withdrawLiquidity => "WithdrawLiquidity"
  | mintAsset => "MintAsset"
  | burnAsset => "BurnAsset"
  | modifyGovernance => "ModifyGovernance"
  | updateIdentity => "UpdateIdentity"
  | contractCall schemaId => "ContractCall(" ++ debugBytes schemaId ++ ")"
  | contractAdmin schemaId => "ContractAdmin(" ++ debugBytes schemaId ++ ")"
  | contractDeploy => "ContractDeploy"

def rank : Capability → Nat × Bytes32
  | readObject => (0, 0)
  | writeObject => (1, 0)
  | transferAsset => (2, 0)
  | swapAsset => (3, 0)
  | provideLiquidity => (4, 0)
  | withdrawLiquidity => (5, 0)
  | mintAsset => (6, 0)
  | burnAsset => (7, 0)
  | modifyGovernance => (8, 0)
  | updateIdentity => (9, 0)
  | contractCall schemaId => (10, schemaId)
  | contractAdmin schemaId => (11, schemaId)
  | contractDeploy => (12, 0)

instance : Ord Capability := ⟨@compareOn _ _ lexOrd rank⟩

instance : Std.TransOrd Capability :=
  inferInstanceAs (Std.TransCmp (@compareOn _ _ lexOrd rank))

instance : Std.LawfulEqOrd Capability :=
  @BTree.lawfulEq_of_injective _ _ lexOrd rank _ (by
    intro a b same
    cases a <;> cases b <;> simp_all [rank])

end Capability

abbrev CapabilitySet := BTreeSet Capability

namespace CapabilitySet

def userDefault : CapabilitySet :=
  Std.ExtTreeSet.ofList [.readObject, .writeObject, .transferAsset, .swapAsset] compare

end CapabilitySet

inductive RuntimeError
  | invalidIntent (message : String)
  | unauthorizedCapability (required : Capability) (held : CapabilitySet)
  | objectNotFound (id : ObjectId)
  | insufficientBalance (required available : U128)
  | constraintViolation (message : String)
  | resolutionFailure (message : String)
  | objectQuarantined (id : ObjectId)
  | domainPaused (domain : String)
  | contractConstraintViolation (schemaId : SchemaId) (reason : String)
  | contractValidatorError (message : String)
  | noCandidatePlans
  | causalViolation (message : String)

namespace RuntimeError

def display : RuntimeError → String
  | invalidIntent message => "InvalidIntent: " ++ message
  | unauthorizedCapability required _ => "UnauthorizedCapability: missing " ++ required.debug
  | objectNotFound id => "ObjectNotFound: " ++ id.toHex
  | insufficientBalance required available =>
      "InsufficientBalance: required=" ++ toString required.toNat ++ ", available=" ++
        toString available.toNat
  | constraintViolation message => "ConstraintViolation: " ++ message
  | resolutionFailure message => "ResolutionFailure: " ++ message
  | objectQuarantined id => "ObjectQuarantined: " ++ id.toHex
  | domainPaused domain => "DomainPaused: " ++ domain
  | contractConstraintViolation schemaId reason =>
      "ContractConstraintViolation: schema=" ++ schemaId.toHex ++ " reason=" ++ reason
  | contractValidatorError message => "ContractValidatorError: " ++ message
  | noCandidatePlans => "NoCandidatePlans"
  | causalViolation message => "CausalViolation: " ++ message

end RuntimeError

namespace CapabilityChecker

def check (held : CapabilitySet) : List Capability → Except RuntimeError Unit
  | [] => .ok ()
  | cap :: required =>
      if held.contains cap then check held required else .error (.unauthorizedCapability cap held)

end CapabilityChecker

end Omniphi.Runtime
