import Omniphi.Basic

/-! The objects of the ledger. `BoxedObject` is the sum of the concrete kinds behind the source's
`Box<dyn Object>`. -/

namespace Omniphi.Runtime

abbrev ObjectId := Bytes32
abbrev SchemaId := Bytes32
abbrev ObjectVersion := U64

inductive ObjectType
  | wallet
  | balance
  | token
  | liquidityPool
  | vault
  | governanceProposal
  | identity
  | executionReceipt
  | contract (schemaId : SchemaId)
deriving DecidableEq, Repr

inductive AccessMode
  | readOnly
  | readWrite
deriving DecidableEq, Repr

structure ObjectAccess where
  objectId : ObjectId
  mode : AccessMode
deriving DecidableEq, Repr

namespace ObjectAccess

def read (objectId : ObjectId) : ObjectAccess := ⟨objectId, .readOnly⟩

def write (objectId : ObjectId) : ObjectAccess := ⟨objectId, .readWrite⟩

end ObjectAccess

structure ObjectMeta where
  id : ObjectId
  objectType : ObjectType
  owner : Bytes32
  version : ObjectVersion
  createdAt : U64
  updatedAt : U64
deriving DecidableEq

def ObjectMeta.new (id : ObjectId) (objectType : ObjectType) (owner : Bytes32) (now : U64) :
    ObjectMeta :=
  { id, objectType, owner, version := 0, createdAt := now, updatedAt := now }

structure WalletObject where
  info : ObjectMeta
  address : Bytes32
  authorizedKeys : List Bytes32
  nonce : U64
deriving DecidableEq

structure BalanceObject where
  info : ObjectMeta
  owner : Bytes32
  assetId : Bytes32
  amount : U128
  lockedAmount : U128
deriving DecidableEq

namespace BalanceObject

def new (id : ObjectId) (owner assetId : Bytes32) (amount : U128) (now : U64) : BalanceObject :=
  { info := .new id .balance owner now, owner, assetId, amount, lockedAmount := 0 }

def available (balance : BalanceObject) : U128 :=
  MachineInt.saturatingSub balance.amount balance.lockedAmount

end BalanceObject

structure TokenObject where
  info : ObjectMeta
  assetId : Bytes32
  symbol : String
  decimals : U8
  totalSupply : U128
  maxSupply : Option U128
  mintAuthority : Option Bytes32
deriving DecidableEq

def TokenObject.new (id : ObjectId) (owner assetId : Bytes32) (symbol : String) (decimals : U8)
    (totalSupply : U128) (now : U64) : TokenObject :=
  { info := .new id .token owner now, assetId, symbol, decimals, totalSupply
    maxSupply := none, mintAuthority := some owner }

structure LiquidityPoolObject where
  info : ObjectMeta
  assetA : Bytes32
  assetB : Bytes32
  reserveA : U128
  reserveB : U128
  feeBps : U32
  lpTokenId : Bytes32
  totalLpSupply : U128
deriving DecidableEq

structure VaultObject where
  info : ObjectMeta
  assetId : Bytes32
  depositedAmount : U128
  strategyId : Option Bytes32
  withdrawalLockUntil : U64
deriving DecidableEq

inductive ProposalStatus
  | active
  | passed
  | rejected
  | expired
deriving DecidableEq

structure GovernanceProposalObject where
  info : ObjectMeta
  proposalId : U64
  proposer : Bytes32
  title : String
  description : String
  voteYes : U128
  voteNo : U128
  voteAbstain : U128
  deadlineEpoch : U64
  status : ProposalStatus
deriving DecidableEq

structure IdentityObject where
  info : ObjectMeta
  address : Bytes32
  displayName : String
  verified : Bool
  reputationScore : U64
  kycTier : U8
deriving DecidableEq

structure ExecutionReceiptObject where
  info : ObjectMeta
  txId : Bytes32
  success : Bool
  affectedObjects : List ObjectId
  oldVersions : List (ObjectId × ObjectVersion)
  newVersions : List (ObjectId × ObjectVersion)
  errorCode : Option U32
  gasUsed : U64
  executedAtEpoch : U64
deriving DecidableEq

structure ContractObject where
  info : ObjectMeta
  schemaId : SchemaId
  state : Bytes
  stateHash : Bytes32
  createdBy : Bytes32
  admin : Option Bytes32
  maxStateBytes : U64
deriving DecidableEq

def ContractObject.setState (sha256 : Sha256) (contract : ContractObject) (newState : Bytes) :
    ContractObject :=
  { contract with stateHash := sha256 newState, state := newState }

inductive BoxedObject
  | wallet (object : WalletObject)
  | balance (object : BalanceObject)
  | token (object : TokenObject)
  | pool (object : LiquidityPoolObject)
  | vault (object : VaultObject)
  | proposal (object : GovernanceProposalObject)
  | identity (object : IdentityObject)
  | receipt (object : ExecutionReceiptObject)
  | contract (object : ContractObject)
deriving DecidableEq

namespace BoxedObject

def info : BoxedObject → ObjectMeta
  | wallet object => object.info
  | balance object => object.info
  | token object => object.info
  | pool object => object.info
  | vault object => object.info
  | proposal object => object.info
  | identity object => object.info
  | receipt object => object.info
  | contract object => object.info

def modifyInfo (change : ObjectMeta → ObjectMeta) : BoxedObject → BoxedObject
  | wallet object => wallet { object with info := change object.info }
  | balance object => balance { object with info := change object.info }
  | token object => token { object with info := change object.info }
  | pool object => pool { object with info := change object.info }
  | vault object => vault { object with info := change object.info }
  | proposal object => proposal { object with info := change object.info }
  | identity object => identity { object with info := change object.info }
  | receipt object => receipt { object with info := change object.info }
  | contract object => contract { object with info := change object.info }

/-- The type is that of the concrete kind; the type recorded in the metadata is not consulted. -/
def objectType : BoxedObject → ObjectType
  | wallet _ => .wallet
  | balance _ => .balance
  | token _ => .token
  | pool _ => .liquidityPool
  | vault _ => .vault
  | proposal _ => .governanceProposal
  | identity _ => .identity
  | receipt _ => .executionReceipt
  | contract object => .contract object.schemaId

/-- The object read back as a contract. Within a plan only a new token can take the place of an
object that was validated as a contract, and a token's encoding ends before a contract's would. -/
def asContract : BoxedObject → Option ContractObject
  | contract object => some object
  | _ => none

@[simp] theorem info_modifyInfo (change : ObjectMeta → ObjectMeta) (object : BoxedObject) :
    (object.modifyInfo change).info = change object.info := by
  cases object <;> rfl

end BoxedObject

end Omniphi.Runtime
