import Omniphi.Basic
import Omniphi.Lib.OwnerIndex
import Omniphi.Lib.Run

/-! The registry of non-fungible tokens, and when its index of owners stays in step with the tokens. -/

namespace Omniphi.Runtime.Nft

structure NonFungibleToken where
  tokenId : Bytes32
  collectionId : Bytes32
  owner : Bytes32
  metadataUri : String
  approved : Option Bytes32
  mintedAtEpoch : U64
  frozen : Bool

structure NFTRegistry where
  tokens : BTreeMap Bytes32 NonFungibleToken
  collectionSerials : BTreeMap Bytes32 U64
  ownerIndex : BTreeMap Bytes32 (List Bytes32)

/-! What a call through `&mut self` returns, and what it leaves of `self`. -/

namespace NonFungibleToken

def new (tokenId collectionId owner : Bytes32) (metadataUri : String) (epoch : U64) : NonFungibleToken :=
  { tokenId, collectionId, owner, metadataUri, approved := none, mintedAtEpoch := epoch, frozen := false }

def computeTokenId (sha256 : Sha256) (collectionId : Bytes32) (serial : U64) : Bytes32 :=
  sha256 (strBytes "OMNIPHI_NFT_V1" ++ beBytes 32 collectionId ++ beBytes 8 serial)

variable (nft : NonFungibleToken)

def transfer (sender recipient : Bytes32) : Except String Unit × NonFungibleToken :=
  if nft.frozen then (.error "NFT is frozen", nft)
  else if nft.owner ≠ sender ∧ nft.approved ≠ some sender then (.error "not owner or approved", nft)
  else (.ok (), { nft with owner := recipient, approved := none })

def approve (caller operator : Bytes32) : Except String Unit × NonFungibleToken :=
  if nft.owner ≠ caller then (.error "only owner can approve", nft)
  else (.ok (), { nft with approved := some operator })

end NonFungibleToken

/-- The calls on a registry. Approvals go to the token, in the registry's map of them. -/
inductive Call
  | mint (collectionId owner : Bytes32) (metadataUri : String) (epoch : U64)
  | transfer (tokenId sender recipient : Bytes32)
  | approve (tokenId caller operator : Bytes32)
  | burn (tokenId caller : Bytes32)

namespace NFTRegistry

def new : NFTRegistry := { tokens := ∅, collectionSerials := ∅, ownerIndex := ∅ }

variable (sha256 : Sha256) (registry : NFTRegistry)

def nextTokenId (collectionId : Bytes32) : Bytes32 :=
  NonFungibleToken.computeTokenId sha256 collectionId (registry.collectionSerials[collectionId]?.getD 0)

def mint (collectionId owner : Bytes32) (metadataUri : String) (epoch : U64) : Bytes32 × NFTRegistry :=
  let serial := registry.collectionSerials[collectionId]?.getD 0
  let tokenId := NonFungibleToken.computeTokenId sha256 collectionId serial
  let nft := NonFungibleToken.new tokenId collectionId owner metadataUri epoch
  (tokenId,
    { tokens := registry.tokens.insert tokenId nft
      collectionSerials := registry.collectionSerials.insert collectionId (serial + 1)
      ownerIndex := BTree.push registry.ownerIndex owner tokenId })

def transfer (tokenId sender recipient : Bytes32) : Except String Unit × NFTRegistry :=
  match registry.tokens[tokenId]? with
  | none => (.error "NFT not found", registry)
  | some nft =>
      let (result, nft) := nft.transfer sender recipient
      let registry := { registry with tokens := registry.tokens.insert tokenId nft }
      match result with
      | .error e => (.error e, registry)
      | .ok () => (.ok (), { registry with
          ownerIndex := BTree.push (OwnerIndex.retain registry.ownerIndex sender tokenId) recipient tokenId })

/-- An approval through the token, which a token that does not exist has nothing to answer with. -/
def approve (tokenId caller operator : Bytes32) : Except String Unit × NFTRegistry :=
  match registry.tokens[tokenId]? with
  | none => (.ok (), registry)
  | some nft =>
      let (result, nft) := nft.approve caller operator
      (result, { registry with tokens := registry.tokens.insert tokenId nft })

def burn (tokenId caller : Bytes32) : Except String Unit × NFTRegistry :=
  match registry.tokens[tokenId]? with
  | none => (.error "NFT not found", registry)
  | some nft =>
      if nft.owner ≠ caller then (.error "only owner can burn", registry)
      else (.ok (), { registry with
        tokens := registry.tokens.erase tokenId
        ownerIndex := OwnerIndex.retain registry.ownerIndex nft.owner tokenId })

def perform : Call → Except String Unit × NFTRegistry
  | .mint collectionId owner metadataUri epoch =>
      (.ok (), (registry.mint sha256 collectionId owner metadataUri epoch).2)
  | .transfer tokenId sender recipient => registry.transfer tokenId sender recipient
  | .approve tokenId caller operator => registry.approve tokenId caller operator
  | .burn tokenId caller => registry.burn tokenId caller

def step (call : Call) : NFTRegistry := (registry.perform sha256 call).2

end NFTRegistry

variable {sha256 : Sha256} {registry : NFTRegistry}

section Holders

def holder (registry : NFTRegistry) (tokenId : Bytes32) : Option Bytes32 :=
  registry.tokens[tokenId]?.map fun nft => nft.owner

def IndexExact (registry : NFTRegistry) : Prop := OwnerIndex.Exact registry.ownerIndex (holder registry)

theorem holder_found {tokenId : Bytes32} {nft : NonFungibleToken} (found : registry.tokens[tokenId]? = some nft) :
    holder registry tokenId = some nft.owner := by
  rw [holder, found, Option.map_some]

theorem holder_insert (registry : NFTRegistry) (tokenId : Bytes32) (nft : NonFungibleToken)
    (serials : BTreeMap Bytes32 U64) (index : BTreeMap Bytes32 (List Bytes32)) :
    holder ⟨registry.tokens.insert tokenId nft, serials, index⟩ =
      Function.update (holder registry) tokenId (some nft.owner) :=
  OwnerIndex.map_insert registry.tokens NonFungibleToken.owner tokenId nft

theorem holder_erase (registry : NFTRegistry) (tokenId : Bytes32) (serials : BTreeMap Bytes32 U64)
    (index : BTreeMap Bytes32 (List Bytes32)) :
    holder ⟨registry.tokens.erase tokenId, serials, index⟩ = Function.update (holder registry) tokenId none :=
  OwnerIndex.map_erase registry.tokens NonFungibleToken.owner tokenId

theorem insert_found {tokenId : Bytes32} {nft : NonFungibleToken} (found : registry.tokens[tokenId]? = some nft) :
    registry.tokens.insert tokenId nft = registry.tokens := by
  apply Std.ExtTreeMap.ext_getElem?
  intro other
  rw [BTree.getElem?_insert]
  split
  · rename_i here
    rw [← here, found]
  · rfl

end Holders

section Steps

/-- The token's own transfer: accepted for an unfrozen token's owner or operator, and else no change. -/
def Accepts (nft : NonFungibleToken) (sender : Bytes32) : Prop :=
  ¬nft.frozen ∧ (nft.owner = sender ∨ nft.approved = some sender)

theorem transfer_cases (nft : NonFungibleToken) (sender recipient : Bytes32) :
    (¬Accepts nft sender ∧ ∃ e, nft.transfer sender recipient = (.error e, nft)) ∨
      (Accepts nft sender ∧
        nft.transfer sender recipient = (.ok (), { nft with owner := recipient, approved := none })) := by
  unfold NonFungibleToken.transfer Accepts
  split_ifs with frozen stranger
  · exact Or.inl ⟨fun accepted => accepted.1 frozen, _, rfl⟩
  · exact Or.inl ⟨fun accepted => accepted.2.elim stranger.1 stranger.2, _, rfl⟩
  · exact Or.inr ⟨⟨frozen, by tauto⟩, rfl⟩

/-- What a step must do: leave the index exact, each token under one owner alone, and change nothing when
it returns an error. -/
structure Upheld (sha256 : Sha256) (registry : NFTRegistry) (call : Call) : Prop where
  exact : IndexExact (registry.step sha256 call)
  single : ∀ tokenId, (registry.step sha256 call).tokens.contains tokenId →
    ∃! owner : Bytes32, tokenId ∈ (registry.step sha256 call).ownerIndex[owner]?.getD []
  unchanged : ∀ e, (registry.perform sha256 call).1 = .error e → registry.step sha256 call = registry

/-- A mint does not meet a token of another owner, and a transfer by an operator brings the token to the
operator's own list or leaves it with its owner. -/
def Tracked (sha256 : Sha256) (registry : NFTRegistry) : Call → Prop
  | .mint collectionId owner _ _ =>
      ∀ nft, registry.tokens[registry.nextTokenId sha256 collectionId]? = some nft → nft.owner = owner
  | .transfer tokenId sender recipient =>
      ∀ nft, registry.tokens[tokenId]? = some nft → Accepts nft sender → sender = nft.owner ∨ recipient = nft.owner
  | _ => True

theorem mint_exact_iff (exact : IndexExact registry) (collectionId owner : Bytes32) (metadataUri : String)
    (epoch : U64) : IndexExact (registry.mint sha256 collectionId owner metadataUri epoch).2 ↔
      Tracked sha256 registry (.mint collectionId owner metadataUri epoch) := by
  rw [IndexExact, NFTRegistry.mint, holder_insert]
  refine (exact.push_iff owner _).trans ?_
  constructor
  · intro alone nft found
    exact alone nft.owner (holder_found found)
  · intro tracked a held
    obtain ⟨nft, found, rfl⟩ := Option.map_eq_some_iff.1 held
    exact tracked nft found

theorem transfer_exact_iff (exact : IndexExact registry) (tokenId sender recipient : Bytes32) :
    IndexExact (registry.transfer tokenId sender recipient).2 ↔
      Tracked sha256 registry (.transfer tokenId sender recipient) := by
  unfold NFTRegistry.transfer Tracked
  cases found : registry.tokens[tokenId]? with
  | none =>
      refine iff_of_true exact fun nft held => ?_
      cases found.symm.trans held
  | some nft =>
      dsimp only
      rcases transfer_cases nft sender recipient with ⟨refused, e, answer⟩ | ⟨accepted, answer⟩
      · rw [answer]
        dsimp only
        rw [insert_found found]
        refine iff_of_true exact fun other held accepted => ?_
        obtain rfl := Option.some.inj (found.symm.trans held)
        exact absurd accepted refused
      · rw [answer]
        dsimp only
        rw [IndexExact, holder_insert]
        refine (exact.move_iff (holder_found found)).trans ?_
        constructor
        · intro either other held _
          obtain rfl := Option.some.inj (found.symm.trans held)
          exact either
        · intro tracked
          exact tracked nft found accepted

theorem approve_exact (exact : IndexExact registry) (tokenId caller operator : Bytes32) :
    IndexExact (registry.approve tokenId caller operator).2 := by
  unfold NFTRegistry.approve
  cases found : registry.tokens[tokenId]? with
  | none => exact exact
  | some nft =>
      have same : (nft.approve caller operator).2.owner = nft.owner := by
        unfold NonFungibleToken.approve
        split <;> rfl
      dsimp only
      rw [IndexExact, holder_insert, same, ← holder_found found, Function.update_eq_self]
      exact exact

theorem burn_exact (exact : IndexExact registry) (tokenId caller : Bytes32) :
    IndexExact (registry.burn tokenId caller).2 := by
  unfold NFTRegistry.burn
  cases found : registry.tokens[tokenId]? with
  | none => exact exact
  | some nft =>
      dsimp only
      split
      · exact exact
      · rw [IndexExact, holder_erase]
        exact exact.retain (holder_found found)

theorem step_exact_iff (exact : IndexExact registry) (call : Call) :
    IndexExact (registry.step sha256 call) ↔ Tracked sha256 registry call := by
  cases call with
  | mint collectionId owner metadataUri epoch => exact mint_exact_iff exact collectionId owner metadataUri epoch
  | transfer tokenId sender recipient => exact transfer_exact_iff exact tokenId sender recipient
  | approve tokenId caller operator => exact iff_of_true (approve_exact exact tokenId caller operator) trivial
  | burn tokenId caller => exact iff_of_true (burn_exact exact tokenId caller) trivial

theorem step_refused {call : Call} {e : String} (refused : (registry.perform sha256 call).1 = .error e) :
    registry.step sha256 call = registry := by
  unfold NFTRegistry.step
  cases call with
  | mint collectionId owner metadataUri epoch => cases refused
  | transfer tokenId sender recipient =>
      rw [NFTRegistry.perform, NFTRegistry.transfer] at refused ⊢
      cases found : registry.tokens[tokenId]? with
      | none => rfl
      | some nft =>
          rw [found] at refused
          rcases transfer_cases nft sender recipient with ⟨-, e, answer⟩ | ⟨-, answer⟩
          · dsimp only
            rw [answer]
            dsimp only
            rw [insert_found found]
          · dsimp only at refused
            rw [answer] at refused
            cases refused
  | approve tokenId caller operator =>
      rw [NFTRegistry.perform, NFTRegistry.approve] at refused ⊢
      cases found : registry.tokens[tokenId]? with
      | none => rfl
      | some nft =>
          rw [found] at refused
          dsimp only [NonFungibleToken.approve] at refused ⊢
          split_ifs at refused ⊢
          rw [insert_found found]
  | burn tokenId caller =>
      rw [NFTRegistry.perform, NFTRegistry.burn] at refused ⊢
      cases found : registry.tokens[tokenId]? with
      | none => rfl
      | some nft =>
          rw [found] at refused
          dsimp only at refused ⊢
          split_ifs at refused ⊢
          rfl

theorem upheld_iff (exact : IndexExact registry) (call : Call) :
    Upheld sha256 registry call ↔ Tracked sha256 registry call := by
  rw [← step_exact_iff exact call]
  constructor
  · exact Upheld.exact
  · intro after
    refine ⟨after, fun tokenId minted => ?_, fun e => step_refused⟩
    rw [Std.ExtTreeMap.contains_eq_isSome_getElem?, Option.isSome_iff_exists] at minted
    obtain ⟨nft, found⟩ := minted
    exact after.existsUnique (holder_found found)

end Steps

section Runs

theorem indexExact_new : IndexExact .new := by
  have none : holder .new = fun _ => none := by
    funext tokenId
    simp [holder, NFTRegistry.new]
  rw [IndexExact, none]
  exact OwnerIndex.exact_empty

/-- The index follows the tokens over a run exactly when no operator moves a token from one owner to
another and no mint meets a token of another owner. -/
theorem upheld_along_iff (sha256 : Sha256) (calls : List Call) :
    Run.Along (NFTRegistry.step sha256) (Upheld sha256) .new calls ↔
      Run.Along (NFTRegistry.step sha256) (Tracked sha256) .new calls := by
  refine Run.along_congr ?_ ?_ indexExact_new calls
  · intro registry call exact_
    exact upheld_iff exact_ call
  · intro registry call _ upheld
    exact upheld.exact

def operatorSells (sha256 : Sha256) : List Call :=
  let tokenId := NonFungibleToken.computeTokenId sha256 7 0
  [.mint 7 1 "ipfs://1" 5, .approve tokenId 1 3, .transfer tokenId 3 2]

/-- Under every digest the token is then under both owners. -/
theorem operatorSells_breaks_index : ¬ ∃ sha256, ∀ calls,
    Run.Along (NFTRegistry.step sha256) (Upheld sha256) .new calls := by
  rintro ⟨sha256, upheld⟩
  obtain ⟨-, -, sold, -⟩ := (upheld_along_iff sha256 _).1 (upheld (operatorSells sha256))
  let tokenId := NonFungibleToken.computeTokenId sha256 7 0
  let minted := NonFungibleToken.new tokenId 7 1 "ipfs://1" 5
  have held : (NFTRegistry.new.step sha256 (.mint 7 1 "ipfs://1" 5)).tokens[tokenId]? = some minted := by
    simp [NFTRegistry.step, NFTRegistry.perform, NFTRegistry.mint, NFTRegistry.new, tokenId, minted]
  have approved : ((NFTRegistry.new.step sha256 (.mint 7 1 "ipfs://1" 5)).step sha256
      (.approve tokenId 1 3)).tokens[tokenId]? = some { minted with approved := some 3 } := by
    rw [NFTRegistry.step, NFTRegistry.perform, NFTRegistry.approve, held]
    exact Std.ExtTreeMap.getElem?_insert_self
  have same : (3 : Bytes32) = 1 ∨ (2 : Bytes32) = 1 := sold _ approved ⟨nofun, Or.inr rfl⟩
  exact absurd same (by decide)

end Runs

end Omniphi.Runtime.Nft
