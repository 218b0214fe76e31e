import Omniphi.Poc.Review

/-! The registry of accepted contributions: their lineage, and what its registrations make of it. -/

namespace Omniphi.Poc

section Types

inductive DerivationReason
  | none | ai | human | explicit
  deriving DecidableEq

structure ProvenanceEntry where
  claimID : U64
  canonicalHash : Bytes
  category : String
  submitter : String
  parentClaimID : U64
  isDerivative : Bool
  derivationReason : DerivationReason
  originalityMultiplier : LegacyDec
  qualityScore : U32
  depth : U32
  acceptedAtHeight : Int
  acceptedAtTime : Int
  epoch : U64
  schemaVersion : U32

structure AcceptedContribution where
  id : U64
  contributor : String
  ctype : String
  canonicalHash : Bytes
  isDerivative : Bool
  parentClaimId : U64

inductive ProvenanceError
  | alreadyRegistered | parentNotFound | cycleDetected | maxDepthExceeded | notFound
  | canonicalHashLength (length : Nat)
  deriving DecidableEq

structure ProvenanceParams where
  enableProvenanceRegistry : Bool
  maxProvenanceDepth : U32
  provenanceSchemaVersion : U32
  formula : RewardFormula
  bounded : maxProvenanceDepth.toNat ≤ 20

/-- The block of a registration, and what the other stores hold of the claim. -/
structure ProvenanceCall where
  params : ProvenanceParams
  overallSimilarity : Option U32
  height : Int
  time : Int
  currentEpoch : U64

end Types

section Keys

def canonicalHashSize : Nat := 32

def defaultMaxProvenanceDepth : U32 := 10

def defaultProvenanceSchemaVersion : U32 := 1

def getProvenanceChildIndexPrefix (parentClaimID : U64) : Bytes := 0x28 :: beBytes 8 parentClaimID

def getProvenanceHashIndexPrefix (canonicalHash : Bytes) : Bytes := 0x29 :: canonicalHash

def getProvenanceSubmitterIndexPrefix (addr : String) : Bytes := 0x2A :: strBytes addr

def getProvenanceCategoryIndexPrefix (category : String) : Bytes := 0x2B :: strBytes category

def getProvenanceEpochIndexPrefix (epoch : U64) : Bytes := 0x2C :: beBytes 8 epoch

/-- Every key of an index is a prefix followed by the claim. -/
def indexKey (start : Bytes) (claimID : U64) : Bytes := start ++ beBytes 8 claimID

end Keys

/-- The records under the claims, and the keys of the indexes, which hold no value. -/
structure ProvenanceRegistry where
  entries : KeyedMap ProvenanceEntry.claimID
  index : BTreeMap Bytes Unit

namespace ProvenanceRegistry

def empty : ProvenanceRegistry := ⟨.empty, ∅⟩

section Operations

variable (k : ProvenanceRegistry)

def getProvenanceEntry (claimID : U64) : Option ProvenanceEntry := k.entries.get? claimID

def hasProvenanceEntry (claimID : U64) : Bool := (k.getProvenanceEntry claimID).isSome

def setIndex (key : Bytes) : ProvenanceRegistry := { k with index := k.index.insert key () }

def setIndexIf (indexed : Bool) (key : Bytes) : ProvenanceRegistry := if indexed then k.setIndex key else k

/-- The record and the child index are written before a hash of the wrong length is refused. -/
def setProvenanceEntry (entry : ProvenanceEntry) : Except ProvenanceError Unit × ProvenanceRegistry :=
  let k := { k with entries := k.entries.insert entry }
  let k := k.setIndexIf (entry.parentClaimID ≠ 0)
    (indexKey (getProvenanceChildIndexPrefix entry.parentClaimID) entry.claimID)
  if entry.canonicalHash ≠ [] ∧ entry.canonicalHash.length ≠ canonicalHashSize then
    (.error (.canonicalHashLength entry.canonicalHash.length), k)
  else
    let k := k.setIndexIf (entry.canonicalHash ≠ [])
      (indexKey (getProvenanceHashIndexPrefix entry.canonicalHash) entry.claimID)
    let k := k.setIndexIf (entry.submitter ≠ "")
      (indexKey (getProvenanceSubmitterIndexPrefix entry.submitter) entry.claimID)
    let k := k.setIndexIf (entry.category ≠ "")
      (indexKey (getProvenanceCategoryIndexPrefix entry.category) entry.claimID)
    (.ok (), k.setIndex (indexKey (getProvenanceEpochIndexPrefix entry.epoch) entry.claimID))

/-- The walk over the ancestors. Without fuel it has not ended. -/
def ancestorWalk : Nat → List U64 → U64 → Option (Except ProvenanceError Unit)
  | 0, _, _ => none
  | fuel + 1, visited, currentID =>
      if currentID = 0 then some (.ok ())
      else if currentID ∈ visited then some (.error .cycleDetected)
      else match k.getProvenanceEntry currentID with
        | none => some (.error .parentNotFound)
        | some ancestor => ancestorWalk fuel (currentID :: visited) ancestor.parentClaimID

/-- No claim is visited twice, so the walk ends within as many steps as there are claim ids. -/
def validateAndComputeLineage (parentClaimID : U64) (maxDepth : U32) : Except ProvenanceError U32 :=
  if parentClaimID = 0 then .ok 0
  else match k.getProvenanceEntry parentClaimID with
    | none => .error .parentNotFound
    | some parent =>
        let depth := parent.depth + 1
        if maxDepth < depth then .error .maxDepthExceeded
        else match k.ancestorWalk (2 ^ 64 + 1) [parentClaimID] parent.parentClaimID with
          | some (.ok ()) => .ok depth
          | some (.error error) => .error error
          | none => .error .cycleDetected

def resolveDerivationReason (contribution : AcceptedContribution) (session : Option ReviewSession) :
    DerivationReason :=
  if contribution.isDerivative = false ∧ contribution.parentClaimId = 0 then .none
  else if session.any fun session => session.overrideApplied = .derivativeTruePositive ∨
      session.overrideApplied = .notDerivativeFalseNegative then .human
  else if contribution.isDerivative then .ai
  else if contribution.parentClaimId ≠ 0 then .explicit
  else .none

def maxDepthOf (params : ProvenanceParams) : U32 :=
  if params.maxProvenanceDepth = 0 then defaultMaxProvenanceDepth else params.maxProvenanceDepth

def tenThousandths (n : U32) : LegacyDec := n.toNat * 10 ^ 14

def entryOf (call : ProvenanceCall) (contribution : AcceptedContribution) (session : Option ReviewSession)
    (depth : U32) : ProvenanceEntry where
  claimID := contribution.id
  canonicalHash := contribution.canonicalHash
  category := contribution.ctype
  submitter := contribution.contributor
  parentClaimID := contribution.parentClaimId
  isDerivative := contribution.isDerivative
  derivationReason := resolveDerivationReason contribution session
  originalityMultiplier :=
    resolveOriginalityMultiplier call.params.formula ((call.overallSimilarity.map tenThousandths).getD 0)
  qualityScore := (session.map ReviewSession.finalQuality).getD 0
  depth := depth
  acceptedAtHeight := call.height
  acceptedAtTime := call.time
  epoch := call.currentEpoch
  schemaVersion :=
    if call.params.provenanceSchemaVersion = 0 then defaultProvenanceSchemaVersion
    else call.params.provenanceSchemaVersion

def registerProvenance (call : ProvenanceCall) (contribution : AcceptedContribution)
    (session : Option ReviewSession) : Except ProvenanceError Unit × ProvenanceRegistry :=
  if call.params.enableProvenanceRegistry = false then (.ok (), k)
  else if k.hasProvenanceEntry contribution.id then (.error .alreadyRegistered, k)
  else match k.validateAndComputeLineage contribution.parentClaimId (maxDepthOf call.params) with
    | .error error => (.error error, k)
    | .ok depth => k.setProvenanceEntry (entryOf call contribution session depth)

def lineagePath : Nat → List U64 → U64 → Except ProvenanceError (List ProvenanceEntry)
  | 0, _, _ => .ok []
  | left + 1, visited, currentID =>
      if currentID = 0 then .ok []
      else if currentID ∈ visited then .error .cycleDetected
      else match k.getProvenanceEntry currentID with
        | none => .error .notFound
        | some entry => do return (← lineagePath left (currentID :: visited) entry.parentClaimID) ++ [entry]

def computeLineagePath (params : ProvenanceParams) (claimID : U64) :
    Except ProvenanceError (List ProvenanceEntry) :=
  k.lineagePath ((maxDepthOf params).toNat + 1) [] claimID

end Operations

section Forest

variable (k : ProvenanceRegistry)

inductive RootPath : U64 → List ProvenanceEntry → Prop
  | root {id : U64} {entry : ProvenanceEntry} (found : k.getProvenanceEntry id = some entry)
      (top : entry.parentClaimID = 0) : RootPath id [entry]
  | child {id : U64} {entry : ProvenanceEntry} {path : List ProvenanceEntry}
      (found : k.getProvenanceEntry id = some entry) (below : entry.parentClaimID ≠ 0)
      (above : RootPath entry.parentClaimID path) : RootPath id (path ++ [entry])

def Parent (id parent : U64) : Prop :=
  ∃ entry, k.getProvenanceEntry id = some entry ∧ entry.parentClaimID ≠ 0 ∧ entry.parentClaimID = parent

def Rooted (entry : ProvenanceEntry) : Prop :=
  (entry.parentClaimID = 0 ∧ entry.depth = 0) ∨
    (entry.parentClaimID ≠ 0 ∧ ∃ parent, k.getProvenanceEntry entry.parentClaimID = some parent ∧
      entry.depth.toNat = parent.depth.toNat + 1)

def Forest : Prop := ∀ id entry, k.getProvenanceEntry id = some entry → Rooted k entry ∧ entry.depth.toNat ≤ 20

variable {k}

theorem entries_setIndexIf (indexed : Bool) (key : Bytes) : (k.setIndexIf indexed key).entries = k.entries := by
  cases indexed <;> rfl

theorem entries_setProvenanceEntry (entry : ProvenanceEntry) :
    (k.setProvenanceEntry entry).2.entries = k.entries.insert entry := by
  unfold setProvenanceEntry
  dsimp only
  split
  · exact entries_setIndexIf _ _
  · simp only [setIndex, entries_setIndexIf]

theorem validateAndComputeLineage_ok {parentClaimID : U64} {maxDepth depth : U32}
    (valid : k.validateAndComputeLineage parentClaimID maxDepth = .ok depth) :
    (parentClaimID = 0 ∧ depth = 0) ∨
      (parentClaimID ≠ 0 ∧ ∃ parent, k.getProvenanceEntry parentClaimID = some parent ∧
        depth = parent.depth + 1 ∧ depth ≤ maxDepth) := by
  unfold validateAndComputeLineage at valid
  split at valid
  · rename_i top
    exact .inl ⟨top, (Except.ok.inj valid).symm⟩
  · rename_i below
    split at valid
    · cases valid
    · rename_i parent found
      dsimp only at valid
      split at valid
      · cases valid
      · rename_i within
        split at valid
        · obtain rfl := Except.ok.inj valid
          exact .inr ⟨below, parent, found, rfl, BitVec.not_lt.1 within⟩
        · cases valid
        · cases valid

theorem maxDepthOf_le (params : ProvenanceParams) : (maxDepthOf params).toNat ≤ 20 := by
  unfold maxDepthOf
  split
  · decide
  · exact params.bounded

theorem Forest.insert {k' : ProvenanceRegistry} {entry : ProvenanceEntry} (forest : Forest k)
    (written : k'.entries = k.entries.insert entry) (fresh : k.getProvenanceEntry entry.claimID = none)
    (rooted : Rooted k entry) (shallow : entry.depth.toNat ≤ 20) : Forest k' := by
  have lookup (id : U64) : k'.getProvenanceEntry id =
      if entry.claimID = id then some entry else k.getProvenanceEntry id := by
    rw [getProvenanceEntry, written]
    exact KeyedMap.get?_insert _ _ _
  have kept {id : U64} {other : ProvenanceEntry} (found : k.getProvenanceEntry id = some other) :
      k'.getProvenanceEntry id = some other := by
    rw [lookup, if_neg]
    · exact found
    · rintro rfl
      cases fresh.symm.trans found
  have still {other : ProvenanceEntry} (rooted : Rooted k other) : Rooted k' other := by
    rcases rooted with top | ⟨below, parent, found, depth⟩
    · exact .inl top
    · exact .inr ⟨below, parent, kept found, depth⟩
  intro id other found
  rw [lookup] at found
  split at found
  · obtain rfl := Option.some.inj found
    exact ⟨still rooted, shallow⟩
  · exact ⟨still (forest id other found).1, (forest id other found).2⟩

theorem Forest.register (forest : Forest k) (call : ProvenanceCall) (contribution : AcceptedContribution)
    (session : Option ReviewSession) : Forest (k.registerProvenance call contribution session).2 := by
  unfold registerProvenance
  split
  · exact forest
  · split
    · exact forest
    · rename_i fresh
      have fresh : k.getProvenanceEntry contribution.id = none := by
        simpa [hasProvenanceEntry] using fresh
      split
      · exact forest
      · rename_i depth valid
        refine forest.insert (entries_setProvenanceEntry _) fresh ?_ ?_
        · rcases validateAndComputeLineage_ok valid with top | ⟨below, parent, found, rfl, -⟩
          · exact .inl top
          · refine .inr ⟨below, parent, found, ?_⟩
            have shallow := (forest _ parent found).2
            show (parent.depth + 1).toNat = _
            rw [BitVec.toNat_add]
            exact Nat.mod_eq_of_lt (by show parent.depth.toNat + 1 < 2 ^ 32; omega)
        · rcases validateAndComputeLineage_ok valid with ⟨-, rfl⟩ | ⟨-, parent, -, -, within⟩
          · exact Nat.zero_le _
          · exact (BitVec.le_def.1 within).trans (maxDepthOf_le call.params)

section Paths

variable (forest : Forest k) {id : U64} {entry : ProvenanceEntry}

def Deeper (k : ProvenanceRegistry) (visited : List U64) (depth : Nat) : Prop :=
  ∀ claim ∈ visited, ∃ below, k.getProvenanceEntry claim = some below ∧ depth < below.depth.toNat

theorem Deeper.not_mem {visited : List U64} (deeper : Deeper k visited entry.depth.toNat)
    (found : k.getProvenanceEntry id = some entry) : id ∉ visited := by
  intro listed
  obtain ⟨below, found', depth⟩ := deeper id listed
  obtain rfl := Option.some.inj (found.symm.trans found')
  exact lt_irrefl _ depth

theorem Deeper.cons {visited : List U64} {depth : Nat} (deeper : Deeper k visited entry.depth.toNat)
    (found : k.getProvenanceEntry id = some entry) (above : depth < entry.depth.toNat) :
    Deeper k (id :: visited) depth := by
  rintro claim (_ | ⟨_, listed⟩)
  · exact ⟨entry, found, above⟩
  · obtain ⟨below, found', further⟩ := deeper claim listed
    exact ⟨below, found', above.trans further⟩

theorem ancestorWalk_ends (fuel : Nat) (visited : List U64) (id : U64) (distinct : visited.Nodup)
    (enough : 2 ^ 64 < fuel + visited.length) : (k.ancestorWalk fuel visited id).isSome := by
  induction fuel generalizing visited id with
  | zero =>
      have injective : Function.Injective (BitVec.toFin : U64 → Fin (2 ^ 64)) := fun _ _ same =>
        BitVec.eq_of_toFin_eq same
      have most := (distinct.map injective).length_le_card
      rw [List.length_map, Fintype.card_fin] at most
      omega
  | succ fuel ih =>
      unfold ancestorWalk
      split
      · rfl
      · split
        · rfl
        · rename_i fresh
          split
          · rfl
          · exact ih _ _ (List.nodup_cons.2 ⟨fresh, distinct⟩) (by rw [List.length_cons]; omega)

include forest

theorem Forest.ancestorWalk_ok (found : k.getProvenanceEntry id = some entry) {visited : List U64}
    (deeper : Deeper k visited entry.depth.toNat) {fuel : Nat} (enough : entry.depth.toNat + 1 < fuel) :
    k.ancestorWalk fuel visited id = some (.ok ()) := by
  induction fuel generalizing id entry visited with
  | zero => exact absurd enough (Nat.not_lt_zero _)
  | succ fuel ih =>
      unfold ancestorWalk
      by_cases zero : id = 0
      · exact if_pos zero
      · rw [if_neg zero, if_neg (deeper.not_mem found), found]
        dsimp only
        rcases (forest id entry found).1 with ⟨top, -⟩ | ⟨-, parent, found', depth⟩
        · obtain ⟨fuel, rfl⟩ : ∃ more, fuel = more + 1 := ⟨fuel - 1, by omega⟩
          unfold ancestorWalk
          exact if_pos top
        · exact ih found' (deeper.cons found (by omega)) (by omega)

theorem Forest.no_cycle (parentClaimID : U64) (maxDepth : U32) :
    k.validateAndComputeLineage parentClaimID maxDepth ≠ .error .cycleDetected := by
  unfold validateAndComputeLineage
  split
  · simp
  · split
    · simp
    · rename_i parent found
      dsimp only
      split
      · simp
      · rcases (forest _ parent found).1 with ⟨top, -⟩ | ⟨-, grandparent, found', depth⟩
        · unfold ancestorWalk
          rw [if_pos top]
          simp
        · have alone : Deeper k [] parent.depth.toNat := by simp [Deeper]
          have shallow := (forest _ parent found).2
          rw [forest.ancestorWalk_ok found' (alone.cons found (by omega)) (by omega)]
          simp

theorem Forest.rootPath (found : k.getProvenanceEntry id = some entry) : ∃ path, RootPath k id path := by
  induction depth : entry.depth.toNat generalizing id entry with
  | zero =>
      rcases (forest id entry found).1 with ⟨top, -⟩ | ⟨-, parent, -, deeper⟩
      · exact ⟨_, .root found top⟩
      · omega
  | succ n ih =>
      rcases (forest id entry found).1 with ⟨top, -⟩ | ⟨below, parent, found', deeper⟩
      · exact ⟨_, .root found top⟩
      · obtain ⟨path, above⟩ := ih found' (by omega)
        exact ⟨_, .child found below above⟩

theorem Forest.length_rootPath {path : List ProvenanceEntry} (rooted : RootPath k id path)
    (found : k.getProvenanceEntry id = some entry) : path.length = entry.depth.toNat + 1 := by
  induction rooted generalizing entry with
  | root found' top =>
      obtain rfl := Option.some.inj (found.symm.trans found')
      rcases (forest _ entry found).1 with ⟨-, depth⟩ | ⟨below, -⟩
      · rw [depth]
        rfl
      · exact absurd top below
  | child found' below above ih =>
      obtain rfl := Option.some.inj (found.symm.trans found')
      rcases (forest _ entry found).1 with ⟨top, -⟩ | ⟨-, parent, held, depth⟩
      · exact absurd top below
      · rw [List.length_append, ih held, depth]
        rfl

theorem Forest.acyclic (id : U64) : ¬ Relation.TransGen (Parent k) id id := by
  have deeper {a b : U64} (linked : Relation.TransGen (Parent k) a b) :
      ∃ entry, k.getProvenanceEntry a = some entry ∧ ∀ above, k.getProvenanceEntry b = some above →
        above.depth.toNat < entry.depth.toNat := by
    induction linked with
    | single link =>
        obtain ⟨entry, found, below, rfl⟩ := link
        rcases (forest _ entry found).1 with ⟨top, -⟩ | ⟨-, parent, held, depth⟩
        · exact absurd top below
        · refine ⟨entry, found, fun above found' => ?_⟩
          obtain rfl := Option.some.inj (held.symm.trans found')
          omega
    | tail _ link ih =>
        obtain ⟨entry, found, less⟩ := ih
        obtain ⟨middle, held, below, rfl⟩ := link
        rcases (forest _ middle held).1 with ⟨top, -⟩ | ⟨-, parent, held', depth⟩
        · exact absurd top below
        · refine ⟨entry, found, fun above found' => ?_⟩
          obtain rfl := Option.some.inj (held'.symm.trans found')
          have := less middle held
          omega
  intro cycle
  obtain ⟨entry, found, less⟩ := deeper cycle
  exact lt_irrefl _ (less entry found)

theorem Forest.lineagePath_eq {path : List ProvenanceEntry} (rooted : RootPath k id path) (named : id ≠ 0)
    (found : k.getProvenanceEntry id = some entry) {visited : List U64}
    (deeper : Deeper k visited entry.depth.toNat) (left : Nat) :
    k.lineagePath left visited id = .ok (path.drop (path.length - left)) := by
  induction rooted generalizing entry visited left with
  | root found' top =>
      cases left with
      | zero => rfl
      | succ left =>
          unfold lineagePath
          rw [if_neg named, if_neg (deeper.not_mem found), found']
          dsimp only
          rw [top]
          cases left <;> simp [lineagePath, pure, bind, Except.bind, Except.pure]
  | @child id entry' path found' below above ih =>
      obtain rfl := Option.some.inj (found.symm.trans found')
      cases left with
      | zero => simp [lineagePath]
      | succ left =>
          rcases (forest _ entry found).1 with ⟨top, -⟩ | ⟨-, parent, held, depth⟩
          · exact absurd top below
          · have upper := ih below held (deeper.cons found (by omega)) left
            unfold lineagePath
            rw [if_neg named, if_neg (deeper.not_mem found), found]
            simp only [upper, pure, bind, Except.bind, Except.pure, List.length_append, List.length_singleton]
            rw [Nat.add_sub_add_right, List.drop_append_of_le_length (Nat.sub_le _ _)]

theorem Forest.computeLineagePath_iff (params : ProvenanceParams)
    (found : k.getProvenanceEntry id = some entry) :
    (∃ path, k.computeLineagePath params id = .ok path ∧ RootPath k id path ∧
      path.length = entry.depth.toNat + 1) ↔ id ≠ 0 ∧ entry.depth ≤ maxDepthOf params := by
  obtain ⟨whole, rooted⟩ := forest.rootPath found
  have size := forest.length_rootPath rooted found
  unfold computeLineagePath
  by_cases named : id = 0
  · refine iff_of_false ?_ fun both => both.1 named
    rintro ⟨path, answered, -, long⟩
    unfold lineagePath at answered
    rw [if_pos named] at answered
    obtain rfl := Except.ok.inj answered
    exact absurd long (by simp)
  · have alone : Deeper k [] entry.depth.toNat := by simp [Deeper]
    rw [and_iff_right named, forest.lineagePath_eq rooted named found alone, BitVec.le_def]
    constructor
    · rintro ⟨path, answered, -, long⟩
      obtain rfl := Except.ok.inj answered
      rw [List.length_drop] at long
      omega
    · intro deep
      refine ⟨_, rfl, ?_⟩
      rw [show whole.length - ((maxDepthOf params).toNat + 1) = 0 by omega, List.drop_zero]
      exact ⟨rooted, size⟩

end Paths

end Forest

section Runs

structure Registration where
  call : ProvenanceCall
  contribution : AcceptedContribution
  session : Option ReviewSession

def register (k : ProvenanceRegistry) (registration : Registration) : ProvenanceRegistry :=
  (k.registerProvenance registration.call registration.contribution registration.session).2

theorem forest_run (run : List Registration) : Forest (run.foldl register empty) := by
  suffices ∀ k, Forest k → Forest (run.foldl register k) by
    refine this empty fun id entry found => ?_
    cases (KeyedMap.get?_empty id).symm.trans found
  intro k forest
  induction run generalizing k with
  | nil => exact forest
  | cons registration rest ih =>
      exact ih _ (forest.register registration.call registration.contribution registration.session)

/-- After any registrations the registry is a forest whose depths count the ancestors, and in which no walk meets
a cycle. The path of a claim is whole just when the depth now in force is not below its own. -/
theorem provenance_forest (run : List Registration) :
    let k := run.foldl register empty
    (∀ id entry, k.getProvenanceEntry id = some entry →
      (entry.parentClaimID = 0 ∨ k.hasProvenanceEntry entry.parentClaimID = true) ∧
      (∃ path, RootPath k id path ∧ path.length = entry.depth.toNat + 1) ∧
      ∀ params, (∃ path, k.computeLineagePath params id = .ok path ∧ RootPath k id path ∧
        path.length = entry.depth.toNat + 1) ↔ id ≠ 0 ∧ entry.depth ≤ maxDepthOf params) ∧
    (∀ id, ¬ Relation.TransGen (Parent k) id id) ∧
    (∀ id visited, visited.Nodup → (k.ancestorWalk (2 ^ 64 + 1) visited id).isSome) ∧
    ∀ parentClaimID maxDepth, k.validateAndComputeLineage parentClaimID maxDepth ≠ .error .cycleDetected := by
  have forest := forest_run run
  refine ⟨fun id entry found => ⟨?_, ?_, fun params => forest.computeLineagePath_iff params found⟩,
    forest.acyclic, fun id visited distinct => ancestorWalk_ends _ visited id distinct (by omega), forest.no_cycle⟩
  · rcases (forest id entry found).1 with ⟨top, -⟩ | ⟨-, parent, held, -⟩
    · exact .inl top
    · exact .inr (by simp [hasProvenanceEntry, held])
  · obtain ⟨path, rooted⟩ := forest.rootPath found
    exact ⟨path, rooted, forest.length_rootPath rooted found⟩

section Instance

def paramsOf (maxProvenanceDepth : U32) (bounded : maxProvenanceDepth.toNat ≤ 20) : ProvenanceParams where
  enableProvenanceRegistry := true
  maxProvenanceDepth := maxProvenanceDepth
  provenanceSchemaVersion := 1
  formula := ⟨1000, false, [], none, 0, none, none, 2, 0⟩
  bounded := bounded

def registrationOf (id parentClaimId : U64) : Registration where
  call := ⟨paramsOf 10 (by decide), none, 5, 100, 1⟩
  contribution := ⟨id, "author", "code", [], true, parentClaimId⟩
  session := none

/-- A claim with two ancestors, when the depth is lowered to one afterwards: its root is left out. -/
theorem path_cut_off :
    let k := [registrationOf 1 0, registrationOf 2 1, registrationOf 3 2].foldl register empty
    (k.getProvenanceEntry 3).map ProvenanceEntry.depth = some 2 ∧
    (k.computeLineagePath (paramsOf 1 (by decide)) 3).toOption.map (fun path =>
      path.map ProvenanceEntry.claimID) = some [2, 3] ∧
    (k.computeLineagePath (paramsOf 2 (by decide)) 3).toOption.map (fun path =>
      path.map ProvenanceEntry.claimID) = some [1, 2, 3] := by
  decide +kernel

end Instance

end Runs

end ProvenanceRegistry

end Omniphi.Poc
