import Omniphi.Runtime.Confinement

/-! The versions of the objects over a settled plan. Each touched object is bumped once in all four maps and
the overlays are then flushed, but a token that a plan creates takes the place of whatever stood under its
id, and starts from version 0. -/

namespace Omniphi.Runtime

open SettlementEngine

namespace Cell

def overlayVersion (cell : Cell) : Option ObjectVersion :=
  cell.versions.2.2.2 <|> cell.versions.2.2.1 <|> cell.versions.2.1

structure Agrees (cell : Cell) : Prop where
  balance : ∀ b ∈ cell.balance, cell.object.map BoxedObject.info = some b.info
  pool : ∀ p ∈ cell.pool, cell.object.map BoxedObject.info = some p.info
  vault : ∀ v ∈ cell.vault, cell.object.map BoxedObject.info = some v.info

/-- Each version is one more than before. -/
structure Raised (before after : Cell) : Prop where
  object : after.versions.1.map BitVec.toNat = before.versions.1.map fun v => v.toNat + 1
  balance : after.versions.2.1.map BitVec.toNat = before.versions.2.1.map fun v => v.toNat + 1
  pool : after.versions.2.2.1.map BitVec.toNat = before.versions.2.2.1.map fun v => v.toNat + 1
  vault : after.versions.2.2.2.map BitVec.toNat = before.versions.2.2.2.map fun v => v.toNat + 1

theorem versions_bump (cell : Cell) :
    cell.bump.versions = (cell.versions.1.map (· + 1), cell.versions.2.1.map (· + 1),
      cell.versions.2.2.1.map (· + 1), cell.versions.2.2.2.map (· + 1)) := by
  simp only [versions, bump, Option.map_map, Function.comp_def, BoxedObject.info_modifyInfo]

theorem versions_sync (cell : Cell) :
    cell.sync.versions = (cell.versions.1.map fun v => cell.overlayVersion.getD v, cell.versions.2) := by
  rcases cell with ⟨object, b, p, v⟩
  cases object <;> cases b <;> cases p <;> cases v <;> rfl

theorem Agrees.same_version {cell : Cell} (agrees : cell.Agrees) {v : ObjectVersion}
    (held : cell.versions.1 = some v) :
    (∀ w ∈ cell.versions.2.1, w = v) ∧ (∀ w ∈ cell.versions.2.2.1, w = v) ∧
      ∀ w ∈ cell.versions.2.2.2, w = v := by
  have read {info : ObjectMeta} (same : cell.object.map BoxedObject.info = some info) :
      info.version = v := by
    have versions := congrArg (Option.map ObjectMeta.version) same
    rw [Option.map_map] at versions
    exact Option.some.inj (versions.symm.trans held)
  refine ⟨?_, ?_, ?_⟩
  · intro w entry
    obtain ⟨b, found, rfl⟩ := Option.map_eq_some_iff.1 entry
    exact read (agrees.balance b found)
  · intro w entry
    obtain ⟨p, found, rfl⟩ := Option.map_eq_some_iff.1 entry
    exact read (agrees.pool p found)
  · intro w entry
    obtain ⟨t, found, rfl⟩ := Option.map_eq_some_iff.1 entry
    exact read (agrees.vault t found)

theorem Agrees.sync_versions {cell : Cell} (agrees : cell.Agrees) : cell.sync.versions = cell.versions := by
  rw [versions_sync]
  cases held : cell.versions.1 with
  | none =>
      rw [Option.map_none, ← held]
  | some v =>
      obtain ⟨balance, pool, vault⟩ := agrees.same_version held
      have flushed : cell.overlayVersion.getD v = v := by
        unfold overlayVersion
        cases third : cell.versions.2.2.2 with
        | some w => exact vault w third
        | none =>
            cases second : cell.versions.2.2.1 with
            | some w => exact pool w second
            | none =>
                cases first : cell.versions.2.1 with
                | some w => exact balance w first
                | none => rfl
      rw [Option.map_some, flushed, ← held]

theorem toNat_succ_iff (v : ObjectVersion) : (v + 1).toNat = v.toNat + 1 ↔ v ≠ BitVec.allOnes 64 := by
  have top : BitVec.allOnes 64 = 18446744073709551615#64 := by decide
  rw [top]
  constructor
  · rintro raised rfl
    exact absurd raised (by decide)
  · intro room
    bv_omega

theorem raised_map_iff {entry : Option ObjectVersion} {v : ObjectVersion} (same : ∀ w ∈ entry, w = v)
    (room : v ≠ BitVec.allOnes 64) :
    (entry.map (· + 1)).map BitVec.toNat = entry.map fun w => w.toNat + 1 := by
  cases entry with
  | none => rfl
  | some w =>
      rw [same w rfl]
      exact congrArg some ((toNat_succ_iff v).2 room)

theorem raised_iff {before cell : Cell} (agrees : before.Agrees) {v w : ObjectVersion}
    (held : before.versions.1 = some v) (overlays : cell.versions.2 = before.versions.2)
    (object : cell.versions.1 = some w) (replaced : Prop) (reset : replaced → w = 0)
    (kept : ¬ replaced → w = v) : before.Raised cell.bump.sync ↔
      v ≠ BitVec.allOnes 64 ∧ (replaced → before.overlayVersion = none → v = 0) := by
  obtain ⟨balance, pool, vault⟩ := agrees.same_version held
  have bumped := versions_bump cell
  have final : cell.bump.sync.versions = (some ((before.overlayVersion.map (· + 1)).getD (w + 1)),
      before.versions.2.1.map (· + 1), before.versions.2.2.1.map (· + 1),
      before.versions.2.2.2.map (· + 1)) := by
    have flushed : cell.bump.overlayVersion = before.overlayVersion.map (· + 1) := by
      unfold overlayVersion
      rw [bumped, overlays]
      cases before.versions.2.2.2 <;> cases before.versions.2.2.1 <;> cases before.versions.2.1 <;> rfl
    rw [versions_sync, flushed, bumped, object, overlays]
    rfl
  have objectIff : before.Raised cell.bump.sync → ((before.overlayVersion.map (· + 1)).getD (w + 1)).toNat =
      v.toNat + 1 := by
    intro raised
    have same := raised.object
    rw [final, held] at same
    exact Option.some.inj same
  have raisedIf (room : v ≠ BitVec.allOnes 64)
      (same : (before.overlayVersion.map (· + 1)).getD (w + 1) = v + 1) :
      before.Raised cell.bump.sync := by
    constructor
    · rw [final, held, same]
      exact congrArg some ((toNat_succ_iff v).2 room)
    · rw [final]
      exact raised_map_iff balance room
    · rw [final]
      exact raised_map_iff pool room
    · rw [final]
      exact raised_map_iff vault room
  cases flushed : before.overlayVersion with
  | some u =>
      have same : u = v := by
        unfold overlayVersion at flushed
        rw [Option.orElse_eq_some, Option.orElse_eq_some] at flushed
        rcases flushed with third | ⟨-, second | ⟨-, first⟩⟩
        · exact vault u third
        · exact pool u second
        · exact balance u first
      subst same
      rw [flushed] at objectIff raisedIf
      constructor
      · intro raised
        exact ⟨(toNat_succ_iff u).1 (objectIff raised), fun _ none => by cases none⟩
      · intro room
        exact raisedIf room.1 rfl
  | none =>
      rw [flushed] at objectIff raisedIf
      constructor
      · intro raised
        have next : (w + 1).toNat = v.toNat + 1 := objectIff raised
        by_cases gone : replaced
        · rw [reset gone] at next
          have zero : v = 0 := by
            have one : ((0 : ObjectVersion) + 1).toNat = 1 := rfl
            apply BitVec.eq_of_toNat_eq
            show v.toNat = 0
            omega
          rw [zero]
          exact ⟨by decide, fun _ _ => rfl⟩
        · rw [kept gone] at next
          exact ⟨(toNat_succ_iff v).1 next, fun replaced => absurd replaced gone⟩
      · rintro ⟨room, first⟩
        refine raisedIf room ?_
        by_cases gone : replaced
        · rw [reset gone, first gone rfl]
          rfl
        · rw [kept gone]
          rfl

end Cell

namespace ObjectOperation

def creates : ObjectOperation → Bool
  | createToken .. => true
  | _ => false

end ObjectOperation

namespace SettlementEngine

variable (sha256 : Sha256)

theorem versions_of_applied {cell next : Cell} {op : ObjectOperation}
    (applied : applyCell sha256 cell op = .ok next) :
    next.versions = (if op.creates then some 0 else cell.versions.1, cell.versions.2) := by
  cases op with
  | debitBalance balanceId amount | unlockBalance balanceId amount =>
      obtain ⟨balance, -, applied⟩ := bind_ok.1 applied
      split at applied <;> cases applied
      simp [Cell.versions, Cell.modifyBalance, Function.comp_def, ObjectOperation.creates]
  | creditBalance balanceId amount | lockBalance balanceId amount =>
      obtain ⟨balance, -, applied⟩ := bind_ok.1 applied
      cases applied
      simp [Cell.versions, Cell.modifyBalance, Function.comp_def, ObjectOperation.creates]
  | swapPoolAmounts poolId deltaA deltaB =>
      obtain ⟨pool, -, applied⟩ := bind_ok.1 applied
      cases applied
      simp [Cell.versions, Cell.modifyPool, Function.comp_def, ObjectOperation.creates]
  | transferOwnership objectId newOwner =>
      obtain ⟨object, -, applied⟩ := bind_ok.1 applied
      cases applied
      simp [Cell.versions, Cell.setOwner, Function.comp_def, ObjectOperation.creates]
  | contractStateTransition contractId schemaId proposedState =>
      obtain ⟨object, found, applied⟩ := bind_ok.1 applied
      split at applied <;> cases applied
      rename_i contract decoded
      obtain rfl := asContract_eq_some.1 decoded
      simp [Cell.versions, orNotFound_ok.1 found, BoxedObject.info, ContractObject.setState,
        ObjectOperation.creates]
  | createToken creatorContract mintAuthoritySchema symbol decimals initialSupply maxSupply =>
      cases applied
      rfl
  | _ =>
      cases applied
      rfl

theorem applyOps_versions {ops : List ObjectOperation} {store after : ObjectStore}
    {affected ids : List ObjectId} (ran : applyOps sha256 store affected ops = (after, .ok ids))
    (id : ObjectId) : (after.cell id).versions.2 = (store.cell id).versions.2 ∧
      ((∃ op ∈ ops, op.creates = true ∧ op.target sha256 = id) → (after.cell id).versions.1 = some 0) ∧
      ((¬ ∃ op ∈ ops, op.creates = true ∧ op.target sha256 = id) →
        (after.cell id).versions.1 = (store.cell id).versions.1) := by
  induction ops generalizing store affected with
  | nil =>
      obtain rfl : store = after := congrArg Prod.fst ran
      refine ⟨rfl, ?_, fun _ => rfl⟩
      rintro ⟨op, member, -⟩
      exact absurd member List.not_mem_nil
  | cons op ops ih =>
      have step := applyOp_cell sha256 store affected op
      rw [applyOps] at ran
      cases effect : applyCell sha256 (store.cell (op.target sha256)) op with
      | error e =>
          rw [effect] at step
          rw [step] at ran
          cases congrArg Prod.snd ran
      | ok cell =>
          rw [effect] at step
          obtain ⟨next, applied, cells⟩ := step
          rw [applied] at ran
          obtain ⟨overlays, created, kept⟩ := ih ran
          have moved := versions_of_applied sha256 effect
          by_cases later : ∃ op ∈ ops, op.creates = true ∧ op.target sha256 = id
          · have zero := created later
            refine ⟨?_, fun _ => zero, ?_⟩
            · rw [overlays, cells]
              by_cases here : id = op.target sha256
              · rw [here, Function.update_self, moved]
              · rw [Function.update_of_ne here]
            · rintro none
              obtain ⟨other, member, is⟩ := later
              exact absurd ⟨other, List.mem_cons_of_mem _ member, is⟩ none
          · have same := kept later
            rw [overlays, same, cells]
            by_cases here : id = op.target sha256
            · subst here
              rw [Function.update_self, moved]
              refine ⟨rfl, ?_, ?_⟩
              · rintro ⟨other, member, is⟩
                rcases List.mem_cons.1 member with rfl | member
                · exact if_pos is.1
                · exact absurd ⟨other, member, is⟩ later
              · intro none
                exact if_neg fun is => none ⟨op, List.mem_cons_self, is, rfl⟩
            · rw [Function.update_of_ne here]
              refine ⟨rfl, ?_, fun _ => rfl⟩
              rintro ⟨other, member, is⟩
              rcases List.mem_cons.1 member with rfl | member
              · exact absurd is.2.symm here
              · exact absurd ⟨other, member, is⟩ later

theorem snapshot_versions (store : ObjectStore) (costs : GasCosts) {accesses : List ObjectAccess}
    {meter final : GasMeter} {versions : List (ObjectId × ObjectVersion)}
    (taken : Returns (accesses.mapM fun access => (do
        let object ← orNotFound (store.get access.objectId) access.objectId
        GasMeter.consume costs.objectRead
        return (access.objectId, object.info.version))) meter versions final) :
    ∀ entry ∈ versions, (store.cell entry.1).versions.1 = some entry.2 := by
  induction accesses generalizing meter versions with
  | nil =>
      obtain ⟨rfl, -⟩ := returns_pure.1 taken
      intro entry member
      exact absurd member List.not_mem_nil
  | cons access accesses ih =>
      simp only [List.mapM_cons, returns_bind, returns_lift, returns_pure, orNotFound_ok] at taken
      obtain ⟨_, _, ⟨object, _, ⟨found, rfl⟩, _, _, charged, rfl, rfl⟩, rest, _, others, rfl, rfl⟩ := taken
      intro entry member
      rcases List.mem_cons.1 member with rfl | later
      · have found : (store.cell access.objectId).object = some object := found
        simp only [Cell.versions, found, Option.map_some]
      · exact ih others entry later

theorem preflight_versions {plan : ExecutionPlan} {store : ObjectStore} {meter : GasMeter}
    {oldVersions : List (ObjectId × ObjectVersion)}
    (checked : (preflight plan store).run.run (GasMeter.new plan.gasLimit) = (.ok oldVersions, meter)) :
    ∀ entry ∈ oldVersions, (store.cell entry.1).versions.1 = some entry.2 := by
  have returned : Returns (preflight plan store) (GasMeter.new plan.gasLimit) oldVersions meter := checked
  simp only [preflight, returns_bind, returns_pure] at returned
  obtain ⟨_, _, _, _, _, _, versions, _, taken, _, _, _, rfl, rfl⟩ := returned
  exact snapshot_versions store _ taken

section Plan

variable (plan : ExecutionPlan) (store : ObjectStore)

/-- Each affected object that existed has the next version wherever it is kept, any other has the one it had,
and the receipt lists the versions before and after. -/
structure BumpsOnce : Prop where
  affected : ∀ id ∈ (applyPlan sha256 plan store).1.affectedObjects, (store.get id).isSome →
    (store.cell id).Raised ((applyPlan sha256 plan store).2.cell id)
  others : ∀ id ∉ (applyPlan sha256 plan store).1.affectedObjects,
    ((applyPlan sha256 plan store).2.cell id).versions = (store.cell id).versions
  transitions : ∀ entry ∈ (applyPlan sha256 plan store).1.versionTransitions,
    (store.cell entry.1).versions.1 = some entry.2.1 ∧
      ((applyPlan sha256 plan store).2.cell entry.1).versions.1 = some entry.2.2

def ReplacedByToken (id : ObjectId) : Prop :=
  ∃ op ∈ plan.operations, op.creates = true ∧ op.target sha256 = id

/-- No touched object is at the last version, and one without an overlay entry whose id the plan creates a
token under is still at version 0. -/
def RoomForVersions : Prop :=
  ∀ id ∈ plan.operations.flatMap (ObjectOperation.touched sha256), ∀ object, store.get id = some object →
    object.info.version ≠ BitVec.allOnes 64 ∧
      (ReplacedByToken sha256 plan id → (store.cell id).overlayVersion = none → object.info.version = 0)

variable {plan store}

theorem applyPlan_eq {meter : GasMeter} {oldVersions : List (ObjectId × ObjectVersion)}
    (checked : (preflight plan store).run.run (GasMeter.new plan.gasLimit) = (.ok oldVersions, meter))
    {after : ObjectStore} {affected : List ObjectId}
    (ran : applyOps sha256 store [] plan.operations = (after, .ok affected)) :
    (applyPlan sha256 plan store).1.affectedObjects = mutatedIds affected ∧
      (applyPlan sha256 plan store).1.versionTransitions = oldVersions.map fun old => (old.1, old.2,
        ((applyPlan sha256 plan store).2.cell old.1).versions.1.getD old.2) := by
  unfold applyPlan
  rw [checked]
  dsimp only
  rw [ran]
  exact ⟨rfl, rfl⟩

theorem applyPlan_settled (success : (applyPlan sha256 plan store).1.success = true) :
    ∃ (after : ObjectStore) (oldVersions : List (ObjectId × ObjectVersion)),
      applyOps sha256 store [] plan.operations =
        (after, .ok (plan.operations.flatMap (ObjectOperation.touched sha256))) ∧
      (∀ old ∈ oldVersions, (store.cell old.1).versions.1 = some old.2) ∧
      (applyPlan sha256 plan store).1.affectedObjects =
        mutatedIds (plan.operations.flatMap (ObjectOperation.touched sha256)) ∧
      ((applyPlan sha256 plan store).1.versionTransitions = oldVersions.map fun old => (old.1, old.2,
        ((applyPlan sha256 plan store).2.cell old.1).versions.1.getD old.2)) ∧
      (applyPlan sha256 plan store).2 =
        ((mutatedIds (plan.operations.flatMap (ObjectOperation.touched sha256))).foldl bumpVersion
          after).syncTypedToCanonical := by
  rcases applyPlan_cases sha256 plan store with ⟨-, failed, -⟩ |
    ⟨accepted, ⟨after, e, -, failed, -⟩ | ⟨after, affected, ran, -, left⟩⟩
  · rw [failed] at success
    cases success
  · rw [failed] at success
    cases success
  · have ids := applyOps_affected sha256 ran
    rw [List.nil_append] at ids
    subst ids
    cases checked : (preflight plan store).run.run (GasMeter.new plan.gasLimit) with
    | mk outcome meter =>
        cases outcome with
        | error e => exact absurd ⟨e, meter, checked⟩ accepted
        | ok oldVersions =>
            obtain ⟨objects, transitions⟩ := applyPlan_eq sha256 checked ran
            exact ⟨after, oldVersions, ran, preflight_versions checked, objects, transitions, left⟩

theorem settled_cell (after : ObjectStore) (ids : List ObjectId) (id : ObjectId) :
    (((mutatedIds ids).foldl bumpVersion after).syncTypedToCanonical).cell id =
      if id ∈ ids then (after.cell id).bump.sync else (after.cell id).sync := by
  rw [ObjectStore.cell_sync, foldl_bumpVersion_cell]
  split
  · rename_i touched
    rw [List.count_eq_one_of_mem (nodup_mutatedIds ids) (mem_mutatedIds.2 touched)]
    rfl
  · rename_i untouched
    rw [List.count_eq_zero.2 fun member => untouched (mem_mutatedIds.1 member)]
    rfl

/-- A settled plan bumps each version once exactly when there is room for it. -/
theorem bumpsOnce_iff_room (agrees : ∀ id, (store.cell id).Agrees)
    (success : (applyPlan sha256 plan store).1.success = true) :
    BumpsOnce sha256 plan store ↔ RoomForVersions sha256 plan store := by
  obtain ⟨after, oldVersions, ran, old, affected, transitions, left⟩ := applyPlan_settled sha256 success
  have cells (id : ObjectId) := settled_cell after
    (plan.operations.flatMap (ObjectOperation.touched sha256)) id
  rw [← left] at cells
  have moved := applyOps_versions sha256 ran
  have mutated (id : ObjectId) : id ∈ (applyPlan sha256 plan store).1.affectedObjects ↔
      id ∈ plan.operations.flatMap (ObjectOperation.touched sha256) := by
    rw [affected, mem_mutatedIds]
  -- An object that existed and is touched: the bump of its cell decides.
  have decides {id : ObjectId} {object : BoxedObject}
      (touched : id ∈ plan.operations.flatMap (ObjectOperation.touched sha256))
      (held : store.get id = some object) :
      (store.cell id).Raised ((applyPlan sha256 plan store).2.cell id) ↔
        object.info.version ≠ BitVec.allOnes 64 ∧
          (ReplacedByToken sha256 plan id → (store.cell id).overlayVersion = none →
            object.info.version = 0) := by
    have version : (store.cell id).versions.1 = some object.info.version :=
      congrArg (Option.map fun object : BoxedObject => object.info.version) held
    obtain ⟨overlays, created, kept⟩ := moved id
    rw [cells id, if_pos touched]
    by_cases replaced : ReplacedByToken sha256 plan id
    · exact Cell.raised_iff (agrees id) version overlays (created replaced)
        (ReplacedByToken sha256 plan id) (fun _ => rfl) fun gone => absurd replaced gone
    · exact Cell.raised_iff (agrees id) version overlays ((kept replaced).trans version)
        (ReplacedByToken sha256 plan id) (fun gone => absurd gone replaced) fun _ => rfl
  constructor
  · intro bumps id touched object held
    exact (decides touched held).1
      (bumps.affected id ((mutated id).2 touched) (Option.isSome_of_eq_some held))
  · intro room
    constructor
    · intro id member present
      obtain ⟨object, held⟩ := Option.isSome_iff_exists.1 present
      have touched := (mutated id).1 member
      exact (decides touched held).2 (room id touched object held)
    · intro id outside
      have untouched := fun touched => outside ((mutated id).2 touched)
      have same := applyOps_frame sha256 store untouched
      rw [ran] at same
      rw [cells id, if_neg untouched, same]
      exact (agrees id).sync_versions
    · intro entry member
      rw [transitions] at member
      obtain ⟨snapshot, listed, rfl⟩ := List.mem_map.1 member
      have before := old snapshot listed
      refine ⟨before, ?_⟩
      dsimp only
      obtain ⟨overlays, created, kept⟩ := moved snapshot.1
      -- The object is still there, so the default is not taken.
      have present : ∃ w, (after.cell snapshot.1).versions.1 = some w := by
        by_cases replaced : ReplacedByToken sha256 plan snapshot.1
        · exact ⟨0, created replaced⟩
        · exact ⟨snapshot.2, (kept replaced).trans before⟩
      obtain ⟨w, found⟩ := present
      rw [cells snapshot.1]
      split <;> simp only [Cell.versions_sync, Cell.versions_bump, found, Option.map_some, Option.getD_some]

end Plan

section Samples

def withToken : ObjectStore :=
  ObjectStore.new.insert (.token { newToken (fun _ => 7) 1 2 "TOK" 6 100 none with
    info := { (newToken (fun _ => 7) 1 2 "TOK" 6 100 none).info with version := 1 } })

def withOperation (op : ObjectOperation) : ExecutionPlan :=
  { txId := 1, operations := [op], requiredCapabilities := [], objectAccess := [.write 7]
    gasEstimate := 1000, gasLimit := 1000000 }

theorem agrees_withToken (id : ObjectId) : (withToken.cell id).Agrees := by
  constructor
  · intro b entry
    cases entry
  · intro p entry
    cases entry
  · intro v entry
    cases entry

theorem updated_version_bumped :
    BumpsOnce (fun _ => 7) (withOperation (.updateVersion 7)) withToken := by
  refine (bumpsOnce_iff_room (fun _ => 7) agrees_withToken (by decide +kernel)).2 ?_
  intro id touched object held
  obtain rfl : id = 7 := List.mem_singleton.1 touched
  have version : object.info.version = 1 := by
    have found : (withToken.get 7).map (fun object => object.info.version) = some 1 := by decide +kernel
    rw [held] at found
    exact Option.some.inj found
  refine ⟨by rw [version]; decide, ?_⟩
  rintro ⟨op, member, created, -⟩
  rw [List.mem_singleton.1 member] at created
  cases created

/-- A token created a second time is put in the place of the first and has version 1 again. -/
theorem created_again_keeps_version :
    (∀ id, (withToken.cell id).Agrees) ∧
      (applyPlan (fun _ => 7) (withOperation (.createToken 1 2 "TOK" 6 100 none)) withToken).1.success =
        true ∧
      ¬ BumpsOnce (fun _ => 7) (withOperation (.createToken 1 2 "TOK" 6 100 none)) withToken := by
  refine ⟨agrees_withToken, by decide +kernel, fun bumps => ?_⟩
  have raised := bumps.affected 7 (by decide +kernel) (by decide +kernel)
  exact absurd raised.object (by decide +kernel)

end Samples

end SettlementEngine

end Omniphi.Runtime
