import Omniphi.Basic
import Omniphi.Lib.SlidingWindow

/-! The two replay guards, of proposals and of the submission queue. Both hold the last keys recorded. -/

namespace Omniphi.PoSeq

namespace Replay

/-- Capacity zero stands for no bound. -/
structure ReplayGuard (κ : Type) [Ord κ] where
  seen : BTreeSet κ
  insertionOrder : BTreeMap Nat κ
  nextSeq : Nat
  capacity : Nat

namespace ReplayGuard

variable {κ : Type} [Ord κ] [Std.TransOrd κ]

def new (capacity : Nat) : ReplayGuard κ where
  seen := ∅
  insertionOrder := ∅
  nextSeq := 0
  capacity := capacity

def evictOldest (guard : ReplayGuard κ) : ReplayGuard κ :=
  match guard.insertionOrder.minKey? with
  | none => guard
  | some oldestSeq =>
      match guard.insertionOrder[oldestSeq]? with
      | none => guard
      | some oldestKey =>
          { guard with
            insertionOrder := guard.insertionOrder.erase oldestSeq
            seen := guard.seen.erase oldestKey }

def push (guard : ReplayGuard κ) (key : κ) : ReplayGuard κ :=
  { guard with
    nextSeq := guard.nextSeq + 1
    insertionOrder := guard.insertionOrder.insert guard.nextSeq key
    seen := guard.seen.insert key }

def checkAndRecord (guard : ReplayGuard κ) (key : κ) : ReplayGuard κ × Bool :=
  if guard.seen.contains key then (guard, false)
  else
    -- The oldest key goes before the new one comes in.
    let guard := if 0 < guard.capacity ∧ guard.capacity ≤ guard.seen.size then guard.evictOldest else guard
    (guard.push key, true)

def contains (guard : ReplayGuard κ) (key : κ) : Bool := guard.seen.contains key

end ReplayGuard

end Replay

namespace Queue

/-- A history of length zero stands for no bound. -/
structure ReplayGuard where
  seenIds : BTreeSet Bytes32
  insertionOrder : List Bytes32
  maxHistory : Nat

namespace ReplayGuard

def new (maxHistory : Nat) : ReplayGuard where
  seenIds := ∅
  insertionOrder := []
  maxHistory := maxHistory

inductive PoSeqError
  | duplicate (id : Bytes32)
deriving DecidableEq

def checkAndRecord (guard : ReplayGuard) (id : Bytes32) : ReplayGuard × Except PoSeqError Unit :=
  if guard.seenIds.contains id then (guard, .error (.duplicate id))
  else
    let guard := { guard with
      seenIds := guard.seenIds.insert id, insertionOrder := guard.insertionOrder ++ [id] }
    if 0 < guard.maxHistory ∧ guard.maxHistory < guard.insertionOrder.length then
      match guard.insertionOrder with
      | [] => (guard, .ok ())
      | oldest :: order =>
          ({ guard with insertionOrder := order, seenIds := guard.seenIds.erase oldest }, .ok ())
    else (guard, .ok ())

def contains (guard : ReplayGuard) (id : Bytes32) : Bool := guard.seenIds.contains id

end ReplayGuard

end Queue

open SlidingWindow

namespace Replay.ReplayGuard

variable {κ : Type} [Ord κ] [Std.TransOrd κ] {guard : ReplayGuard κ} {window : List κ} {key : κ}

/-- The set holds the window, and the sequence numbers of the window are the last ones given out. -/
structure Holds (guard : ReplayGuard κ) (window : List κ) : Prop where
  seen : ∀ key, key ∈ guard.seen ↔ key ∈ window
  size : guard.seen.size = window.length
  given : window.length ≤ guard.nextSeq
  order : ∀ seq, guard.insertionOrder[seq]? =
    if guard.nextSeq - window.length ≤ seq then window[seq - (guard.nextSeq - window.length)]? else none

theorem holds_new (capacity : Nat) : (new capacity : ReplayGuard κ).Holds [] where
  seen := by simp [new]
  size := Std.ExtTreeSet.size_empty
  given := le_rfl
  order := by
    intro seq
    simp [new]

theorem checkAndRecord_of_mem (holds : guard.Holds window) (member : key ∈ window) :
    guard.checkAndRecord key = (guard, false) := by
  have held := Std.ExtTreeSet.mem_iff_contains.1 ((holds.seen key).2 member)
  rw [checkAndRecord, if_pos held]

theorem contains_iff (holds : guard.Holds window) (key : κ) : guard.contains key = true ↔ key ∈ window := by
  rw [contains, ← Std.ExtTreeSet.mem_iff_contains, holds.seen]

theorem minKey?_of_holds {oldest : κ} {rest : List κ} (holds : guard.Holds (oldest :: rest)) :
    guard.insertionOrder.minKey? = some (guard.nextSeq - (oldest :: rest).length) ∧
      guard.insertionOrder[guard.nextSeq - (oldest :: rest).length]? = some oldest := by
  have first : guard.insertionOrder[guard.nextSeq - (oldest :: rest).length]? = some oldest := by
    rw [holds.order, if_pos le_rfl, Nat.sub_self, List.getElem?_cons_zero]
  refine ⟨?_, first⟩
  rw [Std.ExtTreeMap.minKey?_eq_some_iff_mem_and_forall]
  refine ⟨Std.ExtTreeMap.mem_iff_isSome_getElem?.2 (by rw [first, Option.isSome_some]), ?_⟩
  intro seq member
  rw [Std.ExtTreeMap.mem_iff_isSome_getElem?, holds.order] at member
  split at member
  · rename_i after
    rw [Nat.isLE_compare]
    exact after
  · cases member

theorem evictOldest_of_holds {oldest : κ} {rest : List κ} (holds : guard.Holds (oldest :: rest)) :
    guard.evictOldest = { guard with
      insertionOrder := guard.insertionOrder.erase (guard.nextSeq - (oldest :: rest).length)
      seen := guard.seen.erase oldest } := by
  obtain ⟨least, first⟩ := minKey?_of_holds holds
  unfold evictOldest
  rw [least]
  dsimp only
  rw [first]

variable [Std.LawfulEqOrd κ]

theorem holds_evictOldest {oldest : κ} {rest : List κ} (holds : guard.Holds (oldest :: rest))
    (nodup : (oldest :: rest).Nodup) : guard.evictOldest.Holds rest := by
  obtain ⟨fresh, -⟩ := List.nodup_cons.1 nodup
  have given := holds.given
  rw [evictOldest_of_holds holds]
  refine ⟨?_, ?_, ?_, ?_⟩
  · intro key
    rw [Std.ExtTreeSet.mem_erase, holds.seen, List.mem_cons]
    constructor
    · rintro ⟨other, rfl | member⟩
      · exact absurd Std.ReflCmp.compare_self other
      · exact member
    · intro member
      refine ⟨?_, .inr member⟩
      intro same
      rw [Std.LawfulEqCmp.compare_eq_iff_eq] at same
      exact fresh (same ▸ member)
  · have held : guard.seen.contains oldest = true :=
      Std.ExtTreeSet.mem_iff_contains.1 ((holds.seen oldest).2 List.mem_cons_self)
    rw [Std.ExtTreeSet.size_erase, if_pos held, holds.size, List.length_cons, Nat.add_sub_cancel]
  · exact (Nat.le_succ _).trans given
  · intro seq
    rw [BTree.getElem?_erase, holds.order]
    dsimp only
    rw [List.length_cons] at given ⊢
    by_cases here : guard.nextSeq - (rest.length + 1) = seq
    · rw [if_pos here, if_neg (by omega)]
    · rw [if_neg here]
      by_cases after : guard.nextSeq - rest.length ≤ seq
      · have shift : seq - (guard.nextSeq - (rest.length + 1)) = seq - (guard.nextSeq - rest.length) + 1 := by
          omega
        rw [if_pos after, if_pos (by omega), shift, List.getElem?_cons_succ]
      · rw [if_neg after, if_neg (by omega)]

theorem holds_push (holds : guard.Holds window) (fresh : key ∉ window) :
    (guard.push key).Holds (window ++ [key]) := by
  have given := holds.given
  unfold push
  refine ⟨?_, ?_, ?_, ?_⟩
  · intro other
    rw [Std.ExtTreeSet.mem_insert, holds.seen, Std.LawfulEqCmp.compare_eq_iff_eq, List.mem_append,
      List.mem_singleton, or_comm, eq_comm]
  · have absent : guard.seen.contains key = false := by
      rw [← Bool.not_eq_true, ← Std.ExtTreeSet.mem_iff_contains, holds.seen]
      exact fresh
    rw [Std.ExtTreeSet.size_insert, if_neg (by rw [absent]; exact Bool.false_ne_true), holds.size,
      List.length_append, List.length_singleton]
  · dsimp only
    rw [List.length_append, List.length_singleton]
    omega
  · intro seq
    have start : guard.nextSeq + 1 - (window ++ [key]).length = guard.nextSeq - window.length := by
      rw [List.length_append, List.length_singleton]
      omega
    rw [BTree.getElem?_insert, holds.order]
    dsimp only
    rw [start]
    by_cases here : guard.nextSeq = seq
    · have index : seq - (guard.nextSeq - window.length) = window.length := by omega
      rw [if_pos here, if_pos (by omega), index, List.getElem?_concat_length]
    · rw [if_neg here]
      by_cases after : guard.nextSeq - window.length ≤ seq
      · rw [if_pos after, if_pos after]
        by_cases inside : seq < guard.nextSeq
        · rw [List.getElem?_append_left (by omega)]
        · rw [List.getElem?_eq_none (by omega), List.getElem?_eq_none]
          rw [List.length_append, List.length_singleton]
          omega
      · rw [if_neg after, if_neg after]

theorem checkAndRecord_of_fresh (holds : guard.Holds window) (nodup : window.Nodup)
    (positive : 0 < guard.capacity) (bounded : window.length ≤ guard.capacity) (fresh : key ∉ window) :
    (guard.checkAndRecord key).1.Holds (slide guard.capacity window key) ∧
      (guard.checkAndRecord key).1.capacity = guard.capacity ∧ (guard.checkAndRecord key).2 = true := by
  have absent : ¬ guard.seen.contains key = true := by
    rw [← Std.ExtTreeSet.mem_iff_contains, holds.seen]
    exact fresh
  unfold checkAndRecord slide
  rw [if_neg absent]
  dsimp only
  by_cases room : window.length < guard.capacity
  · have notFull : ¬ (0 < guard.capacity ∧ guard.capacity ≤ guard.seen.size) := by
      rw [holds.size]
      omega
    rw [if_neg notFull, if_pos room]
    exact ⟨holds_push holds fresh, rfl, rfl⟩
  · have full : 0 < guard.capacity ∧ guard.capacity ≤ guard.seen.size := by
      rw [holds.size]
      omega
    rw [if_pos full, if_neg room]
    cases window with
    | nil => exact absurd positive room
    | cons oldest rest =>
        have evicted := holds_evictOldest holds nodup
        refine ⟨holds_push evicted fun member => fresh (List.mem_cons_of_mem _ member), ?_, rfl⟩
        rw [evictOldest_of_holds holds]
        rfl

theorem holds_foldl [DecidableEq κ] {capacity : Nat} (positive : 0 < capacity) (keys : List κ) :
    (keys.foldl (fun guard key => (guard.checkAndRecord key).1) (new capacity)).Holds
        (last capacity (recorded capacity keys)) ∧
      (keys.foldl (fun guard key => (guard.checkAndRecord key).1) (new capacity)).capacity = capacity := by
  apply holds_recorded (fun (guard : ReplayGuard κ) window =>
    guard.Holds window ∧ guard.capacity = capacity) positive
  · rintro guard window key ⟨holds, -⟩ member
    rw [checkAndRecord_of_mem holds member]
  · rintro guard window key ⟨holds, rfl⟩ nodup bounded fresh
    obtain ⟨holds, kept, -⟩ := checkAndRecord_of_fresh holds nodup positive bounded fresh
    exact ⟨holds, kept⟩
  · exact ⟨holds_new capacity, rfl⟩

end Replay.ReplayGuard

namespace Queue.ReplayGuard

variable {guard : ReplayGuard} {window : List Bytes32} {id : Bytes32}

structure Holds (guard : ReplayGuard) (window : List Bytes32) : Prop where
  seenIds : ∀ id, id ∈ guard.seenIds ↔ id ∈ window
  order : guard.insertionOrder = window

theorem holds_new (maxHistory : Nat) : (new maxHistory).Holds [] := ⟨by simp [new], rfl⟩

theorem checkAndRecord_of_mem (holds : guard.Holds window) (member : id ∈ window) :
    guard.checkAndRecord id = (guard, .error (.duplicate id)) := by
  have held := Std.ExtTreeSet.mem_iff_contains.1 ((holds.seenIds id).2 member)
  rw [checkAndRecord, if_pos held]

theorem checkAndRecord_of_fresh (holds : guard.Holds window) (nodup : window.Nodup)
    (positive : 0 < guard.maxHistory) (bounded : window.length ≤ guard.maxHistory) (fresh : id ∉ window) :
    (guard.checkAndRecord id).1.Holds (slide guard.maxHistory window id) ∧
      (guard.checkAndRecord id).1.maxHistory = guard.maxHistory ∧ (guard.checkAndRecord id).2 = .ok () := by
  have absent : ¬ guard.seenIds.contains id = true := by
    rw [← Std.ExtTreeSet.mem_iff_contains, holds.seenIds]
    exact fresh
  have entered (other : Bytes32) : other ∈ guard.seenIds.insert id ↔ other ∈ window ++ [id] := by
    rw [Std.ExtTreeSet.mem_insert, holds.seenIds, Std.LawfulEqCmp.compare_eq_iff_eq, List.mem_append,
      List.mem_singleton, or_comm, eq_comm]
  unfold checkAndRecord slide
  rw [if_neg absent, holds.order]
  dsimp only
  by_cases room : window.length < guard.maxHistory
  · have short : ¬ (0 < guard.maxHistory ∧ guard.maxHistory < (window ++ [id]).length) := by
      rw [List.length_append, List.length_singleton]
      omega
    rw [if_neg short, if_pos room]
    exact ⟨⟨entered, rfl⟩, rfl, rfl⟩
  · have long : 0 < guard.maxHistory ∧ guard.maxHistory < (window ++ [id]).length := by
      rw [List.length_append, List.length_singleton]
      omega
    rw [if_pos long, if_neg room]
    cases window with
    | nil => exact absurd positive room
    | cons oldest rest =>
        refine ⟨⟨?_, rfl⟩, rfl, rfl⟩
        intro other
        show other ∈ (guard.seenIds.insert id).erase oldest ↔ _
        rw [Std.ExtTreeSet.mem_erase, entered, List.tail_cons, List.cons_append, List.mem_cons]
        obtain ⟨out, -⟩ := List.nodup_cons.1 nodup
        have gone : oldest ∉ rest ++ [id] := by
          rw [List.mem_append, List.mem_singleton]
          rintro (later | same)
          · exact out later
          · exact fresh (same ▸ List.mem_cons_self)
        constructor
        · rintro ⟨other, rfl | member⟩
          · exact absurd Std.ReflCmp.compare_self other
          · exact member
        · intro member
          refine ⟨?_, .inr member⟩
          intro same
          rw [Std.LawfulEqCmp.compare_eq_iff_eq] at same
          exact gone (same ▸ member)

theorem contains_iff (holds : guard.Holds window) (id : Bytes32) :
    guard.contains id = true ↔ id ∈ window := by
  rw [contains, ← Std.ExtTreeSet.mem_iff_contains, holds.seenIds]

theorem holds_foldl {maxHistory : Nat} (positive : 0 < maxHistory) (ids : List Bytes32) :
    (ids.foldl (fun guard id => (guard.checkAndRecord id).1) (new maxHistory)).Holds
        (last maxHistory (recorded maxHistory ids)) ∧
      (ids.foldl (fun guard id => (guard.checkAndRecord id).1) (new maxHistory)).maxHistory =
        maxHistory := by
  apply holds_recorded (fun (guard : ReplayGuard) window =>
    guard.Holds window ∧ guard.maxHistory = maxHistory) positive
  · rintro guard window id ⟨holds, -⟩ member
    rw [checkAndRecord_of_mem holds member]
  · rintro guard window id ⟨holds, rfl⟩ nodup bounded fresh
    obtain ⟨holds, kept, -⟩ := checkAndRecord_of_fresh holds nodup positive bounded fresh
    exact ⟨holds, kept⟩
  · exact ⟨holds_new maxHistory, rfl⟩

end Queue.ReplayGuard

section Agreement

def Replay.ReplayGuard.after (capacity : Nat) (keys : List Bytes32) : Replay.ReplayGuard Bytes32 :=
  keys.foldl (fun guard key => (guard.checkAndRecord key).1) (.new capacity)

def Queue.ReplayGuard.after (maxHistory : Nat) (ids : List Bytes32) : Queue.ReplayGuard :=
  ids.foldl (fun guard id => (guard.checkAndRecord id).1) (.new maxHistory)

/-- After the keys both guards contain the last ones recorded, all different; a key they contain is
refused and changes nothing, and any other is recorded. -/
structure SameWindow (capacity : Nat) (keys : List Bytes32) : Prop where
  proposals : ∀ key, (Replay.ReplayGuard.after capacity keys).contains key = true ↔
    key ∈ last capacity (recorded capacity keys)
  submissions : ∀ key, (Queue.ReplayGuard.after capacity keys).contains key = true ↔
    key ∈ last capacity (recorded capacity keys)
  distinct : (last capacity (recorded capacity keys)).Nodup
  contained : ∀ key ∈ last capacity (recorded capacity keys),
    (Replay.ReplayGuard.after capacity keys).checkAndRecord key =
      (Replay.ReplayGuard.after capacity keys, false) ∧
    (Queue.ReplayGuard.after capacity keys).checkAndRecord key =
      (Queue.ReplayGuard.after capacity keys, .error (.duplicate key))
  fresh : ∀ key ∉ last capacity (recorded capacity keys),
    ((Replay.ReplayGuard.after capacity keys).checkAndRecord key).2 = true ∧
    ((Queue.ReplayGuard.after capacity keys).checkAndRecord key).2 = .ok ()

end Agreement

end Omniphi.PoSeq
