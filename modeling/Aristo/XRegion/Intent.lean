import Aristo.Base.KeyValue
import Aristo.Base.GoMap
import Aristo.Base.Time

/-!
# Cross-region intents

The types of `coordination/xregion/types.go` and `ValidateStateChanges`: one pass over the map of
changes with a table of the transfers seen so far.  A transfer out is entered under its key,
replacing an earlier entry, and a transfer in looks its key up.  The pass depends on the order in
which the map is visited, so the order is an argument here; `visited` is the sequence of changes it
goes through, and `accepts_iff` says what one pass accepts.
-/

namespace Aristo

open GoBase List

namespace XRegion

/-- `StateOperation`, a Go `int` with six named values. -/
structure StateOperation where
  code : Int64
deriving DecidableEq

namespace StateOperation

def set : StateOperation := ⟨0⟩

def delete : StateOperation := ⟨1⟩

/-- `StateOpTransferOut`: remove from the source region. -/
def transferOut : StateOperation := ⟨2⟩

/-- `StateOpTransferIn`: add to the target region. -/
def transferIn : StateOperation := ⟨3⟩

def lock : StateOperation := ⟨4⟩

def unlock : StateOperation := ⟨5⟩

@[simp] theorem transferIn_ne_transferOut : transferIn ≠ transferOut := by decide

@[simp] theorem transferOut_ne_transferIn : transferOut ≠ transferIn := by decide

@[simp] theorem transferOut_ne_set : transferOut ≠ set := by decide

@[simp] theorem set_ne_transferOut : set ≠ transferOut := by decide

end StateOperation

structure StateChange where
  key : Bytes
  value : Bytes
  operation : StateOperation
  source : Bytes
  target : Bytes
deriving DecidableEq

structure TimeWindow where
  start : Time
  /-- Nanoseconds. -/
  duration : Int64
deriving DecidableEq

/-- `CrossRegionIntent`, without `Status`, `CreatedAt`, `Dependencies` and `Data`, which nothing
reads. -/
structure CrossRegionIntent where
  id : Bytes
  sourceRegion : Bytes
  targetRegions : List Bytes
  timeWindow : TimeWindow
  signatures : GoMap Bytes Bytes
  stateChanges : GoMap Bytes (List StateChange)

/-- The record that `ValidateStateChanges` keeps of a transfer out. -/
structure TransferRecord where
  source : Bytes
  target : Bytes
  key : Bytes
deriving DecidableEq

/-- A state change with the region whose list it stands in. -/
abbrev Placed := Bytes × StateChange

/-- The body of the inner loop of `ValidateStateChanges`. -/
def validateChange (transfers : KeyValue Bytes TransferRecord) (placed : Placed) :
    Except GoError (KeyValue Bytes TransferRecord) :=
  let region := placed.1
  let change := placed.2
  if change.operation = .transferOut then
    if change.target = [] then
      .error (.plain (ascii "transfer out from " ++ region ++ ascii " missing target region"))
    else
      .ok (transfers.insert change.key
        { source := region, target := change.target, key := change.key })
  else if change.operation = .transferIn then
    if change.source = [] then
      .error (.plain (ascii "transfer in to " ++ region ++ ascii " missing source region"))
    else
      match transfers change.key with
      | none =>
        .error (.plain (ascii "transfer in to " ++ region ++
          ascii " has no matching transfer out"))
      | some t =>
        if t.target ≠ region then
          .error (.plain (ascii "transfer target mismatch: expected " ++ t.target ++
            ascii ", got " ++ region))
        else
          .ok transfers
  else
    .ok transfers

namespace CrossRegionIntent

def placedIn (intent : CrossRegionIntent) (region : Bytes) : List Placed :=
  (intent.stateChanges.get region).map fun change => (region, change)

/-- `ValidateStateChanges`, visiting the regions of `StateChanges` in `order`. -/
def validateStateChanges (intent : CrossRegionIntent) (order : List Bytes) :
    Except GoError Unit := do
  let _transfers ← order.foldlM
    (fun transfers region => (intent.placedIn region).foldlM validateChange transfers)
    (fun _ => none)
  return ()

/-- The changes in the order in which a pass over the regions visits them. -/
def visited (intent : CrossRegionIntent) (order : List Bytes) : List Placed :=
  order.flatMap intent.placedIn

/-- A pass over the regions in `order` accepts the intent. -/
def Accepts (intent : CrossRegionIntent) (order : List Bytes) : Prop :=
  intent.validateStateChanges order = .ok ()

instance decidableAccepts (intent : CrossRegionIntent) (order : List Bytes) :
    Decidable (intent.Accepts order) :=
  match h : intent.validateStateChanges order with
  | .ok () => isTrue h
  | .error error => isFalse (by rw [Accepts, h]; simp)

end CrossRegionIntent

/-! ## What a pass accepts -/

/-- The target of the last transfer out of `key` in a sequence of changes. -/
def lastOut (seen : List Placed) (key : Bytes) : Option Bytes :=
  (seen.reverse.find? fun placed =>
    placed.2.operation = .transferOut ∧ placed.2.key = key).map fun placed => placed.2.target

/-- A change names the other region of its transfer, if it is one. -/
def Named (placed : Placed) : Prop :=
  (placed.2.operation = .transferOut → placed.2.target ≠ []) ∧
    (placed.2.operation = .transferIn → placed.2.source ≠ [])

/-- A transfer in is served by what was visited before it: the last transfer out of
its key targets its region. -/
def Served (seen : List Placed) (placed : Placed) : Prop :=
  placed.2.operation = .transferIn → lastOut seen placed.2.key = some placed.1

/-- The table after a sequence of changes agrees with `lastOut`. -/
def Records (transfers : KeyValue Bytes TransferRecord) (seen : List Placed) : Prop :=
  ∀ key, (transfers key).map TransferRecord.target = lastOut seen key

theorem lastOut_append_singleton (seen : List Placed) (placed : Placed) (key : Bytes) :
    lastOut (seen ++ [placed]) key =
      if placed.2.operation = .transferOut ∧ placed.2.key = key then
        some placed.2.target
      else
        lastOut seen key := by
  by_cases h : placed.2.operation = .transferOut ∧ placed.2.key = key <;>
    simp [lastOut, h]

theorem lastOut_append_of_mem (seen : List Placed) {tail : List Placed} {key : Bytes}
    (h : ∃ placed ∈ tail, placed.2.operation = .transferOut ∧ placed.2.key = key) :
    lastOut (seen ++ tail) key = lastOut tail key := by
  unfold lastOut
  rw [reverse_append, List.find?_append]
  obtain ⟨placed, mem, out, same⟩ := h
  have found : (tail.reverse.find? fun placed =>
      placed.2.operation = .transferOut ∧ placed.2.key = key).isSome = true := by
    rw [List.find?_isSome]
    exact ⟨placed, mem_reverse.mpr mem, by simp [out, same]⟩
  obtain ⟨first, hfirst⟩ := Option.isSome_iff_exists.mp found
  rw [hfirst]
  rfl

variable {seen : List Placed}

theorem exists_of_lastOut {key target : Bytes} (h : lastOut seen key = some target) :
    ∃ placed ∈ seen, placed.2.operation = .transferOut ∧ placed.2.key = key ∧
      placed.2.target = target := by
  obtain ⟨placed, found, same⟩ := Option.map_eq_some_iff.mp h
  have test := List.find?_some found
  simp only [decide_eq_true_eq] at test
  exact ⟨placed, mem_reverse.mp (mem_of_find?_eq_some found), test.1, test.2, same⟩

variable {transfers : KeyValue Bytes TransferRecord}

/-- **One change.**  The loop body succeeds exactly on a change that names its other region and is
served. -/
theorem validateChange_ok_iff (records : Records transfers seen) (placed : Placed) :
    (∃ next, validateChange transfers placed = .ok next) ↔
      Named placed ∧ Served seen placed := by
  unfold validateChange Named Served
  rw [← records placed.2.key]
  by_cases out : placed.2.operation = .transferOut
  · by_cases target : placed.2.target = [] <;> simp [out, target]
  · by_cases inward : placed.2.operation = .transferIn
    · by_cases source : placed.2.source = []
      · simp [inward, source]
      · cases entry : transfers placed.2.key with
        | none => simp [inward, source, entry]
        | some t =>
          by_cases mismatch : t.target = placed.1 <;>
            simp [inward, source, entry, mismatch]
    · simp [out, inward]

theorem validateChange_eq_ok {next : KeyValue Bytes TransferRecord} {placed : Placed}
    (h : validateChange transfers placed = .ok next) :
    next = if placed.2.operation = .transferOut then
        transfers.insert placed.2.key
          { source := placed.1, target := placed.2.target, key := placed.2.key }
      else
        transfers := by
  unfold validateChange at h
  by_cases out : placed.2.operation = .transferOut
  · by_cases target : placed.2.target = []
    · simp [out, target] at h
    · simpa [out, target] using h.symm
  · -- a transfer in is checked against the table and leaves it as it is
    by_cases inward : placed.2.operation = .transferIn
    · by_cases source : placed.2.source = []
      · simp [inward, source] at h
      · cases entry : transfers placed.2.key with
        | none => simp [inward, source, entry] at h
        | some t =>
          by_cases mismatch : t.target = placed.1
          · simpa [inward, source, entry, mismatch] using h.symm
          · simp [inward, source, entry, mismatch] at h
    · simpa [out, inward] using h.symm

theorem validateChange_records {next : KeyValue Bytes TransferRecord}
    (records : Records transfers seen) {placed : Placed}
    (h : validateChange transfers placed = .ok next) :
    Records next (seen ++ [placed]) := by
  intro key
  rw [lastOut_append_singleton, validateChange_eq_ok h]
  by_cases out : placed.2.operation = .transferOut
  · by_cases same : placed.2.key = key
    · subst same
      simp [out]
    · have other : key ≠ placed.2.key := fun equal => same equal.symm
      simp [out, same, KeyValue.insert_of_ne _ _ other, records key]
  · simp [out, records key]

/-- **A run of changes.**  The loop succeeds exactly when every change names its other region and is
served. -/
theorem foldlM_validateChange_ok_iff (records : Records transfers seen) (changes : List Placed) :
    (∃ next, changes.foldlM validateChange transfers = .ok next) ↔
      ∀ before placed after, changes = before ++ placed :: after →
        Named placed ∧ Served (seen ++ before) placed := by
  induction changes generalizing transfers seen with
  | nil =>
    refine iff_of_true ⟨transfers, rfl⟩ ?_
    intro before placed after split
    simp at split
  | cons first changes ih =>
    rw [foldlM_cons]
    cases step : validateChange transfers first with
    | error =>
      -- the first change is rejected, so it stands unserved in front of the rest
      have rejected : ¬ (Named first ∧ Served seen first) := by
        rw [← validateChange_ok_iff records, step]
        simp
      refine iff_of_false (fun ⟨next, h⟩ => by cases h) fun all => rejected ?_
      simpa using all [] first changes rfl
    | ok next =>
      have accepted : Named first ∧ Served seen first :=
        (validateChange_ok_iff records first).mp ⟨next, step⟩
      have rest := ih (validateChange_records records step)
      refine Iff.trans rest ⟨fun all before placed after split => ?_,
        fun all before placed after split => ?_⟩
      · cases before with
        | nil =>
          obtain ⟨rfl, -⟩ := List.cons.inj split
          simpa using accepted
        | cons head before =>
          obtain ⟨rfl, tail⟩ := List.cons.inj split
          simpa using all before placed after tail
      · simpa using all (first :: before) placed after (by rw [split]; rfl)

namespace CrossRegionIntent

variable {intent : CrossRegionIntent} {order : List Bytes}

theorem mem_visited (visits : intent.stateChanges.Visits order) {region : Bytes}
    {change : StateChange} :
    (region, change) ∈ intent.visited order ↔ change ∈ intent.stateChanges.get region := by
  simp only [visited, placedIn, mem_flatMap, mem_map, Prod.mk.injEq]
  constructor
  · rintro ⟨r, -, c, mem, rfl, rfl⟩
    exact mem
  · intro mem
    exact ⟨region, (visits.mem_iff region).mpr (GoMap.mem_of_mem_get mem), change, mem, rfl,
      rfl⟩

/-- Every transfer of the intent names its other region. -/
def AllNamed (intent : CrossRegionIntent) : Prop :=
  ∀ region, ∀ change ∈ intent.stateChanges.get region, Named (region, change)

/-- Visited in `order`, every transfer in finds a transfer out to its region. -/
def AllServed (intent : CrossRegionIntent) (order : List Bytes) : Prop :=
  ∀ before placed after, intent.visited order = before ++ placed :: after →
    Served before placed

theorem accepts_iff (visits : intent.stateChanges.Visits order) :
    intent.Accepts order ↔ intent.AllNamed ∧ intent.AllServed order := by
  have fresh : Records (fun _ => none) [] := fun _ => rfl
  have flat : intent.Accepts order ↔
      ∃ next, (intent.visited order).foldlM validateChange (fun _ => none) = .ok next := by
    unfold Accepts validateStateChanges visited
    rw [foldlM_flatMap intent.placedIn validateChange]
    cases (order.flatMap intent.placedIn).foldlM validateChange fun _ => none with
    | ok next => exact iff_of_true rfl ⟨next, rfl⟩
    | error => exact iff_of_false (fun h => by cases h) (fun ⟨_, h⟩ => by cases h)
  rw [flat, foldlM_validateChange_ok_iff fresh]
  constructor
  · intro all
    refine ⟨fun region change mem => ?_, fun before placed after split => ?_⟩
    · obtain ⟨before, after, split⟩ := append_of_mem ((mem_visited visits).mpr mem)
      exact (all before (region, change) after split).1
    · exact (all before placed after split).2
  · rintro ⟨named, served⟩ before placed after split
    refine ⟨named placed.1 placed.2 ?_, served before placed after split⟩
    rw [← mem_visited visits, split]
    simp

end CrossRegionIntent

end XRegion

end Aristo
