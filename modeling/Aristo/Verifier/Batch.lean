import Aristo.Base.GoMap
import Aristo.Verifier.Verifier

/-!
# Batches of actions

`BatchVerifier` of `verifier/batch.go` verifies a list of actions in three passes: the first marks
what the actions do, the second verifies each action and looks at the marks, and the third checks
the order of the events.  `accepts_iff` says which batches are accepted.

Of the `GetValue` of the state only is assumed that it looks at some view and leaves it alone.
`printed` is the text of a time, and a `Range` the order in which maps are visited.
-/

namespace Aristo

open GoBase Call Storage Actions List

namespace Verifier

/-! ## The batch verifier -/

def errBatchLimit : GoError := .new ⟨"verifier", "ErrBatchLimit"⟩ "batch size exceeds limit"

def errDuplicateAction : GoError :=
  .new ⟨"verifier", "ErrDuplicateAction"⟩ "duplicate action in batch"

def errConflictingAction : GoError :=
  .new ⟨"verifier", "ErrConflictingAction"⟩ "conflicting actions in batch"

def errInvalidTimestamp : GoError :=
  .new ⟨"verifier", "ErrInvalidTimestamp"⟩ "invalid timestamp ordering"

def errDuplicateAttestation : GoError :=
  .new ⟨"verifier", "ErrDuplicateAttestation"⟩ "duplicate attestation in batch"

def maxBatchSize : ℕ := 256

/-- A `chain.Action`, with the types that the batch verifier tells apart. -/
inductive BatchAction where
  | createObject (action : CreateObjectAction)
  | sendEvent (action : SendEventAction)
  | setInputObject (action : SetInputObjectAction)
  | createRegion (action : CreateRegionAction)
  | updateRegion (action : UpdateRegionAction)
  | other (type : Bytes)

/-- The action as the state verifier sees it. -/
def BatchAction.toAction : BatchAction → Action
  | createObject action => .createObject action
  | sendEvent action => .sendEvent action
  | setInputObject action => .setInputObject action
  | createRegion _ => .other (ascii "*actions.CreateRegionAction")
  | updateRegion _ => .other (ascii "*actions.UpdateRegionAction")
  | other type => .other type

/-- An action of a batch, with what the random source gives for its channel. -/
structure Item where
  action : BatchAction
  random : Except Bytes Bytes

/-- `modificationInfo`, without the field that nobody sets. -/
structure ModificationInfo where
  created : Bool
  teeUpdated : Bool

structure EventInfo where
  timestamp : Time
  functionCall : Bytes
  attestations : TEEAttestation × TEEAttestation
  regionID : Bytes

/-- What a `BatchVerifier` keeps about the batch. -/
structure Tracking where
  regionModifications : GoMap Bytes ModificationInfo
  objectModifications : GoMap Bytes ModificationInfo
  eventQueue : GoMap Bytes (List EventInfo)
  attestationsSeen : GoMap Bytes Bool

/-- `BatchVerifier`, with the state under its `StateVerifier`. -/
structure BatchVerifier (σ : Type) where
  tracking : Tracking
  state : σ

namespace Tracking

def empty : Tracking where
  regionModifications := ∅
  objectModifications := ∅
  eventQueue := ∅
  attestationsSeen := ∅

def mark (t : Tracking) (attID : Bytes) : Tracking :=
  { t with attestationsSeen := t.attestationsSeen.insert attID true }

def enqueue (t : Tracking) (a : SendEventAction) : Tracking :=
  let info : EventInfo :=
    { timestamp := a.attestations.1.timestamp
      functionCall := a.functionCall
      attestations := a.attestations
      regionID := a.regionID }
  let evts := t.eventQueue.get a.idTo ++ [info]
  { t with eventQueue := t.eventQueue.insert a.idTo evts }

def createObject (t : Tracking) (id : Bytes) : Tracking :=
  let info : ModificationInfo := { created := true, teeUpdated := false }
  { t with objectModifications := t.objectModifications.insert id info }

def modifyRegion (t : Tracking) (regionID : Bytes) (info : ModificationInfo) : Tracking :=
  { t with regionModifications := t.regionModifications.insert regionID info }

end Tracking

section FirstPass

variable (printed : Time → Bytes)

/-- The text `fmt.Sprintf("%x:%s", att.EnclaveID, att.Timestamp)`. -/
def attestationID (att : TEEAttestation) : Bytes :=
  att.enclaveID.flatMap hexByte ++ 58 :: printed att.timestamp

/-- The body of the loop over the attestations of an event. -/
def markAttestation (att : TEEAttestation) : Call Tracking Unit := do
  let t ← Call.read
  Call.lift (refuse (t.attestationsSeen.get (attestationID printed att) = true)
    errDuplicateAttestation)
  Call.modify (·.mark (attestationID printed att))

/-- The body of the loop of `analyzeActions`. -/
def analyzeAction : BatchAction → Call Tracking Unit
  | .createObject a => do
    let t ← Call.read
    Call.lift (refuse ((t.objectModifications.lookup a.id).any (·.created)) errDuplicateAction)
    Call.modify (·.createObject a.id)
  | .sendEvent a => do
    markAttestation printed a.attestations.1
    markAttestation printed a.attestations.2
    Call.modify (·.enqueue a)
  | .setInputObject a => do
    let t ← Call.read
    Call.lift (refuse ((t.objectModifications.lookup a.id).any (!·.created))
      errConflictingAction)
  | .createRegion a => do
    let t ← Call.read
    Call.lift (refuse ((t.regionModifications.lookup a.regionID).any (·.created))
      errDuplicateAction)
    Call.modify (·.modifyRegion a.regionID { created := true, teeUpdated := false })
  | .updateRegion a => do
    let t ← Call.read
    let existing := t.regionModifications.lookup a.regionID
    Call.lift (refuse (existing.any (·.teeUpdated)) errDuplicateAction)
    Call.lift (refuse (existing.any (·.created)) errConflictingAction)
    Call.modify (·.modifyRegion a.regionID { created := false, teeUpdated := true })
  | .other _ => pure ()

def analyzeActions (acts : List BatchAction) : Call Tracking Unit :=
  forM acts (analyzeAction printed)

end FirstPass

/-- The checks of an action against the marks: `verifyCreateInBatch`, `verifyCreateRegionInBatch`
and the others, which accept everything. -/
def verifyInBatch : BatchAction → Call Tracking Unit
  | .createObject a => do
    let t ← Call.read
    Call.lift (refuse ((t.objectModifications.lookup a.id).any (·.created)) errDuplicateAction)
  | .createRegion a => do
    let t ← Call.read
    Call.lift (refuse ((t.regionModifications.lookup a.regionID).any (·.created))
      errConflictingAction)
  | .sendEvent _ => pure ()
  | .setInputObject _ => pure ()
  | .updateRegion _ => pure ()
  | .other _ => pure ()

/-- The inner loop of `verifyBatchConstraints`. -/
def checkOrder : Time → List EventInfo → Except GoError Unit
  | _, [] => .ok ()
  | prev, eInfo :: evts => do
    refuse (eInfo.timestamp.Before prev) errInvalidTimestamp
    checkOrder eInfo.timestamp evts

def verifyBatchConstraints (range : GoMap.Range Bytes (List EventInfo)) : Call Tracking Unit := do
  let t ← Call.read
  Call.lift (forM (range.order t.eventQueue) fun idTo =>
    checkOrder Time.zero (t.eventQueue.get idTo))

section Batch

variable {σ : Type}

def onTracking {α : Type} (call : Call Tracking α) : Call (BatchVerifier σ) α :=
  Call.focus BatchVerifier.tracking (fun bv tracking => { bv with tracking }) call

def onState {α : Type} (call : Call σ α) : Call (BatchVerifier σ) α :=
  Call.focus BatchVerifier.state (fun bv state => { bv with state }) call

variable (state : Bytes → Call σ Bytes) (printed : Time → Bytes)
  (range : GoMap.Range Bytes (List EventInfo))

def verifyAction (item : Item) : Call (BatchVerifier σ) Unit := do
  onState (verifyStateTransition state item.random item.action.toAction)
  onTracking (verifyInBatch item.action)

def verifyBatch (items : List Item) : Call (BatchVerifier σ) Unit := do
  Call.lift (refuse (items.length > maxBatchSize) errBatchLimit)
  Call.modify fun bv => { bv with tracking := .empty }
  onTracking (analyzeActions printed (items.map Item.action))
  forM items (verifyAction state)
  onTracking (verifyBatchConstraints range)

end Batch

/-! ## The first pass -/

def BatchAction.send? : BatchAction → Option SendEventAction
  | sendEvent a => some a
  | createObject _ => none
  | setInputObject _ => none
  | createRegion _ => none
  | updateRegion _ => none
  | other _ => none

def sends (acts : List BatchAction) : List SendEventAction :=
  acts.filterMap BatchAction.send?

def attestations (acts : List BatchAction) : List TEEAttestation :=
  (sends acts).flatMap fun a => [a.attestations.1, a.attestations.2]

def sentAt (a : SendEventAction) : Time :=
  a.attestations.1.timestamp

/-- The times of the events for an ID, in whatever region. -/
def timestamps (acts : List BatchAction) (idTo : Bytes) : List Time :=
  ((sends acts).filter fun a => a.idTo = idTo).map sentAt

theorem sends_append_of_none {act : BatchAction} (silent : act.send? = none)
    (acts : List BatchAction) : sends (acts ++ [act]) = sends acts := by
  rw [sends, filterMap_append, filterMap_cons_none silent, filterMap_nil, append_nil]
  rfl

theorem sends_append_send (acts : List BatchAction) (a : SendEventAction) :
    sends (acts ++ [.sendEvent a]) = sends acts ++ [a] := by
  rw [sends, filterMap_append]
  rfl

section FirstPass

variable {printed : Time → Bytes} {t t' : Tracking} {ids : List Bytes} {acts : List BatchAction}

/-- The attestations that are marked are those listed, each listed once. -/
structure Marks (t : Tracking) (ids : List Bytes) : Prop where
  distinct : ids.Nodup
  seen : ∀ attID, t.attestationsSeen.get attID = true ↔ attID ∈ ids

/-- A new attestation is marked. -/
theorem Marks.mark (marks : Marks t ids) {attID : Bytes} (fresh : attID ∉ ids) :
    Marks (t.mark attID) (ids ++ [attID]) := by
  constructor
  · rw [← concat_eq_append]
    exact marks.distinct.concat fresh
  · intro other
    rw [mem_append, mem_singleton, ← marks.seen]
    by_cases same : other = attID
    · subst same
      exact iff_of_true (GoMap.get_insert_self _ _ _) (.inr rfl)
    · rw [or_iff_left same]
      exact iff_of_eq (congrArg (· = true) (GoMap.get_insert_of_ne _ _ same))

/-- Only a new attestation passes. -/
theorem markAttestation_eq_ok (marks : Marks t ids) (att : TEEAttestation) :
    markAttestation printed att t = (.ok (), t') ↔
      attestationID printed att ∉ ids ∧ t' = t.mark (attestationID printed att) := by
  rw [markAttestation, bind_of_ok (read_apply t), lift_bind_eq_ok, ← marks.seen]
  constructor
  · rintro ⟨⟨⟩, fresh, equal⟩
    cases equal
    exact ⟨refuse_eq_ok.mp fresh, rfl⟩
  · rintro ⟨fresh, rfl⟩
    exact ⟨(), refuse_eq_ok.mpr fresh, rfl⟩

/-- Two more that are new and different. -/
theorem nodup_append_pair (distinct : ids.Nodup) (first second : Bytes) :
    (ids ++ [first, second]).Nodup ↔ first ∉ ids ∧ second ∉ ids ++ [first] := by
  rw [show ids ++ [first, second] = (ids ++ [first]).concat second by simp,
    nodup_concat, ← concat_eq_append, nodup_concat]
  constructor
  · rintro ⟨second, first, -⟩
    exact ⟨first, second⟩
  · rintro ⟨first, second⟩
    exact ⟨second, first, distinct⟩

/-- The first pass stops at an event with an attestation that was seen. -/
theorem analyzeAction_send_eq_ok (marks : Marks t ids) (a : SendEventAction) :
    let first := attestationID printed a.attestations.1
    let second := attestationID printed a.attestations.2
    analyzeAction printed (.sendEvent a) t = (.ok (), t') ↔
      (ids ++ [first, second]).Nodup ∧ t' = ((t.mark first).mark second).enqueue a := by
  intro first second
  rw [analyzeAction, bind_eq_ok, nodup_append_pair marks.distinct]
  constructor
  · rintro ⟨⟨⟩, middle, marked, h⟩
    obtain ⟨fresh, rfl⟩ := (markAttestation_eq_ok marks _).mp marked
    obtain ⟨⟨⟩, last, marked, h⟩ := bind_eq_ok.mp h
    obtain ⟨fresh', rfl⟩ := (markAttestation_eq_ok (marks.mark fresh) _).mp marked
    cases h
    exact ⟨⟨fresh, fresh'⟩, rfl⟩
  · rintro ⟨⟨fresh, fresh'⟩, rfl⟩
    refine ⟨(), _, (markAttestation_eq_ok marks _).mpr ⟨fresh, rfl⟩, bind_eq_ok.mpr ?_⟩
    exact ⟨(), _, (markAttestation_eq_ok (marks.mark fresh) _).mpr ⟨fresh', rfl⟩, rfl⟩

/-- What the first pass has written when it has gone over the actions. -/
structure Analyzed (printed : Time → Bytes) (acts : List BatchAction) (t : Tracking) : Prop where
  marks : Marks t ((attestations acts).map (attestationID printed))
  queued : ∀ idTo, (t.eventQueue.get idTo).map EventInfo.timestamp = timestamps acts idTo
  created : ∀ a, .createObject a ∈ acts →
    (t.objectModifications.lookup a.id).any (·.created) = true
  only : ∀ id, (t.objectModifications.lookup id).any (!·.created) = false

/-- Actions that neither create nor send are not tracked. -/
theorem Analyzed.append_other (analyzed : Analyzed printed acts t) {act : BatchAction}
    (silent : act.send? = none) (creates : ∀ a, act ≠ .createObject a)
    (seen : t'.attestationsSeen = t.attestationsSeen) (queue : t'.eventQueue = t.eventQueue)
    (objects : t'.objectModifications = t.objectModifications) :
    Analyzed printed (acts ++ [act]) t' := by
  have same := sends_append_of_none silent acts
  constructor
  · rw [attestations, same]
    exact ⟨analyzed.marks.distinct, by rw [seen]; exact analyzed.marks.seen⟩
  · intro idTo
    rw [queue, timestamps, same]
    exact analyzed.queued idTo
  · intro a mem
    rw [objects]
    refine analyzed.created a ?_
    rcases mem_append.mp mem with old | new
    · exact old
    · exact absurd (mem_singleton.mp new).symm (creates a)
  · rw [objects]
    exact analyzed.only

/-- A creation is marked, -/
theorem Analyzed.append_create (analyzed : Analyzed printed acts t) (a : CreateObjectAction) :
    Analyzed printed (acts ++ [.createObject a]) (t.createObject a.id) := by
  have same : sends (acts ++ [.createObject a]) = sends acts := sends_append_of_none rfl acts
  constructor
  · rw [attestations, same]
    exact ⟨analyzed.marks.distinct, analyzed.marks.seen⟩
  · intro idTo
    rw [timestamps, same]
    exact analyzed.queued idTo
  · intro b mem
    by_cases equal : b.id = a.id
    · rw [equal, Tracking.createObject, Finmap.lookup_insert]
      rfl
    · have old : .createObject b ∈ acts := by
        rcases mem_append.mp mem with old | new
        · exact old
        · cases mem_singleton.mp new
          exact absurd rfl equal
      have created := analyzed.created b old
      rwa [← Finmap.lookup_insert_of_ne t.objectModifications equal] at created
  · intro id
    by_cases equal : id = a.id
    · rw [equal, Tracking.createObject, Finmap.lookup_insert]
      rfl
    · have only := analyzed.only id
      rwa [← Finmap.lookup_insert_of_ne t.objectModifications equal] at only

theorem attestationIDs_append_send (printed : Time → Bytes) (acts : List BatchAction)
    (a : SendEventAction) :
    (attestations (acts ++ [.sendEvent a])).map (attestationID printed) =
      (attestations acts).map (attestationID printed) ++
        [attestationID printed a.attestations.1, attestationID printed a.attestations.2] := by
  rw [attestations, sends_append_send, flatMap_append, map_append]
  rfl

/-- and an event is queued. -/
theorem Analyzed.append_send (analyzed : Analyzed printed acts t) (a : SendEventAction)
    (distinct : ((attestations (acts ++ [.sendEvent a])).map (attestationID printed)).Nodup) :
    Analyzed printed (acts ++ [.sendEvent a])
      (((t.mark (attestationID printed a.attestations.1)).mark
        (attestationID printed a.attestations.2)).enqueue a) := by
  rw [attestationIDs_append_send, nodup_append_pair analyzed.marks.distinct] at distinct
  have marks := (analyzed.marks.mark distinct.1).mark distinct.2
  constructor
  · rw [attestationIDs_append_send]
    rw [append_assoc] at marks
    exact ⟨marks.distinct, marks.seen⟩
  · intro idTo
    rw [timestamps, sends_append_send, filter_append, map_append, ← timestamps, ← analyzed.queued]
    by_cases target : a.idTo = idTo
    · subst target
      have queue : GoMap.get (((t.mark (attestationID printed a.attestations.1)).mark
          (attestationID printed a.attestations.2)).enqueue a).eventQueue a.idTo = _ :=
        GoMap.get_insert_self _ _ _
      rw [queue, map_append, filter_cons_of_pos (by simp)]
      rfl
    · have queue : GoMap.get (((t.mark (attestationID printed a.attestations.1)).mark
          (attestationID printed a.attestations.2)).enqueue a).eventQueue idTo = _ :=
        GoMap.get_insert_of_ne _ _ fun equal => target equal.symm
      rw [queue, filter_cons_of_neg (by simpa using target)]
      exact (append_nil _).symm
  · intro b mem
    refine analyzed.created b ?_
    rcases mem_append.mp mem with old | new
    · exact old
    · cases mem_singleton.mp new
  · exact analyzed.only

/-- **One action** of the first pass, -/
theorem Analyzed.step (analyzed : Analyzed printed acts t) {act : BatchAction}
    (h : analyzeAction printed act t = (.ok (), t')) : Analyzed printed (acts ++ [act]) t' := by
  cases act with
  | createObject a =>
    rw [analyzeAction, bind_of_ok (read_apply t)] at h
    obtain ⟨_, -, h⟩ := lift_bind_eq_ok.mp h
    cases h
    exact analyzed.append_create a
  | sendEvent a =>
    obtain ⟨distinct, rfl⟩ := (analyzeAction_send_eq_ok analyzed.marks a).mp h
    rw [← attestationIDs_append_send] at distinct
    exact analyzed.append_send a distinct
  | setInputObject =>
    rw [analyzeAction, bind_of_ok (read_apply t)] at h
    obtain ⟨-, rfl⟩ := lift_eq_ok.mp h
    exact analyzed.append_other rfl (by simp) rfl rfl rfl
  | createRegion | updateRegion =>
    rw [analyzeAction, bind_of_ok (read_apply t)] at h
    repeat obtain ⟨_, -, h⟩ := lift_bind_eq_ok.mp h
    cases h
    exact analyzed.append_other rfl (by simp) rfl rfl rfl
  | other =>
    cases h
    exact analyzed.append_other rfl (by simp) rfl rfl rfl

/-- and all of them. -/
theorem Analyzed.run (analyzed : Analyzed printed acts t) {later : List BatchAction}
    (h : analyzeActions printed later t = (.ok (), t')) : Analyzed printed (acts ++ later) t' := by
  induction later generalizing acts t with
  | nil =>
    cases h
    rwa [append_nil]
  | cons act later ih =>
    rw [analyzeActions, forM_cons] at h
    obtain ⟨⟨⟩, middle, first, rest⟩ := bind_eq_ok.mp h
    have tracked := ih (analyzed.step first) rest
    rwa [append_assoc] at tracked

/-- The action sends an event or sets the input object. -/
def BatchAction.Plain : BatchAction → Prop
  | sendEvent _ => True
  | setInputObject _ => True
  | createObject _ => False
  | createRegion _ => False
  | updateRegion _ => False
  | other _ => False

/-- Without creations, the first pass stops at nothing but an attestation that is used twice. -/
theorem Analyzed.exists_run (analyzed : Analyzed printed acts t) {later : List BatchAction}
    (plain : ∀ act ∈ later, act.Plain)
    (distinct : ((attestations (acts ++ later)).map (attestationID printed)).Nodup) :
    ∃ t', analyzeActions printed later t = (.ok (), t') := by
  induction later generalizing acts t with
  | nil => exact ⟨t, rfl⟩
  | cons act later ih =>
    obtain ⟨isPlain, plain⟩ := forall_mem_cons.mp plain
    rw [show acts ++ act :: later = (acts ++ [act]) ++ later by simp] at distinct
    have first : ∃ middle, analyzeAction printed act t = (.ok (), middle) := by
      cases act with
      | sendEvent a =>
        refine ⟨_, (analyzeAction_send_eq_ok analyzed.marks a).mpr ⟨?_, rfl⟩⟩
        rw [← attestationIDs_append_send]
        rw [attestations, sends, filterMap_append, flatMap_append, map_append] at distinct
        exact (nodup_append.mp distinct).1
      | setInputObject =>
        refine ⟨t, (bind_of_ok (read_apply t)).trans ?_⟩
        exact lift_eq_ok.mpr ⟨refuse_eq_ok.mpr (by simp [analyzed.only]), rfl⟩
      | createObject | createRegion | updateRegion | other => exact isPlain.elim
    obtain ⟨middle, first⟩ := first
    obtain ⟨t', rest⟩ := ih (analyzed.step first) plain distinct
    refine ⟨t', ?_⟩
    rw [analyzeActions, forM_cons, bind_of_ok first]
    exact rest

end FirstPass

/-! ## The other passes -/

/-- Times in order: none is before the one that precedes it. -/
def InOrder (times : List Time) : Prop :=
  times.IsChain fun time next => ¬ next.Before time

/-- The loop over a queue accepts times in order. -/
theorem checkOrder_eq_ok {prev : Time} {evts : List EventInfo} :
    checkOrder prev evts = .ok () ↔ InOrder (prev :: evts.map EventInfo.timestamp) := by
  induction evts generalizing prev with
  | nil => exact iff_of_true rfl (isChain_singleton _)
  | cons eInfo evts ih =>
    rw [checkOrder, except_seq_eq_ok, refuse_eq_ok, ih, map_cons, InOrder, InOrder,
      isChain_cons_cons]

/-- Times in order are in order throughout. -/
theorem inOrder_iff_pairwise {times : List Time} :
    InOrder times ↔ times.Pairwise fun time later => ¬ later.Before time := by
  have transitive : IsTrans Time fun time later => ¬ later.Before time := by
    constructor
    intro a b c
    rw [Time.before_iff, Time.before_iff, Time.before_iff, not_lt, not_lt, not_lt]
    exact le_trans
  exact isChain_iff_pairwise

/-- The third pass looks at the times of the events for each ID. -/
theorem verifyBatchConstraints_eq_ok {printed : Time → Bytes} {acts : List BatchAction}
    {t : Tracking} (analyzed : Analyzed printed acts t)
    (range : GoMap.Range Bytes (List EventInfo)) :
    (verifyBatchConstraints range t).1 = .ok () ↔
      ∀ idTo, InOrder (Time.zero :: timestamps acts idTo) := by
  rw [verifyBatchConstraints, bind_of_ok (read_apply t), lift_fst_eq_ok, forM_eq_ok_iff]
  constructor
  · intro visited idTo
    rw [← analyzed.queued, ← checkOrder_eq_ok]
    exact (range.visits t.eventQueue).forall_get
      (P := fun evts => checkOrder Time.zero evts = .ok ()) rfl visited idTo
  · intro ordered idTo _
    rw [checkOrder_eq_ok, analyzed.queued]
    exact ordered idTo

section Observes

variable {σ ν : Type} {state : Bytes → Call σ Bytes} {view : σ → ν}

theorem observes_getRecord (observes : ∀ key, Observes view (state key)) {α : Type}
    (decode : Bytes → Except GoError (Option α)) (key : Bytes) :
    Observes view (getRecord state decode key) := by
  refine observes_bind (observes_bind (observes_attempt (observes key)) ?_) ?_
  · intro result
    cases result with
    | ok => exact observes_pure _
    | error =>
      dsimp only
      split
      · exact observes_pure _
      · exact observes_fail _
  · intro found
    cases found with
    | none => exact observes_pure _
    | some => exact observes_lift _

/-- The state verifier looks at the state and leaves it alone. -/
theorem observes_verifyStateTransition (observes : ∀ key, Observes view (state key))
    (random : Except Bytes Bytes) (action : Action) :
    Observes view (verifyStateTransition state random action) := by
  cases action with
  | createObject =>
    refine observes_bind (observes_getRecord observes _ _) fun existing => ?_
    exact observes_bind (observes_lift _) fun _ => observes_lift _
  | sendEvent =>
    refine observes_bind (observes_getRecord observes _ _) fun targetObj => ?_
    refine observes_bind (observes_lift _) fun _ => ?_
    refine observes_bind (observes_getRecord observes _ _) fun region => ?_
    refine observes_bind (observes_lift _) fun _ => ?_
    exact observes_bind (observes_lift _) fun _ => observes_lift _
  | setInputObject =>
    exact observes_bind (observes_getRecord observes _ _) fun _ => observes_lift _
  | other => exact observes_fail _

/-- What the second and the third pass look at. -/
def seen (view : σ → ν) (bv : BatchVerifier σ) : Tracking × ν :=
  (bv.tracking, view bv.state)

theorem observes_onTracking {α : Type} {call : Call Tracking α} (keeps : Keeps id call) :
    Observes (seen view) (onTracking (σ := σ) call) := by
  constructor
  · intro bv bv' same
    exact congrArg (fun t => (call t).1) (congrArg Prod.fst same)
  · intro bv
    exact congrArg (fun t => (t, view bv.state)) (keeps bv.tracking)

theorem observes_onState {α : Type} {call : Call σ α} (observes : Observes view call) :
    Observes (seen view) (onState call) := by
  constructor
  · intro bv bv' same
    exact observes.outcome (congrArg Prod.snd same)
  · intro bv
    exact congrArg (fun contents => (bv.tracking, contents)) (observes.keeps bv.state)

/-- The checks against the marks change none. -/
theorem keeps_verifyInBatch (act : BatchAction) : Keeps id (verifyInBatch act) := by
  cases act with
  | createObject | createRegion => exact keeps_bind keeps_read fun _ => keeps_lift _
  | sendEvent | setInputObject | updateRegion | other => exact keeps_pure _

theorem keeps_verifyBatchConstraints (range : GoMap.Range Bytes (List EventInfo)) :
    Keeps id (verifyBatchConstraints range) :=
  keeps_bind keeps_read fun _ => keeps_lift _

theorem observes_verifyAction (observes : ∀ key, Observes view (state key)) (item : Item) :
    Observes (seen view) (verifyAction state item) :=
  observes_bind (observes_onState (observes_verifyStateTransition observes _ _)) fun _ =>
    observes_onTracking (keeps_verifyInBatch _)

end Observes

/-! ## Which batches are accepted -/

section Accepts

variable {σ ν : Type} {state : Bytes → Call σ Bytes} {view : σ → ν} {printed : Time → Bytes}
  {range : GoMap.Range Bytes (List EventInfo)} {items : List Item} {bv : BatchVerifier σ}

/-- A batch that passes the first pass goes on to the others, -/
theorem verifyBatch_of_analyzed {t : Tracking} (size : items.length ≤ maxBatchSize)
    (analyzed : analyzeActions printed (items.map Item.action) .empty = (.ok (), t)) :
    verifyBatch state printed range items bv =
      (forM items (verifyAction state) >>= fun _ => onTracking (verifyBatchConstraints range))
        { bv with tracking := t } := by
  rw [verifyBatch, refuse_bind_of_not (not_lt.mpr size), bind_of_ok (modify_apply _ bv)]
  exact bind_of_ok (focus_eq_ok.mpr ⟨t, analyzed, rfl⟩)

/-- and one that does not gets its error. -/
theorem verifyBatch_of_not_analyzed {t : Tracking} {outcome : Outcome Unit}
    (size : items.length ≤ maxBatchSize)
    (analyzed : analyzeActions printed (items.map Item.action) .empty = (outcome, t))
    (failed : ¬ outcome.Succeeded) :
    (verifyBatch state printed range items bv).1 = outcome := by
  have focused : onTracking (analyzeActions printed (items.map Item.action))
      { bv with tracking := .empty } = (outcome, { bv with tracking := t }) := by
    rw [onTracking, Call.focus, analyzed]
  rw [verifyBatch, refuse_bind_of_not (not_lt.mpr size), bind_of_ok (modify_apply _ bv)]
  cases outcome with
  | ok => exact absurd trivial failed
  | err => exact congrArg Prod.fst (bind_of_err focused)
  | panicked => exact congrArg Prod.fst (bind_of_panicked focused)

/-- The verdict is a function of the state alone: the maps of earlier batches are not looked at. -/
theorem observes_verifyBatch (observes : ∀ key, Observes view (state key))
    (items : List Item) :
    Observes (fun bv => view bv.state) (verifyBatch state printed range items) := by
  have later : Observes (seen view)
      (forM items (verifyAction state) >>= fun _ => onTracking (verifyBatchConstraints range)) :=
    observes_bind (observes_forM (observes_verifyAction observes) items) fun _ =>
      observes_onTracking (keeps_verifyBatchConstraints range)
  have keepsLater : Keeps (fun bv => view bv.state)
      (forM items (verifyAction state) >>= fun _ => onTracking (verifyBatchConstraints range)) :=
    fun bv => congrArg Prod.snd (later.keeps bv)
  constructor
  · intro bv bv' same
    by_cases size : items.length ≤ maxBatchSize
    · rcases analyzed : analyzeActions printed (items.map Item.action) .empty with ⟨outcome, t⟩
      by_cases succeeded : outcome.Succeeded
      · obtain ⟨⟨⟩, rfl⟩ := Outcome.succeeded_iff.mp succeeded
        rw [verifyBatch_of_analyzed size analyzed, verifyBatch_of_analyzed size analyzed]
        exact later.outcome (congrArg (Prod.mk t) same)
      · rw [verifyBatch_of_not_analyzed size analyzed succeeded,
          verifyBatch_of_not_analyzed size analyzed succeeded]
    · rw [verifyBatch, refuse_bind_of (not_le.mp size), refuse_bind_of (not_le.mp size)]
  · refine keeps_bind (keeps_lift _) fun _ => ?_
    refine keeps_bind (keeps_modify fun _ => rfl) fun _ => ?_
    have keepsAnalysis : Keeps (fun bv : BatchVerifier σ => view bv.state)
        (onTracking (analyzeActions printed (items.map Item.action))) := by
      refine keeps_focus ?_ _
      intro bv tracking
      rfl
    exact keeps_bind keepsAnalysis fun _ => keepsLater

/-- The action passes `VerifyStateTransition`. -/
def Passes (state : Bytes → Call σ Bytes) (s : σ) (item : Item) : Prop :=
  (verifyStateTransition state item.random item.action.toAction s).1 = .ok ()

def Accepts (state : Bytes → Call σ Bytes) (printed : Time → Bytes)
    (range : GoMap.Range Bytes (List EventInfo)) (bv : BatchVerifier σ) (items : List Item) :
    Prop :=
  (verifyBatch state printed range items bv).1 = .ok ()

/-- The batches that are accepted. -/
structure Acceptable (state : Bytes → Call σ Bytes) (printed : Time → Bytes) (s : σ)
    (items : List Item) : Prop where
  size : items.length ≤ maxBatchSize
  passes : ∀ item ∈ items, Passes state s item
  uncreated : ∀ a, .createObject a ∉ items.map Item.action
  distinct : ((attestations (items.map Item.action)).map (attestationID printed)).Nodup
  ordered : ∀ idTo, InOrder (Time.zero :: timestamps (items.map Item.action) idTo)

/-- **Which batches are accepted.** -/
theorem accepts_iff (observes : ∀ key, Observes view (state key)) :
    Accepts state printed range bv items ↔ Acceptable state printed bv.state items := by
  have later (t : Tracking) : ((forM items (verifyAction state) >>= fun _ =>
      onTracking (verifyBatchConstraints range)) { bv with tracking := t }).1 = .ok () ↔
      (∀ item ∈ items, Passes state bv.state item ∧ (verifyInBatch item.action t).1 = .ok ()) ∧
        (verifyBatchConstraints range t).1 = .ok () := by
    rw [(observes_forM (observes_verifyAction observes) items).seq_fst_eq_ok
      (observes_onTracking (keeps_verifyBatchConstraints range)),
      forM_fst_eq_ok (observes_verifyAction observes)]
    refine and_congr_left fun _ => forall₂_congr fun item _ => ?_
    exact (observes_onState (observes_verifyStateTransition observes _ _)).seq_fst_eq_ok
      (observes_onTracking (keeps_verifyInBatch _))
  have start : Analyzed printed [] .empty :=
    ⟨⟨nodup_nil, fun _ => iff_of_false Bool.false_ne_true not_mem_nil⟩, fun _ => rfl,
      fun _ mem => absurd mem not_mem_nil, fun _ => rfl⟩
  constructor
  · intro accepts
    unfold Accepts at accepts
    have size : items.length ≤ maxBatchSize := by
      by_contra large
      rw [verifyBatch, refuse_bind_of (not_le.mp large)] at accepts
      cases accepts
    rcases analyzed : analyzeActions printed (items.map Item.action) .empty with ⟨outcome, t⟩
    by_cases succeeded : outcome.Succeeded
    · obtain ⟨⟨⟩, rfl⟩ := Outcome.succeeded_iff.mp succeeded
      rw [verifyBatch_of_analyzed size analyzed, later] at accepts
      obtain ⟨each, constraints⟩ := accepts
      have tracked : Analyzed printed (items.map Item.action) t := start.run analyzed
      refine ⟨size, fun item mem => (each item mem).1, ?_, tracked.marks.distinct,
        (verifyBatchConstraints_eq_ok tracked range).mp constraints⟩
      -- a creation finds its own mark
      intro a mem
      obtain ⟨item, listed, isCreate⟩ := mem_map.mp mem
      have unmarked := (each item listed).2
      rw [isCreate, verifyInBatch, bind_of_ok (read_apply t), lift_fst_eq_ok,
        refuse_eq_ok] at unmarked
      exact unmarked (tracked.created a mem)
    · rw [verifyBatch_of_not_analyzed size analyzed succeeded] at accepts
      exact absurd (Outcome.succeeded_iff.mpr ⟨(), accepts⟩) succeeded
  · intro acceptable
    -- what passes and creates no object passes the checks of the batch as well
    have plain : ∀ item ∈ items,
        item.action.Plain ∧ ∀ t, (verifyInBatch item.action t).1 = .ok () := by
      rintro ⟨act, random⟩ mem
      have passes := acceptable.passes _ mem
      cases act with
      | sendEvent | setInputObject => exact ⟨trivial, fun _ => rfl⟩
      | createObject a => exact absurd (mem_map_of_mem mem) (acceptable.uncreated a)
      | createRegion | updateRegion | other => cases passes
    obtain ⟨t, analyzed⟩ := start.exists_run
      (forall_mem_map.mpr fun item mem => (plain item mem).1) acceptable.distinct
    rw [Accepts, verifyBatch_of_analyzed acceptable.size analyzed, later]
    exact ⟨fun item mem => ⟨acceptable.passes item mem, (plain item mem).2 t⟩,
      (verifyBatchConstraints_eq_ok (start.run analyzed) range).mpr acceptable.ordered⟩

/-! ### Attestations and events -/

/-- The same enclave at the same printed time. -/
def SameAttestation (printed : Time → Bytes) (att att' : TEEAttestation) : Prop :=
  att.enclaveID = att'.enclaveID ∧ printed att.timestamp = printed att'.timestamp

/-- The text of an attestation tells the enclave from the time: hexadecimal digits have no colon. -/
theorem attestationID_eq_iff {att att' : TEEAttestation} :
    attestationID printed att = attestationID printed att' ↔
      SameAttestation printed att att' := by
  constructor
  · intro equal
    obtain ⟨enclaves, times⟩ := append_sep_inj (colon_notMem_flatMap_hexByte _)
      (colon_notMem_flatMap_hexByte _) equal
    exact ⟨flatMap_hexByte_injective enclaves, times⟩
  · rintro ⟨enclaves, times⟩
    rw [attestationID, attestationID, enclaves, times]

theorem nodup_attestationID_iff {atts : List TEEAttestation} :
    (atts.map (attestationID printed)).Nodup ↔
      atts.Pairwise fun att att' => ¬ SameAttestation printed att att' := by
  rw [List.Nodup, pairwise_map]
  simp only [ne_eq, attestationID_eq_iff]

/-- The queues are in order when the events for each ID are, and none is before the time with which
the check starts. -/
theorem inOrder_timestamps_iff {acts : List BatchAction} :
    (∀ idTo, InOrder (Time.zero :: timestamps acts idTo)) ↔
      ((sends acts).Pairwise fun a b => a.idTo = b.idTo → ¬ (sentAt b).Before (sentAt a)) ∧
        ∀ a ∈ sends acts, ¬ (sentAt a).Before Time.zero := by
  simp only [inOrder_iff_pairwise, pairwise_cons, timestamps, pairwise_map,
    pairwise_filter, decide_eq_true_eq, forall_mem_map, mem_filter, and_imp]
  constructor
  · intro queues
    refine ⟨?_, fun a mem => (queues a.idTo).1 a mem rfl⟩
    rw [pairwise_iff_forall_sublist]
    intro a b sub same
    exact pairwise_iff_forall_sublist.mp (queues a.idTo).2 sub rfl same.symm
  · rintro ⟨ordered, late⟩ idTo
    refine ⟨fun a mem _ => late a mem, ordered.imp fun {a b} inOrder first second => ?_⟩
    exact inOrder (first.trans second.symm)

/-- **What an accepted batch can be relied on for.** It has at most 256 actions, each of which
passes `VerifyStateTransition`; no two attestations are of one enclave at one printed time; and
events for one ID, in whatever regions, are in the order of their times. Batches that were verified
earlier do not matter. -/
theorem verifyBatch_sound (observes : ∀ key, Observes view (state key))
    (printed : Time → Bytes) (range : GoMap.Range Bytes (List EventInfo)) (bv : BatchVerifier σ)
    (items : List Item) :
    (Accepts state printed range bv items →
      items.length ≤ 256 ∧ (∀ item ∈ items, Passes state bv.state item) ∧
        ((attestations (items.map Item.action)).Pairwise fun att att' =>
          ¬ (att.enclaveID = att'.enclaveID ∧ printed att.timestamp = printed att'.timestamp)) ∧
        (sends (items.map Item.action)).Pairwise fun a b =>
          a.idTo = b.idTo → ¬ (sentAt b).Before (sentAt a)) ∧
      ∀ earlier : List (List Item),
        (verifyBatch state printed range items
            (Call.after (verifyBatch state printed range) bv earlier)).1 =
          (verifyBatch state printed range items bv).1 := by
  constructor
  · intro accepts
    have acceptable := (accepts_iff observes).mp accepts
    exact ⟨acceptable.size, acceptable.passes, nodup_attestationID_iff.mp acceptable.distinct,
      (inOrder_timestamps_iff.mp acceptable.ordered).1⟩
  · intro earlier
    refine (observes_verifyBatch observes items).outcome ?_
    exact run_preserves (fun bv' batch same =>
      ((observes_verifyBatch observes batch).keeps bv').trans same) rfl earlier

/-- Which batches of one action are accepted. -/
theorem accepts_singleton_iff (observes : ∀ key, Observes view (state key)) {item : Item} :
    Accepts state printed range bv [item] ↔
      Passes state bv.state item ∧ (∀ a, item.action ≠ .createObject a) ∧
        ∀ a, item.action = .sendEvent a →
          ¬ SameAttestation printed a.attestations.1 a.attestations.2 ∧
            ¬ (sentAt a).Before Time.zero := by
  rw [accepts_iff observes]
  rcases item with ⟨act, random⟩
  constructor
  · intro acceptable
    refine ⟨acceptable.passes _ mem_cons_self, ?_, ?_⟩
    · rintro a rfl
      exact acceptable.uncreated a mem_cons_self
    · rintro a rfl
      have distinct := nodup_attestationID_iff.mp acceptable.distinct
      exact ⟨rel_of_pairwise_cons distinct mem_cons_self,
        (inOrder_timestamps_iff.mp acceptable.ordered).2 a mem_cons_self⟩
  · rintro ⟨passes, uncreated, sent⟩
    have events : ((attestations [act]).Pairwise fun att att' =>
        ¬ SameAttestation printed att att') ∧
        ((sends [act]).Pairwise fun a b => a.idTo = b.idTo → ¬ (sentAt b).Before (sentAt a)) ∧
          ∀ a ∈ sends [act], ¬ (sentAt a).Before Time.zero := by
      have cases : act.send? = none ∨ ∃ a, act = .sendEvent a := by
        cases act <;> simp [BatchAction.send?]
      rcases cases with silent | ⟨a, rfl⟩
      · have none : sends [act] = [] := sends_append_of_none silent []
        rw [attestations, none]
        exact ⟨.nil, .nil, fun a mem => absurd mem not_mem_nil⟩
      · refine ⟨pairwise_pair.mpr (sent a rfl).1, pairwise_singleton _ a, ?_⟩
        exact forall_mem_singleton.mpr (sent a rfl).2
    refine ⟨Nat.one_le_ofNat, forall_mem_singleton.mpr passes, ?_,
      nodup_attestationID_iff.mpr events.1, inOrder_timestamps_iff.mpr events.2⟩
    intro a mem
    exact uncreated a (mem_singleton.mp mem).symm

/-- A batch that should be accepted: at most 256 actions that pass `VerifyStateTransition`, no ID
created twice, no attestation used twice, and the events of each object in order. -/
structure Legal (state : Bytes → Call σ Bytes) (printed : Time → Bytes) (s : σ)
    (items : List Item) : Prop where
  size : items.length ≤ 256
  passes : ∀ item ∈ items, Passes state s item
  creations : (items.map Item.action).Pairwise fun act act' =>
    ∀ a b, act = .createObject a → act' = .createObject b → a.id ≠ b.id
  attestations : (attestations (items.map Item.action)).Pairwise fun att att' =>
    ¬ SameAttestation printed att att'
  ordered : (sends (items.map Item.action)).Pairwise fun a b =>
    a.regionID = b.regionID → a.idTo = b.idTo → ¬ (sentAt b).Before (sentAt a)

/-- **Which legal batches are accepted**: those that create no object, have the events for an ID in
order whatever their regions, and have no event before the zero time. A batch of one action gets the
verdict of the action exactly when an action that passes is such a batch and, if it sends an event,
has two different attestations. -/
theorem verifyBatch_complete_iff (observes : ∀ key, Observes view (state key))
    (printed : Time → Bytes) (range : GoMap.Range Bytes (List EventInfo)) (bv : BatchVerifier σ) :
    (∀ items, Legal state printed bv.state items →
      (Accepts state printed range bv items ↔
        (∀ a, .createObject a ∉ items.map Item.action) ∧
          ((sends (items.map Item.action)).Pairwise fun a b =>
            a.idTo = b.idTo → ¬ (sentAt b).Before (sentAt a)) ∧
          ∀ a ∈ sends (items.map Item.action), ¬ (sentAt a).Before Time.zero)) ∧
      ∀ item, ((Accepts state printed range bv [item] ↔ Passes state bv.state item) ↔
        (Passes state bv.state item → (∀ a, item.action ≠ .createObject a) ∧
          ∀ a, item.action = .sendEvent a →
            ¬ SameAttestation printed a.attestations.1 a.attestations.2 ∧
              ¬ (sentAt a).Before Time.zero)) := by
  constructor
  · intro items legal
    rw [accepts_iff observes]
    constructor
    · intro acceptable
      exact ⟨acceptable.uncreated, inOrder_timestamps_iff.mp acceptable.ordered⟩
    · rintro ⟨uncreated, ordered⟩
      exact ⟨legal.size, legal.passes, uncreated, nodup_attestationID_iff.mpr legal.attestations,
        inOrder_timestamps_iff.mpr ordered⟩
  · intro item
    rw [accepts_singleton_iff observes]
    constructor
    · intro same passes
      exact (same.mpr passes).2
    · intro legal
      exact ⟨fun both => both.1, fun passes => ⟨passes, legal passes⟩⟩

end Accepts

/-! ### Object `o` -/

def stateO : Mutable :=
  let empty : Bytes := ascii "\x7b\x7d"
  KeyValue.insert (KeyValue.insert (fun _ => none) (regionKey (ascii "a")) empty)
    (makeObjectKey (ascii "a") (ascii "o")) empty

theorem observes_getValue (key : Bytes) : Observes id (Mutable.getValue key) := by
  constructor
  · rintro mu mu' rfl
    rfl
  · intro mu
    unfold Mutable.getValue
    cases mu key <;> rfl

def verifierO : BatchVerifier Mutable where
  tracking := .empty
  state := stateO

def eventO (sec : ℤ) : Item where
  action := .sendEvent { sendO with
    attestations := ({ attestationO with timestamp := Time.unixUTC sec },
      { attestationO with enclaveID := [2], timestamp := Time.unixUTC sec }) }
  random := .ok []

def eventsO : List Item := [eventO 1, eventO 2]

theorem legal_eventsO : Legal Mutable.getValue Time.formatRFC3339Nano stateO eventsO where
  size := by decide
  passes := forall_mem_cons.mpr
    ⟨by unfold Passes; decide +kernel,
      forall_mem_singleton.mpr (by unfold Passes; decide +kernel)⟩
  creations := by
    refine pairwise_pair.mpr ?_
    intro a b isCreate
    cases isCreate
  attestations := by
    rw [← nodup_attestationID_iff]
    decide +kernel
  ordered := by
    refine pairwise_pair.mpr ?_
    intro _ _
    decide

theorem ordered_eventsO :
    (∀ a, .createObject a ∉ eventsO.map Item.action) ∧
      ((sends (eventsO.map Item.action)).Pairwise fun a b =>
        a.idTo = b.idTo → ¬ (sentAt b).Before (sentAt a)) ∧
      ∀ a ∈ sends (eventsO.map Item.action), ¬ (sentAt a).Before Time.zero := by
  refine ⟨?_, pairwise_pair.mpr fun _ => by decide, by decide⟩
  intro a mem
  simp [eventsO, eventO] at mem

theorem verifyBatch_sound_eventsO :
    Accepts Mutable.getValue Time.formatRFC3339Nano default verifierO eventsO ∧
      eventsO.length ≤ 256 ∧ ∀ item ∈ eventsO, Passes Mutable.getValue stateO item :=
  have accepts : Accepts Mutable.getValue Time.formatRFC3339Nano default verifierO eventsO :=
    (accepts_iff observes_getValue).mpr ⟨legal_eventsO.size, legal_eventsO.passes,
      ordered_eventsO.1, nodup_attestationID_iff.mpr legal_eventsO.attestations,
      inOrder_timestamps_iff.mpr ordered_eventsO.2⟩
  have sound := (verifyBatch_sound observes_getValue Time.formatRFC3339Nano default verifierO
    eventsO).1 accepts
  ⟨accepts, sound.1, sound.2.1⟩

theorem verifyBatch_complete_eventsO :
    Legal Mutable.getValue Time.formatRFC3339Nano stateO eventsO ∧
      Accepts Mutable.getValue Time.formatRFC3339Nano default verifierO eventsO :=
  ⟨legal_eventsO, ((verifyBatch_complete_iff observes_getValue Time.formatRFC3339Nano default
    verifierO).1 eventsO legal_eventsO).mpr ordered_eventsO⟩

/-- The creation of a new object passes and is refused as a duplicate of itself.  An event whose two
attestations are the same passes and is refused as well. -/
theorem not_accepts_create :
    let create : Item :=
      { action := .createObject { createO with id := ascii "n" }, random := .ok [] }
    let send : Item := { action := .sendEvent sendO, random := .ok [] }
    Legal Mutable.getValue Time.formatRFC3339Nano stateO [create] ∧
      (verifyBatch Mutable.getValue Time.formatRFC3339Nano default [create] verifierO).1 =
        .err errDuplicateAction ∧
      Passes Mutable.getValue stateO send ∧
      (verifyBatch Mutable.getValue Time.formatRFC3339Nano default [send] verifierO).1 =
        .err errDuplicateAttestation := by
  intro create send
  refine ⟨⟨by decide, ?_, pairwise_singleton _ _, .nil, .nil⟩, ?_, ?_, ?_⟩
  · exact forall_mem_singleton.mpr (by unfold Passes; decide +kernel)
  · decide +kernel
  · unfold Passes
    decide +kernel
  · decide +kernel

end Verifier

end Aristo
