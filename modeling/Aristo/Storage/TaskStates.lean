import Aristo.Base.GoMap
import Aristo.Base.Sort
import Aristo.Storage.PlainEvents
import Mathlib.Data.Finset.Sort

/-!
# Tasks of the coordination state

`SetCoordinationState` and `UpdateTaskState` of `storage/storage.go`, and the two writers that call
them.  `UpdateTaskState` reads the coordination state, sets one entry of its `Tasks` and writes it
back, in JSON each time.  A nil map comes back as a nil map, and setting an entry of it panics; and
text that is not valid UTF-8 does not come back.  `tasksKept_iff` says that nothing else goes wrong.
As in `Records`, a nil `[]byte` is written as an empty one.
-/

namespace Aristo

open GoBase Finmap

namespace Storage

namespace Plain

/-! ## The coordination state in JSON -/

/-- A list of texts is read back as valid UTF-8. -/
theorem toSlice_texts (slice : Option (List Bytes)) :
    Json.toSlice (Json.toText []) (.ofSlice .ofString slice) =
      some (slice.map (List.map toValidUTF8)) :=
  Json.toSlice_ofSlice (fun text : Bytes => (rfl : Json.toText [] (.ofString text) = _)) slice

structure TaskState where
  status : Bytes
  workers : Option (List Bytes)
  attestations : Option (List (Bytes × Bytes))
  timestamp : Bytes

namespace TaskState

def zero : TaskState where
  status := []
  workers := none
  attestations := none
  timestamp := []

instance : Inhabited TaskState := ⟨zero⟩

def json (t : TaskState) : Json :=
  .object [
    ("status".toList, .ofString t.status),
    ("workers".toList, .ofSlice .ofString t.workers),
    ("attestations".toList, .ofSlice .ofPair t.attestations),
    ("timestamp".toList, .ofString t.timestamp)]

/-- A member of the object that is read. -/
def setField (t : TaskState) (member : List Char × Json) : Option TaskState :=
  if Json.isField member.1 "status" then
    (member.2.toText t.status).map fun status => { t with status }
  else if Json.isField member.1 "workers" then
    (member.2.toSlice (Json.toText [])).map fun workers => { t with workers }
  else if Json.isField member.1 "attestations" then
    (member.2.toSlice Json.toPair).map fun attestations => { t with attestations }
  else if Json.isField member.1 "timestamp" then
    (member.2.toText t.timestamp).map fun timestamp => { t with timestamp }
  else some t

/-- The value that is read; `null` changes nothing. -/
def ofJson : Json → Option TaskState
  | .null => some zero
  | .object members => members.foldlM setField zero
  | _ => none

/-- What is read back: text that is not valid UTF-8 has changed. -/
def readBack (t : TaskState) : TaskState where
  status := toValidUTF8 t.status
  workers := t.workers.map (List.map toValidUTF8)
  attestations := t.attestations
  timestamp := toValidUTF8 t.timestamp

theorem ofJson_json (t : TaskState) : ofJson t.json = some t.readBack := by
  have attestations : Json.toSlice Json.toPair (.ofSlice .ofPair t.attestations) =
      some t.attestations := by
    simpa using Json.toSlice_ofSlice Json.toPair_ofPair t.attestations
  have second (t' : TaskState) : t'.setField ("workers".toList, .ofSlice .ofString t.workers) =
      some { t' with workers := t.workers.map (List.map toValidUTF8) } :=
    congrArg (Option.map _) (toSlice_texts t.workers)
  have third (t' : TaskState) :
      t'.setField ("attestations".toList, .ofSlice .ofPair t.attestations) =
        some { t' with attestations := t.attestations } :=
    congrArg (Option.map _) attestations
  have first : zero.setField ("status".toList, .ofString t.status) =
      some { zero with status := toValidUTF8 t.status } := rfl
  have fourth (t' : TaskState) : t'.setField ("timestamp".toList, .ofString t.timestamp) =
      some { t' with timestamp := toValidUTF8 t.timestamp } := rfl
  rw [json, ofJson]
  simp only [List.foldlM_cons, List.foldlM_nil, first, second, third, fourth, Option.bind_eq_bind,
    Option.bind_some, Option.pure_def]
  rfl

structure Valid (t : TaskState) : Prop where
  status : ValidUTF8 t.status
  workers : ∀ worker ∈ t.workers.getD [], ValidUTF8 worker
  timestamp : ValidUTF8 t.timestamp

theorem valid_readBack (t : TaskState) : t.readBack.Valid where
  status := validUTF8_toValidUTF8 t.status
  workers := by
    intro worker mem
    rw [readBack] at mem
    cases listed : t.workers with
    | none =>
      rw [listed] at mem
      cases mem
    | some workers =>
      rw [listed] at mem
      obtain ⟨text, -, rfl⟩ := List.mem_map.mp mem
      exact validUTF8_toValidUTF8 text
  timestamp := validUTF8_toValidUTF8 t.timestamp

theorem Valid.readBack_eq {t : TaskState} (valid : t.Valid) : t.readBack = t := by
  have workers : t.workers.map (List.map toValidUTF8) = t.workers := by
    cases listed : t.workers with
    | none => rfl
    | some workers =>
      have each := valid.workers
      rw [listed] at each
      exact congrArg some ((List.map_congr_left each).trans (List.map_id' workers))
  rw [readBack, valid.status, workers, valid.timestamp]

end TaskState

abbrev Tasks := GoMap Bytes TaskState

namespace Tasks

/-- The entries in the order of `json.Marshal`. -/
def sorted (tasks : Tasks) : List (Bytes × TaskState) :=
  (tasks.keys.sort bytesLE).map fun id => (id, tasks.get id)

/-- The nil map is `null`. -/
def json : Option Tasks → Json
  | none => .null
  | some tasks => .object (tasks.sorted.map fun entry => (runes entry.1, entry.2.json))

/-- A member of the object that is read. -/
def setEntry (tasks : Tasks) (member : List Char × Json) : Option Tasks :=
  (TaskState.ofJson member.2).map fun task => tasks.insert (utf8 member.1) task

/-- Read the map into a variable: `null` makes it nil, and an object is added to it. -/
def ofJson (old : Option Tasks) : Json → Option (Option Tasks)
  | .null => some none
  | .object members => (members.foldlM setEntry (old.getD ∅)).map some
  | _ => none

def readBack (tasks : Tasks) : Tasks :=
  .ofEntries (tasks.sorted.map fun entry => (toValidUTF8 entry.1, entry.2.readBack))

/-- The entries are read one after the other, each as what is read back of it. -/
theorem foldlM_setEntry (entries : List (Bytes × TaskState)) (tasks : Tasks) :
    (entries.map fun entry => (runes entry.1, entry.2.json)).foldlM setEntry tasks =
      some ((entries.map fun entry => (toValidUTF8 entry.1, entry.2.readBack)).foldl
        (fun m entry => m.insert entry.1 entry.2) tasks) := by
  induction entries generalizing tasks with
  | nil => rfl
  | cons entry entries ih =>
    have set : setEntry tasks (runes entry.1, entry.2.json) =
        some (tasks.insert (toValidUTF8 entry.1) entry.2.readBack) :=
      congrArg (Option.map _) entry.2.ofJson_json
    rw [List.map_cons, List.foldlM_cons, set, Option.bind_eq_bind, Option.bind_some, ih]
    rfl

theorem ofJson_json (tasks : Option Tasks) :
    ofJson none (json tasks) = some (tasks.map readBack) := by
  cases tasks with
  | none => rfl
  | some tasks => exact congrArg (Option.map some) (foldlM_setEntry tasks.sorted ∅)

/-- All IDs and all texts of records are valid UTF-8. -/
def Valid (tasks : Tasks) : Prop :=
  ∀ id task, tasks.lookup id = some task → ValidUTF8 id ∧ task.Valid

theorem valid_readBack (tasks : Tasks) : tasks.readBack.Valid := by
  intro id task found
  obtain ⟨entry, -, equal⟩ := List.mem_map.mp (GoMap.mem_of_lookup_ofEntries found)
  cases equal
  exact ⟨validUTF8_toValidUTF8 entry.1, entry.2.valid_readBack⟩

variable {tasks : Tasks}

/-- Valid IDs come back, so that only the records can differ. -/
theorem readBack_of_validKeys (valid : ∀ id ∈ tasks, ValidUTF8 id) :
    tasks.readBack = tasks.mapValues TaskState.readBack := by
  have visits : (tasks.mapValues TaskState.readBack).Visits (tasks.keys.sort bytesLE) := by
    refine ⟨Finset.sort_nodup _ _, fun id => ?_⟩
    rw [Finset.mem_sort, mem_keys, ← lookup_isSome, ← lookup_isSome,
      GoMap.lookup_mapValues, Option.isSome_map]
  rw [readBack, sorted, List.map_map, ← GoMap.ofEntries_along visits]
  refine congrArg _ (List.map_congr_left fun id mem => ?_)
  have here : id ∈ tasks := mem_keys.mp ((Finset.mem_sort _).mp mem)
  have value : (tasks.mapValues TaskState.readBack).get id = (tasks.get id).readBack := by
    rw [GoMap.get, GoMap.lookup_mapValues, GoMap.lookup_eq_get here]
    rfl
  rw [value]
  exact Prod.ext (valid id here) rfl

theorem Valid.readBack_eq (valid : tasks.Valid) : tasks.mapValues TaskState.readBack = tasks := by
  refine ext_lookup fun id => ?_
  rw [GoMap.lookup_mapValues]
  cases found : tasks.lookup id with
  | none => rfl
  | some task => exact congrArg some (valid id task found).2.readBack_eq

end Tasks

structure CoordinationState where
  workers : Option (List Bytes)
  regions : Option (List Bytes)
  tasks : Option Tasks

namespace CoordinationState

def zero : CoordinationState where
  workers := none
  regions := none
  tasks := none

/-- The JSON of a pointer. -/
def json : Option CoordinationState → Json
  | none => .null
  | some s => .object [
      ("workers".toList, .ofSlice .ofString s.workers),
      ("regions".toList, .ofSlice .ofString s.regions),
      ("tasks".toList, Tasks.json s.tasks)]

def setField (s : CoordinationState) (member : List Char × Json) : Option CoordinationState :=
  if Json.isField member.1 "workers" then
    (member.2.toSlice (Json.toText [])).map fun workers => { s with workers }
  else if Json.isField member.1 "regions" then
    (member.2.toSlice (Json.toText [])).map fun regions => { s with regions }
  else if Json.isField member.1 "tasks" then
    (Tasks.ofJson s.tasks member.2).map fun tasks => { s with tasks }
  else some s

def ofJson : Json → Option CoordinationState
  | .null => some zero
  | .object members => members.foldlM setField zero
  | _ => none

def unmarshal (data : Bytes) : Except GoError CoordinationState :=
  match (Json.parse data).bind ofJson with
  | some s => .ok s
  | none => .error Records.errJSON

def readBack : Option CoordinationState → CoordinationState
  | none => zero
  | some s => {
      workers := s.workers.map (List.map toValidUTF8)
      regions := s.regions.map (List.map toValidUTF8)
      tasks := s.tasks.map Tasks.readBack }

theorem ofJson_json (state : Option CoordinationState) :
    ofJson (json state) = some (readBack state) := by
  cases state with
  | none => rfl
  | some s =>
    have first (s' : CoordinationState) :
        s'.setField ("workers".toList, .ofSlice .ofString s.workers) =
          some { s' with workers := s.workers.map (List.map toValidUTF8) } :=
      congrArg (Option.map _) (toSlice_texts s.workers)
    have second (s' : CoordinationState) :
        s'.setField ("regions".toList, .ofSlice .ofString s.regions) =
          some { s' with regions := s.regions.map (List.map toValidUTF8) } :=
      congrArg (Option.map _) (toSlice_texts s.regions)
    have third (workers regions : Option (List Bytes)) :
        setField ⟨workers, regions, none⟩ ("tasks".toList, Tasks.json s.tasks) =
          some ⟨workers, regions, s.tasks.map Tasks.readBack⟩ :=
      congrArg (Option.map _) (Tasks.ofJson_json s.tasks)
    rw [json, ofJson]
    simp only [List.foldlM_cons, List.foldlM_nil, zero, first, second, third, Option.bind_eq_bind,
      Option.bind_some, Option.pure_def]
    rfl

/-- What is read back of a state that was written. -/
theorem unmarshal_render (state : Option CoordinationState) :
    unmarshal (json state).render = .ok (readBack state) := by
  rw [unmarshal, Json.parse_render, Option.bind_some, ofJson_json]

end CoordinationState

open CoordinationState

/-! ## The calls -/

def getCoordinationState : Call Mutable CoordinationState := do
  match ← findValue Mutable.getValue [coordKind] with
  | none => return { zero with tasks := some ∅ }
  | some value => Call.lift (unmarshal value)

def timestampKey : Bytes := [2]

/-- `UpdateTaskState`, for the record that it makes.  Setting an entry of a nil map panics. -/
def setTask (taskID : Bytes) (task : TaskState) : Call Mutable Unit := do
  let state ← getCoordinationState
  match state.tasks with
  | none => Call.crash
  | some tasks =>
    setCoordinationState (.ok (json
      (some { state with tasks := some (tasks.insert taskID task) })))

def newTask (status : Bytes) (workers : Option (List Bytes))
    (attestations : Option (List (Bytes × Bytes))) : TaskState where
  status := status
  workers := workers
  attestations := attestations
  timestamp := timestampKey

def updateTaskState (taskID status : Bytes) (workers : Option (List Bytes))
    (attestations : Option (List (Bytes × Bytes))) : Call Mutable Unit :=
  setTask taskID (newTask status workers attestations)

inductive CoordCall where
  | setObject (id : Bytes) (obj : Option (List (List Char × Bytes)))
      (coordState : Option CoordinationState) (regionID : Bytes)
  | setCoordinationState (state : Option CoordinationState)
  | updateTaskState (taskID status : Bytes) (workers : Option (List Bytes))
      (attestations : Option (List (Bytes × Bytes)))
  | queueEvent (id functionCall parameters : Bytes)
      (attestations : TEEAttestation × TEEAttestation) (coordState : Option CoordinationState)
      (regionID : Bytes)

/-- `printed` is the text of a time, `fmt.Sprintf("%s", t)`. -/
def eventTaskID (printed : Time → Bytes) (id : Bytes) (timestamp : Time) : Bytes :=
  ascii "event:" ++ id ++ ascii ":" ++ printed timestamp

/-- The record of the task of an event. -/
def eventTask (attestations : TEEAttestation × TEEAttestation) : TaskState :=
  let sgx := attestations.1.enclaveID
  let sev := attestations.2.enclaveID
  newTask (ascii "pending") (some [sgx, sev]) (some [(sgx, sev)])

variable (printed : Time → Bytes)

def CoordCall.call : CoordCall → Call Mutable Unit
  | setObject id obj coordState regionID =>
    Plain.setObject id obj (coordState.map fun state => .ok (json (some state)))
      regionID
  | setCoordinationState state => Plain.setCoordinationState (.ok (json state))
  | updateTaskState taskID status workers attestations =>
    Plain.updateTaskState taskID status workers attestations
  | queueEvent id functionCall parameters attestations coordState regionID =>
    Plain.queueEvent (coordState.map fun _ =>
        setTask (eventTaskID printed id attestations.1.timestamp) (eventTask attestations))
      id functionCall parameters attestations regionID

/-! ## What the calls record -/

/-- What a call is to do to the coordination state. -/
inductive Change where
  | keep
  | set (state : Option CoordinationState)
  | task (id : Bytes) (task : TaskState)

/-- An event that cannot be encoded is not queued, and has no task. -/
def Change.ofEvent (id : Bytes) (attestations : TEEAttestation × TEEAttestation) :
    Except GoError (List (List Char × Json)) → Change
  | .error _ => .keep
  | .ok _ => .task (eventTaskID printed id attestations.1.timestamp) (eventTask attestations)

def CoordCall.change : CoordCall → Change
  | setObject _ _ none _ => .keep
  | setObject _ _ (some state) _ => .set (some state)
  | setCoordinationState state => .set state
  | updateTaskState taskID status workers attestations =>
    .task taskID (newTask status workers attestations)
  | queueEvent _ _ _ _ none _ => .keep
  | queueEvent id functionCall parameters attestations (some _) _ =>
    .ofEvent printed id attestations (event functionCall parameters attestations)

/-- The tasks that are recorded; `none` is the nil map. -/
def Change.record (tasks : Option Tasks) : Change → Option Tasks
  | keep => tasks
  | set state => state.bind CoordinationState.tasks
  | task id record => tasks.map fun tasks => tasks.insert id record

/-- The tasks that a run from the empty state has recorded since the coordination state was last
set, or that are in the one that was set. -/
def recorded (calls : List CoordCall) : Option Tasks :=
  run (fun tasks c => (c.change printed).record tasks) (some ∅) calls

def Change.Updates : Change → Prop
  | task _ _ => True
  | _ => False

/-- No call of a run panics, and after an `UpdateTaskState` the coordination state that is read has
exactly the tasks that were recorded. -/
def TasksKept (calls : List CoordCall) : Prop :=
  ∀ earlier c later, calls = earlier ++ c :: later →
    let result := c.call printed (Call.after (CoordCall.call printed) (fun _ => none) earlier)
    result.1 ≠ .panicked ∧
      ((c.change printed).Updates →
        ∃ state, (getCoordinationState result.2).1 = .ok state ∧
          state.tasks = recorded printed (earlier ++ [c]))

/-! ## What is read, beside what was recorded -/

/-- What `GetCoordinationState` makes of the contents of its key. -/
def coordinationAt : Option Bytes → Except GoError CoordinationState
  | none => .ok { zero with tasks := some ∅ }
  | some value => unmarshal value

/-- `GetCoordinationState` reads one key. -/
theorem getCoordinationState_eq (mu : Mutable) :
    getCoordinationState mu = Call.lift (coordinationAt (mu [coordKind])) mu := by
  rw [getCoordinationState, Call.bind_of_ok (findValue_getValue _ mu)]
  cases mu [coordKind] with
  | none | some => rfl

/-- With valid IDs, what is read differs from what was recorded in the texts of the records only. -/
def Shows (read recorded : Tasks) : Prop :=
  (∀ id ∈ recorded, ValidUTF8 id) → read = recorded.mapValues TaskState.readBack

/-- Setting a task keeps this. -/
theorem Shows.insert {read recorded : Tasks} (shows : Shows read recorded) (id : Bytes)
    (task : TaskState) :
    Shows (Tasks.readBack (read.insert id task)) (recorded.insert id task) := by
  intro valid
  have kept : read = recorded.mapValues TaskState.readBack :=
    shows fun other mem => valid other (mem_insert.mpr (Or.inr mem))
  have ids : ∀ other ∈ read.insert id task, ValidUTF8 other := by
    intro other mem
    refine valid other (mem_insert.mpr ((mem_insert.mp mem).imp_right fun old => ?_))
    rwa [kept, ← lookup_isSome, GoMap.lookup_mapValues, Option.isSome_map, lookup_isSome] at old
  have twice : TaskState.readBack ∘ TaskState.readBack = TaskState.readBack :=
    funext fun task => task.valid_readBack.readBack_eq
  rw [Tasks.readBack_of_validKeys ids]
  refine ext_lookup fun other => ?_
  rw [GoMap.lookup_mapValues, GoMap.lookup_mapValues]
  by_cases here : other = id
  · rw [here, lookup_insert, lookup_insert]
  · rw [lookup_insert_of_ne _ here, lookup_insert_of_ne _ here, kept,
      GoMap.lookup_mapValues, Option.map_map, twice]

/-- **The invariant**: a state is read, which is nil where nil was recorded. -/
def Shown (mu : Mutable) (tasks : Option Tasks) : Prop :=
  ∃ state, coordinationAt (mu [coordKind]) = .ok state ∧ Option.Rel Shows state.tasks tasks

variable {mu : Mutable} {tasks : Option Tasks}

/-- A state that was written is read back. -/
theorem shown_of_stored {state : Option CoordinationState}
    (stored : mu [coordKind] = some (CoordinationState.json state).render) :
    Shown mu (state.bind CoordinationState.tasks) := by
  refine ⟨CoordinationState.readBack state, ?_, ?_⟩
  · rw [stored]
    exact unmarshal_render state
  · cases state with
    | none => exact Option.Rel.none
    | some s =>
      show Option.Rel Shows (s.tasks.map Tasks.readBack) s.tasks
      cases s.tasks with
      | none => exact Option.Rel.none
      | some => exact Option.Rel.some Tasks.readBack_of_validKeys

/-- **What `UpdateTaskState` does**: it panics where nil was recorded, and otherwise what is read
afterwards is what it has written. -/
theorem Shown.setTask_cases (shown : Shown mu tasks) (id : Bytes) (task : TaskState) :
    (tasks = none ∧ setTask id task mu = (.panicked, mu)) ∨
      ∃ read recorded after state, tasks = some recorded ∧ Shows read recorded ∧
        setTask id task mu = (.ok (), after) ∧ coordinationAt (after [coordKind]) = .ok state ∧
          state.tasks = some (Tasks.readBack (read.insert id task)) := by
  obtain ⟨state, found, related⟩ := shown
  have get : getCoordinationState mu = (.ok state, mu) := by
    rw [getCoordinationState_eq, found]
    rfl
  rw [setTask, Call.bind_of_ok get]
  generalize nil : state.tasks = read at related
  cases related with
  | none => exact Or.inl ⟨rfl, rfl⟩
  | @some read recorded shows =>
    let written : CoordinationState := { state with tasks := some (read.insert id task) }
    refine Or.inr ⟨read, recorded, _, .readBack (some written), rfl, shows,
      setRecord_of_ok rfl [coordKind] mu, ?_, rfl⟩
    rw [KeyValue.insert_self]
    exact unmarshal_render (some written)

/-! ## What a call does -/

/-- What a call has done to the coordination state; it may have written to other keys before. -/
def Change.Done (mu : Mutable) (result : Outcome Unit × Mutable) : Change → Prop
  | keep => result.1 ≠ .panicked ∧ result.2 [coordKind] = mu [coordKind]
  | set state =>
    result.1 ≠ .panicked ∧ result.2 [coordKind] = some (json state).render
  | task id record =>
    ∃ before : Mutable, before [coordKind] = mu [coordKind] ∧ result = setTask id record before

/-- The key of the state is that of no object or event. -/
theorem coordKey_ne_makeKey {kind : UInt8} (other : coordKind ≠ kind) (regionID id : Bytes) :
    [coordKind] ≠ makeKey regionID kind id := by
  rw [makeKey]
  split
  · exact fun same => other (List.cons.inj same).1
  · exact fun same => nomatch same

/-- Every call does its change. -/
theorem call_done (c : CoordCall) (mu : Mutable) :
    (c.change printed).Done mu (c.call printed mu) := by
  have stored (state : Option CoordinationState) (before : Mutable) :
      (Change.set state).Done mu
        (setCoordinationState (.ok (json state)) before) := by
    rw [setCoordinationState, setRecord_of_ok rfl]
    exact ⟨nofun, KeyValue.insert_self before [coordKind] _⟩
  cases c with
  | setCoordinationState state => exact stored state mu
  | updateTaskState => exact ⟨mu, rfl, rfl⟩
  | setObject id obj coordState regionID =>
    have apart := coordKey_ne_makeKey (by decide : coordKind ≠ objectKind) regionID id
    rw [CoordCall.call, setObject_apply]
    cases coordState with
    | none => exact ⟨nofun, KeyValue.insert_of_ne mu _ apart⟩
    | some state => exact stored (some state) _
  | queueEvent id functionCall parameters attestations coordState regionID =>
    have apart : [coordKind] ≠
        makeEventKey regionID attestations.1.timestamp.formatRFC3339 id := by
      rw [makeEventKey]
      split
      · exact fun same => nomatch same
      · exact coordKey_ne_makeKey (by decide) _ _
    rw [CoordCall.call]
    cases encoded : event functionCall parameters attestations with
    | error error =>
      rw [queueEvent_of_error encoded]
      cases coordState with
      | none => exact ⟨nofun, rfl⟩
      | some =>
        simp only [CoordCall.change, encoded]
        exact ⟨nofun, rfl⟩
    | ok members =>
      rw [queueEvent_of_ok encoded]
      cases coordState with
      | none => exact ⟨nofun, KeyValue.insert_of_ne mu _ apart⟩
      | some =>
        simp only [CoordCall.change, encoded]
        exact ⟨_, KeyValue.insert_of_ne mu _ apart, rfl⟩

variable {printed}

/-- Only the key of the state matters. -/
theorem Shown.congr (shown : Shown mu tasks) {mu' : Mutable}
    (same : mu' [coordKind] = mu [coordKind]) : Shown mu' tasks := by
  rw [Shown, same]
  exact shown

/-- **One call** keeps the invariant. -/
theorem Shown.of_done (shown : Shown mu tasks) {change : Change} {result : Outcome Unit × Mutable}
    (done : change.Done mu result) : Shown result.2 (change.record tasks) := by
  cases change with
  | keep => exact shown.congr done.2
  | set state => exact shown_of_stored done.2
  | task id record =>
    obtain ⟨before, same, rfl⟩ := done
    rcases (shown.congr same).setTask_cases id record with
      ⟨rfl, panics⟩ | ⟨read, recorded, after, state, rfl, shows, writes, found, tasks⟩
    · rw [panics]
      exact shown.congr same
    · rw [writes]
      refine ⟨state, found, ?_⟩
      rw [tasks]
      exact Option.Rel.some (shows.insert id record)

theorem recorded_concat (calls : List CoordCall) (c : CoordCall) :
    recorded printed (calls ++ [c]) = (c.change printed).record (recorded printed calls) :=
  run_append _ _ _ _

/-- **A whole run** keeps it. -/
theorem shown_after (printed : Time → Bytes) (calls : List CoordCall) :
    Shown (Call.after (CoordCall.call printed) (fun _ => none) calls) (recorded printed calls) := by
  induction calls using List.reverseRecOn with
  | nil => exact ⟨_, rfl, Option.Rel.some fun _ => rfl⟩
  | append_singleton calls c ih =>
    rw [Call.after_append, recorded_concat]
    exact ih.of_done (call_done printed c _)

/-- **When an update is kept**: a map was recorded, of valid IDs and texts. -/
theorem Shown.setTask_iff (shown : Shown mu tasks) (id : Bytes) (task : TaskState) :
    ((setTask id task mu).1 ≠ .panicked ∧
        ∃ state, (getCoordinationState (setTask id task mu).2).1 = .ok state ∧
          state.tasks = (Change.task id task).record tasks) ↔
      ∃ now, (Change.task id task).record tasks = some now ∧ now.Valid := by
  rcases shown.setTask_cases id task with
    ⟨rfl, panics⟩ | ⟨read, recorded, after, state, rfl, shows, writes, found, tasks⟩
  · rw [panics]
    refine iff_of_false (fun kept => kept.1 rfl) ?_
    rintro ⟨now, equal, -⟩
    cases equal
  · have get : (getCoordinationState after).1 = .ok state := by
      rw [getCoordinationState_eq, found]
      rfl
    rw [writes, get]
    constructor
    · rintro ⟨-, _, equal, same⟩
      cases equal
      rw [tasks] at same
      exact ⟨_, same.symm, Tasks.valid_readBack _⟩
    · rintro ⟨now, equal, valid⟩
      refine ⟨nofun, state, rfl, ?_⟩
      cases equal
      have ids : ∀ other ∈ recorded.insert id task, ValidUTF8 other := by
        intro other mem
        obtain ⟨value, present⟩ := mem_iff.mp mem
        exact (valid other value present).1
      rw [tasks, shows.insert id task ids, valid.readBack_eq]
      rfl

/-- **When the tasks are kept.**  No call panics and every `UpdateTaskState` leaves the recorded
tasks to be read exactly when each of them finds a map that is not nil, and leaves one of valid IDs
and texts. -/
theorem tasksKept_iff (printed : Time → Bytes) (calls : List CoordCall) :
    TasksKept printed calls ↔
      ∀ earlier c later, calls = earlier ++ c :: later → (c.change printed).Updates →
        ∃ tasks, recorded printed (earlier ++ [c]) = some tasks ∧ tasks.Valid := by
  refine forall₄_congr fun earlier c later _ => ?_
  have shown := shown_after printed earlier
  have done := call_done printed c (Call.after (CoordCall.call printed) (fun _ => none) earlier)
  rw [recorded_concat]
  generalize c.change printed = change at done ⊢
  cases change with
  | keep | set => exact iff_of_true ⟨done.1, nofun⟩ nofun
  | task id task =>
    obtain ⟨before, same, result⟩ := done
    have iff := (shown.congr same).setTask_iff id task
    rw [← result] at iff
    constructor
    · intro kept _
      exact iff.mp ⟨kept.1, kept.2 trivial⟩
    · intro valid
      obtain ⟨returns, read⟩ := iff.mpr (valid trivial)
      exact ⟨returns, fun _ => read⟩

/-- A state with a nil map of tasks is set, and a task is updated. -/
def nilTasks : List CoordCall :=
  [.setCoordinationState (some .zero), .updateTaskState (ascii "t") (ascii "pending") none none]

/-- A task is updated whose ID is not valid UTF-8. -/
def oddID : List CoordCall :=
  [.updateTaskState [255] (ascii "pending") none none]

/-- With a nil map the update panics, and a task whose ID is not valid UTF-8 is not read back. -/
theorem not_tasksKept_nilTasks :
    let mu := Call.after (CoordCall.call Time.formatRFC3339Nano) (fun _ => none)
      [.setCoordinationState (some .zero)]
    (updateTaskState (ascii "t") (ascii "pending") none none mu).1 = .panicked ∧
      ¬ TasksKept Time.formatRFC3339Nano nilTasks ∧
      ¬ TasksKept Time.formatRFC3339Nano oddID := by
  intro mu
  have panics : (updateTaskState (ascii "t") (ascii "pending") none none mu).1 = .panicked := by
    decide +kernel
  refine ⟨panics, fun kept => ?_, fun kept => ?_⟩
  · exact (kept [.setCoordinationState (some .zero)] _ [] rfl).1 panics
  · obtain ⟨returns, read⟩ := kept [] _ [] rfl
    have iff := (shown_after Time.formatRFC3339Nano []).setTask_iff [255]
      (newTask (ascii "pending") none none)
    obtain ⟨tasks, equal, valid⟩ := iff.mp ⟨returns, read trivial⟩
    cases equal
    have odd : ValidUTF8 [255] := (valid [255] _ (lookup_insert _)).1
    exact absurd odd (by decide)

end Plain

end Storage

end Aristo
