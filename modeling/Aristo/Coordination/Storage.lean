import Aristo.Base.GoMap
import Aristo.Base.Time
import Aristo.Coordination.Channel
import Aristo.Storage.Balance

/-!
# The records of the coordinator

`StorageWrapper` of `coordination/storage_wrapper.go` over a `BaseStorage`: six kinds of records, in
JSON, under keys that start with the name of the kind.  The base is the `CoordinationStorageWrapper`
of `storage/wrapper.go`, which passes every call on to a database; the database is a map, and a call
that fails, or whose context is done, changes nothing.

Apart from the channels, the encodings are parameters.  A run of saves and deletes is compared with
its history (`stored_refines`).
-/

namespace Aristo

open GoBase Finmap Call List

namespace Coordination

/-! ## The base -/

abbrev BaseStorage := GoMap Bytes Bytes

namespace BaseStorage

def put (fault : Option GoError) (key value : Bytes) : Call BaseStorage Unit :=
  match fault with
  | some error => Call.fail error
  | none => Call.modify fun base => base.insert key value

def get (fault : Option GoError) (key : Bytes) : Call BaseStorage Bytes := do
  match fault with
  | some error => Call.fail error
  | none => do
    let base ← Call.read
    match base.lookup key with
    | some value => return value
    | none => Call.fail errNotFound

def delete (fault : Option GoError) (key : Bytes) : Call BaseStorage Unit :=
  match fault with
  | some error => Call.fail error
  | none => Call.modify fun base => base.erase key

/-- The keys are those that start with the prefix, in the order of an iterator. -/
structure Lists (base : BaseStorage) (start : Bytes) (order : List Bytes) : Prop where
  nodup : order.Nodup
  mem_iff : ∀ key, key ∈ order ↔ key ∈ base ∧ start <+: key

/-- `GetByPrefix`, along the keys of the iterator. -/
def getByPrefix (fault : Option GoError) (order : List Bytes) : Call BaseStorage (List Bytes) :=
  match fault with
  | some error => Call.fail error
  | none => do
    let base ← Call.read
    return order.map fun key => GoMap.get base key

end BaseStorage

/-! ## Records -/

inductive WorkerStatus where
  | idle
  | active
  | error
deriving DecidableEq

/-- The fields of a `Worker` that `MarshalJSON` writes. -/
structure WorkerRecord where
  id : Bytes
  enclaveID : Bytes
  status : WorkerStatus
  channels : GoMap Bytes (Option ChannelRecord)
deriving DecidableEq

structure Region where
  id : Bytes
  workers : Bytes × Bytes
  createdAt : Time
  status : Bytes
  maxObjects : ℤ
  maxEvents : ℤ
deriving DecidableEq

structure TEEPairInfo where
  id : Bytes
  sgxWorker : Bytes
  sevWorker : Bytes
  channel : Option ChannelRecord
  taskCount : ℤ
  lastUsed : Time
deriving DecidableEq

/-- `TEEPairMetrics`; a `float64` is given by its bits. -/
structure TEEPairMetrics where
  pairID : Bytes
  lastHealthCheck : Time
  lastHealthy : Time
  successRate : UInt64
  loadFactor : UInt64
  executionTime : ℤ
  consecutiveErrors : ℕ
deriving DecidableEq

/-- `json.Marshal` and `json.Unmarshal` at one type. -/
structure Codec (R : Type) where
  marshal : R → Except GoError Bytes
  unmarshal : Bytes → Except GoError R

namespace Codec

variable {R : Type} (codec : Codec R)

def RoundTrips (record : R) : Prop :=
  ∀ data, codec.marshal record = .ok data → codec.unmarshal data = .ok record

/-- The contents of a record that is there, or was deleted. -/
def encode : Option R → Except GoError (Option Bytes)
  | some record => (codec.marshal record).map some
  | none => .ok none

end Codec

def channelCodec : Codec ChannelRecord where
  marshal r := .ok r.marshal
  unmarshal := ChannelRecord.unmarshal

/-- The other encodings; the state of a coordinator is a `map[string]interface{}`. -/
structure Codecs (State : Type) where
  worker : Codec WorkerRecord
  region : Codec Region
  teePair : Codec TEEPairInfo
  metrics : Codec TEEPairMetrics
  state : Codec State

/-! ## Keys -/

inductive Kind where
  | channel
  | worker
  | region
  | teePair
  | metrics
  | state
deriving DecidableEq

/-- `channelPrefix` and the other prefixes, and `stateKey`. -/
def Kind.start : Kind → Bytes
  | channel => ascii "channel/"
  | worker => ascii "worker/"
  | region => ascii "region/"
  | teePair => ascii "tee/"
  | metrics => ascii "metrics/"
  | state => ascii "coordinator_state"

def recordKey (kind : Kind) (id : Bytes) : Bytes :=
  kind.start ++ id

theorem Kind.eq_of_start_isPrefix {kind kind' : Kind} (h : kind.start <+: kind'.start) :
    kind = kind' := by
  revert h
  cases kind <;> cases kind' <;> decide +kernel

/-- A key determines the kind and the ID. -/
theorem recordKey_inj {kind kind' : Kind} {id id' : Bytes}
    (h : recordKey kind id = recordKey kind' id') : kind = kind' ∧ id = id' := by
  have same : kind = kind' := by
    rcases prefix_or_prefix_of_prefix ⟨id, rfl⟩ ⟨id', h.symm⟩ with before | after
    · exact Kind.eq_of_start_isPrefix before
    · exact (Kind.eq_of_start_isPrefix after).symm
  subst same
  exact ⟨rfl, append_cancel_left h⟩

/-! ## Saving and loading -/

namespace StorageWrapper

open BaseStorage

variable {R : Type}

def save (codec : Codec R) (what : String) (fault : Option GoError) (key : Bytes) (record : R) :
    Call BaseStorage Unit := do
  let data ← Call.wrapping (ascii "failed to marshal " ++ ascii what)
    (Call.lift (codec.marshal record))
  put fault key data

section Save

variable {codec : Codec R} {what : String} {key : Bytes} {record : R} {base : BaseStorage}

theorem save_of_ok {data : Bytes} (marshalled : codec.marshal record = .ok data) :
    save codec what none key record base = (.ok (), base.insert key data) := by
  rw [save, marshalled]
  rfl

/-- A save puts the record there, or fails and changes nothing. -/
theorem save_cases (codec : Codec R) (what : String) (fault : Option GoError) (key : Bytes)
    (record : R) (base : BaseStorage) :
    (∃ data, fault = none ∧ codec.marshal record = .ok data ∧
      save codec what fault key record base = (.ok (), base.insert key data)) ∨
    ∃ cause, (fault = some cause ∨ codec.marshal record = .error cause) ∧
      ∃ error, save codec what fault key record base = (.err error, base) := by
  cases marshalled : codec.marshal record with
  | error cause =>
    refine Or.inr ⟨cause, Or.inr rfl, cause.wrap (ascii "failed to marshal " ++ ascii what), ?_⟩
    rw [save, marshalled]
    rfl
  | ok data =>
    cases fault with
    | none => exact Or.inl ⟨data, rfl, rfl, save_of_ok marshalled⟩
    | some error =>
      refine Or.inr ⟨error, Or.inl rfl, error, ?_⟩
      rw [save, marshalled]
      rfl

theorem save_of_not {fault : Option GoError}
    (fails : ∀ data, ¬ (fault = none ∧ codec.marshal record = .ok data)) :
    ∃ error, save codec what fault key record base = (.err error, base) := by
  rcases save_cases codec what fault key record base with
    ⟨data, works, marshalled, -⟩ | ⟨-, -, failed⟩
  · exact absurd ⟨works, marshalled⟩ (fails data)
  · exact failed

end Save

def load (codec : Codec R) (what : String) (fault : Option GoError) (key : Bytes) :
    Call BaseStorage R := do
  let data ← get fault key
  Call.wrapping (ascii "failed to unmarshal " ++ ascii what) (Call.lift (codec.unmarshal data))

/-- What a load makes of the contents of its key. -/
def loaded (codec : Codec R) (what : String) : Option Bytes → Outcome R
  | none => .err errNotFound
  | some data =>
    match codec.unmarshal data with
    | .ok record => .ok record
    | .error error => .err (error.wrap (ascii "failed to unmarshal " ++ ascii what))

variable {codec : Codec R} {what : String} {base : BaseStorage} {key data : Bytes}

theorem load_eq : load codec what none key base = (loaded codec what (base.lookup key), base) := by
  simp only [load, BaseStorage.get, bind_apply, read_apply]
  cases base.lookup key with
  | none => rfl
  | some data =>
    simp only [pure_apply, Call.wrapping, loaded]
    cases codec.unmarshal data <;> rfl

theorem load_of_absent (absent : base.lookup key = none) :
    load codec what none key base = (.err errNotFound, base) := by
  rw [load_eq, absent]
  rfl

theorem load_of_present {record : R} (present : base.lookup key = some data)
    (read : codec.unmarshal data = .ok record) :
    load codec what none key base = (.ok record, base) := by
  rw [load_eq, present, loaded, read]

theorem load_of_unreadable {error : GoError} (present : base.lookup key = some data)
    (read : codec.unmarshal data = .error error) :
    load codec what none key base =
      (.err (error.wrap (ascii "failed to unmarshal " ++ ascii what)), base) := by
  rw [load_eq, present, loaded, read]

/-- A load reads its key only, -/
theorem load_congr (codec : Codec R) (what : String) (fault : Option GoError) {base' : BaseStorage}
    (same : base.lookup key = base'.lookup key) :
    (load codec what fault key base).1 = (load codec what fault key base').1 := by
  cases fault with
  | some => rfl
  | none => rw [load_eq, load_eq, same]

/-- and changes nothing. -/
theorem load_cases (codec : Codec R) (what : String) (fault : Option GoError) (key : Bytes)
    (base : BaseStorage) :
    (∃ record, load codec what fault key base = (.ok record, base)) ∨
      ∃ error, load codec what fault key base = (.err error, base) := by
  cases fault with
  | some error => exact Or.inr ⟨error, rfl⟩
  | none =>
    rw [load_eq]
    cases base.lookup key with
    | none => exact Or.inr ⟨_, rfl⟩
    | some data =>
      rw [loaded]
      cases codec.unmarshal data with
      | ok record => exact Or.inl ⟨record, rfl⟩
      | error => exact Or.inr ⟨_, rfl⟩

def saveChannel (fault : Option GoError) (channel : SecureChannel) : Call BaseStorage Unit :=
  save channelCodec "channel" fault
    (recordKey .channel (makeChannelKey channel.worker1 channel.worker2)) channel.record

def loadChannel (fault : Option GoError) (worker1 worker2 : Bytes) :
    Call BaseStorage SecureChannel := do
  let record ← load channelCodec "channel" fault
    (recordKey .channel (makeChannelKey worker1 worker2))
  return .ofRecord record

theorem loadChannel_of_absent {worker1 worker2 : Bytes}
    (absent : base.lookup (recordKey .channel (channelKey s(worker1, worker2))) = none) :
    loadChannel none worker1 worker2 base = (.err errNotFound, base) :=
  bind_of_err (load_of_absent absent)

theorem loadChannel_of_present {worker1 worker2 : Bytes} {record : ChannelRecord}
    (present : base.lookup (recordKey .channel (channelKey s(worker1, worker2))) = some data)
    (read : ChannelRecord.unmarshal data = .ok record) :
    loadChannel none worker1 worker2 base = (.ok (.ofRecord record), base) :=
  bind_of_ok (load_of_present present read)

theorem loadChannel_cases (fault : Option GoError) (worker1 worker2 : Bytes) (base : BaseStorage) :
    (∃ channel, loadChannel fault worker1 worker2 base = (.ok channel, base)) ∨
      ∃ error, loadChannel fault worker1 worker2 base = (.err error, base) := by
  rcases load_cases channelCodec "channel" fault
    (recordKey .channel (makeChannelKey worker1 worker2)) base with
    ⟨record, loaded⟩ | ⟨error, failed⟩
  · exact Or.inl ⟨.ofRecord record, bind_of_ok loaded⟩
  · exact Or.inr ⟨error, bind_of_err failed⟩

/-- Records of channels decide what a load returns. -/
theorem loadChannel_congr (fault : Option GoError) (worker1 worker2 : Bytes) {base' : BaseStorage}
    (same : ∀ id, base.lookup (recordKey .channel id) = base'.lookup (recordKey .channel id)) :
    (loadChannel fault worker1 worker2 base).1 = (loadChannel fault worker1 worker2 base').1 := by
  have loads := load_congr channelCodec "channel" fault (same (makeChannelKey worker1 worker2))
  rw [loadChannel, bind_apply, bind_apply]
  rcases first : load channelCodec "channel" fault
    (recordKey .channel (makeChannelKey worker1 worker2)) base with ⟨outcome, next⟩
  rcases second : load channelCodec "channel" fault
    (recordKey .channel (makeChannelKey worker1 worker2)) base' with ⟨outcome', next'⟩
  obtain rfl : outcome = outcome' := by rwa [first, second] at loads
  cases outcome <;> rfl

def deleteChannel (fault : Option GoError) (worker1 worker2 : Bytes) : Call BaseStorage Unit :=
  delete fault (recordKey .channel (makeChannelKey worker1 worker2))

section Codecs

variable {State : Type} (codecs : Codecs State)

def saveWorker (fault : Option GoError) (worker : WorkerRecord) : Call BaseStorage Unit :=
  save codecs.worker "worker" fault (recordKey .worker worker.id) worker

/-- `LoadWorker`, without the new mailbox. -/
def loadWorker (fault : Option GoError) (id : Bytes) : Call BaseStorage WorkerRecord :=
  load codecs.worker "worker" fault (recordKey .worker id)

def deleteWorker (fault : Option GoError) (id : Bytes) : Call BaseStorage Unit :=
  delete fault (recordKey .worker id)

def saveRegion (fault : Option GoError) (region : Region) : Call BaseStorage Unit :=
  save codecs.region "region" fault (recordKey .region region.id) region

def loadRegion (fault : Option GoError) (id : Bytes) : Call BaseStorage Region :=
  load codecs.region "region" fault (recordKey .region id)

def deleteRegion (fault : Option GoError) (id : Bytes) : Call BaseStorage Unit :=
  delete fault (recordKey .region id)

def saveCoordinatorState (fault : Option GoError) (state : State) : Call BaseStorage Unit :=
  save codecs.state "coordinator state" fault (recordKey .state []) state

def loadCoordinatorState (fault : Option GoError) : Call BaseStorage State :=
  load codecs.state "coordinator state" fault (recordKey .state [])

def saveTEEPairInfo (fault : Option GoError) (info : TEEPairInfo) : Call BaseStorage Unit :=
  save codecs.teePair "TEE pair info" fault (recordKey .teePair info.id) info

def getTEEPairInfo (fault : Option GoError) (pairID : Bytes) : Call BaseStorage TEEPairInfo :=
  load codecs.teePair "TEE pair info" fault (recordKey .teePair pairID)

/-- `ListTEEPairInfo`, along the keys of the iterator. -/
def listTEEPairInfo (fault : Option GoError) (order : List Bytes) :
    Call BaseStorage (List TEEPairInfo) := do
  let values ← getByPrefix fault order
  Call.wrapping (ascii "failed to unmarshal TEE pair info")
    (Call.lift (values.mapM codecs.teePair.unmarshal))

def saveTEEMetrics (fault : Option GoError) (pairID : Bytes) (metrics : TEEPairMetrics) :
    Call BaseStorage Unit :=
  save codecs.metrics "TEE metrics" fault (recordKey .metrics pairID) metrics

def getTEEMetrics (fault : Option GoError) (pairID : Bytes) : Call BaseStorage TEEPairMetrics :=
  load codecs.metrics "TEE metrics" fault (recordKey .metrics pairID)

end Codecs

end StorageWrapper

/-! ## Runs of saves and deletes -/

inductive Op (State : Type) where
  | saveChannel (channel : SecureChannel)
  | deleteChannel (worker1 worker2 : Bytes)
  | saveWorker (worker : WorkerRecord)
  | deleteWorker (id : Bytes)
  | saveRegion (region : Region)
  | deleteRegion (id : Bytes)
  | saveCoordinatorState (state : State)
  | saveTEEPairInfo (info : TEEPairInfo)
  | saveTEEMetrics (pairID : Bytes) (metrics : TEEPairMetrics)

namespace Op

variable {State : Type} (codecs : Codecs State)

/-- The call, with what goes wrong in the base. -/
def call : Op State × Option GoError → Call BaseStorage Unit
  | (saveChannel channel, fault) => StorageWrapper.saveChannel fault channel
  | (deleteChannel worker1 worker2, fault) => StorageWrapper.deleteChannel fault worker1 worker2
  | (saveWorker worker, fault) => StorageWrapper.saveWorker codecs fault worker
  | (deleteWorker id, fault) => StorageWrapper.deleteWorker fault id
  | (saveRegion region, fault) => StorageWrapper.saveRegion codecs fault region
  | (deleteRegion id, fault) => StorageWrapper.deleteRegion fault id
  | (saveCoordinatorState state, fault) => StorageWrapper.saveCoordinatorState codecs fault state
  | (saveTEEPairInfo info, fault) => StorageWrapper.saveTEEPairInfo codecs fault info
  | (saveTEEMetrics pairID metrics, fault) =>
    StorageWrapper.saveTEEMetrics codecs fault pairID metrics

def kind : Op State → Kind
  | saveChannel _ | deleteChannel _ _ => .channel
  | saveWorker _ | deleteWorker _ => .worker
  | saveRegion _ | deleteRegion _ => .region
  | saveCoordinatorState _ => .state
  | saveTEEPairInfo _ => .teePair
  | saveTEEMetrics _ _ => .metrics

def id : Op State → Bytes
  | saveChannel channel => makeChannelKey channel.worker1 channel.worker2
  | deleteChannel worker1 worker2 => makeChannelKey worker1 worker2
  | saveWorker worker => worker.id
  | deleteWorker id => id
  | saveRegion region => region.id
  | deleteRegion id => id
  | saveCoordinatorState _ => []
  | saveTEEPairInfo info => info.id
  | saveTEEMetrics pairID _ => pairID

/-- The new contents, `none` for a delete. -/
def contents : Op State → Except GoError (Option Bytes)
  | saveChannel channel => channelCodec.encode (some channel.record)
  | deleteChannel _ _ => .ok none
  | saveWorker worker => codecs.worker.encode (some worker)
  | deleteWorker _ => .ok none
  | saveRegion region => codecs.region.encode (some region)
  | deleteRegion _ => .ok none
  | saveCoordinatorState state => codecs.state.encode (some state)
  | saveTEEPairInfo info => codecs.teePair.encode (some info)
  | saveTEEMetrics _ metrics => codecs.metrics.encode (some metrics)

/-- The worker, region, TEE pair or metrics that are saved survive the encoding. -/
def RoundTrips : Op State → Prop
  | saveWorker worker => codecs.worker.RoundTrips worker
  | saveRegion region => codecs.region.RoundTrips region
  | saveTEEPairInfo info => codecs.teePair.RoundTrips info
  | saveTEEMetrics _ metrics => codecs.metrics.RoundTrips metrics
  | _ => True

/-- What the call writes into the base. -/
def write (op : Op State) : Option (Write Bytes Bytes) :=
  (op.contents codecs).toOption.map fun contents => (recordKey op.kind op.id, contents)

end Op

namespace BaseStorage

def view (base : BaseStorage) : KeyValue Bytes Bytes := fun key => base.lookup key

@[simp] theorem view_empty : view ∅ = fun _ => none := by
  funext key
  exact lookup_empty key

theorem view_insert (base : BaseStorage) (key value : Bytes) :
    view (base.insert key value) = Function.update base.view key (some value) := by
  funext other
  by_cases h : key = other
  · simp [view, h]
  · simp [view, Ne.symm h]

theorem view_erase (base : BaseStorage) (key : Bytes) :
    view (base.erase key) = Function.update base.view key none := by
  funext other
  by_cases h : key = other
  · simp [view, h]
  · simp [view, Ne.symm h, lookup_erase_ne]

end BaseStorage

namespace StorageWrapper

variable {R : Type}

/-- A call that changes the contents of one key when it returns, and nothing otherwise. -/
def Writes (key : Bytes) (contents : Except GoError (Option Bytes)) (call : Call BaseStorage Unit) :
    Prop :=
  ∀ base, Call.Ends call base fun outcome next =>
    (outcome.Succeeded → ∃ written, contents = .ok written ∧
      next.view = Function.update base.view key written) ∧
    (¬ outcome.Succeeded → next = base)

/-- A save writes its record, -/
theorem writes_save (codec : Codec R) (what : String) (fault : Option GoError) (key : Bytes)
    (record : R) : Writes key (codec.encode (some record)) (save codec what fault key record) := by
  intro base
  rcases save_cases codec what fault key record base with
    ⟨data, -, marshalled, saved⟩ | ⟨-, -, error, failed⟩
  · refine ends_of_eq saved ⟨fun _ => ⟨some data, ?_, BaseStorage.view_insert base key data⟩,
      fun failed => absurd trivial failed⟩
    rw [Codec.encode, marshalled]
    rfl
  · exact ends_of_eq failed ⟨False.elim, fun _ => rfl⟩

/-- a delete clears its key, -/
theorem writes_delete (fault : Option GoError) (key : Bytes) :
    Writes key (.ok none) (BaseStorage.delete fault key) := by
  intro base
  cases fault with
  | some => exact ⟨False.elim, fun _ => rfl⟩
  | none =>
    exact ⟨fun _ => ⟨none, rfl, BaseStorage.view_erase base key⟩,
      fun failed => absurd trivial failed⟩

end StorageWrapper

section Runs

open StorageWrapper

variable {State : Type} (codecs : Codecs State)

/-- and **so does every call** of the wrapper. -/
theorem writes_call (input : Op State × Option GoError) :
    Writes (recordKey input.1.kind input.1.id) (input.1.contents codecs)
      (Op.call codecs input) := by
  obtain ⟨op, fault⟩ := input
  cases op <;> first | exact writes_save _ _ _ _ _ | exact writes_delete _ _

def stored (inputs : List (Op State × Option GoError)) : BaseStorage :=
  Call.after (Op.call codecs) ∅ inputs

/-- The calls of the run that returned nil. -/
def succeeded (inputs : List (Op State × Option GoError)) : List (Op State) :=
  (Call.returned (Op.call codecs) ∅ inputs).map fun done => done.1.1

variable {inputs : List (Op State × Option GoError)}

/-- A call that returned nil had something to write. -/
theorem contents_of_mem_succeeded {op : Op State} (mem : op ∈ succeeded codecs inputs) :
    ∃ written, op.contents codecs = .ok written := by
  obtain ⟨done, returned, rfl⟩ := mem_map.mp mem
  obtain ⟨earlier, later, next, -, h⟩ := exists_of_mem_returned returned
  have ends := writes_call codecs done.1 (Call.after (Op.call codecs) ∅ earlier)
  rw [Call.Ends, h] at ends
  obtain ⟨written, encoded, -⟩ := ends.1 trivial
  exact ⟨written, encoded⟩

/-- The calls that returned nil, in two parts of a run. -/
theorem succeeded_append (earlier later : List (Op State × Option GoError)) :
    succeeded codecs (earlier ++ later) =
      succeeded codecs earlier ++
        (Call.returned (Op.call codecs) (stored codecs earlier) later).map
          fun done => done.1.1 := by
  rw [succeeded, returned_append, map_append]
  rfl

/-- **The base is the log of the calls that returned nil.** -/
theorem lookup_stored (inputs : List (Op State × Option GoError)) (key : Bytes) :
    (stored codecs inputs).lookup key =
      (lastWrite ((succeeded codecs inputs).filterMap (Op.write codecs)) key).join := by
  have step (input : Op State × Option GoError) (base : BaseStorage) :
      Call.Ends (Op.call codecs input) base fun outcome next =>
        (outcome.Succeeded →
          next.view = applyWrites base.view (input.1.write codecs).toList) ∧
        (¬ outcome.Succeeded → next.view = base.view) := by
    refine Call.Ends.mono (writes_call codecs input base) fun outcome next ends => ⟨?_, ?_⟩
    · intro returned
      obtain ⟨written, encoded, written_eq⟩ := ends.1 returned
      rw [Op.write, encoded]
      exact written_eq
    · intro failed
      rw [ends.2 failed]
  have view := congrFun (after_eq_applyWrites step ∅ inputs) key
  rw [applyWrites_apply, BaseStorage.view_empty] at view
  rw [succeeded, filterMap_map]
  have join (last : Option (Option Bytes)) : last.getD none = last.join := by cases last <;> rfl
  exact view.trans (join _)

/-! ### Histories of one kind -/

variable {R : Type}

/-- The record that was saved last for an ID, unless it was deleted since. -/
def lastSaved {ID : Type} [DecidableEq ID] (writes : Op State → Option (Write ID R))
    (ops : List (Op State)) (id : ID) : Option R :=
  (lastWrite (ops.filterMap writes) id).join

def found : Option R → Outcome R
  | some record => .ok record
  | none => .err errNotFound

/-- What was saved last was saved by a call. -/
theorem exists_of_lastSaved {ID : Type} [DecidableEq ID] {writes : Op State → Option (Write ID R)}
    {ops : List (Op State)} {id : ID} {record : R} (h : lastSaved writes ops id = some record) :
    ∃ op ∈ ops, writes op = some (id, some record) := by
  have last := Option.join_eq_some_iff.mp h
  exact mem_filterMap.mp (mem_of_lastWrite last)

namespace Op

def worker : Op State → Option (Write Bytes WorkerRecord)
  | saveWorker worker => some (worker.id, some worker)
  | deleteWorker id => some (id, none)
  | _ => none

def region : Op State → Option (Write Bytes Region)
  | saveRegion region => some (region.id, some region)
  | deleteRegion id => some (id, none)
  | _ => none

def teePair : Op State → Option (Write Bytes TEEPairInfo)
  | saveTEEPairInfo info => some (info.id, some info)
  | _ => none

def metrics : Op State → Option (Write Bytes TEEPairMetrics)
  | saveTEEMetrics pairID metrics => some (pairID, some metrics)
  | _ => none

end Op

/-- The function says what the calls do to the records of a kind. -/
structure Describes (kind : Kind) (codec : Codec R) (writes : Op State → Option (Write Bytes R)) :
    Prop where
  other : ∀ op, op.kind ≠ kind → writes op = none
  own : ∀ op, op.kind = kind → ∃ record, writes op = some (op.id, record) ∧
    op.contents codecs = codec.encode record

/-- The records of the kind survive their encoding. -/
structure Table (kind : Kind) (codec : Codec R) (writes : Op State → Option (Write Bytes R)) :
    Prop extends Describes codecs kind codec writes where
  roundTrips : ∀ op id record, writes op = some (id, some record) → op.RoundTrips codecs →
    codec.RoundTrips record

/-- The calls keep four such tables. -/
theorem tables : Table codecs .worker codecs.worker Op.worker ∧
    Table codecs .region codecs.region Op.region ∧
    Table codecs .teePair codecs.teePair Op.teePair ∧
    Table codecs .metrics codecs.metrics Op.metrics := by
  refine ⟨⟨⟨?_, ?_⟩, ?_⟩, ⟨⟨?_, ?_⟩, ?_⟩, ⟨⟨?_, ?_⟩, ?_⟩, ⟨⟨?_, ?_⟩, ?_⟩⟩
  case refine_1 | refine_4 | refine_7 | refine_10 =>
    intro op other
    cases op <;> first | rfl | exact absurd rfl other
  case refine_2 | refine_5 | refine_8 | refine_11 =>
    intro op own
    cases op <;> first | exact ⟨_, rfl, rfl⟩ | cases own
  all_goals
    intro op id record wrote trips
    cases op <;> cases wrote
    exact trips

section Describes

variable {codecs} {kind : Kind} {codec : Codec R} {writes : Op State → Option (Write Bytes R)}

/-- The base has the encoding of what was saved last, -/
theorem Describes.lookup_stored (describes : Describes codecs kind codec writes)
    (inputs : List (Op State × Option GoError)) (id : Bytes) :
    (stored codecs inputs).lookup (recordKey kind id) =
      (lastSaved writes (succeeded codecs inputs) id).bind fun record =>
        (codec.marshal record).toOption := by
  have logs : lastWrite ((succeeded codecs inputs).filterMap (Op.write codecs))
        (recordKey kind id) =
      (lastWrite ((succeeded codecs inputs).filterMap writes) id).map fun record =>
        (codec.encode record).toOption.join := by
    refine lastWrite_filterMap fun op mem => ?_
    obtain ⟨written, encoded⟩ := contents_of_mem_succeeded codecs mem
    rw [Op.write, encoded]
    by_cases own : op.kind = kind
    · obtain ⟨record, wrote, contents⟩ := describes.own op own
      rw [wrote, own]
      by_cases same : op.id = id
      · refine Or.inl ⟨record, by rw [same], ?_⟩
        rw [same, ← contents, encoded]
        rfl
      · refine Or.inr ⟨fun _ equal => ?_, fun _ equal => ?_⟩
        · exact same (recordKey_inj (congrArg Prod.fst (Option.some.inj equal))).2
        · exact same (congrArg Prod.fst (Option.some.inj equal))
    · refine Or.inr ⟨fun _ equal => ?_, fun _ equal => ?_⟩
      · exact own (recordKey_inj (congrArg Prod.fst (Option.some.inj equal))).1
      · rw [describes.other op own] at equal
        cases equal
  rw [Coordination.lookup_stored, logs, lastSaved]
  rcases lastWrite ((succeeded codecs inputs).filterMap writes) id with - | - | record
  · rfl
  · rfl
  · show (((codec.marshal record).map some).toOption).join = (codec.marshal record).toOption
    cases codec.marshal record <;> rfl

variable {inputs : List (Op State × Option GoError)}

variable (table : Table codecs kind codec writes)
    (roundTrips : ∀ op ∈ succeeded codecs inputs, op.RoundTrips codecs)

include table roundTrips

/-- which is read back as it was. -/
theorem Table.exists_lookup {id : Bytes} {record : R}
    (last : lastSaved writes (succeeded codecs inputs) id = some record) :
    ∃ data, (stored codecs inputs).lookup (recordKey kind id) = some data ∧
      codec.unmarshal data = .ok record := by
  obtain ⟨op, mem, wrote⟩ := exists_of_lastSaved last
  have own : op.kind = kind := by
    by_contra other
    rw [table.other op other] at wrote
    cases wrote
  obtain ⟨record', wrote', contents⟩ := table.own op own
  obtain ⟨same, rfl⟩ := Prod.mk.inj (Option.some.inj (wrote'.symm.trans wrote))
  obtain ⟨written, encoded⟩ := contents_of_mem_succeeded codecs mem
  rw [contents, Codec.encode] at encoded
  cases h : codec.marshal record with
  | error =>
    rw [h] at encoded
    cases encoded
  | ok data =>
    refine ⟨data, ?_, table.roundTrips op id record wrote (roundTrips op mem) data h⟩
    rw [table.lookup_stored, last, Option.bind_some, h]
    rfl

/-- **Last save wins.** -/
theorem Table.load_stored (what : String)
    (id : Bytes) :
    (load codec what none (recordKey kind id) (stored codecs inputs)).1 =
      found (lastSaved writes (succeeded codecs inputs) id) := by
  cases last : lastSaved writes (succeeded codecs inputs) id with
  | none =>
    have absent : (stored codecs inputs).lookup (recordKey kind id) = none := by
      rw [table.lookup_stored, last]
      rfl
    rw [load_of_absent absent]
    rfl
  | some =>
    obtain ⟨data, present, read⟩ := table.exists_lookup roundTrips last
    rw [load_of_present present read]
    rfl

end Describes

/-- **The list has every pair once**, as it was saved last. -/
theorem listTEEPairInfo_stored (roundTrips : ∀ op ∈ succeeded codecs inputs, op.RoundTrips codecs)
    {order : List Bytes}
    (lists : BaseStorage.Lists (stored codecs inputs) Kind.teePair.start order) :
    ∃ infos, (listTEEPairInfo codecs none order (stored codecs inputs)).1 = .ok infos ∧
      (infos.map TEEPairInfo.id).Nodup ∧
      ∀ info, info ∈ infos ↔
        lastSaved Op.teePair (succeeded codecs inputs) info.id = some info := by
  have table := (tables codecs).2.2.1
  -- every key of the iterator belongs to the pair that was saved last under its ID
  have each : ∀ key ∈ order, ∃ info,
      codecs.teePair.unmarshal (GoMap.get (stored codecs inputs) key) = .ok info ∧
      recordKey .teePair info.id = key ∧
      lastSaved Op.teePair (succeeded codecs inputs) info.id = some info := by
    intro key mem
    obtain ⟨present, id, rfl⟩ := (lists.mem_iff key).mp mem
    obtain ⟨data, lookup⟩ := mem_iff.mp present
    obtain ⟨info, last, -⟩ := Option.bind_eq_some_iff.mp
      ((table.lookup_stored inputs id).symm.trans lookup)
    have same : info.id = id := by
      obtain ⟨op, -, wrote⟩ := exists_of_lastSaved last
      cases op with
      | saveTEEPairInfo =>
        obtain ⟨rfl, equal⟩ := Prod.mk.inj (Option.some.inj wrote)
        rw [Option.some.inj equal]
      | _ => cases wrote
    subst same
    obtain ⟨data', lookup', read⟩ := table.exists_lookup roundTrips last
    refine ⟨info, ?_, rfl, last⟩
    rw [← read]
    exact congrArg _ (GoMap.get_of_lookup lookup')
  obtain ⟨infos, loop, keys, all⟩ := exists_mapM_eq_ok each
  refine ⟨infos, ?_, ?_, fun info => ⟨all info, fun last => ?_⟩⟩
  · show (Call.wrapping _ (Call.lift _) (stored codecs inputs)).1 = _
    rw [mapM_map, Function.comp_def, loop]
    rfl
  · have nodup := lists.nodup
    rw [← keys] at nodup
    refine List.Nodup.of_map (recordKey .teePair) ?_
    rwa [map_map]
  · obtain ⟨data, lookup, -⟩ := table.exists_lookup roundTrips last
    have listed : recordKey .teePair info.id ∈ order :=
      (lists.mem_iff _).mpr ⟨mem_iff.mpr ⟨data, lookup⟩, info.id, rfl⟩
    rw [← keys] at listed
    obtain ⟨info', mem, equal⟩ := mem_map.mp listed
    have last' := all info' mem
    rw [(recordKey_inj equal).2, last] at last'
    rwa [Option.some.inj last']

/-! ### What a call does not touch -/

/-- The loads of a kind return the same from both bases. -/
def SameLoads (base base' : BaseStorage) : Kind → Prop
  | .channel => ∀ fault worker1 worker2,
      (loadChannel fault worker1 worker2 base).1 = (loadChannel fault worker1 worker2 base').1
  | .worker => ∀ fault id,
      (loadWorker codecs fault id base).1 = (loadWorker codecs fault id base').1
  | .region => ∀ fault id,
      (loadRegion codecs fault id base).1 = (loadRegion codecs fault id base').1
  | .teePair =>
    (∀ fault pairID, (getTEEPairInfo codecs fault pairID base).1 =
      (getTEEPairInfo codecs fault pairID base').1) ∧
    ∀ fault order,
      (BaseStorage.Lists base Kind.teePair.start order ↔
        BaseStorage.Lists base' Kind.teePair.start order) ∧
      (BaseStorage.Lists base Kind.teePair.start order →
        (listTEEPairInfo codecs fault order base).1 =
          (listTEEPairInfo codecs fault order base').1)
  | .metrics => ∀ fault pairID,
      (getTEEMetrics codecs fault pairID base).1 = (getTEEMetrics codecs fault pairID base').1
  | .state => ∀ fault,
      (loadCoordinatorState codecs fault base).1 = (loadCoordinatorState codecs fault base').1

/-- A call leaves the records of other kinds alone. -/
theorem lookup_call_of_ne (input : Op State × Option GoError) (base : BaseStorage) {kind : Kind}
    (other : kind ≠ input.1.kind) (id : Bytes) :
    base.lookup (recordKey kind id) =
      (Op.call codecs input base).2.lookup (recordKey kind id) := by
  obtain ⟨ok, failed⟩ := writes_call codecs input base
  by_cases returned : (Op.call codecs input base).1.Succeeded
  · obtain ⟨written, -, view⟩ := ok returned
    have apart : recordKey kind id ≠ recordKey input.1.kind input.1.id :=
      fun equal => other (recordKey_inj equal).1
    exact ((congrFun view _).trans (Function.update_of_ne apart _ _)).symm
  · rw [failed returned]

/-- **Frame.**  Records of one kind decide what the loads of that kind return. -/
theorem sameLoads_of_lookup {base base' : BaseStorage} {kind : Kind}
    (same : ∀ id, base.lookup (recordKey kind id) = base'.lookup (recordKey kind id)) :
    SameLoads codecs base base' kind := by
  cases kind with
  | channel => exact fun fault worker1 worker2 => loadChannel_congr fault worker1 worker2 same
  | worker | region => exact fun fault id => load_congr _ _ fault (same id)
  | metrics => exact fun fault pairID => load_congr _ _ fault (same pairID)
  | state => exact fun fault => load_congr _ _ fault (same [])
  | teePair =>
    have member (key : Bytes) (start : Kind.teePair.start <+: key) :
        key ∈ base ↔ key ∈ base' := by
      obtain ⟨id, rfl⟩ := start
      have equal := same id
      rw [recordKey] at equal
      rw [mem_iff, mem_iff, equal]
    refine ⟨fun fault pairID => load_congr _ _ fault (same pairID), fun fault order => ⟨?_, ?_⟩⟩
    · have both (key : Bytes) : key ∈ base ∧ Kind.teePair.start <+: key ↔
          key ∈ base' ∧ Kind.teePair.start <+: key := and_congr_left (member key)
      exact ⟨fun lists => ⟨lists.nodup, fun key => (lists.mem_iff key).trans (both key)⟩,
        fun lists => ⟨lists.nodup, fun key => (lists.mem_iff key).trans (both key).symm⟩⟩
    · intro lists
      cases fault with
      | some => rfl
      | none =>
        have values : (order.map fun key => GoMap.get base key) =
            order.map fun key => GoMap.get base' key := by
          refine map_congr_left fun key mem => ?_
          obtain ⟨-, id, rfl⟩ := (lists.mem_iff key).mp mem
          exact congrArg (fun found => Option.getD found default) (same id)
        show (Call.wrapping _ (Call.lift _) base).1 = (Call.wrapping _ (Call.lift _) base').1
        rw [values]
        cases List.mapM codecs.teePair.unmarshal
          (order.map fun key => GoMap.get base' key) <;> rfl

/-- The loads return what the history has. -/
structure Refines (ops : List (Op State)) (base : BaseStorage) : Prop where
  worker : ∀ id, (loadWorker codecs none id base).1 = found (lastSaved Op.worker ops id)
  region : ∀ id, (loadRegion codecs none id base).1 = found (lastSaved Op.region ops id)
  teePair : ∀ pairID,
    (getTEEPairInfo codecs none pairID base).1 = found (lastSaved Op.teePair ops pairID)
  metrics : ∀ pairID,
    (getTEEMetrics codecs none pairID base).1 = found (lastSaved Op.metrics ops pairID)
  list : ∀ order, BaseStorage.Lists base Kind.teePair.start order →
    ∃ infos, (listTEEPairInfo codecs none order base).1 = .ok infos ∧
      (infos.map TEEPairInfo.id).Nodup ∧
      ∀ info, info ∈ infos ↔ lastSaved Op.teePair ops info.id = some info

/-- **The wrapper keeps six tables.**  After every run the loads return what was saved last, and
the next call changes the loads of its own kind only. -/
theorem stored_refines (inputs : List (Op State × Option GoError))
    (roundTrips : ∀ op ∈ succeeded codecs inputs, op.RoundTrips codecs) :
    Refines codecs (succeeded codecs inputs) (stored codecs inputs) ∧
      ∀ next kind, kind ≠ next.1.kind →
        SameLoads codecs (stored codecs inputs)
          (Op.call codecs next (stored codecs inputs)).2 kind := by
  refine ⟨?_, fun next kind other => ?_⟩
  · exact {
      worker := (tables codecs).1.load_stored roundTrips _
      region := (tables codecs).2.1.load_stored roundTrips _
      teePair := (tables codecs).2.2.1.load_stored roundTrips _
      metrics := (tables codecs).2.2.2.load_stored roundTrips _
      list := fun order lists => listTEEPairInfo_stored codecs roundTrips lists }
  · exact sameLoads_of_lookup codecs (lookup_call_of_ne codecs next _ other)

end Runs

namespace Codec

variable {R : Type}

def nothing : Codec R where
  marshal _ := .error (.plain (ascii "json: unsupported value"))
  unmarshal _ := .error errUnmarshal

def only [DecidableEq R] (record : R) (data : Bytes) : Codec R where
  marshal r := if r = record then .ok data else nothing.marshal r
  unmarshal d := if d = data then .ok record else nothing.unmarshal d

theorem marshal_only [DecidableEq R] (record : R) (data : Bytes) :
    (only record data).marshal record = .ok data := if_pos rfl

theorem roundTrips_only [DecidableEq R] (record : R) (data : Bytes) :
    (only record data).RoundTrips record := by
  intro data' marshalled
  rw [marshal_only] at marshalled
  rw [← Except.ok.inj marshalled]
  exact if_pos rfl

end Codec

def pairP : TEEPairInfo where
  id := ascii "p"
  sgxWorker := ascii "a"
  sevWorker := ascii "b"
  channel := none
  taskCount := 0
  lastUsed := Time.zero

def jsonP : Bytes :=
  ascii "\x7b\"ID\":\"p\",\"SGXWorker\":\"a\",\"SEVWorker\":\"b\",\"Channel\":null," ++
    ascii "\"TaskCount\":0,\"LastUsed\":\"0001-01-01T00:00:00Z\"\x7d"

/-- `json.Marshal` and `json.Unmarshal` at the pair; nothing else is encoded. -/
def codecsP : Codecs Unit where
  worker := .nothing
  region := .nothing
  teePair := .only pairP jsonP
  metrics := .nothing
  state := .nothing

/-- The pair is saved, and a worker with the same ID is deleted. -/
def saveP : List (Op Unit × Option GoError) :=
  [(.saveTEEPairInfo pairP, none), (.deleteWorker pairP.id, none)]

theorem stored_refines_saveP :
    lastSaved Op.teePair (succeeded codecsP saveP) pairP.id = some pairP ∧
      Refines codecsP (succeeded codecsP saveP) (stored codecsP saveP) := by
  have roundTrips : ∀ op ∈ succeeded codecsP saveP, op.RoundTrips codecsP := by
    have both : succeeded codecsP saveP = [.saveTEEPairInfo pairP, .deleteWorker pairP.id] := rfl
    rw [both, forall_mem_cons, forall_mem_singleton]
    exact ⟨Codec.roundTrips_only pairP jsonP, trivial⟩
  exact ⟨rfl, (stored_refines codecsP saveP roundTrips).1⟩

/-! ## Channels of pairs -/

section Channels

open StorageWrapper

variable {State : Type} (codecs : Codecs State)

/-- What a call does to the channels, by the two workers. -/
def Op.channel : Op State → Option (Write (Sym2 Bytes) ChannelRecord)
  | saveChannel channel => some (s(channel.worker1, channel.worker2), some channel.record)
  | deleteChannel worker1 worker2 => some (s(worker1, worker2), none)
  | _ => none

/-- What a call does to the channels, by the key. -/
def Op.keyedChannel (op : Op State) : Option (Write Bytes ChannelRecord) :=
  op.channel.map fun write => (channelKey write.1, write.2)

theorem describes_keyedChannel : Describes codecs .channel channelCodec Op.keyedChannel where
  other op other := by cases op <;> first | rfl | exact absurd rfl other
  own op own := by cases op <;> first | exact ⟨_, rfl, rfl⟩ | cases own

/-- **What a load of a channel returns**: the last channel that was saved under the key, with
names that are valid UTF-8. -/
theorem loadChannel_stored (inputs : List (Op State × Option GoError)) (worker1 worker2 : Bytes) :
    (loadChannel none worker1 worker2 (stored codecs inputs)).1 =
      found ((lastSaved Op.keyedChannel (succeeded codecs inputs)
        (channelKey s(worker1, worker2))).map fun record => .ofRecord record.readBack) := by
  have lookup :=
    (describes_keyedChannel codecs).lookup_stored inputs (channelKey s(worker1, worker2))
  revert lookup
  cases lastSaved Op.keyedChannel (succeeded codecs inputs) (channelKey s(worker1, worker2)) with
  | none =>
    intro absent
    rw [loadChannel_of_absent absent]
    rfl
  | some record =>
    intro present
    rw [loadChannel_of_present present (ChannelRecord.unmarshal_of_marshal record)]
    rfl

/-- A pair whose key no other pair has. -/
def Unambiguous (pair : Sym2 Bytes) : Prop :=
  ∀ other, ¬ Ambiguous pair other ∧ ¬ Ambiguous other pair

/-- No other pair has the key. -/
theorem Unambiguous.eq {pair other : Sym2 Bytes} (unambiguous : Unambiguous pair)
    (same : channelKey pair = channelKey other) : pair = other := by
  rcases channelKey_eq_iff.mp same with equal | ambiguous | ambiguous
  · exact equal
  · exact absurd ambiguous (unambiguous other).1
  · exact absurd ambiguous (unambiguous other).2

/-- A channel that can be told from all others in the base, and is read back as it was. -/
structure Clean (channel : SecureChannel) : Prop where
  valid1 : ValidUTF8 channel.worker1
  valid2 : ValidUTF8 channel.worker2
  unambiguous : Unambiguous s(channel.worker1, channel.worker2)

/-- A load returns the channel that was saved last for the two workers, in either order, and no
two pairs share a record. -/
structure ChannelsFaithful (ops : List (Op State)) (base : BaseStorage) : Prop where
  load : ∀ worker1 worker2, (loadChannel none worker1 worker2 base).1 =
    found ((lastSaved Op.channel ops s(worker1, worker2)).map .ofRecord)
  separate : ∀ pair other, recordKey .channel (channelKey pair) ∈ base →
    channelKey pair = channelKey other → pair = other

variable {ops : List (Op State)}

/-- What was saved last under a key is a channel with that key. -/
theorem exists_saveChannel_of_lastSaved {key : Bytes} {record : ChannelRecord}
    (last : lastSaved Op.keyedChannel ops key = some record) :
    ∃ channel, Op.saveChannel channel ∈ ops ∧ channel.record = record ∧
      channelKey s(channel.worker1, channel.worker2) = key := by
  obtain ⟨op, mem, wrote⟩ := exists_of_lastSaved last
  cases op with
  | saveChannel channel =>
    obtain ⟨same, equal⟩ := Prod.mk.inj (Option.some.inj wrote)
    exact ⟨channel, mem, Option.some.inj equal, same⟩
  | deleteChannel => cases (Prod.mk.inj (Option.some.inj wrote)).2
  | _ => cases wrote

/-- With clean channels, the history of a key is that of its pair. -/
theorem lastSaved_keyedChannel (clean : ∀ channel, Op.saveChannel channel ∈ ops → Clean channel)
    (pair : Sym2 Bytes) :
    lastSaved Op.keyedChannel ops (channelKey pair) = lastSaved Op.channel ops pair := by
  by_cases shared : ∃ other, channelKey pair = channelKey other ∧ pair ≠ other
  · -- no channel was saved under a key that two pairs have
    obtain ⟨other, same, ne⟩ := shared
    have unsaved (channel : SecureChannel) (mem : Op.saveChannel channel ∈ ops)
        (key : channelKey s(channel.worker1, channel.worker2) = channelKey pair) : False := by
      have unambiguous := (clean channel mem).unambiguous
      exact ne ((unambiguous.eq key).symm.trans (unambiguous.eq (key.trans same)))
    have keyed : lastSaved Op.keyedChannel ops (channelKey pair) = none := by
      refine Option.eq_none_iff_forall_ne_some.mpr fun record last => ?_
      obtain ⟨channel, mem, -, key⟩ := exists_saveChannel_of_lastSaved last
      exact unsaved channel mem key
    have paired : lastSaved Op.channel ops pair = none := by
      refine Option.eq_none_iff_forall_ne_some.mpr fun record last => ?_
      obtain ⟨op, mem, wrote⟩ := exists_of_lastSaved last
      cases op with
      | saveChannel channel =>
        exact unsaved channel mem (congrArg channelKey (Prod.mk.inj (Option.some.inj wrote)).1)
      | deleteChannel => cases (Prod.mk.inj (Option.some.inj wrote)).2
      | _ => cases wrote
    rw [keyed, paired]
  · have logs : lastWrite (ops.filterMap Op.keyedChannel) (channelKey pair) =
        (lastWrite (ops.filterMap Op.channel) pair).map fun record => record := by
      refine lastWrite_filterMap fun op mem => ?_
      rw [Op.keyedChannel]
      rcases op.channel with _ | ⟨written, record⟩
      · exact Or.inr ⟨fun _ equal => (by cases equal), fun _ equal => (by cases equal)⟩
      · by_cases same : written = pair
        · exact Or.inl ⟨record, by rw [same], by rw [← same]; rfl⟩
        · refine Or.inr ⟨fun _ equal => ?_, fun _ equal => ?_⟩
          · have key := congrArg Prod.fst (Option.some.inj equal)
            exact shared ⟨written, key.symm, fun reverse => same reverse.symm⟩
          · exact same (congrArg Prod.fst (Option.some.inj equal))
    rw [lastSaved, lastSaved, logs, Option.map_id']

variable {inputs : List (Op State × Option GoError)}

/-- Clean channels are kept apart, -/
theorem channelsFaithful_stored
    (clean : ∀ channel, Op.saveChannel channel ∈ succeeded codecs inputs → Clean channel) :
    ChannelsFaithful (succeeded codecs inputs) (stored codecs inputs) where
  load worker1 worker2 := by
    rw [loadChannel_stored]
    cases last : lastSaved Op.keyedChannel (succeeded codecs inputs)
        (channelKey s(worker1, worker2)) with
    | none =>
      rw [← lastSaved_keyedChannel clean, last]
      rfl
    | some record =>
      obtain ⟨channel, mem, rfl, -⟩ := exists_saveChannel_of_lastSaved last
      have valid := clean channel mem
      have same : channel.record.readBack = channel.record :=
        ChannelRecord.readBack_eq_iff.mpr ⟨valid.valid1, valid.valid2⟩
      rw [← lastSaved_keyedChannel clean, last, Option.map_some, Option.map_some, same]
  separate pair other present same := by
    obtain ⟨data, lookup⟩ := mem_iff.mp present
    rw [(describes_keyedChannel codecs).lookup_stored] at lookup
    obtain ⟨record, last, -⟩ := Option.bind_eq_some_iff.mp lookup
    obtain ⟨channel, mem, -, key⟩ := exists_saveChannel_of_lastSaved last
    have unambiguous := (clean channel mem).unambiguous
    exact (unambiguous.eq key).symm.trans (unambiguous.eq (key.trans same))

/-- and a channel that is not clean shows in the base once it is saved. -/
theorem clean_of_channelsFaithful {channel : SecureChannel}
    (last : succeeded codecs inputs = ops ++ [.saveChannel channel])
    (faithful : ChannelsFaithful (succeeded codecs inputs) (stored codecs inputs)) :
    Clean channel := by
  have saved {ID : Type} [DecidableEq ID] (writes : Op State → Option (Write ID ChannelRecord))
      {id : ID} (wrote : writes (.saveChannel channel) = some (id, some channel.record)) :
      lastSaved writes (succeeded codecs inputs) id = some channel.record := by
    have only : [Op.saveChannel channel].filterMap writes = [(id, some channel.record)] := by
      simp [wrote]
    rw [last, lastSaved, filterMap_append, only, lastWrite_append_singleton, if_pos rfl]
    rfl
  have keyed := saved Op.keyedChannel rfl
  have paired := saved Op.channel rfl
  have same : channel.record.readBack = channel.record := by
    have load := faithful.load channel.worker1 channel.worker2
    rw [loadChannel_stored, keyed, paired] at load
    exact congrArg SecureChannel.record (Outcome.ok.inj load)
  have present : recordKey .channel (channelKey s(channel.worker1, channel.worker2)) ∈
      stored codecs inputs := by
    refine mem_iff.mpr ⟨channel.record.marshal, ?_⟩
    rw [(describes_keyedChannel codecs).lookup_stored, keyed]
    rfl
  obtain ⟨valid1, valid2⟩ := ChannelRecord.readBack_eq_iff.mp same
  refine ⟨valid1, valid2, fun other => ⟨fun ambiguous => ?_, fun ambiguous => ?_⟩⟩
  · exact ambiguous.ne (faithful.separate _ other present ambiguous.channelKey_eq)
  · exact ambiguous.ne (faithful.separate _ other present ambiguous.channelKey_eq.symm).symm

/-- **When channels are kept apart.**  Whatever else is called, the channels are as they should be
all along a run exactly when every channel that it saves is clean. -/
theorem channelsFaithful_iff (inputs : List (Op State × Option GoError)) :
    (∀ earlier, earlier <+: inputs →
      ChannelsFaithful (succeeded codecs earlier) (stored codecs earlier)) ↔
      ∀ channel, Op.saveChannel channel ∈ succeeded codecs inputs → Clean channel := by
  constructor
  · intro faithful channel mem
    obtain ⟨⟨⟨op, fault⟩, value⟩, returned, rfl⟩ := mem_map.mp mem
    obtain ⟨earlier, later, next, rfl, returns⟩ := exists_of_mem_returned returned
    have last : succeeded codecs (earlier ++ [(.saveChannel channel, fault)]) =
        succeeded codecs earlier ++ [.saveChannel channel] := by
      rw [succeeded_append]
      exact congrArg (succeeded codecs earlier ++ List.map _ ·)
        (returned_cons_of_ok returns [])
    exact clean_of_channelsFaithful codecs last (faithful _ ⟨later, by simp⟩)
  · rintro clean earlier ⟨later, rfl⟩
    refine channelsFaithful_stored codecs fun channel mem => clean channel ?_
    rw [succeeded_append]
    exact mem_append_left _ mem

end Channels

def channelABC : SecureChannel := .new (ascii "a") (ascii "b:c")

/-- The workers `a:b` and `c`, which have no channel, get that of `a` and `b:c`. -/
theorem loadChannel_otherPair :
    succeeded codecsP [(.saveChannel channelABC, none)] = [.saveChannel channelABC] ∧
      (StorageWrapper.loadChannel none (ascii "a:b") (ascii "c")
        (stored codecsP [(.saveChannel channelABC, none)])).1 = .ok channelABC ∧
      ¬ ChannelsFaithful (succeeded codecsP [(.saveChannel channelABC, none)])
        (stored codecsP [(.saveChannel channelABC, none)]) := by
  have last : lastSaved Op.keyedChannel (succeeded codecsP [(.saveChannel channelABC, none)])
      (channelKey s(ascii "a:b", ascii "c")) = some channelABC.record := by decide +kernel
  have unsaved : lastSaved Op.channel (succeeded codecsP [(.saveChannel channelABC, none)])
      s(ascii "a:b", ascii "c") = none := by decide +kernel
  have valid : channelABC.record.readBack = channelABC.record := by decide +kernel
  have load : (StorageWrapper.loadChannel none (ascii "a:b") (ascii "c")
      (stored codecsP [(.saveChannel channelABC, none)])).1 = .ok channelABC := by
    rw [loadChannel_stored, last, Option.map_some, valid]
    rfl
  refine ⟨rfl, load, fun faithful => ?_⟩
  have absent := faithful.load (ascii "a:b") (ascii "c")
  rw [load, unsaved] at absent
  cases absent

end Coordination

end Aristo
