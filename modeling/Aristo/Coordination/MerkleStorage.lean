import Aristo.Coordination.Storage

/-!
# The records of the coordinator in a Merkle database

`MerkleStorage` of `coordination/storage.go`.  The storage has a database and a view of it, and
reads from the view.  A `Put` or `Delete` makes a new view, but it makes it from the database and
not from the view that is there, and nothing is ever committed: so the view has the last write and
no other one (`view_reached`).

The workers and channels have a cache in front of the view, which still has what the view has lost.
-/

namespace Aristo

open GoBase Call List

namespace Coordination

/-- `MerkleStorage`.  A worker in the cache is given by the fields that are stored. -/
structure MerkleStorage where
  db : KeyValue Bytes Bytes
  view : KeyValue Bytes Bytes
  channels : GoMap Bytes SecureChannel
  workers : GoMap Bytes WorkerRecord

namespace MerkleStorage

def new (db : KeyValue Bytes Bytes) : MerkleStorage where
  db := db
  view := applyWrites db []
  channels := ∅
  workers := ∅

/-! ## Views -/

/-- `NewView`: a view of the database with a batch of changes. -/
def newView (fault : Option GoError) (changes : List (Write Bytes Bytes)) :
    Call MerkleStorage Unit :=
  match fault with
  | some error => Call.fail error
  | none => Call.modify fun s => { s with view := applyWrites s.db changes }

def put (fault : Option GoError) (key value : Bytes) : Call MerkleStorage Unit :=
  newView fault [(key, some value)]

def delete (fault : Option GoError) (key : Bytes) : Call MerkleStorage Unit :=
  newView fault [(key, none)]

def get (key : Bytes) : Call MerkleStorage Bytes := do
  let s ← Call.read
  match s.view key with
  | some value => return value
  | none => Call.fail errNotFound

/-! ## Records -/

/-- What the key of a record starts with; those of channels and workers have nothing there. -/
def start : Kind → Bytes
  | .channel => []
  | .worker => []
  | .region => ascii "region:"
  | .teePair => ascii "tee:pair:"
  | .metrics => ascii "tee:metrics:"
  | .state => ascii "coordinator:state"

def keyOf (kind : Kind) (id : Bytes) : Bytes :=
  start kind ++ id

section Save

variable {R : Type}

def save (codec : Codec R) (fault : Option GoError) (key : Bytes) (record : R) :
    Call MerkleStorage Unit := do
  let data ← Call.lift (codec.marshal record)
  put fault key data

def load (codec : Codec R) (key : Bytes) : Call MerkleStorage R := do
  let data ← get key
  Call.lift (codec.unmarshal data)

end Save

def saveChannel (fault : Option GoError) (channel : SecureChannel) : Call MerkleStorage Unit := do
  let key := makeChannelKey channel.worker1 channel.worker2
  Call.modify fun s => { s with channels := s.channels.insert key channel }
  save channelCodec fault (keyOf .channel key) channel.record

def loadChannel (worker1 worker2 : Bytes) : Call MerkleStorage SecureChannel := do
  let key := makeChannelKey worker1 worker2
  let s ← Call.read
  match s.channels.lookup key with
  | some channel => return channel
  | none => do
    let record ← load channelCodec (keyOf .channel key)
    let channel := SecureChannel.ofRecord record
    Call.modify fun s => { s with channels := s.channels.insert key channel }
    return channel

def deleteChannel (fault : Option GoError) (worker1 worker2 : Bytes) :
    Call MerkleStorage Unit := do
  let key := makeChannelKey worker1 worker2
  Call.modify fun s => { s with channels := s.channels.erase key }
  delete fault (keyOf .channel key)

section Codecs

variable {State : Type} (codecs : Codecs State)

def saveWorker (fault : Option GoError) (worker : WorkerRecord) : Call MerkleStorage Unit := do
  Call.modify fun s => { s with workers := s.workers.insert worker.id worker }
  let data ← Call.wrapping (ascii "failed to marshal worker")
    (Call.lift (codecs.worker.marshal worker))
  put fault (keyOf .worker worker.id) data

def loadWorker (id : Bytes) : Call MerkleStorage WorkerRecord := do
  let s ← Call.read
  match s.workers.lookup id with
  | some worker => return worker
  | none => do
    let worker ← load codecs.worker (keyOf .worker id)
    Call.modify fun s => { s with workers := s.workers.insert id worker }
    return worker

def deleteWorker (fault : Option GoError) (id : Bytes) : Call MerkleStorage Unit := do
  Call.modify fun s => { s with workers := s.workers.erase id }
  delete fault (keyOf .worker id)

def saveRegion (fault : Option GoError) (region : Region) : Call MerkleStorage Unit :=
  save codecs.region fault (keyOf .region region.id) region

def deleteRegion (fault : Option GoError) (id : Bytes) : Call MerkleStorage Unit :=
  delete fault (keyOf .region id)

def saveTEEPairInfo (fault : Option GoError) (info : TEEPairInfo) : Call MerkleStorage Unit :=
  save codecs.teePair fault (keyOf .teePair info.id) info

def saveTEEMetrics (fault : Option GoError) (pairID : Bytes) (metrics : TEEPairMetrics) :
    Call MerkleStorage Unit :=
  save codecs.metrics fault (keyOf .metrics pairID) metrics

def saveCoordinatorState (fault : Option GoError) (state : State) : Call MerkleStorage Unit :=
  save codecs.state fault (keyOf .state []) state

end Codecs

/-! ## Runs -/

inductive Access (State : Type) where
  | put (key value : Bytes)
  | delete (key : Bytes)
  | record (op : Op State)
  | loadChannel (worker1 worker2 : Bytes)
  | loadWorker (id : Bytes)

namespace Access

variable {State : Type} (codecs : Codecs State)

/-- A call for a record, with what goes wrong in the database. -/
def recordCall (fault : Option GoError) : Op State → Call MerkleStorage Unit
  | .saveChannel channel => saveChannel fault channel
  | .deleteChannel worker1 worker2 => deleteChannel fault worker1 worker2
  | .saveWorker worker => saveWorker codecs fault worker
  | .deleteWorker id => deleteWorker fault id
  | .saveRegion region => saveRegion codecs fault region
  | .deleteRegion id => deleteRegion fault id
  | .saveCoordinatorState state => saveCoordinatorState codecs fault state
  | .saveTEEPairInfo info => saveTEEPairInfo codecs fault info
  | .saveTEEMetrics pairID metrics => saveTEEMetrics codecs fault pairID metrics

def call : Access State × Option GoError → Call MerkleStorage Unit
  | (put key value, fault) => MerkleStorage.put fault key value
  | (delete key, fault) => MerkleStorage.delete fault key
  | (record op, fault) => recordCall codecs fault op
  | (loadChannel worker1 worker2, _) => do
    let _ ← MerkleStorage.loadChannel worker1 worker2
  | (loadWorker id, _) => do
    let _ ← MerkleStorage.loadWorker codecs id

/-- What a call is to write; a load writes nothing. -/
def contents : Access State → Option (Bytes × Except GoError (Option Bytes))
  | put key value => some (key, .ok (some value))
  | delete key => some (key, .ok none)
  | record op => some (keyOf op.kind op.id, op.contents codecs)
  | loadChannel _ _ => none
  | loadWorker _ => none

/-- What a call writes, unless the encoding or the database fails. -/
def write : Access State × Option GoError → Option (Write Bytes Bytes)
  | (_, some _) => none
  | (access, none) => (access.contents codecs).bind fun (key, contents) =>
    contents.toOption.map fun written => (key, written)

end Access

def written (s : MerkleStorage) : Option (Write Bytes Bytes) → KeyValue Bytes Bytes
  | some write => applyWrites s.db [write]
  | none => s.view

section Step

variable {R : Type}

/-- The call makes a view with one write, or leaves the view as it was and fails. -/
def Makes (key : Bytes) (contents : Except GoError (Option Bytes)) (fault : Option GoError)
    (call : Call MerkleStorage Unit) : Prop :=
  ∀ s, Call.Ends call s fun outcome next =>
    next.db = s.db ∧
      ((∃ value, fault = none ∧ contents = .ok value ∧ outcome = .ok () ∧
          next.view = applyWrites s.db [(key, value)]) ∨
        ((fault ≠ none ∨ ∃ error, contents = .error error) ∧ outcome.Failed ∧
          next.view = s.view))

/-- A new view has its one change. -/
theorem makes_newView (fault : Option GoError) (key : Bytes) (value : Option Bytes) :
    Makes key (.ok value) fault (newView fault [(key, value)]) := by
  intro s
  cases fault with
  | none => exact ⟨rfl, Or.inl ⟨value, rfl, rfl, rfl, rfl⟩⟩
  | some error => exact ⟨rfl, Or.inr ⟨Or.inl (Option.some_ne_none error), trivial, rfl⟩⟩

/-- What is put has been encoded before, -/
theorem makes_put {codec : Codec R} {record : R} {marshalled : Call MerkleStorage Bytes}
    (ok : ∀ data, codec.marshal record = .ok data → ∀ s, marshalled s = (.ok data, s))
    (err : ∀ error, codec.marshal record = .error error →
      ∃ error', ∀ s, marshalled s = (.err error', s))
    (fault : Option GoError) (key : Bytes) :
    Makes key (codec.encode (some record)) fault
      (marshalled >>= fun data => put fault key data) := by
  intro s
  cases h : codec.marshal record with
  | error error =>
    obtain ⟨error', fails⟩ := err error h
    refine ends_of_eq (bind_of_err (fails s))
      ⟨rfl, Or.inr ⟨Or.inr ⟨error, ?_⟩, trivial, rfl⟩⟩
    rw [Codec.encode, h]
    rfl
  | ok data =>
    have encoded : codec.encode (some record) = .ok (some data) := by
      rw [Codec.encode, h]
      rfl
    rw [encoded, Call.Ends, bind_of_ok (ok data h s)]
    exact makes_newView fault key (some data) s

/-- here without a text in front of the error. -/
theorem makes_save (codec : Codec R) (fault : Option GoError) (key : Bytes) (record : R) :
    Makes key (codec.encode (some record)) fault (save codec fault key record) := by
  refine makes_put (fun data h s => ?_) (fun error h => ⟨error, fun s => ?_⟩) fault key
  · rw [h, lift_ok]
  · rw [h, lift_error]

/-- The cache is changed first, whether the view is or not. -/
theorem Makes.cached {key : Bytes} {contents : Except GoError (Option Bytes)}
    {fault : Option GoError} {call : Call MerkleStorage Unit}
    (makes : Makes key contents fault call) {update : MerkleStorage → MerkleStorage}
    (db : ∀ s, (update s).db = s.db) (view : ∀ s, (update s).view = s.view) :
    Makes key contents fault (Call.modify update >>= fun _ => call) := by
  intro s
  have after := makes (update s)
  rw [Call.Ends, db, view] at after
  rw [Call.Ends, bind_of_ok (modify_apply update s)]
  exact after

end Step

section Runs

variable {State : Type} (codecs : Codecs State)

/-- **Every call for a record** makes a view with its write. -/
theorem makes_recordCall (fault : Option GoError) (op : Op State) :
    Makes (keyOf op.kind op.id) (op.contents codecs) fault
      (Access.recordCall codecs fault op) := by
  cases op with
  | saveChannel => exact (makes_save _ _ _ _).cached (fun _ => rfl) fun _ => rfl
  | deleteChannel | deleteWorker =>
    exact (makes_newView _ _ _).cached (fun _ => rfl) fun _ => rfl
  | saveWorker worker =>
    refine Makes.cached (makes_put (fun data h s => ?_) (fun error h => ?_) _ _)
      (fun _ => rfl) fun _ => rfl
    · rw [h, wrapping_of_ok (lift_ok data s)]
    · refine ⟨error.wrap (ascii "failed to marshal worker"), fun s => ?_⟩
      rw [h]
      rfl
  | deleteRegion => exact makes_newView _ _ _
  | _ => exact makes_save _ _ _ _

def views (s : MerkleStorage) : KeyValue Bytes Bytes × KeyValue Bytes Bytes := (s.db, s.view)

/-- A load writes nothing. -/
theorem keeps_load {R : Type} (codec : Codec R) (key : Bytes) :
    Call.Keeps views (load codec key) := by
  refine keeps_bind (keeps_bind keeps_read fun s => ?_) fun _ => keeps_lift _
  split
  · exact keeps_pure _
  · exact keeps_fail _

theorem keeps_loadChannel (worker1 worker2 : Bytes) :
    Call.Keeps views (loadChannel worker1 worker2) := by
  refine keeps_bind keeps_read fun s => ?_
  split
  · exact keeps_pure _
  · refine keeps_bind (keeps_load _ _) fun _ => ?_
    exact keeps_bind (keeps_modify fun _ => rfl) fun _ => keeps_pure _

theorem keeps_loadWorker (id : Bytes) : Call.Keeps views (loadWorker codecs id) := by
  refine keeps_bind keeps_read fun s => ?_
  split
  · exact keeps_pure _
  · refine keeps_bind (keeps_load _ _) fun _ => ?_
    exact keeps_bind (keeps_modify fun _ => rfl) fun _ => keeps_pure _

/-- **What a call does**: the database stays, and the view has the write of the call and no other
one; a call that is to write returns nil exactly when it writes. -/
structure Steps (input : Access State × Option GoError) (s : MerkleStorage)
    (outcome : Outcome Unit) (next : MerkleStorage) : Prop where
  db : next.db = s.db
  view : next.view = s.written (Access.write codecs input)
  returns : (input.1.contents codecs).isSome →
    (outcome.Succeeded ↔ (Access.write codecs input).isSome)

/-- So it does one step. -/
theorem Makes.steps {key : Bytes} {contents : Except GoError (Option Bytes)}
    {fault : Option GoError} {call : Call MerkleStorage Unit}
    (makes : Makes key contents fault call) {access : Access State}
    (h : access.contents codecs = some (key, contents))
    (s : MerkleStorage) : Call.Ends call s (Steps codecs (access, fault) s) := by
  refine (makes s).mono fun outcome next ends => ?_
  obtain ⟨db, ⟨value, rfl, rfl, rfl, view⟩ | ⟨failure, failed, view⟩⟩ := ends
  · have writes : Access.write codecs (access, none) = some (key, value) := by
      rw [Access.write, h]
      rfl
    exact ⟨db, by rw [writes]; exact view, fun _ => by rw [writes]; exact iff_of_true trivial rfl⟩
  · have writes : Access.write codecs (access, fault) = none := by
      cases fault with
      | some => rfl
      | none =>
        obtain ⟨error, rfl⟩ := failure.resolve_left (not_not.mpr rfl)
        rw [Access.write, h]
        rfl
    have unsuccessful : ¬ outcome.Succeeded := by
      cases outcome with
      | ok => exact absurd failed id
      | _ => exact id
    exact ⟨db, by rw [writes]; exact view,
      fun _ => by rw [writes]; exact iff_of_false unsuccessful Bool.false_ne_true⟩

/-- **Every call** does. -/
theorem call_steps (input : Access State × Option GoError) (s : MerkleStorage) :
    Call.Ends (Access.call codecs input) s (Steps codecs input s) := by
  have loads {α : Type} {load : Call MerkleStorage α} (keeps : Call.Keeps views load)
      {access : Access State} (reads : access.contents codecs = none) (fault : Option GoError) :
      Call.Ends (load >>= fun _ => pure ()) s (Steps codecs (access, fault) s) := by
    have same := keeps_bind keeps (fun _ => keeps_pure ()) s
    have writes : Access.write codecs (access, fault) = none := by
      cases fault with
      | none => rw [Access.write, reads]; rfl
      | some => rfl
    refine ⟨congrArg Prod.fst same, ?_, fun some => ?_⟩
    · rw [writes]
      exact congrArg Prod.snd same
    · rw [reads] at some
      cases some
  obtain ⟨access, fault⟩ := input
  cases access with
  | put | delete => exact (makes_newView _ _ _).steps codecs rfl s
  | record op => exact (makes_recordCall codecs fault op).steps codecs rfl s
  | loadChannel worker1 worker2 => exact loads (keeps_loadChannel worker1 worker2) rfl fault
  | loadWorker id => exact loads (keeps_loadWorker codecs id) rfl fault

/-- The storage after a run over an empty database. -/
def reached (inputs : List (Access State × Option GoError)) : MerkleStorage :=
  Call.after (Access.call codecs) (new fun _ => none) inputs

def history (inputs : List (Access State × Option GoError)) : List (Write Bytes Bytes) :=
  inputs.filterMap (Access.write codecs)

/-- **The view has the last write only.** -/
theorem view_reached (inputs : List (Access State × Option GoError)) :
    (reached codecs inputs).db = (fun _ => none) ∧
      (reached codecs inputs).view =
        applyWrites (fun _ => none) (history codecs inputs).getLast?.toList := by
  induction inputs using List.reverseRecOn with
  | nil => exact ⟨rfl, rfl⟩
  | append_singleton inputs input ih =>
    have last := call_steps codecs input (reached codecs inputs)
    rw [reached, after_append, history, filterMap_append]
    refine ⟨last.db.trans ih.1, last.view.trans ?_⟩
    cases writes : Access.write codecs input with
    | none =>
      rw [written, ih.2, history, filterMap_cons_none writes, filterMap_nil, append_nil]
    | some =>
      rw [written, ih.1, filterMap_cons_some writes, filterMap_nil, List.getLast?_concat]
      rfl

/-- `Get` reads the view. -/
theorem get_eq_found (key : Bytes) (s : MerkleStorage) : (get key s).1 = found (s.view key) := by
  simp only [get, bind_of_ok (read_apply s)]
  cases s.view key <;> rfl

/-- `Get` returns what was put last and not deleted since, in every state of the run. -/
def GetsLast (inputs : List (Access State × Option GoError)) : Prop :=
  ∀ earlier, earlier <+: inputs → ∀ key,
    (get key (reached codecs earlier)).1 = found (lastWrite (history codecs earlier) key).join

/-- Before a write, no other key has a value. -/
def Lone (log : List (Write Bytes Bytes)) : Prop :=
  ∀ earlier write later, log = earlier ++ write :: later →
    ∀ key, key ≠ write.1 → (lastWrite earlier key).join = none

/-- After a write `Get` finds all that was put when that was nothing else. -/
theorem get_after_write {inputs : List (Access State × Option GoError)}
    {log : List (Write Bytes Bytes)} {write : Write Bytes Bytes}
    (h : history codecs inputs = log ++ [write]) :
    (∀ key, (get key (reached codecs inputs)).1 =
        found (lastWrite (history codecs inputs) key).join) ↔
      ∀ key, key ≠ write.1 → (lastWrite log key).join = none := by
  have inj : Function.Injective (found : Option Bytes → Outcome Bytes) := by
    intro first second same
    cases first <;> cases second <;> cases same <;> rfl
  refine forall_congr' fun key => ?_
  rw [get_eq_found, (view_reached codecs inputs).2, inj.eq_iff, h, List.getLast?_concat,
    Option.toList_some, lastWrite_append_singleton, applyWrites_cons, applyWrites_nil]
  by_cases same : write.1 = key
  · subst same
    simp
  · have other : key ≠ write.1 := fun equal => same equal.symm
    rw [Function.update_of_ne other, if_neg same]
    exact ⟨fun equal _ => equal.symm, fun none => (none other).symm⟩

/-- **When `Get` returns what was put last**: exactly when no other key has a value before a
write. -/
theorem getsLast_iff (inputs : List (Access State × Option GoError)) :
    GetsLast codecs inputs ↔ Lone (history codecs inputs) := by
  constructor
  · intro law earlier write later split
    -- the inputs up to the one that wrote `write`
    rw [append_cons] at split
    obtain ⟨before, after, rfl, last, -⟩ := filterMap_eq_append_iff.mp split
    exact (get_after_write codecs last).mp (law before (prefix_append before after))
  · rintro lone earlier ⟨later, rfl⟩
    rcases eq_nil_or_concat' (history codecs earlier) with empty | ⟨log, write, last⟩
    · intro key
      rw [get_eq_found, (view_reached codecs earlier).2, empty]
      rfl
    · refine (get_after_write codecs last).mpr (lone log write (history codecs later) ?_)
      rw [history, filterMap_append]
      show history codecs earlier ++ _ = _
      rw [last]
      simp [history]

end Runs

def putTwo : List (Access Unit × Option GoError) :=
  [(.put (ascii "a") [1], none), (.put (ascii "b") [2], none)]

/-- The first of the two keys is gone. -/
theorem get_putTwo :
    history codecsP putTwo = [(ascii "a", some [1]), (ascii "b", some [2])] ∧
      (get (ascii "a") (reached codecsP putTwo)).1 = .err errNotFound ∧
      ¬ GetsLast codecsP putTwo := by
  have gone : (get (ascii "a") (reached codecsP putTwo)).1 = .err errNotFound := rfl
  refine ⟨rfl, gone, fun law => ?_⟩
  have kept := law putTwo prefix_rfl (ascii "a")
  rw [gone] at kept
  cases kept

end MerkleStorage

end Coordination

end Aristo
