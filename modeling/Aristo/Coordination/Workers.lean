import Aristo.Base.Chan
import Aristo.Coordination.Sessions
import Aristo.Coordination.Tasks

/-!
# The workers of the coordinator

`Worker` of `coordination/worker.go` and the calls of `coordination/coordinator.go` that register,
stop and use workers.  `RegisterWorker` does not use `NewWorker` and leaves the mailbox and the
channel that stops a worker nil.  So the workers of the coordinator are mute (`mute_reached`), and
stopping one panics before it is deleted.

The workers have pointers to their channels, two of them the same one; an ID stands for the pointer
to a worker.
-/

namespace Aristo

open GoBase Finmap Call List

namespace Coordination

open StorageWrapper

def errWorkerNotFound : GoError :=
  .new ⟨"coordination", "ErrWorkerNotFound"⟩ "worker not found"

def errNotEnoughWorkers : GoError :=
  .new ⟨"coordination", "ErrNotEnoughWorkers"⟩ "not enough workers available"

/-! ## Workers -/

inductive MessageType where
  | sync
  | data
  | attestation
  | verification
  | complete
  | unknown (value : UInt8)
deriving DecidableEq

/-- `Message`; `sender` and `recipient` are its `From` and `To`. -/
structure Message where
  type : MessageType
  sender : Bytes
  recipient : Bytes
  data : Bytes
deriving DecidableEq

/-- `Worker`, without its metrics. -/
structure Worker where
  id : Bytes
  enclaveID : Bytes
  status : WorkerStatus
  regionID : Bytes
  /-- Pointers to the channels, by the other worker. -/
  channels : GoMap Bytes ℕ
  lastActive : Time
  msgCh : Chan Message
  doneCh : Chan Unit

/-- What the pointers to channels point to. -/
abbrev Heap := List SecureChannel

namespace Worker

def new (id enclaveID : Bytes) (now : Time) : Worker where
  id := id
  enclaveID := enclaveID
  status := .idle
  regionID := []
  channels := ∅
  lastActive := now
  msgCh := .make 100
  doneCh := .make 0

/-- The literal of `RegisterWorker`. -/
def registered (id enclaveID : Bytes) (now : Time) : Worker where
  id := id
  enclaveID := enclaveID
  status := .idle
  regionID := []
  channels := ∅
  lastActive := now
  msgCh := .nil
  doneCh := .nil

def record (heap : Heap) (w : Worker) : WorkerRecord where
  id := w.id
  enclaveID := w.enclaveID
  status := w.status
  channels := w.channels.mapValues fun channel => (heap[channel]?).map SecureChannel.record

/-- The record of a worker that was just created. -/
def fresh (id enclaveID : Bytes) : WorkerRecord where
  id := id
  enclaveID := enclaveID
  status := .idle
  channels := ∅

/-- The record of `RegisterWorker` has no channels. -/
theorem record_registered (heap : Heap) (id enclaveID : Bytes) (now : Time) :
    (registered id enclaveID now).record heap = fresh id enclaveID := by
  have none : (∅ : GoMap Bytes ℕ).mapValues
      (fun channel => (heap[channel]?).map SecureChannel.record) = ∅ := by
    refine ext_lookup fun key => ?_
    rw [GoMap.lookup_mapValues, lookup_empty, lookup_empty, Option.map_none]
  rw [record, fresh]
  exact congrArg _ none

/-- `Start`, which always returns nil. -/
def start (now : Time) (w : Worker) : Except GoError Worker :=
  .ok { w with status := .active, lastActive := now }

def stop : Call Worker Unit := do
  Call.modify fun w => { w with status := .idle }
  let w ← Call.read
  match w.doneCh.close with
  | none => Call.crash
  | some doneCh => Call.modify fun w => { w with doneCh, regionID := [] }

/-- `SendMessage`.  When two cases of its `select` do not block, either is taken. -/
def sendMessage (second : Bool) (msg : Message) : Call Worker Unit := do
  let w ← Call.read
  if w.msgCh.CanSend ∧ ¬ (w.doneCh.CanReceive ∧ second) then
    match w.msgCh.send msg with
    | none => Call.crash
    | some msgCh => Call.modify fun w => { w with msgCh }
  else if w.doneCh.CanReceive then Call.fail (.plain (ascii "worker stopped"))
  else Call.fail (.plain (ascii "message channel full"))

def getChannel (random : Except Bytes Bytes) (otherWorker : Bytes) : Call (Worker × Heap) ℕ := do
  let (w, heap) ← Call.read
  match w.channels.lookup otherWorker with
  | some channel => return channel
  | none => do
    let channel ← Call.wrapping (ascii "failed to establish channel")
      (Call.lift ((SecureChannel.new w.id otherWorker).establishSecure random))
    Call.modify fun (w, heap) =>
      ({ w with channels := w.channels.insert otherWorker heap.length }, heap ++ [channel])
    return heap.length

/-- `Send` through a pointer. -/
def sendThrough (channel : ℕ) (data : Bytes) : Call (Worker × Heap) Unit := do
  let (_, heap) ← Call.read
  match heap[channel]? with
  | none => Call.crash
  | some target => do
    let target ← Call.lift (target.send data)
    Call.modify fun (w, heap) => (w, heap.set channel target)

def respond (random : Except Bytes Bytes) (msg : Message) : Call (Worker × Heap) Unit := do
  let channel ← Call.wrapping (ascii "failed to get channel") (getChannel random msg.sender)
  sendThrough channel []

def handleSyncMessage (random : Except Bytes Bytes) (msg : Message) : Call (Worker × Heap) Unit :=
  respond random msg

/-- `handleDataMessage`; `processData` returns nil. -/
def handleDataMessage (random : Except Bytes Bytes) (msg : Message) : Call (Worker × Heap) Unit :=
  respond random msg

/-- The error for a message to somebody else. -/
def errNotIntended : GoError := .plain (ascii "message not intended for this worker")

def handleMessage (now : Time) (random : Except Bytes Bytes) (msg : Message) :
    Call (Worker × Heap) Unit := do
  Call.modify fun (w, heap) => ({ w with lastActive := now }, heap)
  let (w, _) ← Call.read
  Call.lift (refuse (msg.recipient ≠ w.id) errNotIntended)
  match msg.type with
  | .sync => handleSyncMessage random msg
  | .data => handleDataMessage random msg
  | .complete => return
  | .attestation => return
  | .verification => return
  | .unknown value =>
    Call.fail (.plain (ascii "unknown message type: " ++ ascii (toString value.toNat)))

/-- The worker takes the message as one that is meant for it. -/
def Accepts (heap : Heap) (w : Worker) (msg : Message) : Prop :=
  ∀ now random, (handleMessage now random msg (w, heap)).1 ≠ .err errNotIntended

end Worker

/-! ## The coordinator -/

/-- `Coordinator`, as far as workers are concerned. -/
structure Registry where
  minWorkers : ℤ
  workers : GoMap Bytes Worker
  heap : Heap
  store : BaseStorage
  done : Chan Unit

namespace Registry

variable {State : Type} (codecs : Codecs State)

def new (minWorkers : ℤ) (store : BaseStorage) : Registry where
  minWorkers := minWorkers
  workers := ∅
  heap := []
  store := store
  done := .make 0

def onStore {α : Type} (call : Call BaseStorage α) : Call Registry α :=
  Call.focus Registry.store (fun r store => { r with store }) call

theorem onStore_of_eq {α : Type} {call : Call BaseStorage α} {r : Registry} {outcome : Outcome α}
    {store : BaseStorage} (h : call r.store = (outcome, store)) :
    onStore call r = (outcome, { r with store }) := by
  rw [onStore, Call.focus, h]

def onWorker {α : Type} (id : Bytes) (call : Call (Worker × Heap) α) : Call Registry α :=
  fun r =>
    match r.workers.lookup id with
    | none => (.panicked, r)
    | some w =>
      match call (w, r.heap) with
      | (outcome, w, heap) => (outcome, { r with workers := r.workers.insert id w, heap })

def onlyWorker {α : Type} (call : Call Worker α) : Call (Worker × Heap) α :=
  Call.focus Prod.fst (fun state w => (w, state.2)) call

def registerWorker (fault deleteFault : Option GoError) (now : Time) (id enclaveID : Bytes) :
    Call Registry Unit := do
  let r ← Call.read
  Call.lift (refuse (id ∈ r.workers)
    (.plain (ascii "worker " ++ id ++ ascii " already registered")))
  let worker := Worker.registered id enclaveID now
  Call.wrapping (ascii "failed to save worker")
    (onStore (saveWorker codecs fault (worker.record r.heap)))
  match worker.start now with
  | .error error => do
    let _ ← Call.attempt (onStore (deleteWorker deleteFault id))
    Call.fail (error.wrap (ascii "failed to start worker"))
  | .ok worker => Call.modify fun r => { r with workers := r.workers.insert id worker }

def unregisterWorker (fault : Option GoError) (id : Bytes) : Call Registry Unit := do
  let r ← Call.read
  match r.workers.lookup id with
  | none => Call.fail errWorkerNotFound
  | some _ => do
    Call.wrapping (ascii "failed to stop worker") (onWorker id (onlyWorker Worker.stop))
    Call.wrapping (ascii "failed to delete worker") (onStore (deleteWorker fault id))
    Call.modify fun r => { r with workers := r.workers.erase id }

/-- `Stop`, which goes through the workers in any order. -/
def stop (order : List Bytes) : Call Registry Unit := do
  let r ← Call.read
  match r.done.close with
  | none => Call.crash
  | some done => do
    Call.modify fun r => { r with done }
    forM order fun id => do
      let _ ← Call.attempt (onWorker id (onlyWorker Worker.stop))

def named (r : Registry) (task : Task) : List Bytes :=
  task.workerIDs.filter fun id => id ∈ r.workers

/-- All pairs of items at different places, in the order of the two loops. -/
def pairs {α : Type} : List α → List (α × α)
  | [] => []
  | item :: items => items.map (fun other => (item, other)) ++ pairs items

def connect (outside : Outside) (pair : Bytes × Bytes) : Call Registry Unit := do
  let channel ← Call.wrapping (ascii "failed to establish channel")
    (onStore (getSecureChannel outside pair.1 pair.2))
  let r ← Call.read
  Call.modify fun r => { r with heap := r.heap ++ [channel] }
  onWorker pair.1 (Call.modify fun (w, heap) =>
    ({ w with channels := w.channels.insert pair.2 r.heap.length }, heap))
  onWorker pair.2 (Call.modify fun (w, heap) =>
    ({ w with channels := w.channels.insert pair.1 r.heap.length }, heap))

def taskMessage (task : Task) : Message where
  type := .data
  sender := []
  recipient := []
  data := task.data

def distribute (task : Task) (second : Bool) (id : Bytes) : Call Registry Unit :=
  Call.wrapping (ascii "failed to send task to worker " ++ id)
    (onWorker id (onlyWorker (Worker.sendMessage second (taskMessage task))))

/-- `handleTask`; `outside` and `second` follow the order of the loops, `viewFault` is of `NewView`.
-/
def handleTask (viewFault : Option GoError) (outside : ℕ → Outside) (second : ℕ → Bool)
    (task : Task) : Call Registry Unit := do
  let r ← Call.read
  let workers := r.named task
  Call.lift (refuse ((workers.length : ℤ) < r.minWorkers) errNotEnoughWorkers)
  Call.lift (match viewFault with
    | some error => .error (error.wrap (ascii "failed to create view"))
    | none => .ok ())
  forM (pairs workers).zipIdx fun item => connect (outside item.2) item.1
  forM workers.zipIdx fun item => distribute task (second item.2) item.1

/-- `SendMessage` of the coordinator.  The channel that it gets is its own, with an empty
buffer. -/
def sendMessage (outside : Outside) (msg : Message) : Call Registry Unit := do
  let r ← Call.read
  Call.lift (refuse (msg.sender ∉ r.workers)
    (.plain (ascii "sender worker " ++ msg.sender ++ ascii " not found")))
  Call.lift (refuse (msg.recipient ∉ r.workers)
    (.plain (ascii "recipient worker " ++ msg.recipient ++ ascii " not found")))
  let channel ← Call.wrapping (ascii "failed to get secure channel")
    (onStore (getSecureChannel outside msg.sender msg.recipient))
  let _ ← Call.wrapping (ascii "failed to send message") (Call.lift (channel.send msg.data))
  onWorker msg.sender (Call.modify fun (w, heap) => ({ w with status := .active }, heap))
  onWorker msg.recipient (Call.modify fun (w, heap) => ({ w with status := .active }, heap))

/-- A turn of the loop in `processMessages`, when there is a message; an error is printed. -/
def processMessages (now : Time) (random : Except Bytes Bytes) : Call (Worker × Heap) Unit := do
  let (w, _) ← Call.read
  match w.msgCh.receive with
  | (none, _) => return
  | (some msg, msgCh) => do
    Call.modify fun (w, heap) => ({ w with msgCh }, heap)
    let _ ← Call.attempt (Worker.handleMessage now random msg)

/-! ## Runs -/

/-- A call of the coordinator, or a turn of the goroutine of a worker. -/
inductive Request where
  | register (id enclaveID : Bytes) (now : Time) (fault deleteFault : Option GoError)
  | unregister (id : Bytes) (fault : Option GoError)
  | handleTask (task : Task) (viewFault : Option GoError) (outside : ℕ → Outside)
      (second : ℕ → Bool)
  | sendMessage (msg : Message) (outside : Outside)
  | process (id : Bytes) (now : Time) (random : Except Bytes Bytes)

def Request.call : Request → Call Registry Unit
  | register id enclaveID now fault deleteFault =>
    registerWorker codecs fault deleteFault now id enclaveID
  | unregister id fault => unregisterWorker fault id
  | handleTask task viewFault outside second => Registry.handleTask viewFault outside second task
  | sendMessage msg outside => Registry.sendMessage outside msg
  | process id now random => do
    let r ← Call.read
    if id ∈ r.workers then onWorker id (processMessages now random)

/-! ### Mute workers -/

end Registry

/-- A worker without a mailbox that cannot be stopped. -/
structure Worker.Mute (w : Worker) : Prop where
  msgCh : w.msgCh = .nil
  doneCh : w.doneCh = .nil

namespace Registry

variable {State : Type} (codecs : Codecs State)

/-- All workers are mute, some of them are there, and the coordinator was not stopped. -/
structure Mute (kept : Set Bytes) (r : Registry) : Prop where
  mute : ∀ id w, r.workers.lookup id = some w → w.Mute
  mem : ∀ id ∈ kept, id ∈ r.workers
  done : r.done = .make 0

section Maintains

variable {kept : Set Bytes}

/-- Putting in a mute worker keeps the coordinator as it is. -/
theorem Mute.insert {r r' : Registry} (mute : Mute kept r) {id : Bytes} {w : Worker}
    (hw : w.Mute) (workers : r'.workers = r.workers.insert id w) (done : r'.done = r.done) :
    Mute kept r' where
  mute other w' lookup := by
    rw [workers] at lookup
    rcases GoMap.lookup_insert_cases lookup with ⟨-, rfl⟩ | ⟨-, lookup⟩
    · exact hw
    · exact mute.mute other w' lookup
  mem other present := by
    rw [workers]
    exact mem_insert.mpr (Or.inr (mute.mem other present))
  done := done.trans mute.done

theorem maintains_onStore {α : Type} (call : Call BaseStorage α) :
    Call.Maintains (Mute kept) (onStore call) :=
  fun _ mute => ⟨mute.mute, mute.mem, mute.done⟩

/-- So does a call that leaves a worker mute. -/
theorem maintains_onWorker {α : Type} {call : Call (Worker × Heap) α}
    (each : Call.Maintains (fun state => state.1.Mute) call) (id : Bytes) :
    Call.Maintains (Mute kept) (onWorker id call) := by
  intro r mute
  unfold onWorker
  cases lookup : r.workers.lookup id with
  | none => exact mute
  | some w => exact mute.insert (each (w, r.heap) (mute.mute id w lookup)) rfl rfl

/-- A mute worker panics when it is stopped, -/
theorem stop_of_mute {w : Worker} (mute : w.Mute) :
    Worker.stop w = (.panicked, { w with status := .idle }) := by
  simp only [Worker.stop, bind_of_ok (modify_apply _ w), bind_of_ok
    (read_apply _), mute.doneCh, Chan.close_nil]
  rfl

/-- and its mailbox is full. -/
theorem sendMessage_of_mute {w : Worker} (mute : w.Mute) (second : Bool) (msg : Message) :
    Worker.sendMessage second msg w = (.err (.plain (ascii "message channel full")), w) := by
  simp [Worker.sendMessage, bind_of_ok (read_apply w), mute.msgCh, mute.doneCh]

/-- A worker stays mute while its channels of Go are not touched. -/
theorem maintains_modifyWorker {update : Worker × Heap → Worker × Heap}
    (msgCh : ∀ state, (update state).1.msgCh = state.1.msgCh)
    (doneCh : ∀ state, (update state).1.doneCh = state.1.doneCh) :
    Call.Maintains (fun state => state.1.Mute) (Call.modify update) :=
  fun state mute => ⟨(msgCh state).trans mute.msgCh, (doneCh state).trans mute.doneCh⟩

/-- Connecting two workers leaves them mute. -/
theorem maintains_connect (outside : Outside) (pair : Bytes × Bytes) :
    Call.Maintains (Mute kept) (connect outside pair) := by
  refine maintains_bind (maintains_wrapping (maintains_onStore _)) fun channel => ?_
  refine maintains_bind (fun _ mute => mute) fun r => ?_
  refine maintains_bind (fun _ mute => ⟨mute.mute, mute.mem, mute.done⟩) fun _ => ?_
  refine maintains_bind (maintains_onWorker ?_ _) fun _ => maintains_onWorker ?_ _
  all_goals exact maintains_modifyWorker (fun _ => rfl) fun _ => rfl

end Maintains

variable {kept : Set Bytes} {r : Registry} {id : Bytes}

/-- **`UnregisterWorker` panics** for every worker that is there, and leaves it there. -/
theorem unregisterWorker_of_mem (mute : Mute kept r) (present : id ∈ r.workers)
    (fault : Option GoError) :
    ∃ next, unregisterWorker fault id r = (.panicked, next) ∧ Mute kept next := by
  obtain ⟨w, lookup⟩ := mem_iff.mp present
  have hw := mute.mute id w lookup
  have idle : Worker.Mute { w with status := .idle } := ⟨hw.msgCh, hw.doneCh⟩
  refine ⟨{ r with workers := r.workers.insert id { w with status := .idle } }, ?_,
    mute.insert idle rfl rfl⟩
  simp only [unregisterWorker, bind_of_ok (read_apply r), lookup]
  refine bind_of_panicked ?_
  simp only [Call.wrapping, onWorker, lookup, onlyWorker, Call.focus, stop_of_mute hw]

/-- For a worker that is not there it fails. -/
theorem unregisterWorker_of_notMem (absent : id ∉ r.workers) (fault : Option GoError) :
    unregisterWorker fault id r = (.err errWorkerNotFound, r) := by
  have lookup : r.workers.lookup id = none := lookup_eq_none.mpr absent
  simp only [unregisterWorker, bind_of_ok (read_apply r), lookup]
  rfl

/-- **`Stop` panics** as long as there is a worker. -/
theorem stop_of_mem (mute : Mute kept r) (present : id ∈ r.workers) {order : List Bytes}
    (visits : r.workers.Visits order) :
    (stop order r).1 = .panicked := by
  simp only [stop, bind_of_ok (read_apply r), mute.done, Chan.make, Chan.close]
  rw [bind_of_ok (modify_apply _ r)]
  cases order with
  | nil => exact absurd ((visits.mem_iff id).mpr present) not_mem_nil
  | cons first =>
    obtain ⟨w, lookup⟩ := mem_iff.mp ((visits.mem_iff first).mp mem_cons_self)
    have panics : (Call.attempt (onWorker first (onlyWorker Worker.stop))
        { r with done := .made 0 [] true }).1 = .panicked := by
      simp only [Call.attempt, onWorker, lookup, onlyWorker, Call.focus,
        stop_of_mute (mute.mute first w lookup)]
    rw [forM_cons, bind_of_panicked (bind_of_panicked (Prod.ext panics rfl))]

def Refuses (fault : Option GoError) (id enclaveID : Bytes) : Prop :=
  ∃ error, fault = some error ∨ codecs.worker.marshal (Worker.fresh id enclaveID) = .error error

/-- `RegisterWorker` fails and changes nothing, or puts a mute worker there. -/
theorem registerWorker_ends (fault deleteFault : Option GoError) (now : Time)
    (id enclaveID : Bytes) (r : Registry) :
    Call.Ends (registerWorker codecs fault deleteFault now id enclaveID) r fun outcome next =>
      (Refuses codecs fault id enclaveID ∨ id ∈ r.workers) ∧ outcome.Failed ∧ next = r ∨
      ¬ Refuses codecs fault id enclaveID ∧ outcome = .ok () ∧ next.done = r.done ∧
        ∃ w : Worker, w.Mute ∧ next.workers = r.workers.insert id w := by
  by_cases present : id ∈ r.workers
  · have fails : registerWorker codecs fault deleteFault now id enclaveID r =
        (.err (.plain (ascii "worker " ++ id ++ ascii " already registered")), r) :=
      (bind_of_ok (read_apply r)).trans (refuse_bind_of present)
    exact ends_of_eq fails (Or.inl ⟨Or.inr present, trivial, rfl⟩)
  · have checked : registerWorker codecs fault deleteFault now id enclaveID r = _ :=
      (bind_of_ok (read_apply r)).trans (refuse_bind_of_not present)
    rw [Call.Ends, checked, Worker.record_registered]
    rcases save_cases codecs.worker "worker" fault (recordKey .worker id)
      (Worker.fresh id enclaveID) r.store with
      ⟨data, works, marshalled, saved⟩ | ⟨cause, refused, error, failed⟩
    · have saves : saveWorker codecs fault (Worker.fresh id enclaveID) r.store = _ := saved
      rw [bind_of_ok (wrapping_of_ok (onStore_of_eq saves))]
      refine Or.inr ⟨?_, rfl, rfl, _, ⟨rfl, rfl⟩, rfl⟩
      rintro ⟨error, faulty | failed⟩
      · cases works.symm.trans faulty
      · cases marshalled.symm.trans failed
    · have fails : saveWorker codecs fault (Worker.fresh id enclaveID) r.store = _ := failed
      rw [bind_of_err (wrapping_of_err (onStore_of_eq fails))]
      exact Or.inl ⟨Or.inl ⟨cause, refused⟩, trivial, rfl⟩

/-- **No request gives a worker a voice**, or takes a worker away. -/
theorem maintains_call (request : Request) : Call.Maintains (Mute kept) (request.call codecs) := by
  cases request with
  | register id enclaveID now fault deleteFault =>
    intro r mute
    rcases registerWorker_ends codecs fault deleteFault now id enclaveID r with
      ⟨-, -, same⟩ | ⟨-, -, done, w, hw, workers⟩
    · exact (congrArg (Mute kept) same).mpr mute
    · exact mute.insert hw workers done
  | unregister id fault =>
    intro r mute
    by_cases present : id ∈ r.workers
    · obtain ⟨next, panics, mute'⟩ := unregisterWorker_of_mem mute present fault
      rwa [Request.call, panics]
    · rwa [Request.call, unregisterWorker_of_notMem present]
  | handleTask task viewFault outside second =>
    refine maintains_bind (fun _ mute => mute) fun r => ?_
    refine maintains_bind (maintains_lift _) fun _ => ?_
    refine maintains_bind (maintains_lift _) fun _ => ?_
    refine maintains_bind (maintains_forM fun item => maintains_connect (outside item.2) item.1)
      fun _ => maintains_forM fun item => ?_
    refine maintains_wrapping (maintains_onWorker (fun state mute => ?_) item.1)
    rw [onlyWorker, Call.focus, sendMessage_of_mute mute]
    exact mute
  | sendMessage msg outside =>
    refine maintains_bind (fun _ mute => mute) fun r => ?_
    refine maintains_bind (maintains_lift _) fun _ => ?_
    refine maintains_bind (maintains_lift _) fun _ => ?_
    refine maintains_bind (maintains_wrapping (maintains_onStore _)) fun channel => ?_
    refine maintains_bind (maintains_wrapping (maintains_lift _)) fun _ => ?_
    refine maintains_bind (maintains_onWorker ?_ _) fun _ => maintains_onWorker ?_ _
    all_goals exact maintains_modifyWorker (fun _ => rfl) fun _ => rfl
  | process id now random =>
    refine maintains_bind (fun _ mute => mute) fun r => ?_
    split
    · refine maintains_onWorker ?_ id
      rintro ⟨w, heap⟩ mute
      have quiet : w.msgCh = .nil := mute.msgCh
      simp only [processMessages, bind_of_ok (read_apply (w, heap)), quiet, Chan.receive]
      exact mute
    · exact fun _ mute => mute

/-- The state after a run of requests to a new coordinator. -/
def reached (minWorkers : ℤ) (store : BaseStorage) (requests : List Request) : Registry :=
  Call.after (Request.call codecs) (new minWorkers store) requests

/-- A run keeps the workers mute. -/
theorem mute_after (mute : Mute kept r) (requests : List Request) :
    Mute kept (Call.after (Request.call codecs) r requests) := by
  exact run_preserves (fun state request => maintains_call codecs request state) mute requests

/-- **The workers are mute** in every state that is reached. -/
theorem mute_reached (minWorkers : ℤ) (store : BaseStorage) (requests : List Request) :
    Mute ∅ (reached codecs minWorkers store requests) := by
  refine mute_after codecs ⟨fun id w lookup => ?_, fun _ mem => mem.elim, rfl⟩ requests
  rw [show (new minWorkers store).workers = ∅ from rfl, lookup_empty] at lookup
  cases lookup

/-! ### Panics -/

/-- The request does not register a worker. -/
def Request.Refused : Request → Prop
  | register id enclaveID _ fault _ => Refuses codecs fault id enclaveID
  | _ => True

/-- No request of the run panics, nor does `Stop` at its end, nor another `UnregisterWorker` after
one that failed. -/
structure NeverPanics (minWorkers : ℤ) (store : BaseStorage) (requests : List Request) :
    Prop where
  calls : ∀ earlier request later, requests = earlier ++ request :: later →
    (request.call codecs (reached codecs minWorkers store earlier)).1 ≠ .panicked
  stops : ∀ order, (reached codecs minWorkers store requests).workers.Visits order →
    (stop order (reached codecs minWorkers store requests)).1 ≠ .panicked
  retries : ∀ earlier id fault later, requests = earlier ++ .unregister id fault :: later →
    (unregisterWorker fault id (reached codecs minWorkers store earlier)).1.Failed →
    ∀ fault', (unregisterWorker fault' id
      (unregisterWorker fault id (reached codecs minWorkers store earlier)).2).1 ≠ .panicked

/-- A worker that was registered stays. -/
theorem mem_reached_of_register {minWorkers : ℤ} {store : BaseStorage} {requests : List Request}
    {enclaveID : Bytes} {now : Time} {fault deleteFault : Option GoError}
    (mem : .register id enclaveID now fault deleteFault ∈ requests)
    (saved : ¬ Refuses codecs fault id enclaveID) :
    id ∈ (reached codecs minWorkers store requests).workers := by
  obtain ⟨earlier, later, rfl⟩ := append_of_mem mem
  have before := mute_reached codecs minWorkers store earlier
  have registered : id ∈ (registerWorker codecs fault deleteFault now id enclaveID
      (reached codecs minWorkers store earlier)).2.workers := by
    rcases registerWorker_ends codecs fault deleteFault now id enclaveID
        (reached codecs minWorkers store earlier) with
      ⟨refused | present, -, same⟩ | ⟨-, -, -, w, -, workers⟩
    · exact absurd refused saved
    · rwa [same]
    · rw [workers]
      exact mem_insert.mpr (Or.inl rfl)
  have after := maintains_call codecs (.register id enclaveID now fault deleteFault) _ before
  have kept : Mute {id} (registerWorker codecs fault deleteFault now id enclaveID
      (reached codecs minWorkers store earlier)).2 :=
    ⟨after.mute, fun _ same => same ▸ registered, after.done⟩
  rw [reached, after_append]
  exact (mute_after codecs kept later).mem id rfl

/-- A task without workers is over once they are counted and the view is made. -/
theorem handleTask_of_nobody {task : Task} (nobody : r.named task = []) (viewFault : Option GoError)
    (outside : ℕ → Outside) (second : ℕ → Bool) :
    handleTask viewFault outside second task r =
      (if 0 < r.minWorkers then .err errNotEnoughWorkers
        else match viewFault with
          | some error => .err (error.wrap (ascii "failed to create view"))
          | none => .ok (), r) := by
  unfold handleTask
  rw [bind_of_ok (read_apply r), nobody]
  by_cases few : 0 < r.minWorkers
  · rw [if_pos few]
    exact refuse_bind_of few
  · rw [if_neg few]
    refine (refuse_bind_of_not few).trans ?_
    cases viewFault <;> rfl

/-- Without workers no request panics, unless it registers one. -/
theorem call_of_refused {request : Request} (refused : request.Refused codecs)
    (empty : r.workers = ∅) :
    Call.Ends (request.call codecs) r fun outcome next =>
      outcome ≠ .panicked ∧ next.workers = ∅ := by
  have absent (id : Bytes) : id ∉ r.workers := by
    rw [empty]
    exact notMem_empty
  cases request with
  | register id enclaveID now fault deleteFault =>
    refine (registerWorker_ends codecs fault deleteFault now id enclaveID r).mono ?_
    rintro outcome next (⟨-, failed, rfl⟩ | ⟨saved, -, -⟩)
    · refine ⟨?_, empty⟩
      rintro rfl
      exact failed
    · exact absurd refused saved
  | unregister id fault =>
    exact ends_of_eq (unregisterWorker_of_notMem (absent id) fault) ⟨nofun, empty⟩
  | handleTask task viewFault outside second =>
    have nobody : r.named task = [] := filter_eq_nil_iff.mpr fun id _ => by simp [absent id]
    refine ends_of_eq (handleTask_of_nobody nobody viewFault outside second) ⟨?_, empty⟩
    split
    · rintro ⟨⟩
    · cases viewFault <;> rintro ⟨⟩
  | sendMessage msg outside =>
    have fails : sendMessage outside msg r =
        (.err (.plain (ascii "sender worker " ++ msg.sender ++ ascii " not found")), r) :=
      (bind_of_ok (read_apply r)).trans (refuse_bind_of (absent msg.sender))
    exact ends_of_eq fails ⟨nofun, empty⟩
  | process id now random =>
    have idle : (Request.process id now random).call codecs r = (.ok (), r) := by
      rw [Request.call, bind_of_ok (read_apply r), if_neg (absent id)]
      rfl
    exact ends_of_eq idle ⟨nofun, empty⟩

/-- Without workers `Stop` returns nil. -/
theorem stop_of_empty (mute : Mute kept r) (empty : r.workers = ∅) {order : List Bytes}
    (visits : r.workers.Visits order) :
    (stop order r).1 = .ok () := by
  have none : order = [] := by
    refine eq_nil_iff_forall_not_mem.mpr fun id mem => ?_
    have present := (visits.mem_iff id).mp mem
    rw [empty] at present
    exact notMem_empty present
  simp only [stop, bind_of_ok (read_apply r), none, mute.done]
  rfl

/-- **When nothing panics**: exactly when no worker is registered. -/
theorem neverPanics_iff (minWorkers : ℤ) (store : BaseStorage) (requests : List Request) :
    NeverPanics codecs minWorkers store requests ↔
      ∀ request ∈ requests, request.Refused codecs := by
  constructor
  · intro law request mem
    cases request with
    | register =>
      by_contra saved
      obtain ⟨order, visits⟩ :=
        GoMap.exists_visits (reached codecs minWorkers store requests).workers
      exact law.stops order visits (stop_of_mem (mute_reached codecs minWorkers store requests)
        (mem_reached_of_register codecs mem saved) visits)
    | _ => trivial
  · intro refused
    have empty (earlier : List Request) (begins : earlier <+: requests) :
        (reached codecs minWorkers store earlier).workers = ∅ := by
      have preserved : ∀ (r : Registry) (request : Request), request.Refused codecs →
          r.workers = ∅ → (request.call codecs r).2.workers = ∅ :=
        fun r request refused empty => (call_of_refused codecs refused empty).2
      exact run_invariant preserved rfl fun request mem => refused request (begins.subset mem)
    refine ⟨?_, ?_, ?_⟩
    · rintro earlier request later rfl
      exact (call_of_refused codecs (refused request (by simp)) (empty earlier ⟨_, rfl⟩)).1
    · intro order visits panics
      rw [stop_of_empty (mute_reached codecs minWorkers store requests)
        (empty requests prefix_rfl) visits] at panics
      cases panics
    · rintro earlier id fault later rfl failed fault'
      have absent : id ∉ (reached codecs minWorkers store earlier).workers := by
        rw [empty earlier ⟨_, rfl⟩]
        exact notMem_empty
      rw [unregisterWorker_of_notMem absent, unregisterWorker_of_notMem absent]
      rintro ⟨⟩

end Registry

def jsonA : Bytes :=
  ascii "\x7b\"id\":\"a\",\"enclaveID\":\"AQ==\",\"status\":0,\"channels\":\x7b\x7d\x7d"

/-- `json.Marshal` and `json.Unmarshal` at the worker; nothing else is encoded. -/
def codecsA : Codecs Unit where
  worker := .only (Worker.fresh (ascii "a") [1]) jsonA
  region := .nothing
  teePair := .nothing
  metrics := .nothing
  state := .nothing

def jsonB : Bytes :=
  ascii "\x7b\"id\":\"b\",\"enclaveID\":\"Ag==\",\"status\":0,\"channels\":\x7b\x7d\x7d"

/-- The same for two workers. -/
def codecsAB : Codecs Unit :=
  { codecsA with
    worker :=
      { marshal := fun worker => if worker = Worker.fresh (ascii "b") [2] then .ok jsonB
          else codecsA.worker.marshal worker
        unmarshal := fun data => if data = jsonB then .ok (Worker.fresh (ascii "b") [2])
          else codecsA.worker.unmarshal data } }

namespace Registry

def registerA : Request := .register (ascii "a") [1] Time.zero none none

/-- The worker `a` is registered, and neither it nor the coordinator can be stopped. -/
theorem panics_registerA :
    (registerA.call codecsA (new 1 ∅)).1 = .ok () ∧
      (unregisterWorker none (ascii "a") (reached codecsA 1 ∅ [registerA])).1 = .panicked ∧
      (∀ order, (reached codecsA 1 ∅ [registerA]).workers.Visits order →
        (stop order (reached codecsA 1 ∅ [registerA])).1 = .panicked) ∧
      ¬ NeverPanics codecsA 1 ∅ [registerA, .unregister (ascii "a") none] := by
  have mute := mute_reached codecsA 1 ∅ [registerA]
  have saved : ¬ Refuses codecsA none (ascii "a") [1] := by
    rintro ⟨error, faulty | failed⟩
    · cases faulty
    · cases (Codec.marshal_only _ jsonA).symm.trans failed
  have present : ascii "a" ∈ (reached codecsA 1 ∅ [registerA]).workers :=
    mem_reached_of_register codecsA mem_cons_self saved
  obtain ⟨next, panics, -⟩ := unregisterWorker_of_mem mute present none
  refine ⟨rfl, congrArg Prod.fst panics, fun order => stop_of_mem mute present, fun law => ?_⟩
  exact law.calls [registerA] _ [] rfl (congrArg Prod.fst panics)

variable {State : Type} (codecs : Codecs State)

/-! ### Delivery -/

/-- What a delivery needs: enough workers, with room in their mailboxes, and a channel for every two
of them. -/
structure Deliverable (outside : ℕ → Outside) (task : Task) (r : Registry) : Prop where
  enough : r.minWorkers ≤ (r.named task).length
  room : ∀ id ∈ r.named task, ∀ w, r.workers.lookup id = some w → w.msgCh.buffer.length < 100
  channels : (forM (pairs (r.named task)).zipIdx
    (fun item => connect (outside item.2) item.1) r).1 = .ok ()

/-- The task is handled, and every worker of the task has a message with its data that it
accepts. -/
structure Delivers (viewFault : Option GoError) (outside : ℕ → Outside) (second : ℕ → Bool)
    (task : Task) (r : Registry) : Prop where
  returns : (handleTask viewFault outside second task r).1 = .ok ()
  delivered : ∀ id ∈ r.named task, ∃ w msg,
    (handleTask viewFault outside second task r).2.workers.lookup id = some w ∧
      msg ∈ w.msgCh.buffer ∧ msg.data = task.data ∧
      w.Accepts (handleTask viewFault outside second task r).2.heap msg

/-- A task is not sent to a mute worker, -/
theorem distribute_ne_ok {kept : Set Bytes} {r next : Registry} (mute : Mute kept r) (task : Task)
    (second : Bool) (id : Bytes) : distribute task second id r ≠ (.ok (), next) := by
  intro sends
  have sends := wrapping_eq_ok.mp sends
  unfold onWorker at sends
  cases lookup : r.workers.lookup id with
  | none =>
    rw [lookup] at sends
    cases sends
  | some w =>
    rw [lookup] at sends
    simp only [onlyWorker, Call.focus, sendMessage_of_mute (mute.mute id w lookup)] at sends
    cases sends

/-- so that one that is handled has no workers. -/
theorem named_of_handleTask {kept : Set Bytes} {r next : Registry} (mute : Mute kept r)
    {viewFault : Option GoError} {outside : ℕ → Outside} {second : ℕ → Bool} {task : Task}
    (returns : handleTask viewFault outside second task r = (.ok (), next)) :
    r.named task = [] := by
  unfold handleTask at returns
  rw [bind_of_ok (read_apply r)] at returns
  obtain ⟨_, _, enough, view⟩ := bind_eq_ok.mp returns
  rw [(lift_eq_ok.mp enough).2] at view
  obtain ⟨_, _, created, loops⟩ := bind_eq_ok.mp view
  rw [(lift_eq_ok.mp created).2] at loops
  obtain ⟨_, connected, connects, sends⟩ := bind_eq_ok.mp loops
  have still : Mute kept connected := by
    have maintains : Call.Maintains (Mute kept) (forM (pairs (r.named task)).zipIdx
        fun item => connect (outside item.2) item.1) :=
      maintains_forM fun item => maintains_connect (outside item.2) item.1
    have after := maintains r mute
    rwa [connects] at after
  cases workers : r.named task with
  | nil => rfl
  | cons id =>
    rw [workers, zipIdx_cons, forM_cons] at sends
    obtain ⟨_, _, first, -⟩ := bind_eq_ok.mp sends
    exact absurd first (distribute_ne_ok still task _ id)

/-- **When a task is delivered**: exactly when it has no workers, and the view can be made. -/
theorem delivers_iff (minWorkers : ℤ) (store : BaseStorage) (requests : List Request)
    (viewFault : Option GoError) (outside : ℕ → Outside) (second : ℕ → Bool) (task : Task)
    (deliverable : Deliverable outside task (reached codecs minWorkers store requests)) :
    Delivers viewFault outside second task (reached codecs minWorkers store requests) ↔
      (reached codecs minWorkers store requests).named task = [] ∧ viewFault = none := by
  generalize hr : reached codecs minWorkers store requests = r at deliverable
  have mute : Mute ∅ r := hr ▸ mute_reached codecs minWorkers store requests
  have enough (nobody : r.named task = []) : ¬ 0 < r.minWorkers := by
    have least := deliverable.enough
    rw [nobody] at least
    exact not_lt.mpr least
  constructor
  · intro delivers
    have nobody := named_of_handleTask mute (Prod.ext delivers.returns rfl)
    have returns := delivers.returns
    rw [handleTask_of_nobody nobody, if_neg (enough nobody)] at returns
    refine ⟨nobody, ?_⟩
    cases viewFault with
    | none => rfl
    | some => cases returns
  · rintro ⟨nobody, rfl⟩
    refine ⟨?_, fun id mem => ?_⟩
    · rw [handleTask_of_nobody nobody, if_neg (enough nobody)]
    · rw [nobody] at mem
      cases mem

def taskA : Task where
  id := ascii "t"
  workerIDs := [ascii "a"]
  data := [7]
  regionID := []

def calm : ℕ → Outside := fun _ => ⟨none, none, .ok []⟩

def registerAB : List Request :=
  [registerA, .register (ascii "b") [2] Time.zero none none]

def taskAB : Task :=
  { taskA with workerIDs := [ascii "a", ascii "b"] }

/-- There is no channel of any two workers yet, and one can be made. -/
def unconnected : ℕ → Outside :=
  fun _ => ⟨some (.new signerErrNotFound "not found"), none, .ok []⟩

/-- The task of two workers who can be connected. -/
theorem delivers_iff_taskAB :
    (reached codecsAB 2 ∅ registerAB).named taskAB = [ascii "a", ascii "b"] ∧
      (Delivers none unconnected (fun _ => false) taskAB (reached codecsAB 2 ∅ registerAB) ↔
        (reached codecsAB 2 ∅ registerAB).named taskAB = [] ∧
          (none : Option GoError) = none) := by
  refine ⟨by decide +kernel, delivers_iff codecsAB 2 ∅ registerAB none unconnected
    (fun _ => false) taskAB ⟨by decide +kernel, fun id _ w lookup => ?_, by decide +kernel⟩⟩
  rw [((mute_reached codecsAB 2 ∅ registerAB).mute id w lookup).msgCh]
  decide

/-- The task of a coordinator that needs one worker does not reach the worker. -/
theorem handleTask_taskA :
    Deliverable calm taskA (reached codecsA 1 ∅ [registerA]) ∧
      (handleTask none calm (fun _ => false) taskA (reached codecsA 1 ∅ [registerA])).1 =
        .err (.plain (ascii "failed to send task to worker a: message channel full")) ∧
      ¬ Delivers none calm (fun _ => false) taskA (reached codecsA 1 ∅ [registerA]) := by
  have fails : (handleTask none calm (fun _ => false) taskA
      (reached codecsA 1 ∅ [registerA])).1 =
      .err (.plain (ascii "failed to send task to worker a: message channel full")) := by
    decide +kernel
  refine ⟨⟨by decide +kernel, fun id _ w lookup => ?_, by decide +kernel⟩, fails,
    fun delivers => ?_⟩
  · rw [((mute_reached codecsA 1 ∅ [registerA]).mute id w lookup).msgCh]
    decide
  · rw [delivers.returns] at fails
    cases fails

end Registry

end Coordination

end Aristo
