import Aristo.Base.Pool
import Aristo.Coordination.Channel
import Aristo.Coordination.Tasks
import Aristo.Storage.Objects

/-!
# The compute node

`ComputeNode` of `compute/service.go`.  An `Execute` call takes a slot, executes the request in the
TEE, registers a task with the coordinator of the node and exchanges a message over a channel; the
slot is released however the call returns.  Each call is at a phase, and a list of steps is an
interleaving.  What a step does is said once (`effect_advance`); then the counter of the node is the
number of calls that have a slot (`activeTasks_run`).
-/

namespace Aristo

open GoBase Call Storage

namespace Compute

/-! ## Requests and results -/

def errNoRegion : GoError := .new ⟨"compute", "ErrNoRegion"⟩ "no region specified"

def errNodeBusy : GoError := .new ⟨"compute", "ErrNodeBusy"⟩ "node at capacity"

/-- `proto.ExecutionRequest`, as far as the node reads it itself. -/
structure ExecutionRequest where
  regionID : Bytes
  parameters : Bytes

/-- `core.ExecutionResult`, as far as the node reads it. -/
structure ExecutionResult where
  output : Bytes
  stateHash : Bytes
  attestations : TEEAttestation × TEEAttestation

structure ProtoAttestation where
  enclaveID : Bytes
  measurement : Bytes
  timestamp : Bytes
  data : Bytes
  signature : Bytes
  regionProof : Bytes

structure ProtoResult where
  timestamp : Bytes
  attestations : List ProtoAttestation
  stateHash : Bytes
  result : Bytes

/-- An attestation of `convertToProtoResult`, which does not set the signature. -/
def convertAttestation (att : TEEAttestation) : ProtoAttestation where
  enclaveID := att.enclaveID
  measurement := att.measurement
  timestamp := att.timestamp.formatRFC3339
  data := att.data
  signature := []
  regionProof := att.regionProof

def convertToProtoResult (now : Time) (result : ExecutionResult) : ProtoResult where
  timestamp := now.utc.formatRFC3339
  attestations := [convertAttestation result.attestations.1,
    convertAttestation result.attestations.2]
  stateHash := result.stateHash
  result := result.output

/-! ## The node -/

@[ext]
structure ComputeNode where
  regionID : Bytes
  maxTasks : ℤ
  activeTasks : ℤ
  coordinator : Coordination.Coordinator
  /-- `coordinator.Start` was called, so that its goroutines run. -/
  started : Bool

/-- `NewComputeNode`, which gives the coordinator room for a hundred tasks and does not start it. -/
def ComputeNode.new (regionID : Bytes) (maxTasks : ℤ) : ComputeNode where
  regionID := regionID
  maxTasks := maxTasks
  activeTasks := 0
  coordinator := .new { maxTasks := 100, taskCleanupInterval := 0 }
    fun _ => { id := [], workerIDs := [], data := [], regionID := [] }
  started := false

/-- Where an `Execute` call is. -/
inductive Phase where
  /-- Before the checks of the region. -/
  | requested (req : ExecutionRequest)
  /-- Before `acquireTaskSlot`. -/
  | acquiring (req : ExecutionRequest)
  /-- In `executeTEE`. -/
  | executing (req : ExecutionRequest)
  /-- Before `SubmitTask`. -/
  | submitting (req : ExecutionRequest) (result : ExecutionResult)
  /-- At the `select` of `SubmitTask`, with the pointer to the task. -/
  | sending (task : ℕ) (result : ExecutionResult)
  /-- Before `establishSecureChannels`. -/
  | establishing (result : ExecutionResult)
  /-- Before `exchangeVerification`. -/
  | exchanging (result : ExecutionResult) (channel : Coordination.SecureChannel)
  /-- Before the deferred `releaseTaskSlot`. -/
  | returning (outcome : Outcome ProtoResult)
  | returned (outcome : Outcome ProtoResult)

inductive GivesUp where
  | done (error : GoError)
  | timeout

def GivesUp.error : GivesUp → GoError
  | done error => error
  | timeout => .plain (ascii "task submission timed out")

/-- What a step of a call depends on besides the node. -/
inductive Choice where
  | go
  /-- How the TEE ends. -/
  | tee (outcome : Outcome ExecutionResult)
  /-- The clock, when the task is made and when it is registered. -/
  | submit (now startTime : Time)
  /-- The case of the `select` that sends. -/
  | send
  /-- One of the two other cases. -/
  | giveUp (why : GivesUp)
  | random (source : Except Bytes Bytes)
  /-- The clock, when the result is converted. -/
  | convert (now : Time)

namespace ComputeNode

def checkRegion (n : ComputeNode) (req : ExecutionRequest) : Except GoError Unit := do
  refuse (req.regionID = []) errNoRegion
  refuse (req.regionID ≠ n.regionID)
    (.plain (ascii "wrong region: want " ++ n.regionID ++ ascii ", got " ++ req.regionID))

def takeSlot (n : ComputeNode) : ComputeNode :=
  { n with activeTasks := n.activeTasks + 1 }

def acquireTaskSlot (n : ComputeNode) : Bool × ComputeNode :=
  if n.activeTasks ≥ n.maxTasks then (false, n) else (true, n.takeSlot)

def releaseTaskSlot (n : ComputeNode) : ComputeNode :=
  { n with activeTasks := n.activeTasks - 1 }

def newTask (n : ComputeNode) (req : ExecutionRequest) (result : ExecutionResult) (now : Time) :
    Coordination.Task where
  id := ascii "task-" ++ n.regionID ++ ascii "-" ++ Time.signed 1 now.unixNano.toInt
  workerIDs := [result.attestations.1.enclaveID, result.attestations.2.enclaveID]
  data := req.parameters
  regionID := []

/-- The node with a new task in memory, at a place where there was none. -/
def allocate (n : ComputeNode) (task : Coordination.Task) : ComputeNode :=
  let heap := Function.update n.coordinator.heap n.coordinator.allocated task
  { n with coordinator := { n.coordinator with heap } }

/-- `SubmitTask` up to its `select`, with the phase that follows. -/
def submit (n : ComputeNode) (req : ExecutionRequest) (result : ExecutionResult)
    (now startTime : Time) : Phase × ComputeNode :=
  let task := n.coordinator.allocated
  let n := n.allocate (n.newTask req result now)
  match Coordination.Coordinator.submitTask (some task) startTime n.coordinator with
  | (.ok _, coordinator) => (.sending task result, { n with coordinator })
  | (.err error, coordinator) =>
    (.returning (.err (error.wrap (ascii "coordination failed"))), { n with coordinator })
  | (.panicked, coordinator) => (.returning .panicked, { n with coordinator })

def establishSecureChannels (source : Except Bytes Bytes) (result : ExecutionResult) :
    Except GoError Coordination.SecureChannel :=
  let channel := Coordination.SecureChannel.new result.attestations.1.enclaveID
    result.attestations.2.enclaveID
  (channel.establishSecure source).mapError
    (GoError.wrap (ascii "failed to establish secure channel"))

def exchangeVerification (channel : Coordination.SecureChannel) (result : ExecutionResult) :
    Except GoError Coordination.SecureChannel :=
  (channel.send result.stateHash).mapError
    (GoError.wrap (ascii "failed to send verification message"))

/-- A step of an `Execute` call.  A choice that does not fit the phase changes nothing. -/
def advance (choice : Choice) (n : ComputeNode) (phase : Phase) : Phase × ComputeNode :=
  match phase, choice with
  | .requested req, .go =>
    match n.checkRegion req with
    | .ok () => (.acquiring req, n)
    | .error error => (.returned (.err error), n)
  | .acquiring req, .go =>
    match n.acquireTaskSlot with
    | (true, n) => (.executing req, n)
    | (false, n) => (.returned (.err errNodeBusy), n)
  | .executing req, .tee outcome =>
    match outcome with
    | .ok result => (.submitting req result, n)
    | .err error => (.returning (.err (error.wrap (ascii "TEE execution failed"))), n)
    | .panicked => (.returning .panicked, n)
  | .submitting req result, .submit now startTime => n.submit req result now startTime
  | .sending task result, .send =>
    if n.coordinator.tasks.length < n.coordinator.config.maxTasks then
      (.establishing result, { n with coordinator := n.coordinator.sendTask task })
    else (.sending task result, n)
  | .sending task _, .giveUp why =>
    (.returning (.err (why.error.wrap (ascii "coordination failed"))),
      { n with coordinator := n.coordinator.abandonTask task })
  | .establishing result, .random source =>
    match establishSecureChannels source result with
    | .ok channel => (.exchanging result channel, n)
    | .error error => (.returning (.err error), n)
  | .exchanging result channel, .convert now =>
    match exchangeVerification channel result with
    | .ok _ => (.returning (.ok (convertToProtoResult now result)), n)
    | .error error => (.returning (.err error), n)
  | .returning outcome, .go => (.returned outcome, n.releaseTaskSlot)
  | phase, _ => (phase, n)

end ComputeNode

open ComputeNode

/-- A node, and the `Execute` calls that were made. -/
abbrev Node := Pool ComputeNode Phase

inductive Event where
  | call (req : ExecutionRequest)
  | step (place : ℕ) (choice : Choice)
  /-- A step of a goroutine of the coordinator. -/
  | goroutine (next : Coordination.Step)

/-- A goroutine of the coordinator goes on, if they were started. -/
def ComputeNode.goroutine (n : ComputeNode) (next : Coordination.Step) : ComputeNode :=
  if n.started then { n with coordinator := n.coordinator.step next } else n

def Event.apply (node : Node) : Event → Node
  | call req => node.enter (.requested req)
  | step place choice => node.go (advance choice) place
  | goroutine next => { node with shared := node.shared.goroutine next }

def newNode (regionID : Bytes) (maxTasks : ℤ) : Node where
  shared := .new regionID maxTasks
  calls := []

/-! ## What a step does -/

/-- The call has acquired a slot and has not returned. -/
def Phase.hasSlot : Phase → Bool
  | requested _ => false
  | acquiring _ => false
  | executing _ => true
  | submitting _ _ => true
  | sending _ _ => true
  | establishing _ => true
  | exchanging _ _ => true
  | returning _ => true
  | returned _ => false

/-- What a step of a call does to the slots of the node. -/
structure Moves (n : ComputeNode) (phase : Phase) (after : Phase × ComputeNode) : Prop where
  slots : after.2.activeTasks + Pool.weight Phase.hasSlot phase =
    n.activeTasks + Pool.weight Phase.hasSlot after.1
  maxTasks : after.2.maxTasks = n.maxTasks
  bounded : after.2.activeTasks ≤ n.activeTasks ∨ after.2.activeTasks ≤ n.maxTasks

variable {n : ComputeNode}

/-- A step that keeps its slot. -/
theorem Moves.of_same {phase : Phase} {after : Phase × ComputeNode}
    (active : after.2.activeTasks = n.activeTasks) (maxTasks : after.2.maxTasks = n.maxTasks)
    (slot : after.1.hasSlot = phase.hasSlot) : Moves n phase after where
  slots := by rw [active, Pool.weight, Pool.weight, slot]
  maxTasks := maxTasks
  bounded := .inl active.le

def Phase.task? : Phase → Option ℕ
  | sending task _ => some task
  | requested _ => none
  | acquiring _ => none
  | executing _ => none
  | submitting _ _ => none
  | establishing _ => none
  | exchanging _ _ => none
  | returning _ => none
  | returned _ => none

def errTooManyTasks : GoError :=
  .plain (ascii "maximum number of concurrent tasks reached")

namespace ComputeNode

def register (n : ComputeNode) (task : Coordination.Task) (startTime : Time) : ComputeNode :=
  let c := (n.allocate task).coordinator
  let taskStatus := c.taskStatus.insert task.id (c.newInfo c.allocated startTime)
  { n with coordinator :=
      { c with
        taskStatus
        allocated := c.allocated + 1
        submitting := c.allocated :: c.submitting } }

/-- With room for it a task is registered, -/
theorem submit_of_room {n : ComputeNode}
    (room : n.coordinator.taskStatus.len < n.coordinator.config.maxTasks) (req : ExecutionRequest)
    (result : ExecutionResult) (now startTime : Time) :
    n.submit req result now startTime =
      (.sending n.coordinator.allocated result,
        n.register (n.newTask req result now) startTime) := by
  let task := n.newTask req result now
  have registers : Coordination.Coordinator.submitTask (some n.coordinator.allocated) startTime
      (n.allocate task).coordinator = (.ok (), (n.register task startTime).coordinator) := by
    refine (bind_of_ok (read_apply _)).trans ?_
    refine (refuse_bind_of_not (not_le.mpr room)).trans ?_
    have found : (n.allocate task).coordinator.heap n.coordinator.allocated = task :=
      Function.update_self _ _ _
    rw [modify_apply, found]
    rfl
  rw [submit, registers]
  rfl

/-- and otherwise refused. -/
theorem submit_of_full {n : ComputeNode}
    (full : n.coordinator.config.maxTasks ≤ n.coordinator.taskStatus.len) (req : ExecutionRequest)
    (result : ExecutionResult) (now startTime : Time) :
    n.submit req result now startTime =
      (.returning (.err (errTooManyTasks.wrap (ascii "coordination failed"))),
        n.allocate (n.newTask req result now)) := by
  have refused : Coordination.Coordinator.submitTask (some n.coordinator.allocated) startTime
      (n.allocate (n.newTask req result now)).coordinator =
        (.err errTooManyTasks, (n.allocate (n.newTask req result now)).coordinator) := by
    refine (bind_of_ok (read_apply _)).trans ?_
    exact refuse_bind_of full
  rw [submit, refused]

end ComputeNode

/-- What a step of a call writes to the entries: it registers a task, or takes it back. -/
def ComputeNode.registration (n : ComputeNode) (phase : Phase) (choice : Choice) :
    Option (Write Bytes Unit) :=
  match phase, choice with
  | .submitting req result, .submit now _ =>
    if n.coordinator.taskStatus.len < n.coordinator.config.maxTasks then
      some ((n.newTask req result now).id, some ())
    else none
  | .sending task _, .giveUp _ => some ((n.coordinator.heap task).id, none)
  | _, _ => none

/-- The coordinator is as before, apart from a task that nobody points to. -/
structure Undisturbed (n after : ComputeNode) : Prop where
  started : after.started = n.started
  coordinator : ∃ heap, after.coordinator = { n.coordinator with heap } ∧
    ∀ task < n.coordinator.allocated, heap task = n.coordinator.heap task

theorem Undisturbed.of_eq {after : ComputeNode} (started : after.started = n.started)
    (same : after.coordinator = n.coordinator) : Undisturbed n after :=
  ⟨started, n.coordinator.heap, same, fun _ _ => rfl⟩

/-- **What a step of a call does to the coordinator.** -/
inductive Acts (n : ComputeNode) : Phase → Choice → Phase × ComputeNode → Prop where
  | quiet {phase next : Phase} {choice : Choice} {after : ComputeNode}
      (silent : n.registration phase choice = none)
      (task : phase.task? = none ∧ next.task? = none ∨ next = phase)
      (undisturbed : Undisturbed n after) : Acts n phase choice (next, after)
  | registers {req : ExecutionRequest} {result : ExecutionResult} {now startTime : Time}
      (room : n.coordinator.taskStatus.len < n.coordinator.config.maxTasks) :
      Acts n (.submitting req result) (.submit now startTime)
        (.sending n.coordinator.allocated result,
          n.register (n.newTask req result now) startTime)
  | sends {task : ℕ} {result : ExecutionResult}
      (room : n.coordinator.tasks.length < n.coordinator.config.maxTasks) :
      Acts n (.sending task result) .send
        (.establishing result, { n with coordinator := n.coordinator.sendTask task })
  | givesUp {task : ℕ} {result : ExecutionResult} {why : GivesUp} {outcome : Outcome ProtoResult} :
      Acts n (.sending task result) (.giveUp why)
        (.returning outcome, { n with coordinator := n.coordinator.abandonTask task })

structure Effect (n : ComputeNode) (phase : Phase) (choice : Choice)
    (after : Phase × ComputeNode) : Prop where
  moves : Moves n phase after
  acts : Acts n phase choice after

theorem Effect.quiet {phase next : Phase} {choice : Choice} (slot : next.hasSlot = phase.hasSlot)
    (silent : n.registration phase choice = none)
    (task : phase.task? = none ∧ next.task? = none ∨ next = phase) :
    Effect n phase choice (next, n) where
  moves := .of_same rfl rfl slot
  acts := .quiet silent task (.of_eq rfl rfl)

/-- **One step** of a call. -/
theorem effect_advance (choice : Choice) (n : ComputeNode) (phase : Phase) :
    Effect n phase choice (n.advance choice phase) := by
  cases phase <;> cases choice
  case acquiring.go =>
    rw [advance, acquireTaskSlot]
    by_cases full : n.activeTasks ≥ n.maxTasks
    · rw [if_pos full]
      exact .quiet rfl rfl (.inl ⟨rfl, rfl⟩)
    · rw [if_neg full]
      exact ⟨⟨add_zero (n.activeTasks + 1), rfl, .inr (not_le.mp full)⟩,
        .quiet rfl (.inl ⟨rfl, rfl⟩) (.of_eq rfl rfl)⟩
  case executing.tee outcome => cases outcome <;> exact .quiet rfl rfl (.inl ⟨rfl, rfl⟩)
  case submitting.submit =>
    rw [advance]
    by_cases room : n.coordinator.taskStatus.len < n.coordinator.config.maxTasks
    · rw [submit_of_room room]
      exact ⟨.of_same rfl rfl rfl, .registers room⟩
    · rw [submit_of_full (not_lt.mp room)]
      refine ⟨.of_same rfl rfl rfl, .quiet (if_neg room) (.inl ⟨rfl, rfl⟩) ⟨rfl, _, rfl, ?_⟩⟩
      exact fun task old => Function.update_of_ne old.ne _ _
  case sending.send =>
    rw [advance]
    split
    · rename_i room
      exact ⟨.of_same rfl rfl rfl, .sends room⟩
    · exact .quiet rfl rfl (.inr rfl)
  case sending.giveUp => exact ⟨.of_same rfl rfl rfl, .givesUp⟩
  case returning.go =>
    have released : n.activeTasks - 1 ≤ n.activeTasks := by omega
    exact ⟨⟨(sub_add_cancel n.activeTasks 1).trans (add_zero n.activeTasks).symm, rfl,
      .inl released⟩, .quiet rfl (.inl ⟨rfl, rfl⟩) (.of_eq rfl rfl)⟩
  case requested.go | establishing.random | exchanging.convert =>
    rw [advance]
    split <;> exact .quiet rfl rfl (.inl ⟨rfl, rfl⟩)
  -- the other choices do not fit the phase
  all_goals exact .quiet rfl rfl (.inr rfl)

/-! ## Slots -/

/-- The slots that are taken are those of calls, and there are enough. -/
structure Slots (maxTasks : ℤ) (node : Node) : Prop where
  counts : node.Counts Phase.hasSlot activeTasks
  limit : node.shared.maxTasks = maxTasks
  bounded : node.shared.activeTasks ≤ maxTasks

/-- **One event** keeps the account. -/
theorem Slots.apply {maxTasks : ℤ} {node : Node} (slots : Slots maxTasks node) (event : Event) :
    Slots maxTasks (event.apply node) := by
  cases event with
  | call => exact ⟨slots.counts.enter rfl, slots.limit, slots.bounded⟩
  | step place choice =>
    have accounts : Pool.Accounts Phase.hasSlot activeTasks
        (advance choice) :=
      fun n phase _ => (effect_advance choice n phase).moves.slots
    refine ⟨accounts.go slots.counts place, ?_, ?_⟩
    · refine Pool.go_induction (Q := fun node : Node => node.shared.maxTasks = maxTasks) place
        slots.limit fun phase _ => ?_
      exact (effect_advance choice node.shared phase).moves.maxTasks.trans slots.limit
    · refine Pool.go_induction (Q := fun node : Node => node.shared.activeTasks ≤ maxTasks) place
        slots.bounded fun phase _ => ?_
      rcases (effect_advance choice node.shared phase).moves.bounded with fewer | room
      · exact fewer.trans slots.bounded
      · exact room.trans slots.limit.le
  | goroutine next =>
    obtain ⟨active, limit⟩ : (node.shared.goroutine next).activeTasks = node.shared.activeTasks ∧
        (node.shared.goroutine next).maxTasks = node.shared.maxTasks := by
      unfold goroutine
      split <;> exact ⟨rfl, rfl⟩
    refine ⟨?_, ?_, ?_⟩
    · exact active.trans slots.counts
    · exact limit.trans slots.limit
    · exact active.le.trans slots.bounded

/-- **The slots of a node.** In every interleaving of any calls, `activeTasks` is the number of
calls that have acquired a slot and not returned, and lies between zero and `maxTasks`. Whenever a
call is refused as busy, as many calls as `maxTasks` have a slot. -/
theorem activeTasks_run (n : ComputeNode) (unused : n.activeTasks = 0) (nonneg : 0 ≤ n.maxTasks)
    (events : List Event) :
    let node := run Event.apply { shared := n, calls := [] } events
    node.shared.activeTasks = node.calls.countP Phase.hasSlot ∧
      0 ≤ node.shared.activeTasks ∧ node.shared.activeTasks ≤ n.maxTasks ∧
      ∀ place req choice, node.calls[place]? = some (.acquiring req) →
        (Event.apply node (.step place choice)).calls[place]? =
          some (.returned (.err errNodeBusy)) →
        node.calls.countP Phase.hasSlot = n.maxTasks := by
  intro node
  have slots : Slots n.maxTasks node :=
    run_preserves (fun _ event slots => slots.apply event)
      ⟨unused, rfl, unused.le.trans nonneg⟩ events
  have counts : node.shared.activeTasks = node.calls.countP Phase.hasSlot := slots.counts
  refine ⟨counts, ?_, slots.bounded, ?_⟩
  · rw [counts]
    exact Int.natCast_nonneg _
  · intro place req choice present refused
    rw [Event.apply, Pool.getElem?_go_self present] at refused
    cases choice with
    | go =>
      rw [advance, acquireTaskSlot] at refused
      by_cases full : node.shared.activeTasks ≥ node.shared.maxTasks
      · rw [← counts]
        exact le_antisymm slots.bounded (slots.limit ▸ full)
      · rw [if_neg full] at refused
        cases refused
    | _ => cases refused

/-- There is one slot, and the first call has it: the second is refused. -/
theorem activeTasks_run_oneSlot :
    let req : ExecutionRequest := { regionID := ascii "r", parameters := [] }
    let node := run Event.apply (newNode (ascii "r") 1)
      [.call req, .call req, .step 0 .go, .step 0 .go, .step 1 .go]
    (Event.apply node (.step 1 .go)).calls[1]? = some (.returned (.err errNodeBusy)) ∧
      node.shared.activeTasks = node.calls.countP Phase.hasSlot ∧
      node.calls.countP Phase.hasSlot = (1 : ℤ) := by
  intro req node
  have counted := activeTasks_run (new (ascii "r") 1) rfl (by decide)
    [.call req, .call req, .step 0 .go, .step 0 .go, .step 1 .go]
  have refused : (Event.apply node (.step 1 .go)).calls[1]? =
      some (.returned (.err errNodeBusy)) := rfl
  exact ⟨refused, counted.1, counted.2.2.2 1 req .go rfl refused⟩

end Compute

end Aristo
