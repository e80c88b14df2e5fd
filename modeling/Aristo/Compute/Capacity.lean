import Aristo.Compute.Node

/-!
# The capacity of a compute node

An `Execute` call registers a task with the coordinator of the node.  `NewComputeNode` does not
start the coordinator, so nothing takes tasks from its queue, and an entry that is not taken back
stays (`Idle.entries_run`).

When all calls have returned, the capacity is there again exactly when every task that was
registered has been taken back (`recovered_iff`).  A hundred calls that succeed use it up.
-/

namespace Aristo

open GoBase Finmap Storage List

namespace Compute

/-! ## Entries with the coordinator -/

def Phase.isSending (task : ℕ) (phase : Phase) : Bool :=
  phase.task? = some task

/-- How many calls of `SubmitTask` are at their `select` with the task. -/
def ComputeNode.held (task : ℕ) (n : ComputeNode) : ℤ :=
  n.coordinator.submitting.count task

/-- Sending a task allocates none, -/
theorem sendTask_keeps (c : Coordination.Coordinator) (task : ℕ) :
    (c.sendTask task).config = c.config ∧ (c.sendTask task).allocated = c.allocated := by
  unfold Coordination.Coordinator.sendTask
  split <;> exact ⟨rfl, rfl⟩

/-- and neither does giving up. -/
theorem abandonTask_keeps (c : Coordination.Coordinator) (task : ℕ) :
    (c.abandonTask task).config = c.config ∧ (c.abandonTask task).allocated = c.allocated := by
  unfold Coordination.Coordinator.abandonTask
  split <;> exact ⟨rfl, rfl⟩

theorem abandonTask_of_mem {c : Coordination.Coordinator} {task : ℕ} (mem : task ∈ c.submitting) :
    c.abandonTask task =
      { c with
        taskStatus := c.taskStatus.erase (c.heap task).id
        submitting := c.submitting.erase task } :=
  if_pos mem

section Acts

variable {n : ComputeNode} {phase : Phase} {choice : Choice} {after : Phase × ComputeNode}

/-- No step starts or configures the coordinator. -/
theorem Acts.keeps (acts : Acts n phase choice after) :
    after.2.started = n.started ∧ after.2.coordinator.config = n.coordinator.config := by
  cases acts with
  | quiet silent task undisturbed =>
    obtain ⟨heap, same, -⟩ := undisturbed.coordinator
    exact ⟨undisturbed.started, by rw [same]⟩
  | registers => exact ⟨rfl, rfl⟩
  | sends => exact ⟨rfl, (sendTask_keeps _ _).1⟩
  | givesUp => exact ⟨rfl, (abandonTask_keeps _ _).1⟩

/-- One task less is waiting to be sent. -/
theorem count_erase_add {tasks : List ℕ} {task taken : ℕ}
    (enough : (if some taken = some task then 1 else 0) ≤ (tasks.count task : ℤ)) :
    ((tasks.erase taken).count task : ℤ) + (if some taken = some task then 1 else 0) =
      tasks.count task := by
  by_cases same : taken = task
  · subst same
    rw [if_pos rfl] at enough ⊢
    rw [count_erase_self]
    omega
  · have other : ¬ some taken = some task := fun equal => same (Option.some.inj equal)
    rw [if_neg other, count_erase_of_ne (fun equal => same equal.symm), add_zero]

theorem weight_isSending (task : ℕ) (phase : Phase) :
    Pool.weight (Phase.isSending task) phase = if phase.task? = some task then 1 else 0 := by
  unfold Pool.weight Phase.isSending
  simp only [decide_eq_true_eq]

/-- Every task at a `select` is that of a call. -/
theorem accounts_held (task : ℕ) (choice : Choice) :
    Pool.Accounts (Phase.isSending task) (ComputeNode.held task) (ComputeNode.advance choice) := by
  intro n phase enough
  have acts := (effect_advance choice n phase).acts
  generalize n.advance choice phase = after at acts ⊢
  rw [weight_isSending] at enough
  rw [weight_isSending, weight_isSending]
  unfold ComputeNode.held at enough ⊢
  cases acts with
  | quiet silent same undisturbed =>
    obtain ⟨heap, coordinator, -⟩ := undisturbed.coordinator
    rw [coordinator]
    rcases same with ⟨before, next⟩ | rfl
    · rw [before, next]
    · rfl
  | registers =>
    change ((n.coordinator.allocated :: n.coordinator.submitting).count task : ℤ) + 0 =
      n.coordinator.submitting.count task +
        if some n.coordinator.allocated = some task then 1 else 0
    rw [count_cons]
    by_cases same : n.coordinator.allocated = task <;> simp [same]
  | @sends taken _ room =>
    have submitting : (n.coordinator.sendTask taken).submitting =
        n.coordinator.submitting.erase taken := by
      by_cases mem : taken ∈ n.coordinator.submitting <;>
        simp [Coordination.Coordinator.sendTask, mem, room, erase_of_not_mem]
    rw [submitting]
    exact (count_erase_add enough).trans (add_zero _).symm
  | @givesUp taken =>
    have submitting : (n.coordinator.abandonTask taken).submitting =
        n.coordinator.submitting.erase taken := by
      by_cases mem : taken ∈ n.coordinator.submitting <;>
        simp [Coordination.Coordinator.abandonTask, mem, erase_of_not_mem]
    rw [submitting]
    exact (count_erase_add enough).trans (add_zero _).symm

/-- Every entry waits to be processed. -/
def Pending (n : ComputeNode) : Prop :=
  ∀ id info, n.coordinator.taskStatus.lookup id = some info → info.status = .pending

/-- Nothing processes an entry. -/
theorem Acts.pending (acts : Acts n phase choice after) (pending : Pending n) :
    Pending after.2 := by
  cases acts with
  | quiet silent task undisturbed =>
    obtain ⟨heap, same, -⟩ := undisturbed.coordinator
    unfold Pending
    rw [same]
    exact pending
  | @registers req result now startTime room =>
    intro id info found
    change Finmap.lookup id (Finmap.insert (n.newTask req result now).id _
      n.coordinator.taskStatus) = some info at found
    rcases GoMap.lookup_insert_cases found with ⟨-, rfl⟩ | ⟨-, found⟩
    · rfl
    · exact pending id info found
  | sends =>
    unfold Pending
    rw [Coordination.Coordinator.taskStatus_sendTask]
    exact pending
  | @givesUp task =>
    unfold Pending Coordination.Coordinator.abandonTask
    dsimp only
    split
    · intro id info found
      by_cases same : id = (n.coordinator.heap task).id
      · subst same
        rw [lookup_erase] at found
        cases found
      · rw [lookup_erase_ne same] at found
        exact pending id info found
    · exact pending

def Allocated (n : ComputeNode) (phase : Phase) : Prop :=
  ∀ task, phase.task? = some task → task < n.coordinator.allocated

/-- The tasks of the calls have been allocated. -/
theorem Acts.allocated (acts : Acts n phase choice after) (allocated : Allocated n phase) :
    n.coordinator.allocated ≤ after.2.coordinator.allocated ∧ Allocated after.2 after.1 := by
  cases acts with
  | quiet silent task undisturbed =>
    obtain ⟨heap, same, -⟩ := undisturbed.coordinator
    unfold Allocated
    rw [same]
    refine ⟨le_rfl, fun next isNext => ?_⟩
    rcases task with ⟨-, none⟩ | rfl
    · cases none.symm.trans isNext
    · exact allocated next isNext
  | registers =>
    refine ⟨Nat.le_succ _, fun next isNext => ?_⟩
    cases isNext
    exact Nat.lt_succ_self _
  | sends =>
    exact ⟨(sendTask_keeps _ _).2.ge, fun next isNext => by cases isNext⟩
  | givesUp =>
    exact ⟨(abandonTask_keeps _ _).2.ge, fun next isNext => by cases isNext⟩

def ComputeNode.entries (n : ComputeNode) : KeyValue Bytes Unit :=
  fun id => (n.coordinator.taskStatus.lookup id).map fun _ => ()

/-- **One step** registers a task, takes it back, or leaves the entries alone. -/
theorem Acts.entries (acts : Acts n phase choice after)
    (held : ∀ task, phase.task? = some task → task ∈ n.coordinator.submitting) :
    after.2.entries = applyWrites n.entries (n.registration phase choice).toList := by
  cases acts with
  | quiet silent task undisturbed =>
    obtain ⟨heap, same, -⟩ := undisturbed.coordinator
    rw [silent]
    unfold ComputeNode.entries
    rw [same]
    rfl
  | @registers req result now startTime room =>
    have written : n.registration (.submitting req result) (.submit now startTime) =
        some ((n.newTask req result now).id, some ()) := if_pos room
    rw [written]
    funext id
    change ((Finmap.insert (n.newTask req result now).id _ n.coordinator.taskStatus).lookup
      id).map _ = Function.update n.entries (n.newTask req result now).id (some ()) id
    by_cases same : id = (n.newTask req result now).id
    · subst same
      rw [lookup_insert, Function.update_self]
      rfl
    · rw [lookup_insert_of_ne _ same, Function.update_of_ne same]
      rfl
  | sends =>
    unfold ComputeNode.entries
    rw [Coordination.Coordinator.taskStatus_sendTask]
    rfl
  | @givesUp task result why outcome =>
    rw [abandonTask_of_mem (held task rfl)]
    funext id
    change ((n.coordinator.taskStatus.erase (n.coordinator.heap task).id).lookup id).map _ =
      Function.update n.entries (n.coordinator.heap task).id none id
    by_cases same : id = (n.coordinator.heap task).id
    · subst same
      rw [lookup_erase, Function.update_self]
      rfl
    · rw [lookup_erase_ne same, Function.update_of_ne same]
      rfl

end Acts

/-- What holds of a node whose coordinator was not started. -/
structure Idle (node : Node) : Prop where
  stopped : node.shared.started = false
  limit : node.shared.coordinator.config.maxTasks = 100
  pending : Pending node.shared
  held : ∀ task, node.Counts (Phase.isSending task) (ComputeNode.held task)
  allocated : ∀ phase ∈ node.calls, Allocated node.shared phase

theorem idle_newNode (regionID : Bytes) (maxTasks : ℤ) : Idle (newNode regionID maxTasks) where
  stopped := rfl
  limit := rfl
  pending _ _ found := by cases found
  held _ := rfl
  allocated _ mem := absurd mem not_mem_nil

variable {n : ComputeNode}

theorem goroutine_of_stopped (stopped : n.started = false) (next : Coordination.Step) :
    n.goroutine next = n := by
  rw [ComputeNode.goroutine, stopped]
  rfl

variable {node : Node}

/-- Every event keeps the node idle, -/
theorem Idle.apply (idle : Idle node) (event : Event) : Idle (event.apply node) := by
  cases event with
  | call =>
    refine ⟨idle.stopped, idle.limit, idle.pending, fun task => (idle.held task).enter rfl, ?_⟩
    intro phase mem
    rcases mem_append.mp mem with old | new
    · exact idle.allocated phase old
    · cases mem_singleton.mp new
      intro task isTask
      cases isTask
  | step place choice =>
    have held : ∀ task, (node.go (ComputeNode.advance choice) place).Counts
        (Phase.isSending task) (ComputeNode.held task) :=
      fun task => (accounts_held task choice).go (idle.held task) place
    revert held
    refine Pool.go_induction (Q := fun node' : Node => (∀ task, node'.Counts
      (Phase.isSending task) (ComputeNode.held task)) → Idle node') place (fun _ => idle) ?_
    intro phase present held
    have acts := (effect_advance choice node.shared phase).acts
    obtain ⟨more, allocated⟩ :=
      acts.allocated (idle.allocated phase (mem_of_getElem? present))
    refine ⟨acts.keeps.1.trans idle.stopped, ?_, acts.pending idle.pending, held, ?_⟩
    · dsimp only
      rw [acts.keeps.2]
      exact idle.limit
    · intro other mem
      rcases mem_or_eq_of_mem_set mem with old | rfl
      · exact fun task isTask => (idle.allocated other old task isTask).trans_le more
      · exact allocated
  | goroutine =>
    rw [Event.apply, goroutine_of_stopped idle.stopped]
    exact idle

/-- and so does every run. -/
theorem idle_run (regionID : Bytes) (maxTasks : ℤ) (events : List Event) :
    Idle (run Event.apply (newNode regionID maxTasks) events) :=
  run_preserves (fun _ event idle => idle.apply event) (idle_newNode regionID maxTasks) events

variable {phase : Phase}

/-- The task of a call is at its `select`. -/
theorem Idle.mem_submitting (idle : Idle node) (mem : phase ∈ node.calls) {task : ℕ}
    (isTask : phase.task? = some task) :
    task ∈ node.shared.coordinator.submitting := by
  have counted := Pool.weight_le_countP (Phase.isSending task) mem
  rw [weight_isSending, if_pos isTask, ← idle.held task, ComputeNode.held] at counted
  exact count_pos_iff.mp (by omega)

/-- What an event writes to the entries. -/
def Event.registration (node : Node) : Event → Option (Write Bytes Unit)
  | call _ => none
  | step place choice => node.calls[place]?.bind fun phase => node.shared.registration phase choice
  | goroutine _ => none

/-- The tasks that are registered and taken back in a run. -/
def registrations : Node → List Event → List (Write Bytes Unit)
  | _, [] => []
  | node, event :: events =>
    (event.registration node).toList ++ registrations (event.apply node) events

/-- What an event does to the entries. -/
theorem Idle.entries_apply (idle : Idle node) (event : Event) :
    (event.apply node).shared.entries =
      applyWrites node.shared.entries (event.registration node).toList := by
  cases event with
  | call => rfl
  | step place choice =>
    rw [Event.apply, Event.registration]
    cases present : node.calls[place]? with
    | none =>
      rw [Pool.go_of_none present]
      rfl
    | some phase =>
      rw [Pool.go_of_some present]
      exact (effect_advance choice node.shared phase).acts.entries fun task isTask =>
        idle.mem_submitting (mem_of_getElem? present) isTask
  | goroutine =>
    rw [Event.apply, goroutine_of_stopped idle.stopped]
    rfl

/-- **The entries of a run** are those of the tasks that it registers and does not take back. -/
theorem Idle.entries_run (idle : Idle node) (events : List Event) :
    (run Event.apply node events).shared.entries =
      applyWrites node.shared.entries (registrations node events) := by
  induction events generalizing node with
  | nil => rfl
  | cons event events ih =>
    rw [run_cons, ih (idle.apply event), idle.entries_apply event, registrations,
      applyWrites_append]

/-! ## Capacity -/

def Phase.inProgress : Phase → Bool
  | returned _ => false
  | requested _ => true
  | acquiring _ => true
  | executing _ => true
  | submitting _ _ => true
  | sending _ _ => true
  | establishing _ => true
  | exchanging _ _ => true
  | returning _ => true

/-- The entries of tasks that are being processed. -/
def ComputeNode.processing (n : ComputeNode) : ℕ :=
  (n.coordinator.taskStatus.filterValues fun info => info.status = .running).len

/-- The entries of tasks that wait for a tick of `cleanupTasks`. -/
def ComputeNode.awaitingCleanup (n : ComputeNode) : ℕ :=
  (n.coordinator.taskStatus.filterValues fun info =>
    info.status = .complete ∨ info.status = .failed).len

/-- There are no more entries than calls in progress and tasks that the coordinator is at. -/
def Bounded (node : Node) : Prop :=
  node.shared.coordinator.taskStatus.len ≤
    node.calls.countP Phase.inProgress + node.shared.processing + node.shared.awaitingCleanup

/-- Every entry is that of a call that is about to send its task. -/
def Covered (node : Node) : Prop :=
  ∀ id ∈ node.shared.coordinator.taskStatus, ∃ (place : ℕ) (phase : Phase) (task : ℕ),
    node.calls[place]? = some phase ∧ phase.task? = some task ∧
      (node.shared.coordinator.heap task).id = id

section

variable (covered : Covered node) (idle : Idle node) {place : ℕ} {next : Phase}
    {after : ComputeNode} (present : node.calls[place]? = some phase)

include covered idle present

/-- A call goes on, and the entries that are left are its own or those of other calls. -/
theorem Covered.set (heap : ∀ task < node.shared.coordinator.allocated,
      after.coordinator.heap task = node.shared.coordinator.heap task)
    (entries : ∀ id ∈ after.coordinator.taskStatus,
      (∃ task, next.task? = some task ∧ (after.coordinator.heap task).id = id) ∨
        id ∈ node.shared.coordinator.taskStatus ∧
          ∀ task, phase.task? = some task → (node.shared.coordinator.heap task).id ≠ id) :
    Covered { shared := after, calls := node.calls.set place next } := by
  intro id mem
  obtain ⟨inRange, -⟩ := List.getElem?_eq_some_iff.mp present
  rcases entries id mem with ⟨task, isTask, equal⟩ | ⟨old, away⟩
  · exact ⟨place, next, task, List.getElem?_set_self inRange, isTask, equal⟩
  · obtain ⟨place', phase', task, present', isTask, equal⟩ := covered id old
    have other : place ≠ place' := by
      rintro rfl
      cases present.symm.trans present'
      exact away task isTask equal
    refine ⟨place', phase', task, (List.getElem?_set_ne other).trans present', isTask, ?_⟩
    have old := idle.allocated phase' (mem_of_getElem? present') task isTask
    exact (congrArg Coordination.Task.id (heap task old)).trans equal

/-- A step that does not touch the coordinator keeps the entries covered. -/
theorem Covered.quiet (task : phase.task? = none ∧ next.task? = none ∨ next = phase)
    (undisturbed : Undisturbed node.shared after) :
    Covered { shared := after, calls := node.calls.set place next } := by
  obtain ⟨heap, same, agree⟩ := undisturbed.coordinator
  have heaps : ∀ task < node.shared.coordinator.allocated,
      after.coordinator.heap task = node.shared.coordinator.heap task := by
    rw [same]
    exact agree
  refine covered.set idle present heaps fun id mem => ?_
  rw [same] at mem
  rcases task with ⟨none, -⟩ | rfl
  · refine .inr ⟨mem, fun task isTask => ?_⟩
    cases none.symm.trans isTask
  -- the call is where it was, and the entry may be its own
  · by_cases own : ∃ task, next.task? = some task ∧ (node.shared.coordinator.heap task).id = id
    · obtain ⟨task, isTask, equal⟩ := own
      have old := idle.allocated next (mem_of_getElem? present) task isTask
      exact .inl ⟨task, isTask, (congrArg _ (heaps task old)).trans equal⟩
    · exact .inr ⟨mem, fun task isTask equal => own ⟨task, isTask, equal⟩⟩

end

/-- So does every event, as long as no task is sent. -/
theorem Covered.apply (covered : Covered node) (idle : Idle node) {event : Event}
    (unsent : ∀ place, event ≠ .step place .send) : Covered (event.apply node) := by
  cases event with
  | call =>
    intro id mem
    obtain ⟨place, phase, task, present, isTask, equal⟩ := covered id mem
    refine ⟨place, phase, task, ?_, isTask, equal⟩
    exact List.getElem?_append_left (List.getElem?_eq_some_iff.mp present).1 ▸ present
  | step place choice =>
    refine Pool.go_induction (Q := Covered) place covered fun phase present => ?_
    have acts := (effect_advance choice node.shared phase).acts
    generalize node.shared.advance choice phase = after at acts
    cases acts with
    | quiet silent task undisturbed => exact covered.quiet idle present task undisturbed
    | @registers req result now startTime room =>
      refine covered.set idle present (fun task old => Function.update_of_ne old.ne _ _) ?_
      intro id mem
      rcases mem_insert.mp mem with rfl | old
      · refine .inl ⟨_, rfl, ?_⟩
        exact congrArg Coordination.Task.id (Function.update_self _ _ _)
      · exact .inr ⟨old, fun task isTask => by cases isTask⟩
    | sends => exact absurd rfl (unsent place)
    | @givesUp task result why outcome =>
      rw [abandonTask_of_mem (idle.mem_submitting (mem_of_getElem? present) rfl)]
      refine covered.set idle present (fun _ _ => rfl) fun id mem => .inr ?_
      obtain ⟨apart, old⟩ := mem_erase.mp mem
      refine ⟨old, fun task' isTask equal => apart ?_⟩
      cases isTask
      exact equal.symm
  | goroutine =>
    rw [Event.apply, goroutine_of_stopped idle.stopped]
    exact covered

/-- Entries that are covered are no more than the calls. -/
theorem Covered.bounded (covered : Covered node) : Bounded node := by
  let ids := node.calls.filterMap fun phase =>
    phase.task?.map fun task => (node.shared.coordinator.heap task).id
  have listed : node.shared.coordinator.taskStatus.len ≤ ids.length := by
    refine GoMap.len_le_length fun id mem => ?_
    obtain ⟨place, phase, task, present, isTask, equal⟩ := covered id mem
    refine mem_filterMap.mpr ⟨phase, mem_of_getElem? present, ?_⟩
    rw [isTask, Option.map_some, equal]
  have calls : ids.length ≤ node.calls.countP Phase.inProgress := by
    rw [length_filterMap_eq_countP]
    refine countP_mono_left fun phase _ waits => ?_
    cases phase with
    | sending => rfl
    | _ => cases waits
  unfold Bounded
  omega

/-! ### One call after the others -/

/-- A call that goes on alone. -/
def alone (choices : List Choice) (phase : Phase) (n : ComputeNode) : Phase × ComputeNode :=
  choices.foldl (fun after choice => after.2.advance choice after.1) (phase, n)

theorem alone_cons (choice : Choice) (choices : List Choice) (phase : Phase) (n : ComputeNode) :
    alone (choice :: choices) phase n =
      alone choices (n.advance choice phase).1 (n.advance choice phase).2 := rfl

/-- An `Execute` call, with the choices of its steps. -/
def executeCall (place : ℕ) (req : ExecutionRequest) (choices : List Choice) : List Event :=
  .call req :: choices.map (.step place)

/-- A call that goes on alone. -/
theorem run_steps {place : ℕ} (present : node.calls[place]? = some phase) (choices : List Choice) :
    run Event.apply node (choices.map (.step place)) =
      { shared := (alone choices phase node.shared).2
        calls := node.calls.set place (alone choices phase node.shared).1 } := by
  induction choices generalizing node phase with
  | nil =>
    obtain ⟨inRange, rfl⟩ := List.getElem?_eq_some_iff.mp present
    change node = { shared := node.shared, calls := node.calls.set place node.calls[place] }
    rw [set_getElem_self]
  | cons choice choices ih =>
    obtain ⟨inRange, -⟩ := List.getElem?_eq_some_iff.mp present
    rw [map_cons, run_cons, Event.apply, Pool.go_of_some present,
      ih (List.getElem?_set_self inRange), set_set, alone_cons]

/-- A call of its own, from the start. -/
theorem run_executeCall (node : Node) (req : ExecutionRequest) (choices : List Choice) :
    run Event.apply node (executeCall node.calls.length req choices) =
      { shared := (alone choices (.requested req) node.shared).2
        calls := node.calls ++ [(alone choices (.requested req) node.shared).1] } := by
  have present : (node.enter (.requested req)).calls[node.calls.length]? =
      some (.requested req) := List.getElem?_concat_length
  rw [executeCall, run_cons, Event.apply, run_steps present]
  simp [Pool.enter]

theorem alone_returned (choices : List Choice) (outcome : Outcome ProtoResult) (n : ComputeNode) :
    alone choices (.returned outcome) n = (.returned outcome, n) := by
  induction choices with
  | nil => rfl
  | cons choice choices ih =>
    have same : n.advance choice (.returned outcome) = (.returned outcome, n) := by
      cases choice <;> rfl
    rw [alone_cons, same, ih]

/-- The steps of a call up to `SubmitTask`, when the execution in the TEE succeeds. -/
def upToSubmit (result : ExecutionResult) (now startTime : Time) : List Choice :=
  [.go, .go, .tee (.ok result), .submit now startTime]

/-- The phase of a call that is refused because there are too many entries. -/
def refusedForCapacity : Phase :=
  .returning (.err (errTooManyTasks.wrap (ascii "coordination failed")))

/-- A next call whose execution in the TEE succeeds is not refused because there are too many
entries. -/
def Accepting (node : Node) : Prop :=
  ∀ req result now startTime,
    (run Event.apply node (executeCall node.calls.length req
      (upToSubmit result now startTime))).calls[node.calls.length]? ≠ some refusedForCapacity

/-- A call with a slot gets to `SubmitTask`. -/
theorem alone_upToSubmit {req : ExecutionRequest} (region : n.checkRegion req = .ok ())
    (slot : n.activeTasks < n.maxTasks) (result : ExecutionResult) (now startTime : Time)
    (rest : List Choice) :
    alone (upToSubmit result now startTime ++ rest) (.requested req) n =
      alone rest (n.takeSlot.submit req result now startTime).1
        (n.takeSlot.submit req result now startTime).2 := by
  have checked : n.advance .go (.requested req) = (.acquiring req, n) := by
    rw [ComputeNode.advance, region]
  have acquired : n.advance .go (.acquiring req) = (.executing req, n.takeSlot) := by
    rw [ComputeNode.advance, ComputeNode.acquireTaskSlot, if_neg (not_le.mpr slot)]
  rw [upToSubmit, cons_append, alone_cons, checked, cons_append, alone_cons, acquired]
  rfl

/-- With room for an entry, no call is refused for capacity. -/
theorem accepting_of_room
    (room : node.shared.coordinator.taskStatus.len < node.shared.coordinator.config.maxTasks) :
    Accepting node := by
  intro req result now startTime refused
  rw [run_executeCall, List.getElem?_concat_length] at refused
  have phase := Option.some.inj refused
  cases region : node.shared.checkRegion req with
  | error error =>
    have checked : node.shared.advance .go (.requested req) =
        (.returned (.err error), node.shared) := by
      rw [ComputeNode.advance, region]
    rw [upToSubmit, alone_cons, checked, alone_returned] at phase
    cases phase
  | ok =>
    by_cases slot : node.shared.activeTasks < node.shared.maxTasks
    · rw [← append_nil (upToSubmit _ _ _), alone_upToSubmit region slot,
        ComputeNode.submit_of_room (n := node.shared.takeSlot) room] at phase
      cases phase
    · have checked : node.shared.advance .go (.requested req) =
          (.acquiring req, node.shared) := by
        rw [ComputeNode.advance, region]
      have busy : node.shared.advance .go (.acquiring req) =
          (.returned (.err errNodeBusy), node.shared) := by
        rw [ComputeNode.advance, ComputeNode.acquireTaskSlot, if_pos (not_lt.mp slot)]
      rw [upToSubmit, alone_cons, checked, alone_cons, busy, alone_returned] at phase
      cases phase

theorem Pending.len_filterValues (pending : Pending n) (p : Coordination.TaskInfo → Prop)
    [DecidablePred p] (other : ∀ info, info.status = .pending → ¬ p info) :
    (n.coordinator.taskStatus.filterValues p).len = 0 := by
  refine GoMap.len_eq_zero_iff.mpr fun id mem => ?_
  obtain ⟨info, found⟩ := mem_iff.mp mem
  rw [GoMap.lookup_filterValues, Option.filter_eq_some_iff] at found
  exact other info (pending id info found.1) (of_decide_eq_true found.2)

/-- When all calls have returned, the bound is zero. -/
theorem bounded_iff_of_returned (pending : Pending node.shared)
    (returned : ∀ phase ∈ node.calls, phase.inProgress = false) :
    Bounded node ↔ ∀ id, id ∉ node.shared.coordinator.taskStatus := by
  have calls : node.calls.countP Phase.inProgress = 0 := by
    rw [countP_eq_zero]
    intro phase mem
    rw [returned phase mem]
    exact Bool.false_ne_true
  have processing : node.shared.processing = 0 :=
    pending.len_filterValues _ fun info status => by simp [status]
  have awaiting : node.shared.awaitingCleanup = 0 :=
    pending.len_filterValues _ fun info status => by simp [status]
  rw [Bounded, calls, processing, awaiting, Nat.le_zero, GoMap.len_eq_zero_iff]

/-- **When the capacity is recovered.** When all calls have returned, a next call is accepted and
there are no more entries than the coordinator is at exactly when the last thing that happened to
every registered task is that `SubmitTask` gave up. While no task is sent, there are never more
entries than calls in progress. -/
theorem recovered_iff (regionID : Bytes) (maxTasks : ℤ) (events : List Event) :
    let node := run Event.apply (newNode regionID maxTasks) events
    ((∀ phase ∈ node.calls, phase.inProgress = false) →
      (Accepting node ∧ Bounded node ↔
        ∀ id, lastWrite (registrations (newNode regionID maxTasks) events) id ≠
          some (some ()))) ∧
      ((∀ event ∈ events, ∀ place, event ≠ .step place .send) → Bounded node) := by
  intro node
  have idle : Idle node := idle_run regionID maxTasks events
  have covered : Covered (newNode regionID maxTasks) := by
    intro id mem
    exact absurd mem notMem_empty
  have preserved (node : Node) (event : Event) (unsent : ∀ place, event ≠ .step place .send)
      (inv : Idle node ∧ Covered node) : Idle (event.apply node) ∧ Covered (event.apply node) :=
    ⟨inv.1.apply event, inv.2.apply inv.1 unsent⟩
  refine ⟨fun returned => ?_, fun unsent =>
    (run_invariant preserved ⟨idle_newNode regionID maxTasks, covered⟩ unsent).2.bounded⟩
  have entries : ∀ id, id ∈ node.shared.coordinator.taskStatus ↔
      lastWrite (registrations (newNode regionID maxTasks) events) id = some (some ()) := by
    intro id
    have written := congrFun ((idle_newNode regionID maxTasks).entries_run events) id
    rw [applyWrites_apply] at written
    have listed : id ∈ node.shared.coordinator.taskStatus ↔ node.shared.entries id = some () := by
      rw [← lookup_isSome, ComputeNode.entries]
      cases node.shared.coordinator.taskStatus.lookup id <;> simp
    rw [listed, written]
    cases lastWrite (registrations (newNode regionID maxTasks) events) id with
    | none => exact iff_of_false (by rintro ⟨⟩) (by rintro ⟨⟩)
    | some contents => exact (Option.some_inj (a := contents)).symm
  have empty := bounded_iff_of_returned idle.pending returned
  simp only [ne_eq, ← entries]
  rw [← empty]
  refine and_iff_right_of_imp fun bounded => accepting_of_room ?_
  rw [GoMap.len_eq_zero_iff.mpr (empty.mp bounded), idle.limit]
  decide

/-! ### A hundred calls -/

def succeeding (result : ExecutionResult) (now : Time) : List Choice :=
  upToSubmit result now now ++ [.send, .random (.ok (List.replicate 32 0)), .convert now, .go]

/-- A call that succeeds gives its slot back and leaves its task. -/
theorem alone_succeeding {req : ExecutionRequest} (region : n.checkRegion req = .ok ())
    (slot : n.activeTasks < n.maxTasks)
    (room : n.coordinator.taskStatus.len < n.coordinator.config.maxTasks)
    (queue : n.coordinator.tasks.length < n.coordinator.config.maxTasks) (result : ExecutionResult)
    (now : Time) :
    alone (succeeding result now) (.requested req) n =
      (.returned (.ok (convertToProtoResult now result)),
        { n with
          coordinator := (n.register (n.newTask req result now) now).coordinator.sendTask
            n.coordinator.allocated }) := by
  let m := n.takeSlot.register (n.takeSlot.newTask req result now) now
  let task := n.coordinator.allocated
  have sent : m.advance .send (.sending task result) =
      (.establishing result, { m with coordinator := m.coordinator.sendTask task }) :=
    if_pos queue
  rw [succeeding, alone_upToSubmit region slot,
    ComputeNode.submit_of_room (n := n.takeSlot) room, alone_cons]
  change alone _ (m.advance .send (.sending task result)).1
    (m.advance .send (.sending task result)).2 = _
  rw [sent]
  have released : n.activeTasks + 1 - 1 = n.activeTasks := by omega
  exact Prod.ext rfl (ComputeNode.ext rfl rfl released rfl rfl)

/-- All calls have returned, and have left these entries. -/
structure Loaded (regionID : Bytes) (ids : List Bytes) (node : Node) : Prop where
  returned : ∀ phase ∈ node.calls, phase.inProgress = false
  region : node.shared.regionID = regionID
  slot : node.shared.activeTasks < node.shared.maxTasks
  limit : node.shared.coordinator.config.maxTasks = 100
  queue : node.shared.coordinator.tasks.length = ids.length
  entries : node.shared.coordinator.taskStatus.Visits ids

def taskID (regionID : Bytes) (now : Time) : Bytes :=
  ascii "task-" ++ regionID ++ ascii "-" ++ Time.signed 1 now.unixNano.toInt

variable {regionID : Bytes}

variable {ids : List Bytes}

theorem Loaded.checkRegion (loaded : Loaded regionID ids node) (named : regionID ≠ [])
    (parameters : Bytes) :
    node.shared.checkRegion { regionID, parameters } = .ok () := by
  refine except_seq_eq_ok.mpr ⟨refuse_eq_ok.mpr named, refuse_eq_ok.mpr ?_⟩
  exact not_not.mpr loaded.region.symm

/-- One call more leaves one entry more. -/
theorem Loaded.run_succeeding (loaded : Loaded regionID ids node) (named : regionID ≠ [])
    (room : ids.length < 100) {now : Time} (fresh : taskID regionID now ∉ ids) (parameters : Bytes)
    (result : ExecutionResult) :
    Loaded regionID (ids ++ [taskID regionID now])
      (run Event.apply node (executeCall node.calls.length { regionID, parameters }
        (succeeding result now))) := by
  have len : node.shared.coordinator.taskStatus.len = ids.length := loaded.entries.length_eq.symm
  have space : ids.length < node.shared.coordinator.config.maxTasks := loaded.limit ▸ room
  let task := node.shared.newTask { regionID, parameters } result now
  have isID : task.id = taskID regionID now := by
    rw [← loaded.region]
    rfl
  let c := (node.shared.register task now).coordinator
  have sent : c.sendTask node.shared.coordinator.allocated =
      { c with
        tasks := c.tasks ++ [node.shared.coordinator.allocated]
        submitting := c.submitting.erase node.shared.coordinator.allocated } :=
    if_pos ⟨mem_cons_self, loaded.queue ▸ space⟩
  rw [run_executeCall, alone_succeeding (loaded.checkRegion named parameters) loaded.slot
    (len ▸ space) (loaded.queue ▸ space), sent]
  refine ⟨?_, loaded.region, loaded.slot, loaded.limit, ?_, ?_, ?_⟩
  · intro phase mem
    rcases mem_append.mp mem with old | new
    · exact loaded.returned phase old
    · cases mem_singleton.mp new
      rfl
  · change (node.shared.coordinator.tasks ++ [_]).length = _
    rw [length_append, length_append, loaded.queue]
    rfl
  · rw [← concat_eq_append]
    exact loaded.entries.nodup.concat fresh
  · intro id
    change id ∈ ids ++ [_] ↔ id ∈ Finmap.insert task.id _ node.shared.coordinator.taskStatus
    rw [mem_insert, isID, List.mem_append, List.mem_singleton, loaded.entries.mem_iff, or_comm]

def oneByOne (req : ExecutionRequest) (result : ExecutionResult) : ℕ → List Time → List Event
  | _, [] => []
  | place, now :: nows =>
    executeCall place req (succeeding result now) ++ oneByOne req result (place + 1) nows

/-- **Every call that succeeds leaves an entry**, until there is no room for more. -/
theorem Loaded.run_oneByOne (named : regionID ≠ []) (parameters : Bytes) (result : ExecutionResult)
    (loaded : Loaded regionID ids node) {nows : List Time} (room : ids.length + nows.length ≤ 100)
    (distinct : (ids ++ nows.map (taskID regionID)).Nodup) :
    Loaded regionID (ids ++ nows.map (taskID regionID))
      (run Event.apply node (oneByOne { regionID, parameters } result node.calls.length nows)) := by
  induction nows generalizing ids node with
  | nil =>
    rw [map_nil, append_nil]
    exact loaded
  | cons now nows ih =>
    rw [length_cons] at room
    rw [map_cons, append_cons] at distinct ⊢
    have fresh : taskID regionID now ∉ ids := by
      have first := (nodup_append.mp distinct).1
      rw [← concat_eq_append, nodup_concat] at first
      exact first.1
    have next := loaded.run_succeeding named (by omega) fresh parameters result
    have place : (run Event.apply node (executeCall node.calls.length { regionID, parameters }
        (succeeding result now))).calls.length = node.calls.length + 1 := by
      rw [run_executeCall]
      exact length_append
    have rest := ih next (by rw [length_append, length_singleton]; omega) distinct
    rw [place] at rest
    rw [oneByOne, run_append]
    exact rest

/-- With a hundred entries the next call is refused. -/
theorem Loaded.refused (loaded : Loaded regionID ids node) (named : regionID ≠ [])
    (full : ids.length = 100) (parameters : Bytes) (result : ExecutionResult)
    (now startTime : Time) :
    (run Event.apply node (executeCall node.calls.length { regionID, parameters }
      (upToSubmit result now startTime))).calls[node.calls.length]? = some refusedForCapacity := by
  have len : node.shared.coordinator.taskStatus.len = ids.length := loaded.entries.length_eq.symm
  have noRoom : node.shared.takeSlot.coordinator.config.maxTasks ≤
      node.shared.takeSlot.coordinator.taskStatus.len :=
    (loaded.limit.trans full.symm).le.trans len.symm.le
  rw [run_executeCall, List.getElem?_concat_length, ← append_nil (upToSubmit _ _ _),
    alone_upToSubmit (loaded.checkRegion named parameters) loaded.slot,
    ComputeNode.submit_of_full noRoom]
  rfl

def requestR : ExecutionRequest where
  regionID := ascii "r"
  parameters := []

def attestationOf (enclaveID : Bytes) : TEEAttestation where
  enclaveID := enclaveID
  measurement := []
  timestamp := Time.unixUTC 0
  data := []
  signature := []
  regionProof := []

def resultR : ExecutionResult where
  output := []
  stateHash := []
  attestations := (attestationOf (ascii "sgx-r"), attestationOf (ascii "sev-r"))

def givingUp : List Event :=
  executeCall 0 requestR
    (upToSubmit resultR (Time.unixUTC 0) (Time.unixUTC 0) ++ [.giveUp .timeout, .go])

/-- A call that gives up takes back its task, and the capacity is recovered. -/
theorem recovered_givingUp :
    let node := run Event.apply (newNode (ascii "r") 1) givingUp
    (∀ phase ∈ node.calls, phase.inProgress = false) ∧ Accepting node ∧ Bounded node := by
  intro node
  have returned : ∀ phase ∈ node.calls, phase.inProgress = false := by
    intro phase mem
    cases mem_singleton.mp mem
    rfl
  refine ⟨returned, ((recovered_iff (ascii "r") 1 givingUp).1 returned).mpr fun id => ?_⟩
  let task := taskID (ascii "r") (Time.unixUTC 0)
  have writes : registrations (newNode (ascii "r") 1) givingUp =
      [(task, some ())] ++ [(task, none)] := rfl
  rw [writes, lastWrite_append_singleton]
  by_cases same : task = id
  · rw [if_pos same]
    rintro ⟨⟩
  · rw [if_neg same, lastWrite_eq_none_iff.mpr (by simpa using same)]
    rintro ⟨⟩

def hundredTimes : List Time :=
  (List.range 100).map fun i => Time.unixUTC i

/-- A hundred calls of a node with one slot that succeed one after the other leave a hundred
entries, and the next call is refused. -/
theorem not_recovered_hundredCalls :
    let node := run Event.apply (newNode (ascii "r") 1) (oneByOne requestR resultR 0 hundredTimes)
    (∀ phase ∈ node.calls, phase.inProgress = false) ∧
      node.shared.coordinator.taskStatus.len = 100 ∧
      (run Event.apply node (executeCall node.calls.length requestR
        (upToSubmit resultR (Time.unixUTC 100) (Time.unixUTC 100)))).calls[node.calls.length]? =
          some refusedForCapacity ∧
      ¬ Accepting node ∧ ¬ Bounded node := by
  intro node
  -- the IDs ascend as numbers, which takes one comparison for each of them
  have ascending : ((hundredTimes.map (taskID (ascii "r"))).map ofBE).IsChain (· < ·) := by
    decide +kernel
  have distinct : (hundredTimes.map (taskID (ascii "r"))).Nodup :=
    .of_map _ ((isChain_iff_pairwise.mp ascending).imp ne_of_lt)
  have start : Loaded (ascii "r") [] (newNode (ascii "r") 1) :=
    ⟨nofun, rfl, Int.zero_lt_one, rfl, rfl, nodup_nil,
      fun _ => iff_of_false not_mem_nil notMem_empty⟩
  have loaded : Loaded (ascii "r") ([] ++ hundredTimes.map (taskID (ascii "r"))) node :=
    start.run_oneByOne (by decide) [] resultR (by decide) distinct
  have full : ([] ++ hundredTimes.map (taskID (ascii "r"))).length = 100 := by decide
  have len : node.shared.coordinator.taskStatus.len = 100 :=
    loaded.entries.length_eq.symm.trans full
  have refused := loaded.refused (by decide) full [] resultR (Time.unixUTC 100) (Time.unixUTC 100)
  refine ⟨loaded.returned, len, refused, fun accepting => accepting _ _ _ _ refused, ?_⟩
  intro bounded
  have idle : Idle node := idle_run (ascii "r") 1 (oneByOne requestR resultR 0 hundredTimes)
  have empty := (bounded_iff_of_returned idle.pending loaded.returned).mp bounded
  rw [GoMap.len_eq_zero_iff.mpr empty] at len
  cases len

end Compute

end Aristo
