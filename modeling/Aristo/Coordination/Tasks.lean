import Aristo.Base.GoMap
import Aristo.Base.Run
import Aristo.Base.Time

/-!
# The tasks of the coordinator

The task queue of `coordination/coordinator.go`: a map of entries with a status, a channel of tasks,
the goroutine `processTasks`, and the calls of other goroutines.  Every critical section and channel
operation is one step, so a list of steps is an interleaving; an impossible step changes nothing.

An entry has the number it was allocated with, and a task is a pointer, whose workers `executeTask`
may change.  `orderlyRun_iff` says which runs move the status of every entry forward only.
-/

namespace Aristo

open GoBase Call

namespace Coordination

/-! ## Tasks and their entries -/

/-- `Task`, as far as the coordinator reads it. -/
structure Task where
  id : Bytes
  workerIDs : List Bytes
  data : Bytes
  regionID : Bytes
deriving DecidableEq

inductive TaskStatus where
  | pending
  | running
  | complete
  | failed
deriving DecidableEq

structure TaskInfo where
  /-- The number of the allocation. -/
  entry : ℕ
  /-- The task, a pointer. -/
  task : ℕ
  status : TaskStatus
  startTime : Time
  endTime : Time
  error : Option GoError
  results : List Bytes
deriving DecidableEq

inductive Processor where
  /-- At the `select`. -/
  | waiting
  /-- A task was received from the channel. -/
  | received (task : ℕ)
  /-- In `executeTask`, before a pair of the region is selected. -/
  | executing (task : ℕ)
  /-- In `handleTask`. -/
  | handling (task : ℕ)
  /-- `executeTask` has returned. -/
  | executed (task : ℕ) (error : Option GoError)
  | returned
deriving DecidableEq

/-- `Config`, as far as tasks are concerned.  The interval is in nanoseconds. -/
structure Config where
  maxTasks : ℕ
  taskCleanupInterval : ℤ

/-- `Coordinator`, as far as tasks are concerned. -/
structure Coordinator where
  config : Config
  /-- What the pointers to tasks point to. -/
  heap : ℕ → Task
  taskStatus : GoMap Bytes TaskInfo
  /-- How many entries were allocated. -/
  allocated : ℕ
  /-- The channel, with room for `config.maxTasks` tasks. -/
  tasks : List ℕ
  /-- The tasks of the `SubmitTask` calls that are at their `select`. -/
  submitting : List ℕ
  processor : Processor
  /-- `done` is closed. -/
  stopped : Bool

namespace Coordinator

def minute : ℤ := 60000000000

/-- `NewCoordinator`, over the tasks that will be submitted. -/
def new (config : Config) (heap : ℕ → Task) : Coordinator where
  config :=
    if config.taskCleanupInterval ≤ 0 then { config with taskCleanupInterval := minute } else config
  heap := heap
  taskStatus := ∅
  allocated := 0
  tasks := []
  submitting := []
  processor := .waiting
  stopped := false

/-! ## Submitting -/

/-- `&TaskInfo{…}` for a new task. -/
def newInfo (c : Coordinator) (task : ℕ) (now : Time) : TaskInfo where
  entry := c.allocated
  task := task
  status := .pending
  startTime := now
  endTime := Time.zero
  error := none
  results := []

/-- `SubmitTask` up to its `select`. -/
def submitTask (task : Option ℕ) (now : Time) : Call Coordinator Unit := do
  match task with
  | none => Call.fail (.plain (ascii "nil task"))
  | some task => do
    let c ← Call.read
    Call.lift (refuse (c.taskStatus.len ≥ c.config.maxTasks)
      (.plain (ascii "maximum number of concurrent tasks reached")))
    Call.modify fun c =>
      { c with
        taskStatus := c.taskStatus.insert (c.heap task).id (c.newInfo task now)
        allocated := c.allocated + 1
        submitting := task :: c.submitting }

/-- `case c.tasks <- task`. -/
def sendTask (task : ℕ) (c : Coordinator) : Coordinator :=
  if task ∈ c.submitting ∧ c.tasks.length < c.config.maxTasks then
    { c with tasks := c.tasks ++ [task], submitting := c.submitting.erase task }
  else c

/-- The two other cases: the context is done, or time is up. -/
def abandonTask (task : ℕ) (c : Coordinator) : Coordinator :=
  if task ∈ c.submitting then
    { c with
      taskStatus := c.taskStatus.erase (c.heap task).id
      submitting := c.submitting.erase task }
  else c

/-! ## Processing -/

def updateInfo (id : Bytes) (change : TaskInfo → TaskInfo) (c : Coordinator) : Coordinator :=
  match c.taskStatus.lookup id with
  | some info => { c with taskStatus := c.taskStatus.insert id (change info) }
  | none => c

/-- `case task := <-c.tasks`. -/
def receiveTask (c : Coordinator) : Coordinator :=
  match c.processor, c.tasks with
  | .waiting, task :: tasks => { c with processor := .received task, tasks := tasks }
  | _, _ => c

/-- The first critical section of `processTasks`. -/
def startTask (c : Coordinator) : Coordinator :=
  match c.processor with
  | .received task =>
    match c.taskStatus.lookup (c.heap task).id with
    | some _ =>
      { c.updateInfo (c.heap task).id (fun info => { info with status := .running }) with
        processor := .executing task }
    | none => { c with processor := .waiting }
  | _ => c

/-- `executeTask` up to `handleTask`: the task of a region gets the workers of the pair that
`selectTEEPair` returns. -/
def selectPair (pair : Except GoError (Bytes × Bytes)) (c : Coordinator) : Coordinator :=
  match c.processor with
  | .executing task =>
    if (c.heap task).regionID = [] then { c with processor := .handling task }
    else
      match pair with
      | .error error => { c with processor := .executed task (some error) }
      | .ok (sgx, sev) =>
        { c with
          heap := Function.update c.heap task { c.heap task with workerIDs := [sgx, sev] }
          processor := .handling task }
  | _ => c

def handleTask (error : Option GoError) (c : Coordinator) : Coordinator :=
  match c.processor with
  | .handling task => { c with processor := .executed task error }
  | _ => c

def recorded (error : Option GoError) (now : Time) (info : TaskInfo) : TaskInfo :=
  match error with
  | some error => { info with status := .failed, error := some error, endTime := now }
  | none => { info with status := .complete, endTime := now }

/-- The second critical section of `processTasks`. -/
def recordOutcome (now : Time) (c : Coordinator) : Coordinator :=
  match c.processor with
  | .executed task error =>
    { c.updateInfo (c.heap task).id (recorded error now) with processor := .waiting }
  | _ => c

/-- `case <-c.done`. -/
def leave (c : Coordinator) : Coordinator :=
  match c.processor with
  | .waiting => if c.stopped then { c with processor := .returned } else c
  | _ => c

/-! ## The other goroutines -/

/-- `SetTaskResult`; who reports is not looked at. -/
def setTaskResult (taskID result _workerID : Bytes) (now : Time) : Call Coordinator Unit := do
  let c ← Call.read
  match c.taskStatus.lookup taskID with
  | none => Call.fail (.plain (ascii "task " ++ taskID ++ ascii " not found"))
  | some info => do
    Call.lift (refuse (info.status ≠ .running)
      (.plain (ascii "task " ++ taskID ++ ascii " is not running")))
    let results := info.results ++ [result]
    Call.modify fun c => c.updateInfo taskID fun info =>
      if results.length = (c.heap info.task).workerIDs.length then
        { info with results, status := .complete, endTime := now }
      else { info with results }

/-- The text of `fmt.Errorf("worker %s timeout", workerID)`. -/
def workerTimeout (workerID : Bytes) : GoError :=
  .plain (ascii "worker " ++ workerID ++ ascii " timeout")

/-- An entry after the timeout of a worker. -/
def timedOut (heap : ℕ → Task) (workerID : Bytes) (now : Time) (info : TaskInfo) : TaskInfo :=
  if workerID ∈ (heap info.task).workerIDs then
    { info with status := .failed, error := some (workerTimeout workerID), endTime := now }
  else info

def handleWorkerTimeout (workerID : Bytes) (now : Time) (c : Coordinator) : Coordinator :=
  { c with taskStatus := c.taskStatus.mapValues (timedOut c.heap workerID now) }

/-- The entry is over and old. -/
def Expired (interval : ℤ) (now : Time) (info : TaskInfo) : Prop :=
  (info.status = .complete ∨ info.status = .failed) ∧ now.sub info.endTime > interval

instance decidableExpired (interval : ℤ) (now : Time) (info : TaskInfo) :
    Decidable (Expired interval now info) :=
  inferInstanceAs (Decidable (_ ∧ _))

/-- A tick of `cleanupTasks`. -/
def cleanupTasks (now : Time) (c : Coordinator) : Coordinator :=
  { c with
    taskStatus := c.taskStatus.filterValues fun info =>
      ¬ Expired c.config.taskCleanupInterval now info }

/-- An entry after `Stop`. -/
def interrupted (now : Time) (info : TaskInfo) : TaskInfo :=
  if info.status = .running then
    { info with
      status := .failed
      error := some (.plain (ascii "coordinator stopped"))
      endTime := now }
  else info

/-- `Stop`, before it stops the workers.  A second `Stop` panics when it closes `done`. -/
def stop (now : Time) (c : Coordinator) : Coordinator :=
  if c.stopped then c
  else { c with taskStatus := c.taskStatus.mapValues (interrupted now), stopped := true }

/-! ## Steps -/

end Coordinator

open Coordinator

inductive Step where
  | submit (task : ℕ) (now : Time)
  | send (task : ℕ)
  | abandon (task : ℕ)
  | receive
  | start
  | select (pair : Except GoError (Bytes × Bytes))
  | handle (error : Option GoError)
  | record (now : Time)
  | leave
  | setResult (taskID result workerID : Bytes) (now : Time)
  | workerTimeout (workerID : Bytes) (now : Time)
  | cleanup (now : Time)
  | stop (now : Time)

def Coordinator.step (c : Coordinator) : Step → Coordinator
  | .submit task now => (submitTask (some task) now c).2
  | .send task => c.sendTask task
  | .abandon task => c.abandonTask task
  | .receive => c.receiveTask
  | .start => c.startTask
  | .select pair => c.selectPair pair
  | .handle error => c.handleTask error
  | .record now => c.recordOutcome now
  | .leave => c.leave
  | .setResult taskID result workerID now => (setTaskResult taskID result workerID now c).2
  | .workerTimeout workerID now => c.handleWorkerTimeout workerID now
  | .cleanup now => c.cleanupTasks now
  | .stop now => c.stop now

/-! ## What a step does to the entries -/

/-- What the step makes of the entry under an ID, unless it deletes or replaces it. -/
def Step.change (c : Coordinator) (id : Bytes) (info : TaskInfo) : Step → TaskInfo
  | .start =>
    match c.processor with
    | .received task =>
      if id = (c.heap task).id then { info with status := .running } else info
    | _ => info
  | .record now =>
    match c.processor with
    | .executed task error =>
      if id = (c.heap task).id then recorded error now info else info
    | _ => info
  | .setResult taskID result _ now =>
    if id = taskID ∧ info.status = .running then
      if (info.results ++ [result]).length = (c.heap info.task).workerIDs.length then
        { info with results := info.results ++ [result], status := .complete, endTime := now }
      else { info with results := info.results ++ [result] }
    else info
  | .workerTimeout workerID now => timedOut c.heap workerID now info
  | .stop now => if c.stopped then info else interrupted now info
  | _ => info

namespace Coordinator

/-- An update changes one entry. -/
theorem lookup_updateInfo (c : Coordinator) (id other : Bytes) (change : TaskInfo → TaskInfo) :
    (c.updateInfo id change).taskStatus.lookup other =
      (c.taskStatus.lookup other).map fun info => if other = id then change info else info := by
  unfold updateInfo
  by_cases equal : other = id
  · subst equal
    cases found : c.taskStatus.lookup other with
    | none => simp [found]
    | some => simp
  · simp only [if_neg equal, Option.map_id']
    cases c.taskStatus.lookup id with
    | none => rfl
    | some => exact Finmap.lookup_insert_of_ne _ equal

/-- `SubmitTask` adds an entry if there is room. -/
theorem submitTask_apply (task : ℕ) (now : Time) (c : Coordinator) :
    (submitTask (some task) now c).2 =
      if c.taskStatus.len < c.config.maxTasks then
        { c with
          taskStatus := c.taskStatus.insert (c.heap task).id (c.newInfo task now)
          allocated := c.allocated + 1
          submitting := task :: c.submitting }
      else c := by
  show ((Call.lift (refuse (c.taskStatus.len ≥ c.config.maxTasks) _) >>= _) c).2 = _
  split
  case isTrue room =>
    rw [refuse_bind_of_not (Nat.not_le.mpr room)]
    rfl
  case isFalse full => rw [refuse_bind_of (Nat.not_lt.mp full)]

/-- A result changes the entry of its task only, while that is running. -/
theorem lookup_setTaskResult (taskID result workerID : Bytes) (now : Time) (c : Coordinator)
    (id : Bytes) :
    (setTaskResult taskID result workerID now c).2.taskStatus.lookup id =
      (c.taskStatus.lookup id).map
        fun info => (Step.setResult taskID result workerID now).change c id info := by
  rcases eq_or_ne id taskID with rfl | equal
  · cases found : c.taskStatus.lookup id with
    | none => simp [setTaskResult, bind_apply, found]
    | some info =>
      by_cases running : info.status = .running <;>
        simp [setTaskResult, bind_apply, found, running, refuse, Step.change, lookup_updateInfo]
  · cases found : c.taskStatus.lookup taskID with
    | none => simp [setTaskResult, bind_apply, found, Step.change, equal]
    | some info =>
      by_cases running : info.status = .running <;>
        simp [setTaskResult, bind_apply, found, running, refuse, Step.change, equal,
          lookup_updateInfo]

section

variable (c : Coordinator)

/-- `processTasks` changes the entry of the task that it starts, -/
theorem lookup_startTask (id : Bytes) :
    c.startTask.taskStatus.lookup id =
      (c.taskStatus.lookup id).map fun info => Step.start.change c id info := by
  cases at_ : c.processor with
  | received task =>
    have updated : c.startTask.taskStatus =
        (c.updateInfo (c.heap task).id fun info =>
          { info with status := .running }).taskStatus := by
      unfold startTask
      rw [at_]
      dsimp only
      cases found : c.taskStatus.lookup (c.heap task).id with
      | none => rw [updateInfo, found]
      | some => rfl
    rw [updated, lookup_updateInfo]
    simp only [Step.change, at_]
  | _ => simp [startTask, Step.change, at_]

/-- and that of the task whose outcome it records. -/
theorem lookup_recordOutcome (now : Time) (id : Bytes) :
    (c.recordOutcome now).taskStatus.lookup id =
      (c.taskStatus.lookup id).map fun info => (Step.record now).change c id info := by
  cases at_ : c.processor with
  | executed task error =>
    have updated : (c.recordOutcome now).taskStatus =
        (c.updateInfo (c.heap task).id (recorded error now)).taskStatus := by
      unfold recordOutcome
      rw [at_]
    rw [updated, lookup_updateInfo]
    simp only [Step.change, at_]
  | _ => simp [recordOutcome, Step.change, at_]

theorem taskStatus_sendTask (task : ℕ) :
    (c.sendTask task).taskStatus = c.taskStatus := by
  unfold sendTask
  split <;> rfl

/-- **What a step does to the entry under an ID.** -/
theorem lookup_step (id : Bytes) (step : Step) :
    (c.step step).taskStatus.lookup id =
      match step with
      | .submit task now =>
        if c.taskStatus.len < c.config.maxTasks ∧ id = (c.heap task).id then
          some (c.newInfo task now)
        else c.taskStatus.lookup id
      | .abandon task =>
        if task ∈ c.submitting ∧ id = (c.heap task).id then none else c.taskStatus.lookup id
      | .cleanup now => (c.taskStatus.lookup id).filter fun info =>
        ¬ Expired c.config.taskCleanupInterval now info
      | step => (c.taskStatus.lookup id).map fun info => step.change c id info := by
  have same : ∀ step : Step, (c.step step).taskStatus = c.taskStatus →
      (∀ info, step.change c id info = info) →
      (c.step step).taskStatus.lookup id =
        (c.taskStatus.lookup id).map fun info => step.change c id info := by
    intro step unchanged identity
    rw [unchanged]
    simp [identity]
  cases step with
  | submit task now =>
    show (submitTask (some task) now c).2.taskStatus.lookup id = _
    rw [submitTask_apply]
    by_cases room : c.taskStatus.len < c.config.maxTasks
    · rcases eq_or_ne id (c.heap task).id with rfl | equal <;> simp [*]
    · simp [room]
  | abandon task =>
    show (c.abandonTask task).taskStatus.lookup id = _
    by_cases mem : task ∈ c.submitting
    · rcases eq_or_ne id (c.heap task).id with rfl | equal <;>
        simp [abandonTask, Finmap.lookup_erase_ne, *]
    · simp [abandonTask, mem]
  | send | receive | select | handle | leave =>
    refine same _ ?_ fun _ => rfl
    dsimp only [step, sendTask, receiveTask, selectPair, handleTask, leave]
    repeat' split
    all_goals rfl
  | start => exact lookup_startTask c id
  | record now => exact lookup_recordOutcome c now id
  | setResult taskID result workerID now =>
    exact lookup_setTaskResult taskID result workerID now c id
  | workerTimeout => exact GoMap.lookup_mapValues _ _ _
  | cleanup => exact GoMap.lookup_filterValues _ _ _
  | stop now =>
    by_cases stopped : c.stopped = true <;> simp [step, stop, stopped, Step.change]

end

/-- **Where an entry comes from.**  It was there before and was changed, or it is new. -/
theorem lookup_step_cases {c : Coordinator} {id : Bytes} {info' : TaskInfo} {step : Step}
    (found : (c.step step).taskStatus.lookup id = some info') :
    (∃ info, c.taskStatus.lookup id = some info ∧ info' = step.change c id info) ∨
      ∃ task now, step = .submit task now ∧ id = (c.heap task).id ∧
        info' = c.newInfo task now ∧ (c.step step).allocated = c.allocated + 1 := by
  rw [lookup_step] at found
  cases step with
  | submit task now =>
    dsimp only at found
    by_cases added : c.taskStatus.len < c.config.maxTasks ∧ id = (c.heap task).id
    · rw [if_pos added] at found
      refine Or.inr ⟨task, now, rfl, added.2, (Option.some.inj found).symm, ?_⟩
      show (submitTask (some task) now c).2.allocated = _
      rw [submitTask_apply, if_pos added.1]
    · rw [if_neg added] at found
      exact Or.inl ⟨info', found, rfl⟩
  | abandon =>
    dsimp only at found
    split at found
    · cases found
    · exact Or.inl ⟨info', found, rfl⟩
  | cleanup => exact Or.inl ⟨info', (Option.filter_eq_some_iff.mp found).1, rfl⟩
  | _ =>
    obtain ⟨info, before, rfl⟩ := Option.map_eq_some_iff.mp found
    exact Or.inl ⟨info, before, rfl⟩

/-- The coordinator without its entries. -/
def rest (c : Coordinator) : Coordinator := { c with taskStatus := ∅ }

@[simp] theorem rest_updateInfo (c : Coordinator) (id : Bytes) (change : TaskInfo → TaskInfo) :
    (c.updateInfo id change).rest = c.rest := by
  unfold updateInfo
  split <;> rfl

/-- **What a step does to everything else.** -/
theorem rest_step (c : Coordinator) (step : Step) :
    (c.step step).rest =
      match step with
      | .submit task _ =>
        if c.taskStatus.len < c.config.maxTasks then
          { c.rest with allocated := c.allocated + 1, submitting := task :: c.submitting }
        else c.rest
      | .send task => (c.sendTask task).rest
      | .abandon task => { c.rest with submitting := c.submitting.erase task }
      | .receive => c.receiveTask.rest
      | .start =>
        match c.processor with
        | .received task =>
          { c.rest with
            processor :=
              if (c.taskStatus.lookup (c.heap task).id).isSome then .executing task
              else .waiting }
        | _ => c.rest
      | .select pair => (c.selectPair pair).rest
      | .handle error => (c.handleTask error).rest
      | .record _ =>
        match c.processor with
        | .executed _ _ => { c.rest with processor := .waiting }
        | _ => c.rest
      | .leave => c.leave.rest
      | .stop _ => { c.rest with stopped := true }
      | _ => c.rest := by
  cases step with
  | submit task now =>
    show (submitTask (some task) now c).2.rest = _
    rw [submitTask_apply]
    split <;> rfl
  | abandon task =>
    show (c.abandonTask task).rest = _
    unfold abandonTask
    split
    · rfl
    · rename_i absent
      dsimp only
      rw [List.erase_of_not_mem absent]
      rfl
  | start =>
    show c.startTask.rest = _
    unfold startTask
    cases at_ : c.processor with
    | received task =>
      dsimp only
      cases found : c.taskStatus.lookup (c.heap task).id with
      | none => rfl
      | some =>
        exact congrArg (fun c : Coordinator => { c with processor := .executing task })
          (rest_updateInfo c _ _)
    | _ => rfl
  | record now =>
    show (c.recordOutcome now).rest = _
    unfold recordOutcome
    cases at_ : c.processor with
    | executed =>
      exact congrArg (fun c : Coordinator => { c with processor := .waiting })
        (rest_updateInfo c _ _)
    | _ => rfl
  | setResult taskID result workerID now =>
    have keeps : Call.Keeps rest (setTaskResult taskID result workerID now) := by
      refine keeps_bind keeps_read fun c => ?_
      cases c.taskStatus.lookup taskID with
      | none => exact keeps_fail _
      | some =>
        exact keeps_bind (keeps_lift _) fun _ => keeps_modify fun c => rest_updateInfo c _ _
    exact keeps c
  | stop now =>
    show (c.stop now).rest = _
    unfold stop
    split
    · rename_i stopped
      rw [rest, ← stopped]
    · rfl
  | _ => rfl

/-- The configuration, the tasks, and how many entries were allocated. -/
def core (c : Coordinator) : Config × (ℕ → Task) × ℕ := (c.config, c.heap, c.allocated)

/-- Only a new task and the selection of a pair touch the core. -/
theorem core_step (c : Coordinator) (step : Step) :
    (c.step step).core =
      match step with
      | .submit _ _ =>
        (c.config, c.heap,
          if c.taskStatus.len < c.config.maxTasks then c.allocated + 1 else c.allocated)
      | .select pair => (c.config, (c.selectPair pair).heap, c.allocated)
      | _ => c.core := by
  show (c.step step).rest.core = _
  rw [rest_step]
  cases step <;> dsimp only [sendTask, receiveTask, selectPair, handleTask, leave]
  all_goals
    repeat' split
    all_goals rfl

/-- A task of a region gets the workers of the pair that was selected. -/
theorem heap_selectPair (c : Coordinator) (pair : Except GoError (Bytes × Bytes)) (task : ℕ) :
    (c.selectPair pair).heap task =
      match pair with
      | .ok (sgx, sev) =>
        if c.processor = .executing task ∧ (c.heap task).regionID ≠ [] then
          { c.heap task with workerIDs := [sgx, sev] }
        else c.heap task
      | .error _ => c.heap task := by
  unfold selectPair
  cases c.processor with
  | executing executed =>
    by_cases equal : task = executed
    · subst equal
      by_cases region : (c.heap task).regionID = [] <;> cases pair <;> simp [region]
    · have other : Processor.executing executed ≠ .executing task :=
        fun same => equal (Processor.executing.inj same).symm
      by_cases region : (c.heap executed).regionID = [] <;> cases pair <;>
        simp [region, equal, other]
  | _ => cases pair <;> simp

/-- What no step changes: the configuration, the IDs of the tasks, and the numbers that were
given out. -/
structure Persists (before after : Coordinator) : Prop where
  config : after.config = before.config
  ids : ∀ task, (after.heap task).id = (before.heap task).id
  allocated : before.allocated ≤ after.allocated

/-- **No step changes these.** -/
theorem persists_step (c : Coordinator) (step : Step) : Persists c (c.step step) := by
  have core := c.core_step step
  have same (h : (c.step step).core = c.core) : Persists c (c.step step) := by
    obtain ⟨config, tasks⟩ := Prod.mk.inj h
    obtain ⟨heap, allocated⟩ := Prod.mk.inj tasks
    exact ⟨config, fun task => by rw [heap], allocated.ge⟩
  cases step with
  | submit task =>
    obtain ⟨config, tasks⟩ := Prod.mk.inj core
    obtain ⟨heap, allocated⟩ := Prod.mk.inj tasks
    refine ⟨config, fun task => by rw [heap], ?_⟩
    rw [allocated]
    split
    · exact Nat.le_succ _
    · exact le_rfl
  | select =>
    obtain ⟨config, tasks⟩ := Prod.mk.inj core
    obtain ⟨heap, allocated⟩ := Prod.mk.inj tasks
    refine ⟨config, fun task => ?_, allocated.ge⟩
    rw [heap, heap_selectPair]
    split
    · split <;> rfl
    · rfl
  | _ => exact same core

/-! ## Entries and their numbers -/

/-- A change keeps the number and the task of an entry. -/
theorem change_keeps (c : Coordinator) (id : Bytes) (info : TaskInfo) (step : Step) :
    (step.change c id info).entry = info.entry ∧ (step.change c id info).task = info.task := by
  cases step <;> simp only [Step.change, recorded, timedOut, interrupted]
  all_goals
    repeat' split
    all_goals simp

theorem entry_change (c : Coordinator) (id : Bytes) (info : TaskInfo) (step : Step) :
    (step.change c id info).entry = info.entry :=
  (change_keeps c id info step).1

/-- The numbers of the entries are those of allocations, and no two entries share one. -/
structure Numbered (c : Coordinator) : Prop where
  allocated : ∀ id info, c.taskStatus.lookup id = some info → info.entry < c.allocated
  unique : ∀ id id' info info', c.taskStatus.lookup id = some info →
    c.taskStatus.lookup id' = some info' → info.entry = info'.entry → id = id'

/-- There are no entries at first, -/
theorem numbered_new (config : Config) (heap : ℕ → Task) : Numbered (new config heap) :=
  ⟨fun _ _ found => (nomatch found), fun _ _ _ _ found => (nomatch found)⟩

/-- and a new one gets a number that was not given out. -/
theorem Numbered.step {c : Coordinator} (numbered : Numbered c) (step : Step) :
    Numbered (c.step step) := by
  constructor
  · intro id info' found
    rcases lookup_step_cases found with ⟨info, before, rfl⟩ | ⟨task, now, -, -, rfl, grown⟩
    · rw [entry_change]
      exact (numbered.allocated id info before).trans_le (c.persists_step step).allocated
    · rw [grown]
      exact Nat.lt_succ_self c.allocated
  · intro id id' info info' found found' same
    rcases lookup_step_cases found with ⟨old, before, rfl⟩ | ⟨task, now, submits, rfl, rfl, -⟩
    · rw [entry_change] at same
      rcases lookup_step_cases found' with ⟨old', before', rfl⟩ | ⟨_, _, -, -, rfl, -⟩
      · rw [entry_change] at same
        exact numbered.unique id id' old old' before before' same
      · exact absurd same (numbered.allocated id old before).ne
    · rcases lookup_step_cases found' with ⟨old', before', rfl⟩ | ⟨task', now', submits', rfl, -⟩
      · rw [entry_change] at same
        exact absurd same.symm (numbered.allocated id' old' before').ne
      · cases submits.symm.trans submits'
        rfl

end Coordinator

/-! ## The order of the statuses -/

/-- The ways a status is allowed to move. -/
def TaskStatus.Move (before after : TaskStatus) : Prop :=
  after = before ∨ (before = .pending ∧ after = .running) ∨
    (before = .running ∧ (after = .complete ∨ after = .failed))

instance TaskStatus.decidableMove (before after : TaskStatus) : Decidable (before.Move after) :=
  inferInstanceAs (Decidable (_ ∨ _))

theorem TaskStatus.move_running_iff {status : TaskStatus} :
    status.Move .running ↔ status = .pending ∨ status = .running := by
  cases status <;> decide

def TaskStatus.Settled (status : TaskStatus) : Prop :=
  status = .complete ∨ status = .failed

theorem TaskStatus.not_settled_pending : ¬ TaskStatus.pending.Settled := by
  rintro (equal | equal) <;> cases equal

theorem TaskStatus.not_settled_running : ¬ TaskStatus.running.Settled := by
  rintro (equal | equal) <;> cases equal

theorem TaskStatus.move_over_iff {status final : TaskStatus} (settled : final.Settled) :
    status.Move final ↔ status = .running ∨ status = final := by
  rcases settled with rfl | rfl <;> cases status <;> decide

theorem TaskStatus.Settled.eq_of_move {before after : TaskStatus} (settled : before.Settled)
    (move : before.Move after) : after = before := by
  rcases settled with rfl | rfl <;> cases after <;> revert move <;> decide

/-- Every entry that is still there has moved as it is allowed to. -/
def Orderly (before after : GoMap Bytes TaskInfo) : Prop :=
  ∀ id id' info info', before.lookup id = some info → after.lookup id' = some info' →
    info'.entry = info.entry → info.status.Move info'.status

/-- What a step needs to keep the order: a task that starts is not over, an outcome is recorded for
a running task or one that has it, and the tasks of a worker that times out are running or have
failed. -/
def Step.InOrder (c : Coordinator) : Step → Prop
  | .start => ∀ task info, c.processor = .received task →
      c.taskStatus.lookup (c.heap task).id = some info →
        info.status = .pending ∨ info.status = .running
  | .record _ => ∀ task error info, c.processor = .executed task error →
      c.taskStatus.lookup (c.heap task).id = some info →
        info.status = .running ∨ info.status = if error.isSome then .failed else .complete
  | .workerTimeout workerID _ => ∀ id info, c.taskStatus.lookup id = some info →
      workerID ∈ (c.heap info.task).workerIDs →
        info.status = .running ∨ info.status = .failed
  | _ => True

/-- The outcome decides the status that is recorded. -/
theorem status_recorded (error : Option GoError) (now : Time) (info : TaskInfo) :
    (recorded error now info).status =
      if error.isSome then .failed else .complete := by
  cases error <;> rfl

theorem settled_outcome (error : Option GoError) :
    (if error.isSome then TaskStatus.failed else .complete).Settled := by
  cases error
  exacts [Or.inl rfl, Or.inr rfl]

variable {c : Coordinator}

/-- A step that is in order moves the status of every entry as it may, -/
theorem Step.InOrder.move {step : Step} (inOrder : step.InOrder c) {id : Bytes} {info : TaskInfo}
    (found : c.taskStatus.lookup id = some info) :
    info.status.Move (step.change c id info).status := by
  cases step with
  | start =>
    cases at_ : c.processor with
    | received task =>
      by_cases equal : id = (c.heap task).id
      · subst equal
        simpa [Step.change, at_] using
          TaskStatus.move_running_iff.mpr (inOrder task info at_ found)
      · simp [Step.change, at_, equal, TaskStatus.Move]
    | _ => simp [Step.change, at_, TaskStatus.Move]
  | record =>
    cases at_ : c.processor with
    | executed task error =>
      by_cases equal : id = (c.heap task).id
      · subst equal
        have recordable := inOrder task error info at_ found
        rw [← TaskStatus.move_over_iff (settled_outcome error)] at recordable
        simpa [Step.change, at_, status_recorded] using recordable
      · simp [Step.change, at_, equal, TaskStatus.Move]
    | _ => simp [Step.change, at_, TaskStatus.Move]
  | setResult =>
    simp only [Step.change]
    split
    · rename_i running
      split
      · exact Or.inr (Or.inr ⟨running.2, Or.inl rfl⟩)
      · exact Or.inl rfl
    · exact Or.inl rfl
  | workerTimeout =>
    simp only [Step.change, timedOut]
    split
    · rename_i listed
      exact (TaskStatus.move_over_iff (Or.inr rfl)).mpr (inOrder id info found listed)
    · exact Or.inl rfl
  | stop =>
    simp only [Step.change, interrupted]
    split
    · exact Or.inl rfl
    · split
      · rename_i running
        exact Or.inr (Or.inr ⟨running, Or.inr rfl⟩)
      · exact Or.inl rfl
  | _ => exact Or.inl rfl

/-- and **only such a step does**. -/
theorem orderly_step_iff (numbered : c.Numbered) (step : Step) :
    Orderly c.taskStatus (c.step step).taskStatus ↔ step.InOrder c := by
  constructor
  · intro orderly
    -- the steps that matter here leave every entry under its ID
    have moved {id : Bytes} {info : TaskInfo} (found : c.taskStatus.lookup id = some info)
        (after : (c.step step).taskStatus.lookup id =
          (c.taskStatus.lookup id).map fun info => step.change c id info) :
        info.status.Move (step.change c id info).status := by
      rw [found, Option.map_some] at after
      exact orderly id id info _ found after (entry_change c id info step)
    cases step with
    | start =>
      intro task info at_ found
      have move := moved found (lookup_startTask c _)
      simp only [Step.change, at_, if_true] at move
      exact TaskStatus.move_running_iff.mp move
    | record now =>
      intro task error info at_ found
      have move := moved found (lookup_recordOutcome c now _)
      simp only [Step.change, at_, if_true, status_recorded] at move
      exact (TaskStatus.move_over_iff (settled_outcome error)).mp move
    | workerTimeout =>
      intro id info found listed
      have move := moved found (GoMap.lookup_mapValues _ _ _)
      simp only [Step.change, timedOut, if_pos listed] at move
      exact (TaskStatus.move_over_iff (Or.inr rfl)).mp move
    | _ => trivial
  · intro inOrder id id' info info' found found' same
    rcases lookup_step_cases found' with ⟨old, before, rfl⟩ | ⟨_, _, -, -, rfl, -⟩
    · rw [entry_change] at same
      cases numbered.unique id' id old info before found same
      cases before.symm.trans found
      exact inOrder.move before
    · exact absurd same.symm (numbered.allocated id info found).ne

/-! ## Runs -/

/-- **The order of the statuses over a run.** -/
structure OrderlyRun (c : Coordinator) (steps : List Step) : Prop where
  /-- Every step moves the statuses as they are allowed to. -/
  moves : ∀ earlier step later, steps = earlier ++ step :: later →
    Orderly (run Coordinator.step c earlier).taskStatus
      ((run Coordinator.step c earlier).step step).taskStatus
  /-- The status of a task that is over does not change while its entry is there. -/
  settled : ∀ earlier between later, steps = earlier ++ between ++ later →
    ∀ id id' info info',
      (run step c earlier).taskStatus.lookup id = some info →
      (run step c (earlier ++ between)).taskStatus.lookup id' = some info' →
        info'.entry = info.entry → info.status.Settled → info'.status = info.status

/-- Every step of the run is in order. -/
def InOrderRun (c : Coordinator) (steps : List Step) : Prop :=
  ∀ earlier step later, steps = earlier ++ step :: later →
    step.InOrder (run Coordinator.step c earlier)

/-- An entry with an older number was there before the run. -/
theorem lookup_of_lookup_run (steps : List Step) {id : Bytes} {info' : TaskInfo}
    (found : (run step c steps).taskStatus.lookup id = some info')
    (older : info'.entry < c.allocated) :
    ∃ info, c.taskStatus.lookup id = some info ∧ info.entry = info'.entry := by
  induction steps generalizing c with
  | nil => exact ⟨info', found, rfl⟩
  | cons step steps ih =>
    obtain ⟨next, foundNext, same⟩ := ih found (older.trans_le (c.persists_step step).allocated)
    rcases lookup_step_cases foundNext with
      ⟨info, before, rfl⟩ | ⟨task, now, -, -, rfl, -⟩
    · exact ⟨info, before, (entry_change c id info step).symm.trans same⟩
    · exact absurd same older.ne'

/-- **The status of a task that is over stays**, over every run in order. -/
theorem settled_run (numbered : c.Numbered) {steps : List Step} (inOrder : InOrderRun c steps)
    {id id' : Bytes} {info info' : TaskInfo} (found : c.taskStatus.lookup id = some info)
    (found' : (run step c steps).taskStatus.lookup id' = some info')
    (same : info'.entry = info.entry) (settled : info.status.Settled) :
    info'.status = info.status := by
  induction steps generalizing c id info with
  | nil =>
    cases numbered.unique id' id info' info found' found same
    cases found.symm.trans found'
    rfl
  | cons step steps ih =>
    -- the entry is there after the first step, with the same status
    have older : info'.entry < c.allocated := same ▸ numbered.allocated id info found
    obtain ⟨next, foundNext, sameNext⟩ :=
      lookup_of_lookup_run steps found' (older.trans_le (c.persists_step step).allocated)
    rcases lookup_step_cases foundNext with
      ⟨old, before, rfl⟩ | ⟨task, now, -, -, rfl, -⟩
    · have number := entry_change c id' old step
      cases numbered.unique id' id old info before found
        (number.symm.trans (sameNext.trans same))
      cases found.symm.trans before
      have first : step.InOrder c := inOrder [] step steps rfl
      have stays : (step.change c id' info).status = info.status :=
        settled.eq_of_move (first.move before)
      have tail : InOrderRun (c.step step) steps := fun earlier later rest equal =>
        inOrder (step :: earlier) later rest (congrArg (step :: ·) equal)
      refine (ih (numbered.step step) tail foundNext found' sameNext.symm ?_).trans stays
      rw [stays]
      exact settled
    · exact absurd sameNext older.ne'

/-- **When the statuses keep their order.** In every interleaving from a new coordinator, every
status moves from pending to running to complete or failed and stays there, exactly when every step
is in order. -/
theorem orderlyRun_iff (config : Config) (heap : ℕ → Task) (steps : List Step) :
    OrderlyRun (.new config heap) steps ↔ InOrderRun (.new config heap) steps := by
  have numbered (earlier : List Step) :
      (run step (.new config heap) earlier).Numbered :=
    run_preserves (fun _ step holds => holds.step step) (numbered_new config heap) _
  constructor
  · intro orderly earlier step later equal
    exact (orderly_step_iff (numbered earlier) step).mp (orderly.moves earlier step later equal)
  · intro inOrder
    constructor
    · intro earlier step later equal
      exact (orderly_step_iff (numbered earlier) step).mpr (inOrder earlier step later equal)
    · intro earlier between later equal id id' info info' found found' same settled
      rw [run_append] at found'
      refine settled_run (numbered earlier) ?_ found found' same settled
      intro first step rest split
      rw [← run_append]
      refine inOrder (earlier ++ first) step (rest ++ later) ?_
      rw [equal, split]
      simp

/-! ### One task -/

def taskT : Task := { id := ascii "t", workerIDs := [ascii "w"], data := [], regionID := [] }

def coordinatorT : Coordinator :=
  .new { maxTasks := 1, taskCleanupInterval := 1 } fun _ => taskT

def completeT : List Step :=
  [.submit 0 Time.zero, .send 0, .receive, .start, .select (.ok ([], [])), .handle none,
    .record Time.zero]

def Coordinator.statusOf (c : Coordinator) (id : Bytes) : Option (ℕ × TaskStatus) :=
  (c.taskStatus.lookup id).map fun info => (info.entry, info.status)

/-- After the task is complete its worker times out, and then it has failed. -/
theorem not_orderlyRun_timeout :
    let steps := completeT ++ [.workerTimeout (ascii "w") Time.zero]
    (run step coordinatorT completeT).statusOf (ascii "t") = some (0, .complete) ∧
      (run Coordinator.step coordinatorT steps).statusOf (ascii "t") = some (0, .failed) ∧
      ¬ OrderlyRun coordinatorT steps := by
  intro steps
  have complete : (run step coordinatorT completeT).statusOf (ascii "t") =
      some (0, .complete) := by decide +kernel
  have failed : (run step coordinatorT steps).statusOf (ascii "t") =
      some (0, .failed) := by decide +kernel
  refine ⟨complete, failed, fun orderly => ?_⟩
  obtain ⟨info, found, first⟩ := Option.map_eq_some_iff.mp complete
  obtain ⟨info', found', second⟩ := Option.map_eq_some_iff.mp failed
  obtain ⟨number, status⟩ := Prod.mk.inj first
  obtain ⟨number', status'⟩ := Prod.mk.inj second
  have stays := orderly.settled completeT [.workerTimeout (ascii "w") Time.zero] []
    (List.append_nil steps).symm _ _ info info' found found' (number'.trans number.symm)
    (Or.inl status)
  rw [status, status'] at stays
  cases stays

end Coordination

end Aristo
