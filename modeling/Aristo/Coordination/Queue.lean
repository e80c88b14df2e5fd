import Aristo.Coordination.Tasks
import Mathlib.Tactic.Abel

/-!
# The queue of tasks

A task is in flight from the moment `SubmitTask` has put its entry into the map until `processTasks`
has recorded its outcome, and it is waiting until `processTasks` starts it.

The invariant is `Tracked`: no two tasks in flight have the same ID, and every waiting task has a
pending entry of its own.  Every step keeps it as long as `SubmitTask` is not called with the ID of
a task in flight (`Tracked.step`), and `bounded_of_distinct` and `noneDropped_iff` follow from it.
-/

namespace Aristo

open GoBase Multiset Finmap

namespace Coordination

/-! ## Where the tasks are -/

/-- The task that was received and has not been started. -/
def Processor.unstarted : Processor → Multiset ℕ
  | .received task => {task}
  | _ => 0

/-- The task that `processTasks` is at work on. -/
def Processor.inHand : Processor → Multiset ℕ
  | .received task => {task}
  | .executing task => {task}
  | .handling task => {task}
  | .executed task _ => {task}
  | _ => 0

/-- The steps of `SubmitTask`, `processTasks` and `cleanupTasks`. -/
def Step.Basic : Step → Prop
  | .setResult _ _ _ _ => False
  | .workerTimeout _ _ => False
  | .stop _ => False
  | _ => True

namespace Coordinator

/-- The tasks that were submitted and have not been started. -/
def waiting (c : Coordinator) : Multiset ℕ :=
  c.submitting + c.tasks + c.processor.unstarted

/-- The tasks that were submitted and whose outcome has not been recorded. -/
def inFlight (c : Coordinator) : Multiset ℕ :=
  c.submitting + c.tasks + c.processor.inHand

theorem waiting_le_inFlight (c : Coordinator) : c.waiting ≤ c.inFlight := by
  have unstarted : c.processor.unstarted ≤ c.processor.inHand := by
    cases c.processor with
    | received => exact le_rfl
    | _ => exact zero_le _
  exact Multiset.add_le_add_left unstarted

/-- The task whose entry a step adds, deletes or moves on. -/
def target (c : Coordinator) : Step → Option ℕ
  | .submit task _ => if c.taskStatus.len < c.config.maxTasks then some task else none
  | .abandon task => if task ∈ c.submitting then some task else none
  | .start =>
    match c.processor with
    | .received task => some task
    | _ => none
  | .record _ =>
    match c.processor with
    | .executed task _ => some task
    | _ => none
  | _ => none

variable {c : Coordinator}

/-- The four steps that are about one task. -/
theorem target_cases {step : Step} {task : ℕ} (found : c.target step = some task) :
    (∃ now, step = .submit task now ∧ c.taskStatus.len < c.config.maxTasks) ∨
      (step = .abandon task ∧ task ∈ c.submitting) ∨
      (step = .start ∧ c.processor = .received task) ∨
      ∃ now error, step = .record now ∧ c.processor = .executed task error := by
  cases step <;> simp only [target, reduceCtorEq] at found
  all_goals
    split at found <;> cases found
    simp_all

/-! ## What a step does to the tasks in flight -/

/-- No task comes in, and the task that the step is about is no longer waiting. -/
structure Drains (c : Coordinator) (target : Option ℕ) (after : Coordinator) : Prop where
  waiting : after.waiting ≤ c.waiting
  inFlight : after.inFlight ≤ c.inFlight
  target : ∀ task, target = some task → task ::ₘ after.waiting ≤ c.inFlight

/-- Entries alone do not matter. -/
theorem drains_of_rest_eq {after : Coordinator} (same : after.rest = c.rest) :
    Drains c none after :=
  ⟨(congrArg Coordinator.waiting same).le, (congrArg Coordinator.inFlight same).le,
    fun _ found => nomatch found⟩

/-- A task in hand is not waiting any more. -/
theorem drains_of_processor {processor : Processor} (unstarted : processor.unstarted = 0)
    (inHand : processor.inHand ≤ c.processor.inHand) {target : Option ℕ}
    (task : ∀ task, target = some task → c.processor.inHand = {task}) :
    Drains c target { c with processor } where
  waiting := by
    rw [Coordinator.waiting, unstarted]
    exact Multiset.add_le_add_left (zero_le _)
  inFlight := Multiset.add_le_add_left inHand
  target := by
    intro task' found
    rw [Coordinator.inFlight, task task' found, Coordinator.waiting, unstarted, add_zero,
      ← singleton_add, add_comm]

/-- A call that goes on leaves its place. -/
theorem cons_erase_submitting {task : ℕ} (mem : task ∈ c.submitting) :
    task ::ₘ ((c.submitting.erase task : List ℕ) : Multiset ℕ) = c.submitting := by
  rw [← coe_erase, cons_erase (mem_coe.mpr mem)]

/-- A task moves into the channel. -/
theorem drains_sendTask (c : Coordinator) (task : ℕ) : Drains c none (c.sendTask task) := by
  unfold sendTask
  split
  · rename_i possible
    have moved : ((c.submitting.erase task : List ℕ) : Multiset ℕ) + (c.tasks ++ [task] : List ℕ) =
        c.submitting + c.tasks := by
      rw [← cons_erase_submitting possible.1, ← singleton_add, ← coe_add, coe_singleton]
      abel
    exact ⟨(congrArg (· + c.processor.unstarted) moved).le,
      (congrArg (· + c.processor.inHand) moved).le, fun _ found => nomatch found⟩
  · exact drains_of_rest_eq rfl

/-- A task that is given up is out of flight. -/
theorem cons_abandonTask {task : ℕ} (mem : task ∈ c.submitting) :
    task ::ₘ (c.abandonTask task).waiting = c.waiting ∧
      task ::ₘ (c.abandonTask task).inFlight = c.inFlight := by
  unfold abandonTask waiting inFlight
  rw [if_pos mem]
  simp only [← cons_add, cons_erase_submitting mem, and_self]

/-- A task is given up, -/
theorem drains_abandonTask (c : Coordinator) (task : ℕ) :
    Drains c (c.target (.abandon task)) (c.abandonTask task) := by
  show Drains c (if task ∈ c.submitting then some task else none) _
  by_cases mem : task ∈ c.submitting
  · obtain ⟨waits, flies⟩ := cons_abandonTask mem
    rw [if_pos mem]
    refine ⟨waits ▸ le_cons_self _ _, flies ▸ le_cons_self _ _, ?_⟩
    rintro _ ⟨rfl⟩
    exact waits.trans_le c.waiting_le_inFlight
  · rw [if_neg mem, abandonTask, if_neg mem]
    exact drains_of_rest_eq rfl

/-- or is received, -/
theorem drains_receiveTask (c : Coordinator) : Drains c none c.receiveTask := by
  unfold receiveTask
  split
  · rename_i task tasks at_ queued
    have moved : (c.submitting + tasks + {task} : Multiset ℕ) = c.submitting + c.tasks := by
      rw [queued, ← cons_coe, ← singleton_add]
      abel
    have less (hand : Multiset ℕ) := moved.le.trans (le_add_right _ hand)
    exact ⟨less _, less _, fun _ found => nomatch found⟩
  · exact drains_of_rest_eq rfl

theorem Drains.congr {after after' : Coordinator} {target : Option ℕ}
    (drains : Drains c target after) (same : after'.rest = after.rest) :
    Drains c target after' where
  waiting := (congrArg Coordinator.waiting same).trans_le drains.waiting
  inFlight := (congrArg Coordinator.inFlight same).trans_le drains.inFlight
  target task found := by
    show task ::ₘ after'.rest.waiting ≤ _
    rw [same]
    exact drains.target task found

/-- or started or skipped, -/
theorem drains_startTask (c : Coordinator) : Drains c (c.target .start) c.startTask := by
  have moved := c.rest_step .start
  unfold target
  cases at_ : c.processor with
  | received task =>
    rw [at_] at moved
    dsimp only at moved
    have inHand : c.processor.inHand = {task} := by
      rw [at_]
      rfl
    have goes (processor : Processor) (unstarted : processor.unstarted = 0)
        (less : processor.inHand ≤ {task}) : Drains c (some task) { c with processor } := by
      refine drains_of_processor unstarted (less.trans_eq inHand.symm) ?_
      rintro _ ⟨rfl⟩
      exact inHand
    cases found : c.taskStatus.lookup (c.heap task).id <;> rw [found] at moved
    · exact (goes .waiting rfl (zero_le _)).congr moved
    · exact (goes (.executing task) rfl le_rfl).congr moved
  | _ =>
    rw [at_] at moved
    exact drains_of_rest_eq moved

/-- or handed to workers, -/
theorem drains_selectPair (c : Coordinator) (pair : Except GoError (Bytes × Bytes)) :
    Drains c none (c.selectPair pair) := by
  have goes {processor : Processor} {task : ℕ} (at_ : c.processor = .executing task)
      (unstarted : processor.unstarted = 0) (inHand : processor.inHand = {task})
      (heap : ℕ → Task) : Drains c none { c with processor, heap } := by
    have drains : Drains c none { c with processor } := by
      refine drains_of_processor unstarted ?_ fun _ found => nomatch found
      rw [at_, inHand]
      exact le_rfl
    exact ⟨drains.waiting, drains.inFlight, drains.target⟩
  unfold selectPair
  cases at_ : c.processor with
  | executing =>
    dsimp only
    split
    · exact goes at_ rfl rfl c.heap
    · cases pair with
      | error => exact goes at_ rfl rfl c.heap
      | ok => exact goes at_ rfl rfl _
  | _ => exact drains_of_rest_eq rfl

/-- or over. -/
theorem drains_recordOutcome (c : Coordinator) (now : Time) :
    Drains c (c.target (.record now)) (c.recordOutcome now) := by
  have moved := c.rest_step (.record now)
  unfold target
  cases at_ : c.processor with
  | executed =>
    rw [at_] at moved
    refine Drains.congr (drains_of_processor rfl (zero_le _) ?_) moved
    rintro _ ⟨rfl⟩
    rw [at_]
    rfl
  | _ =>
    rw [at_] at moved
    exact drains_of_rest_eq moved

/-- **What a step does to the tasks in flight.**  One comes in when it is submitted and its entry
has room. -/
theorem flow_step (c : Coordinator) (step : Step) :
    (∃ task now, step = .submit task now ∧ c.target step = some task ∧
      (c.step step).waiting = task ::ₘ c.waiting ∧
      (c.step step).inFlight = task ::ₘ c.inFlight) ∨
    Drains c (c.target step) (c.step step) := by
  cases step
  case submit task now =>
    have moved := c.rest_step (.submit task now)
    dsimp only at moved
    by_cases room : c.taskStatus.len < c.config.maxTasks
    · rw [if_pos room] at moved
      refine Or.inl ⟨task, now, rfl, if_pos room, ?_, ?_⟩
      · refine (congrArg waiting moved).trans ?_
        simp only [waiting, rest, ← cons_coe, cons_add]
      · refine (congrArg inFlight moved).trans ?_
        simp only [inFlight, rest, ← cons_coe, cons_add]
    · rw [if_neg room] at moved
      refine Or.inr ?_
      rw [target, if_neg room]
      exact drains_of_rest_eq moved
  all_goals right
  case send task => exact c.drains_sendTask task
  case abandon task => exact c.drains_abandonTask task
  case receive => exact c.drains_receiveTask
  case start => exact c.drains_startTask
  case select pair => exact c.drains_selectPair pair
  case handle error =>
    show Drains c none (c.handleTask error)
    unfold handleTask
    split
    · next task at_ =>
        refine drains_of_processor rfl ?_ (by rintro _ ⟨⟩)
        rw [at_]
        exact le_rfl
    · exact drains_of_rest_eq rfl
  case record now => exact c.drains_recordOutcome now
  case leave =>
    show Drains c none c.leave
    unfold leave
    repeat' split
    · exact drains_of_processor rfl (zero_le _) (by rintro _ ⟨⟩)
    all_goals exact drains_of_rest_eq rfl
  case setResult | workerTimeout | cleanup => exact drains_of_rest_eq (c.rest_step _)
  case stop now =>
    have moved := c.rest_step (.stop now)
    exact ⟨(congrArg waiting moved).le, (congrArg inFlight moved).le, by rintro _ ⟨⟩⟩

/-- The entry of a task that is not over stays as it is, unless the step is about the task or a
timeout. -/
theorem lookup_step_of_unsettled {step : Step} {id : Bytes} {info : TaskInfo}
    (found : c.taskStatus.lookup id = some info) (unsettled : ¬ info.status.Settled)
    (apart : ∀ task, c.target step = some task → id ≠ (c.heap task).id) (quiet : step.Basic ∨
      info.status = .pending ∧ ∀ workerID now, step ≠ .workerTimeout workerID now) :
    (c.step step).taskStatus.lookup id = some info := by
  rw [lookup_step]
  cases step with
  | submit task | abandon task =>
    dsimp only
    rw [if_neg ?_, found]
    rintro ⟨possible, equal⟩
    exact apart task (if_pos possible) equal
  | start | record =>
    dsimp only
    rw [found, Option.map_some, Step.change]
    split
    · rw [if_neg (apart _ (by simp only [target, *]))]
    · rfl
  | setResult =>
    obtain ⟨pending, -⟩ := quiet.resolve_left not_false
    simp [found, Step.change, pending]
  | workerTimeout workerID now =>
    exact absurd rfl ((quiet.resolve_left not_false).2 workerID now)
  | cleanup now =>
    have kept : ¬ Expired c.config.taskCleanupInterval now info := fun expired =>
      unsettled expired.1
    simp [found, kept]
  | stop =>
    obtain ⟨pending, -⟩ := quiet.resolve_left not_false
    simp [found, Step.change, interrupted, pending]
  | _ =>
    dsimp only
    rw [found]
    rfl

/-! ## The invariant -/

/-- **The invariant of the queue.** -/
structure Tracked (c : Coordinator) : Prop where
  /-- No two tasks in flight have the same ID. -/
  distinct : (c.inFlight.map fun task => (c.heap task).id).Nodup
  /-- Every task that waits has a pending entry of its own. -/
  pending : ∀ task ∈ c.waiting, ∃ info, c.taskStatus.lookup (c.heap task).id = some info ∧
    info.task = task ∧ info.status = .pending

/-- No task is in flight at first. -/
theorem tracked_new (config : Config) (heap : ℕ → Task) : Tracked (new config heap) :=
  ⟨nodup_zero, fun _ mem => (notMem_zero _ mem).elim⟩

end Coordinator

open Coordinator

/-- The step is not the timeout of a worker, and does not submit the ID of a task in flight. -/
def Step.Apart (c : Coordinator) : Step → Prop
  | .submit task _ => c.taskStatus.len < c.config.maxTasks →
      ∀ other ∈ c.inFlight, (c.heap other).id ≠ (c.heap task).id
  | .workerTimeout _ _ => False
  | _ => True

namespace Coordinator

/-- **Every step keeps it.** -/
theorem Tracked.step {c : Coordinator} (tracked : Tracked c) {step : Step} (apart : step.Apart c) :
    Tracked (c.step step) := by
  have ids : (fun task => ((c.step step).heap task).id) = fun task => (c.heap task).id :=
    funext (c.persists_step step).ids
  have calm (workerID : Bytes) (now : Time) : step ≠ .workerTimeout workerID now := by
    rintro rfl
    exact apart
  -- a task that was waiting keeps its entry
  have kept {task : ℕ} (mem : task ∈ c.waiting)
      (other : ∀ target, c.target step = some target → (c.heap task).id ≠ (c.heap target).id) :
      ∃ info, (c.step step).taskStatus.lookup ((c.step step).heap task).id = some info ∧
        info.task = task ∧ info.status = .pending := by
    obtain ⟨info, found, own, pending⟩ := tracked.pending task mem
    rw [(c.persists_step step).ids]
    have unsettled : ¬ info.status.Settled := by
      rw [pending]
      exact TaskStatus.not_settled_pending
    exact ⟨info, lookup_step_of_unsettled found unsettled other (Or.inr ⟨pending, calm⟩), own,
      pending⟩
  rcases c.flow_step step with ⟨task, now, rfl, target, waits, flies⟩ | drains
  · have room : c.taskStatus.len < c.config.maxTasks := (Option.ite_none_right_eq_some.mp target).1
    constructor
    · rw [ids, flies, map_cons, nodup_cons]
      refine ⟨fun mem => ?_, tracked.distinct⟩
      obtain ⟨other, inFlight, equal⟩ := mem_map.mp mem
      exact apart room other inFlight equal
    · intro task' mem
      rw [waits] at mem
      rcases mem_cons.mp mem with rfl | mem
      · refine ⟨c.newInfo task' now, ?_, rfl, rfl⟩
        rw [(c.persists_step _).ids, lookup_step]
        exact if_pos ⟨room, rfl⟩
      · refine kept mem fun other found => ?_
        cases target.symm.trans found
        exact apart room task' (mem_of_le c.waiting_le_inFlight mem)
  · constructor
    · rw [ids]
      exact nodup_of_le (map_le_map drains.inFlight) tracked.distinct
    · intro task mem
      refine kept (mem_of_le drains.waiting mem) fun target found equal => ?_
      have distinct := nodup_of_le (map_le_map (drains.target target found))
        tracked.distinct
      rw [map_cons, nodup_cons] at distinct
      exact distinct.1 (mem_map.mpr ⟨task, mem, equal⟩)

/-- No step adds an entry when there are `MaxTasks`. -/
theorem len_step {c : Coordinator} (bound : c.taskStatus.len ≤ c.config.maxTasks) (step : Step) :
    (c.step step).taskStatus.len ≤ (c.step step).config.maxTasks := by
  rw [(c.persists_step step).config]
  by_cases submits : ∃ task now, step = .submit task now
  · obtain ⟨task, now, rfl⟩ := submits
    show (submitTask (some task) now c).2.taskStatus.len ≤ _
    rw [submitTask_apply]
    split
    · rename_i room
      exact (GoMap.len_insert_le _ _ _).trans room
    · exact bound
  · refine (GoMap.len_le_len fun id mem => ?_).trans bound
    obtain ⟨info', found⟩ := mem_iff.mp mem
    rcases lookup_step_cases found with ⟨info, before, -⟩ | ⟨task, now, equal, -⟩
    · exact mem_of_lookup_eq_some before
    · exact absurd ⟨task, now, equal⟩ submits

end Coordinator

/-! ## Distinct IDs -/

def Step.submitted : Step → Option ℕ
  | .submit task _ => some task
  | _ => none

def submitted (steps : List Step) : List ℕ :=
  steps.filterMap Step.submitted

/-- What is in flight was submitted. -/
theorem mem_submitted_of_mem_inFlight (config : Config) (heap : ℕ → Task) (steps : List Step) :
    ∀ task ∈ (run step (.new config heap) steps).inFlight, task ∈ submitted steps := by
  induction steps using List.reverseRecOn with
  | nil => exact fun _ mem => (notMem_zero _ mem).elim
  | append_singleton steps step ih =>
    intro task mem
    rw [run_append, run_cons, run_nil] at mem
    rw [submitted, List.filterMap_append, List.mem_append]
    rcases flow_step _ step with ⟨task', now, rfl, -, -, flies⟩ | drains
    · rw [flies] at mem
      rcases mem_cons.mp mem with rfl | mem
      · exact Or.inr List.mem_cons_self
      · exact Or.inl (ih task mem)
    · exact Or.inl (ih task (mem_of_le drains.inFlight mem))

variable {steps : List Step}

/-- Calls with distinct IDs are apart. -/
theorem apart_of_distinct {config : Config} {heap : ℕ → Task}
    (distinct : ((submitted steps).map fun task => (heap task).id).Nodup)
    (calm : ∀ workerID now, Step.workerTimeout workerID now ∉ steps) :
    Along step (fun c step => step.Apart c) (.new config heap) steps := by
  rintro earlier step later rfl
  cases step with
  | submit =>
    intro _ other mem
    have ids (task : ℕ) :
        ((run step (.new config heap) earlier).heap task).id = (heap task).id := by
      have preserved (c : Coordinator) (step : Step) : (c.heap task).id = (heap task).id →
          ((c.step step).heap task).id = (heap task).id := ((c.persists_step step).ids task).trans
      exact run_preserves preserved rfl earlier
    rw [ids, ids]
    have before := mem_submitted_of_mem_inFlight config heap earlier other mem
    rw [submitted, List.filterMap_append, List.map_append] at distinct
    exact (List.nodup_append.mp distinct).2.2 _ (List.mem_map_of_mem before) _
      List.mem_cons_self
  | workerTimeout workerID now =>
    exact calm workerID now (List.mem_append_right _ List.mem_cons_self)
  | _ => trivial

variable {c : Coordinator}

/-- The invariant holds over every run of steps that are apart. -/
theorem Coordinator.Tracked.run (tracked : c.Tracked)
    (apart : Along Coordinator.step (fun c step => step.Apart c) c steps) :
    (GoBase.run Coordinator.step c steps).Tracked :=
  run_along (fun _ _ apart tracked => tracked.step apart) tracked apart

def Coordinator.pendingCount (c : Coordinator) : ℕ :=
  (c.taskStatus.filterValues fun info => info.status = .pending).len

/-- **What the queue promises.** -/
structure Bounded (c : Coordinator) : Prop where
  /-- There are at most `MaxTasks` entries. -/
  entries : c.taskStatus.len ≤ c.config.maxTasks
  /-- Every task in the channel has a pending entry. -/
  queued : ∀ task ∈ c.tasks, ∃ info, c.taskStatus.lookup (c.heap task).id = some info ∧
    info.status = .pending
  /-- The tasks in the channel and those on their way to it are no more than the pending
  entries. -/
  counted : c.tasks.length + c.submitting.length ≤ c.pendingCount
  /-- A call at its `select` can send. -/
  sends : ∀ task ∈ c.submitting, (c.sendTask task).tasks = c.tasks ++ [task]

/-- Every task that waits has a pending entry of its own. -/
theorem Coordinator.Tracked.card_waiting_le (tracked : c.Tracked) :
    c.waiting.card ≤ c.pendingCount := by
  have distinct := nodup_of_le (map_le_map c.waiting_le_inFlight)
    tracked.distinct
  rw [← card_map fun task => (c.heap task).id]
  refine GoMap.card_le_len distinct fun id mem => ?_
  obtain ⟨task, waits, rfl⟩ := mem_map.mp mem
  obtain ⟨info, found, -, pending⟩ := tracked.pending task waits
  refine mem_of_lookup_eq_some (b := info) ?_
  rw [GoMap.lookup_filterValues, found]
  simp [pending]

/-- The promises follow from the invariant. -/
theorem Coordinator.Tracked.bounded (tracked : c.Tracked)
    (entries : c.taskStatus.len ≤ c.config.maxTasks) : Bounded c := by
  have counted : c.tasks.length + c.submitting.length ≤ c.pendingCount := by
    refine le_trans ?_ tracked.card_waiting_le
    simp only [waiting, card_add, coe_card]
    omega
  refine ⟨entries, fun task mem => ?_, counted, fun task mem => ?_⟩
  · have waits : task ∈ c.waiting := by simp [waiting, mem]
    obtain ⟨info, found, -, pending⟩ := tracked.pending task waits
    exact ⟨info, found, pending⟩
  · have some_ : 0 < c.submitting.length := List.length_pos_of_mem mem
    have free : c.tasks.length < c.config.maxTasks := by
      have : c.pendingCount ≤ c.taskStatus.len := by
        refine GoMap.len_le_len fun id mem => ?_
        obtain ⟨info, found⟩ := mem_iff.mp mem
        rw [GoMap.lookup_filterValues] at found
        exact mem_of_lookup_eq_some (Option.filter_eq_some_iff.mp found).1
      omega
    rw [sendTask, if_pos ⟨mem, free⟩]

/-- **The queue is bounded.**  In every interleaving of calls with pairwise distinct IDs, with
`processTasks`, `SetTaskResult`, the ticks of `cleanupTasks` and `Stop`. -/
theorem bounded_of_distinct (config : Config) (heap : ℕ → Task) (steps : List Step)
    (distinct : ((submitted steps).map fun task => (heap task).id).Nodup)
    (calm : ∀ workerID now, Step.workerTimeout workerID now ∉ steps) :
    Bounded (run step (.new config heap) steps) := by
  have tracked : (run Coordinator.step (.new config heap) steps).Tracked :=
    (Coordinator.tracked_new config heap).run (apart_of_distinct distinct calm)
  have preserved (c : Coordinator) (step : Step) : c.taskStatus.len ≤ c.config.maxTasks →
      (c.step step).taskStatus.len ≤ (c.step step).config.maxTasks :=
    fun bound => len_step bound step
  exact tracked.bounded (run_preserves preserved (Nat.zero_le _) steps)

def heapTU : ℕ → Task
  | 0 => taskT
  | _ => { taskT with id := ascii "u" }

/-- Both tasks are submitted, and the first one is executed while the second one waits. -/
def bothSent : List Step :=
  [.submit 0 Time.zero, .submit 1 Time.zero, .send 0, .receive, .send 1, .start]

/-- Both tasks are in flight at the end, one of them in the channel. -/
theorem bounded_bothSent :
    let c := run step (.new { maxTasks := 2, taskCleanupInterval := 1 } heapTU) bothSent
    c.tasks = [1] ∧ c.processor = .executing 0 ∧ Bounded c := by
  refine ⟨by decide +kernel, by decide +kernel, ?_⟩
  refine bounded_of_distinct _ heapTU bothSent (by decide +kernel) ?_
  simp [bothSent]

/-! ## Accepted tasks -/

namespace Coordinator

/-- A task whose outcome is recorded is out of flight. -/
theorem cons_recordOutcome {c : Coordinator} {task : ℕ} {error : Option GoError}
    (at_ : c.processor = .executed task error) (now : Time) :
    task ::ₘ (c.recordOutcome now).inFlight = c.inFlight := by
  have moved := c.rest_step (.record now)
  rw [at_] at moved
  refine (congrArg (task ::ₘ ·) (congrArg inFlight moved)).trans ?_
  rw [inFlight, inFlight, at_]
  simp [rest, Processor.inHand, ← singleton_add, add_comm]

/-- Every task in flight has an entry that is not over. -/
def Entered (c : Coordinator) : Prop :=
  ∀ task ∈ c.inFlight, ∃ info, c.taskStatus.lookup (c.heap task).id = some info ∧
    ¬ info.status.Settled

/-- **A task keeps its entry as long as it is in flight**, -/
theorem Entered.step {c : Coordinator} (entered : Entered c) (tracked : Tracked c) {step : Step}
    (apart : step.Apart c) (basic : step.Basic) : Entered (c.step step) := by
  intro task mem
  rw [(c.persists_step step).ids]
  have kept (before : task ∈ c.inFlight)
      (other : ∀ target, c.target step = some target → (c.heap task).id ≠ (c.heap target).id) :
      ∃ info, (c.step step).taskStatus.lookup (c.heap task).id = some info ∧
        ¬ info.status.Settled := by
    obtain ⟨info, found, unsettled⟩ := entered task before
    exact ⟨info, lookup_step_of_unsettled found unsettled other (Or.inl basic), unsettled⟩
  -- a task that leaves shares its ID with none that stays
  have left {target : ℕ} (flies : target ::ₘ (c.step step).inFlight = c.inFlight) :
      (c.heap task).id ≠ (c.heap target).id := by
    intro equal
    have distinct := tracked.distinct
    rw [← flies, map_cons, nodup_cons] at distinct
    exact distinct.1 (mem_map.mpr ⟨task, mem, equal⟩)
  rcases c.flow_step step with ⟨task', now, rfl, target, -, flies⟩ | drains
  · have room : c.taskStatus.len < c.config.maxTasks := (Option.ite_none_right_eq_some.mp target).1
    rw [flies] at mem
    rcases mem_cons.mp mem with rfl | mem
    · refine ⟨c.newInfo task now, ?_, TaskStatus.not_settled_pending⟩
      rw [lookup_step]
      exact if_pos ⟨room, rfl⟩
    · refine kept mem fun other found => ?_
      cases target.symm.trans found
      exact apart room task mem
  · have before := mem_of_le drains.inFlight mem
    by_cases starts : step = .start ∧ ∃ task', c.processor = .received task'
    · obtain ⟨rfl, task', at_⟩ := starts
      obtain ⟨info, found, unsettled⟩ := entered task before
      refine ⟨Step.start.change c (c.heap task).id info, ?_, ?_⟩
      · rw [lookup_step]
        exact congrArg (Option.map _) found
      · simp only [Step.change, at_]
        split
        · exact TaskStatus.not_settled_running
        · exact unsettled
    · refine kept before fun target found => ?_
      rcases target_cases found with
        ⟨now, rfl, room⟩ | ⟨rfl, submits⟩ | ⟨rfl, at_⟩ | ⟨now, error, rfl, at_⟩
      · exact apart room task before
      · exact left (cons_abandonTask submits).2
      · exact absurd ⟨rfl, target, at_⟩ starts
      · exact left (cons_recordOutcome at_ now)

/-- so that with room for one entry no call is accepted meanwhile. -/
theorem Entered.apart {c : Coordinator} (entered : Entered c) (one : c.config.maxTasks ≤ 1)
    {step : Step} (basic : step.Basic) : step.Apart c := by
  cases step with
  | submit =>
    intro room other mem
    obtain ⟨info, found, -⟩ := entered other mem
    have occupied : 0 < c.taskStatus.len :=
      Finset.card_pos.mpr ⟨_, mem_keys.mpr (mem_of_lookup_eq_some found)⟩
    omega
  | workerTimeout => exact basic
  | _ => trivial

end Coordinator

/-- With at most one entry, steps are apart. -/
theorem apart_of_one {config : Config} (one : config.maxTasks ≤ 1) (heap : ℕ → Task)
    (basic : ∀ step ∈ steps, step.Basic) :
    Along step (fun c step => step.Apart c) (.new config heap) steps := by
  rintro earlier step later rfl
  have invariant : (run Coordinator.step (.new config heap) earlier).Tracked ∧
      (run Coordinator.step (.new config heap) earlier).Entered ∧
      (run Coordinator.step (.new config heap) earlier).config.maxTasks ≤ 1 := by
    have preserved (c : Coordinator) (step : Step) (basic : step.Basic) :
        c.Tracked ∧ c.Entered ∧ c.config.maxTasks ≤ 1 →
        (c.step step).Tracked ∧ (c.step step).Entered ∧ (c.step step).config.maxTasks ≤ 1 := by
      rintro ⟨tracked, entered, one⟩
      have apart := entered.apart one basic
      refine ⟨tracked.step apart, entered.step tracked apart basic, ?_⟩
      rw [(c.persists_step step).config]
      exact one
    refine run_invariant preserved ⟨tracked_new config heap, ?_, ?_⟩
      fun step mem => basic step (List.mem_append_left _ mem)
    · exact fun _ mem => (notMem_zero _ mem).elim
    · unfold new
      dsimp only
      split <;> exact one
  exact invariant.2.1.apart invariant.2.2
    (basic step (List.mem_append_right _ List.mem_cons_self))

/-- `SubmitTask` for the task returns nil at some point of the run. -/
def Accepted (c : Coordinator) (steps : List Step) (task : ℕ) : Prop :=
  ∃ earlier later, steps = earlier ++ .send task :: later ∧
    task ∈ (run step c earlier).submitting ∧
    (run step c earlier).tasks.length <
      (run step c earlier).config.maxTasks

/-- **No accepted task is dropped.** -/
structure NoneDropped (c : Coordinator) (steps : List Step) : Prop where
  /-- A task that was received is executed. -/
  executes : ∀ earlier later task, steps = earlier ++ .start :: later →
    (run step c earlier).processor = .received task →
      (run step c (earlier ++ [.start])).processor = .executing task
  /-- A call that gives up does not delete the entry of another task that is accepted. -/
  spares : ∀ earlier later task other info, steps = earlier ++ .abandon task :: later →
    task ∈ (run step c earlier).submitting →
    (run step c earlier).taskStatus.lookup
      ((run step c earlier).heap task).id = some info →
    info.task = other → Accepted c steps other → other = task

/-- Nothing is dropped in a run of steps that are apart. -/
theorem noneDropped_of_apart (tracked : c.Tracked)
    (apart : Along step (fun c step => step.Apart c) c steps) :
    NoneDropped c steps := by
  constructor
  · rintro earlier later task rfl at_
    have reached := tracked.run apart.of_append
    rw [run_append, run_cons, run_nil]
    generalize run step c earlier = c at reached at_
    have waits : task ∈ c.waiting := by simp [waiting, at_, Processor.unstarted]
    obtain ⟨info, found, -⟩ := reached.pending task waits
    have moved := c.rest_step .start
    rw [at_] at moved
    dsimp only at moved
    rw [found] at moved
    exact congrArg processor moved
  · rintro earlier later task other info rfl submits found rfl -
    have reached := tracked.run apart.of_append
    have waits : task ∈ (run Coordinator.step c earlier).waiting := by
      simp [waiting, submits]
    obtain ⟨own, found', same, -⟩ := reached.pending task waits
    cases found.symm.trans found'
    exact same

/-- An interleaving of some `SubmitTask` calls with `processTasks` and `cleanupTasks`. -/
structure Interleaves (calls : List ℕ) (steps : List Step) : Prop where
  submits : (submitted steps).Subperm calls
  basic : ∀ step ∈ steps, step.Basic

/-- The first task is sent, and the call for the second one gives up. -/
def dropFirst (first second : ℕ) : List Step :=
  [.submit first Time.zero, .send first, .submit second Time.zero, .abandon second, .receive]

/-- The call that gives up deletes the entry of the task in the channel, which is skipped. -/
theorem run_dropFirst {config : Config} (two : 1 < config.maxTasks) {heap : ℕ → Task}
    {first second : ℕ} (same : (heap first).id = (heap second).id) :
    (run step (.new config heap) (dropFirst first second)).processor =
        .received first ∧
      (run step (.new config heap) (dropFirst first second ++ [.start])).processor =
        .waiting := by
  set c := new config heap with new
  have max : c.config.maxTasks = config.maxTasks := by
    rw [new, Coordinator.new]
    dsimp only
    split <;> rfl
  -- the first task is in the channel
  have room : c.taskStatus.len < c.config.maxTasks := by
    rw [max]
    exact Nat.zero_lt_of_lt two
  set channel : Coordinator :=
    { c with
      taskStatus := c.taskStatus.insert (heap first).id (c.newInfo first Time.zero)
      allocated := 1
      tasks := [first] } with full
  have sent : (c.step (.submit first Time.zero)).step (.send first) = channel := by
    show Coordinator.sendTask first (Coordinator.submitTask (some first) Time.zero c).2 = _
    rw [Coordinator.submitTask_apply, if_pos room, Coordinator.sendTask,
      if_pos ⟨List.mem_cons_self, Nat.zero_lt_of_lt room⟩]
    simp [full, new, Coordinator.new]
  -- the second call takes the entry over, and deletes it
  have room' : channel.taskStatus.len < channel.config.maxTasks := by
    refine (GoMap.len_insert_le c.taskStatus _ _).trans_lt ?_
    exact two.trans_eq max.symm
  set deleted : Coordinator :=
    { channel with
      taskStatus := (channel.taskStatus.insert (heap second).id
        (channel.newInfo second Time.zero)).erase (heap second).id
      allocated := 2 } with gone
  have abandoned : (channel.step (.submit second Time.zero)).step (.abandon second) = deleted := by
    show Coordinator.abandonTask second
      (Coordinator.submitTask (some second) Time.zero channel).2 = _
    rw [Coordinator.submitTask_apply, if_pos room', Coordinator.abandonTask,
      if_pos List.mem_cons_self]
    simp [gone, full, new, Coordinator.new]
  have missing : deleted.taskStatus.lookup (heap first).id = none := by
    rw [same]
    exact lookup_erase _ _
  have received : run step c (dropFirst first second) =
      { deleted with tasks := [], processor := .received first } := by
    rw [dropFirst, run_cons, run_cons, sent, run_cons, run_cons, abandoned]
    rfl
  rw [run_append, received]
  refine ⟨rfl, ?_⟩
  have moved := rest_step { deleted with tasks := [], processor := .received first }
    .start
  dsimp only at moved
  rw [show deleted.heap = heap from rfl, missing] at moved
  exact congrArg processor moved

/-- **When no accepted task is dropped.**  In every interleaving of the calls no task is dropped
exactly when there is at most one entry at a time, or the IDs of the calls are pairwise
distinct. -/
theorem noneDropped_iff (config : Config) (heap : ℕ → Task) (calls : List ℕ) :
    (∀ steps, Interleaves calls steps → NoneDropped (.new config heap) steps) ↔
      config.maxTasks ≤ 1 ∨ (calls.map fun task => (heap task).id).Nodup := by
  constructor
  · intro holds
    by_contra neither
    obtain ⟨two, repeats⟩ := not_or.mp neither
    -- two calls with the same ID
    have pair : ∃ first second, [first, second].Sublist calls ∧
        (heap first).id = (heap second).id := by
      by_contra none_
      refine repeats (List.nodup_iff_sublist.mpr fun id sublist => none_ ?_)
      obtain ⟨pair, listed, equal⟩ := List.sublist_map_iff.mp sublist
      obtain ⟨first, rest, rfl, idFirst, ids⟩ := List.map_eq_cons_iff.mp equal.symm
      obtain ⟨second, rest, rfl, idSecond, ids⟩ := List.map_eq_cons_iff.mp ids
      cases List.map_eq_nil_iff.mp ids
      exact ⟨first, second, listed, idFirst.trans idSecond.symm⟩
    obtain ⟨first, second, listed, same⟩ := pair
    have interleaves : Interleaves calls (dropFirst first second ++ [.start]) := by
      refine ⟨listed.subperm, ?_⟩
      simp [dropFirst, Step.Basic]
    obtain ⟨received, dropped⟩ := run_dropFirst (not_le.mp two) same
    have executes := (holds _ interleaves).executes _ [] first rfl received
    rw [dropped] at executes
    cases executes
  · rintro (one | distinct) steps interleaves
    · exact noneDropped_of_apart (tracked_new config heap)
        (apart_of_one one heap interleaves.basic)
    · obtain ⟨submits, perm, sublist⟩ := interleaves.submits
      refine noneDropped_of_apart (tracked_new config heap)
        (apart_of_distinct ?_ fun workerID now mem => interleaves.basic _ mem)
      exact (perm.map _).nodup_iff.mp (distinct.sublist (sublist.map _))

/-- Two tasks with the ID `t`: the first one was accepted, the call for the second one gives up,
and the first one is skipped. -/
theorem dropped_same_id :
    let c := new { maxTasks := 2, taskCleanupInterval := 1 } fun _ => taskT
    let steps := dropFirst 0 1 ++ [.start]
    Interleaves [0, 1] steps ∧ Accepted c steps 0 ∧
      (run step c (dropFirst 0 1)).processor = .received 0 ∧
      (run step c steps).processor = .waiting ∧ ¬ NoneDropped c steps := by
  intro c steps
  have received : (run step c (dropFirst 0 1)).processor = .received 0 := by
    decide +kernel
  have skipped : (run step c steps).processor = .waiting := by decide +kernel
  refine ⟨⟨List.Subperm.refl _, ?_⟩, ?_, received, skipped, fun holds => ?_⟩
  · simp [steps, dropFirst, Step.Basic]
  · exact ⟨[.submit 0 Time.zero], _, rfl, by decide +kernel, by decide +kernel⟩
  · have executes := holds.executes _ [] 0 rfl received
    rw [skipped] at executes
    cases executes

end Coordination

end Aristo
