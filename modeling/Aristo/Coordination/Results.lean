import Aristo.Coordination.Tasks
import Mathlib.Data.Finset.Card
import Mathlib.Data.List.Count

/-!
# The results of a task

`SetTaskResult` is given the ID of the worker that reports and does not look at it: it appends the
result and counts.  `processTasks` sets the status of a task to complete when `executeTask` returns
nil, whatever results there are.  To say who has reported, a coordinator is watched: beside its
state stand, for every entry, the workers whose results it has taken.
-/

namespace Aristo

open GoBase List

namespace Coordination

/-! ## Watching a coordinator -/

/-- A coordinator, and the workers whose results each entry has taken, in order. -/
structure Watched where
  coordinator : Coordinator
  reporters : ℕ → List Bytes

/-- The worker whose result the entry takes at this step. -/
def Step.report (c : Coordinator) (entry : ℕ) : Step → List Bytes
  | .setResult taskID _ workerID _ =>
    match c.taskStatus.lookup taskID with
    | some info => if info.entry = entry ∧ info.status = .running then [workerID] else []
    | none => []
  | _ => []

namespace Watched

def new (config : Config) (heap : ℕ → Task) : Watched where
  coordinator := .new config heap
  reporters _ := []

def step (w : Watched) (step : Step) : Watched where
  coordinator := w.coordinator.step step
  reporters entry := w.reporters entry ++ step.report w.coordinator entry

def workersOf (w : Watched) (info : TaskInfo) : List Bytes :=
  (w.coordinator.heap info.task).workerIDs

/-- **Complete tasks have their results**: exactly one of each worker that is listed, and none
of any other. -/
def AllReported (w : Watched) : Prop :=
  ∀ id info, w.coordinator.taskStatus.lookup id = some info → info.status = .complete →
    ∀ workerID,
      (workerID ∈ w.workersOf info → (w.reporters info.entry).count workerID = 1) ∧
      (workerID ∉ w.workersOf info → (w.reporters info.entry).count workerID = 0)

end Watched

/-- What a step needs: a report is the first one of a worker that the running task lists; a success
is recorded with as many results as different workers are listed; and a pair is selected for a task
without results that is not complete. -/
def Step.Diligent (w : Watched) : Step → Prop
  | .setResult taskID _ workerID _ => ∀ info, w.coordinator.taskStatus.lookup taskID = some info →
      info.status = .running → workerID ∈ w.workersOf info ∧ workerID ∉ w.reporters info.entry
  | .record _ => ∀ task info, w.coordinator.processor = .executed task none →
      w.coordinator.taskStatus.lookup (w.coordinator.heap task).id = some info →
        info.results.length = (w.workersOf info).toFinset.card
  | .select (.ok _) => ∀ task info, w.coordinator.processor = .executing task →
      (w.coordinator.heap task).regionID ≠ [] →
      w.coordinator.taskStatus.lookup (w.coordinator.heap task).id = some info →
        info.task = task → info.results = [] ∧ info.status ≠ .complete
  | _ => True

/-! ## One entry -/

/-- The workers that have reported are as many as the results, are different, and are listed; all
have reported when the entry is complete. -/
structure Fair (workerIDs reporters : List Bytes) (info : TaskInfo) : Prop where
  counted : reporters.length = info.results.length
  once : reporters.Nodup
  listed : reporters ⊆ workerIDs
  all : info.status = .complete → info.results.length = workerIDs.toFinset.card

variable {info : TaskInfo} {workerIDs reporters : List Bytes}

/-- With as many reports as workers, each has reported once. -/
theorem Fair.count (fair : Fair workerIDs reporters info) (complete : info.status = .complete)
    (workerID : Bytes) :
    (workerID ∈ workerIDs → reporters.count workerID = 1) ∧
      (workerID ∉ workerIDs → reporters.count workerID = 0) := by
  have subset : reporters.toFinset ⊆ workerIDs.toFinset := by
    intro other mem
    exact mem_toFinset.mpr (fair.listed (mem_toFinset.mp mem))
  have card : workerIDs.toFinset.card ≤ reporters.toFinset.card := by
    rw [toFinset_card_of_nodup fair.once, fair.counted, fair.all complete]
  have same := Finset.eq_of_subset_of_card_le subset card
  rw [← mem_toFinset, ← same, mem_toFinset]
  exact ⟨count_eq_one_of_mem fair.once, count_eq_zero_of_not_mem⟩

/-- A first report of a worker that is listed is fair, -/
theorem Fair.report {info' : TaskInfo} {workerID : Bytes} (fair : Fair workerIDs reporters info)
    (listed : workerID ∈ workerIDs) (first : workerID ∉ reporters)
    (length : info'.results.length = info.results.length + 1)
    (all : info'.status = .complete → info'.results.length = workerIDs.length) :
    Fair workerIDs (reporters ++ [workerID]) info' := by
  have once : (reporters ++ [workerID]).Nodup := by
    rw [nodup_append_comm]
    exact nodup_cons.mpr ⟨first, fair.once⟩
  have subset : reporters ++ [workerID] ⊆ workerIDs :=
    append_subset.mpr ⟨fair.listed, cons_subset.mpr ⟨listed, nil_subset _⟩⟩
  have counted : (reporters ++ [workerID]).length = info'.results.length := by
    rw [length_append, fair.counted, length]
    rfl
  refine ⟨counted, once, subset, fun complete => ?_⟩
  -- as many different workers as are listed: the list has no repetitions
  have upper : (reporters ++ [workerID]).toFinset.card ≤ workerIDs.toFinset.card :=
    Finset.card_le_card fun other mem =>
      mem_toFinset.mpr (subset (mem_toFinset.mp mem))
  have lower := workerIDs.toFinset_card_le
  rw [toFinset_card_of_nodup once, counted, all complete] at upper
  rw [all complete]
  exact le_antisymm upper lower

/-- and so is a change without one. -/
theorem Fair.change {info' : TaskInfo} (fair : Fair workerIDs reporters info)
    (results : info'.results = info.results)
    (status : info'.status = .complete → info.status = .complete ∨
      info.results.length = workerIDs.toFinset.card) :
    Fair workerIDs reporters info' := by
  refine ⟨results ▸ fair.counted, fair.once, fair.listed, fun complete => ?_⟩
  rw [results]
  exact (status complete).elim fair.all id

/-! ## Runs -/

structure Honest (w : Watched) : Prop where
  numbered : w.coordinator.Numbered
  /-- An entry is under the ID of its task. -/
  keyed : ∀ id info, w.coordinator.taskStatus.lookup id = some info →
    (w.coordinator.heap info.task).id = id
  /-- Nobody has reported to an entry that is not allocated. -/
  unborn : ∀ entry, w.coordinator.allocated ≤ entry → w.reporters entry = []
  fair : ∀ id info, w.coordinator.taskStatus.lookup id = some info →
    Fair (w.workersOf info) (w.reporters info.entry) info

/-- There is no entry at first. -/
theorem honest_new (config : Config) (heap : ℕ → Task) : Honest (.new config heap) :=
  ⟨Coordinator.numbered_new config heap, fun _ _ found => (nomatch found), fun _ _ => rfl,
    fun _ _ found => (nomatch found)⟩

variable {id : Bytes} {c : Coordinator}

/-- The entry of the ID takes the report, if it is running. -/
theorem report_eq (numbered : c.Numbered) (found : c.taskStatus.lookup id = some info)
    (taskID result workerID : Bytes) (now : Time) :
    (Step.setResult taskID result workerID now).report c info.entry =
      if id = taskID ∧ info.status = .running then [workerID] else [] := by
  by_cases equal : id = taskID
  · subst equal
    simp [Step.report, found]
  · simp only [Step.report, equal, false_and, if_false]
    split
    · rename_i other found'
      rw [if_neg]
      rintro ⟨same, -⟩
      exact equal (numbered.unique id taskID info other found found' same.symm)
    · rfl

variable {w : Watched}

/-- The workers of an entry after a step: only the selection of a pair changes them, and only
before the first report. -/
theorem workersOf_step (honest : Honest w) {step : Step} (diligent : step.Diligent w)
    (found : w.coordinator.taskStatus.lookup id = some info) :
    (w.step step).workersOf info = w.workersOf info ∨
      info.results = [] ∧ info.status ≠ .complete ∧ ∃ pair, step = .select (.ok pair) := by
  have core := w.coordinator.core_step step
  cases step with
  | select pair =>
    have heap : (w.step (.select pair)).coordinator.heap =
        (w.coordinator.selectPair pair).heap := (Prod.mk.inj (Prod.mk.inj core).2).1
    rw [Watched.workersOf, heap, Coordinator.heap_selectPair]
    cases pair with
    | error => exact Or.inl rfl
    | ok workers =>
      dsimp only
      split
      · rename_i selects
        obtain ⟨results, status⟩ := diligent info.task info selects.1 selects.2
          ((honest.keyed id info found).symm ▸ found) rfl
        exact Or.inr ⟨results, status, workers, rfl⟩
      · exact Or.inl rfl
  | submit task now =>
    have heap : (w.step (.submit task now)).coordinator.heap = w.coordinator.heap :=
      (Prod.mk.inj (Prod.mk.inj core).2).1
    exact Or.inl (by rw [Watched.workersOf, heap]; rfl)
  | _ =>
    have heap := (Prod.mk.inj (Prod.mk.inj core).2).1
    exact Or.inl (congrArg (fun heap => (heap info.task).workerIDs) heap)

/-- The step is a report that the entry takes. -/
def Step.Taken (id : Bytes) (info : TaskInfo) : Step → Prop
  | .setResult taskID _ _ _ => id = taskID ∧ info.status = .running
  | _ => False

/-- Without a report the results stay, -/
theorem results_change {step : Step} (other : ¬ step.Taken id info) :
    (step.change c id info).results = info.results := by
  cases step with
  | setResult =>
    rw [Step.Taken] at other
    rw [Step.change, if_neg other]
  | _ =>
    simp only [Step.change, Coordinator.recorded, Coordinator.timedOut, Coordinator.interrupted]
    all_goals ((repeat' split) <;> rfl)

/-- and only a recorded success makes the entry complete. -/
theorem complete_change {step : Step} (other : ¬ step.Taken id info)
    (complete : (step.change c id info).status = .complete) :
    info.status = .complete ∨
      ∃ now task, step = .record now ∧ c.processor = .executed task none ∧
        id = (c.heap task).id := by
  cases step with
  | record now =>
    simp only [Step.change, Coordinator.recorded] at complete
    split at complete
    · rename_i task error executed
      split at complete
      · rename_i own
        cases error with
        | some => cases complete
        | none => exact Or.inr ⟨now, task, rfl, executed, own⟩
      · exact Or.inl complete
    · exact Or.inl complete
  | setResult =>
    rw [Step.Taken] at other
    rw [Step.change, if_neg other] at complete
    exact Or.inl complete
  | _ =>
    simp only [Step.change, Coordinator.timedOut, Coordinator.interrupted] at complete
    repeat' split at complete
    all_goals first | exact Or.inl complete | cases complete

/-- A report that is taken is fair, -/
theorem Honest.fair_report (honest : Honest w) {result workerID : Bytes} {now : Time}
    (diligent : (Step.setResult id result workerID now).Diligent w)
    (found : w.coordinator.taskStatus.lookup id = some info) (running : info.status = .running) :
    Fair (w.workersOf info) ((w.step (.setResult id result workerID now)).reporters info.entry)
      ((Step.setResult id result workerID now).change w.coordinator id info) := by
  obtain ⟨listed, first⟩ := diligent info found running
  show Fair _ (w.reporters info.entry ++ Step.report _ _ _) _
  rw [report_eq honest.numbered found, if_pos ⟨rfl, running⟩]
  refine (honest.fair id info found).report listed first ?_ ?_
  · simp only [Step.change, running, and_self, if_true]
    split <;> simp
  · simp only [Step.change, running, and_self, if_true]
    split
    · rename_i enough
      exact fun _ => enough
    · rintro ⟨⟩

/-- and so is any other step, -/
theorem Honest.fair_of_not_taken (honest : Honest w) {step : Step} (diligent : step.Diligent w)
    (found : w.coordinator.taskStatus.lookup id = some info) (other : ¬ step.Taken id info) :
    Fair (w.workersOf info) ((w.step step).reporters info.entry)
      (step.change w.coordinator id info) := by
  show Fair _ (w.reporters info.entry ++ step.report w.coordinator info.entry) _
  have silent : step.report w.coordinator info.entry = [] := by
    cases step with
    | setResult =>
      rw [Step.Taken] at other
      rw [report_eq honest.numbered found, if_neg other]
    | _ => rfl
  rw [silent, append_nil]
  refine (honest.fair id info found).change (results_change other) fun complete => ?_
  rcases complete_change other complete with before | ⟨now, task, rfl, executed, rfl⟩
  · exact Or.inl before
  · exact Or.inr (diligent task info executed found)

/-- whatever the workers. -/
theorem Honest.fair_change (honest : Honest w) {step : Step} (diligent : step.Diligent w)
    (found : w.coordinator.taskStatus.lookup id = some info) :
    Fair ((w.step step).workersOf info) ((w.step step).reporters info.entry)
      (step.change w.coordinator id info) := by
  rcases workersOf_step honest diligent found with same | ⟨results, status, pair, rfl⟩
  · rw [same]
    by_cases taken : step.Taken id info
    · cases step with
      | setResult =>
        obtain ⟨rfl, running⟩ := taken
        exact honest.fair_report diligent found running
      | _ => exact absurd taken not_false
    · exact honest.fair_of_not_taken diligent found taken
  · -- nobody has reported, so any workers will do
    have none_ : w.reporters info.entry = [] := by
      rw [← length_eq_zero_iff, (honest.fair id info found).counted, results]
      rfl
    show Fair _ (w.reporters info.entry ++ []) info
    rw [none_]
    exact ⟨by rw [results]; rfl, nodup_nil, nil_subset _, fun complete =>
      absurd complete status⟩

/-- **One step** that is diligent keeps the books honest. -/
theorem Honest.step (honest : Honest w) {step : Step} (diligent : step.Diligent w) :
    Honest (w.step step) := by
  have persists := w.coordinator.persists_step step
  constructor
  · exact honest.numbered.step step
  · intro id info' found
    show ((w.coordinator.step step).heap info'.task).id = id
    rw [persists.ids]
    rcases Coordinator.lookup_step_cases found with
      ⟨info, before, rfl⟩ | ⟨task, now, -, rfl, rfl, -⟩
    · rw [(Coordinator.change_keeps _ _ _ _).2]
      exact honest.keyed id info before
    · rfl
  · intro entry later
    have older := persists.allocated.trans later
    show w.reporters entry ++ step.report w.coordinator entry = []
    rw [honest.unborn entry older, nil_append]
    cases step with
    | setResult taskID =>
      rw [Step.report]
      split
      · rename_i info found
        rw [if_neg]
        rintro ⟨rfl, -⟩
        exact absurd older (honest.numbered.allocated taskID info found).not_ge
      · rfl
    | _ => rfl
  · intro id info' found
    rcases Coordinator.lookup_step_cases found with
      ⟨info, before, rfl⟩ | ⟨task, now, rfl, rfl, rfl, -⟩
    · have fair := honest.fair_change diligent before
      obtain ⟨number, task⟩ := Coordinator.change_keeps w.coordinator id info step
      rw [Watched.workersOf, number, task]
      exact fair
    · show Fair _ (w.reporters w.coordinator.allocated ++ []) _
      rw [honest.unborn _ le_rfl]
      exact ⟨rfl, nodup_nil, nil_subset _, fun complete => nomatch complete⟩

/-- **Complete tasks have their results.**  In every interleaving in which every step is diligent,
and in every state that is reached. -/
theorem allReported_of_diligent (config : Config) (heap : ℕ → Task) (steps : List Step)
    (diligent : Along Watched.step (fun w step => step.Diligent w) (.new config heap) steps) :
    (run Watched.step (.new config heap) steps).AllReported := by
  have honest : Honest (run Watched.step (.new config heap) steps) :=
    run_along (fun _ _ diligent honest => honest.step diligent) (honest_new config heap) diligent
  intro id info found complete
  exact (honest.fair id info found).count complete

/-! ### One task -/

/-- Task `t` is executed, and its worker reports before the outcome is recorded. -/
def reportT : List Step :=
  [.submit 0 Time.zero, .send 0, .receive, .start, .select (.ok ([], [])), .handle none,
    .setResult (ascii "t") [1] (ascii "w") Time.zero, .record Time.zero]

def watchedT : Watched :=
  .new { maxTasks := 1, taskCleanupInterval := 1 } fun _ => taskT

def infoT (status : TaskStatus) (results : List Bytes) : TaskInfo where
  entry := 0
  task := 0
  status := status
  startTime := Time.zero
  endTime := Time.zero
  error := none
  results := results

/-- The worker of task `t` reports, and then the task is complete. -/
theorem allReported_reportT :
    (run Watched.step watchedT reportT).coordinator.taskStatus.lookup (ascii "t") =
        some (infoT .complete [[1]]) ∧
      (run Watched.step watchedT reportT).reporters 0 = [ascii "w"] ∧
      (run Watched.step watchedT reportT).AllReported := by
  refine ⟨by decide +kernel, by decide +kernel, ?_⟩
  refine allReported_of_diligent _ _ reportT ?_
  refine along_cons trivial (along_cons trivial (along_cons trivial (along_cons trivial
    (along_cons ?_ (along_cons trivial (along_cons ?_ (along_cons ?_ (along_nil _ _ _))))))))
  · intro task info _ region
    exact absurd rfl region
  · intro info found _
    have known : (run Watched.step watchedT (reportT.take 6)).coordinator.taskStatus.lookup
        (ascii "t") = some (infoT .running []) := by decide +kernel
    cases found.symm.trans known
    decide +kernel
  · intro task info at_ found
    have known : (run Watched.step watchedT (reportT.take 7)).coordinator.taskStatus.lookup
        (ascii "t") = some (infoT .complete [[1]]) := by decide +kernel
    cases found.symm.trans known
    decide +kernel

/-- Task `t` is complete, and its worker has not reported. -/
theorem not_allReported_completeT :
    (run Watched.step watchedT completeT).coordinator.taskStatus.lookup (ascii "t") =
        some (infoT .complete []) ∧
      (run Watched.step watchedT completeT).reporters 0 = [] ∧
      ¬ (run Watched.step watchedT completeT).AllReported := by
  have complete : (run Watched.step watchedT completeT).coordinator.taskStatus.lookup (ascii "t") =
      some (infoT .complete []) := by decide +kernel
  refine ⟨complete, by decide +kernel, fun all => ?_⟩
  have one := all _ _ complete rfl (ascii "w")
  revert one
  decide +kernel

end Coordination

end Aristo
