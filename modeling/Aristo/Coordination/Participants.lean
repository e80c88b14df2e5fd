import Aristo.Coordination.Workers
import Mathlib.Data.Finset.Card

/-!
# The workers that take part in a task

`handleTask` counts the entries of the task's list that are registered, and a worker that is listed
twice counts twice.  `enough_distinct_iff` says for which lists a task that passes the check has
enough different workers.
-/

namespace Aristo

open GoBase Call

namespace Coordination

namespace Registry

def participants (r : Registry) (task : Task) : Finset Bytes :=
  (r.named task).toFinset

/-! ## The check -/

theorem wrap_ne_errNotEnoughWorkers {text : Bytes} (starts : text.head? = some 102)
    (inner : GoError) : inner.wrap text ≠ errNotEnoughWorkers := by
  intro same
  have texts := congrArg (fun error : GoError => error.text.head?) same
  rw [GoError.wrap, List.append_assoc, List.head?_append, starts] at texts
  cases texts

theorem avoids_onWorker {α : Type} {error : GoError} {call : Call (Worker × Heap) α}
    (avoids : Call.Avoids error call) (id : Bytes) : Call.Avoids error (onWorker id call) := by
  intro r
  unfold onWorker
  split
  · simp
  · exact avoids _

theorem avoids_connect (outside : Outside) (pair : Bytes × Bytes) :
    Call.Avoids errNotEnoughWorkers (connect outside pair) := by
  refine avoids_bind (avoids_wrapping (wrap_ne_errNotEnoughWorkers rfl) _) fun _ => ?_
  refine avoids_bind (fun r same => by cases same) fun _ => ?_
  refine avoids_bind (avoids_modify _) fun _ => ?_
  exact avoids_bind (avoids_onWorker (avoids_modify _) _)
    fun _ => avoids_onWorker (avoids_modify _) _

theorem avoids_distribute (task : Task) (second : Bool) (id : Bytes) :
    Call.Avoids errNotEnoughWorkers (distribute task second id) :=
  avoids_wrapping (wrap_ne_errNotEnoughWorkers (by rw [List.head?_append]; rfl)) _

theorem handleTask_errNotEnoughWorkers_iff (viewFault : Option GoError) (outside : ℕ → Outside)
    (second : ℕ → Bool) (task : Task) (r : Registry) :
    (handleTask viewFault outside second task r).1 = .err errNotEnoughWorkers ↔
      ((r.named task).length : ℤ) < r.minWorkers := by
  unfold handleTask
  rw [bind_of_ok (read_apply r)]
  by_cases few : ((r.named task).length : ℤ) < r.minWorkers
  · rw [refuse_bind_of few]
    exact iff_of_true rfl few
  · rw [refuse_bind_of_not few]
    refine iff_of_false (avoids_bind (avoids_lift ?_) (fun _ => ?_) r) few
    · cases viewFault with
      | none => simp
      | some error =>
        exact fun same => wrap_ne_errNotEnoughWorkers rfl error (Except.error.inj same)
    · exact avoids_bind (avoids_forM (fun item => avoids_connect _ _) _)
        fun _ => avoids_forM (fun item => avoids_distribute _ _ _) _

theorem nodup_named_iff {task : Task} {r : Registry} :
    (r.named task).Nodup ↔ ∀ id ∈ r.workers, task.workerIDs.count id ≤ 1 := by
  rw [List.nodup_iff_count_le_one]
  constructor
  · intro once id registered
    have same : (r.named task).count id = task.workerIDs.count id :=
      List.count_filter (decide_eq_true registered)
    exact same ▸ once id
  · intro once id
    by_cases registered : id ∈ r.workers
    · exact (List.filter_sublist.count_le id).trans (once id registered)
    · have absent : id ∉ r.named task := fun mem =>
        registered (of_decide_eq_true (List.mem_filter.mp mem).2)
      rw [List.count_eq_zero_of_not_mem absent]
      exact zero_le_one

theorem length_named_le_card_iff {task : Task} {r : Registry} :
    (r.named task).length ≤ (r.participants task).card ↔ (r.named task).Nodup := by
  rw [participants, List.card_toFinset]
  constructor
  · intro enough
    rw [← (List.dedup_sublist (r.named task)).eq_of_length_le enough]
    exact List.nodup_dedup _
  · intro distinct
    rw [distinct.dedup]

/-- **Enough different workers.**  Whatever number of workers the coordinator asks for, a task that
passes the check has as many different ones, exactly when the task lists no registered worker
twice. -/
theorem enough_distinct_iff (viewFault : Option GoError) (outside : ℕ → Outside)
    (second : ℕ → Bool) (task : Task) (r : Registry) :
    (∀ minWorkers,
      (handleTask viewFault outside second task { r with minWorkers }).1 ≠
          .err errNotEnoughWorkers →
        minWorkers ≤ (r.participants task).card) ↔
      ∀ id ∈ r.workers, task.workerIDs.count id ≤ 1 := by
  rw [← nodup_named_iff, ← length_named_le_card_iff]
  simp only [Ne, handleTask_errNotEnoughWorkers_iff, not_lt]
  constructor
  · intro enough
    -- the coordinator asks for as many as there are entries
    exact Int.ofNat_le.mp (enough (r.named task).length le_rfl)
  · intro enough minWorkers counted
    exact counted.trans (Int.ofNat_le.mpr enough)

def taskAA : Task :=
  { taskA with workerIDs := [ascii "a", ascii "a"] }

/-- One worker, listed twice, is enough for two. -/
theorem handleTask_taskAA :
    (handleTask none calm (fun _ => false) taskAA (reached codecsA 2 ∅ [registerA])).1 ≠
        .err errNotEnoughWorkers ∧
      (reached codecsA 2 ∅ [registerA]).minWorkers = 2 ∧
        ((reached codecsA 2 ∅ [registerA]).participants taskAA).card = 1 := by
  exact ⟨by decide +kernel, by decide +kernel, by decide +kernel⟩

end Registry

end Coordination

end Aristo
