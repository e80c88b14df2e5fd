import Aristo.Base.Call
import Mathlib.Data.List.Induction

/-!
# Runs

A system that takes one input after the other runs as a left fold of its step
function.  The rules below are the whole theory: what every admissible step
preserves, every run of admissible steps preserves (`run_invariant`), and what
every admissible step relates, every run relates (`run_relates`).

A run of calls goes on after a call that fails.  `Call.after` is the state that it leaves,
and `Call.returned` has the calls that returned a nil error.
-/

namespace GoBase

variable {σ ι : Type}

def run (step : σ → ι → σ) (state : σ) (inputs : List ι) : σ :=
  inputs.foldl step state

@[simp] theorem run_nil (step : σ → ι → σ) (state : σ) : run step state [] = state := rfl

@[simp] theorem run_cons (step : σ → ι → σ) (state : σ) (input : ι) (inputs : List ι) :
    run step state (input :: inputs) = run step (step state input) inputs := rfl

theorem run_append (step : σ → ι → σ) (state : σ) (first second : List ι) :
    run step state (first ++ second) = run step (run step state first) second := by
  simp [run]

variable {step : σ → ι → σ} {state : σ} {inputs : List ι} {Inv : σ → Prop}

/-- **Invariant rule.**  A property that every admissible input preserves holds
after every run of admissible inputs. -/
theorem run_invariant {Admissible : ι → Prop}
    (preserved : ∀ state input, Admissible input → Inv state → Inv (step state input))
    (start : Inv state) (admissible : ∀ input ∈ inputs, Admissible input) :
    Inv (run step state inputs) := by
  induction inputs generalizing state with
  | nil => exact start
  | cons input inputs ih =>
    refine ih (preserved state input (admissible input List.mem_cons_self) start) ?_
    exact fun later mem => admissible later (List.mem_cons_of_mem _ mem)

theorem run_preserves (preserved : ∀ state input, Inv state → Inv (step state input))
    (start : Inv state) (inputs : List ι) : Inv (run step state inputs) :=
  run_invariant (fun state input (_ : True) => preserved state input) start fun _ _ => trivial

/-- Every input of a run satisfies `P` in the state in which it is taken. -/
def Along (step : σ → ι → σ) (P : σ → ι → Prop) (state : σ) (inputs : List ι) : Prop :=
  ∀ earlier input later, inputs = earlier ++ input :: later → P (run step state earlier) input

theorem along_nil (step : σ → ι → σ) (P : σ → ι → Prop) (state : σ) : Along step P state [] := by
  intro earlier input later equal
  cases earlier <;> cases equal

variable {P : σ → ι → Prop}

theorem along_cons {input : ι} (first : P state input)
    (rest : Along step P (step state input) inputs) :
    Along step P state (input :: inputs) := by
  intro earlier next later equal
  cases earlier with
  | nil =>
    cases equal
    exact first
  | cons head earlier =>
    obtain ⟨rfl, tails⟩ := List.cons.inj equal
    exact rest earlier next later tails

theorem Along.tail {input : ι} (along : Along step P state (input :: inputs)) :
    Along step P (step state input) inputs :=
  fun earlier later rest equal =>
    along (input :: earlier) later rest (congrArg (input :: ·) equal)

theorem along_cons_iff {input : ι} :
    Along step P state (input :: inputs) ↔ P state input ∧ Along step P (step state input) inputs :=
  ⟨fun along => ⟨along [] input inputs rfl, along.tail⟩, fun both => along_cons both.1 both.2⟩

theorem along_and {Q : σ → ι → Prop} :
    Along step (fun state input => P state input ∧ Q state input) state inputs ↔
      Along step P state inputs ∧ Along step Q state inputs := by
  constructor
  · intro both
    exact ⟨fun earlier input later equal => (both earlier input later equal).1,
      fun earlier input later equal => (both earlier input later equal).2⟩
  · rintro ⟨first, second⟩ earlier input later equal
    exact ⟨first earlier input later equal, second earlier input later equal⟩

/-- **Comparison rule.**  Two systems take the same inputs.  If `P` and `Q` agree on related states,
which inputs of which they hold keep related, then `P` holds along a run exactly when `Q` does. -/
theorem along_iff_along {τ : Type} {step' : τ → ι → τ} {Q : τ → ι → Prop} {Rel : σ → τ → Prop}
    (agree : ∀ state state' input, Rel state state' → (P state input ↔ Q state' input))
    (keep : ∀ state state' input, Rel state state' → P state input → Q state' input →
      Rel (step state input) (step' state' input)) {state' : τ} (start : Rel state state')
    (inputs : List ι) :
    Along step P state inputs ↔ Along step' Q state' inputs := by
  induction inputs generalizing state state' with
  | nil => exact iff_of_true (along_nil _ _ _) (along_nil _ _ _)
  | cons input inputs ih =>
    rw [along_cons_iff, along_cons_iff, agree state state' input start]
    refine and_congr_right fun holds => ih (keep state state' input start ?_ holds)
    exact (agree state state' input start).mpr holds

/-- The comparison rule for one system, whose invariant the inputs of which `P` holds keep. -/
theorem along_iff_of_invariant {Q : σ → ι → Prop}
    (agree : ∀ state input, Inv state → (P state input ↔ Q state input))
    (keep : ∀ state input, Inv state → P state input → Inv (step state input)) (start : Inv state)
    (inputs : List ι) :
    Along step P state inputs ↔ Along step Q state inputs := by
  refine along_iff_along (fun first second input (same : first = second ∧ Inv first) => ?_)
    (fun first second input same holds _ => ?_) ⟨rfl, start⟩ inputs
  · obtain ⟨rfl, inv⟩ := same
    exact agree first input inv
  · obtain ⟨rfl, inv⟩ := same
    exact ⟨rfl, keep first input inv holds⟩

theorem Along.of_append {first second : List ι} (along : Along step P state (first ++ second)) :
    Along step P state first := by
  intro earlier input later equal
  refine along earlier input (later ++ second) ?_
  rw [equal, List.append_assoc, List.cons_append]

/-- **Invariant rule**, when the inputs that are admissible depend on the state. -/
theorem run_along (preserved : ∀ state input, P state input → Inv state → Inv (step state input))
    (start : Inv state) (along : Along step P state inputs) :
    Inv (run step state inputs) := by
  induction inputs generalizing state with
  | nil => exact start
  | cons input inputs ih =>
    exact ih (preserved state input (along [] input inputs rfl) start) along.tail

/-- **Log rule.**  Every step adds to a log.  All of the log has a property exactly when it had it
at the start and every step adds things that have it. -/
theorem forall_mem_log_iff {β : Type} (log : σ → List β) (added : σ → ι → List β)
    (adds : ∀ state input, log (step state input) = log state ++ added state input) (P : β → Prop)
    (state : σ) (inputs : List ι) :
    (∀ item ∈ log (run step state inputs), P item) ↔
      (∀ item ∈ log state, P item) ∧
        Along step (fun state input => ∀ item ∈ added state input, P item) state inputs := by
  induction inputs generalizing state with
  | nil => exact (and_iff_left (along_nil _ _ _)).symm
  | cons input inputs ih =>
    rw [run_cons, ih, adds, List.forall_mem_append, along_cons_iff, and_assoc]

/-- **Frame rule.**  A reflexive and transitive relation that every admissible input respects
relates the ends of every run. -/
theorem run_relates {Rel : σ → σ → Prop} {Admissible : ι → Prop}
    (reflexive : ∀ state, Rel state state)
    (transitive : ∀ {first second third}, Rel first second → Rel second third →
      Rel first third) (steps : ∀ state input, Admissible input → Rel state (step state input))
    (state : σ) (admissible : ∀ input ∈ inputs, Admissible input) :
    Rel state (run step state inputs) := by
  induction inputs generalizing state with
  | nil => exact reflexive state
  | cons input inputs ih =>
    refine transitive (steps state input (admissible input List.mem_cons_self)) ?_
    exact ih _ fun later mem => admissible later (List.mem_cons_of_mem _ mem)

/-- No input of a run has a property, or there is a last one that has it. -/
theorem none_or_last (P : ι → Prop) (inputs : List ι) :
    (∀ input ∈ inputs, ¬ P input) ∨
      ∃ before input after, inputs = before ++ input :: after ∧ P input ∧
        ∀ later ∈ after, ¬ P later := by
  induction inputs with
  | nil => exact Or.inl fun input mem => absurd mem List.not_mem_nil
  | cons first inputs ih =>
    rcases ih with none | ⟨before, input, after, rfl, holds, last⟩
    · by_cases holds : P first
      · exact Or.inr ⟨[], first, inputs, rfl, holds, none⟩
      · exact Or.inl (List.forall_mem_cons.mpr ⟨holds, none⟩)
    · exact Or.inr ⟨first :: before, input, after, rfl, holds, last⟩

/-! ### Runs of calls -/

namespace Call

variable {α : Type}

/-- The state that a run of calls leaves. -/
def after (call : ι → Call σ α) (state : σ) (inputs : List ι) : σ :=
  run (fun state input => (call input state).2) state inputs

/-- The calls of a run that returned, with their values. -/
def returned (call : ι → Call σ α) : σ → List ι → List (ι × α)
  | _, [] => []
  | state, input :: inputs =>
    match call input state with
    | (.ok value, next) => (input, value) :: returned call next inputs
    | (_, next) => returned call next inputs

variable {call : ι → Call σ α}

variable {input : ι} {next state : σ}

theorem after_cons {outcome : Outcome α} (h : call input state = (outcome, next)) (inputs : List ι)
    :
    after call state (input :: inputs) = after call next inputs := by
  rw [after, run_cons, h]
  rfl

theorem returned_cons_of_ok {value : α} (h : call input state = (.ok value, next)) (inputs : List ι)
    :
    returned call state (input :: inputs) = (input, value) :: returned call next inputs := by
  rw [returned, h]

theorem returned_cons_of_not {outcome : Outcome α} (h : call input state = (outcome, next))
    (failed : ¬ outcome.Succeeded) (inputs : List ι) :
    returned call state (input :: inputs) = returned call next inputs := by
  rw [returned, h]
  cases outcome with
  | ok => exact absurd trivial failed
  | err | panicked => rfl

theorem after_append (call : ι → Call σ α) (state : σ) (first second : List ι) :
    after call state (first ++ second) = after call (after call state first) second :=
  run_append _ _ _ _

theorem returned_append (call : ι → Call σ α) (state : σ) (first second : List ι) :
    returned call state (first ++ second) =
      returned call state first ++ returned call (after call state first) second := by
  induction first generalizing state with
  | nil => rfl
  | cons input first ih =>
    rcases h : call input state with ⟨outcome, next⟩
    rw [after_cons h, List.cons_append]
    by_cases succeeded : outcome.Succeeded
    · obtain ⟨value, rfl⟩ := Outcome.succeeded_iff.mp succeeded
      rw [returned_cons_of_ok h, returned_cons_of_ok h, ih, List.cons_append]
    · rw [returned_cons_of_not h succeeded, returned_cons_of_not h succeeded, ih]

theorem exists_of_mem_returned {inputs : List ι} {done : ι × α}
    (mem : done ∈ returned call state inputs) :
    ∃ earlier later next, inputs = earlier ++ done.1 :: later ∧
      call done.1 (after call state earlier) = (.ok done.2, next) := by
  induction inputs generalizing state with
  | nil => cases mem
  | cons input inputs ih =>
    rcases h : call input state with ⟨outcome, next⟩
    have later (mem : done ∈ returned call next inputs) : ∃ earlier later last,
        input :: inputs = earlier ++ done.1 :: later ∧
          call done.1 (after call state earlier) = (.ok done.2, last) := by
      obtain ⟨earlier, later, last, rfl, returns⟩ := ih mem
      refine ⟨input :: earlier, later, last, rfl, ?_⟩
      rw [after_cons h, returns]
    by_cases succeeded : outcome.Succeeded
    · obtain ⟨value, rfl⟩ := Outcome.succeeded_iff.mp succeeded
      rw [returned_cons_of_ok h] at mem
      rcases List.mem_cons.mp mem with rfl | mem
      · exact ⟨[], inputs, next, rfl, h⟩
      · exact later mem
    · rw [returned_cons_of_not h succeeded] at mem
      exact later mem

end Call

end GoBase
