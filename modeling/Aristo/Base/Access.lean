import Aristo.Base.Call

/-!
# The accesses of a call to a store

Code that is handed a store is written over a `Backend`: its operations, on whatever state the
store has; any of them may fail.  `Backend.logged` is the store that also writes down each operation
before it is carried out.  What is claimed of the list of accesses is an invariant of the run: it is
enough that the property `Admits` each single access.  `Erases` says that writing down changes
nothing else.
-/

namespace GoBase

/-- An access to a key; inserting and removing are both writing. -/
inductive Access (κ : Type) where
  | read (key : κ)
  | write (key : κ)
deriving DecidableEq

namespace Access

variable {κ : Type}

def key : Access κ → κ
  | read key => key
  | write key => key

/-- The property survives one more access. -/
def Admits (P : List (Access κ) → Prop) (access : Access κ) : Prop :=
  ∀ log, P log → P (log ++ [access])

theorem admits_forall {allowed : Access κ → Prop} {access : Access κ} (member : allowed access) :
    Admits (fun log => ∀ access ∈ log, allowed access) access := by
  intro log within other mem
  rcases List.mem_append.mp mem with old | new
  · exact within other old
  · rwa [List.mem_singleton.mp new]

theorem admits_mem (done access : Access κ) : Admits (fun log => done ∈ log) access :=
  fun _ mem => List.mem_append_left _ mem

end Access

/-- The operations of a store with keys `κ`, values `ν` and states `σ`. -/
structure Backend (κ ν σ : Type) where
  get : κ → Call σ ν
  insert : κ → ν → Call σ Unit
  remove : κ → Call σ Unit

namespace Backend

open Access Call

variable {κ ν σ α : Type}

/-- Write an access down, and carry it out. -/
def noting (access : Access κ) (call : Call σ α) : Call (σ × List (Access κ)) α := do
  Call.modify fun s => (s.1, s.2 ++ [access])
  Call.focus Prod.fst (fun s state => (state, s.2)) call

/-- The store that writes down its accesses. -/
def logged (store : Backend κ ν σ) : Backend κ ν (σ × List (Access κ)) where
  get key := noting (.read key) (store.get key)
  insert key value := noting (.write key) (store.insert key value)
  remove key := noting (.write key) (store.remove key)

def accesses (call : Call (σ × List (Access κ)) α) (state : σ) : List (Access κ) :=
  (call (state, [])).2.2

theorem accesses_of_maintains (P : List (Access κ) → Prop)
    {call : Call (σ × List (Access κ)) α} (kept : Maintains (fun s => P s.2) call) (start : P [])
    (state : σ) : P (accesses call state) :=
  kept (state, []) start

section Logged

variable {P : List (Access κ) → Prop} {store : Backend κ ν σ} {key : κ}

theorem maintains_noting {access : Access κ} (admits : Admits P access) (call : Call σ α) :
    Maintains (fun s => P s.2) (noting access call) :=
  fun s holds => admits s.2 holds

theorem maintains_insert (admits : Admits P (.write key)) (value : ν) :
    Maintains (fun s => P s.2) (store.logged.insert key value) :=
  maintains_noting admits _

theorem maintains_remove (admits : Admits P (.write key)) :
    Maintains (fun s => P s.2) (store.logged.remove key) :=
  maintains_noting admits _

theorem mem_noting (access : Access κ) (call : Call σ α) (s : σ × List (Access κ)) :
    access ∈ (noting access call s).2.2 :=
  List.mem_append_right _ List.mem_cons_self

end Logged

/-! ### Writing down changes nothing else -/

/-- Without its log the first call is the second one. -/
structure Erases (recorded : Call (σ × List (Access κ)) α) (call : Call σ α) : Prop where
  outcome : ∀ s, (recorded s).1 = (call s.1).1
  state : ∀ s, (recorded s).2.1 = (call s.1).2

section Erases

variable {β : Type} {recorded : Call (σ × List (Access κ)) α} {call : Call σ α}

theorem erases_pure (value : α) : Erases (pure value : Call (σ × List (Access κ)) α) (pure value) :=
  ⟨fun _ => rfl, fun _ => rfl⟩

theorem erases_fail (error : GoError) :
    Erases (fail error : Call (σ × List (Access κ)) α) (fail error) :=
  ⟨fun _ => rfl, fun _ => rfl⟩

theorem erases_lift (result : Except GoError α) :
    Erases (lift result : Call (σ × List (Access κ)) α) (lift result) := by
  cases result with
  | ok value => exact erases_pure value
  | error error => exact erases_fail error

theorem erases_noting (access : Access κ) (call : Call σ α) : Erases (noting access call) call :=
  ⟨fun _ => rfl, fun _ => rfl⟩

theorem erases_bind {recordedNext : α → Call (σ × List (Access κ)) β} {next : α → Call σ β}
    (first : Erases recorded call) (rest : ∀ value, Erases (recordedNext value) (next value)) :
    Erases (recorded >>= recordedNext) (call >>= next) := by
  have both : ∀ s, ((recorded >>= recordedNext) s).1 = ((call >>= next) s.1).1 ∧
      ((recorded >>= recordedNext) s).2.1 = ((call >>= next) s.1).2 := by
    intro s
    have outcome := first.outcome s
    have state := first.state s
    rw [bind_apply, bind_apply]
    rcases left : recorded s with ⟨done, after, log⟩
    rcases right : call s.1 with ⟨done', after'⟩
    rw [left, right] at outcome state
    obtain rfl : done = done' := outcome
    obtain rfl : after = after' := state
    cases done with
    | ok value => exact ⟨(rest value).outcome _, (rest value).state _⟩
    | err | panicked => exact ⟨rfl, rfl⟩
  exact ⟨fun s => (both s).1, fun s => (both s).2⟩

theorem erases_attempt (erases : Erases recorded call) :
    Erases (attempt recorded) (attempt call) := by
  refine ⟨fun s => ?_, fun s => ?_⟩
  · have outcome := erases.outcome s
    unfold attempt
    rcases left : recorded s with ⟨done, after⟩
    rcases right : call s.1 with ⟨done', after'⟩
    rw [left, right] at outcome
    obtain rfl : done = done' := outcome
    cases done <;> rfl
  · rw [attempt_snd, attempt_snd]
    exact erases.state s

theorem erases_wrapping (text : Bytes) (erases : Erases recorded call) :
    Erases (wrapping text recorded) (wrapping text call) := by
  refine ⟨fun s => ?_, fun s => ?_⟩
  · have outcome := erases.outcome s
    unfold wrapping
    rcases left : recorded s with ⟨done, after⟩
    rcases right : call s.1 with ⟨done', after'⟩
    rw [left, right] at outcome
    obtain rfl : done = done' := outcome
    cases done <;> rfl
  · rw [wrapping_snd, wrapping_snd]
    exact erases.state s

theorem erases_forM {ι : Type} {recordedBody : ι → Call (σ × List (Access κ)) Unit}
    {body : ι → Call σ Unit} (each : ∀ item, Erases (recordedBody item) (body item))
    (items : List ι) : Erases (forM items recordedBody) (forM items body) := by
  induction items with
  | nil => exact erases_pure ()
  | cons item items ih =>
    rw [List.forM_cons, List.forM_cons]
    exact erases_bind (each item) fun _ => ih

end Erases

end Backend

end GoBase
