import Aristo.Base.Bytes

/-!
# Go calls: errors, panics and state

A Go function that mutates shared state returns a value or an `error`, or panics; whatever it wrote
before stays written.  `Call σ α` is that: an `Outcome α` with the state left behind, and no
rollback on failure.

`errors.Is` is decided by the sentinels an error wraps, never by its text: `%w` keeps the sentinels
and `%v` loses them.
-/

namespace GoBase

/-- The package variable an `errors.New` value is stored in. -/
structure Sentinel where
  package : String
  name : String
deriving DecidableEq, Repr

/-- An error value: its text and the sentinels it wraps. -/
structure GoError where
  text : Bytes
  wraps : List Sentinel
deriving DecidableEq, Repr

namespace GoError

/-- `errors.Is(err, target)` for a target declared with `errors.New`. -/
def is (error : GoError) (target : Sentinel) : Bool :=
  target ∈ error.wraps

/-- A package-level `errors.New(text)`. -/
def new (sentinel : Sentinel) (text : String) : GoError :=
  ⟨ascii text, [sentinel]⟩

/-- `fmt.Errorf` without a `%w` verb. -/
def plain (text : Bytes) : GoError :=
  ⟨text, []⟩

/-- `fmt.Errorf("<text>: %w", err)`. -/
def wrap (text : Bytes) (error : GoError) : GoError :=
  ⟨text ++ ascii ": " ++ error.text, error.wraps⟩

/-- `fmt.Errorf("%w: <text>", err)`. -/
def annotate (error : GoError) (text : Bytes) : GoError :=
  ⟨error.text ++ ascii ": " ++ text, error.wraps⟩

end GoError

inductive Outcome (α : Type) where
  | ok (value : α)
  | err (error : GoError)
  | panicked
deriving DecidableEq

namespace Outcome

variable {α : Type}

def Succeeded : Outcome α → Prop
  | ok _ => True
  | err _ => False
  | panicked => False

def Failed : Outcome α → Prop
  | ok _ => False
  | err _ => True
  | panicked => False

instance decidableSucceeded : (outcome : Outcome α) → Decidable outcome.Succeeded
  | ok _ => isTrue trivial
  | err _ => isFalse id
  | panicked => isFalse id

@[simp] theorem succeeded_ok (value : α) : (ok value).Succeeded := trivial

@[simp] theorem not_succeeded_err (error : GoError) :
    ¬ (err error : Outcome α).Succeeded := id

@[simp] theorem not_succeeded_panicked : ¬ (panicked : Outcome α).Succeeded := id

@[simp] theorem not_failed_ok (value : α) : ¬ (ok value).Failed := id

@[simp] theorem failed_err (error : GoError) : (err error : Outcome α).Failed := trivial

/-- A call succeeds when it returns a value. -/
theorem succeeded_iff {outcome : Outcome α} : outcome.Succeeded ↔ ∃ value, outcome = ok value := by
  cases outcome <;> simp

end Outcome

/-- A Go call over the mutable state `σ`. -/
def Call (σ α : Type) :=
  σ → Outcome α × σ

namespace Call

variable {σ τ α β : Type}

instance instMonadCall : Monad (Call σ) where
  pure value := fun state => (.ok value, state)
  bind call next := fun state =>
    match call state with
    | (.ok value, state) => next value state
    | (.err error, state) => (.err error, state)
    | (.panicked, state) => (.panicked, state)

def fail (error : GoError) : Call σ α :=
  fun state => (.err error, state)

def crash : Call σ α :=
  fun state => (.panicked, state)

def read : Call σ σ :=
  fun state => (.ok state, state)

def modify (update : σ → σ) : Call σ Unit :=
  fun state => (.ok (), update state)

/-- Look at the error a call returns instead of passing it on. -/
def attempt (call : Call σ α) : Call σ (Except GoError α) :=
  fun state =>
    match call state with
    | (.ok value, state) => (.ok (.ok value), state)
    | (.err error, state) => (.ok (.error error), state)
    | (.panicked, state) => (.panicked, state)

/-- Return the value or the error of an `Except`. -/
def lift : Except GoError α → Call σ α
  | .ok value => pure value
  | .error error => fail error

/-- Pass an error on with more text, `fmt.Errorf("<text>: %w", err)`. -/
def wrapping (text : Bytes) (call : Call σ α) : Call σ α :=
  fun state =>
    match call state with
    | (.ok value, state) => (.ok value, state)
    | (.err error, state) => (.err (error.wrap text), state)
    | (.panicked, state) => (.panicked, state)

/-- Pass another error on in the place of the one returned. -/
def mapError (change : GoError → GoError) (call : Call σ α) : Call σ α :=
  fun state =>
    match call state with
    | (.ok value, state) => (.ok value, state)
    | (.err error, state) => (.err (change error), state)
    | (.panicked, state) => (.panicked, state)

/-- Run a call on one component of a larger state. -/
def focus (get : σ → τ) (set : σ → τ → σ) (call : Call τ α) : Call σ α :=
  fun state =>
    match call (get state) with
    | (outcome, part) => (outcome, set state part)

@[simp] theorem pure_apply (value : α) (state : σ) :
    (pure value : Call σ α) state = (.ok value, state) := rfl

@[simp] theorem fail_apply (error : GoError) (state : σ) :
    (fail error : Call σ α) state = (.err error, state) := rfl

@[simp] theorem crash_apply (state : σ) :
    (crash : Call σ α) state = (.panicked, state) := rfl

@[simp] theorem read_apply (state : σ) :
    (read : Call σ σ) state = (.ok state, state) := rfl

@[simp] theorem modify_apply (update : σ → σ) (state : σ) :
    modify update state = (.ok (), update state) := rfl

@[simp] theorem lift_ok (value : α) (state : σ) :
    (lift (.ok value) : Call σ α) state = (.ok value, state) := rfl

@[simp] theorem lift_error (error : GoError) (state : σ) :
    (lift (.error error) : Call σ α) state = (.err error, state) := rfl

theorem bind_apply (call : Call σ α) (next : α → Call σ β) (state : σ) :
    (call >>= next) state =
      match call state with
      | (.ok value, state) => next value state
      | (.err error, state) => (.err error, state)
      | (.panicked, state) => (.panicked, state) := rfl

variable {call : Call σ α} {next : α → Call σ β} {state after : σ} {value : α}

/-- A call that returns is followed by the next, -/
theorem bind_of_ok (h : call state = (.ok value, after)) :
    (call >>= next) state = next value after := by
  rw [bind_apply, h]

variable {result : Except GoError α}

theorem lift_bind_of_ok (h : result = .ok value) :
    (lift result >>= next) state = next value state := by
  rw [h]
  rfl

variable {error : GoError}

theorem lift_bind_of_error (h : result = .error error) :
    (lift result >>= next) state = (.err error, state) := by
  rw [h]
  rfl

/-- and one that fails is not. -/
theorem bind_of_err (h : call state = (.err error, after)) :
    (call >>= next) state = (.err error, after) := by
  rw [bind_apply, h]

theorem bind_of_panicked (h : call state = (.panicked, after)) :
    (call >>= next) state = (.panicked, after) := by
  rw [bind_apply, h]

/-- **Inversion of a successful sequence**: both halves returned a nil error. -/
theorem bind_eq_ok {value : β} :
    (call >>= next) state = (.ok value, after) ↔
      ∃ first middle, call state = (.ok first, middle) ∧
        next first middle = (.ok value, after) := by
  rw [bind_apply]
  rcases h : call state with ⟨outcome, middle⟩
  cases outcome with
  | ok | err | panicked => simp

theorem modify_eq_ok {update : σ → σ} :
    modify update state = (.ok (), after) ↔ after = update state := by
  rw [modify_apply, Prod.mk.injEq, and_iff_right rfl, eq_comm]

/-- The value of a check that is passed on. -/
theorem lift_eq_ok :
    (lift result : Call σ α) state = (.ok value, after) ↔
      result = .ok value ∧ after = state := by
  cases result with
  | ok => simp [eq_comm]
  | error => simp

theorem lift_bind_eq_ok {value : β} :
    (lift result >>= next) state = (.ok value, after) ↔
      ∃ first, result = .ok first ∧ next first state = (.ok value, after) := by
  cases result with
  | ok => simp [lift_bind_of_ok]
  | error => simp [lift_bind_of_error]

theorem lift_fst_eq_ok : (lift result state).1 = .ok value ↔ result = .ok value := by
  cases result <;> simp

theorem lift_fst_ne_panicked (result : Except GoError α) (state : σ) :
    (lift result state).1 ≠ .panicked := by
  cases result <;> simp

/-- Looking at the error of a call that has none. -/
theorem attempt_eq_ok_ok :
    attempt call state = (.ok (.ok value), after) ↔ call state = (.ok value, after) := by
  unfold attempt
  rcases h : call state with ⟨outcome, middle⟩
  cases outcome <;> simp

/-- A call on a component changes the component. -/
theorem focus_eq_ok {get : σ → τ} {set : σ → τ → σ} {call : Call τ α} :
    focus get set call state = (.ok value, after) ↔
      ∃ part, call (get state) = (.ok value, part) ∧ after = set state part := by
  unfold focus
  rcases h : call (get state) with ⟨outcome, part⟩
  constructor
  · intro equal
    obtain ⟨rfl, rfl⟩ := Prod.mk.inj equal
    exact ⟨part, rfl, rfl⟩
  · rintro ⟨part', equal, rfl⟩
    obtain ⟨rfl, rfl⟩ := Prod.mk.inj equal
    rfl

theorem wrapping_of_ok {text : Bytes} (h : call state = (.ok value, after)) :
    wrapping text call state = (.ok value, after) := by
  simp [wrapping, h]

theorem wrapping_of_err {text : Bytes} (h : call state = (.err error, after)) :
    wrapping text call state = (.err (error.wrap text), after) := by
  simp [wrapping, h]

theorem attempt_of_err (h : call state = (.err error, after)) :
    attempt call state = (.ok (.error error), after) := by
  simp [attempt, h]

/-- More text does not make an error of a value. -/
theorem wrapping_eq_ok {text : Bytes} :
    wrapping text call state = (.ok value, after) ↔
      call state = (.ok value, after) := by
  unfold wrapping
  rcases h : call state with ⟨outcome, middle⟩
  cases outcome <;> simp

/-! ### Indexing

The index and slice expressions of Go, which panic out of range. -/

def index (b : Bytes) (i : ℕ) : Call σ UInt8 :=
  match b[i]? with
  | some byte => pure byte
  | none => crash

/-- `b[low:high]`, for a slice without room behind its end. -/
def slice (b : Bytes) (low high : ℕ) : Call σ Bytes :=
  if low ≤ high ∧ high ≤ b.length then pure ((b.take high).drop low) else crash

/-- In range, an index expression returns, -/
theorem index_of_lt {b : Bytes} {i : ℕ} (inRange : i < b.length) (state : σ) :
    index b i state = (.ok (b.getD i 0), state) := by
  rw [index, List.getD_eq_getElem?_getD, List.getElem?_eq_getElem inRange]
  rfl

/-- and so does a slice expression. -/
theorem slice_of_le {b : Bytes} {low high : ℕ} (ordered : low ≤ high)
    (inRange : high ≤ b.length) (state : σ) :
    slice b low high state = (.ok ((b.take high).drop low), state) := by
  rw [slice, if_pos ⟨ordered, inRange⟩]
  rfl

/-! ### Postconditions

`Ends call state Q` is the postcondition `Q` of a call from one state, over every way
it can end.  The rules below follow the shape of a function body: one per statement. -/

/-- However the call ends, its outcome and the state it leaves satisfy `Q`. -/
def Ends (call : Call σ α) (state : σ) (Q : Outcome α → σ → Prop) : Prop :=
  Q (call state).1 (call state).2

variable {Q : Outcome α → σ → Prop}

/-- A postcondition can be weakened. -/
theorem Ends.mono {P : Outcome α → σ → Prop} (h : Ends call state P)
    (weaker : ∀ outcome after, P outcome after → Q outcome after) :
    Ends call state Q :=
  weaker _ _ h

theorem ends_of_eq {outcome : Outcome α} (h : call state = (outcome, after))
    (post : Q outcome after) :
    Ends call state Q := by
  rw [Ends, h]
  exact post

/-- A sequence: the second call runs from where the first returned, if it did. -/
theorem ends_bind {P : Outcome α → σ → Prop} {Q : Outcome β → σ → Prop} (first : Ends call state P)
    (ok : ∀ value after, P (.ok value) after → Ends (next value) after Q)
    (err : ∀ error after, P (.err error) after → Q (.err error) after)
    (panicked : ∀ after, P .panicked after → Q .panicked after) :
    Ends (call >>= next) state Q := by
  unfold Ends at first ⊢
  rw [bind_apply]
  rcases h : call state with ⟨outcome, after⟩
  rw [h] at first
  cases outcome with
  | ok value => exact ok value after first
  | err error => exact err error after first
  | panicked => exact panicked after first

theorem ends_wrapping (text : Bytes) {Q : σ → Prop}
    (ends : Ends call state fun outcome after => outcome.Succeeded → Q after) :
    Ends (wrapping text call) state fun outcome after => outcome.Succeeded → Q after := by
  unfold Ends wrapping at *
  rcases h : call state with ⟨outcome, after⟩
  rw [h] at ends
  cases outcome with
  | ok => exact ends
  | err | panicked => exact False.elim

theorem ends_lift (ok : ∀ value, result = .ok value → Q (.ok value) state)
    (err : ∀ error, result = .error error → Q (.err error) state) :
    Ends (lift result) state Q := by
  cases result with
  | ok value => exact ok value rfl
  | error error => exact err error rfl

/-- A check, followed by the rest. -/
theorem ends_lift_bind {Q : Outcome β → σ → Prop}
    (ok : ∀ value, result = .ok value → Ends (next value) state Q)
    (err : ∀ error, result = .error error → Q (.err error) state) :
    Ends (lift result >>= next) state Q := by
  cases result with
  | ok value => exact ok value rfl
  | error error => exact err error rfl

/-! ### Invariants of calls

`Maintains Inv call` is a property of the state that the call does not break, however it ends. -/

/-- Looking at the error of a call does not change what it does, -/
theorem attempt_snd (call : Call σ α) (state : σ) : (attempt call state).2 = (call state).2 := by
  unfold attempt
  rcases call state with ⟨outcome, after⟩
  cases outcome <;> rfl

/-- nor does changing the error. -/
theorem mapError_snd (change : GoError → GoError) (call : Call σ α) (state : σ) :
    (mapError change call state).2 = (call state).2 := by
  unfold mapError
  rcases call state with ⟨outcome, after⟩
  cases outcome <;> rfl

theorem wrapping_snd (text : Bytes) (call : Call σ α) (state : σ) :
    (wrapping text call state).2 = (call state).2 :=
  mapError_snd (GoError.wrap text) call state

theorem lift_snd (result : Except GoError α) (state : σ) : (lift result state).2 = state := by
  cases result <;> rfl

section Maintains

variable {Inv : σ → Prop}

/-- The call keeps the invariant. -/
def Maintains (Inv : σ → Prop) (call : Call σ α) : Prop :=
  ∀ state, Inv state → Inv (call state).2

theorem maintains_lift (result : Except GoError α) : Maintains Inv (lift result) := by
  intro state inv
  rwa [lift_snd]

variable {call : Call σ α}

/-- What the first call reaches and the rest keeps, holds at the end. -/
theorem reaches_bind (Inv : σ → Prop) {next : α → Call σ β} {state : σ}
    (middle : Inv (call state).2) (rest : ∀ value, Maintains Inv (next value)) :
    Inv ((call >>= next) state).2 := by
  rw [bind_apply]
  rcases h : call state with ⟨outcome, after⟩
  rw [h] at middle
  cases outcome with
  | ok value => exact rest value after middle
  | err | panicked => exact middle

/-- Calls that keep the invariant, one after the other. -/
theorem maintains_bind {next : α → Call σ β} (first : Maintains Inv call)
    (second : ∀ value, Maintains Inv (next value)) : Maintains Inv (call >>= next) :=
  fun state inv => reaches_bind Inv (first state inv) second

theorem maintains_pure (value : α) : Maintains Inv (pure value : Call σ α) := fun _ inv => inv

theorem maintains_fail (error : GoError) : Maintains Inv (fail error : Call σ α) :=
  fun _ inv => inv

theorem maintains_attempt (maintains : Maintains Inv call) : Maintains Inv (attempt call) := by
  intro state inv
  rw [attempt_snd]
  exact maintains state inv

theorem maintains_wrapping {text : Bytes} (maintains : Maintains Inv call) :
    Maintains Inv (wrapping text call) := by
  intro state inv
  rw [wrapping_snd]
  exact maintains state inv

variable {ι : Type} {body : ι → Call σ Unit} {items : List ι}

/-- A loop keeps the invariant when its rounds do, -/
theorem maintains_forM_of_mem (each : ∀ item ∈ items, Maintains Inv (body item)) : Maintains Inv
    (forM items body) := by
  induction items with
  | nil => exact fun _ inv => inv
  | cons item items ih =>
    obtain ⟨first, rest⟩ := List.forall_mem_cons.mp each
    rw [List.forM_cons]
    exact maintains_bind first fun _ => ih rest

/-- and returns when they return as long as it holds. -/
theorem forM_returns (before : ∀ item ∈ items, Maintains Inv (body item))
    (returns : ∀ item ∈ items, ∀ state, Inv state → (body item state).1 = .ok ()) {state : σ}
    (inv : Inv state) : (forM items body state).1 = .ok () := by
  induction items generalizing state with
  | nil => rfl
  | cons first items ih =>
    obtain ⟨beforeFirst, before⟩ := List.forall_mem_cons.mp before
    obtain ⟨returnsFirst, returns⟩ := List.forall_mem_cons.mp returns
    rw [List.forM_cons, bind_of_ok (Prod.ext (returnsFirst state inv) rfl)]
    exact ih before returns (beforeFirst state inv)

/-- What one round reaches and the others keep, holds after the loop. -/
theorem forM_reaches {item : ι}
    {Reached : σ → Prop} (mem : item ∈ items)
    (before : ∀ item ∈ items, Maintains Inv (body item))
    (reaches : ∀ state, Inv state → (body item state).1 = .ok () → Reached (body item state).2)
    (behind : ∀ item ∈ items, Maintains Reached (body item)) {state after : σ}
    (inv : Inv state) (ok : forM items body state = (.ok (), after)) : Reached after := by
  induction items generalizing state with
  | nil => exact absurd mem List.not_mem_nil
  | cons first items ih =>
    obtain ⟨beforeFirst, before⟩ := List.forall_mem_cons.mp before
    have behindRest := (List.forall_mem_cons.mp behind).2
    rw [List.forM_cons] at ok
    obtain ⟨_, middle, done, rest⟩ := bind_eq_ok.mp ok
    have here : (body first state).2 = middle := congrArg Prod.snd done
    rcases List.mem_cons.mp mem with rfl | later
    · have reached := reaches state inv (congrArg Prod.fst done)
      have kept := maintains_forM_of_mem behindRest middle (here ▸ reached)
      rwa [rest] at kept
    · exact ih later before behindRest (here ▸ beforeFirst state inv) rest

theorem maintains_forM (each : ∀ item, Maintains Inv (body item)) : Maintains Inv (forM items body)
    :=
  maintains_forM_of_mem fun item _ => each item

end Maintains

/-! ### What a call leaves alone

`Keeps view call` is the frame of a call: a view of the state that it does not change,
however it ends.  Every value of the view is an invariant then. -/

section Keeps

variable {ν : Type} {view : σ → ν}

/-- The call leaves the view as it was. -/
def Keeps (view : σ → ν) (call : Call σ α) : Prop :=
  ∀ state, view (call state).2 = view state

variable {call : Call σ α}

/-- A view is kept when each of its values is. -/
theorem keeps_iff : Keeps view call ↔ ∀ seen, Maintains (fun state => view state = seen) call := by
  constructor
  · intro keeps seen state same
    exact (keeps state).trans same
  · intro maintains state
    exact maintains (view state) state rfl

theorem keeps_pure (value : α) : Keeps view (pure value : Call σ α) := fun _ => rfl

theorem keeps_fail (error : GoError) : Keeps view (fail error : Call σ α) := fun _ => rfl

theorem keeps_crash : Keeps view (crash : Call σ α) := fun _ => rfl

theorem keeps_read : Keeps view (read : Call σ σ) := fun _ => rfl

theorem keeps_modify {update : σ → σ} (same : ∀ state, view (update state) = view state) :
    Keeps view (modify update) := same

theorem keeps_lift (result : Except GoError α) : Keeps view (lift result : Call σ α) :=
  fun state => congrArg view (lift_snd result state)

/-- Calls that keep the view, one after the other. -/
theorem keeps_bind {next : α → Call σ β} (first : Keeps view call)
    (second : ∀ value, Keeps view (next value)) : Keeps view (call >>= next) := by
  refine keeps_iff.mpr fun seen => maintains_bind (keeps_iff.mp first seen) fun value => ?_
  exact keeps_iff.mp (second value) seen

/-- Of calls one after the other only the first one matters when the others keep the view. -/
theorem view_bind_of_keeps (view : σ → ν) {next : α → Call σ β}
    (rest : ∀ value, Keeps view (next value)) (state : σ) :
    view ((call >>= next) state).2 = view (call state).2 := by
  rw [bind_apply]
  rcases call state with ⟨outcome, after⟩
  cases outcome with
  | ok value => exact rest value after
  | err | panicked => rfl

theorem keeps_attempt (keeps : Keeps view call) : Keeps view (attempt call) :=
  fun state => (congrArg view (attempt_snd call state)).trans (keeps state)

theorem keeps_mapError {change : GoError → GoError} (keeps : Keeps view call) :
    Keeps view (mapError change call) :=
  fun state => (congrArg view (mapError_snd change call state)).trans (keeps state)

theorem keeps_wrapping {text : Bytes} (keeps : Keeps view call) : Keeps view (wrapping text call) :=
  keeps_mapError keeps

theorem keeps_focus {get : σ → τ} {set : σ → τ → σ} (apart : ∀ state part,
    view (set state part) = view state) (call : Call τ α) : Keeps view (focus get set call) :=
  fun state => apart state _

theorem keeps_forM {ι : Type} {body : ι → Call σ Unit} {items : List ι}
    (each : ∀ item, Keeps view (body item)) : Keeps view (forM items body) :=
  keeps_iff.mpr fun seen => maintains_forM fun item => keeps_iff.mp (each item) seen

end Keeps

/-! ### Errors that a call does not return -/

section Avoids

variable {error : GoError}

/-- The call never returns the error. -/
def Avoids (error : GoError) (call : Call σ α) : Prop :=
  ∀ state, (call state).1 ≠ .err error

theorem avoids_modify (update : σ → σ) : Avoids error (modify update) := by
  intro state
  simp

theorem avoids_lift {result : Except GoError α} (other : result ≠ .error error) :
    Avoids error (lift result : Call σ α) := by
  intro state
  cases result with
  | ok => simp
  | error =>
    rw [lift_error]
    intro same
    exact other (congrArg Except.error (Outcome.err.inj same))

theorem avoids_wrapping {text : Bytes} (other : ∀ inner : GoError, inner.wrap text ≠ error)
    (call : Call σ α) : Avoids error (wrapping text call) := by
  intro state
  unfold wrapping
  rcases call state with ⟨outcome, after⟩
  cases outcome with
  | ok => simp
  | err inner => exact fun same => other inner (Outcome.err.inj same)
  | panicked => simp

/-- Neither of two calls returns the error. -/
theorem avoids_bind {call : Call σ α} {next : α → Call σ β} (first : Avoids error call)
    (second : ∀ value, Avoids error (next value)) : Avoids error (call >>= next) := by
  intro state
  have here := first state
  rw [bind_apply]
  rcases h : call state with ⟨outcome, after⟩
  rw [h] at here
  cases outcome with
  | ok value => exact second value after
  | err => exact fun same => here (congrArg Outcome.err (Outcome.err.inj same))
  | panicked => simp

theorem avoids_forM {ι : Type} {body : ι → Call σ Unit} (each : ∀ item, Avoids error (body item))
    (items : List ι) : Avoids error (forM items body) := by
  induction items with
  | nil =>
    intro state same
    cases same
  | cons item items ih =>
    rw [List.forM_cons]
    exact avoids_bind (each item) fun _ => ih

end Avoids

/-! ### Calls that never panic -/

section Returns

/-- The call never panics. -/
def Returns (call : Call σ α) : Prop :=
  ∀ state, (call state).1 ≠ .panicked

theorem returns_pure (value : α) : Returns (pure value : Call σ α) := by
  intro state
  simp

theorem returns_fail (error : GoError) : Returns (fail error : Call σ α) := by
  intro state
  simp

theorem returns_read : Returns (read : Call σ σ) := by
  intro state
  simp

theorem returns_modify (update : σ → σ) : Returns (modify update) := by
  intro state
  simp

theorem returns_lift (result : Except GoError α) : Returns (lift result : Call σ α) :=
  lift_fst_ne_panicked result

theorem returns_wrapping (text : Bytes) {call : Call σ α} (returns : Returns call) :
    Returns (wrapping text call) := by
  intro state
  have here := returns state
  unfold wrapping
  rcases h : call state with ⟨outcome, after⟩
  rw [h] at here
  cases outcome with
  | ok | err => simp
  | panicked => exact absurd rfl here

/-- Of two calls the second panics, if the first cannot. -/
theorem bind_fst_eq_panicked_iff {call : Call σ α} {next : α → Call σ β} {state : σ}
    (returns : (call state).1 ≠ .panicked) :
    ((call >>= next) state).1 = .panicked ↔
      ∃ value after, call state = (.ok value, after) ∧ (next value after).1 = .panicked := by
  rw [bind_apply]
  rcases h : call state with ⟨outcome, after⟩
  rw [h] at returns
  cases outcome with
  | ok value =>
    constructor
    · exact fun panicked => ⟨value, after, rfl, panicked⟩
    · rintro ⟨value, after, equal, panicked⟩
      cases equal
      exact panicked
  | err => simp
  | panicked => exact absurd rfl returns

theorem returns_bind {call : Call σ α} {next : α → Call σ β} (first : Returns call)
    (second : ∀ value, Returns (next value)) : Returns (call >>= next) := by
  intro state panicked
  obtain ⟨value, after, -, later⟩ := (bind_fst_eq_panicked_iff (first state)).mp panicked
  exact second value after later

theorem returns_focus {get : σ → τ} {set : σ → τ → σ} {call : Call τ α} (returns : Returns call) :
    Returns (focus get set call) := by
  intro state
  exact returns (get state)

theorem returns_forM {ι : Type} {body : ι → Call σ Unit} (each : ∀ item, Returns (body item))
    (items : List ι) : Returns (forM items body) := by
  induction items with
  | nil => exact returns_pure ()
  | cons item items ih =>
    rw [List.forM_cons]
    exact returns_bind (each item) fun _ => ih

theorem returns_foldlM {ι : Type} {body : α → ι → Call σ α}
    (each : ∀ value item, Returns (body value item)) (items : List ι) (value : α) :
    Returns (items.foldlM body value) := by
  induction items generalizing value with
  | nil => exact returns_pure value
  | cons item items ih =>
    rw [List.foldlM_cons]
    exact returns_bind (each value item) ih

end Returns

/-! ### What a call looks at

`Observes view call` is for calls that only read: the outcome is a function of the view, and the
view is left as it was.  In a loop over such calls each one ends as it would alone. -/

section Observes

variable {ν : Type} {view : σ → ν}

/-- The call looks at nothing but the view, which it leaves alone. -/
structure Observes (view : σ → ν) (call : Call σ α) : Prop where
  outcome : ∀ {state state'}, view state = view state' → (call state).1 = (call state').1
  keeps : Keeps view call

theorem observes_pure (value : α) : Observes view (pure value : Call σ α) :=
  ⟨fun _ => rfl, keeps_pure value⟩

theorem observes_fail (error : GoError) : Observes view (fail error : Call σ α) :=
  ⟨fun _ => rfl, keeps_fail error⟩

theorem observes_lift (result : Except GoError α) : Observes view (lift result : Call σ α) := by
  cases result with
  | ok value => exact observes_pure value
  | error error => exact observes_fail error

/-- The second call sees what the first has seen. -/
theorem observes_bind {call : Call σ α} {next : α → Call σ β} (first : Observes view call)
    (second : ∀ value, Observes view (next value)) : Observes view (call >>= next) := by
  refine ⟨?_, keeps_bind first.keeps fun value => (second value).keeps⟩
  intro state state' same
  have outcomes := first.outcome same
  have kept := first.keeps state
  have kept' := first.keeps state'
  rw [bind_apply, bind_apply]
  rcases h : call state with ⟨outcome, after⟩
  rcases h' : call state' with ⟨outcome', after'⟩
  rw [h] at outcomes kept
  rw [h'] at outcomes kept'
  cases outcomes
  cases outcome with
  | ok value => exact (second value).outcome ((kept.trans same).trans kept'.symm)
  | err | panicked => rfl

theorem observes_attempt {call : Call σ α} (observes : Observes view call) :
    Observes view (attempt call) := by
  refine ⟨?_, keeps_attempt observes.keeps⟩
  intro state state' same
  have outcomes := observes.outcome same
  unfold attempt
  rcases h : call state with ⟨outcome, after⟩
  rcases h' : call state' with ⟨outcome', after'⟩
  rw [h, h'] at outcomes
  cases outcomes
  cases outcome <;> rfl

/-- Two such calls return when each does, alone. -/
theorem Observes.seq_fst_eq_ok {check : Call σ Unit} {next : Unit → Call σ β}
    (first : Observes view check) (second : Observes view (next ())) {state : σ} {value : β} :
    ((check >>= next) state).1 = .ok value ↔
      (check state).1 = .ok () ∧ (next () state).1 = .ok value := by
  have kept := first.keeps state
  rw [bind_apply]
  rcases h : check state with ⟨outcome, after⟩
  rw [h] at kept
  cases outcome with
  | ok => simp [second.outcome kept]
  | err | panicked => simp

theorem observes_forM {ι : Type} {body : ι → Call σ Unit}
    (each : ∀ item, Observes view (body item)) (items : List ι) :
    Observes view (forM items body) := by
  induction items with
  | nil => exact observes_pure ()
  | cons item items ih =>
    rw [List.forM_cons]
    exact observes_bind (each item) fun _ => ih

/-- **A loop of calls that only read** returns when each call does, alone. -/
theorem forM_fst_eq_ok {ι : Type} {body : ι → Call σ Unit}
    (each : ∀ item, Observes view (body item)) {items : List ι} {state : σ} :
    (forM items body state).1 = .ok () ↔ ∀ item ∈ items, (body item state).1 = .ok () := by
  induction items with
  | nil => simp [List.forM_nil]
  | cons item items ih =>
    rw [List.forM_cons, (each item).seq_fst_eq_ok (observes_forM each items), ih,
      List.forall_mem_cons]

end Observes

end Call

variable {α : Type}

/-- Two steps succeed when both do. -/
theorem except_bind_eq_ok {β : Type} {first : Except GoError α} {next : α → Except GoError β}
    {value : β} : first >>= next = .ok value ↔ ∃ a, first = .ok a ∧ next a = .ok value := by
  cases first with
  | ok | error => simp [bind, Except.bind]

theorem except_seq_eq_ok {check : Except GoError Unit} {next : Unit → Except GoError α}
    {value : α} :
    check >>= next = .ok value ↔ check = .ok () ∧ next () = .ok value := by
  cases check with
  | ok | error => simp [bind, Except.bind]

/-- `if c { return err }`. -/
def refuse (c : Prop) [Decidable c] (error : GoError) : Except GoError Unit :=
  if c then .error error else .ok ()

variable {error : GoError} {c : Prop}

@[simp] theorem refuse_eq_ok [Decidable c] :
    refuse c error = .ok () ↔ ¬ c := by
  by_cases h : c <;> simp [refuse, h]

theorem refuse_eq_error [Decidable c] (h : c) (error : GoError) : refuse c error = .error error :=
  if_pos h

section

variable {σ : Type} [Decidable c] {next : Unit → Call σ α}

theorem Call.refuse_bind_eq_ok {state after : σ}
    {value : α} :
    (Call.lift (refuse c error) >>= next) state = (.ok value, after) ↔
      ¬ c ∧ next () state = (.ok value, after) := by
  rw [Call.lift_bind_eq_ok, ← refuse_eq_ok]
  exact ⟨fun ⟨_, passed, rest⟩ => ⟨passed, rest⟩, fun ⟨passed, rest⟩ => ⟨(), passed, rest⟩⟩

theorem Call.refuse_bind_of_not {state : σ}
    (h : ¬ c) :
    (Call.lift (refuse c error) >>= next) state = next () state :=
  Call.lift_bind_of_ok (refuse_eq_ok.mpr h)

theorem Call.refuse_bind_of {state : σ} (h : c) :
    (Call.lift (refuse c error) >>= next) state = (.err error, state) :=
  Call.lift_bind_of_error (refuse_eq_error h error)

/-- A check that is passed on, in a call as without one. -/
theorem Call.refuse_bind_eq_lift {next' : Unit → Except GoError α} {state : σ}
    (same : ¬ c → next () state = Call.lift (next' ()) state) :
    (Call.lift (refuse c error) >>= next) state =
      Call.lift (refuse c error >>= next') state := by
  by_cases h : c
  · rw [Call.refuse_bind_of h, refuse_eq_error h]
    rfl
  · rw [Call.refuse_bind_of_not h, refuse_eq_ok.mpr h, same h]
    rfl

end

/-- A check has one error. -/
theorem eq_of_refuse_eq_error [Decidable c] {error' : GoError}
    (h : refuse c error = .error error') :
    error = error' := by
  by_cases hc : c
  · rw [refuse, if_pos hc] at h
    exact Except.error.inj h
  · rw [refuse, if_neg hc] at h
    cases h

@[simp] theorem mapError_eq_ok {change : GoError → GoError} {result : Except GoError α}
    {value : α} :
    result.mapError change = .ok value ↔ result = .ok value := by
  cases result <;> simp [Except.mapError]

/-- A loop that stops at the first error runs to its end exactly when no item
reports one. -/
theorem forM_eq_ok_iff {body : α → Except GoError Unit} {items : List α} :
    forM items body = .ok () ↔ ∀ item ∈ items, body item = .ok () := by
  induction items with
  | nil => simp [pure, Except.pure]
  | cons item items ih =>
    rw [List.forM_cons, except_seq_eq_ok, ih, List.forall_mem_cons]

/-- A loop that collects one value for every item, when the item can be told from the value. -/
theorem exists_mapM_eq_ok {β : Type} {body : α → Except GoError β} {item : β → α} {P : β → Prop}
    {items : List α} (each : ∀ a ∈ items, ∃ value, body a = .ok value ∧ item value = a ∧ P value) :
    ∃ values, items.mapM body = .ok values ∧ values.map item = items ∧
      ∀ value ∈ values, P value := by
  induction items with
  | nil => exact ⟨[], rfl, rfl, fun _ mem => absurd mem List.not_mem_nil⟩
  | cons a items ih =>
    obtain ⟨value, first, rfl, holds⟩ := each a List.mem_cons_self
    obtain ⟨values, rest, rfl, all⟩ := ih fun b mem => each b (List.mem_cons_of_mem _ mem)
    refine ⟨value :: values, ?_, rfl, List.forall_mem_cons.mpr ⟨holds, all⟩⟩
    rw [List.mapM_cons, first, rest]
    rfl

end GoBase
