import Aristo.Base.Chan

/-!
# Calls that wait for locks

A goroutine that takes a lock which somebody holds waits.  `Blocking σ α` is a call over a state
that has the locks in it; it has no result when the goroutine waits for a lock that is held, and
all that follows has none either.  A lock is not reentrant, so a call under a lock that takes it
again waits for itself (`guard_of_reentry`).
-/

namespace GoBase

variable {σ α β : Type}

/-- A call that may have to wait; `none` when it does. -/
def Blocking (σ α : Type) :=
  σ → Option (Outcome α × σ)

namespace Blocking

instance instMonadBlocking : Monad (Blocking σ) where
  pure value := fun state => some (.ok value, state)
  bind call next := fun state =>
    match call state with
    | none => none
    | some (.ok value, state) => next value state
    | some (.err error, state) => some (.err error, state)
    | some (.panicked, state) => some (.panicked, state)

def ofCall (call : Call σ α) : Blocking σ α :=
  fun state => some (call state)

/-- Look at the error a call returns instead of passing it on. -/
def attempt (call : Blocking σ α) : Blocking σ (Except GoError α) :=
  fun state => (call state).map fun result => Call.attempt (fun _ => result) state

/-- Pass an error on with more text, `fmt.Errorf("<text>: %w", err)`. -/
def wrapping (text : Bytes) (call : Blocking σ α) : Blocking σ α :=
  fun state => (call state).map fun result => Call.wrapping text (fun _ => result) state

theorem bind_of_waits {call : Blocking σ α} {next : α → Blocking σ β} {state : σ}
    (waits : call state = none) : (call >>= next) state = none := by
  change (match call state with
    | none => none
    | some (.ok value, state) => next value state
    | some (.err error, state) => some (.err error, state)
    | some (.panicked, state) => some (.panicked, state)) = none
  rw [waits]

theorem wrapping_of_waits {call : Blocking σ α} {state : σ} (text : Bytes)
    (waits : call state = none) : wrapping text call state = none := by
  rw [wrapping, waits, Option.map_none]

end Blocking

structure Lock (σ : Type) where
  get : σ → RWMutex
  set : σ → RWMutex → σ
  get_set : ∀ state mu, get (set state mu) = mu

namespace Lock

variable (mu : Lock σ)

/-- `mu.Lock()`, and `mu.Unlock()` when the call ends. -/
def guard (call : Blocking σ α) : Blocking σ α :=
  fun state =>
    match (mu.get state).lock with
    | none => none
    | some held =>
      (call (mu.set state held)).map fun result =>
        (result.1, mu.set result.2 (mu.get result.2).unlock)

variable {mu}

theorem guard_of_held {state : σ} (held : (mu.get state).lock = none) (call : Blocking σ α) :
    mu.guard call state = none := by
  rw [guard, held]

/-- **Reentry.**  A call that waits whenever its own lock is held waits for ever. -/
theorem guard_of_reentry {call : Blocking σ α}
    (reenters : ∀ state, (mu.get state).lock = none → call state = none) (state : σ) :
    mu.guard call state = none := by
  unfold guard
  split
  · rfl
  · rename_i held taken
    have again : (mu.get (mu.set state held)).lock = none := by
      rw [mu.get_set]
      exact RWMutex.lock_of_lock taken
    rw [reenters _ again, Option.map_none]

theorem guard_ofCall {state : σ} {held : RWMutex} (free : (mu.get state).lock = some held)
    (call : Call σ α) :
    mu.guard (Blocking.ofCall call) state =
      some ((call (mu.set state held)).1,
        mu.set (call (mu.set state held)).2 (mu.get (call (mu.set state held)).2).unlock) := by
  rw [guard, free]
  rfl

end Lock

end GoBase
