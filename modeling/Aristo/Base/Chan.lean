import Aristo.Base.Call

/-!
# Channels and locks

A Go channel is nil, or it has a capacity and a buffer and is open or closed.  A nil channel blocks
for ever; closing a channel that is nil or closed panics, and so does a send on a closed channel:
these operations have no result then.

A `sync.RWMutex` is held by readers or by a writer; a goroutine that holds it and takes it for
writing waits for itself (`lock_of_rLock`, `lock_of_lock`).
-/

namespace GoBase

/-- A `chan T`. -/
inductive Chan (α : Type) where
  | nil
  | made (capacity : ℕ) (buffer : List α) (closed : Bool)
deriving DecidableEq

namespace Chan

variable {α : Type}

/-- `make(chan T, capacity)`. -/
def make (capacity : ℕ) : Chan α := made capacity [] false

/-- The values that were sent and not received. -/
def buffer : Chan α → List α
  | nil => []
  | made _ buffer _ => buffer

def CanSend : Chan α → Prop
  | nil => False
  | made capacity buffer closed => closed = true ∨ buffer.length < capacity

def CanReceive : Chan α → Prop
  | nil => False
  | made _ buffer closed => closed = true ∨ buffer ≠ []

instance decidableCanSend : (ch : Chan α) → Decidable ch.CanSend
  | nil => inferInstanceAs (Decidable False)
  | made _ _ _ => inferInstanceAs (Decidable (_ ∨ _))

instance decidableCanReceive : (ch : Chan α) → Decidable ch.CanReceive
  | nil => inferInstanceAs (Decidable False)
  | made _ [] closed => decidable_of_iff (closed = true) (by simp [CanReceive])
  | made _ (_ :: _) _ => isTrue (Or.inr (List.cons_ne_nil _ _))

/-- `ch <- value`, when it does not block. -/
def send (value : α) : Chan α → Option (Chan α)
  | made capacity buffer false => some (made capacity (buffer ++ [value]) false)
  | _ => none

/-- `<-ch`, when it does not block; a closed channel that is empty has no value. -/
def receive : Chan α → Option α × Chan α
  | made capacity (value :: buffer) closed => (some value, made capacity buffer closed)
  | ch => (none, ch)

def close : Chan α → Option (Chan α)
  | made capacity buffer false => some (made capacity buffer true)
  | _ => none

@[simp] theorem not_canSend_nil : ¬ (nil : Chan α).CanSend := id

@[simp] theorem not_canReceive_nil : ¬ (nil : Chan α).CanReceive := id

@[simp] theorem buffer_nil : (nil : Chan α).buffer = [] := rfl

@[simp] theorem close_nil : (nil : Chan α).close = none := rfl

end Chan

structure RWMutex where
  readers : ℕ
  writing : Bool

namespace RWMutex

def free : RWMutex := ⟨0, false⟩

/-- `RLock`, when it does not have to wait. -/
def rLock (mu : RWMutex) : Option RWMutex :=
  if mu.writing then none else some { mu with readers := mu.readers + 1 }

/-- `Lock`, when it does not have to wait. -/
def lock (mu : RWMutex) : Option RWMutex :=
  if mu.writing ∨ 0 < mu.readers then none else some { mu with writing := true }

def unlock (mu : RWMutex) : RWMutex := { mu with writing := false }

theorem lock_of_lock {mu held : RWMutex} (writes : mu.lock = some held) : held.lock = none := by
  unfold lock at writes
  split at writes
  · cases writes
  · obtain rfl := Option.some.inj writes
    exact if_pos (Or.inl rfl)

theorem lock_of_rLock {mu held : RWMutex} (reads : mu.rLock = some held) : held.lock = none := by
  unfold rLock at reads
  split at reads
  · cases reads
  · obtain rfl := Option.some.inj reads
    exact if_pos (Or.inr (Nat.succ_pos _))

end RWMutex

end GoBase
