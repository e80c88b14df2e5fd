import Aristo.Base.Run
import Mathlib.Algebra.Order.Ring.Int

/-!
# Calls that run at the same time

Any number of calls of one function run over a shared state, each at a phase of the function and at
its place in a list.  A step takes the shared state and the phase of one call and gives both anew;
an interleaving is any list of places.

A counter in the shared state *accounts* for some phases when every step changes it by what the
phase changes.  Then it is the number of calls in these phases (`Accounts.go`).
-/

namespace GoBase

variable {σ π : Type}

/-- A shared state, and the calls over it. -/
structure Pool (σ π : Type) where
  shared : σ
  calls : List π

namespace Pool

def enter (pool : Pool σ π) (phase : π) : Pool σ π :=
  { pool with calls := pool.calls ++ [phase] }

def go (advance : σ → π → π × σ) (place : ℕ) (pool : Pool σ π) : Pool σ π :=
  match pool.calls[place]? with
  | none => pool
  | some phase =>
    { shared := (advance pool.shared phase).2
      calls := pool.calls.set place (advance pool.shared phase).1 }

variable {advance : σ → π → π × σ} {pool : Pool σ π} {place : ℕ}

theorem go_of_none (absent : pool.calls[place]? = none) : pool.go advance place = pool := by
  rw [go, absent]

variable {phase : π}

theorem go_of_some (present : pool.calls[place]? = some phase) :
    pool.go advance place =
      { shared := (advance pool.shared phase).2
        calls := pool.calls.set place (advance pool.shared phase).1 } := by
  rw [go, present]

theorem getElem?_go_self (present : pool.calls[place]? = some phase) :
    (pool.go advance place).calls[place]? = some (advance pool.shared phase).1 := by
  obtain ⟨inRange, -⟩ := List.getElem?_eq_some_iff.mp present
  rw [go_of_some present]
  exact List.getElem?_set_self inRange

/-- **Invariant rule** of a step of one call, for a property of the shared state and of a phase. -/
theorem go_induction {Q : Pool σ π → Prop} (place : ℕ) (stay : Q pool)
    (moves : ∀ phase, pool.calls[place]? = some phase →
      Q { shared := (advance pool.shared phase).2
          calls := pool.calls.set place (advance pool.shared phase).1 }) :
    Q (pool.go advance place) := by
  cases present : pool.calls[place]? with
  | none => rwa [go_of_none present]
  | some phase =>
    rw [go_of_some present]
    exact moves phase present

/-- What holds of every call, and of the one that goes on when it has, holds of every call then. -/
theorem forall_calls_go {P : π → Prop} (all : ∀ phase ∈ pool.calls, P phase)
    (moves : ∀ phase, pool.calls[place]? = some phase → P (advance pool.shared phase).1) :
    ∀ phase ∈ (pool.go advance place).calls, P phase := by
  refine go_induction (Q := fun pool => ∀ phase ∈ pool.calls, P phase) place all ?_
  intro earlier present phase mem
  rcases List.mem_or_eq_of_mem_set mem with old | rfl
  · exact all phase old
  · exact moves earlier present

theorem map_calls_go {γ : Type} {part : π → γ} (place : ℕ)
    (keeps : ∀ phase ∈ pool.calls, part (advance pool.shared phase).1 = part phase) :
    (pool.go advance place).calls.map part = pool.calls.map part := by
  refine go_induction (Q := fun next => next.calls.map part = _) place rfl fun phase present => ?_
  have same : (pool.calls.map part)[place]? = some (part phase) := by
    rw [List.getElem?_map, present]
    rfl
  obtain ⟨inRange, equal⟩ := List.getElem?_eq_some_iff.mp same
  rw [List.map_set, keeps phase (List.mem_of_getElem? present), ← equal, List.set_getElem_self]

/-! ### Counting -/

def weight (counted : π → Bool) (phase : π) : ℤ :=
  if counted phase then 1 else 0

theorem countP_set_add_weight (counted : π → Bool) {calls : List π}
    (present : calls[place]? = some phase) (next : π) :
    ((calls.set place next).countP counted : ℤ) + weight counted phase =
      calls.countP counted + weight counted next := by
  obtain ⟨inRange, rfl⟩ := List.getElem?_eq_some_iff.mp present
  rw [List.countP_set inRange]
  unfold weight
  by_cases holds : counted calls[place] = true
  · have positive : 0 < calls.countP counted :=
      List.countP_pos_iff.mpr ⟨_, List.getElem_mem inRange, holds⟩
    rw [if_pos holds, if_pos holds]
    split <;> omega
  · rw [if_neg holds, if_neg holds]
    split <;> omega

/-- The counter is the number of calls that are counted. -/
def Counts (counted : π → Bool) (counter : σ → ℤ) (pool : Pool σ π) : Prop :=
  counter pool.shared = pool.calls.countP counted

/-- The counter moves with the phase, where it counts at least the call that goes on. -/
def Accounts (counted : π → Bool) (counter : σ → ℤ) (advance : σ → π → π × σ) : Prop :=
  ∀ shared phase, weight counted phase ≤ counter shared →
    counter (advance shared phase).2 + weight counted phase =
      counter shared + weight counted (advance shared phase).1

theorem weight_le_countP (counted : π → Bool) {calls : List π} (mem : phase ∈ calls) :
    weight counted phase ≤ calls.countP counted := by
  unfold weight
  split
  · rename_i holds
    have positive := List.countP_pos_iff.mpr ⟨phase, mem, holds⟩
    omega
  · exact Int.natCast_nonneg _

theorem Counts.enter {counted : π → Bool} {counter : σ → ℤ} (counts : Counts counted counter pool)
    (uncounted : counted phase = false) :
    Counts counted counter (pool.enter phase) := by
  unfold Counts Pool.enter at *
  rw [counts, List.countP_append, List.countP_singleton, uncounted]
  rfl

theorem Accounts.go {counted : π → Bool} {counter : σ → ℤ}
    (accounts : Accounts counted counter advance) (counts : Counts counted counter pool)
    (place : ℕ) :
    Counts counted counter (pool.go advance place) := by
  refine go_induction place counts fun phase present => ?_
  have moved := accounts pool.shared phase
    ((weight_le_countP counted (List.mem_of_getElem? present)).trans_eq counts.symm)
  have set := countP_set_add_weight counted present (advance pool.shared phase).1
  unfold Counts at *
  dsimp only
  omega

end Pool

end GoBase
