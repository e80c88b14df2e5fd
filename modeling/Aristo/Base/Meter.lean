import Aristo.Base.Packer
import Mathlib.Algebra.Group.Pi.Lemmas

/-!
# Metered readers

A reading computation that keeps counters next to the packer: the iterations of its loops, the
slots it allocates.  A metered decoder is the decoder with `spend` at the places that are counted,
and `Follows m u cost` is what makes it one: `m` reads what `u` reads, and adds `cost r` to the
counters when it starts from the reader `r`.  There is one rule for each statement of a decoder.
-/

namespace GoBase

variable {ι σ α β : Type}

/-! ## Totals along the input -/

section Total

variable {M : Type} [AddCommMonoid M]

/-- The sum over `count` rounds, each at the reader that the rounds before it leave. -/
def total (next : Reader → Reader) (amount : Reader → M) : ℕ → Reader → M
  | 0, _ => 0
  | count + 1, r => amount r + total next amount count (next r)

variable (next : Reader → Reader)

theorem total_succ (amount : Reader → M) (count : ℕ) (r : Reader) :
    total next amount (count + 1) r = amount r + total next amount count (next r) := rfl

theorem total_add (amount amount' : Reader → M) (count : ℕ)
    (r : Reader) :
    total next (fun r => amount r + amount' r) count r =
      total next amount count r + total next amount' count r := by
  induction count generalizing r with
  | zero => exact (add_zero 0).symm
  | succ count ih => rw [total_succ, total_succ, total_succ, ih, add_add_add_comm]

theorem total_zero (count : ℕ) (r : Reader) :
    total next (0 : Reader → M) count r = 0 := by
  induction count generalizing r with
  | zero => rfl
  | succ count ih => rw [total_succ, ih, add_zero]; rfl

theorem total_one (count : ℕ) (r : Reader) :
    total next (fun _ => 1) count r = count := by
  induction count generalizing r with
  | zero => rfl
  | succ count ih => rw [total_succ, ih, Nat.add_comm]

/-- Where nothing is left after one round, the sum is that of the first round. -/
theorem total_first (amount : Reader → M) (spent : ∀ r, amount (next r) = 0) (count : ℕ)
    (r : Reader) : total next amount (count + 1) r = amount r := by
  have later : ∀ count r, total next amount count (next r) = 0 := by
    intro count
    induction count with
    | zero => exact fun _ => rfl
    | succ count ih => exact fun r => by rw [total_succ, spent, ih, add_zero]
  rw [total_succ, later, add_zero]

end Total

/-! ## Counters -/

/-- A reading computation with counters. -/
abbrev Metered (ι α : Type) := StateT (ι → ℕ) (StateM Reader) α

namespace Metered

/-- A statement that is not counted. -/
def read (u : Unpack α) : Metered ι α := fun counters r =>
  (((u r).1, counters), (u r).2)

variable [DecidableEq ι]

def charge (label : ι) (amount : ℕ) : ι → ℕ := fun other =>
  if other = label then amount else 0

@[simp] theorem charge_self (label : ι) (amount : ℕ) : charge label amount label = amount :=
  if_pos rfl

theorem charge_of_ne {label other : ι} (h : other ≠ label) (amount : ℕ) :
    charge label amount other = 0 :=
  if_neg h

theorem charge_zero (label : ι) : charge label 0 = 0 := by
  funext other
  exact ite_self 0

theorem charge_add (label : ι) (amount amount' : ℕ) :
    charge label (amount + amount') = charge label amount + charge label amount' := by
  funext other
  by_cases h : other = label
  · subst h
    simp
  · simp [charge_of_ne h]

def spend (label : ι) (amount : ℕ) : Metered ι Unit :=
  modify fun counters => counters + charge label amount

/-- `for i := 0; i < count; i++`, with its iterations counted. -/
def times (loop : ι) : ℕ → (σ → Metered ι σ) → σ → Metered ι σ
  | 0, _, state => pure state
  | count + 1, body, state => do
    spend loop 1
    let state ← body state
    times loop count body state

theorem total_charge (next : Reader → Reader) (label : ι) (amount : Reader → ℕ) (count : ℕ)
    (r : Reader) :
    total next (fun r => charge label (amount r)) count r =
      charge label (total next amount count r) := by
  induction count generalizing r with
  | zero => exact (charge_zero label).symm
  | succ count ih => rw [total_succ, total_succ, ih, charge_add]

omit [DecidableEq ι] in
/-- `m` reads what `u` reads and adds `cost` to the counters. -/
def Follows (m : Metered ι α) (u : Unpack α) (cost : Reader → ι → ℕ) : Prop :=
  ∀ counters r, m counters r = (((u r).1, counters + cost r), (u r).2)

namespace Follows

omit [DecidableEq ι]

variable {cost : Reader → ι → ℕ}

theorem congr {m : Metered ι α} {u : Unpack α} {cost' : Reader → ι → ℕ} (h : Follows m u cost)
    (same : ∀ r, cost r = cost' r) : Follows m u cost' := by
  intro counters r
  rw [h counters r, same r]

theorem pure (value : α) : Follows (Pure.pure value : Metered ι α) (Pure.pure value) 0 := by
  intro counters r
  show ((value, counters), r) = ((value, counters + 0), r)
  rw [add_zero]

theorem read (u : Unpack α) : Follows (Metered.read u : Metered ι α) u 0 := by
  intro counters r
  show (((u r).1, counters), (u r).2) = (((u r).1, counters + 0), (u r).2)
  rw [add_zero]

theorem bind {m : Metered ι α} {u : Unpack α} {f : α → Metered ι β} {g : α → Unpack β}
    {costs : α → Reader → ι → ℕ} (first : Follows m u cost)
    (second : ∀ value, Follows (f value) (g value) (costs value)) :
    Follows (m >>= f) (u >>= g) fun r => cost r + costs (u r).1 (u r).2 := by
  intro counters r
  show f (m counters r).1.1 (m counters r).1.2 (m counters r).2 = _
  rw [first counters r]
  show f (u r).1 (counters + cost r) (u r).2 = _
  rw [second (u r).1 (counters + cost r) (u r).2, add_assoc]
  rfl

theorem read_bind {u : Unpack α} {f : α → Metered ι β} {g : α → Unpack β}
    {costs : α → Reader → ι → ℕ} (second : ∀ value, Follows (f value) (g value) (costs value)) :
    Follows (Metered.read u >>= f) (u >>= g) fun r => costs (u r).1 (u r).2 :=
  ((read u).bind second).congr fun _ => zero_add _

theorem spend_bind [DecidableEq ι] {label : ι} {amount : ℕ} {f : Metered ι β} {g : Unpack β}
    (h : Follows f g cost) :
    Follows (do spend label amount; f) g fun r => charge label amount + cost r := by
  intro counters r
  show f (counters + charge label amount) r = _
  rw [h, add_assoc]

/-- **The cost of a loop**: one for each iteration, and what the iterations cost. -/
theorem times [DecidableEq ι] {loop : ι} {body : σ → Metered ι σ} {plain : σ → Unpack σ}
    {next : Reader → Reader} (h : ∀ state, Follows (body state) (plain state) cost)
    (moves : ∀ state r, (plain state r).2 = next r) (count : ℕ) (state : σ) :
    Follows (Metered.times loop count body state) (GoBase.times count plain state)
      fun r => charge loop count + total next cost count r := by
  induction count generalizing state with
  | zero =>
    refine (pure state).congr fun r => ?_
    rw [charge_zero, zero_add]
    rfl
  | succ count ih =>
    refine (spend_bind ((h state).bind fun state => ih state)).congr fun r => ?_
    show charge loop 1 + (cost r + (charge loop count +
      total next cost count (plain state r).2)) = charge loop (count + 1) +
        (cost r + total next cost count (next r))
    rw [moves, Nat.add_comm count 1, charge_add, add_assoc, add_left_comm (cost r)]

theorem items [DecidableEq ι] {loop : ι} {item : Metered ι α} {plain : Unpack α}
    (h : Follows item plain cost) (step : σ → α → σ) (count : ℕ) (state : σ) :
    Follows (Metered.times loop count (fun state => do return step state (← item)) state)
      (GoBase.times count (fun state => do return step state (← plain)) state)
      fun r => charge loop count + total (fun r => (plain r).2) cost count r :=
  times (fun state => (h.bind fun value => pure (step state value)).congr fun _ => add_zero _)
    (fun _ _ => rfl) count state

end Follows

end Metered

end GoBase
