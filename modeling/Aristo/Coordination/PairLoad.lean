import Mathlib.Logic.Function.Basic
import Aristo.Base.Run
import Aristo.Base.Slice

/-!
# The load of TEE pairs

`selectTEEPair` and `handleRegionalTask` of `coordination/coordinator.go`, for one region, with the
`append` of `RegisterTEEPair`.  A call works on the array that the slice of pairs had; an `append`
that finds no room moves the pairs to a new array.  `accounted_along_iff` says in which
interleavings the counts are right.  The times of last use and the workers of the task are left out:
no step reads them.
-/

namespace Aristo

open GoBase List

namespace Coordination

namespace PairLoad

/-- A slice: the array that it points to, its length and its capacity. -/
structure Slice where
  array : ℕ
  len : ℕ
  cap : ℕ
deriving DecidableEq

/-- Where a call of `handleRegionalTask` is. -/
inductive Phase where
  /-- In the loop of `selectTEEPair`, with its copy of the slice. -/
  | scanning (pairs : Slice) (next : ℕ) (minTasks : Int32) (selectedPair : Option ℕ)
  /-- Behind the loop, with a pointer to a pair. -/
  | selected (array index : ℕ)
  /-- In `handleTask`. -/
  | executing (array index : ℕ)
  /-- Behind `handleTask`. -/
  | executed (array index : ℕ)
  | returned
  | failed (error : GoError)
deriving DecidableEq

/-- The arrays of pairs, by their `TaskCount`s, the slice of the region, the number of arrays, and
the calls. -/
structure Load where
  counts : ℕ × ℕ → Int32
  pairs : Slice
  allocated : ℕ
  calls : List Phase

def Load.start : Load where
  counts := fun _ => 0
  pairs := ⟨0, 0, 0⟩
  allocated := 1
  calls := []

/-- One step of a call, and the counts after it.  Each load of the loop is a step. -/
def Phase.advance (regionID : Bytes) (counts : ℕ × ℕ → Int32) : Phase → Phase × (ℕ × ℕ → Int32)
  | .scanning pairs next minTasks selectedPair =>
    if pairs.len = 0 then
      (.failed (.plain (ascii "no TEE pairs available for region " ++ regionID)), counts)
    else if next < pairs.len then
      if counts (pairs.array, next) < minTasks then
        (.scanning pairs (next + 1) (counts (pairs.array, next)) (some next), counts)
      else (.scanning pairs (next + 1) minTasks selectedPair, counts)
    else
      match selectedPair with
      | none =>
        (.failed (.plain (ascii "no available TEE pairs in region " ++ regionID)), counts)
      | some index => (.selected pairs.array index, counts)
  | .selected array index =>
    (.executing array index,
      Function.update counts (array, index) (counts (array, index) + 1))
  | .executing array index => (.executed array index, counts)
  | .executed array index =>
    (.returned, Function.update counts (array, index) (counts (array, index) + -1))
  | .returned => (.returned, counts)
  | .failed error => (.failed error, counts)

inductive LoadStep where
  | read
  | advance (call : ℕ)
  /-- A pair is appended; a new array has room for `growth` more. -/
  | append (growth : ℕ)

/-- `append`, of a pair without tasks. -/
def Load.append (growth : ℕ) (s : Load) : Load :=
  if s.pairs.len < s.pairs.cap then
    { s with
      counts := Function.update s.counts (s.pairs.array, s.pairs.len) 0
      pairs := { s.pairs with len := s.pairs.len + 1 } }
  else
    { s with
      counts := fun cell =>
        if cell.1 = s.allocated then
          if cell.2 < s.pairs.len then s.counts (s.pairs.array, cell.2) else 0
        else s.counts cell
      pairs := ⟨s.allocated, s.pairs.len + 1, s.pairs.len + 1 + growth⟩
      allocated := s.allocated + 1 }

def Load.advance (regionID : Bytes) (call : ℕ) (s : Load) : Load :=
  match s.calls[call]? with
  | none => s
  | some phase =>
    { s with
      calls := s.calls.set call (phase.advance regionID s.counts).1
      counts := (phase.advance regionID s.counts).2 }

def Load.step (regionID : Bytes) (s : Load) : LoadStep → Load
  | .read => { s with calls := s.calls ++ [.scanning s.pairs 0 Int32.maxValue none] }
  | .advance call => s.advance regionID call
  | .append growth => s.append growth

/-! ## What is to be counted -/

/-- The pair that a call has selected and not given back. -/
def Phase.holds : Phase → Option ℕ
  | .executing _ index => some index
  | .executed _ index => some index
  | _ => none

/-- The number of calls that have selected a pair and not given it back. -/
def Load.inFlight (s : Load) (index : ℕ) : ℕ :=
  s.calls.countP fun phase => phase.holds = some index

/-- `TaskCount` of a pair of the region. -/
def Load.taskCount (s : Load) (index : ℕ) : Int32 :=
  s.counts (s.pairs.array, index)

/-- Every pair of the region has the count of its calls, which is not negative. -/
def Load.Accounted (s : Load) : Prop :=
  ∀ index < s.pairs.len,
    (s.taskCount index).toInt = s.inFlight index ∧ 0 ≤ (s.taskCount index).toInt

/-- The step changes no count, or it changes one of the array that the region has, without
overflow. -/
def Load.Careful (s : Load) : LoadStep → Prop
  | .read => True
  | .append _ => True
  | .advance call =>
    match s.calls[call]? with
    | some (.selected array index) =>
      array = s.pairs.array ∧ (s.taskCount index).toInt < 2147483647
    | some (.executed array _) => array = s.pairs.array
    | _ => True

/-! ## Indices stay in range -/

/-- What a call points to is among the first `len` pairs. -/
def Phase.Within (len : ℕ) : Phase → Prop
  | .scanning pairs _ _ selectedPair => pairs.len ≤ len ∧ ∀ index ∈ selectedPair, index < pairs.len
  | .selected _ index => index < len
  | .executing _ index => index < len
  | .executed _ index => index < len
  | .returned => True
  | .failed _ => True

variable {phase : Phase}

/-- An append keeps what a call points to in range. -/
theorem Phase.Within.mono {len len' : ℕ} (le : len ≤ len') (within : phase.Within len) :
    phase.Within len' := by
  cases phase with
  | scanning => exact ⟨within.1.trans le, within.2⟩
  | returned | failed => trivial
  | _ => exact lt_of_lt_of_le within le

/-- What a step of the loop can do: end without a pair, take the pair that it looks at, pass it, or
end with a pair.  It changes no count. -/
theorem Phase.advance_scanning (regionID : Bytes) (counts : ℕ × ℕ → Int32) (pairs : Slice)
    (next : ℕ) (minTasks : Int32) (selectedPair : Option ℕ) :
    let after := Phase.advance regionID counts (.scanning pairs next minTasks selectedPair)
    (∃ error, after = (.failed error, counts)) ∨
      (next < pairs.len ∧ after =
        (.scanning pairs (next + 1) (counts (pairs.array, next)) (some next), counts)) ∨
      after = (.scanning pairs (next + 1) minTasks selectedPair, counts) ∨
      ∃ index ∈ selectedPair, after = (.selected pairs.array index, counts) := by
  dsimp only
  by_cases empty : pairs.len = 0
  · exact Or.inl ⟨_, by simp only [Phase.advance, if_pos empty]; rfl⟩
  by_cases before : next < pairs.len
  · by_cases less : counts (pairs.array, next) < minTasks
    · exact Or.inr (Or.inl ⟨before, by simp only [Phase.advance, empty, before, less, if_true,
        if_false]⟩)
    · exact Or.inr (Or.inr (Or.inl (by simp only [Phase.advance, empty, before, less, if_true,
        if_false])))
  · cases selectedPair with
    | none => exact Or.inl ⟨_, by simp only [Phase.advance, empty, before, if_false]; rfl⟩
    | some index =>
      exact Or.inr (Or.inr (Or.inr ⟨index, rfl, by simp only [Phase.advance, empty, before,
        if_false]⟩))

/-- A step of the call keeps it in range. -/
theorem Phase.Within.advance {len : ℕ} (regionID : Bytes) (counts : ℕ × ℕ → Int32)
    (within : phase.Within len) : (phase.advance regionID counts).1.Within len := by
  cases phase with
  | scanning pairs next minTasks selectedPair =>
    obtain ⟨short, inside⟩ := within
    rcases Phase.advance_scanning regionID counts pairs next minTasks selectedPair with
      ⟨error, moved⟩ | ⟨before, moved⟩ | moved | ⟨index, mem, moved⟩ <;> rw [moved]
    · trivial
    · refine ⟨short, fun index mem => ?_⟩
      cases mem
      exact before
    · exact ⟨short, inside⟩
    · exact lt_of_lt_of_le (inside index mem) short
  | selected | executing => exact within
  | _ => trivial

/-- All calls point to pairs of the region. -/
def Load.InRange (s : Load) : Prop :=
  ∀ phase ∈ s.calls, phase.Within s.pairs.len

variable {regionID : Bytes} {call : ℕ} {s : Load}

theorem advance_of_none (absent : s.calls[call]? = none) : s.advance regionID call = s := by
  simp only [Load.advance, absent]

theorem advance_of_some (here : s.calls[call]? = some phase) :
    s.advance regionID call =
      { s with
        calls := s.calls.set call (phase.advance regionID s.counts).1
        counts := (phase.advance regionID s.counts).2 } := by
  simp only [Load.advance, here]

@[simp] theorem pairs_advance (regionID : Bytes) (call : ℕ) (s : Load) :
    (s.advance regionID call).pairs = s.pairs := by
  unfold Load.advance
  split <;> rfl

/-- An append adds a pair and moves no call. -/
theorem append_frame (growth : ℕ) (s : Load) :
    (s.append growth).pairs.len = s.pairs.len + 1 ∧ (s.append growth).calls = s.calls := by
  unfold Load.append
  split <;> exact ⟨rfl, rfl⟩

variable {index : ℕ}

/-- The counts go to the new array; the new pair has none. -/
theorem taskCount_append (growth : ℕ) (s : Load) (bounded : index ≤ s.pairs.len) :
    (s.append growth).taskCount index =
      if index < s.pairs.len then s.taskCount index else 0 := by
  unfold Load.append Load.taskCount
  by_cases room : s.pairs.len < s.pairs.cap
  · simp only [if_pos room, Function.update_apply, Prod.mk.injEq, true_and]
    by_cases last : index = s.pairs.len
    · simp [last]
    · rw [if_neg last, if_pos (lt_of_le_of_ne bounded last)]
  · simp only [if_neg room, if_true]

/-- Every step keeps the calls in range. -/
theorem inRange_step (inRange : s.InRange) (regionID : Bytes) (input : LoadStep) :
    (s.step regionID input).InRange := by
  cases input with
  | read =>
    intro phase mem
    rcases mem_append.mp mem with old | new
    · exact inRange phase old
    · obtain rfl := mem_singleton.mp new
      exact ⟨le_rfl, fun _ none => by cases none⟩
  | advance call =>
    cases here : s.calls[call]? with
    | none => rwa [Load.step, advance_of_none here]
    | some phase =>
      intro moved mem
      rw [Load.step, advance_of_some here] at mem ⊢
      rcases mem_or_eq_of_mem_set mem with old | rfl
      · exact inRange moved old
      · exact (inRange phase (mem_of_getElem? here)).advance regionID s.counts
  | append growth =>
    obtain ⟨longer, calls⟩ := append_frame growth s
    intro phase mem
    rw [Load.step, calls] at mem
    rw [Load.step, longer]
    exact (inRange phase mem).mono (Nat.le_succ _)

/-! ## One step -/

/-- What a step of a call gives to the number of calls on a pair. -/
theorem inFlight_advance (regionID : Bytes) (here : s.calls[call]? = some phase) (index : ℕ) :
    (s.advance regionID call).inFlight index + (if phase.holds = some index then 1 else 0) =
      s.inFlight index +
        if (phase.advance regionID s.counts).1.holds = some index then 1 else 0 := by
  obtain ⟨front, back, split, set⟩ := exists_place here
  rw [advance_of_some here, Load.inFlight, Load.inFlight, set, split]
  simp only [countP_append, countP_cons, decide_eq_true_eq]
  omega

/-- No call is on a pair that is not there. -/
theorem inFlight_of_len_le (inRange : s.InRange) (beyond : s.pairs.len ≤ index) :
    s.inFlight index = 0 := by
  rw [Load.inFlight, countP_eq_zero]
  intro phase mem holds
  have within := inRange phase mem
  cases phase <;> simp_all [Phase.holds, Phase.Within] <;> omega

/-- Appending keeps the account, -/
theorem accounted_append (accounted : s.Accounted) (inRange : s.InRange) (growth : ℕ) :
    (s.append growth).Accounted := by
  obtain ⟨longer, calls⟩ := append_frame growth s
  intro index bounded
  rw [longer] at bounded
  have same : (s.append growth).inFlight index = s.inFlight index := by
    rw [Load.inFlight, calls, Load.inFlight]
  rw [taskCount_append growth s (Nat.le_of_lt_succ bounded), same]
  split
  · rename_i old
    exact accounted index old
  · rename_i new
    rw [inFlight_of_len_le inRange (not_lt.mp new)]
    exact ⟨rfl, Int.le_refl 0⟩

/-- as does a step that changes no count. -/
theorem accounted_of_quiet (accounted : s.Accounted) (here : s.calls[call]? = some phase)
    (counts : (phase.advance regionID s.counts).2 = s.counts)
    (holds : (phase.advance regionID s.counts).1.holds = phase.holds) :
    (s.advance regionID call).Accounted := by
  intro index bounded
  rw [pairs_advance] at bounded
  have moved := inFlight_advance regionID here index
  rw [holds] at moved
  have same : (s.advance regionID call).inFlight index = s.inFlight index :=
    Nat.add_right_cancel moved
  have count : (s.advance regionID call).taskCount index = s.taskCount index := by
    rw [Load.taskCount, pairs_advance, advance_of_some here]
    exact congrFun counts _
  rw [same, count]
  exact accounted index bounded

/-- A change of a count shows if it is made on the array of the region. -/
theorem taskCount_advance_of_update (regionID : Bytes) {array : ℕ} (delta : Int32)
    (here : s.calls[call]? = some phase) (counts : (phase.advance regionID s.counts).2 =
      Function.update s.counts (array, index) (s.counts (array, index) + delta)) (i : ℕ) :
    (s.advance regionID call).taskCount i =
      if array = s.pairs.array ∧ i = index then s.taskCount index + delta else s.taskCount i := by
  rw [Load.taskCount, pairs_advance, advance_of_some here]
  simp only [counts, Function.update_apply, Prod.mk.injEq, Load.taskCount]
  by_cases same : array = s.pairs.array
  · subst same
    simp
  · simp [same, Ne.symm same]

/-- So must be the increment, which must not overflow, -/
theorem accounted_selected_iff {array : ℕ} (accounted : s.Accounted) (bounded : index < s.pairs.len)
    (here : s.calls[call]? = some (.selected array index)) :
    (s.advance regionID call).Accounted ↔
      array = s.pairs.array ∧ (s.taskCount index).toInt < 2147483647 := by
  have count := taskCount_advance_of_update regionID 1 here rfl
  have flight (i : ℕ) : (s.advance regionID call).inFlight i =
      s.inFlight i + if i = index then 1 else 0 := by
    simpa [Phase.holds, Phase.advance, eq_comm] using inFlight_advance regionID here i
  have one : (1 : Int32).toInt = 1 := rfl
  constructor
  · intro after
    have reads := (after index (by rwa [pairs_advance])).1
    rw [count, flight, if_pos rfl] at reads
    have was := (accounted index bounded).1
    by_cases same : array = s.pairs.array
    · rw [if_pos ⟨same, rfl⟩] at reads
      refine ⟨same, ?_⟩
      have top := (s.taskCount index + 1).toInt_lt
      omega
    · rw [if_neg fun both => same both.1] at reads
      omega
  · rintro ⟨same, room⟩ i inside
    rw [pairs_advance] at inside
    obtain ⟨was, nonneg⟩ := accounted i inside
    rw [count, flight]
    by_cases here : i = index
    · subst here
      have sum : (s.taskCount i + 1).toInt = (s.taskCount i).toInt + 1 := by
        rw [Int32.toInt_add, one, Int.bmod_eq_of_le] <;> omega
      rw [if_pos ⟨same, rfl⟩, if_pos rfl, sum]
      omega
    · rw [if_neg fun both => here both.2, if_neg here]
      exact ⟨was, nonneg⟩

/-- and the decrement. -/
theorem accounted_executed_iff {array : ℕ} (accounted : s.Accounted) (bounded : index < s.pairs.len)
    (here : s.calls[call]? = some (.executed array index)) :
    (s.advance regionID call).Accounted ↔ array = s.pairs.array := by
  have count := taskCount_advance_of_update regionID (-1) here rfl
  have flight (i : ℕ) : (s.advance regionID call).inFlight i + (if i = index then 1 else 0) =
      s.inFlight i := by
    simpa [Phase.holds, Phase.advance, eq_comm] using inFlight_advance regionID here i
  have minusOne : (-1 : Int32).toInt = -1 := rfl
  constructor
  · intro after
    by_contra other
    have reads := (after index (by rwa [pairs_advance])).1
    rw [count, if_neg fun both => other both.1] at reads
    have was := (accounted index bounded).1
    have given := flight index
    rw [if_pos rfl] at given
    omega
  · intro same i inside
    rw [pairs_advance] at inside
    obtain ⟨was, nonneg⟩ := accounted i inside
    have given := flight i
    rw [count]
    by_cases here : i = index
    · subst here
      rw [if_pos rfl] at given
      have top := (s.taskCount i).toInt_lt
      have sum : (s.taskCount i + -1).toInt = (s.taskCount i).toInt - 1 := by
        rw [Int32.toInt_add, minusOne, Int.bmod_eq_of_le] <;> omega
      rw [if_pos ⟨same, rfl⟩, sum]
      omega
    · rw [if_neg here] at given
      rw [if_neg fun both => here both.2]
      omega

/-- **One step.**  Where the counts are right, they are right after the step exactly when it is
careful. -/
theorem accounted_step_iff (accounted : s.Accounted) (inRange : s.InRange) (regionID : Bytes)
    (input : LoadStep) :
    (s.step regionID input).Accounted ↔ s.Careful input := by
  cases input with
  | read =>
    refine iff_of_true (fun index bounded => ?_) trivial
    have same : (s.step regionID .read).inFlight index = s.inFlight index := by
      simp [Load.inFlight, Load.step, Phase.holds]
    rw [same]
    exact accounted index bounded
  | append growth => exact iff_of_true (accounted_append accounted inRange growth) trivial
  | advance call =>
    cases here : s.calls[call]? with
    | none =>
      rw [Load.step, advance_of_none here]
      exact iff_of_true accounted (by simp only [Load.Careful, here])
    | some phase =>
      have within := inRange phase (mem_of_getElem? here)
      cases phase with
      | scanning pairs next minTasks selectedPair =>
        refine iff_of_true ?_ (by simp only [Load.Careful, here])
        rcases Phase.advance_scanning regionID s.counts pairs next minTasks selectedPair with
          ⟨error, moved⟩ | ⟨before, moved⟩ | moved | ⟨index, mem, moved⟩ <;>
        exact accounted_of_quiet accounted here (by rw [moved]) (by rw [moved]; rfl)
      | selected =>
        rw [Load.step, accounted_selected_iff accounted within here]
        simp only [Load.Careful, here]
      | executed =>
        rw [Load.step, accounted_executed_iff accounted within here]
        simp only [Load.Careful, here]
      | _ =>
        refine iff_of_true ?_ (by simp only [Load.Careful, here])
        exact accounted_of_quiet accounted here rfl rfl

/-! ## Interleavings -/

/-- **In which interleavings the counts are right**: exactly in those in which every increment and
every decrement is made on the array that the region has at that time, and no increment
overflows. -/
theorem accounted_along_iff (regionID : Bytes) (steps : List LoadStep) :
    Along (Load.step regionID) (fun s input => (s.step regionID input).Accounted) Load.start steps ↔
      Along (Load.step regionID) Load.Careful Load.start steps := by
  have agree : ∀ (s : Load) (input : LoadStep), s.Accounted ∧ s.InRange →
      ((s.step regionID input).Accounted ↔ s.Careful input) :=
    fun s input inv => accounted_step_iff inv.1 inv.2 regionID input
  have keep : ∀ (s : Load) (input : LoadStep), s.Accounted ∧ s.InRange →
      (s.step regionID input).Accounted →
        (s.step regionID input).Accounted ∧ (s.step regionID input).InRange :=
    fun s input inv after => ⟨after, inRange_step inv.2 regionID input⟩
  have start : Load.start.Accounted ∧ Load.start.InRange :=
    ⟨fun _ bounded => absurd bounded (Nat.not_lt_zero _),
      fun _ mem => absurd mem (by simp [Load.start])⟩
  exact along_iff_of_invariant agree keep start steps

/-- One call executes on the only pair while a second pair is appended.  The array has room for one
pair, so the pairs move, and the decrement is made where nobody looks: the pair counts a task that
is done. -/
theorem not_accounted_moved :
    ¬ (run (Load.step []) Load.start
        [.append 0, .read, .advance 0, .advance 0, .advance 0, .append 0, .advance 0,
          .advance 0]).Accounted := by
  intro accounted
  have reads := (accounted 0 (by decide)).1
  revert reads
  decide

end PairLoad

end Coordination

end Aristo
