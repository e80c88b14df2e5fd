import Aristo.Base.Pool
import Aristo.XRegion.Coordinator

/-!
# The goroutines of `ProcessRegions`

`ProcessRegions` starts one function a region.  A weighted semaphore holds the loop back, an error
group collects the results, and one context is done when the caller's is or when a function has
failed.  The loop, the functions and the caller's cancellation go on in any order, and what
`ConfirmIntent` returns comes with the step.

A function has a permit exactly as long as it runs (`Tracks`).  When `Acquire` fails, the call
returns at once, and functions may still be running.
-/

namespace Aristo

open GoBase List

namespace XRegion

/-! ## The call, step by step -/

def errCanceled : GoError :=
  .plain (ascii "context canceled")

/-- What the goroutines share: the permits taken, `ctx.Err()` of the group's context, and its error.
-/
structure Shared where
  cur : ℤ
  ctxErr : Option GoError
  err : Option GoError

namespace Shared

/-- The context is done; the first reason stays. -/
def cancel (shared : Shared) (error : GoError) : Shared :=
  { shared with ctxErr := shared.ctxErr.or (some error) }

/-- What the group does with the result of a function: the first error stays and cancels the
context. -/
def record (shared : Shared) (result : Except GoError Unit) : Shared :=
  match result, shared.err with
  | .error error, none => { shared with err := some error }.cancel errCanceled
  | _, _ => shared

def result (shared : Shared) : Except GoError Unit :=
  match shared.err with
  | some error => .error error
  | none => .ok ()

end Shared

/-- Where the function of a region is. -/
inductive Phase
  /-- Started with a permit, and not yet at its `select`. -/
  | started
  /-- The context was not done at the `select`. -/
  | cleared
  /-- `ConfirmIntent` has been called. -/
  | confirming
  /-- The result is known, and the deferred `Release` has not run. -/
  | leaving (result : Except GoError Unit)
  /-- The function has returned. -/
  | returned (result : Except GoError Unit)
  /-- The group has the result. -/
  | ended (result : Except GoError Unit)

/-- The function of one entry of the list.  `confirms` has its calls of `ConfirmIntent`, each with
what it returned if it has. -/
structure RegionFunction where
  region : Bytes
  phase : Phase
  confirms : List (Option (Except GoError Unit))

namespace RegionFunction

def isRunning (f : RegionFunction) : Bool :=
  match f.phase with
  | .returned _ | .ended _ => false
  | _ => true

/-- The group has the function's result. -/
def isEnded (f : RegionFunction) : Bool :=
  match f.phase with
  | .ended _ => true
  | _ => false

/-- The function goes on; `answer` is what `ConfirmIntent` returns if it is called. -/
def advance (answer : Except GoError Unit) (shared : Shared) (f : RegionFunction) :
    RegionFunction × Shared :=
  match f.phase with
  | .started =>
    match shared.ctxErr with
    | some error => ({ f with phase := .leaving (.error error) }, shared)
    | none => ({ f with phase := .cleared }, shared)
  | .cleared => ({ f with phase := .confirming, confirms := f.confirms ++ [none] }, shared)
  | .confirming =>
    let failed := GoError.wrap (ascii "region " ++ f.region ++ ascii " failed")
    ({ f with
        phase := .leaving (answer.mapError failed)
        confirms := f.confirms.dropLast ++ [some answer] }, shared)
  | .leaving result =>
    ({ f with phase := .returned result }, { shared with cur := shared.cur - 1 })
  | .returned result => ({ f with phase := .ended result }, shared.record result)
  | .ended _ => (f, shared)

end RegionFunction

open RegionFunction

/-- A call of `ProcessRegions`: its functions, the regions left to its loop, and its result. -/
structure Processing where
  pool : Pool Shared RegionFunction
  remaining : List Bytes
  returned : Option (Except GoError Unit)

/-- The context that the caller passes, by its `Err()` at that time. -/
structure CallerContext where
  err : Option GoError

/-- What happens next. -/
inductive Step
  /-- The caller's context is done. -/
  | cancel (error : GoError)
  /-- `Acquire` succeeds, and the next function is started. -/
  | acquire
  /-- `Acquire` fails. -/
  | acquireFails
  /-- A function goes on. -/
  | go (place : ℕ) (answer : Except GoError Unit)
  /-- `Wait` returns. -/
  | wait

namespace Processing

/-- The call as far as its loop; a nil context is `none`. -/
def start (ctx : Option CallerContext) (regions : List Bytes) : Processing :=
  match ctx with
  | none =>
    { pool := ⟨⟨0, none, none⟩, []⟩
      remaining := []
      returned := some (.error (.plain (ascii "context cannot be nil"))) }
  | some ctx =>
    { pool := ⟨⟨0, ctx.err, none⟩, []⟩
      remaining := regions
      returned := if regions = [] then some (.ok ()) else none }

/-- The function of the next region is started with a permit. -/
def launch (call : Processing) (region : Bytes) (rest : List Bytes) : Processing :=
  { call with
    pool :=
      { shared := { call.pool.shared with cur := call.pool.shared.cur + 1 }
        calls := call.pool.calls ++ [{ region, phase := .started, confirms := [] }] }
    remaining := rest }

/-- `Acquire` succeeds only while the semaphore has a permit left. -/
def acquire (processor : RegionProcessor) (call : Processing) : Processing :=
  match call.returned, call.remaining with
  | none, region :: rest =>
    if processor.maxConcurrent.toInt - call.pool.shared.cur ≥ 1 then
      call.launch region rest
    else
      call
  | _, _ => call

/-- `Acquire` fails only when the context is done. -/
def acquireFails (call : Processing) : Processing :=
  match call.returned, call.remaining, call.pool.shared.ctxErr with
  | none, _ :: _, some error =>
    { call with returned := some (.error (error.wrap (ascii "failed to acquire semaphore"))) }
  | _, _, _ => call

/-- The caller's context is done, and with it that of the group. -/
def cancel (call : Processing) (error : GoError) : Processing :=
  { call with pool := { call.pool with shared := call.pool.shared.cancel error } }

def go (call : Processing) (place : ℕ) (answer : Except GoError Unit) : Processing :=
  { call with pool := call.pool.go (advance answer) place }

/-- `Wait` cancels the context and returns. -/
def finish (call : Processing) : Processing :=
  { call.cancel errCanceled with returned := some call.pool.shared.result }

/-- `Wait` returns only when every function has ended. -/
def wait (call : Processing) : Processing :=
  if call.returned.isNone ∧ call.remaining = [] ∧ call.pool.calls.all isEnded then
    call.finish
  else
    call

def apply (processor : RegionProcessor) (call : Processing) : Step → Processing
  | .cancel error => call.cancel error
  | .acquire => call.acquire processor
  | .acquireFails => call.acquireFails
  | .go place answer => call.go place answer
  | .wait => call.wait

def confirms (call : Processing) : List (Option (Except GoError Unit)) :=
  call.pool.calls.flatMap RegionFunction.confirms

/-- How many calls of `ConfirmIntent` have not returned. -/
def inProgress (call : Processing) : ℕ :=
  call.confirms.count none

/-! ## What a step does -/

/-- `Acquire` can fail: there is a next region, and the context is done. -/
def Failing (call : Processing) : Prop :=
  call.returned = none ∧ call.remaining ≠ [] ∧ call.pool.shared.ctxErr ≠ none

/-- What a step can do to a call.  A step that is not possible does nothing. -/
inductive Takes (processor : RegionProcessor) (call : Processing) : Step → Processing → Prop
  | blocked {step : Step} (unfailing : step = .acquireFails → ¬ call.Failing) :
      Takes processor call step call
  | cancel (error : GoError) : Takes processor call (.cancel error) (call.cancel error)
  | acquire {region : Bytes} {rest : List Bytes} (pending : call.returned = none)
      (left : call.remaining = region :: rest)
      (room : call.pool.shared.cur + 1 ≤ processor.maxConcurrent.toInt) :
      Takes processor call .acquire (call.launch region rest)
  | acquireFails (failing : call.Failing) (error : GoError) :
      Takes processor call .acquireFails { call with returned := some (.error error) }
  | go (place : ℕ) (answer : Except GoError Unit) :
      Takes processor call (.go place answer) (call.go place answer)
  | wait (pending : call.returned = none) (finished : call.remaining = [])
      (ended : ∀ f ∈ call.pool.calls, f.isEnded = true) :
      Takes processor call .wait call.finish

/-- **What a step does**, case by case. -/
theorem takes_apply (processor : RegionProcessor) (call : Processing) (step : Step) :
    Takes processor call step (call.apply processor step) := by
  cases step with
  | cancel error => exact .cancel error
  | acquire =>
    change Takes processor call .acquire (call.acquire processor)
    unfold acquire
    split
    · next region rest pending left =>
        split
        · next room => exact .acquire pending left (by omega)
        · exact .blocked nofun
    · exact .blocked nofun
  | acquireFails =>
    change Takes processor call .acquireFails call.acquireFails
    unfold acquireFails
    split
    · next head tail error pending left done =>
        exact .acquireFails ⟨pending, by simp [left], by simp [done]⟩ _
    · next possible =>
        refine .blocked fun _ ⟨pending, left, done⟩ => ?_
        obtain ⟨region, rest, left⟩ := exists_cons_of_ne_nil left
        obtain ⟨error, done⟩ := Option.ne_none_iff_exists'.mp done
        exact possible region rest error pending left done
  | go place answer => exact .go place answer
  | wait =>
    change Takes processor call .wait call.wait
    unfold wait
    split
    · next joined =>
        obtain ⟨pending, finished, ended⟩ := joined
        exact .wait (Option.isNone_iff_eq_none.mp pending) finished (all_eq_true.mp ended)
    · exact .blocked nofun

end Processing

open Processing

/-! ## What a function does -/

namespace RegionFunction

/-- The calls that a function has made by its phase.  A function that comes to a nil result has
made one call, which returned nil. -/
def Recorded (f : RegionFunction) : Prop :=
  match f.phase with
  | .started => f.confirms = []
  | .cleared => f.confirms = []
  | .confirming => f.confirms = [none]
  | .leaving result => Settled result
  | .returned result => Settled result
  | .ended result => Settled result
where
  Settled (result : Except GoError Unit) : Prop :=
    f.confirms.length ≤ 1 ∧ none ∉ f.confirms ∧
      (result = .ok () → f.confirms = [some (.ok ())])

variable {f : RegionFunction}

/-- A function calls `ConfirmIntent` at most once. -/
theorem Recorded.length_le (recorded : f.Recorded) : f.confirms.length ≤ 1 := by
  obtain ⟨region, phase, confirms⟩ := f
  cases phase with
  | started | cleared => exact (congrArg List.length recorded).trans_le (Nat.zero_le 1)
  | confirming => exact (congrArg List.length recorded).le
  | leaving | returned | ended => exact recorded.1

/-- Only a function that runs has a call in progress. -/
theorem Recorded.count_le (recorded : f.Recorded) :
    f.confirms.count none ≤ if f.isRunning then 1 else 0 := by
  cases running : f.isRunning with
  | true => exact count_le_length.trans recorded.length_le
  | false =>
    refine (count_eq_zero.mpr ?_).le
    obtain ⟨region, phase, confirms⟩ := f
    cases phase with
    | returned | ended => exact recorded.2.1
    | _ => cases running

/-- A function that returned nil was told nil. -/
theorem Recorded.confirms_of_ended (recorded : f.Recorded) (ended : f.phase = .ended (.ok ())) :
    f.confirms = [some (.ok ())] := by
  obtain ⟨region, phase, confirms⟩ := f
  cases ended
  exact recorded.2.2 rfl

/-- The group keeps the first error. -/
theorem record_spec (shared : Shared) (result : Except GoError Unit) :
    (shared.record result).cur = shared.cur ∧
      (shared.err ≠ none → (shared.record result).err ≠ none) ∧
      ∀ error, result = .error error → (shared.record result).err ≠ none := by
  unfold Shared.record
  cases result with
  | ok => exact ⟨rfl, id, nofun⟩
  | error =>
    cases recorded : shared.err with
    | none => exact ⟨rfl, nofun, fun _ _ => nofun⟩
    | some => simp [recorded]

/-- What a step of a function does to its record, to the semaphore and to the group. -/
structure Moves (answer : Except GoError Unit) (shared : Shared) (f : RegionFunction)
    (after : RegionFunction × Shared) : Prop where
  region : after.1.region = f.region
  permits : after.2.cur + Pool.weight isRunning f = shared.cur + Pool.weight isRunning after.1
  fewer : after.2.cur ≤ shared.cur
  idle : f.isRunning = false → after.1.isRunning = false ∧ after.1.confirms = f.confirms
  recorded : f.Recorded → after.1.Recorded
  answers : ∀ given, some given ∈ after.1.confirms → some given ∈ f.confirms ∨ given = answer
  err : shared.err ≠ none → after.2.err ≠ none
  reported : ∀ error, after.1.phase = .ended (.error error) →
    f.phase = .ended (.error error) ∨ after.2.err ≠ none

/-- **A step of a function**, case by case. -/
theorem moves_advance (answer : Except GoError Unit) (shared : Shared) (f : RegionFunction) :
    Moves answer shared f (f.advance answer shared) := by
  obtain ⟨region, phase, confirms⟩ := f
  cases phase with
  | started =>
    unfold advance
    cases shared.ctxErr with
    | none => exact ⟨rfl, rfl, le_rfl, nofun, id, fun _ => .inl, id, nofun⟩
    | some =>
      refine ⟨rfl, rfl, le_rfl, nofun, fun recorded => ?_, fun _ => .inl, id, nofun⟩
      have empty : confirms = [] := recorded
      subst empty
      exact ⟨Nat.zero_le 1, not_mem_nil, nofun⟩
  | cleared =>
    refine ⟨rfl, rfl, le_rfl, nofun, fun recorded => ?_, fun given mem => ?_, id, nofun⟩
    · have empty : confirms = [] := recorded
      subst empty
      exact rfl
    · exact .inl ((mem_append.mp mem).resolve_right (by simp))
  | confirming =>
    refine ⟨rfl, rfl, le_rfl, nofun, fun recorded => ?_, fun given mem => ?_, id, nofun⟩
    · have one : confirms = [none] := recorded
      subst one
      refine ⟨le_rfl, nofun, fun nil => ?_⟩
      cases answer with
      | error => cases nil
      | ok => rfl
    · exact (mem_append.mp mem).imp mem_of_mem_dropLast fun last =>
        Option.some.inj (mem_singleton.mp last)
  | leaving =>
    refine ⟨rfl, ?_, Int.sub_le_self _ Int.one_nonneg, nofun, id, fun _ => .inl, id, nofun⟩
    change shared.cur - 1 + 1 = shared.cur + 0
    omega
  | returned result =>
    obtain ⟨cur, err, reported⟩ := record_spec shared result
    refine ⟨rfl, congrArg (· + 0) cur, cur.le, fun _ => ⟨rfl, rfl⟩, id, fun _ => .inl, err, ?_⟩
    exact fun error ended => .inr (reported error (Phase.ended.inj ended))
  | ended =>
    exact ⟨rfl, rfl, le_rfl, fun idle => ⟨idle, rfl⟩, id, fun _ => .inl, id, fun _ => .inl⟩

end RegionFunction

/-! ## Invariants of a call -/

/-- A call over `regions`, in every schedule. -/
structure Tracks (processor : RegionProcessor) (regions : List Bytes) (call : Processing) :
    Prop where
  counts : call.pool.Counts isRunning Shared.cur
  bounded : call.pool.shared.cur ≤ processor.maxConcurrent.toInt
  listed : call.pool.calls.map region ++ call.remaining = regions
  recorded : ∀ f ∈ call.pool.calls, f.Recorded
  reported : ∀ f ∈ call.pool.calls, ∀ error, f.phase = .ended (.error error) →
    call.pool.shared.err ≠ none
  joined : call.returned = some (.ok ()) →
    call.remaining = [] ∧ ∀ f ∈ call.pool.calls, f.phase = .ended (.ok ())

variable {processor : RegionProcessor}

/-- Nothing has been started at the beginning. -/
theorem Tracks.start (positive : 0 ≤ processor.maxConcurrent.toInt) (ctx : CallerContext)
    (regions : List Bytes) :
    Tracks processor regions (.start (some ctx) regions) where
  counts := rfl
  bounded := positive
  listed := rfl
  recorded := nofun
  reported := nofun
  joined := by
    intro nil
    by_cases empty : regions = []
    · exact ⟨empty, nofun⟩
    · have pending : (Processing.start (some ctx) regions).returned = none := if_neg empty
      rw [pending] at nil
      cases nil

variable {regions : List Bytes}

section Keeps

variable {call : Processing}

section

variable (tracks : Tracks processor regions call)

include tracks

/-- A permit is taken for the function that is started. -/
theorem Tracks.launch {region : Bytes} {rest : List Bytes} (pending : call.returned = none)
    (left : call.remaining = region :: rest)
    (room : call.pool.shared.cur + 1 ≤ processor.maxConcurrent.toInt) :
    Tracks processor regions (call.launch region rest) where
  counts := by
    have counts : call.pool.shared.cur = call.pool.calls.countP isRunning :=
      tracks.counts
    change call.pool.shared.cur + 1 = ((call.pool.calls ++ [_]).countP _ : ℕ)
    rw [countP_append, counts]
    rfl
  bounded := room
  listed := by
    rw [← tracks.listed, left]
    simp [Processing.launch]
  recorded := forall_mem_append.mpr ⟨tracks.recorded, forall_mem_singleton.mpr rfl⟩
  reported := forall_mem_append.mpr ⟨tracks.reported, forall_mem_singleton.mpr nofun⟩
  joined nil := by cases pending.symm.trans nil

/-- A function gives its permit back when it leaves. -/
theorem Tracks.go (place : ℕ) (answer : Except GoError Unit) :
    Tracks processor regions (call.go place answer) := by
  cases present : call.pool.calls[place]? with
  | none =>
    unfold Processing.go
    rwa [Pool.go_of_none present]
  | some f =>
    have mem : f ∈ call.pool.calls := mem_of_getElem? present
    have moves := moves_advance answer call.pool.shared f
    have shared : (call.go place answer).pool.shared = (f.advance answer call.pool.shared).2 :=
      congrArg Pool.shared (Pool.go_of_some present)
    have same (g : RegionFunction) (here : call.pool.calls[place]? = some g) : g = f :=
      Option.some.inj (here.symm.trans present)
    have accounts : Pool.Accounts isRunning Shared.cur
        (advance answer) :=
      fun shared f _ => (moves_advance answer shared f).permits
    refine ⟨accounts.go tracks.counts place, ?_, ?_, ?_, ?_, ?_⟩
    · rw [shared]
      exact moves.fewer.trans tracks.bounded
    · rw [← tracks.listed]
      exact congrArg (· ++ _) (Pool.map_calls_go place fun g _ =>
        (moves_advance answer _ g).region)
    · refine Pool.forall_calls_go tracks.recorded fun g here => ?_
      rw [same g here]
      exact moves.recorded (tracks.recorded f mem)
    · rw [shared]
      refine Pool.forall_calls_go (fun g old error ended =>
        moves.err (tracks.reported g old error ended)) fun g here error ended => ?_
      rw [same g here] at ended
      exact (moves.reported error ended).elim
        (fun before => moves.err (tracks.reported f mem error before)) id
    · intro nil
      obtain ⟨finished, ended⟩ := tracks.joined nil
      refine ⟨finished, Pool.forall_calls_go ended fun g here => ?_⟩
      rw [same g here, advance, ended f mem]
      exact ended f mem

/-- `Wait` returns nil only if every function has. -/
theorem Tracks.finish (finished : call.remaining = [])
    (ended : ∀ f ∈ call.pool.calls, f.isEnded = true) :
    Tracks processor regions call.finish where
  counts := tracks.counts
  bounded := tracks.bounded
  listed := tracks.listed
  recorded := tracks.recorded
  reported := tracks.reported
  joined := by
    intro nil
    have quiet : call.pool.shared.err = none := by
      have nil : call.pool.shared.result = .ok () := Option.some.inj nil
      unfold Shared.result at nil
      cases recorded : call.pool.shared.err with
      | none => rfl
      | some =>
        rw [recorded] at nil
        cases nil
    refine ⟨finished, fun f mem => ?_⟩
    have isEnded := ended f mem
    unfold RegionFunction.isEnded at isEnded
    cases phase : f.phase with
    | ended result =>
      cases result with
      | ok => rfl
      | error error => exact absurd quiet (tracks.reported f mem error phase)
    | _ =>
      rw [phase] at isEnded
      cases isEnded

/-- Every step keeps the call on track, -/
theorem Tracks.next {step : Step} {next : Processing} (takes : call.Takes processor step next) :
    Tracks processor regions next := by
  cases takes with
  | blocked => exact tracks
  | cancel =>
    exact ⟨tracks.counts, tracks.bounded, tracks.listed, tracks.recorded, tracks.reported,
      tracks.joined⟩
  | acquire pending left room => exact tracks.launch pending left room
  | acquireFails =>
    exact ⟨tracks.counts, tracks.bounded, tracks.listed, tracks.recorded, tracks.reported, nofun⟩
  | go place answer => exact tracks.go place answer
  | wait pending finished ended => exact tracks.finish finished ended

end

/-- and so does every schedule. -/
theorem tracks_run (positive : 0 ≤ processor.maxConcurrent.toInt) (ctx : CallerContext)
    (regions : List Bytes) (steps : List Step) :
    Tracks processor regions
      (run (apply processor) (.start (some ctx) regions) steps) :=
  run_preserves (fun call step tracks => tracks.next (call.takes_apply processor step))
    (Tracks.start positive ctx regions) steps

/-- Only functions that run have calls in progress. -/
theorem inProgress_le_countP (recorded : ∀ f ∈ call.pool.calls, f.Recorded) :
    call.inProgress ≤ call.pool.calls.countP RegionFunction.isRunning := by
  unfold Processing.inProgress Processing.confirms
  revert recorded
  induction call.pool.calls with
  | nil => exact fun _ => le_rfl
  | cons f calls ih =>
    intro recorded
    obtain ⟨first, others⟩ := forall_mem_cons.mp recorded
    rw [flatMap_cons, count_append, countP_cons, Nat.add_comm]
    exact Nat.add_le_add (ih others) first.count_le

end Keeps

/-- **Confirmation of an intent.** In every schedule, at most `maxConcurrent` calls of
`ConfirmIntent` are in progress, the functions belong to the first entries of the list, each calls
`ConfirmIntent` at most once, and when the result is nil every entry has a function whose call
returned nil. -/
theorem processRegions_confirms (processor : RegionProcessor)
    (positive : 0 < processor.maxConcurrent) (ctx : CallerContext) (regions : List Bytes)
    (steps : List Step) :
    let call := run (apply processor) (.start (some ctx) regions) steps
    (call.inProgress : ℤ) ≤ processor.maxConcurrent.toInt ∧
      call.pool.calls.map region <+: regions ∧
      (∀ f ∈ call.pool.calls, f.confirms.length ≤ 1) ∧
      (call.returned = some (.ok ()) →
        call.pool.calls.map region = regions ∧
          ∀ f ∈ call.pool.calls, f.confirms = [some (.ok ())]) := by
  intro call
  have tracks : Tracks processor regions call :=
    tracks_run (Int64.lt_iff_toInt_lt.mp positive).le ctx regions steps
  refine ⟨?_, ⟨_, tracks.listed⟩, fun f mem => (tracks.recorded f mem).length_le, fun nil => ?_⟩
  · calc (call.inProgress : ℤ)
        ≤ call.pool.calls.countP isRunning := by
          exact_mod_cast inProgress_le_countP tracks.recorded
      _ = call.pool.shared.cur := tracks.counts.symm
      _ ≤ processor.maxConcurrent.toInt := tracks.bounded
  · obtain ⟨finished, ended⟩ := tracks.joined nil
    refine ⟨?_, fun f mem => (tracks.recorded f mem).confirms_of_ended (ended f mem)⟩
    have listed := tracks.listed
    rwa [finished, append_nil] at listed

/-- A function goes on so many times; its call of `ConfirmIntent` returns nil. -/
def goes (place times : ℕ) : List Step :=
  List.replicate times (.go place (.ok ()))

/-- Two functions, one after the other: with one permit, the second `Acquire` has to wait. -/
def inTurn : List Step :=
  [.acquire] ++ goes 0 2 ++ [.acquire] ++ goes 0 2 ++ [.acquire] ++ goes 1 5 ++ goes 0 1 ++ [.wait]

/-- A call for two entries of one region, with one permit. -/
def callInTurn : Processing :=
  run (apply ⟨1⟩) (.start (some ⟨none⟩) [ascii "east", ascii "east"]) inTurn

theorem processRegions_confirms_inTurn :
    callInTurn.returned = some (.ok ()) ∧ (callInTurn.inProgress : ℤ) ≤ (1 : Int64).toInt ∧
      callInTurn.pool.calls.map region = [ascii "east", ascii "east"] ∧
        ∀ f ∈ callInTurn.pool.calls, f.confirms = [some (.ok ())] := by
  have nil : callInTurn.returned = some (.ok ()) := by decide +kernel
  obtain ⟨bounded, -, -, complete⟩ :=
    processRegions_confirms ⟨1⟩ (by decide) ⟨none⟩ [ascii "east", ascii "east"] inTurn
  exact ⟨nil, bounded, complete nil⟩

/-! ## The result of a call -/

section Own

variable (intent signature : Bytes)

/-- What `ConfirmIntent` returns in the step is what the coordinator's own returns. -/
def Own (call : Processing) (step : Step) : Prop :=
  ∀ place answer f, step = .go place answer → call.pool.calls[place]? = some f →
    answer = Coordinator.confirmIntent intent f.region signature

/-- The answers that a function has are those of the coordinator. -/
def RegionFunction.OwnAnswers (f : RegionFunction) : Prop :=
  ∀ answer, some answer ∈ f.confirms →
    answer = Coordinator.confirmIntent intent f.region signature

variable {intent signature}

/-- What the functions of a schedule were told is what the coordinator says. -/
theorem ownAnswers_run {processor : RegionProcessor} {ctx : CallerContext} {regions : List Bytes}
    {steps : List Step} (own : Along (apply processor) (Own intent signature)
      (.start (some ctx) regions) steps) :
    ∀ f ∈ (run (apply processor) (.start (some ctx) regions) steps).pool.calls,
      f.OwnAnswers intent signature := by
  have preserved (call : Processing) (step : Step) (own : Own intent signature call step)
      (answers : ∀ f ∈ call.pool.calls, f.OwnAnswers intent signature) :
      ∀ f ∈ (call.apply processor step).pool.calls, f.OwnAnswers intent signature := by
    have takes := call.takes_apply processor step
    generalize call.apply processor step = next at takes
    cases takes with
    | blocked | cancel => exact answers
    | acquire => exact forall_mem_append.mpr ⟨answers, forall_mem_singleton.mpr nofun⟩
    | acquireFails => exact answers
    | go place answer =>
      refine Pool.forall_calls_go answers fun f present given mem => ?_
      have moves := moves_advance answer call.pool.shared f
      rw [moves.region]
      rcases moves.answers given mem with old | rfl
      · exact answers f (mem_of_getElem? present) given old
      · exact own place given f rfl present
    | wait => exact answers
  exact run_along preserved nofun own

end Own

/-- The result of a schedule is that of the sequential `processRegions`, for a context that ends
the call with the error that was returned, if one was. -/
theorem processRegions_of_returned (nonneg : 0 ≤ processor.maxConcurrent.toInt)
    {ctx : CallerContext} {intent signature : Bytes} (some : regions ≠ []) {steps : List Step}
    {result : Except GoError Unit} (own : Along (apply processor) (Own intent signature)
      (.start (.some ctx) regions) steps)
    (returned : (run (apply processor) (.start (.some ctx) regions) steps).returned =
      .some result) :
    ∃ done, processor.processRegions (.some ⟨done⟩) intent regions signature = result := by
  cases result with
  | error error => exact ⟨.some error, if_neg some⟩
  | ok =>
    refine ⟨none, (if_neg some).trans ?_⟩
    have tracks := tracks_run nonneg ctx regions steps
    obtain ⟨finished, ended⟩ := tracks.joined returned
    have listed := tracks.listed
    rw [finished, append_nil] at listed
    rw [← listed]
    refine forM_eq_ok_iff.mpr fun region mem => ?_
    obtain ⟨f, started, rfl⟩ := mem_map.mp mem
    have confirmed := (tracks.recorded f started).confirms_of_ended (ended f started)
    have answer := ownAnswers_run own f started (.ok ()) (confirmed ▸ mem_singleton_self _)
    rw [← answer]
    rfl

theorem processRegions_of_returned_inTurn :
    callInTurn.returned = some (.ok ()) ∧ ∃ done, RegionProcessor.processRegions ⟨1⟩ (some ⟨done⟩)
      [1] [ascii "east", ascii "east"] [2] = .ok () := by
  have nil : callInTurn.returned = some (.ok ()) := by decide +kernel
  refine ⟨nil, processRegions_of_returned (by decide) (by simp) ?_ nil⟩
  rintro earlier step later split place answer f rfl -
  have mem : Step.go place answer ∈ inTurn := by rw [split]; simp
  obtain rfl : answer = .ok () := by grind [inTurn, goes]
  rfl

/-! ## What outlives a call -/

namespace Processing

/-- No function runs. -/
def Idle (call : Processing) : Prop :=
  ∀ f ∈ call.pool.calls, f.isRunning = false

/-- No function runs once the call has returned. -/
def Joined (call : Processing) : Prop :=
  call.returned ≠ none → call.Idle

/-- The step does not return while a function runs, and no `ConfirmIntent` starts or returns in it
after `ProcessRegions` has. -/
def Contained (processor : RegionProcessor) (call : Processing) (step : Step) : Prop :=
  (call.apply processor step).Joined ∧
    (call.returned ≠ none → (call.apply processor step).confirms = call.confirms)

/-- If `Acquire` fails in the step, no function runs. -/
def FailsAlone (call : Processing) (step : Step) : Prop :=
  step = .acquireFails → call.Failing → call.Idle

variable {call : Processing}

/-- A call without functions that run is not changed by one going on. -/
theorem Idle.go (idle : call.Idle) (place : ℕ) (answer : Except GoError Unit) :
    (call.go place answer).Idle ∧ (call.go place answer).confirms = call.confirms := by
  have still (f : RegionFunction) (mem : f ∈ call.pool.calls) :=
    (moves_advance answer call.pool.shared f).idle (idle f mem)
  constructor
  · exact Pool.forall_calls_go idle fun f present => (still f (mem_of_getElem? present)).1
  · have same : (call.go place answer).pool.calls.map RegionFunction.confirms = _ :=
      Pool.map_calls_go place fun f mem => (still f mem).2
    unfold confirms
    rw [flatMap_def, flatMap_def, same]

variable {processor : RegionProcessor}

/-- **One step** is contained unless `Acquire` fails in it while a function runs. -/
theorem Takes.contained_iff {next : Processing} {step : Step}
    (takes : call.Takes processor step next) (joined : call.Joined) :
    next.Joined ∧ (call.returned ≠ none → next.confirms = call.confirms) ↔
      call.FailsAlone step := by
  cases takes with
  | blocked unfailing =>
    exact iff_of_true ⟨joined, fun _ => rfl⟩ fun fails failing => absurd failing (unfailing fails)
  | cancel => exact iff_of_true ⟨joined, fun _ => rfl⟩ nofun
  | acquire pending =>
    exact iff_of_true ⟨fun returned => absurd pending returned,
      fun returned => absurd pending returned⟩ nofun
  | acquireFails failing =>
    constructor
    · exact fun contained _ _ => contained.1 nofun
    · exact fun alone => ⟨fun _ => alone rfl failing, fun _ => rfl⟩
  | go place answer =>
    refine iff_of_true ⟨fun returned => ?_, fun returned => ?_⟩ nofun
    · exact ((joined returned).go place answer).1
    · exact ((joined returned).go place answer).2
  | wait pending finished ended =>
    refine iff_of_true ⟨fun _ f mem => ?_, fun returned => absurd pending returned⟩ nofun
    have isEnded := ended f mem
    obtain ⟨region, phase, confirms⟩ := f
    cases phase with
    | ended => rfl
    | _ => cases isEnded

/-- `Acquire` cannot fail while a function runs: the loop is past its last region, or no function
has been started and the next one, if it can be started, is the last. -/
def Single (processor : RegionProcessor) (call : Processing) : Prop :=
  call.remaining = [] ∨ call.pool.calls = [] ∧ call.pool.shared.cur = 0 ∧
    (call.remaining.length ≤ 1 ∨ processor.maxConcurrent.toInt ≤ 0)

/-- A call with one function has no other started. -/
theorem Single.next {next : Processing} {step : Step} (single : call.Single processor)
    (takes : call.Takes processor step next) :
    next.Single processor := by
  cases takes with
  | blocked | cancel => exact single
  | @acquire region rest pending left room =>
    rcases single with finished | ⟨-, unused, few⟩
    · rw [left] at finished
      cases finished
    · rw [unused] at room
      rw [left, length_cons] at few
      have last : rest.length = 0 := by omega
      exact .inl (eq_nil_of_length_eq_zero last)
  | acquireFails => exact single
  | go place =>
    refine single.imp id fun ⟨unstarted, unused, few⟩ => ?_
    have absent : call.pool.calls[place]? = none := by
      rw [unstarted]
      rfl
    unfold go
    rw [Pool.go_of_none absent]
    exact ⟨unstarted, unused, few⟩
  | wait pending finished => exact .inl finished

end Processing

open Processing

/-- So is a schedule. -/
theorem along_contained_iff (processor : RegionProcessor) (ctx : Option CallerContext)
    (regions : List Bytes) (steps : List Step) :
    Along (apply processor) (Contained processor) (start ctx regions) steps ↔
      Along (apply processor) FailsAlone (start ctx regions) steps := by
  have keep (call : Processing) (step : Step) (_ : call.Joined)
      (contained : call.Contained processor step) : (call.apply processor step).Joined :=
    contained.1
  have agree (call : Processing) (step : Step) (joined : call.Joined) :
      call.Contained processor step ↔ call.FailsAlone step :=
    (call.takes_apply processor step).contained_iff joined
  have joined : (start ctx regions).Joined := by cases ctx <;> exact fun _ => nofun
  exact along_iff_of_invariant agree keep joined steps

/-- The caller cancels between the first and the second region. -/
theorem not_contained_of_two (positive : 0 < processor.maxConcurrent.toInt) (ctx : CallerContext)
    (first second : Bytes) (rest : List Bytes) :
    ¬ Along (apply processor) (Contained processor) (start (some ctx) (first :: second :: rest))
      [.cancel errCanceled, .acquire, .acquireFails] := by
  intro contained
  let done : Processing :=
    (start (some ctx) (first :: second :: rest)).apply processor (.cancel errCanceled)
  have room : processor.maxConcurrent.toInt - 0 ≥ 1 := by omega
  have launched : done.apply processor .acquire = done.launch first (second :: rest) := if_pos room
  have failing : (done.launch first (second :: rest)).Failing := by
    refine ⟨rfl, cons_ne_nil _ _, ?_⟩
    change ctx.err.or (some errCanceled) ≠ none
    cases ctx.err <;> exact nofun
  have alone := (along_contained_iff _ _ _ _).mp contained
    [.cancel errCanceled, .acquire] .acquireFails [] rfl rfl
  rw [run_cons, run_cons, run_nil, launched] at alone
  cases alone failing _ mem_cons_self

/-- **What outlives a call.** In a schedule, no function runs and no call of `ConfirmIntent` starts
or returns once `ProcessRegions` has returned exactly when `Acquire` never fails while a function
runs. That is so in every schedule exactly for calls that start at most one function: the context is
nil, the list has at most one entry, or there are no permits. -/
theorem processRegions_contained_iff (processor : RegionProcessor) (ctx : Option CallerContext)
    (regions : List Bytes) :
    (∀ steps, Along (apply processor) (Contained processor) (start ctx regions) steps ↔
      Along (apply processor) FailsAlone (start ctx regions) steps) ∧
    ((∀ steps, Along (apply processor) (Contained processor) (start ctx regions) steps) ↔
      ctx = none ∨ regions.length ≤ 1 ∨ processor.maxConcurrent ≤ 0) := by
  refine ⟨along_contained_iff processor ctx regions, ?_, fun alone steps => ?_⟩
  · intro contained
    by_contra several
    rw [not_or, not_or] at several
    obtain ⟨present, two, positive⟩ := several
    obtain ⟨ctx, rfl⟩ := Option.ne_none_iff_exists'.mp present
    rw [Int64.le_iff_toInt_le, not_le] at positive
    match regions, two with
    | [], two => exact two (Nat.zero_le 1)
    | [_], two => exact two le_rfl
    | first :: second :: rest, _ =>
      exact not_contained_of_two positive ctx first second rest (contained _)
  · rw [along_contained_iff]
    intro earlier step later _ _ failing
    have first : (start ctx regions).Single processor := by
      cases ctx with
      | none => exact .inl rfl
      | some =>
        exact .inr ⟨rfl, rfl, (alone.resolve_left nofun).imp_right Int64.le_iff_toInt_le.mp⟩
    have single := run_preserves (fun call step (single : call.Single processor) =>
      single.next (call.takes_apply processor step)) first earlier
    rcases single with finished | ⟨unstarted, -⟩
    · exact absurd finished failing.2.1
    · exact fun f mem => absurd (unstarted ▸ mem) not_mem_nil

/-- The function of the first region is past its `select` when the caller cancels, and `Acquire`
fails for the second. -/
def callCutShort : Processing :=
  run (apply ⟨4⟩) (start (some ⟨none⟩) [ascii "east", ascii "west"])
    [.acquire, .go 0 (.ok ()), .cancel errCanceled, .acquireFails]

/-- The call has failed before `ConfirmIntent` is called, and then the intent is confirmed. -/
theorem confirms_after_return :
    callCutShort.returned =
        some (.error (.wrap (ascii "failed to acquire semaphore") errCanceled)) ∧
      ¬ callCutShort.Idle ∧ callCutShort.confirms = [] ∧
      (run (apply ⟨4⟩) callCutShort (goes 0 2)).confirms = [some (.ok ())] := by
  unfold Idle
  decide +kernel

end XRegion

end Aristo
