import Aristo.Coordination.Workers

/-!
# Messages between two workers

`SendMessage` of the coordinator gets the channel of the two workers and sends on it, and a receiver
gets the channel and receives from it.  What `GetSecureChannel` returns was read from the storage,
so everybody has a channel of their own with an empty buffer (`messages_of_getSecureChannel`).  A
`Session` is the coordinator with the channels that were obtained; their buffers stay empty
(`quiet_after`).
-/

namespace Aristo

open GoBase Call

namespace Coordination

open StorageWrapper

theorem messages_of_getSecureChannel {outside : Outside} {worker1 worker2 : Bytes}
    {base next : BaseStorage} {channel : SecureChannel}
    (h : getSecureChannel outside worker1 worker2 base = (.ok channel, next)) :
    channel.messages = [] := by
  obtain ⟨loaded, middle, attempt, rest⟩ := bind_eq_ok.mp h
  cases loaded with
  | ok found =>
    obtain ⟨record, _, -, read⟩ := bind_eq_ok.mp (attempt_eq_ok_ok.mp attempt)
    obtain rfl : found = channel := Outcome.ok.inj (congrArg Prod.fst rest)
    rw [← Outcome.ok.inj (congrArg Prod.fst read)]
    rfl
  | error =>
    -- a new channel, with a key
    obtain ⟨_, _, -, create⟩ := bind_eq_ok.mp rest
    obtain ⟨created, _, establish, save⟩ := bind_eq_ok.mp create
    obtain ⟨_, _, -, returns⟩ := bind_eq_ok.mp save
    obtain rfl : created = channel := Outcome.ok.inj (congrArg Prod.fst returns)
    obtain ⟨established, -⟩ := lift_eq_ok.mp (wrapping_eq_ok.mp establish)
    obtain ⟨key, -, keyed⟩ := except_bind_eq_ok.mp established
    rw [← Except.ok.inj keyed]
    rfl

/-- The coordinator, and the channels that were obtained from it. -/
structure Session where
  registry : Registry
  handles : List SecureChannel

/-- What is done with the channel of two workers. -/
inductive Exchange where
  /-- `SendMessage` from the first worker to the second, or back. -/
  | send (back : Bool) (data : Bytes) (outside : Outside)
  /-- `GetSecureChannel` for the workers in this order, or the other one. -/
  | get (back : Bool) (outside : Outside)
  /-- `Receive` on a channel that was obtained. -/
  | receive (handle : ℕ)

namespace Session

/-- The two workers in this order, or the other one. -/
def ordered (pair : Bytes × Bytes) (back : Bool) : Bytes × Bytes :=
  if back then pair.swap else pair

def message (pair : Bytes × Bytes) (back : Bool) (data : Bytes) : Message where
  type := .data
  sender := (ordered pair back).1
  recipient := (ordered pair back).2
  data := data

def onRegistry {α : Type} (call : Call Registry α) : Call Session α :=
  Call.focus Session.registry (fun s registry => { s with registry }) call

/-- `Receive` through a pointer. -/
def receive (handle : ℕ) : Call Session Bytes := do
  let s ← Call.read
  match s.handles[handle]? with
  | none => Call.crash
  | some channel => do
    let (data, channel) ← Call.lift channel.receive
    Call.modify fun s => { s with handles := s.handles.set handle channel }
    return data

/-- What an exchange does, with the data that it receives. -/
def call (pair : Bytes × Bytes) : Exchange → Call Session (Option Bytes)
  | .send back data outside => do
    onRegistry (Registry.sendMessage outside (message pair back data))
    return none
  | .get back outside => do
    let channel ← onRegistry (Registry.onStore
      (getSecureChannel outside (ordered pair back).1 (ordered pair back).2))
    Call.modify fun s => { s with handles := s.handles ++ [channel] }
    return none
  | .receive handle => some <$> receive handle

/-! ## Runs -/

def Quiet (s : Session) : Prop :=
  ∀ channel ∈ s.handles, channel.messages = []

theorem receive_of_quiet {s : Session} (quiet : Quiet s) (handle : ℕ) :
    ¬ (receive handle s).1.Succeeded ∧ (receive handle s).2 = s := by
  simp only [receive, bind_of_ok (read_apply s)]
  cases found : s.handles[handle]? with
  | none => exact ⟨id, rfl⟩
  | some channel =>
    have empty : channel.receive = .error errTimeout := by
      rw [SecureChannel.receive, quiet channel (List.mem_of_getElem? found)]
    dsimp only
    rw [lift_bind_of_error empty]
    exact ⟨id, rfl⟩

theorem call_receive_of_quiet {s : Session} (quiet : Quiet s) (pair : Bytes × Bytes)
    (handle : ℕ) :
    ¬ (call pair (.receive handle) s).1.Succeeded ∧ (call pair (.receive handle) s).2 = s := by
  obtain ⟨failed, same⟩ := receive_of_quiet quiet handle
  show ¬ ((receive handle >>= fun data => pure (some data)) s).1.Succeeded ∧
    ((receive handle >>= fun data => pure (some data)) s).2 = s
  rw [bind_apply]
  rcases h : receive handle s with ⟨outcome, next⟩
  rw [h] at failed same
  cases outcome with
  | ok => exact absurd trivial failed
  | err | panicked => exact ⟨id, same⟩

/-- **No exchange puts a message into a channel that somebody has.** -/
theorem maintains_call (pair : Bytes × Bytes) (exchange : Exchange) :
    Call.Maintains Quiet (call pair exchange) := by
  cases exchange with
  | send =>
    exact maintains_bind (fun _ quiet => quiet) fun _ _ quiet => quiet
  | receive handle =>
    intro s quiet
    rwa [(call_receive_of_quiet quiet pair handle).2]
  | get back outside =>
    intro s quiet
    rcases h : onRegistry (Registry.onStore
      (getSecureChannel outside (ordered pair back).1 (ordered pair back).2)) s with
      ⟨outcome, next⟩
    have handles : next.handles = s.handles := congrArg (Session.handles ∘ Prod.snd) h.symm
    have still : Quiet next := by rwa [Quiet, handles]
    rw [call, bind_apply, h]
    cases outcome with
    | err | panicked => exact still
    | ok =>
      obtain ⟨_, onStore, -⟩ := focus_eq_ok.mp h
      obtain ⟨_, get, -⟩ := focus_eq_ok.mp onStore
      intro obtained mem
      rcases List.mem_append.mp mem with old | new
      · exact still obtained old
      · rw [List.mem_singleton.mp new]
        exact messages_of_getSecureChannel get

theorem quiet_after (pair : Bytes × Bytes) {s : Session} (quiet : Quiet s)
    (exchanges : List Exchange) : Quiet (Call.after (call pair) s exchanges) := by
  exact run_preserves (fun state exchange => maintains_call pair exchange state) quiet exchanges

def sent (done : List (Exchange × Option Bytes)) : List Bytes :=
  done.filterMap fun item =>
    match item.1 with
    | .send _ data _ => some data
    | _ => none

def received (done : List (Exchange × Option Bytes)) : List Bytes :=
  done.filterMap Prod.snd

def start (registry : Registry) : Session := ⟨registry, []⟩

def reached (pair : Bytes × Bytes) (registry : Registry) (exchanges : List Exchange) : Session :=
  Call.after (call pair) (start registry) exchanges

/-- The calls of the run that returned. -/
def done (pair : Bytes × Bytes) (registry : Registry) (exchanges : List Exchange) :
    List (Exchange × Option Bytes) :=
  Call.returned (call pair) (start registry) exchanges

/-- What was sent and not received. -/
def outstanding (pair : Bytes × Bytes) (registry : Registry) (exchanges : List Exchange) :
    List Bytes :=
  (sent (done pair registry exchanges)).drop (received (done pair registry exchanges)).length

/-- **First in, first out.**  A receive returns the first outstanding message, as long as these are
not more than a hundred, and nothing if there is none. -/
def InOrder (pair : Bytes × Bytes) (registry : Registry) (exchanges : List Exchange) : Prop :=
  ∀ earlier handle later, exchanges = earlier ++ .receive handle :: later →
    handle < (reached pair registry earlier).handles.length →
    (outstanding pair registry earlier).length ≤ 100 →
    ∀ data, (receive handle (reached pair registry earlier)).1 = .ok data ↔
      (outstanding pair registry earlier).head? = some data

section

variable (pair : Bytes × Bytes) (registry : Registry) (exchanges : List Exchange)

theorem quiet_reached :
    Quiet (reached pair registry exchanges) :=
  quiet_after pair (fun _ mem => absurd mem List.not_mem_nil) exchanges

theorem outstanding_eq :
    outstanding pair registry exchanges = sent (done pair registry exchanges) := by
  have none : received (done pair registry exchanges) = [] := by
    refine List.filterMap_eq_nil_iff.mpr fun item mem => ?_
    obtain ⟨earlier, later, next, -, returns⟩ := exists_of_mem_returned mem
    obtain ⟨exchange, value⟩ := item
    cases exchange with
    | send =>
      obtain ⟨_, _, -, last⟩ := bind_eq_ok.mp returns
      exact (Outcome.ok.inj (congrArg Prod.fst last)).symm
    | get =>
      obtain ⟨_, _, -, rest⟩ := bind_eq_ok.mp returns
      obtain ⟨_, _, -, last⟩ := bind_eq_ok.mp rest
      exact (Outcome.ok.inj (congrArg Prod.fst last)).symm
    | receive handle =>
      have failed := (call_receive_of_quiet (quiet_reached pair registry earlier) pair handle).1
      rw [show call pair (.receive handle) (reached pair registry earlier) = _ from returns]
        at failed
      exact absurd trivial failed
  rw [outstanding, none]
  rfl

end

/-- **When messages arrive in order**: exactly when every receive is too early or too late. -/
theorem inOrder_iff (pair : Bytes × Bytes) (registry : Registry) (exchanges : List Exchange) :
    InOrder pair registry exchanges ↔
      ∀ earlier handle later, exchanges = earlier ++ .receive handle :: later →
        handle < (reached pair registry earlier).handles.length →
        sent (done pair registry earlier) = [] ∨
          100 < (sent (done pair registry earlier)).length := by
  refine forall₃_congr fun earlier handle later => forall₂_congr fun _ _ => ?_
  rw [outstanding_eq]
  have nothing (data : Bytes) : (receive handle (reached pair registry earlier)).1 ≠ .ok data := by
    intro returns
    have failed := (receive_of_quiet (quiet_reached pair registry earlier) handle).1
    rw [returns] at failed
    exact failed trivial
  constructor
  · intro law
    by_cases many : 100 < (sent (done pair registry earlier)).length
    · exact Or.inr many
    · refine Or.inl (List.head?_eq_none_iff.mp (Option.eq_none_iff_forall_ne_some.mpr ?_))
      intro data first
      exact nothing data ((law (not_lt.mp many) data).mpr first)
  · rintro (empty | many) few data
    · rw [empty]
      exact iff_of_false (nothing data) (fun first => by cases first)
    · exact absurd few (not_le.mpr many)

/-! ## A message that is lost -/

def pairAB : Bytes × Bytes := (ascii "a", ascii "b")

def recordAB : ChannelRecord where
  worker1 := ascii "a"
  worker2 := ascii "b"
  key := [1, 2, 3]
  encrypted := true

def registryAB : Registry where
  minWorkers := 2
  workers := ((∅ : GoMap Bytes Worker).insert (ascii "a")
    { Worker.registered (ascii "a") [] Time.zero with status := .active }).insert (ascii "b")
    { Worker.registered (ascii "b") [] Time.zero with status := .active }
  heap := []
  store := (∅ : BaseStorage).insert (recordKey .channel (makeChannelKey (ascii "a") (ascii "b")))
    recordAB.marshal
  done := .make 0

def sendAB : List Exchange :=
  [.get false ⟨none, none, .ok []⟩, .send false [7] ⟨none, none, .ok []⟩]

/-- The call that sends the message returns nil, and the receive times out. -/
theorem receive_sendAB :
    sent (done pairAB registryAB sendAB) = [[7]] ∧
      (receive 0 (reached pairAB registryAB sendAB)).1 = .err errTimeout ∧
      ¬ InOrder pairAB registryAB (sendAB ++ [.receive 0]) := by
  have returned : sent (done pairAB registryAB sendAB) = [[7]] := by decide +kernel
  have timeout : (receive 0 (reached pairAB registryAB sendAB)).1 = .err errTimeout := by
    decide +kernel
  have obtained : 0 < (reached pairAB registryAB sendAB).handles.length := by decide +kernel
  refine ⟨returned, timeout, fun law => ?_⟩
  have first := law sendAB 0 [] rfl obtained
  rw [outstanding_eq, returned] at first
  have receives := (first (by decide) [7]).mpr rfl
  rw [timeout] at receives
  cases receives

end Session

end Coordination

end Aristo
