import Aristo.Coordination.Storage

/-!
# Getting a channel

`GetSecureChannel` of `coordination/coordinator.go` loads the channel of two workers, and
creates one if the error of the load is `ErrNotFound`.  The `ErrNotFound` it compares with is that
of the package `signer/storage` of go-ethereum; the database reports an absent key with its own
`ErrNotFound`.  Neither wraps the other, so `getSecureChannel_of_absent` returns an error, and as
long as the storage works a call changes nothing.
-/

namespace Aristo

open GoBase Call List

namespace Coordination

open StorageWrapper

/-- `storage.ErrNotFound`, of go-ethereum. -/
def signerErrNotFound : Sentinel :=
  ⟨"github.com/ethereum/go-ethereum/signer/storage", "ErrNotFound"⟩

/-- What goes wrong outside during a call, and what the random source returns. -/
structure Outside where
  loadFault : Option GoError
  saveFault : Option GoError
  random : Except Bytes Bytes

def getSecureChannel (outside : Outside) (worker1 worker2 : Bytes) :
    Call BaseStorage SecureChannel := do
  match ← Call.attempt (loadChannel outside.loadFault worker1 worker2) with
  | .ok channel => return channel
  | .error error => do
    Call.lift (refuse (¬ error.is signerErrNotFound)
      (error.wrap (ascii "failed to load channel")))
    let channel ← Call.wrapping (ascii "failed to establish secure channel")
      (Call.lift ((SecureChannel.new worker1 worker2).establishSecure outside.random))
    Call.wrapping (ascii "failed to save channel") (saveChannel outside.saveFault channel)
    return channel

def Persisted (base : BaseStorage) (pair : Sym2 Bytes) (record : ChannelRecord) : Prop :=
  ∃ data, base.lookup (recordKey .channel (channelKey pair)) = some data ∧
    ChannelRecord.unmarshal data = .ok record

theorem Persisted.unique {base : BaseStorage} {pair : Sym2 Bytes} {record record' : ChannelRecord}
    (persisted : Persisted base pair record) (persisted' : Persisted base pair record') :
    record = record' := by
  obtain ⟨data, lookup, read⟩ := persisted
  obtain ⟨data', lookup', read'⟩ := persisted'
  obtain rfl : data = data' := Option.some.inj (lookup.symm.trans lookup')
  exact Except.ok.inj (read.symm.trans read')

section Get

variable {outside : Outside} {worker1 worker2 : Bytes} {base : BaseStorage}

theorem getSecureChannel_of_error {error : GoError}
    (load : loadChannel outside.loadFault worker1 worker2 base = (.err error, base))
    (other : ¬ error.is signerErrNotFound) :
    getSecureChannel outside worker1 worker2 base =
      (.err (error.wrap (ascii "failed to load channel")), base) := by
  rw [getSecureChannel, bind_of_ok (attempt_of_err load)]
  exact refuse_bind_of other

theorem getSecureChannel_of_persisted {record : ChannelRecord} (works : outside.loadFault = none)
    (persisted : Persisted base s(worker1, worker2) record) :
    getSecureChannel outside worker1 worker2 base = (.ok (.ofRecord record), base) := by
  obtain ⟨data, lookup, read⟩ := persisted
  have loaded : loadChannel outside.loadFault worker1 worker2 base =
      (.ok (.ofRecord record), base) := by
    rw [works, loadChannel_of_present lookup read]
  exact bind_of_ok (attempt_eq_ok_ok.mpr loaded)

theorem getSecureChannel_of_absent (works : outside.loadFault = none)
    (absent : base.lookup (recordKey .channel (channelKey s(worker1, worker2))) = none) :
    getSecureChannel outside worker1 worker2 base =
      (.err (errNotFound.wrap (ascii "failed to load channel")), base) := by
  refine getSecureChannel_of_error ?_ (by decide)
  rw [works, loadChannel_of_absent absent]

/-- **What a call does** while the storage works: it returns the record, or fails, and leaves the
base as it was. -/
theorem getSecureChannel_ends (works : outside.loadFault = none) :
    Call.Ends (getSecureChannel outside worker1 worker2) base fun outcome next =>
      next = base ∧ ((∃ record, Persisted base s(worker1, worker2) record ∧
          outcome = .ok (.ofRecord record)) ∨
        (∀ record, ¬ Persisted base s(worker1, worker2) record) ∧ outcome.Failed) := by
  cases lookup : base.lookup (recordKey .channel (channelKey s(worker1, worker2))) with
  | none =>
    refine ends_of_eq (getSecureChannel_of_absent works lookup) ⟨rfl, Or.inr ⟨?_, trivial⟩⟩
    rintro record ⟨data, present, -⟩
    rw [lookup] at present
    cases present
  | some data =>
    cases read : ChannelRecord.unmarshal data with
    | ok record =>
      have persisted : Persisted base s(worker1, worker2) record := ⟨data, lookup, read⟩
      exact ends_of_eq (getSecureChannel_of_persisted works persisted)
        ⟨rfl, Or.inl ⟨record, persisted, rfl⟩⟩
    | error =>
      obtain rfl := ChannelRecord.eq_errUnmarshal read
      have load : loadChannel none worker1 worker2 base = _ :=
        bind_of_err (load_of_unreadable lookup read)
      rw [← works] at load
      refine ends_of_eq (getSecureChannel_of_error load (by decide))
        ⟨rfl, Or.inr ⟨?_, trivial⟩⟩
      rintro record ⟨data', present, read'⟩
      obtain rfl : data = data' := Option.some.inj (lookup.symm.trans present)
      rw [read] at read'
      cases read'

/-- What a call needs to return a channel: one that is loaded, or one that is absent, random bytes
and a storage that saves. -/
def ChannelReady (outside : Outside) (worker1 worker2 : Bytes) (base : BaseStorage) : Prop :=
  (loadChannel outside.loadFault worker1 worker2 base).1.Succeeded ∨
    ∃ error, (loadChannel outside.loadFault worker1 worker2 base).1 = .err error ∧
      error.is signerErrNotFound ∧ outside.saveFault = none ∧ ∃ key, outside.random = .ok key

theorem channelReady_congr {base' : BaseStorage}
    (same : ∀ id, base.lookup (recordKey .channel id) = base'.lookup (recordKey .channel id)) :
    ChannelReady outside worker1 worker2 base ↔ ChannelReady outside worker1 worker2 base' := by
  rw [ChannelReady, loadChannel_congr outside.loadFault worker1 worker2 same, ChannelReady]

/-- The call returns a channel and leaves the other records alone when it is ready, and otherwise
fails and leaves all. -/
def ReturnsWhen (ready : Prop) (outside : Outside) (worker1 worker2 : Bytes) (base : BaseStorage) :
    Prop :=
  (ready ∧ ∃ channel next, getSecureChannel outside worker1 worker2 base = (.ok channel, next) ∧
      ∀ kind id, kind ≠ .channel →
        next.lookup (recordKey kind id) = base.lookup (recordKey kind id)) ∨
    (¬ ready ∧ ∃ error, getSecureChannel outside worker1 worker2 base = (.err error, base))

theorem getSecureChannel_of_reported {error : GoError}
    (failed : loadChannel outside.loadFault worker1 worker2 base = (.err error, base))
    (absent : error.is signerErrNotFound) :
    ReturnsWhen (outside.saveFault = none ∧ ∃ key, outside.random = .ok key) outside worker1
      worker2 base := by
  have entered : getSecureChannel outside worker1 worker2 base = _ :=
    (bind_of_ok (attempt_of_err failed)).trans
      (refuse_bind_of_not (not_not_intro absent))
  rw [ReturnsWhen, entered]
  cases random : outside.random with
  | error => exact Or.inr ⟨by simp, _, rfl⟩
  | ok key =>
    cases fault : outside.saveFault with
    | some => exact Or.inr ⟨by simp, _, rfl⟩
    | none =>
      refine Or.inl ⟨⟨rfl, key, rfl⟩, _, _, rfl, fun kind id other => ?_⟩
      exact Finmap.lookup_insert_of_ne _ fun same => other (recordKey_inj same).1

/-- **What a call does**, whatever goes wrong: it returns a channel exactly when it is ready to. -/
theorem getSecureChannel_cases (outside : Outside) (worker1 worker2 : Bytes) (base : BaseStorage) :
    ReturnsWhen (ChannelReady outside worker1 worker2 base) outside worker1 worker2 base := by
  rcases loadChannel_cases outside.loadFault worker1 worker2 base with
    ⟨channel, loaded⟩ | ⟨error, failed⟩
  · have ready : ChannelReady outside worker1 worker2 base := Or.inl (by rw [loaded]; trivial)
    have returned := attempt_eq_ok_ok.mpr loaded
    exact Or.inl ⟨ready, channel, base, bind_of_ok returned, fun _ _ _ => rfl⟩
  · have ready_iff : ChannelReady outside worker1 worker2 base ↔
        error.is signerErrNotFound ∧ outside.saveFault = none ∧
          ∃ key, outside.random = .ok key := by
      simp [ChannelReady, failed]
    by_cases absent : error.is signerErrNotFound
    · rw [ready_iff, and_iff_right absent]
      exact getSecureChannel_of_reported failed absent
    · exact Or.inr ⟨fun ready => absent (ready_iff.mp ready).1, _,
        getSecureChannel_of_error failed absent⟩

end Get

/-! ## Histories of calls -/

/-- A call of `GetSecureChannel` while the storage works; whatever the random source returns. -/
structure GetCall where
  worker1 : Bytes
  worker2 : Bytes
  random : Except Bytes Bytes

namespace GetCall

def pair (get : GetCall) : Sym2 Bytes := s(get.worker1, get.worker2)

def call (get : GetCall) : Call BaseStorage SecureChannel :=
  getSecureChannel ⟨none, none, get.random⟩ get.worker1 get.worker2

theorem call_ends (get : GetCall) (base : BaseStorage) :
    Call.Ends get.call base fun outcome next =>
      next = base ∧ ((∃ record, Persisted base get.pair record ∧
          outcome = .ok (.ofRecord record)) ∨
        (∀ record, ¬ Persisted base get.pair record) ∧ outcome.Failed) :=
  getSecureChannel_ends rfl

end GetCall

/-- **Get or create.**  Every call returns a channel and leaves a record for it, and the calls for
two workers, in either order, return the same key and the same ends. -/
structure GetsOrCreates (base : BaseStorage) (calls : List GetCall) : Prop where
  succeeds : (Call.returned GetCall.call base calls).map Prod.fst = calls
  persists : ∀ earlier get later, calls = earlier ++ get :: later →
    ∃ record, Persisted (Call.after GetCall.call base (earlier ++ [get])) get.pair record
  stable : ∀ first ∈ Call.returned GetCall.call base calls,
    ∀ second ∈ Call.returned GetCall.call base calls, first.1.pair = second.1.pair →
      first.2.key = second.2.key ∧ first.2.worker1 = second.2.worker1 ∧
        first.2.worker2 = second.2.worker2

theorem after_getCall (base : BaseStorage) (calls : List GetCall) :
    Call.after GetCall.call base calls = base := by
  have steps : ∀ (state : BaseStorage) (get : GetCall), True → state = (get.call state).2 :=
    fun state get _ => (get.call_ends state).1.symm
  exact (run_relates (fun _ => rfl) Eq.trans steps base fun _ _ => trivial).symm

theorem persisted_of_mem_returned {base : BaseStorage} {calls : List GetCall}
    {done : GetCall × SecureChannel} (mem : done ∈ Call.returned GetCall.call base calls) :
    ∃ record, Persisted base done.1.pair record ∧ done.2 = .ofRecord record := by
  obtain ⟨earlier, later, next, -, returns⟩ := exists_of_mem_returned mem
  rw [after_getCall] at returns
  have ends := done.1.call_ends base
  rw [Call.Ends, returns] at ends
  obtain ⟨-, ⟨record, persisted, equal⟩ | ⟨-, failed⟩⟩ := ends
  · exact ⟨record, persisted, Outcome.ok.inj equal⟩
  · exact absurd failed id

/-- **When channels are got or created**: exactly when there is nothing to create. -/
theorem getsOrCreates_iff (base : BaseStorage) (calls : List GetCall) :
    GetsOrCreates base calls ↔
      ∀ get ∈ calls, ∃ record, Persisted base get.pair record := by
  constructor
  · intro law get mem
    rw [← law.succeeds] at mem
    obtain ⟨done, returned, rfl⟩ := mem_map.mp mem
    obtain ⟨record, persisted, -⟩ := persisted_of_mem_returned returned
    exact ⟨record, persisted⟩
  · intro persisted
    refine ⟨?_, fun earlier get later equal => ?_, fun first mem second mem' same => ?_⟩
    · induction calls with
      | nil => rfl
      | cons get calls ih =>
        obtain ⟨record, present⟩ := persisted get mem_cons_self
        have returns : get.call base = (.ok (.ofRecord record), base) :=
          getSecureChannel_of_persisted rfl present
        rw [returned_cons_of_ok returns, map_cons,
          ih fun later mem => persisted later (mem_cons_of_mem _ mem)]
    · rw [after_getCall]
      exact persisted get (equal ▸ mem_append_right _ mem_cons_self)
    · obtain ⟨record, present, returned⟩ := persisted_of_mem_returned mem
      obtain ⟨record', present', returned'⟩ := persisted_of_mem_returned mem'
      rw [← same] at present'
      rw [returned, returned', present.unique present']
      exact ⟨rfl, rfl, rfl⟩

def firstGet : GetCall := ⟨ascii "a", ascii "b", .ok [1, 2, 3]⟩

/-- Over an empty database the first call fails. -/
theorem getSecureChannel_first :
    firstGet.call ∅ =
        (.err ⟨ascii "failed to load channel: not found", [databaseErrNotFound]⟩, ∅) ∧
      ¬ GetsOrCreates ∅ [firstGet] := by
  have fails : firstGet.call ∅ =
      (.err (errNotFound.wrap (ascii "failed to load channel")), ∅) :=
    getSecureChannel_of_absent rfl (Finmap.lookup_empty _)
  refine ⟨fails, fun law => ?_⟩
  have succeeds := law.succeeds
  rw [returned_cons_of_not fails not_false] at succeeds
  cases succeeds

end Coordination

end Aristo
