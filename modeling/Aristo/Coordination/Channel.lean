import Aristo.Base.Call
import Aristo.Base.Json
import Mathlib.Data.Sym.Sym2

/-!
# Secure channels

`SecureChannel` of `coordination/channel.go`: a buffer of a hundred messages between two workers.
`encrypt` and `decrypt` return their argument.  What is stored of a channel is a `ChannelRecord`, in
JSON; the messages are not, and a name that is not valid UTF-8 does not survive.

A channel is stored under the names of its workers in order, with a colon between them;
`channelKey_eq_iff` says when two pairs have the same key.
-/

namespace Aristo

open GoBase List

namespace Coordination

def errTimeout : GoError := .new ⟨"coordination", "ErrTimeout"⟩ "coordination timeout"

structure SecureChannel where
  worker1 : Bytes
  worker2 : Bytes
  key : Bytes
  encrypted : Bool
  messages : List Bytes

namespace SecureChannel

def capacity : ℕ := 100

def new (w1 w2 : Bytes) : SecureChannel where
  worker1 := w1
  worker2 := w2
  key := []
  encrypted := false
  messages := []

/-- `EstablishSecure`.  The random source returns a key, or the text of an error of the
operating system. -/
def establishSecure (random : Except Bytes Bytes) (c : SecureChannel) :
    Except GoError SecureChannel := do
  let key ← random.mapError GoError.plain
  return { c with key, encrypted := true }

def encrypt (data _key : Bytes) : Bytes := data

def decrypt (data _key : Bytes) : Bytes := data

/-- `Send`.  With a full buffer, and nobody who receives within five seconds, it times
out. -/
def send (data : Bytes) (c : SecureChannel) : Except GoError SecureChannel :=
  let data := if c.encrypted then encrypt data c.key else data
  if c.messages.length < capacity then .ok { c with messages := c.messages ++ [data] }
  else .error errTimeout

/-- `Receive`.  With an empty buffer, and nobody who sends within five seconds, it times
out. -/
def receive (c : SecureChannel) : Except GoError (Bytes × SecureChannel) :=
  match c.messages with
  | data :: messages =>
    .ok (if c.encrypted then decrypt data c.key else data, { c with messages })
  | [] => .error errTimeout

end SecureChannel

/-! ## What is stored of a channel -/

/-- The fields that `MarshalJSON` writes. -/
structure ChannelRecord where
  worker1 : Bytes
  worker2 : Bytes
  key : Bytes
  encrypted : Bool
deriving DecidableEq

def errUnmarshal : GoError := .plain (ascii "json: cannot unmarshal")

namespace ChannelRecord

def zero : ChannelRecord where
  worker1 := []
  worker2 := []
  key := []
  encrypted := false

def marshal (r : ChannelRecord) : Bytes :=
  Json.render (.object [
    ("worker1".toList, .ofString r.worker1),
    ("worker2".toList, .ofString r.worker2),
    ("key".toList, .ofBytes r.key),
    ("encrypted".toList, .bool r.encrypted)])

/-- A member of the object that is read. -/
def setField (r : ChannelRecord) (member : List Char × Json) : Option ChannelRecord :=
  if Json.isField member.1 "worker1" then
    (member.2.toText r.worker1).map fun worker1 => { r with worker1 }
  else if Json.isField member.1 "worker2" then
    (member.2.toText r.worker2).map fun worker2 => { r with worker2 }
  else if Json.isField member.1 "key" then
    member.2.toBytes.map fun key => { r with key }
  else if Json.isField member.1 "encrypted" then
    (member.2.toBool r.encrypted).map fun encrypted => { r with encrypted }
  else some r

/-- The value that is read; `null` changes nothing. -/
def ofJson : Json → Option ChannelRecord
  | .null => some zero
  | .object members => members.foldlM setField zero
  | _ => none

def unmarshal (data : Bytes) : Except GoError ChannelRecord :=
  match (Json.parse data).bind ofJson with
  | some r => .ok r
  | none => .error errUnmarshal

/-- There is one error for everything that cannot be read. -/
theorem eq_errUnmarshal {data : Bytes} {error : GoError} (h : unmarshal data = .error error) :
    error = errUnmarshal := by
  unfold unmarshal at h
  split at h
  · cases h
  · exact (Except.error.inj h).symm

/-- What is read back: a name that is not valid UTF-8 has changed. -/
def readBack (r : ChannelRecord) : ChannelRecord :=
  { r with worker1 := toValidUTF8 r.worker1, worker2 := toValidUTF8 r.worker2 }

section

variable (r : ChannelRecord)

theorem setField_worker1 (text : Bytes) :
    r.setField ("worker1".toList, .ofString text) = some { r with worker1 := toValidUTF8 text } :=
  rfl

theorem setField_worker2 (text : Bytes) :
    r.setField ("worker2".toList, .ofString text) = some { r with worker2 := toValidUTF8 text } :=
  rfl

/-- The key comes back from its Base64 text. -/
theorem setField_key (key : Bytes) :
    r.setField ("key".toList, .ofBytes key) = some { r with key } := by
  show (Json.toBytes (.ofBytes key)).map _ = _
  rw [Json.toBytes_ofBytes]
  rfl

theorem setField_encrypted (encrypted : Bool) :
    r.setField ("encrypted".toList, .bool encrypted) = some { r with encrypted } :=
  rfl

/-- **What is read back** of a record that was written, -/
theorem unmarshal_of_marshal : unmarshal r.marshal = .ok r.readBack := by
  rw [unmarshal, marshal, Json.parse_render, Option.bind_some, ofJson]
  simp only [foldlM_cons, foldlM_nil, setField_worker1, setField_worker2, setField_key,
    setField_encrypted, Option.bind_eq_bind, Option.bind_some, Option.pure_def]
  rfl

end

/-- which is the record itself if its names are valid. -/
theorem readBack_eq_iff {r : ChannelRecord} :
    r.readBack = r ↔ ValidUTF8 r.worker1 ∧ ValidUTF8 r.worker2 := by
  constructor
  · intro same
    exact ⟨congrArg worker1 same, congrArg worker2 same⟩
  · rintro ⟨first, second⟩
    rw [readBack, first, second]

end ChannelRecord

namespace SecureChannel

def record (c : SecureChannel) : ChannelRecord where
  worker1 := c.worker1
  worker2 := c.worker2
  key := c.key
  encrypted := c.encrypted

/-- A channel that was read, with an empty buffer. -/
def ofRecord (r : ChannelRecord) : SecureChannel where
  worker1 := r.worker1
  worker2 := r.worker2
  key := r.key
  encrypted := r.encrypted
  messages := []

end SecureChannel

/-! ## Keys of channels -/

def colon : UInt8 := 58

def makeChannelKey (worker1 worker2 : Bytes) : Bytes :=
  if worker1 < worker2 then worker1 ++ colon :: worker2 else worker2 ++ colon :: worker1

/-- The order of the two workers does not matter, -/
theorem makeChannelKey_comm (worker1 worker2 : Bytes) :
    makeChannelKey worker1 worker2 = makeChannelKey worker2 worker1 := by
  unfold makeChannelKey
  by_cases less : worker1 < worker2
  · rw [if_pos less, if_neg (List.lt_asymm less)]
  · rw [if_neg less]
    by_cases greater : worker2 < worker1
    · rw [if_pos greater]
    · rw [if_neg greater, bytesLE_antisymm greater less]

def channelKey : Sym2 Bytes → Bytes :=
  Sym2.lift ⟨makeChannelKey, makeChannelKey_comm⟩

@[simp] theorem channelKey_mk (worker1 worker2 : Bytes) :
    channelKey s(worker1, worker2) = makeChannelKey worker1 worker2 := rfl

/-- and the lesser name comes first. -/
theorem makeChannelKey_of_le {worker1 worker2 : Bytes} (le : bytesLE worker1 worker2) :
    makeChannelKey worker1 worker2 = worker1 ++ colon :: worker2 := by
  unfold makeChannelKey
  by_cases less : worker1 < worker2
  · rw [if_pos less]
  · rw [if_neg less, bytesLE_antisymm le less]

/-- Two names can be put in order. -/
theorem exists_le (pair : Sym2 Bytes) :
    ∃ worker1 worker2, bytesLE worker1 worker2 ∧ pair = s(worker1, worker2) := by
  induction pair using Sym2.ind with
  | _ worker1 worker2 =>
    rcases bytesLE_total worker1 worker2 with le | le
    · exact ⟨worker1, worker2, le, rfl⟩
    · exact ⟨worker2, worker1, le, Sym2.eq_swap⟩

/-- Two pairs whose keys can be cut at different colons: `x` with `m:y`, and `x:m` with `y`. -/
def Ambiguous (first second : Sym2 Bytes) : Prop :=
  ∃ x m y, bytesLE x (m ++ colon :: y) ∧ bytesLE (x ++ colon :: m) y ∧
    first = s(x, m ++ colon :: y) ∧ second = s(x ++ colon :: m, y)

variable {first second : Sym2 Bytes}

/-- Ambiguous pairs share a key, -/
theorem Ambiguous.channelKey_eq (ambiguous : Ambiguous first second) :
    channelKey first = channelKey second := by
  obtain ⟨x, m, y, le, le', rfl, rfl⟩ := ambiguous
  rw [channelKey_mk, channelKey_mk, makeChannelKey_of_le le, makeChannelKey_of_le le']
  simp

/-- and are different, -/
theorem Ambiguous.ne (ambiguous : Ambiguous first second) : first ≠ second := by
  obtain ⟨x, m, y, -, le, rfl, rfl⟩ := ambiguous
  have longer : x ≠ x ++ colon :: m := by simp
  intro same
  rcases Sym2.eq_iff.mp same with ⟨equal, -⟩ | ⟨rfl, -⟩
  · exact longer equal
  · exact longer (bytesLE_antisymm le_append_left le)

/-- and **no other different pairs** share one. -/
theorem channelKey_eq_iff :
    channelKey first = channelKey second ↔
      first = second ∨ Ambiguous first second ∨ Ambiguous second first := by
  constructor
  · intro same
    obtain ⟨a, b, le, rfl⟩ := exists_le first
    obtain ⟨c, d, le', rfl⟩ := exists_le second
    rw [channelKey_mk, channelKey_mk, makeChannelKey_of_le le, makeChannelKey_of_le le'] at same
    -- the first key is cut at the first of the two colons
    have cut {a b c d m : Bytes} (le : bytesLE a b) (le' : bytesLE c d) (hc : c = a ++ m)
        (hm : colon :: b = m ++ colon :: d) :
        s(a, b) = s(c, d) ∨ Ambiguous s(a, b) s(c, d) := by
      subst hc
      cases m with
      | nil => simp [(List.cons.inj hm).2]
      | cons sep m =>
        obtain ⟨rfl, rfl⟩ := List.cons.inj hm
        exact Or.inr ⟨a, m, d, le, le', rfl, rfl⟩
    rcases append_eq_append_iff.mp same with ⟨m, hc, hm⟩ | ⟨m, ha, hm⟩
    · exact (cut le le' hc hm).imp_right Or.inl
    · exact (cut le' le ha hm).imp Eq.symm Or.inr
  · rintro (rfl | ambiguous | ambiguous)
    · rfl
    · exact ambiguous.channelKey_eq
    · exact ambiguous.channelKey_eq.symm

end Coordination

end Aristo
