import Aristo.Base.BigEndian
import Aristo.Base.GoMap
import Aristo.Base.Run
import Aristo.Base.Sort
import Aristo.Base.Time
import Mathlib.Algebra.Order.Group.Abs
import Mathlib.Algebra.Order.Group.Int

/-!
# The time network

`TimeNetwork` of `timeserver/network.go` asks the servers of a region for the time, collects as many
responses as a quorum needs, and returns the time in the middle with the signatures of the servers.
`median_robust` is about the time and `quorumSafe_iff` about the signatures.

Servers are pointers: `heap` has what they point to.  The signature scheme is a parameter, and a
`Round` has the clocks, the random source, and the order in which the responses arrive.
-/

namespace Aristo

open GoBase Call List

namespace Timeserver

/-! ## Servers -/

/-- A signature scheme, in the place of ed25519. -/
structure Scheme (Private Public : Type) where
  publicKey : Private → Public
  sign : Private → Bytes → Bytes
  verify : Public → Bytes → Bytes → Bool
  correct : ∀ key message, verify (publicKey key) message (sign key message) = true

structure SignedTimestamp where
  serverID : Bytes
  time : Time
  valid : time.Valid
  signature : Bytes
  nonce : Bytes

/-- `VerificationRequest`, without the transaction that nobody reads. -/
structure VerificationRequest where
  nonce : Bytes
  regionID : Bytes

structure VerificationResponse where
  timestamp : SignedTimestamp
  serverProof : Bytes
  delay : ℤ

structure TimestampProof where
  serverID : Bytes
  signature : Bytes
  delay : ℤ
deriving DecidableEq

namespace VerificationResponse

def time (resp : VerificationResponse) : Time := resp.timestamp.time

def proof (resp : VerificationResponse) : TimestampProof where
  serverID := resp.timestamp.serverID
  signature := resp.timestamp.signature
  delay := resp.delay

end VerificationResponse

open VerificationResponse

/-- A reading of the clock of a server, with the time that the answer takes. -/
structure Reading where
  now : Time
  valid : now.Valid
  delay : ℤ

def message (time : Time) (nonce : Bytes) : Bytes :=
  putUint64 time.unixNano.toUInt64 ++ nonce

variable {Private Public : Type}

structure TimeServer (scheme : Scheme Private Public) where
  id : Bytes
  regionID : Bytes
  publicKey : Public
  privKey : Private
  keys : publicKey = scheme.publicKey privKey

variable {scheme : Scheme Private Public}

namespace TimeServer

def new (scheme : Scheme Private Public) (id regionID : Bytes) (privKey : Private) :
    TimeServer scheme where
  id := id
  regionID := regionID
  publicKey := scheme.publicKey privKey
  privKey := privKey
  keys := rfl

def answer (ts : TimeServer scheme) (reading : Reading) (nonce : Bytes) : VerificationResponse :=
  let signature := scheme.sign ts.privKey (message reading.now.utc nonce)
  { timestamp :=
      { serverID := ts.id, time := reading.now.utc, valid := reading.valid, signature, nonce }
    serverProof := signature
    delay := reading.delay }

def getTimestamp (ts : TimeServer scheme) (reading : Reading) :
    Option VerificationRequest → Except GoError VerificationResponse
  | none => .error (.plain (ascii "nil request"))
  | some req => .ok (ts.answer reading req.nonce)

end TimeServer

/-! ## The network -/

/-- `TimeNetwork`, with its servers by region. -/
structure TimeNetwork where
  servers : GoMap Bytes (List ℕ)
  quorumSize : ℤ
  maxLatency : ℤ

structure VerifiedTimestamp where
  time : Time
  proofs : List TimestampProof
  regionID : Bytes
  quorumSize : ℤ
deriving DecidableEq

namespace TimeNetwork

def new (quorumSize maxLatency : ℤ) : TimeNetwork where
  servers := ∅
  quorumSize := quorumSize
  maxLatency := maxLatency

/-! ### The time of the result -/

/-- The body of the loop of `validateResponses`, after its first round. -/
def extend (span : Time × Time) (time : Time) : Time × Time :=
  (if time.Before span.1 then time else span.1, if span.2.Before time then time else span.2)

/-- The first and the last of the times, as `validateResponses` finds them. -/
def span : List Time → Time × Time
  | [] => (Time.zero, Time.zero)
  | first :: rest => rest.foldl extend (first, first)

def validateResponses (tn : TimeNetwork) (responses : List VerificationResponse) :
    Except GoError Unit := do
  refuse ((responses.length : ℤ) < tn.quorumSize)
    (.plain (ascii "insufficient responses: got " ++ Time.signed 1 responses.length ++
      ascii ", need " ++ Time.signed 1 tn.quorumSize))
  let (minTime, maxTime) := span (responses.map time)
  let spread := maxTime.sub minTime
  refuse (spread > tn.maxLatency)
    (.plain (ascii "time spread too large: " ++ Time.durationString spread))

def createVerifiedTimestamp (sort : SliceSort Time.Before)
    (responses : List VerificationResponse) : Call TimeNetwork VerifiedTimestamp := do
  let tn ← Call.read
  Call.lift (refuse ((responses.length : ℤ) < tn.quorumSize)
    (.plain (ascii "insufficient responses for quorum")))
  let timestamps := sort.sort (responses.map time)
  match timestamps[timestamps.length / 2]? with
  | none => Call.crash
  | some medianTime =>
    match responses with
    | [] => Call.crash
    | first :: _ => return {
        time := medianTime
        proofs := responses.map proof
        -- the source takes the ID of the first server for its region
        regionID := first.timestamp.serverID
        quorumSize := tn.quorumSize }

/-- `span` has the first and the last of the times. -/
structure Spans (times : List Time) (span : Time × Time) : Prop where
  first_mem : span.1 ∈ times
  last_mem : span.2 ∈ times
  first_le : ∀ time ∈ times, span.1.rank ≤ time.rank
  le_last : ∀ time ∈ times, time.rank ≤ span.2.rank

/-- One half of `extend`: the one of two that is chosen by its rank is not above either. -/
theorem chosen_le {β : Type} [LinearOrder β] (rank : Time → β) {a b : Time} {p : Prop}
    [Decidable p] (less : p ↔ rank a < rank b) :
    ((if p then a else b) = b ∨ (if p then a else b) = a) ∧
      rank (if p then a else b) ≤ rank b ∧ rank (if p then a else b) ≤ rank a := by
  by_cases holds : p
  · rw [if_pos holds]
    exact ⟨.inr rfl, (less.mp holds).le, le_rfl⟩
  · rw [if_neg holds]
    exact ⟨.inl rfl, le_rfl, not_lt.mp fun lower => holds (less.mpr lower)⟩

theorem Spans.extend {times : List Time} {span : Time × Time} (spans : Spans times span)
    (time : Time) : Spans (times ++ [time]) (extend span time) := by
  obtain ⟨first, firstLe, firstLeTime⟩ := chosen_le Time.rank (Time.before_iff time span.1)
  obtain ⟨last, lastLe, timeLeLast⟩ :=
    chosen_le (OrderDual.toDual ∘ Time.rank) (Time.before_iff span.2 time)
  have among {old chosen : Time} (mem : old ∈ times) (either : chosen = old ∨ chosen = time) :
      chosen ∈ times ++ [time] := by
    rcases either with rfl | rfl
    · exact mem_append_left _ mem
    · exact mem_append_right _ mem_cons_self
  refine ⟨among spans.first_mem first, among spans.last_mem last, ?_, ?_⟩
  · intro other mem
    rcases mem_append.mp mem with old | new
    · exact firstLe.trans (spans.first_le other old)
    · exact mem_singleton.mp new ▸ firstLeTime
  · intro other mem
    rcases mem_append.mp mem with old | new
    · exact (spans.le_last other old).trans lastLe
    · exact mem_singleton.mp new ▸ timeLeLast

theorem spans_span {times : List Time} (nonempty : times ≠ []) : Spans times (span times) := by
  obtain ⟨first, rest, rfl⟩ := exists_cons_of_ne_nil nonempty
  -- the span of what the loop has read so far
  induction rest using List.reverseRecOn with
  | nil =>
    have only : ∀ time ∈ [first], time = first := fun time => mem_singleton.mp
    exact ⟨mem_singleton_self _, mem_singleton_self _,
      fun time mem => (only time mem ▸ le_refl _), fun time mem => (only time mem ▸ le_refl _)⟩
  | append_singleton rest time ih =>
    rw [span, foldl_append]
    exact (ih (cons_ne_nil _ _)).extend time

/-- The time in the middle. -/
def IsMedian (sort : SliceSort Time.Before) (responses : List VerificationResponse)
    (time : Time) : Prop :=
  (sort.sort (responses.map VerificationResponse.time))[responses.length / 2]? = some time

theorem createVerifiedTimestamp_eq (sort : SliceSort Time.Before) {tn : TimeNetwork}
    {responses : List VerificationResponse} (nonempty : responses ≠ [])
    (enough : tn.quorumSize ≤ responses.length) :
    ∃ vt, createVerifiedTimestamp sort responses tn = (.ok vt, tn) ∧
      IsMedian sort responses vt.time := by
  obtain ⟨first, rest, rfl⟩ := exists_cons_of_ne_nil nonempty
  have length : (sort.sort ((first :: rest).map time)).length =
      (first :: rest).length := by
    rw [(sort.sorts _).perm.length_eq, length_map]
  obtain ⟨medianTime, median⟩ : ∃ medianTime, IsMedian sort (first :: rest) medianTime := by
    refine ⟨_, List.getElem?_eq_getElem ?_⟩
    rw [length]
    exact Nat.div_lt_self (Nat.succ_pos _) (by decide)
  let vt : VerifiedTimestamp :=
    { time := medianTime
      proofs := (first :: rest).map proof
      regionID := first.timestamp.serverID
      quorumSize := tn.quorumSize }
  refine ⟨vt, ?_, median⟩
  refine (bind_of_ok (read_apply tn)).trans ?_
  refine (refuse_bind_of_not (not_lt.mpr enough)).trans ?_
  unfold IsMedian at median
  rw [length, median]
  rfl

section Median

variable {sort sort' : SliceSort Time.Before} {responses other : List VerificationResponse}
  {time time' : Time}

section

variable (median : IsMedian sort responses time)

include median

theorem IsMedian.mem :
    time ∈ responses.map VerificationResponse.time :=
  (sort.sorts _).perm.mem_iff.mp (mem_of_getElem? median)

theorem IsMedian.rank :
    ((sort.sort (responses.map VerificationResponse.time)).map Time.rank)[responses.length / 2]? =
      some time.rank := by
  unfold IsMedian at median
  rw [List.getElem?_map, median]
  rfl

/-- The instant in the middle does not depend on the order of the responses, nor on the order in
which the sort leaves equal instants. -/
theorem IsMedian.equal (median' : IsMedian sort' other time') (same : other.Perm responses) :
    time'.Equal time := by
  have ranks := (sort'.sorts _).ranks_eq (sort.sorts _) (same.map VerificationResponse.time)
    Time.before_iff
  have middle := median'.rank
  rw [ranks, same.length_eq, median.rank] at middle
  exact (Time.equal_iff _ _).mpr (Option.some.inj middle).symm

/-- No minority moves the time in the middle out of an interval. -/
theorem IsMedian.mem_interval {low high : Time} (majority : responses.length <
      2 * responses.countP fun resp => ¬ resp.time.Before low ∧ ¬ high.Before resp.time) :
    ¬ time.Before low ∧ ¬ high.Before time := by
  have sorted := sort.sorts (responses.map VerificationResponse.time)
  have length : ((sort.sort (responses.map VerificationResponse.time)).map Time.rank).length =
      responses.length := by
    rw [length_map, sorted.perm.length_eq, length_map]
  rw [Time.before_iff, Time.before_iff, not_lt, not_lt]
  refine median_mem_interval (sorted.ranks_ascend Time.before_iff) ?_ ?_
  · rw [length]
    exact median.rank
  · rw [length, (sorted.perm.map Time.rank).countP_eq, countP_map, countP_map]
    refine majority.trans_eq (congrArg (2 * ·) (countP_congr fun resp _ => ?_))
    simp only [Function.comp_apply, decide_eq_true_eq, Time.before_iff, not_lt]

end

theorem sub_le_of_validateResponses {tn : TimeNetwork}
    (accepted : tn.validateResponses responses = .ok ())
    (mem : time ∈ responses.map VerificationResponse.time)
    (mem' : time' ∈ responses.map VerificationResponse.time) : time.sub time' ≤ tn.maxLatency := by
  have spans := spans_span (ne_nil_of_mem mem)
  have valid : ∀ time ∈ responses.map VerificationResponse.time, time.Valid := by
    intro time mem
    obtain ⟨resp, -, rfl⟩ := mem_map.mp mem
    exact resp.timestamp.valid
  have spread := (except_seq_eq_ok.mp accepted).2
  rw [refuse_eq_ok, not_lt] at spread
  refine le_trans (Time.sub_le_sub_of_nanos ?_) spread
  have last := (Time.rank_le_iff (valid _ mem) (valid _ spans.last_mem)).mp
    (spans.le_last time mem)
  have first := (Time.rank_le_iff (valid _ spans.first_mem) (valid _ mem')).mp
    (spans.first_le time' mem')
  omega

end Median

/-- **Robustness of the time.** The time of at least `quorumSize` responses is one of theirs. As an
instant it depends neither on their order nor on the sort, nor as a value where the locations are
the same; it lies in every interval with more than half of the times, and within `maxLatency` of
every time that `validateResponses` accepts. -/
theorem median_robust (tn : TimeNetwork) (sort : SliceSort Time.Before)
    (responses : List VerificationResponse) (nonempty : responses ≠ [])
    (enough : tn.quorumSize ≤ responses.length) :
    ∃ vt, createVerifiedTimestamp sort responses tn = (.ok vt, tn) ∧
      vt.time ∈ responses.map time ∧
      (∀ (sort' : SliceSort Time.Before) (other : List VerificationResponse),
        other.Perm responses →
          ∃ vt', createVerifiedTimestamp sort' other tn = (.ok vt', tn) ∧
            vt'.time.Equal vt.time ∧
            ((∀ resp ∈ responses, resp.time.loc = vt.time.loc) → vt'.time = vt.time)) ∧
      (∀ low high : Time,
        responses.length <
          2 * responses.countP (fun resp => ¬ resp.time.Before low ∧ ¬ high.Before resp.time) →
        ¬ vt.time.Before low ∧ ¬ high.Before vt.time) ∧
      (tn.validateResponses responses = .ok () → ∀ resp ∈ responses,
        vt.time.sub resp.time ≤ tn.maxLatency ∧ resp.time.sub vt.time ≤ tn.maxLatency ∧
        (tn.maxLatency < 9223372036854775807 →
          |vt.time.nanos - resp.time.nanos| ≤ tn.maxLatency)) := by
  obtain ⟨vt, returned, median⟩ := createVerifiedTimestamp_eq sort nonempty enough
  refine ⟨vt, returned, median.mem, ?_, ?_, ?_⟩
  · intro sort' other same
    have nonempty' : other ≠ [] := fun empty => nonempty (empty ▸ same).nil_eq.symm
    obtain ⟨vt', returned', median'⟩ :=
      createVerifiedTimestamp_eq sort' nonempty' (same.length_eq.symm ▸ enough)
    have equal := median.equal median' same
    refine ⟨vt', returned', equal, fun located => ?_⟩
    obtain ⟨resp, mem, time⟩ := mem_map.mp median'.mem
    have loc : vt'.time.loc = vt.time.loc := time ▸ located resp (same.mem_iff.mp mem)
    exact Time.ext equal.1 equal.2 loc
  · intro low high majority
    exact median.mem_interval majority
  · intro accepted resp mem
    have mem' : resp.time ∈ responses.map VerificationResponse.time := mem_map_of_mem mem
    have after := sub_le_of_validateResponses accepted median.mem mem'
    have before := sub_le_of_validateResponses accepted mem' median.mem
    refine ⟨after, before, fun short => abs_sub_le_iff.mpr ⟨?_, ?_⟩⟩
    · exact Time.nanos_sub_le after short
    · exact Time.nanos_sub_le before short

/-- Three responses, of which one is off by an hour. -/
def threeResponses : List VerificationResponse :=
  [5, 3605, 7].map fun sec =>
    { timestamp :=
        { serverID := ascii "s", time := Time.unixUTC sec, valid := Time.valid_unixUTC sec
          signature := [], nonce := [] }
      serverProof := []
      delay := 0 }

theorem median_robust_three :
    threeResponses ≠ [] ∧ (3 : ℤ) ≤ threeResponses.length ∧
      ∃ vt, createVerifiedTimestamp (SliceSort.insertion Time.before_iff) threeResponses
          (new 3 1000) = (.ok vt, new 3 1000) ∧
        ¬ vt.time.Before (Time.unixUTC 5) ∧ ¬ (Time.unixUTC 7).Before vt.time := by
  obtain ⟨vt, returned, -, -, interval, -⟩ := median_robust (new 3 1000)
    (SliceSort.insertion Time.before_iff) threeResponses (cons_ne_nil _ _) (by decide)
  exact ⟨cons_ne_nil _ _, by decide, vt, returned,
    interval (Time.unixUTC 5) (Time.unixUTC 7) (by decide)⟩

/-! ### Asking the servers -/

def verifySignature (server : TimeServer scheme) (timestamp : SignedTimestamp) (nonce : Bytes) :
    Bool :=
  scheme.verify server.publicKey (message timestamp.time nonce) timestamp.signature

/-- What a health check depends on: the random source and the clock of the server. -/
structure HealthCheck where
  random : Except GoError Bytes
  reading : Reading

def checkServerHealth (server : TimeServer scheme) (check : HealthCheck) : Except GoError Unit := do
  let nonce ← check.random.mapError (GoError.wrap (ascii "failed to generate nonce"))
  let req := { nonce, regionID := server.regionID }
  let resp ← (server.getTimestamp check.reading (some req)).mapError
    (GoError.wrap (ascii "server health check failed"))
  refuse (¬ verifySignature server resp.timestamp nonce)
    (.plain (ascii "invalid signature in health check"))

section Heap

variable (heap : ℕ → TimeServer scheme)

/-- A server becomes the last one of a region. -/
def append (tn : TimeNetwork) (regionID : Bytes) (server : ℕ) : TimeNetwork :=
  let servers := tn.servers.get regionID ++ [server]
  { tn with servers := tn.servers.insert regionID servers }

def addServer (server : ℕ) : Call TimeNetwork Unit := do
  Call.lift (refuse ((heap server).regionID = []) (.plain (ascii "region ID required")))
  Call.modify (·.append (heap server).regionID server)

/-- A new network to which servers are added. -/
def withServers (quorumSize maxLatency : ℤ) (added : List ℕ) : TimeNetwork :=
  Call.after (addServer heap) (new quorumSize maxLatency) added

def getRegionalServers (tn : TimeNetwork) (regionID : Bytes) : List ℕ :=
  tn.servers.get regionID

/-- `findServer`, which goes through all regions in the order in which the map is visited. -/
def findServer (tn : TimeNetwork) (order : List Bytes) (serverID : Bytes) :
    Option (TimeServer scheme) :=
  ((order.flatMap tn.servers.get).map heap).find? fun server => server.id = serverID

def verifyResponse (tn : TimeNetwork) (order : List Bytes) (nonce : Bytes) :
    Option VerificationResponse → Except GoError Unit
  | none => .error (.plain (ascii "invalid response"))
  | some resp =>
    match tn.findServer heap order resp.timestamp.serverID with
    | none => .error (.plain (ascii "unknown server"))
    | some server =>
      refuse (¬ verifySignature server resp.timestamp nonce)
        (.plain (ascii "invalid signature"))

/-- The response, or the error, of the goroutine at a place is received: its clock, and the order in
which the regions are visited. -/
structure Arrival where
  place : ℕ
  reading : Reading
  order : List Bytes

/-- How the wait for responses ends when it goes on for too long. -/
inductive Ended where
  | timeout
  | cancelled (error : GoError)

def Ended.error : Ended → GoError
  | .timeout => .plain (ascii "failed to reach quorum within timeout")
  | .cancelled error => error

/-- What a call depends on besides the network.  A goroutine sends once. -/
structure Round where
  health : ℕ → HealthCheck
  random : Except GoError Bytes
  arrivals : List Arrival
  once : (arrivals.map Arrival.place).Nodup
  ended : Ended

/-- Whenever a server is looked up, the regions of the network are visited in some order. -/
def Round.Visits (round : Round) (tn : TimeNetwork) : Prop :=
  ∀ arrival ∈ round.arrivals, tn.servers.Visits arrival.order

def healthyServers (health : ℕ → HealthCheck) (servers : List ℕ) : List ℕ :=
  (servers.zipIdx.filter fun entry =>
    (checkServerHealth (heap entry.1) (health entry.2)).isOk).map Prod.fst

/-- A response that arrives and passes `verifyResponse`, with the server that it is from. -/
def accept (tn : TimeNetwork) (healthy : List ℕ) (request : VerificationRequest)
    (arrival : Arrival) : Option (ℕ × VerificationResponse) :=
  match healthy[arrival.place]? with
  | none => none
  | some server =>
    match (heap server).getTimestamp arrival.reading (some request) with
    | .error _ => none
    | .ok resp =>
      if (tn.verifyResponse heap arrival.order request.nonce (some resp)).isOk then
        some (server, resp)
      else
        none

def collect (tn : TimeNetwork) (healthy : List ℕ) (request : VerificationRequest) (ended : Ended) :
    List Arrival → List (ℕ × VerificationResponse) →
      Except GoError (List (ℕ × VerificationResponse))
  | [], collected =>
    if (collected.length : ℤ) < tn.quorumSize then .error ended.error else .ok collected
  | arrival :: arrivals, collected =>
    if (collected.length : ℤ) < tn.quorumSize then
      collect tn healthy request ended arrivals
        (collected ++ (tn.accept heap healthy request arrival).toList)
    else
      .ok collected

def getVerifiedTimestamp (sort : SliceSort Time.Before) (regionID : Bytes) (round : Round) :
    Call TimeNetwork VerifiedTimestamp := do
  let tn ← Call.read
  let servers := tn.getRegionalServers regionID
  Call.lift (refuse ((servers.length : ℤ) < tn.quorumSize)
    (.plain (ascii "insufficient servers in region")))
  let healthy := healthyServers heap round.health servers
  Call.lift (refuse ((healthy.length : ℤ) < tn.quorumSize)
    (.plain (ascii "insufficient healthy servers: got " ++ Time.signed 1 healthy.length ++
      ascii ", need " ++ Time.signed 1 tn.quorumSize)))
  let nonce ← Call.lift
    (round.random.mapError (GoError.wrap (ascii "failed to generate nonce")))
  let collected ← Call.lift
    (tn.collect heap healthy { nonce, regionID } round.ended round.arrivals [])
  let responses := collected.map Prod.snd
  Call.lift ((tn.validateResponses responses).mapError
    (GoError.wrap (ascii "response validation failed")))
  createVerifiedTimestamp sort responses

/-! ### Whose signatures they are -/

/-- The first `quorumSize` responses that pass `verifyResponse`, with the servers that they are
from. -/
def accepted (tn : TimeNetwork) (regionID nonce : Bytes) (round : Round) :
    List (ℕ × VerificationResponse) :=
  let healthy := healthyServers heap round.health (tn.getRegionalServers regionID)
  (round.arrivals.filterMap (tn.accept heap healthy { nonce, regionID })).take tn.quorumSize.toNat

/-- What the result promises about the servers that signed it. -/
structure QuorumSafe (tn : TimeNetwork) (regionID nonce : Bytes)
    (signed : List (ℕ × VerificationResponse)) (vt : VerifiedTimestamp) : Prop where
  region : vt.regionID = regionID
  quorum : tn.quorumSize ≤ signed.length
  distinct : (signed.map Prod.fst).Nodup
  members : ∀ entry ∈ signed, entry.1 ∈ tn.getRegionalServers regionID ∧
    (heap entry.1).regionID = regionID
  proofs : vt.proofs = signed.map fun entry => entry.2.proof
  signatures : ∀ entry ∈ signed, entry.2.proof.serverID = (heap entry.1).id ∧
    scheme.verify (heap entry.1).publicKey (message entry.2.time nonce) entry.2.proof.signature

/-- Every timestamp that is returned for the region is what it promises to be. -/
def AlwaysSafe (sort : SliceSort Time.Before) (tn : TimeNetwork) (regionID : Bytes) : Prop :=
  ∀ (round : Round) (nonce : Bytes) (vt : VerifiedTimestamp), round.Visits tn →
    round.random = .ok nonce → (getVerifiedTimestamp heap sort regionID round tn).1 = .ok vt →
      QuorumSafe heap tn regionID nonce (accepted heap tn regionID nonce round) vt

/-- The servers of the `AddServer` calls for a region. -/
def addedTo (added : List ℕ) (regionID : Bytes) : List ℕ :=
  added.filter fun server => (heap server).regionID = regionID ∧ regionID ≠ []

/-- The servers of a region whose answers `verifyResponse` can accept: the first of the region with
their ID. -/
def answering (servers : List ℕ) : List ℕ :=
  servers.filter fun server =>
    servers.find? (fun other => (heap other).id = (heap server).id) = some server

/-- A signature of one server does not verify under the key of another server with its ID. -/
def Separate (added : List ℕ) : Prop :=
  ∀ server ∈ added, ∀ other ∈ added, (heap server).id = (heap other).id → server ≠ other →
    ∀ text, scheme.verify (heap other).publicKey text (scheme.sign (heap server).privKey text) =
      false

variable {heap}

/-- What a server signs verifies under its own key. -/
theorem verify_answer (ts : TimeServer scheme) (reading : Reading) (nonce : Bytes) :
    scheme.verify ts.publicKey (message (ts.answer reading nonce).time nonce)
      (ts.answer reading nonce).timestamp.signature := by
  rw [ts.keys]
  exact scheme.correct _ _

/-- `AddServer` appends to the servers of one region, unless it refuses the server. -/
theorem addServer_spec (heap : ℕ → TimeServer scheme) (server : ℕ) (tn : TimeNetwork) :
    let after := (addServer heap server tn).2
    (∀ regionID, after.getRegionalServers regionID =
        tn.getRegionalServers regionID ++ addedTo heap [server] regionID) ∧
      after.quorumSize = tn.quorumSize ∧ after.maxLatency = tn.maxLatency := by
  by_cases unnamed : (heap server).regionID = []
  · have failed : addServer heap server tn = (.err _, tn) := refuse_bind_of unnamed
    rw [failed]
    refine ⟨fun regionID => ?_, rfl, rfl⟩
    have other : ¬ ((heap server).regionID = regionID ∧ regionID ≠ []) := by
      rintro ⟨rfl, named⟩
      exact named unnamed
    simp [addedTo, other]
  · have done : addServer heap server tn = (.ok (), tn.append (heap server).regionID server) :=
      refuse_bind_of_not unnamed
    rw [done]
    refine ⟨fun regionID => ?_, rfl, rfl⟩
    by_cases same : (heap server).regionID = regionID
    · subst same
      rw [addedTo, filter_cons_of_pos (by simpa using unnamed), filter_nil]
      exact GoMap.get_insert_self _ _ _
    · rw [addedTo, filter_cons_of_neg (by simp [same]), filter_nil, append_nil]
      exact GoMap.get_insert_of_ne _ _ fun equal => same equal.symm

/-- After `AddServer` calls a region has the servers that were added to it. -/
theorem withServers_spec (heap : ℕ → TimeServer scheme) (quorumSize maxLatency : ℤ)
    (added : List ℕ) :
    let tn := withServers heap quorumSize maxLatency added
    (∀ regionID, tn.getRegionalServers regionID = addedTo heap added regionID) ∧
      tn.quorumSize = quorumSize ∧ tn.maxLatency = maxLatency := by
  induction added using List.reverseRecOn with
  | nil => exact ⟨fun _ => rfl, rfl, rfl⟩
  | append_singleton added server ih =>
    obtain ⟨servers, quorum, latency⟩ := ih
    rw [withServers, after_append]
    obtain ⟨servers', quorum', latency'⟩ :=
      addServer_spec heap server (withServers heap quorumSize maxLatency added)
    refine ⟨fun regionID => ?_, quorum'.trans quorum, latency'.trans latency⟩
    refine (servers' regionID).trans ?_
    rw [servers, addedTo, addedTo, addedTo, filter_append]

theorem getRegionalServers_withServers (quorumSize maxLatency : ℤ) (added : List ℕ)
    (regionID : Bytes) :
    (withServers heap quorumSize maxLatency added).getRegionalServers regionID =
      addedTo heap added regionID :=
  (withServers_spec heap quorumSize maxLatency added).1 regionID

theorem healthyServers_sublist (health : ℕ → HealthCheck) (servers : List ℕ) :
    (healthyServers heap health servers).Sublist servers := by
  have kept : (healthyServers heap health servers).Sublist (servers.zipIdx.map Prod.fst) :=
    filter_sublist.map Prod.fst
  rwa [zipIdx_map_fst] at kept

variable {tn : TimeNetwork}

/-- A response that is accepted is the answer of the server at its place, and it verifies. -/
theorem accept_eq_some {healthy : List ℕ} {request : VerificationRequest} {arrival : Arrival}
    {entry : ℕ × VerificationResponse} (h : tn.accept heap healthy request arrival = some entry) :
    healthy[arrival.place]? = some entry.1 ∧
      entry.2 = (heap entry.1).answer arrival.reading request.nonce ∧
        (tn.verifyResponse heap arrival.order request.nonce (some entry.2)).isOk := by
  unfold accept at h
  rcases found : healthy[arrival.place]? with - | server
  · rw [found] at h
    cases h
  · rw [found] at h
    change (if _ then some (server, (heap server).answer arrival.reading request.nonce) else none) =
      some entry at h
    split at h
    · rename_i verified
      cases h
      exact ⟨rfl, rfl, verified⟩
    · cases h

/-- The loop takes the first responses that are accepted, and ends early if they are too few. -/
theorem collect_eq (healthy : List ℕ) (request : VerificationRequest) (ended : Ended)
    (arrivals : List Arrival) (collected : List (ℕ × VerificationResponse)) :
    let accepted := arrivals.filterMap (tn.accept heap healthy request)
    tn.collect heap healthy request ended arrivals collected =
      if tn.quorumSize ≤ collected.length + accepted.length then
        .ok (collected ++ accepted.take (tn.quorumSize - collected.length).toNat)
      else .error ended.error := by
  induction arrivals generalizing collected with
  | nil => by_cases missing : (collected.length : ℤ) < tn.quorumSize <;> simp [collect, missing]
  | cons arrival arrivals ih =>
    rw [collect]
    by_cases missing : (collected.length : ℤ) < tn.quorumSize
    · rw [if_pos missing, ih]
      dsimp only
      cases accepts : tn.accept heap healthy request arrival with
      | none => simp [filterMap_cons_none accepts]
      | some entry =>
        have one : (tn.quorumSize - collected.length).toNat =
            (tn.quorumSize - (collected ++ [entry]).length).toNat + 1 := by
          rw [length_append, length_singleton]
          omega
        rw [filterMap_cons_some accepts, one, take_succ_cons]
        simp [add_assoc, add_comm]
    · have none : (tn.quorumSize - collected.length).toNat = 0 := by omega
      dsimp only
      rw [if_neg missing, none, take_zero, append_nil, if_pos (by omega)]

theorem exists_of_mem_accepted {regionID nonce : Bytes} {round : Round}
    {entry : ℕ × VerificationResponse} (mem : entry ∈ accepted heap tn regionID nonce round) :
    entry.1 ∈ tn.getRegionalServers regionID ∧
      ∃ reading, entry.2 = (heap entry.1).answer reading nonce := by
  obtain ⟨arrival, -, accepts⟩ := mem_filterMap.mp (mem_of_mem_take mem)
  obtain ⟨found, equal, -⟩ := accept_eq_some accepts
  exact ⟨(healthyServers_sublist _ _).subset (mem_of_getElem? found), arrival.reading, equal⟩

theorem createVerifiedTimestamp_eq_ok {sort : SliceSort Time.Before} {after : TimeNetwork}
    {responses : List VerificationResponse} {vt : VerifiedTimestamp}
    (h : createVerifiedTimestamp sort responses tn = (.ok vt, after)) :
    ∃ first rest, responses = first :: rest ∧ vt.regionID = first.timestamp.serverID ∧
      vt.proofs = responses.map proof := by
  rw [createVerifiedTimestamp, bind_of_ok (read_apply tn)] at h
  obtain ⟨_, -, h⟩ := lift_bind_eq_ok.mp h
  let timestamps := sort.sort (responses.map time)
  rcases median : timestamps[timestamps.length / 2]? with - | medianTime
  · rw [median] at h
    cases h
  · rw [median] at h
    cases responses with
    | nil => cases h
    | cons first rest =>
      cases h
      exact ⟨first, rest, rfl, rfl, rfl⟩

/-- A call that returns has made its result from a quorum of accepted responses, and has the ID of
the server that comes first. -/
theorem getVerifiedTimestamp_eq_ok {sort : SliceSort Time.Before} {regionID nonce : Bytes}
    {round : Round} {vt : VerifiedTimestamp} (random : round.random = .ok nonce)
    (h : (getVerifiedTimestamp heap sort regionID round tn).1 = .ok vt) :
    let signed := accepted heap tn regionID nonce round
    tn.quorumSize ≤ signed.length ∧ tn.validateResponses (signed.map Prod.snd) = .ok () ∧
      vt.proofs = signed.map (fun entry => entry.2.proof) ∧
        ∃ first others, signed = first :: others ∧ vt.regionID = (heap first.1).id := by
  intro signed
  have h : getVerifiedTimestamp heap sort regionID round tn = (.ok vt, _) := Prod.ext h rfl
  rw [getVerifiedTimestamp, bind_of_ok (read_apply tn)] at h
  obtain ⟨_, -, h⟩ := lift_bind_eq_ok.mp h
  obtain ⟨_, -, h⟩ := lift_bind_eq_ok.mp h
  obtain ⟨generated, isNonce, h⟩ := lift_bind_eq_ok.mp h
  obtain rfl : generated = nonce :=
    Except.ok.inj ((mapError_eq_ok.mp isNonce).symm.trans random)
  obtain ⟨collected, loop, h⟩ := lift_bind_eq_ok.mp h
  obtain ⟨⟨⟩, validated, created⟩ := lift_bind_eq_ok.mp h
  rw [collect_eq, nil_append, length_nil, Nat.cast_zero, sub_zero, zero_add] at loop
  split at loop
  case isFalse => cases loop
  rename_i enough
  obtain rfl : signed = collected := Except.ok.inj loop
  have quorum : tn.quorumSize ≤ signed.length := by
    simp only [signed, accepted, length_take]
    omega
  obtain ⟨resp, rest, responses, region, proofs⟩ := createVerifiedTimestamp_eq_ok created
  -- the response that comes first has the ID of the first server
  obtain ⟨first, others, listed, rfl, -⟩ : ∃ first others, signed = first :: others ∧
      first.2 = resp ∧ others.map Prod.snd = rest := map_eq_cons_iff.mp responses
  refine ⟨quorum, mapError_eq_ok.mp validated, ?_, first, others, listed, ?_⟩
  · rw [proofs, map_map]
    rfl
  · obtain ⟨-, reading, equal⟩ := exists_of_mem_accepted (listed ▸ mem_cons_self : first ∈ signed)
    rw [region, equal]
    rfl

/-! ### Which answers are accepted -/

theorem mem_addedTo {added : List ℕ} {regionID : Bytes} {server : ℕ} :
    server ∈ addedTo heap added regionID ↔
      server ∈ added ∧ (heap server).regionID = regionID ∧ regionID ≠ [] := by
  simp [addedTo]

/-- Among servers with one ID only one answers. -/
theorem answering_eq {servers : List ℕ} {server other : ℕ} (mem : server ∈ answering heap servers)
    (mem' : other ∈ answering heap servers) (same : (heap server).id = (heap other).id) :
    server = other := by
  have found := of_decide_eq_true (mem_filter.mp mem).2
  rw [same, of_decide_eq_true (mem_filter.mp mem').2] at found
  exact (Option.some.inj found).symm

/-- The first server with an ID answers. -/
theorem exists_answering {servers : List ℕ} {server : ℕ} (mem : server ∈ servers) :
    ∃ first ∈ answering heap servers, (heap first).id = (heap server).id := by
  obtain ⟨first, found⟩ := Option.isSome_iff_exists.mp
    (find?_isSome (p := fun other => decide ((heap other).id = (heap server).id)).mpr
      ⟨server, mem, decide_eq_true rfl⟩)
  have same : (heap first).id = (heap server).id := by simpa using find?_some found
  refine ⟨first, mem_filter.mpr ⟨mem_of_find?_eq_some found, decide_eq_true ?_⟩, same⟩
  rw [← found, same]

variable {quorumSize maxLatency : ℤ} {added : List ℕ} {regionID nonce : Bytes} {round : Round}

/-- A server that is found under its own ID, and whose region is visited once, is the first one of
its region with this ID. -/
theorem find?_servers_of_flatMap {order : List Bytes} {server : ℕ} {p : ℕ → Bool}
    (servers : Bytes → List ℕ) (visited : order.Nodup) (listed : regionID ∈ order)
    (mem : server ∈ servers regionID) (only : ∀ other, server ∈ servers other → other = regionID)
    (found : (order.flatMap servers).find? p = some server) :
    (servers regionID).find? p = some server := by
  obtain ⟨before, after, rfl⟩ := append_of_mem listed
  have absent : regionID ∉ before := fun inside =>
    (nodup_append.mp visited).2.2 _ inside _ mem_cons_self rfl
  rw [flatMap_append, flatMap_cons, find?_append, find?_append] at found
  cases early : (before.flatMap servers).find? p with
  | some other =>
    rw [early] at found
    obtain rfl : other = server := Option.some.inj found
    obtain ⟨region, inside, there⟩ := mem_flatMap.mp (mem_of_find?_eq_some early)
    exact absurd (only region there ▸ inside) absent
  | none =>
    rw [early, Option.none_or] at found
    cases here : (servers regionID).find? p with
    | some other =>
      rw [here] at found
      exact found
    | none =>
      rw [here, Option.none_or] at found
      exact absurd (find?_some found) (find?_eq_none.mp here server mem)

theorem verifyResponse_isOk_iff {order : List Bytes} {resp : VerificationResponse} :
    (tn.verifyResponse heap order nonce (some resp)).isOk ↔
      ∃ pointer, (order.flatMap tn.servers.get).find?
          (fun pointer => (heap pointer).id = resp.timestamp.serverID) = some pointer ∧
        scheme.verify (heap pointer).publicKey (message resp.time nonce)
          resp.timestamp.signature := by
  have finds : tn.findServer heap order resp.timestamp.serverID =
      ((order.flatMap tn.servers.get).find? fun pointer =>
        (heap pointer).id = resp.timestamp.serverID).map heap := find?_map
  simp only [verifyResponse, finds]
  cases (order.flatMap tn.servers.get).find? fun pointer =>
      (heap pointer).id = resp.timestamp.serverID with
  | none => simp [Except.isOk, Except.toBool]
  | some pointer =>
    simp only [Option.map_some, Option.some.injEq, exists_eq_left']
    show (refuse (¬ scheme.verify (heap pointer).publicKey (message resp.time nonce)
      resp.timestamp.signature) _).isOk ↔ _
    by_cases verified : scheme.verify (heap pointer).publicKey (message resp.time nonce)
      resp.timestamp.signature <;> simp [refuse, verified, Except.isOk, Except.toBool]

/-- **Only a server that answers is accepted**: the server that is found under its ID has its key,
so it is the server itself. -/
theorem mem_answering_of_accept (separate : Separate heap added) {arrival : Arrival}
    {healthy : List ℕ} {entry : ℕ × VerificationResponse}
    (visits : (withServers heap quorumSize maxLatency added).servers.Visits arrival.order)
    (mem : entry.1 ∈ addedTo heap added regionID)
    (accepts : (withServers heap quorumSize maxLatency added).accept heap healthy
      { nonce, regionID } arrival = some entry) :
    entry.1 ∈ answering heap (addedTo heap added regionID) := by
  have regional : ∀ region, (withServers heap quorumSize maxLatency added).servers.get region =
      addedTo heap added region := getRegionalServers_withServers quorumSize maxLatency added
  generalize withServers heap quorumSize maxLatency added = tn at visits accepts regional
  obtain ⟨-, equal, verified⟩ := accept_eq_some accepts
  obtain ⟨pointer, found, verified⟩ := verifyResponse_isOk_iff.mp verified
  rw [equal] at found verified
  have named : (heap pointer).id = (heap entry.1).id := of_decide_eq_true (find?_some found :)
  obtain ⟨region, -, inside⟩ := mem_flatMap.mp (mem_of_find?_eq_some found)
  rw [regional] at inside
  obtain rfl : entry.1 = pointer := by
    by_contra other
    have refused := separate entry.1 (mem_addedTo.mp mem).1 pointer (mem_addedTo.mp inside).1
      named.symm other (message arrival.reading.now.utc nonce)
    exact Bool.noConfusion (refused.symm.trans verified)
  have first := find?_servers_of_flatMap tn.servers.get visits.nodup
    ((visits.mem_iff regionID).mpr (GoMap.mem_of_mem_get (regional regionID ▸ mem)))
    (regional regionID ▸ mem)
    (fun other there => (mem_addedTo.mp (regional other ▸ there)).2.1.symm.trans
      (mem_addedTo.mp mem).2.1) found
  rw [regional] at first
  exact mem_filter.mpr ⟨mem, decide_eq_true first⟩

/-- Places of a list that are all different are no more than the items there. -/
theorem length_le_countP_of_places {α : Type} {p : α → Bool} {items : List α} {places : List ℕ}
    (once : places.Nodup) (h : ∀ place ∈ places, ∃ item, items[place]? = some item ∧ p item) :
    places.length ≤ items.countP p := by
  have inside : places ⊆ (items.zipIdx.filter fun entry => p entry.1).map Prod.snd := by
    intro place mem
    obtain ⟨item, found, fine⟩ := h place mem
    exact mem_map.mpr
      ⟨(item, place), mem_filter.mpr ⟨mem_zipIdx_iff_getElem?.mpr found, fine⟩, rfl⟩
  calc places.length
    _ ≤ ((items.zipIdx.filter fun entry => p entry.1).map Prod.snd).length :=
      (once.subperm inside).length_le
    _ = (items.zipIdx.map Prod.fst).countP p := by
      rw [length_map, countP_map, countP_eq_length_filter]
      rfl
    _ = items.countP p := by rw [zipIdx_map_fst]

/-- No more answers are accepted than there are servers that answer. -/
theorem length_accepted_le (regionID nonce : Bytes) (separate : Separate heap added)
    (visits : round.Visits (withServers heap quorumSize maxLatency added)) :
    (accepted heap (withServers heap quorumSize maxLatency added) regionID nonce round).length ≤
      (answering heap (addedTo heap added regionID)).length := by
  have places : (round.arrivals.filterMap
      ((withServers heap quorumSize maxLatency added).accept heap
        (healthyServers heap round.health (addedTo heap added regionID))
          { nonce, regionID })).length ≤
      (healthyServers heap round.health (addedTo heap added regionID)).countP
        fun server => server ∈ answering heap (addedTo heap added regionID) := by
    rw [length_filterMap_eq_countP, countP_eq_length_filter, ← length_map Arrival.place]
    refine length_le_countP_of_places (round.once.sublist (filter_sublist.map Arrival.place)) ?_
    intro place listed
    obtain ⟨arrival, kept, rfl⟩ := mem_map.mp listed
    obtain ⟨mem, accepted⟩ := mem_filter.mp kept
    obtain ⟨entry, accepts⟩ := Option.isSome_iff_exists.mp accepted
    obtain ⟨found, -, -⟩ := accept_eq_some accepts
    refine ⟨entry.1, found, decide_eq_true ?_⟩
    exact mem_answering_of_accept separate (visits arrival mem)
      ((healthyServers_sublist _ _).subset (mem_of_getElem? found)) accepts
  have all : (addedTo heap added regionID).countP
      (fun server => server ∈ answering heap (addedTo heap added regionID)) =
        (answering heap (addedTo heap added regionID)).length := by
    rw [countP_eq_length_filter]
    refine congrArg length (filter_congr fun server mem => ?_)
    simp [answering, mem]
  rw [accepted, getRegionalServers_withServers]
  calc _ ≤ _ := (take_sublist _ _).length_le
    _ ≤ _ := places
    _ ≤ _ := (healthyServers_sublist _ _).countP_le
    _ = _ := all

/-! ### A round in which all clocks agree -/

def steadyReading : Reading :=
  { now := Time.unixUTC 5, valid := Time.valid_unixUTC 5, delay := 1 }

/-- Every server is healthy, and the servers answer in the order of `places`. -/
def steadyRound (order : List Bytes) (places : List ℕ) (once : places.Nodup) : Round where
  health _ := { random := .ok [1], reading := steadyReading }
  random := .ok [7]
  arrivals := places.map fun place => { place, reading := steadyReading, order }
  once := by
    rw [map_map]
    exact once.map fun _ _ => id
  ended := .timeout

/-- What a server answers there. -/
def steadyAnswer (heap : ℕ → TimeServer scheme) (server : ℕ) : ℕ × VerificationResponse :=
  (server, (heap server).answer steadyReading [7])

theorem healthyServers_steady (servers : List ℕ) :
    healthyServers heap (fun _ => { random := .ok [1], reading := steadyReading }) servers =
      servers := by
  have healthy : ∀ server, (checkServerHealth (heap server)
      { random := .ok [1], reading := steadyReading }).isOk := by
    intro server
    have verified : verifySignature (heap server)
        ((heap server).answer steadyReading [1]).timestamp [1] := verify_answer _ _ _
    show (refuse (¬ verifySignature (heap server)
      ((heap server).answer steadyReading [1]).timestamp [1]) _).isOk
    simp [refuse, verified, Except.isOk, Except.toBool]
  simp [healthyServers, healthy, zipIdx_map_fst]

theorem validateResponses_of_forall_eq {responses : List VerificationResponse} (time : Time)
    (nonempty : responses ≠ []) (enough : tn.quorumSize ≤ responses.length)
    (latency : 0 ≤ tn.maxLatency) (same : ∀ resp ∈ responses, resp.time = time) :
    tn.validateResponses responses = .ok () := by
  have spans : Spans (responses.map VerificationResponse.time) _ :=
    spans_span fun empty => nonempty (map_eq_nil_iff.mp empty)
  have only : ∀ other ∈ responses.map VerificationResponse.time, other = time := by
    intro other listed
    obtain ⟨resp, mem, rfl⟩ := mem_map.mp listed
    exact same resp mem
  refine except_seq_eq_ok.mpr ⟨refuse_eq_ok.mpr (not_lt.mpr enough), refuse_eq_ok.mpr ?_⟩
  show ¬ (span (responses.map VerificationResponse.time)).2.sub
    (span (responses.map VerificationResponse.time)).1 > tn.maxLatency
  rw [only _ spans.first_mem, only _ spans.last_mem, Time.sub_self]
  exact not_lt.mpr latency

/-- The servers that answer, with their places among the servers of the region. -/
theorem exists_places (heap : ℕ → TimeServer scheme) (servers : List ℕ) :
    ∃ entries : List (ℕ × ℕ), (∀ entry ∈ entries, servers[entry.2]? = some entry.1) ∧
      (entries.map Prod.snd).Nodup ∧ entries.map Prod.fst = answering heap servers := by
  refine ⟨servers.zipIdx.filter fun entry => entry.1 ∈ answering heap servers, ?_, ?_, ?_⟩
  · intro entry mem
    exact mem_zipIdx_iff_getElem?.mp (mem_of_mem_filter mem)
  · refine (filter_sublist.map Prod.snd).nodup ?_
    rw [zipIdx_map_snd]
    exact nodup_range'
  · have kept := filter_map (f := Prod.fst) (l := servers.zipIdx)
      (p := fun server => decide (server ∈ answering heap servers))
    rw [zipIdx_map_fst] at kept
    refine kept.symm.trans (filter_congr fun server mem => ?_)
    simp [answering, mem]

/-- **Any servers that answer can make up the quorum, in any order.** -/
theorem getVerifiedTimestamp_steady {order : List Bytes} (entries : List (ℕ × ℕ))
    (once : (entries.map Prod.snd).Nodup) (sort : SliceSort Time.Before)
    (listed : ∀ entry ∈ entries, (tn.getRegionalServers regionID)[entry.2]? = some entry.1)
    (answers : ∀ entry ∈ entries, (order.flatMap tn.servers.get).find?
      (fun pointer => (heap pointer).id = (heap entry.1).id) = some entry.1)
    (one : 1 ≤ tn.quorumSize) (latency : 0 ≤ tn.maxLatency)
    (enough : tn.quorumSize ≤ entries.length) :
    accepted heap tn regionID [7] (steadyRound order (entries.map Prod.snd) once) =
        (entries.map fun entry => steadyAnswer heap entry.1).take tn.quorumSize.toNat ∧
      ∃ vt, (getVerifiedTimestamp heap sort regionID
        (steadyRound order (entries.map Prod.snd) once) tn).1 = .ok vt := by
  set round := steadyRound order (entries.map Prod.snd) once with steady
  have accepts : round.arrivals.filterMap
      (tn.accept heap (tn.getRegionalServers regionID) { nonce := [7], regionID }) =
        entries.map fun entry => steadyAnswer heap entry.1 := by
    simp only [steady, steadyRound, map_map, filterMap_map]
    rw [← filterMap_eq_map]
    refine filterMap_congr fun entry mem => ?_
    have verified : (tn.verifyResponse heap order [7]
        (some ((heap entry.1).answer steadyReading [7]))).isOk :=
      verifyResponse_isOk_iff.mpr ⟨entry.1, answers entry mem, verify_answer _ _ _⟩
    simp only [Function.comp_apply, accept, listed entry mem, TimeServer.getTimestamp]
    exact if_pos verified
  have healthy : healthyServers heap round.health (tn.getRegionalServers regionID) =
      tn.getRegionalServers regionID := healthyServers_steady _
  refine ⟨by rw [accepted, healthy, accepts], ?_⟩
  have servers : entries.length ≤ (tn.getRegionalServers regionID).length := by
    rw [← length_map Prod.snd]
    refine (length_le_countP_of_places (p := fun _ => true) once fun place mem => ?_).trans
      countP_le_length
    obtain ⟨entry, kept, rfl⟩ := mem_map.mp mem
    exact ⟨entry.1, listed entry kept, rfl⟩
  let collected := (entries.map fun entry => steadyAnswer heap entry.1).take tn.quorumSize.toNat
  have loop : tn.collect heap (tn.getRegionalServers regionID) { nonce := [7], regionID } .timeout
      round.arrivals [] = .ok collected := by
    rw [collect_eq, accepts, length_map, length_nil, Nat.cast_zero, zero_add, sub_zero,
      if_pos enough]
    rfl
  have quorum : tn.quorumSize ≤ (collected.map Prod.snd).length := by
    rw [length_map, length_take, length_map]
    omega
  have nonempty : collected.map Prod.snd ≠ [] := by
    intro empty
    rw [empty] at quorum
    exact absurd (one.trans quorum) (by decide)
  have validated := validateResponses_of_forall_eq steadyReading.now.utc nonempty quorum latency
    fun resp mem => by
      obtain ⟨entry, kept, rfl⟩ := mem_map.mp mem
      obtain ⟨source, -, rfl⟩ := mem_map.mp (mem_of_mem_take kept)
      rfl
  obtain ⟨vt, created, -⟩ := createVerifiedTimestamp_eq sort nonempty quorum
  refine ⟨vt, ?_⟩
  have fewer : ¬ ((tn.getRegionalServers regionID).length : ℤ) < tn.quorumSize := by
    omega
  have returns : getVerifiedTimestamp heap sort regionID round tn = (.ok vt, tn) := by
    refine (bind_of_ok (read_apply tn)).trans ((refuse_bind_of_not fewer).trans ?_)
    simp only [healthy]
    refine (refuse_bind_of_not fewer).trans ((lift_bind_of_ok rfl).trans
      ((lift_bind_of_ok loop).trans
        ((lift_bind_of_ok (mapError_eq_ok.mpr validated)).trans created)))
  rw [returns]

/-- In a network that is always safe, the quorum that some servers make up is safe, and the result
has the ID of the first. -/
theorem AlwaysSafe.of_perm {sort : SliceSort Time.Before} {entries chosen : List (ℕ × ℕ)}
    (safe : AlwaysSafe heap sort tn regionID)
    (listed : ∀ entry ∈ entries, (tn.getRegionalServers regionID)[entry.2]? = some entry.1)
    (once : (entries.map Prod.snd).Nodup)
    (all : entries.map Prod.fst = answering heap (tn.getRegionalServers regionID))
    (perm : chosen.Perm entries) (one : 1 ≤ tn.quorumSize) (latency : 0 ≤ tn.maxLatency)
    (enough : tn.quorumSize ≤ entries.length) :
    ∃ vt, QuorumSafe heap tn regionID [7]
        ((chosen.map fun entry => steadyAnswer heap entry.1).take tn.quorumSize.toNat) vt ∧
      ∃ first others, (chosen.map fun entry => steadyAnswer heap entry.1).take
        tn.quorumSize.toNat = first :: others ∧ vt.regionID = (heap first.1).id := by
  have answers : ∀ entry ∈ chosen, entry.1 ∈ answering heap (tn.getRegionalServers regionID) :=
    fun entry mem => all ▸ mem_map_of_mem (perm.mem_iff.mp mem)
  have many : tn.quorumSize ≤ chosen.length := by rwa [perm.length_eq]
  -- the region is visited first, so that its servers are found under their IDs
  obtain ⟨server, mem⟩ := exists_mem_of_length_pos (by omega : 0 < chosen.length)
  have there : regionID ∈ tn.servers :=
    GoMap.mem_of_mem_get (mem_of_mem_filter (answers server mem))
  obtain ⟨order, visits⟩ := GoMap.exists_visits tn.servers
  have found : ∀ entry ∈ chosen, ((regionID :: order.erase regionID).flatMap tn.servers.get).find?
      (fun pointer => (heap pointer).id = (heap entry.1).id) = some entry.1 := by
    intro entry mem
    have first : (tn.servers.get regionID).find? _ = some entry.1 :=
      of_decide_eq_true (mem_filter.mp (answers entry mem)).2
    rw [flatMap_cons, find?_append, first]
    rfl
  obtain ⟨accepts, vt, returned⟩ := getVerifiedTimestamp_steady chosen
    ((perm.map Prod.snd).nodup_iff.mpr once) sort
    (fun entry mem => listed entry (perm.mem_iff.mp mem)) found one latency many
  obtain ⟨-, -, -, first, others, isFirst, region⟩ := getVerifiedTimestamp_eq_ok rfl returned
  rw [← accepts]
  refine ⟨vt, safe _ [7] vt (fun arrival mem => ?_) rfl returned, first, others, isFirst, region⟩
  obtain ⟨place, -, rfl⟩ := mem_map.mp mem
  exact visits.first there

/-- A network that is always safe has a quorum of one, and servers with the ID of the region. -/
theorem AlwaysSafe.own {sort : SliceSort Time.Before} (safe : AlwaysSafe heap sort tn regionID)
    (one : 1 ≤ tn.quorumSize) (latency : 0 ≤ tn.maxLatency)
    (enough : tn.quorumSize ≤ (answering heap (tn.getRegionalServers regionID)).length) :
    tn.quorumSize = 1 ∧
      ∀ server ∈ tn.getRegionalServers regionID, (heap server).id = regionID := by
  obtain ⟨entries, listed, once, all⟩ := exists_places heap (tn.getRegionalServers regionID)
  rw [← all, length_map] at enough
  have own : ∀ entry ∈ entries, (heap entry.1).id = regionID := by
    intro entry mem
    obtain ⟨vt, promised, first, others, isFirst, region⟩ :=
      safe.of_perm listed once all (perm_cons_erase mem).symm one latency enough
    obtain ⟨count, succ⟩ := Nat.exists_eq_succ_of_ne_zero (by omega : tn.quorumSize.toNat ≠ 0)
    rw [succ, map_cons, take_succ_cons] at isFirst
    cases isFirst
    rw [← promised.region, region]
    rfl
  have named : ∀ server ∈ answering heap (tn.getRegionalServers regionID),
      (heap server).id = regionID := by
    intro server answers
    obtain ⟨entry, mem, rfl⟩ := mem_map.mp (all ▸ answers)
    exact own entry mem
  refine ⟨?_, fun server mem => ?_⟩
  · -- one server has the ID, and more than one of its answers would be taken
    obtain ⟨vt, promised, -⟩ := safe.of_perm listed once all (Perm.refl entries) one latency enough
    have distinct := promised.distinct
    rw [← map_take, map_map, show Prod.fst ∘ (fun entry : ℕ × ℕ => steadyAnswer heap entry.1) =
      Prod.fst from rfl, map_take, all] at distinct
    have single : ((answering heap (tn.getRegionalServers regionID)).take
        tn.quorumSize.toNat).length ≤ 1 := by
      rw [← toFinset_card_of_nodup distinct, Finset.card_le_one]
      intro server mem other mem'
      have answers := mem_of_mem_take (mem_toFinset.mp mem)
      have answers' := mem_of_mem_take (mem_toFinset.mp mem')
      exact answering_eq answers answers' ((named server answers).trans (named other answers').symm)
    rw [length_take, ← all, length_map] at single
    omega
  · obtain ⟨first, answers, same⟩ := exists_answering mem
    rw [← same, named first answers]

/-- With a quorum of one and the ID of the region, the result is what it promises to be. -/
theorem quorumSafe_of_own {sort : SliceSort Time.Before} {vt : VerifiedTimestamp}
    (random : round.random = .ok nonce)
    (returned : (getVerifiedTimestamp heap sort regionID round
      (withServers heap 1 maxLatency added)).1 = .ok vt)
    (own : ∀ server ∈ addedTo heap added regionID, (heap server).id = regionID) :
    QuorumSafe heap (withServers heap 1 maxLatency added) regionID nonce
      (accepted heap (withServers heap 1 maxLatency added) regionID nonce round) vt := by
  obtain ⟨quorum, -, proofs, first, others, listed, region⟩ :=
    getVerifiedTimestamp_eq_ok random returned
  have answers : ∀ entry ∈ accepted heap (withServers heap 1 maxLatency added) regionID nonce round,
      entry.1 ∈ addedTo heap added regionID ∧
        ∃ reading, entry.2 = (heap entry.1).answer reading nonce := by
    intro entry mem
    have answered := exists_of_mem_accepted mem
    rwa [getRegionalServers_withServers] at answered
  refine ⟨?_, quorum, ?_, ?_, proofs, ?_⟩
  · rw [region, own first.1 (answers first (listed ▸ mem_cons_self)).1]
  · have short : (accepted heap (withServers heap 1 maxLatency added) regionID nonce
        round).length ≤ 1 := by
      refine (length_take_le _ _).trans_eq ?_
      rw [(withServers_spec heap 1 maxLatency added).2.1]
      rfl
    rw [listed] at short
    obtain rfl : others = [] :=
      length_eq_zero_iff.mp (Nat.le_zero.mp (Nat.le_of_succ_le_succ short))
    rw [listed]
    exact nodup_singleton _
  · intro entry mem
    have member := (answers entry mem).1
    rw [getRegionalServers_withServers]
    exact ⟨member, (mem_addedTo.mp member).2.1⟩
  · intro entry mem
    obtain ⟨-, reading, equal⟩ := answers entry mem
    rw [equal]
    exact ⟨rfl, verify_answer _ _ _⟩

/-- **Which networks are safe in every round.** Every timestamp that is returned for a region is
what it promises to be exactly when none can be returned, or the quorum is one and every server of
the region has the ID of the region. With a larger quorum either two IDs are there, and the result
can have the wrong one, or one server is asked twice. -/
theorem quorumSafe_iff (heap : ℕ → TimeServer scheme) (quorumSize maxLatency : ℤ)
    (added : List ℕ) (sort : SliceSort Time.Before) (regionID : Bytes)
    (separate : Separate heap added) :
    AlwaysSafe heap sort (withServers heap quorumSize maxLatency added) regionID ↔
      (1 ≤ quorumSize → 0 ≤ maxLatency →
        quorumSize ≤ (answering heap (addedTo heap added regionID)).length →
          quorumSize = 1 ∧
            ∀ server ∈ addedTo heap added regionID, (heap server).id = regionID) := by
  obtain ⟨-, quorumIs, latencyIs⟩ := withServers_spec heap quorumSize maxLatency added
  constructor
  · intro safe one latency enough
    have own := safe.own (by rwa [quorumIs]) (by rwa [latencyIs])
      (by rwa [quorumIs, getRegionalServers_withServers])
    rwa [quorumIs, getRegionalServers_withServers] at own
  · intro condition round nonce vt visits random returned
    obtain ⟨quorum, validated, -, first, others, listed, -⟩ :=
      getVerifiedTimestamp_eq_ok random returned
    have mem : first ∈ accepted heap (withServers heap quorumSize maxLatency added) regionID nonce
      round := listed ▸ mem_cons_self
    have short := (length_pos_of_mem mem).trans_le (length_take_le _ _)
    have counted := length_accepted_le regionID nonce separate visits
    have stamped := mem_map_of_mem (f := time)
      (mem_map_of_mem (f := Prod.snd) mem)
    have latency := sub_le_of_validateResponses validated stamped stamped
    rw [Time.sub_self, latencyIs] at latency
    rw [quorumIs] at quorum short
    obtain ⟨rfl, own⟩ := condition (by omega) latency (quorum.trans (by exact_mod_cast counted))
    exact quorumSafe_of_own random returned own

end Heap

/-! ### Two regions -/

/-- A scheme whose signatures are the key and the message. -/
def appendScheme : Scheme Bytes Bytes where
  publicKey := id
  sign key message := key ++ message
  verify key message signature := signature = key ++ message
  correct _ _ := decide_eq_true rfl

/-- The servers of a region `r`: those with an even number have the ID of the region, the others do
not. -/
def regionR (server : ℕ) : TimeServer appendScheme :=
  let id := if server % 2 = 0 then ascii "r" else ascii "s"
  .new appendScheme id (ascii "r") [server.toUInt8]

theorem separate_regionR {added : List ℕ} (small : ∀ server ∈ added, server < 256) :
    Separate regionR added := by
  intro server mem other mem' _ different text
  refine decide_eq_false fun equal => different ?_
  have keys : server.toUInt8 = other.toUInt8 :=
    (cons.inj (append_cancel_right (equal : [server.toUInt8] ++ text = [other.toUInt8] ++ text))).1
  have numbers := congrArg UInt8.toNat keys
  simpa [Nat.mod_eq_of_lt (small server mem), Nat.mod_eq_of_lt (small other mem')] using numbers

/-- All clocks agree, and the servers answer in the order of their places. -/
def roundR (servers : ℕ) : Round :=
  steadyRound [ascii "r"] (List.range servers) nodup_range

/-- Two servers with the ID of the region and a quorum of one are always safe, two servers with two
IDs and a quorum of two are not. -/
theorem quorumSafe_iff_regionR :
    let sort := SliceSort.insertion Time.before_iff
    AlwaysSafe regionR sort (withServers regionR 1 1000 [0, 2, 0]) (ascii "r") ∧
      ¬ AlwaysSafe regionR sort (withServers regionR 2 1000 [0, 1]) (ascii "r") := by
  intro sort
  refine ⟨(quorumSafe_iff regionR 1 1000 [0, 2, 0] sort (ascii "r")
    (separate_regionR (by decide))).mpr fun _ _ _ => ⟨rfl, by decide⟩, fun safe => ?_⟩
  have own := (quorumSafe_iff regionR 2 1000 [0, 1] sort (ascii "r")
    (separate_regionR (by decide))).mp safe (by decide) (by decide) (by decide)
  exact absurd own.1 (by decide)

theorem not_quorumSafe_otherID_twice :
    (withServers regionR 1 1000 [1]).servers.Visits [ascii "r"] ∧
      (∃ vt, (getVerifiedTimestamp regionR (SliceSort.insertion Time.before_iff) (ascii "r")
          (roundR 1) (withServers regionR 1 1000 [1])).1 = .ok vt ∧ vt.regionID = ascii "s" ∧
        ¬ QuorumSafe regionR (withServers regionR 1 1000 [1]) (ascii "r") [7]
          (accepted regionR (withServers regionR 1 1000 [1]) (ascii "r") [7] (roundR 1)) vt) ∧
      (withServers regionR 2 1000 [0, 0]).servers.Visits [ascii "r"] ∧
      ∃ vt, (getVerifiedTimestamp regionR (SliceSort.insertion Time.before_iff) (ascii "r")
          (roundR 2) (withServers regionR 2 1000 [0, 0])).1 = .ok vt ∧
        (accepted regionR (withServers regionR 2 1000 [0, 0]) (ascii "r") [7]
          (roundR 2)).map Prod.fst = [0, 0] ∧
        ¬ QuorumSafe regionR (withServers regionR 2 1000 [0, 0]) (ascii "r") [7]
          (accepted regionR (withServers regionR 2 1000 [0, 0]) (ascii "r") [7] (roundR 2)) vt := by
  refine ⟨⟨nodup_singleton _, fun key => ?_⟩, ⟨_, rfl, rfl, fun safe => ?_⟩,
    ⟨nodup_singleton _, fun key => ?_⟩, _, rfl, rfl, fun safe => ?_⟩
  · change _ ↔ key ∈ Finmap.insert (ascii "r") [1] ∅
    simp [Finmap.mem_insert, Finmap.notMem_empty]
  · exact absurd safe.region (by decide)
  · change _ ↔ key ∈ Finmap.insert (ascii "r") [0, 0] (Finmap.insert (ascii "r") [0] ∅)
    simp [Finmap.mem_insert, Finmap.notMem_empty]
  · have distinct := safe.distinct
    exact absurd distinct (by decide)

end TimeNetwork

end Timeserver

end Aristo
