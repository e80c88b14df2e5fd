import Aristo.Base.BigEndian
import Aristo.Base.Call
import Aristo.Base.GoMap

/-!
# Length-prefixed packers

The packer of the codec library is a parameter: the structure `Packer` has its operations and what
is documented of them.  Integers are big-endian and of fixed width, a string carries its length in
two bytes and a byte string in four.  A packer that is written to has room for so many bytes.  A
read with `required` set refuses a zero or empty value, and `UnpackBytes` refuses a byte string
that is longer than its limit.  The first error is kept: from then on nothing is written and every
read returns the zero value.

`Writes p fits enc` and `Yields u data value rest` are what a sequence of such operations does,
with one rule for each combinator.  `wirePacker` is a packer that satisfies the laws.
-/

namespace GoBase

open List

/-- A packer that is written to, with the number of bytes that it can still take. -/
structure Writer where
  bytes : Bytes
  room : ℕ
  err : Option GoError
deriving DecidableEq

/-- A packer that is read from: what is left of the buffer. -/
structure Reader where
  rest : Bytes
  err : Option GoError
deriving DecidableEq

abbrev Pack := StateM Writer Unit

abbrev Unpack (α : Type) := StateM Reader α

variable {α β σ ι κ : Type}

/-! ## The wire format -/

/-- The longest string that fits its length field. -/
def maxStringLen : ℕ := 65535

def encodeString (text : Bytes) : Bytes :=
  toBE 2 text.length ++ text

/-- Of a length that does not fit four bytes the lower ones are written. -/
def encodeBytes (text : Bytes) : Bytes :=
  toBE 4 text.length ++ text

/-- **A length in front frames what follows**: the text and the bytes behind it can be told
apart. -/
theorem sized_append_inj {width : ℕ} {text text' tail tail' : Bytes}
    (fits : text.length < 256 ^ width) (fits' : text'.length < 256 ^ width)
    (equal : (toBE width text.length ++ text) ++ tail =
      (toBE width text'.length ++ text') ++ tail') : text = text' ∧ tail = tail' := by
  rw [append_assoc, append_assoc] at equal
  obtain ⟨sizes, bodies⟩ := append_inj equal (by simp)
  have lengths := congrArg ofBE sizes
  rw [ofBE_toBE_of_lt fits, ofBE_toBE_of_lt fits'] at lengths
  exact append_inj bodies lengths

/-- So a string can be told from what follows. -/
theorem encodeString_append_inj {text text' tail tail' : Bytes}
    (fits : text.length ≤ maxStringLen) (fits' : text'.length ≤ maxStringLen)
    (equal : encodeString text ++ tail = encodeString text' ++ tail') : text = text' :=
  (sized_append_inj (Nat.lt_of_le_of_lt fits (by decide)) (Nat.lt_of_le_of_lt fits' (by decide))
    equal).1

theorem toNat_uint32 {n : ℕ} (fits : n < 2 ^ 32) : (UInt32.ofNat n).toNat = n := by
  simpa using fits

/-! ## Writing -/

/-- `p` appends `enc` when `fits` holds and there is room for it, and leaves an error behind
otherwise. -/
structure Writes (p : Pack) (fits : Prop) (enc : Bytes) : Prop where
  appends : ∀ bytes room, fits → enc.length ≤ room →
    p ⟨bytes, room, none⟩ = ((), ⟨bytes ++ enc, room - enc.length, none⟩)
  clean : ∀ w, (p w).2.err = none → w.err = none ∧ fits ∧ enc.length ≤ w.room

namespace Writes

variable {p q : Pack} {fits fits' : Prop} {enc enc' : Bytes}

theorem congr (h : Writes p fits enc) (same : fits ↔ fits') : Writes p fits' enc := by
  rwa [← propext same]

theorem nil : Writes (pure ()) True [] where
  appends bytes room _ _ := by
    rw [append_nil]
    rfl
  clean _ clean := ⟨clean, trivial, Nat.zero_le _⟩

theorem seq (hp : Writes p fits enc) (hq : Writes q fits' enc') :
    Writes (do p; q) (fits ∧ fits') (enc ++ enc') where
  appends bytes room both enough := by
    rw [length_append] at enough
    have first := hp.appends bytes room both.1 (by omega)
    have second := hq.appends (bytes ++ enc) (room - enc.length) both.2 (by omega)
    show (p >>= fun _ => q) ⟨bytes, room, none⟩ = _
    simp [bind, StateT.bind, first, second, Nat.sub_sub]
  clean w clean := by
    obtain ⟨middle, second, enough⟩ := hq.clean (p w).2 clean
    obtain ⟨start, first, here⟩ := hp.clean w middle
    obtain ⟨bytes, room, err⟩ := w
    obtain rfl : err = none := start
    rw [hp.appends bytes room first here] at enough
    have enough : enc'.length ≤ room - enc.length := enough
    refine ⟨rfl, ⟨first, second⟩, ?_⟩
    rw [length_append]
    show enc.length + enc'.length ≤ room
    have here : enc.length ≤ room := here
    omega

theorem forM {body : ι → Pack} {fits : ι → Prop} {encode : ι → Bytes} {items : List ι}
    (h : ∀ item ∈ items, Writes (body item) (fits item) (encode item)) :
    Writes (ForM.forM items body) (∀ item ∈ items, fits item) (items.flatMap encode) := by
  induction items with
  | nil => exact nil.congr (by simp)
  | cons item items ih =>
    obtain ⟨first, rest⟩ := forall_mem_cons.mp h
    exact (seq first (ih rest)).congr forall_mem_cons.symm

end Writes

/-! ## Reading -/

/-- `u` reads `value` from `data`, leaves `rest` and records no error. -/
def Yields (u : Unpack α) (data : Bytes) (value : α) (rest : Bytes) : Prop :=
  u ⟨data, none⟩ = (value, ⟨rest, none⟩)

/-- A read without an error. -/
theorem yields_of_clean {u : Unpack α} {data : Bytes} (clean : (u ⟨data, none⟩).2.err = none) :
    Yields u data (u ⟨data, none⟩).1 (u ⟨data, none⟩).2.rest := by
  unfold Yields
  generalize u ⟨data, none⟩ = read at clean ⊢
  obtain ⟨value, rest, err⟩ := read
  obtain rfl : err = none := clean
  rfl

/-- `u` reads the values that are `allowed`, in the encoding `enc`, and returns `zero` with an
error where there is none; after an error it returns `zero` and leaves the packer alone. -/
structure Reads (u : Unpack α) (zero : α) (enc : α → Bytes) (allowed : α → Prop) : Prop where
  failed : ∀ r, r.err ≠ none → u r = (zero, r)
  yields_iff : ∀ data value rest,
    Yields u data value rest ↔ allowed value ∧ data = enc value ++ rest
  refused : ∀ data, (u ⟨data, none⟩).2.err ≠ none → (u ⟨data, none⟩).1 = zero

/-- `codec.Packer`, with what is documented of its operations.  The limit of `UnpackBytes` is
passed on as a `uint32`. -/
structure Packer where
  packInt : UInt32 → Pack
  packUint64 : UInt64 → Pack
  packInt64 : Int64 → Pack
  packString : Bytes → Pack
  packBytes : Bytes → Pack
  unpackInt : Bool → Unpack UInt32
  unpackUint64 : Bool → Unpack UInt64
  unpackInt64 : Bool → Unpack Int64
  unpackString : Bool → Unpack Bytes
  unpackBytes : ℕ → Bool → Unpack Bytes
  writes_int : ∀ value, Writes (packInt value) True (toBE 4 value.toNat)
  writes_uint64 : ∀ value, Writes (packUint64 value) True (toBE 8 value.toNat)
  writes_int64 : ∀ value, Writes (packInt64 value) True (toBE 8 value.toUInt64.toNat)
  writes_string : ∀ text,
    Writes (packString text) (text.length ≤ maxStringLen) (encodeString text)
  writes_bytes : ∀ text, Writes (packBytes text) True (encodeBytes text)
  reads_int : ∀ required, Reads (unpackInt required) 0 (fun value => toBE 4 value.toNat)
    fun value => required = true → value ≠ 0
  reads_uint64 : ∀ required, Reads (unpackUint64 required) 0 (fun value => toBE 8 value.toNat)
    fun value => required = true → value ≠ 0
  reads_int64 : ∀ required,
    Reads (unpackInt64 required) 0 (fun value => toBE 8 value.toUInt64.toNat)
      fun value => required = true → value ≠ 0
  reads_string : ∀ required, Reads (unpackString required) [] encodeString
    fun text => text.length ≤ maxStringLen ∧ (required = true → text ≠ [])
  reads_bytes : ∀ limit required, limit < 2 ^ 32 →
    Reads (unpackBytes limit required) [] encodeBytes
      fun text => text.length ≤ limit ∧ (required = true → text ≠ [])

/-- An error that is there stays. -/
class Sticky (u : Unpack α) : Prop where
  stays : ∀ r, r.err ≠ none → (u r).2.err ≠ none

/-- Whatever is read, there is an error in the end. -/
def Rejects (u : Unpack α) : Prop :=
  ∀ r, (u r).2.err ≠ none

theorem Rejects.sticky {u : Unpack α} (rejects : Rejects u) : Sticky u :=
  ⟨fun r _ => rejects r⟩

instance sticky_pure (value : α) : Sticky (pure value) := ⟨fun _ failed => failed⟩

section

variable {u : Unpack α} {f : α → Unpack β} [second : ∀ value, Sticky (f value)]

instance sticky_bind [first : Sticky u] : Sticky (u >>= f) where
  stays r failed := (second (u r).1).stays (u r).2 (first.stays r failed)

theorem Rejects.bind (first : Rejects u) : Rejects (u >>= f) :=
  fun r => (second (u r).1).stays (u r).2 (first r)

/-- A sequence reads without an error when each part does. -/
theorem yields_bind_iff {data rest : Bytes} {result : β} :
    Yields (u >>= f) data result rest ↔
      ∃ value middle, Yields u data value middle ∧ Yields (f value) middle result rest := by
  constructor
  · intro read
    have read : f (u ⟨data, none⟩).1 (u ⟨data, none⟩).2 = (result, ⟨rest, none⟩) := read
    have clean : (u ⟨data, none⟩).2.err = none := by
      by_contra failed
      exact (second _).stays _ failed (by rw [read])
    have first := yields_of_clean clean
    refine ⟨_, _, first, ?_⟩
    rwa [first] at read
  · rintro ⟨value, middle, first, next⟩
    show f (u ⟨data, none⟩).1 (u ⟨data, none⟩).2 = _
    rw [first]
    exact next

end

theorem Rejects.bind_right {u : Unpack α} {f : α → Unpack β} (second : ∀ value, Rejects (f value)) :
    Rejects (u >>= f) :=
  fun r => second (u r).1 (u r).2

/-- Nothing is read for a value that is there. -/
@[simp] theorem yields_pure_iff {value result : α} {data rest : Bytes} :
    Yields (pure value) data result rest ↔ value = result ∧ data = rest := by
  constructor
  · intro read
    obtain ⟨same, left⟩ := Prod.mk.inj read
    exact ⟨same, congrArg Reader.rest left⟩
  · rintro ⟨rfl, rfl⟩
    rfl

namespace Reads

variable {u : Unpack α} {zero : α} {enc : α → Bytes} {allowed : α → Prop}
  (reads : Reads u zero enc allowed)

include reads

theorem sticky : Sticky u where
  stays r failed := by
    rw [reads.failed r failed]
    exact failed

/-- Either an allowed value is read, or the zero value comes with an error. -/
theorem cases (r : Reader) :
    (r.err = none ∧ ∃ value rest, allowed value ∧ r.rest = enc value ++ rest ∧
      u r = (value, ⟨rest, none⟩)) ∨ ((u r).1 = zero ∧ (u r).2.err ≠ none) := by
  obtain ⟨data, none | error⟩ := r
  swap
  · right
    rw [reads.failed _ (Option.some_ne_none error)]
    exact ⟨rfl, Option.some_ne_none error⟩
  by_cases clean : (u ⟨data, none⟩).2.err = none
  · have read := yields_of_clean clean
    obtain ⟨fine, layout⟩ := (reads.yields_iff _ _ _).mp read
    exact Or.inl ⟨rfl, _, _, fine, layout, read⟩
  · exact Or.inr ⟨reads.refused data clean, clean⟩

/-- What is read is allowed, or it is the zero value. -/
theorem fst_eq_zero (only : ∀ value, allowed value → value = zero) (r : Reader) :
    (u r).1 = zero := by
  obtain ⟨-, value, rest, fine, -, read⟩ | ⟨missing, -⟩ := reads.cases r
  · rw [read]
    exact only value fine
  · exact missing

/-- Where nothing is allowed, every read fails. -/
theorem rejects (nothing : ∀ value, ¬ allowed value) : Rejects u := by
  intro r
  obtain ⟨-, value, -, fine, -⟩ | ⟨-, failed⟩ := reads.cases r
  · exact absurd fine (nothing value)
  · exact failed

end Reads

/-! ## Loops -/

/-- `for i := 0; i < count; i++`, whether or not an error has been recorded. -/
def times : ℕ → (σ → Unpack σ) → σ → Unpack σ
  | 0, _, state => pure state
  | count + 1, body, state => do
    let state ← body state
    times count body state

instance sticky_times {body : σ → Unpack σ} [∀ state, Sticky (body state)] (count : ℕ)
    (state : σ) : Sticky (times count body state) := by
  induction count generalizing state with
  | zero => exact sticky_pure state
  | succ count ih => exact sticky_bind

theorem Rejects.times {body : σ → Unpack σ} (h : ∀ state, Rejects (body state)) {count : ℕ}
    (positive : count ≠ 0) (state : σ) : Rejects (times count body state) := by
  obtain ⟨count, rfl⟩ := Nat.exists_eq_succ_of_ne_zero positive
  have stays : ∀ state, Sticky (body state) := fun state => (h state).sticky
  exact (h state).bind

def unpackRepeated (item : Unpack ι) (count : ℕ) : Unpack (List ι) :=
  times count
    (fun items => do
      let next ← item
      return items ++ [next])
    []

instance sticky_unpackRepeated {item : Unpack ι} [Sticky item] (count : ℕ) :
    Sticky (unpackRepeated item count) :=
  sticky_times count []

/-- **Which lists are read**: those of as many items as are asked for, each of them fine and behind
the one before it. -/
theorem yields_repeated_iff {item : Unpack ι} [Sticky item] {fine : ι → Prop}
    {encode : ι → Bytes}
    (h : ∀ data value rest, Yields item data value rest ↔ fine value ∧ data = encode value ++ rest)
    {count : ℕ} {data rest : Bytes} {items : List ι} :
    Yields (unpackRepeated item count) data items rest ↔
      items.length = count ∧ (∀ value ∈ items, fine value) ∧
        data = items.flatMap encode ++ rest := by
  -- the loop appends to what it has, so that the induction is over all accumulators
  suffices loop : ∀ acc result data, Yields (times count
      (fun items => do let next ← item; return items ++ [next]) acc) data result rest ↔
        ∃ items, result = acc ++ items ∧ items.length = count ∧ (∀ value ∈ items, fine value) ∧
          data = items.flatMap encode ++ rest by
    refine (loop [] items data).trans ?_
    simp only [nil_append, exists_eq_left']
  induction count with
  | zero =>
    intro acc result data
    simp only [times, yields_pure_iff, length_eq_zero_iff]
    constructor
    · rintro ⟨rfl, rfl⟩
      exact ⟨[], by simp⟩
    · rintro ⟨_, rfl, rfl, -, rfl⟩
      simp
  | succ count ih =>
    intro acc result data
    simp only [times, ih, yields_bind_iff, yields_pure_iff, h]
    constructor
    · rintro ⟨_, _, ⟨value, _, ⟨here, rfl⟩, rfl, rfl⟩, items, rfl, rfl, later, rfl⟩
      exact ⟨value :: items, by simp, by simp, forall_mem_cons.mpr ⟨here, later⟩, by simp⟩
    · rintro ⟨items, rfl, length, all, rfl⟩
      obtain ⟨value, items, rfl⟩ := exists_cons_of_length_eq_add_one length
      obtain ⟨here, later⟩ := forall_mem_cons.mp all
      refine ⟨acc ++ [value], _, ⟨value, _, ⟨here, ?_⟩, rfl, rfl⟩, items, ?_, ?_, later, rfl⟩
      · rw [flatMap_cons, append_assoc]
      · rw [append_assoc, singleton_append]
      · simpa using length

namespace Packer

variable (P : Packer)

instance sticky_int (required : Bool) : Sticky (P.unpackInt required) :=
  (P.reads_int required).sticky

instance sticky_uint64 (required : Bool) : Sticky (P.unpackUint64 required) :=
  (P.reads_uint64 required).sticky

instance sticky_int64 (required : Bool) : Sticky (P.unpackInt64 required) :=
  (P.reads_int64 required).sticky

instance sticky_string (required : Bool) : Sticky (P.unpackString required) :=
  (P.reads_string required).sticky

instance sticky_bytes_zero (required : Bool) : Sticky (P.unpackBytes 0 required) :=
  (P.reads_bytes 0 required (by decide)).sticky

/-- **A limit of zero lets the empty byte string through and nothing else.** -/
theorem unpackBytes_zero_fst (required : Bool) (r : Reader) : (P.unpackBytes 0 required r).1 = [] :=
  (P.reads_bytes 0 required (by decide)).fst_eq_zero
    (fun _ fine => length_eq_zero_iff.mp (Nat.le_zero.mp fine.1)) r

theorem yields_bytes_zero_iff {data text rest : Bytes} :
    Yields (P.unpackBytes 0 false) data text rest ↔
      text = [] ∧ data = encodeBytes text ++ rest := by
  rw [(P.reads_bytes 0 false (by decide)).yields_iff, Nat.le_zero, length_eq_zero_iff]
  simp

/-- A required byte string with a limit of zero is never read. -/
theorem rejects_bytes_zero : Rejects (P.unpackBytes 0 true) :=
  (P.reads_bytes 0 true (by decide)).rejects fun _ fine =>
    fine.2 rfl (length_eq_zero_iff.mp (Nat.le_zero.mp fine.1))

/-- A count and then as many items, appended to a list. -/
def unpackList (item : Unpack ι) : Unpack (List ι) := do
  let count ← P.unpackInt true
  unpackRepeated item count.toNat

instance sticky_unpackList {item : Unpack ι} [Sticky item] : Sticky (P.unpackList item) :=
  sticky_bind

/-- A count and then as many entries, stored in a map. -/
def unpackMap [DecidableEq κ] (entry : Unpack (κ × α)) : Unpack (GoMap κ α) := do
  let count ← P.unpackInt true
  times count.toNat
    (fun entries => do
      let next ← entry
      return entries.insert next.1 next.2)
    ∅

/-- **A counted loop over what is never read fails**: the count is required, so that it is zero
only with an error. -/
theorem rejects_counted {body : σ → Unpack σ} (h : ∀ state, Rejects (body state)) (state : σ) :
    Rejects (do
      let count ← P.unpackInt true
      times count.toNat body state) := by
  intro r
  show (times (P.unpackInt true r).1.toNat body state (P.unpackInt true r).2).2.err ≠ none
  obtain ⟨-, count, rest, fine, -, read⟩ | ⟨-, failed⟩ := (P.reads_int true).cases r
  · rw [read]
    have positive : count.toNat ≠ 0 := fun zero => fine rfl (UInt32.toNat_inj.mp zero)
    exact Rejects.times h positive state _
  · have stays : ∀ state, Sticky (body state) := fun state => (h state).sticky
    exact (sticky_times _ state).stays _ failed

/-- Neither a list -/
theorem rejects_unpackList {item : Unpack ι} (h : Rejects item) : Rejects (P.unpackList item) :=
  P.rejects_counted (fun _ => h.bind) []

/-- nor a map can be read of what is never read. -/
theorem rejects_unpackMap [DecidableEq κ] {entry : Unpack (κ × α)} (h : Rejects entry) :
    Rejects (P.unpackMap entry) :=
  P.rejects_counted (fun _ => h.bind) ∅

end Packer

/-! ## A packer that satisfies the laws -/

def errInsufficientLength : GoError :=
  .new ⟨"wrappers", "ErrInsufficientLength"⟩ "packer has insufficient length for input"

def errInvalidInput : GoError :=
  .new ⟨"wrappers", "errInvalidInput"⟩ "packer input is invalid"

def errOversized : GoError :=
  .new ⟨"wrappers", "errOversized"⟩ "size is larger than limit"

def errFieldNotPopulated : GoError :=
  .new ⟨"codec", "ErrFieldNotPopulated"⟩ "field is not populated"

/-- Append `enc`, unless it is refused or there is no room for it. -/
def writing (refusal : Option GoError) (enc : Bytes) : Pack :=
  modify fun w =>
    match w.err, refusal with
    | some _, _ => w
    | none, some error => { w with err := some error }
    | none, none =>
      if enc.length ≤ w.room then ⟨w.bytes ++ enc, w.room - enc.length, none⟩
      else { w with err := some errInsufficientLength }

/-- What is written is appended, unless it is refused. -/
theorem writes_writing (refusal : Option GoError) (enc : Bytes) :
    Writes (writing refusal enc) (refusal = none) enc where
  appends bytes room fits enough := by
    subst fits
    show ((), if enc.length ≤ room then _ else _) = _
    rw [if_pos enough]
  clean w clean := by
    obtain ⟨bytes, room, _ | _⟩ := w
    · cases refusal with
      | some => cases clean
      | none =>
        by_cases enough : enc.length ≤ room
        · exact ⟨rfl, rfl, enough⟩
        · have kept :
              (writing none enc ⟨bytes, room, none⟩).2.err = some errInsufficientLength := by
            show (if enc.length ≤ room then _ else _ : Writer).err = _
            rw [if_neg enough]
          rw [kept] at clean
          cases clean
    · cases clean

/-- Read with `parse`, unless there is an error already.  What a failed read has consumed does not
show, since nothing is read after it. -/
def reading (zero : α) (parse : Bytes → Except GoError (α × Bytes)) : Unpack α := fun r =>
  match r.err with
  | some _ => (zero, r)
  | none =>
    match parse r.rest with
    | .ok (value, rest) => (value, ⟨rest, none⟩)
    | .error error => (zero, { r with err := some error })

/-- A reader reads what its parser accepts. -/
theorem reads_reading {zero : α} {parse : Bytes → Except GoError (α × Bytes)} {enc : α → Bytes}
    {allowed : α → Prop}
    (h : ∀ data value rest,
      parse data = .ok (value, rest) ↔ allowed value ∧ data = enc value ++ rest) :
    Reads (reading zero parse) zero enc allowed where
  failed r failed := by
    obtain ⟨data, _ | _⟩ := r
    · exact absurd rfl failed
    · rfl
  yields_iff data value rest := by
    rw [← h]
    cases parsed : parse data with
    | ok read =>
      obtain ⟨value', rest'⟩ := read
      have read : reading zero parse ⟨data, none⟩ = (value', ⟨rest', none⟩) := by
        simp only [reading, parsed]
      rw [Yields, read, Except.ok.injEq]
      show (value', (⟨rest', none⟩ : Reader)) = (value, ⟨rest, none⟩) ↔ _
      simp
    | error error =>
      refine ⟨fun read => ?_, fun read => (by cases read)⟩
      have recorded : (reading zero parse ⟨data, none⟩).2.err = some error := by
        simp only [reading, parsed]
      rw [show reading zero parse ⟨data, none⟩ = _ from read] at recorded
      cases recorded
  refused data failed := by
    cases parsed : parse data with
    | ok => simp [reading, parsed] at failed
    | error => simp [reading, parsed]

def parseFixed (count : ℕ) (data : Bytes) : Except GoError (Bytes × Bytes) :=
  if data.length < count then .error errInsufficientLength
  else .ok (data.take count, data.drop count)

/-- So many bytes are there. -/
theorem parseFixed_eq_ok_iff {count : ℕ} {data bytes rest : Bytes} :
    parseFixed count data = .ok (bytes, rest) ↔ bytes.length = count ∧ data = bytes ++ rest := by
  unfold parseFixed
  split
  · rename_i short
    refine ⟨fun read => (by cases read), ?_⟩
    rintro ⟨rfl, rfl⟩
    simp at short
  · rename_i long
    rw [Except.ok.injEq, Prod.mk.injEq]
    constructor
    · rintro ⟨rfl, rfl⟩
      exact ⟨length_take_of_le (Nat.not_lt.mp long), (take_append_drop _ _).symm⟩
    · rintro ⟨rfl, rfl⟩
      exact ⟨take_left, drop_left⟩

/-- The check of a required value. -/
def populated [DecidableEq α] (required : Bool) (zero : α) (read : α × Bytes) :
    Except GoError (α × Bytes) :=
  if required = true ∧ read.1 = zero then .error errFieldNotPopulated else .ok read

/-- A required value is not zero. -/
theorem populated_eq_ok_iff [DecidableEq α] {required : Bool} {zero value : α}
    {read : α × Bytes} {rest : Bytes} :
    populated required zero read = .ok (value, rest) ↔
      read = (value, rest) ∧ (required = true → value ≠ zero) := by
  unfold populated
  split
  · rename_i missing
    refine ⟨fun read => (by cases read), ?_⟩
    rintro ⟨rfl, present⟩
    exact absurd missing.2 (present missing.1)
  · rename_i present
    rw [Except.ok.injEq]
    refine ⟨?_, And.left⟩
    rintro rfl
    exact ⟨rfl, fun required zero => present ⟨required, zero⟩⟩

theorem toNat_lt_uint64 (value : UInt64) : value.toNat < 256 ^ 8 :=
  lt_of_lt_of_eq value.toNat_lt (by norm_num)

theorem toNat_uint64 (n : ℕ) (fits : n < 256 ^ 8) : (UInt64.ofNat n).toNat = n :=
  UInt64.toNat_ofNat_of_lt' (lt_of_lt_of_eq fits (by norm_num [UInt64.size]))

/-- A number of fixed width, as a value of a type. -/
def parseNumber [DecidableEq α] (width : ℕ) (ofNat : ℕ → α) (required : Bool) (zero : α)
    (data : Bytes) : Except GoError (α × Bytes) := do
  let (bytes, rest) ← parseFixed width data
  populated required zero (ofNat (ofBE bytes), rest)

/-- A number is read in its width. -/
theorem reads_number [DecidableEq α] (width : ℕ) (ofNat : ℕ → α) (toNat : α → ℕ)
    (bound : ∀ value, toNat value < 256 ^ width) (left : ∀ value, ofNat (toNat value) = value)
    (right : ∀ n < 256 ^ width, toNat (ofNat n) = n) (required : Bool) (zero : α) :
    Reads (reading zero (parseNumber width ofNat required zero)) zero
      (fun value => toBE width (toNat value)) fun value => required = true → value ≠ zero := by
  refine reads_reading fun data value rest => ?_
  rw [parseNumber, except_bind_eq_ok]
  simp only [populated_eq_ok_iff, Prod.exists, parseFixed_eq_ok_iff, Prod.mk.injEq]
  constructor
  · rintro ⟨bytes, _, ⟨rfl, rfl⟩, ⟨rfl, rfl⟩, present⟩
    refine ⟨present, ?_⟩
    rw [right _ (ofBE_lt bytes), toBE_ofBE]
  · rintro ⟨present, rfl⟩
    refine ⟨_, rest, ⟨length_toBE width _, rfl⟩, ⟨?_, rfl⟩, present⟩
    rw [ofBE_toBE_of_lt (bound value), left]

/-- A byte string behind its length, of at most `limit` bytes. -/
def parseSized (width limit : ℕ) (required : Bool) (data : Bytes) :
    Except GoError (Bytes × Bytes) := do
  let (size, rest) ← parseFixed width data
  refuse (limit < ofBE size) errOversized
  let (bytes, rest) ← parseFixed (ofBE size) rest
  populated required [] (bytes, rest)

/-- A byte string is read behind its length. -/
theorem reads_sized (width limit : ℕ) (bound : limit < 256 ^ width) (required : Bool) :
    Reads (reading [] (parseSized width limit required)) []
      (fun text => toBE width text.length ++ text)
      fun text => text.length ≤ limit ∧ (required = true → text ≠ []) := by
  refine reads_reading fun data value rest => ?_
  rw [parseSized, except_bind_eq_ok]
  simp only [except_bind_eq_ok, populated_eq_ok_iff, Prod.exists, parseFixed_eq_ok_iff,
    Prod.mk.injEq]
  constructor
  · rintro ⟨size, _, ⟨rfl, rfl⟩, ⟨⟩, small, bytes, _, ⟨length, rfl⟩, ⟨rfl, rfl⟩, present⟩
    have small := Nat.not_lt.mp (refuse_eq_ok.mp small)
    refine ⟨⟨length ▸ small, present⟩, ?_⟩
    rw [length, toBE_ofBE, append_assoc]
  · rintro ⟨⟨small, present⟩, rfl⟩
    have size : ofBE (toBE width value.length) = value.length :=
      ofBE_toBE_of_lt (Nat.lt_of_le_of_lt small bound)
    refine ⟨_, value ++ rest, ⟨length_toBE width _, append_assoc _ _ _⟩, (), ?_, value, rest,
      ⟨size.symm, rfl⟩, ⟨rfl, rfl⟩, present⟩
    rw [size]
    exact refuse_eq_ok.mpr (Nat.not_lt.mpr small)

/-- The packer of the codec library on the inputs of the examples: its operations, with the errors
that they record. -/
def wirePacker : Packer where
  packInt value := writing none (toBE 4 value.toNat)
  packUint64 value := writing none (toBE 8 value.toNat)
  packInt64 value := writing none (toBE 8 value.toUInt64.toNat)
  packString text :=
    writing (if maxStringLen < text.length then some errInvalidInput else none) (encodeString text)
  packBytes text := writing none (encodeBytes text)
  unpackInt required := reading 0 (parseNumber 4 UInt32.ofNat required 0)
  unpackUint64 required := reading 0 (parseNumber 8 UInt64.ofNat required 0)
  unpackInt64 required :=
    reading 0 (parseNumber 8 (fun n => (UInt64.ofNat n).toInt64) required 0)
  unpackString required := reading [] (parseSized 2 maxStringLen required)
  unpackBytes limit required := reading [] (parseSized 4 limit required)
  writes_int _ := (writes_writing none _).congr (by simp)
  writes_uint64 _ := (writes_writing none _).congr (by simp)
  writes_int64 _ := (writes_writing none _).congr (by simp)
  writes_string _ := (writes_writing _ _).congr (by simp)
  writes_bytes _ := (writes_writing none _).congr (by simp)
  reads_int required :=
    reads_number 4 UInt32.ofNat UInt32.toNat UInt32.toNat_lt (fun _ => UInt32.ofNat_toNat)
      (fun _ fits => toNat_uint32 fits) required 0
  reads_uint64 required :=
    reads_number 8 UInt64.ofNat UInt64.toNat toNat_lt_uint64 (fun _ => UInt64.ofNat_toNat)
      toNat_uint64 required 0
  reads_int64 required := by
    refine reads_number 8 (fun n => (UInt64.ofNat n).toInt64) (fun value => value.toUInt64.toNat)
      (fun value => toNat_lt_uint64 value.toUInt64) (fun value => ?_) (fun n fits => ?_) required 0
    · rw [UInt64.ofNat_toNat, Int64.toInt64_toUInt64]
    · show (UInt64.ofNat n).toInt64.toUInt64.toNat = n
      rw [UInt64.toUInt64_toInt64, toNat_uint64 n fits]
  reads_string := reads_sized 2 maxStringLen (by decide)
  reads_bytes limit required small := reads_sized 4 limit small required

end GoBase
