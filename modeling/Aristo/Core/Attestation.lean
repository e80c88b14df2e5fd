import Aristo.Base.Packer
import Aristo.Storage.Objects

/-!
# Attestations on the wire

`Marshal` and `Unmarshal` of a `core.TEEAttestation`, and its `Validate` and `Equal`.  The six
fields follow each other without separators: five byte strings, each behind its length, and the
Unix second of the timestamp.  `Unmarshal` reads the byte strings with a limit of zero, so that
it refuses what `Marshal` writes unless they are all empty (`yields_unmarshal_iff`).
-/

namespace Aristo

open GoBase

namespace TEEAttestation

/-! ## The code -/

def marshal (P : Packer) (t : TEEAttestation) : Pack := do
  P.packBytes t.enclaveID
  P.packBytes t.measurement
  P.packUint64 t.timestamp.unix.toUInt64
  P.packBytes t.data
  P.packBytes t.signature
  P.packBytes t.regionProof

def unmarshal (P : Packer) : Unpack TEEAttestation := do
  let enclaveID ← P.unpackBytes 0 false
  let measurement ← P.unpackBytes 0 false
  let epochSec ← P.unpackUint64 false
  let timestamp := Time.unixUTC epochSec.toInt64.toInt
  let data ← P.unpackBytes 0 false
  let signature ← P.unpackBytes 0 false
  let regionProof ← P.unpackBytes 0 false
  return { enclaveID, measurement, timestamp, data, signature, regionProof }

def errInvalidEnclaveID : GoError :=
  .new ⟨"core", "ErrInvalidEnclaveID"⟩ "invalid enclave ID"

def errInvalidMeasurement : GoError :=
  .new ⟨"core", "ErrInvalidMeasurement"⟩ "invalid measurement"

def errInvalidTimestamp : GoError :=
  .new ⟨"core", "ErrInvalidTimestamp"⟩ "invalid timestamp"

def errMissingSignature : GoError :=
  .new ⟨"core", "ErrMissingSignature"⟩ "missing signature"

def validate (t : TEEAttestation) : Except GoError Unit := do
  refuse (t.enclaveID = []) errInvalidEnclaveID
  refuse (t.measurement = []) errInvalidMeasurement
  refuse (t.timestamp.Equal Time.zero) errInvalidTimestamp
  refuse (t.signature = []) errMissingSignature

def Equal (t other : TEEAttestation) : Prop :=
  t.enclaveID = other.enclaveID ∧ t.measurement = other.measurement ∧
    t.timestamp.Equal other.timestamp ∧ t.data = other.data ∧
      t.signature = other.signature ∧ t.regionProof = other.regionProof

instance decidableEqual (t other : TEEAttestation) : Decidable (t.Equal other) :=
  inferInstanceAs (Decidable (_ ∧ _))

def zero : TEEAttestation :=
  { enclaveID := [], measurement := [], timestamp := Time.zero, data := [], signature := [],
    regionProof := [] }

/-! ## What is valid -/

theorem validate_eq_ok_iff (t : TEEAttestation) :
    t.validate = .ok () ↔
      t.enclaveID ≠ [] ∧ t.measurement ≠ [] ∧ ¬ t.timestamp.Equal Time.zero ∧
        t.signature ≠ [] := by
  simp only [validate, except_seq_eq_ok, refuse_eq_ok, ne_eq]

variable {t : TEEAttestation}

theorem validate_of_noSignature (named : t.enclaveID ≠ []) (measured : t.measurement ≠ [])
    (stamped : ¬ t.timestamp.Equal Time.zero) (unsigned : t.signature = []) :
    t.validate = .error errMissingSignature := by
  simp [validate, refuse, named, measured, stamped, unsigned, bind, Except.bind]

/-! ## The wire -/

/-- The byte fields that are read with a limit of zero are empty. -/
def Bare (t : TEEAttestation) : Prop :=
  t.enclaveID = [] ∧ t.measurement = [] ∧ t.data = [] ∧ t.signature = [] ∧ t.regionProof = []

instance decidableBare (t : TEEAttestation) : Decidable t.Bare :=
  inferInstanceAs (Decidable (_ ∧ _))

/-- The timestamp is a whole UTC second that has an `int64` Unix value. -/
def WholeSeconds (t : TEEAttestation) : Prop :=
  ∃ sec : Int64, t.timestamp = Time.unixUTC sec.toInt

theorem wholeSeconds_of_range {sec : ℤ} (low : -2 ^ 63 ≤ sec) (high : sec < 2 ^ 63)
    (stamp : t.timestamp = Time.unixUTC sec) : t.WholeSeconds :=
  ⟨Int64.ofInt sec, by rw [stamp, Int64.toInt_ofInt_of_le low high]⟩

def encode (t : TEEAttestation) : Bytes :=
  encodeBytes t.enclaveID ++ (encodeBytes t.measurement ++
    (toBE 8 t.timestamp.unix.toUInt64.toNat ++ (encodeBytes t.data ++
      (encodeBytes t.signature ++ encodeBytes t.regionProof))))

/-- An attestation whose fields fit the four-byte lengths and whose encoding fits the packer. -/
structure Packable (room : ℕ) (t : TEEAttestation) : Prop where
  whole : t.WholeSeconds
  enclaveID : t.enclaveID.length < 2 ^ 32
  measurement : t.measurement.length < 2 ^ 32
  data : t.data.length < 2 ^ 32
  signature : t.signature.length < 2 ^ 32
  regionProof : t.regionProof.length < 2 ^ 32
  fits : t.encode.length ≤ room

/-- The encoding determines the attestation and where it ends. -/
theorem encode_append_inj {u : TEEAttestation} {room : ℕ} {tail tail' : Bytes}
    (packable : t.Packable room) (packable' : u.Packable room)
    (equal : t.encode ++ tail = u.encode ++ tail') : t = u ∧ tail = tail' := by
  simp only [encode, List.append_assoc] at equal
  obtain ⟨enclaveID, equal⟩ := sized_append_inj packable.enclaveID packable'.enclaveID equal
  obtain ⟨measurement, equal⟩ := sized_append_inj packable.measurement packable'.measurement equal
  obtain ⟨seconds, equal⟩ := List.append_inj equal (by simp)
  obtain ⟨data, equal⟩ := sized_append_inj packable.data packable'.data equal
  obtain ⟨signature, equal⟩ := sized_append_inj packable.signature packable'.signature equal
  obtain ⟨regionProof, tails⟩ := sized_append_inj packable.regionProof packable'.regionProof equal
  obtain ⟨⟨sec, stamp⟩, ⟨sec', stamp'⟩⟩ := And.intro packable.whole packable'.whole
  refine ⟨?_, tails⟩
  have timestamp : t.timestamp = u.timestamp := by
    have numbers := congrArg ofBE seconds
    rw [ofBE_toBE_of_lt (toNat_lt_uint64 _), ofBE_toBE_of_lt (toNat_lt_uint64 _),
      UInt64.toNat_inj, stamp, stamp', Time.unix_unixUTC, Time.unix_unixUTC] at numbers
    have same := congrArg UInt64.toInt64 numbers
    rw [Int64.toInt64_toUInt64, Int64.toInt64_toUInt64] at same
    rw [stamp, stamp', same]
  cases t
  cases u
  simp_all

section

variable (P : Packer)

theorem writes_marshal (t : TEEAttestation) : Writes (marshal P t) True t.encode :=
  ((P.writes_bytes _).seq ((P.writes_bytes _).seq ((P.writes_uint64 _).seq
    ((P.writes_bytes _).seq ((P.writes_bytes _).seq (P.writes_bytes _)))))).congr
      (by simp only [and_true])

instance sticky_unmarshal : Sticky (unmarshal P) := by
  unfold unmarshal
  infer_instance

/-- **What `Unmarshal` reads**: an attestation with empty byte fields and a timestamp of whole
seconds. -/
theorem yields_unmarshal_iff {data rest : Bytes} :
    Yields (unmarshal P) data t rest ↔ (t.Bare ∧ t.WholeSeconds) ∧ data = t.encode ++ rest := by
  have seconds := (P.reads_uint64 false).yields_iff
  simp only [Bool.false_eq_true, false_imp_iff, true_and] at seconds
  simp only [unmarshal, yields_bind_iff, P.yields_bytes_zero_iff, yields_pure_iff, seconds]
  constructor
  · rintro ⟨_, _, ⟨rfl, rfl⟩, _, _, ⟨rfl, rfl⟩, sec, _, rfl, _, _, ⟨rfl, rfl⟩, _, _, ⟨rfl, rfl⟩,
      _, _, ⟨rfl, rfl⟩, rfl, rfl⟩
    refine ⟨⟨⟨rfl, rfl, rfl, rfl, rfl⟩, sec.toInt64, rfl⟩, ?_⟩
    -- the casts between `int64` and `uint64` cancel, for negative seconds too
    simp only [encode, Time.unix_unixUTC, UInt64.toUInt64_toInt64, List.append_assoc]
  · rintro ⟨⟨⟨enclaveID, measurement, data, signature, regionProof⟩, sec, stamp⟩, rfl⟩
    refine ⟨_, _, ⟨rfl, ?_⟩, _, _, ⟨rfl, rfl⟩, sec.toUInt64, _, rfl, _, _, ⟨rfl, rfl⟩, _, _,
      ⟨rfl, rfl⟩, _, _, ⟨rfl, rfl⟩, ?_, rfl⟩
    · simp only [encode, enclaveID, measurement, data, signature, regionProof, stamp,
        Time.unix_unixUTC, List.append_assoc]
    · cases t
      simp_all

/-- The bytes that `Marshal` writes to an empty packer. -/
def marshalled (room : ℕ) (t : TEEAttestation) : Bytes :=
  (marshal P t ⟨[], room, none⟩).2.bytes

theorem marshalled_eq {room : ℕ} (fits : t.encode.length ≤ room) :
    marshalled P room t = t.encode := by
  rw [marshalled, (writes_marshal P t).appends [] room trivial fits]
  rfl

/-- The attestation that `Unmarshal` makes of the output of `Marshal`. -/
def roundTrip (room : ℕ) (t : TEEAttestation) : TEEAttestation :=
  (unmarshal P ⟨marshalled P room t, none⟩).1

theorem roundTrip_enclaveID (room : ℕ) (t : TEEAttestation) : (roundTrip P room t).enclaveID = [] :=
  P.unpackBytes_zero_fst false _

/-- **The wire format of attestations.** Successive `Unmarshal` calls on the outputs of `Marshal`
return the attestations and leave the bytes behind them exactly when no attestation has a byte in
any of its byte fields. `Marshal` is injective, and none of its outputs is a proper prefix of
another. -/
theorem unmarshal_marshalled_iff (room : ℕ) (attestations : List TEEAttestation)
    (packable : ∀ t ∈ attestations, t.Packable room) :
    ((∀ trailing, unpackRepeated (unmarshal P) attestations.length
        ⟨attestations.flatMap (marshalled P room) ++ trailing, none⟩ =
          (attestations, ⟨trailing, none⟩)) ↔ ∀ t ∈ attestations, t.Bare) ∧
      Set.InjOn (marshalled P room) {t | t.Packable room} ∧
      ∀ t u : TEEAttestation, t.Packable room → u.Packable room →
        marshalled P room t <+: marshalled P room u →
          marshalled P room t = marshalled P room u := by
  have written : ∀ t : TEEAttestation, t.Packable room → marshalled P room t = t.encode :=
    fun t packable => marshalled_eq P packable.fits
  refine ⟨?_, ?_, ?_⟩
  · have outputs : attestations.flatMap (marshalled P room) = attestations.flatMap encode :=
      List.flatMap_congr fun t mem => written t (packable t mem)
    rw [outputs]
    have read : ∀ trailing, Yields (unpackRepeated (unmarshal P) attestations.length)
        (attestations.flatMap encode ++ trailing) attestations trailing ↔ _ :=
      fun trailing => yields_repeated_iff fun _ _ _ => yields_unmarshal_iff P
    constructor
    · intro returned t mem
      exact (((read []).mp (returned [])).2.1 t mem).1
    · intro bare trailing
      exact (read trailing).mpr
        ⟨rfl, fun t mem => ⟨bare t mem, (packable t mem).whole⟩, rfl⟩
  · intro t wireT u wireU same
    rw [written t wireT, written u wireU] at same
    exact (encode_append_inj wireT wireU (congrArg (· ++ []) same)).1
  · rintro t u wireT wireU ⟨tail, extends'⟩
    rw [written t wireT, written u wireU] at extends' ⊢
    rw [← List.append_nil u.encode] at extends'
    rw [(encode_append_inj wireT wireU extends').1]

end

/-- Two attestations without bytes, one of them from before 1970, come back. -/
theorem unmarshal_marshalled_bare :
    let before : TEEAttestation := ⟨[], [], Time.unixUTC (-1), [], [], []⟩
    let after : TEEAttestation := ⟨[], [], Time.unixUTC 1700000000, [], [], []⟩
    ∀ trailing, unpackRepeated (unmarshal wirePacker) 2
        ⟨[before, after].flatMap (marshalled wirePacker 64) ++ trailing, none⟩ =
      ([before, after], ⟨trailing, none⟩) := by
  intro before after
  have packable : ∀ t ∈ [before, after], t.Packable 64 := by
    simp only [List.forall_mem_cons, List.not_mem_nil, false_imp_iff, implies_true, and_true]
    exact ⟨⟨wholeSeconds_of_range (by decide) (by decide) rfl, by decide, by decide, by decide,
        by decide, by decide, by decide⟩,
      ⟨wholeSeconds_of_range (by decide) (by decide) rfl, by decide, by decide, by decide,
        by decide, by decide, by decide⟩⟩
  exact (unmarshal_marshalled_iff wirePacker 64 [before, after] packable).1.mpr (by decide)

/-- One byte of an enclave ID and the whole attestation is refused. -/
theorem unmarshal_refuses_enclaveID :
    let t : TEEAttestation := ⟨[1], [], Time.unixUTC 5, [], [], []⟩
    (marshal wirePacker t ⟨[], 64, none⟩).2.err = none ∧
      (unmarshal wirePacker ⟨marshalled wirePacker 64 t, none⟩).1 =
        ⟨[], [], Time.unixUTC 0, [], [], []⟩ ∧
      (unmarshal wirePacker ⟨marshalled wirePacker 64 t, none⟩).2.err = some errOversized := by
  decide +kernel

end TEEAttestation

end Aristo
