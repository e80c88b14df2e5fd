import Aristo.Actions.Shuttle

/-!
# The code validator

`CodeValidator` of `vm/code_validator.go` checks a program before it is sent to the enclaves: a
header of sixteen bytes names a format and a kind of enclave, and a validator that is registered for
the format checks what follows.

The header starts with `\x00SHUTTLE`, and `CreateObjectAction.Execute` refuses code that starts with
a zero byte, so what the validator accepts can never be deployed (`accepted_deployable_iff`).
-/

namespace Aristo

open GoBase Call List

namespace Vm

/-! ## Errors and constants -/

def errInvalidFormat : GoError := .new ⟨"vm", "ErrInvalidFormat"⟩ "invalid code format"

def errUnsupportedFormat : GoError :=
  .new ⟨"vm", "ErrUnsupportedFormat"⟩ "unsupported code format"

def errMalformedCode : GoError := .new ⟨"vm", "ErrMalformedCode"⟩ "malformed code"

def errCodeTooLarge : GoError := .new ⟨"vm", "ErrCodeTooLarge"⟩ "code exceeds size limit"

def errInvalidHeader : GoError := .new ⟨"vm", "ErrInvalidHeader"⟩ "invalid code header"

def errInvalidTEEFormat : GoError :=
  .new ⟨"vm", "ErrInvalidTEEFormat"⟩ "code format not supported by TEE"

def errInvalidTEEType : GoError := .new ⟨"vm", "ErrInvalidTEEType"⟩ "invalid TEE type"

def teeTypeSGX : UInt8 := 1

def teeTypeSEV : UInt8 := 2

def formatRaw : UInt8 := 1

def formatWasm : UInt8 := 2

def formatCustom : UInt8 := 3

def headerMagic : Bytes := 0 :: ascii "SHUTTLE"

def headerSize : ℕ := 16

/-! ## The validator -/

/-- The `Validate` method of a `FormatValidator`; `ValidateForTEE` is never called. -/
abbrev FormatValidator := Bytes → Except GoError Unit

def rawValidator : FormatValidator := fun code =>
  refuse (code.length = 0) errMalformedCode

/-- The start of a WebAssembly module. -/
def wasmMagic : Bytes := [0x00, 0x61, 0x73, 0x6D, 0x01, 0x00, 0x00, 0x00]

def wasmValidator : FormatValidator := fun code => do
  refuse (code.length < wasmMagic.length) errMalformedCode
  refuse (code.take wasmMagic.length ≠ wasmMagic) errInvalidFormat

/-- `CustomValidator`: a table whose size stands in front of it, in little-endian order. -/
def customValidator : FormatValidator := fun code => do
  refuse (code.length < 4) errMalformedCode
  let tableSize := ofBE (code.take 4).reverse
  refuse (code.length < tableSize + 4) errMalformedCode

structure CodeHeader where
  format : UInt8
  version : UInt8
  teeType : UInt8
  reserved : Bytes

/-- The header of code that is long enough. -/
def CodeHeader.read (code : Bytes) : CodeHeader where
  format := code.getD 8 0
  version := code.getD 9 0
  teeType := code.getD 10 0
  reserved := (code.drop 11).take 5

structure CodeValidator where
  maxSize : UInt64
  formats : KeyValue UInt8 FormatValidator
  teeFormats : KeyValue UInt8 (List UInt8)

namespace CodeValidator

def registerFormat (cv : CodeValidator) (format : UInt8) (validator : FormatValidator) :
    CodeValidator :=
  { cv with formats := cv.formats.insert format validator }

def registerTEEFormat (cv : CodeValidator) (teeType : UInt8) (formats : List UInt8) :
    CodeValidator :=
  { cv with teeFormats := cv.teeFormats.insert teeType formats }

def new (maxSize : UInt64) : CodeValidator :=
  ({ maxSize, formats := fun _ => none, teeFormats := fun _ => none } : CodeValidator)
    |>.registerFormat formatRaw rawValidator
    |>.registerFormat formatWasm wasmValidator
    |>.registerFormat formatCustom customValidator
    |>.registerTEEFormat teeTypeSGX [formatWasm]
    |>.registerTEEFormat teeTypeSEV [formatWasm, formatCustom]

def isValidTEEType (teeType : UInt8) : Bool :=
  teeType = teeTypeSGX || teeType = teeTypeSEV

def isFormatSupportedByTEE (cv : CodeValidator) (format teeType : UInt8) : Bool :=
  match cv.teeFormats teeType with
  | none => false
  | some formats => formats.contains format

def validateCode (cv : CodeValidator) (code : Bytes) : Except GoError Unit := do
  refuse (cv.maxSize.toNat < code.length) errCodeTooLarge
  refuse (code.length < headerSize) errInvalidHeader
  refuse (code.take 8 ≠ headerMagic) errInvalidHeader
  let header := CodeHeader.read code
  refuse (¬ isValidTEEType header.teeType) errInvalidTEEType
  refuse (¬ cv.isFormatSupportedByTEE header.format header.teeType) errInvalidTEEFormat
  match cv.formats header.format with
  | none => .error errUnsupportedFormat
  | some validator => validator (code.drop headerSize)

/-- The programs that a validator accepts. -/
structure WellFormed (cv : CodeValidator) (code : Bytes) : Prop where
  size : code.length ≤ cv.maxSize.toNat
  header : headerSize ≤ code.length
  magic : code.take 8 = headerMagic
  teeType : isValidTEEType (CodeHeader.read code).teeType = true
  format : cv.isFormatSupportedByTEE (CodeHeader.read code).format
    (CodeHeader.read code).teeType = true
  body : ∃ validator, cv.formats (CodeHeader.read code).format = some validator ∧
    validator (code.drop headerSize) = .ok ()

/-- The checks of a validator. -/
theorem validateCode_eq_ok_iff (cv : CodeValidator) (code : Bytes) :
    cv.validateCode code = .ok () ↔ cv.WellFormed code := by
  unfold validateCode
  simp only [except_seq_eq_ok, refuse_eq_ok, not_lt, not_not]
  constructor
  · rintro ⟨size, header, magic, teeType, format, body⟩
    refine ⟨size, header, magic, teeType, format, ?_⟩
    cases registered : cv.formats (CodeHeader.read code).format with
    | none =>
      rw [registered] at body
      cases body
    | some validator =>
      rw [registered] at body
      exact ⟨validator, rfl, body⟩
  · rintro ⟨size, header, magic, teeType, format, validator, registered, body⟩
    refine ⟨size, header, magic, teeType, format, ?_⟩
    rw [registered]
    exact body

def createCode (format version teeType : UInt8) (code : Bytes) : Bytes :=
  headerMagic ++ [format, version, teeType] ++ List.replicate 5 0 ++ code

/-! ## Run-time checks

The same functions with the index and slice expressions of the source, which panic out of
range. -/

section Checks

variable {σ : Type}

def validateRaw (code : Bytes) : Call σ Unit :=
  Call.lift (refuse (code.length = 0) errMalformedCode)

def validateWasm (code : Bytes) : Call σ Unit := do
  Call.lift (refuse (code.length < wasmMagic.length) errMalformedCode)
  let start ← Call.slice code 0 wasmMagic.length
  Call.lift (refuse (start ≠ wasmMagic) errInvalidFormat)

/-- `binary.LittleEndian.Uint32`, which looks at the last byte first. -/
def littleEndianUint32 (b : Bytes) : Call σ UInt32 := do
  let b3 ← Call.index b 3
  let b0 ← Call.index b 0
  let b1 ← Call.index b 1
  let b2 ← Call.index b 2
  return b0.toUInt32 ||| b1.toUInt32 <<< 8 ||| b2.toUInt32 <<< 16 ||| b3.toUInt32 <<< 24

/-- `CustomValidator.Validate`.  The sum is that of the 64 bits of an `int`. -/
def validateCustom (code : Bytes) : Call σ Unit := do
  Call.lift (refuse (code.length < 4) errMalformedCode)
  let start ← Call.slice code 0 4
  let tableSize ← littleEndianUint32 start
  Call.lift (refuse ((code.length : ℤ) < Int.bmod (tableSize.toNat + 4) (2 ^ 64)) errMalformedCode)

/-- The validators that `NewCodeValidator` registers. -/
def validators : KeyValue UInt8 (Bytes → Call σ Unit) :=
  KeyValue.insert (KeyValue.insert (KeyValue.insert (fun _ => none) formatRaw validateRaw)
    formatWasm validateWasm) formatCustom validateCustom

/-- `ValidateCode` of a new validator. -/
def validate (maxSize : UInt64) (code : Bytes) : Call σ Unit := do
  Call.lift (refuse (maxSize.toNat < code.length) errCodeTooLarge)
  Call.lift (refuse (code.length < headerSize) errInvalidHeader)
  let magic ← Call.slice code 0 8
  Call.lift (refuse (magic ≠ headerMagic) errInvalidHeader)
  let format ← Call.index code 8
  let version ← Call.index code 9
  let teeType ← Call.index code 10
  let reserved ← Call.slice code 11 16
  let header : CodeHeader := { format, version, teeType, reserved }
  Call.lift (refuse (¬ isValidTEEType header.teeType) errInvalidTEEType)
  Call.lift (refuse (¬ (new maxSize).isFormatSupportedByTEE header.format header.teeType)
    errInvalidTEEFormat)
  match validators header.format with
  | none => Call.fail errUnsupportedFormat
  | some validator => do
    let body ← Call.slice code headerSize code.length
    validator body

/-- Behind the length the slice is in range. -/
theorem validateWasm_eq (code : Bytes) (state : σ) :
    validateWasm code state = Call.lift (wasmValidator code) state := by
  refine refuse_bind_eq_lift fun short => ?_
  rw [bind_of_ok (slice_of_le (Nat.zero_le _) (Nat.le_of_not_lt short) state)]
  rfl

/-- Four bytes are a number, -/
theorem littleEndianUint32_apply {b : Bytes} (four : b.length = 4) (state : σ) :
    ∃ value, littleEndianUint32 b state = (.ok value, state) ∧ value.toNat = ofBE b.reverse := by
  obtain ⟨b0, b1, b2, b3, rfl⟩ := length_eq_four.mp four
  exact ⟨_, rfl, toNat_littleEndian b0 b1 b2 b3⟩

/-- to which four can be added. -/
theorem bmod_tableSize (tableSize : UInt32) :
    Int.bmod (tableSize.toNat + 4) (2 ^ 64) = ((tableSize.toNat + 4 : ℕ) : ℤ) := by
  have bound := tableSize.toNat_lt
  rw [Int.bmod_eq_of_le (by omega) (by omega)]
  push_cast
  rfl

/-- So neither the table size nor its sum panics or overflows. -/
theorem validateCustom_eq (code : Bytes) (state : σ) :
    validateCustom code state = Call.lift (customValidator code) state := by
  refine refuse_bind_eq_lift fun short => ?_
  have enough : 4 ≤ code.length := Nat.le_of_not_lt short
  have four : ((code.take 4).drop 0).length = 4 := by
    rw [drop_zero, length_take, Nat.min_eq_left enough]
  obtain ⟨tableSize, read, value⟩ := littleEndianUint32_apply four state
  rw [bind_of_ok (slice_of_le (Nat.zero_le _) enough state), bind_of_ok read, bmod_tableSize, value,
    drop_zero]
  simp only [Nat.cast_lt]

/-- The registered validators are those without the checks. -/
theorem validators_eq (maxSize : UInt64) (format : UInt8) :
    (validators format : Option (Bytes → Call σ Unit)) =
      ((new maxSize).formats format).map fun validator code => Call.lift (validator code) := by
  have raw : validateRaw = fun code => (Call.lift (rawValidator code) : Call σ Unit) := rfl
  have wasm : validateWasm = fun code => (Call.lift (wasmValidator code) : Call σ Unit) := by
    funext code state
    exact validateWasm_eq code state
  have custom : validateCustom =
      fun code => (Call.lift (customValidator code) : Call σ Unit) := by
    funext code state
    exact validateCustom_eq code state
  unfold validators
  rw [raw, wasm, custom]
  by_cases isCustom : format = formatCustom
  · subst isCustom
    rfl
  · by_cases isWasm : format = formatWasm
    · subst isWasm
      rfl
    · by_cases isRaw : format = formatRaw
      · subst isRaw
        rfl
      · simp [new, registerFormat, registerTEEFormat, KeyValue.insert_of_ne, isCustom, isWasm,
          isRaw]

/-- **`ValidateCode` never indexes out of range**: with the run-time checks it returns what it
returns without them. -/
theorem validate_eq (maxSize : UInt64) (code : Bytes) (state : σ) :
    validate maxSize code state = Call.lift ((new maxSize).validateCode code) state := by
  refine refuse_bind_eq_lift fun _ => refuse_bind_eq_lift fun short => ?_
  have enough : 16 ≤ code.length := Nat.le_of_not_lt short
  rw [bind_of_ok (slice_of_le (by omega) (by omega) state), drop_zero]
  refine refuse_bind_eq_lift fun _ => ?_
  rw [bind_of_ok (index_of_lt (by omega) state), bind_of_ok (index_of_lt (by omega) state),
    bind_of_ok (index_of_lt (by omega) state), bind_of_ok (slice_of_le (by omega) enough state)]
  refine refuse_bind_eq_lift fun _ => refuse_bind_eq_lift fun _ => ?_
  dsimp only [CodeHeader.read]
  rw [validators_eq maxSize]
  cases (new maxSize).formats (code.getD 8 0) with
  | none => rfl
  | some =>
    have body : (Call.slice code headerSize code.length : Call σ Bytes) state =
        (.ok (code.drop headerSize), state) := by
      rw [slice_of_le (Nat.le_of_not_lt short) (Nat.le_refl _) state, take_length]
    show (Call.slice code headerSize code.length >>= _) state = _
    rw [bind_of_ok body]

end Checks

/-! ## The language of a new validator -/

/-- The kinds of enclaves with the formats that they support. -/
def supported : List (UInt8 × UInt8) :=
  [(teeTypeSGX, formatWasm), (teeTypeSEV, formatWasm), (teeTypeSEV, formatCustom)]

/-- What a format wants of the body: the start of a WebAssembly module, or a table of the length in
front of it. -/
def BodyFits (format : UInt8) (body : Bytes) : Prop :=
  (format = formatWasm → wasmMagic <+: body) ∧
    (format = formatCustom → 4 ≤ body.length ∧ 4 + ofBE (body.take 4).reverse ≤ body.length)

/-- A program: the magic text, the format, the version, the kind of enclave, five reserved bytes
and a body. -/
structure Program (maxSize : UInt64) (code : Bytes) (format version teeType : UInt8)
    (reserved body : Bytes) : Prop where
  size : code.length ≤ maxSize.toNat
  layout : code = headerMagic ++ [format, version, teeType] ++ reserved ++ body
  reserved : reserved.length = 5
  supported : (teeType, format) ∈ supported
  body : BodyFits format body

/-- The formats that `NewCodeValidator` registers for the enclaves. -/
theorem isSupported_iff (maxSize : UInt64) (format teeType : UInt8) :
    isValidTEEType teeType = true ∧ (new maxSize).isFormatSupportedByTEE format teeType = true ↔
      (teeType, format) ∈ supported := by
  have sgx : (new maxSize).teeFormats teeTypeSGX = some [formatWasm] := rfl
  have sev : (new maxSize).teeFormats teeTypeSEV = some [formatWasm, formatCustom] := rfl
  by_cases isSGX : teeType = teeTypeSGX
  · subst isSGX
    rw [isFormatSupportedByTEE, sgx]
    simp [isValidTEEType, supported, teeTypeSGX, teeTypeSEV]
  · by_cases isSEV : teeType = teeTypeSEV
    · subst isSEV
      rw [isFormatSupportedByTEE, sev]
      simp [isValidTEEType, supported, teeTypeSGX, teeTypeSEV]
    · refine iff_of_false ?_ ?_
      · rintro ⟨valid, -⟩
        simp [isValidTEEType, isSGX, isSEV] at valid
      · simp [supported, isSGX, isSEV]

/-- What the validator of a format wants. -/
theorem bodyFits_iff (maxSize : UInt64) {format teeType : UInt8}
    (allowed : (teeType, format) ∈ supported) (body : Bytes) :
    (∃ validator, (new maxSize).formats format = some validator ∧ validator body = .ok ()) ↔
      BodyFits format body := by
  have wasm : (new maxSize).formats formatWasm = some wasmValidator := rfl
  have custom : (new maxSize).formats formatCustom = some customValidator := rfl
  have formats : format = formatWasm ∨ format = formatCustom := by
    simp only [supported, mem_cons, Prod.mk.injEq, not_mem_nil, or_false] at allowed
    tauto
  rcases formats with rfl | rfl
  · have other : formatWasm ≠ formatCustom := by decide
    have accepts : wasmValidator body = .ok () ↔ wasmMagic <+: body := by
      rw [wasmValidator, except_seq_eq_ok, refuse_eq_ok, refuse_eq_ok, not_not, not_lt,
        prefix_iff_eq_take]
      constructor
      · rintro ⟨-, starts⟩
        exact starts.symm
      · intro starts
        refine ⟨?_, starts.symm⟩
        have length := congrArg List.length starts
        rw [length_take] at length
        omega
    simp [wasm, accepts, BodyFits, other]
  · have other : formatCustom ≠ formatWasm := by decide
    have accepts : customValidator body = .ok () ↔
        4 ≤ body.length ∧ 4 + ofBE (body.take 4).reverse ≤ body.length := by
      rw [customValidator, except_seq_eq_ok, refuse_eq_ok, refuse_eq_ok, not_lt, not_lt,
        Nat.add_comm]
    simp [custom, accepts, BodyFits, other]

/-- Code of sixteen bytes with the magic text has the parts of a program, -/
theorem exists_layout {code : Bytes} (enough : headerSize ≤ code.length)
    (magic : code.take 8 = headerMagic) :
    ∃ format version teeType reserved body, reserved.length = 5 ∧
      code = headerMagic ++ [format, version, teeType] ++ reserved ++ body := by
  have long : 8 ≤ (code.drop 8).length := by
    rw [length_drop]
    have : 16 ≤ code.length := enough
    omega
  rcases rest : code.drop 8 with _ | ⟨format, _ | ⟨version, _ | ⟨teeType, rest'⟩⟩⟩
  · simp [rest] at long
  · simp [rest] at long
  · simp [rest] at long
  · refine ⟨format, version, teeType, rest'.take 5, rest'.drop 5, ?_, ?_⟩
    · rw [rest] at long
      simp only [length_cons] at long
      rw [length_take]
      omega
    · calc code = code.take 8 ++ code.drop 8 := (take_append_drop 8 code).symm
        _ = headerMagic ++ ([format, version, teeType] ++ (rest'.take 5 ++ rest'.drop 5)) := by
            rw [magic, rest, take_append_drop]
            rfl
        _ = headerMagic ++ [format, version, teeType] ++ rest'.take 5 ++ rest'.drop 5 := by
            simp only [append_assoc]

/-- and they are what is read. -/
theorem read_layout (format version teeType : UInt8) {reserved : Bytes}
    (five : reserved.length = 5) (body : Bytes) :
    let code := headerMagic ++ [format, version, teeType] ++ reserved ++ body
    headerSize ≤ code.length ∧ code.take 8 = headerMagic ∧
      (CodeHeader.read code).format = format ∧ (CodeHeader.read code).teeType = teeType ∧
      code.drop headerSize = body := by
  have front : (headerMagic ++ [format, version, teeType] ++ reserved).length = headerSize := by
    rw [length_append, five]
    rfl
  refine ⟨?_, rfl, rfl, rfl, ?_⟩
  · rw [length_append, front]
    exact Nat.le_add_right _ _
  · rw [← front, drop_left]

/-- **The language of the validator**: it accepts the programs, and nothing else. -/
theorem validateCode_new_iff (maxSize : UInt64) (code : Bytes) :
    (new maxSize).validateCode code = .ok () ↔
      ∃ format version teeType reserved body,
        Program maxSize code format version teeType reserved body := by
  rw [validateCode_eq_ok_iff]
  constructor
  · intro wellFormed
    obtain ⟨format, version, teeType, reserved, body, five, rfl⟩ :=
      exists_layout wellFormed.header wellFormed.magic
    obtain ⟨-, -, hformat, hteeType, hbody⟩ := read_layout format version teeType five body
    have allowed := (isSupported_iff maxSize _ _).mp ⟨wellFormed.teeType, wellFormed.format⟩
    have fits := (bodyFits_iff maxSize allowed _).mp wellFormed.body
    rw [hformat, hteeType] at allowed
    rw [hformat, hbody] at fits
    exact ⟨format, version, teeType, reserved, body, wellFormed.size, rfl, five, allowed, fits⟩
  · rintro ⟨format, version, teeType, reserved, body, size, rfl, five, allowed, fits⟩
    obtain ⟨enough, magic, hformat, hteeType, hbody⟩ :=
      read_layout format version teeType five body
    have both := (isSupported_iff maxSize format teeType).mpr allowed
    refine ⟨size, enough, magic, ?_, ?_, ?_⟩
    · rw [hteeType]
      exact both.1
    · rw [hformat, hteeType]
      exact both.2
    · rw [hformat, hbody]
      exact (bodyFits_iff maxSize allowed body).mpr fits

/-- The version is not looked at. -/
theorem validateCode_createCode_version (cv : CodeValidator)
    (format version version' teeType : UInt8) (body : Bytes) :
    cv.validateCode (createCode format version teeType body) =
      cv.validateCode (createCode format version' teeType body) := by
  have length (version : UInt8) : (createCode format version teeType body).length =
      headerSize + body.length := by
    rw [createCode, length_append]
    rfl
  have rest (version : UInt8) : (createCode format version teeType body).drop headerSize = body :=
    rfl
  unfold validateCode
  rw [length, length, rest, rest]
  rfl

/-- What `CreateCode` makes is accepted by its size, format and body. -/
theorem validateCode_createCode_iff (maxSize : UInt64) (format version teeType : UInt8)
    (body : Bytes) :
    (new maxSize).validateCode (createCode format version teeType body) = .ok () ↔
      headerSize + body.length ≤ maxSize.toNat ∧ (teeType, format) ∈ supported ∧
        BodyFits format body := by
  rw [validateCode_new_iff]
  have length : (createCode format version teeType body).length = headerSize + body.length := by
    rw [createCode, length_append]
    rfl
  rw [← length]
  constructor
  · rintro ⟨format', version', teeType', reserved, body', size, layout, five, allowed, fits⟩
    obtain ⟨-, -, hformat, hteeType, hbody⟩ := read_layout format' version' teeType' five body'
    rw [← layout] at hformat hteeType hbody
    have hformat' : format = format' := hformat
    have hteeType' : teeType = teeType' := hteeType
    have hbody' : body = body' := hbody
    refine ⟨size, ?_, ?_⟩
    · rw [hformat', hteeType']
      exact allowed
    · rw [hformat', hbody']
      exact fits
  · rintro ⟨size, allowed, fits⟩
    exact ⟨format, version, teeType, List.replicate 5 0, body, size, rfl, rfl, allowed, fits⟩

/-- **What `ValidateCode` does**, for every size limit: it never indexes out of range and accepts
the programs and nothing else; of code from `CreateCode` it looks at the size, the kind of enclave,
the format and the body. -/
theorem validateCode_language {σ : Type} (maxSize : UInt64) (state : σ) :
    (∀ code, (validate maxSize code state).1 ≠ .panicked ∧
      ((validate maxSize code state).1 = .ok () ↔
        ∃ format version teeType reserved body,
          Program maxSize code format version teeType reserved body)) ∧
      ∀ format version teeType body,
        ((validate maxSize (createCode format version teeType body) state).1 = .ok () ↔
          headerSize + body.length ≤ maxSize.toNat ∧ (teeType, format) ∈ supported ∧
            BodyFits format body) ∧
        ∀ version', (validate maxSize (createCode format version teeType body) state).1 =
          (validate maxSize (createCode format version' teeType body) state).1 := by
  refine ⟨fun code => ?_, fun format version teeType body => ⟨?_, fun version' => ?_⟩⟩
  · rw [validate_eq, lift_fst_eq_ok]
    exact ⟨lift_fst_ne_panicked _ _, validateCode_new_iff maxSize code⟩
  · rw [validate_eq, lift_fst_eq_ok]
    exact validateCode_createCode_iff maxSize format version teeType body
  · rw [validate_eq, validate_eq, validateCode_createCode_version _ format version version']

/-! ## Deployment -/

/-- The code passes the checks of `CreateObjectAction.Execute`: its size limit and
`validateCode`. -/
def Deployable (code : Bytes) : Prop :=
  code.length ≤ Actions.maxCodeSize ∧ Actions.validateCode code = .ok ()

instance decidableDeployable (code : Bytes) : Decidable (Deployable code) :=
  inferInstanceAs (Decidable (_ ∧ _))

/-- Code with a header starts with the byte that `CreateObjectAction.Execute` refuses. -/
theorem WellFormed.refused {cv : CodeValidator} {code : Bytes} (wellFormed : cv.WellFormed code) :
    Actions.validateCode code = .error (.plain (ascii "invalid code start byte")) := by
  have magic := wellFormed.magic
  cases code with
  | nil => cases magic
  | cons start =>
    have zero : start = 0 := (List.cons.inj magic).1
    subst zero
    rfl

/-- **Validated code cannot be deployed.** For every validator, whatever its size limit and formats,
acceptance of a program implies that it can be deployed exactly when the validator does not accept
it. -/
theorem accepted_deployable_iff (cv : CodeValidator) (code : Bytes) :
    (cv.validateCode code = .ok () → Deployable code) ↔ ¬ cv.WellFormed code := by
  rw [validateCode_eq_ok_iff]
  constructor
  · intro deployable wellFormed
    have accepted := (deployable wellFormed).2
    rw [wellFormed.refused] at accepted
    cases accepted
  · intro rejected wellFormed
    exact absurd wellFormed rejected

/-- An empty WebAssembly module for SGX is validated and refused. -/
theorem not_deployable_wasm :
    let code := createCode formatWasm 1 teeTypeSGX wasmMagic
    (new 1048576).validateCode code = .ok () ∧ (1048576 : UInt64).toNat ≤ Actions.maxCodeSize ∧
      ¬ Deployable code := by
  decide

end CodeValidator

end Vm

end Aristo
