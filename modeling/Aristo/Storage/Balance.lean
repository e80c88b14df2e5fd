import Aristo.Base.BigEndian
import Aristo.Base.KeyValue
import Aristo.Base.Supply
import Mathlib.Data.Fintype.Pi
import Mathlib.Data.FinEnum
import Mathlib.Data.List.OfFn

/-!
# Balances

The balance functions of `storage/storage.go` over a `state.Mutable`.  A balance lives under
`BalanceKey(addr)`, a zero byte and the text of the address, as eight big-endian bytes; an absent
entry is zero, and `SubBalance` removes an entry that reaches zero.

`holdings` is the abstraction to `GoBase.Holdings`: what each address holds.  Each operation has one
specification on the store, and the `holdings_*` lemmas say what its write means above.
-/

namespace Aristo

open GoBase Call List

/-! ## The mutable state -/

/-- `state.Mutable`, taken as a key-value map. -/
abbrev Mutable := KeyValue Bytes Bytes

/-- The sentinel `database.ErrNotFound`. -/
def databaseErrNotFound : Sentinel := ⟨"database", "ErrNotFound"⟩

/-- The error a key-value map reports for an absent key. -/
def errNotFound : GoError := GoError.new databaseErrNotFound "not found"

namespace Mutable

def getValue (key : Bytes) : Call Mutable Bytes := fun mu =>
  match mu key with
  | some value => (.ok value, mu)
  | none => (.err errNotFound, mu)

def insert (key value : Bytes) : Call Mutable Unit :=
  Call.modify fun mu => KeyValue.insert mu key value

def remove (key : Bytes) : Call Mutable Unit :=
  Call.modify fun mu => KeyValue.remove mu key

end Mutable

/-! ## Addresses -/

def addressLen : ℕ := 33

/-- `codec.Address`, a byte array of fixed length. -/
abbrev Address := Fin addressLen → UInt8

def Address.slice (addr : Address) : Bytes :=
  List.ofFn addr

@[simp] theorem Address.length_slice (addr : Address) :
    (Address.slice addr).length = addressLen := by
  simp [Address.slice]

/-- `codec.Address.String`, which the code relies on to tell addresses apart. -/
structure AddressText where
  string : Address → Bytes
  injective : Function.Injective string

def hexDigit (nibble : UInt8) : UInt8 :=
  if nibble < 10 then 48 + nibble else 87 + nibble

def hexByte (byte : UInt8) : Bytes :=
  [hexDigit (byte / 16), hexDigit (byte % 16)]

/-- Two digits determine a byte, -/
theorem hexByte_injective : Function.Injective hexByte := by
  have digits : ∀ byte : UInt8,
      (if hexDigit (byte / 16) < 58 then hexDigit (byte / 16) - 48
        else hexDigit (byte / 16) - 87) * 16 +
      (if hexDigit (byte % 16) < 58 then hexDigit (byte % 16) - 48
        else hexDigit (byte % 16) - 87) = byte := by
    decide +kernel
  intro a b h
  obtain ⟨high, rest⟩ := List.cons.inj h
  have low := (List.cons.inj rest).1
  rw [← digits a, ← digits b, high, low]

/-- and a text of digits the bytes. -/
theorem flatMap_hexByte_injective : Function.Injective (List.flatMap hexByte) := by
  intro l
  induction l with
  | nil =>
    intro l' h
    cases l' with
    | nil => rfl
    | cons => simp [hexByte] at h
  | cons a l ih =>
    intro l' h
    cases l' with
    | nil => simp [hexByte] at h
    | cons =>
      rw [flatMap_cons, flatMap_cons] at h
      obtain ⟨bytes, rests⟩ := append_inj h rfl
      rw [hexByte_injective bytes, ih rests]

/-- A colon is not a digit. -/
theorem colon_notMem_flatMap_hexByte (bytes : Bytes) : (58 : UInt8) ∉ bytes.flatMap hexByte := by
  have each : ∀ byte : UInt8, (58 : UInt8) ∉ hexByte byte := by decide +kernel
  intro mem
  obtain ⟨byte, -, inByte⟩ := mem_flatMap.mp mem
  exact each byte inByte

/-- The hexadecimal text of an address, two digits a byte. -/
def hexText : AddressText where
  string addr := (Address.slice addr).flatMap hexByte
  injective _ _ same := ofFn_injective (flatMap_hexByte_injective same)

/-- The text of an address is longer than the address. -/
theorem hexText_longer (addr : Address) : addressLen < (hexText.string addr).length := by
  have digits : ((Address.slice addr).flatMap hexByte).length = addressLen * 2 := by
    simp [length_flatMap, hexByte]
  rw [hexText, digits]
  decide

/-! ## `storage/storage.go` -/

def errInsufficientBalance : GoError :=
  GoError.new ⟨"storage", "ErrInsufficientBalance"⟩ "insufficient balance"

def balancePrefix : UInt8 := 0x0

section Operations

variable (text : AddressText)

def balanceKey (addr : Address) : Bytes :=
  balancePrefix :: text.string addr

def getBalance (addr : Address) : Call Mutable UInt64 := do
  match ← Call.attempt (Mutable.getValue (balanceKey text addr)) with
  | .error error =>
    if error.is databaseErrNotFound then
      return 0
    else
      Call.fail error
  | .ok value =>
    if value.length < 8 then
      Call.fail (GoError.plain (ascii "corrupt balance data"))
    else
      return bigEndianUint64 value

/-- `SetBalance`, with `setBalance` inlined. -/
def setBalance (addr : Address) (balance : UInt64) : Call Mutable Unit :=
  Mutable.insert (balanceKey text addr) (putUint64 balance)

def addBalance (addr : Address) (amount : UInt64) : Call Mutable UInt64 := do
  let balance ← getBalance text addr
  let newBalance := balance + amount
  if newBalance < balance then
    Call.fail (GoError.plain (ascii "balance overflow"))
  else
    setBalance text addr newBalance
    return newBalance

def subBalance (addr : Address) (amount : UInt64) : Call Mutable UInt64 := do
  let oldBal ← getBalance text addr
  if oldBal < amount then
    Call.fail errInsufficientBalance
  else
    let newBal := oldBal - amount
    if newBal = 0 then
      Mutable.remove (balanceKey text addr)
      return 0
    else
      setBalance text addr newBal
      return newBal

end Operations

/-! ## Reading through a `ReadState` -/

/-- `database.ParseUInt64` takes exactly eight bytes, and `math.Add64` fails exactly on overflow. -/
structure Uint64Ops where
  parseUInt64 : Bytes → Except GoError UInt64
  add64 : UInt64 → UInt64 → Except GoError UInt64
  parseUInt64_eight : ∀ value, value.length = 8 →
    parseUInt64 value = .ok (bigEndianUint64 value)
  parseUInt64_other : ∀ value, value.length ≠ 8 → ∃ error, parseUInt64 value = .error error
  add64_fits : ∀ a b, a.toNat + b.toNat < 2 ^ 64 → add64 a b = .ok (a + b)
  add64_overflow : ∀ a b, 2 ^ 64 ≤ a.toNat + b.toNat → ∃ error, add64 a b = .error error

/-- Operations that meet these demands. -/
def checkedOps : Uint64Ops where
  parseUInt64 value :=
    if value.length = 8 then .ok (bigEndianUint64 value)
    else .error (GoError.plain (ascii "value has unexpected size"))
  add64 a b :=
    if a.toNat + b.toNat < 2 ^ 64 then .ok (a + b)
    else .error (GoError.plain (ascii "overflow"))
  parseUInt64_eight := fun _ eight => if_pos eight
  parseUInt64_other := fun _ other => ⟨_, if_neg other⟩
  add64_fits := fun _ _ fits => if_pos fits
  add64_overflow := fun _ _ overflow => ⟨_, if_neg (Nat.not_lt.mpr overflow)⟩

/-- `ReadState`: the values and the errors of a list of keys. -/
abbrev ReadState := List Bytes → List Bytes × List (Option GoError)

/-- The `ReadState` over a key-value map. -/
def Mutable.readState (mu : Mutable) : ReadState := fun keys =>
  (keys.map fun key => (mu key).getD [],
    keys.map fun key => if (mu key).isSome then none else some errNotFound)

/-- `innerGetBalance`: the balance, and whether there is an entry. -/
def innerGetBalance (ops : Uint64Ops) (value : Bytes) :
    Option GoError → Except GoError (UInt64 × Bool)
  | some error => if error.is databaseErrNotFound then .ok (0, false) else .error error
  | none => (ops.parseUInt64 value).map fun balance => (balance, true)

/-- `GetBalanceFromState`, which takes the first value and the first error. -/
def getBalanceFromState (ops : Uint64Ops) (text : AddressText) (f : ReadState)
    (addr : Address) : Outcome UInt64 :=
  let read := f [balanceKey text addr]
  match read.1[0]?, read.2[0]? with
  | some value, some error =>
    match innerGetBalance ops value error with
    | .ok (balance, _) => .ok balance
    | .error error => .err error
  | _, _ => .panicked

/-! ## Specifications -/

section Specifications

variable (text : AddressText)

/-- Every address has its own key. -/
theorem balanceKey_injective : Function.Injective (balanceKey text) := by
  intro a b h
  exact text.injective (List.cons.inj h).2

/-- What `GetBalance` makes of the contents of an entry. -/
def readBalance : Option Bytes → Outcome UInt64
  | none => .ok 0
  | some value =>
    if value.length < 8 then
      .err (GoError.plain (ascii "corrupt balance data"))
    else
      .ok (bigEndianUint64 value)

@[simp] theorem readBalance_none : readBalance none = .ok 0 := rfl

/-- A balance that was written is read. -/
@[simp] theorem readBalance_putUint64 (balance : UInt64) :
    readBalance (some (putUint64 balance)) = .ok balance := by
  simp [readBalance]

theorem readBalance_ne_panicked (contents : Option Bytes) : readBalance contents ≠ .panicked := by
  cases contents with
  | none => simp
  | some value => by_cases short : value.length < 8 <;> simp [readBalance, short]

/-- `GetBalance` reads one entry, -/
theorem getBalance_apply (addr : Address) (mu : Mutable) :
    getBalance text addr mu = (readBalance (mu (balanceKey text addr)), mu) := by
  unfold getBalance
  cases entry : mu (balanceKey text addr) with
  | none =>
    have absent : Call.attempt (Mutable.getValue (balanceKey text addr)) mu =
        (.ok (.error errNotFound), mu) := by
      simp [Call.attempt, Mutable.getValue, entry]
    rw [bind_of_ok absent]
    rfl
  | some value =>
    have present : Call.attempt (Mutable.getValue (balanceKey text addr)) mu =
        (.ok (.ok value), mu) := by
      simp [Call.attempt, Mutable.getValue, entry]
    rw [bind_of_ok present]
    by_cases short : value.length < 8 <;> simp [readBalance, short]

theorem setBalance_apply (addr : Address) (balance : UInt64) (mu : Mutable) :
    setBalance text addr balance mu =
      (.ok (), KeyValue.insert mu (balanceKey text addr) (putUint64 balance)) := rfl

/-- and does not see another one. -/
theorem getBalance_update_of_ne {addr other : Address} (h : other ≠ addr)
    (mu : Mutable) (contents : Option Bytes) :
    (getBalance text other (Function.update mu (balanceKey text addr) contents)).1 =
      (getBalance text other mu).1 := by
  have keys : balanceKey text other ≠ balanceKey text addr :=
    fun equal => h (balanceKey_injective text equal)
  simp [getBalance_apply, keys]

variable {text} {addr : Address} {amount balance : UInt64} {mu : Mutable}

theorem subBalance_of_err {error : GoError}
    (h : readBalance (mu (balanceKey text addr)) = .err error) :
    subBalance text addr amount mu = (.err error, mu) :=
  bind_of_err (by rw [getBalance_apply, h])

/-- `AddBalance` fails when the sum overflows. -/
theorem addBalance_of_ok (h : readBalance (mu (balanceKey text addr)) = .ok balance) :
    addBalance text addr amount mu =
      if balance + amount < balance then
        (.err (GoError.plain (ascii "balance overflow")), mu)
      else
        (.ok (balance + amount),
          KeyValue.insert mu (balanceKey text addr) (putUint64 (balance + amount))) := by
  rw [addBalance, bind_of_ok (by rw [getBalance_apply, h])]
  by_cases overflow : balance + amount < balance
  · simp [overflow]
  · simp only [overflow, if_false]
    rw [bind_of_ok (setBalance_apply text addr _ mu)]
    rfl

/-- `SubBalance` fails on less than the amount, and removes an entry that is spent. -/
theorem subBalance_of_ok (h : readBalance (mu (balanceKey text addr)) = .ok balance) :
    subBalance text addr amount mu =
      if balance < amount then
        (.err errInsufficientBalance, mu)
      else if balance - amount = 0 then
        (.ok 0, KeyValue.remove mu (balanceKey text addr))
      else
        (.ok (balance - amount),
          KeyValue.insert mu (balanceKey text addr) (putUint64 (balance - amount))) := by
  rw [subBalance, bind_of_ok (by rw [getBalance_apply, h])]
  by_cases insufficient : balance < amount
  · simp [insufficient]
  · by_cases whole : balance - amount = 0
    · simp only [insufficient, whole, if_false, if_true]
      rfl
    · simp only [insufficient, whole, if_false]
      rfl

/-- What it returns is what is read afterwards, -/
theorem subBalance_eq_ok {newBal : UInt64} {after : Mutable}
    (h : subBalance text addr amount mu = (.ok newBal, after)) :
    ∃ contents, readBalance contents = .ok newBal ∧
      after = Function.update mu (balanceKey text addr) contents := by
  cases held : readBalance (mu (balanceKey text addr)) with
  | panicked => exact absurd held (readBalance_ne_panicked _)
  | err =>
    rw [subBalance_of_err held] at h
    cases h
  | ok balance =>
    rw [subBalance_of_ok held] at h
    by_cases insufficient : balance < amount
    · rw [if_pos insufficient] at h
      cases h
    rw [if_neg insufficient] at h
    by_cases whole : balance - amount = 0
    · rw [if_pos whole] at h
      cases h
      exact ⟨none, rfl, rfl⟩
    · rw [if_neg whole] at h
      cases h
      exact ⟨some (putUint64 (balance - amount)), readBalance_putUint64 _, rfl⟩

theorem addBalance_of_err {error : GoError}
    (h : readBalance (mu (balanceKey text addr)) = .err error) :
    addBalance text addr amount mu = (.err error, mu) :=
  bind_of_err (by rw [getBalance_apply, h])

/-- as with `AddBalance`. -/
theorem addBalance_eq_ok {newBalance : UInt64} {after : Mutable}
    (h : addBalance text addr amount mu = (.ok newBalance, after)) :
    ∃ balance, readBalance (mu (balanceKey text addr)) = .ok balance ∧
      newBalance = balance + amount ∧
      after = KeyValue.insert mu (balanceKey text addr) (putUint64 newBalance) := by
  cases held : readBalance (mu (balanceKey text addr)) with
  | panicked => exact absurd held (readBalance_ne_panicked _)
  | err =>
    rw [addBalance_of_err held] at h
    cases h
  | ok balance =>
    rw [addBalance_of_ok held] at h
    by_cases overflow : balance + amount < balance
    · rw [if_pos overflow] at h
      cases h
    · rw [if_neg overflow] at h
      cases h
      exact ⟨balance, rfl, rfl, rfl⟩

end Specifications

/-! ## What the ledger holds -/

section Abstraction

variable (text : AddressText)

/-- The abstraction function: what `GetBalance` reports.  An entry that it refuses counts as
nothing. -/
def holdings (mu : Mutable) : Holdings Address := fun addr =>
  match (getBalance text addr mu).1 with
  | .ok balance => balance.toNat
  | _ => 0

/-- Every balance entry is an eight-byte value. -/
def EightByteEntries (mu : Mutable) : Prop :=
  ∀ addr value, mu (balanceKey text addr) = some value → value.length = 8

variable {text} {mu : Mutable} {addr : Address} {amount : UInt64}

/-- What is read is held. -/
theorem holdings_of_ok {balance : UInt64}
    (h : readBalance (mu (balanceKey text addr)) = .ok balance) :
    holdings text mu addr = balance.toNat := by
  simp [holdings, getBalance_apply, h]

/-- An entry of eight bytes can be read. -/
theorem EightByteEntries.readBalance_ok (entries : EightByteEntries text mu)
    (addr : Address) :
    ∃ balance, readBalance (mu (balanceKey text addr)) = .ok balance := by
  cases entry : mu (balanceKey text addr) with
  | none => exact ⟨0, rfl⟩
  | some value =>
    have length := entries addr value entry
    exact ⟨bigEndianUint64 value, by simp [readBalance, length]⟩

/-- On eight-byte entries `GetBalanceFromState` reads what `GetBalance` reads. -/
theorem EightByteEntries.getBalanceFromState_eq (entries : EightByteEntries text mu)
    (ops : Uint64Ops) (addr : Address) :
    getBalanceFromState ops text (Mutable.readState mu) addr =
      readBalance (mu (balanceKey text addr)) := by
  unfold getBalanceFromState Mutable.readState
  cases entry : mu (balanceKey text addr) with
  | none => simp [entry, innerGetBalance, GoError.is, errNotFound, GoError.new]
  | some value =>
    have eight := entries addr value entry
    simp [entry, innerGetBalance, ops.parseUInt64_eight value eight, Except.map, readBalance, eight]

/-- A write of an entry changes what its address holds. -/
theorem holdings_update {contents : Option Bytes} {balance : UInt64}
    (h : readBalance contents = .ok balance) :
    holdings text (Function.update mu (balanceKey text addr) contents) =
      Function.update (holdings text mu) addr balance.toNat := by
  funext other
  by_cases same : other = addr
  · subst same
    have read : readBalance (Function.update mu (balanceKey text other) contents
        (balanceKey text other)) = .ok balance := by simpa using h
    rw [Function.update_self, holdings_of_ok read]
  · rw [Function.update_of_ne same, holdings, getBalance_update_of_ne text same, holdings]

/-- Entries of eight bytes are written. -/
theorem EightByteEntries.update (entries : EightByteEntries text mu)
    {contents : Option Bytes} (h : ∀ value, contents = some value → value.length = 8) :
    EightByteEntries text (Function.update mu (balanceKey text addr) contents) := by
  intro other value found
  by_cases same : other = addr
  · subst same
    exact h value (by simpa using found)
  · have keys : balanceKey text other ≠ balanceKey text addr :=
      fun equal => same (balanceKey_injective text equal)
    exact entries other value (by simpa [keys] using found)

theorem EightByteEntries.put (entries : EightByteEntries text mu) (balance : UInt64) :
    EightByteEntries text
      (Function.update mu (balanceKey text addr) (some (putUint64 balance))) :=
  entries.update fun value found => by
    rw [← Option.some.inj found, length_putUint64]

/-! ### Eight-byte entries are kept -/

theorem getBalance_maintains (addr : Address) :
    Call.Maintains (EightByteEntries text) (getBalance text addr) := by
  intro mu entries
  rwa [getBalance_apply]

theorem setBalance_maintains (addr : Address) (balance : UInt64) :
    Call.Maintains (EightByteEntries text) (setBalance text addr balance) :=
  fun _ entries => entries.put balance

/-- Removing an entry, of whatever key, leaves the others. -/
theorem remove_maintains (key : Bytes) :
    Call.Maintains (EightByteEntries text) (Mutable.remove key) := by
  intro mu entries addr value found
  change KeyValue.remove mu key (balanceKey text addr) = some value at found
  by_cases removed : balanceKey text addr = key
  · rw [removed, KeyValue.remove_self] at found
    cases found
  · rw [KeyValue.remove_of_ne _ removed] at found
    exact entries addr value found

theorem addBalance_maintains (addr : Address) (amount : UInt64) :
    Call.Maintains (EightByteEntries text) (addBalance text addr amount) := by
  refine maintains_bind (getBalance_maintains addr) fun balance => ?_
  dsimp only
  split
  · exact maintains_fail _
  · exact maintains_bind (setBalance_maintains addr _) fun _ => maintains_pure _

theorem subBalance_maintains (addr : Address) (amount : UInt64) :
    Call.Maintains (EightByteEntries text) (subBalance text addr amount) := by
  refine maintains_bind (getBalance_maintains addr) fun oldBal => ?_
  split
  · exact maintains_fail _
  · dsimp only
    split
    · exact maintains_bind (remove_maintains _) fun _ => maintains_pure _
    · exact maintains_bind (setBalance_maintains addr _) fun _ => maintains_pure _

/-- **A debit that is not covered** is refused. -/
theorem subBalance_uncovered (entries : EightByteEntries text mu)
    (uncovered : holdings text mu addr < amount.toNat) :
    subBalance text addr amount mu = (.err errInsufficientBalance, mu) := by
  obtain ⟨balance, h⟩ := entries.readBalance_ok addr
  rw [holdings_of_ok h] at uncovered
  rw [subBalance_of_ok h, if_pos (UInt64.lt_iff_toNat_lt.mpr uncovered)]

/-- **Debit.**  A covered `SubBalance` writes the one entry of `addr` and is `Holdings.debit` above.
-/
theorem subBalance_covered (entries : EightByteEntries text mu)
    (covered : amount.toNat ≤ holdings text mu addr) :
    ∃ newBal contents,
      subBalance text addr amount mu =
          (.ok newBal, Function.update mu (balanceKey text addr) contents) ∧
        newBal.toNat = holdings text mu addr - amount.toNat ∧
        EightByteEntries text (Function.update mu (balanceKey text addr) contents) ∧
        holdings text (Function.update mu (balanceKey text addr) contents) =
          (holdings text mu).debit addr amount.toNat := by
  obtain ⟨balance, h⟩ := entries.readBalance_ok addr
  have held := holdings_of_ok h
  rw [held] at covered
  have enough : amount ≤ balance := UInt64.le_iff_toNat_le.mpr covered
  have difference : (balance - amount).toNat = balance.toNat - amount.toNat :=
    UInt64.toNat_sub_of_le _ _ enough
  have sufficient : ¬ balance < amount := by
    rw [UInt64.lt_iff_toNat_lt]
    omega
  rw [subBalance_of_ok h, if_neg sufficient]
  -- the entry of a spent balance is removed, any other balance is written
  by_cases whole : balance - amount = 0
  · refine ⟨0, none, by rw [if_pos whole]; rfl, ?_, ?_, ?_⟩
    · rw [held, ← difference, whole]
    · exact entries.update (by simp)
    · rw [holdings_update readBalance_none, Holdings.debit, held, ← difference, whole]
  · refine ⟨balance - amount, some (putUint64 (balance - amount)),
      by rw [if_neg whole]; rfl, ?_, ?_, ?_⟩
    · rw [held, difference]
    · exact entries.put _
    · rw [holdings_update (readBalance_putUint64 _), Holdings.debit, held, difference]

/-- **Credit.**  An `AddBalance` whose sum fits writes the one entry of `addr` and is
`Holdings.credit` above. -/
theorem addBalance_fits (entries : EightByteEntries text mu)
    (fits : holdings text mu addr + amount.toNat < 2 ^ 64) :
    ∃ newBalance contents,
      addBalance text addr amount mu =
          (.ok newBalance, Function.update mu (balanceKey text addr) contents) ∧
        newBalance.toNat = holdings text mu addr + amount.toNat ∧
        EightByteEntries text (Function.update mu (balanceKey text addr) contents) ∧
        holdings text (Function.update mu (balanceKey text addr) contents) =
          (holdings text mu).credit addr amount.toNat := by
  obtain ⟨balance, h⟩ := entries.readBalance_ok addr
  have held := holdings_of_ok h
  rw [held] at fits
  have sum : (balance + amount).toNat = balance.toNat + amount.toNat := by
    rw [UInt64.toNat_add, Nat.mod_eq_of_lt fits]
  have noOverflow : ¬ balance + amount < balance := by
    rw [UInt64.lt_iff_toNat_lt]
    omega
  rw [addBalance_of_ok h, if_neg noOverflow]
  refine ⟨balance + amount, some (putUint64 (balance + amount)), rfl, ?_, ?_, ?_⟩
  · rw [held, sum]
  · exact entries.put _
  · rw [holdings_update (readBalance_putUint64 _), Holdings.credit, held, sum]

end Abstraction

/-! ## A ledger with one account -/

def fundedLedger (addr : Address) (balance : UInt64) : Mutable :=
  Function.update (fun _ => none) (balanceKey hexText addr) (some (putUint64 balance))

theorem readBalance_fundedLedger (addr : Address) (balance : UInt64) :
    readBalance (fundedLedger addr balance (balanceKey hexText addr)) = .ok balance := by
  simp [fundedLedger]

theorem fundedLedger_entries (addr : Address) (balance : UInt64) :
    EightByteEntries hexText (fundedLedger addr balance) :=
  EightByteEntries.put (fun _ _ found => by simp at found) balance

/-- The supply is what the account holds. -/
theorem fundedLedger_supply (addr : Address) (balance : UInt64) :
    (holdings hexText (fundedLedger addr balance)).supply = balance.toNat := by
  have empty : holdings hexText (fun _ => none) = fun _ => 0 := by
    funext other
    simp [holdings, getBalance_apply]
  have exchanged := Holdings.supply_update (fun _ : Address => 0) addr balance.toNat
  rw [fundedLedger, holdings_update (readBalance_putUint64 balance), empty]
  simpa [Holdings.supply] using exchanged

end Aristo
