import Aristo.Base.Access
import Aristo.Base.GoMap
import Aristo.Storage.Fees

/-!
# The keys that balances and fees touch

The balance functions of `storage/storage.go` and the fee functions of `storage/state_manager.go`,
over any `state.Mutable`; over a key-value map they are those of `Balance` and `Fees`.

Everything touches one key, `BalanceKey(addr)`; only `Deduct` can touch a second one.
`SponsorStateKeys` declares that second one, so no fee can be charged inside of it
(`fee_undeclared`).
-/

namespace Aristo

open GoBase Call

/-! ## Declared keys -/

structure Permissions where
  canRead : Bool
  canAllocate : Bool
  canWrite : Bool
deriving DecidableEq

namespace Permissions

def read : Permissions := ⟨true, false, false⟩

/-- `state.Write`; where it also allows reading, more is allowed than here. -/
def write : Permissions := ⟨false, false, true⟩

def all : Permissions := ⟨true, true, true⟩

def or (p q : Permissions) : Permissions :=
  ⟨p.canRead || q.canRead, p.canAllocate || q.canAllocate, p.canWrite || q.canWrite⟩

end Permissions

abbrev StateKeys := GoMap Bytes Permissions

/-- The key of the access is declared with the permission that it needs. -/
def StateKeys.Permits (keys : StateKeys) : Access Bytes → Prop
  | .read key => ∃ permissions, keys.lookup key = some permissions ∧ permissions.canRead = true
  | .write key => ∃ permissions, keys.lookup key = some permissions ∧ permissions.canWrite = true

/-! ## The functions over any store -/

/-- `state.Mutable`, over some state. -/
abbrev MutableBackend (σ : Type) := Backend Bytes Bytes σ

/-- `state.Mutable` as a key-value map. -/
def Mutable.backend : MutableBackend Mutable where
  get := Mutable.getValue
  insert := Mutable.insert
  remove := Mutable.remove

namespace MutableBackend

variable {σ : Type} (mu : MutableBackend σ) (text : AddressText)

/-- What `GetBalance` makes of the answer of the store. -/
def decode : Except GoError Bytes → Call σ UInt64
  | .error error =>
    if error.is databaseErrNotFound then
      return 0
    else
      Call.fail error
  | .ok value =>
    if value.length < 8 then
      Call.fail (GoError.plain (ascii "corrupt balance data"))
    else
      return bigEndianUint64 value

def getBalance (addr : Address) : Call σ UInt64 := do
  decode (← Call.attempt (mu.get (balanceKey text addr)))

/-- `SetBalance`, with `setBalance` inlined. -/
def setBalance (addr : Address) (balance : UInt64) : Call σ Unit :=
  mu.insert (balanceKey text addr) (putUint64 balance)

def addBalance (addr : Address) (amount : UInt64) : Call σ UInt64 := do
  let balance ← mu.getBalance text addr
  let newBalance := balance + amount
  if newBalance < balance then
    Call.fail (GoError.plain (ascii "balance overflow"))
  else
    mu.setBalance text addr newBalance
    return newBalance

def subBalance (addr : Address) (amount : UInt64) : Call σ UInt64 := do
  let oldBal ← mu.getBalance text addr
  if oldBal < amount then
    Call.fail errInsufficientBalance
  else
    let newBal := oldBal - amount
    if newBal = 0 then
      mu.remove (balanceKey text addr)
      return 0
    else
      mu.setBalance text addr newBal
      return newBal

def canDeduct (addr : Address) (amount : UInt64) : Call σ Unit := do
  let bal ← mu.getBalance text addr
  if bal < amount then
    Call.fail errInsufficientBalance
  else
    return ()

def deduct (addr : Address) (amount : UInt64) : Call σ Unit := do
  let oldBal ← mu.getBalance text addr
  if oldBal < amount then
    Call.fail errInsufficientBalance
  else
    let newBal := oldBal - amount
    if newBal = 0 then
      mu.remove (createBalanceKey addr)
    else
      mu.setBalance text addr newBal

/-- `AddBalance` of the state manager. -/
def creditBalance (ops : Uint64Ops) (addr : Address) (amount : UInt64) (createAccount : Bool) :
    Call σ Unit := do
  let oldBal ← mu.getBalance text addr
  if createAccount = false ∧ oldBal = 0 then
    Call.fail errNotFound
  else
    let newBal ← Call.lift (ops.add64 oldBal amount)
    mu.setBalance text addr newBal

end MutableBackend

section Map

variable (text : AddressText) (addr : Address) (amount : UInt64)

theorem addBalance_backend :
    Mutable.backend.addBalance text addr amount = addBalance text addr amount := rfl

theorem subBalance_backend :
    Mutable.backend.subBalance text addr amount = subBalance text addr amount := rfl

theorem canDeduct_backend :
    Mutable.backend.canDeduct text addr amount = StateManager.canDeduct text addr amount := rfl

theorem deduct_backend :
    Mutable.backend.deduct text addr amount = StateManager.deduct text addr amount := rfl

theorem creditBalance_backend (ops : Uint64Ops) (createAccount : Bool) :
    Mutable.backend.creditBalance text ops addr amount createAccount =
      StateManager.addBalance text ops addr amount createAccount := rfl

end Map

/-! ## What they access -/

namespace MutableBackend

open Access Backend

section Accesses

variable {σ : Type} {mu : MutableBackend σ} {text : AddressText} {addr : Address}
  {P : List (Access Bytes) → Prop}

theorem maintains_decode {Inv : σ → Prop} (result : Except GoError Bytes) :
    Call.Maintains Inv (decode result : Call σ UInt64) := by
  cases result with
  | error =>
    rw [decode]
    split
    · exact maintains_pure _
    · exact maintains_fail _
  | ok =>
    rw [decode]
    split
    · exact maintains_fail _
    · exact maintains_pure _

theorem maintains_getBalance (read : Admits P (.read (balanceKey text addr))) :
    Call.Maintains (fun s => P s.2) (getBalance mu.logged text addr) :=
  maintains_bind (maintains_attempt (maintains_noting read _)) maintains_decode

theorem read_mem_getBalance (s : σ × List (Access Bytes)) :
    .read (balanceKey text addr) ∈ (getBalance mu.logged text addr s).2.2 := by
  let Read := fun s : σ × List (Access Bytes) => .read (balanceKey text addr) ∈ s.2
  have attempted : Read (Call.attempt (mu.logged.get (balanceKey text addr)) s).2 := by
    rw [attempt_snd]
    exact mem_noting _ _ s
  exact reaches_bind Read attempted maintains_decode

theorem maintains_setBalance (write : Admits P (.write (balanceKey text addr)))
    (balance : UInt64) :
    Call.Maintains (fun s => P s.2) (setBalance mu.logged text addr balance) :=
  maintains_insert write _

variable (read : Admits P (.read (balanceKey text addr)))
    (write : Admits P (.write (balanceKey text addr))) (amount : UInt64)

include read write

theorem maintains_addBalance :
    Call.Maintains (fun s => P s.2) (addBalance mu.logged text addr amount) := by
  refine maintains_bind (maintains_getBalance read) fun balance => ?_
  dsimp only
  split
  · exact maintains_fail _
  · exact maintains_bind (maintains_setBalance write _) fun _ => maintains_pure _

theorem maintains_subBalance :
    Call.Maintains (fun s => P s.2) (subBalance mu.logged text addr amount) := by
  refine maintains_bind (maintains_getBalance read) fun oldBal => ?_
  dsimp only
  split
  · exact maintains_fail _
  · split
    · exact maintains_bind (maintains_remove write) fun _ => maintains_pure _
    · exact maintains_bind (maintains_setBalance write _) fun _ => maintains_pure _

end Accesses

section Erases

variable {σ : Type} (mu : MutableBackend σ) (text : AddressText) (addr : Address)

theorem erases_decode (result : Except GoError Bytes) :
    Erases (decode result : Call (σ × List (Access Bytes)) UInt64) (decode result) := by
  cases result with
  | error =>
    rw [decode, decode]
    split
    · exact erases_pure _
    · exact erases_fail _
  | ok =>
    rw [decode, decode]
    split
    · exact erases_fail _
    · exact erases_pure _

theorem erases_getBalance : Erases (getBalance mu.logged text addr) (mu.getBalance text addr) :=
  erases_bind (erases_attempt (erases_noting _ _)) erases_decode

theorem erases_addBalance (amount : UInt64) :
    Erases (addBalance mu.logged text addr amount) (mu.addBalance text addr amount) := by
  refine erases_bind (erases_getBalance mu text addr) fun balance => ?_
  dsimp only
  split
  · exact erases_fail _
  · exact erases_bind (erases_noting _ _) fun _ => erases_pure _

theorem erases_subBalance (amount : UInt64) :
    Erases (subBalance mu.logged text addr amount) (mu.subBalance text addr amount) := by
  refine erases_bind (erases_getBalance mu text addr) fun oldBal => ?_
  dsimp only
  split
  · exact erases_fail _
  · split
    · exact erases_bind (erases_noting _ _) fun _ => erases_pure _
    · exact erases_bind (erases_noting _ _) fun _ => erases_pure _

end Erases

end MutableBackend

/-! ## Fees -/

/-- A function of the state manager that charges or credits a fee. -/
inductive FeeCall where
  | canDeduct
  | deduct
  | addBalance (ops : Uint64Ops) (createAccount : Bool)

def FeeCall.call {σ : Type} (mu : MutableBackend σ) (text : AddressText) (addr : Address)
    (amount : UInt64) : FeeCall → Call σ Unit
  | canDeduct => mu.canDeduct text addr amount
  | deduct => mu.deduct text addr amount
  | addBalance ops createAccount => mu.creditBalance text ops addr amount createAccount

namespace StateManager

def sponsorStateKeys (addr : Address) : StateKeys :=
  (∅ : StateKeys).insert (createBalanceKey addr) (Permissions.read.or .write)

end StateManager

namespace FeeCall

open Access Backend MutableBackend StateManager

variable {σ : Type} {mu : MutableBackend σ} {text : AddressText}

theorem read_mem (c : FeeCall) (addr : Address) (amount : UInt64)
    (s : σ × List (Access Bytes)) :
    .read (balanceKey text addr) ∈ (c.call mu.logged text addr amount s).2.2 := by
  let Read := fun s : σ × List (Access Bytes) => .read (balanceKey text addr) ∈ s.2
  have grows : ∀ access, Admits (fun log => .read (balanceKey text addr) ∈ log) access :=
    admits_mem (.read (balanceKey text addr))
  cases c with
  | canDeduct =>
    refine reaches_bind Read (read_mem_getBalance s) fun bal => ?_
    split
    · exact maintains_fail _
    · exact maintains_pure _
  | deduct =>
    refine reaches_bind Read (read_mem_getBalance s) fun oldBal => ?_
    dsimp only
    split
    · exact maintains_fail _
    · split
      · exact maintains_remove (grows _)
      · exact maintains_setBalance (grows _) _
  | addBalance =>
    refine reaches_bind Read (read_mem_getBalance s) fun oldBal => ?_
    split
    · exact maintains_fail _
    · exact maintains_bind (maintains_lift _) fun _ => maintains_setBalance (grows _) _

theorem erases_call (c : FeeCall) (addr : Address) (amount : UInt64) :
    Erases (c.call mu.logged text addr amount) (c.call mu text addr amount) := by
  cases c with
  | canDeduct =>
    refine erases_bind (erases_getBalance mu text addr) fun bal => ?_
    split
    · exact erases_fail _
    · exact erases_pure _
  | deduct =>
    refine erases_bind (erases_getBalance mu text addr) fun oldBal => ?_
    dsimp only
    split
    · exact erases_fail _
    · split
      · exact erases_noting _ _
      · exact erases_noting _ _
  | addBalance =>
    refine erases_bind (erases_getBalance mu text addr) fun oldBal => ?_
    split
    · exact erases_fail _
    · exact erases_bind (erases_lift _) fun _ => erases_noting _ _

theorem balanceKey_notMem (longer : ∀ addr, addressLen < (text.string addr).length)
    (addr other : Address) : balanceKey text other ∉ sponsorStateKeys addr := by
  rw [sponsorStateKeys, Finmap.mem_insert]
  rintro (equal | absurd)
  · exact createBalanceKey_ne_balanceKey longer addr other equal.symm
  · exact Finmap.notMem_empty absurd

/-- **A fee is never charged inside of the declared keys**: over any store and in any state, each
of the three functions reads the balance under a key that `SponsorStateKeys` does not declare. -/
theorem fee_undeclared (longer : ∀ addr, addressLen < (text.string addr).length)
    (c : FeeCall) (addr : Address) (amount : UInt64) (state : σ) :
    ¬ ∀ access ∈ accesses (c.call mu.logged text addr amount) state,
      access.key ∈ sponsorStateKeys addr := by
  intro declared
  exact balanceKey_notMem longer addr addr (declared _ (c.read_mem addr amount (state, [])))

/-- Whether a fee of 40 can be paid from a balance of 100. -/
theorem fee_undeclared_canDeduct :
    (∀ addr, addressLen < (hexText.string addr).length) ∧
      ¬ ∀ access ∈ accesses (FeeCall.canDeduct.call Mutable.backend.logged hexText (fun _ => 1) 40)
        (fundedLedger (fun _ => 1) 100), access.key ∈ sponsorStateKeys fun _ => 1 :=
  ⟨hexText_longer, fee_undeclared hexText_longer _ _ _ _⟩

/-- `Deduct` takes 40 from a balance of 100 and succeeds; it reads and inserts the key with the
text of the address, and declared is the key with its bytes. -/
theorem deduct_outside_of_declared_keys :
    (StateManager.deduct hexText (fun _ => 1) 40 (fundedLedger (fun _ => 1) 100)).1 = .ok () ∧
      accesses (FeeCall.deduct.call Mutable.backend.logged hexText (fun _ => 1) 40)
          (fundedLedger (fun _ => 1) 100) =
        [.read (balanceKey hexText fun _ => 1), .write (balanceKey hexText fun _ => 1)] ∧
      balanceKey hexText (fun _ => 1) ∉ sponsorStateKeys fun _ => 1 := by
  refine ⟨by decide +kernel, by decide +kernel, balanceKey_notMem hexText_longer _ _⟩

end FeeCall

end Aristo
