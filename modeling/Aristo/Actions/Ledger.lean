import Aristo.Actions.Transfer
import Aristo.Storage.Fees

/-!
# The ledger as it is reached

Six functions write balances: `SetBalance`, `AddBalance` and `SubBalance` of `storage/storage.go`,
`AddBalance` and `Deduct` of the state manager, and `Transfer.Execute`.  `GetBalance` reads an entry
of at least eight bytes, `GetBalanceFromState` one of exactly eight.  The two agree on every ledger
that the six functions can leave behind: each of them keeps every entry at eight bytes.
-/

namespace Aristo

open GoBase

/-- A call that can change a balance. -/
inductive LedgerCall where
  | setBalance (addr : Address) (balance : UInt64)
  | addBalance (addr : Address) (amount : UInt64)
  | subBalance (addr : Address) (amount : UInt64)
  | credit (addr : Address) (amount : UInt64) (createAccount : Bool)
  | deduct (addr : Address) (amount : UInt64)
  | transfer (actor : Address) (t : Transfer)

namespace LedgerCall

variable (ops : Uint64Ops) (text : AddressText)

/-- The ledger that a call leaves behind, whether it succeeds or fails. -/
def apply (mu : Mutable) : LedgerCall → Mutable
  | setBalance addr balance => (Aristo.setBalance text addr balance mu).2
  | addBalance addr amount => (Aristo.addBalance text addr amount mu).2
  | subBalance addr amount => (Aristo.subBalance text addr amount mu).2
  | credit addr amount createAccount =>
    (StateManager.addBalance text ops addr amount createAccount mu).2
  | deduct addr amount => (StateManager.deduct text addr amount mu).2
  | transfer actor t => (t.execute text actor mu).2

variable {ops text}

theorem apply_entries {mu : Mutable} (entries : EightByteEntries text mu) (call : LedgerCall) :
    EightByteEntries text (apply ops text mu call) := by
  cases call with
  | setBalance addr balance => exact setBalance_maintains addr balance mu entries
  | addBalance addr amount => exact addBalance_maintains addr amount mu entries
  | subBalance addr amount => exact subBalance_maintains addr amount mu entries
  | credit addr amount createAccount =>
    exact StateManager.addBalance_maintains ops addr amount createAccount mu entries
  | deduct addr amount => exact StateManager.deduct_maintains addr amount mu entries
  | transfer actor t => exact Transfer.execute_maintains t actor mu entries

variable (ops text)

/-- The ledgers that calls leave behind, from the empty one. -/
def reached (calls : List LedgerCall) : Mutable :=
  run (apply ops text) (fun _ => none) calls

theorem reached_entries (calls : List LedgerCall) :
    EightByteEntries text (reached ops text calls) := by
  have empty : EightByteEntries text (fun _ => none) := by
    intro addr value found
    cases found
  have step : ∀ mu call, EightByteEntries text mu →
      EightByteEntries text (apply ops text mu call) :=
    fun mu call entries => apply_entries entries call
  exact run_preserves step empty calls

/-- **The two readers and the two credits agree.** On every ledger that is reached from the empty
one, `GetBalance` and `GetBalanceFromState` return one amount for every address, and the two
credits, the one of the state manager with `createAccount`, fail on the same inputs and otherwise
leave the same ledger. -/
theorem reached_agrees (calls : List LedgerCall) (addr : Address) (amount : UInt64) :
    let mu := reached ops text calls
    (∃ balance, (getBalance text addr mu).1 = .ok balance ∧
      getBalanceFromState ops text (Mutable.readState mu) addr = .ok balance) ∧
    ((Aristo.addBalance text addr amount mu).1.Failed ↔
      (StateManager.addBalance text ops addr amount true mu).1.Failed) ∧
    (¬ (Aristo.addBalance text addr amount mu).1.Failed →
      (Aristo.addBalance text addr amount mu).1.Succeeded ∧
      (StateManager.addBalance text ops addr amount true mu).1.Succeeded ∧
      (Aristo.addBalance text addr amount mu).2 =
        (StateManager.addBalance text ops addr amount true mu).2) := by
  intro mu
  have entries : EightByteEntries text mu := reached_entries ops text calls
  obtain ⟨balance, held⟩ := entries.readBalance_ok addr
  have readers : (getBalance text addr mu).1 = .ok balance ∧
      getBalanceFromState ops text (Mutable.readState mu) addr = .ok balance := by
    refine ⟨by rw [getBalance_apply, held], ?_⟩
    rw [entries.getBalanceFromState_eq ops addr, held]
  rcases StateManager.addBalance_create_cases ops addr amount mu with
    ⟨error, error', failed, failed'⟩ | ⟨newBalance, after, done, done'⟩
  · rw [failed, failed']
    exact ⟨⟨balance, readers⟩, Iff.rfl, fun notFailed => absurd trivial notFailed⟩
  · rw [done, done']
    exact ⟨⟨balance, readers⟩, Iff.rfl, fun _ => ⟨trivial, trivial, rfl⟩⟩

/-- A hundred units are credited and forty transferred; both readers then find sixty. -/
theorem reached_agrees_checkedOps :
    let mu := reached checkedOps hexText
      [.credit (fun _ => 1) 100 true, .transfer (fun _ => 1) ⟨fun _ => 2, 40, []⟩]
    (getBalance hexText (fun _ => 1) mu).1 = .ok 60 ∧
      getBalanceFromState checkedOps hexText (Mutable.readState mu) (fun _ => 1) = .ok 60 := by
  intro mu
  have read : (getBalance hexText (fun _ => 1) mu).1 = .ok 60 := by decide +kernel
  obtain ⟨balance, first, second⟩ := (reached_agrees checkedOps hexText
    [.credit (fun _ => 1) 100 true, .transfer (fun _ => 1) ⟨fun _ => 2, 40, []⟩]
    (fun _ => 1) 0).1
  obtain rfl : balance = 60 := Outcome.ok.inj (first.symm.trans read)
  exact ⟨read, second⟩

end LedgerCall

end Aristo
