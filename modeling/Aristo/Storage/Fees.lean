import Aristo.Storage.Balance

/-!
# The fee path

`StateManager.CanDeduct` and `StateManager.Deduct` of `storage/state_manager.go`
charge fees against the balances of `storage/storage.go`.  `Deduct` is a second
debit, written independently of `SubBalance`, and it differs in one branch: where
the balance becomes zero it removes `createBalanceKey(addr)`, which spells the
address by its raw bytes, while every balance is stored under `BalanceKey(addr)`,
which spells it by its text.  `debitsAgree_iff` is the exact extent of the
agreement of the two.
-/

namespace Aristo

open GoBase Call

def createBalanceKey (addr : Address) : Bytes :=
  balancePrefix :: Address.slice addr

namespace StateManager

variable (text : AddressText)

def canDeduct (addr : Address) (amount : UInt64) : Call Mutable Unit := do
  let bal ← getBalance text addr
  if bal < amount then
    Call.fail errInsufficientBalance
  else
    return ()

def deduct (addr : Address) (amount : UInt64) : Call Mutable Unit := do
  let oldBal ← getBalance text addr
  if oldBal < amount then
    Call.fail errInsufficientBalance
  else
    let newBal := oldBal - amount
    if newBal = 0 then
      Mutable.remove (createBalanceKey addr)
    else
      setBalance text addr newBal

variable {text} {addr : Address} {amount balance : UInt64} {mu : Mutable}

theorem deduct_of_ok (h : readBalance (mu (balanceKey text addr)) = .ok balance) :
    deduct text addr amount mu =
      if balance < amount then
        (.err errInsufficientBalance, mu)
      else if balance - amount = 0 then
        (.ok (), KeyValue.remove mu (createBalanceKey addr))
      else
        (.ok (), KeyValue.insert mu (balanceKey text addr)
          (putUint64 (balance - amount))) := by
  rw [deduct, bind_of_ok (by rw [getBalance_apply, h])]
  split_ifs with insufficient whole
  · rfl
  all_goals
    simp only [whole, if_false, if_true]
    rfl

theorem deduct_maintains (addr : Address) (amount : UInt64) :
    Call.Maintains (EightByteEntries text) (deduct text addr amount) := by
  refine maintains_bind (getBalance_maintains addr) fun oldBal => ?_
  split
  · exact maintains_fail _
  · dsimp only
    split
    · exact remove_maintains _
    · exact setBalance_maintains addr _

/-! ## The credit -/

variable (text) in
def addBalance (ops : Uint64Ops) (addr : Address) (amount : UInt64) (createAccount : Bool) :
    Call Mutable Unit := do
  let oldBal ← getBalance text addr
  if createAccount = false ∧ oldBal = 0 then
    Call.fail errNotFound
  else
    let newBal ← Call.lift (ops.add64 oldBal amount)
    setBalance text addr newBal

theorem addBalance_maintains (ops : Uint64Ops) (addr : Address) (amount : UInt64)
    (createAccount : Bool) :
    Call.Maintains (EightByteEntries text) (addBalance text ops addr amount createAccount) := by
  refine maintains_bind (getBalance_maintains addr) fun oldBal => ?_
  split
  · exact maintains_fail _
  · exact maintains_bind (maintains_lift _) fun newBal =>
      setBalance_maintains addr newBal

theorem add_lt_left_iff_overflow (a b : UInt64) : a + b < a ↔ 2 ^ 64 ≤ a.toNat + b.toNat := by
  have first := a.toNat_lt
  have second := b.toNat_lt
  rw [UInt64.lt_iff_toNat_lt, UInt64.toNat_add]
  omega

/-- With `createAccount`, the credit of the state manager is the credit of `storage.go`. -/
theorem addBalance_create_cases (ops : Uint64Ops) (addr : Address) (amount : UInt64)
    (mu : Mutable) :
    (∃ error error', Aristo.addBalance text addr amount mu = (.err error, mu) ∧
      addBalance text ops addr amount true mu = (.err error', mu)) ∨
    ∃ newBalance after, Aristo.addBalance text addr amount mu = (.ok newBalance, after) ∧
      addBalance text ops addr amount true mu = (.ok (), after) := by
  cases held : readBalance (mu (balanceKey text addr)) with
  | panicked => exact absurd held (readBalance_ne_panicked _)
  | err error =>
    have failed : addBalance text ops addr amount true mu = (.err error, mu) :=
      bind_of_err (by rw [getBalance_apply, held])
    exact Or.inl ⟨error, error, addBalance_of_err held, failed⟩
  | ok balance =>
    have entered : addBalance text ops addr amount true mu =
        (Call.lift (ops.add64 balance amount) >>= setBalance text addr) mu :=
      bind_of_ok (by rw [getBalance_apply, held])
    rw [entered, addBalance_of_ok held]
    by_cases overflow : balance + amount < balance
    · obtain ⟨error, refused⟩ :=
        ops.add64_overflow balance amount ((add_lt_left_iff_overflow _ _).mp overflow)
      rw [if_pos overflow, lift_bind_of_error refused]
      exact Or.inl ⟨_, error, rfl, rfl⟩
    · have fits := Nat.not_le.mp (mt (add_lt_left_iff_overflow _ _).mpr overflow)
      rw [if_neg overflow, lift_bind_of_ok (ops.add64_fits balance amount fits), setBalance_apply]
      exact Or.inr ⟨_, _, rfl, rfl⟩

/-! ## The two debits -/

variable (text addr amount mu)

/-- `Deduct` and `SubBalance` have the same outcome: they fail together with the ledger unchanged,
or both ledgers report what a debit of `amount` from `addr` leaves. -/
structure DebitsAgree : Prop where
  failed_iff :
    (deduct text addr amount mu).1.Failed ↔ (subBalance text addr amount mu).1.Failed
  unchanged : (deduct text addr amount mu).1.Failed →
    (deduct text addr amount mu).2 = mu ∧ (subBalance text addr amount mu).2 = mu
  same : (deduct text addr amount mu).1.Succeeded → ∀ other,
    (getBalance text other (deduct text addr amount mu).2).1 =
      (getBalance text other (subBalance text addr amount mu).2).1
  debited : (deduct text addr amount mu).1.Succeeded → ∃ old,
    (getBalance text addr mu).1 = .ok old ∧
      (getBalance text addr (deduct text addr amount mu).2).1 = .ok (old - amount)
  others : (deduct text addr amount mu).1.Succeeded → ∀ other, other ≠ addr →
    (getBalance text other (deduct text addr amount mu).2).1 = (getBalance text other mu).1

variable {text addr amount mu}

section

variable (longer : ∀ addr, addressLen < (text.string addr).length)

include longer

/-- A key spelled by raw bytes is no balance key, since the text of an address is
longer than the address. -/
theorem createBalanceKey_ne_balanceKey (addr other : Address) :
    createBalanceKey addr ≠ balanceKey text other := by
  intro equal
  have lengths := congrArg List.length (List.cons.inj equal).2
  rw [Address.length_slice] at lengths
  exact absurd lengths (Nat.ne_of_lt (longer other))

theorem getBalance_remove_createBalanceKey (addr other : Address) (mu : Mutable) :
    (getBalance text other (KeyValue.remove mu (createBalanceKey addr))).1 =
      (getBalance text other mu).1 := by
  rw [getBalance_apply, getBalance_apply,
    KeyValue.remove_of_ne _ (createBalanceKey_ne_balanceKey longer addr other).symm]

/-- **The slip.**  Deducting the whole balance leaves the whole balance. -/
theorem deduct_whole_balance (h : readBalance (mu (balanceKey text addr)) = .ok amount) :
    (deduct text addr amount mu).1.Succeeded ∧
      (getBalance text addr (deduct text addr amount mu).2).1 = .ok amount := by
  rw [deduct_of_ok h, if_neg (UInt64.lt_irrefl amount), if_pos (UInt64.sub_self amount)]
  exact ⟨trivial, by rw [getBalance_remove_createBalanceKey longer, getBalance_apply, h]⟩

theorem not_debitsAgree_of_whole_balance (h : readBalance (mu (balanceKey text addr)) = .ok amount)
    (positive : amount ≠ 0) :
    ¬ DebitsAgree text addr amount mu := by
  intro agree
  obtain ⟨succeeded, left⟩ := deduct_whole_balance longer h
  obtain ⟨old, before, after⟩ := agree.debited succeeded
  rw [getBalance_apply, h] at before
  obtain rfl : amount = old := by simpa using before
  rw [left, UInt64.sub_self] at after
  exact positive (by simpa using after)

theorem debitsAgree_of_zero (h : readBalance (mu (balanceKey text addr)) = .ok 0) :
    DebitsAgree text addr 0 mu := by
  have hdeduct : deduct text addr 0 mu =
      (.ok (), KeyValue.remove mu (createBalanceKey addr)) := by
    rw [deduct_of_ok h]
    rfl
  have hsub : subBalance text addr 0 mu =
      (.ok 0, KeyValue.remove mu (balanceKey text addr)) := by
    rw [subBalance_of_ok h]
    rfl
  refine ⟨by simp [hdeduct, hsub], by simp [hdeduct], ?_, ?_, ?_⟩
  · intro _ other
    rw [hdeduct, hsub, getBalance_remove_createBalanceKey longer]
    -- `Deduct` leaves the entry and `SubBalance` removes it; it reads as zero either way
    by_cases same : other = addr
    · subst same
      simp [getBalance_apply, h]
    · exact (getBalance_update_of_ne text same mu none).symm
  · intro _
    refine ⟨0, by rw [getBalance_apply, h], ?_⟩
    rw [hdeduct, getBalance_remove_createBalanceKey longer, getBalance_apply, h]
    rfl
  · intro _ other _
    rw [hdeduct, getBalance_remove_createBalanceKey longer]

end

/-- Two debits that fail alike agree. -/
theorem debitsAgree_of_failed {error : GoError}
    (hdeduct : deduct text addr amount mu = (.err error, mu))
    (hsub : subBalance text addr amount mu = (.err error, mu)) :
    DebitsAgree text addr amount mu :=
  ⟨by simp [hdeduct, hsub], by simp [hdeduct, hsub], by simp [hdeduct], by simp [hdeduct],
    by simp [hdeduct]⟩

theorem debitsAgree_of_ne (h : readBalance (mu (balanceKey text addr)) = .ok balance)
    (ne : balance ≠ amount) : DebitsAgree text addr amount mu := by
  have rest : balance - amount ≠ 0 := fun zero => ne (by
    simpa using congrArg (· + amount) zero)
  by_cases insufficient : balance < amount
  · exact debitsAgree_of_failed (by rw [deduct_of_ok h, if_pos insufficient])
      (by rw [subBalance_of_ok h, if_pos insufficient])
  · have hdeduct : deduct text addr amount mu = (.ok (),
        KeyValue.insert mu (balanceKey text addr) (putUint64 (balance - amount))) := by
      rw [deduct_of_ok h, if_neg insufficient, if_neg rest]
    have hsub : subBalance text addr amount mu = (.ok (balance - amount),
        KeyValue.insert mu (balanceKey text addr) (putUint64 (balance - amount))) := by
      rw [subBalance_of_ok h, if_neg insufficient, if_neg rest]
    refine ⟨by simp [hdeduct, hsub], by simp [hdeduct], by simp [hdeduct, hsub], ?_, ?_⟩
    · intro _
      exact ⟨balance, by rw [getBalance_apply, h], by simp [hdeduct, getBalance_apply]⟩
    · intro _ other different
      rw [hdeduct]
      exact getBalance_update_of_ne text different mu _



/-- **The extent of the agreement.**  The fee path and `SubBalance` have the same
outcome exactly when `amount` is zero or is not the whole balance of `addr`. -/
theorem debitsAgree_iff (longer : ∀ addr, addressLen < (text.string addr).length)
    (addr : Address) (amount : UInt64) (mu : Mutable) :
    DebitsAgree text addr amount mu ↔
      (amount = 0 ∨ (getBalance text addr mu).1 ≠ .ok amount) := by
  rw [getBalance_apply]
  cases h : readBalance (mu (balanceKey text addr)) with
  | panicked => exact absurd h (readBalance_ne_panicked _)
  | err =>
    exact iff_of_true (debitsAgree_of_failed
      (bind_of_err (by rw [getBalance_apply, h])) (subBalance_of_err h))
      (Or.inr (by simp))
  | ok balance =>
    by_cases whole : balance = amount
    · subst whole
      by_cases zero : balance = 0
      · subst zero
        exact iff_of_true (debitsAgree_of_zero longer h) (Or.inl rfl)
      · exact iff_of_false (not_debitsAgree_of_whole_balance longer h zero)
          (by simp [zero])
    · exact iff_of_true (debitsAgree_of_ne h whole) (Or.inr (by simpa using whole))

/-- A fee of 40 from a balance of 100, which is not the whole balance. -/
theorem debitsAgree_iff_part_of_balance :
    (∀ addr, addressLen < (hexText.string addr).length) ∧
      DebitsAgree hexText (fun _ => 1) 40 (fundedLedger (fun _ => 1) 100) := by
  refine ⟨hexText_longer, (debitsAgree_iff hexText_longer _ _ _).mpr (Or.inr ?_)⟩
  rw [getBalance_apply, readBalance_fundedLedger]
  decide

/-- A fee of 100 from a balance of 100 is charged by `SubBalance` and not by
`Deduct`. -/
theorem not_debitsAgree_whole_balance :
    ¬ DebitsAgree hexText (fun _ => 1) 100 (fundedLedger (fun _ => 1) 100) :=
  not_debitsAgree_of_whole_balance hexText_longer (readBalance_fundedLedger _ _) (by decide)

end StateManager

end Aristo
