import Aristo.Storage.Balance

/-!
# `Transfer`

`actions/transfer.go`: a debit of the actor followed by a credit of `To`, two
separate reads and writes of entries that are the same one when the actor pays
itself.  Nothing is undone when the credit fails after the debit, so conservation
needs the argument that it cannot fail: what the debit took is no longer part of
the supply, and a supply that fits in 64 bits leaves room to give it back.
-/

namespace Aristo

open GoBase Call

def maxMemoSize : ℕ := 256

def errOutputValueZero : GoError :=
  GoError.new ⟨"actions", "ErrOutputValueZero"⟩ "value is zero"

def errOutputMemoTooLarge : GoError :=
  GoError.new ⟨"actions", "ErrOutputMemoTooLarge"⟩ "memo is too large"

structure Transfer where
  toAddr : Address
  value : UInt64
  memo : Bytes

structure TransferResult where
  senderBalance : UInt64
  receiverBalance : UInt64
deriving DecidableEq

namespace Transfer

variable (text : AddressText)

def execute (t : Transfer) (actor : Address) : Call Mutable TransferResult := do
  if t.value = 0 then
    Call.fail errOutputValueZero
  else if maxMemoSize < t.memo.length then
    Call.fail errOutputMemoTooLarge
  else
    let senderBalance ← subBalance text actor t.value
    let receiverBalance ← addBalance text t.toAddr t.value
    return { senderBalance, receiverBalance }

/-! ## One call -/

/-- The state a transfer is entitled to: eight-byte entries, and a supply that fits
in 64 bits. -/
structure Sound (mu : Mutable) : Prop where
  entries : EightByteEntries text mu
  fits : (holdings text mu).supply < 2 ^ 64

variable {text} {t : Transfer} {actor : Address} {mu : Mutable}

/-- A call that fails a check, or is not covered, changes nothing. -/
theorem execute_refused (sound : Sound text mu)
    (h : t.value = 0 ∨ maxMemoSize < t.memo.length ∨
      holdings text mu actor < t.value.toNat) :
    ∃ error, execute text t actor mu = (.err error, mu) := by
  unfold execute
  by_cases zero : t.value = 0
  · exact ⟨errOutputValueZero, by simp [zero]⟩
  by_cases long : maxMemoSize < t.memo.length
  · exact ⟨errOutputMemoTooLarge, by simp [zero, long]⟩
  have uncovered : holdings text mu actor < t.value.toNat := by tauto
  refine ⟨errInsufficientBalance, ?_⟩
  simp only [zero, long, if_false]
  exact bind_of_err (subBalance_uncovered sound.entries uncovered)

/-- The value is moved: two entries are written, and the supply is only redistributed. -/
def Moves (text : AddressText) (t : Transfer) (actor : Address) (mu : Mutable) : Prop :=
  ∃ result debited credited, execute text t actor mu =
      (.ok result, Function.update (Function.update mu (balanceKey text actor) debited)
        (balanceKey text t.toAddr) credited) ∧
    EightByteEntries text (execute text t actor mu).2 ∧
    holdings text (execute text t actor mu).2 =
      (holdings text mu).move actor t.toAddr t.value.toNat

/-- A call that passes its checks moves the value. -/
theorem execute_moves (sound : Sound text mu) (positive : t.value ≠ 0)
    (short : t.memo.length ≤ maxMemoSize)
    (covered : t.value.toNat ≤ holdings text mu actor) : Moves text t actor mu := by
  obtain ⟨senderBalance, debited, hsub, -, entries, held⟩ :=
    subBalance_covered sound.entries covered
  -- The debit made room: the credited account holds at most what is left.
  have room : holdings text (Function.update mu (balanceKey text actor) debited) t.toAddr +
      t.value.toNat < 2 ^ 64 := by
    have left := Holdings.supply_debit (holdings text mu) covered
    have bound := Holdings.le_supply
      (holdings text (Function.update mu (balanceKey text actor) debited)) t.toAddr
    have fits := sound.fits
    rw [← held] at left
    omega
  obtain ⟨receiverBalance, credited, hadd, -, entries', held'⟩ :=
    addBalance_fits entries room
  have executed : execute text t actor mu =
      (.ok { senderBalance, receiverBalance },
        Function.update (Function.update mu (balanceKey text actor) debited)
          (balanceKey text t.toAddr) credited) := by
    unfold execute
    simp only [positive, Nat.not_lt.mpr short, if_false]
    rw [bind_of_ok hsub, bind_of_ok hadd]
    rfl
  refine ⟨_, debited, credited, executed, ?_, ?_⟩
  · rw [executed]
    exact entries'
  · rw [executed, held', held]
    rfl

section

variable (sound : Sound text mu) (t : Transfer) (actor : Address)

include sound

/-- **What a call can do.**  From a sound state a call is refused and changes nothing, or moves the
value. -/
theorem execute_cases :
    (∃ error, execute text t actor mu = (.err error, mu)) ∨
      t.value.toNat ≤ holdings text mu actor ∧ Moves text t actor mu := by
  by_cases refused : t.value = 0 ∨ maxMemoSize < t.memo.length ∨
      holdings text mu actor < t.value.toNat
  · exact Or.inl (execute_refused sound refused)
  · simp only [not_or, Nat.not_lt] at refused
    obtain ⟨positive, short, covered⟩ := refused
    exact Or.inr ⟨covered, execute_moves sound positive short covered⟩

/-- The supply is conserved, -/
theorem execute_invariant :
    EightByteEntries text (execute text t actor mu).2 ∧
      (holdings text (execute text t actor mu).2).supply =
        (holdings text mu).supply := by
  rcases execute_cases sound t actor with ⟨error, refused⟩ | ⟨covered, -, -, -, -, entries, moved⟩
  · rw [refused]
    exact ⟨sound.entries, rfl⟩
  · exact ⟨entries, by rw [moved, Holdings.supply_move _ _ covered]⟩

/-- and only the two accounts are written. -/
theorem execute_frame {key : Bytes} (hactor : key ≠ balanceKey text actor)
    (hto : key ≠ balanceKey text t.toAddr) :
    (execute text t actor mu).2 key = mu key := by
  rcases execute_cases sound t actor with ⟨error, refused⟩ | ⟨-, _, _, _, executed, -, -⟩
  · rw [refused]
  · rw [executed]
    simp [hactor, hto]

end

/-- **When a transfer succeeds.** From eight-byte entries whose sum fits in 64 bits a call succeeds
exactly when it passes its two checks and the actor's balance covers the value; otherwise it returns
an error and leaves every entry as it was: the credit never fails behind a debit. -/
theorem execute_succeeded_iff (entries : EightByteEntries text mu)
    (fits : (holdings text mu).supply ≤ 2 ^ 64 - 1) (t : Transfer) (actor : Address) :
    ((execute text t actor mu).1.Succeeded ↔
      0 < t.value ∧ t.memo.length ≤ 256 ∧ t.value.toNat ≤ holdings text mu actor) ∧
    (¬ (execute text t actor mu).1.Succeeded →
      (execute text t actor mu).1.Failed ∧ (execute text t actor mu).2 = mu) := by
  have sound : Sound text mu := ⟨entries, by omega⟩
  by_cases refused : t.value = 0 ∨ maxMemoSize < t.memo.length ∨
      holdings text mu actor < t.value.toNat
  · obtain ⟨error, executed⟩ := execute_refused sound refused
    rw [executed]
    refine ⟨iff_of_false (Outcome.not_succeeded_err error) ?_, fun _ => ⟨trivial, rfl⟩⟩
    rintro ⟨positive, short, covered⟩
    rcases refused with zero | long | uncovered
    · exact absurd zero (UInt64.pos_iff_ne_zero.mp positive)
    · exact absurd short (Nat.not_le.mpr long)
    · exact absurd covered (Nat.not_le.mpr uncovered)
  · simp only [not_or, Nat.not_lt] at refused
    obtain ⟨positive, short, covered⟩ := refused
    obtain ⟨result, debited, credited, executed, -, -⟩ :=
      execute_moves sound positive short covered
    rw [executed]
    refine ⟨iff_of_true trivial ⟨UInt64.pos_iff_ne_zero.mpr positive, short, covered⟩, ?_⟩
    exact fun failed => absurd trivial failed

/-- An account that pays its whole balance to itself, and then one unit too much. -/
theorem execute_succeeded_iff_funded :
    let ledger := fundedLedger (fun _ => 1) 100
    EightByteEntries hexText ledger ∧ (holdings hexText ledger).supply ≤ 2 ^ 64 - 1 ∧
      (execute hexText ⟨fun _ => 1, 100, []⟩ (fun _ => 1) ledger).1.Succeeded ∧
      (execute hexText ⟨fun _ => 1, 101, []⟩ (fun _ => 1) ledger).2 = ledger := by
  intro ledger
  have entries : EightByteEntries hexText ledger := fundedLedger_entries _ _
  have fits : (holdings hexText ledger).supply ≤ 2 ^ 64 - 1 := by
    rw [fundedLedger_supply]
    decide
  have held : holdings hexText ledger (fun _ => 1) = 100 :=
    holdings_of_ok (readBalance_fundedLedger _ _)
  refine ⟨entries, fits, ?_, ?_⟩
  · refine (execute_succeeded_iff entries fits _ _).1.mpr ⟨by decide, by decide, ?_⟩
    rw [held]
    decide
  · refine ((execute_succeeded_iff entries fits _ _).2 fun succeeded => ?_).2
    have covered := ((execute_succeeded_iff entries fits _ _).1.mp succeeded).2.2
    rw [held] at covered
    exact absurd covered (by decide)

/-- The entries stay eight bytes long, whatever the supply. -/
theorem execute_maintains (t : Transfer) (actor : Address) :
    Call.Maintains (EightByteEntries text) (execute text t actor) := by
  unfold execute
  split
  · exact maintains_fail _
  split
  · exact maintains_fail _
  · exact maintains_bind (subBalance_maintains actor t.value) fun _ =>
      maintains_bind (addBalance_maintains t.toAddr t.value) fun _ => maintains_pure _

/-! ## What a call returns -/

/-- The balances that are reported are those of the debit and of the credit. -/
theorem execute_eq_ok {result : TransferResult} {after : Mutable}
    (executed : execute text t actor mu = (.ok result, after)) :
    t.value ≠ 0 ∧ ∃ middle, subBalance text actor t.value mu = (.ok result.senderBalance, middle) ∧
      addBalance text t.toAddr t.value middle = (.ok result.receiverBalance, after) := by
  unfold execute at executed
  split at executed
  case isTrue => cases executed
  case isFalse positive =>
  split at executed
  case isTrue => cases executed
  obtain ⟨senderBalance, middle, debited, rest⟩ := bind_eq_ok.mp executed
  obtain ⟨receiverBalance, last, credited, ⟨⟩⟩ := bind_eq_ok.mp rest
  exact ⟨positive, middle, debited, credited⟩

/-- **What a transfer reports.**  The two balances that a successful call returns are the balances
of the actor and of `To` in the state it leaves exactly when they are two accounts.  An actor that
pays itself is told the balance between the debit and the credit. -/
theorem execute_reports_iff {result : TransferResult} {after : Mutable}
    (executed : execute text t actor mu = (.ok result, after)) :
    ((getBalance text actor after).1 = .ok result.senderBalance ∧
        (getBalance text t.toAddr after).1 = .ok result.receiverBalance) ↔ t.toAddr ≠ actor := by
  obtain ⟨positive, middle, debited, credited⟩ := execute_eq_ok executed
  obtain ⟨contents, left, rfl⟩ := subBalance_eq_ok debited
  obtain ⟨balance, held, sum, rfl⟩ := addBalance_eq_ok credited
  have receiver : (getBalance text t.toAddr (KeyValue.insert
      (Function.update mu (balanceKey text actor) contents) (balanceKey text t.toAddr)
      (putUint64 result.receiverBalance))).1 = .ok result.receiverBalance := by
    simp [getBalance_apply]
  by_cases same : t.toAddr = actor
  · -- the credit has overwritten the entry whose balance was returned for the sender
    have between : balance = result.senderBalance := by
      rw [same, Function.update_self, left] at held
      exact (Outcome.ok.inj held).symm
    refine iff_of_false ?_ (not_not.mpr same)
    rintro ⟨sender, -⟩
    rw [same] at receiver
    have unchanged := Outcome.ok.inj (receiver.symm.trans (by rw [← sender, same]))
    rw [sum, between] at unchanged
    exact positive (by simpa using unchanged)
  · refine iff_of_true ⟨?_, receiver⟩ same
    have untouched := getBalance_update_of_ne text (Ne.symm same)
      (Function.update mu (balanceKey text actor) contents)
      (some (putUint64 result.receiverBalance))
    refine untouched.trans ?_
    rw [getBalance_apply, Function.update_self, left]

/-- Forty units from an account of a hundred to another one. -/
theorem execute_reports_iff_paid :
    let ledger := fundedLedger (fun _ => 1) 100
    let paid : Transfer := ⟨fun _ => 2, 40, []⟩
    ∃ result after, execute hexText paid (fun _ => 1) ledger = (.ok result, after) ∧
      (getBalance hexText (fun _ => 1) after).1 = .ok result.senderBalance ∧
      (getBalance hexText (fun _ => 2) after).1 = .ok result.receiverBalance := by
  intro ledger paid
  have executed : execute hexText paid (fun _ => 1) ledger =
      (.ok ⟨60, 40⟩, (execute hexText paid (fun _ => 1) ledger).2) :=
    Prod.ext (by decide +kernel) rfl
  exact ⟨⟨60, 40⟩, _, executed, (execute_reports_iff executed).mpr (by decide)⟩

/-- A hundred units from an account of a hundred to itself: it holds a hundred after the call and is
told that it holds nothing. -/
theorem execute_misreports_self :
    let ledger := fundedLedger (fun _ => 1) 100
    let paid : Transfer := ⟨fun _ => 1, 100, []⟩
    ∃ result after, execute hexText paid (fun _ => 1) ledger = (.ok result, after) ∧
      result.senderBalance = 0 ∧ (getBalance hexText (fun _ => 1) after).1 = .ok 100 := by
  intro ledger paid
  exact ⟨⟨0, 100⟩, (execute hexText paid (fun _ => 1) ledger).2,
    Prod.ext (by decide +kernel) rfl, rfl, by decide +kernel⟩

/-! ## Runs -/

/-- One call of a run: who calls, and the action. -/
abbrev Submission := Address × Transfer

variable (text)

/-- The state a call leaves behind, whether it succeeds or fails. -/
def step (mu : Mutable) (submission : Submission) : Mutable :=
  (execute text submission.2 submission.1 mu).2

/-- The invariant of a run: a sound state with the supply it started with. -/
def Conserves (supply : ℕ) (mu : Mutable) : Prop :=
  EightByteEntries text mu ∧ (holdings text mu).supply = supply

/-- One call keeps the invariant. -/
theorem step_conserves {supply : ℕ} (fits : supply < 2 ^ 64) (mu : Mutable)
    (submission : Submission) (h : Conserves text supply mu) :
    Conserves text supply (step text mu submission) := by
  have sound : Sound text mu := ⟨h.1, by rw [h.2]; exact fits⟩
  obtain ⟨entries, same⟩ := execute_invariant sound submission.2 submission.1
  exact ⟨entries, by rw [step, same, h.2]⟩

/-- **Conservation along every run.**  From a sound state, after any calls and one
more, the supply is the one the run started with, every balance entry is eight
bytes long, and the last call touched no entry but its actor's and its `To`'s. -/
theorem run_conserves_supply {mu : Mutable} (entries : EightByteEntries text mu)
    (fits : (holdings text mu).supply ≤ 2 ^ 64 - 1)
    (submissions : List Submission) (last : Submission) :
    let before := run (step text) mu submissions
    let after := run (step text) mu (submissions ++ [last])
    (holdings text after).supply = (holdings text mu).supply ∧
      EightByteEntries text after ∧
      ∀ key, key ≠ balanceKey text last.1 → key ≠ balanceKey text last.2.toAddr →
        after key = before key := by
  intro before after
  have sound : Sound text mu := ⟨entries, by omega⟩
  have conserves (submissions : List Submission) :
      Conserves text (holdings text mu).supply (run (step text) mu submissions) :=
    run_invariant (fun mu submission (_ : True) => step_conserves text sound.fits mu submission)
      ⟨entries, rfl⟩ (fun _ _ => trivial)
  obtain ⟨entriesAfter, supplyAfter⟩ := conserves (submissions ++ [last])
  obtain ⟨entriesBefore, supplyBefore⟩ := conserves submissions
  refine ⟨supplyAfter, entriesAfter, fun key hactor hto => ?_⟩
  have soundBefore : Sound text before := ⟨entriesBefore, by
    rw [supplyBefore]
    exact sound.fits⟩
  have stepped : after = step text before last := by
    simp only [after, before, run_append, run_cons, run_nil]
  rw [stepped]
  exact execute_frame soundBefore last.2 last.1 hactor hto

/-- A payment, a payment to oneself and a refused payment, from one funded account. -/
theorem run_conserves_supply_funded :
    let ledger := fundedLedger (fun _ => 1) 100
    let submissions : List Submission :=
      [(fun _ => 1, ⟨fun _ => 2, 40, []⟩), (fun _ => 1, ⟨fun _ => 1, 60, []⟩)]
    let last : Submission := (fun _ => 2, ⟨fun _ => 1, 41, []⟩)
    EightByteEntries hexText ledger ∧ (holdings hexText ledger).supply ≤ 2 ^ 64 - 1 ∧
      (holdings hexText (run (step hexText) ledger (submissions ++ [last]))).supply =
        (holdings hexText ledger).supply := by
  intro ledger submissions last
  have entries : EightByteEntries hexText ledger := fundedLedger_entries _ _
  have fits : (holdings hexText ledger).supply ≤ 2 ^ 64 - 1 := by
    rw [fundedLedger_supply]
    decide
  exact ⟨entries, fits,
    (run_conserves_supply hexText entries fits submissions last).1⟩

end Transfer

end Aristo
