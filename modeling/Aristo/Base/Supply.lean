import Mathlib.Algebra.BigOperators.Group.Finset.Basic
import Mathlib.Algebra.BigOperators.Group.Finset.Piecewise
import Mathlib.Algebra.Order.BigOperators.Group.Finset

/-!
# Supply: what a set of accounts holds together

The purpose of a ledger, without bytes or machine words: every account holds a
natural number, a debit takes from one account, a credit gives to one account, and
moving value is a debit followed by a credit.  Moving value keeps the supply
whether or not the two accounts are the same (`supply_move`).
-/

namespace GoBase

open scoped BigOperators

variable {ι : Type} [DecidableEq ι]

/-- What each account holds. -/
abbrev Holdings (ι : Type) := ι → ℕ

namespace Holdings

def debit (holdings : Holdings ι) (account : ι) (amount : ℕ) : Holdings ι :=
  Function.update holdings account (holdings account - amount)

def credit (holdings : Holdings ι) (account : ι) (amount : ℕ) : Holdings ι :=
  Function.update holdings account (holdings account + amount)

/-- Move `amount` from one account to another, possibly the same. -/
def move (holdings : Holdings ι) (source target : ι) (amount : ℕ) : Holdings ι :=
  (holdings.debit source amount).credit target amount

variable [Fintype ι]

/-- What all accounts hold together. -/
def supply (holdings : Holdings ι) : ℕ :=
  ∑ account, holdings account

omit [DecidableEq ι] in
theorem le_supply (holdings : Holdings ι) (account : ι) : holdings account ≤ holdings.supply :=
  Finset.single_le_sum (fun _ _ => Nat.zero_le _) (Finset.mem_univ account)

theorem supply_update (holdings : Holdings ι) (account : ι) (amount : ℕ) :
    supply (Function.update holdings account amount) + holdings account =
      holdings.supply + amount := by
  have rest := Finset.sum_update_of_mem (Finset.mem_univ account) holdings amount
  have whole := Finset.sum_update_of_mem (Finset.mem_univ account) holdings
    (holdings account)
  rw [Function.update_eq_self] at whole
  unfold supply
  omega

theorem supply_debit (holdings : Holdings ι) {account : ι} {amount : ℕ}
    (covered : amount ≤ holdings account) :
    (holdings.debit account amount).supply + amount = holdings.supply := by
  have exchanged := holdings.supply_update account (holdings account - amount)
  unfold debit
  omega

theorem supply_credit (holdings : Holdings ι) (account : ι) (amount : ℕ) :
    (holdings.credit account amount).supply = holdings.supply + amount := by
  have exchanged := holdings.supply_update account (holdings account + amount)
  unfold credit
  omega

theorem supply_move (holdings : Holdings ι) {source : ι} (target : ι) {amount : ℕ}
    (covered : amount ≤ holdings source) :
    (holdings.move source target amount).supply = holdings.supply := by
  rw [move, supply_credit, supply_debit holdings covered]

end Holdings

end GoBase
