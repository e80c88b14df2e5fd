import Mathlib.Algebra.Order.Field.Rat
import Mathlib.Order.WithBot

/-!
# Floating-point numbers under comparison

A `float64` is a number, one of the two infinities, or not a number.  Comparisons are described
here, and the quotient of two counters: `a < b` and `a ≤ b` are Go's, which are false as soon as
one side is not a number and otherwise compare along the line from `-Inf` to `+Inf` (`lt_iff`,
`le_iff`).  Both zeros are the number zero.
-/

namespace GoBase

inductive Float64 where
  | nan
  | negInf
  | finite (value : ℚ)
  | posInf
deriving DecidableEq

namespace Float64

/-- `math.MaxFloat64`. -/
def max : Float64 := finite ((2 ^ 53 - 1) * 2 ^ 971)

/-- Go's `<`. -/
def less : Float64 → Float64 → Bool
  | negInf, finite _ => true
  | negInf, posInf => true
  | finite _, posInf => true
  | finite x, finite y => x < y
  | _, _ => false

instance : LT Float64 := ⟨fun a b => less a b = true⟩

instance decidableLT (a b : Float64) : Decidable (a < b) :=
  inferInstanceAs (Decidable (less a b = true))

/-- Go's `<=`. -/
instance : LE Float64 := ⟨fun a b => a < b ∨ a ≠ nan ∧ a = b⟩

instance decidableLE (a b : Float64) : Decidable (a ≤ b) :=
  inferInstanceAs (Decidable (a < b ∨ a ≠ nan ∧ a = b))

/-! ## Quotients of counters -/

/-- `float64(x) / float64(y)` of two counters, without rounding. -/
def quotient (x y : ℕ) : Float64 :=
  if y = 0 then if x = 0 then nan else posInf else finite (x / y)

theorem quotient_zero_ne_finite (x : ℕ) (value : ℚ) : quotient x 0 ≠ finite value := by
  rw [quotient, if_pos rfl]
  split <;> simp

/-! ## The line -/

/-- The place on the line; `NaN` has none. -/
def place : Float64 → Option (WithBot (WithTop ℚ))
  | nan => none
  | negInf => some ⊥
  | finite value => some ((value : WithTop ℚ) : WithBot (WithTop ℚ))
  | posInf => some ((⊤ : WithTop ℚ) : WithBot (WithTop ℚ))

theorem place_injective {a b : Float64} {x : WithBot (WithTop ℚ)} (ha : a.place = some x)
    (hb : b.place = some x) : a = b := by
  cases a <;> cases b <;> simp_all [place, eq_comm]

theorem lt_iff {a b : Float64} : a < b ↔ ∃ x ∈ a.place, ∃ y ∈ b.place, x < y := by
  change less a b = true ↔ _
  have top (x : ℚ) : ((x : WithTop ℚ) : WithBot (WithTop ℚ)) < ((⊤ : WithTop ℚ) : WithBot _) :=
    WithBot.coe_lt_coe.mpr (WithTop.coe_lt_top x)
  cases a <;> cases b <;> simp [less, place, -WithBot.coe_top, top]

theorem le_iff {a b : Float64} : a ≤ b ↔ ∃ x ∈ a.place, ∃ y ∈ b.place, x ≤ y := by
  change (a < b ∨ a ≠ nan ∧ a = b) ↔ _
  rw [lt_iff]
  constructor
  · rintro (⟨x, hx, y, hy, lt⟩ | ⟨number, rfl⟩)
    · exact ⟨x, hx, y, hy, le_of_lt lt⟩
    · cases h : a.place with
      | none => cases a <;> simp_all [place]
      | some x => exact ⟨x, rfl, x, rfl, le_rfl⟩
  · rintro ⟨x, hx, y, hy, le⟩
    rcases lt_or_eq_of_le le with lt | rfl
    · exact Or.inl ⟨x, hx, y, hy, lt⟩
    · refine Or.inr ⟨?_, place_injective hx hy⟩
      rintro rfl
      cases hx

end Float64

end GoBase
