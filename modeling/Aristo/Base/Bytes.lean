import Mathlib.Data.List.Basic
import Mathlib.Data.List.Infix
import Mathlib.Data.List.TakeWhile

/-!
# Byte strings

A Go `string` and a `[]byte` are both `Bytes`: nothing here depends on the difference.  The module
has what keys are made of: literals (`ascii`), the order of `bytes.Compare`, text joined by a
separator byte, of which `append_sep_inj` says that a field without the separator can be read back,
and text split at a separator byte, all the way (`List.splitOn`) or into so many parts (`splitN`).
-/

namespace GoBase

/-- A Go `string` or `[]byte`. -/
abbrev Bytes := List UInt8

/-- The bytes of a string literal.  Every literal of the sources is ASCII. -/
def ascii (literal : String) : Bytes :=
  literal.toList.map fun c => c.toNat.toUInt8

def slash : UInt8 := 47

/-- `bytes.HasPrefix`. -/
def hasPrefix (text start : Bytes) : Bool :=
  start.isPrefixOf text

theorem hasPrefix_iff {text start : Bytes} : hasPrefix text start = true ↔ start <+: text := by
  simp [hasPrefix]

/-- `bytes.Compare(a, b) <= 0`. -/
def bytesLE (a b : Bytes) : Prop :=
  ¬ b < a

instance decidableBytesLE (a b : Bytes) : Decidable (bytesLE a b) :=
  inferInstanceAs (Decidable (¬ b < a))

theorem bytesLE_refl (a : Bytes) : bytesLE a a :=
  List.lt_irrefl a

variable {a b : Bytes}

theorem bytesLE_trans {c : Bytes} (hab : bytesLE a b) (hbc : bytesLE b c) : bytesLE a c :=
  List.le_trans (α := UInt8) hab hbc

theorem bytesLE_antisymm (hab : bytesLE a b) (hba : bytesLE b a) : a = b :=
  List.le_antisymm (α := UInt8) hab hba

theorem bytesLE_total (a b : Bytes) : bytesLE a b ∨ bytesLE b a :=
  List.le_total a b

theorem bytesLE_of_lt (h : a < b) : bytesLE a b :=
  List.lt_asymm h

theorem lt_of_bytesLE_of_ne (h : bytesLE a b) (ne : a ≠ b) : a < b := by
  by_contra notLess
  exact ne (bytesLE_antisymm h notLess)

theorem lt_of_lt_of_bytesLE {c : Bytes} (h : a < b) (h' : bytesLE b c) : a < c := by
  by_contra notLess
  exact bytesLE_trans h' notLess h

theorem bytesLE_cons_iff {x y : UInt8} : bytesLE (x :: a) (y :: b) ↔ x < y ∨ x = y ∧ bytesLE a b :=
  List.cons_le_cons_iff

theorem not_bytesLE_nil (x : UInt8) (a : Bytes) : ¬ bytesLE (x :: a) [] :=
  fun h => h (List.nil_lt_cons x a)

theorem nil_bytesLE (a : Bytes) : bytesLE [] a :=
  List.not_lt_nil a

theorem bytesLE_take (h : bytesLE a b) (n : ℕ) : bytesLE (a.take n) (b.take n) := by
  induction n generalizing a b with
  | zero => exact bytesLE_refl []
  | succ n ih =>
    cases a with
    | nil => exact nil_bytesLE _
    | cons x a =>
      cases b with
      | nil => exact absurd h (not_bytesLE_nil x a)
      | cons =>
        rw [List.take_succ_cons, List.take_succ_cons, bytesLE_cons_iff]
        exact (bytesLE_cons_iff.mp h).imp_right fun rest => ⟨rest.1, ih rest.2⟩

theorem lt_of_take_lt {n : ℕ} (h : a.take n < b.take n) : a < b := by
  by_contra notLess
  exact bytesLE_take notLess n h

theorem take_eq_of_between {c : Bytes} {n : ℕ} (low : bytesLE a b) (high : bytesLE b c)
    (ends : a.take n = c.take n) : b.take n = a.take n := by
  refine bytesLE_antisymm ?_ (bytesLE_take low n)
  rw [ends]
  exact bytesLE_take high n

theorem lt_append_cons (a : Bytes) (x : UInt8) (b : Bytes) : a < a ++ x :: b := by
  induction a with
  | nil => exact List.nil_lt_cons x b
  | cons y a ih => exact List.cons_lt_cons_iff.mpr (Or.inr ⟨rfl, ih⟩)

/-! ## Text joined by a separator -/

section Separated

variable {α : Type} {sep : α}

/-- A field without the separator is determined by the text it starts. -/
theorem append_sep_inj {a b x y : List α} (ha : sep ∉ a) (hb : sep ∉ b)
    (h : a ++ sep :: x = b ++ sep :: y) : a = b ∧ x = y := by
  induction a generalizing b with
  | nil =>
    cases b with
    | nil => simpa using h
    | cons c =>
      have head : sep = c := (List.cons.inj h).1
      exact absurd (head ▸ List.mem_cons_self) hb
  | cons c a ih =>
    cases b with
    | nil =>
      have head : c = sep := (List.cons.inj h).1
      exact absurd (head ▸ List.mem_cons_self) ha
    | cons =>
      obtain ⟨head, tail⟩ := List.cons.inj h
      obtain ⟨fields, rests⟩ :=
        ih (fun mem => ha (List.mem_cons_of_mem _ mem))
          (fun mem => hb (List.mem_cons_of_mem _ mem)) tail
      exact ⟨by rw [head, fields], rests⟩

theorem append_sep_inj_right {a b x y : List α} (hx : sep ∉ x) (hy : sep ∉ y)
    (h : a ++ sep :: x = b ++ sep :: y) : a = b ∧ x = y := by
  have reversed : x.reverse ++ sep :: a.reverse = y.reverse ++ sep :: b.reverse := by
    simpa using congrArg List.reverse h
  obtain ⟨fields, rests⟩ := append_sep_inj (by simpa using hx) (by simpa using hy) reversed
  exact ⟨List.reverse_injective rests, List.reverse_injective fields⟩

/-- Two joined texts can only agree when one first field, closed by its separator, starts the other.
-/
theorem append_sep_eq_cases {a b x y : List α}
    (h : a ++ sep :: x = b ++ sep :: y) :
    a = b ∨ a ++ [sep] <+: b ∨ b ++ [sep] <+: a := by
  rcases List.append_eq_append_iff.mp h with ⟨m, hb, hm⟩ | ⟨m, ha, hm⟩
  · cases m with
    | nil => exact Or.inl (by simpa using hb.symm)
    | cons c m =>
      have head : sep = c := (List.cons.inj hm).1
      exact Or.inr (Or.inl ⟨m, by simp [hb, head]⟩)
  · cases m with
    | nil => exact Or.inl (by simpa using ha)
    | cons c m =>
      have head : sep = c := (List.cons.inj hm).1
      exact Or.inr (Or.inr ⟨m, by simp [ha, head]⟩)

end Separated

/-! ## Splitting at a separator

`bytes.Split` and `bytes.SplitN` with a separator of one byte.  The first is `List.splitOn`. -/

section Splitting

variable {α : Type} [DecidableEq α] {sep : α}

/-- `bytes.SplitN`: at most so many parts, the last of which is all that remains. -/
def splitN (sep : α) : ℕ → List α → List (List α)
  | 0, _ => []
  | 1, text => [text]
  | n + 2, text =>
    if sep ∈ text then
      text.takeWhile (· ≠ sep) :: splitN sep (n + 1) ((text.dropWhile (· ≠ sep)).drop 1)
    else
      [text]

variable {field : List α}

theorem takeWhile_ne_of_notMem (h : sep ∉ field) : field.takeWhile (· ≠ sep) = field := by
  refine List.takeWhile_eq_self_iff.mpr fun x mem => ?_
  exact decide_eq_true fun equal => h (equal ▸ mem)

theorem takeWhile_ne_append_sep (h : sep ∉ field) (rest : List α) :
    (field ++ sep :: rest).takeWhile (· ≠ sep) = field := by
  have all : ∀ x ∈ field, decide (x ≠ sep) = true := fun x mem =>
    decide_eq_true fun equal => h (equal ▸ mem)
  rw [List.takeWhile_append_of_pos all]
  simp

theorem dropWhile_ne_append_sep (h : sep ∉ field) (rest : List α) :
    (field ++ sep :: rest).dropWhile (· ≠ sep) = sep :: rest := by
  have all : ∀ x ∈ field, decide (x ≠ sep) = true := fun x mem =>
    decide_eq_true fun equal => h (equal ▸ mem)
  rw [List.dropWhile_append_of_pos all]
  simp

theorem splitN_append_sep (h : sep ∉ field) (n : ℕ) (rest : List α) :
    splitN sep (n + 2) (field ++ sep :: rest) = field :: splitN sep (n + 1) rest := by
  have mem : sep ∈ field ++ sep :: rest := by simp
  rw [splitN, if_pos mem, takeWhile_ne_append_sep h, dropWhile_ne_append_sep h]
  rfl

theorem head_splitN (n : ℕ) (text : List α) :
    (splitN sep (n + 2) text).head? = some (text.takeWhile (· ≠ sep)) := by
  rw [splitN]
  split
  · rfl
  · rename_i absent
    rw [takeWhile_ne_of_notMem absent]
    rfl

theorem head_splitOn (text : List α) :
    (text.splitOn sep).head? = some (text.takeWhile (· ≠ sep)) := by
  induction text with
  | nil => rfl
  | cons x text ih =>
    rw [List.splitOn_cons_eq_if_modifyHead]
    by_cases equal : x = sep
    · simp [equal]
    · simp [equal, ih]

end Splitting

end GoBase
