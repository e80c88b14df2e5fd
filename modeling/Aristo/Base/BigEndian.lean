import Aristo.Base.Bytes
import Mathlib.Tactic.Ring
import Mathlib.Algebra.Order.Ring.Nat

/-!
# Fixed-width big-endian integers

`binary.BigEndian` and the integer fields of length-prefixed formats all write a
natural number as exactly `width` bytes, most significant first, dropping what
does not fit.  `ofBE_toBE` is the round trip up to that truncation, and the
`UInt` instances below it are the exact round trips of the fixed-width types.

`binary.LittleEndian` puts a number together with shifts; `toNat_littleEndian` says that this is
the big-endian number of the bytes in the opposite order.
-/

namespace GoBase

/-- The `width` big-endian bytes of `n`; higher bytes are dropped. -/
def toBE : ℕ → ℕ → Bytes
  | 0, _ => []
  | width + 1, n => toBE width (n / 256) ++ [UInt8.ofNat n]

/-- The number written in big-endian bytes. -/
def ofBE (bytes : Bytes) : ℕ :=
  bytes.foldl (fun value byte => value * 256 + byte.toNat) 0

@[simp] theorem toBE_zero (n : ℕ) : toBE 0 n = [] := rfl

theorem toBE_succ (width n : ℕ) :
    toBE (width + 1) n = toBE width (n / 256) ++ [UInt8.ofNat n] := rfl

@[simp] theorem length_toBE (width n : ℕ) : (toBE width n).length = width := by
  induction width generalizing n with
  | zero => rfl
  | succ width ih => simp [toBE_succ, ih]

@[simp] theorem ofBE_nil : ofBE [] = 0 := rfl

theorem ofBE_append_singleton (bytes : Bytes) (byte : UInt8) :
    ofBE (bytes ++ [byte]) = ofBE bytes * 256 + byte.toNat := by
  simp [ofBE]

theorem ofBE_toBE (width n : ℕ) : ofBE (toBE width n) = n % 256 ^ width := by
  induction width generalizing n with
  | zero => simp [Nat.mod_one]
  | succ width ih =>
    have low : (UInt8.ofNat n).toNat = n % 256 := by simp
    rw [toBE_succ, ofBE_append_singleton, ih, low, pow_succ', Nat.mod_mul]
    ring

theorem ofBE_toBE_of_lt {width n : ℕ} (h : n < 256 ^ width) : ofBE (toBE width n) = n := by
  rw [ofBE_toBE, Nat.mod_eq_of_lt h]

/-- Every byte string is the big-endian form of the number it is read as. -/
theorem toBE_ofBE (bytes : Bytes) : toBE bytes.length (ofBE bytes) = bytes := by
  induction bytes using List.reverseRecOn with
  | nil => rfl
  | append_singleton bytes byte ih =>
    have small := byte.toNat_lt
    have high : (ofBE bytes * 256 + byte.toNat) / 256 = ofBE bytes := by omega
    have low : UInt8.ofNat (ofBE bytes * 256 + byte.toNat) = byte :=
      UInt8.toNat_inj.mp (by simp)
    rw [ofBE_append_singleton, List.length_append, List.length_singleton, toBE_succ, high, low, ih]

theorem ofBE_lt (bytes : Bytes) : ofBE bytes < 256 ^ bytes.length := by
  have whole := congrArg ofBE (toBE_ofBE bytes)
  rw [ofBE_toBE] at whole
  exact whole ▸ Nat.mod_lt _ (Nat.pow_pos (by decide))

/-! ## `binary.BigEndian` on `uint64` -/

/-- `binary.BigEndian.PutUint64` into a fresh 8-byte slice. -/
def putUint64 (value : UInt64) : Bytes :=
  toBE 8 value.toNat

/-- `binary.BigEndian.Uint64`, which reads the first 8 bytes of its argument.
The callers have checked the length. -/
def bigEndianUint64 (bytes : Bytes) : UInt64 :=
  UInt64.ofNat (ofBE (bytes.take 8))

@[simp] theorem length_putUint64 (value : UInt64) : (putUint64 value).length = 8 :=
  length_toBE 8 value.toNat

@[simp] theorem bigEndianUint64_putUint64 (value : UInt64) :
    bigEndianUint64 (putUint64 value) = value := by
  have whole : (putUint64 value).take 8 = putUint64 value := List.take_of_length_le (by simp)
  have fits : value.toNat < 256 ^ 8 := lt_of_lt_of_eq value.toNat_lt (by norm_num)
  rw [bigEndianUint64, whole, putUint64, ofBE_toBE_of_lt fits, UInt64.ofNat_toNat]

/-! ## `binary.LittleEndian` on `uint32` -/

theorem toNat_or_shiftLeft (low k : UInt32) (high : UInt8) (fits : low.toNat < 2 ^ k.toNat)
    (small : k.toNat ≤ 24) :
    (low ||| high.toUInt32 <<< k).toNat = 2 ^ k.toNat * high.toNat + low.toNat := by
  have byte := high.toNat_lt
  have bound : 2 ^ k.toNat * high.toNat < 2 ^ 32 := by
    calc 2 ^ k.toNat * high.toNat < 2 ^ k.toNat * 2 ^ 8 :=
          Nat.mul_lt_mul_of_pos_left byte (Nat.two_pow_pos _)
      _ = 2 ^ (k.toNat + 8) := (Nat.pow_add 2 _ 8).symm
      _ ≤ 2 ^ 32 := Nat.pow_le_pow_right (by decide) (by omega)
  rw [UInt32.toNat_or, UInt32.toNat_shiftLeft, UInt8.toNat_toUInt32, Nat.shiftLeft_eq,
    Nat.mod_eq_of_lt (by omega : k.toNat < 32), Nat.mul_comm, Nat.mod_eq_of_lt bound,
    Nat.or_comm, Nat.two_pow_add_eq_or_of_lt fits]

theorem toNat_littleEndian (b0 b1 b2 b3 : UInt8) :
    (b0.toUInt32 ||| b1.toUInt32 <<< 8 ||| b2.toUInt32 <<< 16 ||| b3.toUInt32 <<< 24).toNat =
      ofBE [b3, b2, b1, b0] := by
  have h0 := b0.toNat_lt
  have h1 := b1.toNat_lt
  have h2 := b2.toNat_lt
  have first : (b0.toUInt32 ||| b1.toUInt32 <<< 8).toNat = 2 ^ 8 * b1.toNat + b0.toNat :=
    toNat_or_shiftLeft _ 8 b1 h0 (by decide)
  have second : (b0.toUInt32 ||| b1.toUInt32 <<< 8 ||| b2.toUInt32 <<< 16).toNat =
      2 ^ 16 * b2.toNat + (2 ^ 8 * b1.toNat + b0.toNat) := by
    rw [← first]
    refine toNat_or_shiftLeft _ 16 b2 ?_ (by decide)
    rw [first]
    show _ < 2 ^ 16
    omega
  have third : (b0.toUInt32 ||| b1.toUInt32 <<< 8 ||| b2.toUInt32 <<< 16 |||
      b3.toUInt32 <<< 24).toNat =
        2 ^ 24 * b3.toNat + (2 ^ 16 * b2.toNat + (2 ^ 8 * b1.toNat + b0.toNat)) := by
    rw [← second]
    refine toNat_or_shiftLeft _ 24 b3 ?_ (by decide)
    rw [second]
    show _ < 2 ^ 24
    omega
  rw [third]
  simp only [ofBE, List.foldl]
  omega

end GoBase
