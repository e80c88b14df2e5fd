import Aristo.Base.Bytes
import Mathlib.Tactic.Ring

/-!
# Base64

`base64.StdEncoding`, which `encoding/json` uses for a `[]byte`.  Three bytes are one
number below `2 ^ 24`, written as four digits in base 64; one or two bytes at the end
are padded.  `decode_encode` is the round trip.
-/

namespace GoBase

namespace Base64

def pad : UInt8 := 61

def digit (n : ℕ) : UInt8 :=
  if n < 26 then UInt8.ofNat (65 + n)
  else if n < 52 then UInt8.ofNat (71 + n)
  else if n < 62 then UInt8.ofNat (n - 4)
  else if n = 62 then 43
  else 47

def value (c : UInt8) : Option ℕ :=
  let n := c.toNat
  if 65 ≤ n ∧ n ≤ 90 then some (n - 65)
  else if 97 ≤ n ∧ n ≤ 122 then some (n - 71)
  else if 48 ≤ n ∧ n ≤ 57 then some (n + 4)
  else if n = 43 then some 62
  else if n = 47 then some 63
  else none

theorem value_digit {n : ℕ} (h : n < 64) : value (digit n) = some n := by
  have all : ∀ n : Fin 64, value (digit n) = some n.val := by decide
  exact all ⟨n, h⟩

/-- The character of the digit of a number at a place, `1`, `64`, `4096` or `262144`. -/
def sextet (place n : ℕ) : UInt8 :=
  digit (n / place % 64)

theorem value_sextet (place n : ℕ) : value (sextet place n) = some (n / place % 64) :=
  value_digit (Nat.mod_lt _ (by norm_num))

theorem sextet_ne {c : UInt8} (other : value c = none) (place n : ℕ) : sextet place n ≠ c := by
  intro equal
  rw [← equal, value_sextet] at other
  cases other

def encode : Bytes → Bytes
  | [] => []
  | [a] =>
    let n := a.toNat * 65536
    [sextet 262144 n, sextet 4096 n, pad, pad]
  | [a, b] =>
    let n := a.toNat * 65536 + b.toNat * 256
    [sextet 262144 n, sextet 4096 n, sextet 64 n, pad]
  | a :: b :: c :: rest =>
    let n := a.toNat * 65536 + b.toNat * 256 + c.toNat
    sextet 262144 n :: sextet 4096 n :: sextet 64 n :: sextet 1 n :: encode rest

def number (w x y z : UInt8) : Option ℕ := do
  let w ← value w
  let x ← value x
  let y ← value y
  let z ← value z
  return w * 262144 + x * 4096 + y * 64 + z

/-- The character of the digit zero, which stands in for padding. -/
def zero : UInt8 := 65

def decode : Bytes → Option Bytes
  | [] => some []
  | w :: x :: y :: z :: rest =>
    if y = pad ∧ z = pad ∧ rest = [] then do
      let n ← number w x zero zero
      return [UInt8.ofNat (n / 65536)]
    else if z = pad ∧ rest = [] then do
      let n ← number w x y zero
      return [UInt8.ofNat (n / 65536), UInt8.ofNat (n / 256 % 256)]
    else do
      let n ← number w x y z
      let tail ← decode rest
      return UInt8.ofNat (n / 65536) :: UInt8.ofNat (n / 256 % 256) :: UInt8.ofNat (n % 256) ::
        tail
  | _ => none

theorem number_sextets {n : ℕ} (h : n < 16777216) :
    number (sextet 262144 n) (sextet 4096 n) (sextet 64 n) (sextet 1 n) = some n := by
  have sum : n / 262144 % 64 * 262144 + n / 4096 % 64 * 4096 + n / 64 % 64 * 64 + n / 1 % 64 =
      n := by
    omega
  simp only [number, value_sextet]
  exact congrArg some sum

theorem sextet_eq_zero {place n : ℕ} (h : n / place % 64 = 0) : sextet place n = zero := by
  rw [sextet, h]
  rfl

theorem sextet_ne_pad (place n : ℕ) : sextet place n ≠ pad :=
  sextet_ne (by decide) place n

theorem decode_encode_one (a : UInt8) : decode (encode [a]) = some [a] := by
  obtain ⟨n, total⟩ : ∃ n, n = a.toNat * 65536 := ⟨_, rfl⟩
  have bound := a.toNat_lt
  have read := number_sextets (n := n) (by omega)
  have low : sextet 64 n = zero := sextet_eq_zero (by omega)
  have lowest : sextet 1 n = zero := sextet_eq_zero (by omega)
  have first : n / 65536 = a.toNat := by omega
  rw [low, lowest] at read
  simp only [encode, ← total]
  rw [decode, if_pos ⟨rfl, rfl, rfl⟩, read]
  simp [first]

theorem decode_encode_two (a b : UInt8) : decode (encode [a, b]) = some [a, b] := by
  obtain ⟨n, total⟩ : ∃ n, n = a.toNat * 65536 + b.toNat * 256 := ⟨_, rfl⟩
  have boundA := a.toNat_lt
  have boundB := b.toNat_lt
  have read := number_sextets (n := n) (by omega)
  have lowest : sextet 1 n = zero := sextet_eq_zero (by omega)
  have first : n / 65536 = a.toNat := by omega
  have second : n / 256 % 256 = b.toNat := by omega
  rw [lowest] at read
  simp only [encode, ← total]
  rw [decode, if_neg fun h => sextet_ne_pad _ _ h.1, if_pos ⟨rfl, rfl⟩, read]
  simp [first, second]

theorem decode_encode_three (a b c : UInt8) {rest : Bytes}
    (tail : decode (encode rest) = some rest) :
    decode (encode (a :: b :: c :: rest)) = some (a :: b :: c :: rest) := by
  obtain ⟨n, total⟩ : ∃ n, n = a.toNat * 65536 + b.toNat * 256 + c.toNat := ⟨_, rfl⟩
  have boundA := a.toNat_lt
  have boundB := b.toNat_lt
  have boundC := c.toNat_lt
  have read := number_sextets (n := n) (by omega)
  have first : n / 65536 = a.toNat := by omega
  have second : n / 256 % 256 = b.toNat := by omega
  have third : n % 256 = c.toNat := by omega
  simp only [encode, ← total]
  rw [decode, if_neg fun h => sextet_ne_pad _ _ h.1, if_neg fun h => sextet_ne_pad _ _ h.1, read,
    tail]
  simp [first, second, third]

/-- **Round trip.**  Decoding an encoded byte string gives it back. -/
theorem decode_encode (bytes : Bytes) : decode (encode bytes) = some bytes := by
  induction bytes using encode.induct with
  | case1 => rfl
  | case2 a => exact decode_encode_one a
  | case3 a b => exact decode_encode_two a b
  | case4 a b c rest ih => exact decode_encode_three a b c ih

theorem notMem_encode {c : UInt8} (other : value c = none) (notPad : c ≠ pad) (bytes : Bytes) :
    c ∉ encode bytes := by
  have ne : ∀ place n, c ≠ sextet place n := fun place n equal => sextet_ne other place n equal.symm
  induction bytes using encode.induct with
  | case1 => exact List.not_mem_nil
  | case2 | case3 => simp [encode, ne, notPad]
  | case4 a b c rest ih => simp [encode, ne, ih]

end Base64

end GoBase
