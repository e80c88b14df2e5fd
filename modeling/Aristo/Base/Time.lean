import Aristo.Base.Bytes
import Mathlib.Algebra.Ring.Nat
import Mathlib.Data.Prod.Lex
import Mathlib.Order.Lattice
import Mathlib.Data.Int.Order.Basic

/-!
# Times

`time.Time` is an instant together with the location it is displayed in.  Two
times are `==` when instant and location agree, `Equal` when the instants do, and
their RFC 3339 text shows the wall clock of the location without the fraction of
the second.

Instants are ordered by `rank`, seconds first, and for times that have less than a second of
nanoseconds, as every `time.Time` does, this is the order of the nanoseconds since the epoch
(`rank_le_iff`).
-/

namespace GoBase

/-- A `*time.Location`: which one it is, and its offset east of UTC in seconds. -/
structure Location where
  id : ℕ
  offset : ℤ
deriving DecidableEq, Inhabited, Repr

def Location.utc : Location := ⟨0, 0⟩

@[ext]
structure Time where
  /-- Seconds since the Unix epoch. -/
  sec : ℤ
  /-- Nanoseconds within the second. -/
  nsec : ℕ
  loc : Location
deriving DecidableEq, Inhabited, Repr

namespace Time

/-- `time.Time{}`: the first instant of the year 1, in UTC. -/
def zero : Time := ⟨-62135596800, 0, Location.utc⟩

/-- `time.Unix(sec, 0).UTC()`. -/
def unixUTC (sec : ℤ) : Time := ⟨sec, 0, Location.utc⟩

/-- `t.Equal(u)`: the same instant, in whatever locations. -/
def Equal (t u : Time) : Prop :=
  t.sec = u.sec ∧ t.nsec = u.nsec

instance decidableEqual (t u : Time) : Decidable (t.Equal u) :=
  inferInstanceAs (Decidable (_ ∧ _))

/-- `t.Sub(u)` in nanoseconds, which stops at the ends of the range of a `time.Duration`. -/
def sub (t u : Time) : ℤ :=
  max (-9223372036854775808) (min 9223372036854775807
    ((t.sec - u.sec) * 1000000000 + ((t.nsec : ℤ) - u.nsec)))

def Before (t u : Time) : Prop :=
  t.sec < u.sec ∨ t.sec = u.sec ∧ t.nsec < u.nsec

instance decidableBefore (t u : Time) : Decidable (t.Before u) :=
  inferInstanceAs (Decidable (_ ∨ _))

def unix (t : Time) : Int64 :=
  Int64.ofInt t.sec

theorem unix_unixUTC (sec : Int64) : (unixUTC sec.toInt).unix = sec :=
  Int64.ofInt_toInt sec

/-- `t.UnixNano()`, before it is cut to 64 bits. -/
def nanos (t : Time) : ℤ :=
  t.sec * 1000000000 + t.nsec

def unixNano (t : Time) : Int64 :=
  Int64.ofInt t.nanos

/-- Less than a second of nanoseconds. -/
def Valid (t : Time) : Prop :=
  t.nsec < 1000000000

theorem valid_unixUTC (sec : ℤ) : (unixUTC sec).Valid := by
  change 0 < 1000000000
  decide

def utc (t : Time) : Time := { t with loc := Location.utc }

/-! ### The order of instants -/

/-- The place of an instant. -/
def rank (t : Time) : ℤ ×ₗ ℕ :=
  toLex (t.sec, t.nsec)

theorem before_iff (t u : Time) : t.Before u ↔ t.rank < u.rank := by
  rw [rank, rank, Prod.Lex.toLex_lt_toLex]
  exact Iff.rfl

theorem equal_iff (t u : Time) : t.Equal u ↔ t.rank = u.rank := by
  rw [rank, rank, EmbeddingLike.apply_eq_iff_eq, Prod.mk.injEq]
  rfl

theorem rank_le_iff {t u : Time} (validT : t.Valid) (validU : u.Valid) :
    t.rank ≤ u.rank ↔ t.nanos ≤ u.nanos := by
  unfold Valid at validT validU
  rw [rank, rank, Prod.Lex.toLex_le_toLex, nanos, nanos]
  constructor
  · intro le
    dsimp only at le
    omega
  · intro le
    dsimp only
    omega

protected theorem sub_self (t : Time) : t.sub t = 0 := by
  simp [sub]

theorem sub_le_sub_of_nanos {t u v w : Time} (h : t.nanos - u.nanos ≤ v.nanos - w.nanos) :
    t.sub u ≤ v.sub w := by
  unfold nanos at h
  unfold sub
  omega

theorem nanos_sub_le {t u : Time} {bound : ℤ} (h : t.sub u ≤ bound)
    (short : bound < 9223372036854775807) : t.nanos - u.nanos ≤ bound := by
  unfold sub at h
  unfold nanos
  omega

/-- Year, month and day of a day since the Unix epoch.  The year starts in March, so that the leap
day is its last one. -/
def civil (day : ℤ) : ℤ × ℤ × ℤ :=
  let z := day + 719468
  let era := z.fdiv 146097
  let doe := z.fmod 146097
  let yoe := (doe - doe / 1460 + doe / 36524 - doe / 146096) / 365
  let doy := doe - (365 * yoe + yoe / 4 - yoe / 100)
  let mp := (5 * doy + 2) / 153
  let month := if mp < 10 then mp + 3 else mp - 9
  let year := yoe + era * 400 + (if month ≤ 2 then 1 else 0)
  (year, month, doy - (153 * mp + 2) / 5 + 1)

/-- A number in decimal, padded with zeros to a width. -/
def padded (width n : ℕ) : Bytes :=
  let digits := (Nat.toDigits 10 n).map fun c => c.toNat.toUInt8
  List.replicate (width - digits.length) 48 ++ digits

/-- A possibly negative number, padded with zeros to a width after its sign. -/
def signed (width : ℕ) (n : ℤ) : Bytes :=
  if n < 0 then ascii "-" ++ padded width n.natAbs else padded width n.natAbs

/-- The zone of a time in RFC 3339: `Z` for UTC, hours and minutes otherwise. -/
def zone (offset : ℤ) : Bytes :=
  if offset = 0 then
    ascii "Z"
  else
    let minutes := offset.natAbs / 60
    ascii (if offset ≤ -60 then "-" else "+") ++ padded 2 (minutes / 60) ++ ascii ":" ++
      padded 2 (minutes % 60)

/-- `t.Format(time.RFC3339)`. -/
def formatRFC3339 (t : Time) : Bytes :=
  let wall := t.sec + t.loc.offset
  let (year, month, day) := civil (wall.fdiv 86400)
  let second := (wall.fmod 86400).natAbs
  signed 4 year ++ ascii "-" ++ signed 2 month ++ ascii "-" ++ signed 2 day ++
    ascii "T" ++ padded 2 (second / 3600) ++ ascii ":" ++ padded 2 (second / 60 % 60) ++
    ascii ":" ++ padded 2 (second % 60) ++ zone t.loc.offset

theorem toNat_of_mem_toDigits {c : Char} {n : ℕ} (mem : c ∈ Nat.toDigits 10 n) :
    48 ≤ c.toNat ∧ c.toNat ≤ 57 := by
  have range := Nat.isDigit_of_mem_toDigits (b := 10) (by decide) (by decide) mem
  rw [Char.isDigit, Bool.and_eq_true, decide_eq_true_eq, decide_eq_true_eq] at range
  exact range

theorem notMem_padded {b : UInt8} (other : ¬ (48 ≤ b.toNat ∧ b.toNat ≤ 57)) (width n : ℕ) :
    b ∉ padded width n := by
  unfold padded
  intro mem
  rcases List.mem_append.mp mem with zero | digit
  · rw [List.eq_of_mem_replicate zero] at other
    exact other (by decide)
  · obtain ⟨c, isDigit, rfl⟩ := List.mem_map.mp digit
    obtain ⟨low, high⟩ := toNat_of_mem_toDigits isDigit
    refine other ?_
    rw [Nat.toUInt8_eq, UInt8.toNat_ofNat']
    omega

theorem notMem_signed {b : UInt8} (other : ¬ (48 ≤ b.toNat ∧ b.toNat ≤ 57)) (notMinus : b ≠ 45)
    (width : ℕ) (n : ℤ) : b ∉ signed width n := by
  have digits := notMem_padded other width n.natAbs
  unfold signed
  split
  · rw [List.mem_append, not_or]
    exact ⟨by simpa [ascii] using notMinus, digits⟩
  · exact digits

/-- The text of a time is a date and a clock joined by `T`; the date has no colon and the
clock has no `T`. -/
theorem formatRFC3339_split (t : Time) :
    ∃ date clock, t.formatRFC3339 = date ++ 84 :: clock ∧ 58 ∉ date ∧ 84 ∉ clock := by
  let wall := t.sec + t.loc.offset
  let date := civil (wall.fdiv 86400)
  let second := (wall.fmod 86400).natAbs
  refine ⟨signed 4 date.1 ++ ascii "-" ++ signed 2 date.2.1 ++ ascii "-" ++ signed 2 date.2.2,
    padded 2 (second / 3600) ++ ascii ":" ++ padded 2 (second / 60 % 60) ++ ascii ":" ++
      padded 2 (second % 60) ++ zone t.loc.offset, ?_, ?_, ?_⟩
  · have text : t.formatRFC3339 =
        signed 4 date.1 ++ ascii "-" ++ signed 2 date.2.1 ++ ascii "-" ++ signed 2 date.2.2 ++
          ascii "T" ++ padded 2 (second / 3600) ++ ascii ":" ++ padded 2 (second / 60 % 60) ++
          ascii ":" ++ padded 2 (second % 60) ++ zone t.loc.offset := rfl
    rw [text, show ascii "T" = [84] from rfl]
    simp only [List.append_assoc, List.cons_append, List.nil_append]
  · have noColon : ∀ width n, (58 : UInt8) ∉ signed width n :=
      fun width n => notMem_signed (by decide) (by decide) width n
    simp [noColon, ascii]
  · have noT : ∀ width n, (84 : UInt8) ∉ padded width n :=
      fun width n => notMem_padded (by decide) width n
    have noTZone : (84 : UInt8) ∉ zone t.loc.offset := by
      unfold zone
      split
      · decide
      · split
        · simp [noT, ascii]
        · simp [noT, ascii]
    simp [noT, noTZone, ascii]

theorem append_formatRFC3339_inj {a b : Bytes} {t u : Time}
    (h : a ++ ascii ":" ++ t.formatRFC3339 = b ++ ascii ":" ++ u.formatRFC3339) :
    a = b ∧ t.formatRFC3339 = u.formatRFC3339 := by
  obtain ⟨date, clock, text, noColon, noT⟩ := t.formatRFC3339_split
  obtain ⟨date', clock', text', noColon', noT'⟩ := u.formatRFC3339_split
  rw [text, text', ← List.append_assoc, ← List.append_assoc] at h
  obtain ⟨front, clocks⟩ := append_sep_inj_right noT noT' h
  rw [List.append_assoc, List.append_assoc] at front
  obtain ⟨same, dates⟩ := append_sep_inj_right noColon noColon' front
  exact ⟨same, by rw [text, text', dates, clocks]⟩

/-- The fraction of a second, without the zeros at its end. -/
def fraction (nsec : ℕ) : Bytes :=
  if nsec = 0 then [] else ascii "." ++ ((padded 9 nsec).reverse.dropWhile (· = 48)).reverse

/-- `t.Format(time.RFC3339Nano)`. -/
def formatRFC3339Nano (t : Time) : Bytes :=
  let wall := t.sec + t.loc.offset
  let (year, month, day) := civil (wall.fdiv 86400)
  let second := (wall.fmod 86400).natAbs
  signed 4 year ++ ascii "-" ++ signed 2 month ++ ascii "-" ++ signed 2 day ++
    ascii "T" ++ padded 2 (second / 3600) ++ ascii ":" ++ padded 2 (second / 60 % 60) ++
    ascii ":" ++ padded 2 (second % 60) ++ fraction t.nsec ++ zone t.loc.offset

/-- `d.String()` of a `time.Duration` in nanoseconds. -/
def durationString (d : ℤ) : Bytes :=
  let u := d.natAbs
  -- a number of units, with what is left of the last one as a fraction
  let decimal (digits n : ℕ) : Bytes :=
    let part := ((padded digits (n % 10 ^ digits)).reverse.dropWhile (· = 48)).reverse
    padded 1 (n / 10 ^ digits) ++ if part = [] then [] else ascii "." ++ part
  let text :=
    if u = 0 then ascii "0s"
    else if u < 1000 then decimal 0 u ++ ascii "ns"
    else if u < 1000000 then decimal 3 u ++ [0xC2, 0xB5] ++ ascii "s"
    else if u < 1000000000 then decimal 6 u ++ ascii "ms"
    else
      let minutes := u / 60000000000
      (if minutes / 60 = 0 then [] else padded 1 (minutes / 60) ++ ascii "h") ++
        (if minutes = 0 then [] else padded 1 (minutes % 60) ++ ascii "m") ++
        decimal 9 (u % 60000000000) ++ ascii "s"
  if d < 0 then ascii "-" ++ text else text

def year (t : Time) : ℤ :=
  (civil ((t.sec + t.loc.offset).fdiv 86400)).1

end Time

end GoBase
