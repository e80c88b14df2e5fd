import Aristo.Base.Time
import Mathlib.Data.Set.NAry

/-!
# Texts that can be read from the front

A set of texts is prefix-free when no text of it can be continued to another one: what stands at
the front of a longer text is then determined, and so is the rest.  Fields that end in a separator
are prefix-free, so are fields of one length, and so is the concatenation of two such sets.  From
these the times that `Format(time.RFC3339)` prints are prefix-free, in any zone and year.
-/

namespace GoBase

section PrefixFree

variable {α : Type}

/-- Two texts of the set that start one text are the same. -/
def PrefixFree (texts : Set (List α)) : Prop :=
  ∀ a ∈ texts, ∀ b ∈ texts, ∀ x y, a ++ x = b ++ y → a = b ∧ x = y

namespace PrefixFree

variable {texts other : Set (List α)}

theorem mono (free : PrefixFree texts) (subset : other ⊆ texts) : PrefixFree other :=
  fun a ha b hb => free a (subset ha) b (subset hb)

theorem append (first : PrefixFree texts) (second : PrefixFree other) :
    PrefixFree (Set.image2 (· ++ ·) texts other) := by
  rintro _ ⟨a, ha, a', ha', rfl⟩ _ ⟨b, hb, b', hb', rfl⟩ x y same
  simp only [List.append_assoc] at same
  obtain ⟨rfl, behind⟩ := first a ha b hb _ _ same
  obtain ⟨rfl, rest⟩ := second a' ha' b' hb' _ _ behind
  exact ⟨rfl, rest⟩

theorem of_length {n : ℕ} (fixed : ∀ a ∈ texts, a.length = n) : PrefixFree texts :=
  fun a ha b hb _ _ same => List.append_inj same ((fixed a ha).trans (fixed b hb).symm)

theorem of_separated (sep : α) (separated : ∀ a ∈ texts, ∃ field, sep ∉ field ∧
    a = field ++ [sep]) : PrefixFree texts := by
  intro a ha b hb x y same
  obtain ⟨field, absent, rfl⟩ := separated a ha
  obtain ⟨field', absent', rfl⟩ := separated b hb
  rw [List.append_assoc, List.append_assoc] at same
  obtain ⟨rfl, rest⟩ := append_sep_inj absent absent' same
  exact ⟨rfl, rest⟩

theorem tail (free : PrefixFree texts) (c : α) : PrefixFree {rest | c :: rest ∈ texts} := by
  intro a ha b hb x y same
  obtain ⟨equal, rest⟩ := free (c :: a) ha (c :: b) hb x y (congrArg (c :: ·) same)
  exact ⟨(List.cons.inj equal).2, rest⟩

theorem of_head (tails : α → Set (List α)) (free : ∀ c, PrefixFree (tails c))
    (headed : ∀ a ∈ texts, ∃ c, ∃ rest ∈ tails c, a = c :: rest) : PrefixFree texts := by
  intro a ha b hb x y same
  obtain ⟨c, rest, mem, rfl⟩ := headed a ha
  obtain ⟨c', rest', mem', rfl⟩ := headed b hb
  obtain ⟨rfl, behind⟩ := List.cons.inj same
  obtain ⟨rfl, left⟩ := free c rest mem rest' mem' x y behind
  exact ⟨rfl, left⟩

end PrefixFree

end PrefixFree

namespace Time

/-! ## The parts of a printed time -/

theorem length_padded_two {n : ℕ} (small : n < 100) : (padded 2 n).length = 2 := by
  have few : (Nat.toDigits 10 n).length ≤ 2 :=
    (Nat.length_toDigits_le_iff (by decide) (by decide)).mpr small
  have some : 0 < (Nat.toDigits 10 n).length := Nat.length_toDigits_pos
  simp only [padded, List.length_append, List.length_replicate, List.length_map]
  omega

def twoDigits : Set Bytes := padded 2 '' {n | n < 100}

theorem prefixFree_twoDigits : PrefixFree twoDigits := by
  refine PrefixFree.of_length (n := 2) ?_
  rintro _ ⟨n, small, rfl⟩
  exact length_padded_two small

/-- A number in decimal and a separator. -/
def paddedField (width : ℕ) (sep : UInt8) : Set Bytes :=
  Set.range fun n => padded width n ++ [sep]

theorem prefixFree_paddedField (width : ℕ) {sep : UInt8}
    (noDigit : ¬ (48 ≤ sep.toNat ∧ sep.toNat ≤ 57)) : PrefixFree (paddedField width sep) := by
  refine PrefixFree.of_separated sep ?_
  rintro _ ⟨n, rfl⟩
  exact ⟨_, notMem_padded noDigit width n, rfl⟩

/-- A number that may be negative, and a separator, which may be the minus sign. -/
def signedField (width : ℕ) (sep : UInt8) : Set Bytes :=
  Set.range fun n => signed width n ++ [sep]

theorem exists_padded_eq_cons (width n : ℕ) :
    ∃ digit rest, padded width n = digit :: rest ∧ digit ≠ 45 := by
  have noMinus : (45 : UInt8) ∉ padded width n := notMem_padded (by decide) width n
  cases digits : padded width n with
  | nil =>
    have some : 0 < (Nat.toDigits 10 n).length := Nat.length_toDigits_pos
    have none := congrArg List.length digits
    simp only [padded, List.length_append, List.length_map, List.length_nil] at none
    omega
  | cons digit rest =>
    rw [digits] at noMinus
    exact ⟨digit, rest, rfl, fun minus => noMinus (minus ▸ List.mem_cons_self)⟩

theorem prefixFree_signedField (width : ℕ) {sep : UInt8}
    (noDigit : ¬ (48 ≤ sep.toNat ∧ sep.toNat ≤ 57)) : PrefixFree (signedField width sep) := by
  have field := prefixFree_paddedField width noDigit
  -- behind a minus sign stands all of the number, and behind a digit the rest of it
  refine PrefixFree.of_head
    (fun c => if c = 45 then paddedField width sep else {rest | c :: rest ∈ paddedField width sep})
    (fun c => ?_) ?_
  · split
    · exact field
    · exact field.tail c
  · rintro _ ⟨n, rfl⟩
    by_cases negative : n < 0
    · refine ⟨45, padded width n.natAbs ++ [sep], ?_, ?_⟩
      · rw [if_pos rfl]
        exact ⟨n.natAbs, rfl⟩
      · simp only [signed, if_pos negative]
        rfl
    · obtain ⟨digit, rest, digits, noMinus⟩ := exists_padded_eq_cons width n.natAbs
      refine ⟨digit, rest ++ [sep], ?_, ?_⟩
      · rw [if_neg noMinus]
        exact ⟨n.natAbs, by simp only [digits, List.cons_append]⟩
      · simp only [signed, if_neg negative, digits, List.cons_append]

def hoursMinutes : Set Bytes :=
  Set.image2 (· ++ ·) (paddedField 2 58) twoDigits

theorem prefixFree_hoursMinutes : PrefixFree hoursMinutes :=
  (prefixFree_paddedField 2 (by decide)).append prefixFree_twoDigits

theorem prefixFree_zone : PrefixFree (Set.range zone) := by
  refine PrefixFree.of_head (fun c => if c = 90 then {[]} else hoursMinutes) (fun c => ?_) ?_
  · split
    · exact PrefixFree.of_length (n := 0) fun a ha => by rw [Set.mem_singleton_iff.mp ha]; rfl
    · exact prefixFree_hoursMinutes
  · rintro _ ⟨offset, rfl⟩
    by_cases utc : offset = 0
    · exact ⟨90, [], by rw [if_pos rfl]; rfl, by rw [zone, if_pos utc]; rfl⟩
    · have minutes : padded 2 (offset.natAbs / 60 / 60) ++ [58] ++
          padded 2 (offset.natAbs / 60 % 60) ∈ hoursMinutes := by
        refine ⟨_, ⟨_, rfl⟩, _, ⟨_, ?_, rfl⟩, rfl⟩
        show offset.natAbs / 60 % 60 < 100
        omega
      rw [zone, if_neg utc]
      by_cases west : offset ≤ -60
      · exact ⟨45, _, by rw [if_neg (by decide)]; exact minutes, by simp [west, ascii]⟩
      · exact ⟨43, _, by rw [if_neg (by decide)]; exact minutes, by simp [west, ascii]⟩

/-! ## Printed times -/

/-- The parts of a printed time, each up to its separator. -/
def printedParts : Set Bytes :=
  Set.image2 (· ++ ·) (signedField 4 45)
    (Set.image2 (· ++ ·) (signedField 2 45)
      (Set.image2 (· ++ ·) (signedField 2 84)
        (Set.image2 (· ++ ·) (paddedField 2 58)
          (Set.image2 (· ++ ·) (paddedField 2 58)
            (Set.image2 (· ++ ·) twoDigits (Set.range zone))))))

theorem formatRFC3339_mem_printedParts (t : Time) : t.formatRFC3339 ∈ printedParts := by
  let wall := t.sec + t.loc.offset
  let date := civil (wall.fdiv 86400)
  let second := (wall.fmod 86400).natAbs
  have text : t.formatRFC3339 =
      (signed 4 date.1 ++ [45]) ++ ((signed 2 date.2.1 ++ [45]) ++ ((signed 2 date.2.2 ++ [84]) ++
        ((padded 2 (second / 3600) ++ [58]) ++ ((padded 2 (second / 60 % 60) ++ [58]) ++
          (padded 2 (second % 60) ++ zone t.loc.offset))))) := by
    have joined : t.formatRFC3339 =
        signed 4 date.1 ++ [45] ++ signed 2 date.2.1 ++ [45] ++ signed 2 date.2.2 ++ [84] ++
          padded 2 (second / 3600) ++ [58] ++ padded 2 (second / 60 % 60) ++ [58] ++
          padded 2 (second % 60) ++ zone t.loc.offset := rfl
    rw [joined]
    simp only [List.append_assoc]
  have seconds : padded 2 (second % 60) ∈ twoDigits := by
    refine ⟨_, ?_, rfl⟩
    show second % 60 < 100
    omega
  rw [text]
  refine Set.mem_image2_of_mem ⟨_, rfl⟩ (Set.mem_image2_of_mem ⟨_, rfl⟩
    (Set.mem_image2_of_mem ⟨_, rfl⟩ (Set.mem_image2_of_mem ⟨_, rfl⟩
      (Set.mem_image2_of_mem ⟨_, rfl⟩ (Set.mem_image2_of_mem seconds ⟨_, rfl⟩)))))

/-- **Printed times are prefix-free**: a time at the front of a text can be read from it. -/
theorem prefixFree_formatRFC3339 : PrefixFree (Set.range formatRFC3339) := by
  have parts : PrefixFree printedParts :=
    (prefixFree_signedField 4 (by decide)).append <|
      (prefixFree_signedField 2 (by decide)).append <|
        (prefixFree_signedField 2 (by decide)).append <|
          (prefixFree_paddedField 2 (by decide)).append <|
            (prefixFree_paddedField 2 (by decide)).append <|
              prefixFree_twoDigits.append prefixFree_zone
  refine parts.mono ?_
  rintro _ ⟨t, rfl⟩
  exact formatRFC3339_mem_printedParts t

end Time

end GoBase
