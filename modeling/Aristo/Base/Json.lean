import Aristo.Base.Base64

/-!
# JSON

`encoding/json`.  `runes` and `utf8` go between the bytes of a Go string and the characters of a
JSON string; bytes that are not UTF-8 become the replacement character.  `render` writes a value the
way `json.Marshal` does, and `parse` reads every text that `json.Unmarshal` accepts, with two units
of fuel for each byte.  `parse_render` is the round trip.  Numbers keep the text they are written
in.
-/

namespace GoBase

open List

/-! ## Text -/

/-- `utf8.RuneError`, the replacement character. -/
def runeError : Char := Char.ofNat 0xFFFD

/-- `utf8.DecodeRune`: the first character and the number of its bytes. -/
def decodeRune (text : Bytes) : Char × ℕ :=
  match text.toByteArray.utf8DecodeChar? 0 with
  | some c => (c, c.utf8Size)
  | none => (runeError, 1)

/-- The characters of a string, as `range` goes through them. -/
def runesWithin : ℕ → Bytes → List Char
  | 0, _ => []
  | _ + 1, [] => []
  | fuel + 1, b :: rest =>
    let (c, size) := decodeRune (b :: rest)
    c :: runesWithin fuel ((b :: rest).drop size)

def runes (text : Bytes) : List Char :=
  runesWithin text.length text

/-- The string of a sequence of characters. -/
def utf8 (chars : List Char) : Bytes :=
  chars.flatMap String.utf8EncodeChar

/-- A character is decoded from its bytes. -/
theorem decodeRune_utf8EncodeChar (c : Char) (rest : Bytes) :
    decodeRune (String.utf8EncodeChar c ++ rest) = (c, (String.utf8EncodeChar c).length) := by
  rw [decodeRune, toByteArray_append, ByteArray.utf8DecodeChar?_utf8EncodeChar_append,
    String.length_utf8EncodeChar]

/-- The first byte of a character is the character, when it is ASCII, and above the ASCII
range otherwise. -/
theorem utf8EncodeChar_head (c : Char) :
    ∃ b rest, String.utf8EncodeChar c = b :: rest ∧ (b.toNat = c.toNat ∨ 128 ≤ b.toNat) := by
  unfold String.utf8EncodeChar
  show ∃ b rest, (if c.toNat ≤ 127 then _ else _) = _ ∧ _
  repeat' split
  · refine ⟨_, _, rfl, Or.inl ?_⟩
    show (UInt8.ofNat c.toNat).toNat = c.toNat
    rw [UInt8.toNat_ofNat']
    omega
  all_goals
    refine ⟨_, _, rfl, Or.inr ?_⟩
    rw [UInt8.toNat_ofNat']
    omega

/-- The string that is read back: every byte that is no part of a character is a replacement
character. -/
def toValidUTF8 (text : Bytes) : Bytes :=
  utf8 (runes text)

/-- `utf8.Valid`. -/
def ValidUTF8 (text : Bytes) : Prop :=
  toValidUTF8 text = text

instance decidableValidUTF8 (text : Bytes) : Decidable (ValidUTF8 text) :=
  inferInstanceAs (Decidable (_ = _))

/-- The characters of a string that was made of characters. -/
theorem runesWithin_utf8 {fuel : ℕ} {chars : List Char} (enough : (utf8 chars).length ≤ fuel) :
    runesWithin fuel (utf8 chars) = chars := by
  induction chars generalizing fuel with
  | nil => cases fuel <;> rfl
  | cons c chars ih =>
    have split : utf8 (c :: chars) = String.utf8EncodeChar c ++ utf8 chars := rfl
    obtain ⟨b, rest, first, -⟩ := utf8EncodeChar_head c
    have decoded := decodeRune_utf8EncodeChar c (utf8 chars)
    rw [split, length_append, first, length_cons] at enough
    obtain ⟨fuel, rfl⟩ : ∃ n, fuel = n + 1 := ⟨fuel - 1, by omega⟩
    rw [first] at decoded
    rw [split, first, cons_append, runesWithin, ← cons_append, decoded]
    dsimp only
    rw [drop_left, ih (by omega)]

/-- What is read back is valid. -/
theorem validUTF8_toValidUTF8 (text : Bytes) : ValidUTF8 (toValidUTF8 text) :=
  congrArg utf8 (runesWithin_utf8 (Nat.le_refl _))

/-! ## Strings in quotes -/

namespace Json

def quote : UInt8 := 34

def backslash : UInt8 := 92

def hexDigit (n : ℕ) : UInt8 :=
  if n < 10 then UInt8.ofNat (48 + n) else UInt8.ofNat (87 + n)

def hexValue (b : UInt8) : Option ℕ :=
  let n := b.toNat
  if 48 ≤ n ∧ n ≤ 57 then some (n - 48)
  else if 97 ≤ n ∧ n ≤ 102 then some (n - 87)
  else if 65 ≤ n ∧ n ≤ 70 then some (n - 55)
  else none

def hex4 (n : ℕ) : Bytes :=
  [hexDigit (n / 4096 % 16), hexDigit (n / 256 % 16), hexDigit (n / 16 % 16), hexDigit (n % 16)]

def readHex4 : Bytes → Option (ℕ × Bytes)
  | a :: b :: c :: d :: rest => do
    let a ← hexValue a
    let b ← hexValue b
    let c ← hexValue c
    let d ← hexValue d
    return (a * 4096 + b * 256 + c * 16 + d, rest)
  | _ => none

/-- Four digits are read back. -/
theorem readHex4_hex4 {n : ℕ} (h : n < 65536) (rest : Bytes) :
    readHex4 (hex4 n ++ rest) = some (n, rest) := by
  have digits : ∀ n : Fin 16, hexValue (hexDigit n) = some n.val := by decide
  have digit : ∀ m : ℕ, hexValue (hexDigit (m % 16)) = some (m % 16) :=
    fun m => digits ⟨m % 16, Nat.mod_lt m (by norm_num)⟩
  have sum : n / 4096 % 16 * 4096 + n / 256 % 16 * 256 + n / 16 % 16 * 16 + n % 16 = n := by
    omega
  show (do
    let a ← hexValue (hexDigit (n / 4096 % 16))
    let b ← hexValue (hexDigit (n / 256 % 16))
    let c ← hexValue (hexDigit (n / 16 % 16))
    let d ← hexValue (hexDigit (n % 16))
    return (a * 4096 + b * 256 + c * 16 + d, rest) : Option (ℕ × Bytes)) = _
  simp only [digit]
  exact congrArg (fun n => some (n, rest)) sum

/-- The characters with an escape of one letter, and that letter. -/
def shortEscapes : List (Char × UInt8) :=
  [('"', 34), ('\\', 92), (Char.ofNat 8, 98), (Char.ofNat 12, 102), ('\n', 110), ('\r', 114),
    ('\t', 116)]

/-- The characters that are written as `\u` with four digits. -/
def needsHex (c : Char) : Bool :=
  c.toNat < 32 || c.toNat = 60 || c.toNat = 62 || c.toNat = 38 || c.toNat = 0x2028 ||
    c.toNat = 0x2029

/-- The text of one character of a string. -/
def escape (c : Char) : Bytes :=
  match shortEscapes.lookup c with
  | some letter => [backslash, letter]
  | none =>
    if needsHex c then backslash :: 117 :: hex4 c.toNat else String.utf8EncodeChar c

/-- A string, without the quote in front of it. -/
def renderChars : List Char → Bytes
  | [] => [quote]
  | c :: chars => escape c ++ renderChars chars

/-- The letters after a backslash, and what they stand for; `\/` is read but not written. -/
def shortEscape (letter : UInt8) : Option Char :=
  if letter = 47 then some '/'
  else (shortEscapes.find? fun pair => pair.2 = letter).map Prod.fst

/-- The second half of a surrogate pair, if it follows. -/
def lowSurrogate (rest : Bytes) : Option (ℕ × Bytes) :=
  match rest with
  | b :: u :: rest =>
    if b = backslash ∧ u = 117 then do
      let (low, rest) ← readHex4 rest
      if 0xDC00 ≤ low ∧ low < 0xE000 then some (low, rest) else none
    else
      none
  | _ => none

/-- The character of four digits after `\u`; half a surrogate pair is the replacement character. -/
def unicodeEscape (code : ℕ) (rest : Bytes) : Char × Bytes :=
  if 0xD800 ≤ code ∧ code < 0xE000 then
    match if code < 0xDC00 then lowSurrogate rest else none with
    | some (low, rest) => (Char.ofNat (0x10000 + (code - 0xD800) * 1024 + (low - 0xDC00)), rest)
    | none => (runeError, rest)
  else
    (Char.ofNat code, rest)

def readEscape : Bytes → Option (Char × Bytes)
  | [] => none
  | letter :: rest =>
    if letter = 117 then (readHex4 rest).map fun (code, rest) => unicodeEscape code rest
    else (shortEscape letter).map fun c => (c, rest)

/-- Read the characters of a string up to and with the closing quote. -/
def readChars : ℕ → Bytes → Option (List Char × Bytes)
  | 0, _ => none
  | _ + 1, [] => none
  | fuel + 1, b :: rest =>
    if b = quote then some ([], rest)
    else if b = backslash then
      match readEscape rest with
      | some (c, rest) => (readChars fuel rest).map fun read => (c :: read.1, read.2)
      | none => none
    else if b.toNat < 32 then none
    else
      let (c, size) := decodeRune (b :: rest)
      (readChars fuel ((b :: rest).drop size)).map fun read => (c :: read.1, read.2)

/-- A letter behind a backslash is read back, -/
theorem readEscape_short {c : Char} {letter : UInt8} (h : shortEscapes.lookup c = some letter)
    (rest : Bytes) : readEscape (letter :: rest) = some (c, rest) := by
  have all : ∀ pair ∈ shortEscapes, pair.2 ≠ 117 ∧ shortEscape pair.2 = some pair.1 := by decide
  have mem : (c, letter) ∈ shortEscapes := by
    obtain ⟨before, after, split, -⟩ := lookup_eq_some_iff.mp h
    rw [split]
    simp
  obtain ⟨notU, read⟩ := all (c, letter) mem
  rw [readEscape, if_neg notU, read]
  rfl

/-- a character in digits, -/
theorem readEscape_hex {c : Char} (h : needsHex c = true) (rest : Bytes) :
    readEscape (117 :: (hex4 c.toNat ++ rest)) = some (c, rest) := by
  have small : c.toNat < 0xD800 := by
    simp only [needsHex, Bool.or_eq_true, decide_eq_true_eq] at h
    omega
  rw [readEscape, if_pos rfl, readHex4_hex4 (by omega)]
  have ordinary : ¬ (0xD800 ≤ c.toNat ∧ c.toNat < 0xE000) := by omega
  simp [unicodeEscape, ordinary]

/-- any character, -/
theorem readChars_escape (fuel : ℕ) (c : Char) (tail : Bytes) :
    readChars (fuel + 1) (escape c ++ tail) =
      (readChars fuel tail).map fun read => (c :: read.1, read.2) := by
  unfold escape
  cases short : shortEscapes.lookup c with
  | some letter =>
    show readChars (fuel + 1) (backslash :: letter :: tail) = _
    rw [readChars, if_neg (by decide), if_pos rfl, readEscape_short short]
  | none =>
    dsimp only
    split
    · next hex =>
      rw [cons_append, cons_append, readChars, if_neg (by decide), if_pos rfl,
        readEscape_hex hex]
    · next plain =>
      -- the first byte is neither a quote nor a backslash nor a control character
      obtain ⟨b, rest, bytes, head⟩ := utf8EncodeChar_head c
      have decoded := decodeRune_utf8EncodeChar c tail
      have dropped : (String.utf8EncodeChar c ++ tail).drop
          (String.utf8EncodeChar c).length = tail := drop_left
      have large : ¬ c.toNat < 32 := by
        intro small
        exact plain (by simp [needsHex, small])
      have notQuote : b ≠ quote := by
        rintro rfl
        rcases head with equal | above
        · have same : c = '"' := Char.toNat_inj.mp equal.symm
          rw [same] at short
          cases short
        · exact absurd above (by decide)
      have notBackslash : b ≠ backslash := by
        rintro rfl
        rcases head with equal | above
        · have same : c = '\\' := Char.toNat_inj.mp equal.symm
          rw [same] at short
          cases short
        · exact absurd above (by decide)
      have notControl : ¬ b.toNat < 32 := by omega
      rw [bytes, cons_append] at decoded dropped ⊢
      rw [readChars, if_neg notQuote, if_neg notBackslash, if_neg notControl, decoded]
      dsimp only
      rw [dropped]

/-- and a whole string. -/
theorem readChars_renderChars {fuel : ℕ} {chars : List Char} (enough : chars.length < fuel)
    (rest : Bytes) : readChars fuel (renderChars chars ++ rest) = some (chars, rest) := by
  induction chars generalizing fuel with
  | nil =>
    obtain ⟨fuel, rfl⟩ := Nat.exists_eq_succ_of_ne_zero (Nat.ne_of_gt enough)
    rfl
  | cons c chars ih =>
    obtain ⟨fuel, rfl⟩ := Nat.exists_eq_succ_of_ne_zero (Nat.ne_zero_of_lt enough)
    rw [renderChars, append_assoc, readChars_escape, ih (by simpa using enough)]
    rfl

/-- A string has at least as many bytes as fuel is needed for it. -/
theorem length_lt_renderChars (chars : List Char) : chars.length < (renderChars chars).length := by
  induction chars with
  | nil => decide
  | cons c =>
    have some_byte : 0 < (escape c).length := by
      unfold escape
      split
      · simp
      · split
        · simp
        · rw [String.length_utf8EncodeChar]
          exact c.utf8Size_pos
    rw [renderChars, length_append, length_cons]
    omega

/-! ## Numbers -/

def isDigit (b : UInt8) : Bool :=
  48 ≤ b.toNat && b.toNat ≤ 57

def isNumberByte (b : UInt8) : Bool :=
  isDigit b || b = 43 || b = 45 || b = 46 || b = 69 || b = 101

def isExponent : Bytes → Bool
  | [] => true
  | e :: rest =>
    (e = 69 || e = 101) &&
      let digits := match rest with
        | sign :: digits => if sign = 43 ∨ sign = 45 then digits else rest
        | [] => []
      !digits.isEmpty && digits.all isDigit

def isFraction : Bytes → Bool
  | [] => true
  | b :: rest =>
    if b = 46 then
      !(rest.takeWhile isDigit).isEmpty && isExponent (rest.dropWhile isDigit)
    else
      isExponent (b :: rest)

/-- The whole part without a sign, which has no leading zero, and what follows it. -/
def isUnsigned (text : Bytes) : Bool :=
  let whole := text.takeWhile isDigit
  !whole.isEmpty && (whole.length = 1 || whole.head? ≠ some 48) &&
    isFraction (text.dropWhile isDigit)

/-- The number literals of JSON. -/
def isNumber (text : Bytes) : Bool :=
  text.all isNumberByte &&
    match text with
    | b :: rest => if b = 45 then isUnsigned rest else isUnsigned text
    | [] => false

end Json

structure Numeral where
  text : Bytes
  valid : Json.isNumber text = true
deriving DecidableEq

/-! ## Values -/

inductive Json where
  | null
  | bool (value : Bool)
  | number (value : Numeral)
  | string (chars : List Char)
  | array (items : List Json)
  | object (members : List (List Char × Json))

namespace Json

/-! ### Writing -/

mutual

/-- `json.Marshal`. -/
def render : Json → Bytes
  | .null => ascii "null"
  | .bool true => ascii "true"
  | .bool false => ascii "false"
  | .number value => value.text
  | .string chars => quote :: renderChars chars
  | .array [] => ascii "[]"
  | .array (item :: items) => 91 :: (render item ++ renderItems items)
  | .object [] => ascii "\x7b\x7d"
  | .object ((key, value) :: members) =>
    123 :: quote :: (renderChars key ++ 58 :: (render value ++ renderMembers members))

def renderItems : List Json → Bytes
  | [] => [93]
  | item :: items => 44 :: (render item ++ renderItems items)

def renderMembers : List (List Char × Json) → Bytes
  | [] => [125]
  | (key, value) :: members =>
    44 :: quote :: (renderChars key ++ 58 :: (render value ++ renderMembers members))

end

/-! ### Reading -/

def skipSpace : Bytes → Bytes
  | [] => []
  | b :: rest => if b = 32 ∨ b = 9 ∨ b = 10 ∨ b = 13 then skipSpace rest else b :: rest

def readString (input : Bytes) : Option (List Char × Bytes) :=
  match skipSpace input with
  | [] => none
  | b :: rest => if b = quote then readChars rest.length rest else none

/-- A number: everything that could be part of one. -/
def readNumber (input : Bytes) : Option (Json × Bytes) :=
  let text := input.takeWhile isNumberByte
  if valid : isNumber text = true then
    some (.number ⟨text, valid⟩, input.dropWhile isNumberByte)
  else
    none

/-- A value that contains no others. -/
def readScalar (input : Bytes) : Option (Json × Bytes) :=
  if hasPrefix input (ascii "null") then some (.null, input.drop 4)
  else if hasPrefix input (ascii "true") then some (.bool true, input.drop 4)
  else if hasPrefix input (ascii "false") then some (.bool false, input.drop 5)
  else readNumber input

mutual

def readValue : ℕ → Bytes → Option (Json × Bytes)
  | 0, _ => none
  | fuel + 1, input =>
    match skipSpace input with
    | [] => none
    | b :: rest =>
      if b = quote then
        (readChars rest.length rest).map fun read => (.string read.1, read.2)
      else if b = 91 then
        match skipSpace rest with
        | [] => none
        | c :: after =>
          if c = 93 then some (.array [], after)
          else (readItems fuel (c :: after)).map fun read => (.array read.1, read.2)
      else if b = 123 then
        match skipSpace rest with
        | [] => none
        | c :: after =>
          if c = 125 then some (.object [], after)
          else (readMembers fuel (c :: after)).map fun read => (.object read.1, read.2)
      else
        readScalar (b :: rest)

def readItems : ℕ → Bytes → Option (List Json × Bytes)
  | 0, _ => none
  | fuel + 1, input =>
    match readValue fuel input with
    | none => none
    | some (item, rest) =>
      match skipSpace rest with
      | [] => none
      | b :: rest =>
        if b = 93 then some ([item], rest)
        else if b = 44 then
          (readItems fuel rest).map fun read => (item :: read.1, read.2)
        else none

def readMembers : ℕ → Bytes → Option (List (List Char × Json) × Bytes)
  | 0, _ => none
  | fuel + 1, input =>
    match readString input with
    | none => none
    | some (key, rest) =>
      match skipSpace rest with
      | [] => none
      | colon :: rest =>
        if colon ≠ 58 then none
        else
          match readValue fuel rest with
          | none => none
          | some (value, rest) =>
            match skipSpace rest with
            | [] => none
            | b :: rest =>
              if b = 125 then some ([(key, value)], rest)
              else if b = 44 then
                (readMembers fuel rest).map fun read => ((key, value) :: read.1, read.2)
              else none

end

/-- `json.Unmarshal`, before the value is converted to a Go type: one value and nothing
after it. -/
def parse (input : Bytes) : Option Json :=
  match readValue (2 * input.length + 1) input with
  | none => none
  | some (value, rest) => if skipSpace rest = [] then some value else none

/-! ### The round trip -/

/-- The text does not go on with a byte that a number in front of it would take. -/
def Stops (rest : Bytes) : Prop :=
  ∀ b ∈ rest.head?, isNumberByte b = false

variable {b : UInt8}

theorem stops_cons (h : isNumberByte b = false) (rest : Bytes) : Stops (b :: rest) := by
  intro c mem
  cases mem
  exact h

/-- A byte that a value can start with, and a space or a closing bracket cannot. -/
def startsValue (b : UInt8) : Bool :=
  b ≠ 32 && b ≠ 9 && b ≠ 10 && b ≠ 13 && b ≠ 93

/-- A value does not start with a space, -/
theorem skipSpace_cons (h : startsValue b = true) (rest : Bytes) :
    skipSpace (b :: rest) = b :: rest := by
  simp only [startsValue, Bool.and_eq_true, decide_eq_true_eq] at h
  rw [skipSpace, if_neg (by tauto)]

theorem numeral_head (value : Numeral) :
    ∃ b tail, value.text = b :: tail ∧ isNumberByte b = true := by
  obtain ⟨text, valid⟩ := value
  cases text with
  | nil => cases valid
  | cons b tail =>
    simp only [isNumber, all_cons, Bool.and_eq_true] at valid
    exact ⟨b, tail, rfl, valid.1.1⟩

theorem ne_of_isNumberByte (h : isNumberByte b = true) {c : UInt8}
    (other : isNumberByte c = false) : b ≠ c := by
  rintro rfl
  rw [h] at other
  cases other

theorem startsValue_of_isNumberByte (h : isNumberByte b = true) : startsValue b = true := by
  have apart {c : UInt8} := @ne_of_isNumberByte b h c
  simp [startsValue, @apart 32 rfl, @apart 9 rfl, @apart 10 rfl, @apart 13 rfl, @apart 93 rfl]

/-- which holds of every value. -/
theorem render_head (value : Json) : ∃ b tail, render value = b :: tail ∧ startsValue b = true := by
  cases value with
  | number value =>
    obtain ⟨b, tail, text, isByte⟩ := numeral_head value
    exact ⟨b, tail, by rw [render, text], startsValue_of_isNumberByte isByte⟩
  | bool value => cases value <;> exact ⟨_, _, rfl, rfl⟩
  | array items => cases items <;> exact ⟨_, _, rfl, rfl⟩
  | object members => cases members <;> exact ⟨_, _, rfl, rfl⟩
  | _ => exact ⟨_, _, rfl, rfl⟩

variable {rest : Bytes}

/-- A number ends where its text does, -/
theorem readNumber_text (value : Numeral) (stops : Stops rest) :
    readNumber (value.text ++ rest) = some (.number value, rest) := by
  obtain ⟨text, valid⟩ := value
  have bytes : ∀ b ∈ text, isNumberByte b = true := by
    simp only [isNumber, Bool.and_eq_true, all_eq_true] at valid
    exact valid.1
  have taken : (text ++ rest).takeWhile isNumberByte = text := by
    rw [takeWhile_append_of_pos bytes]
    cases rest with
    | nil => simp
    | cons b => simp [stops b rfl]
  have dropped : (text ++ rest).dropWhile isNumberByte = rest := by
    rw [dropWhile_append_of_pos bytes]
    cases rest with
    | nil => rfl
    | cons b => simp [stops b rfl]
  unfold readNumber
  simp only [taken, dropped, valid, dite_true]

/-- and is read back, -/
theorem readValue_number (fuel : ℕ) (value : Numeral) (stops : Stops rest) :
    readValue (fuel + 1) (value.text ++ rest) = some (.number value, rest) := by
  obtain ⟨b, tail, text, isByte⟩ := numeral_head value
  have read := readNumber_text value stops
  have apart {c : UInt8} := @ne_of_isNumberByte b isByte c
  have other {c : UInt8} (notByte : isNumberByte c = false) (rest word : Bytes) :
      hasPrefix (b :: rest) (c :: word) = false := by
    simp [hasPrefix, isPrefixOf, (apart notByte).symm]
  rw [text, cons_append] at read ⊢
  rw [readValue, skipSpace_cons (startsValue_of_isNumberByte isByte)]
  dsimp only
  rw [if_neg (apart rfl), if_neg (apart rfl), if_neg (apart rfl), readScalar]
  rw [show ascii "null" = 110 :: ascii "ull" from rfl,
    show ascii "true" = 116 :: ascii "rue" from rfl,
    show ascii "false" = 102 :: ascii "alse" from rfl, other rfl, other rfl, other rfl]
  exact read

theorem readString_renderChars (chars : List Char) (rest : Bytes) :
    readString (quote :: (renderChars chars ++ rest)) = some (chars, rest) := by
  have enough : chars.length < (renderChars chars ++ rest).length := by
    have longer := length_lt_renderChars chars
    rw [length_append]
    omega
  rw [readString, skipSpace_cons rfl]
  exact readChars_renderChars enough rest

/-- as is a string. -/
theorem readValue_string (fuel : ℕ) (chars : List Char) (rest : Bytes) :
    readValue (fuel + 1) (quote :: (renderChars chars ++ rest)) = some (.string chars, rest) := by
  have read : readChars _ (renderChars chars ++ rest) = _ := readString_renderChars chars rest
  rw [readValue, skipSpace_cons rfl]
  dsimp only
  rw [if_pos rfl, read]
  rfl

mutual

def cost : Json → ℕ
  | .array (item :: items) => cost item + costItems items + 2
  | .object ((_, value) :: members) => cost value + costMembers members + 2
  | _ => 1

def costItems : List Json → ℕ
  | [] => 0
  | item :: items => cost item + costItems items + 1

def costMembers : List (List Char × Json) → ℕ
  | [] => 0
  | (_, value) :: members => cost value + costMembers members + 1

end

/-- A value is read back from text that stops after it. -/
def ReadsBack (value : Json) : Prop :=
  ∀ fuel rest, cost value ≤ fuel → Stops rest →
    readValue fuel (render value ++ rest) = some (value, rest)

theorem cost_pos (value : Json) : 0 < cost value := by
  unfold cost
  split <;> omega

/-- So is an array, when its items are, -/
theorem readValue_array {fuel : ℕ} {item : Json} {items : List Json}
    (read : readItems fuel (render item ++ (renderItems items ++ rest)) =
      some (item :: items, rest)) :
    readValue (fuel + 1) (render (.array (item :: items)) ++ rest) =
      some (.array (item :: items), rest) := by
  obtain ⟨b, tail, text, starts⟩ := render_head item
  have notClosed : b ≠ 93 := by
    rintro rfl
    cases starts
  rw [text, cons_append] at read
  rw [render, cons_append, append_assoc, text, readValue, skipSpace_cons rfl]
  dsimp only
  rw [if_neg (by decide), if_pos rfl, cons_append, skipSpace_cons starts]
  dsimp only
  rw [if_neg notClosed, read]
  rfl

/-- and an object, when its members are. -/
theorem readValue_object {fuel : ℕ} {key : List Char} {value : Json}
    {members : List (List Char × Json)} (read : readMembers fuel (quote :: (renderChars key ++
      58 :: (render value ++ (renderMembers members ++ rest)))) =
        some ((key, value) :: members, rest)) :
    readValue (fuel + 1) (render (.object ((key, value) :: members)) ++ rest) =
      some (.object ((key, value) :: members), rest) := by
  have text : render (.object ((key, value) :: members)) ++ rest =
      123 :: quote :: (renderChars key ++
        58 :: (render value ++ (renderMembers members ++ rest))) := by
    simp [render]
  rw [text, readValue, skipSpace_cons rfl]
  dsimp only
  rw [if_neg (by decide), if_neg (by decide), if_pos rfl, skipSpace_cons rfl]
  dsimp only
  rw [if_neg (by decide), read]
  rfl

/-- **One item**, followed by the others or by the end, -/
theorem readItems_cons {fuel : ℕ} {item : Json} (head : ReadsBack item) (enough : cost item ≤ fuel)
    (punctuation : b = 93 ∨ b = 44) (rest : Bytes) :
    readItems (fuel + 1) (render item ++ b :: rest) =
      if b = 93 then some ([item], rest)
      else (readItems fuel rest).map fun read => (item :: read.1, read.2) := by
  rcases punctuation with rfl | rfl <;>
  · rw [readItems, head fuel _ enough (stops_cons rfl rest)]
    rfl

/-- and one member. -/
theorem readMembers_cons {fuel : ℕ} (key : List Char) {value : Json} (head : ReadsBack value)
    (enough : cost value ≤ fuel) (punctuation : b = 125 ∨ b = 44) (rest : Bytes) :
    readMembers (fuel + 1) (quote :: (renderChars key ++ 58 :: (render value ++ b :: rest))) =
      if b = 125 then some ([(key, value)], rest)
      else (readMembers fuel rest).map fun read => ((key, value) :: read.1, read.2) := by
  rw [readMembers, readString_renderChars]
  dsimp only
  rw [skipSpace_cons rfl]
  dsimp only
  rw [if_neg (by decide)]
  rcases punctuation with rfl | rfl <;>
  · rw [head fuel _ enough (stops_cons rfl rest)]
    rfl

mutual

/-- **Every value** is read back, -/
theorem readsBack (value : Json) : ReadsBack value := by
  intro fuel rest enough stops
  obtain ⟨fuel, rfl⟩ := Nat.exists_eq_succ_of_ne_zero
    (Nat.ne_of_gt (Nat.lt_of_lt_of_le (cost_pos value) enough))
  cases value with
  | null => rfl
  | bool value => cases value <;> rfl
  | number value => exact readValue_number fuel value stops
  | string chars => exact readValue_string fuel chars rest
  | array items =>
    cases items with
    | nil => rfl
    | cons item items =>
      simp only [cost] at enough
      exact readValue_array
        (readItems_renderItems items (readsBack item) fuel rest (by omega))
  | object members =>
    cases members with
    | nil => rfl
    | cons member members =>
      obtain ⟨key, value⟩ := member
      simp only [cost] at enough
      exact readValue_object
        (readMembers_renderMembers members key (readsBack value) fuel rest (by omega))

/-- in an array -/
theorem readItems_renderItems (items : List Json) {item : Json} (head : ReadsBack item)
    (fuel : ℕ) (rest : Bytes) (enough : cost item + costItems items + 1 ≤ fuel) :
    readItems fuel (render item ++ (renderItems items ++ rest)) = some (item :: items, rest) := by
  obtain ⟨fuel, rfl⟩ := Nat.exists_eq_succ_of_ne_zero (Nat.ne_zero_of_lt enough)
  cases items with
  | nil => exact readItems_cons head (by omega) (Or.inl rfl) rest
  | cons next items =>
    simp only [costItems] at enough
    have read := readItems_renderItems items (readsBack next) fuel rest (by omega)
    rw [renderItems, cons_append, append_assoc,
      readItems_cons head (by omega) (Or.inr rfl), if_neg (by decide), read]
    rfl

/-- and in an object as alone. -/
theorem readMembers_renderMembers (members : List (List Char × Json)) (key : List Char)
    {value : Json} (head : ReadsBack value) (fuel : ℕ) (rest : Bytes)
    (enough : cost value + costMembers members + 1 ≤ fuel) :
    readMembers fuel (quote :: (renderChars key ++
      58 :: (render value ++ (renderMembers members ++ rest)))) =
        some ((key, value) :: members, rest) := by
  obtain ⟨fuel, rfl⟩ := Nat.exists_eq_succ_of_ne_zero (Nat.ne_zero_of_lt enough)
  cases members with
  | nil => exact readMembers_cons key head (by omega) (Or.inl rfl) rest
  | cons next members =>
    obtain ⟨nextKey, next⟩ := next
    simp only [costMembers] at enough
    have read := readMembers_renderMembers members nextKey (readsBack next) fuel rest (by omega)
    have text : renderMembers ((nextKey, next) :: members) ++ rest =
        44 :: quote :: (renderChars nextKey ++
          58 :: (render next ++ (renderMembers members ++ rest))) := by
      simp [renderMembers]
    rw [text, readMembers_cons key head (by omega) (Or.inr rfl), if_neg (by decide), read]
    rfl

end

mutual

/-- Two units of fuel for each byte are enough. -/
theorem cost_le (value : Json) : cost value ≤ 2 * (render value).length := by
  obtain ⟨b, tail, text, -⟩ := render_head value
  cases value with
  | array items =>
    cases items with
    | nil => simp [cost, render, ascii]
    | cons item items =>
      have first := cost_le item
      have others := costItems_le items
      simp only [cost, render, length_cons, length_append]
      omega
  | object members =>
    cases members with
    | nil => simp [cost, render, ascii]
    | cons member members =>
      obtain ⟨key, value⟩ := member
      have first := cost_le value
      have others := costMembers_le members
      simp only [cost, render, length_cons, length_append]
      omega
  | _ =>
    show 1 ≤ _
    rw [text, length_cons]
    omega

theorem costItems_le (items : List Json) : costItems items ≤ 2 * (renderItems items).length := by
  cases items with
  | nil => simp [costItems]
  | cons item items =>
    have first := cost_le item
    have others := costItems_le items
    simp only [costItems, renderItems, length_cons, length_append]
    omega

theorem costMembers_le (members : List (List Char × Json)) :
    costMembers members ≤ 2 * (renderMembers members).length := by
  cases members with
  | nil => simp [costMembers]
  | cons member members =>
    obtain ⟨key, value⟩ := member
    have first := cost_le value
    have others := costMembers_le members
    simp only [costMembers, renderMembers, length_cons, length_append]
    omega

end

/-- **Round trip.**  What `json.Marshal` writes is read back. -/
theorem parse_render (value : Json) : parse (render value) = some value := by
  have enough : cost value ≤ 2 * (render value).length + 1 := by
    have bound := cost_le value
    omega
  have read := readsBack value _ [] enough nofun
  rw [append_nil] at read
  rw [parse, read]
  rfl

example : (parse (ascii " \x7b\"a\" : [true, \"x\\u000a\"] \x7d ")).map render =
    some (ascii "\x7b\"a\":[true,\"x\\n\"]\x7d") := by
  decide +kernel

/-! ## Values of Go types -/

/-- A `string`. -/
def ofString (text : Bytes) : Json :=
  .string (runes text)

def asciiChars (text : Bytes) : List Char :=
  text.map fun b => Char.ofNat b.toNat

/-- A `[]byte`, which is written in base64. -/
def ofBytes (bytes : Bytes) : Json :=
  .string (asciiChars (Base64.encode bytes))

/-- An element of a `[]byte` that is written as an array. -/
def toByte : Json → Option UInt8
  | .null => some 0
  | .number value =>
    let n := value.text.foldl (fun n b => 10 * n + (b.toNat - 48)) 0
    if value.text.all isDigit ∧ n < 256 then some (UInt8.ofNat n) else none
  | _ => none

/-- Read a `[]byte`: base64 text, in which line breaks do not count, or an array of numbers. -/
def toBytes : Json → Option Bytes
  | .null => some []
  | .string chars => Base64.decode ((utf8 chars).filter fun b => b ≠ 10 ∧ b ≠ 13)
  | .array items => items.mapM toByte
  | _ => none

/-- Read a `string` into a variable; `null` leaves it as it is. -/
def toText (old : Bytes) : Json → Option Bytes
  | .null => some old
  | .string chars => some (utf8 chars)
  | _ => none

/-- Read a `bool` into a variable; `null` leaves it as it is. -/
def toBool (old : Bool) : Json → Option Bool
  | .null => some old
  | .bool value => some value
  | _ => none

/-- A slice of such items, which is `null` when it is nil. -/
def ofSlice {α : Type} (item : α → Json) : Option (List α) → Json
  | none => .null
  | some items => .array (items.map item)

def toSlice {α : Type} (read : Json → Option α) : Json → Option (Option (List α))
  | .null => some none
  | .array items => (items.mapM read).map some
  | _ => none

/-- A `[2][]byte`. -/
def ofPair (pair : Bytes × Bytes) : Json :=
  .array [.ofBytes pair.1, .ofBytes pair.2]

/-- Read a `[2][]byte`: an item that is missing is zero, and further items are skipped. -/
def toPair : Json → Option (Bytes × Bytes)
  | .null => some ([], [])
  | .array items => do
    let first ← toBytes (items[0]?.getD .null)
    let second ← toBytes (items[1]?.getD .null)
    return (first, second)
  | _ => none

/-- Names of fields are matched without regard to case; the kelvin sign and the long s count as
letters. -/
def foldChar (c : Char) : Char :=
  if c = Char.ofNat 0x212A then 'K'
  else if c = Char.ofNat 0x17F then 'S'
  else c.toUpper

/-- The member of an object is the field of a struct. -/
def isField (key : List Char) (name : String) : Bool :=
  key.map foldChar = name.toList.map foldChar

/-- Read a `map[string][]byte`, which is nil for `null`. -/
def toBytesMap : Json → Option (Option (List (List Char × Bytes)))
  | .null => some none
  | .object members =>
    (members.mapM fun member => (toBytes member.2).map fun bytes => (member.1, bytes)).map some
  | _ => none

/-- Read a `map[string]interface{}`, which is nil for `null`. -/
def toMap : Json → Option (Option (List (List Char × Json)))
  | .null => some none
  | .object members => some (some members)
  | _ => none

/-- The entry of a map that was read: a later member replaces an earlier one. -/
def entry {α : Type} (members : List (List Char × α)) (name : String) : Option α :=
  members.reverse.lookup name.toList

/-- Set an entry of a map whose keys are in order. -/
def put {α : Type} (key : List Char) (value : α) : List (List Char × α) → List (List Char × α)
  | [] => [(key, value)]
  | member :: members =>
    if key < member.1 then (key, value) :: member :: members
    else if key = member.1 then (key, value) :: members
    else member :: put key value members

mutual

/-- A value that was read into an `interface{}`: `json.Marshal` writes the keys of an object in
order. -/
def canonical : Json → Json
  | .array items => .array (canonicalItems items)
  | .object members => .object (canonicalMembers [] members)
  | value => value

def canonicalItems : List Json → List Json
  | [] => []
  | item :: items => canonical item :: canonicalItems items

/-- The members of an object, added to a map one after the other. -/
def canonicalMembers (map : List (List Char × Json)) :
    List (List Char × Json) → List (List Char × Json)
  | [] => map
  | (key, value) :: members => canonicalMembers (put key (canonical value) map) members

end

theorem utf8_asciiChars {text : Bytes} (small : ∀ b ∈ text, b.toNat < 128) :
    utf8 (asciiChars text) = text := by
  induction text with
  | nil => rfl
  | cons b text ih =>
    have bound := small b mem_cons_self
    have code : (Char.ofNat b.toNat).toNat = b.toNat := by
      have valid : b.toNat.isValidChar := Or.inl (by omega)
      rw [Char.ofNat, dif_pos valid]
      rfl
    have byte : String.utf8EncodeChar (Char.ofNat b.toNat) = [b] := by
      show (if (Char.ofNat b.toNat).toNat ≤ 127 then
        [UInt8.ofNat (Char.ofNat b.toNat).toNat] else _) = _
      rw [code, if_pos (by omega), UInt8.ofNat_toNat]
    show String.utf8EncodeChar (Char.ofNat b.toNat) ++ utf8 (asciiChars text) = _
    rw [byte, ih fun b mem => small b (mem_cons_of_mem _ mem)]
    rfl

theorem toNat_lt_of_mem_encode {bytes : Bytes} (mem : b ∈ Base64.encode bytes) : b.toNat < 128 := by
  by_contra large
  refine Base64.notMem_encode ?_ ?_ bytes mem
  · unfold Base64.value
    dsimp only
    rw [if_neg (by omega), if_neg (by omega), if_neg (by omega), if_neg (by omega),
      if_neg (by omega)]
  · rintro rfl
    exact large (by decide)

/-- Bytes come back from base64. -/
@[simp] theorem toBytes_ofBytes (bytes : Bytes) : toBytes (ofBytes bytes) = some bytes := by
  have plain : (Base64.encode bytes).filter (fun b => b ≠ 10 ∧ b ≠ 13) = Base64.encode bytes := by
    refine filter_eq_self.mpr fun b mem => decide_eq_true ⟨?_, ?_⟩
    · rintro rfl
      exact Base64.notMem_encode (by decide) (by decide) bytes mem
    · rintro rfl
      exact Base64.notMem_encode (by decide) (by decide) bytes mem
  rw [ofBytes, toBytes, utf8_asciiChars fun b mem => toNat_lt_of_mem_encode mem, plain,
    Base64.decode_encode]

theorem toPair_ofPair (pair : Bytes × Bytes) : toPair (ofPair pair) = some pair := by
  simp [toPair, ofPair]

/-- A slice comes back as its items do. -/
theorem toSlice_ofSlice {α : Type} {item : α → Json} {read : Json → Option α} {back : α → α}
    (reads : ∀ x, read (item x) = some (back x)) (slice : Option (List α)) :
    toSlice read (ofSlice item slice) = some (slice.map (map back)) := by
  cases slice with
  | none => rfl
  | some items =>
    have all : (items.map item).mapM read = some (items.map back) := by
      induction items with
      | nil => rfl
      | cons x items ih =>
        rw [map_cons, mapM_cons, reads, ih]
        rfl
    rw [ofSlice, toSlice, all]
    rfl

/-- A member that is no byte string makes the whole map fail. -/
theorem toBytesMap_eq_none {members : List (List Char × Json)} {member : List Char × Json}
    (mem : member ∈ members) (other : toBytes member.2 = none) :
    toBytesMap (.object members) = none := by
  suffices none_read : (members.mapM fun member =>
      (toBytes member.2).map fun bytes => (member.1, bytes)) = none by
    rw [toBytesMap, none_read]
    rfl
  induction members with
  | nil => cases mem
  | cons head members ih =>
    rw [mapM_cons]
    rcases mem_cons.mp mem with rfl | later
    · rw [other]
      rfl
    · rw [ih later]
      cases toBytes head.2 with
      | none | some => rfl

end Json

end GoBase
