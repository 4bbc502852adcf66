import BleManaged.Bluetooth.Central

/-! Which texts are read as a PSM, and how the others fail. -/

namespace BleManaged

/-- A text of decimal digits only. -/
def Digits (chars : List Char) : Prop := ∀ char ∈ chars, char.isDigit = true

/-- How the reading of more digits goes on from a value, and why it ends as it does. -/
inductive Reading (value : Nat) (chars : List Char) : Except IntErrorKind Nat → Prop where
  | number (all : Digits chars) (fits : Nat.ofDigitChars 10 chars value ≤ 65535) :
      Reading value chars (.ok (Nat.ofDigitChars 10 chars value))
  /-- The first digits are too large a number already. -/
  | overflow {digits rest} (split : chars = digits ++ rest) (all : Digits digits)
      (large : 65535 < Nat.ofDigitChars 10 digits value) :
      Reading value chars (.error .posOverflow)
  /-- What stands behind digits that would fit is none. -/
  | invalid {digits char rest} (split : chars = digits ++ char :: rest) (all : Digits digits)
      (fits : Nat.ofDigitChars 10 digits value ≤ 65535) (other : char.isDigit = false) :
      Reading value chars (.error .invalidDigit)

/-- A number does not become smaller by more digits. -/
theorem le_ofDigitChars (value : Nat) (chars : List Char) :
    value ≤ Nat.ofDigitChars 10 chars value := by
  -- Each digit multiplies by ten and adds.
  induction chars generalizing value with
  | nil => simp
  | cons char chars ih =>
    rw [Nat.ofDigitChars_cons]
    exact Nat.le_trans (by omega) (ih _)

/-- A reading that goes on behind a digit began with that digit. -/
theorem Reading.cons {value : Nat} {char : Char} {chars : List Char}
    {outcome : Except IntErrorKind Nat} (digit : char.isDigit = true)
    (reading : Reading (10 * value + (char.toNat - '0'.toNat)) chars outcome) :
    Reading value (char :: chars) outcome := by
  -- The digit goes in front of the digits of the reading, whatever its end.
  cases reading with
  | number all fits =>
    rw [← Nat.ofDigitChars_cons] at fits ⊢
    exact .number (List.forall_mem_cons.mpr ⟨digit, all⟩) fits
  | @overflow digits rest split all large =>
    rw [← Nat.ofDigitChars_cons] at large
    exact .overflow (by rw [split]; rfl) (List.forall_mem_cons.mpr ⟨digit, all⟩) large
  | @invalid digits other rest split all fits none =>
    rw [← Nat.ofDigitChars_cons] at fits
    exact .invalid (by rw [split]; rfl) (List.forall_mem_cons.mpr ⟨digit, all⟩) fits none

/-- The code reads digits in just that way. -/
theorem parseDigits_reading {value : Nat} (small : value ≤ 65535) (chars : List Char) :
    Reading value chars (parseDigits value chars) := by
  -- The induction follows the loop, which stops at the first digit that does not fit.
  induction chars generalizing value with
  | nil =>
    have number : Reading value [] (.ok (Nat.ofDigitChars 10 [] value)) :=
      .number (by simp [Digits]) (by simpa using small)
    simpa [parseDigits] using number
  | cons char chars ih =>
    cases digit : char.isDigit with
    | false =>
      simp only [parseDigits, digit]
      -- Nothing in front of this character is too large.
      have split : char :: chars = [] ++ char :: chars := rfl
      exact .invalid split (by simp [Digits]) (by simpa using small) digit
    | true =>
      simp only [parseDigits, digit, if_true, Nat.mul_comm value 10]
      split
      · rename_i fits
        exact (ih fits).cons digit
      · -- The digit itself makes the number too large, whatever follows.
        rename_i large
        have split : char :: chars = [char] ++ chars := rfl
        refine .overflow split (by simpa [Digits]) ?_
        rw [Nat.ofDigitChars_cons, Nat.ofDigitChars_nil]
        omega

/-- What begins with something is read by its first step and, behind a digit that fits, by the rest.
-/
theorem Reading.uncons {value : Nat} (small : value ≤ 65535) {char : Char} {chars : List Char}
    {outcome : Except IntErrorKind Nat} (reading : Reading value (char :: chars) outcome) :
    char.isDigit = false ∧ outcome = .error .invalidDigit ∨
      char.isDigit = true ∧
        (65535 < 10 * value + (char.toNat - '0'.toNat) ∧ outcome = .error .posOverflow ∨
          10 * value + (char.toNat - '0'.toNat) ≤ 65535 ∧
            Reading (10 * value + (char.toNat - '0'.toNat)) chars outcome) := by
  -- A row of digits that is empty ends the reading here, and any other one goes on.
  cases reading with
  | number all fits =>
    obtain ⟨digit, all⟩ := List.forall_mem_cons.mp all
    rw [Nat.ofDigitChars_cons] at fits ⊢
    exact .inr ⟨digit, .inr ⟨Nat.le_trans (le_ofDigitChars _ chars) fits, .number all fits⟩⟩
  | @overflow digits rest split all large =>
    cases digits with
    | nil =>
      rw [Nat.ofDigitChars_nil] at large
      omega
    | cons first digits =>
      obtain ⟨rfl, rfl⟩ := List.cons.inj split
      obtain ⟨digit, all⟩ := List.forall_mem_cons.mp all
      rw [Nat.ofDigitChars_cons] at large
      refine .inr ⟨digit, ?_⟩
      -- The number is too large at this digit, or only at a later one.
      rcases Nat.lt_or_ge 65535 (10 * value + (char.toNat - '0'.toNat)) with now | later
      · exact .inl ⟨now, rfl⟩
      · exact .inr ⟨later, .overflow rfl all large⟩
  | @invalid digits other rest split all fits none =>
    cases digits with
    | nil =>
      obtain ⟨rfl, _⟩ := List.cons.inj split
      exact .inl ⟨none, rfl⟩
    | cons first digits =>
      obtain ⟨rfl, rfl⟩ := List.cons.inj split
      obtain ⟨digit, all⟩ := List.forall_mem_cons.mp all
      rw [Nat.ofDigitChars_cons] at fits
      refine .inr ⟨digit, .inr ⟨?_, .invalid rfl all fits none⟩⟩
      exact Nat.le_trans (le_ofDigitChars _ digits) fits

/-- The code comes to the end that a reading describes, and to no other. -/
theorem parseDigits_eq_iff {value : Nat} (small : value ≤ 65535) {chars : List Char}
    {outcome : Except IntErrorKind Nat} :
    parseDigits value chars = outcome ↔ Reading value chars outcome := by
  -- The induction is on the characters, with the value read so far below the bound.
  refine ⟨fun same => same ▸ parseDigits_reading small chars, fun reading => ?_⟩
  induction chars generalizing value with
  | nil =>
    cases reading with
    | number => simp [parseDigits]
    | overflow split _ large =>
      obtain ⟨rfl, _⟩ := List.append_eq_nil_iff.mp split.symm
      rw [Nat.ofDigitChars_nil] at large
      omega
    | invalid split => simp at split
  | cons char chars ih =>
    simp only [parseDigits, Nat.mul_comm value 10]
    -- The code tells the same three cases apart at its first character.
    rcases reading.uncons small with ⟨none, rfl⟩ | ⟨digit, ⟨large, rfl⟩ | ⟨fits, reading⟩⟩
    · simp [none]
    · rw [if_pos digit, if_neg (by omega)]
    · rw [if_pos digit, if_pos fits]
      exact ih fits reading

/-- A text without the plus sign it may begin with. -/
def unsigned (text : String) : List Char :=
  match text.toList with
  | '+' :: digits => digits
  | digits => digits

/-- A text has nothing to read behind its sign, or is read from there. -/
theorem parseU16_cases (text : String) :
    unsigned text = [] ∧
        parseU16 text = .error (if text = "" then .empty else .invalidDigit) ∨
      unsigned text ≠ [] ∧ text ≠ "" ∧
        parseU16 text = (parseDigits 0 (unsigned text)).map UInt16.ofNat := by
  -- The code looks at the first two characters before it reads digits.
  have named : text = "" ↔ text.toList = [] := by simp
  simp only [unsigned, parseU16, Ne, named]
  generalize text.toList = chars
  cases chars with
  | nil => exact .inl ⟨rfl, rfl⟩
  | cons char rest =>
    by_cases plus : char = '+'
    · subst plus
      -- A sign by itself is no number, though it is not empty either.
      cases rest with
      | nil => exact .inl ⟨rfl, rfl⟩
      | cons => exact .inr ⟨by simp, by simp, rfl⟩
    · refine .inr ⟨?_, by simp, ?_⟩
      · simp [plus]
      · simp [plus]

/-- The readings that end with a number. -/
theorem reading_ok_iff {chars : List Char} {number : UInt16} :
    (∃ value, Reading 0 chars (.ok value) ∧ UInt16.ofNat value = number) ↔
      Digits chars ∧ Nat.ofDigitChars 10 chars 0 = number.toNat := by
  -- A value that fits is the value of its machine integer.
  constructor
  · rintro ⟨_, ⟨all, fits⟩, rfl⟩
    exact ⟨all, by simp; omega⟩
  · rintro ⟨all, same⟩
    have fits : Nat.ofDigitChars 10 chars 0 ≤ 65535 := by
      rw [same]
      exact Nat.le_of_lt_succ number.toNat_lt
    exact ⟨_, .number all fits, by rw [same, UInt16.ofNat_toNat]⟩

/-- The readings that end with too large a number. -/
theorem reading_overflow_iff {chars : List Char} :
    Reading 0 chars (.error .posOverflow) ↔
      ∃ digits rest, chars = digits ++ rest ∧ Digits digits ∧
        65535 < Nat.ofDigitChars 10 digits 0 := by
  constructor
  · -- No other reading ends in this way.
    rintro (_ | ⟨split, all, large⟩)
    exact ⟨_, _, split, all, large⟩
  · rintro ⟨digits, rest, split, all, large⟩
    exact .overflow split all large

/-- A text is a decimal numeral of this value, with or without a plus sign in front. -/
def Numeral (text : String) (value : Nat) : Prop :=
  unsigned text ≠ [] ∧ Digits (unsigned text) ∧ Nat.ofDigitChars 10 (unsigned text) 0 = value

/-- A text is too large a number as far as it is one. -/
def Overflows (text : String) : Prop :=
  ∃ digits rest, unsigned text = digits ++ rest ∧ Digits digits ∧
    65535 < Nat.ofDigitChars 10 digits 0

/-- A number is read from exactly the decimal numerals below 65536, with any number of zeros in
front; only the empty text is called empty, and only a text whose first digits are too large a
number already is called too large. -/
theorem parseU16_exact (text : String) :
    (∀ number, parseU16 text = .ok number ↔ Numeral text number.toNat) ∧
    (parseU16 text = .error .empty ↔ text = "") ∧
    (parseU16 text = .error .posOverflow ↔ Overflows text) := by
  unfold Numeral Overflows
  -- Behind the sign the code comes to the end that a reading describes.
  have reads {outcome : Except IntErrorKind Nat} :
      parseDigits 0 (unsigned text) = outcome ↔ Reading 0 (unsigned text) outcome :=
    parseDigits_eq_iff (by decide)
  rw [← reading_overflow_iff, ← reads]
  rcases parseU16_cases text with ⟨none, read⟩ | ⟨some, something, read⟩
  · -- Nothing is read, and only the empty text is called so.
    rw [read, none]
    refine ⟨by simp, ?_, ?_⟩
    · by_cases empty : text = "" <;> simp [empty]
    · by_cases empty : text = "" <;> simp [empty, parseDigits]
  · rw [read]
    refine ⟨fun number => ?_, ?_, ?_⟩
    · simp only [← reading_ok_iff, ← reads]
      cases parseDigits 0 (unsigned text) <;> simp [Except.map, some]
    · refine iff_of_false (fun empty => ?_) something
      -- The reading of digits never ends as empty.
      cases outcome : parseDigits 0 (unsigned text) with
      | ok => simp [outcome, Except.map] at empty
      | error =>
        rw [outcome, Except.map] at empty
        cases empty
        cases reads.mp outcome
    · cases parseDigits 0 (unsigned text) <;> simp [Except.map]

/-- A text of digits has no sign. -/
theorem unsigned_of_digits {text : String} (all : Digits text.toList) :
    unsigned text = text.toList := by
  -- A sign is not a digit.
  unfold unsigned
  split
  · rename_i digits whole
    have plus := all '+' (by simp [whole])
    cases plus
  · rfl

/-- A natural number is read back from its digits, or is too large. -/
theorem parseU16_repr (number : Nat) :
    parseU16 number.repr =
      if number ≤ 65535 then .ok (UInt16.ofNat number) else .error .posOverflow := by
  -- The digits of a number are all that its text consists of, and there is at least one.
  have text : number.repr.toList = Nat.toDigits 10 number := Nat.toList_repr
  have all : Digits number.repr.toList := by
    rw [text]
    exact fun char member => Nat.isDigit_of_mem_toDigits (by decide) (by decide) member
  have digits : unsigned number.repr = Nat.toDigits 10 number := (unsigned_of_digits all).trans text
  rw [text] at all
  rcases parseU16_cases number.repr with ⟨none, _⟩ | ⟨_, _, read⟩
  · rw [digits] at none
    exact absurd none Nat.toDigits_ne_nil
  · rw [read, digits]
    by_cases fits : number ≤ 65535
    · have reading : Reading 0 (Nat.toDigits 10 number)
          (.ok (Nat.ofDigitChars 10 (Nat.toDigits 10 number) 0)) :=
        .number all (by simpa using fits)
      rw [Nat.ofDigitChars_ten_toDigits] at reading
      rw [(parseDigits_eq_iff (by decide)).mpr reading, if_pos fits]
      rfl
    · have reading : Reading 0 (Nat.toDigits 10 number) (.error .posOverflow) :=
        .overflow (List.append_nil _).symm all (by simpa using fits)
      rw [(parseDigits_eq_iff (by decide)).mpr reading, if_neg fits]
      rfl

/-- A number that the phone writes as a text is read as itself, if it is a PSM at all. -/
theorem parseU16_toString (psm : Int) :
    parseU16 (toString psm) =
      if psm < 0 then .error .invalidDigit
      else if psm ≤ 65535 then .ok (UInt16.ofNat psm.toNat)
      else .error .posOverflow := by
  rw [Int.toString_eq_repr, Int.repr_eq_if]
  by_cases negative : psm < 0
  · -- A minus sign is no digit.
    rw [if_neg (by omega), if_pos negative]
    simp [parseU16, parseDigits, Except.map]
  · rw [if_pos (by omega), if_neg negative, parseU16_repr]
    have same : psm.toNat ≤ 65535 ↔ psm ≤ 65535 := by omega
    simp only [same]

open Unicode

/-- The characters of a numeral are digits, but for its sign. -/
theorem Numeral.plain {text : String} {value : Nat} (numeral : Numeral text value) :
    ∀ char ∈ text.toList, char ≠ Char.ofNat 0xFFFD := by
  obtain ⟨_, all, _⟩ := numeral
  intro char member
  -- A sign may stand in front of the digits, and nowhere else.
  have digit : char = '+' ∨ char.isDigit = true := by
    unfold unsigned at all
    split at all
    · rename_i digits whole
      rw [whole] at member
      rcases List.mem_cons.mp member with sign | behind
      · exact .inl sign
      · exact .inr (all char behind)
    · exact .inr (all char member)
  rintro rfl
  rcases digit with sign | digit
  · exact absurd sign (by decide)
  · exact absurd digit (by decide)

/-- Only no bytes are decoded to no text. -/
theorem fromUtf8Lossy_eq_empty_iff {bytes : List UInt8} :
    fromUtf8Lossy bytes = "" ↔ bytes = [] := by
  -- Each step of the decoder puts out a character.
  constructor
  · intro empty
    cases bytes with
    | nil => rfl
    | cons first bytes =>
      have none := congrArg String.toList empty
      rw [fromUtf8Lossy, String.toList_ofList] at none
      exact absurd (List.map_eq_nil_iff.mp none) (cut_ne_nil _ first bytes)
  · rintro rfl
    rfl

/-- The bytes of a numeral are those of the text they are decoded to. -/
theorem numeral_lossy_iff {value : List UInt8} {number : Nat} :
    Numeral (fromUtf8Lossy value) number ↔ ∃ text, value = utf8 text ∧ Numeral text number := by
  -- A numeral has no replacement character, so nothing was replaced in the bytes.
  constructor
  · intro numeral
    exact ⟨_, eq_utf8_of_lossy numeral.plain, numeral⟩
  · rintro ⟨text, rfl, numeral⟩
    rwa [fromUtf8Lossy_utf8]

/-- A numeral is too large a number as a whole, or the value of a machine integer. -/
theorem Numeral.fits {text : String} {value : Nat} (numeral : Numeral text value)
    (small : ¬Overflows text) : value ≤ 65535 := by
  obtain ⟨_, all, rfl⟩ := numeral
  -- All its digits together would be too many.
  by_contra large
  exact small ⟨_, [], (List.append_nil _).symm, all, by omega⟩

/-- A text that is read as nothing else has an invalid digit. -/
theorem parseU16_invalid_iff (text : String) :
    parseU16 text = .error .invalidDigit ↔
      text ≠ "" ∧ ¬Overflows text ∧ ∀ value, ¬Numeral text value := by
  obtain ⟨numbers, empty, overflow⟩ := parseU16_exact text
  rw [Ne, ← empty, ← overflow]
  constructor
  · intro invalid
    refine ⟨by simp [invalid], by simp [invalid], fun value numeral => ?_⟩
    have small : value ≤ 65535 := numeral.fits (by simp [← overflow, invalid])
    -- The value would be read as the number that it is.
    have same : (UInt16.ofNat value).toNat = value := by
      simp
      omega
    have number := (numbers (UInt16.ofNat value)).mpr (by rwa [same])
    rw [invalid] at number
    cases number
  · rintro ⟨something, small, none⟩
    cases outcome : parseU16 text with
    | ok number => exact absurd ((numbers number).mp outcome) (none _)
    | error kind =>
      -- The two other failures are excluded by name.
      cases kind with
      | empty => exact absurd outcome something
      | invalidDigit => rfl
      | posOverflow => exact absurd outcome small

/-- The characteristic for the PSM gives a number if and only if its bytes are those of a numeral
below 65536, and fails the search on all others: on no bytes as empty, on bytes of which the first
digits are too large a number as too large, and as an invalid digit else. -/
theorem CharacteristicAnswers.visitPsm_exact {search : Search} {answers : CharacteristicAnswers}
    {value : List UInt8} (asked : answers.uuid = .ok search.psmCharUuid)
    (readable : answers.readable = .ok true) (read : answers.read = .ok value) :
    (∀ number, answers.visitPsm search = .ok (some number) ↔
      ∃ text, value = utf8 text ∧ Numeral text number.toNat) ∧
    (answers.visitPsm search = .error (.invalidPsm .empty) ↔ value = []) ∧
    (answers.visitPsm search = .error (.invalidPsm .posOverflow) ↔
      Overflows (fromUtf8Lossy value)) ∧
    (answers.visitPsm search = .error (.invalidPsm .invalidDigit) ↔
      value ≠ [] ∧ ¬Overflows (fromUtf8Lossy value) ∧
        ∀ text number, value = utf8 text → ¬Numeral text number) := by
  -- A readable characteristic is decoded and parsed, and its answer is what the parser says.
  have visited : answers.visitPsm search =
      ((parseU16 (fromUtf8Lossy value)).map some).mapError .invalidPsm := by
    cases parsed : parseU16 (fromUtf8Lossy value) <;>
      simp [visitPsm, asked, readable, read, parsed, Except.map, Except.mapError]
  have fails (kind : IntErrorKind) : answers.visitPsm search = .error (.invalidPsm kind) ↔
      parseU16 (fromUtf8Lossy value) = .error kind := by
    rw [visited]
    cases parseU16 (fromUtf8Lossy value) <;> simp [Except.map, Except.mapError]
  obtain ⟨numbers, empty, overflow⟩ := parseU16_exact (fromUtf8Lossy value)
  refine ⟨fun number => ?_, ?_, ?_, ?_⟩
  · rw [← numeral_lossy_iff, ← numbers, visited]
    cases parseU16 (fromUtf8Lossy value) <;> simp [Except.map, Except.mapError]
  · rw [fails, empty, fromUtf8Lossy_eq_empty_iff]
  · rw [fails, overflow]
  · -- What is read as nothing else is what no text of a numeral was written for.
    rw [fails, parseU16_invalid_iff, Ne, fromUtf8Lossy_eq_empty_iff]
    simp only [numeral_lossy_iff, not_exists, not_and]
    exact ⟨fun ⟨something, small, other⟩ =>
        ⟨something, small, fun text number => other number text⟩,
      fun ⟨something, small, other⟩ => ⟨something, small, fun number text => other text number⟩⟩

/-- The PSM 193 may be written with a plus sign and a zero. -/
theorem CharacteristicAnswers.visitPsm_exact_signed :
    (⟨.ok 1, .ok true, .ok [43, 48, 49, 57, 51]⟩ : CharacteristicAnswers).visitPsm
      { deviceName := "", svcUuid := 0, mobileDeviceNameCharUuid := 0, psmCharUuid := 1,
        logInfo := false } = .ok (some 193) := by
  -- Neither the sign nor the zero changes the value.
  have numeral : Numeral "+0193" 193 := by
    refine ⟨by simp [unsigned], fun char member => ?_, by rfl⟩
    have digit : char = '0' ∨ char = '1' ∨ char = '9' ∨ char = '3' := by
      simpa [unsigned] using member
    rcases digit with rfl | rfl | rfl | rfl <;> rfl
  exact ((visitPsm_exact rfl rfl rfl).1 193).mpr ⟨"+0193", by rfl, numeral⟩

end BleManaged
