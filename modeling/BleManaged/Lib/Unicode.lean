import Mathlib.Tactic.Common

/-! Texts as UTF-8 bytes and as UTF-16 code units, and the two ways of decoding bytes. -/

namespace Unicode

/-- The bytes that may stand at one place of a character, from the least to the greatest. -/
structure ByteRange where
  low : Nat
  high : Nat
  deriving DecidableEq, Repr

/-- A byte lies in a range. -/
def ByteRange.Has (range : ByteRange) (byte : UInt8) : Prop :=
  range.low ≤ byte.toNat ∧ byte.toNat ≤ range.high

instance (range : ByteRange) (byte : UInt8) : Decidable (range.Has byte) :=
  inferInstanceAs (Decidable (_ ∧ _))

/-- The bytes that continue a character. -/
def continuation : ByteRange := ⟨0x80, 0xBF⟩

/-- A character of which some bytes are still missing. -/
structure Partial where
  /-- The bits of the bytes so far. -/
  value : Nat
  /-- How many bytes there have been. -/
  taken : Nat
  /-- Where the next byte may lie. -/
  next : ByteRange
  /-- Where the bytes behind it may lie. -/
  later : List ByteRange

/-- What the first byte of a character says about it. -/
inductive Lead where
  | whole (value : Nat)
  /-- The byte begins a character. -/
  | begins (start : Partial)
  | never

/-- The first byte of a character decides how many follow, and where the second one may lie. -/
def lead (byte : UInt8) : Lead :=
  let n := byte.toNat
  if n < 0x80 then .whole n
  else if n < 0xC2 then .never
  else if n < 0xE0 then .begins ⟨n - 0xC0, 1, continuation, []⟩
  -- Overlong forms and surrogates are ruled out by the second byte.
  else if n = 0xE0 then .begins ⟨0, 1, ⟨0xA0, 0xBF⟩, [continuation]⟩
  else if n = 0xED then .begins ⟨0xD, 1, ⟨0x80, 0x9F⟩, [continuation]⟩
  else if n < 0xF0 then .begins ⟨n - 0xE0, 1, continuation, [continuation]⟩
  else if n = 0xF0 then .begins ⟨0, 1, ⟨0x90, 0xBF⟩, [continuation, continuation]⟩
  else if n < 0xF4 then .begins ⟨n - 0xF0, 1, continuation, [continuation, continuation]⟩
  -- Nor does any character lie behind the last code point.
  else if n = 0xF4 then .begins ⟨4, 1, ⟨0x80, 0x8F⟩, [continuation, continuation]⟩
  else .never

/-- A piece of a byte string: a character, or bytes that are none. -/
inductive Piece where
  | char (char : Char)
  /-- The longest sequence of bytes that some character begins with, but this one does not. -/
  | invalid (length : Nat)
  /-- The string ends before the character does. -/
  | incomplete
  deriving DecidableEq, Repr

/-- The pieces that end with the first byte of a character, and the character it may begin. -/
def start (byte : UInt8) : List Piece × Option Partial :=
  match lead byte with
  | .whole value => ([.char (Char.ofNat value)], none)
  | .begins start => ([], some start)
  | .never => ([.invalid 1], none)

/-- The pieces that end with one more byte, and the character it leaves unfinished. -/
def advance : Option Partial → UInt8 → List Piece × Option Partial
  | none, byte => start byte
  | some before, byte =>
    if before.next.Has byte then
      let value := before.value * 64 + byte.toNat % 64
      match before.later with
      | [] => ([.char (Char.ofNat value)], none)
      | next :: later => ([], some ⟨value, before.taken + 1, next, later⟩)
    else
      -- The byte that does not fit begins a piece of its own.
      (.invalid before.taken :: (start byte).1, (start byte).2)

/-- Cut a byte string into pieces, behind a character that may be unfinished. -/
def cut : Option Partial → List UInt8 → List Piece
  | none, [] => []
  | some _, [] => [.incomplete]
  | before, byte :: bytes => (advance before byte).1 ++ cut (advance before byte).2 bytes

/-- Cut a byte string into pieces. -/
def pieces (bytes : List UInt8) : List Piece := cut none bytes

/-- The characters of a byte string, with a replacement for all that is none. -/
def fromUtf8Lossy (bytes : List UInt8) : String :=
  String.ofList ((pieces bytes).map fun
    | .char char => char
    | _ => Char.ofNat 0xFFFD)

/-- Where and how a byte string fails to be UTF-8. -/
structure Utf8Error where
  /-- How many bytes are valid. -/
  validUpTo : Nat
  /-- How many bytes behind them are invalid, or none if the string just ends too early. -/
  errorLen : Option Nat
  deriving DecidableEq, Repr

/-- The text of a UTF-8 error. -/
def Utf8Error.message (error : Utf8Error) : String :=
  match error.errorLen with
  | some errorLen =>
    "invalid utf-8 sequence of " ++ toString errorLen ++ " bytes from index " ++
      toString error.validUpTo
  | none => "incomplete utf-8 byte sequence from index " ++ toString error.validUpTo

/-- The characters of pieces that are all characters, given how many bytes lie before them. -/
def characters : Nat → List Piece → Except Utf8Error (List Char)
  | _, [] => .ok []
  | validUpTo, .char char :: pieces =>
    match characters (validUpTo + char.utf8Size) pieces with
    | .ok chars => .ok (char :: chars)
    | .error error => .error error
  | validUpTo, .invalid length :: _ => .error { validUpTo, errorLen := some length }
  | validUpTo, .incomplete :: _ => .error { validUpTo, errorLen := none }

/-- The text that a byte string encodes, if all of it does. -/
def fromUtf8 (bytes : List UInt8) : Except Utf8Error String :=
  (characters 0 (pieces bytes)).map String.ofList

/-- The bytes of a list of characters. -/
def utf8Chars (chars : List Char) : List UInt8 :=
  chars.flatMap String.utf8EncodeChar

/-- The bytes of a text. -/
def utf8 (text : String) : List UInt8 := utf8Chars text.toList

/-- The code units of a character: itself, or a surrogate pair. -/
def utf16Char (char : Char) : List UInt16 :=
  let n := char.toNat
  if n < 0x10000 then [UInt16.ofNat n]
  else [UInt16.ofNat (0xD800 + (n - 0x10000) / 0x400), UInt16.ofNat (0xDC00 + n % 0x400)]

/-- The code units of a text. -/
def utf16 (text : String) : List UInt16 :=
  text.toList.flatMap utf16Char

/-- One more byte is cut behind what came before it. -/
theorem cut_cons (before : Option Partial) (byte : UInt8) (bytes : List UInt8) :
    cut before (byte :: bytes) =
      (advance before byte).1 ++ cut (advance before byte).2 bytes := by
  cases before <;> rfl

/-- The last byte of a character completes it. -/
theorem cut_last {value taken : Nat} {next : ByteRange} {byte : UInt8} (has : next.Has byte)
    (bytes : List UInt8) :
    cut (some ⟨value, taken, next, []⟩) (byte :: bytes) =
      .char (Char.ofNat (value * 64 + byte.toNat % 64)) :: pieces bytes := by
  simp [cut_cons, advance, has, pieces]

/-- Any other byte of a character is added to the bits so far. -/
theorem cut_next {value taken : Nat} {next last : ByteRange} {later : List ByteRange}
    {byte : UInt8} (has : next.Has byte) (bytes : List UInt8) :
    cut (some ⟨value, taken, next, last :: later⟩) (byte :: bytes) =
      cut (some ⟨value * 64 + byte.toNat % 64, taken + 1, last, later⟩) bytes := by
  simp [cut_cons, advance, has]

/-- A character that has begun is completed by bytes that lie where they may, or not at all. -/
theorem cut_eq_char {value taken : Nat} {next : ByteRange} {later : List ByteRange}
    {bytes : List UInt8} {char : Char} {more : List Piece}
    (whole : cut (some ⟨value, taken, next, later⟩) bytes = .char char :: more) :
    ∃ byte rest, bytes = byte :: rest ∧ next.Has byte := by
  cases bytes with
  | nil => cases whole
  | cons byte rest =>
    refine ⟨byte, rest, rfl, ?_⟩
    -- A byte outside its range would make the first piece invalid.
    by_contra outside
    simp [cut_cons, advance, outside] at whole

/-- A small byte is a character. -/
theorem start_one {byte : UInt8} (small : byte.toNat < 0x80) :
    start byte = ([.char (Char.ofNat byte.toNat)], none) := by
  simp [start, lead, small]

/-- These bytes begin a character of two bytes. -/
theorem start_two {byte : UInt8} (low : 0xC2 ≤ byte.toNat) (high : byte.toNat < 0xE0) :
    start byte = ([], some ⟨byte.toNat - 0xC0, 1, continuation, []⟩) := by
  simp only [start, lead]
  rw [if_neg (by omega), if_neg (by omega), if_pos high]

/-- Where the second byte of a character of three bytes may lie. -/
def secondOfThree (bits : Nat) : ByteRange :=
  if bits = 0 then ⟨0xA0, 0xBF⟩ else if bits = 0xD then ⟨0x80, 0x9F⟩ else continuation

/-- These bytes begin a character of three bytes. -/
theorem start_three {byte : UInt8} (low : 0xE0 ≤ byte.toNat) (high : byte.toNat < 0xF0) :
    start byte = ([], some ⟨byte.toNat - 0xE0, 1, secondOfThree (byte.toNat - 0xE0),
      [continuation]⟩) := by
  simp only [start, lead, secondOfThree]
  rw [if_neg (by omega), if_neg (by omega), if_neg (by omega)]
  -- The two exceptions are the bytes that overlong forms and surrogates would begin with.
  by_cases overlong : byte.toNat = 0xE0
  · simp [overlong]
  by_cases surrogate : byte.toNat = 0xED
  · simp [surrogate]
  rw [if_neg overlong, if_neg surrogate, if_pos high, if_neg (by omega), if_neg (by omega)]

/-- Where the second byte of a character of four bytes may lie. -/
def secondOfFour (bits : Nat) : ByteRange :=
  if bits = 0 then ⟨0x90, 0xBF⟩ else if bits = 4 then ⟨0x80, 0x8F⟩ else continuation

/-- These bytes begin a character of four bytes. -/
theorem start_four {byte : UInt8} (low : 0xF0 ≤ byte.toNat) (high : byte.toNat < 0xF5) :
    start byte = ([], some ⟨byte.toNat - 0xF0, 1, secondOfFour (byte.toNat - 0xF0),
      [continuation, continuation]⟩) := by
  simp only [start, lead, secondOfFour]
  rw [if_neg (by omega), if_neg (by omega), if_neg (by omega), if_neg (by omega),
    if_neg (by omega), if_neg (by omega)]
  -- The two exceptions are the bytes at both ends, for overlong forms and too large values.
  by_cases overlong : byte.toNat = 0xF0
  · simp [overlong]
  by_cases last : byte.toNat = 0xF4
  · simp [last]
  rw [if_neg overlong, if_pos (by omega), if_neg (by omega), if_neg (by omega)]

/-- No other byte begins a character. -/
theorem start_never {byte : UInt8}
    (never : 0x80 ≤ byte.toNat ∧ byte.toNat < 0xC2 ∨ 0xF5 ≤ byte.toNat) :
    start byte = ([.invalid 1], none) := by
  simp only [start, lead]
  rcases never with ⟨low, high⟩ | high
  · rw [if_neg (by omega), if_pos high]
  · rw [if_neg (by omega), if_neg (by omega), if_neg (by omega), if_neg (by omega),
      if_neg (by omega), if_neg (by omega), if_neg (by omega), if_neg (by omega),
      if_neg (by omega)]

/-- The value of a character is a scalar value. -/
theorem scalar (char : Char) :
    char.toNat < 0xD800 ∨ 0xDFFF < char.toNat ∧ char.toNat < 0x110000 := char.valid

/-- Six bits of a value make up a byte behind the first one. -/
theorem toNat_tail (bits : Nat) :
    (UInt8.ofNat (bits % 0x40 + 0x80)).toNat = bits % 0x40 + 0x80 := by
  simp
  omega

/-- Such a byte continues a character. -/
theorem continuation_tail (bits : Nat) :
    continuation.Has (UInt8.ofNat (bits % 0x40 + 0x80)) := by
  simp only [ByteRange.Has, toNat_tail, continuation]
  omega

/-- The bytes of a character are cut into that character. -/
theorem pieces_encode (char : Char) (rest : List UInt8) :
    pieces (String.utf8EncodeChar char ++ rest) = .char char :: pieces rest := by
  have same : Char.ofNat char.toNat = char := Char.ofNat_toNat char
  have valid := scalar char
  have val : char.val.toNat = char.toNat := rfl
  simp only [String.utf8EncodeChar, val]
  generalize char.toNat = n at *
  -- The length of the encoding depends on the value, and so does its first byte.
  split
  · have first : (UInt8.ofNat n).toNat = n := by simp; omega
    rw [List.singleton_append, pieces, cut_cons, advance, start_one (by omega), first, same]
    rfl
  split
  · have first : (UInt8.ofNat (n / 64 % 0x20 + 0xC0)).toNat = n / 64 + 0xC0 := by simp; omega
    have value : (n / 64 + 0xC0 - 0xC0) * 64 + (n % 0x40 + 0x80) % 64 = n := by omega
    rw [List.cons_append, List.singleton_append, pieces, cut_cons, advance,
      start_two (by omega) (by omega), List.nil_append, cut_last (continuation_tail n), first,
      toNat_tail, value, same]
  split
  · have first : (UInt8.ofNat (n / 4096 % 0x10 + 0xE0)).toNat = n / 4096 + 0xE0 := by simp; omega
    have second : (secondOfThree (n / 4096 + 0xE0 - 0xE0)).Has
        (UInt8.ofNat (n / 64 % 0x40 + 0x80)) := by
      simp only [secondOfThree, ByteRange.Has, toNat_tail, continuation]
      split
      · dsimp only; omega
      split <;> (dsimp only; omega)
    have value : ((n / 4096 + 0xE0 - 0xE0) * 64 + (n / 64 % 0x40 + 0x80) % 64) * 64 +
        (n % 0x40 + 0x80) % 64 = n := by omega
    rw [List.cons_append, List.cons_append, List.singleton_append, pieces, cut_cons, advance,
      start_three (by omega) (by omega), List.nil_append, first, cut_next second,
      cut_last (continuation_tail n), toNat_tail, toNat_tail, value, same]
  · have first : (UInt8.ofNat (n / 262144 % 0x08 + 0xF0)).toNat = n / 262144 + 0xF0 := by
      simp; omega
    have second : (secondOfFour (n / 262144 + 0xF0 - 0xF0)).Has
        (UInt8.ofNat (n / 4096 % 0x40 + 0x80)) := by
      simp only [secondOfFour, ByteRange.Has, toNat_tail, continuation]
      split
      · dsimp only; omega
      split <;> (dsimp only; omega)
    have value : (((n / 262144 + 0xF0 - 0xF0) * 64 + (n / 4096 % 0x40 + 0x80) % 64) * 64 +
        (n / 64 % 0x40 + 0x80) % 64) * 64 + (n % 0x40 + 0x80) % 64 = n := by omega
    rw [List.cons_append, List.cons_append, List.cons_append, List.singleton_append, pieces,
      cut_cons, advance, start_four (by omega) (by omega), List.nil_append, first,
      cut_next second, cut_next (continuation_tail (n / 64)), cut_last (continuation_tail n),
      toNat_tail, toNat_tail, toNat_tail, value, same]

/-- The bytes of a list of characters are cut into those characters. -/
theorem pieces_utf8Chars (chars : List Char) :
    pieces (utf8Chars chars) = chars.map .char := by
  induction chars with
  | nil => rfl
  | cons char chars ih =>
    rw [utf8Chars, List.flatMap_cons, pieces_encode, ← utf8Chars, ih, List.map_cons]

/-- The value of a character that is given by a scalar value. -/
theorem val_ofNat {value : Nat} (valid : value.isValidChar) :
    (Char.ofNat value).val.toNat = value := by
  rw [Char.ofNat, dif_pos valid]
  rfl

/-- A byte is determined by its value. -/
theorem ofNat_eq {value : Nat} {byte : UInt8} (same : value = byte.toNat) :
    UInt8.ofNat value = byte := by
  rw [same, UInt8.ofNat_toNat]

/-- One small byte is the encoding of the character with its value. -/
theorem encode_one {byte : UInt8} (small : byte.toNat < 0x80) :
    String.utf8EncodeChar (Char.ofNat byte.toNat) = [byte] := by
  rw [String.utf8EncodeChar, val_ofNat (.inl (by omega)), if_pos (by omega), ofNat_eq rfl]

/-- Two bytes that are cut into one character are its encoding. -/
theorem encode_two {first second : UInt8} (low : 0xC2 ≤ first.toNat) (high : first.toNat < 0xE0)
    (has : continuation.Has second) :
    String.utf8EncodeChar (Char.ofNat ((first.toNat - 0xC0) * 64 + second.toNat % 64)) =
      [first, second] := by
  simp only [ByteRange.Has, continuation] at has
  rw [String.utf8EncodeChar, val_ofNat (.inl (by omega)), if_neg (by omega), if_pos (by omega)]
  simp only [List.cons.injEq, and_true]
  exact ⟨ofNat_eq (by omega), ofNat_eq (by omega)⟩

/-- Three bytes that are cut into one character are its encoding. -/
theorem encode_three {first second third : UInt8} (low : 0xE0 ≤ first.toNat)
    (high : first.toNat < 0xF0) (has : (secondOfThree (first.toNat - 0xE0)).Has second)
    (last : continuation.Has third) :
    String.utf8EncodeChar (Char.ofNat
        (((first.toNat - 0xE0) * 64 + second.toNat % 64) * 64 + third.toNat % 64)) =
      [first, second, third] := by
  -- Below `A0` the form would be overlong, and above `9F` the number would be a surrogate.
  have tail : 0x80 ≤ second.toNat ∧ second.toNat ≤ 0xBF ∧
      (first.toNat = 0xE0 → 0xA0 ≤ second.toNat) ∧
      (first.toNat = 0xED → second.toNat ≤ 0x9F) := by
    simp only [secondOfThree, ByteRange.Has, continuation] at has
    split at has
    · dsimp only at has; omega
    split at has <;> (dsimp only at has; omega)
  simp only [ByteRange.Has, continuation] at last
  -- The number is too large for one byte or two, and small enough for three.
  rw [String.utf8EncodeChar, val_ofNat (by simp only [Nat.isValidChar]; omega),
    if_neg (by omega), if_neg (by omega), if_pos (by omega)]
  simp only [List.cons.injEq, and_true]
  exact ⟨ofNat_eq (by omega), ofNat_eq (by omega), ofNat_eq (by omega)⟩

/-- Four bytes that are cut into one character are its encoding. -/
theorem encode_four {first second third fourth : UInt8} (low : 0xF0 ≤ first.toNat)
    (high : first.toNat < 0xF5) (has : (secondOfFour (first.toNat - 0xF0)).Has second)
    (more : continuation.Has third) (last : continuation.Has fourth) :
    String.utf8EncodeChar (Char.ofNat
        ((((first.toNat - 0xF0) * 64 + second.toNat % 64) * 64 + third.toNat % 64) * 64 +
          fourth.toNat % 64)) =
      [first, second, third, fourth] := by
  -- Below `90` the form would be overlong, and above `8F` the number would be out of range.
  have tail : 0x80 ≤ second.toNat ∧ second.toNat ≤ 0xBF ∧
      (first.toNat = 0xF0 → 0x90 ≤ second.toNat) ∧
      (first.toNat = 0xF4 → second.toNat ≤ 0x8F) := by
    simp only [secondOfFour, ByteRange.Has, continuation] at has
    split at has
    · dsimp only at has; omega
    split at has <;> (dsimp only at has; omega)
  simp only [ByteRange.Has, continuation] at more last
  rw [String.utf8EncodeChar, val_ofNat (by simp only [Nat.isValidChar]; omega),
    if_neg (by omega), if_neg (by omega), if_neg (by omega)]
  simp only [List.cons.injEq, and_true]
  exact ⟨ofNat_eq (by omega), ofNat_eq (by omega), ofNat_eq (by omega), ofNat_eq (by omega)⟩

/-- A byte string that begins with a character begins with the bytes of that character. -/
theorem encode_of_pieces {bytes : List UInt8} {char : Char} {more : List Piece}
    (whole : pieces bytes = .char char :: more) :
    ∃ rest, bytes = String.utf8EncodeChar char ++ rest ∧ pieces rest = more := by
  cases bytes with
  | nil => cases whole
  | cons first bytes =>
    rw [pieces, cut_cons, advance] at whole
    have bound := first.toNat_lt
    -- The first byte says how many others there are, and each of them lies where it may.
    by_cases one : first.toNat < 0x80
    · rw [start_one one] at whole
      obtain ⟨same, rest⟩ := List.cons.inj whole
      cases same
      exact ⟨bytes, by rw [encode_one one, List.singleton_append], rest⟩
    by_cases never : first.toNat < 0xC2 ∨ 0xF5 ≤ first.toNat
    · rw [start_never (by omega)] at whole
      simp at whole
    by_cases two : first.toNat < 0xE0
    · rw [start_two (by omega) two] at whole
      obtain ⟨second, bytes, rfl, has⟩ := cut_eq_char whole
      rw [List.nil_append, cut_last has] at whole
      obtain ⟨same, rest⟩ := List.cons.inj whole
      cases same
      exact ⟨bytes, by rw [encode_two (by omega) two has]; rfl, rest⟩
    by_cases three : first.toNat < 0xF0
    · rw [start_three (by omega) three] at whole
      obtain ⟨second, bytes, rfl, has⟩ := cut_eq_char whole
      rw [List.nil_append, cut_next has] at whole
      obtain ⟨third, bytes, rfl, last⟩ := cut_eq_char whole
      rw [cut_last last] at whole
      obtain ⟨same, rest⟩ := List.cons.inj whole
      cases same
      exact ⟨bytes, by rw [encode_three (by omega) three has last]; rfl, rest⟩
    · have four : first.toNat < 0xF5 := by omega
      rw [start_four (by omega) four] at whole
      obtain ⟨second, bytes, rfl, has⟩ := cut_eq_char whole
      rw [List.nil_append, cut_next has] at whole
      obtain ⟨third, bytes, rfl, next⟩ := cut_eq_char whole
      rw [cut_next next] at whole
      obtain ⟨fourth, bytes, rfl, last⟩ := cut_eq_char whole
      rw [cut_last last] at whole
      obtain ⟨same, rest⟩ := List.cons.inj whole
      cases same
      exact ⟨bytes, by rw [encode_four (by omega) four has next last]; rfl, rest⟩

/-- A byte that leaves no character unfinished ends a piece. -/
theorem start_settled {byte : UInt8} (settled : (start byte).2 = none) : (start byte).1 ≠ [] := by
  unfold start at settled ⊢
  split at settled <;> simp_all

/-- A byte that leaves no character unfinished ends a piece, whatever came before. -/
theorem advance_settled {before : Option Partial} {byte : UInt8}
    (settled : (advance before byte).2 = none) : (advance before byte).1 ≠ [] := by
  cases before with
  | none => exact start_settled settled
  | some before =>
    simp only [advance] at settled ⊢
    split
    · rename_i has
      rw [if_pos has] at settled
      split <;> simp_all
    · simp

/-- Every byte string that is not empty has a piece. -/
theorem cut_ne_nil (before : Option Partial) (byte : UInt8) (bytes : List UInt8) :
    cut before (byte :: bytes) ≠ [] := by
  -- A byte that ends no piece leaves one unfinished, which does not end without a piece either.
  induction bytes generalizing before byte with
  | nil =>
    rw [cut_cons]
    cases after : (advance before byte).2 with
    | some unfinished => simp [cut]
    | none => simp [advance_settled after]
  | cons next bytes ih =>
    rw [cut_cons]
    simp [ih]

/-- Pieces that are all characters are the pieces of the bytes of those characters only. -/
theorem utf8Chars_of_pieces {bytes : List UInt8} {chars : List Char}
    (whole : pieces bytes = chars.map .char) : bytes = utf8Chars chars := by
  induction chars generalizing bytes with
  | nil =>
    cases bytes with
    | nil => rfl
    | cons first bytes => exact absurd whole (cut_ne_nil none first bytes)
  | cons char chars ih =>
    obtain ⟨rest, rfl, others⟩ := encode_of_pieces whole
    rw [ih others, utf8Chars, utf8Chars, List.flatMap_cons]

/-- Characters are found exactly in pieces that are all characters. -/
theorem characters_eq_ok_iff {validUpTo : Nat} {pieces : List Piece} {chars : List Char} :
    characters validUpTo pieces = .ok chars ↔ pieces = chars.map .char := by
  -- The induction is on the pieces: the first one that is not a character is the error.
  induction pieces generalizing validUpTo chars with
  | nil => simp [characters, eq_comm]
  | cons piece pieces ih =>
    cases piece with
    | invalid | incomplete => cases chars <;> simp [characters]
    | char char =>
      cases found : characters (validUpTo + char.utf8Size) pieces with
      | error error =>
        cases chars with
        | nil => simp [characters, found]
        | cons head tail =>
          have different : pieces ≠ tail.map .char := by
            intro same
            simp [ih.mpr same] at found
          simp [characters, found, different]
      | ok tail =>
        have same := ih.mp found
        cases chars with
        | nil => simp [characters, found]
        | cons head others =>
          have cancel : tail.map Piece.char = others.map .char ↔ tail = others :=
            List.map_inj_right fun _ _ => Piece.char.inj
          simp only [characters, found]
          rw [same, List.map_cons, List.cons.injEq, cancel]
          simp

/-- Strict decoding accepts exactly the bytes of texts. -/
theorem fromUtf8_eq_ok_iff {bytes : List UInt8} {text : String} :
    fromUtf8 bytes = .ok text ↔ bytes = utf8 text := by
  constructor
  · intro decoded
    rw [fromUtf8] at decoded
    cases found : characters 0 (pieces bytes) with
    | error error =>
      rw [found] at decoded
      cases decoded
    | ok chars =>
      rw [found] at decoded
      cases decoded
      rw [utf8, String.toList_ofList]
      exact utf8Chars_of_pieces (characters_eq_ok_iff.mp found)
  · intro encoded
    -- The pieces of an encoded text are its characters.
    have found : characters 0 (pieces (utf8Chars text.toList)) = .ok text.toList :=
      characters_eq_ok_iff.mpr (pieces_utf8Chars text.toList)
    rw [fromUtf8, encoded, utf8, found]
    simp [Except.map]

/-- Lossy decoding undoes encoding. -/
theorem fromUtf8Lossy_utf8 (text : String) : fromUtf8Lossy (utf8 text) = text := by
  rw [fromUtf8Lossy, utf8, pieces_utf8Chars, List.map_map]
  simp [Function.comp_def]

/-- Lossy decoding leaves a replacement in what is no text. -/
theorem eq_utf8_of_lossy {bytes : List UInt8}
    (plain : ∀ char ∈ (fromUtf8Lossy bytes).toList, char ≠ Char.ofNat 0xFFFD) :
    bytes = utf8 (fromUtf8Lossy bytes) := by
  refine utf8Chars_of_pieces ?_
  rw [fromUtf8Lossy, String.toList_ofList] at plain ⊢
  rw [List.map_map]
  -- Without a replacement each piece is the character that it is decoded to.
  refine (List.map_id _).symm.trans (List.map_congr_left fun piece member => ?_)
  have kept := plain _ (List.mem_map_of_mem member)
  cases piece with
  | char char => rfl
  | invalid | incomplete => exact absurd rfl kept

/-- A text of which every character is below 128. -/
def Ascii (text : String) : Prop := ∀ char ∈ text.toList, char.toNat < 0x80

instance (text : String) : Decidable (Ascii text) :=
  inferInstanceAs (Decidable (∀ char ∈ text.toList, char.toNat < 0x80))

/-- The one byte of such a character is also its one code unit. -/
theorem utf16Char_ascii {char : Char} (ascii : char.toNat < 0x80) :
    (utf16Char char).map UInt16.toUInt8 = String.utf8EncodeChar char := by
  have toNat : (UInt8.ofNat char.toNat).toNat = char.toNat := by simp; omega
  have small : (UInt8.ofNat char.toNat).toNat < 0x80 := by omega
  have encoded := encode_one small
  rw [toNat, Char.ofNat_toNat] at encoded
  rw [encoded, utf16Char, if_pos (by omega)]
  simp

/-- Any other character has fewer code units than bytes. -/
theorem utf16Char_length_lt {char : Char} (wide : 0x80 ≤ char.toNat) :
    (utf16Char char).length < (String.utf8EncodeChar char).length := by
  have value : char.val.toNat = char.toNat := rfl
  have several : char.utf8Size ≠ 1 := by
    rw [Ne, Char.utf8Size_eq_one_iff, UInt32.le_iff_toNat_le, value]
    simp
    omega
  have positive := Char.utf8Size_pos char
  rw [String.length_utf8EncodeChar, utf16Char]
  -- Outside of ASCII there are at least two bytes, and one unit as long as there is no pair.
  by_cases single : char.toNat < 0x10000
  · rw [if_pos single]
    show 1 < char.utf8Size
    omega
  · -- A surrogate pair stands for a character of four bytes.
    have four : char.utf8Size = 4 := by
      rw [Char.utf8Size_eq_four_iff, UInt32.lt_iff_toNat_lt, value]
      simp
      omega
    rw [if_neg single, four]
    simp

/-- A character has no more code units than bytes. -/
theorem utf16Char_length_le (char : Char) :
    (utf16Char char).length ≤ (String.utf8EncodeChar char).length := by
  by_cases ascii : char.toNat < 0x80
  · have same := congrArg List.length (utf16Char_ascii ascii)
    rw [List.length_map] at same
    exact Nat.le_of_eq same
  · exact Nat.le_of_lt (utf16Char_length_lt (by omega))

/-- Characters have no more code units than bytes. -/
theorem utf16Chars_length_le (chars : List Char) :
    (chars.flatMap utf16Char).length ≤ (utf8Chars chars).length := by
  induction chars with
  | nil => exact Nat.le_refl 0
  | cons char chars ih =>
    have first := utf16Char_length_le char
    simp only [utf8Chars, List.flatMap_cons, List.length_append] at ih ⊢
    omega

/-- They have as many only if they are all below 128. -/
theorem ascii_of_length_eq {chars : List Char}
    (same : (chars.flatMap utf16Char).length = (utf8Chars chars).length) :
    ∀ char ∈ chars, char.toNat < 0x80 := by
  induction chars with
  | nil => simp
  | cons char chars ih =>
    have first := utf16Char_length_le char
    have others := utf16Chars_length_le chars
    simp only [utf8Chars, List.flatMap_cons, List.length_append] at same others ih
    -- Neither the first character nor the others can make up for a byte too many.
    have ascii : char.toNat < 0x80 := by
      by_contra wide
      have wide : 0x80 ≤ char.toNat := by omega
      have fewer := utf16Char_length_lt wide
      omega
    intro other member
    rcases List.mem_cons.mp member with rfl | member
    · exact ascii
    · exact ih (by omega) other member

/-- Below 128 the low bytes of the code units are the bytes. -/
theorem utf16Chars_toUInt8 {chars : List Char} (ascii : ∀ char ∈ chars, char.toNat < 0x80) :
    (chars.flatMap utf16Char).map UInt16.toUInt8 = utf8Chars chars := by
  induction chars with
  | nil => rfl
  | cons char chars ih =>
    have first := utf16Char_ascii (ascii char (by simp))
    have others := ih fun other member => ascii other (by simp [member])
    rw [List.flatMap_cons, List.map_append, first, others]
    rfl

/-- The low bytes of the code units of a text are its bytes exactly when it is below 128. -/
theorem utf16_toUInt8_eq_utf8_iff (text : String) :
    (utf16 text).map UInt16.toUInt8 = utf8 text ↔ Ascii text := by
  constructor
  · intro same
    -- Any other character takes more bytes than units.
    have lengths : (utf16 text).length = (utf8 text).length := by
      rw [← same, List.length_map]
    exact ascii_of_length_eq lengths
  · intro ascii
    exact utf16Chars_toUInt8 ascii

end Unicode
