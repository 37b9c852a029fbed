import Mathlib.Data.List.Basic

/-!
# Texts and their bytes

A text is a list of Unicode scalar values and lives on disk as its UTF-8
encoding.  The operations below are the string operations of a line-oriented
`name=value` format: splitting into lines, looking up a field, slicing by byte
offsets, and reading and writing hexadecimal bytes.
-/

namespace Texts

open List Option

abbrev Text := List Char

instance : LawfulBEq Text := inferInstance

def utf8 (text : Text) : List UInt8 := text.flatMap String.utf8EncodeChar

/-- The text of these bytes; for ASCII, one character a byte. -/
def utf8Decode? (bytes : List UInt8) : Option Text :=
  if bytes.all (· < 128) then some (bytes.map fun byte => Char.ofNat byte.toNat)
  else bytes.toByteArray.utf8Decode?.map Array.toList

@[simp]
theorem utf8_nil : utf8 [] = [] := rfl

theorem utf8_cons (char : Char) (rest : Text) :
    utf8 (char :: rest) = String.utf8EncodeChar char ++ utf8 rest :=
  rfl

theorem utf8_append {first second : Text} : utf8 (first ++ second) = utf8 first ++ utf8 second :=
  flatMap_append

theorem utf8_ascii {bytes : List UInt8} (ascii : bytes.all (· < 128) = true) :
    utf8 (bytes.map fun byte => Char.ofNat byte.toNat) = bytes := by
  have single : ∀ value < 128, String.utf8EncodeChar (Char.ofNat value) = [UInt8.ofNat value] := by
    decide
  induction bytes with
  | nil => rfl
  | cons byte rest induction =>
    rw [all_cons, Bool.and_eq_true] at ascii
    have small : byte.toNat < 128 := UInt8.lt_iff_toNat_lt.mp (of_decide_eq_true ascii.1)
    rw [map_cons, utf8_cons, single _ small, induction ascii.2, UInt8.ofNat_toNat]
    rfl

theorem utf8Decode?_eq (bytes : List UInt8) :
    utf8Decode? bytes = bytes.toByteArray.utf8Decode?.map Array.toList := by
  unfold utf8Decode?
  split_ifs with ascii
  · have encoded : bytes.toByteArray = (bytes.map fun byte => Char.ofNat byte.toNat).utf8Encode :=
      congrArg toByteArray (utf8_ascii ascii).symm
    simp [encoded]
  · rfl

@[simp]
theorem utf8Decode?_utf8 {text : Text} : utf8Decode? (utf8 text) = some text := by
  have encoded : (utf8 text).toByteArray = text.utf8Encode := rfl
  simp [utf8Decode?_eq, encoded]

variable {text : Text}

theorem utf8_of_utf8Decode? {bytes : List UInt8} (decoded : utf8Decode? bytes = some text) :
    utf8 text = bytes := by
  rw [utf8Decode?_eq] at decoded
  obtain ⟨chars, found, rfl⟩ := map_eq_some_iff.mp decoded
  have valid : bytes.toByteArray.utf8Decode?.isSome = true := by
    rw [found]
    rfl
  have encoded := ByteArray.utf8Encode_get_utf8Decode? (h := valid)
  have same : bytes.toByteArray.utf8Decode?.get valid = chars := by simp [found]
  rw [same] at encoded
  exact toByteArray_inj.mp encoded

/-- The first character of an encoding is determined by its bytes. -/
theorem char_eq_of_utf8EncodeChar_append {first second : Char} {firstRest secondRest : List UInt8}
    (equal :
      String.utf8EncodeChar first ++ firstRest = String.utf8EncodeChar second ++ secondRest) :
    first = second := by
  have decode : ∀ (char : Char) (rest : List UInt8),
      ByteArray.utf8DecodeChar? (String.utf8EncodeChar char ++ rest).toByteArray 0 = some char := by
    intro char rest
    rw [toByteArray_append]
    exact ByteArray.utf8DecodeChar?_utf8EncodeChar_append
  have firstDecoded := decode first firstRest
  rw [equal, decode _] at firstDecoded
  exact (some.inj firstDecoded).symm

/-- Bytes cut off at a character boundary encode an initial part. -/
theorem prefix_of_utf8_prefix {cut text : Text} (shorter : utf8 cut <+: utf8 text) :
    cut <+: text := by
  induction cut generalizing text with
  | nil => exact nil_prefix
  | cons char rest induction =>
    obtain ⟨tail, equal⟩ := shorter
    cases text with
    | nil =>
      have empty : utf8 (char :: rest) = [] := (append_eq_nil_iff.mp equal).1
      have sized := congrArg length empty
      have positive := char.utf8Size_pos
      simp [utf8_cons] at sized
      omega
    | cons other others =>
      rw [utf8_cons, utf8_cons, append_assoc] at equal
      obtain rfl := char_eq_of_utf8EncodeChar_append equal
      rw [append_cancel_left_eq] at equal
      rw [cons_prefix_cons]
      exact ⟨rfl, induction ⟨tail, equal⟩⟩

theorem utf8_length_of_narrow (narrow : ∀ char ∈ text, char.utf8Size = 1) :
    (utf8 text).length = text.length := by
  induction text with
  | nil => rfl
  | cons char rest induction =>
    have first : char.utf8Size = 1 := narrow _ mem_cons_self
    have others := induction fun other mem => narrow _ (mem_cons_of_mem _ mem)
    rw [utf8_cons, length_append]
    simp
    omega

theorem utf8_take_of_narrow (narrow : ∀ char ∈ text, char.utf8Size = 1) (count : ℕ) :
    (utf8 text).take count = utf8 (text.take count) := by
  induction text generalizing count with
  | nil => simp
  | cons char rest induction =>
    cases count with
    | zero => simp
    | succ count =>
      have first : (String.utf8EncodeChar char).length = 1 := by simp [narrow _]
      have others := induction (fun other mem => narrow _ (mem_cons_of_mem _ mem)) count
      rw [take_succ_cons, utf8_cons, utf8_cons,
        take_append, first, Nat.add_sub_cancel, others, take_of_length_le (by omega)]

/-- The stretches that end in a newline, and what follows the last one. -/
def segments : Text → List Text × Text
  | [] => ([], [])
  | char :: rest =>
    if char = '\n' then ([] :: (segments rest).1, (segments rest).2)
    else
      match segments rest with
      | ([], tail) => ([], char :: tail)
      | (line :: lines, tail) => ((char :: line) :: lines, tail)

def stripCr (line : Text) : Text := if line.getLast? = some '\r' then line.dropLast else line

/--
The lines of a text.  A last line without a newline counts, and keeps a
carriage return at its end.
-/
def lines (text : Text) : List Text :=
  (segments text).1.map stripCr ++ if (segments text).2 = [] then [] else [(segments text).2]

variable {rest line : Text}

theorem segments_cons_of_ne {char : Char} (ordinary : char ≠ '\n') : segments (char :: rest) =
      match segments rest with
      | ([], tail) => ([], char :: tail)
      | (line :: lines, tail) => ((char :: line) :: lines, tail) := by
  rw [segments, if_neg ordinary]

theorem segments_of_unterminated (single : '\n' ∉ text) : segments text = ([], text) := by
  induction text with
  | nil => rfl
  | cons char rest induction =>
    have differs : char ≠ '\n' := (ne_of_not_mem_cons single).symm
    rw [segments_cons_of_ne differs, induction (not_mem_of_not_mem_cons single)]

theorem segments_append_newline (single : '\n' ∉ line) :
    segments (line ++ '\n' :: rest) = (line :: (segments rest).1, (segments rest).2) := by
  induction line with
  | nil => rfl
  | cons char line induction =>
    have differs : char ≠ '\n' := (ne_of_not_mem_cons single).symm
    rw [cons_append, segments_cons_of_ne differs, induction (not_mem_of_not_mem_cons single)]

theorem lines_of_unterminated (single : '\n' ∉ text) :
    lines text = if text = [] then [] else [text] := by
  rw [lines, segments_of_unterminated single]
  rfl

theorem lines_append_newline (single : '\n' ∉ line) :
    lines (line ++ '\n' :: rest) = stripCr line :: lines rest := by
  rw [lines, segments_append_newline single]
  rfl

/-- The complete lines and the open one, written back. -/
def unsegment (complete : List Text) (rest : Text) : Text := complete.flatMap (· ++ ['\n']) ++ rest

theorem unsegment_segments (text : Text) :
    unsegment (segments text).1 (segments text).2 = text := by
  induction text with
  | nil => rfl
  | cons char rest induction =>
    rw [segments]
    split_ifs with newline
    · subst newline
      exact congrArg _ induction
    · revert induction
      rcases segments _ with ⟨_ | ⟨line, lines⟩, tail⟩
      · exact fun induction => congrArg (char :: ·) induction
      · exact fun induction => congrArg _ induction

/--
Cutting a text cuts its lines: some complete lines remain, and the open line
is an initial part of the line that stood there.
-/
theorem segments_prefix {cut text : Text} (shorter : cut <+: text) :
    (segments cut).1 <+: (segments text).1 ∧
      ∃ line,
        ((segments text).1 ++ [(segments text).2])[(segments cut).1.length]? = some line ∧
        (segments cut).2 <+: line := by
  induction cut generalizing text with
  | nil =>
    refine ⟨List.nil_prefix, ?_⟩
    rcases segments _ with ⟨_ | ⟨line, lines⟩, tail⟩
    · exact ⟨tail, rfl, nil_prefix⟩
    · exact ⟨line, rfl, nil_prefix⟩
  | cons char rest induction =>
    cases text with
    | nil => cases prefix_nil.mp shorter
    | cons other others =>
      obtain ⟨rfl, remaining⟩ := cons_prefix_cons.mp shorter
      obtain ⟨fewer, line, found, opened⟩ := induction remaining
      rw [segments, segments]
      split_ifs
      · exact ⟨cons_prefix_cons.mpr ⟨rfl, fewer⟩, line, found, opened⟩
      · revert fewer found opened
        rcases segments _ with ⟨_ | ⟨cutLine, cutLines⟩, cutTail⟩ <;>
          rcases segments _ with ⟨_ | ⟨head, lines⟩, tail⟩
        · rintro - ⟨⟩ opened
          exact ⟨List.nil_prefix, _, rfl, cons_prefix_cons.mpr ⟨rfl, opened⟩⟩
        · rintro - ⟨⟩ opened
          exact ⟨List.nil_prefix, _, rfl, cons_prefix_cons.mpr ⟨rfl, opened⟩⟩
        · intro fewer
          cases prefix_nil.mp fewer
        · intro fewer found opened
          obtain ⟨rfl, later⟩ := cons_prefix_cons.mp fewer
          exact ⟨cons_prefix_cons.mpr ⟨rfl, later⟩, line, found, opened⟩

/-- The value of a line `name=value`. -/
def keyed (name line : Text) : Option Text := (line.dropPrefix? name).bind (·.dropPrefix? ['='])

def field (name text : Text) : Option Text := (lines text).findSome? (keyed name)

theorem keyed_eq_some_iff {name line value : Text} :
    keyed name line = some value ↔ line = name ++ '=' :: value := by
  simp only [keyed, bind_eq_some_iff, dropPrefix?_eq_some_iff, beq_iff_eq]
  constructor
  · rintro ⟨rest, ⟨_, rfl, rfl⟩, _, rfl, rfl⟩
    rfl
  · rintro rfl
    exact ⟨'=' :: value, ⟨name, rfl, rfl⟩, ['='], rfl, rfl⟩

theorem field_append_newline {name : Text} (single : '\n' ∉ line) :
    field name (line ++ '\n' :: rest) = (keyed name (stripCr line)).or (field name rest) := by
  rw [field, lines_append_newline single, findSome?_cons]
  cases keyed name (stripCr line) <;> rfl

theorem stripCr_named {name value : Text} :
    stripCr (name ++ '=' :: value) = name ++ '=' :: stripCr value := by
  rcases eq_nil_or_concat' value with rfl | ⟨front, last, rfl⟩
  · simp [stripCr]
  · have whole : name ++ '=' :: (front ++ [last]) = (name ++ '=' :: front) ++ [last] := by
      simp
    rw [whole, stripCr, stripCr, getLast?_concat, getLast?_concat, dropLast_concat, dropLast_concat]
    split_ifs
    · rfl
    · exact whole.symm

theorem takeWhile_named {name : Text} (plain : '=' ∉ name) {value : Text} :
    (name ++ '=' :: value).takeWhile (· ≠ '=') = name := by
  rw [takeWhile_append_of_pos]
  · simp
  · intro char mem
    simpa using fun equals : char = '=' => plain (equals ▸ mem)

theorem keyed_named {name other : Text} (plain : '=' ∉ name)
    (otherPlain : '=' ∉ other) {value : Text} :
    keyed name (other ++ '=' :: value) = if name = other then some value else none := by
  split_ifs with same
  · rw [same, keyed_eq_some_iff]
  · rw [eq_none_iff_forall_ne_some]
    intro found keyed
    rw [keyed_eq_some_iff] at keyed
    have names := congrArg (takeWhile (· ≠ '=')) keyed
    rw [takeWhile_named plain, takeWhile_named otherPlain] at names
    exact same names.symm

theorem field_named_line {name other value : Text} (plain : '=' ∉ name) (otherPlain : '=' ∉ other)
    (single : '\n' ∉ other ++ '=' :: value) : field name (other ++ '=' :: value ++ '\n' :: rest) =
      if name = other then some (stripCr value) else field name rest := by
  rw [field_append_newline single, stripCr_named, keyed_named plain otherPlain]
  split_ifs <;> rfl

theorem field_named_open {name other value : Text} (plain : '=' ∉ name)
    (otherPlain : '=' ∉ other) (single : '\n' ∉ other ++ '=' :: value) :
    field name (other ++ '=' :: value) = if name = other then some value else none := by
  have filled : other ++ '=' :: value ≠ [] := by simp
  rw [field, lines_of_unterminated single, if_neg filled,
    findSome?_cons, keyed_named plain otherPlain]
  split_ifs <;> rfl

theorem not_mem_of_segments {text : Text} :
    (∀ line ∈ (segments text).1, '\n' ∉ line) ∧ '\n' ∉ (segments text).2 := by
  induction text with
  | nil => exact ⟨nofun, nofun⟩
  | cons char rest induction =>
    rw [segments]
    split_ifs with newline
    · exact ⟨forall_mem_cons.mpr ⟨not_mem_nil, induction.1⟩, induction.2⟩
    · revert induction
      have ordinary : '\n' ≠ char := fun same => newline same.symm
      rcases segments _ with ⟨_ | ⟨line, lines⟩, tail⟩
      · rintro ⟨_, unclosed⟩
        exact ⟨nofun, not_mem_cons_of_ne_of_not_mem ordinary unclosed⟩
      · rintro ⟨complete, unclosed⟩
        obtain ⟨first, others⟩ := forall_mem_cons.mp complete
        exact ⟨forall_mem_cons.mpr ⟨not_mem_cons_of_ne_of_not_mem ordinary first, others⟩, unclosed⟩

theorem stripCr_isPrefix : stripCr line <+: line := by
  unfold stripCr
  split_ifs
  · exact dropLast_prefix _
  · exact prefix_rfl

/-- No line contains a newline, and so no field does. -/
theorem not_mem_of_field {name text value : Text} (found : field name text = some value) :
    '\n' ∉ value := by
  obtain ⟨line, mem, named⟩ := exists_of_findSome?_eq_some found
  rw [keyed_eq_some_iff] at named
  have single : '\n' ∉ line := by
    obtain ⟨complete, opened⟩ := not_mem_of_segments
    rcases mem_append.mp mem with stripped | last
    · obtain ⟨whole, among, rfl⟩ := mem_map.mp stripped
      exact fun inside => complete _ among (stripCr_isPrefix.subset inside)
    · split_ifs at last
      · cases last
      · rw [mem_singleton.mp last]
        exact opened
  rw [named] at single
  exact fun inside => single (mem_append_right _ (mem_cons_of_mem _ inside))

theorem not_mem_named {name value : Text} (plain : '\n' ∉ name) (single : '\n' ∉ value) :
    '\n' ∉ name ++ '=' :: value := by
  rw [mem_append, not_or, mem_cons, not_or]
  exact ⟨plain, by decide, single⟩

/-- A line that goes on has the name of its beginning. -/
theorem keyed_of_prefix {name line whole value : Text} (shorter : line <+: whole)
    (named : keyed name line = some value) : (keyed name whole).isSome := by
  obtain ⟨tail, rfl⟩ := shorter
  rw [keyed_eq_some_iff] at named
  have longer : keyed name (line ++ tail) = some (value ++ tail) := by
    rw [keyed_eq_some_iff, named, append_assoc, cons_append]
  rw [longer]
  rfl

/--
If the field of the last line, which is open, is found whole in an initial
part of a text, then this part is the text.
-/
theorem eq_of_field_of_prefix {cut text name value : Text} (shorter : cut <+: text)
    (others : ∀ line ∈ (segments text).1, keyed name line = none)
    (opened : (segments text).2 = name ++ '=' :: value) (found : field name cut = some value) :
    cut = text := by
  obtain ⟨fewer, whole, standing, begun⟩ := segments_prefix shorter
  obtain ⟨line, mem, named⟩ := exists_of_findSome?_eq_some found
  rcases mem_append.mp mem with complete | last
  · obtain ⟨full, among, rfl⟩ := mem_map.mp complete
    have some := keyed_of_prefix stripCr_isPrefix named
    rw [others _ (fewer.subset among)] at some
    cases some
  · have line_eq : line = (segments cut).2 := by
      split_ifs at last
      · cases last
      · exact mem_singleton.mp last
    subst line_eq
    have some := keyed_of_prefix begun named
    rw [getElem?_append] at standing
    split_ifs at standing with early
    · rw [others _ (mem_of_getElem? standing)] at some
      cases some
    · have complete : (segments cut).1 = (segments text).1 :=
        fewer.eq_of_length_le (Nat.le_of_not_lt early)
      have same : (segments cut).2 = (segments text).2 := by
        rw [keyed_eq_some_iff] at named
        rw [named, opened]
      rw [← unsegment_segments cut, ← unsegment_segments text, complete, same]

/-- Split a text after so many bytes, unless that is inside a character. -/
def splitAtByte : ℕ → Text → Option (Text × Text)
  | 0, text => some ([], text)
  | _ + 1, [] => none
  | size + 1, char :: rest =>
    if char.utf8Size ≤ size + 1 then
      (splitAtByte (size + 1 - char.utf8Size) rest).map fun parts => (char :: parts.1, parts.2)
    else none

/-- `&text[start..stop]`; `none` where the original panics. -/
def slice (text : Text) (start stop : ℕ) : Option Text := do
  let (_, rest) ← splitAtByte start text
  let (piece, _) ← splitAtByte (stop - start) rest
  return piece

/-- Characters of one byte each are cut off by their number. -/
theorem splitAtByte_append {front : Text} (narrow : ∀ char ∈ front, char.utf8Size = 1) :
    splitAtByte front.length (front ++ rest) = some (front, rest) := by
  induction front with
  | nil => rw [nil_append, length_nil, splitAtByte]
  | cons char front induction =>
    have first : char.utf8Size = 1 := narrow _ mem_cons_self
    have others := induction fun other mem => narrow _ (mem_cons_of_mem _ mem)
    simp [splitAtByte, first, others]

/-- The digit of `value % 16`, counting from `0` and then from `ten`. -/
def hexDigit (ten : Char) (value : ℕ) : Char :=
  let digit := value % 16
  if digit < 10 then Char.ofNat ('0'.toNat + digit) else Char.ofNat (ten.toNat + (digit - 10))

/-- `{:02x}` with `ten = 'a'`, and `{:02X}` with `ten = 'A'`. -/
def hexByte (ten : Char) (byte : UInt8) : Text :=
  [hexDigit ten (byte.toNat / 16), hexDigit ten byte.toNat]

def hexText (bytes : List UInt8) : Text := bytes.flatMap (hexByte 'a')

/-- `char::to_digit(16)`. -/
def hexValue (char : Char) : Option ℕ :=
  if '0' ≤ char ∧ char ≤ '9' then some (char.toNat - '0'.toNat)
  else if 'a' ≤ char ∧ char ≤ 'f' then some (char.toNat - 'a'.toNat + 10)
  else if 'A' ≤ char ∧ char ≤ 'F' then some (char.toNat - 'A'.toNat + 10) else none

/-- The value of a string of digits, unless it does not fit a byte. -/
def parseDigits (text : Text) : Option UInt8 :=
  (text.foldlM (fun value char => do
    let digit ← hexValue char
    if value * 16 + digit < 256 then some (value * 16 + digit) else none) 0).map UInt8.ofNat

/-- `u8::from_str_radix(text, 16)`; a leading plus sign is accepted. -/
def fromStrRadix16 : Text → Option UInt8
  | [] | ['+'] | ['-'] => none
  | '+' :: rest => parseDigits rest
  | text => parseDigits text

/-- `hex::decode`: two digits to a byte. -/
def hexDecode : Text → Option (List UInt8)
  | [] => some []
  | [_] => none
  | high :: low :: rest => do
      let high ← hexValue high
      let low ← hexValue low
      let bytes ← hexDecode rest
      return .ofNat (high * 16 + low) :: bytes

theorem fromStrRadix16_hexByte {byte : UInt8} : fromStrRadix16 (hexByte 'a' byte) = some byte := by
  have all : ∀ value : Fin 256,
      fromStrRadix16 (hexByte 'a' (.ofNat value)) = some (.ofNat value) := by
    decide +kernel
  have this := all ⟨byte.toNat, byte.toNat_lt⟩
  simpa using this

/-- What holds of the sixteen digits holds of every digit written. -/
theorem hexByte_forall {ten : Char} {property : Char → Prop}
    (digits : ∀ digit : Fin 16, property (hexDigit ten digit)) {byte : UInt8} {char : Char}
    (mem : char ∈ hexByte ten byte) : property char := by
  have written (value : ℕ) : property (hexDigit ten value) := by
    simpa [hexDigit] using digits ⟨value % 16, Nat.mod_lt _ (by decide)⟩
  simp only [hexByte, mem_cons, not_mem_nil, or_false] at mem
  rcases mem with rfl | rfl
  · exact written _
  · exact written _

theorem hexText_forall {property : Char → Prop}
    (digits : ∀ digit : Fin 16, property (hexDigit 'a' digit)) {bytes : List UInt8}
    {char : Char} (mem : char ∈ hexText bytes) : property char := by
  obtain ⟨byte, _, found⟩ := mem_flatMap.mp mem
  exact hexByte_forall digits found

theorem mem_intercalate {separator : Text} {parts : List Text}
    {char : Char} (mem : char ∈ separator.intercalate parts) :
    char ∈ separator ∨ ∃ part ∈ parts, char ∈ part := by
  induction parts with
  | nil => simp at mem
  | cons first rest induction =>
    cases rest with
    | nil => exact .inr ⟨first, by simp, by simpa using mem⟩
    | cons second rest =>
      rw [intercalate_cons_cons, mem_append, mem_append] at mem
      rcases mem with (inside | between) | later
      · exact .inr ⟨first, mem_cons_self, inside⟩
      · exact .inl between
      · rcases induction later with between | ⟨part, inside, found⟩
        · exact .inl between
        · exact .inr ⟨part, mem_cons_of_mem _ inside, found⟩

/-- A part has only characters of the text, and not the separator. -/
theorem mem_of_mem_splitOn {text part : Text} {separator char : Char}
    (inside : part ∈ text.splitOn separator) (mem : char ∈ part) :
    char ∈ text ∧ char ≠ separator := by
  induction text generalizing part with
  | nil =>
    rw [splitOn_nil, mem_singleton] at inside
    rw [inside] at mem
    cases mem
  | cons first rest induction =>
    have later {part : Text} (inside : part ∈ rest.splitOn separator) (mem : char ∈ part) :
        char ∈ first :: rest ∧ char ≠ separator :=
      (induction inside mem).imp_left (mem_cons_of_mem _)
    rw [splitOn_cons_eq_if_modifyHead] at inside
    split_ifs at inside with same
    · rcases mem_cons.mp inside with rfl | inside
      · cases mem
      · exact later inside mem
    · cases parts : rest.splitOn separator with
      | nil => exact absurd parts (splitOn_ne_nil _ _)
      | cons head tail =>
        rw [parts] at inside later
        rcases mem_cons.mp inside with rfl | inside
        · rcases mem_cons.mp mem with rfl | mem
          · exact ⟨mem_cons_self, by simpa using same⟩
          · exact later mem_cons_self mem
        · exact later (mem_cons_of_mem _ inside) mem

end Texts
