import DeskUnlock.Foundation.Text
import Mathlib.Data.Vector.Basic
import Mathlib.Order.Fin.Basic

/-!
# Hexadecimal fields of a fixed width

A field is read two bytes at a time: each pair is sliced out of the text at
its byte offsets and handed to the integer parser.  The slice panics inside a
character, and the parser takes a plus sign in front of a digit, so that the
reader does not always return and accepts more than pairs of digits.
-/

namespace Texts

open List Option

variable {Fault : Type} {width : ℕ} {text : Text}

def hexByteAt (malformed panicked : Fault) (text : Text) (i : ℕ) : Except Fault UInt8 :=
  match slice text (i * 2) (i * 2 + 2) with
  | none => .error panicked
  | some digits =>
    match fromStrRadix16 digits with
    | none => .error malformed
    | some byte => .ok byte

/-- A field of `width` bytes, after the check of its length in bytes. -/
def hexField (width : ℕ) (missized malformed : ℕ → Fault) (panicked : Fault) (text : Text) :
    Except Fault (List.Vector UInt8 width) :=
  if (utf8 text).length ≠ width * 2 then .error (missized (utf8 text).length)
  else List.Vector.mOfFn fun i => hexByteAt (malformed i) panicked text i

/-- The number that two bytes of a text stand for, a sign included. -/
def numberAt (text : Text) (i : ℕ) : Option UInt8 := do
  let digits ← slice text (i * 2) (i * 2 + 2)
  fromStrRadix16 digits

/-- Behind some numbers, two bytes begin or end inside a character. -/
def Overruns (width : ℕ) (text : Text) : Prop :=
  ∃ i < width, slice text (i * 2) (i * 2 + 2) = none ∧ ∀ earlier < i, numberAt text earlier ≠ none

/-- The texts of the right length at which the reader panics, or takes a sign. -/
def Misread (width : ℕ) (text : Text) : Prop :=
  (utf8 text).length = width * 2 ∧
    (Overruns width text ∨ (∀ i < width, numberAt text i ≠ none) ∧ '+' ∈ text)

/-- The reader returns, and accepts the digits of the bytes it returns only. -/
def ExactAt (panicked : Fault) (read : Text → Except Fault (List.Vector UInt8 width))
    (text : Text) : Prop :=
  read text ≠ .error panicked ∧ ∀ bytes, read text = .ok bytes ↔ hexDecode text = some bytes.toList

theorem splitAtByte_add {size : ℕ} {front rest : Text}
    (split : splitAtByte size text = some (front, rest)) {more : ℕ} :
    splitAtByte (size + more) text =
      (splitAtByte more rest).map fun parts => (front ++ parts.1, parts.2) := by
  fun_induction splitAtByte size text generalizing front with
  | case1 text =>
    cases split
    simp
  | case2 => cases split
  | case3 size char tail small induction =>
    obtain ⟨parts, inner, same⟩ := map_eq_some_iff.mp split
    cases same
    have remaining : size + more + 1 - char.utf8Size = size + 1 - char.utf8Size + more := by omega
    rw [Nat.succ_add, splitAtByte, if_pos (by omega), remaining, induction inner, Option.map_map]
    rfl
  | case4 => cases split

theorem hexValue_spec {char : Char} {digit : ℕ} (value : hexValue char = some digit) :
    digit < 16 ∧ char.utf8Size = 1 := by
  have narrow (small : char.toNat ≤ 127) : char.utf8Size = 1 := by
    exact Char.utf8Size_eq_one_iff.mpr (UInt32.le_iff_toNat_le.mpr small)
  have bounds {low high : Char} (inside : low ≤ char ∧ char ≤ high) :
      low.toNat ≤ char.toNat ∧ char.toNat ≤ high.toNat :=
    ⟨Char.le_def.mp inside.1, Char.le_def.mp inside.2⟩
  unfold hexValue at value
  split_ifs at value with decimal lower upper
  · obtain ⟨above, below⟩ := bounds decimal
    simp only [some.injEq, Char.reduceToNat] at value above below
    exact ⟨by omega, narrow (by omega)⟩
  · obtain ⟨above, below⟩ := bounds lower
    simp only [some.injEq, Char.reduceToNat] at value above below
    exact ⟨by omega, narrow (by omega)⟩
  · obtain ⟨above, below⟩ := bounds upper
    simp only [some.injEq, Char.reduceToNat] at value above below
    exact ⟨by omega, narrow (by omega)⟩

theorem parseDigits_pair {high low : Char} :
    parseDigits [high, low] = do
      let high ← hexValue high
      let low ← hexValue low
      return .ofNat (high * 16 + low) := by
  cases first : hexValue high with
  | none => simp [parseDigits, first]
  | some upper =>
    have small := (hexValue_spec first).1
    cases second : hexValue low with
    | none => simp [parseDigits, second]
    | some lower =>
      have fits := (hexValue_spec second).1
      have whole : upper * 16 + lower < 256 := by omega
      simp [parseDigits, first, second, show upper < 256 by omega, whole]

theorem fromStrRadix16_unsigned {first second : Char} (unsigned : first ≠ '+') :
    fromStrRadix16 [first, second] = parseDigits [first, second] := by
  unfold fromStrRadix16
  split <;> simp_all

variable {byte : UInt8}

theorem narrow_of_parseDigits (number : parseDigits text = some byte) :
    ∀ char ∈ text, char.utf8Size = 1 := by
  obtain ⟨total, folded, _⟩ := map_eq_some_iff.mp number
  clear number
  generalize 0 = start at folded
  induction text generalizing start with
  | nil => simp
  | cons char rest induction =>
    obtain ⟨value, step, folded⟩ := bind_eq_some_iff.mp folded
    obtain ⟨digit, isDigit, _⟩ := bind_eq_some_iff.mp step
    rw [forall_mem_cons]
    exact ⟨(hexValue_spec isDigit).2, induction _ folded⟩

/-- A sign is as narrow as a digit. -/
theorem narrow_of_fromStrRadix16 (number : fromStrRadix16 text = some byte) :
    ∀ char ∈ text, char.utf8Size = 1 := by
  unfold fromStrRadix16 at number
  split at number
  · cases number
  · cases number
  · cases number
  · rw [forall_mem_cons]
    exact ⟨by decide, narrow_of_parseDigits number⟩
  · exact narrow_of_parseDigits number

theorem of_splitAtByte {size : ℕ} {front rest : Text}
    (split : splitAtByte size text = some (front, rest)) :
    text = front ++ rest ∧ (utf8 front).length = size := by
  fun_induction splitAtByte size text generalizing front with
  | case1 text =>
    cases split
    exact ⟨rfl, rfl⟩
  | case2 => cases split
  | case3 size char tail small induction =>
    obtain ⟨parts, inner, same⟩ := map_eq_some_iff.mp split
    cases same
    obtain ⟨whole, sized⟩ := induction inner
    refine ⟨by rw [whole, cons_append], ?_⟩
    rw [utf8_cons, length_append, String.length_utf8EncodeChar]
    omega
  | case4 => cases split

/-- Two bytes that are a number are two characters. -/
theorem pair_of_number {pair rest : Text} (split : splitAtByte 2 text = some (pair, rest))
    (number : fromStrRadix16 pair = some byte) :
    ∃ first second, pair = [first, second] ∧ text = first :: second :: rest := by
  obtain ⟨whole, sized⟩ := of_splitAtByte split
  rw [utf8_length_of_narrow (narrow_of_fromStrRadix16 number)] at sized
  obtain ⟨first, second, rfl⟩ := length_eq_two.mp sized
  exact ⟨first, second, rfl, whole⟩

theorem numberAt_zero :
    numberAt text 0 = (splitAtByte 2 text).bind fun parts => fromStrRadix16 parts.1 := by
  cases split : splitAtByte 2 text <;> simp [numberAt, slice, splitAtByte, split]

theorem numberAt_succ {pair rest : Text} (split : splitAtByte 2 text = some (pair, rest))
    {i : ℕ} : numberAt text (i + 1) = numberAt rest i := by
  have moved : slice text ((i + 1) * 2) ((i + 1) * 2 + 2) = slice rest (i * 2) (i * 2 + 2) := by
    have offset : (i + 1) * 2 = 2 + i * 2 := by omega
    rw [slice, slice, Nat.add_sub_cancel_left, Nat.add_sub_cancel_left, offset,
      splitAtByte_add split]
    cases splitAtByte (i * 2) rest <;> rfl
  rw [numberAt, numberAt, moved]

theorem hexDecode_cons_eq_some_iff {high low : Char} {rest : Text} {bytes : List UInt8} :
    hexDecode (high :: low :: rest) = some (byte :: bytes) ↔
      '+' ∉ [high, low] ∧ fromStrRadix16 [high, low] = some byte ∧ hexDecode rest = some bytes := by
  by_cases signed : '+' ∈ [high, low]
  · have sign : hexValue '+' = none := by decide
    refine ⟨fun decoded => ?_, fun number => absurd signed number.1⟩
    simp only [mem_cons, not_mem_nil, or_false] at signed
    rcases signed with rfl | rfl <;> simp [hexDecode, sign] at decoded
  · have unsigned : high ≠ '+' := by
      rintro rfl
      exact signed mem_cons_self
    rw [fromStrRadix16_unsigned unsigned, parseDigits_pair]
    simp [hexDecode, bind_eq_some_iff]
    grind

/-- What pairs of digits are: as many numbers, none of them with a sign. -/
theorem hexDecode_eq_some_iff {bytes : List UInt8} : hexDecode text = some bytes ↔ '+' ∉ text ∧
    (utf8 text).length = bytes.length * 2 ∧ ∀ i < bytes.length, numberAt text i = bytes[i]? := by
  have halves (pair rest : Text) : (utf8 (pair ++ rest)).length =
      (utf8 pair).length + (utf8 rest).length := by
    rw [utf8_append, length_append]
  induction bytes generalizing text with
  | nil =>
    cases text using hexDecode.fun_cases with
    | case1 => simp [hexDecode]
    | case2 char => simp [hexDecode, utf8_cons, char.utf8Size_pos.ne']
    | case3 high low rest => simp [hexDecode, bind_eq_some_iff, utf8_cons, high.utf8Size_pos.ne']
  | cons byte bytes induction =>
    constructor
    · intro decoded
      cases text using hexDecode.fun_cases with
      | case1 => cases decoded
      | case2 => cases decoded
      | case3 high low rest =>
        obtain ⟨unsigned, number, decoded⟩ := hexDecode_cons_eq_some_iff.mp decoded
        obtain ⟨others, sized, numbers⟩ := induction.mp decoded
        have split : splitAtByte 2 (high :: low :: rest) = some ([high, low], rest) :=
          splitAtByte_append (narrow_of_fromStrRadix16 number)
        have long := halves [high, low] rest
        rw [(of_splitAtByte split).2, sized] at long
        refine ⟨not_mem_append unsigned others, ?_, fun i inside => ?_⟩
        · rw [length_cons, Nat.add_mul, add_comm]
          exact long
        · cases i with
          | zero =>
            rw [numberAt_zero, split]
            exact number
          | succ i =>
            rw [numberAt_succ split, getElem?_cons_succ]
            exact numbers i (Nat.lt_of_succ_lt_succ inside)
    · rintro ⟨unsigned, sized, numbers⟩
      have first := numbers 0 (Nat.succ_pos _)
      rw [numberAt_zero] at first
      obtain ⟨⟨pair, rest⟩, split, number⟩ := bind_eq_some_iff.mp first
      obtain ⟨high, low, rfl, rfl⟩ := pair_of_number split number
      have long := halves [high, low] rest
      rw [(of_splitAtByte split).2] at long
      refine hexDecode_cons_eq_some_iff.mpr ⟨?_, number, induction.mpr ⟨?_, ?_, ?_⟩⟩
      · exact fun mem => unsigned (mem_append_left _ mem)
      · exact fun mem => unsigned (mem_append_right [high, low] mem)
      · rw [length_cons] at sized
        exact add_left_cancel (long.symm.trans (sized.trans (by omega)))
      · intro i inside
        rw [← numberAt_succ split, numbers _ (Nat.succ_lt_succ inside)]
        rfl

variable {Value : Type} {fault : Fault}

/-- The loop returns every value, or the first fault. -/
theorem mOfFn_cases (step : Fin width → Except Fault Value) :
    (∃ values, List.Vector.mOfFn step = .ok values ∧ ∀ i, step i = .ok (values.get i)) ∨
    ∃ i fault, List.Vector.mOfFn step = .error fault ∧
    step i = .error fault ∧ ∀ earlier < i, ∃ value, step earlier = .ok value := by
  induction width with
  | zero => exact .inl ⟨Vector.nil, rfl, nofun⟩
  | succ width induction =>
    rw [Vector.mOfFn]
    cases first : step 0 with
    | error fault => exact .inr ⟨0, fault, rfl, first, nofun⟩
    | ok value =>
      rcases induction fun i => step _ with ⟨values, done, each⟩ | ⟨i, fault, stopped, here, before⟩
      · rw [done]
        exact .inl ⟨value ::ᵥ values, rfl, Fin.cases first each⟩
      · rw [stopped]
        refine .inr ⟨i.succ, fault, rfl, here, Fin.cases (fun _ => ⟨value, first⟩) ?_⟩
        exact fun earlier less => before _ (Fin.succ_lt_succ_iff.mp less)

theorem mOfFn_eq_ok_iff {step : Fin width → Except Fault Value} {values : List.Vector Value width} :
    List.Vector.mOfFn step = .ok values ↔ ∀ i, step i = .ok (values.get i) := by
  rcases mOfFn_cases _ with ⟨others, done, each⟩ | ⟨i, fault, stopped, here, _⟩
  · rw [done, Except.ok.injEq]
    constructor
    · rintro rfl
      exact each
    · intro same
      exact List.Vector.ext fun i => Except.ok.inj ((each i).symm.trans (same i))
  · rw [stopped]
    exact ⟨nofun, fun each => nomatch here.symm.trans (each i)⟩

theorem mOfFn_eq_error_iff {step : Fin width → Except Fault Value} :
    List.Vector.mOfFn step = .error fault ↔
    ∃ i, step i = .error fault ∧ ∀ earlier < i, ∃ value, step earlier = .ok value := by
  rcases mOfFn_cases _ with ⟨values, done, each⟩ | ⟨i, found, stopped, here, before⟩
  · rw [done]
    exact ⟨nofun, fun ⟨i, failed, _⟩ => nomatch failed.symm.trans (each i)⟩
  · rw [stopped, Except.error.injEq]
    constructor
    · rintro rfl
      exact ⟨i, here, before⟩
    · rintro ⟨other, failed, passed⟩
      rcases lt_trichotomy i other with less | rfl | less
      · obtain ⟨value, done⟩ := passed i less
        cases here.symm.trans done
      · exact Except.error.inj (here.symm.trans failed)
      · obtain ⟨value, done⟩ := before _ less
        cases failed.symm.trans done

variable {missized malformed : ℕ → Fault} {panicked : Fault}

theorem hexByteAt_eq_ok_iff {i : ℕ} :
    hexByteAt fault panicked text i = .ok byte ↔ numberAt text i = some byte := by
  unfold hexByteAt numberAt
  cases slice text (i * 2) (i * 2 + 2) with
  | none => simp
  | some digits => cases number : fromStrRadix16 digits <;> simp [number]

theorem hexByteAt_eq_panicked_iff {i : ℕ} (other : fault ≠ panicked) :
    hexByteAt fault panicked text i = .error panicked ↔ slice text (i * 2) (i * 2 + 2) = none := by
  unfold hexByteAt
  cases slice text (i * 2) (i * 2 + 2) with
  | none => simp
  | some digits =>
    dsimp only
    cases fromStrRadix16 digits <;> simp [other]

theorem hexField_eq_ok_iff {bytes : List.Vector UInt8 width} :
    hexField width missized malformed panicked text = .ok bytes ↔ (utf8 text).length =
    width * 2 ∧ ∀ i < width, numberAt text i = bytes.toList[i]? := by
  by_cases sized : (utf8 text).length = width * 2
  · rw [hexField, if_neg (not_not_intro sized), mOfFn_eq_ok_iff]
    simp only [hexByteAt_eq_ok_iff, sized, true_and, Fin.forall_iff]
    refine forall₂_congr fun i inside => ?_
    rw [getElem?_eq_getElem, Vector.get_eq_get_toList]
    rfl
  · rw [hexField, if_pos sized]
    exact ⟨nofun, fun reads => absurd reads.1 sized⟩

theorem hexField_eq_panicked_iff (other : ∀ i, missized i ≠ panicked ∧ malformed i ≠ panicked) :
    hexField width missized malformed panicked text =
    .error panicked ↔ (utf8 text).length = width * 2 ∧ Overruns width text := by
  by_cases sized : (utf8 text).length = width * 2
  · rw [hexField, if_neg (not_not_intro sized), mOfFn_eq_error_iff]
    simp only [hexByteAt_eq_panicked_iff (other _).2, hexByteAt_eq_ok_iff, sized, true_and,
      Overruns, ne_none_iff_exists']
    constructor
    · rintro ⟨i, outside, before⟩
      exact ⟨i, i.isLt, outside, fun earlier less => before ⟨earlier, less.trans i.isLt⟩ less⟩
    · rintro ⟨i, inside, outside, before⟩
      exact ⟨⟨i, inside⟩, outside, fun earlier less => before _ less⟩
  · rw [hexField, if_pos sized]
    exact ⟨fun same => absurd (Except.error.inj same) (other _).1, fun reads =>
      absurd reads.1 sized⟩

theorem hexField_exactAt_iff (other : ∀ i, missized i ≠ panicked ∧ malformed i ≠ panicked) :
    ExactAt panicked (hexField width missized malformed panicked) text ↔ ¬ Misread width text := by
  simp only [ExactAt, ne_eq, hexField_eq_panicked_iff other, hexField_eq_ok_iff,
    hexDecode_eq_some_iff, Vector.toList_length]
  constructor
  · rintro ⟨returns, exactly⟩ ⟨sized, overrun | ⟨numbers, signed⟩⟩
    · exact returns ⟨sized, overrun⟩
    · let bytes : List.Vector _ width :=
        List.Vector.ofFn fun i => (numberAt text i).getD 0
      refine ((exactly bytes).mp ⟨sized, fun i inside => ?_⟩).1 signed
      obtain ⟨byte, number⟩ := ne_none_iff_exists'.mp (numbers i inside)
      simp [bytes, inside, number]
  · intro holds
    refine ⟨fun reads => holds ⟨reads.1, .inl reads.2⟩, fun bytes => ⟨?_, .right⟩⟩
    intro reads
    refine ⟨fun signed => holds ⟨reads.1, .inr ⟨fun i inside => ?_, signed⟩⟩, reads⟩
    rw [reads.2 i inside, getElem?_eq_getElem (by rwa [bytes.toList_length])]
    nofun

theorem hexField_hexText {bytes : List.Vector UInt8 width} :
    hexField width missized malformed panicked (hexText bytes.toList) = .ok bytes := by
  have decoded : hexDecode (hexText bytes.toList) = some bytes.toList := by
    induction bytes.toList with
    | nil => rfl
    | cons byte rest induction =>
      refine hexDecode_cons_eq_some_iff.mpr ⟨?_, fromStrRadix16_hexByte, induction⟩
      exact fun signed => @hexByte_forall 'a' ('+' ≠ ·) (by decide) _ _ signed rfl
  have read := (hexDecode_eq_some_iff.mp decoded).2
  rw [bytes.toList_length] at read
  exact hexField_eq_ok_iff.mpr read

end Texts
