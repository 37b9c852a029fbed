import DeskUnlock.Foundation.Rounding
import DeskUnlock.Proximity.Decimal

/-!
# What the decimal arithmetic computes

A decimal text stands for a rational number.  As long as the scaled values fit
into the integers of the shell, sums, differences and comparisons are exact,
and quotients are rounded to two decimals.  A larger value wraps around.
-/

namespace DeskUnlock.Proximity

open Texts Rounding List

/-- The shell keeps this value and its negation. -/
def Fits (value : Int) : Prop := |value| < 9223372036854775808

section

variable (text : Text)

def magnitude : Text := stripSign '+' (stripSign '-' text)

/-- One hundred times a decimal number, in integers without a bound. -/
def cents : Int :=
  if text.head? = some '-' then -scaleMagnitude (magnitude text)
  else scaleMagnitude (magnitude text)

/-- The number a decimal text stands for. -/
def value : ℚ :=
  (if text.head? = some '-' then -1 else 1) *
    (Nat.ofDigitChars 10 (integerPart (magnitude text)) 0 +
      Nat.ofDigitChars 10 (fractionPart (magnitude text)) 0 /
        10 ^ (fractionPart (magnitude text)).length)

/-- A sign or none, digits, and at most two digits behind a decimal point. -/
def TwoDecimals : Prop :=
  (integerPart (magnitude text)).all Char.isDigit = true ∧
    (fractionPart (magnitude text)).all Char.isDigit = true ∧
    (fractionPart (magnitude text)).length ≤ 2

theorem scale100_eq : scale100 text = shell (cents text) := by
  unfold scale100 cents magnitude
  split_ifs with negative
  · rfl
  · cases text with
    | nil => rfl
    | cons char rest =>
      have kept : stripSign '-' (char :: rest) = char :: rest :=
        if_neg fun same => negative (congrArg some same)
      rw [kept]

end

variable {text first second : Text} {scaled : Int}

theorem shell_of_fits (fits : Fits scaled) : shell scaled = scaled := by
  obtain ⟨least, most⟩ := abs_lt.mp fits
  apply Int.bmod_eq_of_le_mul_two <;> unfold SHELL_VALUES <;> omega

theorem scale100_of_fits (fits : Fits (cents text)) : scale100 text = cents text :=
  (scale100_eq text).trans (shell_of_fits fits)

theorem cents_eq (short : (fractionPart (magnitude text)).length ≤ 2) :
    (cents text : ℚ) = 100 * value text := by
  have scales : (scaleMagnitude (magnitude text) : ℚ) =
      100 * (Nat.ofDigitChars 10 (integerPart (magnitude text)) 0 +
        Nat.ofDigitChars 10 (fractionPart (magnitude text)) 0 /
          10 ^ (fractionPart (magnitude text)).length) := by
    unfold scaleMagnitude
    match fractionPart (magnitude text), short with
    | [], _ => simp [Nat.ofDigitChars_cons]; ring
    | [_], _ => simp [Nat.ofDigitChars_cons]; ring
    | [_, _], _ => simp [Nat.ofDigitChars_cons]; ring
  unfold cents value
  split_ifs
  · push_cast
    linarith
  · push_cast
    linarith

/-! ## Written numbers -/

/-- How the engine writes a number. -/
def written (negative : Bool) (whole : Nat) (fraction : Text) : Text :=
  (if negative then ['-'] else []) ++ (Nat.toDigits 10 whole ++ '.' :: fraction)

section

variable {negative : Bool} {whole : Nat} {fraction : Text}

theorem not_mem_toDigits {char : Char} (other : char.isDigit = false) :
    char ∉ Nat.toDigits 10 whole := fun mem =>
  Bool.false_ne_true (other.symm.trans (Nat.isDigit_of_mem_toDigits (by decide) (le_refl 10) mem))

theorem head_toDigits {sign : Char} (other : sign.isDigit = false) :
    ∃ digit rest, Nat.toDigits 10 whole = digit :: rest ∧ digit ≠ sign := by
  obtain ⟨digit, rest, digits⟩ := exists_cons_of_length_pos (@Nat.length_toDigits_pos 10 whole)
  refine ⟨digit, rest, digits, ?_⟩
  rintro rfl
  exact @not_mem_toDigits whole _ other (digits ▸ mem_cons_self)

theorem stripSign_toDigits {sign : Char} (other : sign.isDigit = false) (rest : Text) :
    stripSign sign (Nat.toDigits 10 whole ++ rest) = Nat.toDigits 10 whole ++ rest := by
  obtain ⟨digit, chars, digits, differs⟩ := @head_toDigits whole sign other
  rw [digits]
  exact if_neg differs

theorem magnitude_written :
    magnitude (written negative whole fraction) = Nat.toDigits 10 whole ++ '.' :: fraction := by
  unfold magnitude written
  cases negative
  · rw [if_neg nofun, nil_append, stripSign_toDigits rfl, stripSign_toDigits rfl]
  · exact stripSign_toDigits rfl _

theorem integerPart_point {digits : Text} (plain : '.' ∉ digits) :
    integerPart (digits ++ '.' :: fraction) = digits ∧
      fractionPart (digits ++ '.' :: fraction) = fraction := by
  have before : ∀ char ∈ digits, (char != '.') = true := fun char mem =>
    bne_iff_ne.mpr fun same => plain (same ▸ mem)
  unfold integerPart fractionPart
  rw [takeWhile_append_of_pos before, dropWhile_append_of_pos before]
  simp

theorem parts_written :
    integerPart (magnitude (written negative whole fraction)) = Nat.toDigits 10 whole ∧
      fractionPart (magnitude (written negative whole fraction)) = fraction := by
  rw [magnitude_written]
  exact integerPart_point (not_mem_toDigits rfl)

theorem head_written :
    (written negative whole fraction).head? = some '-' ↔ negative = true := by
  obtain ⟨digit, chars, digits, differs⟩ := @head_toDigits whole '-' rfl
  cases negative
  · simp [written, digits, differs]
  · simp [written]

theorem cents_written :
    cents (written negative whole fraction) =
      (if negative then -1 else 1) *
        (whole * 100 + Nat.ofDigitChars 10 ((fraction ++ "00".toList).take 2) 0 : Nat) := by
  unfold cents scaleMagnitude
  rw [parts_written.1, parts_written.2, Nat.ofDigitChars_ten_toDigits]
  simp only [head_written]
  cases negative <;> simp

theorem value_written :
    value (written negative whole fraction) =
      (if negative then -1 else 1) *
        (whole + Nat.ofDigitChars 10 fraction 0 / 10 ^ fraction.length) := by
  unfold value
  rw [parts_written.1, parts_written.2, Nat.ofDigitChars_ten_toDigits]
  simp only [head_written]

end

theorem twoDigits_spec : ∀ number : Fin 100, isDigits (twoDigits (number : Nat)) = true ∧
    (twoDigits (number : Nat)).length = 2 ∧
      Nat.ofDigitChars 10 (twoDigits (number : Nat)) 0 = number := by
  decide

theorem hundredths_natCast {number : Nat} : hundredths number =
    Nat.toDigits 10 (number / 100) ++ '.' :: twoDigits (number % 100 : Nat) := by
  have whole : (number : Int).tdiv 100 = (number / 100 : Nat) := rfl
  have rest : (number : Int).tmod 100 = (number % 100 : Nat) := rfl
  rw [hundredths, whole, rest, integerText, if_neg (by omega), Int.natAbs_natCast]

theorem unscale100_eq (fits : Fits scaled) :
    unscale100 scaled =
      written (decide (scaled < 0)) (scaled.natAbs / 100)
        (twoDigits (scaled.natAbs % 100 : Nat)) := by
  unfold unscale100 written
  by_cases negative : scaled < 0
  · have same : shell (-scaled) = scaled.natAbs := by
      rw [shell_of_fits (by rwa [Fits, abs_neg])]
      omega
    rw [if_pos negative, same, hundredths_natCast, decide_eq_true negative]
    rfl
  · obtain ⟨number, rfl⟩ := Int.eq_ofNat_of_zero_le (not_lt.mp negative)
    rw [if_neg negative, hundredths_natCast, decide_eq_false negative]
    rfl

theorem hundredth_spec (scaled : Int) :
    isDigits (twoDigits (scaled.natAbs % 100 : Nat)) = true ∧
      (twoDigits (scaled.natAbs % 100 : Nat)).length = 2 ∧
      Nat.ofDigitChars 10 (twoDigits (scaled.natAbs % 100 : Nat)) 0 = scaled.natAbs % 100 :=
  twoDigits_spec ⟨_, Nat.mod_lt _ (by decide)⟩

theorem cents_unscale100 (fits : Fits scaled) : cents (unscale100 scaled) = scaled := by
  obtain ⟨-, length, digits⟩ := hundredth_spec scaled
  rw [unscale100_eq fits, cents_written, take_left' length, digits]
  by_cases negative : scaled < 0
  · simp only [negative, decide_true, if_true]
    omega
  · simp only [negative, decide_false, Bool.false_eq_true, if_false]
    omega

theorem twoDecimals_unscale100 (fits : Fits scaled) : TwoDecimals (unscale100 scaled) := by
  obtain ⟨digits, length, -⟩ := hundredth_spec scaled
  rw [unscale100_eq fits, TwoDecimals, parts_written.1, parts_written.2, length]
  refine ⟨all_eq_true.mpr fun _ => ?_, (Bool.and_eq_true_iff.mp digits).2, le_refl 2⟩
  exact Nat.isDigit_of_mem_toDigits (by decide) (le_refl 10)

theorem value_unscale100 (fits : Fits scaled) : value (unscale100 scaled) = scaled / 100 := by
  have scales := cents_eq (twoDecimals_unscale100 fits).2.2
  rw [cents_unscale100 fits] at scales
  linarith

/-- Zeros behind the two decimals change nothing. -/
theorem unscale100_zeros (fits : Fits scaled) :
    cents (unscale100 scaled ++ "00".toList) = scaled ∧
      value (unscale100 scaled ++ "00".toList) = scaled / 100 := by
  obtain ⟨-, length, digits⟩ := hundredth_spec scaled
  have longer : unscale100 scaled ++ "00".toList =
      written (decide (scaled < 0)) (scaled.natAbs / 100)
        (twoDigits (scaled.natAbs % 100 : Nat) ++ "00".toList) := by
    simp [unscale100_eq fits, written]
  have sameCents := cents_unscale100 fits
  have sameValue := value_unscale100 fits
  rw [unscale100_eq fits, cents_written, take_left' length] at sameCents
  rw [unscale100_eq fits, value_written, length] at sameValue
  constructor
  · rw [longer, cents_written, append_assoc, take_left' length, sameCents]
  · have grown : Nat.ofDigitChars 10 (twoDigits (scaled.natAbs % 100 : Nat) ++ "00".toList) 0 =
        100 * Nat.ofDigitChars 10 (twoDigits (scaled.natAbs % 100 : Nat)) 0 := by
      rw [Nat.ofDigitChars_append]
      exact Nat.ofDigitChars_replicate_zero (n := 2)
    have two : "00".toList.length = 2 := rfl
    rw [longer, value_written, grown, length_append, length, two, ← sameValue]
    push_cast
    ring

/-! ## The operations -/

theorem scale100_unscale100 (fits : Fits scaled) : scale100 (unscale100 scaled) = scaled := by
  have same := cents_unscale100 fits
  rw [scale100_of_fits (by rwa [same]), same]

/-- A quotient is rounded if the shell can add half the divisor to it. -/
theorem roundedDiv_eq {num : Int} {den : Nat} (positive : 0 < den)
    (fits : Fits (|num| + (den / 2 : Nat))) : roundedDiv num den = halfAway (num / den) := by
  have half : (den : Int).tdiv 2 = (den / 2 : Nat) := rfl
  have wide : (0 : ℚ) < den := by exact_mod_cast positive
  unfold roundedDiv halfAway
  rw [half]
  by_cases sign : 0 ≤ num
  · have above : (0 : ℚ) ≤ num / den := div_nonneg (by exact_mod_cast sign) wide.le
    rw [abs_of_nonneg sign] at fits
    rw [if_pos sign, if_pos above, floor_half positive, shell_of_fits fits,
      Int.tdiv_eq_ediv_of_nonneg (by omega)]
  · have below : (num : ℚ) / den < 0 :=
      div_neg_of_neg_of_pos (by exact_mod_cast not_le.mp sign) wide
    have opposite : num - (den / 2 : Nat) = -(-num + (den / 2 : Nat)) := by omega
    rw [abs_of_neg (not_le.mp sign)] at fits
    have same : -((num : ℚ) / den) = (-num : Int) / den := by push_cast; ring
    rw [if_neg sign, if_neg (not_le.mpr below), same, floor_half positive, opposite,
      shell_of_fits (by rwa [Fits, abs_neg]), Int.neg_tdiv, Int.tdiv_eq_ediv_of_nonneg (by omega)]

theorem fits_of_wider {extra : Int} (more : 0 ≤ extra) (fits : Fits (|scaled| + extra)) :
    Fits scaled := by
  have bounded := (abs_lt.mp fits).2
  unfold Fits
  linarith

theorem fits_roundedDiv {num : Int} {den : Nat} (positive : 0 < den)
    (fits : Fits (|num| + (den / 2 : Nat))) : Fits (roundedDiv num den) := by
  have bounded := fits_of_wider (Int.natCast_nonneg _) fits
  have within : |(num : ℚ) / den| ≤ (|num| : Int) := by
    rw [abs_div, Nat.abs_cast, Int.cast_abs]
    exact div_le_self (abs_nonneg _) (by exact_mod_cast positive)
  rw [roundedDiv_eq positive fits]
  refine (abs_le.mpr ⟨le_halfAway ?_, halfAway_le (abs_le.mp within).2⟩).trans_lt bounded
  rw [Int.cast_neg]
  exact (abs_le.mp within).1

section

variable (firstFits : Fits (cents first)) (secondFits : Fits (cents second))
include firstFits secondFits

theorem cents_floatAdd (fits : Fits (cents first + cents second)) :
    cents (floatAdd first second) = cents first + cents second := by
  rw [floatAdd, scale100_of_fits firstFits, scale100_of_fits secondFits, shell_of_fits fits,
    (unscale100_zeros fits).1]

theorem value_floatAdd (fits : Fits (cents first + cents second)) :
    value (floatAdd first second) = (cents first + cents second : Int) / 100 := by
  rw [floatAdd, scale100_of_fits firstFits, scale100_of_fits secondFits, shell_of_fits fits,
    (unscale100_zeros fits).2]

theorem floatRange_eq (fits : Fits (cents first - cents second)) :
    floatRange first second = unscale100 (cents first - cents second) := by
  rw [floatRange, scale100_of_fits firstFits, scale100_of_fits secondFits, shell_of_fits fits]

theorem floatLe_iff : floatLe first second = true ↔ cents first ≤ cents second := by
  rw [floatLe, scale100_of_fits firstFits, scale100_of_fits secondFits, decide_eq_true_iff]

theorem baselineBlend_eq
    (fits : Fits (|cents first * (100 - BASELINE_ALPHA_PERCENT) +
      cents second * BASELINE_ALPHA_PERCENT| + 50)) :
    baselineBlend first second =
      unscale100 (roundedDiv (cents first * (100 - BASELINE_ALPHA_PERCENT) +
        cents second * BASELINE_ALPHA_PERCENT) (100 : Nat)) := by
  rw [baselineBlend, scale100_of_fits firstFits, scale100_of_fits secondFits,
    shell_of_fits (fits_of_wider (by decide : (0 : Int) ≤ 50) fits)]
  rfl

end

/--
Writing and reading a number that fits changes nothing, and on numbers that
fit, together with what is computed from them, the operations are exact, or
rounded to two decimals with halves away from zero.
-/
theorem decimal_operations_exact :
    (∀ scaled, Fits scaled → scale100 (unscale100 scaled) = scaled) ∧
      ∀ first second, TwoDecimals first → TwoDecimals second → Fits (cents first) →
        Fits (cents second) →
        (Fits (cents first + cents second) →
          value (floatAdd first second) = value first + value second) ∧
        (Fits (cents first - cents second) →
          value (floatRange first second) = value first - value second) ∧
        (floatGe first second = true ↔ value second ≤ value first) ∧
        (floatLe first second = true ↔ value first ≤ value second) ∧
        (∀ count : Nat, 0 < count → Fits (|cents first| + (count / 2 : Nat)) →
          value (floatAverage first count) = halfAway (100 * (value first / count)) / 100) ∧
        (Fits (|cents first * (100 - BASELINE_ALPHA_PERCENT) +
            cents second * BASELINE_ALPHA_PERCENT| + 50) →
          value (baselineBlend first second) =
            halfAway (100 * ((value first * (100 - BASELINE_ALPHA_PERCENT) +
              value second * BASELINE_ALPHA_PERCENT) / 100)) / 100) := by
  refine ⟨fun _ => scale100_unscale100, fun first second short short' fits fits' => ?_⟩
  have scales := cents_eq short.2.2
  have scales' := cents_eq short'.2.2
  refine ⟨fun sum => ?_, fun sum => ?_, ?_, ?_, fun count positive wide => ?_, fun wide => ?_⟩
  · rw [value_floatAdd fits fits' sum]
    push_cast
    linarith
  · rw [floatRange_eq fits fits' sum, value_unscale100 sum]
    push_cast
    linarith
  · refine (floatLe_iff fits' fits).trans ?_
    rw [← Int.cast_le (R := ℚ), scales, scales']
    constructor <;> intro <;> linarith
  · refine (floatLe_iff fits fits').trans ?_
    rw [← Int.cast_le (R := ℚ), scales, scales']
    constructor <;> intro <;> linarith
  · have bounded := scale100_of_fits fits
    rw [floatAverage, if_neg positive.ne', bounded,
      value_unscale100 (fits_roundedDiv positive wide), roundedDiv_eq positive wide, scales,
      mul_div_assoc]
  · have half : Fits (|cents first * (100 - BASELINE_ALPHA_PERCENT) +
        cents second * BASELINE_ALPHA_PERCENT| + (100 / 2 : Nat)) := wide
    rw [baselineBlend_eq fits fits' wide, value_unscale100 (fits_roundedDiv (by decide) half),
      roundedDiv_eq (by decide) half]
    push_cast
    rw [scales, scales']
    congr 3
    ring

theorem decibels_exact :
    let weak := "-71.5".toList
    let strong := "-68.25".toList
    value (floatAdd weak strong) = value weak + value strong ∧
      (floatGe strong weak = true ↔ value weak ≤ value strong) := by
  intro weak strong
  have exactly := decimal_operations_exact.2
  have first : TwoDecimals weak := ⟨by decide, by decide, by decide⟩
  have second : TwoDecimals strong := ⟨by decide, by decide, by decide⟩
  have fits : Fits (cents weak) := by unfold Fits; decide +kernel
  have fits' : Fits (cents strong) := by unfold Fits; decide +kernel
  refine ⟨(exactly _ _ first second fits fits').1 ?_, (exactly _ _ second first fits' fits).2.2.1⟩
  unfold Fits
  decide +kernel

/-- From two to the sixty-third hundredths on, a number is read as a negative one. -/
theorem floatLe_wraps :
    TwoDecimals "92233720368547758.08".toList ∧ TwoDecimals "0".toList ∧
      floatLe "92233720368547758.08".toList "0".toList = true ∧
      ¬ value "92233720368547758.08".toList ≤ value "0".toList := by
  refine ⟨?_, ?_, ?_, ?_⟩
  · exact ⟨by decide, by decide, by decide⟩
  · exact ⟨by decide, by decide, by decide⟩
  · decide +kernel
  · decide +kernel

end DeskUnlock.Proximity
