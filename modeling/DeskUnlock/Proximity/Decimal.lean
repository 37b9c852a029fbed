import DeskUnlock.Foundation.Text

/-!
# Decimal numbers of the proximity engine

Signal strengths are decimal texts.  The engine computes with them in the
integer arithmetic of the shell, on values scaled by one hundred, so every
operation below goes from texts to texts through `scale100` and
`unscale100`.
-/

namespace DeskUnlock.Proximity

open Texts

/-- The number of values of 64 bits. -/
def SHELL_VALUES : Nat := 18446744073709551616

/-- A value as the shell keeps it, in two's complement. -/
def shell (value : Int) : Int := Int.bmod value SHELL_VALUES

def integerText (value : Int) : Text :=
  if value < 0 then '-' :: Nat.toDigits 10 value.natAbs else Nat.toDigits 10 value.natAbs

/-- The format `%02d`. -/
def twoDigits (value : Int) : Text :=
  if (integerText value).length < 2 then '0' :: integerText value else integerText value

variable (text : Text)

/-- The pattern `[0-9]+`. -/
def isDigits : Bool := !text.isEmpty && text.all Char.isDigit

def stripSign (sign : Char) : Text → Text
  | [] => []
  | char :: rest => if char = sign then rest else char :: rest

def integerPart : Text := text.takeWhile (· != '.')

/-- What stands behind the first decimal point, and nothing without one. -/
def fractionPart : Text := (text.dropWhile (· != '.')).drop 1

/-- The pattern `-?[0-9]+([.][0-9]+)?`. -/
def isDecimal : Bool :=
  isDigits (integerPart (stripSign '-' text)) &&
    ('.' ∉ text || isDigits (fractionPart (stripSign '-' text)))

/-- One hundred times a number without a sign, cut to two decimals. -/
def scaleMagnitude : Nat :=
  Nat.ofDigitChars 10 (integerPart text) 0 * 100 +
    Nat.ofDigitChars 10 ((fractionPart text ++ "00".toList).take 2) 0

/-- One hundred times a decimal number, cut to two decimals. -/
def scale100 : Int :=
  if text.head? = some '-' then shell (-scaleMagnitude (stripSign '+' (stripSign '-' text)))
  else shell (scaleMagnitude (stripSign '+' text))

def hundredths (scaled : Int) : Text :=
  integerText (scaled.tdiv 100) ++ '.' :: twoDigits (scaled.tmod 100)

def unscale100 (scaled : Int) : Text :=
  if scaled < 0 then '-' :: hundredths (shell (-scaled)) else hundredths scaled

/-- A quotient, rounded with halves away from zero. -/
def roundedDiv (num den : Int) : Int :=
  if 0 ≤ num then (shell (num + den.tdiv 2)).tdiv den else (shell (num - den.tdiv 2)).tdiv den

variable (first second : Text)

def floatAdd : Text := unscale100 (shell (scale100 first + scale100 second)) ++ "00".toList

def floatAverage (sum : Text) (count : Nat) : Text :=
  if count = 0 then "0.00".toList else unscale100 (roundedDiv (scale100 sum) count)

def floatRange : Text := unscale100 (shell (scale100 first - scale100 second))

def floatDelta : Text := floatRange first second

def floatGe : Bool := decide (scale100 second ≤ scale100 first)

def floatLe : Bool := decide (scale100 first ≤ scale100 second)

def BASELINE_ALPHA_PERCENT : Int := 5

/-- The baseline moves a small part of the way to the sample. -/
def baselineBlend (old sample : Text) : Text :=
  unscale100
    (roundedDiv
      (shell
        (scale100 old * (100 - BASELINE_ALPHA_PERCENT) + scale100 sample * BASELINE_ALPHA_PERCENT))
      100)

example : baselineBlend "-60".toList "-61.5".toList = "-60.08".toList := by decide +kernel

end DeskUnlock.Proximity
