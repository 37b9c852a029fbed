import Mathlib.Data.Vector.Basic

/-!
# HKDF

RFC 5869 without a salt, for a keyed hash whose results all have one size.
-/

namespace Hkdf

variable {size : ℕ} (hmac : List UInt8 → List UInt8 → List.Vector UInt8 size)

/-- A salt that is not given is a string of zeros. -/
def extract (ikm : List UInt8) : List UInt8 := (hmac (List.replicate size 0) ikm).toList

variable (prk info : List UInt8)

/-- `T(n)`. -/
def block : ℕ → List UInt8
  | 0 => []
  | n + 1 => (hmac prk (block n ++ info ++ [UInt8.ofNat (n + 1)])).toList

/-- `T(1) | … | T(n)`. -/
def blocks : ℕ → List UInt8
  | 0 => []
  | n + 1 => blocks n ++ block hmac prk info (n + 1)

/-- `HKDF-Expand`: the counter is one byte, which bounds the output. -/
def expand (length : ℕ) : Option (List UInt8) :=
  if length ≤ 255 * size then
    some ((blocks hmac prk info ((length + (size - 1)) / size)).take length)
  else none

@[simp]
theorem length_blocks {n : ℕ} : (blocks hmac prk info n).length = n * size := by
  induction n with
  | zero => simp [blocks]
  | succ n induction => simp [blocks, block, induction, Nat.succ_mul]

end Hkdf
