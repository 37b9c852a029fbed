import Mathlib.Algebra.Group.Nat.Defs
import Mathlib.Data.List.Induction

/-!
# Big-endian numbers

The bytes of a number, the most significant first, and the number that bytes
stand for.  On byte strings of one length the two are inverse to each other.
-/

namespace BigEndian

open List

def encode (width value : ℕ) : List UInt8 :=
  (List.range width).map fun i => UInt8.ofNat (value / 256 ^ (width - 1 - i))

variable (bytes : List UInt8)

def decode : ℕ := bytes.foldl (fun value byte => value * 256 + byte.toNat) 0

@[simp]
theorem length_encode (width value : ℕ) : (encode width value).length = width := by simp [encode]

theorem encode_succ {width value : ℕ} :
    encode (width + 1) value = encode width (value / 256) ++ [UInt8.ofNat value] := by
  unfold encode
  rw [range_succ, map_append]
  congr 1
  · apply map_congr_left
    intro i mem
    have inside := mem_range.mp mem
    rw [Nat.div_div_eq_div_mul, ← pow_succ']
    congr 3
    omega
  · simp

theorem decode_append_singleton {byte : UInt8} :
    decode (bytes ++ [byte]) = decode bytes * 256 + byte.toNat := by
  simp [decode]

theorem decode_encode {width value : ℕ} (small : value < 256 ^ width) :
    decode (encode width value) = value := by
  induction width generalizing value with
  | zero =>
    have none : value = 0 := by simpa using small
    simp [encode, decode, none]
  | succ width induction =>
    have quotient : value / 256 < 256 ^ width := by omega
    rw [encode_succ, decode_append_singleton, induction quotient, UInt8.toNat_ofNat']
    omega

theorem decode_lt : decode bytes < 256 ^ bytes.length := by
  induction bytes using reverseRecOn with
  | nil => decide
  | append_singleton bytes byte induction =>
    have bound := byte.toNat_lt
    rw [decode_append_singleton, length_append, length_singleton, pow_succ]
    omega

theorem encode_decode : encode bytes.length (decode bytes) = bytes := by
  induction bytes using reverseRecOn with
  | nil => rfl
  | append_singleton bytes byte induction =>
    have bound := byte.toNat_lt
    have quotient : (decode bytes * 256 + byte.toNat) / 256 = decode bytes := by omega
    have remainder : .ofNat (decode bytes * 256 + byte.toNat) = byte := by
      apply UInt8.toNat.inj
      rw [UInt8.toNat_ofNat']
      omega
    rw [length_append, length_singleton, encode_succ,
      decode_append_singleton, quotient, remainder, induction]

theorem decode_append (first second : List UInt8) :
    decode (first ++ second) = decode first * 256 ^ second.length + decode second := by
  induction second using reverseRecOn with
  | nil => simp [decode]
  | append_singleton second byte induction =>
    rw [← append_assoc, decode_append_singleton, induction, decode_append_singleton,
      length_append, length_singleton, pow_succ, Nat.add_mul, Nat.mul_assoc, Nat.add_assoc]

/-- Bytes shifted into a word one by one, the most significant first. -/
def shiftIn {width : ℕ} (widen : UInt8 → BitVec width) : BitVec width :=
  bytes.foldl (fun word byte => word <<< 8 ||| widen byte) 0

theorem toNat_shiftIn {width : ℕ} {widen : UInt8 → BitVec width}
    (wide : ∀ byte, (widen byte).toNat = byte.toNat) (fits : 8 * bytes.length ≤ width) :
    (shiftIn bytes widen).toNat = decode bytes := by
  induction bytes using reverseRecOn with
  | nil => simp [shiftIn, decode]
  | append_singleton bytes byte induction =>
    rw [length_append, length_singleton] at fits
    have small : decode bytes <<< 8 < 2 ^ width := by
      have bound := decode_lt (bytes ++ [byte])
      rw [decode_append_singleton, length_append, length_singleton] at bound
      have room : 256 ^ (bytes.length + 1) ≤ 2 ^ width := by
        rw [show 256 = 2 ^ 8 from rfl, ← pow_mul]
        exact Nat.pow_le_pow_right (by decide) fits
      rw [Nat.shiftLeft_eq]
      have shorter := Nat.le_add_right (decode bytes * 256) byte.toNat
      exact Nat.lt_of_lt_of_le (Nat.lt_of_le_of_lt shorter bound) room
    have step : shiftIn (bytes ++ [byte]) widen = shiftIn bytes widen <<< 8 ||| widen byte := by
      simp [shiftIn]
    have joined : decode bytes <<< 8 ||| byte.toNat = decode bytes <<< 8 + byte.toNat :=
      (Nat.shiftLeft_add_eq_or_of_lt byte.toNat_lt _).symm
    rw [step, BitVec.toNat_or, BitVec.toNat_shiftLeft, induction (by omega), wide,
      Nat.mod_eq_of_lt small, joined, Nat.shiftLeft_eq, decode_append_singleton]

end BigEndian
