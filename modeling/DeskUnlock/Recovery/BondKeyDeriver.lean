import DeskUnlock.Foundation.Hkdf
import DeskUnlock.Pairing.PhoneExchange
import DeskUnlock.Recovery.BondStore

/-!
# The bond key of the phone

`HkdfPairBondKeyDeriver` of `RealPairBackendWiring.kt` has its own HKDF.  Its
loop writes one block after the other into an array of the wanted length, with
a counter that is cut to a byte.  Up to 255 blocks this is the expansion of
RFC 5869, so both sides of a pairing derive one key.
-/

namespace DeskUnlock.Recovery

open List

open Pairing (Pubkey)
open Pairing.Phone (PAIR_BOND_KEY_LEN)

/-- `System.arraycopy` from the start of `source`. -/
def arraycopy (source target : List UInt8) (pos count : Nat) : List UInt8 :=
  target.take pos ++ source.take count ++ target.drop (pos + count)

section

variable (hmac : List UInt8 → List UInt8 → List.Vector UInt8 32)

section

variable (prk info : List UInt8) (length : Nat)

def expandLoop (out : List UInt8) (written : Nat) (prev : List UInt8) (counter : Nat) :
    List UInt8 :=
  if written < length then
    let prev := hmac prk (prev ++ info ++ [UInt8.ofNat counter])
    let take := min prev.length (length - written)
    expandLoop (arraycopy prev.toList out written take) (written + take) prev.toList (counter + 1)
  else out
termination_by length - written
decreasing_by
  rw [List.Vector.length]
  omega

end

def hkdfSha256 (ikm info : List UInt8) (length : Nat) : List UInt8 :=
  let zeroSalt := List.replicate 32 0
  let prk := hmac zeroSalt ikm
  expandLoop hmac prk.toList info length (List.replicate length 0) 0 [] 1

def HkdfPairBondKeyDeriver.derive (hostPubkey phonePubkey : List UInt8) : List UInt8 :=
  hkdfSha256 hmac (hostPubkey ++ phonePubkey) BOND_HKDF_INFO_V1 PAIR_BOND_KEY_LEN

/-- The `hkdf` crate, as far as it implements RFC 5869. -/
def Primitives.withRfc5869 (libs : Primitives) : Primitives :=
  { libs with
    hkdf := fun ikm info =>
      (Hkdf.expand hmac (Hkdf.extract hmac ikm) info BOND_KEY_DERIVED_BYTES).bind fun key =>
        if sized : key.length = BOND_KEY_DERIVED_BYTES then some ⟨key, sized⟩ else none }

variable (prk info : List UInt8) (length : Nat)

/-- After `n` blocks the array begins with them, as far as there is room. -/
theorem expandLoop_eq (n : Nat) (within : n ≤ (length + 31) / 32) (out : List UInt8)
    (sized : out.length = length)
    (filled : out.take (min (n * 32) length) = (Hkdf.blocks hmac prk info n).take length) :
    expandLoop hmac prk info length out (min (n * 32) length) (Hkdf.block hmac prk info n) (n + 1) =
      (Hkdf.blocks hmac prk info ((length + 31) / 32)).take length := by
  induction left : (length + 31) / 32 - n generalizing n out with
  | zero =>
    have last : n = (length + 31) / 32 := by omega
    rw [expandLoop, if_neg (by omega), ← last, ← filled, take_of_length_le (by omega)]
  | succ left induction =>
    have room : n * 32 < length := by omega
    have whole : (Hkdf.blocks hmac prk info n).take length = Hkdf.blocks hmac prk info n :=
      take_of_length_le (by simpa using room.le)
    have written : n * 32 + min 32 (length - n * 32) = min ((n + 1) * 32) length := by omega
    rw [min_eq_left room.le] at filled ⊢
    rw [expandLoop, if_pos room]
    dsimp only [Vector.length]
    rw [written]
    apply induction (n + 1) (by omega) _ _ _ (by omega)
    · simp only [arraycopy, length_append, length_take, length_drop, Vector.toList_length]
      omega
    · rw [arraycopy, filled, take_left']
      · rw [Hkdf.blocks, take_append, whole, Hkdf.length_blocks]
        congr 1
        rw [Hkdf.block, take_eq_take_iff, Vector.toList_length]
        omega
      · simp only [length_append, length_take, Hkdf.length_blocks, Vector.toList_length]
        omega

/-- The loop of the phone is the expansion of RFC 5869. -/
theorem expand_extract_eq {ikm : List UInt8} (short : length ≤ 255 * 32) :
    Hkdf.expand hmac (Hkdf.extract hmac ikm) info length =
      some (hkdfSha256 hmac ikm info length) := by
  have loop :=
    expandLoop_eq hmac (Hkdf.extract hmac ikm) info length 0 (Nat.zero_le _)
      (.replicate length 0) (by simp) (by simp [Hkdf.blocks])
  rw [Hkdf.expand, if_pos short, ← loop]
  rfl

/--
For all public keys the phone and the desktop derive the same bond key, and
for every info and every length of at most 255 blocks the loop of the phone is
the expansion of RFC 5869.
-/
theorem derive_eq_bondKeyFromPubkeys (libs : Primitives) :
    (∀ hostPubkey phonePubkey : Pubkey,
      HkdfPairBondKeyDeriver.derive hmac hostPubkey.toList phonePubkey.toList =
        ((libs.withRfc5869 hmac).bondKeyFromPubkeys hostPubkey phonePubkey).toList) ∧
      ∀ ikm info length, length ≤ 255 * 32 →
        Hkdf.expand hmac (Hkdf.extract hmac ikm) info length =
          some (hkdfSha256 hmac ikm info length) := by
  refine ⟨?_, fun ikm info length short => expand_extract_eq _ _ _ short⟩
  intro hostPubkey phonePubkey
  have derived : Hkdf.expand hmac (Hkdf.extract hmac (hostPubkey.toList ++ phonePubkey.toList))
          BOND_HKDF_INFO_V1 BOND_KEY_DERIVED_BYTES =
        some (HkdfPairBondKeyDeriver.derive hmac hostPubkey.toList phonePubkey.toList) :=
    expand_extract_eq _ _ _ (by decide)
  have sized : (HkdfPairBondKeyDeriver.derive hmac hostPubkey.toList phonePubkey.toList).length =
      BOND_KEY_DERIVED_BYTES := by
    rw [← Option.some.inj derived, length_take, Hkdf.length_blocks]
    rfl
  simp only [Primitives.bondKeyFromPubkeys, Primitives.withRfc5869, derived, Option.bind_some]
  rw [dif_pos sized]
  rfl

end

end DeskUnlock.Recovery
