import DeskUnlock.Foundation.BigEndian
import DeskUnlock.Unlock.Peripheral

/-!
# The rotating session UUIDs

`rotate_once` and `run` of `syauth-presenced/src/orchestrator.rs`, and the scan
filters of the phone, which derives the same UUIDs from its own clock with
`session_uuid_for_bond` of `syauth-mobile`.

Times are nanoseconds after the epoch.  A tick is due at a fixed time and may
be served later; what this leaves of a minute is what the clocks may differ by.
-/

namespace DeskUnlock.Unlock

open Runs List
open Pairing (Bytes)
open Recovery (BondKey)

def SECONDS_PER_MINUTE : Nat := 60

/-- In a second. -/
def NANOS : Nat := 1000000000

/-- `as_secs` since the epoch. -/
def asSecs (now : Nat) : Nat := now / NANOS

/-- In seconds. -/
def alignToNextMinute (now : Nat) : Nat := SECONDS_PER_MINUTE - asSecs now % SECONDS_PER_MINUTE

def minuteIndex (now : Nat) : Nat := asSecs now / SECONDS_PER_MINUTE

def PAIR_MODE_ZERO_BOND_KEY : BondKey := List.Vector.replicate _ 0

def PAIR_FILTER_FUTURE_SLOTS : Nat := 4

variable (expand : SessionHkdf)

def slotUuid (bondKey : BondKey) (minute : Int) : Uuid :=
  uuidFromBytes (sessionUuidFor expand bondKey minute)

def buildUuidUnion (peers : List BondKey) (minute : Int) : List Uuid :=
  (PAIR_MODE_ZERO_BOND_KEY :: peers).map (slotUuid expand · minute)

/-! ## The phone -/

/-- `session_uuid_for_bond`, which throws where the expansion fails. -/
def sessionUuidForBond (bondKey : BondKey) (minute : Int) : Option Bytes :=
  (expand bondKey (HKDF_INFO_SESSION_V1 ++ minuteBytes minute)).map (·.toList)

/-- Half of a `java.util.UUID`; a byte is widened with its sign and masked. -/
def javaLong (bytes : Bytes) : BitVec 64 :=
  BigEndian.shiftIn bytes fun byte => byte.toBitVec.signExtend 64 &&& 0xff

/-- `uuidFromBytes` and `pairUuidFromBytes`. -/
def javaUuid (bytes : Bytes) : Uuid :=
  if bytes.length ≠ SESSION_UUID_BYTES then 0
  else (javaLong (bytes.take 8) ++ javaLong (bytes.drop 8) : BitVec (64 + 64))

section

variable (sessionUuidLookup : BondKey → Int → Bytes)

def slotUuidsFor (bondKey : BondKey) (nowEpochSeconds : Nat) : List Uuid :=
  let currentMinute : Int := (nowEpochSeconds / SECONDS_PER_MINUTE : Nat)
  let previousMinute := currentMinute - 1
  [javaUuid (sessionUuidLookup bondKey currentMinute),
    javaUuid (sessionUuidLookup bondKey previousMinute)]

def pairModeUuidsFor (nowEpochSeconds : Nat) : List Uuid :=
  let currentMinute : Int := (nowEpochSeconds / SECONDS_PER_MINUTE : Nat)
  let previousMinute := currentMinute - 1
  (range (2 + PAIR_FILTER_FUTURE_SLOTS)).map fun offset : Nat =>
    javaUuid (sessionUuidLookup PAIR_MODE_ZERO_BOND_KEY (previousMinute + offset))

end

theorem toNat_javaLong {bytes : Bytes} (sized : bytes.length = 8) :
    (javaLong bytes).toNat = BigEndian.decode bytes := by
  apply BigEndian.toNat_shiftIn
  · intro byte
    have masked : byte.toBitVec.signExtend 64 &&& 0xff = byte.toBitVec.zeroExtend 64 := by
      generalize byte.toBitVec = word
      revert word
      decide +kernel
    rw [masked]
    simp
  · rw [sized]

/-- The two halves are the bytes in order. -/
theorem javaUuid_eq (bytes : List.Vector UInt8 SESSION_UUID_BYTES) :
    javaUuid bytes.toList = uuidFromBytes bytes := by
  have sized : bytes.toList.length = 16 := bytes.toList_length
  have first : (bytes.toList.take 8).length = 8 := by simp [sized]
  have second : (bytes.toList.drop 8).length = 8 := by simp [sized]
  have whole : (uuidFromBytes bytes).toNat = BigEndian.decode bytes.toList := by
    apply BigEndian.toNat_shiftIn
    · intro byte
      have fits : byte.toNat < 2 ^ 128 := byte.toNat_lt.trans (by decide)
      simpa using fits
    · rw [sized]
  have small : BigEndian.decode (bytes.toList.drop 8) < 2 ^ 64 := by
    have bound := BigEndian.decode_lt (bytes.toList.drop 8)
    rwa [second] at bound
  apply BitVec.eq_of_toNat_eq
  rw [whole, ← take_append_drop 8 bytes.toList, BigEndian.decode_append, take_append_drop, second,
    javaUuid, if_neg (not_not.mpr bytes.toList_length), show 256 ^ 8 = 2 ^ 64 from rfl]
  rw [BitVec.toNat_append, toNat_javaLong first, toNat_javaLong second,
    ← Nat.shiftLeft_add_eq_or_of_lt small, Nat.shiftLeft_eq]

/-! ## The desktop -/

/-- The rotation task and what it has advertised. -/
structure Rotation where
  clock : Nat
  /-- When the interval ticks next. -/
  due : Nat
  /-- The bond keys of the live peers. -/
  peers : List BondKey
  advertised : Option (List Uuid)

namespace Rotation

inductive Event where
  | elapse (nanos : Nat)
  | tick (accepted : Bool)
  /-- A reload leaves these peers. -/
  | reload (peers : List BondKey) (accepted : Bool)

/-- The old advertisement is taken down before the adapter answers. -/
def rotateOnce (rot : Rotation) (accepted : Bool) : Rotation :=
  { rot with
    advertised :=
      if accepted then some (buildUuidUnion expand rot.peers (minuteIndex rot.clock)) else none }

/-- `run` is entered some time after the interval was aligned. -/
def start (boot wait : Nat) (seed : List BondKey) (accepted : Bool) : Rotation :=
  rotateOnce expand ⟨boot + wait, boot + alignToNextMinute boot * NANOS, seed, none⟩ accepted

/-- Time passes, the interval ticks, or the bonds are reloaded. -/
def step (rot : Rotation) : Event → Rotation
  | .elapse nanos => { rot with clock := rot.clock + nanos }
  | .tick accepted =>
    if rot.due ≤ rot.clock then
      { rot.rotateOnce expand accepted with due := rot.due + SECONDS_PER_MINUTE * NANOS }
    else rot
  | .reload peers accepted => { rot with peers := peers }.rotateOnce expand accepted

/-- Each tick is served within the delay, and the adapter takes each advertisement. -/
def Punctual (delay : Nat) (rot : Rotation) : Event → Prop
  | .elapse nanos => rot.clock + nanos < rot.due + delay
  | .tick accepted | .reload _ accepted => accepted = true

/-- The advertised minute has begun, and the next tick falls into the one after it or earlier. -/
structure Fresh (delay : Nat) (rot : Rotation) (minute : Nat) : Prop where
  shown : rot.advertised = some (buildUuidUnion expand rot.peers minute)
  begun : minute ≤ minuteIndex rot.clock
  next : minuteIndex rot.due ≤ minute + 1
  aligned : asSecs rot.due % SECONDS_PER_MINUTE = 0
  punctual : rot.clock < rot.due + delay

variable {expand} {delay : Nat} {rot : Rotation}

theorem Fresh.step {minute : Nat} (fresh : rot.Fresh expand delay minute) {ev : Event}
    (met : rot.Punctual delay ev) : ∃ minute, (rot.step expand ev).Fresh expand delay minute := by
  obtain ⟨shown, begun, next, aligned, punctual⟩ := fresh
  cases ev with
  | elapse nanos =>
    refine ⟨minute, shown, begun.trans ?_, next, aligned, met⟩
    exact Nat.div_le_div_right (Nat.div_le_div_right (Nat.le_add_right _ _))
  | tick accepted =>
    cases met
    rw [Rotation.step]
    split_ifs with due
    · refine ⟨_, rfl, le_rfl, ?_, ?_, ?_⟩
      all_goals
        simp only [rotateOnce, minuteIndex, asSecs, SECONDS_PER_MINUTE, NANOS] at aligned ⊢
        omega
    · exact ⟨minute, shown, begun, next, aligned, punctual⟩
  | reload peers accepted =>
    cases met
    exact ⟨_, rfl, le_rfl, next.trans (Nat.succ_le_succ begun), aligned, punctual⟩

/-- The minute of the phone is the advertised one or the next. -/
theorem Fresh.minute_phone {minute phone ahead : Nat} (fresh : rot.Fresh expand delay minute)
    (slack : delay + ahead ≤ 59 * NANOS) (near : phone ≤ rot.clock + ahead) :
    minuteIndex phone ≤ minute + 1 := by
  obtain ⟨-, begun, next, aligned, punctual⟩ := fresh
  simp only [minuteIndex, asSecs, SECONDS_PER_MINUTE, NANOS] at *
  omega

/-- What the library answers, both sides make the same UUID of. -/
theorem javaUuid_lookup {sessionUuidLookup : BondKey → Int → Bytes} {bondKey : BondKey}
    {minute : Int}
    (answers : sessionUuidForBond expand bondKey minute = some (sessionUuidLookup bondKey minute)) :
    javaUuid (sessionUuidLookup bondKey minute) = slotUuid expand bondKey minute := by
  obtain ⟨bytes, expanded, same⟩ := Option.map_eq_some_iff.mp answers
  unfold slotUuid sessionUuidFor
  rw [expanded, ← same, javaUuid_eq]
  rfl

/--
The phone finds its desktop: with a clock that is ahead by what the delay
leaves, and for pairing also with one that is up to four minutes behind.  The
same minute gives the same UUID on both sides.
-/
theorem advertised_accepted {sessionUuidLookup : BondKey → Int → Bytes}
    (answers : ∀ bondKey minute,
      sessionUuidForBond expand bondKey minute = some (sessionUuidLookup bondKey minute))
    {boot wait ahead : Nat} {seed : List BondKey}
    {events : List Event} (slack : delay + ahead ≤ 59 * NANOS)
    (prompt : wait < alignToNextMinute boot * NANOS + delay)
    (along : Along (step expand) (Punctual delay) (start expand boot wait seed true) events) :
    let rot := run (step expand) (start expand boot wait seed true) events
    (∀ bondKey minute,
      javaUuid (sessionUuidLookup bondKey minute) = slotUuid expand bondKey minute) ∧
    ∃ minute : Nat,
      rot.advertised = some (buildUuidUnion expand rot.peers minute) ∧
        ∀ phone ≤ rot.clock + ahead,
          (rot.clock ≤ phone → ∀ bondKey,
            slotUuid expand bondKey minute ∈
              slotUuidsFor sessionUuidLookup bondKey (asSecs phone)) ∧
          (rot.clock ≤ phone + 240 * NANOS →
            slotUuid expand PAIR_MODE_ZERO_BOND_KEY minute ∈
              pairModeUuidsFor sessionUuidLookup (asSecs phone)) := by
  intro rot
  have agree (bondKey : BondKey) (minute : Int) :
      javaUuid (sessionUuidLookup bondKey minute) = slotUuid expand bondKey minute :=
    javaUuid_lookup (answers _ _)
  have initial : ∃ minute, (start expand boot wait seed true).Fresh expand delay minute := by
    refine ⟨_, rfl, le_rfl, ?_, ?_, ?_⟩
    all_goals
      simp only [start, rotateOnce, minuteIndex, asSecs, alignToNextMinute, SECONDS_PER_MINUTE,
        NANOS] at prompt ⊢
      omega
  obtain ⟨minute, fresh⟩ : ∃ minute, rot.Fresh expand delay minute :=
    (@throughout_of_along _ _ _ _ (fun rot => ∃ minute, rot.Fresh expand delay minute)
      (fun _ _ met ⟨_, fresh⟩ => fresh.step met) _ initial _ along).last
  refine ⟨agree, minute, fresh.shown, fun phone near => ?_⟩
  have upper := fresh.minute_phone slack near
  have begun := fresh.begun
  constructor
  · intro later bondKey
    have lower : minuteIndex rot.clock ≤ minuteIndex phone :=
      Nat.div_le_div_right (Nat.div_le_div_right later)
    obtain same | same : minute = minuteIndex phone ∨ minute = (minuteIndex phone : Int) - 1 := by
      omega
    · exact same ▸ agree _ _ ▸ mem_cons_self
    · exact same ▸ agree _ _ ▸ mem_cons_of_mem _ mem_cons_self
  · intro recent
    have lower : minute ≤ minuteIndex phone + 4 := by
      simp only [minuteIndex, asSecs, SECONDS_PER_MINUTE, NANOS] at *
      omega
    refine mem_map.mpr ⟨minute + 1 - minuteIndex phone, mem_range.mpr ?_, ?_⟩
    · rw [PAIR_FILTER_FUTURE_SLOTS]
      omega
    · rw [← minuteIndex, agree]
      congr 1
      omega

/-- An expansion to the bytes of the minute and the start of the key. -/
def minuteHkdf : SessionHkdf := fun bondKey info =>
  some ⟨(info.drop HKDF_INFO_SESSION_V1.length ++ bondKey.toList).take 8 ++ bondKey.toList.take 8,
    by
      have sized : bondKey.toList.length = 32 := bondKey.toList_length
      simp [sized, SESSION_UUID_BYTES]⟩

def minuteLookup (bondKey : BondKey) (minute : Int) : Bytes :=
  (sessionUuidFor minuteHkdf bondKey minute).toList

def pairedKey : BondKey := .replicate _ 5

/-- Started half a second into a minute; the next tick is not yet served. -/
def lateRotation : Rotation :=
  run (step minuteHkdf) (start minuteHkdf 500000000 0 [pairedKey] true) [.elapse 60700000000]

/-- A phone that is ahead by 58 seconds finds the UUIDs of its bond and of pairing. -/
theorem lateRotation_accepted :
    ∃ minute : Nat,
      lateRotation.advertised = some (buildUuidUnion minuteHkdf [pairedKey] minute) ∧
        slotUuid minuteHkdf pairedKey minute ∈
          slotUuidsFor minuteLookup pairedKey (asSecs (lateRotation.clock + 58 * NANOS)) ∧
        slotUuid minuteHkdf PAIR_MODE_ZERO_BOND_KEY minute ∈
          pairModeUuidsFor minuteLookup (asSecs (lateRotation.clock + 58 * NANOS)) := by
  obtain ⟨-, minute, shown, found⟩ :=
    @advertised_accepted minuteHkdf NANOS minuteLookup (fun _ _ => rfl) 500000000 0 (58 * NANOS)
      [pairedKey] [.elapse 60700000000] (by decide) (by decide)
      ⟨by unfold Punctual; decide, trivial⟩
  obtain ⟨slots, pairing⟩ := found (lateRotation.clock + 58 * NANOS) le_rfl
  refine ⟨minute, shown, slots (Nat.le_add_right _ _) _, pairing ?_⟩
  exact (Nat.le_add_right _ _).trans (Nat.le_add_right _ _)

/-- A phone that is ahead by 59 seconds is two minutes further, and finds neither. -/
theorem lateRotation_missed :
    Along (step minuteHkdf) (Punctual NANOS) (start minuteHkdf 500000000 0 [pairedKey] true)
        [.elapse 60700000000] ∧
      lateRotation.advertised = some (buildUuidUnion minuteHkdf [pairedKey] 0) ∧
      slotUuid minuteHkdf pairedKey 0 ∉
        slotUuidsFor minuteLookup pairedKey (asSecs (lateRotation.clock + 59 * NANOS)) ∧
      slotUuid minuteHkdf PAIR_MODE_ZERO_BOND_KEY 0 ∉
        pairModeUuidsFor minuteLookup (asSecs (lateRotation.clock + 59 * NANOS)) := by
  refine ⟨⟨by unfold Punctual; decide, trivial⟩, by decide +kernel, by decide +kernel, ?_⟩
  decide +kernel

end Rotation

end DeskUnlock.Unlock
