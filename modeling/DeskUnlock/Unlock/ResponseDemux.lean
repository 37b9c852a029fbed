import DeskUnlock.Unlock.Frame

/-!
# The response demultiplexer

The response characteristic of a bonded session carries presence heartbeats,
revocations, signal strength samples and responses to challenges.  The task of
`build_and_register_peer` in `syauth-transport/src/peripheral.rs` tells them
apart by their bytes alone, in this order.
-/

namespace DeskUnlock.Unlock

open Texts List
open Pairing (Bytes Message MESSAGE_LEN TransactionId)

def RESPONSE_READ_BUF_BYTES : Nat := 512

def PRESENCE_HEARTBEAT : Bytes := utf8 "SYAUTH-PRESENCE-v1".toList

def RSSI_TELEMETRY_PREFIX : Bytes := utf8 "SYAUTH-RSSI-v1:".toList

def revokePeerId (bytes : Bytes) : Option TransactionId :=
  match Message.decode bytes with
  | .ok msg => if msg.operation = .revoke then some msg.transaction else none
  | .error _ => none

/-- The Unicode property `White_Space`. -/
def isWhitespace (char : Char) : Bool :=
  let code := char.toNat
  (0x09 ≤ code && code ≤ 0x0D) || code = 0x20 || code = 0x85 ||
    code = 0xA0 || code = 0x1680 || (0x2000 ≤ code && code ≤ 0x200A) ||
    code = 0x2028 || code = 0x2029 || code = 0x202F || code = 0x205F || code = 0x3000

def trim (text : Text) : Text :=
  ((text.dropWhile isWhitespace).reverse.dropWhile isWhitespace).reverse

def parseNat (text : Text) : Option Nat :=
  if text ≠ [] ∧ text.all Char.isDigit then
    some (text.foldl (fun number digit => number * 10 + (digit.toNat - '0'.toNat)) 0)
  else none

/-- `str::parse::<i32>`. -/
def parseI32 (text : Text) : Option Int := do
  let number ←
    match text with
    | '-' :: digits => (parseNat digits).map fun number => -(number : Int)
    | '+' :: digits => (parseNat digits).map Int.ofNat
    | digits => (parseNat digits).map Int.ofNat
  if -2 ^ 31 ≤ number ∧ number < 2 ^ 31 then some number else none

def parseRssi (bytes : Bytes) : Option Int := do
  let value ← bytes.dropPrefix? RSSI_TELEMETRY_PREFIX
  let text ← utf8Decode? value
  let value ← parseI32 (trim text)
  if -127 ≤ value ∧ value ≤ 0 then some value else none

/-- Where the bytes of a write go. -/
inductive Routed where
  /-- An empty read ends the reader. -/
  | closed
  | heartbeat
  | revoke (peerId : TransactionId)
  | rssi (raw : Int)
  /-- The response channel that a challenge waits on. -/
  | response (bytes : Bytes)

def demultiplex (bytes : Bytes) : Routed :=
  if bytes = [] then .closed else if bytes = PRESENCE_HEARTBEAT then .heartbeat
  else
    match revokePeerId bytes with
    | some peerId => .revoke peerId
    | none =>
      match parseRssi bytes with
      | some raw => .rssi raw
      | none => .response bytes

/-- One write is one read, up to the size of the buffer. -/
def routeWrite (written : Bytes) : Routed := demultiplex (written.take RESPONSE_READ_BUF_BYTES)

/-- Only bytes of the length of a message can be a revocation. -/
theorem revokePeerId_eq_none {bytes : Bytes}
    (sized : bytes.length ≠ MESSAGE_LEN) : revokePeerId bytes = none := by
  unfold revokePeerId Message.decode
  rw [dif_neg sized]

theorem parseRssi_eq_none {bytes : Bytes} (unlike : ¬ RSSI_TELEMETRY_PREFIX <+: bytes) :
    parseRssi bytes = none := by
  unfold parseRssi
  cases found : bytes.dropPrefix? RSSI_TELEMETRY_PREFIX with
  | none => rfl
  | some rest =>
    obtain ⟨start, rfl, same⟩ := dropPrefix?_eq_some_iff.mp found
    rw [eq_of_beq same] at unlike
    exact (unlike (prefix_append _ _)).elim

/-- A signature that does not look like a sample answers the challenge. -/
theorem routeWrite_signature {sig : Signature} (unlike : ¬ RSSI_TELEMETRY_PREFIX <+: sig.toList) :
    routeWrite sig.toList = .response sig.toList := by
  have length : sig.toList.length = SIGNATURE_LEN := sig.toList_length
  have whole : sig.toList.take RESPONSE_READ_BUF_BYTES = sig.toList := by
    apply take_of_length_le
    rw [length]
    decide
  have nonempty : sig.toList ≠ [] := by
    intro empty
    rw [empty] at length
    cases length
  have silent : sig.toList ≠ PRESENCE_HEARTBEAT := by
    intro same
    rw [same] at length
    exact absurd length (by decide)
  have kept : sig.toList.length ≠ MESSAGE_LEN := by
    rw [length]
    decide
  unfold routeWrite demultiplex
  rw [whole, if_neg nonempty, if_neg silent, revokePeerId_eq_none kept, parseRssi_eq_none unlike]

end DeskUnlock.Unlock
