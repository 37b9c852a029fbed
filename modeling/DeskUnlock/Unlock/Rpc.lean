import DeskUnlock.Foundation.Dialogue
import DeskUnlock.Unlock.Frame

/-!
# Calls over the socket

`syauth-presenced/src/rpc.rs`: the requests and responses that travel over the
Unix socket, each as a length of four bytes followed by its CBOR encoding.
The CBOR library is a parameter.  The asynchronous and the blocking reader
make the same calls in the same order, so they are one program.
-/

namespace DeskUnlock.Unlock.Rpc

open Texts Dialogues Dialogue List
open Pairing (Bytes)

/-- Nanoseconds since the Unix epoch. -/
abbrev SystemTime := Int

/-- The state of one peer, as `syauth status` shows it. -/
structure PeerStatus where
  peerId : Text
  lastChallengeMsAgo : Option Nat
  lastConnectMsAgo : Option Nat
  currentSessionUuid : List.Vector UInt8 16
  inFlightChallenges : Nat
deriving DecidableEq

/-- What a client asks of the daemon. -/
inductive Request where
  | challenge (peerId : Text) (nonce : Bytes)
  | reload
  | status
deriving DecidableEq

/-- What the daemon answers. -/
inductive Response where
  | challenge (ok : Bool) (sig : Option Bytes) (reason : Text)
  | reload (ok : Bool)
  | status (peers : List PeerStatus) (startedAt : SystemTime)
deriving DecidableEq

def MAX_FRAME_LEN : Nat := 64 * 1024

def LENGTH_PREFIX_BYTES : Nat := 4

def U32_MAX : Nat := 2 ^ 32 - 1

inductive FrameError where
  | failed (source : Text)
  | decode (reason : Text)
  | encode (reason : Text)
  | tooLarge (len max : Nat)
deriving DecidableEq

def FrameError.text : FrameError → Text
  | .failed source => "frame I/O failed: ".toList ++ source
  | .decode reason => "CBOR decode failed: ".toList ++ reason
  | .encode reason => "CBOR encode failed: ".toList ++ reason
  | .tooLarge len max =>
    "frame too large: ".toList ++ decimal len ++ " bytes > ".toList ++
      decimal max ++ " bytes max".toList

/-- `ciborium` for one type of values. -/
structure Cbor (Value : Type) where
  intoWriter : Value → Except Text Bytes
  fromReader : Bytes → Except Text Value

/-- What the library writes of a value, it reads back. -/
def Cbor.RoundTrips {Value : Type} (cbor : Cbor Value) (value : Value) :
    Prop :=
  ∀ bytes, cbor.intoWriter value = .ok bytes → cbor.fromReader bytes = .ok value

/-- The library, as far as one value goes. -/
def Cbor.only {Value : Type} [DecidableEq Value] (bytes : Bytes) (value : Value) : Cbor Value where
  intoWriter other := if other = value then .ok bytes else .error []
  fromReader input := if input = bytes then .ok value else .error []

theorem Cbor.only_writes {Value : Type} [DecidableEq Value] {bytes : Bytes} {value : Value} :
    (Cbor.only bytes value).intoWriter value = .ok bytes :=
  if_pos rfl

theorem Cbor.only_roundTrips {Value : Type} [DecidableEq Value] {bytes : Bytes}
    {value other : Value} : (Cbor.only bytes value).RoundTrips other := by
  intro input written
  simp only [Cbor.only] at written ⊢
  split_ifs at written with same
  cases written
  rw [if_pos rfl, same]

/-- The first bytes of a string: its type and its length. -/
def cborHead (major : UInt8) (length : Nat) : Bytes :=
  if length < 24 then [major + .ofNat length] else [major + 24, .ofNat length]

def cborText (text : Text) : Bytes := cborHead 0x60 (utf8 text).length ++ utf8 text

def cborBytes (bytes : Bytes) : Bytes := cborHead 0x40 bytes.length ++ bytes

/-- A challenge as the map that `serde` makes of it, tagged with its kind. -/
def requestCbor (peerId : Text) (nonce : Bytes) : Bytes :=
  0xa3 :: (cborText "kind".toList ++ cborText "challenge".toList ++
    cborText "peer_id".toList ++ cborText peerId ++ cborText "nonce".toList ++ cborBytes nonce)

def outcomeCbor (ok : Bool) (sig : Option Bytes) (reason : Text) : Bytes :=
  0xa4 :: (cborText "kind".toList ++ cborText "challenge".toList ++
    cborText "ok".toList ++ [if ok then 0xf5 else 0xf4] ++
    cborText "signature".toList ++ sig.elim [0xf6] cborBytes ++
    cborText "reason".toList ++ cborText reason)

/-- `u32::to_be_bytes`. -/
def toBeBytes (number : Nat) : Bytes := BigEndian.encode 4 number

/-- `u32::from_be_bytes`. -/
def fromBeBytes (bytes : Bytes) : Nat := BigEndian.decode bytes

theorem fromBeBytes_toBeBytes {number : Nat} (small : number < 2 ^ 32) :
    fromBeBytes (toBeBytes number) = number :=
  BigEndian.decode_encode small

section

variable {Value : Type} (cbor : Cbor Value)

def encodeFrame (value : Value) : Except FrameError Bytes :=
  match cbor.intoWriter value with
  | .error reason => .error (.encode reason)
  | .ok payload =>
    if MAX_FRAME_LEN < payload.length then
      .error (.tooLarge (min payload.length U32_MAX) MAX_FRAME_LEN)
    else .ok (toBeBytes payload.length ++ payload)

def decodeFrame (bytes : Bytes) : Except FrameError Value :=
  if MAX_FRAME_LEN < bytes.length then .error (.tooLarge (min bytes.length U32_MAX) MAX_FRAME_LEN)
  else (cbor.fromReader bytes).mapError .decode

theorem encodeFrame_eq_ok_iff {value : Value} {framed : Bytes} :
    encodeFrame cbor value = .ok framed ↔ ∃ payload, cbor.intoWriter value = .ok payload ∧
    payload.length ≤ MAX_FRAME_LEN ∧ framed = toBeBytes payload.length ++ payload := by
  unfold encodeFrame
  cases cbor.intoWriter value with
  | error reason => simp
  | ok payload =>
    by_cases large : MAX_FRAME_LEN < payload.length
    · simp [large]
    · simp [large, Nat.le_of_not_lt, eq_comm]

theorem encodeFrame_ne_nil {value : Value} : encodeFrame cbor value ≠ .ok [] := by
  intro encoded
  obtain ⟨payload, -, -, empty⟩ := (encodeFrame_eq_ok_iff _).mp encoded
  cases empty

/-- Values that the library reads back have frames of their own. -/
theorem encodeFrame_inj {value other : Value} {framed : Bytes} (roundTrips : cbor.RoundTrips value)
    (otherRoundTrips : cbor.RoundTrips other) (encoded : encodeFrame cbor value = .ok framed)
    (otherEncoded : encodeFrame cbor other = .ok framed) : value = other := by
  obtain ⟨payload, written, -, rfl⟩ := (encodeFrame_eq_ok_iff _).mp encoded
  obtain ⟨otherPayload, otherWritten, -, same⟩ := (encodeFrame_eq_ok_iff _).mp otherEncoded
  obtain ⟨-, rfl⟩ := append_inj same rfl
  have read := roundTrips _ written
  rw [otherRoundTrips _ otherWritten] at read
  exact (Except.ok.inj read).symm

/-- A frame read in two pieces is the frame that was written. -/
theorem decodeFrame_pieces {value : Value} (roundTrips : cbor.RoundTrips value)
    {framed length payload : Bytes} (encoded : encodeFrame cbor value = .ok framed)
    (sized : length.length = LENGTH_PREFIX_BYTES) (announced : payload.length = fromBeBytes length)
    (pieces : length ++ payload <+: framed) : decodeFrame cbor payload = .ok value := by
  obtain ⟨body, written, bounded, rfl⟩ := (encodeFrame_eq_ok_iff _).mp encoded
  have small : body.length < 2 ^ 32 := bounded.trans_lt (by decide)
  obtain ⟨rest, whole⟩ := pieces
  rw [append_assoc] at whole
  obtain ⟨rfl, tail⟩ := append_inj whole (sized.trans (by rfl))
  rw [fromBeBytes_toBeBytes small] at announced
  obtain ⟨rfl, -⟩ : payload = body ∧ rest = [] := by
    refine append_inj (tail.trans (append_nil _).symm) announced
  unfold decodeFrame
  rw [if_neg (not_lt.mpr bounded), roundTrips _ written]
  rfl

end

section

variable {Question : Type} {Answer : Question → Type} {Value : Type}

/-- `read_frame` and `read_frame_blocking`. -/
def readFrame (cbor : Cbor Value) (readExact : Nat → Dialogue Question Answer (Except Text Bytes)) :
    Dialogue Question Answer (Except FrameError Value) := do
  match ← readExact LENGTH_PREFIX_BYTES with
  | .error source => return .error (.failed source)
  | .ok length =>
    let announced := fromBeBytes length
    if MAX_FRAME_LEN < announced then
      return .error (.tooLarge announced MAX_FRAME_LEN)
    else
      match ← readExact announced with
      | .error source => return .error (.failed source)
      | .ok payload => return decodeFrame cbor payload

/-- `write_frame` and `write_frame_blocking`. -/
def writeFrame (cbor : Cbor Value)
    (writeAll : Bytes → Dialogue Question Answer (Except Text Unit)) (value : Value) :
    Dialogue Question Answer (Except FrameError Unit) := do
  match encodeFrame cbor value with
  | .error error => return .error error
  | .ok framed =>
    let written ← writeAll framed
    return written.mapError .failed

variable {guard : List (Turn Question Answer) → Question → Prop}
  {past : List (Turn Question Answer)}

/-- Reading a frame makes at most two reads, and both when it succeeds. -/
theorem readFrame_keeps {cbor : Cbor Value}
    {readExact : Nat → Dialogue Question Answer (Except Text Bytes)}
    (readTurn : Nat → Except Text Bytes → Turn Question Answer)
    (reads : ∀ count past
        (post : List (Turn Question Answer) → Except Text Bytes → Prop),
      (∀ reply, post (past ++ [readTurn count reply]) reply) →
        Keeps guard post past (readExact count))
    {post : List (Turn Question Answer) → Except FrameError Value → Prop}
    (failed : ∀ past error, post past (.error error))
    (received : ∀ length payload value,
      decodeFrame cbor payload = .ok value →
        post (past ++ [readTurn LENGTH_PREFIX_BYTES (.ok length)] ++
          [readTurn (fromBeBytes length) (.ok payload)]) (.ok value)) :
    Keeps guard post past (readFrame cbor readExact) := by
  refine (reads _ _ (fun after reply => after = past ++ [readTurn _ reply]) (fun _ => rfl)).bind ?_
  rintro _ reply rfl
  cases reply with
  | error source => exact failed _ _
  | ok length =>
    dsimp only
    split_ifs
    · exact failed _ _
    · refine (reads (fromBeBytes _) _
        (fun after reply =>
          after = past ++ [readTurn _ (.ok _)] ++ [readTurn (fromBeBytes _) reply])
        (fun _ => rfl)).bind ?_
      rintro _ reply rfl
      cases reply with
      | error source => exact failed _ _
      | ok payload =>
        cases decoded : decodeFrame cbor payload with
        | error error =>
          dsimp only
          rw [decoded]
          exact failed _ _
        | ok value =>
          dsimp only
          rw [decoded]
          exact received _ _ _ decoded

/-- Writing a frame makes one write, unless the value has no frame. -/
theorem writeFrame_keeps {cbor : Cbor Value}
    {writeAll : Bytes → Dialogue Question Answer (Except Text Unit)} {value : Value}
    {post : List (Turn Question Answer) → Except FrameError Unit → Prop}
    (unframed : ∀ error, post past (.error error))
    (writes : ∀ framed, encodeFrame cbor value = .ok framed →
      Keeps guard (fun past written => post past (written.mapError .failed))
        past (writeAll framed)) :
    Keeps guard post past (writeFrame cbor writeAll value) := by
  unfold writeFrame
  cases encoded : encodeFrame cbor value with
  | error error => exact unframed _
  | ok framed => exact (writes _ encoded).bind fun _ _ holds => holds

end

end DeskUnlock.Unlock.Rpc
