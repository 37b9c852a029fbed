import DeskUnlock.Recovery.BondStore

/-!
# Frames of the unlock channel

`syauth-core/src/frame.rs`, `mac.rs` and `sign.rs`.  A frame is a version
byte, a nonce, a payload and a tag.  The first three are its body: what the
desktop tags with the bond key and what the phone signs.

The keyed hash and Ed25519 are libraries outside the repository: they are the
fields of `Crypto`.
-/

namespace DeskUnlock.Unlock

open Texts List
open Pairing (Bytes Pubkey)
open Recovery (BondKey)

def SYAUTH_WIRE_VERSION_V1 : UInt8 := 1

def VERSION_LEN : Nat := 1

def NONCE_LEN : Nat := 16

def TAG_LEN : Nat := 16

def VERSION_OFFSET : Nat := 0

def NONCE_OFFSET : Nat := VERSION_OFFSET + VERSION_LEN

def PAYLOAD_OFFSET : Nat := NONCE_OFFSET + NONCE_LEN

def HEADER_LEN : Nat := VERSION_LEN + NONCE_LEN

def MIN_FRAME_LEN : Nat := HEADER_LEN + TAG_LEN

def MAX_PAYLOAD_LEN : Nat := 4096

abbrev Nonce := List.Vector UInt8 NONCE_LEN

abbrev Tag := List.Vector UInt8 TAG_LEN

/-- A frame of the protocol. -/
structure Frame where
  version : UInt8
  nonce : Nonce
  payload : Bytes
  tag : Tag
deriving DecidableEq

/-- Why bytes are no frame. -/
inductive FrameError where
  | tooShort (needed got : Nat)
  | badVersion (byte : UInt8)
  | badLength
deriving DecidableEq

def decimal (number : Nat) : Text := (Nat.repr number).toList

def FrameError.text : FrameError → Text
  | .tooShort needed got =>
    "frame too short: needed ".toList ++ decimal needed ++ " bytes, got ".toList ++ decimal got
  | .badVersion byte => "unsupported wire-format version: 0x".toList ++ hexByte 'a' byte
  | .badLength => "frame payload exceeds maximum length".toList

/-- `encode` on the caller's buffer: its result, and what it leaves there. -/
def Frame.encodeInto (frame : Frame) (buf : Bytes) : Except FrameError Unit × Bytes :=
  if MAX_PAYLOAD_LEN < frame.payload.length then (.error .badLength, buf)
  else
    let buf := buf ++ [frame.version]
    let buf := buf ++ frame.nonce.toList
    let buf := buf ++ frame.payload
    let buf := buf ++ frame.tag.toList
    (.ok (), buf)

/-- The buffer after an `encode` that succeeds. -/
def Frame.encode (frame : Frame) (buf : Bytes) : Except FrameError Bytes :=
  (frame.encodeInto buf).1.map fun _ => (frame.encodeInto buf).2

/-- What is signed and tagged: the frame without its tag. -/
def Frame.bodyBytes (frame : Frame) : Except FrameError Bytes :=
  if MAX_PAYLOAD_LEN < frame.payload.length then .error .badLength
  else .ok (frame.version :: frame.nonce.toList ++ frame.payload)

def fieldAt (input : Bytes) (offset width : Nat) (reached : offset + width ≤ input.length) :
    List.Vector UInt8 width :=
  ⟨(input.drop offset).take width, by
    rw [length_take, length_drop]
    omega⟩

def Frame.decode (input : Bytes) : Except FrameError Frame :=
  if short : input.length < MIN_FRAME_LEN then .error (.tooShort MIN_FRAME_LEN input.length)
  else
    let version := input.getD VERSION_OFFSET 0
    if version ≠ SYAUTH_WIRE_VERSION_V1 then .error (.badVersion version)
    else
      let payloadLen := input.length - MIN_FRAME_LEN
      if MAX_PAYLOAD_LEN < payloadLen then .error .badLength
      else
        let payloadEnd := PAYLOAD_OFFSET + payloadLen
        .ok {
          version := version
          nonce := fieldAt input NONCE_OFFSET NONCE_LEN (by
            simp only [NONCE_OFFSET, NONCE_LEN, VERSION_OFFSET, VERSION_LEN,
              MIN_FRAME_LEN, HEADER_LEN, TAG_LEN] at *
            omega)
          payload := (input.drop PAYLOAD_OFFSET).take payloadLen
          tag := fieldAt input payloadEnd TAG_LEN (by
            simp only [payloadEnd, payloadLen, PAYLOAD_OFFSET, NONCE_OFFSET,
              NONCE_LEN, VERSION_OFFSET, VERSION_LEN, MIN_FRAME_LEN, HEADER_LEN, TAG_LEN] at *
            omega) }

variable {frame : Frame}

theorem Frame.encode_eq {buf : Bytes} : frame.encode buf =
    if MAX_PAYLOAD_LEN < frame.payload.length then .error .badLength
    else
      .ok (buf ++ (frame.version :: frame.nonce.toList ++ frame.payload ++ frame.tag.toList)) := by
  unfold Frame.encode Frame.encodeInto
  split_ifs <;> simp [Except.map]

theorem Frame.encode_eq_ok_iff {buf bytes : Bytes} : frame.encode buf =
    .ok bytes ↔ ∃ body, frame.bodyBytes = .ok body ∧ bytes = buf ++ (body ++ frame.tag.toList) := by
  rw [Frame.encode_eq, Frame.bodyBytes]
  by_cases large : MAX_PAYLOAD_LEN < frame.payload.length
  · simp [large]
  · simp [large, eq_comm]

theorem Frame.bodyBytes_eq_ok_iff {body : Bytes} :
    frame.bodyBytes = .ok body ↔ frame.payload.length ≤
    MAX_PAYLOAD_LEN ∧ body = frame.version :: frame.nonce.toList ++ frame.payload := by
  unfold Frame.bodyBytes
  by_cases large : MAX_PAYLOAD_LEN < frame.payload.length
  · simp [large]
  · simp [large, eq_comm, Nat.le_of_not_lt]

theorem fields_eq {input : Bytes} {payloadLen : Nat}
    (sized : input.length = MIN_FRAME_LEN + payloadLen) :
    input =
      input.getD VERSION_OFFSET 0 ::
        (input.drop NONCE_OFFSET).take NONCE_LEN ++ (input.drop PAYLOAD_OFFSET).take payloadLen ++
        (input.drop (PAYLOAD_OFFSET + payloadLen)).take TAG_LEN := by
  cases input with
  | nil =>
    simp [MIN_FRAME_LEN, HEADER_LEN, VERSION_LEN] at sized
    omega
  | cons version rest =>
    have length : rest.length = NONCE_LEN + payloadLen + TAG_LEN := by
      simp only [length_cons, MIN_FRAME_LEN, HEADER_LEN, VERSION_LEN] at sized
      omega
    have last :
        (rest.drop (NONCE_LEN + payloadLen)).take TAG_LEN = rest.drop (NONCE_LEN + payloadLen) := by
      apply take_of_length_le
      rw [length_drop]
      omega
    have middle : (rest.drop NONCE_LEN).take payloadLen ++
        rest.drop (NONCE_LEN + payloadLen) = rest.drop NONCE_LEN := by
      rw [← drop_drop]
      exact take_append_drop _ (rest.drop _)
    have offset : PAYLOAD_OFFSET + payloadLen = NONCE_LEN + payloadLen + 1 := by
      simp only [PAYLOAD_OFFSET, NONCE_OFFSET, VERSION_OFFSET, VERSION_LEN]
      omega
    have start : PAYLOAD_OFFSET = NONCE_LEN + 1 := rfl
    rw [offset, start]
    simp only [NONCE_OFFSET, VERSION_OFFSET, VERSION_LEN,
      getD_cons_zero, drop_succ_cons, drop_zero, cons_append, append_assoc]
    rw [last, middle, take_append_drop]

theorem length_wire (frame : Frame) :
    (frame.version :: frame.nonce.toList ++ frame.payload ++
      frame.tag.toList).length = MIN_FRAME_LEN + frame.payload.length := by
  simp only [length_append, length_cons, Vector.toList_length,
    MIN_FRAME_LEN, HEADER_LEN, VERSION_LEN]
  omega

theorem Frame.decode_wire (frame : Frame) (version : frame.version = SYAUTH_WIRE_VERSION_V1)
    (bounded : frame.payload.length ≤ MAX_PAYLOAD_LEN) :
    Frame.decode
      (frame.version :: frame.nonce.toList ++ frame.payload ++ frame.tag.toList) = .ok frame := by
  have length := length_wire frame
  obtain ⟨byte, ⟨nonce, nonceSized⟩, payload, tag, tagSized⟩ := frame
  simp only [List.Vector.toList_mk] at version bounded length ⊢
  generalize wire : byte :: nonce ++ payload ++ tag = input at length ⊢
  have payloadLen : input.length - MIN_FRAME_LEN = payload.length := by omega
  have nonceField : (input.drop NONCE_OFFSET).take NONCE_LEN = nonce := by
    rw [← wire, cons_append, cons_append]
    simp only [append_assoc]
    exact take_left' nonceSized
  have rest : input.drop PAYLOAD_OFFSET = payload ++ tag := by
    rw [← wire, append_assoc]
    exact drop_left' (by simp [nonceSized]; rfl)
  have payloadField : (input.drop PAYLOAD_OFFSET).take payload.length = payload := by
    rw [rest]
    exact take_left
  have tagField : (input.drop (PAYLOAD_OFFSET + payload.length)).take TAG_LEN = tag := by
    rw [← drop_drop, rest, drop_left, ← tagSized, take_length]
  have head : input.getD VERSION_OFFSET 0 = byte := by
    rw [← wire]
    rfl
  unfold Frame.decode
  rw [dif_neg (by omega)]
  simp only [head, payloadLen, fieldAt, nonceField, payloadField, tagField]
  rw [if_neg (not_not.mpr version), if_neg (not_lt.mpr bounded)]

/-- Exactly the encodings of frames of the supported version decode. -/
theorem Frame.decode_eq_ok_iff {input : Bytes} : Frame.decode input =
    .ok frame ↔ frame.version = SYAUTH_WIRE_VERSION_V1 ∧ frame.encode [] = .ok input := by
  constructor
  · intro decoded
    unfold Frame.decode at decoded
    dsimp only at decoded
    split_ifs at decoded with short version large
    have sized : input.length = MIN_FRAME_LEN + (input.length - MIN_FRAME_LEN) := by omega
    have bounded : ((input.drop PAYLOAD_OFFSET).take
          (input.length - MIN_FRAME_LEN)).length ≤ MAX_PAYLOAD_LEN :=
      (length_take_le _ _).trans (Nat.le_of_not_lt large)
    cases decoded
    refine ⟨not_not.mp version, ?_⟩
    rw [Frame.encode_eq, if_neg (not_lt.mpr bounded)]
    exact congrArg _ (fields_eq sized).symm
  · rintro ⟨version, encoded⟩
    rw [Frame.encode_eq] at encoded
    split_ifs at encoded with large
    cases encoded
    exact frame.decode_wire version (Nat.le_of_not_lt large)

theorem Frame.encodeInto_of_encode {wire : Bytes} (encoded : frame.encode [] = .ok wire)
    (buf : Bytes) : frame.encodeInto buf = (.ok (), buf ++ wire) := by
  rw [Frame.encode_eq] at encoded
  unfold Frame.encodeInto
  split_ifs at encoded ⊢ with large
  cases encoded
  simp

/-- The length and the first byte decide whether an input decodes. -/
theorem Frame.decode_isOk_iff {input : Bytes} :
    (∃ frame, Frame.decode input = .ok frame) ↔ MIN_FRAME_LEN ≤ input.length ∧
    input.length ≤ MIN_FRAME_LEN + MAX_PAYLOAD_LEN ∧ input.head? = some SYAUTH_WIRE_VERSION_V1 := by
  constructor
  · rintro ⟨frame, decoded⟩
    obtain ⟨version, encoded⟩ := decode_eq_ok_iff.mp decoded
    obtain ⟨body, bodied, rfl⟩ := encode_eq_ok_iff.mp encoded
    obtain ⟨bounded, rfl⟩ := bodyBytes_eq_ok_iff.mp bodied
    rw [nil_append, length_wire]
    exact ⟨by omega, by omega, congrArg _ version⟩
  · rintro ⟨long, short, first⟩
    have version : input.getD VERSION_OFFSET 0 = SYAUTH_WIRE_VERSION_V1 := by
      rw [getD_eq_getElem?_getD, VERSION_OFFSET, ← head?_eq_getElem?, first]
      rfl
    unfold Frame.decode
    rw [dif_neg (not_lt.mpr long)]
    rw [if_neg (not_not.mpr version), if_neg (by omega)]
    exact ⟨_, rfl⟩

def SIGNATURE_LEN : Nat := 64

abbrev Signature := List.Vector UInt8 SIGNATURE_LEN

/-- The libraries that the unlock channel is built on. -/
structure Crypto (SigningKey : Type) where
  /-- `blake3::keyed_hash`. -/
  keyedHash : BondKey → Bytes → List.Vector UInt8 32
  /-- `SigningKey::verifying_key`, as bytes. -/
  verifyingKey : SigningKey → Pubkey
  /-- Ed25519 over a message. -/
  sign : SigningKey → Bytes → Signature
  /-- `Signature::from_slice` accepts 64 bytes. -/
  wellFormed : Signature → Bool
  /-- `VerifyingKey::from_bytes` accepts a key. -/
  onCurve : Pubkey → Bool
  /-- `VerifyingKey::verify_strict`. -/
  verifyStrict : Pubkey → Bytes → Signature → Bool

/-- The first bytes of a message, filled up with zeros. -/
def padded (msg : Bytes) (width : Nat) : List.Vector UInt8 width := .ofFn fun i => msg.getD i 0

/--
A stand-in for the libraries, on which runs can be evaluated: a signature
names the key and repeats the beginning of the message.
-/
def sampleCrypto : Crypto Pubkey where
  keyedHash bondKey body := .ofFn fun i => bondKey.get i + body.getD i 0
  verifyingKey key := key
  sign key msg := padded (0 :: key.toList ++ msg) SIGNATURE_LEN
  wellFormed _ := true
  onCurve _ := true
  verifyStrict key msg sig := sig = padded (0 :: key.toList ++ msg) SIGNATURE_LEN

variable {SigningKey : Type} (crypto : Crypto SigningKey)

def computeTag (bondKey : BondKey) (frameBody : Bytes) : Tag :=
  fieldAt (crypto.keyedHash bondKey frameBody).toList 0 TAG_LEN (by
    rw [Vector.toList_length]
    decide)

def verifyTag (bondKey : BondKey) (frameBody : Bytes) (tag : Tag) : Bool :=
  computeTag crypto bondKey frameBody = tag

inductive VerifyError where
  | signature
  | badEncoding (error : FrameError)
deriving DecidableEq

def verifyFrame (pubkey : Pubkey) (frame : Frame) (sig : Signature) :
    Except VerifyError Unit := do
  let body ← frame.bodyBytes.mapError .badEncoding
  if crypto.verifyStrict pubkey body sig then
    return ()
  else throw .signature

theorem verifyFrame_eq_ok_iff {pubkey : Pubkey} {sig : Signature} :
    verifyFrame crypto pubkey frame sig = .ok () ↔
      ∃ body, frame.bodyBytes = .ok body ∧ crypto.verifyStrict pubkey body sig = true := by
  unfold verifyFrame
  cases frame.bodyBytes with
  | error error =>
    constructor
    · rintro ⟨⟩
    · rintro ⟨body, ⟨⟩, _⟩
  | ok body =>
    change (if crypto.verifyStrict _ _ _ = true then Except.ok _ else .error _) = .ok _ ↔ _
    simp only [Except.ok.injEq, exists_eq_left']
    split_ifs with verified
    · exact ⟨fun _ => verified, fun _ => rfl⟩
    · exact ⟨nofun, fun holds => (verified holds).elim⟩

end DeskUnlock.Unlock
