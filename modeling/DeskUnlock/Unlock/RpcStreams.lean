import DeskUnlock.Foundation.Chunks
import DeskUnlock.Unlock.Rpc

/-!
# Frames on a stream

The asynchronous and the blocking reader of `syauth-presenced/src/rpc.rs` on a
byte stream that arrives in arbitrary pieces.  They share `readFrame` and
differ in the library that reads exactly so many bytes, and so in the text of
the error that tells of an early end of the stream.
-/

namespace DeskUnlock.Unlock.Rpc

open Texts Dialogues Chunks List
open Pairing (Bytes)

abbrev ByteSource := Source UInt8

/-- A library that reads exactly so many bytes. -/
abbrev ExactReader := ℕ → ByteSource → Except Text Bytes × ByteSource

def askExact (count : ℕ) : Dialogue ℕ (fun _ => Except Text Bytes) (Except Text Bytes) :=
  .ask count .done

section

variable {Value : Type} (cbor : Cbor Value)

def readFrameFrom (read : ExactReader) : ByteSource → ByteSource × Except FrameError Value :=
  fun source =>
    (readFrame cbor askExact).exec
      (fun source count => ((read count source).2, (read count source).1)) source

/-- `read_frame`. -/
def readFrameAsync (eof : Text) : ByteSource → ByteSource × Except FrameError Value :=
  readFrameFrom cbor (pollReadExact eof [])

def readFrameBlocking (eof : Text) : ByteSource → ByteSource × Except FrameError Value :=
  readFrameFrom cbor (readExact eof)

/-- One frame after the other. -/
def readFrames (read : ByteSource → ByteSource × Except FrameError Value) :
    ℕ → ByteSource → ByteSource × List (Except FrameError Value)
  | 0, source => (source, [])
  | count + 1, source =>
    let (left, res) := read source
    let (final, results) := readFrames read count left
    (final, res :: results)

/-- What a frame reader makes of the bytes of a stream, and what it leaves. -/
def frameOf (eof : Text) (bytes : Bytes) : Except FrameError Value × Bytes :=
  let announced := fromBeBytes (bytes.take LENGTH_PREFIX_BYTES)
  let rest := bytes.drop LENGTH_PREFIX_BYTES
  if bytes.length < LENGTH_PREFIX_BYTES then (.error (.failed eof), [])
  else if MAX_FRAME_LEN < announced then (.error (.tooLarge announced MAX_FRAME_LEN), rest)
  else if rest.length < announced then (.error (.failed eof), [])
  else (decodeFrame cbor (rest.take announced), rest.drop announced)

/-- The reads of the library, whatever the pieces are. -/
def ExactReader.Reads (read : ExactReader) (eof : Text) : Prop :=
  ∀ count source,
    (read count source).1 =
        (if source.flatten.length < count then .error eof else .ok (source.flatten.take count)) ∧
      (read count source).2.flatten = source.flatten.drop count

theorem readFrameFrom_eq {read : ExactReader} {eof : Text} (reads : read.Reads eof)
    (source : ByteSource) :
    (readFrameFrom cbor read source).2 = (frameOf cbor eof source.flatten).1 ∧
      (readFrameFrom cbor read source).1.flatten = (frameOf cbor eof source.flatten).2 := by
  obtain ⟨prefixed, left⟩ := reads LENGTH_PREFIX_BYTES source
  have short {bytes : Bytes} {count : ℕ} (less : bytes.length < count) : bytes.drop count = [] :=
    drop_eq_nil_of_le less.le
  obtain ⟨payload, remains⟩ := reads (fromBeBytes (source.flatten.take LENGTH_PREFIX_BYTES))
    (read _ _).2
  rw [left] at payload remains
  simp only [readFrameFrom, readFrame, askExact, bind, Dialogue.bind, Dialogue.exec, prefixed,
    frameOf]
  split_ifs with ended large cut
  · exact ⟨rfl, left.trans (short ended)⟩
  · simp only [large]
    exact ⟨rfl, left⟩
  · simp only [large, ↓reduceIte, Dialogue.exec, payload, cut]
    exact ⟨rfl, remains.trans (short cut)⟩
  · simp only [large, ↓reduceIte, Dialogue.exec, payload, cut]
    exact ⟨rfl, remains⟩

theorem readExact_reads (eof : Text) : ExactReader.Reads (readExact eof) eof := readExact_eq _

theorem pollReadExact_reads (eof : Text) : ExactReader.Reads (pollReadExact eof []) eof := by
  intro count source
  rw [pollReadExact_eq]
  obtain ⟨res, left⟩ := readExact_eq _ _ _
  refine ⟨?_, left⟩
  rw [res]
  split_ifs <;> rfl

/-- The library reads the value back, and its encoding fits the cap. -/
def Sendable (value : Value) : Prop :=
  cbor.RoundTrips value ∧
    ∃ payload, cbor.intoWriter value = .ok payload ∧ payload.length ≤ MAX_FRAME_LEN

theorem frameOf_encoded {value : Value} (roundTrips : cbor.RoundTrips value) {framed : Bytes}
    (encoded : encodeFrame cbor value = .ok framed) (eof : Text) {rest : Bytes} :
    frameOf cbor eof (framed ++ rest) = (.ok value, rest) := by
  obtain ⟨payload, written, bounded, rfl⟩ := (encodeFrame_eq_ok_iff _).mp encoded
  have small : payload.length < 2 ^ 32 := bounded.trans_lt (by decide)
  have four : (toBeBytes payload.length).length = LENGTH_PREFIX_BYTES := rfl
  have enough : ¬ (toBeBytes payload.length ++ (payload ++ rest)).length < LENGTH_PREFIX_BYTES := by
    rw [length_append]
    omega
  have decoded : decodeFrame cbor payload = .ok value := by
    rw [decodeFrame, if_neg (not_lt.mpr bounded), roundTrips _ written]
    rfl
  have within : ¬ (payload ++ rest).length < payload.length := by
    rw [length_append]
    omega
  simp only [frameOf, append_assoc, take_left' four, drop_left' four, fromBeBytes_toBeBytes small]
  rw [if_neg enough, if_neg (not_lt.mpr bounded), if_neg within, take_left, drop_left, decoded]

/-- Whoever reads the bytes of the frames reads the values. -/
theorem readFrames_encoded {values : List Value}
    (sendable : ∀ value ∈ values, Sendable cbor value) :
    ∃ frames, values.mapM (encodeFrame cbor) = .ok frames ∧
      ∀ (read : ExactReader) eof, read.Reads eof → ∀ source rest,
        source.flatten = frames.flatten ++ rest →
          (readFrames (readFrameFrom cbor read) values.length source).2 = values.map .ok ∧
            (readFrames (readFrameFrom cbor read) values.length source).1.flatten = rest := by
  induction values with
  | nil => exact ⟨[], rfl, fun _ _ _ _ _ bytes => ⟨rfl, bytes⟩⟩
  | cons value values induction =>
    obtain ⟨⟨roundTrips, payload, written, bounded⟩, others⟩ := forall_mem_cons.mp sendable
    have encoded := (encodeFrame_eq_ok_iff _).mpr ⟨payload, written, bounded, rfl⟩
    obtain ⟨frames, encodedRest, readsRest⟩ := induction others
    refine ⟨_ :: frames, by rw [mapM_cons, encoded, encodedRest]; rfl, ?_⟩
    intro read eof reads source rest bytes
    rw [flatten_cons, append_assoc] at bytes
    obtain ⟨res, left⟩ := readFrameFrom_eq _ reads _
    rw [bytes, frameOf_encoded _ roundTrips encoded] at res left
    obtain ⟨results, final⟩ := readsRest _ _ reads _ _ left
    refine ⟨?_, final⟩
    simp only [length_cons, readFrames, res, results, map_cons]

/-- The same result, or the early end of the stream that each library words its own way. -/
def SameResult (asyncEof blockingEof : Text) (first second : Except FrameError Value) : Prop :=
  first = second ∨ first = .error (.failed asyncEof) ∧ second = .error (.failed blockingEof)

theorem frameOf_sameResult (asyncEof blockingEof : Text) (bytes : Bytes) :
    SameResult asyncEof blockingEof (frameOf cbor asyncEof bytes).1
        (frameOf cbor blockingEof bytes).1 ∧
      (frameOf cbor asyncEof bytes).2 = (frameOf cbor blockingEof bytes).2 := by
  unfold frameOf SameResult
  dsimp only
  split_ifs <;> simp

theorem frameOf_tooLarge {length : Bytes} (four : length.length = LENGTH_PREFIX_BYTES)
    (large : MAX_FRAME_LEN < fromBeBytes length) (eof : Text) {rest : Bytes} :
    frameOf cbor eof (length ++ rest) =
      (.error (.tooLarge (fromBeBytes length) MAX_FRAME_LEN), rest) := by
  have enough : ¬ (length ++ rest).length < LENGTH_PREFIX_BYTES := by
    rw [length_append]
    omega
  simp only [frameOf, take_left' four, drop_left' four]
  rw [if_neg enough, if_pos large]

end

/-- A response as CBOR holds it. -/
inductive WireResponse where
  | challenge (ok : Bool) (sig : Option Bytes) (reason : Text)
  | reload (ok : Bool)
  | status (peers : List PeerStatus) (startedAt : ℕ)

/-- `epoch_seconds::serialize`: whole seconds, and none before the epoch. -/
def epochSeconds (time : SystemTime) : ℕ := (time / 10 ^ 9).toNat

def Response.toWire : Response → WireResponse
  | .challenge ok sig reason => .challenge ok sig reason
  | .reload ok => .reload ok
  | .status peers startedAt => .status peers (epochSeconds startedAt)

def WireResponse.response : WireResponse → Response
  | .challenge ok sig reason => .challenge ok sig reason
  | .reload ok => .reload ok
  | .status peers startedAt => .status peers (startedAt * 10 ^ 9)

/-- The codec of responses, from the one of what stands on the wire. -/
def responseCbor (wire : Cbor WireResponse) : Cbor Response where
  intoWriter resp := wire.intoWriter resp.toWire
  fromReader bytes := (wire.fromReader bytes).map WireResponse.response

/-- A start time is a whole number of seconds after the epoch. -/
def Response.WholeSeconds : Response → Prop
  | .status _ startedAt => ∃ seconds : ℕ, startedAt = seconds * 10 ^ 9
  | _ => True

theorem responseCbor_roundTrips {wire : Cbor WireResponse} {resp : Response}
    (whole : resp.WholeSeconds) (roundTrips : wire.RoundTrips resp.toWire) :
    (responseCbor wire).RoundTrips resp := by
  have back : resp.toWire.response = resp := by
    cases resp with
    | challenge ok sig reason => rfl
    | reload ok => rfl
    | status peers startedAt =>
      obtain ⟨seconds, rfl⟩ := whole
      simp [Response.toWire, WireResponse.response, epochSeconds]
  intro bytes written
  simp only [responseCbor, roundTrips _ written, Except.map, back]

/-- The values of a list, read back through both readers. -/
def ReadsBack {Value : Type} (cbor : Cbor Value) (values : List Value) : Prop :=
  ∃ frames, values.mapM (encodeFrame cbor) = .ok frames ∧
    ∀ eof, ∀ read ∈ [readFrameAsync cbor eof, readFrameBlocking cbor eof],
      ∀ source, source.flatten = frames.flatten →
        (readFrames read values.length source).2 = values.map .ok ∧
          (readFrames read values.length source).1.flatten = []

theorem readsBack {Value : Type} {cbor : Cbor Value} {values : List Value}
    (sendable : ∀ value ∈ values, Sendable cbor value) : ReadsBack cbor values := by
  obtain ⟨frames, encoded, reads⟩ := readFrames_encoded _ sendable
  refine ⟨frames, encoded, fun eof read mem source bytes => ?_⟩
  simp only [mem_cons, not_mem_nil, or_false] at mem
  rcases mem with rfl | rfl
  · exact reads _ _ (pollReadExact_reads _) _ [] (by rw [bytes, append_nil])
  · exact reads _ _ (readExact_reads _) _ [] (by rw [bytes, append_nil])

theorem frame_readers_agree :
    (∀ (cbor : Cbor Request) requests, (∀ req ∈ requests, Sendable cbor req) →
        ReadsBack cbor requests) ∧
      (∀ (wire : Cbor WireResponse) (responses : List Response),
        (∀ resp ∈ responses, resp.WholeSeconds ∧ Sendable wire resp.toWire) →
          ReadsBack (responseCbor wire) responses) ∧
      ∀ {Value : Type} (cbor : Cbor Value) asyncEof blockingEof source,
        let first := readFrameAsync cbor asyncEof source
        let second := readFrameBlocking cbor blockingEof source
        SameResult asyncEof blockingEof first.2 second.2 ∧
          first.1.flatten = second.1.flatten ∧
          ∀ length rest, length.length = LENGTH_PREFIX_BYTES →
            MAX_FRAME_LEN < fromBeBytes length → source.flatten = length ++ rest →
              ∀ read ∈ [first, second],
                read.2 = .error (.tooLarge (fromBeBytes length) MAX_FRAME_LEN) ∧
                  read.1.flatten = rest := by
  refine ⟨fun _ _ => readsBack, fun wire responses sendable => readsBack ?_, ?_⟩
  · intro resp mem
    obtain ⟨whole, roundTrips, fits⟩ := sendable _ mem
    exact ⟨responseCbor_roundTrips whole roundTrips, fits⟩
  intro Value cbor asyncEof blockingEof source first second
  have asynchronous := readFrameFrom_eq cbor (pollReadExact_reads asyncEof) source
  have blocking := readFrameFrom_eq cbor (readExact_reads blockingEof) source
  obtain ⟨same, left⟩ := frameOf_sameResult _ _ blockingEof _
  refine ⟨?_, ?_, ?_⟩
  · rw [← asynchronous.1, ← blocking.1] at same
    exact same
  · exact asynchronous.2.trans (left.trans blocking.2.symm)
  · intro length rest four large bytes read mem
    rw [bytes, frameOf_tooLarge _ four large] at asynchronous blocking
    simp only [mem_cons, not_mem_nil, or_false] at mem
    rcases mem with rfl | rfl
    · exact asynchronous
    · exact blocking

/-- A challenge that is sent twice is read twice. -/
theorem repeated_challenge_readsBack :
    let phone := "phone".toList
    let req := Request.challenge phone (.replicate 16 1)
    ReadsBack (.only (requestCbor phone (.replicate 16 1)) req) [req, req] := by
  apply frame_readers_agree.1
  simp only [mem_cons, not_mem_nil, or_false, or_self, forall_eq]
  exact ⟨Cbor.only_roundTrips, _, Cbor.only_writes, by decide +kernel⟩

end DeskUnlock.Unlock.Rpc
