import DeskUnlock.Pairing.PairingBroker

/-!
# Messages of the confirmation broker

The layouts of `PairingRequest`, `OobRequest` and `BondedNotice` in
`syauth-transport/src/pairing.rs`.  Each has a magic, fields of a fixed width,
the length of a label, the label, and again fields of a fixed width, so one
reader takes all three apart.
-/

namespace DeskUnlock.Pairing

open Texts List Option

def PairingRequest.encode (req : PairingRequest) : Option Bytes := (GuiEvent.lesc req).encode

def OobRequest.encode (req : OobRequest) : Option Bytes := (GuiEvent.oob req).encode

def BondedNotice.encode (notice : BondedNotice) : Option Bytes := (GuiEvent.bonded notice).encode

def decodeParts (magic : Bytes) (front back : Nat) (bytes : Bytes) :
    Option (Bytes × Text × Bytes) :=
  let start := 4 + front + 2
  if bytes.length < start ∨ bytes.take 4 ≠ magic then none
  else
    let peerLen := BigEndian.decode ((bytes.drop (4 + front)).take 2)
    if MAX_PEER_BYTES < peerLen ∨ bytes.length ≠ start + peerLen + back then none
    else do
      let peer ← utf8Decode? ((bytes.drop start).take peerLen)
      return ((bytes.drop 4).take front, peer, bytes.drop (start + peerLen))

/-- A key of zeros, with the bytes copied over it. -/
def pubkeyOf (bytes : Bytes) : Pubkey := ⟨(bytes ++ List.replicate 32 0).take 32, by simp⟩

theorem encodePeer_eq_some_iff {peer : Text}
    {length label : Bytes} : encodePeer peer = some (length, label) ↔ (utf8 peer).length ≤
    MAX_PEER_BYTES ∧ length = BigEndian.encode 2 (utf8 peer).length ∧ label = utf8 peer := by
  have narrow : (utf8 peer).length ≤ MAX_PEER_BYTES → (utf8 peer).length < 2 ^ 16 :=
    fun short => lt_of_le_of_lt short (by decide)
  unfold encodePeer
  dsimp only
  split_ifs with short
  · simp only [some.injEq, Prod.mk.injEq, short.2, true_and]
    constructor
    · rintro ⟨rfl, rfl⟩
      exact ⟨rfl, rfl⟩
    · rintro ⟨rfl, rfl⟩
      exact ⟨rfl, rfl⟩
  · simp only [false_iff]
    exact fun parts => short ⟨narrow parts.1, parts.1⟩

variable {magic bytes before after : Bytes} {front back : Nat} {peer : Text}

/-- The reader accepts exactly what has the layout, and finds its parts. -/
theorem decodeParts_eq_some_iff (magical : magic.length = 4) :
    decodeParts magic front back bytes = some (before, peer, after) ↔
    before.length = front ∧ after.length = back ∧ ∃ length label, encodePeer peer =
    some (length, label) ∧ bytes = magic ++ before ++ length ++ label ++ after := by
  constructor
  · intro decoded
    unfold decodeParts at decoded
    dsimp only at decoded
    split_ifs at decoded with outer inner
    obtain ⟨text, valid, parts⟩ := bind_eq_some_iff.mp decoded
    cases parts
    have first : bytes.take 4 = magic := not_not.mp fun other => outer (.inr other)
    have bounded := Nat.le_of_not_lt fun large => inner (.inl large)
    have sized := not_not.mp fun other => inner (.inr other)
    have label := utf8_of_utf8Decode? valid
    have lengthField : ((bytes.drop (4 + front)).take 2).length = 2 := by
      rw [length_take, length_drop]
      omega
    have number := BigEndian.encode_decode ((bytes.drop (4 + front)).take 2)
    rw [lengthField] at number
    generalize BigEndian.decode ((bytes.drop (4 + front)).take 2) = peerLen
      at bounded sized label number
    have labelSized : (utf8 peer).length = peerLen := by
      rw [label, length_take, length_drop]
      omega
    refine ⟨?_, ?_, _, _, encodePeer_eq_some_iff.mpr ⟨?_, rfl, rfl⟩, ?_⟩
    · rw [length_take, length_drop]
      omega
    · rw [length_drop]
      omega
    · rw [labelSized]
      exact bounded
    · rw [labelSized, number, label, ← first, append_assoc,
        append_assoc, append_assoc, drop_take_append_drop,
        drop_take_append_drop, drop_take_append_drop, take_append_drop]
  · rintro ⟨rfl, rfl, length, label, encoded, rfl⟩
    obtain ⟨bounded, rfl, rfl⟩ := encodePeer_eq_some_iff.mp encoded
    have number : BigEndian.decode (BigEndian.encode 2 (utf8 peer).length) = (utf8 peer).length :=
      BigEndian.decode_encode (lt_of_le_of_lt bounded (by decide))
    have sized := BigEndian.length_encode 2 (utf8 peer).length
    have long :
        (magic ++ (before ++
            (BigEndian.encode 2 (utf8 peer).length ++ (utf8 peer ++ after)))).length =
          4 + before.length + 2 + (utf8 peer).length + after.length := by
      simp only [length_append]
      omega
    simp only [decodeParts, append_assoc, ← drop_drop, take_left' magical,
      drop_left' magical, take_left, drop_left, take_left' sized,
      drop_left' sized, number, utf8Decode?_utf8]
    rw [long, if_neg (not_or.mpr ⟨by omega, not_not.mpr rfl⟩),
      if_neg (not_or.mpr ⟨not_lt.mpr bounded, not_not.mpr rfl⟩)]
    rfl

theorem pubkeyOf_toList {key : Pubkey} : pubkeyOf key.toList = key := by
  obtain ⟨bytes, sized⟩ := key
  exact Subtype.ext (take_left' sized)

theorem toList_pubkeyOf (sized : bytes.length = 32) : (pubkeyOf bytes).toList = bytes :=
  take_left' sized

theorem encode_ofNat_decode (sized : bytes.length = 4) :
    BigEndian.encode 4 (UInt32.ofNat (BigEndian.decode bytes)).toNat = bytes := by
  have small := BigEndian.decode_lt bytes
  rw [sized] at small
  rw [UInt32.toNat_ofNat_of_lt' small, ← sized]
  exact BigEndian.encode_decode _

theorem ofNat_decode_encode (value : UInt32) :
    UInt32.ofNat (BigEndian.decode (BigEndian.encode 4 value.toNat)) = value := by
  have small : value.toNat < 256 ^ 4 := value.toNat_lt
  have number : BigEndian.decode (BigEndian.encode 4 value.toNat) = value.toNat :=
    BigEndian.decode_encode small
  rw [number, UInt32.ofNat_toNat]

/-- A message as the fields around its label, and back. -/
structure Layout (Message : Type) where
  magic : Bytes
  front : Nat
  back : Nat
  before : Message → Bytes
  peer : Message → Text
  after : Message → Bytes
  build : Bytes → Text → Bytes → Message
  magical : magic.length = 4
  widths : ∀ msg, (before msg).length = front ∧ (after msg).length = back
  rebuilt : ∀ msg, build (before msg) (peer msg) (after msg) = msg
  found :
    ∀ fields label rest, fields.length = front → rest.length = back →
      before (build fields label rest) = fields ∧
        peer (build fields label rest) = label ∧ after (build fields label rest) = rest

namespace Layout

variable {Message Other : Type} (layout : Layout Message)

def encode (msg : Message) : Option Bytes := do
  let (length, label) ← encodePeer (layout.peer msg)
  return layout.magic ++ layout.before msg ++ length ++ label ++ layout.after msg

def decode (bytes : Bytes) : Option Message := do
  let (before, peer, after) ← decodeParts layout.magic layout.front layout.back bytes
  return layout.build before peer after

variable {msg : Message}

theorem decode_eq_some_iff : layout.decode bytes = some msg ↔ layout.encode msg = some bytes := by
  constructor
  · intro decoded
    obtain ⟨⟨fields, label, rest⟩, parts, same⟩ := bind_eq_some_iff.mp decoded
    cases same
    obtain ⟨frontSized, backSized, length, coded, encoded, rfl⟩ :=
      (decodeParts_eq_some_iff layout.magical).mp parts
    obtain ⟨before, peer, after⟩ := layout.found _ _ _ frontSized backSized
    unfold encode
    rw [before, peer, after, encoded]
    rfl
  · intro encoded
    obtain ⟨⟨length, label⟩, labelled, same⟩ := bind_eq_some_iff.mp encoded
    cases same
    obtain ⟨frontSized, backSized⟩ := layout.widths _
    unfold decode
    rw [(decodeParts_eq_some_iff layout.magical).mpr
      ⟨frontSized, backSized, length, label, labelled, rfl⟩]
    exact congrArg _ (layout.rebuilt _)

theorem exists_encode (short : (utf8 (layout.peer msg)).length ≤ MAX_PEER_BYTES) :
    ∃ bytes, layout.encode msg = some bytes := by
  unfold encode
  rw [encodePeer_eq_some_iff.mpr ⟨short, rfl, rfl⟩]
  exact ⟨_, rfl⟩

theorem encode_eq_none (long : MAX_PEER_BYTES < (utf8 (layout.peer msg)).length) :
    layout.encode msg = none := by
  unfold encode encodePeer
  rw [if_neg fun short => not_lt.mpr short.2 long]
  rfl

/-- The magic tells which layout a message has. -/
theorem take_magic (decoded : layout.decode bytes = some msg) : bytes.take 4 = layout.magic := by
  obtain ⟨_, parts, -⟩ := bind_eq_some_iff.mp decoded
  obtain ⟨-, -, length, label, -, rfl⟩ := (decodeParts_eq_some_iff layout.magical).mp parts
  simp only [append_assoc]
  exact take_left' layout.magical

theorem excludes {other : Layout Other} (differs : layout.magic ≠ other.magic)
    (accepted : layout.decode bytes ≠ none) : other.decode bytes = none := by
  obtain ⟨msg, decoded⟩ := ne_none_iff_exists'.mp accepted
  refine eq_none_iff_forall_ne_some.mpr fun alien misread => ?_
  exact differs ((layout.take_magic decoded).symm.trans (other.take_magic misread))

end Layout

def PairingRequest.layout : Layout PairingRequest where
  magic := PAIR_CONFIRMATION_MAGIC
  front := 12
  back := 0
  before req := BigEndian.encode 8 req.id.toNat ++ BigEndian.encode 4 req.passkey.toNat
  peer := PairingRequest.peer
  after _ := []
  build fields peer _ := {
    id := .ofNat (BigEndian.decode (fields.take 8))
    passkey := .ofNat (BigEndian.decode (fields.drop 8))
    peer }
  magical := rfl
  widths _ := ⟨rfl, rfl⟩
  rebuilt := by
    rintro ⟨id, peer, passkey⟩
    congr 1
    · exact fromBeBytes_toBeBytes id
    · exact ofNat_decode_encode passkey
  found := by
    intro fields label rest frontSized backSized
    have id : BigEndian.encode 8 (fromBeBytes (fields.take 8)).toNat = fields.take 8 :=
      toBeBytes_fromBeBytes (by simp [frontSized])
    have passkey := @encode_ofNat_decode (fields.drop 8) (by simp [frontSized])
    refine ⟨?_, rfl, (length_eq_zero_iff.mp backSized).symm⟩
    exact (congrArg₂ (· ++ ·) id passkey).trans (take_append_drop 8 fields)

def OobRequest.layout : Layout OobRequest where
  magic := PAIR_OOB_MAGIC
  front := 8
  back := 64
  before req := BigEndian.encode 8 req.id.toNat
  peer := OobRequest.peer
  after req := req.hostPubkey.toList ++ req.phonePubkey.toList
  build id peer keys := {
    id := .ofNat (BigEndian.decode id)
    peer
    hostPubkey := pubkeyOf (keys.take 32), phonePubkey := pubkeyOf (keys.drop 32) }
  magical := rfl
  widths req := ⟨rfl, by simp⟩
  rebuilt := by
    rintro ⟨id, peer, host, phone⟩
    have sized : host.toList.length = 32 := host.toList_length
    congr 1
    · exact fromBeBytes_toBeBytes id
    · rw [take_left' sized, pubkeyOf_toList]
    · rw [drop_left' sized, pubkeyOf_toList]
  found := by
    intro fields label rest frontSized backSized
    refine ⟨toBeBytes_fromBeBytes frontSized, rfl, ?_⟩
    dsimp only
    rw [toList_pubkeyOf (by simp [backSized]),
      toList_pubkeyOf (by simp [backSized]), take_append_drop]

def BondedNotice.layout : Layout BondedNotice where
  magic := PAIR_BONDED_MAGIC
  front := 0
  back := 0
  before _ := []
  peer := BondedNotice.peer
  after _ := []
  build _ peer _ := { peer }
  magical := rfl
  widths _ := ⟨rfl, rfl⟩
  rebuilt _ := rfl
  found _ _ _ frontSized backSized :=
    ⟨(length_eq_zero_iff.mp frontSized).symm, rfl, (length_eq_zero_iff.mp backSized).symm⟩

def PairingRequest.decode : Bytes → Option PairingRequest := PairingRequest.layout.decode

def OobRequest.decode : Bytes → Option OobRequest := OobRequest.layout.decode

def BondedNotice.decode : Bytes → Option BondedNotice := BondedNotice.layout.decode

theorem PairingRequest.encode_eq (req : PairingRequest) :
    req.encode = PairingRequest.layout.encode req := by
  simp [encode, GuiEvent.encode, Layout.encode, layout]

theorem OobRequest.encode_eq (req : OobRequest) : req.encode = OobRequest.layout.encode req := by
  simp [encode, GuiEvent.encode, Layout.encode, layout]

theorem BondedNotice.encode_eq (notice : BondedNotice) :
    notice.encode = BondedNotice.layout.encode notice := by
  simp [encode, GuiEvent.encode, Layout.encode, layout]

/-- Labels that fit are read back, only encodings are read. -/
structure LabelledFormat {Message : Type} (peer : Message → Text)
    (encode : Message → Option Bytes) (decode : Bytes → Option Message) : Prop where
  round_trip :
    ∀ msg, (utf8 (peer msg)).length ≤ MAX_PEER_BYTES →
      ∃ bytes, encode msg = some bytes ∧ decode bytes = some msg
  canonical : ∀ bytes msg, decode bytes = some msg → encode msg = some bytes
  refuses : ∀ msg, MAX_PEER_BYTES < (utf8 (peer msg)).length → encode msg = none

theorem Layout.labelledFormat {Message : Type} (layout : Layout Message)
    {encode : Message → Option Bytes} (same : ∀ msg, encode msg = layout.encode msg) :
    LabelledFormat layout.peer encode layout.decode := by
  obtain rfl : encode = layout.encode := funext same
  refine ⟨?_, ?_, fun _ => layout.encode_eq_none⟩
  · intro msg short
    obtain ⟨bytes, encoded⟩ := layout.exists_encode short
    exact ⟨bytes, encoded, layout.decode_eq_some_iff.mpr encoded⟩
  · exact fun _ _ => layout.decode_eq_some_iff.mp

/--
The three messages have formats of their own: each reads back what it writes
and nothing else, and what one of them reads the others refuse.
-/
theorem broker_messages_canonical :
    LabelledFormat PairingRequest.peer PairingRequest.encode
        PairingRequest.decode ∧
      LabelledFormat OobRequest.peer OobRequest.encode OobRequest.decode ∧
      LabelledFormat BondedNotice.peer BondedNotice.encode BondedNotice.decode ∧
      ∀ bytes,
        (PairingRequest.decode bytes ≠ none →
            OobRequest.decode bytes = none ∧ BondedNotice.decode bytes = none) ∧
          (OobRequest.decode bytes ≠ none →
            PairingRequest.decode bytes = none ∧ BondedNotice.decode bytes = none) ∧
          (BondedNotice.decode bytes ≠ none →
            PairingRequest.decode bytes = none ∧ OobRequest.decode bytes = none) := by
  refine ⟨PairingRequest.layout.labelledFormat PairingRequest.encode_eq,
      OobRequest.layout.labelledFormat OobRequest.encode_eq,
      BondedNotice.layout.labelledFormat BondedNotice.encode_eq, ?_⟩
  intro bytes
  refine ⟨fun accepted => ?_, fun accepted => ?_, fun accepted => ?_⟩
  · exact ⟨Layout.excludes _ (by decide) accepted, Layout.excludes _ (by decide) accepted⟩
  · exact ⟨Layout.excludes _ (by decide) accepted, Layout.excludes _ (by decide) accepted⟩
  · exact ⟨Layout.excludes _ (by decide) accepted, Layout.excludes _ (by decide) accepted⟩

end DeskUnlock.Pairing
