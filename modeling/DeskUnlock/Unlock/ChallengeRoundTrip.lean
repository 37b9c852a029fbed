import DeskUnlock.Unlock.Orchestrator
import DeskUnlock.Unlock.PhoneApproval
import DeskUnlock.Unlock.ResponseDemux

/-!
# A challenge and its approval

The frame that the desktop notifies, what the phone makes of it, and what the
desktop makes of the answer.  The two sides are written in two languages and
agree on the layout of a frame: the phone cuts the tag off by its width, and
the desktop verifies the signature over the frame it has built itself.
-/

namespace DeskUnlock.Unlock

open Texts Runs Dialogues List
open Pairing (Bytes)
open Recovery (BondKey Primitives)

variable {SigningKey : Type} (crypto : Crypto SigningKey)

/-- The library accepts what it has signed. -/
def Crypto.AcceptsOwn : Prop :=
  ∀ secret msg,
    crypto.onCurve (crypto.verifyingKey secret) = true ∧
      crypto.wellFormed (crypto.sign secret msg) = true ∧
      crypto.verifyStrict (crypto.verifyingKey secret) msg (crypto.sign secret msg) = true

/-- No signature starts like a signal strength sample. -/
def Crypto.UnlikeRssi : Prop :=
  ∀ secret msg, ¬ RSSI_TELEMETRY_PREFIX <+: (crypto.sign secret msg).toList

theorem challengeBody_wire {frame : Frame} {body wire : Bytes}
    (encoded : frame.encode [] = .ok wire) (bodied : frame.bodyBytes = .ok body) :
    challengeBody wire = body := by
  obtain ⟨other, same, rfl⟩ := Frame.encode_eq_ok_iff.mp encoded
  cases bodied.symm.trans same
  have tagged : frame.tag.toList.length = 16 := frame.tag.toList_length
  have nonempty : 0 < body.length := by
    rw [(Frame.bodyBytes_eq_ok_iff.mp bodied).2]
    simp
  have length : (body ++ frame.tag.toList).length = body.length + 16 := by
    rw [length_append, tagged]
  unfold challengeBody
  rw [nil_append, if_pos (by omega), length]
  exact take_left

theorem isRevokeFrame_wire {frame : Frame} {wire : Bytes} (encoded : frame.encode [] = .ok wire) :
    isRevokeFrame wire = false := by
  obtain ⟨body, bodied, rfl⟩ := Frame.encode_eq_ok_iff.mp encoded
  obtain ⟨-, rfl⟩ := Frame.bodyBytes_eq_ok_iff.mp bodied
  have length := length_wire frame
  have longer : TRANSACTION_MESSAGE_LENGTH < MIN_FRAME_LEN := by decide
  unfold isRevokeFrame
  rw [nil_append, decide_eq_false (by omega : ¬ _ = TRANSACTION_MESSAGE_LENGTH)]
  rfl

/--
The wire format of a frame: what is appended decodes to it, only encodings
decode, and the phone and the desktop cut the same body off its tag.
-/
theorem frames_canonical :
    (∀ (frame : Frame) (buf : Bytes),
      frame.version = SYAUTH_WIRE_VERSION_V1 →
        frame.payload.length ≤ MAX_PAYLOAD_LEN →
          ∃ wire,
            frame.encodeInto buf = (.ok (), buf ++ wire) ∧
              Frame.decode wire = .ok frame ∧
              frame.bodyBytes = .ok (wire.take (wire.length - TAG_LEN))) ∧
      (∀ (input : Bytes) (frame : Frame),
        Frame.decode input = .ok frame → ∀ buf, frame.encodeInto buf = (.ok (), buf ++ input)) ∧
      (∀ input : Bytes,
        (∃ frame, Frame.decode input = .ok frame) ↔
          MIN_FRAME_LEN ≤ input.length ∧
            input.length ≤ MIN_FRAME_LEN + MAX_PAYLOAD_LEN ∧
            input.head? = some SYAUTH_WIRE_VERSION_V1) ∧
      (∀ (frame : Frame) (buf : Bytes),
        MAX_PAYLOAD_LEN < frame.payload.length → frame.encodeInto buf = (.error .badLength, buf)) ∧
      ∀ (libs : Primitives) (phone : Phone SigningKey)
        (arrival : Arrival) (frame : Frame),
        Frame.decode arrival.frameBytes = .ok frame →
          ∃ body,
            frame.bodyBytes = .ok body ∧
              body = arrival.frameBytes.take (arrival.frameBytes.length - 16) ∧
              phone.handleIncomingFrame libs arrival =
                phone.launchApprovalActivity arrival body := by
  refine ⟨?_, ?_, fun _ => Frame.decode_isOk_iff, ?_, ?_⟩
  · intro frame buf version bounded
    have bodied := Frame.bodyBytes_eq_ok_iff.mpr ⟨bounded, rfl⟩
    have encoded := (@Frame.encode_eq_ok_iff _ []).mpr ⟨_, bodied, rfl⟩
    refine
      ⟨_, Frame.encodeInto_of_encode encoded _, Frame.decode_eq_ok_iff.mpr ⟨version, encoded⟩, ?_⟩
    rw [bodied, nil_append, length_append, frame.tag.toList_length, Nat.add_sub_cancel, take_left]
  · intro input frame decoded
    exact Frame.encodeInto_of_encode (Frame.decode_eq_ok_iff.mp decoded).2
  · intro frame buf large
    exact if_pos large
  · intro libs phone arrival frame decoded
    have encoded := (Frame.decode_eq_ok_iff.mp decoded).2
    obtain ⟨body, bodied, -⟩ := Frame.encode_eq_ok_iff.mp encoded
    have same := challengeBody_wire encoded bodied
    have long := (Frame.decode_isOk_iff.mp ⟨frame, decoded⟩).1
    refine ⟨body, bodied, ?_, ?_⟩
    · rw [← same]
      exact if_pos (lt_of_lt_of_le (by decide) long)
    · unfold Phone.handleIncomingFrame
      rw [isRevokeFrame_wire encoded, same]
      rfl

theorem challenge_canonical :
    let frame : Frame :=
      ⟨SYAUTH_WIRE_VERSION_V1, .replicate 16 3, "challenge".toUTF8.toList, .replicate 16 9⟩
    ∃ wire, Frame.decode wire = .ok frame ∧
      ∀ buf, frame.encodeInto buf = (.ok (), buf ++ wire) := by
  intro frame
  obtain ⟨wire, -, decoded, -⟩ := (@frames_canonical Unit).1 frame [] rfl (by decide +kernel)
  exact ⟨wire, decoded, (@frames_canonical Unit).2.1 _ _ decoded⟩

theorem verifyChallengeFrame_wire {bondKey : BondKey} {frame : Frame} {body wire : Bytes}
    (version : frame.version = SYAUTH_WIRE_VERSION_V1) (bodied : frame.bodyBytes = .ok body)
    (tagged : frame.tag = computeTag crypto bondKey body) (encoded : frame.encode [] = .ok wire) :
    verifyChallengeFrame crypto bondKey.toList wire = .ok frame.payload :=
  (verifyChallengeFrame_eq_ok_iff _).mpr
    ⟨bondKey, frame, body, rfl, Frame.decode_eq_ok_iff.mpr ⟨version, encoded⟩, bodied, tagged, rfl⟩

namespace Phone

/-- Nothing keeps the phone from signing for the bond with this key. -/
structure Ready (phone : Phone SigningKey) (bond : BondRecord) (secret : SigningKey) : Prop where
  idle : phone.activity = none
  running : bond ∈ phone.clients
  named : bond.peerId ≠ []
  hosted : ∀ challengeBytes, (phone.approvalIntent bond.peerId challengeBytes).hostname ≠ []
  key :
    ∀ challengeBytes,
      phone.openPrivateKey
        (phone.approvalIntent bond.peerId challengeBytes).keystoreAlias = some secret

def approvedRun (phone : Phone SigningKey) (arrival : Arrival) : List (Event SigningKey) :=
  [.notified arrival, .intentDelivered phone.dispatched.length,
    .postResumed .ready, .promptEnded .succeeded]

theorem responses_approvedRun (libs : Primitives) {phone : Phone SigningKey}
    {bond : BondRecord} {secret : SigningKey} (ready : phone.Ready bond secret)
    {frameBytes : Bytes} (challenge : isRevokeFrame frameBytes = false) :
    (run (step crypto libs) phone
      (phone.approvedRun ⟨bond, frameBytes⟩)).responses =
        phone.responses ++
          [⟨⟨bond, frameBytes⟩, (crypto.sign secret (challengeBody frameBytes)).toList⟩] := by
  have launched : phone.step crypto libs (.notified ⟨bond, frameBytes⟩) =
      phone.launchApprovalActivity ⟨bond, frameBytes⟩ (challengeBody frameBytes) := by
    simp only [step, handleIncomingFrame]
    rw [if_pos ready.running, if_pos (by rw [challenge]; rfl)]
  have complete : ¬ ((phone.approvalIntent bond.peerId (challengeBody frameBytes)).peerId = [] ∨
        (phone.approvalIntent bond.peerId (challengeBody frameBytes)).hostname = []) :=
    not_or.mpr ⟨ready.named, ready.hosted _⟩
  have opened := ready.key (challengeBody frameBytes)
  have connected : phone.clients.any (·.peerId = bond.peerId) = true :=
    any_eq_true.mpr ⟨bond, ready.running, decide_eq_true rfl⟩
  simp only [approvedRun, run_cons, launched]
  simp only [step, launchApprovalActivity, ready.idle,
    getElem?_concat_length, onCreate, if_neg complete, onPostResume, onApproveClicked]
  unfold openPrivateKey at opened ⊢
  simp only [opened]
  exact if_pos connected

end Phone

/--
A challenge that the phone approves is authentic, is signed as the desktop
verifies it, and is accepted.
-/
theorem challenge_round_trip (crypto : Crypto SigningKey) (libs : Primitives)
    (accepts : crypto.AcceptsOwn) (unlike : crypto.UnlikeRssi) (peerId : Text) (nonce : Nonce)
    (deadlineMs tStartMs : Nat) (secret : SigningKey) {peerState : PeerState}
    (registered : peerState.phonePubkey = crypto.verifyingKey secret) {phone : Phone SigningKey}
    {bond : BondRecord} (shared : bond.bondKey = peerState.bondKey.toList)
    (ready : phone.Ready bond secret) {cache : NonceCache} (fresh : cache.contains nonce = false) :
    ∃ (wire body : Bytes) (challenge : Frame) (sig : Signature),
      (runChallenge crypto peerId nonce deadlineMs peerState
          tStartMs).question? = some (.notifyChallenge peerId wire) ∧
        Frame.decode wire = .ok challenge ∧ challenge.nonce = nonce ∧
        challenge.bodyBytes = .ok body ∧ verifyChallengeFrame crypto bond.bondKey wire = .ok [] ∧
        isRevokeFrame wire = false ∧
        (run (Phone.step crypto libs) phone
          (phone.approvedRun ⟨bond, wire⟩)).responses =
            phone.responses ++ [⟨⟨bond, wire⟩, sig.toList⟩] ∧
        sig = crypto.sign secret body ∧
        verifyFrame crypto peerState.phonePubkey challenge sig = .ok () ∧
        routeWrite sig.toList = .response sig.toList ∧
        ∀ oracle : Oracle DaemonAnswer,
          oracle (.notifyChallenge peerId wire) = .ok () →
            oracle (.waitForResponse peerId deadlineMs) = .ok sig.toList →
            oracle (.checkNonce peerState.entry nonce) = cache.contains nonce →
            (runChallenge crypto peerId nonce deadlineMs peerState
              tStartMs).resolve oracle = .ok sig := by
  obtain ⟨onCurve, wellFormed, verified⟩ := accepts _ _
  obtain ⟨wire, encoded⟩ := taggedChallenge_encode _
  have bodied := taggedChallenge_bodyBytes crypto peerState.bondKey nonce
  have challenge := isRevokeFrame_wire encoded
  have signed := Phone.responses_approvedRun crypto libs ready challenge
  rw [challengeBody_wire encoded bodied] at signed
  have verified :
      verifyFrame crypto peerState.phonePubkey
        (taggedChallenge crypto peerState.bondKey nonce)
        (crypto.sign secret (SYAUTH_WIRE_VERSION_V1 :: nonce.toList)) = .ok () := by
    rw [verifyFrame_eq_ok_iff, registered]
    exact ⟨_, bodied, verified⟩
  refine ⟨wire, SYAUTH_WIRE_VERSION_V1 :: nonce.toList,
      taggedChallenge _ _ _, crypto.sign _ _,
      ?_, ?_, rfl, bodied, ?_, challenge, signed, rfl, verified,
      routeWrite_signature (unlike _ _), ?_⟩
  · rw [runChallenge_eq _ encoded]
    rfl
  · exact Frame.decode_eq_ok_iff.mpr ⟨rfl, encoded⟩
  · rw [shared]
    exact verifyChallengeFrame_wire _ rfl bodied rfl encoded
  · intro oracle notified responded checked
    rw [runChallenge_eq _ encoded]
    simp only [Dialogue.resolve, notified, responded]
    rw [fresh] at checked
    apply judgeResponse_resolve
    · exact (parseSignature_eq_some_iff _).mpr ⟨rfl, wellFormed⟩
    · rw [registered]
      exact onCurve
    · exact verified
    · exact checked

theorem sampleCrypto_acceptsOwn : sampleCrypto.AcceptsOwn :=
  fun _ _ => ⟨rfl, rfl, decide_eq_true rfl⟩

/-- A signature of the stand-in starts with a zero byte. -/
theorem sampleCrypto_unlikeRssi : sampleCrypto.UnlikeRssi := by
  rintro secret msg ⟨rest, same⟩
  have starts : (sampleCrypto.sign secret msg).toList.head? = some 0 := by
    simp [sampleCrypto, padded, SIGNATURE_LEN]
  have letter : RSSI_TELEMETRY_PREFIX.head? = some 83 := by decide
  rw [← same, head?_append, letter, Option.some_or] at starts
  exact absurd starts (by decide)

def samplePeerState : PeerState where
  phonePubkey := Phone.sampleKey
  bondKey := .replicate 32 5
  entry := 0

theorem samplePhone_ready :
    Phone.samplePhone.Ready Phone.sampleBond Phone.sampleKey where
  idle := rfl
  running := mem_singleton_self _
  named := by decide
  hosted _ := nofun
  key _ := rfl

/-- The phone of the sample approves a challenge, and it is accepted. -/
theorem sample_challenge_accepted :
    ∃ (wire : Bytes) (sig : Signature),
      (run (Phone.step sampleCrypto Phone.samplePrimitives) Phone.samplePhone
          (Phone.samplePhone.approvedRun ⟨Phone.sampleBond, wire⟩)).responses =
          [⟨⟨Phone.sampleBond, wire⟩, sig.toList⟩] ∧
        ∀ oracle : Oracle DaemonAnswer,
          oracle (.notifyChallenge [] wire) = .ok () →
            oracle (.waitForResponse [] 20000) = .ok sig.toList →
            oracle (.checkNonce 0 (.replicate 16 3)) = false →
            (runChallenge sampleCrypto [] (.replicate 16 3) 20000
              samplePeerState 0).resolve oracle = .ok sig := by
  have registered : samplePeerState.phonePubkey = sampleCrypto.verifyingKey Phone.sampleKey := rfl
  have fresh : NonceCache.new.contains (.replicate 16 3) = false := rfl
  obtain ⟨wire, -, -, sig, -, -, -, -, -, -, sent, -, -, -, accepted⟩ :=
    challenge_round_trip _ _
      sampleCrypto_acceptsOwn sampleCrypto_unlikeRssi [] (.replicate 16 3)
      20000 0 _ registered rfl samplePhone_ready fresh
  exact ⟨wire, sig, sent, accepted⟩

end DeskUnlock.Unlock
