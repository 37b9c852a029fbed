import DeskUnlock.Unlock.Rpc

/-!
# Challenges

The challenge state machine of `syauth-presenced/src/orchestrator.rs`.  A task
of the daemon that serves a connection is a program; everything it reads from
or does to the rest of the system is a question of `DaemonQuestion`: the peer
map, the semaphore, the replay cache and the audit log of the orchestrator,
the peripheral, the clock, the random generator and the socket.

A peer entry is named by a number, so that a task keeps the entry it looked up
when the map has meanwhile changed.
-/

namespace DeskUnlock.Unlock

open Texts Dialogues List
open Pairing (Bytes Pubkey)
open Recovery (BondKey)
open Rpc (SystemTime PeerStatus)

/-- Errors of the peripheral. -/
inductive PeripheralError where
  | adapterMissing (name : Text)
  | unknownPeer (peerId : Text)
  | peerAlreadyAdded (peerId : Text)
  | backend (reason : Text)
  | cancelled
  | responseTimeout (peerId : Text) (deadlineMs : Nat)
deriving DecidableEq

def PeripheralError.text : PeripheralError → Text
  | .adapterMissing name => "bluetooth adapter '".toList ++ name ++ "' not found".toList
  | .unknownPeer peerId => "unknown peer: peer_id=".toList ++ peerId
  | .peerAlreadyAdded peerId => "peer already added: peer_id=".toList ++ peerId
  | .backend reason => "peripheral backend error: ".toList ++ reason
  | .cancelled => "challenge cancelled".toList
  | .responseTimeout peerId deadlineMs =>
    "response timed out: peer_id=".toList ++ peerId ++
      " deadline=".toList ++ decimal deadlineMs ++ "ms".toList

def OUTCOME_REASON_OK : Text := "ok".toList

def OUTCOME_REASON_DENIED : Text := "denied".toList

def OUTCOME_REASON_REPLAY : Text := "replay".toList

def OUTCOME_REASON_BAD_SIGNATURE : Text := "bad-signature".toList

def OUTCOME_REASON_RESPONSE_TIMEOUT : Text := "response-timeout".toList

def OUTCOME_REASON_UNKNOWN_PEER : Text := "unknown-peer".toList

def OUTCOME_REASON_TRANSPORT_ERROR : Text := "transport-error".toList

def OUTCOME_REASON_BUSY : Text := "busy".toList

inductive ChallengeOutcome where
  | ok (sig : Signature)
  | denied
  | replay
  | badSignature
  | timedOut
  | unknownPeer
  | busy
  | transportError (error : PeripheralError)
deriving DecidableEq

namespace ChallengeOutcome

def reasonStr : ChallengeOutcome → Text
  | .ok _ => OUTCOME_REASON_OK
  | .denied => OUTCOME_REASON_DENIED
  | .replay => OUTCOME_REASON_REPLAY
  | .badSignature => OUTCOME_REASON_BAD_SIGNATURE
  | .timedOut => OUTCOME_REASON_RESPONSE_TIMEOUT
  | .unknownPeer => OUTCOME_REASON_UNKNOWN_PEER
  | .busy => OUTCOME_REASON_BUSY
  | .transportError _ => OUTCOME_REASON_TRANSPORT_ERROR

def signatureBytes : ChallengeOutcome → Option Bytes
  | .ok sig => some sig.toList
  | _ => none

def isOk : ChallengeOutcome → Bool
  | .ok _ => true
  | _ => false

end ChallengeOutcome

def challengeOutcomeForTransport : PeripheralError → ChallengeOutcome
  | .unknownPeer _ => .unknownPeer
  | .responseTimeout _ _ => .timedOut
  | other => .transportError (.backend other.text)

def NONCE_LRU_CAP : Nat := 64

/-- The nonces accepted last, the oldest first. -/
structure NonceCache where nonces : List Nonce

namespace NonceCache

def new : NonceCache := ⟨[]⟩

def contains (cache : NonceCache) (nonce : Nonce) : Bool := cache.nonces.any (· = nonce)

def insert (cache : NonceCache) (nonce : Nonce) : NonceCache :=
  let nonces := cache.nonces ++ [nonce]
  if NONCE_LRU_CAP < nonces.length then ⟨nonces.drop 1⟩ else ⟨nonces⟩

end NonceCache

/-- What a task keeps of the entry of its peer. -/
structure PeerState where
  phonePubkey : Pubkey
  bondKey : BondKey
  /-- The entry that holds the cache, the slot and the liveness. -/
  entry : Nat
deriving DecidableEq

structure AuditRecord where
  peerId : Text
  nonceHex : Text
  tStartMs : Nat
  tEndMs : Nat
  outcome : Text
  reason : Text
deriving DecidableEq

/-- The handles that the server finds for one request. -/
structure BackendState where
  reloadTx : Bool
  orchestrator : Bool

/-- What a task of the daemon asks of the rest. -/
inductive DaemonQuestion where
  /-- `getsockopt` for the credentials of the socket peer. -/
  | peerCredentials
  | backend
  | readExact (count : Nat)
  | write (bytes : Bytes)
  | sendReload
  | peersSnapshot
  | now
  | lookupPeer (peerId : Text)
  /-- Wait for the slot of an entry, at most `BUSY_QUEUE_DEADLINE`. -/
  | acquireSlot (entry : Nat)
  | releaseSlot (entry : Nat)
  | stampLiveness (entry : Nat) (time : SystemTime)
  /-- `getrandom::fill`. -/
  | random
  | notifyChallenge (peerId : Text) (frame : Bytes)
  | waitForResponse (peerId : Text) (deadlineMs : Nat)
  /-- Is the nonce in the cache?  If not, it is inserted. -/
  | checkNonce (entry : Nat) (nonce : Nonce)
  | audit (record : AuditRecord)

abbrev DaemonAnswer : DaemonQuestion → Type
  | .peerCredentials => Except Text Nat
  | .backend => BackendState
  | .readExact _ => Except Text Bytes
  | .write _ => Except Text Unit
  | .sendReload => Bool
  | .peersSnapshot => List PeerStatus
  | .now => SystemTime
  | .lookupPeer _ => Option PeerState
  | .acquireSlot _ => Bool
  | .releaseSlot _ => Unit
  | .stampLiveness _ _ => Unit
  | .random => Except Text Nonce
  | .notifyChallenge _ _ => Except PeripheralError Unit
  | .waitForResponse _ _ => Except PeripheralError Bytes
  | .checkNonce _ _ => Bool
  | .audit _ => Unit

/-- No peer is known, no phone answers, and everything else succeeds. -/
def silentChoice : Oracle DaemonAnswer
  | .peerCredentials => .ok 0
  | .backend => ⟨true, true⟩
  | .readExact _ => .ok []
  | .write _ => .ok ()
  | .sendReload => true
  | .peersSnapshot => []
  | .now => 0
  | .lookupPeer _ => none
  | .acquireSlot _ => true
  | .releaseSlot _ => ()
  | .stampLiveness _ _ => ()
  | .random => .ok (.replicate 16 3)
  | .notifyChallenge _ _ => .ok ()
  | .waitForResponse _ _ => .error .cancelled
  | .checkNonce _ _ => false
  | .audit _ => ()

abbrev DaemonM := Dialogue DaemonQuestion DaemonAnswer

abbrev DaemonTurn := Turn DaemonQuestion DaemonAnswer

def put (ask : DaemonQuestion) : DaemonM (DaemonAnswer ask) := .ask ask .done

/-- Whole milliseconds since the epoch; zero before it. -/
def epochMillis (time : SystemTime) : Nat := (time / 1000000).toNat

def ZERO_NONCE_HEX : Text := List.replicate 32 '0'

def auditAt (peerId nonceHex : Text) (tStartMs tEndMs : Nat) (reason : Text) : DaemonM Unit :=
  put (.audit {
    peerId := peerId, nonceHex := nonceHex, tStartMs := tStartMs, tEndMs := tEndMs
    outcome := reason, reason := reason })

def auditOutcome (peerId nonceHex : Text) (tStartMs : Nat) (reason : Text) : DaemonM Unit :=
  auditAt peerId nonceHex tStartMs tStartMs reason

/-- Take the time, audit the reason and return the outcome. -/
def conclude (peerId nonceHex : Text) (tStartMs : Nat) (reason : Text)
    (out : ChallengeOutcome) : DaemonM ChallengeOutcome := do
  let tEnd ← put .now
  auditAt peerId nonceHex tStartMs (epochMillis tEnd) reason
  return out

section

variable {SigningKey : Type} (crypto : Crypto SigningKey)

def parseSignature (bytes : Bytes) : Option Signature :=
  if sized : bytes.length = SIGNATURE_LEN then
    if crypto.wellFormed ⟨bytes, sized⟩ then some ⟨bytes, sized⟩ else none
  else none

/-- The part of `run_challenge` that follows the response. -/
def judgeResponse (peerId nonceHex : Text) (nonce : Nonce) (peerState : PeerState)
    (tStartMs : Nat) (challenge : Frame) (responseBytes : Bytes) : DaemonM ChallengeOutcome := do
  match parseSignature crypto responseBytes with
  | none => conclude peerId nonceHex tStartMs OUTCOME_REASON_BAD_SIGNATURE .badSignature
  | some sig =>
    if !crypto.onCurve peerState.phonePubkey then
      conclude peerId nonceHex tStartMs OUTCOME_REASON_BAD_SIGNATURE .badSignature
    else
      match verifyFrame crypto peerState.phonePubkey challenge sig with
      | .error _ => conclude peerId nonceHex tStartMs OUTCOME_REASON_BAD_SIGNATURE .badSignature
      | .ok () =>
        if ← put (.checkNonce peerState.entry nonce) then
          conclude peerId nonceHex tStartMs OUTCOME_REASON_REPLAY .replay
        else conclude peerId nonceHex tStartMs OUTCOME_REASON_OK (.ok sig)

def runChallenge (peerId : Text) (nonce : Nonce) (deadlineMs : Nat)
    (peerState : PeerState) (tStartMs : Nat) : DaemonM ChallengeOutcome := do
  let nonceHex := hexText nonce.toList
  let challenge : Frame := {
    version := SYAUTH_WIRE_VERSION_V1, nonce := nonce, payload := [], tag := .replicate TAG_LEN 0 }
  match challenge.bodyBytes with
  | .error error =>
    conclude peerId nonceHex tStartMs OUTCOME_REASON_TRANSPORT_ERROR
      (.transportError (.backend ("challenge body_bytes: ".toList ++ error.text)))
  | .ok body =>
    let challenge := { challenge with tag := computeTag crypto peerState.bondKey body }
    match challenge.encode [] with
    | .error error =>
      conclude peerId nonceHex tStartMs OUTCOME_REASON_TRANSPORT_ERROR
        (.transportError (.backend ("encode challenge frame: ".toList ++ error.text)))
    | .ok encoded =>
      match ← put (.notifyChallenge peerId encoded) with
      | .error error =>
        let out := challengeOutcomeForTransport error
        conclude peerId nonceHex tStartMs out.reasonStr out
      | .ok () =>
        match ← put (.waitForResponse peerId deadlineMs) with
        | .error (.responseTimeout _ _) =>
          conclude peerId nonceHex tStartMs OUTCOME_REASON_RESPONSE_TIMEOUT .timedOut
        | .error error =>
          let out := challengeOutcomeForTransport error
          conclude peerId nonceHex tStartMs out.reasonStr out
        | .ok responseBytes =>
          judgeResponse crypto peerId nonceHex nonce peerState tStartMs challenge responseBytes

/--
`issue_challenge_cancellable` and its variant with a given nonce, which differ
in where the nonce comes from.
-/
def issueChallengeFrom (nonceSource : DaemonM (Except Text Nonce))
    (peerId : Text) (deadlineMs : Nat) : DaemonM ChallengeOutcome := do
  let tStartMs := epochMillis (← put .now)
  match ← put (.lookupPeer peerId) with
  | none =>
    auditOutcome peerId ZERO_NONCE_HEX tStartMs OUTCOME_REASON_UNKNOWN_PEER
    return .unknownPeer
  | some peerState =>
    if ← put (.acquireSlot peerState.entry) then
      put (.stampLiveness peerState.entry (← put .now))
      match ← nonceSource with
      | .error error =>
        let out ←
          conclude peerId ZERO_NONCE_HEX tStartMs
            OUTCOME_REASON_TRANSPORT_ERROR
            (.transportError (.backend ("nonce rng: ".toList ++ error)))
        put (.releaseSlot peerState.entry)
        return out
      | .ok nonce =>
        let out ← runChallenge crypto peerId nonce deadlineMs peerState tStartMs
        put (.releaseSlot peerState.entry)
        return out
    else conclude peerId ZERO_NONCE_HEX tStartMs OUTCOME_REASON_BUSY .busy

def issueChallengeCancellable (peerId : Text) (deadlineMs : Nat) : DaemonM ChallengeOutcome :=
  issueChallengeFrom crypto (put .random) peerId deadlineMs

def issueChallengeWithNonceCancellable (peerId : Text) (nonce : Nonce)
    (deadlineMs : Nat) : DaemonM ChallengeOutcome :=
  issueChallengeFrom crypto (pure (.ok nonce)) peerId deadlineMs

def taggedChallenge (bondKey : BondKey) (nonce : Nonce) : Frame where
  version := SYAUTH_WIRE_VERSION_V1
  nonce := nonce
  payload := []
  tag := computeTag crypto bondKey (SYAUTH_WIRE_VERSION_V1 :: nonce.toList)

theorem taggedChallenge_bodyBytes (bondKey : BondKey) (nonce : Nonce) :
    (taggedChallenge crypto bondKey nonce).bodyBytes =
      .ok (SYAUTH_WIRE_VERSION_V1 :: nonce.toList) :=
  Frame.bodyBytes_eq_ok_iff.mpr ⟨Nat.zero_le _, (append_nil _).symm⟩

theorem taggedChallenge_encode {bondKey : BondKey} {nonce : Nonce} :
    ∃ wire, (taggedChallenge crypto bondKey nonce).encode [] = .ok wire :=
  ⟨_, Frame.encode_eq_ok_iff.mpr ⟨_, taggedChallenge_bodyBytes _ _ _, rfl⟩⟩

theorem runChallenge_eq {peerId : Text} {nonce : Nonce} {deadlineMs : Nat}
    {peerState : PeerState} {tStartMs : Nat} {wire : Bytes}
    (encoded : (taggedChallenge crypto peerState.bondKey nonce).encode [] = .ok wire) :
    runChallenge crypto peerId nonce deadlineMs peerState tStartMs =
      .ask (.notifyChallenge peerId wire) fun
        | .error error =>
          conclude peerId (hexText nonce.toList) tStartMs
            (challengeOutcomeForTransport error).reasonStr (challengeOutcomeForTransport error)
        | .ok () =>
          .ask (.waitForResponse peerId deadlineMs) fun
            | .error error =>
              conclude peerId (hexText nonce.toList) tStartMs
                (challengeOutcomeForTransport error).reasonStr (challengeOutcomeForTransport error)
            | .ok responseBytes =>
              judgeResponse crypto peerId (hexText nonce.toList) nonce
                peerState tStartMs (taggedChallenge crypto peerState.bondKey nonce)
                responseBytes := by
  have untagged :
      Frame.bodyBytes {
        version := SYAUTH_WIRE_VERSION_V1, nonce := nonce, payload := []
        tag := .replicate _ 0 } = .ok _ :=
    Frame.bodyBytes_eq_ok_iff.mpr ⟨Nat.zero_le _, (append_nil _).symm⟩
  unfold taggedChallenge at encoded
  unfold runChallenge
  simp only [untagged, encoded]
  refine congrArg _ (funext fun reply => ?_)
  rcases reply with error | ⟨⟨⟩⟩
  · rfl
  · refine congrArg (Dialogue.ask _) (funext fun reply => ?_)
    cases reply with
    | error error =>
      -- A timeout has a branch of its own, with the reason that any error would get.
      cases error <;> rfl
    | ok responseBytes => rfl

theorem parseSignature_eq_some_iff {bytes : Bytes} {sig : Signature} :
    parseSignature crypto bytes = some sig ↔ sig.toList = bytes ∧ crypto.wellFormed sig = true := by
  unfold parseSignature
  constructor
  · intro parsed
    split_ifs at parsed with sized wellFormed
    cases parsed
    exact ⟨rfl, wellFormed⟩
  · rintro ⟨rfl, wellFormed⟩
    rw [dif_pos]
    exact if_pos wellFormed

/-- A verified signature is accepted if the nonce is not in the cache. -/
theorem judgeResponse_resolve {peerId nonceHex : Text} {nonce : Nonce} {peerState : PeerState}
    {tStartMs : Nat} {challenge : Frame} {responseBytes : Bytes} {sig : Signature}
    {oracle : Oracle DaemonAnswer}
    (parsed : parseSignature crypto responseBytes = some sig)
    (onCurve : crypto.onCurve peerState.phonePubkey = true)
    (verified : verifyFrame crypto peerState.phonePubkey challenge sig = .ok ())
    (fresh : oracle (.checkNonce peerState.entry nonce) = false) :
    (judgeResponse crypto peerId nonceHex nonce peerState tStartMs challenge
      responseBytes).resolve oracle = .ok sig := by
  have checked : (put (.checkNonce peerState.entry nonce) : DaemonM Bool).resolve oracle = false :=
    fresh
  unfold judgeResponse conclude
  simp [parsed, onCurve, verified, checked]

end

end DeskUnlock.Unlock
