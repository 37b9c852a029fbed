import DeskUnlock.Unlock.ChallengeOutline

/-!
# What a challenge returns and leaves behind

`run_challenge` as a whole, against any peripheral: when it returns `Ok`, what
it hands to the audit log, and what it makes of the replay cache of its peer.

The audit is best effort.  A daemon may have no log open, and a failed append
is only reported.
-/

namespace DeskUnlock.Unlock

open Texts Dialogues
open Pairing (Bytes)

/-- The audit log and the cache that a challenge finds. -/
structure ChallengeState where
  cache : NonceCache
  /-- The lines of the log, if one is open. -/
  auditLog : Option (List AuditRecord)
  /-- The records that were handed to it. -/
  handed : List AuditRecord

namespace ChallengeState

variable (appends : AuditRecord → Bool)

def logged (log : Option (List AuditRecord)) (record : AuditRecord) : Option (List AuditRecord) :=
  if appends record then log.map (· ++ [record]) else log

def audit (state : ChallengeState) (record : AuditRecord) : ChallengeState :=
  { state with
    auditLog := logged appends state.auditLog record, handed := state.handed ++ [record] }

/-- The cache and the log answer; the rest is up to the environment. -/
def answer (choice : Oracle DaemonAnswer) (state : ChallengeState) :
    (ask : DaemonQuestion) → ChallengeState × DaemonAnswer ask
  | .checkNonce _ nonce =>
    if state.cache.contains nonce then (state, true)
    else ({ state with cache := state.cache.insert nonce }, false)
  | .audit record => (state.audit appends record, ())
  | ask => (state, choice ask)

end ChallengeState

section

variable {SigningKey : Type} (crypto : Crypto SigningKey)

/--
The notification of the frame succeeds, the response comes in time and
verifies, and the nonce is not in the cache.
-/
def Accepted (choice : Oracle DaemonAnswer) (peerId : Text) (nonce : Nonce) (deadlineMs : Nat)
    (peerState : PeerState) (wire : Bytes) (cache : NonceCache) : Prop :=
  choice (.notifyChallenge peerId wire) = .ok () ∧
    ∃ bytes,
      choice (.waitForResponse peerId deadlineMs) = .ok bytes ∧
        bytes.length = SIGNATURE_LEN ∧
        Verifies crypto peerState.phonePubkey
          (taggedChallenge crypto peerState.bondKey nonce) bytes ∧
        cache.contains nonce = false

/--
One record with the nonce and the reason of the outcome is handed to the audit
log, and the cache takes up the nonce if the outcome is `Ok`.
-/
structure Leaves (appends : AuditRecord → Bool) (peerId : Text) (nonce : Nonce) (tStartMs : Nat)
    (before after : ChallengeState) (out : ChallengeOutcome) : Prop where
  audited :
    ∃ tEndMs, ∃ record : AuditRecord,
      record = ⟨peerId, hexText nonce.toList, tStartMs, tEndMs, out.reasonStr, out.reasonStr⟩ ∧
        after.handed = before.handed ++ [record] ∧
        after.auditLog = ChallengeState.logged appends before.auditLog record
  cached : after.cache = if out.isOk then before.cache.insert nonce else before.cache

variable (appends : AuditRecord → Bool) (choice : Oracle DaemonAnswer)
  (peerId : Text) (nonce : Nonce) (deadlineMs : Nat)
  (peerState : PeerState) (tStartMs : Nat)

abbrev runIn {Result : Type} (before : ChallengeState)
    (prog : DaemonM Result) : ChallengeState × Result :=
  prog.exec (ChallengeState.answer appends choice) before

theorem runIn_notify {Result : Type} {before : ChallengeState} {wire : Bytes}
    {next : Except PeripheralError Unit → DaemonM Result} :
    runIn appends choice before (.ask (.notifyChallenge peerId wire) next) =
      runIn appends choice before (next (choice (.notifyChallenge peerId wire))) :=
  rfl

theorem runIn_wait {Result : Type} {before : ChallengeState}
    {next : Except PeripheralError Bytes → DaemonM Result} :
    runIn appends choice before
        (.ask (.waitForResponse peerId deadlineMs) next) =
      runIn appends choice before (next (choice (.waitForResponse peerId deadlineMs))) :=
  rfl

/-- The outcome is `Ok` exactly if the response is accepted. -/
structure Judged (before : ChallengeState) (accepted : Prop)
    (res : ChallengeState × ChallengeOutcome) : Prop where
  isOk_iff : res.2.isOk = true ↔ accepted
  leaves : Leaves appends peerId nonce tStartMs before res.1 res.2

section

variable {appends choice peerId nonce tStartMs} {before : ChallengeState} {accepted : Prop}

theorem judged_of_refused {out : ChallengeOutcome} {reason : Text}
    (named : reason = out.reasonStr) (refused : out.isOk = false) (unaccepted : ¬ accepted) :
    Judged appends peerId nonce tStartMs before accepted
      (runIn appends choice before
        (conclude peerId (hexText nonce.toList) tStartMs reason out)) := by
  subst named
  refine ⟨?_, ⟨_, _, rfl, rfl, rfl⟩, ?_⟩
  · change out.isOk = true ↔ accepted
    simp [refused, unaccepted]
  · change before.cache = if out.isOk then _ else _
    rw [refused]
    rfl

theorem judged_of_badSignature (unaccepted : ¬ accepted) :
    Judged appends peerId nonce tStartMs before accepted
      (runIn appends choice before
        (conclude peerId (hexText nonce.toList) tStartMs
          OUTCOME_REASON_BAD_SIGNATURE .badSignature)) :=
  judged_of_refused rfl rfl unaccepted

theorem judged_of_transport {error : PeripheralError} (unaccepted : ¬ accepted) :
    Judged appends peerId nonce tStartMs before accepted
      (runIn appends choice before
        (conclude peerId (hexText nonce.toList) tStartMs
          (challengeOutcomeForTransport error).reasonStr
          (challengeOutcomeForTransport error))) := by
  apply judged_of_refused rfl _ unaccepted
  cases error <;> rfl

end

theorem judgeResponse_judged {before : ChallengeState} {bytes : Bytes} :
    Judged appends peerId nonce tStartMs before
      (bytes.length = SIGNATURE_LEN ∧
        Verifies crypto peerState.phonePubkey
          (taggedChallenge crypto peerState.bondKey nonce) bytes ∧
        before.cache.contains nonce = false)
      (runIn appends choice before
        (judgeResponse crypto peerId (hexText nonce.toList) nonce peerState
          tStartMs (taggedChallenge crypto peerState.bondKey nonce) bytes)) := by
  by_cases verifies :
      Verifies crypto peerState.phonePubkey (taggedChallenge crypto peerState.bondKey nonce) bytes
  · have accepted := verifies
    obtain ⟨sig, body, rfl, wellFormed, curve, encoded, strict⟩ := accepted
    rw [judgeResponse_of_verifies _ wellFormed curve encoded strict]
    unfold runIn
    rw [Dialogue.exec, ChallengeState.answer]
    cases seen : before.cache.contains nonce with
    | true => exact judged_of_refused rfl rfl fun ⟨_, _, fresh⟩ => nomatch fresh
    | false =>
      refine ⟨iff_of_true rfl ⟨sig.toList_length, verifies, rfl⟩, ?_⟩
      exact ⟨⟨_, _, rfl, rfl, rfl⟩, rfl⟩
  · rw [judgeResponse_of_not_verifies _ verifies]
    exact judged_of_badSignature fun accepted => verifies accepted.2.1

/--
A challenge as a whole: when it returns `Ok`, which record it hands to the
audit log, and what becomes of the replay cache.
-/
theorem runChallenge_judged (before : ChallengeState) :
    ∃ wire,
      (taggedChallenge crypto peerState.bondKey nonce).encode [] = .ok wire ∧
        Judged appends peerId nonce tStartMs before
          (Accepted crypto choice peerId nonce deadlineMs peerState wire before.cache)
          (runIn appends choice before
            (runChallenge crypto peerId nonce deadlineMs peerState tStartMs)) := by
  obtain ⟨wire, encoded⟩ := taggedChallenge_encode _
  refine ⟨wire, encoded, ?_⟩
  rw [runChallenge_eq _ encoded]
  rw [runIn_notify]
  unfold Accepted
  cases notified : choice (.notifyChallenge peerId wire) with
  | error error => exact judged_of_transport fun ⟨sent, _⟩ => nomatch sent
  | ok _ =>
    rw [runIn_wait]
    cases responded : choice (.waitForResponse peerId deadlineMs) with
    | error error =>
      have unaccepted {rest : Bytes → Prop} :
          ¬ ∃ bytes, (.error error : Except PeripheralError Bytes) = .ok bytes ∧ rest bytes := by
        rintro ⟨_, resp, _⟩
        cases resp
      exact judged_of_transport fun accepted => unaccepted accepted.2
    | ok bytes =>
      obtain ⟨isOk_iff, leaves⟩ := judgeResponse_judged _ _ _ _ _ _ _
      refine ⟨isOk_iff.trans ⟨?_, ?_⟩, leaves⟩
      · intro accepted
        exact ⟨rfl, bytes, rfl, accepted⟩
      · rintro ⟨_, other, same, accepted⟩
        obtain rfl := Except.ok.inj same
        exact accepted

end

def fullCache : NonceCache :=
  ⟨(List.range NONCE_LRU_CAP).map fun i => .replicate 16 (UInt8.ofNat i)⟩

def cachedPeer : PeerState where
  phonePubkey := .replicate 32 5
  bondKey := .replicate _ 9
  entry := 0

def signingChoice : Oracle DaemonAnswer
  | .waitForResponse _ _ =>
    .ok
      (sampleCrypto.sign cachedPeer.phonePubkey
        (SYAUTH_WIRE_VERSION_V1 :: List.replicate 16 100)).toList
  | other => silentChoice other

/-- With a full cache `Ok` loses a nonce, and without a log no line is kept. -/
theorem runChallenge_evicts :
    (runIn (fun _ => true) signingChoice ⟨fullCache, none, []⟩
        (runChallenge sampleCrypto [] (.replicate 16 100) 0 cachedPeer 0)).2.isOk = true ∧
      fullCache.contains (.replicate 16 0) = true ∧
      (runIn (fun _ => true) signingChoice ⟨fullCache, none, []⟩
        (runChallenge sampleCrypto [] (.replicate 16 100) 0 cachedPeer
          0)).1.cache.contains (.replicate 16 0) = false ∧
      (runIn (fun _ => true) signingChoice ⟨fullCache, none, []⟩
        (runChallenge sampleCrypto [] (.replicate 16 100) 0 cachedPeer 0)).1.auditLog = none := by
  decide +kernel

end DeskUnlock.Unlock
