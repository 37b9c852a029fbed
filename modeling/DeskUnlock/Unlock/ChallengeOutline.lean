import DeskUnlock.Unlock.Orchestrator

/-!
# The outline of a challenge

What is proved about a challenge is proved of its past, the questions it has
put with their answers.  Such a proof says what holds of the past at each point
of `issue_challenge_cancellable` and `run_challenge`.  The obligations from one
point to the next are stated here, and a challenge that meets them is followed
through its program once.
-/

namespace DeskUnlock.Unlock

open Texts Dialogues Dialogue
open Pairing (Bytes Pubkey)

/-- How far a challenge has come. -/
inductive ChallengePoint where
  | entered
  | looked (peerState : PeerState)
  | drawn (peerState : PeerState) (nonce : Nonce)
  | told (peerState : PeerState) (nonce : Nonce) (wire : Bytes)
  | responded (peerState : PeerState) (nonce : Nonce) (wire responseBytes : Bytes)
  /-- The outcome is known, and its record is not appended yet. -/
  | due (nonceHex : Text) (out : ChallengeOutcome)
  | settled (out : ChallengeOutcome)

/-- The questions that do not lead to another point. -/
inductive Incidental : ChallengePoint → DaemonQuestion → Prop
  | start : Incidental .entered .now
  | acquire {peerState} : Incidental (.looked peerState) (.acquireSlot peerState.entry)
  | time {peerState} : Incidental (.looked peerState) .now
  | stamp {peerState time} : Incidental (.looked peerState) (.stampLiveness peerState.entry time)
  | finish {nonceHex out} : Incidental (.due nonceHex out) .now
  | release {out entry} : Incidental (.settled out) (.releaseSlot entry)

section

variable {SigningKey : Type} (crypto : Crypto SigningKey)

/-- The bytes are a valid signature of the frame. -/
def Verifies (pubkey : Pubkey) (frame : Frame) (bytes : Bytes) : Prop :=
  ∃ sig : Signature, ∃ body,
    sig.toList = bytes ∧ crypto.wellFormed sig = true ∧
      crypto.onCurve pubkey = true ∧ frame.bodyBytes = .ok body ∧
      crypto.verifyStrict pubkey body sig = true

section

variable {peerId nonceHex : Text} {nonce : Nonce} {peerState : PeerState}
  {tStartMs : Nat} {challenge : Frame}

theorem judgeResponse_of_not_verifies {bytes : Bytes}
    (unverified : ¬ Verifies crypto peerState.phonePubkey challenge bytes) :
    judgeResponse crypto peerId nonceHex nonce peerState tStartMs challenge bytes =
    conclude peerId nonceHex tStartMs OUTCOME_REASON_BAD_SIGNATURE .badSignature := by
  unfold judgeResponse
  cases parsed : parseSignature crypto bytes with
  | none => rfl
  | some sig =>
    obtain ⟨rfl, wellFormed⟩ := (parseSignature_eq_some_iff _).mp parsed
    cases curve : crypto.onCurve peerState.phonePubkey with
    | false => rfl
    | true =>
      cases verified : verifyFrame crypto peerState.phonePubkey challenge sig with
      | error error =>
        simp only [verified]
        rfl
      | ok _ =>
        obtain ⟨body, encoded, strict⟩ := (verifyFrame_eq_ok_iff _).mp verified
        exact (unverified ⟨sig, body, rfl, wellFormed, curve, encoded, strict⟩).elim

/-- The cache decides about a response that verifies. -/
theorem judgeResponse_of_verifies {sig : Signature} {body : Bytes}
    (wellFormed : crypto.wellFormed sig = true)
    (curve : crypto.onCurve peerState.phonePubkey = true) (encoded : challenge.bodyBytes = .ok body)
    (strict : crypto.verifyStrict peerState.phonePubkey body sig = true) :
    judgeResponse crypto peerId nonceHex nonce peerState tStartMs challenge sig.toList =
      .ask (.checkNonce peerState.entry nonce) fun seen =>
        if seen then conclude peerId nonceHex tStartMs OUTCOME_REASON_REPLAY .replay
        else conclude peerId nonceHex tStartMs OUTCOME_REASON_OK (.ok sig) := by
  have parsed := (parseSignature_eq_some_iff _).mpr ⟨rfl, wellFormed⟩
  have verified := (verifyFrame_eq_ok_iff _).mpr ⟨body, encoded, strict⟩
  unfold judgeResponse
  simp only [parsed, curve, verified]
  rfl

end

/-- What is to be shown of a challenge that keeps a contract. -/
structure Outline (nonceSource : DaemonM (Except Text Nonce)) (peerId : Text) (deadlineMs : Nat)
    (guard : List DaemonTurn → DaemonQuestion → Prop)
    (holds : ChallengePoint → List DaemonTurn → Prop) : Prop where
  turn {point ask past} :
    Incidental point ask → holds point past →
      guard past ask ∧ ∀ answer, holds point (past ++ [⟨ask, answer⟩])
  lookup {past} :
    holds .entered past →
      guard past (.lookupPeer peerId) ∧ ∀ found,
        holds
          (match found with
            | none => .due ZERO_NONCE_HEX .unknownPeer
            | some peerState => .looked peerState)
          (past ++ [⟨.lookupPeer peerId, found⟩])
  busy {peerState past} : holds (.looked peerState) past → holds (.due ZERO_NONCE_HEX .busy) past
  draw {peerState past} :
    holds (.looked peerState) past →
      Keeps guard
        (fun past reply =>
          holds
            (match reply with
              | .error error =>
                .due ZERO_NONCE_HEX (.transportError (.backend ("nonce rng: ".toList ++ error)))
              | .ok nonce => .drawn peerState nonce)
            past)
        past nonceSource
  notify {peerState nonce wire past} :
    (taggedChallenge crypto peerState.bondKey nonce).encode [] = .ok wire →
      holds (.drawn peerState nonce) past →
        guard past (.notifyChallenge peerId wire) ∧ ∀ reply,
          holds
            (match reply with
              | .error error => .due (hexText nonce.toList) (challengeOutcomeForTransport error)
              | .ok () => .told peerState nonce wire)
            (past ++ [⟨.notifyChallenge peerId wire, reply⟩])
  wait {peerState nonce wire past} :
    holds (.told peerState nonce wire) past →
      guard past (.waitForResponse peerId deadlineMs) ∧ ∀ reply,
        holds
          (match reply with
            | .error error => .due (hexText nonce.toList) (challengeOutcomeForTransport error)
            | .ok responseBytes => .responded peerState nonce wire responseBytes)
          (past ++ [⟨.waitForResponse peerId deadlineMs, reply⟩])
  refuse {peerState nonce wire responseBytes past} :
    ¬ Verifies crypto peerState.phonePubkey (taggedChallenge crypto peerState.bondKey nonce)
        responseBytes →
      holds (.responded peerState nonce wire responseBytes) past →
        holds (.due (hexText nonce.toList) .badSignature) past
  check {peerState nonce wire past body} {sig : Signature} :
    (taggedChallenge crypto peerState.bondKey nonce).bodyBytes = .ok body →
      crypto.verifyStrict peerState.phonePubkey body sig = true →
        holds (.responded peerState nonce wire sig.toList) past →
          guard past (.checkNonce peerState.entry nonce) ∧ ∀ replayed,
            holds (.due (hexText nonce.toList) (if replayed then .replay else .ok sig))
              (past ++ [⟨.checkNonce peerState.entry nonce, replayed⟩])
  audit {nonceHex out past tStartMs tEndMs} :
    holds (.due nonceHex out) past →
      guard past
          (.audit ⟨peerId, nonceHex, tStartMs, tEndMs, out.reasonStr, out.reasonStr⟩) ∧
        holds (.settled out)
          (past ++
            [⟨.audit ⟨peerId, nonceHex, tStartMs, tEndMs, out.reasonStr, out.reasonStr⟩, ()⟩])

end

namespace Server

theorem keeps_put {ask : DaemonQuestion} {past : List DaemonTurn} {Result : Type}
    {guard : List DaemonTurn → DaemonQuestion → Prop} {post : List DaemonTurn → Result → Prop}
    {rest : DaemonAnswer ask → DaemonM Result} (allowed : guard past ask)
    (continues : ∀ answer, Keeps guard post (past ++ [⟨ask, answer⟩]) (rest answer)) :
    Keeps guard post past (put ask >>= rest) :=
  ⟨allowed, continues⟩

end Server

namespace Outline

open Server (keeps_put)

variable {SigningKey : Type} {crypto : Crypto SigningKey}
  {nonceSource : DaemonM (Except Text Nonce)} {peerId : Text} {deadlineMs tStartMs : Nat}
  {guard : List DaemonTurn → DaemonQuestion → Prop}
  {holds : ChallengePoint → List DaemonTurn → Prop} {past : List DaemonTurn}
  (outline : Outline crypto nonceSource peerId deadlineMs guard holds)

include outline

theorem conclude {nonceHex : Text} {out : ChallengeOutcome}
    (held : holds (.due nonceHex out) past) :
    Keeps guard (fun past out => holds (.settled out) past) past
      (conclude peerId nonceHex tStartMs out.reasonStr out) := by
  obtain ⟨timed, later⟩ := outline.turn .finish held
  refine keeps_put timed fun tEnd => ?_
  obtain ⟨audited, settled⟩ := outline.audit (later _)
  exact keeps_put audited fun _ => settled

theorem judgeResponse {peerState : PeerState} {nonce : Nonce} {wire responseBytes : Bytes}
    (held : holds (.responded peerState nonce wire responseBytes) past) :
    Keeps guard (fun past out => holds (.settled out) past) past
      (judgeResponse crypto peerId (hexText nonce.toList) nonce peerState tStartMs
        (taggedChallenge crypto peerState.bondKey nonce) responseBytes) := by
  by_cases verifies :
      Verifies crypto peerState.phonePubkey (taggedChallenge crypto peerState.bondKey nonce)
        responseBytes
  · obtain ⟨sig, body, rfl, wellFormed, curve, encoded, strict⟩ := verifies
    rw [judgeResponse_of_verifies _ wellFormed curve encoded strict]
    obtain ⟨checked, later⟩ := outline.check encoded strict held
    refine ⟨checked, fun replayed => ?_⟩
    have due := later replayed
    cases replayed with
    | true | false => exact outline.conclude due
  · rw [judgeResponse_of_not_verifies _ verifies]
    exact outline.conclude (outline.refuse verifies held)

theorem runChallenge {peerState : PeerState} {nonce : Nonce}
    (held : holds (.drawn peerState nonce) past) :
    Keeps guard (fun past out => holds (.settled out) past) past
      (runChallenge crypto peerId nonce deadlineMs peerState tStartMs) := by
  obtain ⟨wire, encoded⟩ := taggedChallenge_encode _
  rw [runChallenge_eq _ encoded]
  obtain ⟨notified, later⟩ := outline.notify encoded held
  refine ⟨notified, fun reply => ?_⟩
  have reached := later reply
  rcases reply with error | ⟨⟨⟩⟩
  · exact outline.conclude reached
  · obtain ⟨waited, later⟩ := outline.wait reached
    refine ⟨waited, fun reply => ?_⟩
    have reached := later reply
    cases reply with
    | error error => exact outline.conclude reached
    | ok responseBytes => exact outline.judgeResponse reached

theorem issueChallengeFrom (held : holds .entered past) :
    Keeps guard (fun past out => holds (.settled out) past) past
      (issueChallengeFrom crypto nonceSource peerId deadlineMs) := by
  obtain ⟨timed, later⟩ := outline.turn .start held
  refine keeps_put timed fun tStart => ?_
  obtain ⟨asked, later⟩ := outline.lookup (later _)
  refine keeps_put asked fun found => ?_
  have reached := later found
  cases found with
  | none =>
    obtain ⟨audited, settled⟩ := outline.audit reached
    exact keeps_put audited fun _ => settled
  | some peerState =>
    obtain ⟨acquired, later⟩ := outline.turn .acquire reached
    refine keeps_put acquired fun free => ?_
    have reached := later free
    cases free with
    | false => exact outline.conclude (outline.busy reached)
    | true =>
      obtain ⟨timed, later⟩ := outline.turn .time reached
      refine keeps_put timed fun time => ?_
      obtain ⟨stamped, later⟩ := outline.turn .stamp (later _)
      refine keeps_put stamped fun _ => ?_
      have released (past : List DaemonTurn) (out : ChallengeOutcome)
          (held : holds (.settled out) past) :
          Keeps guard (fun past out => holds (.settled out) past) past
            (put (.releaseSlot peerState.entry) >>= fun _ => pure out) := by
        obtain ⟨allowed, later⟩ := outline.turn .release held
        exact keeps_put allowed later
      refine (outline.draw (later _)).bind fun past reply reached => ?_
      cases reply with
      | error error => exact (outline.conclude reached).bind released
      | ok nonce => exact (outline.runChallenge reached).bind released

end Outline

end DeskUnlock.Unlock
