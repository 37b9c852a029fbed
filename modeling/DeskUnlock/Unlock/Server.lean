import DeskUnlock.Unlock.ChallengeOutline

/-!
# The server of the socket

`handle_connection` and `dispatch` of `syauth-presenced/src/server.rs`: one
request is read, served and answered.  The program below is a task up to the
moment it is dropped; dropping it is left to the system it runs in.

A task answers a challenge with success only after a signature of the phone
has verified.  That is a contract of the program, whatever its environment
answers.
-/

namespace DeskUnlock.Unlock

open Texts Dialogues Dialogue List
open Pairing (Bytes)
open Rpc (SystemTime Request Response Cbor)

/-! ## The server -/

def STUB_CHALLENGE_REASON : Text := "not-implemented".toList

/-- In milliseconds. -/
def DEFAULT_AUTH_TIMEOUT : Nat := 20000

structure ServeConfig where
  /-- The hidden test flag; `none` in production. -/
  testFixedNonce : Option Nonce
  startedAt : SystemTime

inductive HandlerError where
  | peerCredentials (errno : Text)
  | frame (error : Rpc.FrameError)
deriving DecidableEq

/-- The encodings of the two kinds of messages. -/
structure Codecs where
  request : Cbor Request
  response : Cbor Response

def challengeResponse (out : ChallengeOutcome) : Response :=
  .challenge out.isOk out.signatureBytes out.reasonStr

section

variable {SigningKey : Type} (crypto : Crypto SigningKey) (cfg : ServeConfig) (codecs : Codecs)

def dispatch (req : Request) (back : BackendState) :
    DaemonM Response := do
  match req with
  | .challenge peerId _ =>
    if back.orchestrator then
      let out ←
        match cfg.testFixedNonce with
        | some nonce => issueChallengeWithNonceCancellable crypto peerId nonce DEFAULT_AUTH_TIMEOUT
        | none => issueChallengeCancellable crypto peerId DEFAULT_AUTH_TIMEOUT
      return challengeResponse out
    else
      return .challenge false none STUB_CHALLENGE_REASON
  | .reload =>
    if back.reloadTx then
      let sent ← put .sendReload
      return .reload sent
    else
      return .reload false
  | .status =>
    if back.orchestrator then
      let peers ← put .peersSnapshot
      return .status peers cfg.startedAt
    else
      return .status [] cfg.startedAt

/-- The credentials of the peer are only logged. -/
def handleConnection : DaemonM (Except HandlerError Unit) := do
  match ← put .peerCredentials with
  | .error errno => return .error (.peerCredentials errno)
  | .ok _ =>
    let back ← put .backend
    match ← Rpc.readFrame codecs.request fun count => put (.readExact count) with
    | .error error => return .error (.frame error)
    | .ok req =>
      let resp ← dispatch crypto cfg req back
      let written ← Rpc.writeFrame codecs.response (fun bytes => put (.write bytes)) resp
      return written.mapError .frame

end

/-! ## What a task may say -/

namespace Server

def heard : DaemonTurn → Bytes
  | ⟨.readExact _, .ok bytes⟩ => bytes
  | _ => []

def said : DaemonTurn → Bytes
  | ⟨.write bytes, _⟩ => bytes
  | _ => []

def Silent (_ : List DaemonTurn) : DaemonQuestion → Prop
  | .readExact _ | .write _ => False
  | _ => True

/-- What there is to say of a challenge that was accepted. -/
structure Verification where
  peerState : PeerState
  nonce : Nonce
  wire : Bytes
  challenge : Frame
  body : Bytes
  signature : Signature

variable {peerId : Text}

section

variable {SigningKey : Type} (crypto : Crypto SigningKey) (cfg : ServeConfig) (codecs : Codecs)

/-- The turns in which the nonce was drawn. -/
def Drawn (nonce : Nonce) (turns : List DaemonTurn) : Prop :=
  match cfg.testFixedNonce with
  | none => turns = [⟨.random, .ok nonce⟩]
  | some fixed => nonce = fixed ∧ turns = []

/--
The peer was looked up, the nonce drawn, the frame that carries it notified,
and then a signature of the body of that frame received.
-/
structure Verified (peerId : Text) (verification : Verification)
    (past : List DaemonTurn) : Prop where
  decoded : Frame.decode verification.wire = .ok verification.challenge
  carries : verification.challenge.nonce = verification.nonce
  bodied : verification.challenge.bodyBytes = .ok verification.body
  signed :
    crypto.verifyStrict verification.peerState.phonePubkey verification.body
      verification.signature = true
  happened :
    ∃ drawing, Drawn cfg verification.nonce drawing ∧
      List.Sublist
        ([⟨.lookupPeer peerId, some verification.peerState⟩] ++ drawing ++
          [⟨.notifyChallenge peerId verification.wire, .ok ()⟩,
            ⟨.waitForResponse peerId DEFAULT_AUTH_TIMEOUT, .ok verification.signature.toList⟩,
            ⟨.checkNonce verification.peerState.entry verification.nonce, false⟩])
        past

variable {past : List DaemonTurn}

theorem Verified.append {verification : Verification}
    (verified : Verified crypto cfg peerId verification past) (more : List DaemonTurn) :
    Verified crypto cfg peerId verification (past ++ more) where
  decoded := verified.decoded
  carries := verified.carries
  bodied := verified.bodied
  signed := verified.signed
  happened := by
    obtain ⟨drawing, drawn, seen⟩ := verified.happened
    exact ⟨drawing, drawn, seen.trans (sublist_append_left _ _)⟩

theorem Verified.looked {verification : Verification}
    (verified : Verified crypto cfg peerId verification past) :
    ⟨.lookupPeer peerId, some verification.peerState⟩ ∈ past := by
  obtain ⟨drawing, -, seen⟩ := verified.happened
  exact seen.subset (by simp)

/-- Success is said only of a challenge that was accepted. -/
def Warranted (past : List DaemonTurn) : Request → Response → Prop
  | .challenge peerId _, resp =>
    ∃ ok sig reason, resp = .challenge ok sig reason ∧
      (ok = true ∨ reason = OUTCOME_REASON_OK →
        ∃ verification, Verified crypto cfg peerId verification past)
  | _, _ => True

theorem Warranted.append {req : Request} {resp : Response}
    (warranted : Warranted crypto cfg past req resp) (more : List DaemonTurn) :
    Warranted crypto cfg (past ++ more) req resp := by
  cases req with
  | challenge peerId nonce =>
    obtain ⟨ok, sig, reason, same, verified⟩ := warranted
    refine ⟨ok, sig, reason, same, ?_⟩
    intro approved
    obtain ⟨verification, verified⟩ := verified approved
    exact ⟨verification, verified.append _ _ _⟩
  | reload | status => exact trivial

def Received (past : List DaemonTurn) (length payload : Bytes) : Prop :=
  ⟨.readExact Rpc.LENGTH_PREFIX_BYTES, .ok length⟩ ∈ past ∧
    ⟨.readExact (Rpc.fromBeBytes length), .ok payload⟩ ∈ past ∧
    past.flatMap heard = length ++ payload

/-- One response is written, and it is warranted. -/
def Speaks (warrant : List DaemonTurn → Request → Response → Prop)
    (past : List DaemonTurn) : DaemonQuestion → Prop
  | .write framed =>
    past.flatMap said = [] ∧
      ∃ length payload req resp,
        Received past length payload ∧
          Rpc.decodeFrame codecs.request payload = .ok req ∧
          Rpc.encodeFrame codecs.response resp = .ok framed ∧ warrant past req resp
  | _ => True

/-- What the daemon keeps to when it writes. -/
def Guard : List DaemonTurn → DaemonQuestion → Prop := Speaks codecs (Warranted crypto cfg)

end

/-! ## Challenges are warranted -/

section

variable {SigningKey : Type} {crypto : Crypto SigningKey} {cfg : ServeConfig}
  {past : List DaemonTurn} {ask : DaemonQuestion} {out : ChallengeOutcome}
  {seen : List DaemonTurn} {peerId : Text}

theorem seen_snoc (sublist : List.Sublist seen past) {turn : DaemonTurn} :
    List.Sublist (seen ++ [turn]) (past ++ [turn]) :=
  sublist.append (Sublist.refl _)

theorem seen_skip (sublist : List.Sublist seen past)
    {more : List DaemonTurn} : List.Sublist seen (past ++ more) :=
  sublist.trans (sublist_append_left _ _)

theorem isOk_challengeOutcomeForTransport {error : PeripheralError} :
    (challengeOutcomeForTransport error).isOk = false := by
  cases error <;> rfl

/-- The source of nonces draws them as configured. -/
def Draws (cfg : ServeConfig) (nonceSource : DaemonM (Except Text Nonce)) : Prop :=
  ∀ past seen, List.Sublist seen past →
    Keeps Silent
      (fun past reply => ∀ nonce, reply = .ok nonce →
        ∃ drawing, Drawn cfg nonce drawing ∧ List.Sublist (seen ++ drawing) past)
      past nonceSource

/-- The outcome is a success only if the challenge was accepted. -/
def Backed (crypto : Crypto SigningKey) (cfg : ServeConfig)
    (peerId : Text) (past : List DaemonTurn) (out : ChallengeOutcome) : Prop :=
  out.isOk = true → ∃ verification, Verified crypto cfg peerId verification past

theorem backed_of_not_ok (refused : out.isOk = false) : Backed crypto cfg peerId past out := by
  intro ok
  rw [refused] at ok
  cases ok

theorem Backed.append (backed : Backed crypto cfg peerId past out) (more : List DaemonTurn) :
    Backed crypto cfg peerId (past ++ more) out := by
  intro ok
  obtain ⟨verification, verified⟩ := backed ok
  exact ⟨verification, verified.append _ _ _⟩

/-- The peer was looked up and the nonce drawn, and these turns came after. -/
def Led (cfg : ServeConfig) (peerId : Text) (peerState : PeerState) (nonce : Nonce)
    (turns past : List DaemonTurn) : Prop :=
  ∃ drawing, Drawn cfg nonce drawing ∧
    List.Sublist ([⟨.lookupPeer peerId, some peerState⟩] ++ drawing ++ turns) past

theorem Led.snoc {peerState : PeerState} {nonce : Nonce} {turns : List DaemonTurn}
    (led : Led cfg peerId peerState nonce turns past) (turn : DaemonTurn) :
    Led cfg peerId peerState nonce (turns ++ [turn]) (past ++ [turn]) := by
  obtain ⟨drawing, drawn, sublist⟩ := led
  refine ⟨drawing, drawn, ?_⟩
  rw [← append_assoc]
  exact seen_snoc sublist

def Backing (crypto : Crypto SigningKey) (cfg : ServeConfig) (peerId : Text) :
    ChallengePoint → List DaemonTurn → Prop
  | .entered, _ => True
  | .looked peerState, past => List.Sublist [⟨.lookupPeer peerId, some peerState⟩] past
  | .drawn peerState nonce, past => Led cfg peerId peerState nonce [] past
  | .told peerState nonce wire, past =>
    Frame.decode wire = .ok (taggedChallenge crypto peerState.bondKey nonce) ∧
      Led cfg peerId peerState nonce [⟨.notifyChallenge peerId wire, .ok ()⟩] past
  | .responded peerState nonce wire responseBytes, past =>
    Frame.decode wire = .ok (taggedChallenge crypto peerState.bondKey nonce) ∧
      Led cfg peerId peerState nonce
        [⟨.notifyChallenge peerId wire, .ok ()⟩,
          ⟨.waitForResponse peerId DEFAULT_AUTH_TIMEOUT, .ok responseBytes⟩]
        past
  | .due _ out, past | .settled out, past => Backed crypto cfg peerId past out

theorem backing_outline {nonceSource : DaemonM (Except Text Nonce)}
    (draws : Draws cfg nonceSource) {peerId : Text} :
    Outline crypto nonceSource peerId DEFAULT_AUTH_TIMEOUT Silent (Backing crypto cfg peerId) where
  turn incidental held := by
    cases incidental with
    | start => exact ⟨trivial, fun _ => trivial⟩
    | acquire | time | stamp => exact ⟨trivial, fun _ => seen_skip held⟩
    | finish | release => exact ⟨trivial, fun _ => held.append _⟩
  lookup _ := by
    refine ⟨trivial, fun found => ?_⟩
    cases found with
    | none => exact backed_of_not_ok rfl
    | some peerState => exact seen_snoc (nil_sublist _)
  busy _ := backed_of_not_ok rfl
  draw held := by
    refine (draws _ _ held).imp fun past reply drawn => ?_
    cases reply with
    | error error => exact backed_of_not_ok rfl
    | ok nonce =>
      obtain ⟨drawing, drawn, sublist⟩ := drawn _ rfl
      exact ⟨drawing, drawn, (append_nil _).symm ▸ sublist⟩
  notify encoded held := by
    refine ⟨trivial, ?_⟩
    rintro (error | ⟨⟨⟩⟩)
    · exact backed_of_not_ok isOk_challengeOutcomeForTransport
    · exact ⟨Frame.decode_eq_ok_iff.mpr ⟨rfl, encoded⟩, held.snoc _⟩
  wait held := by
    refine ⟨trivial, fun reply => ?_⟩
    cases reply with
    | error error => exact backed_of_not_ok isOk_challengeOutcomeForTransport
    | ok responseBytes => exact ⟨held.1, held.2.snoc _⟩
  refuse _ _ := backed_of_not_ok rfl
  check := by
    intro peerState nonce wire past body sig bodied signed held
    refine ⟨trivial, fun replayed => ?_⟩
    cases replayed with
    | true => exact backed_of_not_ok rfl
    | false =>
      intro _
      exact ⟨⟨peerState, nonce, wire, _, body, sig⟩, held.1, rfl, bodied, signed, held.2.snoc _⟩
  audit held := ⟨trivial, held.append _⟩

theorem issueChallengeFrom_keeps {nonceSource : DaemonM (Except Text Nonce)}
    (draws : Draws cfg nonceSource) {peerId : Text} :
    Keeps Silent (Backed crypto cfg peerId) past
      (issueChallengeFrom crypto nonceSource peerId DEFAULT_AUTH_TIMEOUT) :=
  (backing_outline draws).issueChallengeFrom trivial

theorem draws_random (production : cfg.testFixedNonce = none) : Draws cfg (put .random) := by
  intro past seen sublist
  refine ⟨trivial, ?_⟩
  rintro reply nonce rfl
  refine ⟨[⟨.random, .ok _⟩], ?_, seen_snoc sublist⟩
  unfold Drawn
  rw [production]

theorem draws_fixed {fixed : Nonce} (testing : cfg.testFixedNonce = some fixed) :
    Draws cfg (pure (.ok fixed)) := by
  intro past seen sublist
  rintro nonce ⟨⟩
  refine ⟨[], ?_, ?_⟩
  · unfold Drawn
    rw [testing]
    exact ⟨rfl, rfl⟩
  · rw [append_nil]
    exact sublist

/-! ## Connections -/

theorem reasonStr_eq_ok_iff (out : ChallengeOutcome) :
    out.reasonStr = OUTCOME_REASON_OK ↔ out.isOk = true := by
  cases out with
  | ok sig => exact ⟨fun _ => rfl, fun _ => rfl⟩
  | transportError error =>
    have differs : OUTCOME_REASON_TRANSPORT_ERROR ≠ OUTCOME_REASON_OK := by decide
    exact ⟨fun same => (differs same).elim, nofun⟩
  | _ => decide

theorem dispatch_keeps {req : Request} {back : BackendState} :
    Keeps Silent
      (fun past resp => Warranted crypto cfg past req resp)
      past (dispatch crypto cfg req back) := by
  cases req with
  | challenge peerId nonce =>
    unfold dispatch
    dsimp only
    split_ifs
    · have warranted : ∀ past out, Backed crypto cfg peerId past out →
          Warranted crypto cfg past (.challenge peerId nonce) (challengeResponse out) := by
        intro past out backed
        refine ⟨out.isOk, out.signatureBytes, out.reasonStr, rfl, ?_⟩
        rintro (ok | reason)
        · exact backed ok
        · exact backed ((reasonStr_eq_ok_iff _).mp reason)
      split
      · next fixed testing =>
          exact (issueChallengeFrom_keeps (draws_fixed testing)).bind warranted
      · next production =>
          exact (issueChallengeFrom_keeps (draws_random production)).bind warranted
    · refine ⟨false, none, STUB_CHALLENGE_REASON, rfl, ?_⟩
      rintro (ok | reason)
      · cases ok
      · exact absurd reason (by decide)
  | reload | status =>
    unfold dispatch
    dsimp only
    split_ifs
    · exact ⟨trivial, fun _ => trivial⟩
    · exact trivial

/-- A turn that does not touch the socket is neither heard nor said. -/
theorem silent_turn (silent : Silent past ask) {answer : DaemonAnswer ask} :
    heard ⟨ask, answer⟩ = [] ∧ said ⟨ask, answer⟩ = [] := by
  cases ask with
  | readExact count | write bytes => exact silent.elim
  | _ => exact ⟨rfl, rfl⟩

theorem Received.append {length payload : Bytes} (received : Received past length payload)
    {more : List DaemonTurn} (unheard : more.flatMap heard = []) :
    Received (past ++ more) length payload := by
  obtain ⟨first, second, whole⟩ := received
  refine ⟨mem_append_left _ first, mem_append_left _ second, ?_⟩
  rw [flatMap_append, unheard, append_nil]
  exact whole

/-- A request was read whole, and nothing was written yet. -/
def Requested (codecs : Codecs) (past : List DaemonTurn) :
    Except Rpc.FrameError Request → Prop
  | .error _ => True
  | .ok req =>
    past.flatMap said = [] ∧
      ∃ length payload, Received past length payload ∧
        Rpc.decodeFrame codecs.request payload = .ok req

theorem silent_speaks {codecs : Codecs} {warrant : List DaemonTurn → Request → Response → Prop}
    (silent : Silent past ask) : Speaks codecs warrant past ask := by
  cases ask with
  | write bytes => exact silent.elim
  | _ => exact trivial

theorem Requested.snoc {codecs : Codecs} {req : Request} {ask : DaemonQuestion}
    (silent : Silent past ask) (answer : DaemonAnswer ask)
    (requested : Requested codecs past (.ok req)) :
    Requested codecs (past ++ [⟨ask, answer⟩]) (.ok req) := by
  obtain ⟨unsaid, length, payload, received, decoded⟩ := requested
  obtain ⟨noHeard, noSaid⟩ := silent_turn silent
  refine ⟨?_, length, payload, received.append ?_, decoded⟩
  · rw [flatMap_append, unsaid, flatMap_singleton, noSaid]
    rfl
  · rw [flatMap_singleton, noHeard]

section Connection

variable {codecs : Codecs} {warrant : List DaemonTurn → Request → Response → Prop}

/-- A request is read whole, and the backend is not forgotten meanwhile. -/
theorem readFrame_speaks {uid : Nat} {back : BackendState} : Keeps (Speaks codecs warrant)
    (fun past reply => Requested codecs past reply ∧ ⟨.backend, back⟩ ∈ past)
    ([] ++ [⟨.peerCredentials, .ok uid⟩] ++ [⟨.backend, back⟩])
    (Rpc.readFrame codecs.request fun count => put (.readExact count)) := by
  have read : Keeps (Speaks codecs warrant)
      (Requested codecs) ([] ++ [⟨.peerCredentials, .ok uid⟩] ++ [⟨.backend, back⟩])
      (Rpc.readFrame codecs.request fun count => put (.readExact count)) := by
    refine Rpc.readFrame_keeps (fun count reply => ⟨.readExact count, reply⟩) ?_
      (fun _ _ => trivial) ?_
    · intro count past post holds
      exact ⟨trivial, holds⟩
    · intro length payload req decoded
      exact ⟨rfl, length, payload, ⟨by simp, by simp, by simp [heard]⟩, decoded⟩
  refine read.preserve _ (by simp) ?_
  intro past ask answer _ mem
  exact mem_append_left _ mem

/-- A silent dispatch keeps the request it was made for. -/
theorem requested_speaks {req : Request} {prog : DaemonM Response}
    (requested : Requested codecs past (.ok req))
    (warranted : Keeps Silent (fun past resp => warrant past req resp) past prog) :
    Keeps (Speaks codecs warrant)
      (fun past resp => warrant past req resp ∧ Requested codecs past (.ok req)) past prog := by
  refine (warranted.preserve (Requested _ · (.ok _))
    requested ?_).widen fun _ _ silent => silent_speaks silent
  intro past ask answer silent kept
  exact .snoc silent _ kept

/-- A response that is warranted for the request may be written. -/
theorem writeFrame_speaks {req : Request} {resp : Response}
    (requested : Requested codecs past (.ok req)) (warranted : warrant past req resp) :
    Keeps (Speaks codecs warrant) (fun _ _ => True) past
      (Rpc.writeFrame codecs.response (fun bytes => put (.write bytes)) resp) := by
  obtain ⟨unsaid, length, payload, received, decoded⟩ := requested
  refine Rpc.writeFrame_keeps (fun _ => trivial) ?_
  intro framed encoded
  exact ⟨⟨unsaid, length, payload, req, resp, received, decoded,
      encoded, warranted⟩, fun _ => trivial⟩

end Connection

/--
What a request is dispatched to is read whole before and written once after;
so what `dispatch` warrants of a response, the connection does.
-/
theorem handleConnection_speaks {crypto : Crypto SigningKey} {cfg : ServeConfig}
    {codecs : Codecs} {warrant : List DaemonTurn → Request → Response → Prop}
    (warranted : ∀ past req back, ⟨.backend, back⟩ ∈ past →
      Keeps Silent (fun past resp => warrant past req resp) past
        (dispatch crypto cfg req back)) :
    Keeps (Speaks codecs warrant) (fun _ _ => True) [] (handleConnection crypto cfg codecs) := by
  refine keeps_put trivial fun credentials => ?_
  cases credentials with
  | error errno => exact trivial
  | ok uid =>
    refine keeps_put trivial fun back => ?_
    refine readFrame_speaks.bind ?_
    rintro past reply ⟨requested, found⟩
    cases reply with
    | error error => exact trivial
    | ok req =>
      refine (requested_speaks requested (warranted _ _ _ found)).bind ?_
      rintro past resp ⟨warranted, requested⟩
      exact (writeFrame_speaks requested warranted).bind fun _ _ _ => trivial

theorem handleConnection_keeps (crypto : Crypto SigningKey) (cfg : ServeConfig) (codecs : Codecs) :
    Keeps (Guard crypto cfg codecs) (fun _ _ => True) [] (handleConnection crypto cfg codecs) := by
  exact handleConnection_speaks fun _ req back _ => dispatch_keeps

end

end Server

end DeskUnlock.Unlock
