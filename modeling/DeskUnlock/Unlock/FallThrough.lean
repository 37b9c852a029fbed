import DeskUnlock.Unlock.UnlockGrants

/-!
# Falling through

Where the phone had no say, the PAM module is to return
`PAM_AUTHINFO_UNAVAIL`, so that the stack goes on to the next module.

What the module returns is a function of the response it has read, and the
daemon's responses are matched against its table of reasons here.  All that
are given without a response of the phone are in the table, but one: a daemon
that serves its socket without an orchestrator answers `not-implemented`, and
the module takes a reason it does not know for a refusal.
-/

namespace DeskUnlock.Unlock

open Texts Dialogues Dialogue Runs List
open Pairing (Bytes)
open Rpc (Request Response)

variable {out : ChallengeOutcome}

namespace Server

def isResponse : DaemonTurn → Bool
  | ⟨.waitForResponse _ _, .ok _⟩ => true
  | _ => false

def isIdle : DaemonTurn → Bool
  | ⟨.backend, back⟩ => !back.orchestrator
  | _ => false

/-- The phone has responded to the task. -/
def Responded (past : List DaemonTurn) : Prop := past.any isResponse = true

instance (past : List DaemonTurn) : Decidable (Responded past) :=
  inferInstanceAs (Decidable (_ = true))

/-- The daemon had no orchestrator. -/
def Idle (past : List DaemonTurn) : Prop := past.any isIdle = true

variable {past : List DaemonTurn}

theorem Responded.append (responded : Responded past)
    (more : List DaemonTurn) : Responded (past ++ more) := by
  unfold Responded at responded ⊢
  rw [any_append, responded, Bool.true_or]

theorem Idle.append (idle : Idle past) (more : List DaemonTurn) : Idle (past ++ more) := by
  unfold Idle at idle ⊢
  rw [any_append, idle, Bool.true_or]

/-- The outcomes that the phone has no part in. -/
def Unreached : ChallengeOutcome → Prop
  | .timedOut | .unknownPeer | .busy | .transportError _ => True
  | _ => False

/-- The phone has responded, unless the outcome needs no response. -/
def Grounded (past : List DaemonTurn) (out : ChallengeOutcome) : Prop :=
  Unreached out ∨ Responded past

theorem Grounded.append (grounded : Grounded past out)
    (more : List DaemonTurn) : Grounded (past ++ more) out :=
  grounded.imp_right (·.append _)

def Candid (past : List DaemonTurn) : Request → Response → Prop
  | .challenge _ _, resp =>
    (resp = .challenge false none STUB_CHALLENGE_REASON ∧ Idle past) ∨
      ∃ out, resp = challengeResponse out ∧ Grounded past out
  | _, _ => True

theorem candid_lasting : Lasting Candid := by
  intro past req resp more candid
  cases req with
  | challenge peerId nonce =>
    rcases candid with ⟨stub, idle⟩ | ⟨out, same, grounded⟩
    · exact .inl ⟨stub, idle.append _⟩
    · exact .inr ⟨out, same, grounded.append _⟩
  | reload | status => exact trivial

section

variable {SigningKey : Type} {crypto : Crypto SigningKey}
  {cfg : ServeConfig} {past : List DaemonTurn}

theorem unreached_challengeOutcomeForTransport {error : PeripheralError} :
    Unreached (challengeOutcomeForTransport error) := by
  cases error <;> exact trivial

def Grounding : ChallengePoint → List DaemonTurn → Prop
  | .responded _ _ _ _, past => Responded past
  | .due _ out, past | .settled out, past => Grounded past out
  | _, _ => True

theorem grounding_outline {nonceSource : DaemonM (Except Text Nonce)} {peerId : Text}
    {deadlineMs : Nat} :
    Outline crypto nonceSource peerId deadlineMs (fun _ _ => True) Grounding where
  turn incidental held := by
    cases incidental with
    | finish | release => exact ⟨trivial, fun _ => held.append _⟩
    | _ => exact ⟨trivial, fun _ => trivial⟩
  lookup _ := by
    refine ⟨trivial, fun found => ?_⟩
    cases found with
    | none => exact .inl trivial
    | some peerState => exact trivial
  busy _ := .inl trivial
  draw _ := by
    refine keeps_true.imp fun past reply _ => ?_
    cases reply with
    | error error => exact .inl trivial
    | ok nonce => exact trivial
  notify _ _ := by
    refine ⟨trivial, ?_⟩
    rintro (error | ⟨⟨⟩⟩)
    · exact .inl unreached_challengeOutcomeForTransport
    · exact trivial
  wait _ := by
    refine ⟨trivial, fun reply => ?_⟩
    cases reply with
    | error error => exact .inl unreached_challengeOutcomeForTransport
    | ok responseBytes => simp [Grounding, Responded, isResponse]
  -- Whatever becomes of the response, it was received.
  refuse _ held := .inr held
  check _ _ held := ⟨trivial, fun _ => .inr (held.append _)⟩
  audit held := ⟨trivial, held.append _⟩

theorem issueChallengeFrom_grounded {nonceSource : DaemonM (Except Text Nonce)}
    {peerId : Text} {deadlineMs : Nat} :
    Keeps (fun _ _ => True) Grounded past
      (issueChallengeFrom crypto nonceSource peerId deadlineMs) :=
  grounding_outline.issueChallengeFrom trivial

theorem dispatch_candid {req : Request}
    {back : BackendState} (found : ⟨.backend, back⟩ ∈ past) : Keeps (fun _ _ => True)
    (fun past resp => Candid past req resp) past (dispatch crypto cfg req back) := by
  cases req with
  | challenge peerId nonce =>
    unfold dispatch
    dsimp only
    split_ifs with running
    · split
      · exact issueChallengeFrom_grounded.bind
            fun _ out grounded => .inr ⟨out, rfl, grounded⟩
      · exact issueChallengeFrom_grounded.bind
            fun _ out grounded => .inr ⟨out, rfl, grounded⟩
    · refine .inl ⟨rfl, any_eq_true.mpr ⟨_, found, ?_⟩⟩
      simpa [isIdle] using running
  | reload | status => exact keeps_true

theorem handleConnection_candid {crypto : Crypto SigningKey} {cfg : ServeConfig} {codecs : Codecs} :
    Keeps (Speaks codecs Candid) (fun _ _ => True) [] (handleConnection crypto cfg codecs) := by
  refine handleConnection_speaks ?_
  intro past req back found
  exact ((dispatch_keeps.and
      (dispatch_candid found)).widen fun _ _ asked => asked.1).imp fun _ _ holds => holds.2

end

end Server

namespace Client

def read? : ClientTurn → Option Bytes
  | ⟨.readExact _, .ok bytes⟩ => some bytes
  | _ => none

def reply? (codecs : Codecs) (past : List ClientTurn) : Option Response :=
  match past.filterMap read? with
  | [_, payload] => (Rpc.decodeFrame codecs.response payload).toOption
  | _ => none

def replyCode : Option Response → Int
  | some (.challenge _ _ reason) => (outcomeReasonToPam reason).1
  | _ => PAM_AUTHINFO_UNAVAIL

section

variable {codecs : Codecs} {past : List ClientTurn}

def Unread (past : List ClientTurn) : Prop := past.filterMap read? = []

theorem Unread.snoc (unread : Unread past) {turn : ClientTurn}
    (silent : read? turn = none) : Unread (past ++ [turn]) := by
  unfold Unread at unread ⊢
  simp [unread, silent]

theorem Unread.reply? (unread : Unread past) : reply? codecs past = none := by
  unfold Client.reply?
  rw [unread]

theorem readResponse_reply? (unread : Unread past) :
    Keeps (fun _ _ => True)
      (fun past reply => reply? codecs past = reply.toOption) past
      (Rpc.readFrame codecs.response fun count => call (.readExact count)) := by
  refine keeps_call trivial fun first => ?_
  cases first with
  | error source => exact (unread.snoc rfl).reply?
  | ok length =>
    dsimp only
    split_ifs
    · change reply? codecs _ = none
      unfold reply?
      rw [filterMap_append, unread]
      rfl
    · refine keeps_call trivial fun second => ?_
      cases second with
      | error source =>
        change reply? codecs _ = none
        unfold reply?
        rw [filterMap_append, filterMap_append, unread]
        rfl
      | ok payload =>
        change reply? codecs _ = (Rpc.decodeFrame codecs.response payload).toOption
        unfold reply?
        rw [filterMap_append, filterMap_append, unread]
        rfl

theorem writeRequest_unread (unread : Unread past) {req : Request} :
    Keeps (fun _ _ => True) (fun past _ => Unread past) past
      (Rpc.writeFrame codecs.request (fun bytes => call (.write bytes)) req) := by
  refine Rpc.writeFrame_keeps (fun _ => unread) ?_
  intro framed encoded
  exact ⟨trivial, fun _ => unread.snoc rfl⟩

theorem daemonRoundTrip_reply? (unread : Unread past)
    {socketPath peerId : Text} {nonce : Nonce} {authTimeout : Nat} :
    Keeps (fun _ _ => True)
      (fun past reply => reply? codecs past = reply.toOption) past
      (daemonRoundTrip codecs socketPath peerId nonce authTimeout) := by
  refine keeps_call trivial fun connected => ?_
  cases connected with
  | error _ => exact (unread.snoc rfl).reply?
  | ok _ =>
    refine keeps_call trivial fun configured => ?_
    cases configured with
    | error _ => exact ((unread.snoc rfl).snoc rfl).reply?
    | ok _ =>
      refine keeps_call trivial fun configured => ?_
      cases configured with
      | error _ => exact (((unread.snoc rfl).snoc rfl).snoc rfl).reply?
      | ok _ =>
        refine (writeRequest_unread (((unread.snoc rfl).snoc rfl).snoc rfl)).bind ?_
        intro past written unread
        cases written with
        | error _ => exact unread.reply?
        | ok _ =>
          refine (readResponse_reply? unread).bind ?_
          intro past reply replied
          cases reply with
          | error _ | ok resp => exact replied

theorem outcomeReasonToPam_code {reason : Text} :
    (outcomeReasonToPam reason).1 = PAM_SUCCESS ∨ (outcomeReasonToPam reason).1 =
    PAM_AUTHINFO_UNAVAIL ∨ (outcomeReasonToPam reason).1 = PAM_AUTH_ERR := by
  unfold outcomeReasonToPam
  split_ifs <;> simp

/-- The verdict has the code of the reason. -/
theorem toPamCode_pamVerdict {peerId : Text} {reply : Except Unit Response} :
    (pamVerdict peerId reply).toPamCode = replyCode reply.toOption := by
  unfold pamVerdict
  split
  · next ok sig reason =>
      dsimp only
      split_ifs with success unavailable
      · exact success.symm
      · exact unavailable.symm
      · rcases outcomeReasonToPam_code with code | code | code
        · exact (success code).elim
        · exact (unavailable code).elim
        · exact code.symm
  · next other =>
      unfold replyCode
      split
      · next ok sig reason same =>
          cases reply with
          | error _ => cases same
          | ok resp =>
            cases same
            exact (other _ _ _ rfl).elim
      · rfl

/-- The code is the one of the response that was read, if there was one. -/
def Settled (codecs : Codecs) (past : List ClientTurn) (out : AuthOutcome) : Prop :=
  out.toPamCode = replyCode (reply? codecs past) ∧
    ∀ resp, reply? codecs past = some resp → ∃ peerId, Answered codecs peerId resp past

theorem Unread.settled (unread : Unread past) {out : AuthOutcome}
    (unavailable : out.toPamCode = PAM_AUTHINFO_UNAVAIL) : Settled codecs past out := by
  constructor
  · rw [unread.reply?]
    exact unavailable
  · intro resp replied
    rw [unread.reply?] at replied
    cases replied

theorem Settled.snoc {out : AuthOutcome} (settled : Settled codecs past out) {turn : ClientTurn}
    (silent : Silent turn) (unread : read? turn = none) : Settled codecs (past ++ [turn]) out := by
  have same : reply? codecs (past ++ [turn]) = reply? codecs past := by
    unfold reply?
    simp [unread]
  constructor
  · rw [same]
    exact settled.1
  · intro resp replied
    rw [same] at replied
    obtain ⟨peerId, answered⟩ := settled.2 _ replied
    exact ⟨peerId, answered.snoc silent.2⟩

/-- Without a peer to ask for, there is nothing to be had. -/
theorem resolvePeerId_unread {cfg : PamConfig} :
    Keeps (fun _ _ => True)
      (fun past reply => Unread past ∧ Fresh past ∧
        ∀ out, reply = .error out → out.toPamCode = PAM_AUTHINFO_UNAVAIL) []
      (resolvePeerId cfg) := by
  refine keeps_call trivial fun loaded => ?_
  cases loaded with
  | error error =>
    refine ⟨rfl, ⟨rfl, rfl⟩, ?_⟩
    rintro _ ⟨⟩
    rfl
  | ok store =>
    dsimp only
    cases newestBonded store with
    | none =>
      refine ⟨rfl, ⟨rfl, rfl⟩, ?_⟩
      rintro _ ⟨⟩
      rfl
    | some bond => exact ⟨rfl, ⟨rfl, rfl⟩, nofun⟩

theorem daemonRoundTrip_settled (unread : Unread past) (fresh : Fresh past)
    {socketPath peerId : Text} {nonce : Nonce} (authTimeout : Nat) :
    Keeps (fun _ _ => True)
      (fun past reply => Settled codecs past (pamVerdict peerId reply)) past
      (daemonRoundTrip codecs socketPath peerId nonce authTimeout) := by
  have answering : Keeps (Guard codecs fun _ => False)
        (fun past reply => ∀ resp, reply = .ok resp → Answered codecs peerId resp past) past
        (daemonRoundTrip codecs socketPath peerId nonce authTimeout) :=
    daemonRoundTrip_keeps fresh _
  have replying : Keeps (fun _ _ => True)
        (fun past reply => reply? codecs _ = reply.toOption) _
        (daemonRoundTrip _ socketPath peerId nonce authTimeout) :=
    daemonRoundTrip_reply? unread
  refine ((replying.and answering).widen fun _ _ _ => trivial).imp ?_
  rintro past reply ⟨replied, answered⟩
  constructor
  · rw [replied]
    exact toPamCode_pamVerdict
  · intro resp found
    rw [replied] at found
    cases reply with
    | error _ => cases found
    | ok other =>
      cases found
      exact ⟨peerId, answered _ rfl⟩

theorem authenticate_settled {codecs : Codecs} {cfg : PamConfig} :
    Keeps (fun _ _ => True) (Settled codecs) [] (authenticate codecs cfg) := by
  have inner : Keeps (fun _ _ => True) (Settled codecs) [] (authenticateInner codecs cfg) := by
    refine resolvePeerId_unread.bind ?_
    rintro past peer ⟨unread, fresh, unavailable⟩
    cases peer with
    | error out => exact unread.settled (unavailable _ rfl)
    | ok peerId =>
      refine keeps_call trivial fun drawn => ?_
      cases drawn with
      | error error => exact (unread.snoc rfl).settled rfl
      | ok nonce =>
        exact (daemonRoundTrip_settled (unread.snoc rfl)
            (fresh.snoc ⟨rfl, rfl⟩) cfg.authTimeout).bind fun _ _ settled => settled
  refine inner.bind ?_
  intro past out settled
  exact keeps_call trivial fun _ => settled.snoc ⟨rfl, rfl⟩ rfl

end

end Client

section

variable {SigningKey : Type} {crypto : Crypto SigningKey}
  {cfg : ServeConfig} {codecs : Codecs} {debug : Response → Text}

def Session.Unanswered (sess : Session) : Prop :=
  ∀ task, sess.task = some task → ¬ Server.Responded task.past

instance (sess : Session) : Decidable sess.Unanswered :=
  have : Decidable (∀ task ∈ sess.task, ¬ Server.Responded task.past) := Option.decidableForallMem _
  this

/--
The client has read the answer of a task that had found no orchestrator.
-/
def Session.Stubbed (codecs : Codecs) (sess : Session) : Prop :=
  Client.reply? codecs sess.past = some (.challenge false none STUB_CHALLENGE_REASON) ∧
    ∃ task, sess.task = some task ∧ Server.Idle task.past

/-- The reasons that need no phone are in the table. -/
theorem replyCode_of_unreached (unreached : Server.Unreached out) :
    Client.replyCode (some (challengeResponse out)) = PAM_AUTHINFO_UNAVAIL := by
  cases out with
  | timedOut | unknownPeer | busy => decide
  | transportError error =>
    change (outcomeReasonToPam OUTCOME_REASON_TRANSPORT_ERROR).1 = _
    decide
  | _ => exact unreached.elim

theorem pamResult?_eq_some {sess : Session} {res : ClientResult}
    (returned : sess.pamResult? = some res) :
    ∃ cfg, sess.kind = .pam cfg ∧ sess.client = .done res := by
  unfold Session.pamResult? at returned
  cases same : sess.kind with
  | pam cfg =>
    rw [same] at returned
    exact ⟨cfg, rfl, eq_done_of_result? returned⟩
  | _ =>
    rw [same] at returned
    cases returned

theorem program_settled {codecs : Codecs} {debug : Response → Text} {cfg : PamConfig} :
    Keeps (fun _ _ => True)
      (fun past res => ∀ out, res = .authenticated out → Client.Settled codecs past out) []
      ((ClientKind.pam cfg).program codecs debug) := by
  refine Client.authenticate_settled.bind ?_
  rintro past out settled _ ⟨⟩
  exact settled

/--
In every run, a PAM module that returns without a response of the phone having
been received for its request returns `PAM_AUTHINFO_UNAVAIL`, exactly unless
it has read the answer of a daemon that was serving without an orchestrator.
-/
theorem falls_through_unless_stubbed (faithful : codecs.Faithful) (orch : Orchestrator)
    (events : List UnlockSystem.Event) {sess : Session}
    (mem : sess ∈ (run (UnlockSystem.step crypto cfg codecs debug) (.start orch) events).sessions)
    {out : AuthOutcome} (returned : sess.pamResult? = some (.authenticated out))
    (unanswered : sess.Unanswered) :
    out.toPamCode = PAM_AUTHINFO_UNAVAIL ↔ ¬ sess.Stubbed codecs := by
  obtain ⟨pamConfig, isPam, done⟩ := pamResult?_eq_some returned
  have underway := UnlockSystem.run_underway _ mem
  have known : sess.kind.Known := by
    rw [isPam]
    exact trivial
  have linked := (UnlockSystem.run_sound _ _ _ mem).linked known
  have settled : Client.Settled codecs sess.past out := by
    have client := underway.client
    rw [isPam, done] at client
    exact client.keeps program_settled _ rfl
  constructor
  · rintro unavailable ⟨stub, -⟩
    have refused := settled.1
    rw [stub, unavailable] at refused
    exact absurd refused (by decide)
  · intro unstubbed
    rw [settled.1]
    cases replied : Client.reply? codecs sess.past with
    | none => rfl
    | some resp =>
      obtain ⟨peerId, answered⟩ := settled.2 _ replied
      obtain ⟨task, nonce, written, served, candid, -, same⟩ :=
        linked.exchanged faithful
          (fun task served =>
            Server.spoken_of_justified Server.candid_lasting
              ((underway.task _ served).justified Server.handleConnection_candid))
          answered
      rcases candid with ⟨rfl, idle⟩ | ⟨out, rfl, unreached | responded⟩
      · cases same (faithful.response _ _ _)
        exact (unstubbed ⟨replied, task, served, idle⟩).elim
      · cases same (faithful.response _ _ _)
        exact replyCode_of_unreached unreached
      · exact (unanswered _ served responded).elim

end

def refusingCodecs (reason : Text) : Codecs where
  request := sampleCodecs.request
  response := .only (Rpc.outcomeCbor false none reason) (.challenge false none reason)

theorem refusingCodecs_faithful {reason : Text} : (refusingCodecs reason).Faithful where
  request := fun _ _ => Rpc.Cbor.only_roundTrips
  response := fun _ _ _ => Rpc.Cbor.only_roundTrips

def backendChoice (running : Bool) : Oracle DaemonAnswer
  | .backend => ⟨running, running⟩
  | other => sampleTaskChoice other

def requestRun (running : Bool) (steps : Nat) : List UnlockSystem.Event :=
  .clientStarted (.pam ⟨[], [], 20000⟩) ::
    List.replicate 6 (.clientAnswered 0 sampleClientChoice 0) ++
    List.replicate steps (.taskAnswered 0 (backendChoice running) 0) ++
    List.replicate 3 (.clientAnswered 0 sampleClientChoice 0)

def requestState (reason : Text) (running : Bool) (steps : Nat) :
    UnlockSystem :=
  run (UnlockSystem.step sampleCrypto sampleConfig
    (refusingCodecs reason) fun _ => []) (.start .vacant) (requestRun running steps)

/--
While the daemon serves its socket without an orchestrator, the PAM module
refuses, although no phone was asked.
-/
theorem refused_without_orchestrator :
    ∃ sess ∈
      (requestState STUB_CHALLENGE_REASON false 5).sessions,
      sess.Unanswered ∧
        sess.pamResult? =
          some (.authenticated (.authErr "unknown-reason".toList (some samplePeer))) ∧
        (AuthOutcome.authErr "unknown-reason".toList
          (some samplePeer)).toPamCode = PAM_AUTH_ERR := by
  decide +kernel

/-- A peer that the daemon does not know falls through. -/
theorem unknown_peer_falls_through :
    ∃ sess ∈
      (requestState OUTCOME_REASON_UNKNOWN_PEER true 8).sessions,
      ∃ out, sess.pamResult? = some (.authenticated out) ∧
        sess.Unanswered ∧ out.toPamCode = PAM_AUTHINFO_UNAVAIL := by
  have answered :
      ∃ sess ∈
        (requestState OUTCOME_REASON_UNKNOWN_PEER true 8).sessions,
        sess.Unanswered ∧
          sess.pamResult? =
            some (.authenticated (.authInfoUnavail OUTCOME_REASON_UNKNOWN_PEER (some samplePeer))) ∧
          Client.reply? (refusingCodecs OUTCOME_REASON_UNKNOWN_PEER) sess.past =
            some (.challenge false none OUTCOME_REASON_UNKNOWN_PEER) := by
    decide +kernel
  obtain ⟨sess, mem, unanswered, returned, replied⟩ := answered
  refine ⟨sess, mem, _, returned, unanswered, ?_⟩
  refine (falls_through_unless_stubbed refusingCodecs_faithful
      .vacant (requestRun _ 8) mem returned unanswered).mpr ?_
  rintro ⟨stub, -⟩
  rw [replied] at stub
  exact absurd stub (by decide)

end DeskUnlock.Unlock
