import DeskUnlock.Unlock.Clients

/-!
# What the clients promise

A client sends one request, and grants nothing unless the response it has read
says so.  The two clients look at different fields of the response; a response
that either of them takes for a success is called an approval here.

The contracts hold whatever the environment answers.  That the response is the
daemon's is not theirs to promise.
-/

namespace DeskUnlock.Unlock.Client

open Texts Dialogues Dialogue List
open Pairing (Bytes)
open Rpc (Response)

def heard : ClientTurn → Bytes
  | ⟨.readExact _, .ok bytes⟩ => bytes
  | _ => []

def said : ClientTurn → Bytes
  | ⟨.write bytes, _⟩ => bytes
  | _ => []

def chosenPeer (opts : UnlockRequestOpts) (past : List ClientTurn) : Option Text :=
  match opts.peerId with
  | some peerId => some peerId
  | none =>
    past.findSome? fun
      | ⟨.loadBonds _, .ok store⟩ => (newestBonded store).map (·.peerId)
      | _ => none

def Fresh (past : List ClientTurn) : Prop := past.flatMap said = [] ∧ past.flatMap heard = []

section

variable (codecs : Codecs)

/-- A request for the peer was written, and nothing was read yet. -/
def Sent (peerId : Text) (past : List ClientTurn) : Prop :=
  past.flatMap heard = [] ∧
    ∃ nonce, Rpc.encodeFrame codecs.request (.challenge peerId nonce) = .ok (past.flatMap said)

/-- After a request for the peer, a response was read. -/
def Answered (peerId : Text) (resp : Response) (past : List ClientTurn) : Prop :=
  ∃ nonce length payload,
    Rpc.encodeFrame codecs.request (.challenge peerId nonce) = .ok (past.flatMap said) ∧
      ⟨.readExact Rpc.LENGTH_PREFIX_BYTES, .ok length⟩ ∈ past ∧
      ⟨.readExact (Rpc.fromBeBytes length), .ok payload⟩ ∈ past ∧
      length ++ payload <+: past.flatMap heard ∧ Rpc.decodeFrame codecs.response payload = .ok resp

def Approves : Response → Prop
  | .challenge ok _ reason => ok = true ∨ reason = OUTCOME_REASON_OK
  | _ => False

/-- The daemon has answered with an approval. -/
def Approved (peerId : Text) (past : List ClientTurn) : Prop :=
  ∃ resp, Approves resp ∧ Answered codecs peerId resp past

/-- One request is sent, and a command needs a reason to be run. -/
def Guard (unlocks : List ClientTurn → Prop) (past : List ClientTurn) :
    ClientQuestion → Prop
  | .connect _ => Fresh past
  | .write framed =>
    Fresh past ∧
      ∃ peerId nonce, Rpc.encodeFrame codecs.request (.challenge peerId nonce) = .ok framed
  | .runCommand _ _ => unlocks past
  | _ => True

/-- The reason of an unlock request to run its command. -/
def Unlocks (opts : UnlockRequestOpts) (past : List ClientTurn) : Prop :=
  ∃ peerId, chosenPeer opts past = some peerId ∧ Approved codecs peerId past

end

section

variable {codecs : Codecs} {past : List ClientTurn}

def Silent (turn : ClientTurn) : Prop := heard turn = [] ∧ said turn = []

theorem Fresh.snoc (fresh : Fresh past) {turn : ClientTurn}
    (silent : Silent turn) : Fresh (past ++ [turn]) := by
  unfold Fresh
  rw [flatMap_append, flatMap_append, fresh.1, fresh.2,
    flatMap_singleton, flatMap_singleton, silent.1, silent.2]
  exact ⟨rfl, rfl⟩

theorem Answered.snoc {peerId : Text}
    {resp : Response} (answered : Answered codecs peerId resp past) {turn : ClientTurn}
    (unsaid : said turn = []) : Answered codecs peerId resp (past ++ [turn]) := by
  obtain ⟨nonce, length, payload, encoded, first, second, read, decoded⟩ := answered
  refine ⟨nonce, length, payload, ?_, mem_append_left _ first,
      mem_append_left _ second, ?_, decoded⟩
  · rw [flatMap_append, flatMap_singleton, unsaid, append_nil]
    exact encoded
  · rw [flatMap_append]
    exact read.trans (prefix_append _ _)

theorem Approved.snoc {peerId : Text} (approved : Approved codecs peerId past)
    {turn : ClientTurn} (unsaid : said turn = []) : Approved codecs peerId (past ++ [turn]) := by
  obtain ⟨resp, approves, answered⟩ := approved
  exact ⟨resp, approves, answered.snoc unsaid⟩

variable {opts : UnlockRequestOpts} {peerId : Text}

theorem chosenPeer_append (chosen : chosenPeer opts past = some peerId) {more : List ClientTurn} :
    chosenPeer opts (past ++ more) = some peerId := by
  unfold chosenPeer at chosen ⊢
  split at chosen
  · exact chosen
  · rw [findSome?_append, chosen]
    rfl

theorem Unlocks.snoc {opts : UnlockRequestOpts} (unlocks : Unlocks codecs opts past)
    {turn : ClientTurn} (unsaid : said turn = []) : Unlocks codecs opts (past ++ [turn]) := by
  obtain ⟨peerId, chosen, approved⟩ := unlocks
  exact ⟨peerId, chosenPeer_append chosen, approved.snoc unsaid⟩

variable {unlocks : List ClientTurn → Prop}

theorem keeps_call {Result : Type} {guard : List ClientTurn → ClientQuestion → Prop}
    {post : List ClientTurn → Result → Prop} {ask : ClientQuestion}
    {rest : ClientAnswer ask → ClientM Result} (allowed : guard past ask)
    (continues : ∀ answer, Keeps guard post (past ++ [⟨ask, answer⟩]) (rest answer)) :
    Keeps guard post past (call ask >>= rest) :=
  ⟨allowed, continues⟩

theorem writeRequest_keeps (fresh : Fresh past) {peerId : Text} {nonce : Bytes} :
    Keeps (Guard codecs unlocks)
      (fun past written => written = .ok () → Sent codecs peerId past) past
      (Rpc.writeFrame codecs.request (fun bytes => call (.write bytes))
        (.challenge peerId nonce)) := by
  refine Rpc.writeFrame_keeps (fun _ => nofun) ?_
  intro framed encoded
  refine ⟨⟨fresh, peerId, nonce, encoded⟩, ?_⟩
  intro answer _
  refine ⟨?_, nonce, ?_⟩
  · rw [flatMap_append, fresh.2]
    rfl
  · rw [flatMap_append, fresh.1, encoded]
    exact congrArg _ (append_nil _).symm

theorem readResponse_keeps (sent : Sent codecs peerId past) :
    Keeps (Guard codecs unlocks)
      (fun past reply => ∀ resp, reply = .ok resp → Answered codecs peerId resp past) past
      (Rpc.readFrame codecs.response fun count => call (.readExact count)) := by
  obtain ⟨unheard, nonce, encoded⟩ := sent
  refine Rpc.readFrame_keeps (fun count reply => ⟨.readExact count, reply⟩) ?_ (fun _ _ => nofun) ?_
  · intro count past post holds
    exact ⟨trivial, holds⟩
  · rintro length payload resp decoded _ ⟨⟩
    refine ⟨nonce, length, payload, ?_, by simp, by simp, ?_, decoded⟩
    · simpa [said] using encoded
    · simp [unheard, heard]

theorem daemonRoundTrip_keeps (fresh : Fresh past) {peerId : Text} (socketPath : Text)
    {nonce : Nonce} {authTimeout : Nat} :
    Keeps (Guard codecs unlocks)
      (fun past reply => ∀ resp, reply = .ok resp → Answered codecs peerId resp past) past
      (daemonRoundTrip codecs socketPath peerId nonce authTimeout) := by
  refine keeps_call fresh ?_
  rintro (_ | _)
  · exact nofun
  refine keeps_call trivial ?_
  rintro (_ | _)
  · exact nofun
  refine keeps_call trivial ?_
  rintro (_ | _)
  · exact nofun
  refine (writeRequest_keeps ?_).bind ?_
  · exact ((fresh.snoc ⟨rfl, rfl⟩).snoc ⟨rfl, rfl⟩).snoc ⟨rfl, rfl⟩
  rintro past (_ | _) sent
  · exact nofun
  refine (readResponse_keeps (sent rfl)).bind ?_
  rintro past (_ | resp) answered
  · exact nofun
  rintro _ ⟨⟩
  exact answered _ rfl

theorem challenge_keeps (fresh : Fresh past) {socket peerId : Text} (timeoutMs : Nat) :
    Keeps (Guard codecs unlocks)
      (fun past reply => ∀ resp, reply = some (.ok resp) → Answered codecs peerId resp past) past
      (challenge codecs socket peerId timeoutMs) := by
  refine keeps_call trivial ?_
  rintro (_ | nonce)
  · exact nofun
  refine keeps_call (fresh.snoc ⟨rfl, rfl⟩) ?_
  rintro (_ | _)
  · exact nofun
  refine keeps_call trivial ?_
  rintro (_ | _)
  · exact nofun
  refine keeps_call trivial ?_
  rintro (_ | _)
  · exact nofun
  refine keeps_call trivial ?_
  rintro (_ | _)
  · exact nofun
  refine (writeRequest_keeps ?_).bind ?_
  · exact ((((fresh.snoc ⟨rfl, rfl⟩).snoc ⟨rfl, rfl⟩).snoc
        ⟨rfl, rfl⟩).snoc ⟨rfl, rfl⟩).snoc ⟨rfl, rfl⟩
  rintro past (_ | _) sent
  · exact nofun
  refine (readResponse_keeps (sent rfl)).bind ?_
  rintro past (_ | resp) answered
  · exact nofun
  rintro _ ⟨⟩
  exact answered _ rfl

theorem outcomeReasonToPam_eq_success {reason : Text}
    (success : (outcomeReasonToPam reason).1 = PAM_SUCCESS) : reason = OUTCOME_REASON_OK := by
  unfold outcomeReasonToPam at success
  split_ifs at success with ok
  · exact ok
  all_goals exact absurd success (by decide)

theorem pamVerdict_eq_success {peerId other : Text} {reply : Except Unit Response}
    (success : pamVerdict peerId reply = .success other) :
    other = peerId ∧ ∃ resp, reply = .ok resp ∧ Approves resp := by
  unfold pamVerdict at success
  split at success
  · next ok sig reason =>
      dsimp only at success
      split_ifs at success with granted
      cases success
      exact ⟨rfl, _, rfl, .inr (outcomeReasonToPam_eq_success granted)⟩
  · cases success

theorem resolvePeerId_keeps {cfg : PamConfig} (fresh : Fresh past) :
    Keeps (Guard codecs unlocks)
      (fun past reply => Fresh past ∧
        ∀ out, reply = .error out → ∀ peerId, out ≠ .success peerId) past
      (resolvePeerId cfg) := by
  refine keeps_call trivial fun loaded => ?_
  have fresh : Fresh (past ++ [⟨.loadBonds cfg.bondDir, loaded⟩]) := fresh.snoc ⟨rfl, rfl⟩
  cases loaded with
  | error error =>
    refine ⟨fresh, ?_⟩
    rintro _ ⟨⟩
    exact nofun
  | ok store =>
    dsimp only
    cases newestBonded store with
    | none =>
      refine ⟨fresh, ?_⟩
      rintro _ ⟨⟩
      exact nofun
    | some bond => exact ⟨fresh, nofun⟩

/-- The PAM module grants only what a response has approved. -/
theorem authenticate_keeps {codecs : Codecs} {cfg : PamConfig} : Keeps (Guard codecs fun _ => False)
    (fun past out => ∀ peerId, out = .success peerId → Approved codecs peerId past)
    [] (authenticate codecs cfg) := by
  have inner :
      Keeps (Guard codecs fun _ => False)
        (fun past out => ∀ peerId, out = .success peerId → Approved codecs peerId past) []
        (authenticateInner codecs cfg) := by
    refine (resolvePeerId_keeps ⟨rfl, rfl⟩).bind ?_
    rintro past peer ⟨fresh, refused⟩
    cases peer with
    | error out =>
      intro peerId success
      exact (refused _ rfl peerId success).elim
    | ok peerId =>
      refine keeps_call trivial fun drawn => ?_
      cases drawn with
      | error error => exact nofun
      | ok nonce =>
        refine (daemonRoundTrip_keeps (fresh.snoc ⟨rfl, rfl⟩) cfg.socketPath).bind ?_
        intro past reply answered other success
        obtain ⟨rfl, resp, same, approves⟩ := pamVerdict_eq_success success
        exact ⟨resp, approves, answered _ same⟩
  refine inner.bind ?_
  intro past out approved
  refine keeps_call trivial fun _ => ?_
  intro peerId success
  exact (approved _ success).snoc rfl

theorem unlockSession_keeps (unlocks : Unlocks codecs opts past) {bin : Text} :
    Keeps (Guard codecs (Unlocks codecs opts))
      (fun past _ => Unlocks codecs opts past) past (unlockSession bin) := by
  refine keeps_call unlocks fun status => ?_
  have unlocks : Unlocks codecs opts (past ++ [⟨.runCommand bin UNLOCK_SESSION_ARG, status⟩]) :=
    unlocks.snoc rfl
  cases status with
  | error source => exact unlocks
  | ok status =>
    dsimp only
    split_ifs
    · exact unlocks
    · exact unlocks

/-- With the response at hand, the request unlocks only if it approves. -/
theorem actOnResponse_keeps {resp : Response} {debug : Response → Text}
    (chosen : chosenPeer opts past = some peerId) (answered : Answered codecs peerId resp past) :
    Keeps (Guard codecs (Unlocks codecs opts))
      (fun past exit => exit = .ok → Unlocks codecs opts past) past
      (actOnResponse debug opts peerId resp) := by
  cases resp with
  | challenge ok sig reason =>
    cases ok with
    | false => exact nofun
    | true =>
      have unlocks : Unlocks codecs opts past :=
        ⟨peerId, chosen, .challenge _ _ _, .inl rfl, answered⟩
      unfold actOnResponse
      split_ifs
      · refine keeps_call trivial fun _ => ?_
        exact fun _ => unlocks.snoc rfl
      · refine keeps_call trivial fun bin => ?_
        have unlocks : Unlocks codecs opts (past ++ [⟨.loginctlBin, bin⟩]) := unlocks.snoc rfl
        refine (unlockSession_keeps unlocks).bind ?_
        intro past res unlocks
        cases res with
        | error error => exact nofun
        | ok _ =>
          refine keeps_call trivial fun _ => ?_
          exact fun _ => unlocks.snoc rfl
  | reload ok | status peers startedAt => exact nofun

/-- The peer is the one given, or else the newest bonded one. -/
theorem choosePeer_keeps {opts : UnlockRequestOpts} : Keeps (Guard codecs unlocks)
    (fun past peer => Fresh past ∧ ∀ peerId, peer = .ok peerId → chosenPeer opts past = some peerId)
    [] (choosePeer opts) := by
  unfold choosePeer
  split
  · next given specified =>
      refine ⟨⟨rfl, rfl⟩, ?_⟩
      rintro _ ⟨⟩
      unfold chosenPeer
      rw [specified]
  · next unspecified =>
      refine keeps_call trivial fun loaded => ?_
      have fresh : Fresh ([] ++ [⟨.loadBonds opts.bondDir, loaded⟩]) := .snoc ⟨rfl, rfl⟩ ⟨rfl, rfl⟩
      cases loaded with
      | error error => exact ⟨fresh, nofun⟩
      | ok store =>
        dsimp only
        cases found : newestBonded store with
        | none => exact ⟨fresh, nofun⟩
        | some bond =>
          refine ⟨fresh, ?_⟩
          rintro _ ⟨⟩
          unfold chosenPeer
          rw [unspecified]
          simp [found]

theorem chooseSocket_keeps (fresh : Fresh past)
    (chosen : chosenPeer opts past = some peerId) : Keeps (Guard codecs unlocks)
    (fun past _ => Fresh past ∧ chosenPeer opts past = some peerId) past (chooseSocket opts) := by
  unfold chooseSocket
  split
  · exact ⟨fresh, chosen⟩
  · refine ⟨trivial, fun _ => ?_⟩
    exact ⟨fresh.snoc ⟨rfl, rfl⟩, chosenPeer_append chosen⟩

/-- The unlock request unlocks only what a response has approved. -/
theorem unlockRequest_keeps {codecs : Codecs} {debug : Response → Text} {opts : UnlockRequestOpts} :
    Keeps (Guard codecs (Unlocks codecs opts))
      (fun past exit => exit = .ok → Unlocks codecs opts past) []
      (unlockRequest codecs debug opts) := by
  refine choosePeer_keeps.bind ?_
  rintro past peer ⟨fresh, chosen⟩
  cases peer with
  | error error => exact nofun
  | ok peerId =>
    refine (chooseSocket_keeps fresh (chosen _ rfl)).bind ?_
    rintro past socket ⟨fresh, chosen⟩
    refine ((challenge_keeps fresh
      (opts.timeoutSecs * 1000)).preserve (chosenPeer _ · = some _) chosen ?_).bind ?_
    · intro past ask answer _ kept
      exact chosenPeer_append kept
    · rintro past reply ⟨answered, chosen⟩
      cases reply with
      | none => exact nofun
      | some reply =>
        cases reply with
        | error error => exact nofun
        | ok resp => exact actOnResponse_keeps chosen (answered _ rfl)

end

end DeskUnlock.Unlock.Client
