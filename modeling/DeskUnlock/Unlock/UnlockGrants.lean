import DeskUnlock.Unlock.PhoneApproval
import DeskUnlock.Unlock.UnlockLinks

/-!
# What an unlock is granted on

A client that grants has read an approval; the bytes it has read are the ones
that its task has written; and the task writes an approval only of a challenge
for the peer of the request, which is the one that the client has sent.  So a
grant rests on a signature that was verified while that very request was
served.
-/

namespace DeskUnlock.Unlock

open Texts Dialogues Dialogue Runs List
open Rpc (Request Response)

section

variable {SigningKey : Type} {crypto : Crypto SigningKey}
  {cfg : ServeConfig} {codecs : Codecs} {debug : Response → Text}

theorem Client.unlocks_of_ran {opts : UnlockRequestOpts} {past : List ClientTurn}
    (justified : Justified (Client.Guard codecs (Client.Unlocks codecs opts)) past)
    {bin arg : Text} {status : ClientAnswer (.runCommand bin arg)}
    (ran : ⟨.runCommand bin arg, status⟩ ∈ past) : Client.Unlocks codecs opts past := by
  induction justified with
  | nil => cases ran
  | @snoc past ask earlier asked answer induction =>
    rcases mem_append.mp ran with old | new
    · have unlocks := induction old
      cases ask with
      | write framed =>
        -- A second write: the first one was the request.
        obtain ⟨peerId, -, resp, -, nonce, -, -, encoded, -⟩ := unlocks
        rw [asked.1.1] at encoded
        exact (Rpc.encodeFrame_ne_nil _ encoded).elim
      | _ => exact unlocks.snoc rfl
    · cases mem_singleton.mp new
      exact Unlocks.snoc asked rfl

/-- What a task has said is a response, warranted by the request it read. -/
def Server.Spoken (codecs : Codecs) (warrant : List DaemonTurn → Request → Response → Prop)
    (past : List DaemonTurn) : Prop :=
  ∃ length payload req resp,
    ⟨.readExact Rpc.LENGTH_PREFIX_BYTES, .ok length⟩ ∈ past ∧
      ⟨.readExact (Rpc.fromBeBytes length), .ok payload⟩ ∈ past ∧
      length ++ payload <+: past.flatMap Server.heard ∧
      Rpc.decodeFrame codecs.request payload = .ok req ∧
      Rpc.encodeFrame codecs.response resp = .ok (past.flatMap Server.said) ∧ warrant past req resp

def Server.Lasting (warrant : List DaemonTurn → Request → Response → Prop) :
    Prop :=
  ∀ past req resp more, warrant past req resp → warrant (past ++ more) req resp

theorem Server.Spoken.snoc {warrant : List DaemonTurn → Request → Response → Prop}
    (lasting : Server.Lasting warrant) {past : List DaemonTurn} {turn : DaemonTurn}
    (spoken : Server.Spoken codecs warrant past) (unsaid : Server.said turn = []) :
    Server.Spoken codecs warrant (past ++ [turn]) := by
  obtain ⟨length, payload, req, resp, first, second, read, decoded, encoded, warranted⟩ := spoken
  refine ⟨length, payload, req, resp, mem_append_left _ first,
      mem_append_left _ second, ?_, decoded, ?_, lasting _ _ _ _ warranted⟩
  · rw [flatMap_append]
    exact read.trans (prefix_append _ _)
  · rw [flatMap_append, flatMap_singleton, unsaid, append_nil]
    exact encoded

theorem Server.spoken_of_justified {warrant : List DaemonTurn → Request → Response → Prop}
    (lasting : Server.Lasting warrant) {past : List DaemonTurn}
    (justified : Justified (Server.Speaks codecs warrant) past) :
    past.flatMap Server.said = [] ∨ Server.Spoken codecs warrant past := by
  induction justified with
  | nil => exact .inl rfl
  | @snoc past ask earlier asked answer induction =>
    cases ask with
    | write framed =>
      obtain ⟨unsaid, length, payload, req, resp,
        ⟨first, second, whole⟩, decoded, encoded, warranted⟩ := asked
      refine .inr ⟨length, payload, req, resp,
          mem_append_left _ first, mem_append_left _ second,
          ?_, decoded, ?_, lasting _ _ _ _ warranted⟩
      · rw [flatMap_append, whole]
        exact prefix_append _ _
      · rw [flatMap_append, unsaid, encoded]
        exact congrArg _ (append_nil _).symm
    | _ =>
      rcases induction with unsaid | spoken
      · refine .inl ?_
        rw [flatMap_append, unsaid]
        rfl
      · exact .inr (spoken.snoc lasting rfl)

theorem Server.said_of_justified {past : List DaemonTurn}
    (justified : Justified (Server.Guard crypto cfg codecs) past) :
    past.flatMap Server.said = [] ∨ Server.Spoken codecs (Server.Warranted crypto cfg) past := by
  exact spoken_of_justified (fun _ _ _ more warranted => warranted.append _ _ _) justified

/-- What the CBOR library is assumed to do. -/
structure Codecs.Faithful (codecs : Codecs) : Prop where
  request : ∀ peerId nonce, codecs.request.RoundTrips (.challenge peerId nonce)
  response : ∀ ok sig reason, codecs.response.RoundTrips (.challenge ok sig reason)

variable {sess : Session} {peerId : Text}

/--
A client that was answered has read what its task has written, and the task
has written it in answer to the request of the client.
-/
theorem Linked.exchanged {resp : Response}
    {warrant : List DaemonTurn → Request → Response → Prop} (faithful : codecs.Faithful)
    (linked : Linked crypto cfg codecs sess)
    (spoken : ∀ task, sess.task = some task →
      task.past.flatMap Server.said = [] ∨ Server.Spoken codecs warrant task.past)
    (answered : Client.Answered codecs peerId resp sess.past) :
    ∃ task nonce written,
      sess.task = some task ∧
        warrant task.past (.challenge peerId nonce) written ∧
        Rpc.encodeFrame codecs.response written = .ok (task.past.flatMap Server.said) ∧
        (codecs.response.RoundTrips written → resp = written) := by
  obtain ⟨nonce, length, payload, sent, first, second, read, decoded⟩ := answered
  have sizedLength := linked.sized _ first _ _ rfl
  have sizedPayload := linked.sized _ second _ _ rfl
  have nonempty : ∀ bytes, length ++ payload <+: bytes → bytes ≠ [] := by
    rintro bytes begins rfl
    have empty := prefix_nil.mp begins
    rw [(append_eq_nil_iff.mp empty).1] at sizedLength
    cases sizedLength
  cases served : sess.task with
  | none =>
    rw [linked.attached.heard] at read
    have begins := read.trans sess.toClient.received_prefix_sent
    exact (nonempty _ begins (linked.unserved served)).elim
  | some task =>
    have serving := linked.serving _ served
    have written := read.trans (linked.attached.heard_prefix_said serving.attached)
    rcases spoken _ served with
      unsaid | ⟨askedLength, askedPayload, req, answer, askedFirst,
        askedSecond, asked, understood, replied, warranted⟩
    · exact (nonempty _ written unsaid).elim
    · have requested :=
        Rpc.decodeFrame_pieces _ (faithful.request _ _) sent
          (serving.sized _ askedFirst _ _ rfl) (serving.sized _ askedSecond _ _ rfl)
          (asked.trans (serving.attached.heard_prefix_said linked.attached))
      cases understood.symm.trans requested
      refine ⟨task, nonce, answer, rfl, warranted, replied, ?_⟩
      intro roundTrips
      have same := Rpc.decodeFrame_pieces _ roundTrips replied sizedLength sizedPayload written
      exact Except.ok.inj (decoded.symm.trans same)

/--
A client that was approved has read what its task has written, and the task
has verified a signature for the peer of the request.
-/
theorem Linked.verified (faithful : codecs.Faithful)
    (linked : Linked crypto cfg codecs sess) (approved : Client.Approved codecs peerId sess.past) :
    ∃ task ok sig reason,
      sess.task = some task ∧
        Client.Approves (.challenge ok sig reason) ∧
        Rpc.encodeFrame codecs.response (.challenge ok sig reason) =
          .ok (task.past.flatMap Server.said) ∧
        ∃ verification, Server.Verified crypto cfg peerId verification task.past := by
  obtain ⟨resp, approves, answered⟩ := approved
  obtain ⟨task, nonce, written, served, warranted, replied, same⟩ :=
    linked.exchanged faithful
      (fun task served => Server.said_of_justified (linked.serving _ served).justified) answered
  obtain ⟨ok, sig, reason, rfl, verified⟩ := warranted
  cases same (faithful.response ok sig reason)
  exact ⟨task, ok, sig, reason, served, approves, replied, verified approves⟩

/-- The client has let somebody in for the peer. -/
def Session.Grants (sess : Session) (peerId : Text) : Prop :=
  match sess.kind with
  | .pam _ => sess.client.result? = some (.authenticated (.success peerId))
  | .cli opts =>
    Client.chosenPeer opts sess.past = some peerId ∧
      ((∃ bin status,
        ⟨.runCommand bin UNLOCK_SESSION_ARG, status⟩ ∈ sess.past) ∨
        sess.client.result? = some (.requested .ok))
  | .other _ => False

def ClientResult.Refused : ClientResult → Prop
  | .authenticated out => out.toPamCode ≠ PAM_SUCCESS
  | .requested exit => exit ≠ .ok

def Session.Replied (codecs : Codecs) (sess : Session) (resp : Response) : Prop :=
  ∃ task, sess.task = some task ∧
    Rpc.encodeFrame codecs.response resp = .ok (task.past.flatMap Server.said)

/-- The responses to a challenge that was not accepted. -/
def Server.Refusal (resp : Response) : Prop :=
  resp = .challenge false none STUB_CHALLENGE_REASON ∨
    ∃ out : ChallengeOutcome, out.isOk = false ∧ resp = challengeResponse out

theorem Server.Refusal.not_approves {resp : Response} (refusal : Server.Refusal resp) :
    (∃ ok sig reason, resp = .challenge ok sig reason) ∧ ¬ Client.Approves resp := by
  rcases refusal with rfl | ⟨out, refused, rfl⟩
  · refine ⟨⟨_, _, _, rfl⟩, ?_⟩
    rintro (ok | reason)
    · cases ok
    · exact absurd reason (by decide)
  · refine ⟨⟨_, _, _, rfl⟩, ?_⟩
    rintro (ok | reason)
    · cases refused.symm.trans ok
    · cases refused.symm.trans ((reasonStr_eq_ok_iff out).mp reason)

theorem Session.known_of_grants (grants : sess.Grants peerId) : sess.kind.Known := by
  unfold Session.Grants at grants
  cases same : sess.kind with
  | other prog =>
    rw [same] at grants
    exact grants.elim
  | _ => exact trivial

/-- A grant rests on an approval. -/
theorem Linked.approved_of_grants (linked : Linked crypto cfg codecs sess)
    (grants : sess.Grants peerId) : Client.Approved codecs peerId sess.past := by
  have justified := linked.justified
  have keeps := linked.keeps
  unfold Session.Grants at grants
  cases same : sess.kind with
  | pam cfg =>
    rw [same] at grants keeps
    rw [eq_done_of_result? grants] at keeps
    exact keeps _ rfl
  | cli opts =>
    rw [same] at grants keeps justified
    obtain ⟨chosen, granted⟩ := grants
    have unlocks : Client.Unlocks codecs opts sess.past := by
      rcases granted with ⟨bin, status, ran⟩ | returned
      · exact Client.unlocks_of_ran justified ran
      · rw [eq_done_of_result? returned] at keeps
        exact keeps rfl
    obtain ⟨other, otherChosen, approved⟩ := unlocks
    cases otherChosen.symm.trans chosen
    exact approved
  | other prog =>
    rw [same] at grants
    exact grants.elim

theorem Linked.refused {res : ClientResult} (linked : Linked crypto cfg codecs sess)
    (known : sess.kind.Known) (denied : ∀ peerId, ¬ sess.Grants peerId)
    (returned : sess.client.result? = some res) : res.Refused := by
  have keeps := linked.keeps
  rw [eq_done_of_result? returned] at keeps
  unfold Session.Grants at denied
  cases same : sess.kind with
  | pam cfg =>
    simp only [same] at denied keeps
    cases res with
    | requested exit => exact keeps.elim
    | authenticated out =>
      cases out with
      | success peerId => exact (denied _ returned).elim
      | authInfoUnavail reason peerId => exact show PAM_AUTHINFO_UNAVAIL ≠ PAM_SUCCESS by decide
      | authErr reason peerId => exact show PAM_AUTH_ERR ≠ PAM_SUCCESS by decide
  | cli opts =>
    simp only [same] at denied keeps
    cases res with
    | authenticated out => exact keeps.elim
    | requested exit =>
      rintro rfl
      obtain ⟨peerId, chosen, -⟩ := keeps rfl
      exact denied _ ⟨chosen, .inr returned⟩
  | other prog =>
    rw [same] at known
    exact known.elim

/--
In every run, a client grants only on a signature that the daemon has verified
for the peer, under the key registered for it, while it served that client's
request; and a client that gets any other response refuses.
-/
theorem granted_only_if_verified (faithful : codecs.Faithful) (orch : Orchestrator)
    (events : List UnlockSystem.Event) {sess : Session}
    (mem : sess ∈ (run (UnlockSystem.step crypto cfg codecs debug) (.start orch) events).sessions) :
    (∀ peerId, sess.Grants peerId →
      ∃ task verification, sess.task = some task ∧
        Server.Verified crypto cfg peerId verification task.past ∧
        (run (UnlockSystem.step crypto cfg codecs debug)
          (.start orch) events).orchestrator.Registered peerId verification.peerState) ∧
      (sess.kind.Known →
        (∀ resp, Server.Refusal resp → sess.Replied codecs resp → ∀ peerId, ¬ sess.Grants peerId) ∧
        ((∀ peerId, ¬ sess.Grants peerId) →
          ∀ res, sess.client.result? = some res → res.Refused)) := by
  have sound := UnlockSystem.run_sound _ _ _ mem
  have granted : ∀ peerId, sess.Grants peerId →
      ∃ task ok sig reason,
        sess.task = some task ∧
          Client.Approves (.challenge ok sig reason) ∧
          Rpc.encodeFrame codecs.response (.challenge ok sig reason) =
            .ok (task.past.flatMap Server.said) ∧
          ∃ verification, Server.Verified crypto cfg peerId verification task.past := by
    intro peerId grants
    have linked := sound.linked (Session.known_of_grants grants)
    exact linked.verified faithful (linked.approved_of_grants grants)
  refine ⟨?_, ?_⟩
  · intro peerId grants
    obtain ⟨task, -, -, -, served, -, -, verification, verified⟩ := granted _ grants
    refine ⟨task, verification, served, verified, ?_⟩
    exact sound.truthful _ served _ _ verified.looked
  · intro known
    refine ⟨?_, ?_⟩
    · rintro resp refusal ⟨task, served, answered⟩ peerId grants
      obtain ⟨⟨ok, sig, reason, rfl⟩, unapproved⟩ := refusal.not_approves
      obtain ⟨other, otherOk, otherSignature, otherReason, otherServed,
        approves, approvedAnswer, -⟩ := granted _ grants
      cases served.symm.trans otherServed
      have same :=
        Rpc.encodeFrame_inj _ (faithful.response _ _ _)
          (faithful.response _ _ _) answered approvedAnswer
      rw [same] at unapproved
      exact unapproved approves
    · intro denied res returned
      exact (sound.linked known).refused known denied returned

end

def samplePeer : Text := "phone".toList

def sampleSignature : Signature := sampleCrypto.sign Phone.sampleKey (1 :: List.replicate 16 3)

def sampleCodecs : Codecs where
  request :=
    .only (Rpc.requestCbor samplePeer (.replicate 16 1)) (.challenge samplePeer (.replicate 16 1))
  response := .only (Rpc.outcomeCbor true (some sampleSignature.toList) OUTCOME_REASON_OK)
    (.challenge true (some sampleSignature.toList) OUTCOME_REASON_OK)

def sampleConfig : ServeConfig where
  testFixedNonce := none
  startedAt := 0

def sampleStore : DeskUnlock.Recovery.BondStore where
  bonds := [{
    peerId := samplePeer, pubkey := Phone.sampleKey, name := samplePeer, createdAt := ⟨0, 0⟩
    status := .bonded }]

def sampleClientChoice : Oracle ClientAnswer
  | .loadBonds _ => .ok sampleStore
  | .random => .ok (.replicate 16 1)
  | .defaultSocketPath => []
  | .connect _ => .ok ()
  | .setReadTimeout _ => .ok ()
  | .setWriteTimeout _ => .ok ()
  | .tryClone => .ok ()
  | .write _ => .ok ()
  | .readExact _ => .ok []
  | .loginctlBin => []
  | .runCommand _ _ => .ok 0
  | .print _ => ()
  | .appendLastLog _ => ()

def sampleTaskChoice : Oracle DaemonAnswer
  | .waitForResponse _ _ => .ok sampleSignature.toList
  | other => silentChoice other

/-- The request is sent, served and answered, and the client returns. -/
def sampleRun : List UnlockSystem.Event :=
  [.peerAdded samplePeer (.replicate 32 5) Phone.sampleKey,
    .clientStarted (.pam ⟨[], [], 20000⟩)] ++
    List.replicate 6 (.clientAnswered 0 sampleClientChoice 0) ++
    List.replicate 17 (.taskAnswered 0 sampleTaskChoice 0) ++
    List.replicate 3 (.clientAnswered 0 sampleClientChoice 0)

theorem sampleCodecs_faithful : sampleCodecs.Faithful where
  request := fun _ _ => Rpc.Cbor.only_roundTrips
  response := fun _ _ _ => Rpc.Cbor.only_roundTrips

def Session.pamResult? (sess : Session) : Option ClientResult :=
  match sess.kind with
  | .pam _ => sess.client.result?
  | _ => none

/-- The PAM module succeeds on a signature of the phone. -/
theorem sample_request_granted :
    ∃ sess ∈
      (run (UnlockSystem.step sampleCrypto sampleConfig sampleCodecs
        fun _ => []) (.start .vacant) sampleRun).sessions,
      sess.Grants samplePeer ∧
        ∃ task verification, sess.task = some task ∧
          Server.Verified sampleCrypto sampleConfig samplePeer verification task.past := by
  have returned :
      ((run (UnlockSystem.step sampleCrypto sampleConfig sampleCodecs
        fun _ => []) (.start .vacant) sampleRun).sessions[0]?.bind Session.pamResult?) =
        some (.authenticated (.success samplePeer)) := by
    decide +kernel
  obtain ⟨sess, found, granted⟩ := Option.bind_eq_some_iff.mp returned
  have mem := mem_of_getElem? found
  have grants : sess.Grants samplePeer := by
    unfold Session.pamResult? at granted
    unfold Session.Grants
    cases same : sess.kind with
    | pam cfg =>
      rw [same] at granted
      exact granted
    | _ =>
      rw [same] at granted
      cases granted
  obtain ⟨task, verification, served, verified, -⟩ :=
    (granted_only_if_verified sampleCodecs_faithful _ sampleRun mem).1 _ grants
  exact ⟨sess, mem, grants, task, verification, served, verified⟩

end DeskUnlock.Unlock
