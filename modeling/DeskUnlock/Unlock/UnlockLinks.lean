import DeskUnlock.Unlock.ClientContract
import DeskUnlock.Unlock.UnlockSystem

/-!
# Links of the unlock system

The clients and the tasks keep their contracts by themselves.  What holds the
system together is that the histories of a client and of its task agree with
the socket between them, and that the lookups of a task were answered from the
registrations of the orchestrator.  Every step of the system keeps both.
-/

namespace DeskUnlock.Unlock

open Texts Dialogues Dialogue Pipes Runs List Option Orchestrator
open Pairing (Pubkey)
open Recovery (BondKey)
open Rpc (Response)

/-! ## Registrations -/

variable {orch : Orchestrator} {conn : Nat} {ask : DaemonQuestion}

namespace Orchestrator

/-- The state was looked up in an entry that was inserted for the peer. -/
def Registered (orch : Orchestrator) (peerId : Text) (peerState : PeerState) : Prop :=
  ∃ entry, orch.entries[peerState.entry]? = some (peerId, entry) ∧
    entry.phonePubkey = some peerState.phonePubkey ∧ entry.bondKey = peerState.bondKey

/-- What was registered stays registered. -/
def Extends (before after : Orchestrator) : Prop :=
  ∀ peerId peerState, before.Registered peerId peerState → after.Registered peerId peerState

theorem Extends.refl (orch : Orchestrator) : Extends orch orch := fun _ _ registered => registered

theorem lookupPeer_registered {peerId : Text} {peerState : PeerState}
    (found : orch.lookupPeer peerId = some peerState) : orch.Registered peerId peerState := by
  unfold lookupPeer at found
  simp only [bind_eq_bind, bind_eq_some_iff] at found
  obtain ⟨i, live, ⟨name, entry⟩, listed, phonePubkey, keyed, same⟩ := found
  cases same
  obtain ⟨other, named⟩ := orch.listed _ i live
  rw [named] at listed
  cases listed
  exact ⟨entry, named, keyed, rfl⟩

theorem update_entry {pos : Nat} {peerId : Text} {entry : PeerEntry}
    (standing : orch.entries[pos]? = some (peerId, entry)) (change : Nat → PeerEntry → PeerEntry) :
    (orch.update change).entries[pos]? = some (peerId, change pos entry) := by
  simp only [update, getElem?_mapIdx, standing]
  rfl

theorem update_extends {change : Nat → PeerEntry → PeerEntry}
    (sameKeys : ∀ i entry,
      (change i entry).phonePubkey = entry.phonePubkey ∧ (change i entry).bondKey = entry.bondKey) :
    Extends orch (orch.update change) := by
  rintro peerId peerState ⟨entry, found, pubkey, bondKey⟩
  obtain ⟨samePubkey, sameBondKey⟩ := sameKeys _ _
  exact ⟨_, update_entry found change, samePubkey.trans pubkey, sameBondKey.trans bondKey⟩

theorem addPeer_extends {orch : Orchestrator} {peerId : Text} {key : BondKey}
    {phonePubkey : Pubkey} : Extends orch (orch.addPeer peerId key phonePubkey) := by
  rintro other peerState ⟨entry, found, keys⟩
  refine ⟨entry, ?_, keys⟩
  simp only [addPeer]
  rw [getElem?_append_left (List.getElem?_eq_some_iff.mp found).1]
  exact found

theorem removePeer_extends {orch : Orchestrator} {peerId : Text} :
    Extends orch (orch.removePeer peerId) :=
  fun _ _ registered => registered

theorem releaseHeldBy_extends (orch : Orchestrator) (conn : Nat) :
    Extends orch (orch.releaseHeldBy conn) := by
  apply update_extends
  intro i entry
  split_ifs <;> exact ⟨rfl, rfl⟩

/-- The nonces that the answer to a question adds to the cache of an entry. -/
def accepts (orch : Orchestrator) (pos : Nat) : DaemonQuestion → List Nonce
  | .checkNonce i nonce => if i = pos ∧ orch.hasNonce i nonce = false then [nonce] else []
  | _ => []

/-- An answer changes what an entry holds, but not its keys. -/
def Changes (orch : Orchestrator) (ask : DaemonQuestion) (i : Nat)
    (entry changed : PeerEntry) : Prop :=
  (changed.phonePubkey = entry.phonePubkey ∧ changed.bondKey = entry.bondKey) ∧
    changed.nonceCache = (orch.accepts i ask).foldl NonceCache.insert entry.nonceCache

theorem answer_entries {before after : Orchestrator} {choice answer : DaemonAnswer ask}
    (answered : before.answer conn ask choice = some (after, answer)) : ∃ change :
    Nat → PeerEntry → PeerEntry, (∀ i entry, before.Changes ask i entry (change i entry)) ∧
    after.entries = (before.update change).entries := by
  have unchanged (nothing : ∀ i, before.accepts i ask = []) : ∃ change :
      Nat → PeerEntry → PeerEntry, (∀ i entry, before.Changes ask i entry (change i entry)) ∧
      before.entries = (before.update change).entries := by
    refine ⟨fun _ entry => entry, fun i _ => ⟨⟨rfl, rfl⟩, by rw [nothing]; rfl⟩, ?_⟩
    apply ext_getElem?
    intro i
    simp [update]
  have changedAt (pos : Nat) (change : PeerEntry → PeerEntry)
      (changes : ∀ i entry, before.Changes ask i entry
        (if i = pos then change entry else entry)) :
      ∃ change' : Nat → PeerEntry → PeerEntry,
        (∀ i entry, before.Changes ask i entry (change' i entry)) ∧
          (before.updateAt pos change).entries = (before.update change').entries :=
    ⟨_, changes, rfl⟩
  cases ask with
  | acquireSlot pos =>
    cases choice with
    | false => cases answered; exact unchanged fun _ => rfl
    | true =>
      simp only [Orchestrator.answer] at answered
      split_ifs at answered
      cases answered
      exact changedAt _ _ fun _ _ => by split_ifs <;> exact ⟨⟨rfl, rfl⟩, rfl⟩
  | releaseSlot pos | stampLiveness pos time =>
    cases answered
    exact changedAt _ _ fun _ _ => by split_ifs <;> exact ⟨⟨rfl, rfl⟩, rfl⟩
  | checkNonce pos nonce =>
    simp only [Orchestrator.answer] at answered
    split_ifs at answered with known
    · cases answered
      exact unchanged fun i => by simp [accepts, known]
    · cases answered
      refine changedAt _ _ fun i entry => ?_
      split_ifs with here
      · exact ⟨⟨rfl, rfl⟩, by simp [accepts, known, here]⟩
      · exact ⟨⟨rfl, rfl⟩, by simp [accepts, Ne.symm here]⟩
  | _ =>
    cases answered
    exact unchanged fun _ => rfl

theorem answer_extends {before after : Orchestrator} {choice answer : DaemonAnswer ask}
    (answered : before.answer conn ask choice = some (after, answer)) :
    Extends before after := by
  obtain ⟨change, changes, entries⟩ := answer_entries answered
  intro peerId peerState registered
  unfold Registered
  rw [entries]
  exact update_extends (fun i entry => (changes i _).1) _ _ registered

end Orchestrator

/-! ## Turns and the socket -/

def Client.Sized (turn : ClientTurn) : Prop :=
  ∀ count bytes, turn = ⟨.readExact count, .ok bytes⟩ → bytes.length = count

def Server.Sized (turn : DaemonTurn) : Prop :=
  ∀ count bytes, turn = ⟨.readExact count, .ok bytes⟩ → bytes.length = count

namespace Session

/-- What a turn of the client, other than a connection, does to a session. -/
structure ClientEffect (before after : Session) (turn : ClientTurn) :
    Prop where
  same : after.kind = before.kind ∧ after.past = before.past ∧ after.task = before.task
  moved :
    Moved (Client.heard turn) (Client.said turn) before.toClient
      after.toClient before.toDaemon after.toDaemon
  sized : Client.Sized turn

/-- What a turn of the task does to a session. -/
structure TaskEffect (before after : Session) (turn : DaemonTurn) :
    Prop where
  same : after.kind = before.kind ∧ after.client = before.client ∧ after.past = before.past
  moved :
    Moved (Server.heard turn) (Server.said turn) before.toDaemon
      after.toDaemon before.toClient after.toClient
  sized : Server.Sized turn

section

variable {SigningKey : Type} {crypto : Crypto SigningKey}
  {cfg : ServeConfig} {codecs : Codecs} {before after : Session}
  {through : Nat}

theorem answerClient_effect {ask : ClientQuestion} {choice answer : ClientAnswer ask}
    (answered :
      before.answerClient crypto cfg codecs through ask choice = some (after, answer))
    (other : ∀ socket, (⟨ask, answer⟩ : ClientTurn) ≠ ⟨.connect socket, .ok ()⟩) :
    ClientEffect before after ⟨ask, answer⟩ := by
  cases ask with
  | connect socket =>
    cases choice with
    | ok _ =>
      cases answered
      exact (other _ rfl).elim
    | error error =>
      cases answered
      exact ⟨⟨rfl, rfl, rfl⟩, .silent _ _ _, nofun⟩
  | write bytes =>
    cases choice with
    | ok _ =>
      cases answered
      exact ⟨⟨rfl, rfl, rfl⟩, .push prefix_rfl _ _, nofun⟩
    | error error =>
      cases answered
      exact ⟨⟨rfl, rfl, rfl⟩, .push (List.take_prefix _ _) _ _, nofun⟩
  | readExact count =>
    cases choice with
    | error error =>
      cases answered
      exact ⟨⟨rfl, rfl, rfl⟩, .silent _ _ _, nofun⟩
    | ok bytes =>
      simp only [answerClient, map_eq_some_iff] at answered
      obtain ⟨⟨items, rest⟩, taken, same⟩ := answered
      cases same
      refine ⟨⟨rfl, rfl, rfl⟩, .take taken _, ?_⟩
      rintro _ _ ⟨⟩
      exact (Pipe.of_take?_eq_some taken).1
  | _ =>
    cases answered
    exact ⟨⟨rfl, rfl, rfl⟩, .silent _ _ _, nofun⟩

theorem answerClient_connected {socket : Text} {choice : ClientAnswer (.connect socket)}
    (answered :
      before.answerClient crypto cfg codecs through (.connect socket)
        choice = some (after, .ok ())) :
    after = { before with
      task := some (.start crypto cfg codecs), toDaemon := .empty, toClient := .empty } := by
  cases choice with
  | error error => cases answered
  | ok _ =>
    cases answered
    rfl

/-- A client stays what it is, and gets a new task or keeps its own. -/
theorem answerClient_task {ask : ClientQuestion} {choice answer : ClientAnswer ask}
    (answered :
      before.answerClient crypto cfg codecs through ask choice = some (after, answer)) :
    after.kind = before.kind ∧
      (after.task = before.task ∨ after.task = some (.start crypto cfg codecs)) := by
  by_cases connecting : ∃ socket, (⟨ask, answer⟩ : ClientTurn) = ⟨.connect socket, .ok ()⟩
  · obtain ⟨socket, same⟩ := connecting
    cases same
    rw [answerClient_connected answered]
    exact ⟨rfl, .inr rfl⟩
  · obtain ⟨sameKind, -, sameTask⟩ := (answerClient_effect answered (not_exists.mp connecting)).same
    exact ⟨sameKind, .inl sameTask⟩

variable {choice answer : DaemonAnswer ask} {orch orchestrator' : Orchestrator}

theorem answerDaemon_effect
    (answered :
      before.answerDaemon orch conn through ask choice = some (orchestrator', after, answer)) :
    TaskEffect before after ⟨ask, answer⟩ := by
  cases ask with
  | write bytes =>
    cases choice with
    | ok _ =>
      cases answered
      exact ⟨⟨rfl, rfl, rfl⟩, .push prefix_rfl _ _, nofun⟩
    | error error =>
      cases answered
      exact ⟨⟨rfl, rfl, rfl⟩, .push (List.take_prefix _ _) _ _, nofun⟩
  | readExact count =>
    cases choice with
    | error error =>
      cases answered
      exact ⟨⟨rfl, rfl, rfl⟩, .silent _ _ _, nofun⟩
    | ok bytes =>
      simp only [answerDaemon, map_eq_some_iff] at answered
      obtain ⟨⟨items, rest⟩, taken, same⟩ := answered
      cases same
      refine ⟨⟨rfl, rfl, rfl⟩, .take taken _, ?_⟩
      rintro _ _ ⟨⟩
      exact (Pipe.of_take?_eq_some taken).1
  | _ =>
    simp only [answerDaemon, map_eq_some_iff] at answered
    obtain ⟨reply, -, same⟩ := answered
    cases same
    exact ⟨⟨rfl, rfl, rfl⟩, .silent _ _ _, nofun⟩

/-- Of the orchestrator a task sees what the orchestrator answers. -/
theorem answerDaemon_orchestrator
    (answered :
      before.answerDaemon orch conn through ask choice = some (orchestrator', after, answer)) :
    ∃ reply, orch.answer conn ask choice = some (orchestrator', reply) := by
  cases ask with
  | write bytes => cases choice <;> cases answered <;> exact ⟨_, rfl⟩
  | readExact count =>
    cases choice with
    | error error =>
      cases answered
      exact ⟨_, rfl⟩
    | ok bytes =>
      simp only [answerDaemon, map_eq_some_iff] at answered
      obtain ⟨taken, -, same⟩ := answered
      cases same
      exact ⟨_, rfl⟩
  | _ =>
    simp only [answerDaemon, map_eq_some_iff] at answered
    obtain ⟨reply, answered, same⟩ := answered
    cases same
    exact ⟨_, answered⟩

/-- Registrations are kept, and lookups are answered from them. -/
theorem answerDaemon_registered
    (answered :
      before.answerDaemon orch conn through ask choice = some (orchestrator', after, answer)) :
    Orchestrator.Extends orch orchestrator' ∧
      ∀ peerId peerState,
        (⟨ask, answer⟩ : DaemonTurn) = ⟨.lookupPeer peerId, some peerState⟩ →
          orchestrator'.Registered peerId peerState := by
  obtain ⟨_, asked⟩ := answerDaemon_orchestrator answered
  refine ⟨answer_extends asked, ?_⟩
  intro peerId peerState same
  obtain ⟨rfl, sameAnswer⟩ := Sigma.mk.inj same
  cases answered
  exact lookupPeer_registered (eq_of_heq sameAnswer)

end

end Session

theorem Client.said_once {codecs : Codecs} {unlocks : List ClientTurn → Prop}
    {past : List ClientTurn} {ask : ClientQuestion}
    (allowed : Client.Guard codecs unlocks past ask) (answer : ClientAnswer ask) :
    past.flatMap Client.said = [] ∨ Client.said ⟨ask, answer⟩ = [] := by
  cases ask with
  | write framed => exact .inl allowed.1.1
  | _ => exact .inr rfl

theorem Server.said_once {SigningKey : Type} {crypto : Crypto SigningKey} {cfg : ServeConfig}
    {codecs : Codecs} {past : List DaemonTurn}
    (allowed : Server.Guard crypto cfg codecs past ask) (answer : DaemonAnswer ask) :
    past.flatMap Server.said = [] ∨ Server.said ⟨ask, answer⟩ = [] := by
  cases ask with
  | write framed => exact .inl allowed.1
  | _ => exact .inr rfl

/-! ## Linked sessions -/

/-- What entitles a client to run its command. -/
def ClientKind.Unlocks (codecs : Codecs) :
    ClientKind → List ClientTurn → Prop
  | .pam _, _ => False
  | .cli opts, past => Client.Unlocks codecs opts past
  | .other _, _ => True

/-- What a client promises of its result. -/
def ClientKind.Promise (codecs : Codecs) :
    ClientKind → List ClientTurn → ClientResult → Prop
  | .pam _, past, .authenticated out =>
    ∀ peerId, out = .success peerId → Client.Approved codecs peerId past
  | .cli opts, past, .requested exit => exit = .ok → Client.Unlocks codecs opts past
  | _, _, _ => False

def ClientKind.Known : ClientKind → Prop
  | .other _ => False
  | _ => True

section

variable {SigningKey : Type} (crypto : Crypto SigningKey)
  (cfg : ServeConfig) (codecs : Codecs) (debug : Response → Text)

/-- The task keeps its contract, and its history agrees with the socket. -/
structure Serving (sess : Session) (task : HandlerTask) : Prop where
  justified : Justified (Server.Guard crypto cfg codecs) task.past
  keeps : Keeps (Server.Guard crypto cfg codecs) (fun _ _ => True) task.past task.program
  attached : Attached Server.heard Server.said task.past sess.toDaemon sess.toClient
  sized : ∀ turn ∈ task.past, Server.Sized turn

/-- So do the client and its task. -/
structure Linked (sess : Session) : Prop where
  justified : Justified (Client.Guard codecs (sess.kind.Unlocks codecs)) sess.past
  keeps :
    Keeps (Client.Guard codecs (sess.kind.Unlocks codecs))
      (sess.kind.Promise codecs) sess.past sess.client
  attached : Attached Client.heard Client.said sess.past sess.toClient sess.toDaemon
  sized : ∀ turn ∈ sess.past, Client.Sized turn
  unserved : sess.task = none → sess.toClient.sent = []
  serving : ∀ task, sess.task = some task → Serving crypto cfg codecs sess task

end

section

variable {SigningKey : Type} {crypto : Crypto SigningKey}
  {cfg : ServeConfig} {codecs : Codecs} {debug : Response → Text}

theorem linked_start {kind : ClientKind} (known : kind.Known) :
    Linked crypto cfg codecs (.start codecs debug kind) where
  justified := .nil
  keeps := by
    cases kind with
    | pam cfg => exact Client.authenticate_keeps.bind fun _ _ approved => approved
    | cli opts => exact Client.unlockRequest_keeps.bind fun _ _ unlocks => unlocks
    | other prog => exact known.elim
  attached := attached_empty
  sized := nofun
  unserved := fun _ => rfl
  serving := nofun

variable {sess : Session}

theorem serving_start (silent : sess.toDaemon = .empty ∧ sess.toClient = .empty) :
    Serving crypto cfg codecs sess (.start crypto cfg codecs) where
  justified := .nil
  keeps := Server.handleConnection_keeps crypto cfg codecs
  attached := by
    rw [silent.1, silent.2]
    exact attached_empty
  sized := nofun

theorem Linked.clientTurn {before after : Session} {ask : ClientQuestion}
    {next : ClientAnswer ask → ClientM ClientResult} {answer : ClientAnswer ask}
    (linked : Linked crypto cfg codecs before) (asking : before.client = .ask ask next)
    (effect : Session.ClientEffect before after ⟨ask, answer⟩) :
    Linked crypto cfg codecs
      { after with client := next answer, past := after.past ++ [⟨ask, answer⟩] } := by
  obtain ⟨sameKind, samePast, sameTask⟩ := effect.same
  have keeps := linked.keeps
  rw [asking] at keeps
  constructor
  · simp only [sameKind, samePast]
    exact linked.justified.snoc keeps.1 _
  · simp only [sameKind, samePast]
    exact keeps.next _
  · simp only [samePast]
    exact linked.attached.snoc effect.moved (Client.said_once keeps.1 _)
  · simp only [samePast]
    exact forall_mem_append.mpr ⟨linked.sized, forall_mem_singleton.mpr effect.sized⟩
  · intro unserved
    exact effect.moved.incoming.trans (linked.unserved (sameTask.symm.trans unserved))
  · intro task served
    have serving := linked.serving _ (sameTask.symm.trans served)
    exact ⟨serving.justified, serving.keeps, serving.attached.other effect.moved, serving.sized⟩

theorem Linked.connected {socket : Text}
    {next : ClientAnswer (.connect socket) → ClientM ClientResult}
    (linked : Linked crypto cfg codecs sess) (asking : sess.client = .ask (.connect socket) next) :
    Linked crypto cfg codecs
      { sess with
        task := some (.start crypto cfg codecs), toDaemon := .empty, toClient := .empty
        client := next (.ok ()), past := sess.past ++ [⟨.connect socket, .ok ()⟩] } := by
  have keeps := linked.keeps
  rw [asking] at keeps
  have fresh : Client.Fresh (sess.past ++ [⟨.connect socket, .ok ()⟩]) :=
    Client.Fresh.snoc keeps.1 ⟨rfl, rfl⟩
  constructor
  · exact linked.justified.snoc keeps.1 _
  · exact keeps.next _
  · exact ⟨fresh.2, nil_prefix⟩
  · exact forall_mem_append.mpr ⟨linked.sized, forall_mem_singleton.mpr nofun⟩
  · exact nofun
  · rintro task ⟨⟩
    exact serving_start ⟨rfl, rfl⟩

theorem Linked.clientStep (linked : Linked crypto cfg codecs sess)
    (choice : Oracle ClientAnswer) (through : Nat) :
    Linked crypto cfg codecs (sess.clientStep crypto cfg codecs choice through) := by
  unfold Session.clientStep
  split
  · exact linked
  · next ask next asking =>
      split
      · exact linked
      · next after answer answered =>
          by_cases connecting :
              ∃ socket, (⟨ask, answer⟩ : ClientTurn) = ⟨.connect socket, .ok ()⟩
          · obtain ⟨socket, same⟩ := connecting
            cases same
            rw [Session.answerClient_connected answered]
            exact linked.connected asking
          · exact linked.clientTurn asking
                (Session.answerClient_effect answered (not_exists.mp connecting))

theorem Linked.taskTurn {before after : Session} {task : HandlerTask}
    {next : DaemonAnswer ask → DaemonM (Except HandlerError Unit)}
    {answer : DaemonAnswer ask} (linked : Linked crypto cfg codecs before)
    (served : before.task = some task) (asking : task.program = .ask ask next)
    (effect : Session.TaskEffect before after ⟨ask, answer⟩) :
    Linked crypto cfg codecs
      { after with
        task := some {
          program := next answer, past := task.past ++ [⟨ask, answer⟩]
          running := true } } := by
  obtain ⟨sameKind, sameClient, samePast⟩ := effect.same
  have serving := linked.serving _ served
  have keeps := serving.keeps
  rw [asking] at keeps
  constructor
  · simp only [sameKind, samePast]
    exact linked.justified
  · simp only [sameKind, samePast, sameClient]
    exact linked.keeps
  · simp only [samePast]
    exact linked.attached.other effect.moved
  · simp only [samePast]
    exact linked.sized
  · exact nofun
  · rintro task ⟨⟩
    exact {
      justified := serving.justified.snoc keeps.1 _, keeps := keeps.next _
      attached := serving.attached.snoc effect.moved (Server.said_once keeps.1 _)
      sized := forall_mem_append.mpr ⟨serving.sized, forall_mem_singleton.mpr effect.sized⟩ }

theorem Linked.dropTask (linked : Linked crypto cfg codecs sess) :
    Linked crypto cfg codecs sess.dropTask where
  justified := linked.justified
  keeps := linked.keeps
  attached := linked.attached
  sized := linked.sized
  unserved := by
    intro unserved
    exact linked.unserved (map_eq_none_iff.mp unserved)
  serving := by
    intro task served
    obtain ⟨running, before, rfl⟩ := map_eq_some_iff.mp served
    have serving := linked.serving _ before
    exact ⟨serving.justified, serving.keeps, serving.attached, serving.sized⟩

/-! ## Steps of a session -/

/-- A step of the client starts a new task or keeps the one there is. -/
theorem Session.clientStep_task {sess : Session} (choice : Oracle ClientAnswer) (through : Nat) :
    (sess.clientStep crypto cfg codecs choice through).kind = sess.kind ∧
      ((sess.clientStep crypto cfg codecs choice through).task = sess.task ∨
        (sess.clientStep crypto cfg codecs choice through).task =
          some (.start crypto cfg codecs)) := by
  unfold Session.clientStep
  split
  · exact ⟨rfl, .inl rfl⟩
  · split
    · exact ⟨rfl, .inl rfl⟩
    · next answered =>
        have kept := answerClient_task answered
        exact kept

theorem Session.daemonStep_cases (sess : Session) {orch : Orchestrator}
    {conn : Nat} {choice : Oracle DaemonAnswer} {through : Nat} :
    sess.daemonStep orch conn choice through = (orch, sess) ∨
      ∃ task ask next orchestrator' after answer,
        sess.task = some task ∧
          task.program = .ask ask next ∧
          sess.answerDaemon orch conn through ask
              (choice ask) = some (orchestrator', after, answer) ∧
          sess.daemonStep orch conn choice through =
            (orchestrator',
              { after with
                task := some {
                  program := next answer, past := task.past ++ [⟨ask, answer⟩]
                  running := true } }) := by
  unfold Session.daemonStep
  split
  · exact .inl rfl
  · next task served =>
      split
      · next ask next running asking =>
          split
          · exact .inl rfl
          · next orchestrator' after answer answered =>
              exact .inr ⟨task, ask, next, orchestrator', after, answer,
                  served, asking, answered, rfl⟩
      · exact .inl rfl

/-! ## Sound systems -/

/-- What a task was told of a peer was registered. -/
def Truthful (orch : Orchestrator) (past : List DaemonTurn) : Prop :=
  ∀ peerId peerState, ⟨.lookupPeer peerId, some peerState⟩ ∈ past → orch.Registered peerId peerState

theorem Truthful.extends {before after : Orchestrator} {past : List DaemonTurn}
    (truthful : Truthful before past) (extended : before.Extends after) : Truthful after past :=
  fun _ _ mem => extended _ _ (truthful _ _ mem)

/-- The clients of the repository are linked; all lookups are truthful. -/
structure SoundSession (crypto : Crypto SigningKey) (cfg : ServeConfig)
    (codecs : Codecs) (orch : Orchestrator) (sess : Session) : Prop where
  linked : sess.kind.Known → Linked crypto cfg codecs sess
  truthful : ∀ task, sess.task = some task → Truthful orch task.past

theorem SoundSession.extends {before after : Orchestrator}
    (sound : SoundSession crypto cfg codecs before sess) (extended : before.Extends after) :
    SoundSession crypto cfg codecs after sess where
  linked := sound.linked
  truthful := fun _ served => (sound.truthful _ served).extends extended

section

variable (sound : SoundSession crypto cfg codecs orch sess)
include sound

theorem SoundSession.clientStep (choice : Oracle ClientAnswer) (through : Nat) :
    SoundSession crypto cfg codecs orch (sess.clientStep crypto cfg codecs choice through) := by
  have same := @Session.clientStep_task _ crypto cfg codecs sess choice through
  constructor
  · intro known
    rw [same.1] at known
    exact (sound.linked known).clientStep _ _
  · intro task served
    rcases same.2 with kept | new
    · exact sound.truthful _ (kept.symm.trans served)
    · cases new.symm.trans served
      exact nofun

theorem SoundSession.daemonStep (conn : Nat) (choice : Oracle DaemonAnswer) (through : Nat) :
    orch.Extends
        (sess.daemonStep orch conn choice through).1 ∧
      SoundSession crypto cfg codecs
        (sess.daemonStep orch conn choice through).1
        (sess.daemonStep orch conn choice through).2 := by
  obtain same | ⟨task, ask, next, orchestrator', after, answer, served, asking, answered, same⟩ :=
    sess.daemonStep_cases
  · rw [same]
    exact ⟨.refl _, sound⟩
  · rw [same]
    have effect := Session.answerDaemon_effect answered
    obtain ⟨extended, looked⟩ := Session.answerDaemon_registered answered
    refine ⟨extended, ?_, ?_⟩
    · intro known
      rw [show _ = sess.kind from effect.same.1] at known
      exact (sound.linked known).taskTurn served asking effect
    · rintro task ⟨⟩ peerId peerState mem
      rcases mem_append.mp mem with old | new
      · exact extended _ _ (sound.truthful _ served _ _ old)
      · exact looked _ _ (mem_singleton.mp new).symm

theorem SoundSession.dropTask :
    SoundSession crypto cfg codecs orch sess.dropTask where
  linked := fun known => (sound.linked known).dropTask
  truthful := by
    intro task served
    obtain ⟨running, before, rfl⟩ := map_eq_some_iff.mp served
    exact sound.truthful running before

end

namespace UnlockSystem

def Sound (crypto : Crypto SigningKey) (cfg : ServeConfig)
    (codecs : Codecs) (system : UnlockSystem) : Prop :=
  ∀ sess ∈ system.sessions, SoundSession crypto cfg codecs system.orchestrator sess

theorem Sound.step {system : UnlockSystem} (sound : system.Sound crypto cfg codecs)
    (ev : Event) : (system.step crypto cfg codecs debug ev).Sound crypto cfg codecs := by
  cases ev with
  | clientStarted kind =>
    refine forall_mem_append.mpr ⟨sound, forall_mem_singleton.mpr ?_⟩
    exact ⟨linked_start, nofun⟩
  | clientAnswered i choice through =>
    intro sess mem
    rcases exists_mem_of_mem_modify mem with same | ⟨old, inside, rfl⟩
    · exact sound _ same
    · exact (sound _ inside).clientStep _ _
  | taskAnswered i choice through =>
    simp only [UnlockSystem.step]
    split
    · exact sound
    · next sess found =>
        obtain ⟨extended, stepped⟩ := (sound _ (mem_of_getElem? found)).daemonStep i _ _
        intro other mem
        rcases mem_or_eq_of_mem_set mem with old | rfl
        · exact (sound _ old).extends extended
        · exact stepped
  | taskDropped i =>
    have extended := releaseHeldBy_extends system.orchestrator i
    intro sess mem
    rcases exists_mem_of_mem_modify mem with same | ⟨old, inside, rfl⟩
    · exact (sound _ same).extends extended
    · exact ((sound _ inside).extends extended).dropTask
  | peerAdded peerId key phonePubkey =>
    intro sess mem
    exact (sound _ mem).extends addPeer_extends
  | peerRemoved peerId =>
    intro sess mem
    exact (sound _ mem).extends removePeer_extends

theorem run_sound (orch : Orchestrator) (events : List Event) :
    (run (step crypto cfg codecs debug) (start orch) events).Sound crypto cfg codecs := by
  have initial : (start orch).Sound crypto cfg codecs := nofun
  exact @run_invariant _ _ _ (Sound _ _ _) (fun _ ev sound => sound.step _) _ initial _

theorem sessions_invariant {property : Session → Prop}
    (started : ∀ kind, property (.start codecs debug kind))
    (clientStepped : ∀ sess choice through, property sess →
      property (sess.clientStep crypto cfg codecs choice through))
    (daemonStepped : ∀ sess orch conn choice through,
      property sess → property (sess.daemonStep orch conn choice through).2)
    (dropped : ∀ sess, property sess → property sess.dropTask)
    (orch : Orchestrator) (events : List Event) :
    ∀ sess ∈ (run (step crypto cfg codecs debug) (start orch) events).sessions, property sess := by
  have initial : ∀ sess ∈ (start orch).sessions, property sess := nofun
  refine @run_invariant _ _ _
    (fun system : UnlockSystem => ∀ sess ∈ system.sessions, property sess) ?_ _ initial events
  intro system ev holds
  cases ev with
  | clientStarted kind => exact forall_mem_append.mpr ⟨holds, forall_mem_singleton.mpr (started _)⟩
  | clientAnswered i choice through =>
    intro sess mem
    rcases exists_mem_of_mem_modify mem with same | ⟨old, inside, rfl⟩
    · exact holds _ same
    · exact clientStepped _ _ _ (holds _ inside)
  | taskAnswered i choice through =>
    simp only [step]
    split
    · exact holds
    · next sess found =>
        intro other mem
        rcases mem_or_eq_of_mem_set mem with old | rfl
        · exact holds _ old
        · exact daemonStepped _ _ i _ _ (holds _ (mem_of_getElem? found))
  | taskDropped i =>
    intro sess mem
    rcases exists_mem_of_mem_modify mem with same | ⟨old, inside, rfl⟩
    · exact holds _ same
    · exact dropped _ (holds _ inside)
  | peerAdded peerId key phonePubkey | peerRemoved peerId => exact holds

end UnlockSystem

/-! ## Programs under way -/

/-- The client and its task have come where they are by their own turns. -/
structure Session.Underway (crypto : Crypto SigningKey) (cfg : ServeConfig) (codecs : Codecs)
    (debug : Response → Text) (sess : Session) : Prop where
  client : Reached (sess.kind.program codecs debug) sess.past sess.client
  task :
    ∀ task, sess.task = some task →
      Reached (handleConnection crypto cfg codecs) task.past task.program

section

variable (underway : sess.Underway crypto cfg codecs debug)
include underway

theorem Session.Underway.clientStep (choice : Oracle ClientAnswer) (through : Nat) :
    (sess.clientStep crypto cfg codecs choice through).Underway crypto cfg codecs debug := by
  unfold Session.clientStep
  split
  · exact underway
  · next ask next asking =>
      have client := underway.client
      rw [asking] at client
      split
      · exact underway
      · next after answer answered =>
          by_cases connecting :
              ∃ socket, (⟨ask, answer⟩ : ClientTurn) = ⟨.connect socket, .ok ()⟩
          · obtain ⟨socket, same⟩ := connecting
            cases same
            rw [answerClient_connected answered]
            refine ⟨client.turn _, ?_⟩
            rintro task ⟨⟩
            exact .start
          · obtain ⟨sameKind, samePast, sameTask⟩ :=
              (answerClient_effect answered (not_exists.mp connecting)).same
            constructor
            · simp only [sameKind, samePast]
              exact client.turn _
            · intro task served
              exact underway.task _ (sameTask.symm.trans served)

theorem Session.Underway.daemonStep (orch : Orchestrator) (conn : Nat)
    (choice : Oracle DaemonAnswer) (through : Nat) :
    (sess.daemonStep orch conn choice through).2.Underway crypto cfg codecs debug := by
  obtain same | ⟨task, ask, next, orchestrator', after, answer, served, asking, answered, same⟩ :=
    sess.daemonStep_cases
  · rw [same]
    exact underway
  · rw [same]
    have reached := underway.task _ served
    rw [asking] at reached
    obtain ⟨sameKind, sameClient, samePast⟩ := (answerDaemon_effect answered).same
    constructor
    · simp only [sameKind, sameClient, samePast]
      exact underway.client
    · rintro _ ⟨⟩
      exact reached.turn _

theorem Session.Underway.dropTask :
    sess.dropTask.Underway crypto cfg codecs debug where
  client := underway.client
  task := by
    intro task served
    obtain ⟨running, before, rfl⟩ := map_eq_some_iff.mp served
    exact underway.task running before

end

theorem UnlockSystem.run_underway {orch : Orchestrator} {events : List Event} :
    ∀ sess ∈ (run (step crypto cfg codecs debug) (start orch)
      events).sessions, sess.Underway crypto cfg codecs debug :=
  sessions_invariant (fun _ => ⟨.start, nofun⟩)
    (fun _ _ _ underway => underway.clientStep _ _)
    (fun _ _ _ _ _ underway => underway.daemonStep _ _ _ _)
    (fun _ underway => underway.dropTask) _ _

end

end DeskUnlock.Unlock
