import DeskUnlock.Foundation.Pipe
import DeskUnlock.Foundation.Runs
import DeskUnlock.Unlock.Clients

/-!
# The unlock system

Any number of clients on one daemon.  Every client that connects is served by
a task of its own; the tasks share the orchestrator.  One step of the system
is one answer to one question of a client or a task, so the runs of the system
are all interleavings of their questions.

An event carries the answers that the environment would give.  What the system
knows better is answered from its state: the bytes on the socket, the peer
map, the permits and the replay caches.  A question that has to wait is not
answered by the event.
-/

namespace DeskUnlock.Unlock

open Texts Dialogues Pipes Function
open Pairing (Pubkey)
open Recovery (BondKey)
open Rpc (SystemTime Response)

structure PeerEntry where
  bondKey : BondKey
  phonePubkey : Option Pubkey
  nonceCache : NonceCache
  /-- The connection that holds the only permit. -/
  holder : Option Nat
  lastChallengeAt : Option SystemTime
  lastConnectAt : Option SystemTime

def PeerEntry.new (bondKey : BondKey) (phonePubkey : Option Pubkey) :
    PeerEntry where
  bondKey := bondKey
  phonePubkey := phonePubkey
  nonceCache := .new
  holder := none
  lastChallengeAt := none
  lastConnectAt := none

/--
The state of `Orchestrator` that challenges use.  An entry that has left the
map is kept: a task may still refer to it.
-/
structure Orchestrator where
  /-- Every entry with the peer id that it was inserted under. -/
  entries : List (Text × PeerEntry)
  /-- The map of the live peers. -/
  peers : Text → Option Nat
  auditLog : List AuditRecord
  listed : ∀ peerId i, peers peerId = some i → ∃ entry, entries[i]? = some (peerId, entry)

namespace Orchestrator

theorem listed_vacant (peerId : Text) (i : Nat) (live : (none : Option Nat) = some i) :
    ∃ entry, ([] : List (Text × PeerEntry))[i]? = some (peerId, entry) := by
  cases live

/-- Without peers. -/
def vacant : Orchestrator where
  entries := []
  peers _ := none
  auditLog := []
  listed := listed_vacant

variable (orch : Orchestrator)

def update (change : Nat → PeerEntry → PeerEntry) : Orchestrator where
  entries := orch.entries.mapIdx fun i named => (named.1, change i named.2)
  peers := orch.peers
  auditLog := orch.auditLog
  listed := by
    intro peerId i live
    obtain ⟨entry, found⟩ := orch.listed peerId i live
    exact ⟨change i entry, by rw [List.getElem?_mapIdx, found]; rfl⟩

def updateAt (pos : Nat) (change : PeerEntry → PeerEntry) :
    Orchestrator :=
  orch.update fun i entry => if i = pos then change entry else entry

def lookupPeer (peerId : Text) : Option PeerState := do
  let i ← orch.peers peerId
  let (_, entry) ← orch.entries[i]?
  let phonePubkey ← entry.phonePubkey
  return { phonePubkey := phonePubkey, bondKey := entry.bondKey, entry := i }

/-- The part of `do_add_peer` after the peripheral has taken the peer. -/
def addPeer (peerId : Text) (key : BondKey) (phonePubkey : Pubkey) :
    Orchestrator where
  entries := orch.entries ++ [(peerId, PeerEntry.new key (some phonePubkey))]
  peers := Function.update orch.peers peerId (some orch.entries.length)
  auditLog := orch.auditLog
  listed := by
    intro other i live
    by_cases same : other = peerId
    · subst same
      rw [update_self] at live
      cases live
      exact ⟨_, List.getElem?_concat_length⟩
    · rw [update_of_ne same] at live
      obtain ⟨entry, found⟩ := orch.listed other i live
      refine ⟨entry, ?_⟩
      rw [List.getElem?_append_left (List.getElem?_eq_some_iff.mp found).1]
      exact found

/-- The part of `do_remove_peer` after the peripheral has let go. -/
def removePeer (peerId : Text) : Orchestrator where
  entries := orch.entries
  peers := Function.update orch.peers peerId none
  auditLog := orch.auditLog
  listed := by
    intro other i live
    by_cases same : other = peerId
    · subst same
      rw [update_self] at live
      cases live
    · rw [update_of_ne same] at live
      exact orch.listed other i live

def hasNonce (pos : Nat) (nonce : Nonce) : Bool :=
  match orch.entries[pos]? with
  | some (_, entry) => entry.nonceCache.contains nonce
  | none => false

def slotFree (pos : Nat) : Bool :=
  match orch.entries[pos]? with
  | some (_, entry) => entry.holder.isNone
  | none => false

/-- What the orchestrator makes of a question of a connection. -/
def answer (conn : Nat) :
    (ask : DaemonQuestion) → DaemonAnswer ask → Option (Orchestrator × DaemonAnswer ask)
  | .lookupPeer peerId, _ => some (orch, orch.lookupPeer peerId)
  | .acquireSlot pos, true =>
    if orch.slotFree pos then
      some (orch.updateAt pos fun entry => { entry with holder := some conn }, true)
    else none
  | .releaseSlot pos, _ => some (orch.updateAt pos fun entry => { entry with holder := none }, ())
  | .stampLiveness pos time, _ =>
    some
      (orch.updateAt pos fun entry =>
        { entry with lastChallengeAt := some time, lastConnectAt := some time }, ())
  | .checkNonce pos nonce, _ =>
    if orch.hasNonce pos nonce then some (orch, true)
    else
      some
        (orch.updateAt pos fun entry =>
          { entry with nonceCache := entry.nonceCache.insert nonce }, false)
  | .audit record, _ => some ({ orch with auditLog := orch.auditLog ++ [record] }, ())
  | _, choice => some (orch, choice)

/-- A permit is released when the task that holds it is dropped. -/
def releaseHeldBy (conn : Nat) : Orchestrator :=
  orch.update fun _ entry =>
    if entry.holder = some conn then { entry with holder := none } else entry

end Orchestrator

/-- What a client has returned. -/
inductive ClientResult where
  | authenticated (out : AuthOutcome)
  | requested (exit : UnlockExit)
deriving DecidableEq

inductive ClientKind where
  | pam (cfg : PamConfig)
  | cli (opts : UnlockRequestOpts)
  /-- Any other program that uses the socket. -/
  | other (prog : ClientM ClientResult)

/-- The task that serves a connection, up to its end or its dropping. -/
structure HandlerTask where
  program : DaemonM (Except HandlerError Unit)
  past : List DaemonTurn
  running : Bool

/-- A client, the task that serves it, and the socket between them. -/
structure Session where
  kind : ClientKind
  client : ClientM ClientResult
  past : List ClientTurn
  task : Option HandlerTask
  toDaemon : Pipe UInt8
  toClient : Pipe UInt8

section

variable {SigningKey : Type} (crypto : Crypto SigningKey)
  (cfg : ServeConfig) (codecs : Codecs) (debug : Response → Text)

def ClientKind.program : ClientKind → ClientM ClientResult
  | .pam cfg => do
      let out ← authenticate codecs cfg
      return .authenticated out
  | .cli opts => do
      let exit ← unlockRequest codecs debug opts
      return .requested exit
  | .other prog => prog

def HandlerTask.start : HandlerTask where
  program := handleConnection crypto cfg codecs
  past := []
  running := true

namespace Session

def start (kind : ClientKind) : Session where
  kind := kind
  client := kind.program codecs debug
  past := []
  task := none
  toDaemon := .empty
  toClient := .empty

variable (sess : Session)

/--
What the system makes of a question of the client.  Of a write that fails,
some bytes may have got through.
-/
def answerClient (through : Nat) :
    (ask : ClientQuestion) → ClientAnswer ask → Option (Session × ClientAnswer ask)
  | .connect _, .ok () =>
    some
      ({ sess with
        task := some (.start crypto cfg codecs), toDaemon := .empty, toClient := .empty }, .ok ())
  | .write bytes, .ok () => some ({ sess with toDaemon := sess.toDaemon.push bytes }, .ok ())
  | .write bytes, .error error =>
    some ({ sess with toDaemon := sess.toDaemon.push (bytes.take through) }, .error error)
  | .readExact count, .ok _ =>
    (sess.toClient.take? count).map fun taken => ({ sess with toClient := taken.2 }, .ok taken.1)
  | _, choice => some (sess, choice)

def clientStep (choice : Oracle ClientAnswer) (through : Nat) : Session :=
  match sess.client with
  | .done _ => sess
  | .ask ask next =>
    match sess.answerClient crypto cfg codecs through ask (choice ask) with
    | none => sess
    | some (sess, answer) =>
      { sess with client := next answer, past := sess.past ++ [⟨ask, answer⟩] }

/-- What the system makes of a question of the task. -/
def answerDaemon (orch : Orchestrator) (conn through : Nat) :
    (ask : DaemonQuestion) → DaemonAnswer ask → Option (Orchestrator × Session × DaemonAnswer ask)
  | .write bytes, .ok () => some (orch, { sess with toClient := sess.toClient.push bytes }, .ok ())
  | .write bytes, .error error =>
    some (orch, { sess with toClient := sess.toClient.push (bytes.take through) }, .error error)
  | .readExact count, .ok _ =>
    (sess.toDaemon.take? count).map fun taken =>
      (orch, { sess with toDaemon := taken.2 }, .ok taken.1)
  | ask, choice =>
    (orch.answer conn ask choice).map fun answered => (answered.1, sess, answered.2)

def daemonStep (orch : Orchestrator) (conn : Nat)
    (choice : Oracle DaemonAnswer) (through : Nat) : Orchestrator × Session :=
  match sess.task with
  | none => (orch, sess)
  | some task =>
    match task.running, task.program with
    | true, .ask ask next =>
      match sess.answerDaemon orch conn through ask (choice ask) with
      | none => (orch, sess)
      | some (orch, sess, answer) =>
        (orch,
          { sess with
            task := some {
              program := next answer, past := task.past ++ [⟨ask, answer⟩]
              running := true } })
    | _, _ => (orch, sess)

/-- The task is dropped: its client hangs up, or the daemon stops. -/
def dropTask : Session :=
  { sess with task := sess.task.map fun task => { task with running := false } }

end Session

/-- The daemon, with all its connections. -/
structure UnlockSystem where
  orchestrator : Orchestrator
  sessions : List Session

namespace UnlockSystem

def start (orch : Orchestrator) : UnlockSystem where
  orchestrator := orch
  sessions := []

/-- One answer, or a change of the peers. -/
inductive Event where
  | clientStarted (kind : ClientKind)
  | clientAnswered (i : Nat) (choice : Oracle ClientAnswer) (through : Nat)
  | taskAnswered (i : Nat) (choice : Oracle DaemonAnswer) (through : Nat)
  | taskDropped (i : Nat)
  | peerAdded (peerId : Text) (key : BondKey) (phonePubkey : Pubkey)
  | peerRemoved (peerId : Text)

/-- One answer to one client or one task. -/
def step (system : UnlockSystem) : Event → UnlockSystem
  | .clientStarted kind => { system with sessions := system.sessions ++ [.start codecs debug kind] }
  | .clientAnswered i choice through =>
    { system with
      sessions :=
        system.sessions.modify i fun sess => sess.clientStep crypto cfg codecs choice through }
  | .taskAnswered i choice through =>
    match system.sessions[i]? with
    | none => system
    | some sess =>
      let (orch, sess) := sess.daemonStep system.orchestrator i choice through
      { orchestrator := orch, sessions := system.sessions.set i sess }
  | .taskDropped i =>
    { orchestrator := system.orchestrator.releaseHeldBy i
      sessions := system.sessions.modify i Session.dropTask }
  | .peerAdded peerId key phonePubkey =>
    { system with orchestrator := system.orchestrator.addPeer peerId key phonePubkey }
  | .peerRemoved peerId => { system with orchestrator := system.orchestrator.removePeer peerId }

end UnlockSystem

end

end DeskUnlock.Unlock
