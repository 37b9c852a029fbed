import DeskUnlock.Foundation.Runs
import DeskUnlock.Foundation.Text
import DeskUnlock.Pairing.PairService

/-!
# The daemon-owned pair engine

`syauth-transport/src/pair_engine.rs`: `run_pair_session`,
`run_pair_attempt`, `drive_pair_transaction` and their helpers.

The driver is an asynchronous function.  It runs without interruption from
one suspension to the next, so an attempt is the `Point` at which it is
suspended together with its local variables, and `Drive.advance` is what one
resumption does.  The reader task of `v2-control`, the peer's reads of the
status register and the consumer of the commit channel run between two
resumptions.

Every attempt keeps the history of what it did: this is not data of the
program, only the record that the theorems speak about.
-/

namespace DeskUnlock.Pairing

open Texts

/-- Durable action the pair engine asks the daemon to perform. -/
inductive PairCommitPhase where
  | stage
  | markCommit
  | promote
  | discard
  | revoke
deriving DecidableEq

/-- Daemon-side request for one commit-boundary action. -/
structure PairCommitRequest where
  phase : PairCommitPhase
  transaction : TransactionId
  phonePubkey : Pubkey
  hostPubkey : Pubkey
  peer : Text

/-- Failure surface of the daemon-owned pair engine. -/
inductive PairEngineError where
  | rejected
  | aborted
  | uncertain
  | persistence
deriving DecidableEq

/-- Per-attempt context shared by the commit-boundary helpers. -/
structure PairCommitContext where
  transactionId : TransactionId
  hostPubkey : Pubkey
  phonePubkey : Pubkey
  peer : Text

def PairCommitContext.requestOf (ctx : PairCommitContext)
    (phase : PairCommitPhase) : PairCommitRequest where
  phase := phase
  transaction := ctx.transactionId
  phonePubkey := ctx.phonePubkey
  hostPubkey := ctx.hostPubkey
  peer := ctx.peer

def revokeRequest (msg : Message) : PairCommitRequest where
  phase := .revoke
  transaction := msg.transaction
  phonePubkey := List.Vector.replicate 32 0
  hostPubkey := List.Vector.replicate 32 0
  peer := []

def COMMIT_CHANNEL_CAPACITY : Nat := 4

abbrev Address := List.Vector UInt8 6

/-- The address as the transport displays it, `XX:XX:XX:XX:XX:XX`. -/
def Address.display (addr : Address) : Text :=
  List.intercalate [':'] (addr.toList.map (hexByte 'A'))

def peerLabel (addr : Text) : Text := addr.map Char.toUpper

/-- What an attempt did, oldest first. -/
inductive Entry where
  | published (op : Operation)
  /-- `take_message` returned this operation. -/
  | took (op : Operation)
  | timedOut
  /-- A local event that the transaction accepted. -/
  | localFact (ev : LocalEvent)
  | askedOob
  | answeredOob (accepted : Bool)
  | requested (phase : PairCommitPhase)
  | answered (phase : PairCommitPhase) (durable : Bool)
deriving DecidableEq

/-- Where `drive_pair_transaction` is suspended, or how it returned. -/
inductive Point where
  | publishCapability
  | waitCapability
  | requestOob
  | publishConfirm
  | waitConfirm
  | requestStage
  | waitPrepared
  | publishPrepared
  | requestMarkCommit
  | publishCommit
  | waitCommitAck
  | publishCommitted
  | waitCommitted
  | requestPromote
  | notifyBonded
  | requestDiscard (error : PairEngineError)
  | succeeded
  | failed (error : PairEngineError)
deriving DecidableEq

/-- One call of `drive_pair_transaction`. -/
structure Attempt where
  context : PairCommitContext
  transaction : Transaction
  point : Point
  history : List Entry

/-- What a running attempt reads and writes. -/
structure Drive where
  service : PairServiceState
  commits : List PairCommitRequest
  attempt : Attempt

namespace Drive

variable (drive : Drive)

def note (entry : Entry) : Drive :=
  { drive with attempt := { drive.attempt with history := drive.attempt.history ++ [entry] } }

def suspend (point : Point) : Drive := { drive with attempt := { drive.attempt with point } }

def publish (drive : Drive) (op : Operation) : Drive :=
  { drive with
    service := drive.service.publish ⟨drive.attempt.context.transactionId, op⟩ }.note
    (.published op)

def rememberSession (drive : Drive) : Drive :=
  { drive with
    service :=
      drive.service.rememberSession
        drive.attempt.context.transactionId drive.attempt.transaction.status }

/--
`PairCommitContext::request`.  Waiting for a free place of the bounded
channel and queueing behind it are the same: `try_send` finds no place while
a sender waits.
-/
def request (phase : PairCommitPhase) : Drive :=
  { drive with
    commits := drive.commits ++ [drive.attempt.context.requestOf phase] }.note (.requested phase)

/-- `transaction.local(event).map_err(|_| error)?`. -/
def applyLocal (ev : LocalEvent) (error : PairEngineError) : Except PairEngineError Drive :=
  match drive.attempt.transaction.local ev with
  | (tx, .ok _) =>
    .ok ({ drive with attempt := { drive.attempt with transaction := tx } }.note (.localFact ev))
  | (_, .error _) => .error error

/-- `let _ = transaction.local(event)`. -/
def tryLocal (ev : LocalEvent) : Drive :=
  match drive.attempt.transaction.local ev with
  | (tx, .ok _) =>
    { drive with attempt := { drive.attempt with transaction := tx } }.note (.localFact ev)
  | (tx, .error _) => { drive with attempt := { drive.attempt with transaction := tx } }

def applyRemote (op : Operation) : Except PairEngineError Drive :=
  match drive.attempt.transaction.remote ⟨drive.attempt.context.transactionId, op⟩ with
  | (tx, .ok _) => .ok { drive with attempt := { drive.attempt with transaction := tx } }
  | (_, .error _) => .error .aborted

def orFail : Except PairEngineError Drive → Drive
  | .ok next => next
  | .error error => drive.suspend (.failed error)

/--
One iteration of `publish_paced`: publish once the register was read, or
when `late` says that the read timeout has passed.
-/
def publishPaced (late : Bool) (op : Operation) (resume : Drive → Drive) : Drive :=
  if drive.service.unread && !late then drive else resume (drive.publish op)

/--
One iteration of `wait_for_operation_within`, where `late` says that the
deadline has passed.
-/
def waitForOperation (late : Bool)
    (resume : Drive → Except PairEngineError Operation → Drive) : Drive :=
  match drive.service.takeMessage drive.attempt.context.transactionId with
  | (some op, svc) =>
    let taken := { drive with service := svc }.note (.took op)
    if op.isAbort then resume taken (.error .aborted) else resume taken (.ok op)
  | (none, _) => if late then resume (drive.note .timedOut) (.error .aborted) else drive

/-- Publish a terminal refusal and remember the aborted transaction. -/
def refuse (op : Operation) : Drive := ((drive.publish op).tryLocal (.abort op)).rememberSession

/-- Definite pre-commit abort: record it and drop the staging. -/
def abortWithDiscard (error : PairEngineError) : Drive :=
  ((drive.refuse .error).request .discard).suspend (.requestDiscard error)

def takeCapability :
    Except PairEngineError Operation → Drive
  | .error error => drive.suspend (.failed error)
  | .ok op => drive.orFail do
      if op ≠ .capability then throw .aborted
      let drive ← drive.applyRemote op
      let drive ← drive.applyLocal .capability .aborted
      let drive ← drive.applyLocal .verifiedExchange .aborted
      return (drive.rememberSession.note .askedOob).suspend .requestOob

def takeOobAnswer (accepted : Bool) : Drive :=
  let drive := drive.note (.answeredOob accepted)
  if accepted then
    drive.orFail do
      let drive ← drive.applyLocal .confirm .aborted
      return drive.suspend .publishConfirm
  else (drive.refuse .reject).suspend (.failed .rejected)

def takeConfirm :
    Except PairEngineError Operation → Drive
  | .error error => drive.suspend (.failed error)
  | .ok op => drive.orFail do
      if op ≠ .confirm then throw .aborted
      let drive ← drive.applyRemote op
      return (drive.request .stage).suspend .requestStage

def takeStaged (durable : Bool) : Drive :=
  let drive := drive.note (.answered .stage durable)
  if durable then
    drive.orFail do
      let drive ← drive.applyLocal .prepared .aborted
      return drive.suspend .waitPrepared
  else (drive.refuse .error).suspend (.failed .persistence)

def takePrepared :
    Except PairEngineError Operation → Drive
  | .error error => drive.abortWithDiscard error
  | .ok op =>
    if op ≠ .prepared then drive.abortWithDiscard .aborted
    else
      drive.orFail do
        let drive ← drive.applyRemote op
        return drive.suspend .publishPrepared

def takeMarked (durable : Bool) : Drive :=
  let drive := drive.note (.answered .markCommit durable)
  if durable then
    drive.orFail do
      let drive ← drive.applyLocal .commit .aborted
      return drive.suspend .publishCommit
  else (drive.refuse .error).suspend (.failed .persistence)

def takeCommitAck :
    Except PairEngineError Operation → Drive
  | .error error => drive.abortWithDiscard error
  | .ok op =>
    if op ≠ .commitAck then drive.abortWithDiscard .aborted
    else
      drive.orFail do
        let drive ← drive.applyRemote op
        return drive.rememberSession.suspend .publishCommitted

def leaveUncertain (error : PairEngineError) : Drive :=
  ((drive.tryLocal .disconnected).rememberSession).suspend (.failed error)

def takeCommitted :
    Except PairEngineError Operation → Drive
  | .ok .committed => drive.orFail do
      let drive ← drive.applyRemote .committed
      return (drive.request .promote).suspend .requestPromote
  | _ => drive.leaveUncertain .uncertain

def takePromoted (durable : Bool) : Drive :=
  let drive := drive.note (.answered .promote durable)
  if durable then
    drive.orFail do
      let drive ← drive.applyLocal .committed .uncertain
      return drive.rememberSession.suspend .notifyBonded
  else drive.leaveUncertain .persistence

def takeDiscarded (durable : Bool) (error : PairEngineError) : Drive :=
  (drive.note (.answered .discard durable)).suspend (.failed error)

end Drive

/-- What resumes a suspended attempt. -/
inductive Resumption where
  /-- The polling loop runs once; `late` says its deadline has passed. -/
  | poll (late : Bool)
  | oob (accepted : Bool)
  | reply (durable : Bool)
  | notified

/-- One resumption; one that does not fit the point changes nothing. -/
def Drive.advance (drive : Drive) (resum : Resumption) : Drive :=
  match drive.attempt.point, resum with
  | .publishCapability, .poll late =>
    drive.publishPaced late .capability (·.suspend .waitCapability)
  | .waitCapability, .poll late => drive.waitForOperation late takeCapability
  | .requestOob, .oob accepted => drive.takeOobAnswer accepted
  | .publishConfirm, .poll late => drive.publishPaced late .confirm (·.suspend .waitConfirm)
  | .waitConfirm, .poll late => drive.waitForOperation late takeConfirm
  | .requestStage, .reply durable => drive.takeStaged durable
  | .waitPrepared, .poll late => drive.waitForOperation late takePrepared
  | .publishPrepared, .poll late =>
    drive.publishPaced late .prepared fun drive =>
      (drive.request .markCommit).suspend .requestMarkCommit
  | .requestMarkCommit, .reply durable => drive.takeMarked durable
  | .publishCommit, .poll late => drive.publishPaced late .commit (·.suspend .waitCommitAck)
  | .waitCommitAck, .poll late => drive.waitForOperation late takeCommitAck
  | .publishCommitted, .poll late => drive.publishPaced late .committed (·.suspend .waitCommitted)
  | .waitCommitted, .poll late => drive.waitForOperation late takeCommitted
  | .requestPromote, .reply durable => drive.takePromoted durable
  | .notifyBonded, .notified => drive.suspend .succeeded
  | .requestDiscard error, .reply durable => drive.takeDiscarded durable error
  | _, _ => drive

/-- The pair service, the commit channel and the latest attempt. -/
structure PairSession where
  service : PairServiceState
  commits : List PairCommitRequest
  attempt : Option Attempt

/-- What the daemon's pair session meets. -/
inductive SessionEvent where
  /-- The reader collected one payload from `v2-control`. -/
  | control (payload : Bytes)
  /-- The peer read the status register. -/
  | read (offset : Nat)
  /-- A `phone-pubkey` write; `id` is what `getrandom` filled, if it did. -/
  | opened (phonePubkey : Pubkey) (addr : Address) (id : Option TransactionId)
  | resumed (resum : Resumption)
  /-- The consumer of the commit channel received the oldest request. -/
  | received

def Point.ended : Point → Bool
  | .succeeded | .failed _ => true
  | _ => false

namespace PairSession

variable (sess : PairSession)

def acceptFrame (frame : Bytes) : PairSession :=
  match Message.decode frame with
  | .ok msg =>
    if msg.operation = .revoke then
      if sess.commits.length < COMMIT_CHANNEL_CAPACITY then
        { sess with commits := sess.commits ++ [revokeRequest msg] }
      else sess
    else { sess with service := sess.service.acceptControl frame }
  | .error _ => { sess with service := sess.service.acceptControl frame }

def idle : Bool :=
  match sess.attempt with
  | none => true
  | some att => att.point.ended

/-- `run_pair_attempt` up to the first suspension of the driver. -/
def openAttempt (phonePubkey : Pubkey) (addr : Address)
    (id : Option TransactionId) : PairSession :=
  { sess with
    service := sess.service.beginSession
    attempt := id.map fun id =>
      { context :=
          { transactionId := id
            hostPubkey := sess.service.hostPubkey, phonePubkey := phonePubkey
            peer := peerLabel addr.display }
        transaction := .new id .coordinator, point := .publishCapability, history := [] } }

def resume (resum : Resumption) : PairSession :=
  match sess.attempt with
  | none => sess
  | some att =>
    let drive :=
      Drive.advance
        { service := sess.service, commits := sess.commits, attempt := att } resum
    { service := drive.service, commits := drive.commits, attempt := some drive.attempt }

/-- A new attempt is opened only while none is running. -/
def step (sess : PairSession) : SessionEvent → PairSession
  | .control payload => (frameControlPayload payload).foldl acceptFrame sess
  | .read offset => { sess with service := (sess.service.statusSnapshot offset).2 }
  | .opened phonePubkey addr id => if sess.idle then sess.openAttempt phonePubkey addr id else sess
  | .resumed resum => sess.resume resum
  | .received => { sess with commits := sess.commits.tail }

def start (hostPubkey : Pubkey) (hostName : Bytes) : PairSession where
  service := .new hostPubkey hostName
  commits := []
  attempt := none

end PairSession

end DeskUnlock.Pairing
