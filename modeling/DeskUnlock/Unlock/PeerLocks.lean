import DeskUnlock.Foundation.LockedTasks
import DeskUnlock.Unlock.Reload

/-!
# The locks of the daemon and of the peripheral

The tasks of the daemon at the level of their locks: challenges, reloads,
rotations, status reports and the tasks that serve the characteristics of a
peer.  Each question of a challenge is expanded into what `Orchestrator` and
`PersistentPeripheral` do with their locks to answer it.  A guard is released
where it is dropped, which is also where an error leaves its scope.

What the maps hold and what BlueZ says is answered by the environment.

`wait_for_response` keeps the guard of the peer map of the peripheral while it
waits for the phone.  So a wait for one peer stops every other task that comes
to that map, and no other task.
-/

namespace DeskUnlock.Unlock

open Texts Dialogues Dialogue LockedTasks Runs List Option
open Pairing (Bytes)
open Recovery (BondKey)

/-! ## Locks -/

/-- An entry that has left the map keeps its locks; `entry` numbers them. -/
inductive DaemonLock where
  | orchestratorPeers
  | challengeSlot (peerId : Text) (entry : Nat)
  | liveness (peerId : Text) (entry : Nat)
  | nonceCache (peerId : Text) (entry : Nat)
  | auditLog
  /-- `PersistentPeripheral::peers`. -/
  | peripheralPeers
  | responseRx (peerId : Text)
  /-- The slot of one registration of the peer. -/
  | notifierSlot (peerId : Text) (registration : Nat)
  | taskHandle (peerId : Text)
  | appHandle
  | advSlot
deriving DecidableEq

/-- What `notify_challenge` finds of a peer in the map. -/
structure PeerHandle where
  registration : Nat
  bondKey : BondKey

/-- How a write to the notifier of a peer ends. -/
inductive WriteReply where
  | written
  | failed (error : Text)
  | missing

/-- The new peers with their keys, and whether the store names them. -/
abbrev NewSet := List (Text × BondKey × Bool)

inductive LockQuery where
  /-- What the orchestrator answers under its locks, or without one. -/
  | daemon (question : DaemonQuestion)
  /-- The owner of the call has cancelled it. -/
  | cancelled
  | findPeer (peerId : Text)
  | drain (peerId : Text)
  | writeAll (peerId : Text) (registration : Nat) (frame : Bytes)
  | abortTask (peerId : Text)
  | clearApplication
  | kickConnectedPeers
  | serveApplication (bondKey : BondKey)
  | storeApplication
  | installRegistration (peerId : Text)
  | storeTask (peerId : Text)
  | clearNotifier (peerId : Text) (registration : Nat)
  | setNotifier (peerId : Text) (registration : Nat)
  | subscribed (peerId : Text)
  | deadlinePassed
  | sleep
  /-- `rx.recv()` within the deadline. -/
  | receive (peerId : Text) (deadlineMs : Nat)
  | takePeer (peerId : Text)
  | containsPeer (peerId : Text)
  | insertPeer (peerId : Text) (bondKey : BondKey)
  /-- The live entries, with the numbers of their locks. -/
  | liveEntries
  /-- `BondStore::load` and `compute_new_set`. -/
  | loadNewSet
  | diff (newSet : NewSet)
  | countPeers
  | removeEntry (peerId : Text)
  | addEntry (peerId : Text) (bondKey : BondKey)
  | terminate
  | snapshotPeers
  /-- `Adapter::advertise`, after the last advertisement was dropped. -/
  | advertise

abbrev LockAnswer : LockQuery → Type
  | .daemon question => DaemonAnswer question
  | .cancelled => Bool
  | .findPeer _ => Option PeerHandle
  | .writeAll _ _ _ => WriteReply
  | .serveApplication _ => Except Text Unit
  | .subscribed _ => Bool
  | .deadlinePassed => Bool
  | .receive _ _ => Except PeripheralError Bytes
  | .takePeer _ => Bool
  | .containsPeer _ => Bool
  | .liveEntries => List (Text × Nat)
  | .loadNewSet => Option NewSet
  | .diff _ => List (Text × BondKey × Bool) × List Text
  | .countPeers => Nat
  | .drain _ | .abortTask _ | .clearApplication | .kickConnectedPeers
  | .storeApplication | .installRegistration _ | .storeTask _
  | .clearNotifier _ _ | .setNotifier _ _ | .sleep | .insertPeer _ _
  | .removeEntry _ | .addEntry _ _ | .terminate | .snapshotPeers
  | .advertise => Unit

abbrev LockM := LockProgram DaemonLock LockAnswer

abbrev DaemonAction := Action DaemonLock LockQuery

def request (query : LockQuery) : LockM (LockAnswer query) := effect query

def andThen {Value Result : Type} (first : LockM (Except PeripheralError Value))
    (rest : Value → LockM (Except PeripheralError Result)) :
    LockM (Except PeripheralError Result) := do
  match ← first with
  | .error error => return .error error
  | .ok value => rest value

/-! ## The peripheral -/

namespace PeerLocks

section

variable {Value : Type}
  /- A caller that can be cancelled fails with this, and drops its guards. -/
  (givenUp : Option PeripheralError)

/-- An await at which the caller may be cancelled. -/
def awaiting (query : LockQuery) : LockM (Except PeripheralError (LockAnswer query)) :=
  match givenUp with
  | none => do return .ok (← request query)
  | some failure => do
      if ← request .cancelled then
        return .error failure
      else
        return .ok (← request query)

variable (peerId : Text)

/-- Lock the peer map, find the peer and go on under the lock. -/
def withPeer (body : PeerHandle → LockM (Except PeripheralError Value)) :
    LockM (Except PeripheralError Value) :=
  guarded givenUp .peripheralPeers do
    match ← request (.findPeer peerId) with
    | none => return .error (.unknownPeer peerId)
    | some peer => body peer

/-- Drain the responses that an earlier challenge has left. -/
def drainResponses : LockM (Except PeripheralError Unit) :=
  withPeer givenUp peerId fun _ =>
    guarded givenUp (.responseRx peerId) do
      request (.drain peerId)
      return .ok ()

/-- Clone the notifier slot of the peer, and try to write the frame. -/
def writeFrame (frame : Bytes) : LockM (Except PeripheralError WriteReply) :=
  andThen
    (withPeer givenUp peerId fun peer => return .ok peer.registration)
    fun registration =>
      guarded givenUp (.notifierSlot peerId registration)
        (awaiting givenUp (.writeAll peerId registration frame))

def setApplication (change : LockQuery) : LockM (Except PeripheralError Unit) :=
  guarded givenUp .appHandle do
    let _ ← request change
    return .ok ()

def buildAndRegisterPeer (bondKey : BondKey) : LockM (Except PeripheralError Unit) :=
  andThen (awaiting givenUp (.serveApplication bondKey)) fun
    | .error error =>
      return .error (.backend ("serve_gatt_application: ".toList ++ error))
    | .ok () => setApplication givenUp .storeApplication

def abortOldTask : LockM (Except PeripheralError Unit) :=
  guarded givenUp .peripheralPeers do
    match ← request (.findPeer peerId) with
    | none => return .ok ()
    | some _ =>
      guarded givenUp (.taskHandle peerId) do
        request (.abortTask peerId)
        return .ok ()

def swapRegistration : LockM (Except PeripheralError Unit) :=
  guarded givenUp .peripheralPeers do
    match ← request (.findPeer peerId) with
    | none => return .ok ()
    | some peer =>
      andThen
        (guarded givenUp (.notifierSlot peerId peer.registration) do
          request (.clearNotifier peerId peer.registration)
          return .ok ())
        fun () => do
          request (.installRegistration peerId)
          guarded givenUp (.taskHandle peerId) do
            request (.storeTask peerId)
            return .ok ()

def rebuildPeerRegistration : LockM (Except PeripheralError Unit) :=
  andThen (withPeer givenUp peerId fun peer => return .ok peer.bondKey) fun bondKey =>
  andThen (abortOldTask givenUp peerId) fun () =>
  andThen (setApplication givenUp .clearApplication) fun () =>
  andThen (awaiting givenUp .kickConnectedPeers) fun () =>
  andThen (buildAndRegisterPeer givenUp bondKey) fun () => swapRegistration givenUp peerId

def subscriptionTimeout : PeripheralError :=
  .backend ("fresh GATT subscription timeout for peer_id=".toList ++ peerId)

/-- Poll for a new subscription, at most as often as the deadline allows. -/
def awaitSubscription (peerId : Text) :
    Nat → LockM (Except PeripheralError Unit)
  | 0 => return .error (subscriptionTimeout peerId)
  | polls + 1 =>
    andThen
      (withPeer givenUp peerId fun peer =>
        guarded givenUp (.notifierSlot peerId peer.registration) do
          return .ok (← request (.subscribed peerId)))
      fun ready => do
        if ready then
          return .ok ()
        else if ← request .deadlinePassed then
          return .error (subscriptionTimeout peerId)
        else andThen (awaiting givenUp .sleep) fun () => awaitSubscription peerId polls

/-- The second attempt of `notify_challenge`, which is the last. -/
def retryFrame (frame : Bytes) : LockM (Except PeripheralError Unit) :=
  andThen (writeFrame givenUp peerId frame) fun
    | .written => return .ok ()
    | .failed error =>
      return .error (.backend ("notify_challenge retry write: ".toList ++ error))
    | .missing =>
      return .error
        (.backend ("no active GATT subscription after rebuild for peer_id=".toList ++ peerId))

/-- `notify_challenge`; `polls` bounds the wait for a new subscription. -/
def notifyChallenge (polls : Nat) (peerId : Text) (frame : Bytes) :
    LockM (Except PeripheralError Unit) :=
  andThen (drainResponses givenUp peerId) fun () =>
  andThen (writeFrame givenUp peerId frame) fun
    | .written => return .ok ()
    | .failed _ | .missing =>
      andThen (rebuildPeerRegistration givenUp peerId) fun () =>
      andThen (awaitSubscription givenUp peerId polls) fun () => retryFrame givenUp peerId frame

/-- The guards of the map and of the channel outlive the wait. -/
def waitForResponse (deadlineMs : Nat) : LockM (Except PeripheralError Bytes) :=
  withPeer givenUp peerId fun _ =>
    guarded givenUp (.responseRx peerId) (request (.receive peerId deadlineMs))

end

def removePeer (peerId : Text) : LockM (Except PeripheralError Unit) :=
  holding .peripheralPeers do
    if ← request (.takePeer peerId) then
      holding (.taskHandle peerId) (request (.abortTask peerId))
      setApplication none .clearApplication
    else
      return .error (.unknownPeer peerId)

def addPeer (peerId : Text) (bondKey : BondKey) :
    LockM (Except PeripheralError Unit) := do
  if ← holding .peripheralPeers (request (.containsPeer peerId)) then
    return .error (.peerAlreadyAdded peerId)
  else
    andThen (setApplication none .clearApplication) fun () =>
    andThen (buildAndRegisterPeer none bondKey) fun () => do
      holding .peripheralPeers (request (.insertPeer peerId bondKey))
      return .ok ()

/-! ## The orchestrator -/

/-- `peers_snapshot`: the liveness of each peer under the lock of the map. -/
def peersSnapshot : LockM (List Rpc.PeerStatus) :=
  holding .orchestratorPeers do
    let entries ← request .liveEntries
    entries.foldlM (fun () entry => holding (.liveness entry.1 entry.2) (return ())) ()
    request (.daemon .peersSnapshot)

/-- What a challenge to `own` does with locks to get its answers. -/
def implement (polls : Nat) (own : Text) :
    (question : DaemonQuestion) → LockM (DaemonAnswer question)
  | .lookupPeer peerId => holding .orchestratorPeers (request (.daemon (.lookupPeer peerId)))
  | .acquireSlot entry => tryAcquire (.challengeSlot own entry)
  | .releaseSlot entry => release (.challengeSlot own entry)
  | .stampLiveness entry time =>
    holding (.liveness own entry) (request (.daemon (.stampLiveness entry time)))
  | .notifyChallenge peerId frame => notifyChallenge (some .cancelled) polls peerId frame
  | .waitForResponse peerId deadlineMs => waitForResponse (some .cancelled) peerId deadlineMs
  | .checkNonce entry nonce =>
    holding (.nonceCache own entry) (request (.daemon (.checkNonce entry nonce)))
  | .audit record => holding .auditLog (request (.daemon (.audit record)))
  | .peersSnapshot => peersSnapshot
  | .peerCredentials => request (.daemon .peerCredentials)
  | .backend => request (.daemon .backend)
  | .readExact count => request (.daemon (.readExact count))
  | .write bytes => request (.daemon (.write bytes))
  | .sendReload => request (.daemon .sendReload)
  | .now => request (.daemon .now)
  | .random => request (.daemon .random)

def rotateOnce : LockM Unit := do
  holding .orchestratorPeers (request .snapshotPeers)
  holding .advSlot (request .advertise)

def dropPeer (polls : Nat) (peerId : Text) : LockM Unit := do
  match revokeNotice peerId with
  | some frame =>
    let _ ← notifyChallenge none polls peerId frame
  | none => pure ()
  match ← removePeer peerId with
  | .ok () => holding .orchestratorPeers (request (.removeEntry peerId))
  | .error _ => return ()

def takePeer (peerId : Text) (bondKey : BondKey) (named : Bool) :
    LockM Unit := do
  if named then
    match ← addPeer peerId bondKey with
    | .ok () => holding .orchestratorPeers (request (.addEntry peerId bondKey))
    | .error _ => return ()
  else
    return ()

def runReload (exitWhenEmpty : Bool) (polls : Nat) : LockM Unit := do
  match ← request .loadNewSet with
  | none => return ()
  | some newSet =>
    let (toAdd, toRemove) ← holding .orchestratorPeers (request (.diff newSet))
    let _ ← holding .orchestratorPeers (request .countPeers)
    toRemove.foldlM (fun () peerId => dropPeer polls peerId) ()
    toAdd.foldlM (fun () peer => takePeer peer.1 peer.2.1 peer.2.2) ()
    let peersAfter ← holding .orchestratorPeers (request .countPeers)
    if peersAfter = 0 && exitWhenEmpty then request .terminate
    rotateOnce

/-! ## Jobs -/

/-- The tasks that take locks. -/
inductive DaemonJob where
  /-- The variant with a given nonce does not draw one. -/
  | challenge (peerId : Text) (deadlineMs : Nat) (nonce : Option Nonce) (polls : Nat)
  | reload (exitWhenEmpty : Bool) (polls : Nat)
  | rotation
  | status
  /-- The task of a registration takes over or drops a notifier. -/
  | notifier (peerId : Text) (registration : Nat) (subscribes : Bool)
deriving DecidableEq

def DaemonJob.own : DaemonJob → Option Text
  | .challenge peerId _ _ _ => some peerId
  | _ => none

section

variable {SigningKey : Type} (crypto : Crypto SigningKey)

/-- `issue_challenge_cancellable`, or its variant with a given nonce. -/
def challenged (peerId : Text) (deadlineMs : Nat) (nonce : Option Nonce) :
    DaemonM ChallengeOutcome :=
  match nonce with
  | none => issueChallengeCancellable crypto peerId deadlineMs
  | some nonce => issueChallengeWithNonceCancellable crypto peerId nonce deadlineMs

def lockedChallenge (polls : Nat) (peerId : Text) (deadlineMs : Nat)
    (nonce : Option Nonce) : LockM ChallengeOutcome :=
  (challenged crypto peerId deadlineMs nonce).expand (implement polls peerId)

/-- The program of a job. -/
def start : DaemonJob → LockM Unit
  | .challenge peerId deadlineMs nonce polls => do
      let _ ← lockedChallenge crypto polls peerId deadlineMs nonce
      return ()
  | .reload exitWhenEmpty polls => runReload exitWhenEmpty polls
  | .rotation => rotateOnce
  | .status => do
      let _ ← peersSnapshot
      return ()
  | .notifier peerId registration subscribes =>
    holding (.notifierSlot peerId registration)
      (if subscribes then request (.setNotifier peerId registration)
      else request (.clearNotifier peerId registration))

/--
Without other tasks, a challenge with locks ends as the challenge does that
gets its answers from the methods.  `LateAnswers` runs the same program, with
the response channel in place of the locks.
-/
theorem resolve_lockedChallenge (polls : Nat) (peerId : Text) (deadlineMs : Nat)
    (nonce : Option Nonce) (oracle : (action : DaemonAction) → Reply LockAnswer action) :
    (lockedChallenge crypto polls peerId deadlineMs nonce).resolve oracle =
      (challenged crypto peerId deadlineMs nonce).resolve fun question =>
        (implement polls peerId question).resolve oracle :=
  resolve_expand

end

/-- What the calls of a reload to the peripheral come to at the locks. -/
def reloadAnswers (polls : Nat) (files : Text → Except Text Bytes)
    (oracle : (action : DaemonAction) → Reply LockAnswer action) : Oracle ReloadAnswer
  | .readKeyFile peerId => files peerId
  | .arrange peerIds => ⟨peerIds, .refl _⟩
  | .notifyChallenge peerId frame => (notifyChallenge none polls peerId frame).resolve oracle
  | .removePeer peerId => (removePeer peerId).resolve oracle
  | .addPeer peerId key => (addPeer peerId key).resolve oracle
  | .terminate => ()
  | .rotate => rotateOnce.resolve oracle

/--
Without other tasks, the reload that gets these answers releases the peers
that the peripheral has, and adds those that it has not and that BlueZ serves.
-/
theorem reloadAnswers_spec (polls : Nat) (files : Text → Except Text Bytes)
    (oracle : (action : DaemonAction) → Reply LockAnswer action) (peerId : Text) (key : BondKey) :
    releases (reloadAnswers polls files oracle) peerId = oracle (.perform (.takePeer peerId)) ∧
      accepts (reloadAnswers polls files oracle) peerId key =
        (!oracle (.perform (.containsPeer peerId)) &&
          (oracle (.perform (.serveApplication key))).isOk) := by
  constructor
  · cases taken : oracle (.perform (.takePeer peerId)) <;>
      simp [releases, reloadAnswers, removePeer, setApplication, guarded, request, taken,
        Except.isOk, Except.toBool]
  · cases known : oracle (.perform (.containsPeer peerId)) <;>
      cases served : oracle (.perform (.serveApplication key)) <;>
      simp [accepts, reloadAnswers, addPeer, andThen, setApplication, buildAndRegisterPeer,
        awaiting, guarded, request, known, served, Except.isOk, Except.toBool]

/-! ## Which lock is taken under which -/

/-- The locks that a wait for a response may hold. -/
def DuringWait (own : Option Text) : DaemonLock → Prop
  | .peripheralPeers | .responseRx _ => True
  | .challengeSlot peerId _ => own = some peerId
  | _ => False

/--
The channel of a peer is only locked under the peer map, and the slot of a
peer only by a challenge to it.
-/
def Under (own : Option Text) (locks : List DaemonLock) :
    DaemonLock → Prop
  | .responseRx _ => .peripheralPeers ∈ locks
  | .challengeSlot peerId _ => own = some peerId
  | _ => True

/-- A job that waits for a response holds the peer map, and little else. -/
def Ordered (own : Option Text) (locks : List DaemonLock) :
    DaemonAction → Prop
  | .acquire lock => Under own locks lock
  | .tryAcquire lock => Under own locks lock
  | .perform (.receive _ _) => .peripheralPeers ∈ locks ∧ ∀ lock ∈ locks, DuringWait own lock
  | _ => True

variable {lock : DaemonLock}

section Ordering

variable {own : Option Text} {locks : List DaemonLock} {Value Result : Type}
  {givenUp : Option PeripheralError} {query : LockQuery}

theorem ordered_request (allowed : Ordered own locks (.perform query)) :
    Balanced (Ordered own) locks (request query) :=
  balanced_effect allowed

theorem ordered_andThen {first : LockM (Except PeripheralError Value)}
    {rest : Value → LockM (Except PeripheralError Result)}
    (one : Balanced (Ordered own) locks first)
    (two : ∀ value, Balanced (Ordered own) locks (rest value)) :
    Balanced (Ordered own) locks (andThen first rest) := by
  apply one.bind
  intro res
  cases res with
  | error error => exact balanced_pure _
  | ok value => exact two _

theorem ordered_guarded {body : LockM (Except PeripheralError Value)}
    (under : Under own locks lock) (inner : Balanced (Ordered own) (lock :: locks) body) :
    Balanced (Ordered own) locks (guarded givenUp lock body) :=
  balanced_guarded under under trivial inner

theorem ordered_holding {body : LockM Value} (under : Under own locks lock)
    (inner : Balanced (Ordered own) (lock :: locks) body) :
    Balanced (Ordered own) locks (holding lock body) :=
  balanced_holding under trivial inner

theorem ordered_locked (under : Under own locks lock)
    (allowed : Ordered own (lock :: locks) (.perform query)) :
    Balanced (Ordered own) locks (holding lock (request query)) :=
  ordered_holding under (ordered_request allowed)

theorem ordered_done (allowed : Ordered own locks (.perform query)) :
    Balanced (Ordered own) locks
      (do
        let _ ← request query
        return .ok () : LockM (Except PeripheralError Unit)) :=
  (ordered_request allowed).bind fun _ => balanced_pure _

theorem ordered_awaiting (allowed : Ordered own locks (.perform query)) :
    Balanced (Ordered own) locks (awaiting givenUp query) := by
  cases givenUp with
  | none => exact (ordered_request allowed).bind fun _ => balanced_pure _
  | some failure =>
    refine .bind (ordered_request trivial) ?_
    intro cancelled
    cases cancelled with
    | true => exact balanced_pure _
    | false => exact (ordered_request allowed).bind fun _ => balanced_pure _

theorem ordered_withPeer {peerId : Text} {body : PeerHandle → LockM (Except PeripheralError Value)}
    (inner : ∀ peer, Balanced (Ordered own) (.peripheralPeers :: locks) (body peer)) :
    Balanced (Ordered own) locks (withPeer givenUp peerId body) := by
  refine ordered_guarded trivial ?_
  refine .bind (ordered_request trivial) ?_
  intro found
  cases found with
  | none => exact balanced_pure _
  | some peer => exact inner _

variable (peerId : Text)

theorem ordered_drainResponses : Balanced (Ordered own) locks (drainResponses givenUp peerId) := by
  apply ordered_withPeer
  intro peer
  exact ordered_guarded mem_cons_self (ordered_done trivial)

variable {frame : Bytes} {bondKey : BondKey} {polls : Nat}

theorem ordered_writeFrame : Balanced (Ordered own) locks (writeFrame givenUp peerId frame) := by
  apply ordered_andThen
  · exact ordered_withPeer fun _ => balanced_pure _
  · intro registration
    exact ordered_guarded trivial (ordered_awaiting trivial)

theorem ordered_setApplication {change : LockQuery}
    (allowed : Ordered own (.appHandle :: locks) (.perform change)) :
    Balanced (Ordered own) locks (setApplication givenUp change) :=
  ordered_guarded trivial (ordered_done allowed)

theorem ordered_buildAndRegisterPeer :
    Balanced (Ordered own) locks (buildAndRegisterPeer givenUp bondKey) := by
  refine ordered_andThen (ordered_awaiting trivial) ?_
  intro served
  cases served with
  | error error => exact balanced_pure _
  | ok _ => exact ordered_setApplication trivial

theorem ordered_abortOldTask : Balanced (Ordered own) locks (abortOldTask givenUp peerId) := by
  refine ordered_guarded trivial ?_
  refine .bind (ordered_request trivial) ?_
  intro found
  cases found with
  | none => exact balanced_pure _
  | some peer => exact ordered_guarded trivial (ordered_done trivial)

theorem ordered_swapRegistration :
    Balanced (Ordered own) locks (swapRegistration givenUp peerId) := by
  refine ordered_guarded trivial ?_
  refine .bind (ordered_request trivial) ?_
  intro found
  cases found with
  | none => exact balanced_pure _
  | some peer =>
    apply ordered_andThen
    · exact ordered_guarded trivial (ordered_done trivial)
    · intro _
      refine .bind (ordered_request trivial) ?_
      intro _
      exact ordered_guarded trivial (ordered_done trivial)

theorem ordered_rebuildPeerRegistration :
    Balanced (Ordered own) locks (rebuildPeerRegistration givenUp peerId) := by
  refine ordered_andThen (ordered_withPeer fun _ => balanced_pure _) ?_
  intro bondKey
  refine ordered_andThen (ordered_abortOldTask _) ?_
  intro _
  refine ordered_andThen (ordered_setApplication trivial) ?_
  intro _
  refine ordered_andThen (ordered_awaiting trivial) ?_
  intro _
  refine ordered_andThen ordered_buildAndRegisterPeer ?_
  intro _
  exact ordered_swapRegistration _

theorem ordered_awaitSubscription :
    Balanced (Ordered own) locks (awaitSubscription givenUp peerId polls) := by
  induction polls with
  | zero => exact balanced_pure _
  | succ polls induction =>
    apply ordered_andThen
    · apply ordered_withPeer
      intro peer
      refine ordered_guarded trivial ?_
      exact .bind (ordered_request trivial) fun _ => balanced_pure _
    · intro ready
      cases ready with
      | true => exact balanced_pure _
      | false =>
        refine .bind (ordered_request trivial) ?_
        intro passed
        cases passed with
        | true => exact balanced_pure _
        | false =>
          refine ordered_andThen (ordered_awaiting trivial) ?_
          intro _
          exact induction

theorem ordered_retryFrame : Balanced (Ordered own) locks (retryFrame givenUp peerId frame) := by
  refine ordered_andThen (ordered_writeFrame _) ?_
  intro reply
  cases reply with
  | written | failed error | missing => exact balanced_pure _

theorem ordered_notifyChallenge {peerId : Text} :
    Balanced (Ordered own) locks (notifyChallenge givenUp polls peerId frame) := by
  have retried :
      Balanced (Ordered own) locks
        (andThen (rebuildPeerRegistration givenUp peerId) fun () =>
          andThen (awaitSubscription givenUp peerId polls) fun () =>
            retryFrame givenUp peerId frame) := by
    refine ordered_andThen (ordered_rebuildPeerRegistration _) ?_
    intro _
    refine ordered_andThen (ordered_awaitSubscription _) ?_
    intro _
    exact ordered_retryFrame _
  refine ordered_andThen (ordered_drainResponses _) ?_
  intro _
  refine ordered_andThen (ordered_writeFrame _) ?_
  intro reply
  cases reply with
  | written => exact balanced_pure _
  | failed error | missing => exact retried

/-- A wait that begins with slots alone holds the map when it waits. -/
theorem ordered_waitForResponse (slots : ∀ lock ∈ locks, DuringWait own lock)
    {peerId : Text} {deadlineMs : Nat} :
    Balanced (Ordered own) locks (waitForResponse givenUp peerId deadlineMs) := by
  apply ordered_withPeer
  intro peer
  apply ordered_guarded mem_cons_self
  apply ordered_request
  refine ⟨mem_cons_of_mem _ mem_cons_self, ?_⟩
  intro lock mem
  simp only [mem_cons] at mem
  rcases mem with rfl | rfl | mem
  · exact trivial
  · exact trivial
  · exact slots _ mem

theorem ordered_removePeer : Balanced (Ordered own) locks (removePeer peerId) := by
  refine ordered_holding trivial ?_
  refine .bind (ordered_request trivial) ?_
  intro taken
  cases taken with
  | false => exact balanced_pure _
  | true =>
    refine .bind (ordered_locked trivial trivial) ?_
    intro _
    exact ordered_setApplication trivial

theorem ordered_addPeer : Balanced (Ordered own) locks (addPeer peerId bondKey) := by
  refine .bind (ordered_locked trivial trivial) ?_
  intro known
  cases known with
  | true => exact balanced_pure _
  | false =>
    refine ordered_andThen (ordered_setApplication trivial) ?_
    intro _
    refine ordered_andThen ordered_buildAndRegisterPeer ?_
    intro _
    refine .bind (ordered_locked trivial trivial) ?_
    intro _
    exact balanced_pure _

theorem ordered_peersSnapshot : Balanced (Ordered own) locks peersSnapshot := by
  refine ordered_holding trivial ?_
  refine .bind (ordered_request trivial) ?_
  intro entries
  apply Balanced.bind
  · apply balanced_foldlM
    intro _ entry
    exact ordered_holding trivial (balanced_pure _)
  · intro _
    exact ordered_request trivial

theorem ordered_rotateOnce : Balanced (Ordered own) locks rotateOnce := by
  refine .bind (ordered_locked trivial trivial) ?_
  intro _
  exact ordered_locked trivial trivial

theorem ordered_dropPeer {peerId : Text} :
    Balanced (Ordered own) locks (dropPeer polls peerId) := by
  have removed :
      Balanced (Ordered own) locks
        (do
          match ← removePeer peerId with
          | .ok () => holding .orchestratorPeers (request (.removeEntry peerId))
          | .error _ => return ()) := by
    apply (ordered_removePeer _).bind
    intro reply
    cases reply with
    | ok _ => exact ordered_locked trivial trivial
    | error _ => exact balanced_pure _
  unfold dropPeer
  split
  · apply ordered_notifyChallenge.bind
    intro _
    exact removed
  · exact removed

theorem ordered_takePeer {named : Bool} :
    Balanced (Ordered own) locks (takePeer peerId bondKey named) := by
  cases named with
  | false => exact balanced_pure _
  | true =>
    apply (ordered_addPeer _).bind
    intro reply
    cases reply with
    | ok _ => exact ordered_locked trivial trivial
    | error _ => exact balanced_pure _

theorem ordered_runReload {exitWhenEmpty : Bool} :
    Balanced (Ordered own) locks (runReload exitWhenEmpty polls) := by
  refine .bind (ordered_request trivial) ?_
  intro loaded
  cases loaded with
  | none => exact balanced_pure _
  | some newSet =>
    refine .bind (ordered_locked trivial trivial) ?_
    intro difference
    refine .bind (ordered_locked trivial trivial) ?_
    intro _
    apply Balanced.bind
    · apply balanced_foldlM
      intro _ peerId
      exact ordered_dropPeer
    · intro _
      apply Balanced.bind
      · apply balanced_foldlM
        intro _ peer
        exact ordered_takePeer _
      · intro _
        refine .bind (ordered_locked trivial trivial) ?_
        intro peersAfter
        split
        · refine .bind (ordered_request trivial) ?_
          intro _
          exact ordered_rotateOnce
        · exact ordered_rotateOnce

end Ordering

/-! ## Jobs keep the order -/

def SlotsOnly (own : Text) (locks : List DaemonLock) : Prop :=
  ∀ lock ∈ locks, ∃ entry, lock = .challengeSlot own entry

theorem implement_ordered (polls : Nat) (own : Text) (question : DaemonQuestion)
    (past : List (LockTurn DaemonLock LockAnswer)) (slots : SlotsOnly own (held past)) :
    Keeps (fun past action => Ordered (some own) (held past) action)
    (fun past _ => SlotsOnly own (held past)) past (implement polls own question) := by
  have kept : ∀ {Value : Type} {prog : LockM Value}, Balanced (Ordered (some own))
      (held past) prog → Keeps (fun past action => Ordered (some own) (held past) action)
      (fun past _ => SlotsOnly own (held past)) past prog := by
    intro Value prog balanced
    apply (balanced _ rfl).imp
    intro after res same
    rw [same]
    exact slots
  cases question with
  | lookupPeer peerId => exact kept (ordered_locked trivial trivial)
  | acquireSlot entry =>
    refine ⟨rfl, fun granted => ?_⟩
    rw [Keeps, held_snoc]
    intro lock mem
    rcases mem_settle mem with earlier | given
    · exact slots _ earlier
    · cases granted with
      | true => exact ⟨entry, (some.inj given).symm⟩
      | false => cases given
  | releaseSlot entry =>
    refine ⟨trivial, fun _ => ?_⟩
    rw [Keeps, held_snoc]
    intro lock mem
    exact slots _ (mem_of_mem_erase mem)
  | stampLiveness entry time => exact kept (ordered_locked trivial trivial)
  | notifyChallenge peerId frame => exact kept ordered_notifyChallenge
  | waitForResponse peerId deadlineMs =>
    apply kept
    apply ordered_waitForResponse
    intro lock mem
    obtain ⟨entry, rfl⟩ := slots _ mem
    rfl
  | checkNonce entry nonce => exact kept (ordered_locked trivial trivial)
  | audit record => exact kept (ordered_locked trivial trivial)
  | peersSnapshot => exact kept ordered_peersSnapshot
  | _ => exact kept (ordered_request trivial)

section

variable {SigningKey : Type} (crypto : Crypto SigningKey)

theorem start_ordered {job : DaemonJob} :
    Keeps (fun past action => Ordered job.own (held past) action)
      (fun _ _ => True) [] (start crypto job) := by
  have kept : ∀ {prog : LockM Unit}, Balanced (Ordered job.own) [] prog →
      Keeps (fun past action => Ordered job.own (held past) action) (fun _ _ => True) [] prog := by
    intro prog balanced
    exact (balanced [] rfl).imp fun _ _ _ => trivial
  cases job with
  | challenge peerId deadlineMs nonce polls =>
    have initial : SlotsOnly peerId (held ([] : List (LockTurn DaemonLock LockAnswer))) := by
      intro lock mem
      cases mem
    apply (keeps_expand (implement_ordered _ _) initial).bind
    intro past res slots
    exact trivial
  | reload exitWhenEmpty polls => exact kept ordered_runReload
  | rotation => exact kept ordered_rotateOnce
  | status =>
    apply kept
    exact .bind ordered_peersSnapshot fun _ => balanced_pure _
  | notifier peerId registration subscribes =>
    apply kept
    cases subscribes with
    | true | false => exact ordered_locked trivial trivial

/-! ## Waiting for one peer -/

abbrev DaemonTask := Task DaemonJob DaemonLock LockAnswer Unit

abbrev DaemonEvent := LockedTasks.Event DaemonJob DaemonLock LockAnswer

def awaitsResponse (task : DaemonTask) : Bool :=
  task.running &&
    match task.program with
    | .ask (.perform (.receive _ _)) _ => true
    | _ => false

variable {crypto} {task : DaemonTask}

/-- What is known of the next action of a genuine task. -/
theorem ordered_next (genuine : Genuine (start crypto) task) {action : DaemonAction}
    {next : Reply LockAnswer action → LockM Unit} (asks : task.program = .ask action next) :
    Ordered task.job.own (held task.past) action := by
  have keeps := genuine.keeps (start_ordered _)
  rw [asks] at keeps
  exact keeps.1

/-- A task that waits for a response holds the peer map, and little else. -/
theorem awaitsResponse_holds (genuine : Genuine (start crypto) task)
    (awaits : awaitsResponse task = true) : task.holds .peripheralPeers =
    true ∧ ∀ lock, task.holds lock = true → DuringWait task.job.own lock := by
  obtain ⟨running, receives⟩ := Bool.and_eq_true_iff.mp awaits
  split at receives
  · next peerId deadlineMs next asks =>
      obtain ⟨map, others⟩ := ordered_next genuine asks
      constructor
      · simp [Task.holds, running, map]
      · intro lock holds
        apply others
        simpa [Task.holds, running] using holds
  · cases receives

theorem wants_under (genuine : Genuine (start crypto) task) (wants : task.wants = some lock) :
    task.running = true ∧ Under task.job.own (held task.past) lock := by
  unfold Task.wants at wants
  split at wants
  · next running =>
      refine ⟨running, ?_⟩
      cases asks : task.program with
      | done res =>
        rw [asks] at wants
        cases wants
      | ask action next =>
        have ordered := ordered_next genuine asks
        rw [asks] at wants
        cases action with
        | acquire other | tryAcquire other =>
          cases wants
          exact ordered
        | release other | perform query => cases wants
  · cases wants

/--
In every run, while a challenge to one peer waits for its response, the next
step of a task that is not a challenge to this peer is free of the locks of
the wait exactly if it does not lock the peer map of the peripheral.
-/
theorem wait_blocks_iff (events : List DaemonEvent) (waiting other : Nat) (task next : DaemonTask)
    (foundWaiting : (run (step (start crypto)) [] events)[waiting]? = some task)
    (foundOther : (run (step (start crypto)) [] events)[other]? = some next)
    (awaits : awaitsResponse task = true) (peerId : Text)
    (challenges : task.job.own = some peerId) (apart : next.job.own ≠ some peerId) :
    next.blockedBy task = false ↔ next.wants ≠ some .peripheralPeers := by
  obtain ⟨genuine, exclusive⟩ := run_sound (start _) _
  have genuineTask := genuine _ (mem_of_getElem? foundWaiting)
  have genuineNext := genuine next (mem_of_getElem? foundOther)
  obtain ⟨map, during⟩ := awaitsResponse_holds genuineTask awaits
  constructor
  · intro unblocked wants
    simp [Task.blockedBy, wants, map] at unblocked
  · intro elsewhere
    by_contra blocked
    have blocked : next.blockedBy task = true := by simpa using blocked
    obtain ⟨lock, wants, holds⟩ := (any_eq_true _ _).mp blocked
    obtain ⟨running, under⟩ := wants_under genuineNext wants
    have allowed := during _ holds
    cases lock with
    | peripheralPeers => exact elsewhere wants
    | responseRx owner =>
      -- Both would hold the peer map.
      have holdsMap : next.holds .peripheralPeers = true := by
        have mem : .peripheralPeers ∈ held next.past := under
        simp [Task.holds, running, mem]
      have same := exclusive _ _ _ next foundWaiting foundOther _ map holdsMap
      subst same
      rw [foundWaiting] at foundOther
      cases foundOther
      exact apart challenges
    | challengeSlot owner entry =>
      have first : task.job.own = some owner := allowed
      have second : next.job.own = some owner := under
      exact apart (second.trans (first.symm.trans challenges))
    | _ => exact allowed

end

/-! ## Two peers -/

def knownPeers : Oracle DaemonAnswer
  | .lookupPeer peerId =>
    some
      { phonePubkey := .replicate 32 1
        bondKey := .replicate 32 2, entry := if peerId = "first".toList then 0 else 1 }
  | other => silentChoice other

def lostPeer : (query : LockQuery) → LockAnswer query
  | .daemon question => knownPeers question
  | .cancelled => false
  | .findPeer _ => some ⟨0, .replicate 32 2⟩
  | .writeAll _ _ _ => .written
  | .serveApplication _ => .ok ()
  | .subscribed _ => true
  | .deadlinePassed => false
  | .receive _ _ => .error .cancelled
  | .takePeer _ => true
  | .containsPeer _ => false
  | .liveEntries => []
  | .loadNewSet => some [("second".toList, .replicate 32 2, true)]
  | .diff _ => ([], ["first".toList])
  | .countPeers => 2
  | .drain _ | .abortTask _ | .clearApplication | .kickConnectedPeers
  | .storeApplication | .installRegistration _ | .storeTask _
  | .clearNotifier _ _ | .setNotifier _ _ | .sleep | .insertPeer _ _
  | .removeEntry _ | .addEntry _ _ | .terminate | .snapshotPeers
  | .advertise => ()

def granting : (action : DaemonAction) → Reply LockAnswer action
  | .acquire _ => ()
  | .tryAcquire _ => true
  | .release _ => ()
  | .perform query => lostPeer query

/--
A challenge to each peer and a reload that removes the first.  The first
challenge comes to its wait, and the others take so many steps after it.
-/
def crossing (second reload : Nat) : List DaemonEvent :=
  [.spawned (.challenge "first".toList 20000 none 80),
    .spawned (.challenge "second".toList 20000 none 80), .spawned (.reload false 80)] ++
    List.replicate 26 (.answered 0 granting) ++ List.replicate second (.answered 1 granting) ++
    List.replicate reload (.answered 2 granting)

def crossed (second reload : Nat) : List DaemonTask :=
  run (step (start sampleCrypto)) [] (crossing second reload)

/-- At its first lock, the second challenge is not stopped by the first. -/
theorem second_looked_up :
    ∃ task next, (crossed 1 0)[0]? = some task ∧
      (crossed 1 0)[1]? = some next ∧ awaitsResponse task = true ∧
      task.job.own = some "first".toList ∧ next.job.own ≠ some "first".toList ∧
      next.wants = some .orchestratorPeers ∧ next.blockedBy task = false := by
  obtain ⟨task, foundTask⟩ : ∃ task, (crossed 1 0)[0]? = some task :=
    isSome_iff_exists.mp (by decide +kernel)
  obtain ⟨next, foundNext⟩ : ∃ next, (crossed 1 0)[1]? = some next :=
    isSome_iff_exists.mp (by decide +kernel)
  have waits :
      (crossed 1 0)[0]?.all (fun task =>
        awaitsResponse task && task.job.own == some "first".toList) = true := by
    decide +kernel
  have looks :
      (crossed 1 0)[1]?.all (fun next =>
        next.job.own == some "second".toList && next.wants == some .orchestratorPeers) = true := by
    decide +kernel
  rw [foundTask] at waits
  rw [foundNext] at looks
  simp only [all_some, Bool.and_eq_true, beq_iff_eq] at waits looks
  have apart : next.job.own ≠ some "first".toList := by
    rw [looks.1]
    decide
  refine ⟨task, next, foundTask, foundNext, waits.1, waits.2, apart, looks.2, ?_⟩
  apply (wait_blocks_iff _ 0 1 _ next foundTask foundNext waits.1 _ waits.2 apart).mpr
  rw [looks.2]
  decide

/--
While the first challenge waits for its phone, the challenge to the second
peer cannot send, and the reload cannot remove the first peer.
-/
theorem wait_stops_the_others :
    (crossed 10 7)[0]?.any (fun task =>
        awaitsResponse task &&
          (crossed 10 7)[1]?.any (fun next =>
            next.job.own == some "second".toList && next.blockedBy task) &&
          (crossed 10 7)[2]?.any (fun next =>
            next.job == .reload false 80 && next.blockedBy task)) =
      true := by
  decide +kernel

end PeerLocks

end DeskUnlock.Unlock
