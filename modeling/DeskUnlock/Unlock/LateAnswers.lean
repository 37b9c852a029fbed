import DeskUnlock.Unlock.ChallengeRoundTrip
import DeskUnlock.Unlock.Peripheral
import DeskUnlock.Unlock.UnlockGrants

/-!
# Late answers

Any number of challenges to one peer, with the steps of `notify_challenge` and
`wait_for_response` of `syauth-transport/src/peripheral.rs`, and a phone that
answers the challenges it has received whenever it likes.

The response channel of a peer does not say which challenge a response is for.
`notify_challenge` empties it once, before the frame is written, and the wait
takes whatever comes next.
-/

namespace DeskUnlock.Unlock

open Texts Dialogues Dialogue Runs List Option Orchestrator PersistentPeripheral
open Pairing (Bytes)
open Recovery (BondKey)

/-! ## The response channel -/

def RESPONSE_BUFFER_DEPTH : Nat := 8

namespace PeerCharSet

def nextResponse (chars : PeerCharSet) : Option Bytes :=
  match chars.serving, chars.unread with
  | true, bytes :: _ =>
    match routeWrite bytes with
    | .response resp => if chars.responses.length < RESPONSE_BUFFER_DEPTH then some resp else none
    | _ => none
  | _, _ => none

/--
The serving task takes the next write of the phone.  While the channel is full
it waits; what is not a response is dealt with at once.
-/
def serve (chars : PeerCharSet) : PeerCharSet :=
  match chars.serving, chars.unread with
  | true, bytes :: rest =>
    match routeWrite bytes with
    | .response resp =>
      if chars.responses.length < RESPONSE_BUFFER_DEPTH then
        { chars with responses := chars.responses ++ [resp], unread := rest }
      else chars
    | _ => { chars with unread := rest }
  | _, _ => chars

end PeerCharSet

namespace PersistentPeripheral

def updatePeer (periph : PersistentPeripheral) (peerId : Text)
    (change : PeerCharSet → PeerCharSet) : PersistentPeripheral :=
  match periph.peers.lookup peerId with
  | none => periph
  | some chars => { periph with peers := periph.peers.insert peerId (change chars) }

def waiting (periph : PersistentPeripheral) (peerId : Text) : List Bytes :=
  match periph.peers.lookup peerId with
  | none => []
  | some chars => chars.responses

end PersistentPeripheral

/-! ## Notifications -/

/-- What the radio makes of the next step of a notification. -/
structure Radio where
  /-- The write of the frame. -/
  written : Except Text Unit
  /-- The registration of a fresh application. -/
  served : Except Text Unit
  /-- The time for a fresh subscription is over. -/
  expired : Bool

/-- How far `notify_challenge` has come. -/
inductive NotifyStage where
  | entered
  /-- The channel was emptied; the first attempt is next. -/
  | drained
  /-- The writer was dead or missing. -/
  | rebuilding
  /-- The phone has to subscribe to the fresh application. -/
  | awaiting
  /-- It has; the second attempt is next. -/
  | retrying
deriving DecidableEq

inductive NotifyProgress where
  | going (stage : NotifyStage)
  | ended (res : Except PeripheralError Unit)

section

variable (expand : SessionHkdf)

def notifyStep (periph : PersistentPeripheral) (peerId : Text)
    (radio : Radio) (stage : NotifyStage) : PersistentPeripheral × NotifyProgress :=
  match periph.peers.lookup peerId with
  | none => (periph, .ended (.error (.unknownPeer peerId)))
  | some chars =>
    match stage with
    | .entered =>
      (periph.updatePeer peerId fun chars => { chars with responses := [] }, .going .drained)
    | .drained =>
      match chars.subscribed, radio.written with
      | true, .ok () => (periph, .ended (.ok ()))
      | true, .error _ =>
        (periph.updatePeer peerId fun chars =>
          { chars with subscribed := false }, .going .rebuilding)
      | false, _ => (periph, .going .rebuilding)
    | .rebuilding =>
      match periph.rebuildPeerRegistration expand peerId radio.served with
      | (periph, .ok ()) => (periph, .going .awaiting)
      | (periph, .error error) => (periph, .ended (.error error))
    | .awaiting =>
      match chars.subscribed, radio.expired with
      | true, _ => (periph, .going .retrying)
      | false, true =>
        (periph, .ended (.error (.backend
          ("fresh GATT subscription timeout for peer_id=".toList ++ peerId))))
      | false, false => (periph, .going .awaiting)
    | .retrying =>
      match chars.subscribed, radio.written with
      | true, .ok () => (periph, .ended (.ok ()))
      | true, .error error =>
        (periph, .ended (.error (.backend ("notify_challenge retry write: ".toList ++ error))))
      | false, _ =>
        (periph, .ended (.error (.backend
          ("no active GATT subscription after rebuild for peer_id=".toList ++ peerId))))

/-! ## Challenges to one peer -/

/-- A challenge, up to its outcome or its dropping. -/
structure ChallengeTask where
  program : DaemonM ChallengeOutcome
  past : List DaemonTurn
  stage : NotifyStage
  running : Bool

namespace ChallengeTask

/-- The frame whose response the task would take from the channel. -/
def frame? (task : ChallengeTask) : Option Bytes :=
  match task.running, task.program with
  | true, .ask (.notifyChallenge _ frame) _ => if task.stage = .entered then none else some frame
  | true, .ask (.waitForResponse _ _) _ =>
    match task.past.getLast? with
    | some ⟨.notifyChallenge _ frame, .ok ()⟩ => some frame
    | _ => none
  | _, _ => none

def proceed (task : ChallengeTask) (question : DaemonQuestion)
    (next : DaemonAnswer question → DaemonM ChallengeOutcome)
    (answer : DaemonAnswer question) : ChallengeTask where
  program := next answer
  past := task.past ++ [⟨question, answer⟩]
  stage := .entered
  running := task.running

end ChallengeTask

/-- The daemon and the phone of one peer. -/
structure ChallengeLine where
  orchestrator : Orchestrator
  peripheral : PersistentPeripheral
  /-- The challenges that the phone has received and not answered. -/
  received : List Bytes
  tasks : List ChallengeTask

namespace ChallengeLine

inductive Event where
  | issued (deadlineMs : Nat)
  /-- A question that is not for the peripheral is answered. -/
  | answered (i : Nat) (choice : Oracle DaemonAnswer)
  | notified (i : Nat) (radio : Radio)
  /-- The wait takes what comes next in the channel. -/
  | responded (i : Nat)
  | timedOut (i : Nat)
  | cancelled (i : Nat)
  | dropped (i : Nat)
  | phoneAnswered (pos : Nat)
  /-- The phone writes a heartbeat or a sample. -/
  | phoneWrote (bytes : Bytes)
  /-- The serving task takes a write of the phone. -/
  | served
  | subscribed
  | unsubscribed
  | peripheralCalled (call : PersistentPeripheral.Call)
  | peerAdded (key : BondKey)
  | peerRemoved

section

variable (line : ChallengeLine)

def moveTask (i : Nat) (move : ChallengeTask → Option (ChallengeLine × ChallengeTask)) :
    ChallengeLine :=
  match line.tasks[i]? with
  | none => line
  | some task =>
    if task.running then
      match move task with
      | none => line
      | some (after, moved) => { after with tasks := line.tasks.set i moved }
    else line

/-- The peripheral answers the questions that are put to it. -/
def answerTask (i : Nat) (choice : Oracle DaemonAnswer)
    (task : ChallengeTask) : Option (ChallengeLine × ChallengeTask) :=
  match task.program with
  | .done _ => none
  | .ask (.notifyChallenge _ _) _ | .ask (.waitForResponse _ _) _ => none
  | .ask question next =>
    (line.orchestrator.answer i question (choice question)).map
      fun (orch, answer) => ({ line with orchestrator := orch }, task.proceed question next answer)

/-- One step of `notify_challenge`; a frame that is written is received. -/
def notifyTask (radio : Radio) (task : ChallengeTask) : Option (ChallengeLine × ChallengeTask) :=
  match task.program with
  | .ask (.notifyChallenge named frame) next =>
    match notifyStep expand line.peripheral named radio task.stage with
    | (periph, .going stage) =>
      some ({ line with peripheral := periph }, { task with stage := stage })
    | (periph, .ended (.ok ())) =>
      some
        ({ line with
          peripheral := periph, received := line.received ++ [frame] },
          task.proceed (.notifyChallenge named frame) next (.ok ()))
    | (periph, .ended (.error error)) =>
      some ({ line with peripheral := periph },
        task.proceed (.notifyChallenge named frame) next (.error error))
  | _ => none

def respondTask (task : ChallengeTask) : Option (ChallengeLine × ChallengeTask) :=
  match task.program with
  | .ask (.waitForResponse named deadlineMs) next =>
    match line.peripheral.peers.lookup named with
    | none =>
      some (line,
        task.proceed (.waitForResponse named deadlineMs) next (.error (.unknownPeer named)))
    | some chars =>
      match chars.responses with
      | [] => none
      | resp :: rest =>
        some
          ({ line with
            peripheral :=
              line.peripheral.updatePeer named fun chars => { chars with responses := rest } },
            task.proceed (.waitForResponse named deadlineMs) next (.ok resp))
  | _ => none

def expireTask (task : ChallengeTask) : Option (ChallengeLine × ChallengeTask) :=
  match task.program with
  | .ask (.waitForResponse named deadlineMs) next =>
    some (line,
      task.proceed (.waitForResponse named deadlineMs) next
        (.error (.responseTimeout named deadlineMs)))
  | _ => none

def cancelTask (task : ChallengeTask) : Option (ChallengeLine × ChallengeTask) :=
  match task.program with
  | .ask (.notifyChallenge named frame) next =>
    some (line, task.proceed (.notifyChallenge named frame) next (.error .cancelled))
  | .ask (.waitForResponse named deadlineMs) next =>
    some (line, task.proceed (.waitForResponse named deadlineMs) next (.error .cancelled))
  | _ => none

end

section

variable {SigningKey : Type} (crypto : Crypto SigningKey) (secret : SigningKey) (peerId : Text)

/-- What the phone writes for a frame. -/
def answerTo (frame : Bytes) : Bytes := (crypto.sign secret (challengeBody frame)).toList

def changePeer (line : ChallengeLine) (change : PeerCharSet → PeerCharSet) : ChallengeLine :=
  { line with peripheral := line.peripheral.updatePeer peerId change }

/-- One step of one challenge, or of the phone. -/
def step (line : ChallengeLine) : Event → ChallengeLine
  | .issued deadlineMs =>
    { line with
      tasks := line.tasks ++ [{
        program := issueChallengeCancellable crypto peerId deadlineMs, past := [], stage := .entered
        running := true }] }
  | .answered i choice => line.moveTask i (line.answerTask i choice)
  | .notified i radio => line.moveTask i (line.notifyTask expand radio)
  | .responded i => line.moveTask i line.respondTask
  | .timedOut i => line.moveTask i line.expireTask
  | .cancelled i => line.moveTask i line.cancelTask
  | .dropped i =>
    { line with
      orchestrator := line.orchestrator.releaseHeldBy i
      tasks := line.tasks.modify i fun task => { task with running := false } }
  | .phoneAnswered pos =>
    match line.received[pos]? with
    | none => line
    | some frame =>
      ({ line with
        received := line.received.eraseIdx pos } :
          ChallengeLine).changePeer peerId fun chars =>
            { chars with unread := chars.unread ++ [answerTo crypto secret frame] }
  | .phoneWrote bytes =>
    match routeWrite bytes with
    | .response _ => line
    | _ => line.changePeer peerId fun chars => { chars with unread := chars.unread ++ [bytes] }
  | .served => line.changePeer peerId PeerCharSet.serve
  | .subscribed => line.changePeer peerId fun chars => { chars with subscribed := true }
  | .unsubscribed => line.changePeer peerId fun chars => { chars with subscribed := false }
  | .peripheralCalled call => { line with peripheral := line.peripheral.step expand call }
  | .peerAdded key =>
    { line with orchestrator := line.orchestrator.addPeer peerId key (crypto.verifyingKey secret) }
  | .peerRemoved => { line with orchestrator := line.orchestrator.removePeer peerId }

/--
A response that comes into the channel after a challenge has emptied it, and
before that challenge has its response, is the answer to that challenge.
-/
def Timely (line : ChallengeLine) : Event → Prop
  | .served =>
    ∀ chars ∈ line.peripheral.peers.lookup peerId,
      ∀ resp ∈ chars.nextResponse,
        ∀ task ∈ line.tasks, ∀ frame ∈ task.frame?, resp = answerTo crypto secret frame
  | _ => True

instance (line : ChallengeLine) :
    (ev : Event) → Decidable (line.Timely crypto secret peerId ev)
  | .served =>
    @Option.decidableForallMem _ _
      (fun _ =>
        @Option.decidableForallMem _ _
          (fun _ => @List.decidableBAll _ _ (fun _ => Option.decidableForallMem _) _) _) _
  | .issued _ | .answered _ _ | .notified _ _ | .responded _
  | .timedOut _ | .cancelled _ | .dropped _ | .phoneAnswered _
  | .phoneWrote _ | .subscribed | .unsubscribed | .peripheralCalled _
  | .peerAdded _ | .peerRemoved => .isTrue trivial

/-- No challenge ends with a bad signature. -/
def NoBadSignature (line : ChallengeLine) : Prop :=
  ∀ task ∈ line.tasks, task.program.result? ≠ some .badSignature

end

end ChallengeLine

end

/-! ## What a challenge has been told -/

variable {peerState : PeerState}

variable {deadlineMs : Nat} {chars : PeerCharSet} {named : Text}

section

variable {SigningKey : Type} {crypto : Crypto SigningKey}
  {secret : SigningKey} {peerId : Text} {past : List DaemonTurn}

open ChallengeLine

/--
A challenge was told another key than that of the phone, or was given something
else than the answer to its frame.
-/
def Misled (crypto : Crypto SigningKey) (secret : SigningKey) (past : List DaemonTurn) : Prop :=
  (∃ asked peerState,
      ⟨.lookupPeer asked, some peerState⟩ ∈ past ∧
        peerState.phonePubkey ≠ crypto.verifyingKey secret) ∨
    ∃ asked frame waited deadlineMs resp,
      [⟨.notifyChallenge asked frame, .ok ()⟩,
          ⟨.waitForResponse waited deadlineMs, .ok resp⟩] <:+: past ∧
        resp ≠ answerTo crypto secret frame

theorem Misled.snoc (misled : Misled crypto secret past)
    (turn : DaemonTurn) : Misled crypto secret (past ++ [turn]) := by
  rcases misled with ⟨asked, peerState, told, wrong⟩ |
    ⟨asked, frame, waited, deadlineMs, resp, given, wrong⟩
  · exact .inl ⟨asked, peerState, mem_append_left _ told, wrong⟩
  · exact .inr ⟨asked, frame, waited, deadlineMs, resp,
          given.trans (prefix_append _ _).isInfix, wrong⟩

theorem not_misled_snoc (candid : ¬ Misled crypto secret past) {turn : DaemonTurn}
    (told :
      ∀ asked peerState, turn = ⟨.lookupPeer asked, some peerState⟩ →
        peerState.phonePubkey = crypto.verifyingKey secret)
    (given :
      ∀ asked frame waited deadlineMs resp,
        [⟨.notifyChallenge asked frame, .ok ()⟩] <:+ past →
          turn = ⟨.waitForResponse waited deadlineMs, .ok resp⟩ →
            resp = answerTo crypto secret frame) :
    ¬ Misled crypto secret (past ++ [turn]) := by
  rintro (⟨asked, peerState, mem, wrong⟩ | ⟨asked, frame, waited, deadlineMs, resp, inside, wrong⟩)
  · rcases mem_append.mp mem with earlier | last
    · exact candid (.inl ⟨asked, peerState, earlier, wrong⟩)
    · exact wrong (told _ _ (mem_singleton.mp last).symm)
  · rcases infix_concat_iff.mp inside with last | earlier
    · have split : [(⟨.notifyChallenge asked frame, .ok ()⟩ : DaemonTurn)] ++
              [⟨.waitForResponse waited deadlineMs, .ok resp⟩] <:+ past ++ [turn] :=
        last
      obtain ⟨before, same⟩ := (suffix_append_inj_of_length_eq (by rfl)).mp split
      exact wrong (given _ _ _ _ _ before (singleton_inj.mp same).symm)
    · exact candid (.inr ⟨asked, frame, waited, deadlineMs, resp, earlier, wrong⟩)

/-! ## The contract of a challenge -/

/--
A challenge looks its peer up, notifies its peer, and waits for a response only
right after a notification.
-/
def Paced (peerId : Text) (past : List DaemonTurn) :
    DaemonQuestion → Prop
  | .lookupPeer asked => asked = peerId
  | .notifyChallenge asked _ => asked = peerId
  | .waitForResponse asked _ =>
    asked = peerId ∧ ∃ frame, [⟨.notifyChallenge peerId frame, .ok ()⟩] <:+ past
  | _ => True

/-- A challenge ends as a bad signature only if it was misled. -/
def Sincere (crypto : Crypto SigningKey) (secret : SigningKey)
    (past : List DaemonTurn) (out : ChallengeOutcome) : Prop :=
  out = .badSignature → Misled crypto secret past

theorem sincere_of_ne {out : ChallengeOutcome}
    (other : out ≠ .badSignature) : Sincere crypto secret past out :=
  fun bad => (other bad).elim

theorem challengeOutcomeForTransport_ne {error : PeripheralError} :
    challengeOutcomeForTransport error ≠ .badSignature := by
  cases error <;> exact nofun

/-- The answer to the frame of a challenge verifies. -/
theorem answerTo_verifies (accepts : crypto.AcceptsOwn) {nonce : Nonce} {wire : Bytes}
    (registered : peerState.phonePubkey = crypto.verifyingKey secret)
    (encoded : (taggedChallenge crypto peerState.bondKey nonce).encode [] = .ok wire) :
    Verifies crypto peerState.phonePubkey (taggedChallenge crypto peerState.bondKey nonce)
      (answerTo crypto secret wire) := by
  have bodied := taggedChallenge_bodyBytes crypto peerState.bondKey nonce
  obtain ⟨onCurve, wellFormed, verified⟩ := accepts _ _
  rw [answerTo, challengeBody_wire encoded bodied, registered]
  exact ⟨_, _, rfl, wellFormed, onCurve, bodied, verified⟩

def Sincerity (crypto : Crypto SigningKey) (secret : SigningKey) (peerId : Text)
    (deadlineMs : Nat) : ChallengePoint → List DaemonTurn → Prop
  | .entered, _ => True
  | .looked peerState, past | .drawn peerState _, past =>
    ⟨.lookupPeer peerId, some peerState⟩ ∈ past
  | .told peerState nonce wire, past =>
    (taggedChallenge crypto peerState.bondKey nonce).encode [] = .ok wire ∧
      ⟨.lookupPeer peerId, some peerState⟩ ∈ past ∧
      [⟨.notifyChallenge peerId wire, .ok ()⟩] <:+ past
  | .responded peerState nonce wire responseBytes, past =>
    (taggedChallenge crypto peerState.bondKey nonce).encode [] = .ok wire ∧
      ⟨.lookupPeer peerId, some peerState⟩ ∈ past ∧
      [⟨.notifyChallenge peerId wire, .ok ()⟩,
        ⟨.waitForResponse peerId deadlineMs, .ok responseBytes⟩] <:+ past
  | .due _ out, past | .settled out, past => Sincere crypto secret past out

theorem sincerity_outline (accepts : crypto.AcceptsOwn) {peerId : Text} :
    Outline crypto (put .random) peerId deadlineMs (Paced peerId)
      (Sincerity crypto secret peerId deadlineMs) where
  turn incidental held := by
    cases incidental with
    | start => exact ⟨trivial, fun _ => trivial⟩
    | acquire | time | stamp => exact ⟨trivial, fun _ => mem_append_left _ held⟩
    | finish | release => exact ⟨trivial, fun _ bad => (held bad).snoc _⟩
  lookup _ := by
    refine ⟨rfl, fun found => ?_⟩
    cases found with
    | none => exact sincere_of_ne nofun
    | some peerState => exact mem_append_right _ (mem_singleton_self _)
  busy _ := sincere_of_ne nofun
  draw held := by
    refine ⟨trivial, fun reply => ?_⟩
    cases reply with
    | error error => exact sincere_of_ne nofun
    | ok nonce => exact mem_append_left _ held
  notify encoded held := by
    refine ⟨rfl, ?_⟩
    rintro (error | ⟨⟨⟩⟩)
    · exact sincere_of_ne challengeOutcomeForTransport_ne
    · exact ⟨encoded, mem_append_left _ held, suffix_append _ _⟩
  wait held := by
    obtain ⟨encoded, looked, notified⟩ := held
    refine ⟨⟨rfl, _, notified⟩, fun reply => ?_⟩
    cases reply with
    | error error => exact sincere_of_ne challengeOutcomeForTransport_ne
    | ok responseBytes =>
      refine ⟨encoded, mem_append_left _ looked, ?_⟩
      exact (suffix_append_inj_of_length_eq rfl).mpr ⟨notified, rfl⟩
  refuse := by
    intro peerState nonce wire responseBytes past unverified held _
    obtain ⟨encoded, looked, given⟩ := held
    by_cases registered : peerState.phonePubkey = crypto.verifyingKey secret
    · refine .inr ⟨_, _, _, _, _, given.isInfix, ?_⟩
      rintro rfl
      exact unverified (answerTo_verifies accepts registered encoded)
    · exact .inl ⟨_, _, looked, registered⟩
  check _ _ _ := by
    refine ⟨trivial, fun replayed => ?_⟩
    cases replayed with
    | true | false => exact sincere_of_ne nofun
  audit held := ⟨trivial, fun bad => (held bad).snoc _⟩

theorem issueChallengeCancellable_sincere (accepts : crypto.AcceptsOwn) {peerId : Text} :
    Keeps (Paced peerId) (Sincere crypto secret) []
      (issueChallengeCancellable crypto peerId deadlineMs) :=
  (sincerity_outline accepts).issueChallengeFrom trivial

end

/-! ## What waits in the channel -/

namespace PersistentPeripheral

variable {periph : PersistentPeripheral} {peerId : Text}

theorem waiting_of_lookup (found : periph.peers.lookup peerId = some chars) :
    periph.waiting peerId = chars.responses := by
  rw [waiting, found]

theorem waiting_insert {peers : AList fun _ : Text => PeerCharSet}
    {application : Option (List Service)} : waiting ⟨peers.insert named chars, application⟩ peerId =
      if peerId = named then chars.responses else waiting ⟨peers, application⟩ peerId := by
  split_ifs with own
  · subst own
    exact waiting_of_lookup (AList.lookup_insert _)
  · simp only [waiting, AList.lookup_insert_ne own]

theorem waiting_updatePeer_subset {change : PeerCharSet → PeerCharSet}
    (shrinks :
      ∀ chars, periph.peers.lookup named = some chars →
        (change chars).responses ⊆ chars.responses) :
    (periph.updatePeer named change).waiting peerId ⊆ periph.waiting peerId := by
  unfold updatePeer
  split
  · exact Subset.refl _
  · rename_i chars found
    rw [waiting_insert]
    split_ifs with own
    · subst own
      rw [waiting_of_lookup found]
      exact shrinks _ found
    · exact Subset.refl _

variable {expand : SessionHkdf}

theorem waiting_registerPeer_subset {bondKey : BondKey} {served : Except Text Unit} :
    (registerPeer expand periph named bondKey served).1.waiting peerId ⊆
      periph.waiting peerId := by
  cases served with
  | error error => exact Subset.refl _
  | ok _ =>
    simp only [registerPeer, buildAndRegisterPeer]
    rw [waiting_insert]
    split_ifs
    · exact nil_subset _
    · exact Subset.refl _

theorem waiting_rebuildPeerRegistration_subset {named : Text} {served : Except Text Unit} :
    (periph.rebuildPeerRegistration expand named served).1.waiting
        peerId ⊆
      periph.waiting peerId := by
  unfold rebuildPeerRegistration
  split
  · exact Subset.refl _
  · rename_i entry found
    refine Subset.trans waiting_registerPeer_subset ?_
    rw [waiting_insert]
    split_ifs with own
    · subst own
      rw [waiting_of_lookup found]
      exact Subset.refl _
    · exact Subset.refl _

/-- No call puts anything into the channel of a peer. -/
theorem waiting_step_subset {call : Call} :
    (periph.step expand call).waiting peerId ⊆ periph.waiting peerId := by
  cases call with
  | addPeer named bondKey served =>
    simp only [step, call, addPeer]
    split_ifs
    · exact Subset.refl _
    · exact waiting_registerPeer_subset
  | removePeer named =>
    simp only [step, call, removePeer]
    split_ifs
    · by_cases own : peerId = named
      · subst own
        simp only [waiting, AList.lookup_erase]
        exact nil_subset _
      · simp only [waiting, AList.lookup_erase_ne own]
        exact Subset.refl _
    · exact Subset.refl _
  | rebuildPeerRegistration named served => exact waiting_rebuildPeerRegistration_subset

/-- Nor does any step of a notification; the first one empties it. -/
theorem waiting_notifyStep {radio : Radio} {stage : NotifyStage} {resp : Bytes}
    (present : resp ∈ (notifyStep expand periph peerId radio stage).1.waiting peerId) :
    stage ≠ .entered ∧ resp ∈ periph.waiting peerId := by
  cases found : periph.peers.lookup peerId with
  | none =>
    simp only [notifyStep, found, waiting] at present
    cases present
  | some chars =>
    cases stage with
    | entered =>
      simp only [notifyStep, found, updatePeer] at present
      rw [waiting_insert, if_pos rfl] at present
      cases present
    | drained =>
      refine ⟨nofun, ?_⟩
      simp only [notifyStep, found] at present
      split at present
      · exact present
      · refine waiting_updatePeer_subset ?_ present
        exact fun _ _ => Subset.refl _
      · exact present
    | rebuilding =>
      refine ⟨nofun, ?_⟩
      simp only [notifyStep, found] at present
      apply @waiting_rebuildPeerRegistration_subset _ _ _ _ _
      split at present
      · rename_i rebuilt
        rw [rebuilt]
        exact present
      · rename_i rebuilt
        rw [rebuilt]
        exact present
    | awaiting | retrying =>
      refine ⟨nofun, ?_⟩
      simp only [notifyStep, found] at present
      split at present <;> exact present

end PersistentPeripheral

/-- The serving task puts one response into the channel, at most. -/
theorem PeerCharSet.serve_responses :
    chars.serve.responses = chars.responses ++ chars.nextResponse.toList := by
  unfold serve nextResponse
  split
  · split
    · split_ifs <;> simp
    · simp
  · simp

/-! ## Sound states -/

namespace ChallengeLine

variable {SigningKey : Type} {crypto : Crypto SigningKey}
  {secret : SigningKey} {peerId : Text} {expand : SessionHkdf}
  {line : ChallengeLine}

/-- Every entry of the peer has the key of the phone. -/
def Owned (crypto : Crypto SigningKey) (secret : SigningKey)
    (peerId : Text) (orch : Orchestrator) : Prop :=
  ∀ entry, (peerId, entry) ∈ orch.entries → entry.phonePubkey = some (crypto.verifyingKey secret)

/-- The task keeps its contract, and was not misled. -/
structure Candid (crypto : Crypto SigningKey) (secret : SigningKey)
    (peerId : Text) (task : ChallengeTask) : Prop where
  keeps : Keeps (Paced peerId) (Sincere crypto secret) task.past task.program
  candid : ¬ Misled crypto secret task.past

/-- What waits in the channel answers the frame of the task. -/
def Matched (crypto : Crypto SigningKey) (secret : SigningKey)
    (waiting : List Bytes) (task : ChallengeTask) : Prop :=
  ∀ frame ∈ task.frame?, ∀ resp ∈ waiting, resp = answerTo crypto secret frame

/-- The invariant of the careful runs. -/
structure Sound (crypto : Crypto SigningKey) (secret : SigningKey)
    (peerId : Text) (line : ChallengeLine) : Prop where
  owned : Owned crypto secret peerId line.orchestrator
  candid : ∀ task ∈ line.tasks, Candid crypto secret peerId task
  matched : ∀ task ∈ line.tasks, Matched crypto secret (line.peripheral.waiting peerId) task

variable {task : ChallengeTask} {question : DaemonQuestion} {after : ChallengeLine}

theorem Matched.mono {fewer waiting : List Bytes} (matched : Matched crypto secret waiting task)
    (subset : fewer ⊆ waiting) : Matched crypto secret fewer task :=
  fun _ known _ present => matched _ known _ (subset present)

variable {next : DaemonAnswer question → DaemonM ChallengeOutcome} {answer : DaemonAnswer question}

variable {frame : Bytes}

/-- A task that has just gone on waits for nothing but its notification. -/
theorem frame?_proceed (exposed : (task.proceed question next answer).frame? = some frame) :
    ∃ named, (⟨question, answer⟩ : DaemonTurn) = ⟨.notifyChallenge named frame, .ok ()⟩ := by
  unfold ChallengeTask.frame? ChallengeTask.proceed at exposed
  split at exposed
  · rw [if_pos rfl] at exposed
    cases exposed
  · rw [getLast?_concat] at exposed
    split at exposed
    · rename_i named other same
      cases exposed
      exact ⟨named, some.inj same⟩
    · cases exposed
  · cases exposed

theorem matched_proceed {waiting : List Bytes}
    (elsewhere : ∀ named frame, question ≠ .notifyChallenge named frame) :
    Matched crypto secret waiting (task.proceed question next answer) := by
  intro frame exposed
  obtain ⟨named, turn⟩ := frame?_proceed exposed
  exact (elsewhere _ _ (congrArg Sigma.fst turn)).elim

/-- A task goes on soundly if it is told the key and given its answer. -/
theorem Candid.proceed (candid : Candid crypto secret peerId task)
    (asks : task.program = .ask question next)
    (told :
      ∀ asked peerState,
        (⟨question, answer⟩ : DaemonTurn) = ⟨.lookupPeer asked, some peerState⟩ →
          peerState.phonePubkey = crypto.verifyingKey secret)
    (given :
      ∀ asked frame waited deadlineMs resp,
        [⟨.notifyChallenge asked frame, .ok ()⟩] <:+ task.past →
          (⟨question, answer⟩ : DaemonTurn) = ⟨.waitForResponse waited deadlineMs, .ok resp⟩ →
            resp = answerTo crypto secret frame) :
    Candid crypto secret peerId (task.proceed question next answer) where
  keeps := by
    have keeps := candid.keeps
    rw [asks] at keeps
    exact keeps.next _
  candid := not_misled_snoc candid.candid told given

/-! ## Steps of a task -/

theorem Owned.update {orch : Orchestrator}
    (owned : Owned crypto secret peerId orch) {change : Nat → PeerEntry → PeerEntry}
    (sameKeys : ∀ i entry,
      (change i entry).phonePubkey = entry.phonePubkey ∧ (change i entry).bondKey = entry.bondKey) :
    Owned crypto secret peerId (orch.update change) := by
  intro entry mem
  obtain ⟨i, inside, changed⟩ := mem_mapIdx.mp mem
  cases named : orch.entries[i] with
  | mk name old =>
    rw [named] at changed
    obtain ⟨rfl, rfl⟩ := Prod.mk.inj changed
    rw [(sameKeys i _).1]
    exact owned _ (named ▸ getElem_mem _)

theorem Owned.lookupPeer {orch : Orchestrator}
    (owned : Owned crypto secret peerId orch) (found : orch.lookupPeer peerId = some peerState) :
    peerState.phonePubkey = crypto.verifyingKey secret := by
  obtain ⟨entry, named, keyed, -⟩ := lookupPeer_registered found
  have same := owned _ (mem_of_getElem? named)
  exact some.inj (keyed.symm.trans same)

/-- What one step of a task comes to. -/
structure Moved (crypto : Crypto SigningKey) (secret : SigningKey)
    (peerId : Text) (line after : ChallengeLine) (moved : ChallengeTask) : Prop where
  owned : Owned crypto secret peerId after.orchestrator
  fewer : after.peripheral.waiting peerId ⊆ line.peripheral.waiting peerId
  candid : Candid crypto secret peerId moved
  matched : Matched crypto secret (after.peripheral.waiting peerId) moved

theorem Sound.moveTask (sound : line.Sound crypto secret peerId) {i : Nat}
    {move : ChallengeTask → Option (ChallengeLine × ChallengeTask)}
    (moves :
      ∀ task after moved, task ∈ line.tasks → task.running = true →
        move task = some (after, moved) → Moved crypto secret peerId line after moved) :
    (line.moveTask i move).Sound crypto secret peerId := by
  unfold ChallengeLine.moveTask
  split
  · exact sound
  · rename_i task found
    have present := mem_of_getElem? found
    split_ifs with running
    · split
      · exact sound
      · rename_i after moved made
        have step := moves _ _ _ present running made
        refine ⟨step.owned, ?_, ?_⟩
        · intro other mem
          rcases mem_or_eq_of_mem_set mem with old | rfl
          · exact sound.candid _ old
          · exact step.candid
        · intro other mem
          rcases mem_or_eq_of_mem_set mem with old | rfl
          · exact (sound.matched _ old).mono step.fewer
          · exact step.matched
    · exact sound

theorem moved_answerTask (sound : line.Sound crypto secret peerId) {i : Nat}
    {choice : Oracle DaemonAnswer} {task moved : ChallengeTask}
    (mem : task ∈ line.tasks) (made : line.answerTask i choice task = some (after, moved)) :
    Moved crypto secret peerId line after moved := by
  have candid := sound.candid _ mem
  unfold ChallengeLine.answerTask at made
  split at made
  · cases made
  · cases made
  · cases made
  · rename_i question next notNotify notWait asks
    obtain ⟨⟨orch, answer⟩, answered, same⟩ := map_eq_some_iff.mp made
    cases same
    obtain ⟨change, changes, entries⟩ := answer_entries answered
    have asked := candid.keeps
    rw [asks] at asked
    refine ⟨?_, Subset.refl _, ?_, ?_⟩
    · intro entry present
      rw [entries] at present
      exact sound.owned.update (fun i old => (changes i _).1) _ present
    · refine candid.proceed asks ?_ ?_
      · intro named peerState same
        cases same
        obtain rfl : named = peerId := asked.1
        exact sound.owned.lookupPeer (congrArg Prod.snd (some.inj answered))
      · intro named frame waited deadlineMs resp _ same
        cases same
        exact (notWait _ _ next rfl .rfl).elim
    · apply matched_proceed
      rintro named frame rfl
      exact notNotify _ _ next rfl .rfl

/-- The peripheral answers a question that is put to it. -/
theorem moved_proceed (sound : line.Sound crypto secret peerId) (mem : task ∈ line.tasks)
    (asks : task.program = .ask question next) (same : after.orchestrator = line.orchestrator)
    (fewer : after.peripheral.waiting peerId ⊆ line.peripheral.waiting peerId)
    (unlooked : ∀ asked, question ≠ .lookupPeer asked)
    (given :
      ∀ asked frame waited deadlineMs resp,
        [⟨.notifyChallenge asked frame, .ok ()⟩] <:+ task.past →
          (⟨question, answer⟩ : DaemonTurn) = ⟨.waitForResponse waited deadlineMs, .ok resp⟩ →
            resp = answerTo crypto secret frame)
    (matched :
      ∀ named frame,
        (⟨question, answer⟩ : DaemonTurn) = ⟨.notifyChallenge named frame, .ok ()⟩ →
          ∀ resp ∈ after.peripheral.waiting peerId, resp = answerTo crypto secret frame) :
    Moved crypto secret peerId line after (task.proceed question next answer) where
  owned := by
    rw [same]
    exact sound.owned
  fewer := fewer
  candid := by
    refine (sound.candid _ mem).proceed asks ?_ given
    intro asked peerState told
    exact (unlooked _ (congrArg Sigma.fst told)).elim
  matched := by
    intro frame exposed
    obtain ⟨named, turn⟩ := frame?_proceed exposed
    exact matched _ _ turn

/-- A task that has begun to notify its frame, or waits for its response. -/
theorem frame?_notify
    {next : DaemonAnswer (.notifyChallenge named frame) → DaemonM ChallengeOutcome}
    (running : task.running = true) (asks : task.program = .ask (.notifyChallenge named frame) next)
    (begun : task.stage ≠ .entered) : task.frame? = some frame := by
  unfold ChallengeTask.frame?
  rw [running, asks]
  exact if_neg begun

theorem frame?_wait {waited asked : Text}
    {next : DaemonAnswer (.waitForResponse waited deadlineMs) → DaemonM ChallengeOutcome}
    (running : task.running = true)
    (asks : task.program = .ask (.waitForResponse waited deadlineMs) next)
    (last : [⟨.notifyChallenge asked frame, .ok ()⟩] <:+ task.past) : task.frame? = some frame := by
  obtain ⟨earlier, same⟩ := last
  unfold ChallengeTask.frame?
  rw [running, asks]
  rw [← same, getLast?_concat]

section

variable (sound : line.Sound crypto secret peerId)
include sound

variable {task moved : ChallengeTask}

theorem moved_notifyTask {radio : Radio} (mem : task ∈ line.tasks) (running : task.running = true)
    (made : line.notifyTask expand radio task = some (after, moved)) :
    Moved crypto secret peerId line after moved := by
  have candid := sound.candid _ mem
  unfold ChallengeLine.notifyTask at made
  split at made
  · rename_i named frame next asks
    have asked := candid.keeps
    rw [asks] at asked
    obtain rfl : named = peerId := asked.1
    have answers {resp : Bytes}
        (present :
          resp ∈ (notifyStep expand line.peripheral named radio task.stage).1.waiting named) :
        resp = answerTo crypto secret frame := by
      obtain ⟨begun, earlier⟩ := waiting_notifyStep present
      exact sound.matched _ mem _ (frame?_notify running asks begun) _ earlier
    have fewer :
        (notifyStep expand line.peripheral named radio
            task.stage).1.waiting named ⊆
          line.peripheral.waiting named :=
      fun resp present => (waiting_notifyStep present).2
    split at made
    · rename_i periph stage stepped
      rw [stepped] at answers fewer
      cases made
      refine ⟨sound.owned, fewer, ⟨?_, candid.candid⟩, ?_⟩
      · exact candid.keeps
      · intro other exposed resp present
        obtain rfl : frame = other := by
          unfold ChallengeTask.frame? at exposed
          rw [running, asks] at exposed
          split_ifs at exposed
          · cases exposed
          · exact some.inj exposed
        exact answers present
    · rename_i periph stepped
      rw [stepped] at answers fewer
      cases made
      refine moved_proceed sound mem asks rfl fewer nofun nofun ?_
      rintro _ _ ⟨⟩ resp present
      exact answers present
    · rename_i periph error stepped
      rw [stepped] at fewer
      cases made
      exact moved_proceed sound mem asks rfl fewer nofun nofun nofun
  · cases made

theorem moved_respondTask (mem : task ∈ line.tasks) (running : task.running = true)
    (made : line.respondTask task = some (after, moved)) :
    Moved crypto secret peerId line after moved := by
  unfold ChallengeLine.respondTask at made
  split at made
  · rename_i named deadlineMs next asks
    have asked := (sound.candid _ mem).keeps
    rw [asks] at asked
    obtain rfl : named = peerId := asked.1.1
    split at made
    · cases made
      exact moved_proceed sound mem asks rfl (Subset.refl _) nofun nofun nofun
    · rename_i chars found
      split at made
      · cases made
      · rename_i resp rest queue
        cases made
        have waiting := waiting_of_lookup found
        refine moved_proceed sound mem asks rfl ?_ nofun ?_ nofun
        · apply waiting_updatePeer_subset
          intro other same
          obtain rfl := some.inj (found.symm.trans same)
          rw [queue]
          exact subset_cons_self _ _
        · intro named frame waited deadlineMs' response' last same
          cases same
          apply sound.matched _ mem _ (frame?_wait running asks last)
          rw [waiting, queue]
          exact mem_cons_self
  · cases made

theorem moved_expireTask (mem : task ∈ line.tasks)
    (made : line.expireTask task = some (after, moved)) :
    Moved crypto secret peerId line after moved := by
  unfold ChallengeLine.expireTask at made
  split at made
  · rename_i named deadlineMs next asks
    cases made
    exact moved_proceed sound mem asks rfl (Subset.refl _) nofun nofun nofun
  · cases made

theorem moved_cancelTask (mem : task ∈ line.tasks)
    (made : line.cancelTask task = some (after, moved)) :
    Moved crypto secret peerId line after moved := by
  unfold ChallengeLine.cancelTask at made
  split at made
  · rename_i named frame next asks
    cases made
    exact moved_proceed sound mem asks rfl (Subset.refl _) nofun nofun nofun
  · rename_i named deadlineMs next asks
    cases made
    exact moved_proceed sound mem asks rfl (Subset.refl _) nofun nofun nofun
  · cases made

/-! ## Steps of the system -/

theorem Sound.changePeer {change : PeerCharSet → PeerCharSet}
    (unchanged : ∀ chars, (change chars).responses = chars.responses) :
    (line.changePeer peerId change).Sound crypto secret peerId where
  owned := sound.owned
  candid := sound.candid
  matched := by
    intro task mem
    apply (sound.matched _ mem).mono
    apply waiting_updatePeer_subset
    intro chars _
    rw [unchanged]
    exact Subset.refl _

/-- The serving task puts a response into the channel in time. -/
theorem Sound.serve (timely : line.Timely crypto secret peerId .served) :
    (line.changePeer peerId PeerCharSet.serve).Sound crypto secret peerId where
  owned := sound.owned
  candid := sound.candid
  matched := by
    intro task mem frame exposed resp present
    simp only [ChallengeLine.changePeer, updatePeer] at present
    split at present
    · exact sound.matched _ mem _ exposed _ present
    · rename_i chars found
      rw [waiting_insert, if_pos rfl, PeerCharSet.serve_responses] at present
      rcases mem_append.mp present with earlier | new
      · apply sound.matched _ mem _ exposed _
        rw [waiting_of_lookup found]
        exact earlier
      · exact timely _ found _ (mem_toList.mp new) _ mem _ exposed

end

theorem Sound.issue (accepts : crypto.AcceptsOwn)
    (sound : line.Sound crypto secret peerId) (deadlineMs : Nat) :
    (line.step expand crypto secret peerId (.issued deadlineMs)).Sound crypto secret peerId := by
  refine ⟨sound.owned, ?_, ?_⟩
  · intro task mem
    rcases mem_append.mp mem with old | new
    · exact sound.candid _ old
    · rw [mem_singleton.mp new]
      refine ⟨issueChallengeCancellable_sincere accepts, ?_⟩
      rintro (⟨_, _, told, _⟩ | ⟨_, _, _, _, _, given, _⟩)
      · cases told
      · cases infix_nil.mp given
  · intro task mem
    rcases mem_append.mp mem with old | new
    · exact sound.matched _ old
    · rw [mem_singleton.mp new]
      exact nofun

theorem Sound.drop (sound : line.Sound crypto secret peerId) (i : Nat) :
    (line.step expand crypto secret peerId (.dropped i)).Sound crypto secret peerId := by
  refine ⟨sound.owned.update ?_, ?_, ?_⟩
  · intro i entry
    split_ifs <;> exact ⟨rfl, rfl⟩
  · intro task mem
    rcases exists_mem_of_mem_modify mem with old | ⟨before, old, rfl⟩
    · exact sound.candid _ old
    · have candid := sound.candid _ old
      exact ⟨candid.keeps, candid.candid⟩
  · intro task mem
    rcases exists_mem_of_mem_modify mem with old | ⟨before, old, rfl⟩
    · exact sound.matched _ old
    · exact nofun

theorem Sound.step (accepts : crypto.AcceptsOwn) (sound : line.Sound crypto secret peerId)
    {ev : Event} (timely : line.Timely crypto secret peerId ev) :
    (line.step expand crypto secret peerId ev).Sound crypto secret peerId := by
  cases ev with
  | issued deadlineMs => exact sound.issue accepts _
  | answered i choice => exact sound.moveTask fun _ _ _ mem _ => moved_answerTask sound mem
  | notified i radio =>
    exact sound.moveTask fun _ _ _ mem running => moved_notifyTask sound mem running
  | responded i => exact sound.moveTask fun _ _ _ mem running => moved_respondTask sound mem running
  | timedOut i => exact sound.moveTask fun _ _ _ mem _ => moved_expireTask sound mem
  | cancelled i => exact sound.moveTask fun _ _ _ mem _ => moved_cancelTask sound mem
  | dropped i => exact sound.drop i
  | phoneAnswered pos =>
    simp only [ChallengeLine.step]
    split
    · exact sound
    · have kept :
          Sound crypto secret peerId { line with received := line.received.eraseIdx pos } :=
        ⟨sound.owned, sound.candid, sound.matched⟩
      exact kept.changePeer fun _ => rfl
  | phoneWrote bytes =>
    simp only [ChallengeLine.step]
    split
    · exact sound
    · exact sound.changePeer fun _ => rfl
  | served => exact sound.serve timely
  | subscribed | unsubscribed => exact sound.changePeer fun _ => rfl
  | peripheralCalled call =>
    refine ⟨sound.owned, sound.candid, ?_⟩
    intro task mem
    exact (sound.matched _ mem).mono waiting_step_subset
  | peerAdded key =>
    refine ⟨?_, sound.candid, sound.matched⟩
    intro entry mem
    rcases mem_append.mp mem with old | new
    · exact sound.owned _ old
    · cases mem_singleton.mp new
      rfl
  | peerRemoved => exact ⟨sound.owned, sound.candid, sound.matched⟩

theorem Sound.noBadSignature (sound : line.Sound crypto secret peerId) : line.NoBadSignature := by
  intro task mem ended
  have candid := sound.candid _ mem
  have keeps := candid.keeps
  rw [eq_done_of_result? ended] at keeps
  exact candid.candid (keeps rfl)

/-- Any state without a challenge, where the phone's key is the peer's. -/
structure Idle (crypto : Crypto SigningKey) (secret : SigningKey)
    (peerId : Text) (line : ChallengeLine) : Prop where
  owned : Owned crypto secret peerId line.orchestrator
  unasked : line.tasks = []

/--
If no response comes into the channel between the emptying for a challenge and
the response to it, other than the answer to that challenge, no challenge ends
as a bad signature.
-/
theorem noBadSignature_of_timely (accepts : crypto.AcceptsOwn)
    (idle : line.Idle crypto secret peerId) {events : List Event}
    (timely : Along (step expand crypto secret peerId) (Timely crypto secret peerId) line events) :
    Throughout (step expand crypto secret peerId) NoBadSignature line events := by
  have initial : line.Sound crypto secret peerId := by
    refine ⟨idle.owned, ?_, ?_⟩ <;> rw [idle.unasked] <;> exact nofun
  have sound :
      Throughout (step expand crypto secret peerId) (Sound crypto secret peerId) line events :=
    throughout_of_along (fun _ _ met held => held.step accepts met) initial timely
  exact sound.imp fun _ held => held.noBadSignature

/-! ## A late answer -/

def vacant : ChallengeLine where
  orchestrator := .vacant
  peripheral := .fresh
  received := []
  tasks := []

def drawing (nonce : Nonce) : Oracle DaemonAnswer
  | .random => .ok nonce
  | question => sampleTaskChoice question

def openRadio : Radio where
  written := .ok ()
  served := .ok ()
  expired := false

def phoneReady : List Event :=
  [.peerAdded (.replicate 32 5),
    .peripheralCalled (.addPeer samplePeer (.replicate 32 5) (.ok ())), .subscribed]

def challenged (i : Nat) (nonce : Nonce) : List Event :=
  [.issued 20000] ++ List.replicate 6 (.answered i (drawing nonce))

/-- The channel is emptied, and the frame written. -/
def notifies (i : Nat) : List Event := List.replicate 2 (.notified i openRadio)

def concludes (i count : Nat) : List Event := List.replicate count (.answered i sampleTaskChoice)

def firstTimedOut : List Event :=
  phoneReady ++ challenged 0 (.replicate 16 3) ++ notifies 0 ++ [.timedOut 0] ++ concludes 0 3

/-- The late answer comes when the second challenge has emptied the channel. -/
def answeredLate : List Event :=
  firstTimedOut ++ challenged 1 (.replicate 16 4) ++ notifies 1 ++
    [.phoneAnswered 0, .served, .responded 1] ++ concludes 1 3

/-- The late answer comes before, and the second challenge is answered. -/
def answeredEarly : List Event :=
  firstTimedOut ++ [.phoneAnswered 0, .served] ++
    challenged 1 (.replicate 16 4) ++ notifies 1 ++
    [.phoneAnswered 0, .served, .responded 1] ++ concludes 1 4

def outcomes (events : List Event) : List (Option ChallengeOutcome) :=
  (run
    (step PersistentPeripheral.sampleHkdf sampleCrypto Phone.sampleKey samplePeer)
    vacant events).tasks.map (·.program.result?)

/-- The second challenge takes the answer to the first. -/
theorem late_answer_badSignature :
    outcomes answeredLate = [some .timedOut, some .badSignature] := by
  decide +kernel

/-- The late answer is thrown away, and the second challenge is accepted. -/
theorem early_answer_accepted :
    Throughout
        (step PersistentPeripheral.sampleHkdf sampleCrypto Phone.sampleKey samplePeer)
        NoBadSignature vacant answeredEarly ∧
      (outcomes answeredEarly).map (·.map (·.isOk)) = [some false, some true] := by
  have idle : vacant.Idle sampleCrypto Phone.sampleKey samplePeer := ⟨nofun, rfl⟩
  refine ⟨noBadSignature_of_timely sampleCrypto_acceptsOwn idle ?_, ?_⟩
  · decide +kernel
  · decide +kernel

end ChallengeLine

end DeskUnlock.Unlock
