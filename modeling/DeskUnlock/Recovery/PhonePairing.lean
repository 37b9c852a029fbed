import DeskUnlock.Pairing.PhoneDriver
import DeskUnlock.Pairing.Register
import DeskUnlock.Recovery.DaemonCustody

/-!
# The phone and the desktop

The phone driver, the pair service and the daemon behind it, in one session of
one attempt.

A read of the register by the phone has two ends: the service is asked, and
later the phone receives what it answered, or nothing.  A write that has gone
out reaches the inbox any number of times, or never, before or after it
returns and whatever the phone is told about it.  Everything else that the
desktop meets meanwhile is an event of the daemon;
what it must not be is a frame with the attempt's identifier, which only this
phone writes, or the opening of another attempt.
-/

namespace DeskUnlock.Recovery

open FilePrograms Texts List
open Pairing Pairing.Phone

/-- The phone, the channel and the daemon. -/
structure Joint where
  /-- What the phone driver still has to do. -/
  phone : PhoneProgram (Except Text Text)
  progress : Progress
  /-- The messages that the phone has written. -/
  sent : List Bytes
  /-- What the service answered to the reads of the phone. -/
  samples : List Bytes
  daemon : Daemon
  /-- The peers that a `Revoke` named after the promotion was asked for. -/
  revoked : List Text

inductive JointEvent where
  /-- A read of the phone reaches the service. -/
  | sampled
  /-- The read returns one of the answers to the phone, or fails. -/
  | read (sample : Option Nat)
  /-- The message of the write that the phone is in goes out. -/
  | issued
  /-- The write returns. -/
  | wrote (reported : Bool)
  | persisted (succeeded : Bool)
  /-- `abortTransaction`. -/
  | aborted (cancel : Bool)
  /-- A message of the phone reaches the inbox. -/
  | delivered (i : Nat)
  | desktop (ev : DaemonEvent)

/-- The event is neither a message of the attempt nor another attempt. -/
def DaemonEvent.foreign (id : TransactionId) : DaemonEvent → Bool
  | .control payload => (frameControlPayload payload).all fun frame => !isMessageOf id frame
  | .opened _ _ _ => false
  | _ => true

namespace Joint

variable (libs : Primitives) (id : TransactionId)

/-- The desktop meets an event. -/
def meet (joint : Joint) (ev : DaemonEvent) : Joint :=
  { joint with
    daemon := joint.daemon.step libs ev
    revoked := joint.revoked ++ if joint.daemon.promotionAsked then ev.revocations else [] }

/-- One step of the phone, the channel or the daemon. -/
def step (joint : Joint) : JointEvent → Joint
  | .sampled =>
    meet libs
      { joint with
        samples := joint.samples ++ [(joint.daemon.session.service.statusSnapshot 0).1] }
      (.read 0)
  | .read sample =>
    match joint.phone with
    | .read next =>
      let reply := sample.bind fun i => joint.samples[i]?
      { joint with phone := next reply, progress := joint.progress.afterRead id reply }
    | _ => joint
  | .issued =>
    match joint.phone with
    | .write bytes _ => { joint with sent := joint.sent ++ [bytes] }
    | _ => joint
  | .wrote reported =>
    match joint.phone with
    | .write _ next => { joint with phone := next reported }
    | _ => joint
  | .persisted succeeded =>
    match joint.phone with
    | .persist next =>
      { joint with phone := next succeeded, progress := joint.progress.afterPersist succeeded }
    | _ => joint
  | .aborted cancel =>
    { joint with sent := joint.sent ++ [message id (if cancel then OP_CANCEL else OP_REJECT)] }
  | .delivered i =>
    match joint.sent[i]? with
    | some payload => joint.meet libs (.control payload)
    | none => joint
  | .desktop ev =>
    if ev.foreign id then joint.meet libs ev else joint

/--
The phone has read the attempt's `Capability`, has answered with its own and
enters `coordinateTransaction`.
-/
def start (pickedName : Text) (stored : Option Bytes) (daemon : Daemon) :
    Joint where
  phone := coordinateTransaction id pickedName stored
  progress := ⟨false, false⟩
  sent := [message id OP_CAPABILITY]
  samples := []
  daemon := daemon
  revoked := []

end Joint

/--
The phone has written only what it may, and knows of the attempt only what the
attempt has done.
-/
structure Joint.Sound (libs : Primitives) (ctx : PairCommitContext) (joint : Joint) : Prop where
  daemon : joint.daemon.Sound libs (· ∈ joint.revoked)
  attributed : joint.daemon.session.Attributed (· ∈ joint.sent)
  phone :
    Safe ctx.transactionId
      (fun progress reply =>
        ∀ name, reply = .ok name → progress.persisted = true ∧ progress.completed = true)
      joint.progress joint.phone
  sent : ∀ bytes ∈ joint.sent, Permitted ctx.transactionId joint.progress bytes
  attempt :
    ∃ attempt,
      joint.daemon.session.attempt = some attempt ∧
        attempt.context = ctx ∧
        (∀ value ∈ joint.samples, ∀ op,
          value = Message.encode ⟨ctx.transactionId, op⟩ → .published op ∈ attempt.history) ∧
        (joint.progress.completed = true → .published .committed ∈ attempt.history)

section

variable {libs : Primitives} {ctx : PairCommitContext} {joint : Joint}

/-- The desktop goes on, with frames that the phone has sent. -/
theorem Joint.Sound.meet (roundTrip : libs.RoundTrip)
    (sound : joint.Sound libs ctx) {ev : DaemonEvent}
    (closed : ∀ phonePubkey addr id, ev ≠ .opened phonePubkey addr id)
    (own :
      ∀ payload, ev = .control payload →
        ∀ frame ∈ frameControlPayload payload,
          isMessageOf ctx.transactionId frame = true → frame ∈ joint.sent) :
    (joint.meet libs ev).Sound libs ctx := by
  obtain ⟨att, running, same, samples, completed⟩ := sound.attempt
  have goesOn : (joint.daemon.step libs ev).session.Attributed (· ∈ joint.sent) ∧
      ∃ later, (joint.daemon.step libs ev).session.attempt =
      some later ∧ later.context = att.context ∧ att.history <+: later.history := by
    rcases joint.daemon.step_session with still | ⟨part, stepped, control, opened⟩
    · rw [still]
      exact ⟨sound.attributed, att, running, rfl, prefix_refl _⟩
    · rw [stepped]
      constructor
      · apply sound.attributed.step
        intro payload reads other ran frame mem msg
        obtain rfl : att = other := Option.some.inj (running.symm.trans ran)
        rw [same] at msg
        exact own _ (control _ reads) _ mem msg
      · apply step_history running
        intro phonePubkey addr id opens
        exact closed _ _ _ (opened _ _ _ opens)
  obtain ⟨attributed, later, runs, kept, grown⟩ := goesOn
  refine ⟨?_, attributed, sound.phone, sound.sent, later, runs, kept.trans same, ?_, ?_⟩
  · apply (sound.daemon.widen fun peerId mem => mem_append_left _ mem).step roundTrip
    intro asked peerId mem
    rw [if_pos asked]
    exact mem_append_right _ mem
  · intro value mem op shows
    exact grown.subset (samples _ mem _ shows)
  · intro finished
    exact grown.subset (completed finished)

theorem Joint.Sound.send (sound : joint.Sound libs ctx) {bytes : Bytes}
    (permitted : Permitted ctx.transactionId joint.progress bytes) :
    Joint.Sound libs ctx { joint with sent := joint.sent ++ [bytes] } := by
  refine ⟨sound.daemon, ?_, sound.phone, ?_, sound.attempt⟩
  · exact sound.attributed.mono fun frame mem => mem_append_left _ mem
  · intro other mem
    rcases mem_append.mp mem with old | new
    · exact sound.sent _ old
    · rw [mem_singleton.mp new]
      exact permitted

theorem Joint.Sound.deliver (roundTrip : libs.RoundTrip)
    (sound : joint.Sound libs ctx) {payload : Bytes} (mem : payload ∈ joint.sent) :
    (joint.meet libs (.control payload)).Sound libs ctx := by
  apply sound.meet roundTrip
  · exact nofun
  · rintro _ ⟨⟩ frame inside _
    obtain ⟨op, rfl, _⟩ := sound.sent _ mem
    rw [frameControlPayload_encode, mem_singleton] at inside
    rw [inside]
    exact mem

theorem Joint.Sound.sample (roundTrip : libs.RoundTrip) (sound : joint.Sound libs ctx) :
    Joint.Sound libs ctx (joint.step libs ctx.transactionId .sampled) := by
  obtain ⟨att, running, same, samples, completed⟩ := sound.attempt
  have sampled :
      Sound libs ctx
        { joint with
          samples := joint.samples ++ [(joint.daemon.session.service.statusSnapshot 0).1] } := by
    refine ⟨sound.daemon, sound.attributed, sound.phone, sound.sent, att,
        running, same, ?_, completed⟩
    intro value mem op shows
    rcases mem_append.mp mem with old | new
    · exact samples _ old _ shows
    · apply sound.attributed.published _ running
      rw [same, ← shows, mem_singleton.mp new]
      rfl
  apply sampled.meet roundTrip
  · exact nofun
  · exact nofun

theorem Joint.Sound.read (sound : joint.Sound libs ctx)
    {next : Option Bytes → PhoneProgram (Except Text Text)} (reading : joint.phone = .read next)
    {reply : Option Bytes} (sampled : ∀ bytes, reply = some bytes → bytes ∈ joint.samples) :
    Joint.Sound libs ctx
      { joint with
        phone := next reply, progress := joint.progress.afterRead ctx.transactionId reply } := by
  obtain ⟨att, running, same, samples, completed⟩ := sound.attempt
  have safe := sound.phone
  rw [reading] at safe
  refine ⟨sound.daemon, sound.attributed, safe _, sound.sent, att, running, same, samples, ?_⟩
  intro finished
  rcases Bool.or_eq_true_iff.mp finished with before | now
  · exact completed before
  · have shown := of_decide_eq_true now
    exact samples _ (sampled _ shown) .committed rfl

theorem Joint.Sound.persist (sound : joint.Sound libs ctx)
    {next : Bool → PhoneProgram (Except Text Text)}
    (persisting : joint.phone = .persist next) (succeeded : Bool) :
    Joint.Sound libs ctx
      { joint with
        phone := next succeeded, progress := joint.progress.afterPersist succeeded } := by
  have safe := sound.phone
  rw [persisting] at safe
  refine ⟨sound.daemon, sound.attributed, safe _, ?_, sound.attempt⟩
  intro bytes mem
  obtain ⟨op, encoded, proper, acknowledging⟩ := sound.sent _ mem
  refine ⟨op, encoded, proper, fun acknowledges => ?_⟩
  exact Bool.or_eq_true_iff.mpr (.inl (acknowledging acknowledges))

theorem Joint.Sound.step (roundTrip : libs.RoundTrip) (sound : joint.Sound libs ctx)
    (ev : JointEvent) : (joint.step libs ctx.transactionId ev).Sound libs ctx := by
  cases ev with
  | sampled => exact sound.sample roundTrip
  | read sample =>
    unfold Joint.step
    dsimp only
    split
    · rename_i next reading
      apply sound.read reading
      intro bytes found
      obtain ⟨i, _, inside⟩ := Option.bind_eq_some_iff.mp found
      exact mem_of_getElem? inside
    · exact sound
  | issued =>
    unfold Joint.step
    dsimp only
    split
    · rename_i bytes next writing
      have safe := sound.phone
      rw [writing] at safe
      exact sound.send safe.1
    · exact sound
  | wrote reported =>
    unfold Joint.step
    dsimp only
    split
    · rename_i bytes next writing
      have safe := sound.phone
      rw [writing] at safe
      exact ⟨sound.daemon, sound.attributed, safe.2 _, sound.sent, sound.attempt⟩
    · exact sound
  | persisted succeeded =>
    unfold Joint.step
    dsimp only
    split
    · rename_i next persisting
      exact sound.persist persisting _
    · exact sound
  | aborted cancel =>
    apply sound.send
    cases cancel with
    | true => exact ⟨.cancel, rfl, nofun, nofun⟩
    | false => exact ⟨.reject, rfl, nofun, nofun⟩
  | delivered i =>
    unfold Joint.step
    dsimp only
    split
    · rename_i payload found
      exact sound.deliver roundTrip (mem_of_getElem? found)
    · exact sound
  | desktop ev =>
    unfold Joint.step
    dsimp only
    split_ifs with foreign
    · apply sound.meet roundTrip
      · rintro phonePubkey addr id rfl
        cases foreign
      · rintro payload rfl frame mem own
        have apart := all_eq_true.mp foreign _ mem
        rw [own] at apart
        cases apart
    · exact sound

end

def openedContext (daemon : Daemon) (phonePubkey : Pubkey)
    (addr : Address) (id : TransactionId) : PairCommitContext where
  transactionId := id
  hostPubkey := daemon.session.service.hostPubkey
  phonePubkey := phonePubkey
  peer := peerLabel addr.display

def Joint.opened (libs : Primitives) (daemon : Daemon) (phonePubkey : Pubkey)
    (addr : Address) (id : TransactionId) (pickedName : Text) (stored : Option Bytes) : Joint :=
  .start id pickedName stored (daemon.step libs (.opened phonePubkey addr (some id)))

theorem Joint.opened_sound {libs : Primitives} {named : Text → Prop}
    {daemon : Daemon} (sound : daemon.Sound libs named) (idle : daemon.session.idle = true)
    {phonePubkey : Pubkey} {addr : Address} {id : TransactionId} {pickedName : Text}
    {stored : Option Bytes} : Joint.Sound libs (openedContext daemon phonePubkey addr id)
    (.opened libs daemon phonePubkey addr id pickedName stored) := by
  have opens : (daemon.step libs (.opened phonePubkey addr (some id))).session =
        daemon.session.openAttempt phonePubkey addr (some id) :=
    if_pos idle
  have goesOn := sound.begun idle phonePubkey addr (some id) (· ∈ [])
  unfold Joint.opened Joint.start
  refine ⟨goesOn, ?_, coordinateTransaction_safe, ?_, ?_⟩
  · rw [opens]
    exact openAttempt_attributed
  · intro bytes mem
    rw [mem_singleton.mp mem]
    exact ⟨.capability, rfl, nofun, nofun⟩
  · refine ⟨_, congrArg _ opens, rfl, ?_, nofun⟩
    intro value mem
    cases mem

theorem Joint.run_sound {libs : Primitives} (roundTrip : libs.RoundTrip)
    (hostPubkey : Pubkey) (hostName : Bytes) (disk : BondDisk) (earlier : List DaemonEvent)
    {daemon : Daemon}
    (lived : Runs.run (Daemon.step libs) (.start hostPubkey hostName disk) earlier = daemon)
    (idle : daemon.session.idle = true) (phonePubkey : Pubkey) (addr : Address)
    (id : TransactionId) (pickedName : Text) (stored : Option Bytes) (events : List JointEvent) :
    Joint.Sound libs (openedContext daemon phonePubkey addr id)
      (Runs.run (Joint.step libs id)
        (.opened libs daemon phonePubkey addr id pickedName stored) events) := by
  have sound : daemon.Sound libs (fun _ => True) := by
    rw [← lived]
    apply Runs.run_invariant
    · exact fun daemon ev sound => sound.step roundTrip fun _ _ _ => trivial
    · exact Daemon.start_sound _ _ _
  apply Runs.run_invariant
  · exact fun joint ev sound => sound.step roundTrip ev
  · exact opened_sound sound idle

def servedRequest : List DaemonEvent :=
  .received (some "phone".toList) ⟨0, 0⟩ ::
    List.replicate 24 (.called .performed) ++ [.answered, .replied]

/-- A session in which both devices do their part, until the last write of the phone is out. -/
def issuedSession : List JointEvent :=
  let poll : JointEvent := .desktop (.polled false)
  let serve : List JointEvent := servedRequest.map .desktop
  let look (sample : Nat) : List JointEvent := [.sampled, .read (some sample)]
  let tell (i : Nat) : List JointEvent := [.issued, .delivered i, .wrote true, poll]
  [poll, .sampled, .delivered 0, poll, .desktop (.oobAnswered true), poll] ++
  tell 1 ++ serve ++ look 1 ++ tell 2 ++ [poll] ++ look 2 ++ serve ++
  [poll] ++ look 3 ++ [.persisted true] ++ tell 3 ++ [poll] ++ look 4 ++ [.issued]

/-- The same session, until the phone is done. -/
def acceptedSession : List JointEvent := issuedSession ++ [.wrote true]

/-- The desktop takes the last message and promotes the attempt. -/
def promotion : List JointEvent :=
  .delivered 4 :: .desktop (.polled false) :: servedRequest.map .desktop

def pairedAfter (events : List JointEvent) : Joint :=
  Runs.run (Joint.step singleStore (.replicate 16 7))
    (.opened singleStore (.start (.replicate 32 0) [] fun _ => none)
      (.replicate 32 1) (.replicate 6 2) (.replicate 16 7) "desk".toList none)
    events

/-- Another session writes a `Revoke` for the phone. -/
def revocation : List JointEvent :=
  .desktop (.control (Message.encode ⟨.replicate 16 1, .revoke⟩)) :: servedRequest.map .desktop

theorem not_held_of_absent {libs : Primitives} {ctx : PairCommitContext} {disk : BondDisk}
    (journal : content disk .journal = none)
    (key : content disk (.activeKey (peerIdOf libs ctx)) = none) : ¬ Held libs ctx disk := by
  rintro (staged | ⟨_, _, _, _, _, _, keyed⟩)
  · exact nomatch journal.symm.trans staged.journal
  · exact nomatch key.symm.trans keyed

end DeskUnlock.Recovery
