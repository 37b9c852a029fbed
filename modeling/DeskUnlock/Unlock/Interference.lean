import DeskUnlock.Pairing.ControlNotices
import DeskUnlock.Recovery.StoreUpdates
import DeskUnlock.Unlock.ResponseDemux

/-!
# What one phone's writes do to another phone's bond

A phone can ask for a revocation on two characteristics: the response
characteristic of its bonded session (`build_and_register_peer` in
`syauth-transport/src/peripheral.rs`) and `v2-control` (`run_pair_session` in
`syauth-transport/src/pair_engine.rs`).  Both readers hand it to the consumer
of the commit channel, with the peer identifier that stands in the payload and
without the phone that wrote it.

Here the daemon runs twice, side by side.  The two runs differ in nothing but
the bytes that one phone writes.
-/

namespace DeskUnlock.Unlock

open Runs Texts List
open Pairing Recovery

def Routed.revocation? : Routed → Option TransactionId
  | .revoke peerId => some peerId
  | _ => none

inductive HostEvent where
  /--
  The task of the phone's bonded session reads from the response
  characteristic; a read without bytes stands for no write at all.
  -/
  | responseRead (phone : Text) (bytes : Bytes)
  /-- The reader of `v2-control` collects a payload of the phone. -/
  | controlRead (phone : Text) (payload : Bytes)
  | daemon (ev : DaemonEvent)

section

variable (libs : Primitives)

/-- Of a response write, only a revocation reaches the commit channel. -/
def hostStep (daemon : Daemon) : HostEvent → Daemon
  | .responseRead _ bytes =>
    match routeWrite bytes with
    | .revoke peerId => { daemon with session := daemon.session.requestRevocation peerId }
    | _ => daemon
  | .controlRead _ payload => daemon.step libs (.control payload)
  | .daemon ev => daemon.step libs ev

/-- The status of a peer in `bonds.toml`, and whether it has a key file. -/
def standing (peerId : Text) (disk : BondDisk) : Option BondStatus × Bool :=
  ((recordOf libs peerId (disk .bonds)).map Bond.status, (disk (.activeKey peerId)).isSome)

/-- The bond stands alike in both runs. -/
def SameStanding (peerId : Text) (daemons : Daemon × Daemon) : Prop :=
  standing libs peerId daemons.1.disk = standing libs peerId daemons.2.disk

end

/-- Two events that differ at most in the bytes of one phone. -/
inductive Varied (phone : Text) : HostEvent → HostEvent → Prop where
  | same (ev : HostEvent) : Varied phone ev ev
  | response (bytes other : Bytes) :
      Varied phone (.responseRead phone bytes) (.responseRead phone other)
  | control (payload other : Bytes) :
      Varied phone (.controlRead phone payload) (.controlRead phone other)

/--
Corresponding writes ask for the same revocations, bring the running attempt
the same messages, and query the remembered transaction alike.
-/
def Alike (daemons : Daemon × Daemon) (events : HostEvent × HostEvent) :
    Prop :=
  match events with
  | (.responseRead _ bytes, .responseRead _ other) =>
    (routeWrite bytes).revocation? = (routeWrite other).revocation?
  | (.controlRead _ payload, .controlRead _ other) =>
    daemons.1.session.notices payload = daemons.1.session.notices other
  | _ => True

/-- Daemons that differ at most in frames that nobody will take. -/
structure Indistinct (first second : Daemon) : Prop where
  session : first.session.view = second.session.view
  consumer : first.consumer = second.consumer
  reply : first.reply = second.reply
  disk : first.disk = second.disk

theorem Indistinct.refl (daemon : Daemon) : Indistinct daemon daemon := ⟨rfl, rfl, rfl, rfl⟩

variable {first second : Daemon}

section

variable (indistinct : Indistinct first second)
include indistinct

theorem Indistinct.advance (ev : SessionEvent) :
    Indistinct (first.advance ev) (second.advance ev) :=
  ⟨PairSession.view_step indistinct.session, indistinct.consumer, indistinct.reply, indistinct.disk⟩

theorem Indistinct.answer (req : PairCommitRequest) (durable : Bool) :
    Indistinct (first.answer req durable) (second.answer req durable) := by
  unfold Daemon.answer
  split_ifs
  · exact indistinct
  · exact ⟨indistinct.session, indistinct.consumer, rfl, indistinct.disk⟩

theorem Indistinct.withConsumer (consumer : Consumer) :
    Indistinct { first with consumer } { second with consumer } :=
  ⟨indistinct.session, rfl, indistinct.reply, indistinct.disk⟩

theorem Indistinct.commits : first.session.commits = second.session.commits :=
  congrArg (fun view => view.bare.commits) indistinct.session

end

section

variable {libs : Primitives}

theorem Indistinct.step {first second : Daemon} (indistinct : Indistinct first second)
    (ev : DaemonEvent) : Indistinct (first.step libs ev) (second.step libs ev) := by
  cases ev with
  | control payload | read offset
  | opened phonePubkey addr id | polled late
  | oobAnswered accepted | notified => exact indistinct.advance _
  | received displayName now =>
    have taken := indistinct.advance .received
    unfold Daemon.step
    dsimp only
    rw [← indistinct.consumer, ← indistinct.commits]
    split
    · exact taken.withConsumer _
    · exact indistinct
  | called out =>
    unfold Daemon.step
    dsimp only
    rw [← indistinct.consumer, ← indistinct.disk]
    split
    · exact ⟨indistinct.session, rfl, indistinct.reply, rfl⟩
    · exact indistinct
  | answered =>
    unfold Daemon.step
    dsimp only
    rw [← indistinct.consumer]
    split
    · exact (indistinct.withConsumer .idle).answer _ _
    · exact (indistinct.withConsumer .stopped).answer _ _
    · exact (indistinct.withConsumer .idle).answer _ _
    · exact indistinct
  | replied =>
    unfold Daemon.step
    dsimp only
    rw [← indistinct.reply]
    split
    · rename_i durable _
      have resumed := indistinct.advance (.resumed (.reply durable))
      exact ⟨resumed.session, resumed.consumer, rfl, resumed.disk⟩
    · exact indistinct
  | dropped =>
    have taken := indistinct.advance .received
    unfold Daemon.step
    dsimp only
    rw [← indistinct.consumer, ← indistinct.commits]
    split
    · exact taken.answer _ _
    · exact indistinct

theorem Indistinct.requestRevocation (indistinct : Indistinct first second)
    (peerId : TransactionId) :
    Indistinct
      { first with session := first.session.requestRevocation peerId }
      { second with session := second.session.requestRevocation peerId } := by
  refine ⟨?_, indistinct.consumer, indistinct.reply, indistinct.disk⟩
  rw [PairSession.view_requestRevocation, PairSession.view_requestRevocation, indistinct.session]

theorem hostStep_responseRead {daemon : Daemon} {phone : Text} {bytes : Bytes} :
    hostStep libs daemon (.responseRead phone bytes) =
      (routeWrite bytes).revocation?.elim daemon fun peerId =>
        { daemon with session := daemon.session.requestRevocation peerId } := by
  unfold hostStep
  dsimp only
  cases routeWrite bytes <;> rfl

theorem Indistinct.responseRead (indistinct : Indistinct first second)
    (phone : Text) {bytes other : Bytes}
    (alike : (routeWrite bytes).revocation? = (routeWrite other).revocation?) :
    Indistinct
      (hostStep libs first (.responseRead phone bytes))
      (hostStep libs second (.responseRead phone other)) := by
  rw [hostStep_responseRead, hostStep_responseRead, ← alike]
  cases (routeWrite bytes).revocation? with
  | none => exact indistinct
  | some peerId => exact indistinct.requestRevocation _

theorem Indistinct.controlRead (indistinct : Indistinct first second) (phone : Text)
    {payload other : Bytes} (alike : first.session.notices payload = first.session.notices other) :
    Indistinct (hostStep libs first (.controlRead phone payload))
    (hostStep libs second (.controlRead phone other)) :=
  ⟨PairSession.view_control indistinct.session alike,
    indistinct.consumer, indistinct.reply, indistinct.disk⟩

/-- Events that differ in nothing to the daemon keep both runs together. -/
theorem Indistinct.hostStep {phone : Text} (indistinct : Indistinct first second)
    {ev other : HostEvent} (varied : Varied phone ev other)
    (alike : Alike (first, second) (ev, other)) :
    Indistinct (hostStep libs first ev) (hostStep libs second other) := by
  cases varied with
  | same =>
    cases ev with
    | responseRead writer bytes => exact indistinct.responseRead _ rfl
    | controlRead writer payload => exact indistinct.controlRead _ rfl
    | daemon ev => exact indistinct.step _
  | response bytes other => exact indistinct.responseRead _ alike
  | control payload other => exact indistinct.controlRead _ alike

/--
What one phone writes changes neither the status nor the key of another peer,
as long as it says the same to the daemon in both runs.
-/
theorem sameStanding_of_alike (start : Daemon) (phone peerId : Text)
    {events : List (HostEvent × HostEvent)} (varied : ∀ pair ∈ events, Varied phone pair.1 pair.2)
    (alike : Along (paired (Unlock.hostStep libs)) Alike (start, start) events) :
    Throughout (paired (Unlock.hostStep libs))
      (SameStanding libs peerId) (start, start) events := by
  have together : Throughout (paired (hostStep libs))
      (fun daemons => Indistinct daemons.1 daemons.2) (start, start) events := by
    refine throughout_of_along ?_ (.refl _) (alike.and_mem varied)
    rintro ⟨first, second⟩ ⟨ev, other⟩ ⟨varied, alike⟩ indistinct
    exact indistinct.hostStep varied alike
  refine together.imp ?_
  rintro ⟨first, second⟩ indistinct
  exact congrArg (standing _ _) indistinct.disk

end

/-- Two bonded phones, each with a key file. -/
def keyedDisk : BondDisk
  | .bondDir => some (.directory BOND_DIR_MODE)
  | .keysDir => some (.directory BOND_DIR_MODE)
  | .bonds => some (bondsNode [1, 2])
  | .activeKey _ => some (.file (List.replicate 32 7) BOND_FILE_MODE)
  | _ => none

def keyedDaemon : Daemon := .start (.replicate 32 9) [] keyedDisk

def revokesSecond : Bytes := Message.encode ⟨.replicate 16 2, .revoke⟩

def served : List (HostEvent × HostEvent) :=
  (DaemonEvent.received none ⟨0, 0⟩ ::
    List.replicate 4 (.called .performed)).map fun ev => (.daemon ev, .daemon ev)

theorem served_varied {phone : Text} : ∀ pair ∈ served, Varied phone pair.1 pair.2 := by
  intro pair mem
  obtain ⟨ev, -, rfl⟩ := mem_map.mp mem
  exact .same _

/-- The first phone names the second in one run, and is silent in the other. -/
def crossWrites : List (HostEvent × HostEvent) :=
  [(.responseRead firstPeer revokesSecond, .responseRead firstPeer PRESENCE_HEARTBEAT),
    (.controlRead firstPeer revokesSecond, .controlRead firstPeer [])]

def afterServed (writes : HostEvent × HostEvent) : Daemon × Daemon :=
  run (paired (hostStep pairedPrimitives)) (keyedDaemon, keyedDaemon) (writes :: served)

/--
On either characteristic, the first phone revokes the bond of the second and
removes its key.
-/
theorem other_bond_revoked :
    standing pairedPrimitives firstPeer keyedDisk = (some .bonded, true) ∧
      ∀ writes ∈ crossWrites,
        (∀ pair ∈ writes :: served, Varied firstPeer pair.1 pair.2) ∧
          standing pairedPrimitives secondPeer
              (afterServed writes).1.disk =
            (some byPhone, false) ∧
          standing pairedPrimitives secondPeer
              (afterServed writes).2.disk =
            (some .bonded, true) := by
  have ends : ∀ writes ∈ crossWrites,
      standing pairedPrimitives secondPeer (afterServed writes).1.disk = (some byPhone, false) ∧
      standing pairedPrimitives secondPeer (afterServed writes).2.disk = (some .bonded, true) := by
    decide +kernel
  refine ⟨by decide +kernel, ?_⟩
  intro writes mem
  refine ⟨?_, ends _ mem⟩
  rw [forall_mem_cons]
  refine ⟨?_, served_varied⟩
  simp only [crossWrites, mem_cons, not_mem_nil, or_false] at mem
  rcases mem with rfl | rfl
  · exact .response _ _
  · exact .control _ _

/--
The first phone sends a heartbeat or a sample, and a message of no running
transaction or nothing; then the second phone revokes its own bond.
-/
def ownWrites : List (HostEvent × HostEvent) :=
  [(.responseRead firstPeer PRESENCE_HEARTBEAT,
      .responseRead firstPeer (utf8 "SYAUTH-RSSI-v1:-60".toList)),
    (.controlRead firstPeer
        (Message.encode ⟨.replicate 16 2, .capability⟩),
      .controlRead firstPeer []),
    (.responseRead secondPeer revokesSecond, .responseRead secondPeer revokesSecond)]

theorem own_revocation_sameStanding :
    Throughout (paired (hostStep pairedPrimitives))
      (SameStanding pairedPrimitives secondPeer)
      (keyedDaemon, keyedDaemon) (ownWrites ++ served) := by
  apply sameStanding_of_alike _ _ _
  · intro pair mem
    rcases mem_append.mp mem with written | mem
    · simp only [ownWrites, mem_cons, not_mem_nil, or_false] at written
      rcases written with rfl | rfl | rfl
      · exact .response _ _
      · exact .control _ _
      · exact .same _
    · exact served_varied _ mem
  · refine ⟨?_, ?_, rfl, ?_⟩
    · change (routeWrite _).revocation? = (routeWrite _).revocation?
      decide +kernel
    · change PairSession.notices _ _ = PairSession.notices _ _
      decide +kernel
    · exact ⟨trivial, trivial, trivial, trivial, trivial, trivial⟩

end DeskUnlock.Unlock
