import DeskUnlock.Pairing.PairEngine
import DeskUnlock.Recovery.PairRecovery

/-!
# The consumer of the commit channel

`syauth-presenced/src/runtime.rs`: `pair_commit_consumer`,
`stage_pair_trust` and `revoke_bond_by_peer_id`.

The consumer takes one request after the other and carries it out with
file-system calls, between which the pair engine and the peers go on.  The
daemon below is the pair session, the consumer with the rest of the program
that it is carrying out, the answer that the attempt has not yet received, and
the disk.
-/

namespace DeskUnlock.Recovery

open FilePrograms Texts
open Pairing

section

variable (libs : Primitives) (req : PairCommitRequest)

/-- The inactive bond that `stage_pair_trust` stages. -/
def stagedBond (displayName : Option Text) (now : OffsetDateTime) : Bond where
  peerId := libs.peerIdFromPubkey req.phonePubkey
  pubkey := req.phonePubkey
  name := displayName.getD req.peer
  createdAt := now
  status := .bonded

/--
Stage the inactive bond, its key and the journal.  The display name is what
the adapter knows of the peer.
-/
def stagePairTrust (displayName : Option Text) (now : OffsetDateTime) : RecoveryM Unit :=
  stage libs req.transaction
    (libs.peerIdFromPubkey req.phonePubkey) req.peer (stagedBond libs req displayName now)
    (libs.bondKeyFromPubkeys req.hostPubkey req.phonePubkey)

/--
Mark the named bond revoked and remove its key.  An unknown identifier is
refused; a key that cannot be removed is not.
-/
def revokeBondByPeerId (peerId : Text) : RecoveryM Unit := do
  let store ← RecoveryM.ofBond (BondStore.load libs .bonds)
  if !store.bonds? peerId then throw (.bond (.unknownPeer peerId))
  let revoked ←
    RecoveryM.ofExcept .bond (store.markRevoked peerId "phone: device dissociated".toList)
  RecoveryM.ofBond (revoked.save libs .bonds)
  callIgnored (.remove (.activeKey peerId))

/-- What the consumer does for a request, up to its answer. -/
def commitAction (displayName : Option Text) (now : OffsetDateTime) : RecoveryM Unit :=
  let peerId := libs.peerIdFromPubkey req.phonePubkey
  match req.phase with
  | .stage => stagePairTrust libs req displayName now
  | .markCommit => markCommitPending
  | .promote => promote libs peerId
  | .discard => discard peerId
  -- The peer identifier travels in the transaction field.
  | .revoke => revokeBondByPeerId libs (hexText req.transaction.toList)

end

abbrev CommitProgram := Prog BondPath (Except RecoveryError Unit)

/-- The task that consumes the commit channel. -/
inductive Consumer where
  | idle
  | serving (req : PairCommitRequest) (prog : CommitProgram)
  /-- The task panicked and its end of the channel is gone. -/
  | stopped

/-- The pair session, the consumer and the disk. -/
structure Daemon where
  session : PairSession
  consumer : Consumer
  /-- The answer to the attempt's request, not yet received. -/
  reply : Option Bool
  disk : BondDisk

/-- What the daemon meets. -/
inductive DaemonEvent where
  | control (payload : Bytes)
  | read (offset : Nat)
  | opened (phonePubkey : Pubkey) (addr : Address) (id : Option TransactionId)
  | polled (late : Bool)
  | oobAnswered (accepted : Bool)
  | notified
  /-- The consumer takes the oldest request. -/
  | received (displayName : Option Text) (now : OffsetDateTime)
  /-- The consumer makes its next file-system call. -/
  | called (out : Outcome)
  /-- The consumer answers the request it has carried out. -/
  | answered
  /-- The attempt receives the answer. -/
  | replied
  /-- A request of a channel without consumer is dropped. -/
  | dropped

namespace Daemon

def advance (daemon : Daemon) (ev : SessionEvent) : Daemon :=
  { daemon with session := daemon.session.step ev }

/-- The answer goes to the attempt; nobody waits for a revocation. -/
def answer (daemon : Daemon) (req : PairCommitRequest) (durable : Bool) : Daemon :=
  if req.phase = .revoke then daemon else { daemon with reply := some durable }

/-- The consumer makes one call at a time. -/
def step (libs : Primitives) (daemon : Daemon) :
    DaemonEvent → Daemon
  | .control payload => daemon.advance (.control payload)
  | .read offset => daemon.advance (.read offset)
  | .opened phonePubkey addr id => daemon.advance (.opened phonePubkey addr id)
  | .polled late => daemon.advance (.resumed (.poll late))
  | .oobAnswered accepted => daemon.advance (.resumed (.oob accepted))
  | .notified => daemon.advance (.resumed .notified)
  | .received displayName now =>
    match daemon.consumer, daemon.session.commits with
    | .idle, req :: _ =>
      { daemon.advance .received with
        consumer := .serving req (commitAction libs req displayName now) }
    | _, _ => daemon
  | .called out =>
    match daemon.consumer with
    | .serving req prog =>
      let (disk, prog) := prog.resume daemon.disk out
      { daemon with disk, consumer := .serving req prog }
    | _ => daemon
  | .answered =>
    match daemon.consumer with
    | .serving req (.done (.ok _)) => { daemon with consumer := .idle }.answer req true
    | .serving req (.done (.error .panicked)) =>
      { daemon with consumer := .stopped }.answer req false
    | .serving req (.done (.error _)) => { daemon with consumer := .idle }.answer req false
    | _ => daemon
  | .replied =>
    match daemon.reply with
    | some durable => { daemon.advance (.resumed (.reply durable)) with reply := none }
    | none => daemon
  | .dropped =>
    match daemon.consumer, daemon.session.commits with
    | .stopped, req :: _ => (daemon.advance .received).answer req false
    | _, _ => daemon

def start (hostPubkey : Pubkey) (hostName : Bytes) (disk : BondDisk) :
    Daemon where
  session := .start hostPubkey hostName
  consumer := .idle
  reply := none
  disk := disk

/-- What a step comes to: the event is ignored, or it finds what it is for. -/
inductive Moves (libs : Primitives) (daemon : Daemon) : DaemonEvent → Daemon → Prop
  | ignored {ev : DaemonEvent} (unopened : ∀ phonePubkey addr id, ev ≠ .opened phonePubkey addr id)
      (uncalled : ∀ out req prog, ev = .called out → daemon.consumer ≠ .serving req prog) :
      Moves libs daemon ev daemon
  | control (payload : Bytes) :
      Moves libs daemon (.control payload) (daemon.advance (.control payload))
  | read (offset : Nat) : Moves libs daemon (.read offset) (daemon.advance (.read offset))
  | opened (phonePubkey : Pubkey) (addr : Address) (id : Option TransactionId) :
      Moves libs daemon (.opened phonePubkey addr id) (daemon.advance (.opened phonePubkey addr id))
  | polled (late : Bool) : Moves libs daemon (.polled late) (daemon.advance (.resumed (.poll late)))
  | oobAnswered (accepted : Bool) :
      Moves libs daemon (.oobAnswered accepted) (daemon.advance (.resumed (.oob accepted)))
  | notified : Moves libs daemon .notified (daemon.advance (.resumed .notified))
  | received {req : PairCommitRequest} {rest : List PairCommitRequest}
      (displayName : Option Text) (now : OffsetDateTime) (idle : daemon.consumer = .idle)
      (queued : daemon.session.commits = req :: rest) :
      Moves libs daemon (.received displayName now)
        { daemon.advance .received with
          consumer := .serving req (commitAction libs req displayName now) }
  | called {req : PairCommitRequest} {prog : CommitProgram} (out : Outcome)
      (serving : daemon.consumer = .serving req prog) :
      Moves libs daemon (.called out)
        { daemon with
          disk := (prog.resume daemon.disk out).1
          consumer := .serving req (prog.resume daemon.disk out).2 }
  | answered {req : PairCommitRequest} {reply : Except RecoveryError Unit}
      {consumer : Consumer} (serving : daemon.consumer = .serving req (.done reply))
      (resting : consumer = .idle ∨ consumer = .stopped) :
      Moves libs daemon .answered ({ daemon with consumer }.answer req reply.isOk)
  | replied {durable : Bool} (replied : daemon.reply = some durable) :
      Moves libs daemon .replied { daemon.advance (.resumed (.reply durable)) with reply := none }
  | dropped {req : PairCommitRequest} {rest : List PairCommitRequest}
      (stopped : daemon.consumer = .stopped) (queued : daemon.session.commits = req :: rest) :
      Moves libs daemon .dropped ((daemon.advance .received).answer req false)

theorem step_moves (libs : Primitives) (daemon : Daemon) (ev : DaemonEvent) :
    daemon.Moves libs ev (daemon.step libs ev) := by
  unfold step
  cases ev with
  | control payload => exact .control _
  | read offset => exact .read _
  | opened phonePubkey addr id => exact .opened _ _ _
  | polled late => exact .polled _
  | oobAnswered accepted => exact .oobAnswered _
  | notified => exact .notified
  | received displayName now =>
    dsimp only
    split
    · rename_i idle queued
      exact .received _ _ idle queued
    · exact .ignored nofun nofun
  | called out =>
    dsimp only
    split
    · rename_i serving
      exact .called _ serving
    · rename_i resting
      exact .ignored nofun fun _ req prog _ => resting _ _
  | answered =>
    dsimp only
    split
    · rename_i serving
      exact .answered serving (.inl rfl)
    · rename_i serving
      exact .answered serving (.inr rfl)
    · rename_i serving
      exact .answered serving (.inl rfl)
    · exact .ignored nofun nofun
  | replied =>
    dsimp only
    split
    · rename_i replied
      exact .replied replied
    · exact .ignored nofun nofun
  | dropped =>
    dsimp only
    split
    · rename_i stopped queued
      exact .dropped stopped queued
    · exact .ignored nofun nofun

theorem answer_frame (daemon : Daemon) {req : PairCommitRequest} {durable : Bool} :
    (daemon.answer req durable).session = daemon.session ∧ (daemon.answer req durable).consumer =
    daemon.consumer ∧ (daemon.answer req durable).disk = daemon.disk := by
  unfold answer
  split_ifs <;> exact ⟨rfl, rfl, rfl⟩

theorem step_session {libs : Primitives} (daemon : Daemon) {ev : DaemonEvent} :
    (daemon.step libs ev).session = daemon.session ∨
      ∃ part,
        (daemon.step libs ev).session = daemon.session.step part ∧
          (∀ payload, part = .control payload → ev = .control payload) ∧
          (∀ phonePubkey addr id,
            part = .opened phonePubkey addr id → ev = .opened phonePubkey addr id) := by
  have moves := daemon.step_moves libs ev
  generalize daemon.step libs ev = after at moves ⊢
  cases moves with
  | ignored | called => exact .inl rfl
  | answered => exact .inl (answer_frame _).1
  | control payload =>
    refine .inr ⟨.control _, rfl, ?_, nofun⟩
    rintro _ ⟨⟩
    rfl
  | opened phonePubkey addr id =>
    refine .inr ⟨.opened _ _ _, rfl, nofun, ?_⟩
    rintro _ _ _ ⟨⟩
    rfl
  | read offset => exact .inr ⟨.read _, rfl, nofun, nofun⟩
  | polled late => exact .inr ⟨.resumed (.poll _), rfl, nofun, nofun⟩
  | oobAnswered accepted => exact .inr ⟨.resumed (.oob _), rfl, nofun, nofun⟩
  | notified => exact .inr ⟨.resumed .notified, rfl, nofun, nofun⟩
  | received => exact .inr ⟨.received, rfl, nofun, nofun⟩
  | @replied durable _ => exact .inr ⟨.resumed (.reply _), rfl, nofun, nofun⟩
  | dropped => exact .inr ⟨.received, (answer_frame _).1, nofun, nofun⟩

end Daemon

end DeskUnlock.Recovery
