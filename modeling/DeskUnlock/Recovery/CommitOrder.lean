import DeskUnlock.Pairing.AttemptTrace
import DeskUnlock.Recovery.CommitConsumer

/-!
# The order of requests

The attempt and the consumer of the commit channel take turns.  One request at
most is under way for the attempt, it is the one that the attempt waits for,
and between two requests only revocations are carried out.  This does not
depend on the disk, which other processes may change as well.
-/

namespace DeskUnlock.Recovery

open Texts List Option
open Pairing

def isAwaited (req : PairCommitRequest) : Bool := req.phase ≠ .revoke

def awaitedRequests (sess : PairSession) : List PairCommitRequest :=
  match sess.attempt with
  | none => []
  | some att => att.point.awaited.toList.map att.context.requestOf

def Consumer.requests : Consumer → List PairCommitRequest
  | .serving req _ => [req]
  | _ => []

def Daemon.requests (daemon : Daemon) : List PairCommitRequest :=
  daemon.consumer.requests ++ daemon.session.commits

def revocation? (frame : Bytes) : Option Text :=
  match Message.decode frame with
  | .ok msg => if msg.operation = .revoke then some (hexText msg.transaction.toList) else none
  | .error _ => none

def DaemonEvent.revocations : DaemonEvent → List Text
  | .control payload => (frameControlPayload payload).filterMap revocation?
  | _ => []

theorem foldl_acceptFrame_commits (sess : PairSession) (frames : List Bytes) :
    ∃ added, (frames.foldl PairSession.acceptFrame sess).commits = sess.commits ++
    added ∧ ∀ req ∈ added, ∃ frame ∈ frames, ∃ msg, Message.decode frame =
    .ok msg ∧ msg.operation = .revoke ∧ req = revokeRequest msg := by
  induction frames generalizing sess with
  | nil => exact ⟨[], (append_nil _).symm, nofun⟩
  | cons frame rest induction =>
    have first : ∃ added, (sess.acceptFrame frame).commits =
        sess.commits ++ added ∧ ∀ req ∈ added, ∃ msg, Message.decode frame =
        .ok msg ∧ msg.operation = .revoke ∧ req = revokeRequest msg := by
      unfold PairSession.acceptFrame
      split
      · rename_i msg decoded
        split_ifs with revoke _
        · refine ⟨[revokeRequest _], rfl, ?_⟩
          intro req mem
          exact ⟨msg, decoded, revoke, mem_singleton.mp mem⟩
        · exact ⟨[], (append_nil _).symm, nofun⟩
        · exact ⟨[], (append_nil _).symm, nofun⟩
      · exact ⟨[], (append_nil _).symm, nofun⟩
    obtain ⟨added, queued, revocations⟩ := first
    obtain ⟨more, queuedMore, further⟩ := induction (sess.acceptFrame _)
    refine ⟨added ++ more, ?_, ?_⟩
    · rw [foldl_cons, queuedMore, queued, append_assoc]
    · intro req mem
      rcases mem_append.mp mem with old | new
      · exact ⟨frame, mem_cons_self, revocations _ old⟩
      · obtain ⟨other, inside, read⟩ := further _ new
        exact ⟨other, mem_cons_of_mem _ inside, read⟩

variable {req : PairCommitRequest} {sess : PairSession}
  {prog : CommitProgram} {rest : List PairCommitRequest}

theorem isAwaited_of_mem_awaitedRequests (mem : req ∈ awaitedRequests sess) :
    isAwaited req = true := by
  unfold awaitedRequests at mem
  split at mem
  · cases mem
  · rename_i att _
    obtain ⟨phase, awaiting, rfl⟩ := mem_map.mp mem
    rw [mem_toList] at awaiting
    cases point : att.point <;> rw [point] at awaiting <;> cases awaiting <;> rfl

/-- A resumption queues what is awaited after it. -/
theorem resume_commits {att : Attempt} (running : sess.attempt = some att)
    (traced : Traced att) (resum : Resumption) :
    ∃ requests,
      (sess.resume resum).commits = sess.commits ++ requests ∧
        ((sess.drive att).answers resum = [] →
          awaitedRequests sess ++ requests = awaitedRequests (sess.resume resum)) ∧
        (∀ phase, att.point.awaited = some phase →
          (sess.drive att).answers resum = [phase] →
          requests = awaitedRequests (sess.resume resum)) := by
  obtain ⟨suffix, extended, answers⟩ := advance_extends (sess.drive _) resum
  have awaited := extended.awaited traced answers
  have before :
      awaitedRequests sess = att.point.awaited.toList.map att.context.requestOf := by
    simp only [awaitedRequests, running]
  have after :
      awaitedRequests (sess.resume resum) =
        ((sess.drive att).advance
          resum).attempt.point.awaited.toList.map att.context.requestOf := by
    rw [PairSession.resume_eq running]
    simp only [awaitedRequests]
    rw [extended.context]
    rfl
  refine ⟨(suffix.filterMap Entry.request?).map att.context.requestOf, ?_, ?_, ?_⟩
  · rw [PairSession.resume_eq running]
    exact extended.commits
  · intro unanswered
    rw [unanswered, nil_append] at awaited
    rw [before, after, ← awaited, map_append]
    rfl
  · intro phase awaiting answered
    have point : (sess.drive att).attempt.point.awaited = some phase := awaiting
    rw [answered, point] at awaited
    rw [after, ← append_cancel_left awaited]

/-- The attempt that waits for an answer, and the request it sent. -/
theorem exists_of_mem_awaitedRequests (mem : req ∈ awaitedRequests sess) :
    ∃ att phase, sess.attempt = some att ∧
    att.point.awaited = some phase ∧ req = att.context.requestOf phase := by
  unfold awaitedRequests at mem
  split at mem
  · cases mem
  · rename_i att running
    obtain ⟨phase, awaiting, rfl⟩ := mem_map.mp mem
    exact ⟨att, phase, running, mem_toList.mp awaiting, rfl⟩

theorem awaitedRequests_of_idle (idle : sess.idle = true) : awaitedRequests sess = [] := by
  unfold awaitedRequests
  unfold PairSession.idle at idle
  split
  · rfl
  · rename_i att running
    rw [running] at idle
    obtain ⟨ctx, tx, point, history⟩ := att
    cases point <;> first | rfl | cases idle

theorem awaitedRequests_length_le (sess : PairSession) : (awaitedRequests sess).length ≤ 1 := by
  unfold awaitedRequests
  split
  · exact Nat.zero_le 1
  · rename_i att _
    cases att.point.awaited <;> simp

theorem answers_eq_nil (drive : Drive) {resum : Resumption}
    (unanswering : ∀ durable, resum ≠ .reply durable) : drive.answers resum = [] := by
  cases resum with
  | reply durable => exact (unanswering _ rfl).elim
  | _ => rfl

theorem answers_reply {drive : Drive} {phase : PairCommitPhase}
    (awaiting : drive.attempt.point.awaited = some phase)
    {durable : Bool} : drive.answers (.reply durable) = [phase] := by
  change drive.attempt.point.awaited.toList = _
  rw [awaiting]
  rfl

section

variable {daemon : Daemon}

theorem Daemon.requests_advance {ev : SessionEvent} {added : List PairCommitRequest}
    (queued : (daemon.session.step ev).commits = daemon.session.commits ++ added) :
    (daemon.advance ev).requests = daemon.requests ++ added := by
  unfold Daemon.requests Daemon.advance
  rw [queued, append_assoc]

theorem Daemon.requests_received (idle : daemon.consumer = .idle)
    (queued : daemon.session.commits = req :: rest) :
    Daemon.requests
        { daemon.advance .received with consumer := .serving req prog } =
      daemon.requests := by
  simp [requests, Consumer.requests, advance, PairSession.step, idle, queued]

theorem Daemon.requests_answered (serving : daemon.consumer = .serving req prog)
    {consumer : Consumer} (resting : consumer = .idle ∨ consumer = .stopped) :
    daemon.requests = req :: Daemon.requests { daemon with consumer := consumer } := by
  unfold Daemon.requests
  rw [serving]
  rcases resting with rfl | rfl <;> rfl

theorem Daemon.requests_dropped (stopped : daemon.consumer = .stopped)
    (queued : daemon.session.commits = req :: rest) :
    daemon.requests = req :: (daemon.advance .received).requests := by
  simp [requests, Consumer.requests, advance, PairSession.step, stopped, queued]

end

/-- One request at most is under way, and the attempt waits for it. -/
structure Daemon.Orderly (daemon : Daemon) : Prop where
  traced : daemon.session.Traced
  outstanding :
    daemon.reply = none ∧ daemon.requests.filter isAwaited = awaitedRequests daemon.session ∨
      daemon.reply ≠ none ∧ daemon.requests.filter isAwaited = [] ∧
        awaitedRequests daemon.session ≠ []

theorem Daemon.start_orderly {hostPubkey : Pubkey} {hostName : Bytes} {disk : BondDisk} :
    (Daemon.start hostPubkey hostName disk).Orderly where
  traced := start_traced _ _
  outstanding := .inl ⟨rfl, rfl⟩

section

variable {daemon : Daemon}

section

variable (orderly : daemon.Orderly)
include orderly

/-- An awaited request under way is the one that the attempt sent. -/
theorem Daemon.Orderly.awaiting (mem : req ∈ daemon.requests) (own : isAwaited req = true) :
    daemon.reply = none ∧ ∃ att phase, daemon.session.attempt = some att ∧
    att.point.awaited = some phase ∧ req = att.context.requestOf phase := by
  have inside : req ∈ daemon.requests.filter isAwaited := mem_filter.mpr ⟨mem, own⟩
  rcases orderly.outstanding with ⟨silent, same⟩ | ⟨_, done, _⟩
  · rw [same] at inside
    exact ⟨silent, exists_of_mem_awaitedRequests inside⟩
  · rw [done] at inside
    cases inside

/-- An attempt that waits for nothing has nothing under way. -/
theorem Daemon.Orderly.quiet (unawaited : awaitedRequests daemon.session = []) :
    daemon.reply = none ∧ daemon.requests.filter isAwaited = [] := by
  rcases orderly.outstanding with ⟨silent, same⟩ | ⟨_, _, waiting⟩
  · exact ⟨silent, same.trans unawaited⟩
  · exact (waiting unawaited).elim

/-- The attempt waits for an answer that is on its way. -/
theorem Daemon.Orderly.answering {durable : Bool} (replied : daemon.reply = some durable) :
    daemon.requests.filter isAwaited = [] ∧ ∃ att phase,
    daemon.session.attempt = some att ∧ att.point.awaited = some phase := by
  rcases orderly.outstanding with ⟨silent, _⟩ | ⟨_, done, waiting⟩
  · rw [replied] at silent
    cases silent
  · obtain ⟨req, mem⟩ := exists_mem_of_ne_nil _ waiting
    obtain ⟨att, phase, running, awaiting, -⟩ := exists_of_mem_awaitedRequests mem
    exact ⟨done, att, phase, running, awaiting⟩

/-- The session went on while the consumer stayed. -/
theorem Daemon.Orderly.advance (ev : SessionEvent) (reply : Option Bool)
    {added : List PairCommitRequest}
    (queued : (daemon.session.step ev).commits = daemon.session.commits ++ added)
    (outstanding :
      reply = none ∧
          daemon.requests.filter isAwaited ++ added.filter isAwaited =
            awaitedRequests (daemon.session.step ev) ∨
        reply ≠ none ∧
          daemon.requests.filter isAwaited ++ added.filter isAwaited = [] ∧
          awaitedRequests (daemon.session.step ev) ≠ []) :
    Daemon.Orderly { daemon.advance ev with reply := reply } := by
  refine ⟨orderly.traced.step _, ?_⟩
  change reply = none ∧ (daemon.advance ev).requests.filter _ = _ ∨
      reply ≠ none ∧ (daemon.advance ev).requests.filter _ = _ ∧ _
  rw [daemon.requests_advance queued, filter_append]
  exact outstanding

theorem Daemon.Orderly.control (payload : Bytes) : (daemon.advance (.control payload)).Orderly := by
  have awaited : awaitedRequests (daemon.session.step (.control payload)) =
      awaitedRequests daemon.session := by
    unfold awaitedRequests
    rw [daemon.session.step_control_attempt]
  obtain ⟨added, queued, revocations⟩ := foldl_acceptFrame_commits _ (frameControlPayload _)
  have unawaited : added.filter isAwaited = [] := by
    rw [filter_eq_nil_iff]
    intro req mem
    obtain ⟨frame, _, msg, _, _, rfl⟩ := revocations _ mem
    simp [isAwaited, revokeRequest]
  apply orderly.advance (.control _) _ queued
  rw [unawaited, append_nil, awaited]
  exact orderly.outstanding

theorem Daemon.Orderly.read (offset : ℕ) : (daemon.advance (.read offset)).Orderly :=
  orderly.advance (.read _) _ (append_nil _).symm
    (by rw [filter_nil, append_nil]; exact orderly.outstanding)

theorem Daemon.Orderly.opened (phonePubkey : Pubkey) (addr : Address)
    (id : Option TransactionId) : (daemon.advance (.opened phonePubkey addr id)).Orderly := by
  cases idle : daemon.session.idle with
  | false =>
    unfold Daemon.advance
    rw [PairSession.step_opened_busy idle]
    exact orderly
  | true =>
    have quiet := orderly.quiet (awaitedRequests_of_idle idle)
    have silent : awaitedRequests (daemon.session.openAttempt phonePubkey addr id) = [] := by
      cases id <;> rfl
    have stepped := PairSession.step_opened_idle idle phonePubkey addr id
    have queued : (daemon.session.step (.opened phonePubkey addr id)).commits =
        daemon.session.commits ++ [] := by
      rw [stepped, append_nil]
      rfl
    apply orderly.advance (.opened _ _ _) _ queued
    rw [stepped, silent, filter_nil, append_nil]
    exact .inl quiet

end

theorem filter_isAwaited_eq_self {requests : List PairCommitRequest}
    (awaited : ∀ req ∈ requests, req ∈ awaitedRequests sess) :
    requests.filter isAwaited = requests := by
  rw [filter_eq_self]
  exact fun req mem => isAwaited_of_mem_awaitedRequests (awaited _ mem)

section

variable (orderly : daemon.Orderly)
include orderly

theorem Daemon.Orderly.resumed {resum : Resumption}
    (unanswering : ∀ durable, resum ≠ .reply durable) :
    (daemon.advance (.resumed resum)).Orderly := by
  cases running : daemon.session.attempt with
  | none =>
    unfold Daemon.advance
    rw [PairSession.step_resumed_none running]
    exact orderly
  | some att =>
    have traced := orderly.traced _ running
    obtain ⟨requests, queued, quiet, _⟩ := resume_commits running traced _
    have awaited := quiet (answers_eq_nil _ unanswering)
    have own : requests.filter isAwaited = requests := by
      apply filter_isAwaited_eq_self
      intro req mem
      rw [← awaited]
      exact mem_append_right _ mem
    apply orderly.advance (.resumed _) _ queued
    rw [own]
    change _ = none ∧ _ = awaitedRequests (daemon.session.resume resum) ∨
        _ ≠ none ∧ _ ∧ awaitedRequests (daemon.session.resume resum) ≠ []
    rw [← awaited]
    rcases orderly.outstanding with ⟨none, same⟩ | ⟨some, done, waiting⟩
    · exact .inl ⟨none, by rw [same]⟩
    · have short := awaitedRequests_length_le (daemon.session.resume resum)
      rw [← awaited, length_append] at short
      have positive := length_pos_of_ne_nil waiting
      have nil : requests = [] := eq_nil_of_length_eq_zero (by omega)
      rw [nil, append_nil, append_nil]
      exact .inr ⟨some, done, waiting⟩

theorem Daemon.Orderly.replied {durable : Bool} (replied : daemon.reply = some durable) :
    Daemon.Orderly { daemon.advance (.resumed (.reply durable)) with reply := none } := by
  obtain ⟨answered, att, phase, running, awaiting⟩ := orderly.answering replied
  obtain ⟨requests, queued, _, requeued⟩ :=
    resume_commits running (orderly.traced _ running) (.reply durable)
  have awaited := requeued _ awaiting (answers_reply awaiting)
  have own : requests.filter isAwaited = requests := by
    apply filter_isAwaited_eq_self
    intro req mem
    rwa [← awaited]
  apply orderly.advance (.resumed (.reply _)) _ queued
  rw [own, answered]
  exact .inl ⟨rfl, awaited⟩

theorem Daemon.Orderly.received (idle : daemon.consumer = .idle)
    (queued : daemon.session.commits = req :: rest) (prog : CommitProgram) :
    Daemon.Orderly { daemon.advance .received with consumer := .serving req prog } := by
  refine ⟨orderly.traced.step .received, ?_⟩
  rw [requests_received idle queued]
  exact orderly.outstanding

theorem Daemon.Orderly.called (serving : daemon.consumer = .serving req prog)
    (disk : BondDisk) (next : CommitProgram) :
    Daemon.Orderly { daemon with disk := disk, consumer := .serving req next } := by
  refine ⟨orderly.traced, ?_⟩
  have outstanding := orderly.outstanding
  unfold Daemon.requests at outstanding ⊢
  rw [serving] at outstanding
  exact outstanding

/-- A request leaves the daemon with its answer. -/
theorem Daemon.Orderly.settled {base : Daemon} {durable : Bool}
    (removed : daemon.requests = req :: base.requests)
    (same : base.session.attempt = daemon.session.attempt) (reply : base.reply = daemon.reply) :
    (base.answer req durable).Orderly := by
  have awaited : awaitedRequests base.session = awaitedRequests daemon.session := by
    unfold awaitedRequests
    rw [same]
  have traced : base.session.Traced := by
    unfold PairSession.Traced
    rw [same]
    exact orderly.traced
  have outstanding := orderly.outstanding
  rw [removed] at outstanding
  unfold Daemon.answer
  split_ifs with revoke
  · have unawaited : isAwaited req = false := by
      simp [isAwaited, revoke]
    rw [filter_cons_of_neg (by simp [unawaited])] at outstanding
    refine ⟨traced, ?_⟩
    rw [reply, awaited]
    exact outstanding
  · have own : isAwaited req = true := by
      simpa [isAwaited] using revoke
    rw [filter_cons_of_pos own] at outstanding
    rcases outstanding with ⟨_, waiting⟩ | ⟨_, done, _⟩
    · have short := awaitedRequests_length_le daemon.session
      rw [← waiting, length_cons] at short
      have alone : base.requests.filter isAwaited = [] := eq_nil_of_length_eq_zero (by omega)
      refine ⟨traced, .inr ⟨nofun, alone, ?_⟩⟩
      rw [awaited, ← waiting]
      exact cons_ne_nil _ _
    · cases done

theorem Daemon.Orderly.answered {reply : Except RecoveryError Unit}
    (serving : daemon.consumer = .serving req (.done reply))
    {consumer : Consumer} (resting : consumer = .idle ∨ consumer = .stopped) :
    (Daemon.answer { daemon with consumer } req reply.isOk).Orderly := by
  refine orderly.settled ?_ rfl rfl
  exact requests_answered serving resting

theorem Daemon.Orderly.dropped (stopped : daemon.consumer = .stopped)
    (queued : daemon.session.commits = req :: rest) :
    ((daemon.advance .received).answer req false).Orderly :=
  orderly.settled (requests_dropped stopped queued) rfl rfl

end

theorem Daemon.Orderly.step (orderly : daemon.Orderly)
    (libs : Primitives) (ev : DaemonEvent) : (daemon.step libs ev).Orderly := by
  have moves := daemon.step_moves libs ev
  generalize daemon.step libs ev = after at moves ⊢
  cases moves with
  | ignored => exact orderly
  | control payload => exact orderly.control _
  | read offset => exact orderly.read _
  | opened phonePubkey addr id => exact orderly.opened _ _ _
  | polled | oobAnswered | notified => exact orderly.resumed nofun
  | received displayName now idle queued => exact orderly.received idle queued _
  | called out serving => exact orderly.called serving _ _
  | answered serving resting => exact orderly.answered serving resting
  | replied replied => exact orderly.replied replied
  | dropped stopped queued => exact orderly.dropped stopped queued

end

/--
At most one request of an attempt is queued or served, and the current attempt
waits for it: no request outlives its attempt.
-/
theorem requests_current (libs : Primitives) (hostPubkey : Pubkey) (hostName : Bytes)
    (disk : BondDisk) (events : List DaemonEvent) :
    let daemon := Runs.run (Daemon.step libs) (.start hostPubkey hostName disk) events
    (daemon.requests.filter isAwaited).length ≤ 1 ∧
      ∀ req ∈ daemon.requests, isAwaited req = true →
        daemon.reply = none ∧ ∃ att phase, daemon.session.attempt = some att ∧
          att.point.awaited = some phase ∧ req = att.context.requestOf phase := by
  intro daemon
  have orderly : daemon.Orderly :=
    Runs.run_invariant (fun _ ev orderly => orderly.step libs ev) Daemon.start_orderly events
  refine ⟨?_, fun req mem own => orderly.awaiting mem own⟩
  rcases orderly.outstanding with ⟨-, same⟩ | ⟨-, done, -⟩
  · rw [same]
    exact awaitedRequests_length_le _
  · rw [done]
    exact Nat.zero_le 1

end DeskUnlock.Recovery
