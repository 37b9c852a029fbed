import DeskUnlock.Recovery.DesktopRuns
import DeskUnlock.Recovery.Publication

/-!
# The staging of an undecided transaction

An attempt that ended without knowing whether the peer has committed leaves
its staging for the recovery service.  The next attempt stages into the same
files, whether or not a recovery run has decided the first one.

Until then, and as long as the consumer takes up no `Stage` request, nothing
else reaches the staging: an attempt whose `Stage` was not answered has no
later request, revocations use other files, and a run only reads until it has
decided.
-/

namespace DeskUnlock.Recovery

open FilePrograms List Option
open Pairing

def Unstaged (att : Attempt) : Prop := att.point.ended = true ∨ .answered .stage true ∉ att.history

variable {att : Attempt}

theorem Unstaged.not_staged (unstaged : Unstaged att) (live : att.point.ended = false) :
    .answered .stage true ∉ att.history := by
  rcases unstaged with ended | absent
  · rw [live] at ended
    cases ended
  · exact absent

/-- Such an attempt can wait for its `Stage` request only. -/
theorem Unstaged.awaited (unstaged : Unstaged att) (traced : Traced att)
    {phase : PairCommitPhase} (awaiting : att.point.awaited = some phase) : phase = .stage := by
  cases traced with
  | onLine ctx point live =>
    cases point with
    | requestStage => exact (some.inj awaiting).symm
    | requestMarkCommit =>
      have staged : .answered .stage true ∈ Point.past .requestMarkCommit := by decide
      exact (unstaged.not_staged rfl staged).elim
    | requestPromote =>
      have staged : .answered .stage true ∈ Point.past .requestPromote := by decide
      exact (unstaged.not_staged rfl staged).elim
    | requestDiscard error => cases live
    | _ => cases awaiting
  | left origin exit =>
    have kept := exit.past_prefix.subset
    obtain ⟨ctx, tx, point, history⟩ := att
    cases exit with
    | noPrepared entry unfit | noCommitAck entry unfit =>
      exact (unstaged.not_staged rfl (kept (by decide))).elim
    | _ => cases awaiting

/-- Without an answer an attempt stays unstaged. -/
theorem Unstaged.advance {drive : Drive} (unstaged : Unstaged drive.attempt)
    {resum : Resumption} (unanswered : drive.answers resum = []) :
    Unstaged (drive.advance resum).attempt := by
  rcases unstaged with ended | absent
  · rw [Drive.advance_ended ended]
    exact .inl ended
  · obtain ⟨suffix, extended, answers⟩ := advance_extends _ _
    right
    rw [extended.history]
    intro mem
    rcases mem_append.mp mem with old | new
    · exact absent old
    · have answered : .stage ∈ suffix.filterMap Entry.answer? :=
        mem_filterMap.mpr ⟨_, new, rfl⟩
      rw [answers, unanswered] at answered
      cases answered

theorem Unstaged.refused {drive : Drive} (unstaged : Unstaged drive.attempt)
    (traced : Traced drive.attempt) {phase : PairCommitPhase}
    (awaiting : drive.attempt.point.awaited = some phase) :
    Unstaged (drive.advance (.reply false)).attempt := by
  obtain rfl := unstaged.awaited traced awaiting
  obtain ⟨svc, commits, att⟩ := drive
  left
  cases traced with
  | onLine ctx point live =>
    cases point with
    | requestStage => rfl
    | _ => cases awaiting
  | left origin exit =>
    obtain ⟨ctx, tx, point, history⟩ := att
    cases exit <;> cases awaiting

/-- No request of an attempt is being carried out or was successful. -/
structure Daemon.Calm (daemon : Daemon) : Prop where
  serving : ∀ req ∈ daemon.consumer.requests, isAwaited req = false
  unreplied : daemon.reply ≠ some true
  unstaged : ∀ att, daemon.session.attempt = some att → Unstaged att

/-- After an attempt has ended nothing of it is under way. -/
theorem Daemon.Orderly.calm {daemon : Daemon} (orderly : daemon.Orderly)
    (running : daemon.session.attempt = some att)
    (ended : att.point.ended = true) : daemon.Calm := by
  have idle : daemon.session.idle = true := by simp [PairSession.idle, running, ended]
  obtain ⟨silent, done⟩ := orderly.quiet (awaitedRequests_of_idle idle)
  refine ⟨?_, ?_, ?_⟩
  · intro req mem
    have inside : req ∈ daemon.requests := mem_append_left _ mem
    simpa using filter_eq_nil_iff.mp done _ inside
  · rw [silent]
    exact nofun
  · intro other ran
    obtain rfl : att = other := some.inj (running.symm.trans ran)
    exact .inl ended

section

variable {daemon : Daemon} {req : PairCommitRequest}

/-- The only request of a calm attempt is `Stage`. -/
theorem Daemon.Calm.stage_of_awaited (calm : daemon.Calm) (orderly : daemon.Orderly)
    (mem : req ∈ daemon.requests) (own : isAwaited req = true) : req.phase = .stage := by
  obtain ⟨_, att, phase, running, awaiting, rfl⟩ := orderly.awaiting mem own
  exact (calm.unstaged _ running).awaited (orderly.traced _ running) awaiting

/-- A request that a calm daemon serves is a revocation. -/
theorem Daemon.Calm.revoking (calm : daemon.Calm) {prog : CommitProgram}
    (serving : daemon.consumer = .serving req prog) : isAwaited req = false := by
  apply calm.serving
  rw [serving]
  exact mem_singleton_self _

theorem Daemon.Calm.resumed (calm : daemon.Calm) {resum : Resumption}
    (unanswering : ∀ durable, resum ≠ .reply durable) :
    (daemon.advance (.resumed resum)).Calm := by
  refine ⟨calm.serving, calm.unreplied, ?_⟩
  intro att running
  change (daemon.session.resume resum).attempt = _ at running
  cases before : daemon.session.attempt with
  | none =>
    rw [PairSession.resume, before] at running
    rw [before] at running
    cases running
  | some earlier =>
    rw [PairSession.resume_eq before] at running
    obtain rfl := some.inj running
    exact .advance (calm.unstaged _ before) (answers_eq_nil _ unanswering)

/-- A request leaves the daemon, and was not carried out for an attempt. -/
theorem Daemon.Calm.answer {base : Daemon} (calm : base.Calm) (req : PairCommitRequest)
    {durable : Bool} (refused : isAwaited req = true → durable = false) :
    (base.answer req durable).Calm := by
  unfold Daemon.answer
  split_ifs with revoke
  · exact calm
  · obtain rfl := refused (by simpa [isAwaited] using revoke)
    exact ⟨calm.serving, by simp, calm.unstaged⟩

theorem Daemon.Calm.opened (calm : daemon.Calm) (phonePubkey : Pubkey) (addr : Address)
    (id : Option TransactionId) : (daemon.advance (.opened phonePubkey addr id)).Calm := by
  refine ⟨calm.serving, calm.unreplied, ?_⟩
  intro att running
  change (daemon.session.step (.opened phonePubkey addr id)).attempt = _ at running
  cases idle : daemon.session.idle with
  | false =>
    rw [PairSession.step_opened_busy idle] at running
    exact calm.unstaged _ running
  | true =>
    rw [PairSession.step_opened_idle idle] at running
    obtain ⟨number, _, rfl⟩ := map_eq_some_iff.mp running
    exact .inr not_mem_nil

theorem Daemon.Calm.received (calm : daemon.Calm) (orderly : daemon.Orderly)
    {rest : List PairCommitRequest} (queued : daemon.session.commits = req :: rest)
    (unstaging : req.phase ≠ .stage) (prog : CommitProgram) :
    Daemon.Calm { daemon.advance .received with consumer := .serving req prog } := by
  refine ⟨?_, calm.unreplied, calm.unstaged⟩
  intro taken mem
  obtain rfl := mem_singleton.mp mem
  cases own : isAwaited taken with
  | false => rfl
  | true =>
    have inside : taken ∈ daemon.requests := by simp [requests, queued]
    exact (unstaging (calm.stage_of_awaited orderly inside own)).elim

theorem Daemon.Calm.resting (calm : daemon.Calm) {consumer : Consumer}
    (silent : consumer.requests = []) : Daemon.Calm { daemon with consumer := consumer } := by
  refine ⟨?_, calm.unreplied, calm.unstaged⟩
  intro req mem
  rw [silent] at mem
  cases mem

theorem Daemon.Calm.replied (calm : daemon.Calm) (orderly : daemon.Orderly)
    {durable : Bool} (replied : daemon.reply = some durable) :
    Daemon.Calm { daemon.advance (.resumed (.reply durable)) with reply := none } := by
  obtain rfl : durable = false := by
    cases durable with
    | false => rfl
    | true => exact (calm.unreplied replied).elim
  obtain ⟨_, earlier, phase, before, awaiting⟩ := orderly.answering replied
  refine ⟨calm.serving, nofun, ?_⟩
  intro att running
  change (daemon.session.resume _).attempt = _ at running
  rw [PairSession.resume_eq before] at running
  obtain rfl := some.inj running
  exact .refused (calm.unstaged _ before) (orderly.traced _ before) awaiting

theorem Daemon.Calm.step (calm : daemon.Calm) (orderly : daemon.Orderly)
    (libs : Primitives) {ev : DaemonEvent}
    (unstaging :
      ∀ displayName now req rest,
        ev = .received displayName now →
          daemon.consumer = .idle → daemon.session.commits = req :: rest → req.phase ≠ .stage) :
    (daemon.step libs ev).Calm := by
  have moves := daemon.step_moves libs ev
  generalize daemon.step libs ev = after at moves ⊢
  cases moves with
  | ignored => exact calm
  | control payload =>
    refine ⟨calm.serving, calm.unreplied, ?_⟩
    change ∀ att, (daemon.session.step (.control payload)).attempt = _ → _
    rw [daemon.session.step_control_attempt]
    exact calm.unstaged
  | read offset => exact ⟨calm.serving, calm.unreplied, calm.unstaged⟩
  | opened phonePubkey addr id => exact calm.opened _ _ _
  | polled | oobAnswered | notified => exact calm.resumed nofun
  | received displayName now idle queued =>
    exact calm.received orderly queued (unstaging _ _ _ _ rfl idle queued) _
  | called out serving =>
    refine ⟨?_, calm.unreplied, calm.unstaged⟩
    intro taken mem
    obtain rfl := mem_singleton.mp mem
    exact calm.revoking serving
  | answered serving resting =>
    apply Calm.answer
    · rcases resting with rfl | rfl <;> exact calm.resting rfl
    · intro own
      rw [calm.revoking serving] at own
      cases own
  | replied replied => exact calm.replied orderly replied
  | dropped stopped queued =>
    have taken : (daemon.advance .received).Calm := ⟨calm.serving, calm.unreplied, calm.unstaged⟩
    exact taken.answer _ fun _ => rfl

end

/-- It was left uncertain, or failed after the decision. -/
def Undecided (att : Attempt) : Prop :=
  att.point = .failed .uncertain ∨
    att.point = .failed .persistence ∧ .answered .markCommit true ∈ att.history

instance : DecidablePred Undecided := fun att =>
  inferInstanceAs
    (Decidable
      (att.point = .failed .uncertain ∨
        att.point = .failed .persistence ∧ .answered .markCommit true ∈ att.history))

theorem Undecided.ended (undecided : Undecided att) : att.point.ended = true := by
  rcases undecided with point | ⟨point, _⟩
  · rw [point]
    rfl
  · rw [point]
    rfl

/--
Until the transaction is decided, the consumer takes up no `Stage` request
and no run carries out the decision of another transaction.
-/
def Desktop.Spares (id : TransactionId) (desktop : Desktop) (ev : DesktopEvent) : Prop :=
  id ∈ desktop.decisions ∨
    (∀ req ∈ desktop.taken? ev, req.phase ≠ .stage) ∧ ∀ other ∈ desktop.carried? ev, other = id

instance (id : TransactionId) (desktop : Desktop)
    (ev : DesktopEvent) : Decidable (desktop.Spares id ev) :=
  have : Decidable (∀ other ∈ desktop.carried? ev, other = id) := Option.decidableForallMem _
  inferInstanceAs
    (Decidable
      (id ∈ desktop.decisions ∨
        (∀ req ∈ desktop.taken? ev, req.phase ≠ .stage) ∧
          ∀ other ∈ desktop.carried? ev, other = id))

/-- The transaction is decided, or its staging is as it was left. -/
def Desktop.Preserved (libs : Primitives)
    (ctx : PairCommitContext) (before : BondDisk) (desktop : Desktop) : Prop :=
  ctx.transactionId ∈ desktop.decisions ∨
    ∀ path, StagingPath (peerIdOf libs ctx) path → desktop.daemon.disk path = before path

/-- What carries the preservation from step to step. -/
structure Desktop.Dormant (id : TransactionId) (before : BondDisk) (desktop : Desktop) : Prop where
  regular : desktop.Regular
  kept :
    id ∈ desktop.decisions ∨
      desktop.daemon.Calm ∧ ∀ path, path.isStaging = true → desktop.daemon.disk path = before path

section

variable {libs : Primitives} {desktop : Desktop} {id : TransactionId} {before : BondDisk}

section

variable (dormant : desktop.Dormant id before)
include dormant

theorem Desktop.Dormant.unmoved {after : Desktop} (regular : after.Regular)
    (daemon : after.daemon = desktop.daemon) (decisions : desktop.decisions ⊆ after.decisions) :
    after.Dormant id before := by
  refine ⟨regular, ?_⟩
  rw [daemon]
  exact dormant.kept.imp_left fun decided => decisions decided

theorem Desktop.Dormant.daemon {ev : DaemonEvent} (spares : desktop.Spares id (.daemon ev)) :
    (desktop.step libs (.daemon ev)).Dormant id before := by
  refine ⟨dormant.regular.step _ (.daemon _), ?_⟩
  rcases dormant.kept with decided | ⟨calm, same⟩
  · exact .inl decided
  rcases spares with decided | unstaging
  · exact .inl decided
  right
  constructor
  · apply calm.step dormant.regular.orderly _
    rintro displayName now req rest rfl idle queued
    apply unstaging.1
    simp [taken?, idle, queued]
  · intro path staging
    change (desktop.daemon.step libs ev).disk path = before path
    rw [← same _ staging]
    rcases desktop.daemon.step_cases _ _ with
      ⟨_, unchanged, _⟩ | ⟨_, _, _, _, _, _, _, stepped⟩ | ⟨out, req, prog, _, serving, stepped⟩
    · rw [unchanged]
    · rw [stepped]
      rfl
    · rw [stepped]
      exact (dormant.regular.revoking _ _ serving (calm.revoking serving)).resume_frame
          (fun action spared => spared.not_mem staging) _ _

theorem Desktop.Dormant.called {i : Nat} {out : Outcome} {run : ReconcileRun}
    (running : desktop.runs[i]? = some run) (spares : desktop.Spares id (.called i out)) :
    (desktop.call i out run).Dormant id before := by
  have regular := dormant.regular.called running out
  have here := dormant.regular.runs _ (mem_of_getElem? running)
  cases run with
  | reading prog =>
    refine ⟨regular, dormant.kept.imp_right ?_⟩
    rintro ⟨calm, same⟩
    refine ⟨⟨calm.serving, calm.unreplied, calm.unstaged⟩, ?_⟩
    intro path staging
    rw [← same _ staging]
    exact Prog.Within.resume_frame here (fun _ never => never.elim) _ _
  | acting decision prog =>
    refine ⟨regular, .inl ?_⟩
    rcases spares with decided | ⟨_, own⟩
    · exact decided
    · have acts : decision.id ∈ desktop.carried? (.called i out) := by
        simp [carried?, running, ReconcileRun.decision?]
      rw [← own _ acts]
      exact here.1
  | waiting recovered nonce | ended res => exact dormant

theorem Desktop.Dormant.settled (i : Nat) (recovered : RecoveredTransaction)
    (res : Except ReconcileError ReconcileResult) :
    (desktop.settle libs i recovered res).Dormant id before := by
  have regular := dormant.regular.settled libs i recovered res
  cases res with
  | error error => exact dormant.unmoved regular rfl (Subset.refl _)
  | ok res =>
    unfold Desktop.settle at regular ⊢
    dsimp only at regular ⊢
    split_ifs at regular ⊢
    · exact dormant.unmoved regular rfl (subset_append_left _ _)
    · exact dormant.unmoved regular rfl (Subset.refl _)

end

theorem Desktop.Dormant.step (dormant : desktop.Dormant id before) {ev : DesktopEvent}
    (spares : desktop.Spares id ev) : (desktop.step libs ev).Dormant id before := by
  have regular := dormant.regular.step libs ev
  cases ev with
  | daemon ev => exact dormant.daemon spares
  | started => exact dormant.unmoved regular rfl (Subset.refl _)
  | called i out =>
    unfold Desktop.step
    dsimp only
    split
    · rename_i run running
      exact dormant.called running spares
    · exact dormant
  | asked i nonce =>
    unfold Desktop.step at regular ⊢
    dsimp only at regular ⊢
    split at regular
    · exact dormant.unmoved regular rfl (Subset.refl _)
    · exact dormant.unmoved regular rfl (Subset.refl _)
    · exact dormant
  | answered i resp =>
    unfold Desktop.step
    dsimp only
    split
    · exact dormant.settled i _ _
    · exact dormant
  | unanswered i fault =>
    unfold Desktop.step at regular ⊢
    dsimp only at regular ⊢
    split at regular
    · exact dormant.unmoved regular rfl (Subset.refl _)
    · exact dormant

end

/--
After an attempt has ended undecided, its journal, pending bond and pending
key stay as they are until a recovery run has decided its transaction, in
every run in which until then no `Stage` request is taken up and no decision
of another transaction is carried out.
-/
theorem undecided_staging_preserved (libs : Primitives) (hostPubkey : Pubkey)
    (hostName : Bytes) (disk : BondDisk) (owner : BondPath → TransactionId)
    (earlier : List DesktopEvent) {left : Desktop}
    (lived : Runs.run (Desktop.step libs) (.start hostPubkey hostName disk owner) earlier = left)
    {att : Attempt} (running : left.daemon.session.attempt = some att)
    (undecided : Undecided att) (later : List DesktopEvent)
    (spares :
      Runs.Along (Desktop.step libs) (Desktop.Spares att.context.transactionId) left later) :
    Runs.Throughout (Desktop.step libs)
      (Desktop.Preserved libs att.context left.daemon.disk) left later := by
  have regular : left.Regular := by
    rw [← lived]
    exact Desktop.run_regular
  have dormant : left.Dormant att.context.transactionId left.daemon.disk :=
    ⟨regular, .inr ⟨regular.orderly.calm running undecided.ended, fun _ _ => rfl⟩⟩
  have throughout : Runs.Throughout (.step libs)
      (Desktop.Dormant att.context.transactionId left.daemon.disk) left later := by
    apply Runs.throughout_of_along _ dormant spares
    exact fun _ _ spares dormant => dormant.step spares
  apply throughout.imp
  intro desktop kept
  refine kept.kept.imp_right ?_
  rintro ⟨_, same⟩ path staging
  exact same _ staging.isStaging

/-- An attempt whose peer stays silent after the acknowledgement. -/
def uncertainRun : List DesktopEvent :=
  List.map DesktopEvent.daemon (acknowledgedRun ++ [.polled true, .polled true])

def uncertainDesktop : Desktop :=
  Runs.run (Desktop.step singleStore)
    (.start (.replicate 32 0) [] (fun _ => none) fun _ => .replicate 16 0) uncertainRun

def nextAttempt : List DesktopEvent :=
  let hear (op : Operation) : List DaemonEvent :=
    [.control (Message.encode ⟨.replicate 16 8, op⟩), .polled true]
  List.map DesktopEvent.daemon
    ([.opened (.replicate 32 1) (.replicate 6 2) (some (.replicate 16 8)), .polled true] ++
    hear .capability ++ [.oobAnswered true, .polled true] ++ hear .confirm)

def recoveryQuery : List DesktopEvent :=
  .started :: List.replicate 2 (.called 0 .performed) ++ [.asked 0 5]

theorem uncertainDesktop_undecided : ∃ att, uncertainDesktop.daemon.session.attempt =
    some att ∧ att.context.transactionId = .replicate 16 7 ∧ Undecided att := by
  have ended :
      uncertainDesktop.daemon.session.attempt.any
        (fun att =>
          att.context.transactionId = .replicate 16 7 ∧ Undecided att) = true := by
    decide +kernel
  obtain ⟨att, running, holds⟩ := (any_eq_true _ _).mp ended
  exact ⟨att, running, of_decide_eq_true holds⟩

/--
The phone's answer to the recovery run comes before the second attempt is
staged, so that the first one is decided by then.
-/
theorem uncertainDesktop_preserved :
    ∃ att,
      uncertainDesktop.daemon.session.attempt = some att ∧
        Undecided att ∧
        Runs.Throughout (Desktop.step singleStore)
          (Desktop.Preserved singleStore att.context uncertainDesktop.daemon.disk)
          uncertainDesktop
          (nextAttempt ++ recoveryQuery ++
            [.answered 0 (.response (.replicate 16 7) 5 .committed)] ++
            servedRequest.map .daemon) := by
  obtain ⟨att, running, same, undecided⟩ := uncertainDesktop_undecided
  refine ⟨att, running, undecided, ?_⟩
  apply undecided_staging_preserved _ _ [] (fun _ => none)
    (fun _ => .replicate 16 0) _ (rfl : _ = uncertainDesktop) running undecided
  rw [same]
  decide +kernel

/--
The second attempt is staged while the first one is undecided: the journal of
the first is gone, and no recovery run was ever started.
-/
theorem nextAttempt_replaces_staging :
    ∃ att,
      uncertainDesktop.daemon.session.attempt = some att ∧
        Undecided att ∧
        ¬ Desktop.Preserved singleStore att.context
          uncertainDesktop.daemon.disk
          (Runs.run (Desktop.step singleStore) uncertainDesktop
            (nextAttempt ++ servedRequest.map .daemon)) := by
  obtain ⟨att, running, same, undecided⟩ := uncertainDesktop_undecided
  refine ⟨att, running, undecided, ?_⟩
  have replaced :
      List.Vector.replicate 16 7 ∉
          (Runs.run (.step singleStore) uncertainDesktop
            (nextAttempt ++ servedRequest.map .daemon)).decisions ∧
        (Runs.run (.step singleStore) uncertainDesktop
            (nextAttempt ++ servedRequest.map .daemon)).daemon.disk .journal ≠
          uncertainDesktop.daemon.disk .journal := by
    decide +kernel
  rintro (decided | kept)
  · rw [same] at decided
    exact replaced.1 decided
  · exact replaced.2 (kept .journal trivial)

end DeskUnlock.Recovery
