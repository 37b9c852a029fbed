import DeskUnlock.Recovery.DesktopRuns
import DeskUnlock.Recovery.Publication

/-!
# What an attempt leaves staged

`syauth-transport/src/pair_engine.rs`: `drive_pair_transaction` and
`abort_with_discard`.

An attempt that loses its peer before the decision to commit asks for a
`Discard`.  An attempt whose `Stage` or `MarkCommit` request was answered with
a failure does not: it publishes the error, records the abort and returns, and
what its requests have written so far stays on the disk.

The ledger below adds to the desktop the staging files that the requests of
the current attempt have changed.
-/

namespace DeskUnlock.Recovery

open FilePrograms Texts List Option Fallible FilePrograms.Action
open Pairing

/-! ## The files of the current attempt -/

/-- The desktop, and the staging files that its attempt has changed. -/
structure Ledger where
  desktop : Desktop
  staged : List BondPath

def Daemon.stages (daemon : Daemon) (out : Outcome) : List BondPath :=
  match daemon.consumer with
  | .serving req (.act action _) =>
    if isAwaited req then (action.altered daemon.disk out).filter BondPath.isStaging else []
  | _ => []

namespace Ledger

/-- A new attempt starts without files of its own. -/
def stagedAfter (ledger : Ledger) : DesktopEvent → List BondPath
  | .daemon (.opened _ _ _) => if ledger.desktop.daemon.session.idle then [] else ledger.staged
  | .daemon (.called out) => ledger.staged ++ ledger.desktop.daemon.stages out
  | _ => ledger.staged

def step (libs : Primitives) (ledger : Ledger) (ev : DesktopEvent) : Ledger where
  desktop := ledger.desktop.step libs ev
  staged := ledger.stagedAfter ev

def start (hostPubkey : Pubkey) (hostName : Bytes) (disk : BondDisk)
    (owner : BondPath → TransactionId) : Ledger where
  desktop := .start hostPubkey hostName disk owner
  staged := []

/--
If the attempt has ended without a durable decision to commit, none of its
staging files is on the disk.
-/
def Clean (ledger : Ledger) : Prop :=
  ∀ att, ledger.desktop.daemon.session.attempt = some att →
    att.point.ended = true →
      .answered .markCommit true ∉ att.history →
        ∀ path ∈ ledger.staged, ledger.desktop.daemon.disk path = none

/--
A `Stage` that fails has staged nothing yet, `MarkCommit` does not fail, and a
`Discard` is carried out and its removals succeed or find nothing.
-/
def Careful (ledger : Ledger) : DesktopEvent → Prop
  | .daemon (.called out) =>
    match ledger.desktop.daemon.consumer with
    | .serving req (.act (.remove path) _) =>
      req.phase = .discard →
        out = .performed ∧
          (ledger.desktop.daemon.disk path = none ∨
            ((Action.remove path).apply ledger.desktop.daemon.disk).isSome)
    | _ => True
  | .daemon .answered =>
    match ledger.desktop.daemon.consumer with
    | .serving req (.done (.error _)) =>
      req.phase ≠ .markCommit ∧ (req.phase = .stage → ledger.staged = [])
    | _ => True
  | .daemon .dropped =>
    match ledger.desktop.daemon.consumer, ledger.desktop.daemon.session.commits with
    | .stopped, req :: _ => req.phase ≠ .markCommit ∧ req.phase ≠ .discard
    | _, _ => True
  | _ => True

instance (ledger : Ledger) (ev : DesktopEvent) : Decidable (ledger.Careful ev) := by
  unfold Careful
  repeat' split
  all_goals infer_instance

end Ledger

/-! ## The last answer -/

def answered? : Entry → Option (PairCommitPhase × Bool)
  | .answered phase durable => some (phase, durable)
  | _ => none

def lastAnswer? (att : Attempt) : Option (PairCommitPhase × Bool) :=
  (att.history.filterMap answered?).getLast?

theorem map_fst_answered? {history : List Entry} :
    (history.filterMap answered?).map Prod.fst = history.filterMap Entry.answer? := by
  rw [map_filterMap]
  congr 1
  funext entry
  cases entry <;> rfl

theorem lastAnswer?_unanswered {drive : Drive} {resum : Resumption}
    (unanswered : drive.answers resum = []) :
    lastAnswer? (drive.advance resum).attempt = lastAnswer? drive.attempt := by
  obtain ⟨suffix, extended, answers⟩ := advance_extends _ _
  have silent : suffix.filterMap answered? = [] := by
    rw [unanswered, ← map_fst_answered?] at answers
    exact map_eq_nil_iff.mp answers
  unfold lastAnswer?
  rw [extended.history, filterMap_append, silent, append_nil]

theorem lastAnswer?_reply {drive : Drive} (traced : Traced drive.attempt) {phase : PairCommitPhase}
    (awaiting : drive.attempt.point.awaited = some phase) (durable : Bool) :
    lastAnswer? (drive.advance (.reply durable)).attempt = some (phase, durable) := by
  obtain ⟨svc, commits, att⟩ := drive
  cases traced with
  | onLine ctx point live =>
    cases point with
    | requestStage
    | requestMarkCommit
    | requestPromote => cases awaiting; cases durable <;> rfl
    | requestDiscard error => cases live
    | _ => cases awaiting
  | left origin exit =>
    obtain ⟨ctx, tx, point, history⟩ := att
    have appended (error : PairEngineError) :
        lastAnswer?
            (Drive.advance
              ⟨svc, commits, ctx, tx, .requestDiscard error, history⟩
              (.reply durable)).attempt =
          some (.discard, durable) := by
      change ((history ++ [Entry.answered .discard durable]).filterMap answered?).getLast? = _
      rw [filterMap_append]
      exact getLast?_concat
    cases exit <;> cases awaiting <;> exact appended _

/-- After this answer none of the attempt's files may be left. -/
def clearing : Option (PairCommitPhase × Bool) → Bool
  | none => true
  | some (.stage, durable) | some (.markCommit, durable) => !durable
  | some (.discard, _) => true
  | some _ => false

variable {att : Attempt} {disk : BondDisk}

/-- An attempt that ends without a decision had an answer of that kind. -/
theorem clearing_of_ended (traced : Traced att) (ended : att.point.ended = true)
    (undecided : .answered .markCommit true ∉ att.history) : clearing (lastAnswer? att) = true := by
  cases traced with
  | onLine ctx point live =>
    cases point with
    | succeeded | failed error => cases live
    | _ => cases ended
  | left origin exit =>
    have line := exit.past_prefix.subset
    obtain ⟨ctx, tx, point, history⟩ := att
    cases exit with
    | noCapability entry unfit => cases unfit <;> rfl
    | rejected => rfl
    | noConfirm entry unfit => cases unfit <;> rfl
    | notStaged => rfl
    | noPrepared entry unfit => cases ended
    | discardedPrepared entry unfit durable => cases unfit <;> rfl
    | notMarked => rfl
    | noCommitAck entry unfit => cases ended
    | discardedCommit entry unfit durable => cases unfit <;> rfl
    | noCommitted entry unfit
    | notPromoted | bonded => exact (undecided (line (by decide))).elim

/-- Before its `Stage` request an attempt has received no answer. -/
theorem lastAnswer?_of_stage (traced : Traced att) (awaiting : att.point.awaited = some .stage) :
    lastAnswer? att = none := by
  cases traced with
  | onLine ctx point live =>
    cases point with
    | requestStage => rfl
    | _ => cases awaiting
  | left origin exit =>
    obtain ⟨ctx, tx, point, history⟩ := att
    cases exit <;> cases awaiting

/-- The last answer, also if the attempt has not yet received it. -/
def answerDue? (reply : Option Bool) (att : Attempt) : Option (PairCommitPhase × Bool) :=
  match reply, att.point.awaited with
  | some durable, some phase => some (phase, durable)
  | _, _ => lastAnswer? att

theorem answerDue?_none : answerDue? none att = lastAnswer? att := by
  unfold answerDue?
  split
  · rename_i replied _
    cases replied
  · rfl

theorem answerDue?_unanswered {drive : Drive} {resum : Resumption}
    (unanswered : drive.answers resum = []) {reply : Option Bool}
    (awaited : reply ≠ none → drive.attempt.point.awaited ≠ none) :
    answerDue? reply (drive.advance resum).attempt = answerDue? reply drive.attempt := by
  cases waiting : drive.attempt.point.awaited with
  | some phase => rw [advance_unanswered waiting unanswered]
  | none =>
    obtain rfl : reply = none := by
      by_contra replied
      exact awaited replied waiting
    exact lastAnswer?_unanswered unanswered

/-- The consumer waits with its answer for an attempt that awaits it. -/
theorem Daemon.Orderly.awaited_of_replied {daemon : Daemon} (orderly : daemon.Orderly)
    (running : daemon.session.attempt = some att) (replied : daemon.reply ≠ none) :
    att.point.awaited ≠ none := by
  obtain ⟨durable, replied⟩ := ne_none_iff_exists'.mp replied
  obtain ⟨_, other, phase, ran, awaiting⟩ := orderly.answering replied
  obtain rfl : att = other := some.inj (running.symm.trans ran)
  rw [awaiting]
  exact some_ne_none _

/-! ## What the requests do to the staging -/

def StagesFor (peerId : Text) (action : Action BondPath) : Prop :=
  ∀ path ∈ action.touches, path.isStaging = true → StagingPath peerId path

variable {peerId : Text} {path : BondPath} {staged : List BondPath}

theorem ClearsStaging.stagesFor {action : Action BondPath}
    (clears : ClearsStaging peerId action) : StagesFor peerId action := by
  intro path touched staging
  rcases clears with ⟨removed, own, rfl⟩ | spares
  · obtain rfl : path = removed := mem_singleton.mp touched
    exact own
  · exact absurd touched (spares.not_mem staging)

theorem ClearsStaging.absent {action : Action BondPath} (clears : ClearsStaging peerId action)
    (staging : path.isStaging = true) (absent : disk path = none) (out : Outcome) :
    (action.perform disk out).1 path = none := by
  by_cases touched : path ∈ action.touches
  · rcases clears with ⟨removed, own, rfl⟩ | spares
    · obtain rfl : path = removed := mem_singleton.mp touched
      cases out <;> simp [perform, apply, absent]
    · exact absurd touched (spares.not_mem staging)
  · rw [perform_frame touched, absent]

section

attribute [local simp] StagesFor Action.touches BondPath.isStaging StagingPath

theorem within_writeJournal {peerId : Text} {record : JournalRecord} :
    Fallible.Within (ReadsStaging peerId) (StagesFor peerId) (writeJournal record) := by
  apply within_call_bind (by simp)
  apply within_call_bind (by simp)
  exact within_call (by simp)

theorem within_stage {libs : Primitives} {tx : TransactionId} {peerId peerAddress : Text}
    {bond : Bond} {bondKey : BondKey} : Fallible.Within (ReadsStaging peerId)
    (StagesFor peerId) (stage libs tx peerId peerAddress bond bondKey) := by
  apply within_call_bind (by simp)
  apply within_call_bind (by simp)
  apply within_bind
  · exact trivial
  intro pending
  apply within_bind
  · apply within_adapt
    apply within_save <;> simp
  intro _
  apply within_call_bind (by simp)
  apply within_call_bind (by simp)
  apply within_call_bind (by simp)
  apply within_call_bind (by simp)
  apply within_call_bind (by simp)
  exact within_writeJournal

theorem within_markCommitPending {peerId : Text} :
    Fallible.Within (ReadsStaging peerId) (StagesFor peerId) markCommitPending := by
  apply within_bind
  · refine ⟨fun _ => trivial, fun reply => ?_⟩
    rcases reply with (_ | _) | bytes
    · exact trivial
    · exact trivial
    · dsimp only [Prog.bind, ExceptT.bindCont]
      cases decodeJournal bytes <;> exact trivial
  intro found
  cases found with
  | none => exact trivial
  | some record => exact within_writeJournal

end

/-- Of the staging files an attempt's request changes those of its peer. -/
theorem within_commitAction {libs : Primitives} {ctx : PairCommitContext}
    {phase : PairCommitPhase} (own : isAwaited (ctx.requestOf phase) = true)
    {displayName : Option Text} {now : OffsetDateTime} :
    Fallible.Within (ReadsStaging (peerIdOf libs ctx))
      (StagesFor (peerIdOf libs ctx))
      (commitAction libs (ctx.requestOf phase) displayName now) := by
  cases phase with
  | stage => exact within_stage
  | markCommit => exact within_markCommitPending
  | promote => exact (within_promote _).imp (fun _ read => read) fun _ clears => clears.stagesFor
  | discard =>
    exact within_discard_clears.imp (fun _ read => read) fun _ clears => clears.stagesFor
  | revoke => cases own

def removals : List BondPath → CommitProgram
  | [] => .done (.ok ())
  | path :: rest => .act (.remove path) fun _ => removals rest

theorem discard_eq_removals {peerId : Text} :
    discard peerId = removals [.journal, .pendingBond, .pendingKey peerId] :=
  rfl

theorem mem_discard_of_stagingPath (staging : StagingPath peerId path) :
    path ∈ [BondPath.journal, .pendingBond, .pendingKey peerId] := by
  cases path with
  | journal | pendingBond => simp
  | pendingKey other =>
    obtain rfl : other = peerId := staging
    simp
  | _ => cases staging

/-! ## The invariant -/

/-- The request under way keeps to its peer, and a `Discard` gets done. -/
def Serves (peerId : Text) (phase : PairCommitPhase)
    (prog : CommitProgram) (staged : List BondPath) (disk : BondDisk) : Prop :=
  prog.Within (ReadsStaging peerId) (StagesFor peerId) ∧
    (phase = .discard →
      ∃ rest, prog = removals rest ∧ ∀ path ∈ staged, disk path = none ∨ path ∈ rest)

/-- What is known of the attempt's files. -/
structure Accounts (peerId : Text) (cleared : Bool) (consumer : Consumer)
    (staged : List BondPath) (disk : BondDisk) : Prop where
  own : ∀ path ∈ staged, StagingPath peerId path
  serving :
    ∀ req prog, consumer = .serving req prog →
      isAwaited req = true → Serves peerId req.phase prog staged disk
  gone :
    (∀ req ∈ consumer.requests, isAwaited req = false) →
      cleared = true → ∀ path ∈ staged, disk path = none

/-- What stays staged is accounted for. -/
structure Ledger.Tidy (libs : Primitives) (ledger : Ledger) :
    Prop where
  regular : ledger.desktop.Regular
  accounts :
    ∀ att, ledger.desktop.daemon.session.attempt = some att →
      Accounts (peerIdOf libs att.context)
        (clearing (answerDue? ledger.desktop.daemon.reply att))
        ledger.desktop.daemon.consumer ledger.staged ledger.desktop.daemon.disk

theorem Ledger.start_tidy {libs : Primitives} {hostPubkey : Pubkey} {hostName : Bytes}
    {owner : BondPath → TransactionId} :
    (Ledger.start hostPubkey hostName disk owner).Tidy libs where
  regular := Desktop.start_regular
  accounts := by rintro att ⟨⟩

/-- Where a staging file that is gone stays gone, the accounts stay. -/
theorem Accounts.cleared {cleared : Bool} {consumer : Consumer} {before after : BondDisk}
    (accounts : Accounts peerId cleared consumer staged before)
    (absent : ∀ path, path.isStaging = true → before path = none → after path = none) :
    Accounts peerId cleared consumer staged after where
  own := accounts.own
  serving := by
    intro req prog serving awaited
    obtain ⟨within, removing⟩ := accounts.serving _ _ serving awaited
    refine ⟨within, fun discard => ?_⟩
    obtain ⟨rest, left, known⟩ := removing discard
    refine ⟨rest, left, fun path mem => ?_⟩
    exact (known _ mem).imp_left (absent _ (accounts.own _ mem).isStaging)
  gone := by
    intro unawaited here path mem
    exact absent _ (accounts.own _ mem).isStaging (accounts.gone unawaited here _ mem)

def Accounted (libs : Primitives) (daemon : Daemon) (staged : List BondPath) : Prop :=
  ∀ att, daemon.session.attempt = some att →
    Accounts (peerIdOf libs att.context) (clearing (answerDue? daemon.reply att))
      daemon.consumer staged daemon.disk

/-! ## The steps -/

section

variable {libs : Primitives} {daemon : Daemon} {req : PairCommitRequest}
  {out : Outcome} {prog : CommitProgram}

section

variable (accounted : Accounted libs daemon staged)
include accounted

theorem Accounted.carried {after : Daemon} (consumer : after.consumer = daemon.consumer)
    (absent : ∀ path, path.isStaging = true → daemon.disk path = none → after.disk path = none)
    (answers :
      ∀ later, after.session.attempt = some later →
        ∃ att,
          daemon.session.attempt = some att ∧ later.context = att.context ∧
            answerDue? after.reply later = answerDue? daemon.reply att) :
    Accounted libs after staged := by
  intro later ran
  obtain ⟨att, running, ctx, due⟩ := answers _ ran
  rw [ctx, due, consumer]
  exact (accounted _ running).cleared absent

variable (orderly : daemon.Orderly)
include orderly

theorem Accounted.opened (phonePubkey : Pubkey) (addr : Address) (id : Option TransactionId) :
    Accounted libs (daemon.advance (.opened phonePubkey addr id))
      (if daemon.session.idle then [] else staged) := by
  cases idle : daemon.session.idle with
  | false =>
    refine accounted.carried rfl (fun _ _ absent => absent) fun later ran => ?_
    change (daemon.session.step (.opened phonePubkey addr id)).attempt = _ at ran
    rw [PairSession.step_opened_busy idle] at ran
    exact ⟨later, ran, rfl, rfl⟩
  | true =>
    have quiet := orderly.quiet (awaitedRequests_of_idle idle)
    refine fun att _ => ⟨nofun, ?_, fun _ _ => nofun⟩
    intro req prog serving awaited
    have inside : req ∈ daemon.requests := by
      have serving : daemon.consumer = .serving req prog := serving
      simp [Daemon.requests, serving, Consumer.requests]
    exact (filter_eq_nil_iff.mp quiet.2 _ inside awaited).elim

theorem Accounted.resumed (resum : Resumption)
    (unanswering : ∀ durable, resum ≠ .reply durable) :
    Accounted libs (daemon.advance (.resumed resum)) staged := by
  refine accounted.carried rfl (fun _ _ absent => absent) fun later ran => ?_
  change (daemon.session.resume resum).attempt = _ at ran
  cases running : daemon.session.attempt with
  | none =>
    have same := PairSession.step_resumed_none running resum
    change daemon.session.resume resum = _ at same
    rw [same, running] at ran
    cases ran
  | some att =>
    rw [PairSession.resume_eq running] at ran
    obtain rfl := some.inj ran
    obtain ⟨suffix, extended, _⟩ := advance_extends (daemon.session.drive _) _
    have due :=
      answerDue?_unanswered (answers_eq_nil (daemon.session.drive _) unanswering)
        (orderly.awaited_of_replied running)
    exact ⟨att, rfl, extended.context, due⟩

theorem Accounted.replied {durable : Bool} (replied : daemon.reply = some durable) :
    Accounted libs { daemon.advance (.resumed (.reply durable)) with reply := none } staged := by
  refine accounted.carried rfl (fun _ _ absent => absent) fun later ran => ?_
  change (daemon.session.resume (.reply durable)).attempt = _ at ran
  obtain ⟨_, att, phase, running, awaiting⟩ := orderly.answering replied
  rw [PairSession.resume_eq running] at ran
  obtain rfl := some.inj ran
  obtain ⟨suffix, extended, _⟩ := advance_extends (daemon.session.drive _) (.reply _)
  refine ⟨att, running, extended.context, ?_⟩
  have received :=
    @lastAnswer?_reply (daemon.session.drive _) (orderly.traced _ running) _ awaiting durable
  rw [answerDue?_none, received, replied]
  simp only [answerDue?, awaiting]

theorem Accounted.received {rest : List PairCommitRequest} (idle : daemon.consumer = .idle)
    (queued : daemon.session.commits = req :: rest) (displayName : Option Text)
    (now : OffsetDateTime) :
    Accounted libs
      { daemon.advance .received with
        consumer := .serving req (commitAction libs req displayName now) }
      staged := by
  intro att ran
  have running : daemon.session.attempt = some att := ran
  have accounts := accounted _ running
  have inside : req ∈ daemon.requests := by simp [Daemon.requests, queued]
  refine ⟨accounts.own, ?_, ?_⟩
  · rintro served prog ⟨⟩ awaited
    obtain ⟨_, other, phase, here, awaiting, rfl⟩ := orderly.awaiting inside awaited
    obtain rfl : att = other := some.inj (running.symm.trans here)
    refine ⟨within_commitAction awaited, ?_⟩
    intro discards
    obtain rfl : phase = .discard := discards
    refine ⟨_, discard_eq_removals, fun path mem => .inr ?_⟩
    exact mem_discard_of_stagingPath (accounts.own _ mem)
  · intro _ cleared
    apply accounts.gone _ cleared
    rw [idle]
    intro served mem
    cases mem

end

theorem Daemon.touches_of_stages (serving : daemon.consumer = .serving req prog)
    (mem : path ∈ daemon.stages out) :
    path.isStaging = true ∧ ∃ action next, prog = .act action next ∧ path ∈ action.touches := by
  unfold Daemon.stages at mem
  rw [serving] at mem
  cases prog with
  | act action next =>
    dsimp only at mem
    split_ifs at mem
    · obtain ⟨altered, staging⟩ := mem_filter.mp mem
      exact ⟨staging, action, next, rfl, touches_of_altered altered⟩
    · cases mem
  | _ => cases mem

theorem perform_remove_absent
    (found : disk path = none ∨ ((Action.remove path).apply disk).isSome) :
    ((Action.remove path).perform disk .performed).1 path = none := by
  rcases standing : disk path with _ | ⟨bytes, mode⟩ | mode
  · simp [perform, apply, standing]
  · simp [perform, apply, standing]
  · simp [apply, standing] at found

section Called

variable (serving : daemon.consumer = .serving req prog)
  (careful :
    ∀ path next, prog = .act (.remove path) next → req.phase = .discard →
      out = .performed ∧
        (daemon.disk path = none ∨ ((Action.remove path).apply daemon.disk).isSome))
include serving careful

theorem Serves.removed (serves : Serves peerId req.phase prog staged daemon.disk) :
    Serves peerId req.phase (prog.resume daemon.disk out).2
      (staged ++ daemon.stages out) (prog.resume daemon.disk out).1 := by
  refine ⟨serves.1.resume _ _, fun discards => ?_⟩
  obtain ⟨rest, rfl, known⟩ := serves.2 discards
  cases rest with
  | nil =>
    refine ⟨[], rfl, fun path mem => ?_⟩
    rcases mem_append.mp mem with old | new
    · exact known _ old
    · obtain ⟨_, action, next, acts, _⟩ := Daemon.touches_of_stages serving new
      cases acts
  | cons first rest =>
    obtain ⟨rfl, found⟩ := careful _ _ rfl discards
    have removed := perform_remove_absent found
    refine ⟨rest, rfl, fun path mem => ?_⟩
    change ((remove first).perform daemon.disk .performed).1 path = none ∨ _
    by_cases same : path = first
    · rw [same]
      exact .inl removed
    · have outside : path ∉ (remove first).touches := by
        simpa [touches] using same
      rcases mem_append.mp mem with old | new
      · rw [perform_frame outside]
        refine (known _ old).imp_right fun left => ?_
        exact (mem_cons.mp left).resolve_left same
      · obtain ⟨_, action, next, acts, touched⟩ := Daemon.touches_of_stages serving new
        cases acts
        exact absurd touched outside

theorem Accounts.called {cleared : Bool}
    (accounts : Accounts peerId cleared daemon.consumer staged daemon.disk)
    (awaited : isAwaited req = true) :
    Accounts peerId cleared
      (.serving req (prog.resume daemon.disk out).2) (staged ++ daemon.stages out)
      (prog.resume daemon.disk out).1 := by
  have serves := accounts.serving _ _ serving awaited
  refine ⟨?_, ?_, ?_⟩
  · intro path mem
    rcases mem_append.mp mem with old | new
    · exact accounts.own _ old
    · obtain ⟨staging, action, next, rfl, touched⟩ := Daemon.touches_of_stages serving new
      exact serves.1.1 _ touched staging
  · rintro served next ⟨⟩ _
    exact serves.removed serving careful
  · intro unawaited
    have revoking := unawaited _ mem_cons_self
    rw [awaited] at revoking
    cases revoking

theorem Accounted.called (accounted : Accounted libs daemon staged)
    (spares : isAwaited req = false → prog.Within (fun _ => True) SparesStaging) :
    Accounted libs
      { daemon with
        disk := (prog.resume daemon.disk out).1
        consumer := .serving req (prog.resume daemon.disk out).2 }
      (staged ++ daemon.stages out) := by
  intro att ran
  have accounts := accounted _ ran
  cases awaited : isAwaited req with
  | true => exact accounts.called serving careful awaited
  | false =>
    have kept : daemon.stages out = [] := by
      unfold Daemon.stages
      rw [serving]
      cases prog <;> simp [awaited]
    rw [kept, append_nil]
    have absent (path : BondPath) (staging : path.isStaging = true)
        (absent : daemon.disk path = none) : (prog.resume daemon.disk out).1 path = none := by
      rw [(spares awaited).resume_frame (fun action spared => spared.not_mem staging) _]
      exact absent
    have later := accounts.cleared absent
    refine ⟨later.own, ?_, ?_⟩
    · rintro served next ⟨⟩ own
      rw [awaited] at own
      cases own
    · intro revoking
      apply later.gone
      rw [serving]
      exact revoking

end Called

theorem accounts_of_resting {cleared : Bool} {consumer : Consumer}
    (resting : consumer = .idle ∨ consumer = .stopped)
    (own : ∀ path ∈ staged, StagingPath peerId path)
    (gone : cleared = true → ∀ path ∈ staged, disk path = none) :
    Accounts peerId cleared consumer staged disk := by
  refine ⟨own, ?_, fun _ => gone⟩
  rintro req prog rfl
  rcases resting with idle | stopped
  · cases idle
  · cases stopped

section

variable (accounted : Accounted libs daemon staged) (orderly : daemon.Orderly)
include accounted orderly

theorem Accounted.settled {base : Daemon} {durable : Bool}
    (removed : daemon.requests = req :: base.requests)
    (same : base.session.attempt = daemon.session.attempt) (reply : base.reply = daemon.reply)
    (disk : base.disk = daemon.disk) (resting : base.consumer = .idle ∨ base.consumer = .stopped)
    (unawaited :
      isAwaited req = false → ∀ served ∈ daemon.consumer.requests, isAwaited served = false)
    (gone :
      isAwaited req = true → clearing (some (req.phase, durable)) = true →
        ∀ path ∈ staged, daemon.disk path = none) :
    Accounted libs (base.answer req durable) staged := by
  intro att ran
  unfold Daemon.answer at ran ⊢
  split_ifs at ran ⊢ with revoke
  · rw [same] at ran
    have accounts := accounted _ ran
    rw [reply, disk]
    apply accounts_of_resting resting accounts.own
    apply accounts.gone
    exact unawaited (by simp [isAwaited, revoke])
  · have running : daemon.session.attempt = some att := same ▸ ran
    have awaited : isAwaited req = true := by simpa [isAwaited] using revoke
    obtain ⟨_, other, phase, here, awaiting, rfl⟩ :=
      orderly.awaiting (removed ▸ mem_cons_self) awaited
    obtain rfl : att = other := some.inj (running.symm.trans here)
    apply accounts_of_resting resting (accounted _ running).own
    intro cleared
    rw [disk]
    apply gone awaited
    simp only [answerDue?, awaiting] at cleared
    exact cleared

theorem Accounted.answered {reply : Except RecoveryError Unit}
    (serving : daemon.consumer = .serving req (.done reply))
    {consumer : Consumer} (resting : consumer = .idle ∨ consumer = .stopped)
    (careful : reply.isOk = false → req.phase ≠ .markCommit ∧ (req.phase = .stage → staged = [])) :
    Accounted libs ({ daemon with consumer }.answer req reply.isOk) staged := by
  apply accounted.settled orderly (Daemon.requests_answered serving resting) rfl rfl rfl resting
  · intro revoking served mem
    rw [serving] at mem
    rw [mem_singleton.mp mem]
    exact revoking
  · intro awaited cleared path mem
    have inside : req ∈ daemon.requests := by simp [Daemon.requests, serving, Consumer.requests]
    obtain ⟨_, att, phase, running, awaiting, rfl⟩ := orderly.awaiting inside awaited
    have serves := (accounted _ running).serving _ _ serving awaited
    cases phase with
    | stage =>
      have failed : reply.isOk = false := by
        simpa [clearing, PairCommitContext.requestOf] using cleared
      rw [(careful failed).2 rfl] at mem
      cases mem
    | markCommit =>
      have failed : reply.isOk = false := by
        simpa [clearing, PairCommitContext.requestOf] using cleared
      exact ((careful failed).1 rfl).elim
    | promote => cases cleared
    | discard =>
      obtain ⟨rest, left, known⟩ := serves.2 rfl
      cases rest with
      | nil => exact (known _ mem).resolve_right not_mem_nil
      | cons first rest => cases left
    | revoke => cases awaited

theorem Accounted.dropped {rest : List PairCommitRequest} (stopped : daemon.consumer = .stopped)
    (queued : daemon.session.commits = req :: rest)
    (careful : req.phase ≠ .markCommit ∧ req.phase ≠ .discard) :
    Accounted libs ((daemon.advance .received).answer req false) staged := by
  have removed := Daemon.requests_dropped stopped queued
  have resting : ∀ served ∈ daemon.consumer.requests, isAwaited served = false := by
    rw [stopped]
    exact nofun
  apply accounted.settled orderly removed rfl rfl rfl (.inr stopped) (fun _ => resting)
  intro awaited cleared
  obtain ⟨silent, att, phase, running, awaiting, rfl⟩ :=
    orderly.awaiting (removed ▸ mem_cons_self) awaited
  cases phase with
  | stage =>
    apply (accounted _ running).gone resting
    have traced := orderly.traced _ running
    rw [silent, answerDue?_none, lastAnswer?_of_stage traced awaiting]
    rfl
  | markCommit => exact (careful.1 rfl).elim
  | promote => cases cleared
  | discard => exact (careful.2 rfl).elim
  | revoke => cases awaited

end

end

section

variable {libs : Primitives} {ledger : Ledger}

section

variable (tidy : ledger.Tidy libs)
include tidy

theorem Ledger.Tidy.daemon {ev : DaemonEvent} (careful : ledger.Careful (.daemon ev)) :
    (ledger.step libs (.daemon ev)).Tidy libs := by
  have accounted : Accounted libs ledger.desktop.daemon ledger.staged := tidy.accounts
  have orderly := tidy.regular.orderly
  refine ⟨tidy.regular.step _ (.daemon _), ?_⟩
  change Accounted libs (ledger.desktop.daemon.step libs ev) (ledger.stagedAfter (.daemon ev))
  have moves := ledger.desktop.daemon.step_moves libs ev
  generalize ledger.desktop.daemon.step libs ev = after at moves ⊢
  cases moves with
  | ignored unopened uncalled =>
    cases ev with
    | opened phonePubkey addr id => exact absurd rfl (unopened _ _ _)
    | called out =>
      have kept : ledger.desktop.daemon.stages out = [] := by
        unfold Daemon.stages
        split
        · rename_i serving
          exact absurd serving (uncalled _ _ _ rfl)
        · rfl
      change Accounted _ _ (ledger.staged ++ ledger.desktop.daemon.stages out)
      rw [kept, append_nil]
      exact accounted
    | _ => exact accounted
  | control payload =>
    refine accounted.carried rfl (fun _ _ absent => absent) fun later ran => ?_
    change (ledger.desktop.daemon.session.step (.control payload)).attempt = _ at ran
    rw [PairSession.step_control_attempt] at ran
    exact ⟨later, ran, rfl, rfl⟩
  | read offset =>
    exact accounted.carried rfl (fun _ _ absent => absent) fun later ran => ⟨later, ran, rfl, rfl⟩
  | opened phonePubkey addr id => exact accounted.opened orderly _ _ _
  | polled late => exact accounted.resumed orderly (.poll _) nofun
  | oobAnswered accepted => exact accounted.resumed orderly (.oob _) nofun
  | notified => exact accounted.resumed orderly .notified nofun
  | received displayName now idle queued => exact accounted.received orderly idle queued _ _
  | called out serving =>
    refine accounted.called serving ?_ (tidy.regular.revoking _ _ serving)
    rintro path next rfl discards
    unfold Ledger.Careful at careful
    rw [serving] at careful
    exact careful discards
  | @answered req reply consumer serving resting =>
    apply accounted.answered orderly serving resting
    intro failed
    unfold Ledger.Careful at careful
    rw [serving] at careful
    cases reply with
    | ok value => cases failed
    | error error => exact careful
  | replied replied => exact accounted.replied orderly replied
  | dropped stopped queued =>
    unfold Ledger.Careful at careful
    rw [stopped, queued] at careful
    exact accounted.dropped orderly stopped queued careful

theorem Ledger.Tidy.unmoved (after : Ledger)
    (regular : after.desktop.Regular) (staged : after.staged = ledger.staged)
    (daemon : after.desktop.daemon = ledger.desktop.daemon) : after.Tidy libs := by
  refine ⟨regular, ?_⟩
  rw [daemon, staged]
  exact tidy.accounts

theorem Ledger.Tidy.recovered {i : Nat} {out : Outcome} {run : ReconcileRun}
    (running : ledger.desktop.runs[i]? = some run) :
    Ledger.Tidy libs ⟨ledger.desktop.call i out run, ledger.staged⟩ := by
  have accounted : Accounted libs ledger.desktop.daemon ledger.staged := tidy.accounts
  have here := tidy.regular.runs _ (mem_of_getElem? running)
  refine ⟨tidy.regular.called running _, ?_⟩
  cases run with
  | reading prog =>
    refine accounted.carried rfl ?_ fun later ran => ⟨later, ran, rfl, rfl⟩
    intro path _ absent
    change (prog.resume ledger.desktop.daemon.disk out).1 path = _
    rw [Prog.Within.resume_frame here (fun _ never => never.elim) _]
    exact absent
  | acting decision prog =>
    refine accounted.carried rfl ?_ fun later ran => ⟨later, ran, rfl, rfl⟩
    intro path staging absent
    cases prog with
    | act action next => exact here.2.1.absent staging absent _
    | _ => exact absent
  | waiting recovered nonce | ended res => exact accounted

end

theorem Desktop.settle_daemon {libs : Primitives} {desktop : Desktop} {i : Nat}
    {recovered : RecoveredTransaction} {res : Except ReconcileError ReconcileResult} :
    (desktop.settle libs i recovered res).daemon = desktop.daemon := by
  cases res with
  | error error => rfl
  | ok res =>
    unfold Desktop.settle
    dsimp only
    split_ifs <;> rfl

theorem Ledger.Tidy.step (tidy : ledger.Tidy libs) {ev : DesktopEvent}
    (careful : ledger.Careful ev) : (ledger.step libs ev).Tidy libs := by
  have regular := tidy.regular.step libs ev
  cases ev with
  | daemon ev => exact tidy.daemon careful
  | called i out =>
    unfold Ledger.step Desktop.step
    dsimp only
    split
    · rename_i run running
      exact tidy.recovered running
    · exact tidy
  | started => exact tidy.unmoved _ regular rfl rfl
  | asked i nonce =>
    refine tidy.unmoved _ regular rfl ?_
    change (ledger.desktop.step libs _).daemon = _
    unfold Desktop.step
    dsimp only
    split <;> rfl
  | answered i resp =>
    refine tidy.unmoved _ regular rfl ?_
    change (ledger.desktop.step libs _).daemon = _
    unfold Desktop.step
    dsimp only
    split
    · exact Desktop.settle_daemon
    · rfl
  | unanswered i fault =>
    refine tidy.unmoved _ regular rfl ?_
    change (ledger.desktop.step libs _).daemon = _
    unfold Desktop.step
    dsimp only
    split <;> rfl

end

/-! ## What is left when an attempt has ended -/

theorem Ledger.Tidy.clean {libs : Primitives} {ledger : Ledger}
    (tidy : ledger.Tidy libs) : ledger.Clean := by
  intro att running ended undecided
  have unawaited : att.point.awaited = none := by
    cases point : att.point with
    | succeeded | failed error => rfl
    | _ =>
      rw [point] at ended
      cases ended
  have nobody : awaitedRequests ledger.desktop.daemon.session = [] := by
    simp [awaitedRequests, running, unawaited]
  obtain ⟨silent, done⟩ := tidy.regular.orderly.quiet nobody
  apply (tidy.accounts _ running).gone
  · intro req mem
    apply Bool.eq_false_of_not_eq_true
    exact filter_eq_nil_iff.mp done _ (mem_append_left _ mem)
  · rw [silent]
    exact clearing_of_ended (tidy.regular.orderly.traced _ running) ended undecided

/--
In every run in which a `Stage` fails only before it has staged a file, no
`MarkCommit` fails and every `Discard` is carried out, an attempt that has
ended without a durable decision to commit has left no journal, pending bond
or pending key of its own.
-/
theorem undecided_attempt_leaves_nothing (libs : Primitives)
    (hostPubkey : Pubkey) (hostName : Bytes) (disk : BondDisk)
    (owner : BondPath → TransactionId) (events : List DesktopEvent)
    (careful :
      Runs.Along (Ledger.step libs) Ledger.Careful (.start hostPubkey hostName disk owner) events) :
    Runs.Throughout (Ledger.step libs) Ledger.Clean
      (.start hostPubkey hostName disk owner) events := by
  have tidy : Runs.Throughout (.step libs)
      (Ledger.Tidy libs) (.start hostPubkey hostName disk owner) events := by
    apply Runs.throughout_of_along _ _ careful
    · exact fun _ _ careful tidy => tidy.step careful
    · exact Ledger.start_tidy
  exact tidy.imp fun _ kept => kept.clean

def emptyLedger : Ledger := .start (.replicate 32 0) [] (fun _ => none) fun _ => .replicate 16 0

def heard (op : Operation) : List DaemonEvent :=
  [.control (Message.encode ⟨.replicate 16 7, op⟩), .polled true]

def confirmedAttempt : List DaemonEvent :=
  [.opened (.replicate 32 1) (.replicate 6 2) (some (.replicate 16 7)), .polled true] ++
  heard .capability ++ [.oobAnswered true, .polled true] ++ heard .confirm

/-- The phone falls silent after the staging, which is discarded. -/
def discardedAttempt : List DesktopEvent :=
  List.map DesktopEvent.daemon
    (confirmedAttempt ++ servedRequest ++ [.polled true] ++ servedRequest)

theorem discardedAttempt_leaves_nothing :
    (Runs.run (Ledger.step singleStore) emptyLedger
        discardedAttempt).desktop.daemon.session.attempt.any
          (fun att => .answered .stage true ∈ att.history) = true ∧
      Runs.Throughout (Ledger.step singleStore) Ledger.Clean emptyLedger discardedAttempt := by
  constructor
  · decide +kernel
  · apply undecided_attempt_leaves_nothing
    decide +kernel

/-- The write of the journal is refused after bond and key are staged. -/
def refusedStage : List DesktopEvent :=
  List.map DesktopEvent.daemon
    (confirmedAttempt ++ .received (some "phone".toList) ⟨0, 0⟩ ::
      List.replicate 11 (.called .performed) ++ [.called .refused, .answered, .replied])

/-- The journal of a staged attempt cannot be read. -/
def refusedMarkCommit : List DesktopEvent :=
  List.map DesktopEvent.daemon
    (confirmedAttempt ++ servedRequest ++ heard .prepared ++
      [.polled true, .received none ⟨0, 0⟩, .called .refused, .answered, .replied])

theorem not_clean {ledger : Ledger} {path : BondPath}
    (ended :
      ledger.desktop.daemon.session.attempt.any (fun att =>
        att.point.ended = true ∧ .answered .markCommit true ∉ att.history) = true)
    (own : path ∈ ledger.staged) (stands : ledger.desktop.daemon.disk path ≠ none) :
    ¬ ledger.Clean := by
  intro clean
  obtain ⟨att, running, holds⟩ := (any_eq_true _ _).mp ended
  obtain ⟨ended, undecided⟩ := of_decide_eq_true holds
  exact stands (clean _ running ended undecided _ own)

/--
After a `Stage` that fails at its last step the pending bond is left, and
after a `MarkCommit` that fails the journal is.
-/
theorem refused_requests_leave_staging :
    ¬ (Runs.run (Ledger.step singleStore) emptyLedger
        refusedStage).Clean ∧
      ¬ (Runs.run (Ledger.step singleStore) emptyLedger refusedMarkCommit).Clean := by
  constructor
  · apply @not_clean _ .pendingBond <;> decide +kernel
  · apply @not_clean _ .journal <;> decide +kernel

end DeskUnlock.Recovery
