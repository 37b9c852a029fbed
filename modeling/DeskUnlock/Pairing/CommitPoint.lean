import DeskUnlock.Pairing.AttemptTrace

/-!
# After the durable commit decision

Once the journal says `commit_pending` an attempt may not be rolled back any
more: the engine must not ask for `Discard`, and the attempt must end bonded,
uncertain or with a persistence failure.

The driver keeps this rule at every suspension but one.  Between `COMMIT` and
`COMMIT_ACK` it still treats a timeout, an abort frame and an operation out of
order as a definite abort.
-/

namespace DeskUnlock.Pairing

open Runs

/-- Once the decision is durable, nothing is discarded. -/
def Attempt.CommitKept (att : Attempt) : Prop :=
  .answered .markCommit true ∈ att.history →
    .requested .discard ∉ att.history ∧ att.point ≠ .failed .aborted ∧ att.point ≠ .failed .rejected

def PairSession.CommitKept (sess : PairSession) : Prop :=
  ∀ att, sess.attempt = some att → att.CommitKept

/--
A poll of the wait for `COMMIT_ACK` takes exactly that operation, or finds
nothing while the deadline has not passed.
-/
def Acknowledging (sess : PairSession) (ev : SessionEvent) : Prop :=
  ∀ att late,
    sess.attempt = some att → att.point = .waitCommitAck →
      ev = .resumed (.poll late) →
        (sess.service.takeMessage
            att.context.transactionId).1 = some .commitAck ∨
          ((sess.service.takeMessage att.context.transactionId).1 = none ∧ late = false)

theorem Entry.Unfit.ne_answered {wanted : Operation} {entry : Entry} (unfit : entry.Unfit wanted)
    {phase : PairCommitPhase} {durable : Bool} : .answered phase durable ≠ entry := by
  cases unfit <;> exact nofun

theorem Entry.Unfit.ne_requested {wanted : Operation} {entry : Entry}
    (unfit : entry.Unfit wanted) {phase : PairCommitPhase} : .requested phase ≠ entry := by
  cases unfit <;> exact nofun

/-- On the line nothing is ever discarded. -/
theorem atPoint_commitKept (ctx : PairCommitContext)
    (point : Point) (live : point.live = true) : (Attempt.atPoint ctx point).CommitKept := by
  intro _
  refine ⟨?_, ?_, ?_⟩
  · intro mem
    have onLine : .requested .discard ∈ successLine := List.mem_of_mem_take mem
    revert onLine
    decide
  · rintro rfl
    cases live
  · rintro rfl
    cases live

/-- Off the line, the rule is broken exactly behind a missing `COMMIT_ACK`. -/
theorem Left.commitKept_iff {origin : Point} {att : Attempt}
    (exit : Left origin att.point att.history) :
    att.CommitKept ↔ origin ≠ .waitCommitAck := by
  obtain ⟨ctx, tx, point, history⟩ := att
  unfold Attempt.CommitKept
  cases exit with
  | noCapability entry unfit => simp [unfit.ne_answered]
  | rejected => simp
  | noConfirm entry unfit => simp [unfit.ne_answered]
  | notStaged => simp
  | noPrepared entry unfit => simp [discardTail, unfit.ne_answered]
  | discardedPrepared entry unfit durable => simp [discardTail, unfit.ne_answered]
  | notMarked => simp
  | noCommitAck entry unfit
  | discardedCommit entry unfit durable => simp [discardTail]
  | noCommitted entry unfit => simp [unfit.ne_requested]
  | notPromoted | bonded => simp

theorem Onward.commitKept {origin : Point} {att : Attempt} (onward : Onward origin att)
    (elsewhere : origin ≠ .waitCommitAck) : att.CommitKept := by
  cases onward with
  | stayed ctx live
  | moved ctx live => exact atPoint_commitKept _ _ live
  | left exit => exact exit.commitKept_iff.mpr elsewhere

theorem Traced.atPoint_of_live {att : Attempt} (traced : Traced att)
    (live : att.point.live = true) : att = .atPoint att.context att.point := by
  cases traced with
  | onLine ctx point _ => rfl
  | left origin exit =>
    obtain ⟨ctx, tx, point, history⟩ := att
    cases exit <;> cases live

/-- The decisive poll keeps the rule exactly when it is acknowledging. -/
theorem poll_waitCommitAck_commitKept_iff (ctx : PairCommitContext)
    (svc : PairServiceState) (commits : List PairCommitRequest) (late : Bool) :
    (Drive.advance
        ⟨svc, commits, .atPoint ctx .waitCommitAck⟩ (.poll late)).attempt.CommitKept ↔
      (svc.takeMessage ctx.transactionId).1 = some .commitAck ∨
        ((svc.takeMessage ctx.transactionId).1 = none ∧ late = false) := by
  change (Drive.waitForOperation ⟨svc, commits, .atPoint ctx .waitCommitAck⟩
      late .takeCommitAck).attempt.CommitKept ↔ _
  rcases took : svc.takeMessage _ with ⟨_ | op, taken⟩
  · cases late with
    | true =>
      have exit := takeCommitAck_left ctx svc commits Entry.Unfit.late (.inl rfl)
      simpa [Drive.waitForOperation, Attempt.atPoint, took] using exit.commitKept_iff
    | false =>
      simpa [Drive.waitForOperation, Attempt.atPoint, took] using
        atPoint_commitKept _ .waitCommitAck rfl
  · by_cases wanted : op = .commitAck
    · subst wanted
      have kept := atPoint_commitKept ctx .publishCommitted rfl
      rw [← takeCommitAck_moved _ _] at kept
      simpa [Drive.waitForOperation, Attempt.atPoint, took, Operation.isAbort] using kept
    · have unfit := Entry.Unfit.other _ wanted
      by_cases abort : op.isAbort = true
      · have exit := takeCommitAck_left ctx taken commits unfit (.inl rfl)
        simpa [Drive.waitForOperation, Attempt.atPoint, took, abort,
          wanted] using exit.commitKept_iff
      · have exit :=
          takeCommitAck_left ctx taken commits unfit (.inr ⟨op, wanted, rfl⟩)
        simpa [Drive.waitForOperation, Attempt.atPoint, took, abort,
          wanted] using exit.commitKept_iff

theorem advance_commitKept {drive : Drive} (traced : Traced drive.attempt)
    (kept : drive.attempt.CommitKept) {resum : Resumption}
    (elsewhere : drive.attempt.point = .waitCommitAck → ∀ late, resum ≠ .poll late) :
    (drive.advance resum).attempt.CommitKept := by
  obtain ⟨svc, commits, att⟩ := drive
  cases traced with
  | left origin exit =>
    have still := exit.commitKept_iff.mp kept
    exact (exit.advance _).commitKept_iff.mpr still
  | onLine ctx point live =>
    by_cases awaiting : point = .waitCommitAck
    · subst awaiting
      cases resum with
      | poll late => exact (elsewhere rfl late rfl).elim
      | _ => exact kept
    · exact (advance_onLine _ _ _ _ live _).commitKept awaiting

/--
One step keeps the rule exactly when it is not an unacknowledged poll of the
wait for `COMMIT_ACK`.
-/
theorem step_commitKept_iff (sess : PairSession) {ev : SessionEvent} (traced : sess.Traced)
    (kept : sess.CommitKept) : (sess.step ev).CommitKept ↔ Acknowledging sess ev := by
  by_cases decisive :
      ∃ att late, sess.attempt = some att ∧ att.point = .waitCommitAck ∧ ev = .resumed (.poll late)
  · obtain ⟨att, late, running, awaiting, rfl⟩ := decisive
    have onLine := (traced _ running).atPoint_of_live (by rw [awaiting]; rfl)
    rw [awaiting] at onLine
    have poll := poll_waitCommitAck_commitKept_iff att.context sess.service sess.commits late
    rw [← onLine] at poll
    simpa [PairSession.CommitKept, Acknowledging, PairSession.step,
      PairSession.resume, running, awaiting] using poll
  · have vacuous : Acknowledging sess ev := by
      intro att late running awaiting polled
      exact (decisive ⟨att, late, running, awaiting, polled⟩).elim
    refine ⟨fun _ => vacuous, fun _ => ?_⟩
    intro att after
    obtain same | ⟨phonePubkey, addr, id, -, -, same⟩ |
        ⟨resum, before, resumed, running, same⟩ :=
      step_attempt _ _
    · exact kept _ (same ▸ after)
    · rw [same] at after
      cases id with
      | none => cases after
      | some id =>
        cases after
        exact atPoint_commitKept _ .publishCapability rfl
    · rw [same] at after
      cases after
      apply advance_commitKept (traced _ running) (kept _ running)
      intro awaiting late polled
      exact decisive ⟨before, late, running, awaiting, by rw [resumed, polled]⟩

/--
In every run of the pair service the rule holds in every state reached exactly
when each poll of the wait for `COMMIT_ACK` takes that operation or finds
nothing before the deadline.
-/
theorem commitKept_throughout_iff (hostPubkey : Pubkey)
    (hostName : Bytes) (events : List SessionEvent) :
    Throughout PairSession.step PairSession.CommitKept
        (.start hostPubkey hostName) events ↔
      Along PairSession.step Acknowledging (.start hostPubkey hostName) events := by
  apply throughout_iff_along (fun sess ev traced => traced.step _)
    step_commitKept_iff (start_traced _ _)
  rintro att ⟨⟩

/-- A phone that completes the exchange up to `COMMIT` and then is late. -/
def lateAcknowledgement (id : TransactionId) : List SessionEvent :=
  let said (op : Operation) : SessionEvent := .control (Message.encode ⟨id, op⟩)
  [.opened (.replicate 32 1) (.replicate 6 2) (some id),
    .resumed (.poll false), .read 0,
    said .capability, .resumed (.poll false), .resumed (.oob true),
    .resumed (.poll false), .read 0, said .confirm, .resumed (.poll false),
    .received, .resumed (.reply true), said .prepared, .resumed (.poll false),
    .resumed (.poll false), .read 0, .received, .resumed (.reply true),
    .resumed (.poll false), .read 0, .resumed (.poll true), .received, .resumed (.reply true)]

/-- A late `COMMIT_ACK` discards a durably decided attempt. -/
theorem late_acknowledgement_discards :
    ¬ Throughout PairSession.step PairSession.CommitKept
        (.start (.replicate 32 0) []) (lateAcknowledgement (.replicate 16 7)) ∧
      ∃ att,
        (run PairSession.step (.start (.replicate 32 0) [])
          (lateAcknowledgement (.replicate 16 7))).attempt = some att ∧
        .answered .markCommit true ∈ att.history ∧ .requested .discard ∈ att.history ∧
        att.point = .failed .aborted := by
  constructor
  · intro throughout
    have kept := throughout.last _ rfl (by decide)
    exact kept.1 (by decide)
  · exact ⟨_, rfl, by decide, by decide, by decide⟩

end DeskUnlock.Pairing
