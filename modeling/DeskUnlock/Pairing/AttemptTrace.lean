import DeskUnlock.Pairing.PairEngine

/-!
# What one attempt can do

A running attempt has no choice: the history and the transaction at each point
of the driver have a closed form, whatever the peer wrote and whoever was
late.  An attempt that left this line did so in one of finitely many ways.
The properties of an attempt are read off these two facts.
-/

namespace DeskUnlock.Pairing

open List

/-! ## The line of a successful attempt -/

/-- The driver has neither returned nor decided to return. -/
def Point.live : Point → Bool
  | .requestDiscard _ | .succeeded | .failed _ => false
  | _ => true

/-- Everything a successful attempt does, in order. -/
def successLine : List Entry :=
  [.published .capability,
    .took .capability, .localFact .capability, .localFact .verifiedExchange, .askedOob,
    .answeredOob true, .localFact .confirm, .published .confirm, .took .confirm, .requested .stage,
    .answered .stage true, .localFact .prepared, .took .prepared,
    .published .prepared, .requested .markCommit, .answered .markCommit true, .localFact .commit,
    .published .commit, .took .commitAck, .published .committed,
    .took .committed, .requested .promote, .answered .promote true, .localFact .committed]

/-- How much of the line lies behind a live point. -/
def Point.progress : Point → Nat
  | .waitCapability => 1
  | .requestOob => 5
  | .publishConfirm => 7
  | .waitConfirm => 8
  | .requestStage => 10
  | .waitPrepared => 12
  | .publishPrepared => 13
  | .requestMarkCommit => 15
  | .publishCommit => 17
  | .waitCommitAck => 18
  | .publishCommitted => 19
  | .waitCommitted => 20
  | .requestPromote => 22
  | .notifyBonded => 24
  | _ => 0

def Point.next : Point → Point
  | .publishCapability => .waitCapability
  | .waitCapability => .requestOob
  | .requestOob => .publishConfirm
  | .publishConfirm => .waitConfirm
  | .waitConfirm => .requestStage
  | .requestStage => .waitPrepared
  | .waitPrepared => .publishPrepared
  | .publishPrepared => .requestMarkCommit
  | .requestMarkCommit => .publishCommit
  | .publishCommit => .waitCommitAck
  | .waitCommitAck => .publishCommitted
  | .publishCommitted => .waitCommitted
  | .waitCommitted => .requestPromote
  | .requestPromote => .notifyBonded
  | .notifyBonded => .succeeded
  | point => point

def Point.awaited : Point → Option PairCommitPhase
  | .requestStage => some .stage
  | .requestMarkCommit => some .markCommit
  | .requestPromote => some .promote
  | .requestDiscard _ => some .discard
  | _ => none

def Point.past (point : Point) : List Entry := successLine.take point.progress

def Point.transaction (id : TransactionId) : Point → Transaction
  | .requestOob =>
    { Transaction.new id .coordinator with phase := .oobPending, capabilities := .all }
  | .publishConfirm | .waitConfirm =>
    { Transaction.new id .coordinator with
      phase := .oobPending, capabilities := .all, confirmed := ⟨true, false⟩ }
  | .requestStage =>
    { Transaction.new id .coordinator with
      phase := .preparing, capabilities := .all, confirmed := .all }
  | .waitPrepared =>
    { Transaction.new id .coordinator with
      phase := .preparing, capabilities := .all, confirmed := .all, prepared := ⟨true, false⟩ }
  | .publishPrepared | .requestMarkCommit =>
    { Transaction.new id .coordinator with
      phase := .prepared, capabilities := .all, confirmed := .all, prepared := .all }
  | .publishCommit | .waitCommitAck =>
    { Transaction.new id .coordinator with
      phase := .commitPending, capabilities := .all, confirmed := .all, prepared := .all }
  | .publishCommitted | .waitCommitted =>
    { Transaction.new id .coordinator with
      phase := .committed, capabilities := .all, confirmed := .all, prepared := .all }
  | .requestPromote =>
    { Transaction.new id .coordinator with
      phase := .committed, capabilities := .all, confirmed := .all
      prepared := .all, committed := ⟨false, true⟩ }
  | .notifyBonded =>
    { Transaction.new id .coordinator with
      phase := .bonded, capabilities := .all, confirmed := .all
      prepared := .all, committed := .all }
  | _ => .new id .coordinator

/-! ## Leaving the line -/

/-- The end of a wait that did not bring the operation it was for. -/
inductive Entry.Unfit (wanted : Operation) : Entry → Prop
  | late : Unfit wanted .timedOut
  | other (op : Operation) (differs : op ≠ wanted) : Unfit wanted (.took op)

/-- What `abort_with_discard` adds to the history before its request. -/
def discardTail : List Entry := [.published .error, .localFact (.abort .error), .requested .discard]

/-- How an attempt can leave the line at a point, with its whole history. -/
inductive Left : Point → Point → List Entry → Prop
  | noCapability (entry : Entry) (unfit : entry.Unfit .capability) :
      Left .waitCapability (.failed .aborted) (Point.past .waitCapability ++ [entry])
  | rejected :
      Left .requestOob (.failed .rejected)
        (Point.past .requestOob ++
          [.answeredOob false, .published .reject, .localFact (.abort .reject)])
  | noConfirm (entry : Entry) (unfit : entry.Unfit .confirm) :
      Left .waitConfirm (.failed .aborted) (Point.past .waitConfirm ++ [entry])
  | notStaged :
      Left .requestStage (.failed .persistence)
        (Point.past .requestStage ++
          [.answered .stage false, .published .error, .localFact (.abort .error)])
  | noPrepared (entry : Entry) (unfit : entry.Unfit .prepared) :
      Left .waitPrepared (.requestDiscard .aborted)
        (Point.past .waitPrepared ++ entry :: discardTail)
  | discardedPrepared (entry : Entry)
      (unfit : entry.Unfit .prepared) (durable : Bool) : Left .waitPrepared (.failed .aborted)
      (Point.past .waitPrepared ++ entry :: discardTail ++ [.answered .discard durable])
  | notMarked :
      Left .requestMarkCommit (.failed .persistence)
        (Point.past .requestMarkCommit ++
          [.answered .markCommit false, .published .error, .localFact (.abort .error)])
  | noCommitAck (entry : Entry) (unfit : entry.Unfit .commitAck) :
      Left .waitCommitAck (.requestDiscard .aborted)
        (Point.past .waitCommitAck ++ entry :: discardTail)
  | discardedCommit (entry : Entry)
      (unfit : entry.Unfit .commitAck) (durable : Bool) : Left .waitCommitAck (.failed .aborted)
      (Point.past .waitCommitAck ++ entry :: discardTail ++ [.answered .discard durable])
  | noCommitted (entry : Entry) (unfit : entry.Unfit .committed) :
      Left .waitCommitted (.failed .uncertain)
        (Point.past .waitCommitted ++ [entry, .localFact .disconnected])
  | notPromoted :
      Left .requestPromote (.failed .persistence)
        (Point.past .requestPromote ++ [.answered .promote false, .localFact .disconnected])
  | bonded : Left .notifyBonded .succeeded successLine

/-- What the way off the line can add to a history. -/
def Entry.departing : Entry → Bool
  | .took _ | .timedOut => true
  | .answeredOob accepted => !accepted
  | .answered phase durable => !durable || phase = .discard
  | .published op => op.isAbort
  | .localFact (.abort _) | .localFact .disconnected => true
  | .requested phase => phase = .discard
  | _ => false

theorem Entry.Unfit.departing {wanted : Operation} {entry : Entry} (unfit : entry.Unfit wanted) :
    entry.departing = true := by
  cases unfit <;> rfl

variable {origin point : Point} {history : List Entry}

/-- What was done on the line, and then only what leads off it. -/
theorem Left.exists_tail (exit : Left origin point history) :
    ∃ tail, history = origin.past ++ tail ∧ ∀ entry ∈ tail, entry.departing = true := by
  have unfitFirst : ∀ {wanted : Operation} {entry : Entry}
      {tail : List Entry}, entry.Unfit wanted → (∀ entry ∈ tail, entry.departing = true) →
      ∀ other ∈ entry :: tail, other.departing = true := by
    intro wanted entry tail unfit departs
    exact forall_mem_cons.mpr ⟨unfit.departing, departs⟩
  cases exit with
  | noCapability entry unfit => exact ⟨_, rfl, unfitFirst unfit nofun⟩
  | rejected => exact ⟨_, rfl, by decide⟩
  | noConfirm entry unfit => exact ⟨_, rfl, unfitFirst unfit nofun⟩
  | notStaged => exact ⟨_, rfl, by decide⟩
  | noPrepared entry unfit => exact ⟨_, rfl, unfitFirst unfit (by decide)⟩
  | discardedPrepared entry unfit durable =>
    exact ⟨_, rfl, unfitFirst unfit (by cases durable <;> decide)⟩
  | notMarked => exact ⟨_, rfl, by decide⟩
  | noCommitAck entry unfit => exact ⟨_, rfl, unfitFirst unfit (by decide)⟩
  | discardedCommit entry unfit durable =>
    exact ⟨_, rfl, unfitFirst unfit (by cases durable <;> decide)⟩
  | noCommitted entry unfit => exact ⟨_, rfl, unfitFirst unfit (by decide)⟩
  | notPromoted => exact ⟨_, rfl, by decide⟩
  | bonded => exact ⟨[], rfl, nofun⟩

theorem Left.mem_past_or_departing (exit : Left origin point history) :
    ∀ entry ∈ history, entry ∈ origin.past ∨ entry.departing = true := by
  obtain ⟨tail, rfl, departs⟩ := exit.exists_tail
  intro entry mem
  exact (mem_append.mp mem).imp_right (departs _)

theorem Left.past_prefix (exit : Left origin point history) : origin.past <+: history := by
  obtain ⟨tail, rfl, _⟩ := exit.exists_tail
  exact prefix_append _ _

def Attempt.atPoint (ctx : PairCommitContext) (point : Point) :
    Attempt where
  context := ctx
  transaction := point.transaction ctx.transactionId
  point := point
  history := point.past

/-- Still at `origin`, one point further, or off the line since `origin`. -/
inductive Onward (origin : Point) : Attempt → Prop
  | stayed (ctx : PairCommitContext) (live : origin.live = true) :
      Onward origin (.atPoint ctx origin)
  | moved (ctx : PairCommitContext)
      (live : origin.next.live = true) : Onward origin (.atPoint ctx origin.next)
  | left {att : Attempt}
      (exit : Left origin att.point att.history) : Onward origin att

/-- The attempt is on the line, or left it in one of the known ways. -/
inductive Traced : Attempt → Prop
  | onLine (ctx : PairCommitContext)
      (point : Point) (live : point.live = true) : Traced (.atPoint ctx point)
  | left {att : Attempt}
      (origin : Point) (exit : Left origin att.point att.history) : Traced att

variable {att : Attempt}

theorem Onward.traced {origin : Point} (onward : Onward origin att) : Traced att := by
  cases onward with
  | stayed ctx live => exact .onLine _ _ live
  | moved ctx live => exact .onLine _ _ live
  | left exit => exact .left _ exit

/-- An attempt has done a part of the line, and then left it. -/
theorem Traced.exists_tail (traced : Traced att) : ∃ progress tail, att.history =
    successLine.take progress ++ tail ∧ ∀ entry ∈ tail, entry.departing = true := by
  cases traced with
  | onLine ctx point live => exact ⟨point.progress, [], (append_nil _).symm, nofun⟩
  | left origin exit => exact ⟨origin.progress, exit.exists_tail⟩

/-- What precedes an entry of the line is the line up to it. -/
theorem Traced.before_eq (traced : Traced att) {entry : Entry}
    (proper : entry.departing = false) {before after : List Entry}
    (split : att.history = before ++ entry :: after) :
    before = successLine.takeWhile (· ≠ entry) := by
  obtain ⟨progress, tail, history, departs⟩ := traced.exists_tail
  have notLater : entry ∉ tail := by
    intro mem
    rw [departs _ mem] at proper
    cases proper
  obtain ⟨rest, line⟩ : ∃ rest, successLine = before ++ entry :: rest := by
    rw [history] at split
    rcases append_eq_append_iff.mp split with
      ⟨between, earlier, later⟩ | ⟨between, taken, remaining⟩
    · rw [later] at notLater
      exact (notLater (by simp)).elim
    · cases between with
      | nil =>
        rw [nil_append] at remaining
        exact (notLater (by simp [← remaining])).elim
      | cons first between =>
        obtain ⟨rfl, _⟩ := cons.inj remaining
        have whole := take_append_drop progress successLine
        rw [taken, append_assoc] at whole
        exact ⟨_, whole.symm⟩
  have once : successLine.Nodup := by decide
  rw [line] at once ⊢
  have absent : ∀ other ∈ before, other ≠ entry := by
    intro other mem same
    rw [nodup_append] at once
    exact once.2.2 _ mem _ mem_cons_self same
  rw [takeWhile_append_of_pos (by simpa using absent)]
  simp

/-- An entry of the line was preceded by what precedes it there. -/
theorem Traced.mem_of_mem (traced : Traced att)
    {entry earlier : Entry} (proper : entry.departing = false) (mem : entry ∈ att.history)
    (precedes : earlier ∈ successLine.takeWhile (· ≠ entry)) : earlier ∈ att.history := by
  obtain ⟨before, after, split⟩ := append_of_mem mem
  rw [← traced.before_eq proper split] at precedes
  rw [split]
  exact mem_append_left _ precedes

/-! ## What the service remembers -/

def Point.deciding : Point → Bool
  | .publishCommit | .waitCommitAck => true
  | _ => false

variable {error : PairEngineError} {op : Operation} {phase : PairCommitPhase}

namespace Drive

variable (drive : Drive)

/-- What the service remembers is the status of the transaction. -/
def Settled : Prop :=
  ∀ remembered, drive.service.session = some remembered →
    remembered = (drive.attempt.context.transactionId, drive.attempt.transaction.status)

/--
What the service remembers is the status of the transaction, or the status
before the commit decision.
-/
def Remembers : Prop :=
  if drive.attempt.point.deciding then
    drive.attempt.transaction.status = .commitPending ∧
      ∀ remembered, drive.service.session = some remembered →
        remembered = (drive.attempt.context.transactionId, .preCommit)
  else drive.Settled

theorem Remembers.settled {drive : Drive} (remembers : drive.Remembers)
    (decided : drive.attempt.point.deciding = false) : drive.Settled := by
  simpa [Remembers, decided] using remembers

theorem Settled.remembers {drive : Drive} (settled : drive.Settled)
    (decided : drive.attempt.point.deciding = false) : drive.Remembers := by
  simpa [Remembers, decided] using settled

/-- Only the attempt and what the service remembers of it matter. -/
theorem Remembers.congr {drive other : Drive}
    (remembers : drive.Remembers) (att : other.attempt = drive.attempt)
    (sess : other.service.session = drive.service.session) : other.Remembers := by
  unfold Remembers Settled at remembers ⊢
  rw [att, sess]
  exact remembers

theorem settled_rememberSession : drive.rememberSession.Settled := by
  rintro _ ⟨⟩
  rfl

theorem settled_refuse (op : Operation) : (drive.refuse op).Settled := settled_rememberSession _

theorem remembers_refused : ((drive.refuse op).suspend (.failed error)).Remembers :=
  .remembers (settled_refuse _ _) rfl

theorem remembers_abortWithDiscard : (drive.abortWithDiscard error).Remembers :=
  .remembers (settled_refuse _ .error) rfl

theorem remembers_leaveUncertain : (drive.leaveUncertain error).Remembers :=
  .remembers (settled_rememberSession _) rfl

end Drive

/-! ## One resumption -/

/-- What a wait hands to the driver, and how it appears in the history. -/
inductive Heard : Entry → Except PairEngineError Operation → Prop
  | operation (op : Operation) : Heard (.took op) (.ok op)
  | abort (op : Operation) (abort : op.isAbort = true) : Heard (.took op) (.error .aborted)
  | late : Heard .timedOut (.error .aborted)

/-- The wait has failed, or brought something else. -/
def Refused (wanted : Operation) (answer : Except PairEngineError Operation) : Prop :=
  answer = .error .aborted ∨ ∃ op, op ≠ wanted ∧ answer = .ok op

/-- Either the wait brought what it was for, or its end was unfit. -/
theorem Heard.wanted_or_unfit {entry : Entry} {answer : Except PairEngineError Operation}
    (heard : Heard entry answer) (wanted : Operation) (proper : wanted.isAbort = false) :
    (entry = .took wanted ∧ answer = .ok wanted) ∨
      (entry.Unfit wanted ∧ Refused wanted answer) := by
  cases heard with
  | operation op =>
    by_cases same : op = wanted
    · subst same
      exact .inl ⟨rfl, rfl⟩
    · exact .inr ⟨.other _ same, .inr ⟨op, same, rfl⟩⟩
  | abort op abort =>
    have differs : op ≠ wanted := by
      rintro rfl
      rw [proper] at abort
      cases abort
    exact .inr ⟨.other _ differs, .inl rfl⟩
  | late => exact .inr ⟨.late, .inl rfl⟩

/-- A wait that goes on, or is over with what was heard. -/
theorem Drive.waitForOperation_rule {property : Drive → Prop} {drive : Drive} (late : Bool)
    (resume : Drive → Except PairEngineError Operation → Drive) (waits : property drive)
    (resumed :
      ∀ svc entry answer,
        svc.session = drive.service.session → Heard entry answer →
          property (resume ({ drive with service := svc }.note entry) answer)) :
    property (drive.waitForOperation late resume) := by
  rw [waitForOperation]
  split
  case h_1 op svc took =>
    have remembered : svc.session = drive.service.session := by
      obtain ⟨before, frame, after, -, -, -, same⟩ := PairServiceState.takeMessage_some took
      rw [same]
    split_ifs with abort
    · exact resumed _ _ _ remembered (.abort _ abort)
    · exact resumed _ _ _ remembered (.operation _)
  case h_2 =>
    split_ifs
    · exact resumed _ _ _ rfl .late
    · exact waits

/-- A publication that waits for its pace, or is made. -/
theorem Drive.publishPaced_rule {property : Drive → Prop} {drive : Drive} {late : Bool}
    {resume : Drive → Drive} (waits : property drive)
    (published : property (resume (drive.publish op))) :
    property (drive.publishPaced late op resume) := by
  rw [publishPaced]
  split_ifs
  · exact waits
  · exact published

section Refusals

variable {drive : Drive} {answer : Except PairEngineError Operation}

theorem takeCapability_refused (refused : Refused .capability answer) :
    drive.takeCapability answer = drive.suspend (.failed .aborted) := by
  obtain rfl | ⟨op, differs, rfl⟩ := refused
  · rfl
  · rw [Drive.takeCapability, if_pos differs]
    rfl

theorem takeConfirm_refused (refused : Refused .confirm answer) :
    drive.takeConfirm answer = drive.suspend (.failed .aborted) := by
  obtain rfl | ⟨op, differs, rfl⟩ := refused
  · rfl
  · rw [Drive.takeConfirm, if_pos differs]
    rfl

theorem takePrepared_refused (refused : Refused .prepared answer) :
    drive.takePrepared answer = drive.abortWithDiscard .aborted := by
  obtain rfl | ⟨op, differs, rfl⟩ := refused
  · rfl
  · exact if_pos differs

theorem takeCommitAck_refused (refused : Refused .commitAck answer) :
    drive.takeCommitAck answer = drive.abortWithDiscard .aborted := by
  obtain rfl | ⟨op, differs, rfl⟩ := refused
  · rfl
  · exact if_pos differs

theorem takeCommitted_refused (refused : Refused .committed answer) :
    drive.takeCommitted answer = drive.leaveUncertain .uncertain := by
  obtain rfl | ⟨op, differs, rfl⟩ := refused
  · rfl
  · cases op with
    | committed => exact (differs rfl).elim
    | _ => rfl

end Refusals

/-- A resumption goes on, and the service remembers what it has to. -/
structure Goes (origin : Point) (before after : Drive) : Prop where
  onward : Onward origin after.attempt
  remembers : before.Remembers → after.Remembers

section Segments

variable (ctx : PairCommitContext) (svc : PairServiceState)
  (commits : List PairCommitRequest)

attribute [local simp] Drive.orFail Drive.applyRemote Drive.applyLocal
  Drive.tryLocal Drive.note Drive.suspend Drive.publish Drive.request
  Drive.rememberSession Drive.refuse Drive.abortWithDiscard
  Drive.leaveUncertain Attempt.atPoint Point.transaction
  Point.past Point.progress successLine discardTail
  Transaction.new Transaction.remote Transaction.local
  Transaction.confirm Transaction.prepare Transaction.recordCommitted
  Transaction.disconnect Transaction.abort Transaction.status
  Operation.isAbort Point.deciding Drive.Remembers Drive.Settled
  PairServiceState.rememberSession Flags.none Flags.all Flags.set Flags.get
  pure Except.pure bind Except.bind throw throwThe
  MonadExceptOf.throw

variable {entry : Entry} {answer : Except PairEngineError Operation}

theorem takeCapability_goes (heard : Heard entry answer) :
    Goes .waitCapability ⟨svc, commits, .atPoint ctx .waitCapability⟩
      (Drive.takeCapability
        (Drive.note ⟨svc, commits, .atPoint ctx .waitCapability⟩ entry) answer) := by
  obtain ⟨rfl, rfl⟩ | ⟨unfit, refused⟩ := heard.wanted_or_unfit .capability rfl
  · have next : Onward .waitCapability (.atPoint ctx .requestOob) := .moved _ rfl
    exact ⟨by simpa [Drive.takeCapability] using next, by simp [Drive.takeCapability]⟩
  · rw [takeCapability_refused refused]
    exact ⟨.left (.noCapability _ unfit), id⟩

theorem takeOobAnswer_onward {accepted : Bool} :
    Onward .requestOob
      (Drive.takeOobAnswer ⟨svc, commits, .atPoint ctx .requestOob⟩ accepted).attempt := by
  cases accepted with
  | true =>
    have next : Onward .requestOob (.atPoint ctx .publishConfirm) := .moved _ rfl
    simpa [Drive.takeOobAnswer] using next
  | false =>
    apply Onward.left
    simpa [Drive.takeOobAnswer] using .rejected

theorem takeConfirm_goes (heard : Heard entry answer) :
    Goes .waitConfirm ⟨svc, commits, .atPoint ctx .waitConfirm⟩
      (Drive.takeConfirm
        (Drive.note ⟨svc, commits, .atPoint ctx .waitConfirm⟩ entry) answer) := by
  obtain ⟨rfl, rfl⟩ | ⟨unfit, refused⟩ := heard.wanted_or_unfit .confirm rfl
  · have next : Onward .waitConfirm (.atPoint ctx .requestStage) := .moved _ rfl
    exact ⟨by simpa [Drive.takeConfirm] using next, by simp [Drive.takeConfirm]⟩
  · rw [takeConfirm_refused refused]
    exact ⟨.left (.noConfirm _ unfit), id⟩

theorem takePrepared_goes (heard : Heard entry answer) :
    Goes .waitPrepared ⟨svc, commits, .atPoint ctx .waitPrepared⟩
      (Drive.takePrepared
        (Drive.note ⟨svc, commits, .atPoint ctx .waitPrepared⟩ entry) answer) := by
  obtain ⟨rfl, rfl⟩ | ⟨unfit, refused⟩ := heard.wanted_or_unfit .prepared rfl
  · have next : Onward .waitPrepared (.atPoint ctx .publishPrepared) := .moved _ rfl
    exact ⟨by simpa [Drive.takePrepared] using next, by simp [Drive.takePrepared]⟩
  · rw [takePrepared_refused refused]
    refine ⟨.left ?_, fun _ => Drive.remembers_abortWithDiscard _⟩
    simpa using .noPrepared _ unfit

/-- Anything but the acknowledgement makes the driver drop the staging. -/
theorem takeCommitAck_left (unfit : entry.Unfit .commitAck) (refused : Refused .commitAck answer) :
    Left .waitCommitAck
      (Drive.takeCommitAck
        (Drive.note ⟨svc, commits, .atPoint ctx .waitCommitAck⟩ entry) answer).attempt.point
      (Drive.takeCommitAck
        (Drive.note ⟨svc, commits, .atPoint ctx .waitCommitAck⟩ entry)
        answer).attempt.history := by
  rw [takeCommitAck_refused refused]
  simpa using .noCommitAck _ unfit

theorem takeCommitAck_moved :
    (Drive.takeCommitAck
      (Drive.note ⟨svc, commits, .atPoint ctx .waitCommitAck⟩ (.took .commitAck))
      (.ok .commitAck)).attempt = .atPoint ctx .publishCommitted := by
  simp [Drive.takeCommitAck]

theorem takeCommitAck_goes (heard : Heard entry answer) :
    Goes .waitCommitAck ⟨svc, commits, .atPoint ctx .waitCommitAck⟩
      (Drive.takeCommitAck
        (Drive.note ⟨svc, commits, .atPoint ctx .waitCommitAck⟩ entry) answer) := by
  obtain ⟨rfl, rfl⟩ | ⟨unfit, refused⟩ := heard.wanted_or_unfit .commitAck rfl
  · refine ⟨?_, by simp [Drive.takeCommitAck]⟩
    rw [takeCommitAck_moved]
    exact .moved _ rfl
  · refine ⟨.left (takeCommitAck_left _ _ _ unfit refused), fun _ => ?_⟩
    rw [takeCommitAck_refused refused]
    exact Drive.remembers_abortWithDiscard _

theorem takeCommitted_goes (heard : Heard entry answer) :
    Goes .waitCommitted ⟨svc, commits, .atPoint ctx .waitCommitted⟩
      (Drive.takeCommitted
        (Drive.note ⟨svc, commits, .atPoint ctx .waitCommitted⟩ entry) answer) := by
  obtain ⟨rfl, rfl⟩ | ⟨unfit, refused⟩ := heard.wanted_or_unfit .committed rfl
  · have next : Onward .waitCommitted (.atPoint ctx .requestPromote) := .moved _ rfl
    exact ⟨by simpa [Drive.takeCommitted] using next, by simp [Drive.takeCommitted]⟩
  · rw [takeCommitted_refused refused]
    refine ⟨.left ?_, fun _ => Drive.remembers_leaveUncertain _⟩
    simpa using .noCommitted _ unfit

theorem advance_reply (point : Point) (live : point.live = true)
    (awaiting : point.awaited = some phase) :
    (Drive.advance ⟨svc, commits, .atPoint ctx point⟩
        (.reply true)).attempt = .atPoint ctx point.next ∧
      Left point
        (Drive.advance ⟨svc, commits, .atPoint ctx point⟩ (.reply false)).attempt.point
        (Drive.advance ⟨svc, commits, .atPoint ctx point⟩ (.reply false)).attempt.history := by
  cases point with
  | requestStage =>
    constructor
    · simp [Drive.advance, Drive.takeStaged, Point.next]
    · simpa [Drive.advance, Drive.takeStaged] using .notStaged
  | requestMarkCommit =>
    constructor
    · simp [Drive.advance, Drive.takeMarked, Point.next]
    · simpa [Drive.advance, Drive.takeMarked] using .notMarked
  | requestPromote =>
    constructor
    · simp [Drive.advance, Drive.takePromoted, Point.next]
    · simpa [Drive.advance, Drive.takePromoted] using .notPromoted
  | requestDiscard error => cases live
  | _ => cases awaiting

/-- A driver that waits at a point goes on with what it hears. -/
theorem waits_goes {point : Point} (live : point.live = true) (late : Bool)
    {resume : Drive → Except PairEngineError Operation → Drive}
    (resumed :
      ∀ svc entry answer, Heard entry answer →
        Goes point ⟨svc, commits, .atPoint ctx point⟩
          (resume (Drive.note ⟨svc, commits, .atPoint ctx point⟩ entry) answer)) :
    Goes point ⟨svc, commits, .atPoint ctx point⟩
      (Drive.waitForOperation ⟨svc, commits, .atPoint ctx point⟩ late resume) := by
  apply Drive.waitForOperation_rule _ _ ⟨.stayed _ live, id⟩
  intro svc entry answer sess heard
  have goes := resumed svc _ _ heard
  exact ⟨goes.onward, fun remembers => goes.remembers (remembers.congr rfl sess)⟩

/-- A driver that publishes at a point goes on when it has published. -/
theorem paces_goes (point : Point) (live : point.live = true) (late : Bool)
    (op : Operation) (resume : Drive → Drive)
    (goes :
      Goes point ⟨svc, commits, .atPoint ctx point⟩
        (resume (Drive.publish ⟨svc, commits, .atPoint ctx point⟩ op))) :
    Goes point ⟨svc, commits, .atPoint ctx point⟩
      (Drive.publishPaced ⟨svc, commits, .atPoint ctx point⟩ late op resume) :=
  Drive.publishPaced_rule ⟨.stayed _ live, id⟩ goes

/-- A reply moves the driver on by one, or ends the attempt. -/
theorem replies_onward {point : Point} (live : point.live = true) (durable : Bool)
    (nextLive : point.next.live = true) (awaiting : point.awaited = some phase) :
    Onward point
      (Drive.advance ⟨svc, commits, .atPoint ctx point⟩ (.reply durable)).attempt := by
  have replied := advance_reply ctx svc commits _ live awaiting
  cases durable with
  | true =>
    rw [replied.1]
    exact .moved _ nextLive
  | false => exact .left replied.2

/-- The driver stays on the line or leaves it in one of the known ways. -/
theorem advance_goes (point : Point) (live : point.live = true) (resum : Resumption) :
    Goes point ⟨svc, commits, .atPoint ctx point⟩
      (Drive.advance ⟨svc, commits, .atPoint ctx point⟩ resum) := by
  cases point <;> cases live <;> cases resum <;> try exact ⟨.stayed ctx rfl, id⟩
  case publishCapability.refl.poll late =>
    exact paces_goes _ _ _ .publishCapability rfl late .capability (·.suspend .waitCapability)
        ⟨.moved _ rfl, id⟩
  case waitCapability.refl.poll late =>
    exact waits_goes _ _ _ rfl late fun _ _ _ => takeCapability_goes _ _ _
  case requestOob.refl.oob accepted =>
    refine ⟨takeOobAnswer_onward _ _ _, fun remembers => ?_⟩
    cases accepted with
    | true => simpa [Drive.advance, Drive.takeOobAnswer] using remembers
    | false => exact Drive.remembers_refused _
  case publishConfirm.refl.poll late =>
    exact paces_goes _ _ _ .publishConfirm rfl late .confirm (·.suspend .waitConfirm)
        ⟨.moved _ rfl, id⟩
  case waitConfirm.refl.poll late =>
    exact waits_goes _ _ _ rfl late fun _ _ _ => takeConfirm_goes _ _ _
  case requestStage.refl.reply durable =>
    refine ⟨replies_onward _ _ _ rfl durable rfl rfl, fun remembers => ?_⟩
    cases durable with
    | true => simpa [Drive.advance, Drive.takeStaged] using remembers
    | false => exact Drive.remembers_refused _
  case waitPrepared.refl.poll late =>
    exact waits_goes _ _ _ rfl late fun _ _ _ => takePrepared_goes _ _ _
  case publishPrepared.refl.poll late =>
    exact paces_goes _ _ _ .publishPrepared rfl late .prepared
        (fun drive => (drive.request .markCommit).suspend .requestMarkCommit) ⟨.moved _ rfl, id⟩
  case requestMarkCommit.refl.reply durable =>
    refine ⟨replies_onward _ _ _ rfl durable rfl rfl, fun remembers => ?_⟩
    cases durable with
    | true => simpa [Drive.advance, Drive.takeMarked] using remembers
    | false => exact Drive.remembers_refused _
  case publishCommit.refl.poll late =>
    exact paces_goes _ _ _ .publishCommit rfl late .commit (·.suspend .waitCommitAck)
        ⟨.moved _ rfl, id⟩
  case waitCommitAck.refl.poll late =>
    exact waits_goes _ _ _ rfl late fun _ _ _ => takeCommitAck_goes _ _ _
  case publishCommitted.refl.poll late =>
    exact paces_goes _ _ _ .publishCommitted rfl late .committed (·.suspend .waitCommitted)
        ⟨.moved _ rfl, id⟩
  case waitCommitted.refl.poll late =>
    exact waits_goes _ _ _ rfl late fun _ _ _ => takeCommitted_goes _ _ _
  case requestPromote.refl.reply durable =>
    refine ⟨replies_onward _ _ _ rfl durable rfl rfl, fun _ => ?_⟩
    cases durable with
    | true => simp [Drive.advance, Drive.takePromoted]
    | false => exact Drive.remembers_leaveUncertain _
  case notifyBonded.refl.notified => exact ⟨.left .bonded, id⟩

theorem advance_onLine (point : Point) (live : point.live = true) (resum : Resumption) :
    Onward point (Drive.advance ⟨svc, commits, .atPoint ctx point⟩ resum).attempt :=
  (advance_goes _ _ _ _ live _).onward

end Segments

theorem Drive.advance_ended {drive : Drive} (ended : drive.attempt.point.ended = true)
    {resum : Resumption} : drive.advance resum = drive := by
  obtain ⟨svc, commits, ctx, tx, point, history⟩ := drive
  cases point with
  | succeeded | failed _ => rfl
  | _ => cases ended

/-- Once the line is left, only the discard is still to be answered. -/
theorem Left.advance {drive : Drive} {origin : Point}
    (exit : Left origin drive.attempt.point drive.attempt.history) (resum : Resumption) :
    Left origin (drive.advance resum).attempt.point
      (drive.advance resum).attempt.history := by
  by_cases ended : drive.attempt.point.ended = true
  · rw [Drive.advance_ended ended]
    exact exit
  · obtain ⟨svc, commits, ctx, tx, point, history⟩ := drive
    cases exit with
    | noPrepared entry unfit =>
      cases resum with
      | reply durable => exact .discardedPrepared _ unfit _
      | _ => exact .noPrepared _ unfit
    | noCommitAck entry unfit =>
      cases resum with
      | reply durable => exact .discardedCommit _ unfit _
      | _ => exact .noCommitAck _ unfit
    | _ => exact (ended rfl).elim

theorem Traced.advance {drive : Drive} (traced : Traced drive.attempt) (resum : Resumption) :
    Traced (drive.advance resum).attempt := by
  obtain ⟨svc, commits, att⟩ := drive
  cases traced with
  | onLine ctx point live => exact (advance_onLine _ _ _ _ live _).traced
  | left origin exit => exact .left _ (exit.advance _)

/-! ## What a resumption adds -/

def Entry.request? : Entry → Option PairCommitPhase
  | .requested phase => some phase
  | _ => none

def Entry.answer? : Entry → Option PairCommitPhase
  | .answered phase _ => some phase
  | _ => none

def Entry.silent : Entry → Bool
  | .requested _ | .took _ => false
  | _ => true

/--
`after` has done `suffix` more than `before`: its requests are queued in that
order, the register changed only if something was published, and what it took
was a message of its own transaction in the inbox.
-/
structure ExtendsBy (suffix : List Entry) (before after : Drive) :
    Prop where
  context : after.attempt.context = before.attempt.context
  history : after.attempt.history = before.attempt.history ++ suffix
  commits :
    after.commits =
      before.commits ++ (suffix.filterMap Entry.request?).map before.attempt.context.requestOf
  hostPubkey : after.service.hostPubkey = before.service.hostPubkey
  status :
    after.service.status = before.service.status ∨
      ∃ op, .published op ∈ suffix ∧
        after.service.status = Message.encode ⟨before.attempt.context.transactionId, op⟩
  inbox : after.service.inbox ⊆ before.service.inbox
  taken :
    ∀ op, .took op ∈ suffix →
      ∃ frame ∈ before.service.inbox,
        Message.decode frame = .ok ⟨before.attempt.context.transactionId, op⟩

/-- `after` has done more than `before`, and received these answers. -/
def Extends (answers : List PairCommitPhase) (before after : Drive) : Prop :=
  ∃ suffix, ExtendsBy suffix before after ∧ suffix.filterMap Entry.answer? = answers

theorem Extends.refl (drive : Drive) : Extends [] drive drive :=
  ⟨[], ⟨rfl, by simp, by simp, rfl, .inl rfl, Subset.refl _, nofun⟩, rfl⟩

theorem Extends.trans {first second third : Drive} {answers later : List PairCommitPhase}
    (one : Extends answers first second) (two : Extends later second third) :
    Extends (answers ++ later) first third := by
  obtain ⟨suffix, one, rfl⟩ := one
  obtain ⟨more, two, rfl⟩ := two
  refine ⟨suffix ++ more, ⟨?_, ?_, ?_, ?_, ?_, ?_, ?_⟩, filterMap_append⟩
  · rw [two.context, one.context]
  · rw [two.history, one.history, append_assoc]
  · rw [two.commits, one.commits, one.context, filterMap_append, map_append, append_assoc]
  · rw [two.hostPubkey, one.hostPubkey]
  · rcases two.status with same | ⟨op, mem, written⟩
    · rw [same]
      rcases one.status with same | ⟨op, mem, written⟩
      · exact .inl same
      · exact .inr ⟨op, mem_append_left _ mem, written⟩
    · rw [one.context] at written
      exact .inr ⟨op, mem_append_right _ mem, written⟩
  · exact Subset.trans two.inbox one.inbox
  · intro op mem
    rcases mem_append.mp mem with mem | mem
    · exact one.taken _ mem
    · obtain ⟨frame, inside, decoded⟩ := two.taken _ mem
      rw [one.context] at decoded
      exact ⟨frame, one.inbox inside, decoded⟩

section Extending

variable (drive : Drive)

theorem note_extends {entry : Entry} (silent : entry.silent = true) :
    Extends entry.answer?.toList drive (drive.note entry) := by
  refine ⟨[entry], ⟨rfl, rfl, ?_, rfl, .inl rfl, Subset.refl _, ?_⟩, ?_⟩
  · cases entry with
    | requested phase => cases silent
    | _ => simp [Drive.note, Entry.request?]
  · intro op mem
    rw [mem_singleton] at mem
    subst mem
    cases silent
  · cases entry <;> rfl

theorem publish_extends : Extends [] drive (drive.publish op) := by
  refine ⟨[.published _], ⟨rfl, rfl, ?_, rfl,
        .inr ⟨op, mem_singleton_self _, rfl⟩, Subset.refl _, ?_⟩, rfl⟩
  · simp [Drive.publish, Drive.note, Entry.request?]
  · simp

theorem request_extends : Extends [] drive (drive.request phase) :=
  ⟨[.requested _], ⟨rfl, rfl, rfl, rfl, .inl rfl, Subset.refl _, by simp⟩, rfl⟩

theorem quiet_extends {after : Drive} (ctx : after.attempt.context = drive.attempt.context)
    (history : after.attempt.history = drive.attempt.history)
    (commits : after.commits = drive.commits)
    (hostPubkey : after.service.hostPubkey = drive.service.hostPubkey)
    (status : after.service.status = drive.service.status)
    (inbox : after.service.inbox = drive.service.inbox) : Extends [] drive after :=
  ⟨[],
    ⟨ctx, by simp [history], by simp [commits], hostPubkey, .inl status, by simp [inbox], nofun⟩,
    rfl⟩

theorem transaction_extends (tx : Transaction) :
    Extends [] drive { drive with attempt := { drive.attempt with transaction := tx } } :=
  quiet_extends _ rfl rfl rfl rfl rfl rfl

theorem take_extends {svc : PairServiceState}
    (took : drive.service.takeMessage drive.attempt.context.transactionId = (some op, svc)) :
    Extends [] drive (Drive.note { drive with service := svc } (.took op)) := by
  obtain ⟨before, frame, after, inbox, decoded, -, rfl⟩ := PairServiceState.takeMessage_some took
  refine ⟨[.took _], ⟨rfl, rfl, ?_, rfl, .inl rfl, ?_, ?_⟩, rfl⟩
  · simp [Drive.note, Entry.request?]
  · intro other mem
    rw [inbox]
    rcases mem_append.mp mem with older | newer
    · exact mem_append_left _ older
    · exact mem_append_right _ (mem_cons_of_mem _ newer)
  · intro other mem
    obtain rfl : other = op := by simpa using mem
    exact ⟨frame, by simp [inbox], decoded⟩

theorem tryLocal_extends {ev : LocalEvent} : Extends [] drive (drive.tryLocal ev) := by
  rw [Drive.tryLocal]
  split
  · exact (transaction_extends _ _).trans (note_extends _ rfl)
  · exact transaction_extends _ _

end Extending

/-- A fallible stretch of the driver extends what was done before it. -/
def Continues (before : Drive) (res : Except PairEngineError Drive) :
    Prop :=
  ∀ after, res = .ok after → Extends [] before after

theorem Continues.bind {before : Drive} {res : Except PairEngineError Drive}
    {rest : Drive → Except PairEngineError Drive} (first : Continues before res)
    (second : ∀ middle, Continues middle (rest middle)) : Continues before (res >>= rest) := by
  intro after equal
  cases res with
  | error error => cases equal
  | ok middle => exact (first _ rfl).trans (second _ _ equal)

theorem continues_pure {before after : Drive} (extends_ : Extends [] before after) :
    Continues before (pure after) := by
  rintro _ ⟨⟩
  exact extends_

theorem applyLocal_continues {drive : Drive} {ev : LocalEvent} :
    Continues drive (drive.applyLocal ev error) := by
  intro after equal
  rw [Drive.applyLocal] at equal
  split at equal
  · cases equal
    exact (transaction_extends _ _).trans (note_extends _ rfl)
  · cases equal

theorem applyRemote_continues {drive : Drive} : Continues drive (drive.applyRemote op) := by
  intro after equal
  rw [Drive.applyRemote] at equal
  split at equal
  · cases equal
    exact transaction_extends _ _
  · cases equal

theorem Continues.orFail {drive : Drive} {res : Except PairEngineError Drive}
    (continues : Continues drive res) : Extends [] drive (drive.orFail res) := by
  cases res with
  | error error => exact quiet_extends _ rfl rfl rfl rfl rfl rfl
  | ok after => exact continues _ rfl

section

variable (drive : Drive)

theorem waitForOperation_extends {late : Bool}
    {resume : Drive → Except PairEngineError Operation → Drive}
    (resumed : ∀ answer drive, Extends [] drive (resume drive answer)) :
    Extends [] drive (drive.waitForOperation late resume) := by
  rw [Drive.waitForOperation]
  split
  case h_1 op svc took =>
    have taken := take_extends _ took
    split_ifs
    · exact taken.trans (resumed _ _)
    · exact taken.trans (resumed _ _)
  case h_2 =>
    split_ifs
    · exact (note_extends _ rfl).trans (resumed _ _)
    · exact .refl _

theorem publishPaced_extends {late : Bool} {resume : Drive → Drive}
    (resumed : ∀ drive, Extends [] drive (resume drive)) :
    Extends [] drive (drive.publishPaced late op resume) := by
  rw [Drive.publishPaced]
  split_ifs
  · exact .refl _
  · exact (publish_extends _).trans (resumed _)

def Drive.answers (resum : Resumption) : List PairCommitPhase :=
  match resum with
  | .reply _ => drive.attempt.point.awaited.toList
  | _ => []

end

/--
What holds of the operations of the driver, with the answers that they take,
and of everything that is put together from them.
-/
structure Stretches (holds : List PairCommitPhase → (Drive → Drive) → Prop)
    (tries : (Drive → Except PairEngineError Drive) → Prop) : Prop where
  note : ∀ entry, entry.silent = true → holds entry.answer?.toList (·.note entry)
  suspend : ∀ point, holds [] (·.suspend point)
  publish : ∀ op, holds [] (·.publish op)
  request : ∀ phase, holds [] (·.request phase)
  rememberSession : holds [] Drive.rememberSession
  tryLocal : ∀ ev, holds [] (·.tryLocal ev)
  comp : ∀ {answers later first second}, holds answers first → holds later second →
    holds (answers ++ later) fun drive => second (first drive)
  applyLocal : ∀ ev error, tries (·.applyLocal ev error)
  applyRemote : ∀ op, tries (·.applyRemote op)
  throw : ∀ error {Value : Type} (rest : Drive → Value → Except PairEngineError Drive),
    tries fun drive => throw error >>= rest drive
  bind : ∀ {first second}, tries first → tries second → tries fun drive => first drive >>= second
  pure : ∀ {part}, holds [] part → tries fun drive => pure (part drive)
  orFail : ∀ {part}, tries part → holds [] fun drive => drive.orFail (part drive)
  publishPaced : ∀ late op {resume}, holds [] resume → holds [] (·.publishPaced late op resume)

namespace Stretches

variable {holds : List PairCommitPhase → (Drive → Drive) → Prop}
  {tries : (Drive → Except PairEngineError Drive) → Prop} (rule : Stretches holds tries)

include rule

theorem refuse (op : Operation) : holds [] (·.refuse op) :=
  rule.comp (rule.comp (rule.publish _) (rule.tryLocal _)) rule.rememberSession

theorem abortWithDiscard (error : PairEngineError) : holds [] (·.abortWithDiscard error) :=
  rule.comp (rule.comp (rule.refuse .error) (rule.request .discard)) (rule.suspend _)

theorem leaveUncertain (error : PairEngineError) : holds [] (·.leaveUncertain error) :=
  rule.comp (rule.comp (rule.tryLocal .disconnected) rule.rememberSession) (rule.suspend _)

theorem refused (op : Operation) (point : Point) :
    holds [] fun drive => (drive.refuse op).suspend point :=
  rule.comp (rule.refuse _) (rule.suspend _)

theorem applied (ev : LocalEvent) (error : PairEngineError) (point : Point) :
    holds [] fun drive => drive.orFail do return (← drive.applyLocal ev error).suspend point :=
  rule.orFail (rule.bind (rule.applyLocal _ _) (rule.pure (rule.suspend _)))

variable (answer : Except PairEngineError Operation)

theorem takeCapability : holds [] (·.takeCapability answer) := by
  cases answer with
  | error error => exact rule.suspend _
  | ok op =>
    apply rule.orFail
    split_ifs
    · exact rule.throw _ _
    · apply rule.bind (rule.applyRemote _)
      apply rule.bind (rule.applyLocal _ _)
      apply rule.bind (rule.applyLocal _ _)
      exact rule.pure
        (rule.comp (rule.comp rule.rememberSession (rule.note .askedOob rfl)) (rule.suspend _))

theorem takeOobAnswer (accepted : Bool) : holds [] (·.takeOobAnswer accepted) := by
  cases accepted with
  | true => exact rule.comp (rule.note (.answeredOob _) rfl) (rule.applied _ _ _)
  | false => exact rule.comp (rule.note (.answeredOob _) rfl) (rule.refused _ _)

theorem takeConfirm : holds [] (·.takeConfirm answer) := by
  cases answer with
  | error error => exact rule.suspend _
  | ok op =>
    apply rule.orFail
    split_ifs
    · exact rule.throw _ _
    · apply rule.bind (rule.applyRemote _)
      exact rule.pure (rule.comp (rule.request _) (rule.suspend _))

theorem takeStaged (durable : Bool) : holds [.stage] (·.takeStaged durable) := by
  cases durable with
  | true => exact rule.comp (rule.note (.answered .stage _) rfl) (rule.applied _ _ _)
  | false => exact rule.comp (rule.note (.answered .stage _) rfl) (rule.refused _ _)

theorem takePrepared : holds [] (·.takePrepared answer) := by
  cases answer with
  | error error => exact rule.abortWithDiscard _
  | ok op =>
    simp only [Drive.takePrepared]
    split_ifs
    · exact rule.abortWithDiscard _
    · exact rule.orFail (rule.bind (rule.applyRemote _) (rule.pure (rule.suspend _)))

theorem takeMarked (durable : Bool) : holds [.markCommit] (·.takeMarked durable) := by
  cases durable with
  | true => exact rule.comp (rule.note (.answered .markCommit _) rfl) (rule.applied _ _ _)
  | false => exact rule.comp (rule.note (.answered .markCommit _) rfl) (rule.refused _ _)

theorem takeCommitAck : holds [] (·.takeCommitAck answer) := by
  cases answer with
  | error error => exact rule.abortWithDiscard _
  | ok op =>
    simp only [Drive.takeCommitAck]
    split_ifs
    · exact rule.abortWithDiscard _
    · apply rule.orFail
      apply rule.bind (rule.applyRemote _)
      exact rule.pure (rule.comp rule.rememberSession (rule.suspend _))

theorem takeCommitted : holds [] (·.takeCommitted answer) := by
  unfold Drive.takeCommitted
  split
  · apply rule.orFail
    apply rule.bind (rule.applyRemote _)
    exact rule.pure (rule.comp (rule.request _) (rule.suspend _))
  · exact rule.leaveUncertain _

theorem takePromoted (durable : Bool) : holds [.promote] (·.takePromoted durable) := by
  cases durable with
  | true =>
    have remembered := rule.comp rule.rememberSession (rule.suspend .notifyBonded)
    exact rule.comp (rule.note (.answered .promote _) rfl)
      (rule.orFail (rule.bind (rule.applyLocal _ _) (rule.pure remembered)))
  | false => exact rule.comp (rule.note (.answered .promote _) rfl) (rule.leaveUncertain _)

/--
A resumption does nothing, makes a stretch, or waits in front of one, and
which of them does not depend on the service.
-/
theorem advance (drive : Drive) (resum : Resumption)
    {motive : List PairCommitPhase → (PairServiceState → Drive) → Prop}
    (stays : motive [] fun svc => { drive with service := svc })
    (goes : ∀ {answers part}, holds answers part →
      motive answers fun svc => part { drive with service := svc })
    (waits : ∀ late {resume}, (∀ answer, holds [] fun drive => resume drive answer) →
      motive [] fun svc => Drive.waitForOperation { drive with service := svc } late resume) :
    motive (drive.answers resum) fun svc =>
      Drive.advance { drive with service := svc } resum := by
  obtain ⟨svc, commits, ctx, tx, point, history⟩ := drive
  cases point <;> cases resum <;> try exact stays
  case publishCapability.poll late => exact goes (rule.publishPaced late _ (rule.suspend _))
  case waitCapability.poll late => exact waits late rule.takeCapability
  case requestOob.oob accepted => exact goes (rule.takeOobAnswer accepted)
  case publishConfirm.poll late => exact goes (rule.publishPaced late _ (rule.suspend _))
  case waitConfirm.poll late => exact waits late rule.takeConfirm
  case requestStage.reply durable => exact goes (rule.takeStaged durable)
  case waitPrepared.poll late => exact waits late rule.takePrepared
  case publishPrepared.poll late =>
    exact goes (rule.publishPaced _ _ (rule.comp (rule.request _) (rule.suspend _)))
  case requestMarkCommit.reply durable => exact goes (rule.takeMarked durable)
  case publishCommit.poll late => exact goes (rule.publishPaced late _ (rule.suspend _))
  case waitCommitAck.poll late => exact waits late rule.takeCommitAck
  case publishCommitted.poll late => exact goes (rule.publishPaced late _ (rule.suspend _))
  case waitCommitted.poll late => exact waits late rule.takeCommitted
  case requestPromote.reply durable => exact goes (rule.takePromoted durable)
  case notifyBonded.notified => exact goes (rule.suspend _)
  case requestDiscard.reply error durable =>
    exact goes (rule.comp (rule.note (.answered .discard _) rfl) (rule.suspend _))

end Stretches

theorem stretches_extend :
    Stretches (fun answers part => ∀ drive, Extends answers drive (part drive))
      fun part => ∀ drive, Continues drive (part drive) where
  note _ silent _ := note_extends _ silent
  suspend _ _ := quiet_extends _ rfl rfl rfl rfl rfl rfl
  publish _ _ := publish_extends _
  request _ _ := request_extends _
  rememberSession _ := quiet_extends _ rfl rfl rfl rfl rfl rfl
  tryLocal _ _ := tryLocal_extends _
  comp first second _ := (first _).trans (second _)
  applyLocal _ _ _ := applyLocal_continues
  applyRemote _ _ := applyRemote_continues
  throw _ _ _ _ _ equal := nomatch equal
  bind first second _ := (first _).bind second
  pure extended _ := continues_pure (extended _)
  orFail continues _ := (continues _).orFail
  publishPaced _ _ _ resumed _ := publishPaced_extends _ resumed

/-- A resumption only adds to what the attempt has done. -/
theorem advance_extends (drive : Drive) (resum : Resumption) :
    Extends (drive.answers resum) drive (drive.advance resum) :=
  stretches_extend.advance _ _
    (motive := fun answers after => Extends answers _ (after _))
    (.refl _) (fun extended => extended _)
    fun _ _ resumed => waitForOperation_extends _ resumed

/-- An attempt has every answer but the one it is waiting for. -/
theorem Traced.requests (traced : Traced att) : att.history.filterMap Entry.request? =
    att.history.filterMap Entry.answer? ++ att.point.awaited.toList := by
  cases traced with
  | onLine ctx point live => cases point <;> cases live <;> rfl
  | left origin exit =>
    obtain ⟨ctx, tx, point, history⟩ := att
    cases exit with
    | noCapability entry unfit | noConfirm entry unfit
    | noPrepared entry unfit
    | discardedPrepared entry unfit durable
    | noCommitAck entry unfit
    | discardedCommit entry unfit durable
    | noCommitted entry unfit => cases unfit <;> rfl
    | _ => rfl

/-- The requests of a resumption are those that are awaited after it. -/
theorem ExtendsBy.awaited {drive : Drive} {resum : Resumption} {suffix : List Entry}
    (extended : ExtendsBy suffix drive (drive.advance resum)) (traced : Traced drive.attempt)
    (answers : suffix.filterMap Entry.answer? = drive.answers resum) :
    drive.attempt.point.awaited.toList ++ suffix.filterMap Entry.request? =
    drive.answers resum ++ (drive.advance resum).attempt.point.awaited.toList := by
  have before := traced.requests
  have after := (traced.advance resum).requests
  rw [extended.history, filterMap_append, filterMap_append,
    before, answers, append_assoc, append_assoc] at after
  exact append_cancel_left after

/-! ## The session around the attempt -/

variable (sess : PairSession)

theorem acceptFrame_attempt {frame : Bytes} : (sess.acceptFrame frame).attempt = sess.attempt := by
  unfold PairSession.acceptFrame
  split
  · split_ifs <;> rfl
  · rfl

theorem foldl_acceptFrame_attempt (frames : List Bytes) :
    (frames.foldl PairSession.acceptFrame sess).attempt = sess.attempt := by
  induction frames generalizing sess with
  | nil => rfl
  | cons frame rest induction => rw [foldl_cons, induction, acceptFrame_attempt]

theorem foldl_acceptFrame_inbox (frames : List Bytes) :
    sess.service.inbox <+: (frames.foldl PairSession.acceptFrame sess).service.inbox := by
  induction frames generalizing sess with
  | nil => exact prefix_refl _
  | cons frame rest induction =>
    refine IsPrefix.trans ?_ (induction _)
    have accepted : sess.service.inbox <+: (sess.service.acceptControl frame).inbox := by
      unfold PairServiceState.acceptControl
      split
      · split_ifs
        · split
          · split_ifs <;> exact prefix_refl _
          · exact prefix_refl _
        · exact prefix_refl _
      · exact prefix_append _ _
    unfold PairSession.acceptFrame
    split
    · split_ifs
      · exact prefix_refl _
      · exact prefix_refl _
      · exact accepted
    · exact accepted

def PairSession.drive (att : Attempt) : Drive where
  service := sess.service
  commits := sess.commits
  attempt := att

theorem PairSession.resume_eq {sess : PairSession} {att : Attempt}
    (running : sess.attempt = some att) (resum : Resumption) :
    sess.resume resum =
      { service := ((sess.drive att).advance resum).service
        commits := ((sess.drive att).advance resum).commits
        attempt := some ((sess.drive att).advance resum).attempt } := by
  simp [resume, running, drive]

theorem PairSession.step_control_attempt (payload : Bytes) :
    (sess.step (.control payload)).attempt = sess.attempt :=
  foldl_acceptFrame_attempt _ _

theorem PairSession.step_opened_busy {sess : PairSession} (busy : sess.idle = false)
    {phonePubkey : Pubkey} {addr : Address} {id : Option TransactionId} :
    sess.step (.opened phonePubkey addr id) = sess := by
  simp [step, busy]

theorem PairSession.step_opened_idle {sess : PairSession} (idle : sess.idle = true)
    (phonePubkey : Pubkey) (addr : Address) (id : Option TransactionId) :
    sess.step (.opened phonePubkey addr id) = sess.openAttempt phonePubkey addr id := by
  simp [step, idle]

theorem PairSession.step_resumed_none {sess : PairSession} (absent : sess.attempt = none)
    (resum : Resumption) : sess.step (.resumed resum) = sess := by
  simp [step, resume, absent]

theorem step_attempt (ev : SessionEvent) :
    (sess.step ev).attempt = sess.attempt ∨
      (∃ phonePubkey addr id,
        ev = .opened phonePubkey addr id ∧
          sess.idle = true ∧ sess.step ev = sess.openAttempt phonePubkey addr id) ∨
      ∃ resum att,
        ev = .resumed resum ∧
          sess.attempt = some att ∧
          (sess.step ev).attempt = some ((sess.drive att).advance resum).attempt := by
  cases ev with
  | control payload => exact .inl (foldl_acceptFrame_attempt _ _)
  | read offset => exact .inl rfl
  | opened phonePubkey addr id =>
    rw [PairSession.step]
    split_ifs with idle
    · exact .inr (.inl ⟨_, _, _, rfl, idle, rfl⟩)
    · exact .inl rfl
  | resumed resum =>
    cases running : sess.attempt with
    | none => exact .inl (by simp [PairSession.step, PairSession.resume, running])
    | some att =>
      refine .inr (.inr ⟨resum, att, rfl, rfl, ?_⟩)
      rw [PairSession.step, PairSession.resume_eq running]
  | received => exact .inl rfl

def PairSession.Traced (sess : PairSession) : Prop :=
  ∀ att, sess.attempt = some att → Pairing.Traced att

theorem PairSession.Traced.step {sess : PairSession}
    (traced : sess.Traced) (ev : SessionEvent) : (sess.step ev).Traced := by
  intro att running
  obtain same | ⟨phonePubkey, addr, id, -, -, same⟩ |
      ⟨resum, before, -, ran, same⟩ := step_attempt _ _
  · exact traced _ (same ▸ running)
  · rw [same] at running
    cases id with
    | none => cases running
    | some id =>
      cases running
      exact .onLine _ .publishCapability rfl
  · rw [same] at running
    cases running
    exact .advance (traced _ ran) _

theorem start_traced (hostPubkey : Pubkey) (hostName : Bytes) :
    (PairSession.start hostPubkey hostName).Traced := by
  rintro att ⟨⟩

end DeskUnlock.Pairing
