import DeskUnlock.Pairing.CommitPoint
import DeskUnlock.Pairing.PairingBroker

/-!
# What precedes a promotion

The pair service and the confirmation broker run side by side.  The engine's
calls to the broker are broker calls like any other, and the operator's
answers reach them only as the broker delivers them.

The log of an attempt records, in the order in which they happened, the frames
that entered the inbox, the answers of the GUI, and what the engine did.
-/

namespace DeskUnlock.Pairing

open Runs List

/-! ## The composed system -/

inductive LogEntry where
  /-- The reader put this frame into the inbox. -/
  | arrived (frame : Bytes)
  /-- The GUI answered this request. -/
  | gui (req : GuiEvent) (accepted : Bool)
  | engine (entry : Entry)
deriving DecidableEq

/-- The engine beside the broker. -/
structure PairingSystem where
  session : PairSession
  broker : PairingBroker
  /-- The latest broker call of the engine. -/
  waiting : Option Nat
  log : List LogEntry

inductive SystemEvent where
  | session (ev : SessionEvent)
  | broker (ev : BrokerEvent)
  /-- The latest broker call of the engine has returned. -/
  | returned

def PairCommitContext.oobRequest (ctx : PairCommitContext) :
    OobRequest where
  id := 0
  peer := ctx.peer
  hostPubkey := ctx.hostPubkey
  phonePubkey := ctx.phonePubkey

def Attempt.brokerCall (att : Attempt) : Option GuiEvent :=
  match att.point with
  | .requestOob => some (.oob att.context.oobRequest)
  | .notifyBonded => some (.bonded ⟨att.context.peer⟩)
  | _ => none

def PairingBroker.delivered (broker : PairingBroker) :
    BrokerEvent → List LogEntry
  | .respond id accepted =>
    match broker.pending.lookup id with
    | none => []
    | some call =>
      match broker.calls call with
      | none => []
      | some state => [.gui state.request accepted]
  | .hangUp call (some resp) =>
    match broker.calls call with
    | some ⟨req, .exchanging _, _⟩ => [.gui req (verdict req (some resp))]
    | _ => []
  | _ => []

def PairSession.arrivals (sess : PairSession) :
    SessionEvent → List LogEntry
  | .control payload =>
    ((sess.step (.control payload)).service.inbox.drop sess.service.inbox.length).map .arrived
  | _ => []

def PairSession.since (before after : PairSession) : List LogEntry :=
  match before.attempt, after.attempt with
  | some earlier, some later => (later.history.drop earlier.history.length).map .engine
  | _, _ => []

namespace PairingSystem

/-- The engine starts the broker call of the point it has just reached. -/
def place (system : PairingSystem) (before : PairSession) : PairingSystem :=
  match system.session.attempt with
  | none => system
  | some att =>
    if before.attempt.map Attempt.point = some att.point then system
    else
      match att.brokerCall with
      | none => system
      | some req =>
        { system with broker := system.broker.begin req, waiting := some system.broker.opened }

def advance (system : PairingSystem) (ev : SessionEvent) : PairingSystem :=
  let sess := system.session.step ev
  { system with
    session := sess
    log :=
      system.log ++ system.session.arrivals ev ++ system.session.since sess }.place system.session

def callReturned (system : PairingSystem) (req : GuiEvent) (accepted : Bool) : PairingSystem :=
  system.advance
    (match req with
    | .bonded _ => .resumed .notified
    | _ => .resumed (.oob accepted))

def step (system : PairingSystem) : SystemEvent → PairingSystem
  -- Only the return of its broker call resumes the engine here.
  | .session (.resumed (.oob _)) => system
  | .session (.resumed .notified) => system
  | .session (.opened phonePubkey addr id) =>
    if system.session.idle then
      { system with
        session := system.session.openAttempt phonePubkey addr id, waiting := none, log := [] }
    else system
  | .session ev => system.advance ev
  | .broker ev =>
    { system with broker := system.broker.step ev, log := system.log ++ system.broker.delivered ev }
  | .returned =>
    match system.waiting with
    | none => system
    | some call =>
      match system.broker.calls call with
      | some ⟨req, .returned accepted, _⟩ => system.callReturned req accepted
      | _ => system

/-- Nothing is pending. -/
def start (hostPubkey : Pubkey) (hostName : Bytes) : PairingSystem where
  session := .start hostPubkey hostName
  broker := .idle
  waiting := none
  log := []

end PairingSystem

/-! ## The engine's part of the log -/

def LogEntry.engine? : LogEntry → Option Entry
  | .engine entry => some entry
  | _ => none

/-- What the engine did, without the frames and answers around it. -/
def engineLog (log : List LogEntry) : List Entry := log.filterMap LogEntry.engine?

theorem engineLog_append {first second : List LogEntry} :
    engineLog (first ++ second) = engineLog first ++ engineLog second :=
  filterMap_append

theorem engineLog_map_engine {entries : List Entry} :
    engineLog (entries.map .engine) = entries := by
  induction entries with
  | nil => rfl
  | cons entry rest induction => exact congrArg _ induction

variable {log : List LogEntry}

theorem map_engine_sublist {entries : List Entry} (ordered : entries.Sublist (engineLog log)) :
    (entries.map .engine).Sublist log := by
  induction log generalizing entries with
  | nil =>
    rw [sublist_nil.mp ordered]
    exact Sublist.refl _
  | cons head rest induction =>
    cases head with
    | engine entry =>
      cases ordered with
      | cons _ later => exact (induction later).cons _
      | cons_cons _ later => exact (induction later).cons_cons _
    | arrived frame | gui req accepted => exact (induction ordered).cons _

/-! ## The operator's answer -/

/--
The GUI accepted a request with both public keys of the attempt, after the
engine had asked and before it did anything else.
-/
def Accepted (ctx : PairCommitContext) (log : List LogEntry) : Prop :=
  ∃ id before after,
    log = before ++ .gui (.oob { ctx.oobRequest with id }) true :: after ∧
      engineLog before = Point.past .requestOob

theorem Accepted.append {ctx : PairCommitContext}
    (accepted : Accepted ctx log) (more : List LogEntry) : Accepted ctx (log ++ more) := by
  obtain ⟨id, before, after, rfl, asked⟩ := accepted
  exact ⟨id, before, after ++ more, by simp, asked⟩

/-- A call that asks about the attempt and claims nothing the GUI did not say. -/
structure Vouched (ctx : PairCommitContext) (log : List LogEntry) (call : Call) : Prop where
  request : ∃ id, call.request = .oob { ctx.oobRequest with id }
  slot : call.slot = some true → Accepted ctx log
  returned : call.progress = .returned true → Accepted ctx log

section Vouching

variable {ctx : PairCommitContext} {log : List LogEntry} {call : Call}

section

variable (vouched : Vouched ctx log call)
include vouched

theorem Vouched.append (more : List LogEntry) :
    Vouched ctx (log ++ more) call where
  request := vouched.request
  slot := fun answered => (vouched.slot answered).append _
  returned := fun answered => (vouched.returned answered).append _

/-- A call may move on, as long as it does not invent an acceptance. -/
theorem Vouched.proceed (progress : CallProgress)
    (honest : progress = .returned true → Accepted ctx log) :
    Vouched ctx log { call with progress } where
  request := vouched.request
  slot := vouched.slot
  returned := honest

theorem Vouched.assign (id : UInt64) :
    Vouched ctx log ⟨call.request.withId id, .sending id, none⟩ where
  request := by
    obtain ⟨_, equal⟩ := vouched.request
    exact ⟨id, by rw [equal]; rfl⟩
  slot := nofun
  returned := nofun

/-- The answer delivered to the call is the answer the log records. -/
theorem Vouched.deliver (asked : engineLog log = Point.past .requestOob) (accepted : Bool) :
    Vouched ctx (log ++ [.gui call.request accepted]) (call.answer accepted) := by
  unfold Call.answer
  split_ifs
  · refine ⟨vouched.request, ?_, fun answered => (vouched.returned answered).append _⟩
    rintro ⟨⟩
    obtain ⟨id, equal⟩ := vouched.request
    exact ⟨id, log, [], by rw [equal], asked⟩
  · exact vouched.append _

theorem Vouched.fail :
    Vouched ctx log (call.answer false) := by
  unfold Call.answer
  split_ifs
  · exact ⟨vouched.request, nofun, vouched.returned⟩
  · exact vouched

end

end Vouching

def VouchedCall (ctx : PairCommitContext) (log : List LogEntry)
    (broker : PairingBroker) (handle : Nat) : Prop :=
  ∃ call, broker.calls handle = some call ∧ Vouched ctx log call

section VouchedCalls

variable {ctx : PairCommitContext} {log : List LogEntry} {broker : PairingBroker} {handle : Nat}

section

variable (vouched : VouchedCall ctx log broker handle)
include vouched

theorem VouchedCall.append (more : List LogEntry) :
    VouchedCall ctx (log ++ more) broker handle := by
  obtain ⟨call, present, vouched⟩ := vouched
  exact ⟨call, present, vouched.append _⟩

theorem VouchedCall.update (target : Nat) (change : Call → Call)
    (changed :
      ∀ call, broker.calls target = some call →
        Vouched ctx log call → Vouched ctx log (change call)) :
    VouchedCall ctx log (broker.update target change) handle := by
  obtain ⟨call, present, vouched⟩ := vouched
  by_cases same : handle = target
  · subst same
    refine ⟨change call, ?_, changed _ present vouched⟩
    rw [PairingBroker.update_calls, if_pos rfl, present]
    rfl
  · exact ⟨call, by rw [PairingBroker.update_calls, if_neg same, present], vouched⟩

theorem VouchedCall.proceed (target : Nat) (progress : CallProgress)
    (honest :
      progress = .returned true →
        ∀ call, broker.calls target = some call → Vouched ctx log call → Accepted ctx log) :
    VouchedCall ctx log (broker.proceed target progress) handle := by
  apply vouched.update
  intro call present vouched
  exact vouched.proceed _ fun accepting => honest accepting _ present vouched

theorem VouchedCall.unregisterGui : VouchedCall ctx log broker.unregisterGui handle := by
  obtain ⟨call, present, vouched⟩ := vouched
  by_cases waits : broker.pending.any (fun entry => entry.2 = handle) = true
  · refine ⟨_, ?_, vouched.fail⟩
    simp only [PairingBroker.unregisterGui, if_pos waits, present]
    rfl
  · refine ⟨call, ?_, vouched⟩
    simp only [PairingBroker.unregisterGui, if_neg waits, present]

theorem VouchedCall.enter (target : Nat) : VouchedCall ctx log (broker.enter target) handle := by
  unfold PairingBroker.enter
  split_ifs
  · exact vouched.proceed _ _ nofun
  · exact vouched.proceed _ _ nofun
  · have registered : VouchedCall ctx log
        { broker with nextId := broker.nextId + 1 } handle := vouched
    apply registered.update
    intro call _ vouched
    exact vouched.assign _

theorem VouchedCall.respond (asked : engineLog log = Point.past .requestOob) (id : UInt64)
    (accepted : Bool) : VouchedCall ctx (log ++ broker.delivered (.respond id accepted))
    (broker.respond id accepted).1 handle := by
  cases found : broker.pending.lookup id with
  | none =>
    simp only [PairingBroker.respond, found]
    exact vouched.append _
  | some target =>
    obtain ⟨call, present, vouched⟩ := vouched
    by_cases same : handle = target
    · subst same
      refine ⟨call.answer accepted, ?_, ?_⟩
      · simp only [PairingBroker.respond, PairingBroker.remove, found,
          PairingBroker.update_calls, present]
        rfl
      · simp only [PairingBroker.delivered, found, present]
        exact vouched.deliver asked _
    · refine ⟨call, ?_, vouched.append _⟩
      simp only [PairingBroker.respond, PairingBroker.remove, found,
        PairingBroker.update_calls, if_neg same, present]

theorem VouchedCall.dial (target : Nat) (req : GuiEvent) :
    VouchedCall ctx log (broker.dial target req) handle := by
  unfold PairingBroker.dial
  split
  · exact vouched.proceed _ _ nofun
  · split_ifs
    · exact vouched.proceed _ _ nofun
    · have claimed : VouchedCall ctx log { broker with socketActive := true } handle := vouched
      exact claimed.proceed _ _ nofun

/-- The response read from the socket is the answer the log records. -/
theorem VouchedCall.hangUp (asked : engineLog log = Point.past .requestOob) (target : Nat)
    (resp : Option UInt8) : VouchedCall ctx (log ++ broker.delivered (.hangUp target resp))
    (broker.step (.hangUp target resp)) handle := by
  rcases running : broker.calls target with _ | ⟨req, progress, slot⟩
  · simp only [PairingBroker.step, running]
    exact vouched.append _
  cases progress with
  | exchanging payload =>
    have closed : VouchedCall ctx (log ++ broker.delivered (.hangUp target resp))
        { broker with socketActive := false } handle :=
      vouched.append _
    simp only [PairingBroker.step, running]
    apply closed.proceed
    rintro accepting call present vouched
    obtain rfl : _ = call := Option.some.inj (running.symm.trans present)
    obtain ⟨id, equal⟩ := vouched.request
    cases equal
    obtain rfl : resp = some 1 := by simpa [PairingBroker.verdict] using accepting
    refine ⟨id, log, [], ?_, asked⟩
    simp only [PairingBroker.delivered, running]
    rfl
  | _ =>
    simp only [PairingBroker.step, running]
    exact vouched.append _

end

theorem VouchedCall.step (vouched : VouchedCall ctx log broker handle)
    (started : handle < broker.opened) (asked : engineLog log = Point.past .requestOob)
    (ev : BrokerEvent) : VouchedCall ctx (log ++ broker.delivered ev) (broker.step ev) handle := by
  cases ev with
  | registerGui => exact vouched.append _
  | unregisterGui => exact vouched.unregisterGui.append _
  | begin req =>
    obtain ⟨call, present, vouched⟩ := vouched
    refine ⟨call, ?_, vouched.append _⟩
    have older : handle ≠ broker.opened := by omega
    simpa [PairingBroker.step, PairingBroker.begin, older] using present
  | enter target =>
    simp only [PairingBroker.step]
    split
    · exact (vouched.enter _).append _
    · exact vouched.append _
  | send target delivered =>
    simp only [PairingBroker.step]
    split
    · split_ifs
      · apply append
        exact vouched.proceed _ _ nofun
      · apply append
        exact vouched.unregisterGui.proceed _ _ nofun
    · exact vouched.append _
  | respond id accepted => exact vouched.respond asked _ _
  | resolve target =>
    simp only [PairingBroker.step]
    split
    case h_1 running =>
      apply append
      apply vouched.proceed
      intro accepting call present vouched
      rw [running] at present
      cases present
      cases accepting
      exact vouched.slot rfl
    case h_2 => exact vouched.append _
  | timeout target =>
    simp only [PairingBroker.step]
    split
    · apply append
      exact vouched.proceed _ _ nofun
    · exact vouched.append _
  | forget target =>
    simp only [PairingBroker.step]
    split
    case h_1 req id slot running =>
      have removed : VouchedCall ctx log (broker.remove id) handle := vouched
      apply append
      exact removed.proceed _ _ nofun
    case h_2 => exact vouched.append _
  | dial target =>
    simp only [PairingBroker.step]
    split
    · exact (vouched.dial _ _).append _
    · exact vouched.append _
  | hangUp target resp => exact vouched.hangUp asked _ _

end VouchedCalls

/-! ## Messages taken from the inbox -/

/-- Whatever the engine took had arrived before, under the attempt's id. -/
def Backed (id : TransactionId) (log : List LogEntry) : Prop :=
  ∀ before op after,
    log = before ++ .engine (.took op) :: after →
      ∃ frame, .arrived frame ∈ before ∧ Message.decode frame = .ok ⟨id, op⟩

theorem Backed.append {id : TransactionId} (backed : Backed id log) (more : List LogEntry)
    (arrived :
      ∀ op, .engine (.took op) ∈ more →
        ∃ frame, .arrived frame ∈ log ∧ Message.decode frame = .ok ⟨id, op⟩) :
    Backed id (log ++ more) := by
  intro before op after split
  rcases append_eq_append_iff.mp split with ⟨middle, rfl, inMore⟩ | ⟨middle, inLog, tail⟩
  · have mem : .engine (.took op) ∈ more := by
      rw [inMore]
      exact mem_append_right _ mem_cons_self
    obtain ⟨frame, inside, decoded⟩ := arrived _ mem
    exact ⟨frame, mem_append_left _ inside, decoded⟩
  · cases middle with
    | nil =>
      rw [append_nil] at inLog
      have mem : .engine (.took op) ∈ more := by
        rw [nil_append] at tail
        exact tail ▸ mem_cons_self
      exact inLog ▸ arrived _ mem
    | cons head middle =>
      obtain ⟨rfl, -⟩ := cons.inj tail
      exact backed _ _ _ inLog

/-! ## The invariant of the system -/

/-- The log tells the truth about the attempt it belongs to. -/
structure Faithful (log : List LogEntry) (broker : PairingBroker)
    (waiting : Option Nat) (inbox : List Bytes) (att : Attempt) : Prop where
  traced : Traced att
  history : engineLog log = att.history
  asked :
    att.point = .requestOob →
      ∃ handle, waiting = some handle ∧ handle < broker.opened ∧
        VouchedCall att.context log broker handle
  accepted : .answeredOob true ∈ att.history → Accepted att.context log
  arrived : ∀ frame ∈ inbox, .arrived frame ∈ log
  backed : Backed att.context.transactionId log

def PairingSystem.Faithful (system : PairingSystem) : Prop :=
  ∀ att, system.session.attempt = some att →
    Pairing.Faithful system.log system.broker system.waiting system.session.service.inbox att

theorem engineLog_delivered {broker : PairingBroker} {ev : BrokerEvent} :
    engineLog (broker.delivered ev) = [] := by
  unfold PairingBroker.delivered
  split
  · split
    · rfl
    · split <;> rfl
  · split <;> rfl
  · rfl

theorem not_took_of_engineLog_nil (silent : engineLog log = [])
    {op : Operation} : .engine (.took op) ∉ log := by
  intro mem
  have recorded : .took op ∈ engineLog log := mem_filterMap.mpr ⟨_, mem, rfl⟩
  rw [silent] at recorded
  cases recorded

theorem PairingBroker.opened_le_step (broker : PairingBroker) {ev : BrokerEvent} :
    broker.opened ≤ (broker.step ev).opened := by
  cases ev <;> simp only [step, enter, respond, dial] <;> repeat' split
  all_goals first | exact le_refl _ | exact Nat.le_succ _

variable {att : Attempt} {system : PairingSystem} {waiting : Option Nat}

theorem Faithful.broker {broker : PairingBroker} {inbox : List Bytes}
    (faithful : Faithful log broker waiting inbox att) (ev : BrokerEvent) :
    Faithful (log ++ broker.delivered ev) (broker.step ev) waiting inbox att where
  traced := faithful.traced
  history := by
    rw [engineLog_append, engineLog_delivered, append_nil]
    exact faithful.history
  asked := by
    intro awaiting
    obtain ⟨handle, waits, started, vouched⟩ := faithful.asked awaiting
    have onLine := faithful.traced.atPoint_of_live (by rw [awaiting]; rfl)
    have asked : engineLog log = Point.past .requestOob := by
      rw [faithful.history, onLine, awaiting]
      rfl
    exact ⟨handle, waits, lt_of_lt_of_le started broker.opened_le_step,
        vouched.step started asked _⟩
  accepted := fun answered => (faithful.accepted answered).append _
  arrived := fun frame mem => mem_append_left _ (faithful.arrived _ mem)
  backed := by
    apply faithful.backed.append
    intro op mem
    exact (not_took_of_engineLog_nil engineLog_delivered mem).elim

/-! ## Steps of the session -/

variable {ev : SessionEvent} {resum : Resumption} {before : PairSession}

/-- What a step of the session other than an opening does to its attempt. -/
theorem session_step_cases {sess : PairSession} {att : Attempt} (running : sess.attempt = some att)
    (closed : ∀ phonePubkey addr id, ev ≠ .opened phonePubkey addr id) :
    (∃ frames,
        (sess.step ev).attempt = some att ∧
          sess.arrivals ev = frames.map .arrived ∧
          (sess.step ev).service.inbox = sess.service.inbox ++ frames) ∨
      ∃ resum,
        ev = .resumed resum ∧
          (sess.step ev).attempt = some ((sess.drive att).advance resum).attempt ∧
          (sess.step ev).service = ((sess.drive att).advance resum).service := by
  cases ev with
  | control payload =>
    obtain ⟨frames, inbox⟩ := foldl_acceptFrame_inbox _ (frameControlPayload _)
    refine .inl ⟨frames, ?_, ?_, inbox.symm⟩
    · exact (foldl_acceptFrame_attempt _ _).trans running
    · simp [PairSession.arrivals, PairSession.step, ← inbox]
  | read offset => exact .inl ⟨[], running, rfl, (append_nil _).symm⟩
  | opened phonePubkey addr id => exact (closed _ _ _ rfl).elim
  | resumed resum =>
    rw [PairSession.step, PairSession.resume_eq running]
    exact .inr ⟨resum, rfl, rfl, rfl⟩
  | received => exact .inl ⟨[], running, rfl, (append_nil _).symm⟩

/-- On the line, only the operator's answer is recorded as that answer. -/
theorem Onward.answeredOob {origin : Point} (onward : Onward origin att)
    (elsewhere : origin ≠ .requestOob) (answered : .answeredOob true ∈ att.history) :
    .answeredOob true ∈ origin.past := by
  cases onward with
  | stayed ctx live => exact answered
  | moved ctx live =>
    have moved : .answeredOob true ∈ origin.next.past := answered
    revert moved
    cases origin with
    | requestOob => exact (elsewhere rfl).elim
    | requestDiscard _ | failed _ => cases live
    | _ => decide
  | left exit =>
    rcases exit.mem_past_or_departing _ answered with before | departing
    · exact before
    · cases departing

/-- Only an accepting answer to the question is recorded as one. -/
theorem advance_answeredOob {drive : Drive} (traced : Traced drive.attempt)
    (answered : .answeredOob true ∈ (drive.advance resum).attempt.history) :
    .answeredOob true ∈ drive.attempt.history ∨
      (drive.attempt.point = .requestOob ∧ resum = .oob true) := by
  obtain ⟨svc, commits, att⟩ := drive
  cases traced with
  | left origin exit =>
    left
    rcases (exit.advance _).mem_past_or_departing _ answered with before | departing
    · exact exit.past_prefix.subset before
    · cases departing
  | onLine ctx point live =>
    have onward := advance_onLine ctx svc commits _ live resum
    by_cases asking : point = .requestOob
    · subst asking
      cases resum with
      | oob accepted =>
        cases accepted with
        | true => exact .inr ⟨rfl, rfl⟩
        | false =>
          left
          have exit : Left .requestOob (.failed .rejected) (Drive.advance
                ⟨svc, commits, .atPoint ctx .requestOob⟩
                (.oob false)).attempt.history := .rejected
          rcases exit.mem_past_or_departing _ answered with before | departing
          · exact before
          · cases departing
      | _ => exact .inl answered
    · exact .inl (onward.answeredOob asking answered)

/-- The question the engine has just put is vouched for. -/
theorem begin_vouched {ctx : PairCommitContext} {log : List LogEntry} {broker : PairingBroker} :
    VouchedCall ctx log (broker.begin (.oob ctx.oobRequest)) broker.opened := by
  refine ⟨_, Function.update_self _ _ _, ⟨0, rfl⟩, nofun, nofun⟩

theorem place_session {system : PairingSystem} :
    (system.place before).session = system.session := by
  unfold PairingSystem.place
  split
  · rfl
  · split_ifs
    · rfl
    · split <;> rfl

theorem place_log {system : PairingSystem} : (system.place before).log = system.log := by
  unfold PairingSystem.place
  split
  · rfl
  · split_ifs
    · rfl
    · split <;> rfl

theorem place_of_same
    (same : before.attempt.map Attempt.point = system.session.attempt.map Attempt.point) :
    system.place before = system := by
  unfold PairingSystem.place
  cases running : system.session.attempt with
  | none => rfl
  | some att =>
    rw [running] at same
    simp only [same, Option.map_some, if_pos]

/-- After placing its call, an engine that asks has a call that is vouched. -/
theorem place_asked (running : system.session.attempt = some att)
    (awaiting : att.point = .requestOob)
    (already :
      before.attempt.map Attempt.point = some att.point →
        ∃ handle, system.waiting = some handle ∧ handle < system.broker.opened ∧
          VouchedCall att.context system.log system.broker handle) :
    ∃ handle, (system.place before).waiting = some handle ∧
      handle < (system.place before).broker.opened ∧
      VouchedCall att.context system.log (system.place before).broker handle := by
  unfold PairingSystem.place
  simp only [running]
  split_ifs with same
  · exact already same
  · simp only [Attempt.brokerCall, awaiting]
    exact ⟨system.broker.opened, rfl, Nat.lt_succ_self _, begin_vouched⟩

theorem Faithful.arrive {broker : PairingBroker} {inbox : List Bytes}
    (faithful : Faithful log broker waiting inbox att) (frames : List Bytes) :
    Faithful (log ++ frames.map .arrived) broker waiting (inbox ++ frames) att := by
  have silent : engineLog (frames.map .arrived) = [] := by simp [engineLog, LogEntry.engine?]
  refine ⟨faithful.traced, ?_, ?_, ?_, ?_, ?_⟩
  · rw [engineLog_append, silent, append_nil, faithful.history]
  · intro awaiting
    obtain ⟨handle, waits, started, vouched⟩ := faithful.asked awaiting
    exact ⟨handle, waits, started, vouched.append _⟩
  · exact fun answered => (faithful.accepted answered).append _
  · intro frame mem
    rcases mem_append.mp mem with older | newer
    · exact mem_append_left _ (faithful.arrived _ older)
    · exact mem_append_right _ (mem_map_of_mem newer)
  · apply faithful.backed.append
    intro op mem
    exact (not_took_of_engineLog_nil silent mem).elim

theorem Faithful.resume {broker : PairingBroker} {drive after : Drive} {suffix : List Entry}
    (faithful : Faithful log broker waiting drive.service.inbox drive.attempt)
    (resumed : drive.advance resum = after) (extended : ExtendsBy suffix drive after)
    (honest :
      drive.attempt.point = .requestOob → resum = .oob true → Accepted drive.attempt.context log)
    {placed : PairingBroker} {waits : Option Nat}
    (asked :
      after.attempt.point = .requestOob →
        ∃ handle, waits = some handle ∧ handle < placed.opened ∧
          VouchedCall after.attempt.context (log ++ suffix.map .engine) placed handle) :
    Faithful (log ++ suffix.map .engine) placed waits after.service.inbox after.attempt := by
  refine ⟨?_, ?_, asked, ?_, ?_, ?_⟩
  · rw [← resumed]
    exact faithful.traced.advance _
  · rw [engineLog_append, engineLog_map_engine, faithful.history, extended.history]
  · intro answered
    rw [extended.context]
    apply Accepted.append
    rw [← resumed] at answered
    rcases advance_answeredOob faithful.traced answered with before | ⟨asking, accepting⟩
    · exact faithful.accepted before
    · exact honest asking accepting
  · intro frame mem
    exact mem_append_left _ (faithful.arrived _ (extended.inbox mem))
  · rw [extended.context]
    apply faithful.backed.append
    intro op mem
    obtain ⟨entry, inside, equal⟩ := mem_map.mp mem
    cases equal
    obtain ⟨frame, present, decoded⟩ := extended.taken _ inside
    exact ⟨frame, faithful.arrived _ present, decoded⟩

theorem PairingSystem.advance_session (system : PairingSystem) :
    (system.advance ev).session = system.session.step ev :=
  place_session

theorem PairingSystem.advance_log (system : PairingSystem) :
    (system.advance ev).log = system.log ++
    system.session.arrivals ev ++ system.session.since (system.session.step ev) :=
  place_log

/-- An event that leaves the engine where it waits keeps the log truthful. -/
theorem PairingSystem.Faithful.arrive (faithful : system.Faithful) {frames : List Bytes}
    (before : system.session.attempt = some att)
    (same : (system.session.step ev).attempt = some att)
    (arrivals : system.session.arrivals ev = frames.map .arrived)
    (inbox : (system.session.step ev).service.inbox = system.session.service.inbox ++ frames) :
    (system.advance ev).Faithful := by
  intro later running
  rw [system.advance_session] at running
  obtain rfl : att = later := Option.some.inj (same.symm.trans running)
  have since : system.session.since (system.session.step ev) = [] := by
    simp [PairSession.since, before, same]
  have unmoved :
      system.advance ev =
        { system with
          session := system.session.step _
          log :=
            system.log ++ system.session.arrivals _ ++
              system.session.since (system.session.step _) } :=
    place_of_same (by rw [before, same])
  have arrived := (faithful _ before).arrive frames
  rw [← arrivals, ← inbox] at arrived
  rw [unmoved, since, append_nil]
  exact arrived

theorem PairingSystem.Faithful.resume (faithful : system.Faithful)
    (before : system.session.attempt = some att)
    (moved :
      (system.session.step (.resumed resum)).attempt =
        some ((system.session.drive att).advance resum).attempt)
    (svc :
      (system.session.step (.resumed resum)).service =
        ((system.session.drive att).advance resum).service)
    (honest : resum = .oob true → att.point = .requestOob → Accepted att.context system.log) :
    (system.advance (.resumed resum)).Faithful := by
  intro later running
  have truthful := faithful _ before
  rw [system.advance_session] at running
  obtain rfl : ((system.session.drive att).advance resum).attempt = later :=
    Option.some.inj (moved.symm.trans running)
  obtain ⟨suffix, extended, -⟩ := advance_extends (system.session.drive att) resum
  have since :
      system.session.since (system.session.step (.resumed resum)) = suffix.map .engine := by
    have history := extended.history
    simp only [PairSession.drive] at history
    simp only [PairSession.since, before, moved, PairSession.drive, history, drop_left]
  have grown : (system.advance (.resumed resum)).log = system.log ++ suffix.map .engine := by
    rw [system.advance_log, since]
    simp [PairSession.arrivals]
  rw [system.advance_session, svc, grown]
  apply Pairing.Faithful.resume truthful rfl extended
  · intro asking accepting
    exact honest accepting asking
  · intro awaiting
    rw [← grown, system.advance_log]
    apply place_asked moved awaiting
    intro same
    have asking : att.point = .requestOob := by
      rw [before, awaiting] at same
      exact Option.some.inj same
    obtain ⟨handle, waits, started, vouched⟩ := truthful.asked asking
    rw [append_assoc, extended.context]
    exact ⟨handle, waits, started, vouched.append _⟩

theorem PairingSystem.Faithful.advance (faithful : system.Faithful) (ev : SessionEvent)
    (closed : ∀ phonePubkey addr id, ev ≠ .opened phonePubkey addr id)
    (honest :
      ev = .resumed (.oob true) →
        ∀ att, system.session.attempt = some att →
          att.point = .requestOob → Accepted att.context system.log) :
    (system.advance ev).Faithful := by
  cases before : system.session.attempt with
  | none =>
    intro later running
    rw [system.advance_session] at running
    obtain same | ⟨_, _, _, opened, -, -⟩ | ⟨_, _, -, ran, -⟩ := step_attempt _ _
    · rw [same, before] at running
      cases running
    · exact (closed _ _ _ opened).elim
    · rw [before] at ran
      cases ran
  | some att =>
    obtain ⟨frames, same, arrivals, inbox⟩ | ⟨resum, rfl, moved, svc⟩ :=
      session_step_cases before closed
    · exact faithful.arrive before same arrivals inbox
    · apply faithful.resume before moved svc
      intro accepting asking
      exact honest (by rw [accepting]) _ before asking

theorem PairingSystem.Faithful.step {system : PairingSystem}
    (faithful : system.Faithful) (ev : SystemEvent) : (system.step ev).Faithful := by
  cases ev with
  | broker ev =>
    intro att running
    exact (faithful _ running).broker _
  | session ev =>
    cases ev with
    | opened phonePubkey addr id =>
      unfold PairingSystem.step
      split_ifs
      · intro att running
        cases id with
        | none => cases running
        | some id =>
          cases running
          exact
            ⟨.onLine _ .publishCapability rfl, rfl, nofun, nofun, nofun, by rintro (_ | _) _ _ ⟨⟩⟩
      · exact faithful
    | resumed resum =>
      cases resum with
      | oob accepted | notified => exact faithful
      | poll late | reply durable => exact faithful.advance _ nofun nofun
    | control payload | read offset
    | received => exact faithful.advance _ nofun nofun
  | returned =>
    simp only [PairingSystem.step]
    split
    case h_1 => exact faithful
    case h_2 call waits =>
      split
      case h_1 req accepted slot present =>
        apply faithful.advance
        · cases req <;> nofun
        · intro accepting att running asking
          obtain ⟨handle, waited, -, state, found, vouched⟩ := (faithful _ running).asked asking
          obtain rfl : call = handle := Option.some.inj (waits.symm.trans waited)
          rw [present] at found
          cases found
          obtain ⟨id, rfl⟩ := vouched.request
          cases accepting
          exact vouched.returned rfl
      case h_2 => exact faithful

theorem start_faithful {hostPubkey : Pubkey} {hostName : Bytes} :
    (PairingSystem.start hostPubkey hostName).Faithful := by
  rintro att ⟨⟩

/-! ## The order of a promotion -/

/-- What the engine does between the operator's answer and a promotion. -/
def promotionOrder : List Entry :=
  [.took .confirm, .answered .stage true, .took .prepared,
    .answered .markCommit true, .took .commitAck, .took .committed, .requested .promote]

theorem Point.promoting {point : Point} (promoted : .requested .promote ∈ point.past) :
    point = .requestPromote ∨ point = .notifyBonded := by
  revert promoted
  cases point with
  | requestDiscard _ | failed _ => exact nofun
  | _ => decide

/-- At most one promotion, after all that has to precede it. -/
def PromotedInOrder (history : List Entry) : Prop :=
  history.count (.requested .promote) ≤ 1 ∧
    (.requested .promote ∈ history →
      .answeredOob true ∈ history ∧
        promotionOrder.Sublist (history.drop (Point.past .requestOob).length))

theorem Traced.promotedInOrder (traced : Traced att) : PromotedInOrder att.history := by
  by_cases promoted : .requested .promote ∈ att.history
  · cases traced with
    | onLine ctx point live =>
      obtain rfl | rfl := Point.promoting promoted
      · change PromotedInOrder (Point.past .requestPromote)
        exact ⟨by decide, fun _ => by decide⟩
      · change PromotedInOrder (Point.past .notifyBonded)
        exact ⟨by decide, fun _ => by decide⟩
    | left origin exit =>
      have before : .requested .promote ∈ origin.past := by
        rcases exit.mem_past_or_departing _ promoted with before | departing
        · exact before
        · cases departing
      obtain ⟨ctx, tx, point, history⟩ := att
      obtain rfl | rfl := Point.promoting before
      · cases exit
        change PromotedInOrder
            (Point.past .requestPromote ++ [.answered .promote false, .localFact .disconnected])
        exact ⟨by decide, fun _ => by decide⟩
      · cases exit
        change PromotedInOrder successLine
        exact ⟨by decide, fun _ => by decide⟩
  · exact ⟨(count_eq_zero.mpr promoted).trans_le (Nat.zero_le 1), fun mem => (promoted mem).elim⟩

/-- Each entry occurs in the log as often as in the engine's part of it. -/
theorem count_engine {log : List LogEntry} {entry : Entry} :
    log.count (.engine entry) = (engineLog log).count entry := by
  induction log with
  | nil => rfl
  | cons head rest induction =>
    cases head with
    | engine other =>
      change (.engine other :: rest).count (.engine entry) = (other :: engineLog rest).count entry
      rw [count_cons, count_cons, induction]
      simp
    | arrived frame | gui req accepted =>
      refine (count_cons_of_ne ?_).trans induction
      exact nofun

/--
In every run of the daemon an attempt promotes at most once, and only after,
in this order: it took a capability, the GUI accepted a request with the
attempt's two public keys, it took the peer's confirmation, the staging was
durable, it took the peer's prepared, the commit decision was durable, it took
the acknowledgement, and it took the peer's committed.  Whatever it took had
arrived as a message of the attempt's own transaction.
-/
theorem promotion_in_order (hostPubkey : Pubkey) (hostName : Bytes)
    (events : List SystemEvent) (att : Attempt) :
    let system := run PairingSystem.step (.start hostPubkey hostName) events
    system.session.attempt = some att →
      system.log.count (.engine (.requested .promote)) ≤ 1 ∧
        (.engine (.requested .promote) ∈ system.log →
          ∃ id,
            List.Sublist
              ([.engine (.took .capability), .gui (.oob { att.context.oobRequest with id }) true] ++
                promotionOrder.map .engine)
              system.log) ∧
        Backed att.context.transactionId system.log := by
  intro system running
  have faithful : system.Faithful :=
    run_invariant (fun _ ev faithful => faithful.step _) start_faithful _
  have truthful := faithful _ running
  obtain ⟨once, ordered⟩ := truthful.traced.promotedInOrder
  refine ⟨?_, ?_, truthful.backed⟩
  · rw [count_engine, truthful.history]
    exact once
  · intro promoted
    have inHistory : .requested .promote ∈ att.history := by
      rw [← truthful.history]
      exact mem_filterMap.mpr ⟨_, promoted, rfl⟩
    obtain ⟨answered, later⟩ := ordered inHistory
    obtain ⟨id, before, after, split, asked⟩ := truthful.accepted answered
    refine ⟨id, ?_⟩
    have rest : engineLog after = att.history.drop (Point.past .requestOob).length := by
      rw [← truthful.history, split, engineLog_append, asked]
      rfl
    have capability : [.engine (.took .capability)].Sublist before := by
      change ([.took .capability].map .engine).Sublist before
      apply map_engine_sublist
      rw [asked]
      decide
    rw [split]
    refine capability.append (.cons_cons _ ?_)
    apply map_engine_sublist
    rw [rest]
    exact later

def completeExchange (id : TransactionId) : List SystemEvent :=
  let said (op : Operation) : SystemEvent := .session (.control (Message.encode ⟨id, op⟩))
  let poll : SystemEvent := .session (.resumed (.poll false))
  let durable : List SystemEvent := [.session .received, .session (.resumed (.reply true))]
  let read : SystemEvent := .session (.read 0)
  [.broker .registerGui,
    .session (.opened (.replicate 32 1) (.replicate 6 2) (some id)),
    poll, read, said .capability, poll, .broker (.enter 0), .broker (.send 0 true),
    .broker (.respond 0 true), .broker (.resolve 0), .returned,
    poll, read, said .confirm, poll] ++ durable ++
  [said .prepared, poll, poll, read] ++ durable ++
  [poll, read, said .commitAck, poll, poll, read, said .committed, poll]

theorem completeExchange_promotes_in_order :
    ∃ att,
      let system :=
        run PairingSystem.step (.start (.replicate 32 0) []) (completeExchange (.replicate 16 7))
      system.session.attempt = some att ∧
        .engine (.requested .promote) ∈ system.log ∧
        ∃ id,
          List.Sublist
            ([.engine (.took .capability), .gui (.oob { att.context.oobRequest with id }) true] ++
              promotionOrder.map .engine)
            system.log := by
  have promoted :
      .engine (.requested .promote) ∈
        (run PairingSystem.step (.start (.replicate 32 0) [])
          (completeExchange (.replicate 16 7))).log := by
    decide +kernel
  exact ⟨_, rfl, promoted, (promotion_in_order _ [] (completeExchange _) _ rfl).2.1 promoted⟩

end DeskUnlock.Pairing
