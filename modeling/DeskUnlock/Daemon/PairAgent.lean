import DeskUnlock.Foundation.Runs
import DeskUnlock.Unlock.Orchestrator

/-!
# The pairing agent and the pair sessions

`PairAgentSession`, `acquire_pair_agent` and `release_pair_agent` of
`syauth-transport/src/peripheral.rs`, and the tasks of
`spawn_pair_session_listener` in `syauth-presenced/src/runtime.rs`.

Every accepted connection has a task that acquires the agent, waits until its
client closes, and releases the agent.  Both calls are idempotent and hold the
mutex of the session from their start to their end, so each is one step.  The
session does not count who has acquired it: the first task that releases the
agent takes it from all others.
-/

namespace DeskUnlock.Daemon

open Runs Texts List
open Unlock (PeripheralError)

/-- The `Pairable` flag of an adapter, whose calls may fail. -/
structure PairableControl (Adapter : Type) where
  pairable : StateM Adapter (Except Text Bool)
  setPairable (value : Bool) : StateM Adapter (Except Text Unit)

section

variable {Adapter Handle : Type} (control : PairableControl Adapter)

/-- `adapter.pairable().await.unwrap_or(false)`. -/
def PairableControl.isPairable : StateM Adapter Bool := do
  return (← control.pairable).toOption.getD false

def setUntilPairable : Nat → StateM Adapter (Except PeripheralError Bool)
  | 0 =>
    return .error (.backend "adapter Pairable could not be verified as true".toList)
  | retries + 1 => do
      let _ ← control.setPairable true
      if ← control.isPairable then
        return .ok true
      else setUntilPairable retries

def ensurePairableWith (retries : Nat) :
    StateM Adapter (Except PeripheralError Bool) := do
  if ← control.isPairable then
    return .ok false
  else setUntilPairable control retries

def ADAPTER_MODE_RETRIES : Nat := 10

def ensurePairable : StateM Adapter (Except PeripheralError Bool) :=
  ensurePairableWith control ADAPTER_MODE_RETRIES

/-- Adapter state that a pair session has changed. -/
structure PairAgentRestore where previousPairable : Option Bool

def PairAgentRestore.fromPairable (changed previous : Bool) :
    PairAgentRestore where
  previousPairable := if changed then some previous else none

/-- The agent, if it is held, and what its release is to restore. -/
structure PairAgentSession (Handle : Type) where
  handle : Option Handle
  restore : Option PairAgentRestore

namespace PairAgentSession

def default : PairAgentSession Handle where
  handle := none
  restore := none

def isHeld (sess : PairAgentSession Handle) : Bool := sess.handle.isSome

def begin (_ : PairAgentSession Handle) (handle : Handle)
    (restore : PairAgentRestore) : PairAgentSession Handle where
  handle := some handle
  restore := some restore

/-- `end`: what is to be restored is returned at most once. -/
def endSession (sess : PairAgentSession Handle) :
    Option PairAgentRestore × PairAgentSession Handle :=
  match sess.handle with
  | none => (none, sess)
  | some _ => (sess.restore, { handle := none, restore := none })

end PairAgentSession

variable (sess : PairAgentSession Handle)

def acquirePairAgentWith (reg : Except Text Handle) :
    StateM Adapter (Except PeripheralError Unit × PairAgentSession Handle) := do
  if sess.isHeld then
    return (.ok (), sess)
  else
    let previousPairable ← control.isPairable
    match ← ensurePairable control with
    | .error error => return (.error error, sess)
    | .ok pairableChanged =>
      match reg with
      | .error error => do
          if pairableChanged then
            let _ ← control.setPairable previousPairable
          return (.error (.backend ("register_agent: ".toList ++ error)), sess)
      | .ok handle =>
        return (.ok (), sess.begin handle (.fromPairable pairableChanged previousPairable))

def releasePairAgentWith : StateM Adapter (PairAgentSession Handle) := do
  match sess.endSession with
  | (none, sess) => return sess
  | (some restore, sess) => do
      if let some previousPairable := restore.previousPairable then
        let _ ← control.setPairable previousPairable
      return sess

/-- Idempotent. -/
def acquirePairAgent (reg : Except Text Handle) :
    StateM Adapter (Except PeripheralError Unit × PairAgentSession Handle) := do
  if sess.isHeld then
    return (.ok (), sess)
  else acquirePairAgentWith control sess reg

/-- Idempotent. -/
def releasePairAgent : StateM Adapter (PairAgentSession Handle) := do
  if !sess.isHeld then
    return sess
  else releasePairAgentWith control sess

/-- Whatever the adapter answers, the call returns such a value. -/
def Ensures {Value : Type} (post : Value → Prop) (prog : StateM Adapter Value) : Prop :=
  ∀ adapter, post (prog.run adapter).1

theorem Ensures.bind {Value Other : Type} {post : Value → Prop} {prog : StateM Adapter Other}
    {rest : Other → StateM Adapter Value} (continues : ∀ value, Ensures post (rest value)) :
    Ensures post (prog >>= rest) :=
  fun _ => continues _ _

theorem Ensures.pure {Value : Type} {post : Value → Prop} {value : Value} (holds : post value) :
    Ensures post (pure value : StateM Adapter Value) :=
  fun _ => holds

def Acquires (before : PairAgentSession Handle)
    (reply : Except PeripheralError Unit × PairAgentSession Handle) : Prop :=
  (reply.1.isOk = true ∧ reply.2.isHeld = true) ∨
    (reply.1.isOk = false ∧ reply.2 = before ∧ before.isHeld = false)

theorem acquirePairAgentWith_acquires {reg : Except Text Handle} :
    Ensures (Acquires sess) (acquirePairAgentWith control sess reg) := by
  unfold acquirePairAgentWith
  split_ifs with held
  · exact .pure (.inl ⟨rfl, held⟩)
  · have free : sess.isHeld = false := by simpa using held
    refine .bind fun previousPairable => .bind fun verified => ?_
    cases verified with
    | error error => exact .pure (.inr ⟨rfl, rfl, free⟩)
    | ok pairableChanged =>
      cases reg with
      | ok handle => exact .pure (.inl ⟨rfl, rfl⟩)
      | error error =>
        dsimp only
        split_ifs
        · exact .bind fun _ => .pure (.inr ⟨rfl, rfl, free⟩)
        · exact .pure (.inr ⟨rfl, rfl, free⟩)

theorem acquirePairAgent_acquires (reg : Except Text Handle) :
    Ensures (Acquires sess) (acquirePairAgent control sess reg) := by
  unfold acquirePairAgent
  split_ifs with held
  · exact .pure (.inl ⟨rfl, held⟩)
  · exact acquirePairAgentWith_acquires _ _

theorem PairAgentSession.endSession_not_held : sess.endSession.2.isHeld = false := by
  unfold PairAgentSession.endSession
  split
  · next free => simp [isHeld, free]
  · rfl

theorem releasePairAgent_releases :
    Ensures (fun after => after.isHeld = false) (releasePairAgent control sess) := by
  have ended := sess.endSession_not_held
  unfold releasePairAgent
  split_ifs with free
  · exact .pure (by simpa using free)
  · unfold releasePairAgentWith
    split
    · next after same =>
        rw [same] at ended
        exact .pure ended
    · next restore after same =>
        rw [same] at ended
        split
        · exact .bind fun _ => .pure ended
        · exact .pure ended

end

/-- Where the task of a connection is. -/
inductive Stage where
  | acquiring
  /-- The agent was acquired; the task reads from the client. -/
  | reading
  | releasing
  | ended
deriving DecidableEq

structure Connection where
  stage : Stage
  /-- The client has neither closed the connection nor sent a byte. -/
  opened : Bool
deriving DecidableEq

def Connection.Acquired (conn : Connection) : Prop := conn.opened = true ∧ conn.stage = .reading

/-- The daemon's one session, and a task for every client. -/
structure PairSessions (Adapter Handle : Type) where
  adapter : Adapter
  session : PairAgentSession Handle
  connections : List Connection

namespace PairSessions

variable {Adapter Handle : Type}

inductive Event (Handle : Type) where
  | accepted
  /-- The client closes the connection, or sends a byte. -/
  | closed (index : Nat)
  /-- The task acquires the agent; `register` is what BlueZ replies. -/
  | acquired (index : Nat) (reg : Except Text Handle)
  | readReturned (index : Nat)
  | released (index : Nat)

def start (adapter : Adapter) : PairSessions Adapter Handle where
  adapter := adapter
  session := .default
  connections := []

def put (sessions : PairSessions Adapter Handle) (index : Nat)
    (conn : Connection) : PairSessions Adapter Handle :=
  { sessions with connections := sessions.connections.set index conn }

/-- An event for a task at another stage changes nothing. -/
def step (control : PairableControl Adapter) (sessions : PairSessions Adapter Handle) :
    Event Handle → PairSessions Adapter Handle
  | .accepted => { sessions with connections := sessions.connections ++ [⟨.acquiring, true⟩] }
  | .closed index =>
    match sessions.connections[index]? with
    | some conn => sessions.put index { conn with opened := false }
    | none => sessions
  | .acquired index reg =>
    match sessions.connections[index]? with
    | some ⟨.acquiring, opened⟩ =>
      let ((res, sess), adapter) :=
        (acquirePairAgent control sessions.session reg).run sessions.adapter
      { sessions with session := sess, adapter }.put index
        ⟨if res.isOk then .reading else .ended, opened⟩
    | _ => sessions
  | .readReturned index =>
    match sessions.connections[index]? with
    | some ⟨.reading, false⟩ => sessions.put index ⟨.releasing, false⟩
    | _ => sessions
  | .released index =>
    match sessions.connections[index]? with
    | some ⟨.releasing, opened⟩ =>
      let (sess, adapter) := (releasePairAgent control sessions.session).run sessions.adapter
      { sessions with session := sess, adapter }.put index ⟨.ended, opened⟩
    | _ => sessions

/--
The agent is held while an open connection has acquired it, and is not held
when no connection is open and all tasks have come to their end.
-/
structure Scoped (sessions : PairSessions Adapter Handle) : Prop where
  held : ∀ conn ∈ sessions.connections, conn.Acquired → sessions.session.isHeld = true
  released :
    (∀ conn ∈ sessions.connections,
      conn.opened = false ∧ conn.stage = .ended) → sessions.session.isHeld = false

/-- The agent is only released when no open connection has acquired it. -/
def ReleasedLast (sessions : PairSessions Adapter Handle) :
    Event Handle → Prop
  | .released index =>
    ∀ conn, sessions.connections[index]? = some conn →
      conn.stage = .releasing → ∀ other ∈ sessions.connections, ¬ other.Acquired
  | _ => True

/-- Only a task that is to release the agent holds it. -/
def Attended (sessions : PairSessions Adapter Handle) : Prop :=
  sessions.session.isHeld = true →
    ∃ conn ∈ sessions.connections, conn.stage = .reading ∨ conn.stage = .releasing

/-- What a step can do. -/
inductive Moved (sessions : PairSessions Adapter Handle) :
    Event Handle → PairSessions Adapter Handle → Prop
  | still {ev : Event Handle}
      (idle : ∀ index conn, ev = .released index →
        sessions.connections[index]? = some conn → conn.stage ≠ .releasing) :
      Moved sessions ev sessions
  | accepted :
      Moved sessions .accepted
        { sessions with connections := sessions.connections ++ [⟨.acquiring, true⟩] }
  | closed {index : Nat} {old : Connection}
      (found : sessions.connections[index]? = some old) :
      Moved sessions (.closed index) (sessions.put index { old with opened := false })
  | acquired {index : Nat} {reg : Except Text Handle} {opened : Bool}
      {sess : PairAgentSession Handle} {adapter : Adapter}
      (found : sessions.connections[index]? = some ⟨.acquiring, opened⟩)
      (held : sess.isHeld = true) :
      Moved sessions (.acquired index reg)
        ({ sessions with session := sess, adapter }.put index ⟨.reading, opened⟩)
  | refused {index : Nat} {reg : Except Text Handle} {opened : Bool}
      {adapter : Adapter} (found : sessions.connections[index]? = some ⟨.acquiring, opened⟩)
      (free : sessions.session.isHeld = false) :
      Moved sessions (.acquired index reg)
        ({ sessions with adapter }.put index ⟨.ended, opened⟩)
  | readReturned {index : Nat} (found : sessions.connections[index]? = some ⟨.reading, false⟩) :
      Moved sessions (.readReturned index) (sessions.put index ⟨.releasing, false⟩)
  | released {index : Nat} {opened : Bool}
      {sess : PairAgentSession Handle} {adapter : Adapter}
      (found : sessions.connections[index]? = some ⟨.releasing, opened⟩)
      (free : sess.isHeld = false) :
      Moved sessions (.released index)
        ({ sessions with session := sess, adapter }.put index ⟨.ended, opened⟩)

section

variable {control : PairableControl Adapter}
  {sessions : PairSessions Adapter Handle} {index : Nat}
  {conn old : Connection}

theorem step_moved {ev : Event Handle} : sessions.Moved ev (sessions.step control ev) := by
  cases ev with
  | accepted => exact .accepted
  | closed index =>
    cases found : sessions.connections[index]? with
    | none =>
      simp only [step, found]
      exact .still nofun
    | some old =>
      simp only [step, found]
      exact .closed found
  | acquired index reg =>
    simp only [step]
    split
    · next opened found =>
        have acquires :=
          acquirePairAgent_acquires control sessions.session reg sessions.adapter
        generalize (acquirePairAgent _ _ _).run sessions.adapter = reply at acquires
        obtain ⟨⟨res, sess⟩, adapter⟩ := reply
        obtain ⟨ok, held⟩ | ⟨failed, same, free⟩ := acquires
        · simp only [if_pos ok]
          exact .acquired found held
        · obtain rfl : sess = sessions.session := same
          simp only [failed]
          exact .refused found free
    · exact .still nofun
  | readReturned index =>
    simp only [step]
    split
    · next found => exact .readReturned found
    · exact .still nofun
  | released index =>
    simp only [step]
    split
    · next opened found => exact .released found (releasePairAgent_releases _ _ _)
    · next waiting =>
        refine .still ?_
        rintro _ ⟨stage, opened⟩ ⟨⟩ found rfl
        exact waiting _ found

theorem mem_put {other : Connection} (mem : other ∈ (sessions.put index conn).connections) :
    other ∈ sessions.connections ∨ other = conn :=
  mem_or_eq_of_mem_set mem

theorem exists_mem_put {property : Connection → Prop}
    (found : sessions.connections[index]? = some old)
    (present : ∃ other ∈ sessions.connections, property other)
    (kept : property old → property conn) :
    ∃ other ∈ (sessions.put index conn).connections, property other := by
  obtain ⟨other, mem, holds⟩ := present
  obtain ⟨pos, place⟩ := mem_iff_getElem?.mp mem
  by_cases same : pos = index
  · subst same
    cases place.symm.trans found
    have bound := (List.getElem?_eq_some_iff.mp found).1
    exact ⟨conn, mem_set bound _, kept holds⟩
  · refine ⟨other, mem_of_getElem? (i := pos) ?_, holds⟩
    simp only [put, getElem?_set_ne (.symm same), place]

theorem Attended.step (attended : sessions.Attended)
    (ev : Event Handle) : (sessions.step control ev).Attended := by
  have moved : sessions.Moved ev (sessions.step control ev) := step_moved
  generalize sessions.step control ev = after at moved
  intro held
  cases moved with
  | still idle => exact attended held
  | accepted =>
    obtain ⟨conn, mem, stage⟩ := attended held
    exact ⟨conn, mem_append_left _ mem, stage⟩
  | closed found => exact exists_mem_put found (attended held) id
  | @acquired index reg opened sess adapter found acquired =>
    have bound := (List.getElem?_eq_some_iff.mp found).1
    exact ⟨⟨.reading, opened⟩, mem_set bound _, .inl rfl⟩
  | refused found free => cases free.symm.trans held
  | readReturned found => exact exists_mem_put found (attended held) fun _ => .inr rfl
  | released found free => cases free.symm.trans held

/-- No task is left that would have to release the agent. -/
theorem Attended.released (attended : sessions.Attended)
    (ended : ∀ conn ∈ sessions.connections, conn.opened = false ∧ conn.stage = .ended) :
    sessions.session.isHeld = false := by
  by_contra held
  obtain ⟨conn, mem, stage⟩ := attended (by simpa using held)
  rw [(ended _ mem).2] at stage
  rcases stage with reading | releasing
  · cases reading
  · cases releasing

theorem Scoped.held_put (inScope : sessions.Scoped) (idle : ¬ conn.Acquired) : ∀ other ∈
    (sessions.put index conn).connections, other.Acquired → sessions.session.isHeld = true := by
  intro other mem acquired
  rcases mem_put mem with present | rfl
  · exact inScope.held _ present acquired
  · exact (idle acquired).elim

/-- A step keeps the scope exactly if it does not release too early. -/
theorem scoped_step_iff (attended : sessions.Attended) (inScope : sessions.Scoped)
    {ev : Event Handle} : (sessions.step control ev).Scoped ↔ sessions.ReleasedLast ev := by
  have later : (sessions.step control ev).Attended := attended.step _
  have moved : sessions.Moved ev (sessions.step control ev) := step_moved
  generalize sessions.step control ev = after at later moved
  have holding (held : ∀ conn ∈ after.connections, conn.Acquired →
        after.session.isHeld = true) : after.Scoped :=
    ⟨held, later.released⟩
  cases moved with
  | still idle =>
    refine iff_of_true inScope ?_
    cases ev with
    | released index =>
      intro conn found releasing
      exact (idle _ _ rfl found releasing).elim
    | _ => exact trivial
  | accepted =>
    refine iff_of_true (holding ?_) trivial
    intro conn mem acquired
    rcases mem_append.mp mem with old | new
    · exact inScope.held _ old acquired
    · rw [mem_singleton.mp new] at acquired
      cases acquired.2
  | closed found =>
    refine iff_of_true (holding (inScope.held_put ?_)) trivial
    rintro ⟨opened, -⟩
    cases opened
  | acquired found held => exact iff_of_true (holding fun _ _ _ => held) trivial
  | refused found free =>
    refine iff_of_true (holding (inScope.held_put ?_)) trivial
    rintro ⟨-, stage⟩
    cases stage
  | readReturned found =>
    refine iff_of_true (holding (inScope.held_put ?_)) trivial
    rintro ⟨opened, -⟩
    cases opened
  | @released index opened sess adapter found free =>
    constructor
    · intro kept conn place releasing other mem acquired
      obtain ⟨other, present, demands⟩ :=
        @exists_mem_put _ _ { sessions with session := sess, adapter } index
          ⟨.ended, opened⟩ _ _ found ⟨other, mem, acquired⟩ (by
            rintro ⟨-, stage⟩
            cases stage)
      cases free.symm.trans (kept.held other present demands)
    · intro last
      refine holding ?_
      intro conn mem acquired
      rcases mem_put mem with old | rfl
      · exact (last _ found rfl conn old acquired).elim
      · cases acquired.2

end

theorem start_attended {adapter : Adapter} :
    (start adapter : PairSessions Adapter Handle).Attended := by
  intro held
  cases held

theorem start_inScope {adapter : Adapter} :
    (start adapter : PairSessions Adapter Handle).Scoped where
  held := fun _ mem => absurd mem not_mem_nil
  released := fun _ => rfl

/--
For every interleaving of pair sessions the agent is held whenever an open
connection has acquired it, and released when all are closed, exactly when no
task releases it while another open connection has acquired it.
-/
theorem agent_scoped_iff (control : PairableControl Adapter)
    (adapter : Adapter) (events : List (Event Handle)) :
    Throughout (step control) Scoped (start adapter) events ↔
      Along (step control) ReleasedLast (start adapter) events :=
  @throughout_iff_along _ _ _ _ Attended _
    (fun _ _ attended => attended.step _)
    (fun _ _ attended inScope => scoped_step_iff attended inScope)
    _ start_attended start_inScope _

end PairSessions

def plainAdapter : PairableControl Bool where
  pairable := do return .ok (← get)
  setPairable value := do
    set value
    return .ok ()

def overlappingDialogs : List (PairSessions.Event Unit) :=
  [.accepted, .acquired 0 (.ok ()), .accepted, .acquired 1 (.ok ()),
    .closed 0, .readReturned 0, .released 0]

/-- The first dialog takes the agent from the second one. -/
theorem second_dialog_without_agent :
    ¬ Throughout (PairSessions.step plainAdapter) PairSessions.Scoped
        (.start false) overlappingDialogs ∧
      (run (PairSessions.step plainAdapter) (.start false)
          overlappingDialogs).connections =
        [⟨.ended, false⟩, ⟨.reading, true⟩] ∧
      (run (PairSessions.step plainAdapter) (.start false)
          overlappingDialogs).session.isHeld = false := by
  refine ⟨?_, by decide, by decide⟩
  intro throughout
  have held := throughout.last.held ⟨.reading, true⟩ (by decide) ⟨rfl, rfl⟩
  cases held

end DeskUnlock.Daemon
