import DeskUnlock.Foundation.Runs
import DeskUnlock.Proximity.TickEffects

/-!
# Locks per departure

A departure begins when a tick no longer ends in NEAR.  The engine means to
lock once for each: the countdown remembers in `NEAR_SEEN_SINCE_LOCK` that
the phone was seen near since the last request.  The lost heartbeat does not
ask for it, only for a state that was not ABSENT yet, and that state can
still be MID or FAR after the first lock of the departure was undone by the
user.
-/

namespace DeskUnlock.Proximity

open Runs Texts

/-! ## The request behind a lost heartbeat -/

section

variable {rt : Runtime} {eng : Engine} {reading : Reading}

theorem Runtime.followCandidate_seenPresence {profile : Profile} {candidate : ProximityState}
    {now sampleMs : Nat} :
    (rt.followCandidate profile candidate now sampleMs).seenPresence = rt.seenPresence := by
  unfold followCandidate updateReturnSettling finishSettling countSettling applyCandidate
  repeat' split
  all_goals rfl

theorem Runtime.fastReturnCandidate_seenPresence {cfg : Config} {rssi : RssiFile} :
    (rt.fastReturnCandidate cfg rssi).seenPresence = rt.seenPresence := by
  unfold fastReturnCandidate countFastReturn confirmFastReturn
  repeat' split
  all_goals rfl

namespace Engine

theorem takeSample_seenPresence {filtered : Text} {sampleMs : Nat} :
    (eng.takeSample reading filtered sampleMs).runtime.seenPresence = eng.runtime.seenPresence := by
  unfold takeSample
  split
  · change (eng.bootstrapBaseline _ filtered).runtime.seenPresence = _
    unfold bootstrapBaseline bootstrapFinish saveConfig
    repeat' split
    all_goals rfl
  · refine Runtime.followCandidate_seenPresence.trans ?_
    unfold updateNearBaseline saveConfig
    repeat' split
    all_goals rfl

theorem sense_seenPresence :
    (eng.sense reading).runtime.seenPresence = eng.runtime.seenPresence := by
  unfold sense processRssi
  refine Runtime.fastReturnCandidate_seenPresence.trans ?_
  repeat' split
  · rfl
  · rfl
  · exact takeSample_seenPresence

end Engine

/-- All that the request behind a lost heartbeat asks for. -/
structure Exposed (rt : Runtime) (sid : Text) (locked locks : Bool) : Prop where
  presence : rt.seenPresence = true
  left : rt.proximityState ≠ .absent
  idle : rt.lockIssued = .notIssued
  session : sid ≠ []
  unlocked : locked = false
  locks : locks = true

namespace Engine

theorem presenceLost_issued (more : (eng.presenceLost reading).issued ≠ eng.issued) :
    Exposed eng.runtime eng.cachedSid eng.cachedLocked reading.locks := by
  change issued (if _ then _ else _) ≠ _ at more
  unfold depart requestProximityLock at more
  split_ifs at more with presence absent seen busy locks
  · exact (more rfl).elim
  · exact (more rfl).elim
  · exact ⟨presence, absent, not_not.mp busy, seen.2, seen.1, locks⟩
  all_goals exact (more rfl).elim

theorem lostHeartbeat_issued (more : (eng.lostHeartbeat reading).issued ≠ eng.issued) :
    Exposed eng.runtime eng.cachedSid eng.cachedLocked reading.locks := by
  have cancelled : Quiet reading.now eng eng.cancelSettling := .cancelSettling
  have sensed : Quiet reading.now eng (eng.cancelSettling.sense reading) := cancelled.trans .sense
  obtain ⟨presence, state⟩ :
      eng.cancelSettling.runtime.seenPresence = eng.runtime.seenPresence ∧
        eng.cancelSettling.runtime.proximityState = eng.runtime.proximityState := by
    unfold cancelSettling update
    dsimp only
    split <;> exact ⟨rfl, rfl⟩
  unfold lostHeartbeat issued at more
  rw [state] at more
  split_ifs at more with away heard
  · exact (more (by rw [sensed.lockCalls])).elim
  · rw [← sensed.lockCalls] at more
    obtain ⟨known, -, idle, session, unlocked, locks⟩ := presenceLost_issued more
    rw [sense_seenPresence, presence] at known
    rw [sensed.sameLock.lockIssued] at idle
    rw [sensed.kept.cachedSid] at session
    rw [sensed.kept.cachedLocked] at unlocked
    refine ⟨known, ?_, idle, session, unlocked, locks⟩
    rcases away.2 with far | mid
    · simp [far]
    · simp [mid]
  · rw [← cancelled.lockCalls] at more
    obtain ⟨known, left, idle, session, unlocked, locks⟩ := presenceLost_issued more
    rw [presence] at known
    rw [state] at left
    rw [cancelled.sameLock.lockIssued] at idle
    exact ⟨known, left, idle, session, unlocked, locks⟩

variable (eng reading) in
/-- What a tick finds in the runtime file, once it has tracked the lock. -/
def trackedRuntime : Runtime := eng.loadedRuntime.trackLock (eng.seesLocked reading)

/-- A tick without a heartbeat issues a request only where it is enabled and exposed. -/
theorem engineTick_issued_lost (lost : reading.heartbeatValid = false)
    (more : (eng.engineTick reading).issued ≠ eng.issued) :
    (readConfig eng.configFile).config.enabled = true ∧
      Exposed (eng.trackedRuntime reading) (eng.session reading) (eng.seesLocked reading)
        reading.locks := by
  have loaded := eng.load_loaded reading
  obtain ⟨sid, locked, -⟩ := eng.load_cache reading
  have enabled :
      (eng.observe reading).config.enabled = (readConfig eng.configFile).config.enabled := by
    unfold observe load sampleLock lookUpSession loadConfig saveConfig
    repeat' split
    all_goals rfl
  have observed : (eng.observe reading).runtime = eng.trackedRuntime reading := by
    unfold observe trackedRuntime
    rw [← loaded.runtime, ← locked]
    rfl
  have ticked : (eng.engineTick reading).issued = ((eng.observe reading).react reading).issued := by
    unfold engineTick saveRuntime
    split <;> rfl
  rw [ticked, react, lost, enabled, if_neg Bool.false_ne_true] at more
  unfold issued at more
  rw [← loaded.lockCalls] at more
  split_ifs at more with disabled
  · exact (more rfl).elim
  · rw [← observed, ← sid, ← locked]
    exact ⟨by simpa using disabled, lostHeartbeat_issued more⟩

end Engine

end

/-! ## Departures -/

/-- The engine, and its requests at the last tick that ended near. -/
structure Departure where
  engine : Engine
  nearMark : Nat

namespace Departure

def start (configFile : Option Text) (runtimeFile : Option Runtime)
    (reading : Reading) : Departure :=
  { engine := Engine.engineInitialize configFile runtimeFile reading, nearMark := 0 }

/-- Keep the number of requests when last `NEAR`. -/
def step (departure : Departure) (ev : EngineEvent) : Departure :=
  { engine := departure.engine.step ev
    nearMark :=
      match ev with
      | .tick reading =>
        if (departure.engine.engineTick reading).runtime.proximityState =
            .near then
          (departure.engine.engineTick reading).issued
        else departure.nearMark
      | .configured _ => departure.nearMark
      | .reset _ => departure.nearMark }

/-- At most one request since the last tick that ended near. -/
def OneLock (departure : Departure) : Prop := departure.engine.issued ≤ departure.nearMark + 1

/--
A tick of an enabled engine that has no heartbeat and finds all that a request
asks for finds none that was issued since the last tick that ended near.
-/
def Spared (departure : Departure) : EngineEvent → Prop
  | .tick reading =>
    reading.heartbeatValid = false →
      (readConfig departure.engine.configFile).config.enabled = true →
      Exposed (departure.engine.trackedRuntime reading)
          (departure.engine.session reading) (departure.engine.seesLocked reading) reading.locks →
        departure.engine.issued = departure.nearMark
  | .configured _ => True
  | .reset _ => True

/-- The memory of the process is right about the requests. -/
structure Remembered (departure : Departure) : Prop where
  marked : departure.nearMark ≤ departure.engine.issued
  seen : departure.engine.nearSeenSinceLock = true → departure.engine.issued = departure.nearMark

theorem start_engine (configFile : Option Text) (runtimeFile : Option Runtime) (reading : Reading) :
    (start configFile runtimeFile reading).engine.issued = 0 := by
  obtain ⟨written, cfg, saved, started, -⟩ := Engine.engineInitialize_eq _ _ _
  unfold start
  rw [started]
  rfl

theorem start_remembered {configFile : Option Text} {runtimeFile : Option Runtime}
    {reading : Reading} : (start configFile runtimeFile reading).Remembered := by
  have none := start_engine configFile runtimeFile reading
  exact ⟨Nat.zero_le _, fun _ => none⟩

/-- A tick either issues nothing or issues one request away from NEAR. -/
theorem tick_cases (departure : Departure) {reading : Reading} :
    (∃ mark,
      departure.step (.tick reading) =
        { engine := departure.engine.engineTick reading, nearMark := mark } ∧
      (departure.engine.engineTick reading).issued = departure.engine.issued ∧
      ((mark = departure.engine.issued) ∨
        (mark = departure.nearMark ∧
          ((departure.engine.engineTick reading).nearSeenSinceLock = true →
            departure.engine.nearSeenSinceLock = true)))) ∨
    (departure.step (.tick reading) =
        { engine := departure.engine.engineTick reading, nearMark := departure.nearMark } ∧
      (departure.engine.engineTick reading).issued = departure.engine.issued + 1 ∧
      (departure.engine.engineTick reading).nearSeenSinceLock = false ∧
      (reading.heartbeatValid = true → departure.engine.nearSeenSinceLock = true)) := by
  rcases departure.engine.engineTick_issued _ with ⟨same, seen⟩ | ⟨more, unseen, left, armed⟩
  · refine .inl ⟨_, rfl, same, ?_⟩
    dsimp only
    split
    · exact .inl same
    · rename_i away
      exact .inr ⟨rfl, fun since => (seen since).resolve_right away⟩
  · refine .inr ⟨?_, more, unseen, armed⟩
    unfold step
    dsimp only
    rw [if_neg left]
    rfl

theorem Remembered.step {departure : Departure} (remembered : departure.Remembered)
    (ev : EngineEvent) : (departure.step ev).Remembered := by
  cases ev with
  | tick reading =>
    rcases departure.tick_cases with
      ⟨mark, stepped, same, near | ⟨kept, seen⟩⟩ | ⟨stepped, more, unseen, -⟩
    · rw [stepped]
      subst near
      exact ⟨Nat.le_of_eq same.symm, fun _ => same⟩
    · rw [stepped]
      subst kept
      constructor
      · exact same ▸ remembered.marked
      · exact fun since => same.trans (remembered.seen (seen since))
    · rw [stepped]
      constructor
      · exact more ▸ Nat.le_succ_of_le remembered.marked
      · intro since
        rw [unseen] at since
        cases since
  | configured file | reset file => exact ⟨remembered.marked, remembered.seen⟩

/-- The countdown never locks twice; the lost heartbeat may. -/
theorem OneLock.step {departure : Departure} (one : departure.OneLock)
    (remembered : departure.Remembered) {ev : EngineEvent} (spared : departure.Spared ev) :
    (departure.step ev).OneLock := by
  cases ev with
  | tick reading =>
    rcases departure.tick_cases with ⟨mark, stepped, same, marked⟩ | ⟨stepped, more, -, armed⟩
    · rw [stepped]
      unfold OneLock at one ⊢
      rcases marked with near | ⟨kept, -⟩
      · rw [same, near]
        exact Nat.le_succ _
      · rw [same, kept]
        exact one
    · rw [stepped]
      have differs : (departure.engine.engineTick reading).issued ≠ departure.engine.issued :=
        more ▸ Nat.succ_ne_self _
      have first : departure.engine.issued = departure.nearMark := by
        cases valid : reading.heartbeatValid with
        | true => exact remembered.seen (armed valid)
        | false =>
          obtain ⟨enabled, exposed⟩ := Engine.engineTick_issued_lost valid differs
          exact spared valid enabled exposed
      unfold OneLock
      rw [more]
      exact Nat.succ_le_succ (Nat.le_of_eq first)
  | configured file | reset file => exact one

/--
Since the last tick that ended near there is at most one request, in every
state of a run in which the lost heartbeat never finds what a second request
asks for.
-/
theorem oneLock_throughout (configFile : Option Text) (runtimeFile : Option Runtime)
    (reading : Reading) (events : List EngineEvent)
    (spared : Along step Spared (start configFile runtimeFile reading) events) :
    Throughout step OneLock (start configFile runtimeFile reading) events := by
  have kept :
      Throughout step (fun departure => departure.Remembered ∧ departure.OneLock)
        (start configFile runtimeFile reading) events := by
    apply throughout_of_along _ _ spared
    · exact fun departure ev spared kept => ⟨kept.1.step _, kept.2.step kept.1 spared⟩
    · refine ⟨start_remembered, ?_⟩
      unfold OneLock
      rw [start_engine]
      exact Nat.zero_le _
  exact kept.imp fun _ kept => kept.2

/-- The phone comes near: two strong samples, four seconds apart. -/
def arrival : List EngineEvent :=
  (samples "-60" false [100000, 104000]).map .tick

/-- The heartbeat is lost in a state that is still NEAR. -/
def lostNear : EngineEvent :=
  .tick { Reading.sampled 106000 "-60".toList false with heartbeatAgeMs := 61000 }

/-- The lost heartbeat locks, and it is the only one to do so. -/
theorem lostNear_locks_once :
    let start := start settledFile none (.sampled 98000 "-60".toList false)
    (run step start (arrival ++ [lostNear])).engine.issued = 1 ∧
      Throughout step OneLock start (arrival ++ [lostNear]) := by
  constructor
  · decide +kernel
  · apply oneLock_throughout
    refine ⟨?_, ?_, ?_, trivial⟩
    · exact fun lost => by cases lost
    · exact fun lost => by cases lost
    · intro _ _ _
      decide +kernel

/--
The phone moves away and the countdown locks the session.  The lock is seen,
the user unlocks, which is seen three ticks later, and the heartbeat is lost.
-/
def walkAway : List EngineEvent :=
  (samples "-65" false [106000, 108000, 113000] ++ samples "-65" true [115000, 117000] ++
    samples "-65" false [119000, 121000, 123000] ++
    [{ Reading.sampled 125000 "-65".toList false with heartbeatAgeMs := 61000 }]).map .tick

def comeBack : List EngineEvent :=
  (samples "-60" true [127000, 131000]).map .tick

/--
Two requests between two ticks that end near: the countdown locks, the user
unlocks away from the phone, and the lost heartbeat locks again.
-/
theorem departure_locks_twice :
    let after := run step (start settledFile none (.sampled 98000 "-60".toList false))
    (after arrival).engine.runtime.proximityState = .near ∧
      (after (arrival ++ walkAway)).nearMark = 0 ∧
      (after (arrival ++ walkAway)).engine.issued = 2 ∧
      (after (arrival ++ walkAway ++ comeBack)).engine.runtime.proximityState = .near := by
  decide +kernel

end Departure

end DeskUnlock.Proximity
