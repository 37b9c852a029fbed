import Mathlib.Order.MinMax
import Mathlib.Tactic.MkIffOfInductiveProp
import DeskUnlock.Foundation.Runs
import DeskUnlock.Proximity.TickEffects

/-!
# Ticks while the phone is away

A phone that is away has a valid heartbeat and fresh samples that are all
FAR.  Such a sample leaves the configuration alone.  It moves the state
towards FAR, unless a return settles, which swallows it; and the tick calls
for a lock once the countdown has run out, unless a return settles or a
request was never seen to take effect.
-/

namespace DeskUnlock.Proximity

open Texts Engine

/-! ## The clock of a run -/

/-- The engine and the time of its last tick. -/
structure Timed where
  engine : Engine
  clock : Nat

variable {reading : Reading} {cfg : Config}

namespace Timed

/-- The engine at its start, with the clock of the reading. -/
def start (configFile : Option Text) (runtimeFile : Option Runtime) (reading : Reading) : Timed :=
  { engine := Engine.engineInitialize configFile runtimeFile reading, clock := reading.now }

/-- Only a tick reads the clock. -/
def step (timed : Timed) (ev : EngineEvent) : Timed :=
  { engine := timed.engine.step ev
    clock :=
      match ev with
      | .tick reading => reading.now
      | .configured _ => timed.clock
      | .reset _ => timed.clock }

def tick (timed : Timed) (reading : Reading) : Timed := timed.step (.tick reading)

def Forward (timed : Timed) : EngineEvent → Prop
  | .tick reading => timed.clock ≤ reading.now
  | .configured _ => True
  | .reset _ => True

instance decidableForward (timed : Timed) :
    (ev : EngineEvent) → Decidable (timed.Forward ev)
  | .tick reading => inferInstanceAs (Decidable (timed.clock ≤ reading.now))
  | .configured _ => .isTrue trivial
  | .reset _ => .isTrue trivial

/-- No recorded time lies in the future, and the lock is sampled again soon. -/
structure Sound (timed : Timed) : Prop where
  pendingSinceMs : timed.engine.loadedRuntime.pendingSinceMs ≤ timed.clock
  leftNearSinceMs : timed.engine.leftNearSinceMs ≤ timed.clock
  lockedTicksLeft : timed.engine.lockedTicksLeft < LOCK_CACHE_TICKS

theorem start_sound {configFile : Option Text} {runtimeFile : Option Runtime}
    (past : (runtimeFile.getD {}).pendingSinceMs ≤ reading.now) :
    (start configFile runtimeFile reading).Sound := by
  obtain ⟨written, cfg, saved, started, out⟩ := engineInitialize_eq _ _ _
  unfold start
  rw [started]
  refine ⟨?_, Nat.zero_le _, Nat.succ_pos 2⟩
  rcases out with old | new
  · rw [old]
    exact past
  · rw [new]
    exact (initialRuntime_pendingSinceMs _ _).trans past

theorem Sound.step {timed : Timed} (sound : timed.Sound)
    {ev : EngineEvent} (forward : timed.Forward ev) : (timed.step ev).Sound := by
  cases ev with
  | tick reading =>
    have pending := sound.pendingSinceMs
    have left := sound.leftNearSinceMs
    have times := timed.engine.engineTick_times reading
    have cache := (timed.engine.engineTick_cache reading).2.2
    have later : timed.clock ≤ reading.now := forward
    refine ⟨?_, ?_, ?_⟩
    · rcases timed.engine.engineTick_loadedRuntime _ with old | new
      · exact (congrArg _ old).trans_le (pending.trans later)
      · exact (congrArg _ new).trans_le (times.1.trans (max_le (pending.trans later) le_rfl))
    · exact times.2.trans (max_le (left.trans later) le_rfl)
    · have bounded := sound.lockedTicksLeft
      refine cache.trans_lt ?_
      split
      · decide
      · omega
  | configured file => exact ⟨sound.pendingSinceMs, sound.leftNearSinceMs, sound.lockedTicksLeft⟩
  | reset file => exact ⟨Nat.zero_le _, sound.leftNearSinceMs, sound.lockedTicksLeft⟩

end Timed

/-! ## A phone that is away -/

/-- The configuration file sets the engine up to lock. -/
structure Configured (cfg : Config) (eng : Engine) : Prop where
  file : readConfig eng.configFile = { config := cfg }
  enabled : cfg.enabled = true
  baseline : cfg.baseline ≠ []

def farSample (cfg : Config) (eng : Engine) (reading : Reading) : Bool :=
  match reading.readRssiSample with
  | none => false
  | some (filtered, sampleMs) =>
    decide
      (eng.loadedRuntime.lastSampleMs < sampleMs ∧
        candidateState cfg.profile (floatDelta filtered cfg.baseline) = .far)

/--
What a tick reads while the phone is away and the session is not locked: a
later time, an unlocked session, a valid heartbeat and a fresh FAR sample.
The runtime file can be written.
-/
@[mk_iff]
structure Away (cfg : Config) (timed : Timed) (reading : Reading) :
    Prop where
  forward : timed.clock ≤ reading.now
  positive : 0 < reading.now
  session : timed.engine.session reading ≠ []
  unlocked : reading.lockedHint = false
  heartbeat : reading.heartbeatValid = true
  sample : farSample cfg timed.engine reading = true
  saved : reading.runtimeSaved = true

instance decidableAway (cfg : Config) (timed : Timed)
    (reading : Reading) : Decidable (Away cfg timed reading) :=
  decidable_of_iff _ (away_iff cfg timed reading).symm

/-! ## A FAR sample -/

namespace Runtime

/-- A FAR sample, for the state or a settling return and the fast return. -/
def takeFar (cfg : Config) (reading : Reading) (sampleMs : Nat) (rt : Runtime) : Runtime :=
  fastReturnCandidate cfg reading.rssi
    (followCandidate cfg.profile .far reading.now sampleMs
      { rt with lastSampleMs := sampleMs })

variable {rt : Runtime} {rssi : RssiFile} {sampleMs : Nat}

theorem fastReturnCandidate_settling
    (settling : rt.returnMode = .returnSettling) :
    (rt.fastReturnCandidate cfg rssi).returnMode = .returnSettling := by
  unfold fastReturnCandidate
  split
  · exact settling
  · split
    · exact settling
    · unfold countFastReturn
      split
      · unfold confirmFastReturn
        split
        · rfl
        · exact settling
      · exact settling

/-- Without a lock to return from, only the count of the fast return changes. -/
theorem fastReturnCandidate_ineligible
    (ineligible : rt.returnLifecycleEligible = false) :
    ∃ count last,
      rt.fastReturnCandidate cfg rssi =
        { rt with fastReturnSampleCount := count, fastReturnLastSampleMs := last } := by
  unfold fastReturnCandidate
  split
  · exact ⟨_, _, rfl⟩
  · rename_i sampleMs _
    split
    · exact ⟨_, _, rfl⟩
    · have stops :
          returnLifecycleEligible { rt with fastReturnLastSampleMs := sampleMs } = false :=
        ineligible
      unfold countFastReturn
      rw [stops]
      exact ⟨_, _, rfl⟩

theorem takeFar_settling (settling : rt.returnMode = .returnSettling) :
    (rt.takeFar cfg reading sampleMs).returnMode = .returnSettling := by
  apply fastReturnCandidate_settling
  unfold followCandidate
  rw [if_pos settling]
  exact settling

theorem takeFar_sameLock : SameLock reading.now rt (rt.takeFar cfg reading sampleMs) := by
  have taken : SameLock reading.now rt { rt with lastSampleMs := sampleMs } :=
    .of_eq rfl rfl rfl
  exact (taken.trans .followCandidate).trans .fastReturnCandidate

/-- The state, and what is pending since when. -/
def phase (rt : Runtime) : ProximityState × Option ProximityState × Nat :=
  (rt.proximityState, rt.pendingState, rt.pendingSinceMs)

section

variable {profile : Profile} {candidate : ProximityState} {now : Nat}

theorem applyCandidate_phase :
    (rt.applyCandidate profile candidate now).phase =
      if candidate = rt.proximityState then (rt.proximityState, none, 0)
      else if rt.pendingState ≠ some candidate then
        (rt.proximityState, some candidate, now)
      else if
          now - rt.pendingSinceMs < transitionPersistenceMs profile candidate then
        (rt.proximityState, rt.pendingState, rt.pendingSinceMs)
      else (candidate, none, 0) := by
  unfold applyCandidate
  split_ifs <;> rfl

theorem applyCandidate_returnMode :
    (rt.applyCandidate profile candidate now).returnMode = rt.returnMode := by
  unfold applyCandidate
  split_ifs <;> rfl

end

theorem takeFar_free (mode : rt.returnMode = .none) : (rt.takeFar cfg reading sampleMs).phase =
    (rt.applyCandidate cfg.profile .far reading.now).phase ∧
    (rt.takeFar cfg reading sampleMs).returnMode = .none := by
  have settled : rt.returnMode ≠ .returnSettling := by
    rw [mode]
    decide
  have followed : followCandidate cfg.profile .far reading.now sampleMs
          { rt with lastSampleMs := sampleMs } =
        applyCandidate _ .far _ { rt with lastSampleMs := sampleMs } :=
    if_neg settled
  have idle : (applyCandidate cfg.profile .far reading.now
        { rt with lastSampleMs := sampleMs }).returnMode = .none :=
    applyCandidate_returnMode.trans mode
  have ineligible :
      (applyCandidate cfg.profile .far reading.now
        { rt with lastSampleMs := sampleMs }).returnLifecycleEligible = false := by
    unfold returnLifecycleEligible
    rw [idle]
    split <;> rfl
  obtain ⟨count, last, counted⟩ := fastReturnCandidate_ineligible ineligible
  unfold takeFar
  rw [followed, counted]
  refine ⟨?_, idle⟩
  rw [applyCandidate_phase]
  exact applyCandidate_phase

def obstructed (rt : Runtime) : Bool := decide (rt.returnMode = .returnSettling) || rt.requestUnseen

theorem obstructed_eq_false_iff : rt.obstructed =
    false ↔ rt.returnMode ≠ .returnSettling ∧ rt.requestUnseen = false := by
  unfold obstructed
  rw [Bool.or_eq_false_iff, decide_eq_false_iff_not]

theorem trackLock_obstructed (obstructed : rt.obstructed = true) :
    rt.trackLock false = rt := by
  unfold trackLock
  rw [if_neg Bool.false_ne_true]
  split
  · rfl
  · rename_i mode
    have unseen : rt.requestUnseen = true :=
      (Bool.or_eq_true_iff.mp obstructed).resolve_left
        fun settling => mode (of_decide_eq_true settling)
    rw [if_pos unseen]

theorem trackLock_free (free : rt.obstructed = false) :
    rt.trackLock false = rt.forgetLock := by
  obtain ⟨mode, seen⟩ := obstructed_eq_false_iff.mp free
  unfold trackLock
  rw [if_neg Bool.false_ne_true, if_neg mode, if_neg (Bool.eq_false_iff.mp seen)]

theorem takeFar_obstructed (obstructed : rt.obstructed = true) :
    (rt.takeFar cfg reading sampleMs).obstructed = true := by
  have same : SameLock _ rt (rt.takeFar cfg reading sampleMs) := takeFar_sameLock
  rcases Bool.or_eq_true_iff.mp obstructed with settling | unseen
  · refine Bool.or_eq_true_iff.mpr (.inl ?_)
    exact decide_eq_true (takeFar_settling (of_decide_eq_true settling))
  · refine Bool.or_eq_true_iff.mpr (.inr ?_)
    unfold requestUnseen at unseen ⊢
    rw [same.lockReason, same.lockIssued]
    exact unseen

/-- The state is FAR, or FAR has been pending since some time. -/
def Going (since : Nat) (rt : Runtime) : Prop :=
  rt.proximityState = .far ∨ (rt.pendingState = some .far ∧ rt.pendingSinceMs ≤ since)

variable {profile : Profile} {now since : Nat}

theorem Going.congr {first second : Runtime}
    (same : first.phase = second.phase) (going : second.Going since) : first.Going since := by
  obtain ⟨state, rest⟩ := Prod.mk.inj same
  obtain ⟨pending, start⟩ := Prod.mk.inj rest
  unfold Going
  rw [state, pending, start]
  exact going

theorem going_start (past : rt.pendingSinceMs ≤ now) :
    (rt.applyCandidate profile .far now).Going now := by
  unfold applyCandidate
  split
  · rename_i far
    exact .inl far.symm
  · split
    · exact .inr ⟨rfl, le_refl _⟩
    · rename_i pending
      split
      · exact .inr ⟨not_not.mp pending, past⟩
      · exact .inl rfl

theorem Going.keep (going : rt.Going since) :
    (rt.applyCandidate profile .far now).Going since := by
  unfold applyCandidate
  split
  · rename_i far
    exact .inl far.symm
  · rename_i notFar
    obtain ⟨pending, past⟩ := going.resolve_left fun far => notFar far.symm
    rw [if_neg (not_not.mpr pending)]
    split
    · exact .inr ⟨pending, past⟩
    · exact .inl rfl

/-- After the far persistence the state is FAR, and nothing is pending. -/
theorem Going.arrive (going : rt.Going since)
    (persisted : since + transitionPersistenceMs profile .far ≤ now) :
    (rt.applyCandidate profile .far now).proximityState = .far ∧
      (rt.applyCandidate profile .far now).pendingState = .none := by
  unfold applyCandidate
  split
  · rename_i far
    exact ⟨far.symm, rfl⟩
  · rename_i notFar
    obtain ⟨pending, past⟩ := going.resolve_left fun far => notFar far.symm
    rw [if_neg (not_not.mpr pending), if_neg (by omega)]
    exact ⟨rfl, rfl⟩

end Runtime

/-! ## A tick while the phone is away -/

namespace Engine

variable {eng : Engine} {now sampleMs : Nat} {filtered : Text}

theorem load_configured (configured : Configured cfg eng) {reading : Reading} :
    (eng.load reading).config = cfg ∧ (eng.load reading).configFile = eng.configFile := by
  have loads : eng.loadConfig reading.configSaved = { eng with config := cfg } := by
    unfold loadConfig
    rw [configured.file]
    rfl
  unfold load
  rw [loads]
  obtain ⟨sid, found⟩ := lookUpSession_eq _ _
  obtain ⟨locked, left, sampled⟩ :=
    ((loadRuntime { eng with config := cfg }).lookUpSession _).sampleLock_eq _
  rw [sampled, found]
  exact ⟨rfl, rfl⟩

/-- With a baseline, a FAR sample leaves the configuration alone. -/
theorem takeSample_of_far (baseline : eng.config.baseline ≠ [])
    (far :
      candidateState eng.config.profile (floatDelta filtered eng.config.baseline) = .far) :
    eng.takeSample reading filtered sampleMs =
      eng.update (Runtime.followCandidate eng.config.profile .far reading.now sampleMs) := by
  unfold takeSample followSample
  rw [if_neg baseline, far, if_neg fun both => nomatch both.1]

theorem sense_of_far (baseline : eng.config.baseline ≠ [])
    (read : reading.readRssiSample = some (filtered, sampleMs))
    (fresh : eng.runtime.lastSampleMs < sampleMs)
    (far :
      candidateState eng.config.profile (floatDelta filtered eng.config.baseline) = .far) :
    eng.sense reading = eng.update (Runtime.takeFar eng.config reading sampleMs) := by
  have taken :=
    @takeSample_of_far reading (eng.update fun rt => { rt with lastSampleMs := sampleMs })
      sampleMs _ baseline far
  unfold sense processRssi
  rw [read]
  dsimp only
  rw [if_neg (not_le.mpr fresh), taken]
  rfl

theorem countdown_frame :
    (eng.countdown now).runtime = eng.runtime ∧ (eng.countdown now).lockCalls = eng.lockCalls ∧
      (eng.countdown now).configFile = eng.configFile ∧
      (eng.countdown now).cachedLocked = eng.cachedLocked := by
  unfold countdown
  split_ifs <;> exact ⟨rfl, rfl, rfl, rfl⟩

/-- Seeing the session unlocked, a tick calls for a lock or does nothing. -/
theorem decideLock_cases (unlocked : eng.cachedLocked = false) :
    ((eng.decideLock reading).lockCalls = reading.locks :: eng.lockCalls ∧
      eng.runtime.lockIssued = .notIssued ∧ eng.runtime.returnMode ≠ .returnSettling) ∨
    (eng.decideLock reading = eng ∧
      (eng.lockDue reading.now = false ∨ eng.runtime.lockIssued ≠ .notIssued)) := by
  unfold decideLock
  rw [unlocked, if_neg Bool.false_ne_true]
  split
  · rename_i due
    have mode := (lockDue_iff.mp due).2.1
    unfold requestProximityLock
    split
    · rename_i under
      exact .inr ⟨rfl, .inr under⟩
    · rename_i free
      refine .inl ⟨?_, not_not.mp free, mode⟩
      split
      · rename_i locks
        rw [locks]
      · rename_i fails
        rw [Bool.eq_false_iff.mpr fails]
  · rename_i early
    exact .inr ⟨rfl, .inl (Bool.eq_false_iff.mpr early)⟩

theorem countdown_keeps (seen : eng.nearSeenSinceLock = true) :
    (eng.countdown now).nearSeenSinceLock = true := by
  by_cases near : eng.runtime.proximityState = .near
  · rw [countdown_of_near near]
  · exact (countdown_of_away near).nearSeenSinceLock.trans seen

theorem decideLock_configFile : (eng.decideLock reading).configFile = eng.configFile := by
  unfold decideLock requestProximityLock
  split_ifs <;> rfl

def hearFar (cfg : Config) (reading : Reading) (sampleMs : Nat) (eng : Engine) : Engine :=
  (eng.observe reading).update fun rt =>
    Runtime.takeFar cfg reading sampleMs { rt with seenPresence := true }

theorem trackLock_lastSampleMs {locked : Bool} {rt : Runtime} :
    (rt.trackLock locked).lastSampleMs = rt.lastSampleMs := by
  unfold Runtime.trackLock
  split_ifs <;> rfl

variable {timed : Timed}

theorem engineTick_of_away (configured : Configured cfg timed.engine)
    (away : Away cfg timed reading) :
    ∃ sampleMs,
      timed.engine.engineTick reading =
        (((timed.engine.hearFar cfg reading sampleMs).countdown
          reading.now).decideLock reading).saveRuntime true := by
  have sample := away.sample
  unfold farSample at sample
  split at sample
  · cases sample
  · rename_i filtered sampleMs read
    obtain ⟨fresh, far⟩ := of_decide_eq_true sample
    have loads : (timed.engine.observe reading).config = cfg := (load_configured configured).1
    have unread : (timed.engine.observe reading).runtime.lastSampleMs < sampleMs := by
      rw [← (load_loaded _ _).runtime] at fresh
      exact trackLock_lastSampleMs.trans_lt fresh
    refine ⟨sampleMs, ?_⟩
    have enabled : (timed.engine.observe reading).config.enabled ≠ false := by
      rw [loads, configured.enabled]
      decide
    have sensed :=
      @sense_of_far reading
        ((timed.engine.observe _).update fun rt => { rt with seenPresence := true })
        _ _ (loads ▸ configured.baseline) read unread (loads ▸ far)
    unfold engineTick react
    rw [if_neg enabled, if_pos away.heartbeat, away.saved]
    unfold present
    rw [sensed]
    rw [← loads]
    rfl

theorem hearFar_frame (configured : Configured cfg eng) :
    (eng.hearFar cfg reading sampleMs).configFile = eng.configFile ∧
    (eng.hearFar cfg reading sampleMs).cachedSid = eng.session reading ∧
    (eng.hearFar cfg reading sampleMs).cachedLocked = eng.seesLocked reading ∧
    (eng.hearFar cfg reading sampleMs).lockCalls = eng.lockCalls ∧
    (eng.hearFar cfg reading sampleMs).nearSeenSinceLock = eng.nearSeenSinceLock ∧
    (eng.hearFar cfg reading sampleMs).leftNearSinceMs = eng.leftNearSinceMs := by
  have loaded := eng.load_loaded reading
  have cache := eng.load_cache reading
  exact ⟨(load_configured configured).2, cache.1, cache.2.1,
      loaded.lockCalls, loaded.nearSeenSinceLock, loaded.leftNearSinceMs⟩

theorem hearFar_runtime :
    (eng.hearFar cfg reading sampleMs).runtime =
      Runtime.takeFar cfg reading sampleMs
        { eng.loadedRuntime.trackLock (eng.seesLocked reading) with
          seenPresence := true } := by
  rw [← (load_loaded _ _).runtime, ← (load_cache _ _).2.1]
  rfl

theorem engineTick_configFile (configured : Configured cfg timed.engine)
    (away : Away cfg timed reading) :
    (timed.engine.engineTick reading).configFile = timed.engine.configFile := by
  obtain ⟨sampleMs, ticked⟩ := engineTick_of_away configured away
  rw [ticked]
  exact (decideLock_configFile.trans countdown_frame.2.2.1).trans (hearFar_frame configured).1

/--
A tick that sees the session unlocked: it calls for a lock, with no request
under way and no return settling, or it saves what it has heard.
-/
theorem engineTick_unlocked (configured : Configured cfg timed.engine)
    (away : Away cfg timed reading) (unlocked : timed.engine.seesLocked reading = false) :
    ∃ sampleMs,
      ((timed.engine.engineTick reading).lockCalls = reading.locks :: timed.engine.lockCalls ∧
        (timed.engine.hearFar cfg reading sampleMs).runtime.obstructed = false) ∨
      (timed.engine.engineTick reading =
          ((timed.engine.hearFar cfg reading sampleMs).countdown reading.now).saveRuntime true ∧
        (((timed.engine.hearFar cfg reading sampleMs).countdown
            reading.now).lockDue reading.now = false ∨
          (timed.engine.hearFar cfg reading sampleMs).runtime.lockIssued ≠ .notIssued)) := by
  obtain ⟨sampleMs, ticked⟩ := engineTick_of_away configured away
  obtain ⟨-, -, sees, calls, -, -⟩ := @hearFar_frame reading _ _ sampleMs configured
  refine ⟨sampleMs, ?_⟩
  rcases decideLock_cases (countdown_frame.2.2.2.trans (sees.trans unlocked))
    with ⟨made, idle, settled⟩ | ⟨same, early⟩
  · rw [countdown_frame.1] at idle settled
    rw [countdown_frame.2.1, calls] at made
    refine .inl ⟨?_, ?_⟩
    · rw [ticked]
      exact made
    · refine Runtime.obstructed_eq_false_iff.mpr ⟨settled, ?_⟩
      unfold Runtime.requestUnseen
      rw [idle]
      exact decide_eq_false fun both => nomatch both.2
  · rw [countdown_frame.1] at early
    refine .inr ⟨?_, early⟩
    rw [ticked, same]

/-- While an obstacle stands, no tick calls for a lock or removes it. -/
theorem engineTick_obstructed (configured : Configured cfg timed.engine)
    (away : Away cfg timed reading) (unlocked : timed.engine.seesLocked reading = false)
    (obstructed : timed.engine.loadedRuntime.obstructed = true) :
    (timed.engine.engineTick reading).lockCalls = timed.engine.lockCalls ∧
      (timed.engine.engineTick reading).loadedRuntime.obstructed = true := by
  obtain ⟨sampleMs, ⟨-, free⟩ | ⟨ticked, -⟩⟩ := engineTick_unlocked configured away unlocked
  all_goals
    have still : (timed.engine.hearFar cfg reading sampleMs).runtime.obstructed = true := by
      rw [hearFar_runtime, unlocked, Runtime.trackLock_obstructed obstructed]
      exact Runtime.takeFar_obstructed obstructed
  · rw [free] at still
    cases still
  · rw [ticked]
    constructor
    · exact countdown_frame.2.1.trans (hearFar_frame configured).2.2.2.1
    · exact (congrArg _ countdown_frame.1).trans still

/-- What a tick saves when nothing stands in the way of a lock. -/
theorem hearFar_free (unlocked : eng.seesLocked reading = false)
    (free : eng.loadedRuntime.obstructed = false) :
    (eng.hearFar cfg reading sampleMs).runtime.phase =
        (eng.loadedRuntime.applyCandidate cfg.profile .far reading.now).phase ∧
      (eng.hearFar cfg reading sampleMs).runtime.returnMode = .none ∧
      (eng.hearFar cfg reading sampleMs).runtime.lockIssued = .notIssued := by
  rw [hearFar_runtime, unlocked, Runtime.trackLock_free free]
  obtain ⟨moved, mode⟩ :=
    @Runtime.takeFar_free reading cfg { eng.loadedRuntime.forgetLock with seenPresence := true }
      sampleMs rfl
  refine ⟨?_, mode, Runtime.takeFar_sameLock.lockIssued⟩
  rw [moved, Runtime.applyCandidate_phase, Runtime.applyCandidate_phase]
  rfl

theorem seesLocked_eq_false (unlocked : reading.lockedHint = false)
    (cached : eng.lockedTicksLeft = 0 ∨ eng.cachedLocked = false) :
    eng.seesLocked reading = false := by
  unfold seesLocked
  split
  · rw [unlocked, Bool.and_false]
  · rename_i remembers
    exact cached.resolve_left remembers

theorem countdown_of_far (far : eng.runtime.proximityState = .far)
    (settled : eng.runtime.pendingState = none) :
    eng.countdown now =
      { eng with
        leftNearSinceMs :=
          if eng.leftNearSinceMs = 0 then now else eng.leftNearSinceMs } := by
  unfold countdown
  rw [far, settled, if_neg (by decide), if_neg (by decide)]
  split <;> rfl

/-- In FAR the countdown runs, and a lock that is not due is not due yet. -/
theorem countdown_running (far : eng.runtime.proximityState = .far)
    (settled : eng.runtime.pendingState = none) (seen : eng.nearSeenSinceLock = true)
    (mode : eng.runtime.returnMode = .none) (sess : eng.cachedSid ≠ []) (positive : 0 < now)
    (early : (eng.countdown now).lockDue now = false) : (eng.countdown now).leftNearSinceMs =
    (if eng.leftNearSinceMs = 0 then now else eng.leftNearSinceMs) ∧
    now < (eng.countdown now).leftNearSinceMs + LEAVE_NEAR_LOCK_DELAY_MS := by
  rw [countdown_of_far far settled] at early ⊢
  by_contra passed
  have due :=
    (@lockDue_iff
      { eng with
        leftNearSinceMs := if eng.leftNearSinceMs = 0 then now else eng.leftNearSinceMs } now).mpr
      ⟨seen, mode ▸ by decide, sess, .inr far, ?_, ?_⟩
  · rw [due] at early
    cases early
  · dsimp only
    split
    · exact positive
    · omega
  · dsimp only at passed ⊢
    omega

end Engine

end DeskUnlock.Proximity
