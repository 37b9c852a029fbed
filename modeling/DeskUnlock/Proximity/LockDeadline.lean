import DeskUnlock.Proximity.AwayTick

/-!
# How soon a departure locks

A phone that is away brings the state to FAR after the far persistence, and
then runs the countdown of five seconds out.  Each wait is counted from a tick
and ends at a tick, so that the deadline depends on how the ticks are spaced.
The engine calls for a lock by then, with two exceptions that no FAR sample
ever ends: a return that settles and a request that was never seen to take
effect.  Both are kept by a tick that sees the session unlocked.
-/

namespace DeskUnlock.Proximity

open Runs List Engine

namespace Timed

/-- The engine is set up and its recorded times are sound. -/
structure Watching (cfg : Config) (timed : Timed) : Prop where
  sound : timed.Sound
  configured : Configured cfg timed.engine

variable {cfg : Config} {timed : Timed} {reading : Reading}

theorem Watching.tick (watching : timed.Watching cfg) (away : Away cfg timed reading) :
    (timed.tick reading).Watching cfg := by
  have configured := watching.configured
  have same := engineTick_configFile configured away
  refine ⟨watching.sound.step away.forward, ?_⟩
  exact
    { file := (congrArg _ same).trans configured.file
      enabled := configured.enabled, baseline := configured.baseline }

/-- The session is seen unlocked, and nothing stands in the way of a lock. -/
structure Free (timed : Timed) : Prop where
  seen : timed.engine.nearSeenSinceLock = true
  unobstructed : timed.engine.loadedRuntime.obstructed = false

/-- FAR is pending since some time, or has been reached. -/
structure Waiting (since : Nat) (timed : Timed) : Prop where
  free : timed.Free
  unlocked : timed.engine.cachedLocked = false
  going : timed.engine.loadedRuntime.Going since

/-- FAR has been reached, and the countdown runs since some time. -/
structure Counting (since : Nat) (timed : Timed) : Prop where
  free : timed.Free
  unlocked : timed.engine.cachedLocked = false
  far : timed.engine.loadedRuntime.proximityState = .far
  running : 0 < timed.engine.leftNearSinceMs
  started : timed.engine.leftNearSinceMs ≤ since

/-- A tick calls for a lock, or calls for none and leads to a stage. -/
def LocksOr (stage : Timed → Prop) (timed : Timed) (reading : Reading) : Prop :=
  (timed.tick reading).engine.lockCalls = reading.locks :: timed.engine.lockCalls ∨
    ((timed.tick reading).engine.lockCalls = timed.engine.lockCalls ∧ stage (timed.tick reading))

section Tick

variable (watching : timed.Watching cfg) (away : Away cfg timed reading)
include watching away

/--
A tick of a free engine calls for a lock, or applies the FAR candidate; in
the state FAR it then also runs the countdown, which has not run out.
-/
theorem Free.tick (free : timed.Free) (unlocked : timed.engine.seesLocked reading = false) :
    LocksOr
      (fun after =>
        after.Free ∧ after.engine.cachedLocked = false ∧
        after.engine.loadedRuntime.phase =
          (timed.engine.loadedRuntime.applyCandidate cfg.profile .far reading.now).phase ∧
        (after.engine.loadedRuntime.proximityState = .far →
          after.engine.loadedRuntime.pendingState = none →
            after.engine.leftNearSinceMs =
                (if timed.engine.leftNearSinceMs = 0 then reading.now
                  else timed.engine.leftNearSinceMs) ∧
              reading.now < after.engine.leftNearSinceMs + LEAVE_NEAR_LOCK_DELAY_MS))
      timed reading := by
  obtain ⟨sampleMs, ⟨made, -⟩ | ⟨ticked, early⟩⟩ :=
    engineTick_unlocked watching.configured away unlocked
  · exact .inl made
  · obtain ⟨-, sid, sees, calls, seen, left⟩ :=
      @hearFar_frame reading _ _ sampleMs watching.configured
    obtain ⟨phase, mode, idle⟩ := @hearFar_free _ cfg _ sampleMs unlocked free.unobstructed
    have sess := away.session
    have stepped : (timed.tick reading).engine = _ := ticked
    simp only [LocksOr, stepped]
    rw [← sid] at sess
    rw [← left]
    generalize timed.engine.hearFar cfg reading sampleMs = heard at *
    obtain ⟨rt, unmade, -, cached⟩ := @countdown_frame heard reading.now
    have since : (heard.countdown reading.now).nearSeenSinceLock = true :=
      countdown_keeps (seen.trans free.seen)
    refine .inr ⟨?_, ⟨?_, ?_⟩, ?_, ?_, ?_⟩
    · exact unmade.trans calls
    · rw [stepped]
      exact since
    · rw [stepped]
      refine (congrArg _ rt).trans ?_
      refine Runtime.obstructed_eq_false_iff.mpr ⟨?_, ?_⟩
      · rw [mode]
        decide
      · unfold Runtime.requestUnseen
        rw [idle]
        exact decide_eq_false fun both => nomatch both.2
    · exact cached.trans (sees.trans unlocked)
    · exact (congrArg _ rt).trans phase
    · intro far settled
      exact countdown_running ((congrArg _ rt).symm.trans far)
          ((congrArg _ rt).symm.trans settled)
          (seen.trans free.seen) mode sess away.positive (early.resolve_right (not_not.mpr idle))

/-- The first tick of a free engine: FAR is pending since now at the latest. -/
theorem Free.wait (free : timed.Free) (unlocked : timed.engine.seesLocked reading = false) :
    LocksOr (Waiting reading.now) timed reading := by
  rcases free.tick watching away unlocked with made | ⟨same, calm, cached, phase, -⟩
  · exact .inl made
  · have past := watching.sound.pendingSinceMs.trans away.forward
    exact .inr ⟨same, calm, cached, .congr phase (Runtime.going_start past)⟩

theorem Waiting.keep {since : Nat} (waiting : timed.Waiting since) :
    LocksOr (Waiting since) timed reading := by
  have unlocked := seesLocked_eq_false away.unlocked (.inr waiting.unlocked)
  rcases waiting.free.tick watching away unlocked with made | ⟨same, calm, cached, phase, -⟩
  · exact .inl made
  · exact .inr ⟨same, calm, cached, .congr phase waiting.going.keep⟩

theorem Waiting.arrive {since : Nat} (waiting : timed.Waiting since)
    (persisted : since + transitionPersistenceMs cfg.profile .far ≤ reading.now) :
    LocksOr (Counting reading.now) timed reading := by
  have unlocked := seesLocked_eq_false away.unlocked (.inr waiting.unlocked)
  rcases waiting.free.tick watching away unlocked with made | ⟨same, calm, cached, phase, countdown⟩
  · exact .inl made
  · obtain ⟨arrived, settled⟩ := waiting.going.arrive persisted
    obtain ⟨state, rest⟩ := Prod.mk.inj phase
    have far := state.trans arrived
    obtain ⟨left, -⟩ := countdown far ((Prod.mk.inj rest).1.trans settled)
    have past := watching.sound.leftNearSinceMs.trans away.forward
    have positive := away.positive
    refine .inr ⟨same, calm, cached, far, ?_, ?_⟩
    · rw [left]
      split
      · exact positive
      · omega
    · rw [left]
      split
      · exact le_refl _
      · exact past

theorem Counting.tick {since : Nat} (counting : timed.Counting since) :
    LocksOr (fun after => after.Counting since ∧ reading.now < since + LEAVE_NEAR_LOCK_DELAY_MS)
      timed reading := by
  have unlocked := seesLocked_eq_false away.unlocked (.inr counting.unlocked)
  rcases counting.free.tick watching away unlocked with
    made | ⟨same, calm, cached, phase, countdown⟩
  · exact .inl made
  · have running := counting.running
    have started := counting.started
    rw [Runtime.applyCandidate_phase, if_pos counting.far.symm] at phase
    obtain ⟨state, rest⟩ := Prod.mk.inj phase
    have far := state.trans counting.far
    obtain ⟨left, early⟩ := countdown far (Prod.mk.inj rest).1
    rw [if_neg (Nat.pos_iff_ne_zero.mp running)] at left
    refine .inr ⟨same, ⟨calm, cached, far, ?_, ?_⟩, ?_⟩
    · rw [left]
      exact running
    · rw [left]
      exact started
    · omega

end Tick

/-- A stage of the departure, until a call for a lock ends it. -/
def Pursued (calls : Nat) (stage : Timed → Prop) (timed : Timed) : Prop :=
  calls < timed.engine.lockCalls.length ∨ (timed.engine.lockCalls.length = calls ∧ stage timed)

/-- A step of the stage is a step of the pursuit: calls are never undone. -/
theorem Pursued.tick {calls : Nat} {stage next : Timed → Prop}
    (pursued : timed.Pursued calls stage) (advance : stage timed → LocksOr next timed reading) :
    (timed.tick reading).Pursued calls next := by
  rcases pursued with called | ⟨uncalled, current⟩
  · left
    rcases timed.engine.engineTick_lockCalls _ with ⟨same, -⟩ | ⟨made, -⟩
    · exact called.trans_eq (congrArg _ same).symm
    · exact (called.trans (Nat.lt_succ_self _)).trans_eq (congrArg length made).symm
  · rcases advance current with made | ⟨same, stays⟩
    · left
      rw [made, ← uncalled]
      exact Nat.lt_succ_self _
    · right
      rw [same]
      exact ⟨uncalled, stays⟩

/-- A stage that every tick keeps is pursued through the whole run. -/
theorem Pursued.run {calls : Nat} {stage : Timed → Prop}
    (keeps :
      ∀ (timed : Timed) (reading : Reading),
        stage timed → timed.Watching cfg → Away cfg timed reading → LocksOr stage timed reading)
    {readings : List Reading} (watching : timed.Watching cfg) (pursued : timed.Pursued calls stage)
    (along : Along Timed.tick (Away cfg) timed readings) :
    (Runs.run Timed.tick timed readings).Watching cfg ∧
      (Runs.run Timed.tick timed readings).Pursued calls stage := by
  have throughout :
      Throughout .tick
        (fun timed => timed.Watching cfg ∧ timed.Pursued calls stage) timed readings := by
    refine throughout_of_along ?_ ⟨watching, pursued⟩ along
    intro timed reading away both
    exact ⟨both.1.tick away, both.2.tick fun current => keeps _ _ current both.1 away⟩
  exact throughout.last

/--
At the first tick that finds the session unlocked, no return settles and no
request is unseen.
-/
def unobstructed : Engine → List Reading → Bool
  | _, [] => true
  | eng, reading :: rest =>
    if eng.seesLocked reading then unobstructed (eng.engineTick reading) rest
    else !eng.loadedRuntime.obstructed

theorem tick_of_stale (away : Away cfg timed reading)
    (sees : timed.engine.seesLocked reading = true) :
    (timed.tick reading).engine.lockCalls = timed.engine.lockCalls ∧
    (timed.engine.nearSeenSinceLock = true → (timed.tick reading).engine.nearSeenSinceLock = true) ∧
    (timed.tick reading).engine.lockedTicksLeft + 1 = timed.engine.lockedTicksLeft := by
  have remembers : timed.engine.lockedTicksLeft ≠ 0 := by
    intro samples
    rw [seesLocked_eq_false away.unlocked (.inl samples)] at sees
    cases sees
  have cache := (timed.engine.engineTick_cache reading).2.2
  rw [if_neg remembers] at cache
  have positive := Nat.pos_of_ne_zero remembers
  rcases timed.engine.engineTick_lockCalls _ with ⟨same, keeps⟩ | ⟨-, unlocked⟩
  · refine ⟨same, keeps, ?_⟩
    exact (congrArg _ cache).trans (Nat.sub_add_cancel positive)
  · rw [unlocked] at sees
    cases sees

/-- Within the ticks of the lock cache FAR starts to be pending. -/
theorem early_waiting {early rest : List Reading} (watching : timed.Watching cfg)
    (seen : timed.engine.nearSeenSinceLock = true)
    (soon : timed.engine.lockedTicksLeft < early.length) (along : Along tick (Away cfg) timed early)
    (clear : unobstructed timed.engine (early ++ rest) = true) :
    ∃ reading ∈ early,
      (Runs.run tick timed early).Watching cfg ∧
        (Runs.run tick timed early).Pursued timed.engine.lockCalls.length
          (Waiting reading.now) := by
  induction early generalizing timed with
  | nil => exact (Nat.not_lt_zero _ soon).elim
  | cons reading more induction =>
    obtain ⟨away, along⟩ := along
    rw [cons_append, unobstructed] at clear
    cases sees : timed.engine.seesLocked reading with
    | true =>
      rw [if_pos sees] at clear
      obtain ⟨same, keeps, fewer⟩ := tick_of_stale away sees
      rw [length_cons] at soon
      obtain ⟨later, mem, reached⟩ :=
        induction (watching.tick away) (keeps seen) (by omega) along clear
      rw [same] at reached
      exact ⟨later, mem_cons_of_mem _ mem, reached⟩
    | false =>
      rw [sees] at clear
      have free : timed.Free := ⟨seen, (Bool.not_eq_true_eq_eq_false _).mp clear⟩
      have first :
          (timed.tick reading).Pursued timed.engine.lockCalls.length (Waiting reading.now) :=
        .tick (.inr ⟨rfl, free⟩) fun free => free.wait watching away sees
      have reached := Pursued.run (fun _ _ waiting => waiting.keep) (watching.tick away) first along
      exact ⟨reading, mem_cons_self, reached⟩

/-- Behind an obstacle no tick of a departure calls for a lock. -/
theorem run_obstructed {readings : List Reading} (watching : timed.Watching cfg)
    (along : Along tick (Away cfg) timed readings)
    (blocked : unobstructed timed.engine readings = false) :
    (Runs.run tick timed readings).engine.lockCalls = timed.engine.lockCalls := by
  induction readings generalizing timed with
  | nil => rfl
  | cons reading rest induction =>
    obtain ⟨away, along⟩ := along
    rw [unobstructed] at blocked
    cases sees : timed.engine.seesLocked reading with
    | true =>
      rw [if_pos sees] at blocked
      have same := (tick_of_stale away sees).1
      exact (induction (watching.tick away) along blocked).trans same
    | false =>
      rw [sees, if_neg Bool.false_ne_true, Bool.not_eq_false'] at blocked
      -- From here on the session is seen unlocked and the obstacle stays.
      have first := engineTick_obstructed watching.configured away sees blocked
      have cached := (timed.engine.engineTick_cache _).2.1.trans sees
      have throughout :
          Throughout tick
            (fun later =>
              later.Watching cfg ∧
                later.engine.cachedLocked = false ∧
                later.engine.lockCalls = timed.engine.lockCalls ∧
                later.engine.loadedRuntime.obstructed = true)
            (timed.tick reading) rest := by
        refine throughout_of_along ?_ ⟨watching.tick away, cached, first⟩ along
        rintro later next away ⟨watching, unlocked, same, stands⟩
        have sees := seesLocked_eq_false away.unlocked (.inr unlocked)
        have step := engineTick_obstructed watching.configured away sees stands
        exact ⟨watching.tick away, (later.engine.engineTick_cache next).2.1.trans sees,
            step.1.trans same, step.2⟩
      exact throughout.last.2.2.1

/-- The engine was started and has run since, with a clock that goes forward. -/
def Reachable (timed : Timed) : Prop :=
  ∃ configFile runtimeFile reading events,
    (runtimeFile.getD {}).pendingSinceMs ≤ reading.now ∧
      Along step Forward (start configFile runtimeFile reading) events ∧
      timed = Runs.run step (start configFile runtimeFile reading) events

theorem Reachable.sound (reachable : timed.Reachable) : timed.Sound := by
  obtain ⟨configFile, runtimeFile, reading, events, past, forward, rfl⟩ := reachable
  have throughout : Throughout .step Sound (start configFile runtimeFile reading) events :=
    throughout_of_along (fun _ _ forward sound => sound.step forward) (start_sound past) forward
  exact throughout.last

/--
A free engine calls for a lock when the phone is away for the ticks of the
lock cache, then for the far persistence, and then for the delay of the
countdown, each counted from a tick.
-/
theorem calls_of_waits (reachable : timed.Reachable) (configured : Configured cfg timed.engine)
    (seen : timed.engine.nearSeenSinceLock = true)
    {early waiting counting : List Reading} {settled due : Reading}
    (cached : early.length = LOCK_CACHE_TICKS)
    (persisted :
      ∀ reading ∈ early, reading.now + transitionPersistenceMs cfg.profile .far ≤ settled.now)
    (delayed : settled.now + LEAVE_NEAR_LOCK_DELAY_MS ≤ due.now)
    (away : Along tick (Away cfg) timed (early ++ (waiting ++ settled :: (counting ++ [due]))))
    (clear :
      unobstructed timed.engine (early ++ (waiting ++ settled :: (counting ++ [due]))) = true) :
    timed.engine.lockCalls.length <
      (Runs.run tick timed
        (early ++ (waiting ++ settled :: (counting ++ [due])))).engine.lockCalls.length := by
  have watching : timed.Watching cfg := ⟨reachable.sound, configured⟩
  obtain ⟨atFirst, away⟩ := along_append.mp away
  obtain ⟨atWait, atSettled, away⟩ := along_append.mp away
  obtain ⟨atCount, atDue, -⟩ := along_append.mp away
  have soon : timed.engine.lockedTicksLeft < early.length :=
    cached ▸ reachable.sound.lockedTicksLeft
  obtain ⟨reading, mem, watching, pursued⟩ := early_waiting watching seen soon atFirst clear
  obtain ⟨watching, pursued⟩ :=
    Pursued.run (fun _ _ waiting => waiting.keep) watching pursued atWait
  have counted :=
    Pursued.tick pursued fun waiting => waiting.arrive watching atSettled (persisted _ mem)
  obtain ⟨watching, pursued⟩ :=
    Pursued.run
      (fun _ _ counting watching away =>
        (counting.tick watching away).imp_right fun rest => ⟨rest.1, rest.2.1⟩)
      (watching.tick atSettled) counted atCount
  have ended := @Pursued.tick _ due _ _ (fun _ => False) pursued
  rw [run_append, run_append, run_cons, run_append]
  rcases ended fun counting => by
      rcases counting.tick watching atDue with made | ⟨-, -, early⟩
      · exact .inl made
      · omega
    with called | ⟨-, never⟩
  · exact called
  · exact never.elim

/-- Each tick comes at most `gap` after the one before it. -/
def Spaced (gap : Nat) : Nat → List Reading → Prop
  | _, [] => True
  | last, reading :: rest => reading.now ≤ last + gap ∧ Spaced gap reading.now rest

/-- Some tick falls into every stretch of time as long as the gap. -/
theorem Spaced.exists_within {gap low last : Nat} {ticks : List Reading}
    (spaced : Spaced gap last ticks) (before : last < low)
    (reaches : ∃ reading ∈ ticks, low ≤ reading.now) :
    ∃ first settled rest, ticks = first ++ settled :: rest ∧
      low ≤ settled.now ∧ settled.now < low + gap := by
  induction ticks generalizing last with
  | nil =>
    obtain ⟨reading, mem, _⟩ := reaches
    cases mem
  | cons tick rest induction =>
    obtain ⟨close, spaced⟩ := spaced
    by_cases here : low ≤ tick.now
    · exact ⟨[], tick, rest, rfl, here, by omega⟩
    · have later : ∃ reading ∈ rest, low ≤ reading.now := by
        obtain ⟨reading, mem, reached⟩ := reaches
        rcases mem_cons.mp mem with rfl | inside
        · exact (here reached).elim
        · exact ⟨reading, inside, reached⟩
      obtain ⟨first, settled, more, rfl, within⟩ := induction spaced (by omega) later
      exact ⟨tick :: first, settled, more, rfl, within⟩

/--
Between the tick after the lock cache and the deadline, one tick comes after
the far persistence and early enough for the countdown.
-/
theorem Spaced.exists_settled {gap persistence delay : Nat} (positive : 0 < delay)
    {next due : Reading} {waiting : List Reading}
    (spaced : Spaced gap next.now (waiting ++ [due]))
    (deadline : next.now + persistence + delay ≤ due.now) :
    ∃ first settled counting, next :: (waiting ++ [due]) = first ++ settled :: (counting ++ [due]) ∧
      next.now + persistence ≤ settled.now + gap ∧ settled.now + delay ≤ due.now := by
  by_cases soon : persistence ≤ gap
  · exact ⟨[], next, waiting, rfl, by omega, by omega⟩
  · have reaches : ∃ reading ∈ waiting ++ [due], next.now + persistence - gap ≤ reading.now :=
      ⟨due, mem_append_right _ (mem_singleton_self _), by omega⟩
    obtain ⟨first, settled, rest, split, reached, within⟩ :=
      spaced.exists_within (by omega) reaches
    rcases eq_nil_or_concat rest with rfl | ⟨counting, last, rfl⟩
    · obtain rfl : due = settled := (cons.inj (append_inj_right' split rfl)).1
      omega
    · rw [concat_eq_append, ← cons_append, ← append_assoc] at split
      obtain ⟨_, ended⟩ := append_inj' split rfl
      obtain rfl : due = last := (cons.inj ended).1
      refine ⟨next :: first, settled, counting, ?_, by omega, by omega⟩
      rw [split, append_assoc]
      rfl

/--
From every reachable state in which the engine is set up and the phone was
seen near since the last request: when the phone is away, the engine calls for
a lock no later than a tick at which the far persistence and the delay of the
countdown have passed since the first tick after those of the lock cache,
exactly when the first tick that finds the session unlocked finds neither a
settling return nor an unseen request.  No two ticks after the lock cache are
further apart than the `gap` that ends it.
-/
theorem away_locks_iff {timed : Timed} (reachable : timed.Reachable) {cfg : Config}
    (configured : Configured cfg timed.engine) (seen : timed.engine.nearSeenSinceLock = true)
    {early waiting : List Reading} {next due : Reading} {gap : Nat}
    (cached : early.length = LOCK_CACHE_TICKS)
    (apart : ∀ reading ∈ early, reading.now + gap ≤ next.now)
    (spaced : Spaced gap next.now (waiting ++ [due]))
    (deadline :
      next.now + transitionPersistenceMs cfg.profile .far + LEAVE_NEAR_LOCK_DELAY_MS ≤ due.now)
    (away : Along tick (Away cfg) timed (early ++ next :: (waiting ++ [due]))) :
    timed.engine.lockCalls.length <
        (Runs.run tick timed (early ++ next :: (waiting ++ [due]))).engine.lockCalls.length ↔
      unobstructed timed.engine (early ++ next :: (waiting ++ [due])) = true := by
  constructor
  · intro called
    by_contra blocked
    have same := run_obstructed ⟨reachable.sound, configured⟩ away (Bool.eq_false_iff.mpr blocked)
    rw [same] at called
    exact lt_irrefl _ called
  · obtain ⟨first, settled, counting, split, reached, delayed⟩ :=
      spaced.exists_settled (by decide) deadline
    rw [split] at away ⊢
    intro clear
    apply calls_of_waits reachable configured seen cached _ delayed away clear
    intro reading mem
    have before := apart _ mem
    omega

/-- The phone has come near: two strong samples, four seconds apart. -/
def arrived : Timed :=
  Runs.run step (start settledFile none (.sampled 98000 "-60".toList false))
    ((samples "-60" false [100000, 104000]).map .tick)

/-- Weak samples every two seconds from a time on, in an unlocked session. -/
def weakSamples (start count : Nat) : List Reading :=
  samples "-70" false ((List.range count).map fun i => start + 2000 * i)

theorem arrived_reachable : arrived.Reachable :=
  ⟨settledFile, none, _, _, Nat.zero_le _, by decide +kernel, rfl⟩

/-- Samples at a constant interval are spaced by it. -/
theorem weakSamples_spaced {last count : Nat} :
    Spaced 2000 last (weakSamples (last + 2000) count) := by
  induction count generalizing last with
  | zero => exact trivial
  | succ count induction =>
    have split : weakSamples (last + 2000) (count + 1) =
        .sampled (last + 2000) "-70".toList false :: weakSamples (last + 2000 + 2000) count := by
      unfold weakSamples samples
      rw [List.range_succ_eq_map, map_cons, map_map, map_cons]
      refine congrArg (_ :: ·) (congrArg _ (map_congr_left fun i _ => ?_))
      simp only [Function.comp_apply, Nat.succ_eq_add_one]
      omega
    rw [split]
    exact ⟨le_rfl, induction⟩

/-- A phone that has come near and goes away locks the session. -/
theorem arrived_away_locks :
    arrived.engine.lockCalls.length <
      (Runs.run tick arrived
        (weakSamples 106000 3 ++ .sampled 112000 "-70".toList false ::
          (weakSamples 114000 6 ++
            [.sampled 126000 "-70".toList false]))).engine.lockCalls.length :=
  (@away_locks_iff _ arrived_reachable
    { baseline := "-60".toList }
    ⟨by decide +kernel, rfl, by decide⟩ (by decide +kernel) _ _ _ _ 2000 rfl
    (by decide +kernel) (@weakSamples_spaced 112000 7) (by decide +kernel)
    (by decide +kernel)).mpr (by decide +kernel)

/--
The phone comes near and moves away, the countdown locks the session, and
two strong samples in a row return the state to NEAR at once.
-/
def returned : Timed :=
  Runs.run step (start settledFile none (.sampled 98000 "-60".toList false))
    ((samples "-60" false [100000, 104000] ++ samples "-65" false [106000, 108000, 113000] ++
      samples "-65" true [115000, 117000] ++ samples "-60" true [119000, 121000]).map .tick)

/--
The user unlocks and takes the phone away before two NEAR samples have ended
the return: half a minute of FAR samples later there is still no lock.
-/
theorem returned_away_stays_unlocked :
    returned.Reachable ∧
      Configured { baseline := "-60".toList } returned.engine ∧
      returned.engine.nearSeenSinceLock = true ∧
      Along tick (Away { baseline := "-60".toList }) returned (weakSamples 123000 16) ∧
      (Runs.run tick returned
        (weakSamples 123000 16)).engine.lockCalls = returned.engine.lockCalls :=
  ⟨⟨settledFile, none, _, _, Nat.zero_le _, by decide +kernel, rfl⟩,
    ⟨by decide +kernel, rfl, by decide⟩, by decide +kernel, by decide +kernel, by decide +kernel⟩

end Timed

end DeskUnlock.Proximity
