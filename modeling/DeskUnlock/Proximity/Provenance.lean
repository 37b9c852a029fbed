import DeskUnlock.Foundation.Runs
import DeskUnlock.Proximity.TickEffects

/-!
# Who locked the session

`LOCK_REASON` says whether the engine takes the present lock for its own.  It
becomes PROXIMITY with a request and is taken back by a tick that sees the
session unlocked.  Such a tick may never come: the lock is sampled in one of
three ticks only, and a tick that sees the session unlocked keeps the reason
while a request has not been seen to take effect and while a return settles.
A lock that somebody else makes in the meantime inherits the reason.
-/

namespace DeskUnlock.Proximity

open Runs Texts Engine

/--
The engine and the session.  Whether the engine has issued a request since
the user last unlocked is recorded beside them, and once more as it was when
the lock was last sampled.
-/
structure LockWorld where
  engine : Engine
  locked : Bool
  requested : Bool
  justified : Bool

/-- The session is locked by whoever and unlocked by its user. -/
inductive LockEvent where
  | tick (reading : Reading)
  | locks
  | unlocks
  | configured (file : Option Text)
  | reset (file : Option Text)

namespace LockWorld

def told (world : LockWorld) (reading : Reading) : Reading :=
  { reading with lockedHint := world.locked }

/--
The process starts in a session that is locked or not, after a history in
which a request was issued since the last unlock or not.
-/
def start (configFile : Option Text) (runtimeFile : Option Runtime)
    (reading : Reading) (locked requested : Bool) : LockWorld :=
  { engine :=
      Engine.engineInitialize configFile runtimeFile { reading with lockedHint := locked }
    locked := locked, requested := requested, justified := false }

/-- Only an unlock ends the effect of a request. -/
def step (world : LockWorld) : LockEvent → LockWorld
  | .tick reading =>
    { engine := world.engine.engineTick (world.told reading)
      locked := world.locked
      requested :=
        world.requested ||
          decide ((world.engine.engineTick (world.told reading)).issued ≠ world.engine.issued)
      justified := if world.engine.lockedTicksLeft = 0 then world.requested else world.justified }
  | .locks => { world with locked := true }
  | .unlocks => { world with locked := false, requested := false }
  | .configured file => { world with engine := world.engine.step (.configured file) }
  | .reset file => { world with engine := world.engine.step (.reset file) }

/--
The engine takes a lock that it has seen for its own only if it had issued a
request since the last unlock when it saw it.
-/
def Attributed (world : LockWorld) : Prop :=
  world.engine.cachedLocked = true →
    world.engine.runtime.lockReason = .proximity → world.justified = true

/--
The session is locked while the runtime file names proximity only after a
request since the last unlock.
-/
def Honest (world : LockWorld) : LockEvent → Prop
  | .locks =>
    world.locked = false →
      world.engine.loadedRuntime.lockReason = .proximity → world.requested = true
  | .tick _ => True
  | .unlocks => True
  | .configured _ => True
  | .reset _ => True

instance decidableHonest (world : LockWorld) :
    (ev : LockEvent) → Decidable (world.Honest ev)
  | .locks =>
    inferInstanceAs
      (Decidable
        (world.locked = false →
          world.engine.loadedRuntime.lockReason = .proximity → world.requested = true))
  | .tick _ => .isTrue trivial
  | .unlocks => .isTrue trivial
  | .configured _ => .isTrue trivial
  | .reset _ => .isTrue trivial

/-- What honest locks preserve, in the file and in the cache. -/
structure Accounted (world : LockWorld) : Prop where
  session :
    world.locked = true →
      world.engine.loadedRuntime.lockReason = .proximity → world.requested = true
  cache :
    world.engine.cachedLocked = true →
      world.engine.loadedRuntime.lockReason = .proximity → world.justified = true
  attributed : world.Attributed

theorem Accounted.seen {world : LockWorld} (accounted : world.Accounted) {reading : Reading}
    (sees : world.engine.seesLocked (world.told reading) = true)
    (reason : world.engine.loadedRuntime.lockReason = .proximity) :
    (world.step (.tick reading)).justified = true := by
  unfold Engine.seesLocked at sees
  dsimp only [step]
  split at sees
  · rename_i samples
    rw [if_pos samples]
    have locked : world.locked = true := (Bool.and_eq_true_iff.mp sees).2
    exact accounted.session locked reason
  · rename_i remembers
    rw [if_neg remembers]
    exact accounted.cache sees reason

theorem Accounted.tick {world : LockWorld} (accounted : world.Accounted) (reading : Reading) :
    (world.step (.tick reading)).Accounted := by
  have seesLocked := (world.engine.engineTick_cache (world.told reading)).2.1
  -- A reason that is new in this tick comes with a request.
  have reasonAfter : (world.engine.engineTick (world.told reading)).runtime.lockReason =
      .proximity → (world.engine.engineTick (world.told reading)).cachedLocked =
      true → world.engine.loadedRuntime.lockReason = .proximity := by
    intro reason locked
    rcases engineTick_reason reason with old | ⟨-, unlocked⟩
    · exact old
    · rw [unlocked] at locked
      cases locked
  have fileAfter := world.engine.engineTick_loadedRuntime (world.told reading)
  constructor
  · intro locked reason
    have justifies : world.engine.loadedRuntime.lockReason =
        .proximity → (world.step (.tick reading)).requested = true := by
      intro old
      exact Bool.or_eq_true_iff.mpr (.inl (accounted.session locked old))
    rcases fileAfter with old | new
    · exact justifies (old ▸ reason)
    · rcases engineTick_reason (new ▸ reason) with old | ⟨more, -⟩
      · exact justifies old
      · exact Bool.or_eq_true_iff.mpr (.inr (decide_eq_true more))
  · intro locked reason
    refine accounted.seen (seesLocked ▸ locked) ?_
    rcases fileAfter with old | new
    · exact old ▸ reason
    · exact reasonAfter (new ▸ reason) locked
  · intro locked reason
    exact accounted.seen (seesLocked ▸ locked) (reasonAfter reason locked)

theorem Accounted.step {world : LockWorld} (accounted : world.Accounted)
    {ev : LockEvent} (honest : world.Honest ev) : (world.step ev).Accounted := by
  cases ev with
  | tick reading => exact accounted.tick _
  | locks =>
    refine ⟨?_, accounted.cache, accounted.attributed⟩
    intro _ reason
    cases before : world.locked with
    | true => exact accounted.session before reason
    | false => exact honest before reason
  | unlocks => exact ⟨nofun, accounted.cache, accounted.attributed⟩
  | configured file => exact ⟨accounted.session, accounted.cache, accounted.attributed⟩
  | reset file => exact ⟨fun _ => nofun, fun _ => nofun, accounted.attributed⟩

theorem start_accounted {configFile : Option Text} {runtimeFile : Option Runtime}
    {reading : Reading} {locked requested : Bool}
    (honest : locked = true → (runtimeFile.getD {}).lockReason = .proximity → requested = true) :
    (start configFile runtimeFile reading locked requested).Accounted := by
  obtain ⟨written, cfg, saved, started, out⟩ :=
    engineInitialize_eq { reading with lockedHint := locked } _ _
  unfold start
  rw [started]
  refine ⟨?_, nofun, nofun⟩
  intro isLocked reason
  apply honest isLocked
  rcases out with old | new
  · exact old ▸ reason
  · have kept := initialRuntime_reason { reading with lockedHint := locked } runtimeFile
    rw [new] at reason
    exact kept.symm.trans reason

/--
In every run in which the session is locked honestly, also before the
process started, every lock the engine takes for its own is its own.
-/
theorem attributed_of_honest {configFile : Option Text} {runtimeFile : Option Runtime}
    {reading : Reading} {locked requested : Bool}
    (before : locked = true → (runtimeFile.getD {}).lockReason = .proximity → requested = true)
    {events : List LockEvent}
    (honest : Along step Honest (start configFile runtimeFile reading locked requested) events) :
    Throughout step Attributed (start configFile runtimeFile reading locked requested) events := by
  have accounted :
      Throughout step Accounted (start configFile runtimeFile reading locked requested) events :=
    throughout_of_along (fun _ _ honest accounted => accounted.step honest)
      (start_accounted before) honest
  exact accounted.imp fun _ accounted => accounted.attributed

/-- The phone comes near and moves away, and the countdown requests a lock. -/
def askedToLock : List LockEvent :=
  (samples "-60" false [100000, 104000] ++ samples "-65" false [106000, 108000, 113000]).map .tick

/-- The session follows the request, and two ticks later that is seen. -/
def followed : List LockEvent :=
  askedToLock ++ .locks :: (samples "-65" false [115000, 117000]).map .tick

/-- The lock that follows a request is attributed to it. -/
theorem own_lock_attributed :
    let world := run step
      (start settledFile none (.sampled 98000 "-60".toList false) false false) followed
    world.engine.cachedLocked = true ∧ world.engine.runtime.lockReason = .proximity ∧
      world.Attributed :=
  ⟨by decide +kernel, by decide +kernel,
    (attributed_of_honest (by decide) (by decide +kernel)).last⟩

/--
The session follows the request and the user unlocks it again before that is
seen.  Some ticks later the user locks it by hand.
-/
def lockedByHand : List LockEvent :=
  askedToLock ++ [.locks, .unlocks] ++
    (samples "-65" false [115000, 117000, 119000, 121000]).map .tick ++
    [.locks, .tick (.sampled 123000 "-65".toList false)]

/--
The lock made by hand is sampled and taken for the engine's own, without a
request since the user unlocked.
-/
theorem hand_lock_claimed :
    let world := run step
      (start settledFile none (.sampled 98000 "-60".toList false) false false) lockedByHand
    world.engine.cachedLocked = true ∧ world.engine.runtime.lockReason = .proximity ∧
      world.justified = false ∧ world.requested = false := by
  decide +kernel

end LockWorld

end DeskUnlock.Proximity
