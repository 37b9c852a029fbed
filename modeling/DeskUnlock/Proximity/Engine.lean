import DeskUnlock.Proximity.Config

/-!
# The proximity engine

The engine is a shell process that wakes up every two seconds.  A tick reads
the configuration and the runtime file, looks at the session lock, the
heartbeat marker and the latest signal sample, moves the proximity state, and
may ask the session to lock.  The variables of the runtime file are written
back at the end of the tick and read again at the next one; a few others live
in the memory of the process only.
-/

namespace DeskUnlock.Proximity

open Texts

def RSSI_STALE_AFTER_MS : Nat := 5000

def HEARTBEAT_STALE_AFTER_MS : Nat := 60000

def LEAVE_NEAR_LOCK_DELAY_MS : Nat := 5000

def BASELINE_BOOTSTRAP_SAMPLES : Nat := 3

def BASELINE_BOOTSTRAP_MAX_RANGE_DB : Text := "8".toList

def MID_PERSISTENCE_SECONDS : Nat := 2

def FAST_RETURN_CONSECUTIVE_SAMPLES : Nat := 2

def RETURN_SETTLING_NEAR_SAMPLES : Nat := 2

def LOCK_CACHE_TICKS : Nat := 3

inductive ProximityState where
  | near
  | mid
  | far
  | absent
deriving DecidableEq

inductive LockReason where
  | proximity
  | manualOrOther
deriving DecidableEq

inductive LockIssued where
  | notIssued
  | requestPending
  | observed
deriving DecidableEq

/-- What the engine expects of a return. -/
inductive ReturnMode where
  | none
  | proximityReturn
  | manualWaitForDeparture
  | manualArmedForReturn
  | returnSettling
deriving DecidableEq

/-- The variables of the runtime file, with the values of a missing file. -/
structure Runtime where
  proximityState : ProximityState := .absent
  pendingState : Option ProximityState := .none
  pendingSinceMs : Nat := 0
  bootstrapCount : Nat := 0
  bootstrapSum : Text := "0".toList
  bootstrapMin : Text := "0".toList
  bootstrapMax : Text := "0".toList
  lastSampleMs : Nat := 0
  seenPresence : Bool := false
  lockReason : LockReason := .manualOrOther
  lockIssued : LockIssued := .notIssued
  fastReturnSampleCount : Nat := 0
  fastReturnLastSampleMs : Nat := 0
  returnMode : ReturnMode := .none
  returnSettlingNearCount : Nat := 0
  returnSettlingLastSampleMs : Nat := 0

/-- The file the daemon writes the latest signal sample to. -/
structure RssiFile where
  raw : Text
  filtered : Text
  sampleEpochMs : Option Nat

/--
What the engine is told by its surroundings while one of its functions runs:
the clock, the files of the daemon, the answers of `loginctl`, and whether
the two files could be written.
-/
structure Reading where
  now : Nat
  rssiNow : Nat
  rssiFile : Option RssiFile
  heartbeatAgeMs : Nat
  sessionId : Text
  lockedHint : Bool
  locks : Bool
  configSaved : Bool
  runtimeSaved : Bool

/--
The process: its two files, the variables it reads from them, the variables
that only it has, and the calls of `loginctl lock-session` it has made, the
latest first, each with its success.
-/
structure Engine where
  configFile : Option Text
  runtimeFile : Option Runtime
  config : Config := {}
  runtime : Runtime := {}
  leftNearSinceMs : Nat := 0
  nearSeenSinceLock : Bool := true
  cachedSid : Text := []
  cachedLocked : Bool := false
  lockedTicksLeft : Nat := 0
  lockCalls : List Bool := []

namespace Engine

def issued (eng : Engine) : Nat := eng.lockCalls.count true

def update (eng : Engine) (change : Runtime → Runtime) : Engine :=
  { eng with runtime := change eng.runtime }

end Engine

def Engine.saveConfig (saved : Bool) (eng : Engine) : Engine :=
  if saved then { eng with configFile := some eng.config.text } else eng

/-- A file of the first layout loses its baseline and is written back. -/
def Engine.loadConfig (saved : Bool) (eng : Engine) : Engine :=
  if (readConfig eng.configFile).legacyPeer then
    Engine.saveConfig saved
      { eng with config := { (readConfig eng.configFile).config with baseline := [] } }
  else { eng with config := (readConfig eng.configFile).config }

def Engine.loadRuntime (eng : Engine) : Engine :=
  { eng with runtime := eng.runtimeFile.getD {} }

def Engine.saveRuntime (saved : Bool) (eng : Engine) : Engine :=
  if saved then { eng with runtimeFile := some eng.runtime } else eng

/-- What `read_rssi_sample` finds, or its initial values without a file. -/
def Reading.rssi (reading : Reading) : RssiFile :=
  reading.rssiFile.getD { raw := [], filtered := [], sampleEpochMs := some 0 }

/--
The filtered value and the time of a sample that is well formed and not too
old.  A sample from the future has age zero.
-/
def Reading.readRssiSample (reading : Reading) : Option (Text × Nat) :=
  match reading.rssi.sampleEpochMs with
  | none => none
  | some sampleMs =>
    if isDecimal reading.rssi.filtered = true ∧
        reading.rssiNow - sampleMs ≤ RSSI_STALE_AFTER_MS then
      some (reading.rssi.filtered, sampleMs)
    else none

def Reading.heartbeatValid (reading : Reading) : Bool :=
  decide (reading.heartbeatAgeMs ≤ HEARTBEAT_STALE_AFTER_MS)

namespace Runtime

def bootstrapSample (filtered : Text) (rt : Runtime) : Runtime :=
  { rt with
    bootstrapMin :=
      if rt.bootstrapCount = 0 ∨ floatLe filtered rt.bootstrapMin = true then filtered
      else rt.bootstrapMin
    bootstrapMax :=
      if rt.bootstrapCount = 0 ∨ floatGe filtered rt.bootstrapMax = true then filtered
      else rt.bootstrapMax
    bootstrapSum := floatAdd rt.bootstrapSum filtered
    bootstrapCount := rt.bootstrapCount + 1 }

def bootstrapRestart (filtered : Text) (rt : Runtime) : Runtime :=
  { rt with
    bootstrapCount := 1, bootstrapSum := filtered, bootstrapMin := filtered
    bootstrapMax := filtered }

def bootstrapClear (rt : Runtime) : Runtime :=
  { rt with
    bootstrapCount := 0, bootstrapSum := "0".toList, bootstrapMin := "0".toList
    bootstrapMax := "0".toList }

end Runtime

/-- With enough samples in a small range, their average is the baseline. -/
def Engine.bootstrapFinish (saved : Bool) (filtered : Text) (eng : Engine) : Engine :=
  if eng.runtime.bootstrapCount < BASELINE_BOOTSTRAP_SAMPLES then eng
  else if
      floatLe
        (floatRange eng.runtime.bootstrapMin eng.runtime.bootstrapMax)
        BASELINE_BOOTSTRAP_MAX_RANGE_DB then
    Engine.saveConfig saved
      { eng with
        config :=
          { eng.config with
            baseline := floatAverage eng.runtime.bootstrapSum eng.runtime.bootstrapCount }
        runtime := eng.runtime.bootstrapClear }
  else eng.update (Runtime.bootstrapRestart filtered)

def Engine.bootstrapBaseline (saved : Bool) (filtered : Text) (eng : Engine) : Engine :=
  (eng.update (Runtime.bootstrapSample filtered)).bootstrapFinish saved filtered

/-- A sample a little below the baseline draws it down. -/
def Engine.updateNearBaseline (saved : Bool) (filtered delta : Text) (eng : Engine) : Engine :=
  if eng.runtime.proximityState ≠ .near ∨ eng.runtime.returnMode = .returnSettling then eng
  else if
      floatGe delta (profileValue eng.config.profile).nearDelta = true ∧
        floatLe delta "0".toList = true then
    Engine.saveConfig saved
      { eng with
        config := { eng.config with baseline := baselineBlend eng.config.baseline filtered } }
  else eng

def candidateState (profile : Profile) (delta : Text) : ProximityState :=
  if floatLe delta (profileValue profile).farDelta then .far
  else if floatGe delta (profileValue profile).nearDelta then .near else .mid

def transitionPersistenceMs (profile : Profile) : ProximityState → Nat
  | .far => (profileValue profile).farPersistence * 1000
  | .near => (profileValue profile).nearPersistence * 1000
  | .mid => MID_PERSISTENCE_SECONDS * 1000
  | .absent => 0

namespace Runtime

variable (rt : Runtime)

def clearPending : Runtime := { rt with pendingState := .none, pendingSinceMs := 0 }

def enter (state : ProximityState) (rt : Runtime) : Runtime :=
  { rt with proximityState := state, pendingState := .none, pendingSinceMs := 0 }

/-- A candidate becomes the state once it has persisted. -/
def applyCandidate (profile : Profile) (candidate : ProximityState)
    (now : Nat) (rt : Runtime) : Runtime :=
  if candidate = rt.proximityState then rt.clearPending
  else if rt.pendingState ≠ some candidate then
    { rt with pendingState := some candidate, pendingSinceMs := now }
  else if
      now - rt.pendingSinceMs < transitionPersistenceMs profile candidate then
    rt
  else rt.enter candidate

/-- A fast return may be counted towards the end of the current lock. -/
def returnLifecycleEligible : Bool :=
  match rt.lockReason with
  | .proximity =>
    decide (rt.returnMode = .proximityReturn ∨ rt.returnMode = .returnSettling)
  | .manualOrOther =>
    decide (rt.returnMode = .manualArmedForReturn ∨ rt.returnMode = .returnSettling)

def away : Bool :=
  match rt.proximityState with
  | .far => true
  | .mid => true
  | .absent => decide (rt.returnMode = .manualArmedForReturn)
  | .near => false

/-- Enough strong samples in a row: the phone is near, and settles. -/
def confirmFastReturn : Runtime :=
  if FAST_RETURN_CONSECUTIVE_SAMPLES ≤ rt.fastReturnSampleCount then
    { rt with
      proximityState := .near, pendingState := .none, pendingSinceMs := 0
      fastReturnSampleCount := 0
      returnMode := .returnSettling
      returnSettlingNearCount := 0
      returnSettlingLastSampleMs := 0 }
  else rt

def countFastReturn (cfg : Config) (raw : Text) (rt : Runtime) :
    Runtime :=
  if (rt.returnLifecycleEligible && rt.away &&
      !cfg.baseline.isEmpty && isDecimal raw) &&
      floatGe (floatDelta raw cfg.baseline) (profileValue cfg.profile).returnDelta then
    confirmFastReturn { rt with fastReturnSampleCount := rt.fastReturnSampleCount + 1 }
  else { rt with fastReturnSampleCount := 0 }

/-- Each sample counts once for the fast return. -/
def fastReturnCandidate (cfg : Config) (rssi : RssiFile) (rt : Runtime) : Runtime :=
  match rssi.sampleEpochMs with
  | none => rt
  | some sampleMs =>
    if sampleMs = rt.fastReturnLastSampleMs then rt
    else countFastReturn cfg rssi.raw { rt with fastReturnLastSampleMs := sampleMs }

def countSettling (candidate : ProximityState) (sampleMs : Nat) (rt : Runtime) : Runtime :=
  if candidate ≠ .near then
    { rt with
      returnSettlingNearCount := 0
      returnSettlingLastSampleMs := 0 }
  else if sampleMs ≠ rt.returnSettlingLastSampleMs then
    { rt with
      returnSettlingLastSampleMs := sampleMs
      returnSettlingNearCount := rt.returnSettlingNearCount + 1 }
  else rt

def endSettling : Runtime :=
  { rt with
    returnMode := .none
    returnSettlingNearCount := 0
    returnSettlingLastSampleMs := 0 }

def finishSettling : Runtime :=
  if RETURN_SETTLING_NEAR_SAMPLES ≤ rt.returnSettlingNearCount then rt.endSettling
  else rt

/-- While a return settles, samples count only towards its end. -/
def updateReturnSettling (candidate : ProximityState) (sampleMs : Nat)
    (rt : Runtime) : Runtime :=
  (rt.clearPending.countSettling candidate sampleMs).finishSettling

def followCandidate (profile : Profile) (candidate : ProximityState)
    (now sampleMs : Nat) (rt : Runtime) : Runtime :=
  if rt.returnMode = .returnSettling then rt.updateReturnSettling candidate sampleMs
  else rt.applyCandidate profile candidate now

end Runtime

namespace Engine

variable (reading : Reading)

/-- A sample is compared with the baseline, which it may also move. -/
def followSample (filtered : Text) (sampleMs : Nat) (eng : Engine) :
    Engine :=
  (if candidateState eng.config.profile
          (floatDelta filtered eng.config.baseline) = .near ∧
        eng.runtime.proximityState = .near then
      eng.updateNearBaseline reading.configSaved filtered
        (floatDelta filtered eng.config.baseline)
    else eng).update
    (Runtime.followCandidate eng.config.profile
      (candidateState eng.config.profile (floatDelta filtered eng.config.baseline))
      reading.now sampleMs)

/-- Without a baseline a sample counts as near and joins the bootstrap. -/
def takeSample (filtered : Text) (sampleMs : Nat) (eng : Engine) : Engine :=
  if eng.config.baseline = [] then
    (eng.bootstrapBaseline reading.configSaved filtered).update (Runtime.enter .near)
  else eng.followSample reading filtered sampleMs

def processRssi (eng : Engine) : Engine :=
  match reading.readRssiSample with
  | none => eng
  | some (filtered, sampleMs) =>
    if sampleMs ≤ eng.runtime.lastSampleMs then eng
    else
      (eng.update fun rt =>
        { rt with lastSampleMs := sampleMs }).takeSample reading filtered sampleMs

def sense (eng : Engine) : Engine :=
  (eng.processRssi reading).update
    (Runtime.fastReturnCandidate (eng.processRssi reading).config reading.rssi)

end Engine

namespace Runtime

variable (rt : Runtime)

/-- The session is seen unlocked, and no return or request is in progress. -/
def forgetLock : Runtime :=
  { rt with
    lockReason := .manualOrOther, lockIssued := .notIssued, fastReturnSampleCount := 0
    returnMode := .none
    returnSettlingNearCount := 0
    returnSettlingLastSampleMs := 0 }

def requestUnseen : Bool := decide (rt.lockReason = .proximity ∧ rt.lockIssued = .requestPending)

def trackLock (locked : Bool) (rt : Runtime) : Runtime :=
  if locked then if rt.requestUnseen then { rt with lockIssued := .observed } else rt
  else if rt.returnMode = .returnSettling then rt
  else if rt.requestUnseen then rt else rt.forgetLock

def departed : Bool := decide (rt.proximityState = .far ∨ rt.proximityState = .absent)

def markManualLock : Runtime :=
  if rt.lockReason = .proximity ∨
      rt.returnMode = .returnSettling ∨ rt.returnMode = .manualArmedForReturn then rt
  else
    { rt with
      lockReason := .manualOrOther, lockIssued := .notIssued, fastReturnSampleCount := 0
      returnMode := if rt.departed then .manualArmedForReturn else .manualWaitForDeparture }

def armManualReturnIfDeparted : Runtime :=
  if rt.lockReason = .manualOrOther ∧
      rt.returnMode = .manualWaitForDeparture ∧ rt.departed = true then
    { rt with
      returnMode := .manualArmedForReturn, fastReturnSampleCount := 0 }
  else rt

end Runtime

namespace Engine

/-- Ask the session to lock, unless a request is under way. -/
def requestProximityLock (locks : Bool) (eng : Engine) : Engine :=
  if eng.runtime.lockIssued ≠ .notIssued then eng
  else if locks then
    { eng with
      runtime :=
        { eng.runtime with
          lockIssued := .requestPending, lockReason := .proximity, fastReturnSampleCount := 0
          returnMode := .proximityReturn }
      nearSeenSinceLock := false, lockCalls := true :: eng.lockCalls }
  else { eng with lockCalls := false :: eng.lockCalls }

variable (reading : Reading) (eng : Engine)

def lookUpSession : Engine :=
  if eng.cachedSid = [] then { eng with cachedSid := reading.sessionId } else eng

/-- The lock is sampled once in `LOCK_CACHE_TICKS` ticks. -/
def sampleLock : Engine :=
  if eng.lockedTicksLeft = 0 then
    { eng with
      cachedLocked := !eng.cachedSid.isEmpty && reading.lockedHint
      lockedTicksLeft := LOCK_CACHE_TICKS - 1 }
  else { eng with lockedTicksLeft := eng.lockedTicksLeft - 1 }

def load : Engine :=
  ((eng.loadConfig reading.configSaved).loadRuntime.lookUpSession reading).sampleLock reading

def observe : Engine :=
  (eng.load reading).update (Runtime.trackLock (eng.load reading).cachedLocked)

/-- The phone is seen going away: the session is locked once. -/
def depart : Engine :=
  if eng.runtime.proximityState = .absent then eng
  else if eng.cachedLocked = false ∧ eng.cachedSid ≠ [] then
    (eng.update (Runtime.enter .absent)).requestProximityLock reading.locks
  else eng.update (Runtime.enter .absent)

/-- No sample speaks against the lost heartbeat. -/
def presenceLost : Engine :=
  (if eng.runtime.seenPresence then eng.depart reading
    else eng.update fun rt => { rt with proximityState := .absent }).update
    fun rt => if eng.cachedLocked then rt.armManualReturnIfDeparted else rt

/-- A settling return ends with the heartbeat. -/
def cancelSettling : Engine :=
  eng.update fun rt =>
    if rt.returnMode = .returnSettling then rt.endSettling else rt

/--
The heartbeat is lost.  After a proximity lock a returning phone is given
time to be heard before it counts as absent.
-/
def lostHeartbeat : Engine :=
  if eng.cancelSettling.runtime.lockReason = .proximity ∧
      (eng.cancelSettling.runtime.proximityState = .far ∨
        eng.cancelSettling.runtime.proximityState = .mid) then
    if (eng.cancelSettling.sense reading).runtime.proximityState = .near ∨
        0 < (eng.cancelSettling.sense reading).runtime.fastReturnSampleCount then
      eng.cancelSettling.sense reading
    else (eng.cancelSettling.sense reading).presenceLost reading
  else eng.cancelSettling.presenceLost reading

/-- Leaving NEAR starts a countdown, a NEAR candidate stops it. -/
def countdown (now : Nat) (eng : Engine) : Engine :=
  if eng.runtime.proximityState = .near then
    { eng with nearSeenSinceLock := true, leftNearSinceMs := 0 }
  else if eng.runtime.pendingState = some .near then { eng with leftNearSinceMs := 0 }
  else if eng.leftNearSinceMs = 0 then { eng with leftNearSinceMs := now } else eng

/-- The countdown has run out, in a state and mode in which that counts. -/
def lockDue (now : Nat) (eng : Engine) : Bool :=
  decide
    (eng.nearSeenSinceLock = true ∧
      eng.runtime.returnMode ≠ .returnSettling ∧ eng.cachedSid ≠ [] ∧
      (eng.runtime.proximityState = .mid ∨ eng.runtime.proximityState = .far) ∧
      0 < eng.leftNearSinceMs ∧ LEAVE_NEAR_LOCK_DELAY_MS ≤ now - eng.leftNearSinceMs)

/-- The last part of a tick with a heartbeat: lock, or track a lock. -/
def decideLock : Engine :=
  if eng.cachedLocked then
    if eng.runtime.lockReason ≠ .proximity then
      eng.update fun rt => rt.markManualLock.armManualReturnIfDeparted
    else eng
  else if eng.lockDue reading.now then eng.requestProximityLock reading.locks else eng

def present : Engine :=
  (((eng.update fun rt =>
    { rt with seenPresence := true }).sense reading).countdown reading.now).decideLock reading

def react : Engine :=
  if eng.config.enabled = false then eng
  else if reading.heartbeatValid then eng.present reading else eng.lostHeartbeat reading

def engineTick (reading : Reading) : Engine :=
  ((eng.observe reading).react reading).saveRuntime reading.runtimeSaved

end Engine

namespace Runtime

/-- A far state without a lock to show for it is not trusted. -/
def distrustFar (rt : Runtime) : Runtime :=
  if rt.proximityState = .far ∧ rt.lockIssued = .notIssued then rt.enter .mid
  else rt

/-- A lock found at the start shows that a pending request was met. -/
def resume (reading : Reading) (rt : Runtime) : Runtime :=
  { rt with
    seenPresence := reading.heartbeatValid
    lockIssued :=
      if !reading.sessionId.isEmpty && reading.lockedHint && rt.requestUnseen then .observed
      else rt.lockIssued }

end Runtime

def Engine.engineInitialize (configFile : Option Text)
    (runtimeFile : Option Runtime) (reading : Reading) : Engine :=
  (((Engine.loadConfig reading.configSaved
    { configFile := configFile, runtimeFile := runtimeFile }).loadRuntime.update
      Runtime.distrustFar).update (Runtime.resume reading)).saveRuntime reading.runtimeSaved

/--
What can happen to the engine: a tick, a new configuration file from one of
its commands, and the command that also removes the runtime file.
-/
inductive EngineEvent where
  | tick (reading : Reading)
  | configured (file : Option Text)
  | reset (file : Option Text)

/-- A configuration with a baseline of -60 dBm and the balanced profile. -/
def settledFile : Option Text := some "algorithm_version=1\nbaseline=-60\n".toList

/--
What a tick reads in a session that answers, with files that can be written,
a valid heartbeat and a sample of the same raw and filtered strength.
-/
def Reading.sampled (now : Nat) (strength : Text) (locked : Bool) : Reading :=
  { now := now
    rssiNow := now, rssiFile := some ⟨strength, strength, some now⟩, heartbeatAgeMs := 0
    sessionId := "2".toList, lockedHint := locked, locks := true, configSaved := true
    runtimeSaved := true }

/-- Samples of one strength, and the lock that is read with them, at these times. -/
def samples (strength : String) (locked : Bool) (times : List Nat) : List Reading :=
  times.map fun now => .sampled now strength.toList locked

/-- A tick, or a change of the files. -/
def Engine.step (eng : Engine) : EngineEvent → Engine
  | .tick reading => eng.engineTick reading
  | .configured file => { eng with configFile := file }
  | .reset file => { eng with configFile := file, runtimeFile := none }

end DeskUnlock.Proximity
