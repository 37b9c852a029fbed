import DeskUnlock.Proximity.Engine

/-!
# What a tick does about the lock

Most of a tick is about the signal: samples move the baseline, the proximity
state and the return mode, and leave alone why the session is locked and what
was asked of it.  The lock is requested in two places, behind the countdown
that starts when the phone leaves NEAR and behind a lost heartbeat.  The
lemmas of this module say so once, for the properties of whole runs.
-/

namespace DeskUnlock.Proximity

open Texts List

/-! ## The signal leaves the lock alone -/

/--
The runtime variables that belong to the lock are the same, and nothing is
pending since a time that is not known yet.
-/
structure Runtime.SameLock (now : Nat) (before after : Runtime) : Prop where
  lockReason : after.lockReason = before.lockReason
  lockIssued : after.lockIssued = before.lockIssued
  pendingSinceMs : after.pendingSinceMs ≤ max before.pendingSinceMs now

namespace Runtime.SameLock

variable {now sampleMs : Nat} {rt : Runtime} {profile : Profile} {candidate : ProximityState}
  {cfg : Config}

theorem refl (rt : Runtime) : SameLock now rt rt := ⟨rfl, rfl, Nat.le_max_left _ _⟩

theorem trans {first second third : Runtime}
    (earlier : SameLock now first second) (later : SameLock now second third) :
    SameLock now first third where
  lockReason := later.lockReason.trans earlier.lockReason
  lockIssued := later.lockIssued.trans earlier.lockIssued
  pendingSinceMs := by
    have bounded := earlier.pendingSinceMs
    have further := later.pendingSinceMs
    omega

theorem of_eq {before after : Runtime} (lockReason : after.lockReason = before.lockReason)
    (lockIssued : after.lockIssued = before.lockIssued)
    (pendingSinceMs : after.pendingSinceMs = before.pendingSinceMs) : SameLock now before after :=
  ⟨lockReason, lockIssued, pendingSinceMs ▸ Nat.le_max_left _ _⟩

theorem clearPending : SameLock now rt rt.clearPending := ⟨rfl, rfl, Nat.zero_le _⟩

theorem enter {state : ProximityState} : SameLock now rt (rt.enter state) :=
  ⟨rfl, rfl, Nat.zero_le _⟩

theorem applyCandidate : SameLock now rt (rt.applyCandidate profile candidate now) := by
  unfold Runtime.applyCandidate
  split
  · exact clearPending
  · split
    · exact ⟨rfl, rfl, Nat.le_max_right _ _⟩
    · split
      · exact refl _
      · exact enter

theorem countSettling : SameLock now rt (rt.countSettling candidate sampleMs) := by
  unfold Runtime.countSettling
  split
  · exact of_eq rfl rfl rfl
  · split
    · exact of_eq rfl rfl rfl
    · exact refl _

theorem finishSettling : SameLock now rt rt.finishSettling := by
  unfold Runtime.finishSettling
  split
  · exact of_eq rfl rfl rfl
  · exact refl _

theorem updateReturnSettling :
    SameLock now rt (rt.updateReturnSettling candidate sampleMs) :=
  (clearPending.trans countSettling).trans finishSettling

theorem followCandidate :
    SameLock now rt (rt.followCandidate profile candidate now sampleMs) := by
  unfold Runtime.followCandidate
  split
  · exact updateReturnSettling
  · exact applyCandidate

theorem confirmFastReturn : SameLock now rt rt.confirmFastReturn := by
  unfold Runtime.confirmFastReturn
  split
  · exact ⟨rfl, rfl, Nat.zero_le _⟩
  · exact refl _

theorem countFastReturn {raw : Text} : SameLock now rt (rt.countFastReturn cfg raw) := by
  unfold Runtime.countFastReturn
  split
  · refine trans ?_ confirmFastReturn
    exact of_eq rfl rfl rfl
  · exact of_eq rfl rfl rfl

theorem fastReturnCandidate {rssi : RssiFile} :
    SameLock now rt (rt.fastReturnCandidate cfg rssi) := by
  unfold Runtime.fastReturnCandidate
  split
  · exact refl _
  · split
    · exact refl _
    · refine trans ?_ countFastReturn
      exact of_eq rfl rfl rfl

end Runtime.SameLock

/--
What a tick does not touch once it has looked at the lock, and the times it
records.
-/
structure Engine.Kept (now : Nat) (before after : Engine) : Prop where
  runtimeFile : after.runtimeFile = before.runtimeFile
  cachedSid : after.cachedSid = before.cachedSid
  cachedLocked : after.cachedLocked = before.cachedLocked
  lockedTicksLeft : after.lockedTicksLeft = before.lockedTicksLeft
  pendingSinceMs : after.runtime.pendingSinceMs ≤ max before.runtime.pendingSinceMs now
  leftNearSinceMs : after.leftNearSinceMs ≤ max before.leftNearSinceMs now

variable {change : Runtime → Runtime} {eng : Engine}

namespace Engine.Kept

variable {now : Nat}

theorem refl (eng : Engine) : Kept now eng eng :=
  ⟨rfl, rfl, rfl, rfl, Nat.le_max_left _ _, Nat.le_max_left _ _⟩

theorem trans {first second third : Engine}
    (earlier : Kept now first second) (later : Kept now second third) : Kept now first third where
  runtimeFile := later.runtimeFile.trans earlier.runtimeFile
  cachedSid := later.cachedSid.trans earlier.cachedSid
  cachedLocked := later.cachedLocked.trans earlier.cachedLocked
  lockedTicksLeft := later.lockedTicksLeft.trans earlier.lockedTicksLeft
  pendingSinceMs := by
    have bounded := earlier.pendingSinceMs
    have further := later.pendingSinceMs
    omega
  leftNearSinceMs := by
    have bounded := earlier.leftNearSinceMs
    have further := later.leftNearSinceMs
    omega

theorem update
    (bounded : (change eng.runtime).pendingSinceMs ≤ max eng.runtime.pendingSinceMs now) :
    Kept now eng (eng.update change) :=
  ⟨rfl, rfl, rfl, rfl, bounded, Nat.le_max_left _ _⟩

end Engine.Kept

/-- Nothing was asked of the session, and nothing was learnt about it. -/
structure Engine.Quiet (now : Nat) (before after : Engine) : Prop where
  kept : Kept now before after
  nearSeenSinceLock : after.nearSeenSinceLock = before.nearSeenSinceLock
  lockCalls : after.lockCalls = before.lockCalls
  sameLock : before.runtime.SameLock now after.runtime

namespace Engine.Quiet

variable {now : Nat} {saved : Bool} {filtered : Text} {reading : Reading}

theorem refl (eng : Engine) : Quiet now eng eng := ⟨.refl _, rfl, rfl, .refl _⟩

theorem trans {first second third : Engine}
    (earlier : Quiet now first second) (later : Quiet now second third) :
    Quiet now first third where
  kept := earlier.kept.trans later.kept
  nearSeenSinceLock := later.nearSeenSinceLock.trans earlier.nearSeenSinceLock
  lockCalls := later.lockCalls.trans earlier.lockCalls
  sameLock := earlier.sameLock.trans later.sameLock

theorem update (same : eng.runtime.SameLock now (change eng.runtime)) :
    Quiet now eng (eng.update change) :=
  ⟨.update same.pendingSinceMs, rfl, rfl, same⟩

theorem configure {cfg : Config} {file : Option Text} :
    Quiet now eng { eng with config := cfg, configFile := file } :=
  ⟨⟨rfl, rfl, rfl, rfl, Nat.le_max_left _ _, Nat.le_max_left _ _⟩, rfl, rfl, .refl _⟩

theorem saveConfig : Quiet now eng (eng.saveConfig saved) := by
  unfold Engine.saveConfig
  split
  · exact configure
  · exact refl _

theorem bootstrapBaseline : Quiet now eng (eng.bootstrapBaseline saved filtered) := by
  have joined : Quiet now eng (eng.update (.bootstrapSample filtered)) :=
    update (.of_eq rfl rfl rfl)
  refine joined.trans ?_
  unfold Engine.bootstrapBaseline bootstrapFinish
  split
  · exact refl _
  · split
    · refine trans ?_ saveConfig
      have cleared : Quiet now (eng.update (.bootstrapSample filtered))
            ((eng.update (.bootstrapSample filtered)).update .bootstrapClear) :=
        update (.of_eq rfl rfl rfl)
      exact cleared.trans configure
    · exact update (.of_eq rfl rfl rfl)

theorem updateNearBaseline {delta : Text} :
    Quiet now eng (eng.updateNearBaseline saved filtered delta) := by
  unfold Engine.updateNearBaseline
  split
  · exact refl _
  · split
    · exact configure.trans saveConfig
    · exact refl _

theorem takeSample {sampleMs : Nat} :
    Quiet reading.now eng (eng.takeSample reading filtered sampleMs) := by
  unfold Engine.takeSample
  split
  · exact bootstrapBaseline.trans (update .enter)
  · unfold followSample
    split
    · exact updateNearBaseline.trans (update .followCandidate)
    · exact update .followCandidate

theorem processRssi : Quiet reading.now eng (eng.processRssi reading) := by
  unfold Engine.processRssi
  split
  · exact refl _
  · split
    · exact refl _
    · refine trans ?_ takeSample
      exact update (.of_eq rfl rfl rfl)

theorem sense : Quiet reading.now eng (eng.sense reading) :=
  processRssi.trans (update .fastReturnCandidate)

theorem cancelSettling : Quiet now eng eng.cancelSettling := by
  apply update
  split
  · exact .of_eq rfl rfl rfl
  · exact .refl _

end Engine.Quiet

/--
Neither the state nor what is pending has changed, and no reason in
proximity was found.
-/
structure Runtime.Unclaimed (before after : Runtime) : Prop where
  proximityState : after.proximityState = before.proximityState
  pendingSinceMs : after.pendingSinceMs = before.pendingSinceMs
  lockReason : after.lockReason = .proximity → before.lockReason = .proximity

namespace Runtime.Unclaimed

variable {rt : Runtime}

theorem refl (rt : Runtime) : Unclaimed rt rt := ⟨rfl, rfl, id⟩

theorem trans {first second third : Runtime}
    (earlier : Unclaimed first second) (later : Unclaimed second third) : Unclaimed first third :=
  ⟨later.proximityState.trans earlier.proximityState,
    later.pendingSinceMs.trans earlier.pendingSinceMs,
    fun claimed => earlier.lockReason (later.lockReason claimed)⟩

theorem armManualReturnIfDeparted : Unclaimed rt rt.armManualReturnIfDeparted := by
  unfold Runtime.armManualReturnIfDeparted
  split
  · exact ⟨rfl, rfl, id⟩
  · exact refl _

theorem markManualLock : Unclaimed rt rt.markManualLock := by
  unfold Runtime.markManualLock
  split
  · exact refl _
  · exact ⟨rfl, rfl, nofun⟩

theorem trackLock {locked : Bool} : Unclaimed rt (rt.trackLock locked) := by
  unfold Runtime.trackLock
  split
  · split
    · exact ⟨rfl, rfl, id⟩
    · exact refl _
  · split
    · exact refl _
    · split
      · exact refl _
      · exact ⟨rfl, rfl, nofun⟩

end Runtime.Unclaimed

/-! ## The two places that request a lock -/

/--
What a tick did about the lock.  It made no call, and then it has not found
a reason in proximity either and has seen the phone near only where it ended
near.  Or it made a call: with the session seen unlocked and the phone not
near, and with a valid heartbeat only if the phone was seen near since the
last request.
-/
inductive LockEffect (reading : Reading) (before after : Engine) : Prop where
  | quiet
      (kept : Engine.Kept reading.now before after) (calls : after.lockCalls = before.lockCalls)
      (keeps : before.nearSeenSinceLock = true → after.nearSeenSinceLock = true)
      (seen :
        after.nearSeenSinceLock = true →
          before.nearSeenSinceLock = true ∨ after.runtime.proximityState = .near)
      (reason : after.runtime.lockReason = .proximity → before.runtime.lockReason = .proximity)
  | request
      (kept : Engine.Kept reading.now before after)
      (calls : after.lockCalls = reading.locks :: before.lockCalls)
      (unlocked : before.cachedLocked = false)
      (seen : after.nearSeenSinceLock = (before.nearSeenSinceLock && !reading.locks))
      (left : after.runtime.proximityState ≠ .near)
      (armed : reading.heartbeatValid = true → before.nearSeenSinceLock = true)
      (reason :
        reading.locks = false →
          after.runtime.lockReason = .proximity → before.runtime.lockReason = .proximity)

namespace LockEffect

variable {reading : Reading} {first second third : Engine}

theorem of_quiet (silent : Engine.Quiet reading.now first second) :
    LockEffect reading first second := by
  have seen := silent.nearSeenSinceLock
  refine quiet silent.kept silent.lockCalls (fun since => seen.trans since) ?_ ?_
  · intro since
    exact .inl (seen.symm.trans since)
  · intro reason
    exact silent.sameLock.lockReason.symm.trans reason

theorem after_quiet (silent : Engine.Quiet reading.now first second)
    (effect : LockEffect reading second third) : LockEffect reading first third := by
  have calls := silent.lockCalls
  have seen := silent.nearSeenSinceLock
  have reason := silent.sameLock.lockReason
  have unlocked := silent.kept.cachedLocked
  cases effect with
  | quiet kept same keeps since claimed =>
    rw [seen] at keeps since
    rw [reason] at claimed
    exact quiet (silent.kept.trans kept) (same.trans calls) keeps since claimed
  | request kept made isOpen since left armed claimed =>
    rw [seen] at since armed
    rw [reason] at claimed
    rw [unlocked] at isOpen
    rw [calls] at made
    exact request (silent.kept.trans kept) made isOpen since left armed claimed

theorem before_update (effect : LockEffect reading first second)
    (unclaimed : second.runtime.Unclaimed (change second.runtime)) :
    LockEffect reading first (second.update change) := by
  have changed : Engine.Kept reading.now second (second.update change) :=
    .update (unclaimed.pendingSinceMs ▸ Nat.le_max_left _ _)
  have state := unclaimed.proximityState
  cases effect with
  | quiet kept calls keeps seen earlier =>
    refine
      quiet (kept.trans changed) calls keeps ?_ fun claimed =>
        earlier (unclaimed.lockReason claimed)
    intro since
    exact (seen since).imp_right fun near => state.trans near
  | request kept calls unlocked seen left armed earlier =>
    refine request (kept.trans changed) calls unlocked seen ?_ armed
        fun fails claimed => earlier fails (unclaimed.lockReason claimed)
    exact fun near => left (state.symm.trans near)

theorem kept (effect : LockEffect reading first second) : Engine.Kept reading.now first second := by
  cases effect with
  | quiet kept _ _ _ _ | request kept _ _ _ _ _ _ => exact kept

end LockEffect

namespace Engine

variable {reading : Reading}

/-- A request is made, unless one is under way. -/
theorem requestProximityLock_effect (unlocked : eng.cachedLocked = false)
    (left : eng.runtime.proximityState ≠ .near)
    (armed : reading.heartbeatValid = true → eng.nearSeenSinceLock = true) :
    LockEffect reading eng (eng.requestProximityLock reading.locks) := by
  have kept : Kept reading.now eng eng := .refl _
  have bounds := And.intro kept.pendingSinceMs kept.leftNearSinceMs
  unfold requestProximityLock
  split
  · exact .of_quiet (.refl _)
  · split
    · rename_i locks
      refine .request ⟨rfl, rfl, rfl, rfl, bounds.1, bounds.2⟩ ?_ unlocked ?_ left armed ?_
      · rw [locks]
      · rw [locks, Bool.not_true, Bool.and_false]
      · intro fails
        rw [locks] at fails
        cases fails
    · rename_i fails
      have refused : reading.locks = false := Bool.eq_false_iff.mpr fails
      refine .request ⟨rfl, rfl, rfl, rfl, bounds.1, bounds.2⟩ ?_ unlocked ?_ left armed fun _ => id
      · rw [refused]
      · rw [refused, Bool.not_false, Bool.and_true]

theorem depart_effect (lost : reading.heartbeatValid = false) :
    LockEffect reading eng (eng.depart reading) := by
  have departure : Quiet reading.now eng (eng.update (.enter .absent)) :=
    .update .enter
  unfold depart
  split
  · exact .of_quiet (.refl _)
  · split
    · rename_i seen
      refine .after_quiet departure (requestProximityLock_effect seen.1 ?_ ?_)
      · exact fun near => nomatch near
      · intro valid
        rw [lost] at valid
        cases valid
    · exact .of_quiet departure

theorem presenceLost_effect (lost : reading.heartbeatValid = false) :
    LockEffect reading eng (eng.presenceLost reading) := by
  have armed : ∀ rt : Runtime,
      rt.Unclaimed
        (if eng.cachedLocked then rt.armManualReturnIfDeparted else rt) := by
    intro rt
    split
    · exact .armManualReturnIfDeparted
    · exact .refl _
  refine .before_update ?_ (armed _)
  split
  · exact depart_effect lost
  · exact .of_quiet (.update (.of_eq rfl rfl rfl))

theorem lostHeartbeat_effect (lost : reading.heartbeatValid = false) :
    LockEffect reading eng (eng.lostHeartbeat reading) := by
  have cancelled : Quiet reading.now eng eng.cancelSettling := .cancelSettling
  have sensed := cancelled.trans .sense
  unfold lostHeartbeat
  split
  · split
    · exact .of_quiet sensed
    · exact .after_quiet sensed (presenceLost_effect lost)
  · exact .after_quiet cancelled (presenceLost_effect lost)

theorem countdown_of_near {now : Nat} (near : eng.runtime.proximityState = .near) :
    eng.countdown now = { eng with nearSeenSinceLock := true, leftNearSinceMs := 0 } := by
  unfold countdown
  rw [if_pos near]

/-- Away from NEAR the countdown is quiet. -/
theorem countdown_of_away {now : Nat} (away : eng.runtime.proximityState ≠ .near) :
    Quiet now eng (eng.countdown now) := by
  have kept : Kept now eng eng := .refl _
  have pending := kept.pendingSinceMs
  unfold countdown
  rw [if_neg away]
  split
  · exact ⟨⟨rfl, rfl, rfl, rfl, pending, Nat.zero_le _⟩, rfl, rfl, .refl _⟩
  · split
    · exact ⟨⟨rfl, rfl, rfl, rfl, pending, Nat.le_max_right _ _⟩, rfl, rfl, .refl _⟩
    · exact .refl _

theorem countdown_effect : LockEffect reading eng (eng.countdown reading.now) := by
  by_cases near : eng.runtime.proximityState = .near
  · have kept : Kept reading.now eng eng := .refl _
    rw [countdown_of_near near]
    exact .quiet ⟨rfl, rfl, rfl, rfl, kept.pendingSinceMs, Nat.zero_le _⟩ rfl
        (fun _ => rfl) (fun _ => .inr near) id
  · exact .of_quiet (countdown_of_away near)

/-- A lock is due only away from NEAR, after the phone was seen near. -/
theorem lockDue_iff {now : Nat} :
    eng.lockDue now = true ↔
      eng.nearSeenSinceLock = true ∧
        eng.runtime.returnMode ≠ .returnSettling ∧ eng.cachedSid ≠ [] ∧
        (eng.runtime.proximityState = .mid ∨ eng.runtime.proximityState = .far) ∧
        0 < eng.leftNearSinceMs ∧ LEAVE_NEAR_LOCK_DELAY_MS ≤ now - eng.leftNearSinceMs :=
  decide_eq_true_iff

theorem lockDue_away {now : Nat} (due : eng.lockDue now = true) :
    eng.runtime.proximityState ≠ .near := by
  obtain ⟨-, -, -, mid | far, -, -⟩ := lockDue_iff.mp due
  · rw [mid]
    decide
  · rw [far]
    decide

theorem decideLock_effect :
    LockEffect reading eng ((eng.countdown reading.now).decideLock reading) := by
  have counted : LockEffect reading eng _ := countdown_effect
  unfold decideLock
  split
  · split
    · apply counted.before_update
      exact Runtime.Unclaimed.markManualLock.trans .armManualReturnIfDeparted
    · exact counted
  · split
    · rename_i unlocked due
      have left := lockDue_away due
      have away : eng.runtime.proximityState ≠ .near := by
        intro near
        rw [countdown_of_near near] at left
        exact left near
      have seen := (lockDue_iff.mp due).1
      exact .after_quiet (countdown_of_away away)
          (requestProximityLock_effect (Bool.eq_false_iff.mpr unlocked) left fun _ => seen)
    · exact counted

theorem present_effect : LockEffect reading eng (eng.present reading) := by
  have presence :
      Quiet reading.now eng
        (eng.update fun rt => { rt with seenPresence := true }) :=
    .update (.of_eq rfl rfl rfl)
  exact .after_quiet (presence.trans .sense) decideLock_effect

/-- What a tick does about the lock, once it has looked at it. -/
theorem react_effect : LockEffect reading eng (eng.react reading) := by
  unfold react
  split
  · exact .of_quiet (.refl _)
  · split
    · exact present_effect
    · rename_i invalid
      exact lostHeartbeat_effect (Bool.eq_false_iff.mpr invalid)

/-! ## The start and the end of a tick -/

def loadedRuntime (eng : Engine) : Runtime := eng.runtimeFile.getD {}

/-- Reading the files and the lock: nothing is asked of the session. -/
structure Loaded (before after : Engine) : Prop where
  runtimeFile : after.runtimeFile = before.runtimeFile
  runtime : after.runtime = before.loadedRuntime
  leftNearSinceMs : after.leftNearSinceMs = before.leftNearSinceMs
  nearSeenSinceLock : after.nearSeenSinceLock = before.nearSeenSinceLock
  lockCalls : after.lockCalls = before.lockCalls

variable (eng : Engine) (reading : Reading)

theorem loadConfig_eq (saved : Bool) :
    ∃ file cfg, eng.loadConfig saved = { eng with configFile := file, config := cfg } := by
  unfold loadConfig
  split
  · unfold saveConfig
    split
    · exact ⟨_, _, rfl⟩
    · exact ⟨_, _, rfl⟩
  · exact ⟨_, _, rfl⟩

theorem lookUpSession_eq :
    ∃ sid, eng.lookUpSession reading = { eng with cachedSid := sid } := by
  unfold lookUpSession
  split
  · exact ⟨_, rfl⟩
  · exact ⟨_, rfl⟩

theorem sampleLock_eq :
    ∃ locked left,
      eng.sampleLock reading =
        { eng with cachedLocked := locked, lockedTicksLeft := left } := by
  unfold sampleLock
  split
  · exact ⟨_, _, rfl⟩
  · exact ⟨_, _, rfl⟩

theorem load_loaded : Loaded eng (eng.load reading) := by
  obtain ⟨file, cfg, configured⟩ := loadConfig_eq _ _
  obtain ⟨sid, found⟩ := (eng.loadConfig _).loadRuntime.lookUpSession_eq _
  obtain ⟨locked, left, sampled⟩ :=
    ((eng.loadConfig _).loadRuntime.lookUpSession _).sampleLock_eq _
  unfold load
  rw [sampled, found, configured]
  exact ⟨rfl, rfl, rfl, rfl, rfl⟩

def session : Text :=
  if eng.cachedSid = [] then reading.sessionId else eng.cachedSid

def seesLocked : Bool :=
  if eng.lockedTicksLeft = 0 then !(eng.session reading).isEmpty && reading.lockedHint
  else eng.cachedLocked

theorem load_cache :
    (eng.load reading).cachedSid = eng.session reading ∧ (eng.load reading).cachedLocked =
    eng.seesLocked reading ∧ (eng.load reading).lockedTicksLeft =
    if eng.lockedTicksLeft = 0 then LOCK_CACHE_TICKS - 1 else eng.lockedTicksLeft - 1 := by
  obtain ⟨file, cfg, configured⟩ := loadConfig_eq _ _
  unfold load seesLocked session
  rw [configured]
  unfold loadRuntime lookUpSession sampleLock
  split_ifs <;> exact ⟨rfl, rfl, rfl⟩

theorem saveRuntime_eq (saved : Bool) :
    ∃ file, eng.saveRuntime saved = { eng with runtimeFile := file } ∧
      (file = eng.runtimeFile ∨ file = some eng.runtime) := by
  unfold saveRuntime
  split
  · exact ⟨_, rfl, .inr rfl⟩
  · exact ⟨_, rfl, .inl rfl⟩

variable (runtimeFile : Option Runtime)

def initialRuntime (reading : Reading) : Runtime := (runtimeFile.getD {}).distrustFar.resume reading

theorem engineInitialize_eq (configFile : Option Text) :
    ∃ written cfg saved,
      engineInitialize configFile runtimeFile reading =
        { configFile := written
          runtimeFile := saved, config := cfg, runtime := initialRuntime runtimeFile reading } ∧
      (saved = runtimeFile ∨ saved = some (initialRuntime runtimeFile reading)) := by
  obtain ⟨written, cfg, configured⟩ :=
    loadConfig_eq { configFile := configFile, runtimeFile := runtimeFile } _
  obtain ⟨file, saved, out⟩ :=
    saveRuntime_eq
      (((loadConfig _
        { configFile := configFile
          runtimeFile := runtimeFile }).loadRuntime.update .distrustFar).update (.resume _)) _
  unfold engineInitialize
  rw [saved]
  rw [configured] at out ⊢
  exact ⟨written, cfg, file, rfl, out⟩

/-- The start of the process does not change the reason of a lock. -/
theorem initialRuntime_reason :
    (initialRuntime runtimeFile reading).lockReason = (runtimeFile.getD {}).lockReason := by
  unfold initialRuntime Runtime.distrustFar
  split
  · rfl
  · rfl

theorem initialRuntime_pendingSinceMs :
    (initialRuntime runtimeFile reading).pendingSinceMs ≤ (runtimeFile.getD {}).pendingSinceMs := by
  unfold initialRuntime Runtime.distrustFar
  split
  · exact Nat.zero_le _
  · exact Nat.le_refl _

section

variable {eng reading}

theorem observe_reason (reason : (eng.observe reading).runtime.lockReason = .proximity) :
    eng.loadedRuntime.lockReason = .proximity := by
  rw [← (load_loaded _ _).runtime]
  exact Runtime.Unclaimed.trackLock.lockReason reason

end

/--
A tick acts on what it has observed and may save the outcome; otherwise it
leaves the runtime file as it was.
-/
theorem engineTick_eq :
    ∃ after file,
      eng.engineTick reading = { after with runtimeFile := file } ∧
        LockEffect reading (eng.observe reading) after ∧
        (file = eng.runtimeFile ∨ file = some after.runtime) := by
  obtain ⟨file, saved, written⟩ := ((eng.observe _).react _).saveRuntime_eq _
  have effect : LockEffect reading (eng.observe reading) _ := react_effect
  refine ⟨_, file, saved, effect, written.imp_left fun old => ?_⟩
  exact (old.trans effect.kept.runtimeFile).trans (load_loaded _ _).runtimeFile

/--
The requests a tick issues.  At most one; and without one the phone is seen
near only by a tick that ends near.
-/
theorem engineTick_issued :
    ((eng.engineTick reading).issued = eng.issued ∧
      ((eng.engineTick reading).nearSeenSinceLock = true →
        eng.nearSeenSinceLock = true ∨ (eng.engineTick reading).runtime.proximityState = .near)) ∨
    ((eng.engineTick reading).issued = eng.issued + 1 ∧
      (eng.engineTick reading).nearSeenSinceLock = false ∧
      (eng.engineTick reading).runtime.proximityState ≠ .near ∧
      (reading.heartbeatValid = true → eng.nearSeenSinceLock = true)) := by
  have loaded := eng.load_loaded reading
  have calls : (eng.observe reading).lockCalls = eng.lockCalls := loaded.lockCalls
  have before : (eng.observe reading).nearSeenSinceLock = eng.nearSeenSinceLock :=
    loaded.nearSeenSinceLock
  obtain ⟨after, file, ticked, effect, -⟩ := eng.engineTick_eq _
  rw [ticked]
  unfold issued
  cases effect with
  | quiet _ same _ seen _ =>
    refine .inl ⟨?_, ?_⟩
    · rw [same, calls]
    · rw [← before]
      exact seen
  | request _ made _ seen left armed _ =>
    rw [before] at seen armed
    cases out : reading.locks with
    | false =>
      rw [out] at made seen
      refine .inl ⟨?_, ?_⟩
      · rw [made, calls]
        rfl
      · rw [seen, Bool.not_false, Bool.and_true]
        exact .inl
    | true =>
      rw [out] at made seen
      refine .inr ⟨?_, ?_, left, armed⟩
      · rw [made, calls]
        exact count_cons_self
      · rw [seen, Bool.not_true, Bool.and_false]

variable {eng reading} in
/--
A reason in proximity at the end of a tick was in the file, or the tick saw
the session unlocked and issued a request.
-/
theorem engineTick_reason (reason : (eng.engineTick reading).runtime.lockReason = .proximity) :
    eng.loadedRuntime.lockReason = .proximity ∨
      ((eng.engineTick reading).issued ≠ eng.issued ∧
        (eng.engineTick reading).cachedLocked = false) := by
  have calls : (eng.observe reading).lockCalls = eng.lockCalls := (load_loaded _ _).lockCalls
  obtain ⟨after, file, ticked, effect, -⟩ := eng.engineTick_eq _
  rw [ticked] at reason ⊢
  unfold issued
  cases effect with
  | quiet _ _ _ _ earlier => exact .inl (observe_reason (earlier reason))
  | request kept made unlocked _ _ _ earlier =>
    cases out : reading.locks with
    | false => exact .inl (observe_reason (earlier out reason))
    | true =>
      refine .inr ⟨?_, kept.cachedLocked.trans unlocked⟩
      rw [made, calls, out, count_cons_self]
      exact Nat.succ_ne_self _

theorem engineTick_cache :
    (eng.engineTick reading).cachedSid = eng.session reading ∧
      (eng.engineTick reading).cachedLocked = eng.seesLocked reading ∧
      (eng.engineTick reading).lockedTicksLeft =
        if eng.lockedTicksLeft = 0 then LOCK_CACHE_TICKS - 1
        else eng.lockedTicksLeft - 1 := by
  obtain ⟨after, file, ticked, effect, -⟩ := eng.engineTick_eq reading
  have kept := effect.kept
  have cache := eng.load_cache reading
  rw [ticked]
  exact ⟨kept.cachedSid.trans cache.1, kept.cachedLocked.trans cache.2.1,
      kept.lockedTicksLeft.trans cache.2.2⟩

/-- The times after a tick are old or the time of the tick. -/
theorem engineTick_times :
    (eng.engineTick reading).runtime.pendingSinceMs ≤
        max eng.loadedRuntime.pendingSinceMs reading.now ∧
      (eng.engineTick reading).leftNearSinceMs ≤ max eng.leftNearSinceMs reading.now := by
  obtain ⟨after, file, ticked, effect, -⟩ := eng.engineTick_eq reading
  have kept := effect.kept
  have loaded := eng.load_loaded reading
  have tracked : Runtime.Unclaimed _ (eng.observe reading).runtime := .trackLock
  rw [ticked]
  constructor
  · rw [← loaded.runtime, ← tracked.pendingSinceMs]
    exact kept.pendingSinceMs
  · rw [← loaded.leftNearSinceMs]
    exact kept.leftNearSinceMs

/-- Calls are only added, and none by a tick that sees the session locked. -/
theorem engineTick_lockCalls :
    ((eng.engineTick reading).lockCalls = eng.lockCalls ∧
      (eng.nearSeenSinceLock = true → (eng.engineTick reading).nearSeenSinceLock = true)) ∨
    ((eng.engineTick reading).lockCalls = reading.locks :: eng.lockCalls ∧
      eng.seesLocked reading = false) := by
  obtain ⟨after, file, ticked, effect, -⟩ := eng.engineTick_eq _
  have loaded := eng.load_loaded reading
  have cache := eng.load_cache reading
  rw [ticked, ← loaded.lockCalls, ← loaded.nearSeenSinceLock, ← cache.2.1]
  cases effect with
  | quiet _ same keeps _ _ => exact .inl ⟨same, keeps⟩
  | request _ made unlocked _ _ _ _ => exact .inr ⟨made, unlocked⟩

/-- After a tick the file is the old one or holds the variables. -/
theorem engineTick_loadedRuntime :
    (eng.engineTick reading).loadedRuntime = eng.loadedRuntime ∨
      (eng.engineTick reading).loadedRuntime = (eng.engineTick reading).runtime := by
  obtain ⟨after, file, ticked, -, written⟩ := eng.engineTick_eq _
  rw [ticked]
  rcases written with old | new
  · exact .inl (congrArg (·.getD {}) old)
  · exact .inr (congrArg (·.getD {}) new)

end Engine

end DeskUnlock.Proximity
