import Mathlib.Tactic.Common
import DeskUnlock.Foundation.Runs

/-!
# The link of the phone to the desktop

`PersistentGattClient` of `syauth-android`: the nullable GATT handle, the two
recovery flags and the five timers of the `reconnectHandler`, through every
public call, GATT callback and firing of a timer.

A timer may fire at any time after it was posted, so the delays do not occur
here.  The heartbeat and the RSSI reads are left out; of the operation gate,
only whether it is ready matters to the callbacks.

What keeps the link alive is that each failed attempt to open it leaves some
timer that tries again.  An attempt that fails leaves only the timers that
were pending before, and these may be none.
-/

namespace DeskUnlock.Unlock

open Runs Option

/-! ## The client -/

/-- A handle of `connectGatt`, with its identity. -/
structure GattHandle where
  id : Nat
  autoConnect : Bool

/-- The client, with its handle, flags and timers. -/
structure PersistentGattClient where
  gatt : Option GattHandle
  /-- The identity that the next handle gets. -/
  nextHandle : Nat
  discoveryInFlight : Bool
  lastCallbackMs : Nat
  stopped : Bool
  /-- The operation gate was marked ready. -/
  ready : Bool
  gattGeneration : Nat
  discoveryRecoveryActive : Bool
  discoveryRecoveryReconnectUsed : Bool
  /-- The posted retry, with the handle and generation it was posted for. -/
  discoveryRetry : Option (Nat × Nat)
  discoveryRetryAttempt : Nat
  /-- The posted watchdog, with its handle and generation. -/
  discoveryWatchdog : Option (Nat × Nat)
  /-- The recovery retry is posted. -/
  discoveryRecoveryRetry : Bool
  /-- `reconnectRunnable` is posted. -/
  reconnect : Bool
  /-- `livenessRunnable` is posted. -/
  liveness : Bool
  /-- After a call that starts the client, before `stop`; not its data. -/
  started : Bool

/-- What the Bluetooth stack and the clock answer during one event. -/
structure RadioAnswers where
  now : Nat
  /-- The device is found and `connectGatt` returns a handle. -/
  opens : Bool
  /-- `discoverServices` is accepted. -/
  discovers : Bool

def LIVENESS_STALE_AFTER_MS : Nat := 9000

def DISCOVERY_RETRY_DELAYS_MS : List Nat := [500, 1000, 2000]

namespace PersistentGattClient

def new : PersistentGattClient where
  gatt := none
  nextHandle := 0
  discoveryInFlight := false
  lastCallbackMs := 0
  stopped := false
  ready := false
  gattGeneration := 0
  discoveryRecoveryActive := false
  discoveryRecoveryReconnectUsed := false
  discoveryRetry := none
  discoveryRetryAttempt := 0
  discoveryWatchdog := none
  discoveryRecoveryRetry := false
  reconnect := false
  liveness := false
  started := false

/-- `gatt.get() === g`. -/
def isCurrent (client : PersistentGattClient) (handle : Nat) : Bool :=
  client.gatt.map GattHandle.id = some handle

section

variable (radio : RadioAnswers)

section

variable (client : PersistentGattClient)

/-- The handle that `connectGatt` has returned, with its watchdogs. -/
def adopt (autoConnect : Bool) : PersistentGattClient :=
  { client with
    stopped := false, gatt := some ⟨client.nextHandle, autoConnect⟩
    nextHandle := client.nextHandle + 1, gattGeneration := client.gattGeneration + 1
    discoveryRetry := none, discoveryRetryAttempt := 0, discoveryInFlight := false
    reconnect := true, lastCallbackMs := radio.now, liveness := true }

def startWithMode (autoConnect : Bool) : PersistentGattClient :=
  if client.gatt.isSome then { client with stopped := false }
  else if radio.opens then client.adopt radio autoConnect else { client with stopped := false }

def start : PersistentGattClient := client.startWithMode radio true

def stop : PersistentGattClient :=
  { client with
    stopped := true, reconnect := false, liveness := false, discoveryRetry := none
    discoveryWatchdog := none, discoveryRecoveryRetry := false, discoveryRecoveryActive := false
    discoveryRecoveryReconnectUsed := false, gattGeneration := client.gattGeneration + 1
    ready := false, gatt := none }

/-- `reconnectFresh` up to the new start. -/
def tearDown (resetRecovery : Bool) : PersistentGattClient :=
  { client with
    reconnect := false, discoveryRetry := none, discoveryWatchdog := none
    discoveryRecoveryRetry := false, discoveryRetryAttempt := 0, discoveryInFlight := false
    ready := false, discoveryRecoveryActive := !resetRecovery && client.discoveryRecoveryActive
    discoveryRecoveryReconnectUsed := !resetRecovery && client.discoveryRecoveryReconnectUsed
    gatt := none, gattGeneration := client.gattGeneration + 1 }

def reconnectFresh (resetRecovery autoConnect : Bool) : PersistentGattClient :=
  (client.tearDown resetRecovery).startWithMode radio autoConnect

def forceReconnect : PersistentGattClient := client.reconnectFresh radio true false

/-! ## Discovery -/

def scheduleDiscoveryRecoveryRetry : PersistentGattClient :=
  { client with discoveryRecoveryRetry := true }

variable (handle : Nat)

def armDiscoveryWatchdog : PersistentGattClient :=
  { client with discoveryWatchdog := some (handle, client.gattGeneration) }

def scheduleDiscoveryRetry : PersistentGattClient :=
  if client.discoveryRetry.isSome then client
  else
    match DISCOVERY_RETRY_DELAYS_MS[client.discoveryRetryAttempt]? with
    | none =>
      if client.discoveryRecoveryReconnectUsed then client.scheduleDiscoveryRecoveryRetry
      else { client with discoveryRecoveryReconnectUsed := true }.reconnectFresh radio false false
    | some _ =>
      { client with
        discoveryRetryAttempt := client.discoveryRetryAttempt + 1
        discoveryRetry := some (handle, client.gattGeneration) }

/-! ## Timers -/

/-- The timers of the `reconnectHandler`. -/
inductive Timer where
  | reconnect
  | liveness
  | discoveryRetry
  | discoveryWatchdog
  | discoveryRecoveryRetry
deriving DecidableEq

def pending : Timer → Bool
  | .reconnect => client.reconnect
  | .liveness => client.liveness
  | .discoveryRetry => client.discoveryRetry.isSome
  | .discoveryWatchdog => client.discoveryWatchdog.isSome
  | .discoveryRecoveryRetry => client.discoveryRecoveryRetry

/-- A runnable of discovery is still for the current connection. -/
def isFor (posted : Nat × Nat) : Bool :=
  !client.stopped && client.isCurrent posted.1 && client.gattGeneration == posted.2

def reconnectRunnable : PersistentGattClient :=
  if client.stopped || client.discoveryRecoveryReconnectUsed then { client with reconnect := false }
  else { client with reconnect := false }.forceReconnect radio

def livenessRunnable : PersistentGattClient :=
  if client.stopped then { client with liveness := false }
  else if client.gatt.isNone then { client with liveness := false }.start radio
  else if radio.now - client.lastCallbackMs > LIVENESS_STALE_AFTER_MS then
    { client with liveness := false }.forceReconnect radio
  else client

def discoveryRetryRunnable (posted : Nat × Nat) : PersistentGattClient :=
  if client.isFor posted then
    if radio.discovers then
      { client with
        discoveryRetry := none, discoveryInFlight := true }.armDiscoveryWatchdog posted.1
    else
      { client with
        discoveryRetry := none, discoveryInFlight := false }.scheduleDiscoveryRetry radio posted.1
  else { client with discoveryRetry := none }

def discoveryWatchdogRunnable (posted : Nat × Nat) : PersistentGattClient :=
  if client.isFor posted && client.discoveryInFlight then
    { client with discoveryWatchdog := none }.forceReconnect radio
  else { client with discoveryWatchdog := none }

def discoveryRecoveryRetryRunnable : PersistentGattClient :=
  if client.stopped then { client with discoveryRecoveryRetry := false }
  else
    { client with
      discoveryRecoveryRetry := false
      discoveryRecoveryReconnectUsed := false }.reconnectFresh radio false false

def fire : Timer → PersistentGattClient
  | .reconnect => if client.reconnect then client.reconnectRunnable radio else client
  | .liveness => if client.liveness then client.livenessRunnable radio else client
  | .discoveryRetry =>
    match client.discoveryRetry with
    | some posted => client.discoveryRetryRunnable radio posted
    | none => client
  | .discoveryWatchdog =>
    match client.discoveryWatchdog with
    | some posted => client.discoveryWatchdogRunnable radio posted
    | none => client
  | .discoveryRecoveryRetry =>
    if client.discoveryRecoveryRetry then client.discoveryRecoveryRetryRunnable radio else client

/-! ## Callbacks -/

inductive ProfileState where
  | connected
  | disconnected
  | other
deriving DecidableEq

/-- How far `onServicesDiscovered` gets. -/
inductive Discovery where
  | failed
  | attributesMissing
  | notificationsRefused
  | descriptorRefused
  | subscribing
deriving DecidableEq

def onConnected : PersistentGattClient :=
  { client with
    reconnect := false, discoveryRetry := none, discoveryRetryAttempt := 0, ready := false
    discoveryInFlight := true }.armDiscoveryWatchdog handle

def onDisconnected : PersistentGattClient :=
  if client.stopped then
    { client with discoveryRetry := none, discoveryRetryAttempt := 0, ready := false }
  else
    { client with
      discoveryRetry := none, discoveryRetryAttempt := 0, ready := false, gatt := none
      reconnect := true }

/-- `lastCallbackMs.set(SystemClock.elapsedRealtime())`. -/
def heard : PersistentGattClient := { client with lastCallbackMs := radio.now }

def onConnectionStateChange (newState : ProfileState) : PersistentGattClient :=
  if client.isCurrent handle then
    match newState with
    | .connected => (client.heard radio).onConnected handle
    | .disconnected => (client.heard radio).onDisconnected
    | .other => client.heard radio
  else client

/-- `onServicesDiscovered` up to the outcome of the discovery. -/
def endDiscovery : PersistentGattClient :=
  { client with discoveryWatchdog := none, discoveryInFlight := false, ready := false }

def onServicesDiscovered (discovery : Discovery) : PersistentGattClient :=
  if client.isCurrent handle then
    if discovery = .subscribing then (client.heard radio).endDiscovery
    else
      { (client.heard radio).endDiscovery with
        discoveryRecoveryActive := true }.scheduleDiscoveryRetry radio handle
  else client

def onServiceChanged : PersistentGattClient :=
  if client.isCurrent handle then
    if client.discoveryRecoveryActive then { client.heard radio with ready := false }
    else if client.discoveryInFlight then
      { client.heard radio with
        discoveryRecoveryActive := true, ready := false, discoveryRetry := none
        discoveryRetryAttempt := 0 }
    else
      { client.heard radio with
        discoveryRecoveryActive := true, ready := false, discoveryRetry := none
        discoveryRetryAttempt := 0, discoveryInFlight := true }.armDiscoveryWatchdog handle
  else client

def onDescriptorWrite (cccd success : Bool) : PersistentGattClient :=
  if client.isCurrent handle then
    if cccd && success then
      { client.heard radio with
        discoveryRetry := none, discoveryRetryAttempt := 0, discoveryInFlight := false
        discoveryRecoveryActive := false, discoveryRecoveryReconnectUsed := false, ready := true }
    else client.heard radio
  else client

/-- The callbacks that only take the time: RSSI reads and writes. -/
def onCompletion : PersistentGattClient :=
  if client.isCurrent handle then client.heard radio else client

def onCharacteristicChanged : PersistentGattClient :=
  if client.isCurrent handle && client.ready then client.heard radio else client

/-! ## Events -/

inductive Event where
  | start
  | stop
  | forceReconnect
  | fired (timer : Timer)
  | connectionStateChange (handle : Nat) (newState : ProfileState)
  | servicesDiscovered (handle : Nat) (discovery : Discovery)
  | serviceChanged (handle : Nat)
  | descriptorWrite (handle : Nat) (cccd success : Bool)
  | completion (handle : Nat)
  | characteristicChanged (handle : Nat)

def handleEvent :
    Event → PersistentGattClient
  | .start => { client with started := true }.start radio
  | .stop => { client with started := false }.stop
  | .forceReconnect => { client with started := true }.forceReconnect radio
  | .fired timer => client.fire radio timer
  | .connectionStateChange handle newState => client.onConnectionStateChange radio handle newState
  | .servicesDiscovered handle discovery => client.onServicesDiscovered radio handle discovery
  | .serviceChanged handle => client.onServiceChanged radio handle
  | .descriptorWrite handle cccd success => client.onDescriptorWrite radio handle cccd success
  | .completion handle => client.onCompletion radio handle
  | .characteristicChanged handle => client.onCharacteristicChanged radio handle

end

end

/-- An event, with what the radio answers during it. -/
def step (client : PersistentGattClient) (ev : Event × RadioAnswers) : PersistentGattClient :=
  client.handleEvent ev.2 ev.1

/-! ## The link is attended -/

section

variable (client : PersistentGattClient)

/-- Firing the timer opens a new connection, if the radio grants one. -/
def Reopens (timer : Timer) : Prop :=
  client.pending timer = true ∧
    ∀ radio : RadioAnswers, radio.opens = true →
      ∃ autoConnect, (client.fire radio timer).gatt = some ⟨client.nextHandle, autoConnect⟩

/--
While the client is started, it has a handle and the liveness timer is
pending, or some pending timer opens a connection.
-/
def Attended : Prop :=
  client.started = true →
    (client.gatt.isSome = true ∧ client.liveness = true) ∨ ∃ timer, client.Reopens timer

/-- A failed attempt to open the link leaves a timer that tries again. -/
def Covered (ev : Event × RadioAnswers) : Prop :=
  ev.2.opens = true ∨
    match ev.1 with
    | .start => client.started = true
    | .forceReconnect => client.liveness = true
    | .fired .reconnect =>
      client.reconnect = true →
        client.discoveryRecoveryReconnectUsed = false → client.liveness = true
    | .fired .liveness =>
      client.liveness = true →
        if client.gatt.isSome then ev.2.now - client.lastCallbackMs ≤ LIVENESS_STALE_AFTER_MS
        else
          (client.reconnect = true ∧ client.discoveryRecoveryReconnectUsed = false) ∨
            client.discoveryRecoveryRetry = true
    | .fired .discoveryRecoveryRetry =>
      client.discoveryRecoveryRetry = true → client.liveness = true
    | _ => True

/-- Some timer will try again. -/
def Retrying : Prop :=
  client.liveness = true ∨
    (client.reconnect = true ∧ client.discoveryRecoveryReconnectUsed = false) ∨
    client.discoveryRecoveryRetry = true

end

/-- A handle is watched, and a client that is not started has no timer. -/
structure Sound (client : PersistentGattClient) : Prop where
  held : client.gatt.isSome = true → client.liveness = true ∧ client.started = true
  running : client.started = true → client.stopped = false
  halted :
    client.started = false →
      client.liveness = false ∧ client.reconnect = false ∧ client.discoveryRecoveryRetry = false

section

variable {radio : RadioAnswers} {client : PersistentGattClient}

theorem sound_of_started (started : client.started = true) (running : client.stopped = false)
    (held : client.gatt.isSome = true → client.liveness = true) : client.Sound where
  held := fun present => ⟨held present, started⟩
  running := fun _ => running
  halted := by
    intro halted
    rw [started] at halted
    cases halted

/-- A start succeeds, or leaves the timers that there were. -/
theorem startWithMode_link (started : client.started = true)
    (held : client.gatt.isSome = true → client.liveness = true) (autoConnect : Bool) :
    (client.startWithMode radio autoConnect).Sound ∧
      ((client.startWithMode radio autoConnect).Retrying ↔
        radio.opens = true ∨ client.Retrying) := by
  unfold startWithMode
  split_ifs with present opens
  · have retrying : client.Retrying := .inl (held present)
    exact ⟨sound_of_started started rfl held, iff_of_true retrying (.inr retrying)⟩
  · exact ⟨sound_of_started started rfl fun _ => rfl, iff_of_true (.inl rfl) (.inl opens)⟩
  · refine ⟨sound_of_started started rfl held, fun retrying => .inr retrying, ?_⟩
    rintro (granted | retrying)
    · exact (opens granted).elim
    · exact retrying

/-- A fresh connection succeeds, or leaves no timer but the liveness. -/
theorem reconnectFresh_link (started : client.started = true) (resetRecovery autoConnect : Bool) :
    (client.reconnectFresh radio resetRecovery autoConnect).Sound ∧
      ((client.reconnectFresh radio resetRecovery autoConnect).Retrying ↔
        radio.opens = true ∨ client.liveness = true) := by
  obtain ⟨sound, retrying⟩ := @startWithMode_link _ (client.tearDown _) started nofun autoConnect
  refine ⟨sound, retrying.trans (or_congr_right ?_)⟩
  simp [Retrying, tearDown]

variable {after : PersistentGattClient}

theorem link_of_watched (started : after.started = true) (running : after.stopped = false)
    (watched : after.liveness = true) : after.Sound ∧ after.Retrying :=
  ⟨sound_of_started started running fun _ => watched, .inl watched⟩

/-- While a handle is watched, a retry of the discovery keeps the link. -/
theorem scheduleDiscoveryRetry_link (started : client.started = true)
    (running : client.stopped = false) (watched : client.liveness = true) {handle : Nat} :
    (client.scheduleDiscoveryRetry radio handle).Sound ∧
      (client.scheduleDiscoveryRetry radio handle).Retrying := by
  unfold scheduleDiscoveryRetry
  split
  · exact link_of_watched started running watched
  · split
    · split
      · exact link_of_watched started running watched
      · obtain ⟨sound, retrying⟩ :=
          @reconnectFresh_link _ { client with discoveryRecoveryReconnectUsed := true } started
            false _
        exact ⟨sound, retrying.mpr (.inr watched)⟩
    · exact link_of_watched started running watched

theorem isSome_of_isCurrent {handle : Nat} (current : client.isCurrent handle = true) :
    client.gatt.isSome = true := by
  unfold isCurrent at current
  cases present : client.gatt with
  | none => simp [present] at current
  | some _ => rfl

theorem isSome_of_isFor {posted : Nat × Nat}
    (current : client.isFor posted = true) : client.gatt.isSome = true := by
  simp only [isFor, Bool.and_eq_true] at current
  exact isSome_of_isCurrent current.1.2

theorem isFor_of_closed (closed : client.gatt = none)
    {posted : Nat × Nat} : client.isFor posted = false := by
  simp [isFor, isCurrent, closed]

theorem Sound.watched (sound : client.Sound) (present : client.gatt.isSome = true) :
    client.started = true ∧ client.stopped = false ∧ client.liveness = true := by
  obtain ⟨watched, started⟩ := sound.held present
  exact ⟨started, sound.running started, watched⟩

/-! ## One event -/

/-- A started client never gives up. -/
def Lively (client : PersistentGattClient) : Prop := client.started = true → client.Retrying

/-- The event keeps the link, whatever the radio answers. -/
structure Safe (client after : PersistentGattClient) : Prop where
  sound : after.Sound
  lively : client.Lively → after.Lively

theorem safe_of_link (link : after.Sound ∧ after.Retrying) : client.Safe after :=
  ⟨link.1, fun _ _ => link.2⟩

section

variable (sound : client.Sound)
include sound

/-- A callback for the current handle meets a watched client. -/
theorem Sound.callback {guard : Bool} (current : guard = true → client.gatt.isSome = true)
    (kept : client.started = true → client.stopped = false →
      client.liveness = true → after.Sound ∧ after.Retrying) :
    client.Safe (if guard then after else client) := by
  split
  · next met =>
      obtain ⟨started, running, watched⟩ := sound.watched (current met)
      exact safe_of_link (kept started running watched)
  · exact ⟨sound, id⟩

variable (handle : Nat)

theorem onConnectionStateChange_safe (newState : ProfileState) :
    client.Safe (client.onConnectionStateChange radio handle newState) := by
  refine sound.callback isSome_of_isCurrent ?_
  intro started running watched
  cases newState with
  | connected | other => exact link_of_watched started running watched
  | disconnected =>
    dsimp only [onDisconnected]
    split
    · exact link_of_watched started running watched
    · exact link_of_watched started running watched

theorem onServicesDiscovered_safe (discovery : Discovery) :
    client.Safe (client.onServicesDiscovered radio handle discovery) := by
  refine sound.callback isSome_of_isCurrent ?_
  intro started running watched
  split
  · exact link_of_watched started running watched
  · apply scheduleDiscoveryRetry_link
    · exact started
    · exact running
    · exact watched

theorem onServiceChanged_safe : client.Safe (client.onServiceChanged radio handle) := by
  refine sound.callback isSome_of_isCurrent ?_
  intro started running watched
  split
  · exact link_of_watched started running watched
  · split
    · exact link_of_watched started running watched
    · exact link_of_watched started running watched

theorem onDescriptorWrite_safe {success : Bool} (cccd : Bool) :
    client.Safe (client.onDescriptorWrite radio handle cccd success) := by
  refine sound.callback isSome_of_isCurrent ?_
  intro started running watched
  split
  · exact link_of_watched started running watched
  · exact link_of_watched started running watched

theorem onCompletion_safe : client.Safe (client.onCompletion radio handle) := by
  refine sound.callback isSome_of_isCurrent ?_
  intro started running watched
  exact link_of_watched started running watched

theorem onCharacteristicChanged_safe :
    client.Safe (client.onCharacteristicChanged radio handle) := by
  refine sound.callback ?_ ?_
  · intro ready
    exact isSome_of_isCurrent (Bool.and_eq_true_iff.mp ready).1
  · intro started running watched
    exact link_of_watched started running watched

theorem fire_discoveryRetry_safe : client.Safe (client.fire radio .discoveryRetry) := by
  simp only [fire]
  split
  · next posted found =>
      unfold discoveryRetryRunnable
      split
      · next current =>
          obtain ⟨started, running, watched⟩ := sound.watched (isSome_of_isFor current)
          split
          · exact safe_of_link (link_of_watched started running watched)
          · apply safe_of_link
            apply scheduleDiscoveryRetry_link
            · exact started
            · exact running
            · exact watched
      · exact ⟨⟨sound.held, sound.running, sound.halted⟩, id⟩
  · exact ⟨sound, id⟩

theorem fire_discoveryWatchdog_safe : client.Safe (client.fire radio .discoveryWatchdog) := by
  simp only [fire]
  split
  · next posted found =>
      unfold discoveryWatchdogRunnable
      split
      · next stalled =>
          obtain ⟨started, running, watched⟩ :=
            sound.watched (isSome_of_isFor (Bool.and_eq_true_iff.mp stalled).1)
          obtain ⟨fresh, retrying⟩ :=
            @reconnectFresh_link _ { client with discoveryWatchdog := none } started _ _
          exact safe_of_link ⟨fresh, retrying.mpr (.inr watched)⟩
      · exact ⟨⟨sound.held, sound.running, sound.halted⟩, id⟩
  · exact ⟨sound, id⟩

end

/-! ## Attempts to open the link -/

/-- The event keeps the client sound, and lively exactly if it is covered. -/
structure Exact (client after : PersistentGattClient) (covered : Prop) : Prop where
  sound : after.Sound
  lively : client.Lively → (after.Lively ↔ covered)

theorem Safe.exact {covered : Prop} (safe : client.Safe after) (always : covered) :
    client.Exact after covered :=
  ⟨safe.sound, fun lively => iff_of_true (safe.lively lively) always⟩

theorem exact_of_link {retries covered : Prop} (started : after.started = true)
    (link : after.Sound ∧ (after.Retrying ↔ retries)) (same : client.Lively → (retries ↔ covered)) :
    client.Exact after covered := by
  refine ⟨link.1, fun lively => ?_⟩
  have demanded : after.Lively ↔ after.Retrying :=
    ⟨fun holds => holds started, fun retrying _ => retrying⟩
  exact demanded.trans (link.2.trans (same lively))

theorem startWithMode_started {autoConnect : Bool} :
    (client.startWithMode radio autoConnect).started = client.started := by
  unfold startWithMode
  split
  · rfl
  · split <;> rfl

theorem start_exact (sound : client.Sound) :
    client.Exact (client.handleEvent radio .start) (client.Covered (.start, radio)) := by
  have held : client.gatt.isSome = true → client.liveness = true :=
    fun present => (sound.held present).1
  refine exact_of_link startWithMode_started
      (@startWithMode_link _ { client with started := true } rfl held _) ?_
  intro lively
  refine or_congr_right ⟨?_, lively⟩
  intro retrying
  by_contra halted
  obtain ⟨liveness, reconnect, recovery⟩ := sound.halted (by simpa using halted)
  have retries : client.Retrying := retrying
  simp [Retrying, liveness, reconnect, recovery] at retries

theorem forceReconnect_exact : client.Exact (client.handleEvent radio .forceReconnect)
    (client.Covered (.forceReconnect, radio)) :=
  exact_of_link startWithMode_started
    (@reconnectFresh_link _ { client with started := true } rfl true _) fun _ => .rfl

theorem Sound.started_of_pending (sound : client.Sound)
    (pending : client.liveness = true ∨ client.reconnect = true ∨
      client.discoveryRecoveryRetry = true) : client.started = true := by
  by_contra halted
  obtain ⟨liveness, reconnect, recovery⟩ := sound.halted (by simpa using halted)
  simp [liveness, reconnect, recovery] at pending

theorem fire_reconnect_exact (sound : client.Sound) :
    client.Exact (client.fire radio .reconnect) (client.Covered (.fired .reconnect, radio)) := by
  cases pending : client.reconnect with
  | false =>
    have still : client.fire radio .reconnect = client := by simp [fire, pending]
    rw [still]
    exact Safe.exact ⟨sound, id⟩ (by simp [Covered, pending])
  | true =>
    have started := sound.started_of_pending (.inr (.inl pending))
    have running := sound.running started
    cases used : client.discoveryRecoveryReconnectUsed with
    | true =>
      have idle : client.fire radio .reconnect = { client with reconnect := false } := by
        simp [fire, pending, reconnectRunnable, used]
      rw [idle]
      refine Safe.exact ⟨?_, ?_⟩ (by simp [Covered, used])
      · exact sound_of_started started running fun present => (sound.held present).1
      · intro lively _
        simpa [Retrying, used] using lively started
    | false =>
      have forced :
          client.fire radio .reconnect =
            { client with reconnect := false }.forceReconnect radio := by
        simp [fire, pending, reconnectRunnable, used, running]
      rw [forced]
      refine exact_of_link (startWithMode_started.trans started)
          (@reconnectFresh_link _ { client with reconnect := false } started _ _) ?_
      intro lively
      simp [Covered, pending, used]

theorem fire_liveness_exact (sound : client.Sound) :
    client.Exact (client.fire radio .liveness) (client.Covered (.fired .liveness, radio)) := by
  cases pending : client.liveness with
  | false =>
    have still : client.fire radio .liveness = client := by simp [fire, pending]
    rw [still]
    exact Safe.exact ⟨sound, id⟩ (by simp [Covered, pending])
  | true =>
    have started := sound.started_of_pending (.inl pending)
    have running := sound.running started
    cases present : client.gatt with
    | none =>
      have reopened :
          client.fire radio .liveness = { client with liveness := false }.start radio := by
        simp [fire, pending, livenessRunnable, running, present]
      rw [reopened]
      refine exact_of_link (startWithMode_started.trans started)
          (@startWithMode_link _ { client with liveness := false } started (by simp [present]) _) ?_
      intro lively
      simp [Covered, pending, present, Retrying]
    | some handle =>
      by_cases stale : radio.now - client.lastCallbackMs > LIVENESS_STALE_AFTER_MS
      · have forced :
            client.fire radio .liveness =
              { client with liveness := false }.forceReconnect radio := by
          simp [fire, pending, livenessRunnable, running, present, stale]
        rw [forced]
        refine exact_of_link (startWithMode_started.trans started)
            (@reconnectFresh_link _ { client with liveness := false } started _ _) ?_
        intro lively
        simp [Covered, pending, present, Nat.not_le_of_lt stale]
      · have still : client.fire radio .liveness = client := by
          simp [fire, livenessRunnable, running, present, stale]
        rw [still]
        refine Safe.exact ⟨sound, id⟩ ?_
        simp [Covered, present, Nat.le_of_not_lt stale]

theorem fire_discoveryRecoveryRetry_exact (sound : client.Sound) :
    client.Exact (client.fire radio .discoveryRecoveryRetry)
      (client.Covered (.fired .discoveryRecoveryRetry, radio)) := by
  cases pending : client.discoveryRecoveryRetry with
  | false =>
    have still : client.fire radio .discoveryRecoveryRetry = client := by simp [fire, pending]
    rw [still]
    exact Safe.exact ⟨sound, id⟩ (by simp [Covered, pending])
  | true =>
    have started := sound.started_of_pending (.inr (.inr pending))
    have running := sound.running started
    have fresh :
        client.fire radio .discoveryRecoveryRetry =
          { client with
            discoveryRecoveryRetry := false
            discoveryRecoveryReconnectUsed := false }.reconnectFresh radio false false := by
      simp [fire, pending, discoveryRecoveryRetryRunnable, running]
    rw [fresh]
    refine
      exact_of_link (startWithMode_started.trans started)
        (@reconnectFresh_link _
          { client with discoveryRecoveryReconnectUsed := false } started _ _) ?_
    intro lively
    simp [Covered, pending]

theorem stop_safe : client.Safe (client.handleEvent radio .stop) where
  sound := ⟨nofun, nofun, fun _ => ⟨rfl, rfl, rfl⟩⟩
  lively := fun _ => nofun

theorem step_exact (sound : client.Sound) {ev : Event × RadioAnswers} :
    client.Exact (client.step ev) (client.Covered ev) := by
  obtain ⟨ev, radio⟩ := ev
  cases ev with
  | start => exact start_exact sound
  | stop => exact stop_safe.exact (.inr trivial)
  | forceReconnect => exact forceReconnect_exact
  | fired timer =>
    cases timer with
    | reconnect => exact fire_reconnect_exact sound
    | liveness => exact fire_liveness_exact sound
    | discoveryRetry => exact (fire_discoveryRetry_safe sound).exact (.inr trivial)
    | discoveryWatchdog => exact (fire_discoveryWatchdog_safe sound).exact (.inr trivial)
    | discoveryRecoveryRetry => exact fire_discoveryRecoveryRetry_exact sound
  | connectionStateChange handle newState =>
    exact (onConnectionStateChange_safe sound _ _).exact (.inr trivial)
  | servicesDiscovered handle discovery =>
    exact (onServicesDiscovered_safe sound _ _).exact (.inr trivial)
  | serviceChanged handle => exact (onServiceChanged_safe sound _).exact (.inr trivial)
  | descriptorWrite handle cccd success =>
    exact (onDescriptorWrite_safe sound _ _).exact (.inr trivial)
  | completion handle => exact (onCompletion_safe sound _).exact (.inr trivial)
  | characteristicChanged handle =>
    exact (onCharacteristicChanged_safe sound _).exact (.inr trivial)

/-! ## Attended links -/

theorem reconnectFresh_granted (opens : radio.opens = true) {resetRecovery autoConnect : Bool} :
    (client.reconnectFresh radio resetRecovery autoConnect).gatt =
      some ⟨client.nextHandle, autoConnect⟩ := by
  simp [reconnectFresh, startWithMode, tearDown, opens, adopt]

/-- The timers that open a connection are those of a retrying client. -/
theorem attended_iff_lively (sound : client.Sound) : client.Attended ↔ client.Lively := by
  constructor
  · intro attended started
    cases present : client.gatt with
    | some handle => exact .inl (sound.held (by rw [present]; rfl)).1
    | none =>
      have closed : client.gatt.isSome = false := by rw [present]; rfl
      obtain ⟨held, -⟩ | ⟨timer, pending, reopens⟩ := attended started
      · rw [closed] at held
        cases held
      · obtain ⟨autoConnect, opened⟩ := reopens ⟨0, true, true⟩ rfl
        cases timer with
        | liveness => exact .inl pending
        | discoveryRecoveryRetry => exact .inr (.inr pending)
        | reconnect =>
          refine .inr (.inl ⟨pending, ?_⟩)
          have posted : client.reconnect = true := pending
          cases used : client.discoveryRecoveryReconnectUsed with
          | false => rfl
          | true => simp [fire, posted, reconnectRunnable, used, present] at opened
        | discoveryRetry =>
          obtain ⟨posted, found⟩ := isSome_iff_exists.mp pending
          simp [fire, found, discoveryRetryRunnable, isFor_of_closed, present] at opened
        | discoveryWatchdog =>
          obtain ⟨posted, found⟩ := isSome_iff_exists.mp pending
          simp [fire, found, discoveryWatchdogRunnable, isFor_of_closed, present] at opened
  · intro lively started
    have running := sound.running started
    rcases lively started with liveness | ⟨reconnect, used⟩ | recovery
    · cases present : client.gatt with
      | some handle => exact .inl ⟨rfl, liveness⟩
      | none =>
        refine .inr ⟨.liveness, liveness, fun radio opens => ⟨true, ?_⟩⟩
        simp [fire, liveness, livenessRunnable, running, present, start,
          startWithMode, opens, adopt]
    · refine .inr ⟨.reconnect, reconnect, fun radio opens => ⟨false, ?_⟩⟩
      simp only [fire, reconnect, reconnectRunnable, running, used]
      exact reconnectFresh_granted opens
    · refine .inr ⟨.discoveryRecoveryRetry, recovery, fun radio opens => ⟨false, ?_⟩⟩
      simp only [fire, recovery, discoveryRecoveryRetryRunnable, running]
      exact reconnectFresh_granted opens

end

/-! ## Runs -/

theorem new_sound : new.Sound where
  held := nofun
  running := nofun
  halted := fun _ => ⟨rfl, rfl, rfl⟩

/-- An open handle is watched, and without a start no timer can open one. -/
theorem handles_watched (events : List (Event × RadioAnswers)) :
    let client := run step new events
    (client.gatt.isSome = true →
      client.started = true ∧ client.stopped = false ∧ client.liveness = true) ∧
      (client.started = false →
        client.liveness = false ∧ client.reconnect = false ∧
          client.discoveryRecoveryRetry = false) := by
  intro client
  have sound : client.Sound :=
    @run_invariant _ _ step Sound (fun _ _ sound => (step_exact sound).sound) _ new_sound events
  refine ⟨fun present => ?_, sound.halted⟩
  obtain ⟨watched, started⟩ := sound.held present
  exact ⟨started, sound.running started, watched⟩

/--
The link stays attended exactly as long as no attempt to open it fails with no
other timer left.
-/
theorem attended_throughout_iff (events : List (Event × RadioAnswers)) :
    Throughout step Attended new events ↔ Along step Covered new events := by
  apply @throughout_iff_along _ _ _ _ Sound
  · intro client ev sound
    exact (step_exact sound).sound
  · intro client ev sound attended
    obtain ⟨after, lively⟩ := step_exact sound
    have before := (attended_iff_lively sound).mp attended
    exact (attended_iff_lively after).trans (lively before)
  · exact new_sound
  · exact nofun

/--
The phone switches Bluetooth off: the link is lost, the reconnect timer and
then the liveness timer fire while `connectGatt` returns null.  The client is
started, and nothing will open the link again.
-/
theorem bluetooth_off_wedges :
    ¬ (run step new
        [(.start, ⟨0, true, true⟩),
          (.connectionStateChange 0 .connected, ⟨1, true, true⟩),
          (.connectionStateChange 0 .disconnected, ⟨2, false, false⟩),
          (.fired .reconnect, ⟨10, false, false⟩),
          (.fired .liveness, ⟨20, false, false⟩)]).Attended := by
  intro attended
  obtain ⟨held, -⟩ | ⟨timer, pending, -⟩ := attended rfl
  · cases held
  · cases timer <;> cases pending

end PersistentGattClient

end DeskUnlock.Unlock
