import DeskUnlock.Foundation.Runs
import Mathlib.Logic.Function.Basic

/-!
# The operations of the phone's GATT client

`bg/PersistentGattClient.kt`: the stack takes one operation at a time, and
`GattOperationGate` says whose turn it is.  A frame that comes while another
operation is under way waits in `pendingAuth`, and whoever finishes this
operation gets it to write.  The RSSI timer does not write it: if the stack
refuses the reading, the frame is lost and the gate stays shut.
-/

namespace DeskUnlock.Unlock.GattGate

open Runs Function

inductive GattOperation where
  | rssiRead
  | write
deriving DecidableEq

inductive GattWriteDecision where
  | start
  | queued
  | skip

variable {Frame : Type}

/-- One operation at a time, and one frame that waits. -/
structure GattOperationGate (Frame : Type) where
  ready : Bool
  current : Option GattOperation
  pendingAuth : Option Frame

namespace GattOperationGate

def markNotReady : GattOperationGate Frame := ⟨false, none, none⟩

variable (gate : GattOperationGate Frame)

def tryBeginRssi : GattOperationGate Frame × Bool :=
  if gate.ready ∧ gate.current = none then ({ gate with current := some .rssiRead }, true)
  else (gate, false)

def finish (operation : GattOperation) : GattOperationGate Frame × Option Frame :=
  if gate.current ≠ some operation then (gate, none)
  else
    ({ gate with current := gate.pendingAuth.map fun _ => .write, pendingAuth := none },
      gate.pendingAuth)

def finishRssi : GattOperationGate Frame × Option Frame := gate.finish .rssiRead

def finishWrite : GattOperationGate Frame × Option Frame := gate.finish .write

def requestWrite (frame : Frame) (diagnostic : Bool) :
    GattOperationGate Frame × GattWriteDecision :=
  if !gate.ready then (gate, .skip)
  else if gate.current = none then ({ gate with current := some .write }, .start)
  else if diagnostic then (gate, .skip) else if gate.pendingAuth.isSome then (gate, .skip)
  else ({ gate with pendingAuth := some frame }, .queued)

end GattOperationGate

/-- A thread inside `writeGattFrame`. -/
inductive Writer (Frame : Type) where
  | handing (frame : Frame)
  | refused

/-- `rssiRunnable`. -/
inductive Timer where
  | resting
  | requesting
  | refused
deriving DecidableEq

/-- The gate, its callers and the stack. -/
structure Client (Frame : Type) where
  gate : GattOperationGate Frame
  threads : Nat → Option (Writer Frame)
  timer : Timer
  /-- Operations that the stack has and whose callback was not processed. -/
  writes : Nat
  reads : Nat
  /-- Frames that were queued since the link is ready, with `true` to the caller. -/
  promised : List Frame
  /-- Frames that the stack has accepted. -/
  accepted : List Frame

inductive Event (Frame : Type) where
  | markReady
  | markNotReady
  | writeResponse (thread : Nat) (frame : Frame)
  | handOver (thread : Nat) (accepted : Bool)
  | finishRefused (thread : Nat)
  | onCharacteristicWrite (thread : Nat)
  | onReadRemoteRssi (thread : Nat)
  | beginRssi
  | requestRssi (accepted : Bool)
  | abandonRssi

namespace Client

def idle : Client Frame := ⟨.markNotReady, fun _ => none, .resting, 0, 0, [], []⟩

-- Heartbeats and RSSI telemetry.
variable (diagnostic : Frame → Bool) (client : Client Frame)

/-- The thread finishes the operation, and goes on with the frame it gets. -/
def finish (operation : GattOperation) (thread : Nat) : Client Frame :=
  let finished := client.gate.finish operation
  { client with
    gate := finished.1, threads := update client.threads thread (finished.2.map .handing) }

def writeResponse (thread : Nat) (frame : Frame) : Client Frame :=
  match client.gate.requestWrite frame (diagnostic frame) with
  | (_, .skip) => client
  | (gate, .queued) => { client with gate, promised := frame :: client.promised }
  | (gate, .start) =>
    { client with gate, threads := update client.threads thread (some (.handing frame)) }

/-- One call of a thread, a callback or the timer. -/
def step : Event Frame → Client Frame
  | .markReady => { client with gate.ready := true }
  | .markNotReady => { client with gate := .markNotReady, promised := [] }
  | .writeResponse thread frame =>
    if (client.threads thread).isNone then client.writeResponse diagnostic thread frame else client
  | .handOver thread accepted =>
    match client.threads thread with
    | some (.handing frame) =>
      if accepted then
        { client with
          threads := update client.threads thread none, writes := client.writes + 1
          accepted := frame :: client.accepted }
      else { client with threads := update client.threads thread (some .refused) }
    | _ => client
  | .finishRefused thread =>
    match client.threads thread with
    | some .refused => client.finish .write thread
    | _ => client
  | .onCharacteristicWrite thread =>
    if 0 < client.writes ∧ (client.threads thread).isNone then
      { client with writes := client.writes - 1 }.finish .write thread
    else client
  | .onReadRemoteRssi thread =>
    if 0 < client.reads ∧ (client.threads thread).isNone then
      { client with reads := client.reads - 1 }.finish .rssiRead thread
    else client
  | .beginRssi =>
    if client.timer = .resting then
      match client.gate.tryBeginRssi with
      | (gate, true) => { client with gate, timer := .requesting }
      | (_, false) => client
    else client
  | .requestRssi accepted =>
    if client.timer = .requesting then
      if accepted then { client with timer := .resting, reads := client.reads + 1 }
      else { client with timer := .refused }
    else client
  | .abandonRssi =>
    if client.timer = .refused then
      { client with gate := client.gate.finishRssi.1, timer := .resting }
    else client

/-- The frame has not been lost. -/
def Kept (frame : Frame) : Prop :=
  client.gate.pendingAuth = some frame ∨
    (∃ thread, client.threads thread = some (.handing frame)) ∨ frame ∈ client.accepted

/--
The stack has a write, or some thread hands one over next.  A thread whose
write the stack has just refused has the gate to itself instead.
-/
def Owned : Prop :=
  (∀ thread, client.threads thread ≠ some .refused) →
    0 < client.writes ∨ ∃ thread frame, client.threads thread = some (.handing frame)

/-- A write in the gate has an owner, and no promised frame is lost. -/
structure Covered : Prop where
  owned : client.gate.current = some .write → client.Owned
  kept : ∀ frame ∈ client.promised, client.Kept frame

/--
No frame is queued behind a reading that the timer gives up, and the stack
does not refuse a frame that was queued.
-/
def Careful : Event Frame → Prop
  | .abandonRssi =>
    client.timer = .refused → client.gate.current = some .rssiRead → client.gate.pendingAuth = none
  | .handOver thread false =>
    ∀ frame ∈ client.promised, client.threads thread ≠ some (.handing frame)
  | _ => True

variable {diagnostic client} {thread : Nat}

theorem Kept.withThread {frame : Frame} (kept : client.Kept frame) (thread : Nat)
    (writer : Option (Writer Frame)) (apart : client.threads thread ≠ some (.handing frame)) :
    { client with threads := update client.threads thread writer }.Kept frame := by
  refine kept.imp_right (Or.imp_left fun ⟨other, held⟩ => ⟨other, ?_⟩)
  have ne : other ≠ thread := fun same => apart (same ▸ held)
  simpa [ne] using held

/-- A free thread that finishes a write owns what it leaves in the gate. -/
theorem covered_finish {operation : GattOperation} (free : client.threads thread = none)
    (owned : operation = .write ∨ (client.gate.current = some .write → client.Owned))
    (kept : ∀ frame ∈ client.promised, client.Kept frame) :
    (client.finish operation thread).Covered := by
  unfold finish GattOperationGate.finish
  split_ifs with elsewhere
  · dsimp only
    rw [Option.map_none, ← free, update_eq_self]
    refine ⟨fun writing => ?_, kept⟩
    exact owned.elim (fun own => absurd (own ▸ writing) elsewhere) (· writing)
  · cases pending : client.gate.pendingAuth with
    | none =>
      dsimp only
      rw [Option.map_none, Option.map_none, ← free, update_eq_self]
      refine ⟨nofun, fun frame mem => ?_⟩
      obtain waits | held := kept _ mem
      · exact nomatch pending.symm.trans waits
      · exact .inr held
    | some next =>
      refine ⟨fun _ _ => .inr ⟨thread, next, by simp⟩, fun frame mem => .inr ?_⟩
      have moved := (kept _ mem).withThread thread (some (.handing next)) (by simp [free])
      obtain waits | held := moved
      · obtain rfl : next = frame := Option.some.inj (pending.symm.trans waits)
        exact .inl ⟨thread, by simp⟩
      · exact held

theorem Covered.step (covered : client.Covered) {ev : Event Frame}
    (careful : client.Careful ev) : (client.step diagnostic ev).Covered := by
  obtain ⟨owned, kept⟩ := covered
  cases ev with dsimp only [Client.step]
  | markReady => exact ⟨owned, kept⟩
  | markNotReady => exact ⟨nofun, nofun⟩
  | writeResponse thread frame =>
    split_ifs with free
    · unfold Client.writeResponse GattOperationGate.requestWrite
      split_ifs with _ _
      · exact ⟨owned, kept⟩
      · refine ⟨fun _ _ => .inr ⟨thread, frame, by simp⟩, fun frame mem => ?_⟩
        exact (kept _ mem).withThread _ _ (by simp_all)
      · exact ⟨owned, kept⟩
      · exact ⟨owned, kept⟩
      · rename_i vacant
        refine ⟨owned, List.forall_mem_cons.mpr ⟨.inl rfl, fun frame mem => ?_⟩⟩
        refine .inr ((kept _ mem).resolve_left fun waits => ?_)
        simp [waits] at vacant
    · exact ⟨owned, kept⟩
  | handOver thread accepted =>
    split
    · rename_i frame handing
      split_ifs with taken
      · refine ⟨fun _ _ => .inl (Nat.succ_pos _), fun other mem => ?_⟩
        by_cases own : other = frame
        · exact .inr (.inr (own ▸ List.mem_cons_self))
        · have moved := (kept _ mem).withThread thread none
            (by simpa [handing] using Ne.symm own)
          exact moved.imp_right (Or.imp_right (List.mem_cons_of_mem _))
      · obtain rfl : accepted = false := by simpa using taken
        refine ⟨fun _ unrefused => absurd (update_self ..) (unrefused thread), fun other mem => ?_⟩
        exact (kept _ mem).withThread _ _ (careful _ mem)
    · exact ⟨owned, kept⟩
  | finishRefused thread =>
    split
    · rename_i refused
      have freed := @covered_finish _ { client with threads := update _ _ _ }
        thread .write (update_self ..) (.inl rfl)
        fun frame mem => (kept _ mem).withThread _ _ (by simp [refused])
      simpa [finish] using freed
    · exact ⟨owned, kept⟩
  | onCharacteristicWrite thread =>
    split_ifs with fires
    · exact covered_finish (Option.isNone_iff_eq_none.mp fires.2) (.inl rfl) kept
    · exact ⟨owned, kept⟩
  | onReadRemoteRssi thread =>
    split_ifs with fires
    · exact covered_finish (Option.isNone_iff_eq_none.mp fires.2) (.inr owned) kept
    · exact ⟨owned, kept⟩
  | beginRssi =>
    split_ifs
    · unfold GattOperationGate.tryBeginRssi
      split_ifs
      · exact ⟨nofun, kept⟩
      · exact ⟨owned, kept⟩
    · exact ⟨owned, kept⟩
  | requestRssi accepted => split_ifs <;> exact ⟨owned, kept⟩
  | abandonRssi =>
    split_ifs with refused
    · unfold GattOperationGate.finishRssi GattOperationGate.finish
      split_ifs with reading
      · exact ⟨owned, kept⟩
      · have careful := careful refused (not_not.mp reading)
        dsimp only
        rw [careful]
        refine ⟨nofun, fun frame mem => .inr ((kept _ mem).resolve_left fun waits => ?_)⟩
        exact nomatch careful.symm.trans waits
    · exact ⟨owned, kept⟩

/--
While the timer finds no frame queued when it gives up, and the stack refuses
no queued frame, a write that the gate waits for has been handed to the stack
or is handed over next, and no queued frame is lost.
-/
theorem writes_covered {events : List (Event Frame)}
    (careful : Along (step diagnostic) Careful idle events) :
    Throughout (step diagnostic) Covered idle events :=
  throughout_of_along (fun _ _ careful covered => covered.step careful) ⟨nofun, nofun⟩ careful

/-- A frame that was queued behind a reading is handed over when it ends. -/
def queuedRun : List (Event Nat) :=
  [.markReady, .beginRssi, .requestRssi true, .writeResponse 0 7, .onReadRemoteRssi 1,
    .handOver 1 true]

theorem queuedRun_covered :
    Throughout (step fun _ => false) Covered idle queuedRun ∧
      7 ∈ (run (step fun _ => false) idle queuedRun).accepted :=
  ⟨writes_covered (by simp [queuedRun, Along, Careful]), by decide⟩

/-- The stack refuses the reading when the frame is queued already. -/
theorem refused_reading_drops_frame :
    let client := run (step fun _ => false) idle
      [.markReady, .beginRssi, .writeResponse 0 7, .requestRssi false, .abandonRssi]
    client.promised = [7] ∧ client.gate.ready = true ∧ ¬ client.Kept 7 ∧
      client.gate.current = some .write ∧ client.writes = 0 ∧
        ∀ thread, client.threads thread = none := by
  refine ⟨rfl, rfl, ?_, rfl, rfl, fun _ => rfl⟩
  rintro (waits | ⟨_, held⟩ | done)
  · cases waits
  · cases held
  · cases done

end Client

end DeskUnlock.Unlock.GattGate
