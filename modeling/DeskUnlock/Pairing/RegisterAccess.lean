import Mathlib.Tactic.Common
import DeskUnlock.Foundation.Runs
import DeskUnlock.Pairing.PairService

/-!
# The status register, one access at a time

The methods of `PairServiceState` take a lock or touch the flag several times,
and three parties call them at once: the engine, the reader of `v2-control`
and the status reads of the peers.  Here every lock and every access of the
flag is a step of its own, and the parties interleave at will.

A message that the engine has placed is owed to the peer until a read that
began after the placement has returned it whole.  The engine waits for the
flag before it places the next message.  The flag, however, does not say that
a message was returned: a read lowers it before it fetches anything and
whatever part it asks for, and an answer to a status query replaces the
message without looking at the flag.
-/

namespace DeskUnlock.Pairing

open Runs List

/-- The two operations that the engine publishes without waiting. -/
inductive Refusal where
  | reject
  | error
deriving DecidableEq

def Refusal.operation : Refusal → Operation
  | .reject => .reject
  | .error => .error

/-- What the engine does next to the shared state. -/
inductive EngineTask where
  /-- No attempt is under way. -/
  | idle
  /-- In an attempt, between two calls. -/
  | free
  /-- `begin_session`, before each of its four accesses. -/
  | clearStatus
  | clearUnread
  | clearInbox
  | clearSession
  /-- In the loop of `publish_paced`. -/
  | pace (msg : Message)
  /-- `publish_paced` has left its loop. -/
  | place (msg : Message)
  /-- `publish` of a refusal. -/
  | refuse (msg : Message)
  /-- `publish`, before it raises the flag. -/
  | mark
deriving DecidableEq

def EngineTask.exclusive : EngineTask → Bool
  | .idle | .clearStatus | .clearUnread | .clearInbox | .clearSession
  | .place _ => true
  | _ => false

def EngineTask.paces : EngineTask → Bool
  | .pace _ => true
  | _ => false

/-- What the reader of `v2-control` does next to the shared state. -/
inductive ReaderTask where
  | free
  | answer (resp : StatusMessage)
  | mark
deriving DecidableEq

def ReaderTask.answers : ReaderTask → Bool
  | .answer _ => true
  | _ => false

/-- A message of `publish_paced`, with the number of its placement. -/
structure Placement where
  serial : Nat
  bytes : Bytes
deriving DecidableEq

/-- A status read that has lowered the flag and fetched nothing yet. -/
structure StatusRead where
  offset : Nat
  /-- The placements that were made before the read began. -/
  since : Nat
deriving DecidableEq

/-- The shared state, where each party is, and the messages still owed. -/
structure SharedRegister where
  service : PairServiceState
  engine : EngineTask
  reader : ReaderTask
  reads : List StatusRead
  placements : Nat
  owed : List Placement

namespace SharedRegister

def new (hostPubkey : Pubkey) (hostName : Bytes) : SharedRegister where
  service := .new hostPubkey hostName
  engine := .idle
  reader := .free
  reads := []
  placements := 0
  owed := []

inductive AccessEvent where
  /-- `run_pair_attempt` calls `begin_session`. -/
  | opened
  /-- `drive_pair_transaction` calls `publish_paced`. -/
  | paced (msg : Message)
  /-- `drive_pair_transaction` publishes a refusal. -/
  | refused (id : TransactionId) (refusal : Refusal)
  | remembered (id : TransactionId) (status : StatusState)
  | took (id : TransactionId)
  /-- `drive_pair_transaction` returns. -/
  | ended
  /-- The engine makes its next access; `late` says the deadline passed. -/
  | engine (late : Bool)
  /-- The reader calls `accept_control`, up to its first lock. -/
  | frame (bytes : Bytes)
  /-- The reader makes its next access. -/
  | reader
  /-- A status read lowers the flag. -/
  | readBegun (offset : Nat)
  /-- A status read fetches its part of the register and returns it. -/
  | readFetched (read : StatusRead)

section

variable (reg : SharedRegister)

def call (task : EngineTask) : SharedRegister :=
  if reg.engine = .free then { reg with engine := task } else reg

def engineAccess (late : Bool) : SharedRegister :=
  match reg.engine with
  | .idle | .free => reg
  | .clearStatus =>
    { reg with service := { reg.service with status := [] }, engine := .clearUnread }
  | .clearUnread =>
    { reg with service := { reg.service with unread := false }, engine := .clearInbox }
  | .clearInbox =>
    { reg with service := { reg.service with inbox := [] }, engine := .clearSession }
  | .clearSession =>
    { reg with service := { reg.service with session := none }, engine := .free }
  | .pace msg =>
    if reg.service.unread then
      if late then { reg with engine := .place msg, owed := [] } else reg
    else { reg with engine := .place msg }
  | .place msg =>
    { reg with
      service := { reg.service with status := msg.encode }, engine := .mark
      placements := reg.placements + 1
      owed := reg.owed ++ [⟨reg.placements, msg.encode⟩] }
  | .refuse msg =>
    { reg with
      service := { reg.service with status := msg.encode }, engine := .mark, owed := [] }
  | .mark => { reg with service := { reg.service with unread := true }, engine := .free }

/-- `accept_control` up to its first lock, of the session or the inbox. -/
def acceptControl (bytes : Bytes) : SharedRegister :=
  match StatusMessage.decode bytes with
  | .ok query =>
    if query.state.isNone then
      match reg.service.session with
      | some (id, status) =>
        if id = query.transaction then
          { reg with reader := .answer (.response id query.nonce status) }
        else reg
      | none => reg
    else reg
  | .error _ =>
    { reg with
      service := { reg.service with inbox := reg.service.inbox ++ [bytes] } }

/-- One access of the reader, in `publish_status`. -/
def readerAccess : SharedRegister :=
  match reg.reader with
  | .free => reg
  | .answer resp =>
    { reg with service := { reg.service with status := resp.encode }, reader := .mark }
  | .mark => { reg with service := { reg.service with unread := true }, reader := .free }

def fetched (read : StatusRead) : Bytes := reg.service.status.drop read.offset

def returns (read : StatusRead) (placement : Placement) : Bool :=
  placement.serial < read.since ∧ reg.fetched read = placement.bytes

end

/-- One access of one party. -/
def step (reg : SharedRegister) : AccessEvent → SharedRegister
  | .opened =>
    if reg.engine = .idle then { reg with engine := .clearStatus } else reg
  | .paced msg => reg.call (.pace msg)
  | .refused id refusal => reg.call (.refuse ⟨id, refusal.operation⟩)
  | .remembered id status =>
    if reg.engine = .free then
      { reg with service := reg.service.rememberSession id status }
    else reg
  | .took id =>
    if reg.engine = .free then { reg with service := (reg.service.takeMessage id).2 }
    else reg
  | .ended =>
    if reg.engine = .free then { reg with engine := .idle, owed := [] } else reg
  | .engine late => reg.engineAccess late
  | .frame bytes => if reg.reader = .free then reg.acceptControl bytes else reg
  | .reader => reg.readerAccess
  | .readBegun offset =>
    { reg with
      service := { reg.service with unread := false }
      reads := ⟨offset, reg.placements⟩ :: reg.reads }
  | .readFetched read =>
    if read ∈ reg.reads then
      { reg with
        reads := reg.reads.erase read
        owed := reg.owed.filter fun placement => !reg.returns read placement }
    else reg

section Methods

variable {reg : SharedRegister}

theorem begin_session_uninterrupted (idle : reg.engine = .idle) :
    run step reg
        [.opened, .engine false, .engine false, .engine false, .engine false] =
      { reg with service := reg.service.beginSession, engine := .free } := by
  simp [step, idle, engineAccess, PairServiceState.beginSession]

theorem publish_paced_uninterrupted (free : reg.engine = .free)
    (consumed : reg.service.unread = false) (msg : Message) :
    (run step reg
        [.paced msg, .engine false, .engine false, .engine false]).service =
      reg.service.publish msg := by
  simp [step, call, free, engineAccess, consumed, PairServiceState.publish]

theorem publish_uninterrupted (free : reg.engine = .free)
    (id : TransactionId) (refusal : Refusal) :
    (run step reg
        [.refused id refusal, .engine false, .engine false]).service =
      reg.service.publish ⟨id, refusal.operation⟩ := by
  simp [step, call, free, engineAccess, PairServiceState.publish]

theorem accept_control_uninterrupted (free : reg.reader = .free) (bytes : Bytes) :
    (run step reg [.frame bytes, .reader, .reader]).service =
      reg.service.acceptControl bytes := by
  cases decoded : StatusMessage.decode bytes with
  | error error =>
    simp [step, free, acceptControl, PairServiceState.acceptControl, decoded, readerAccess]
  | ok query =>
    cases asked : query.state with
    | some state =>
      simp [step, free, acceptControl, PairServiceState.acceptControl, decoded, asked, readerAccess]
    | none =>
      cases known : reg.service.session with
      | none =>
        simp [step, free, acceptControl, PairServiceState.acceptControl, decoded, known,
          readerAccess]
      | some snapshot =>
        by_cases own : snapshot.1 = query.transaction <;>
          simp [step, free, acceptControl, PairServiceState.acceptControl, decoded, asked, known,
            own, readerAccess, PairServiceState.publishStatus]

theorem status_snapshot_uninterrupted (offset : Nat) :
    (reg.step (.readBegun offset)).fetched
          ⟨offset, reg.placements⟩ =
        (reg.service.statusSnapshot offset).1 ∧
      (run step reg
          [.readBegun offset, .readFetched ⟨offset, reg.placements⟩]).service =
        (reg.service.statusSnapshot offset).2 := by
  simp [step, fetched, PairServiceState.statusSnapshot]

end Methods

/-- Every message that is still owed is what the register holds. -/
def Keeps (reg : SharedRegister) : Prop :=
  ∀ placement ∈ reg.owed, reg.service.status = placement.bytes

/--
The reads of owed messages are whole and not interrupted by a poll of the
engine, and no status query is answered while a message is owed.
-/
def Careful (reg : SharedRegister) : AccessEvent → Prop
  | .engine _ =>
    reg.engine.paces = true →
      ∀ placement ∈ reg.owed, ∀ read ∈ reg.reads, read.since ≤ placement.serial
  | .reader => reg.reader.answers = true → reg.owed = []
  | .readBegun offset => reg.owed = [] ∨ offset = 0
  | _ => True

/--
An owed message is in the register.  Unless the engine is about to raise the
flag, it is raised, or a whole read of the message is under way.
-/
structure Sound (reg : SharedRegister) : Prop where
  kept : reg.Keeps
  numbered : ∀ placement ∈ reg.owed, placement.serial < reg.placements
  clear : reg.engine.exclusive = true → reg.owed = []
  marked :
    reg.engine ≠ .mark → ∀ placement ∈ reg.owed,
      reg.service.unread = true ∨
        ∃ read ∈ reg.reads, read.offset = 0 ∧ placement.serial < read.since

instance decidableCareful (reg : SharedRegister) :
    (ev : AccessEvent) → Decidable (reg.Careful ev)
  | .engine _ =>
    @instDecidableForall _ _ (instDecidableEqBool _ _)
      (@List.decidableBAll _ _ (fun _ => List.decidableBAll _ _) _)
  | .reader =>
    @instDecidableForall _ _ (instDecidableEqBool _ _) (instDecidableEqList reg.owed [])
  | .readBegun offset =>
    @instDecidableOr _ _ (instDecidableEqList reg.owed []) (instDecidableEqNat offset 0)
  | .opened | .paced _ | .refused _ _ | .remembered _ _ | .took _ | .ended
  | .frame _ | .readFetched _ => .isTrue trivial

section Steps

variable {reg : SharedRegister}

/-- While nothing is owed, nothing can be lost. -/
theorem sound_of_clear (clear : reg.owed = []) : reg.Sound := by
  refine ⟨?_, ?_, fun _ => clear, ?_⟩
  · intro placement mem
    simp [clear] at mem
  · intro placement mem
    simp [clear] at mem
  · intro _ placement mem
    simp [clear] at mem

section

variable (sound : reg.Sound)
include sound

theorem Sound.congr {after : SharedRegister}
    (status : after.service.status = reg.service.status)
    (unread : after.service.unread = reg.service.unread)
    (eng : after.engine = reg.engine) (reads : after.reads = reg.reads)
    (placements : after.placements = reg.placements)
    (owed : after.owed = reg.owed) : after.Sound := by
  refine ⟨?_, ?_, ?_, ?_⟩
  · unfold Keeps
    rw [owed, status]
    exact sound.kept
  · rw [owed, placements]
    exact sound.numbered
  · rw [eng, owed]
    exact sound.clear
  · rw [eng, owed, unread, reads]
    exact sound.marked

theorem Sound.call {task : EngineTask} (shared : task.exclusive = false) :
    (reg.call task).Sound := by
  unfold SharedRegister.call
  split
  · next free =>
      refine ⟨sound.kept, sound.numbered, ?_, ?_⟩
      · intro exclusive
        exact absurd (exclusive.symm.trans shared) (by decide)
      · intro _
        exact sound.marked (by rw [free]; nofun)
  · exact sound

/-- A flag found lowered means that nothing is owed any more. -/
theorem Sound.consumed {msg : Message} (pacing : reg.engine = .pace msg)
    (lowered : reg.service.unread = false)
    (whole : ∀ placement ∈ reg.owed, ∀ read ∈ reg.reads,
      read.since ≤ placement.serial) : reg.owed = [] := by
  apply eq_nil_iff_forall_not_mem.mpr
  intro placement mem
  have marked := sound.marked (by rw [pacing]; nofun) _ mem
  obtain raised | ⟨read, underWay, -, began⟩ := marked
  · rw [lowered] at raised
    cases raised
  · have before := whole _ mem _ underWay
    omega

theorem Sound.engineAccess (late : Bool) (careful : reg.Careful (.engine late)) :
    (reg.engineAccess late).Sound := by
  unfold SharedRegister.engineAccess
  cases eng : reg.engine with
  | idle | free => exact sound
  | clearStatus | clearUnread | clearInbox | clearSession =>
    exact sound_of_clear (sound.clear (by rw [eng]; rfl))
  | pace msg =>
    have whole := careful (by rw [eng]; rfl)
    dsimp only
    split
    · split
      · exact sound_of_clear rfl
      · exact sound
    · next lowered =>
        apply sound_of_clear
        exact sound.consumed eng (by simpa using lowered) whole
  | place msg =>
    have clear : reg.owed = [] := sound.clear (by rw [eng]; rfl)
    refine ⟨?_, ?_, nofun, fun marking => (marking rfl).elim⟩
    · intro placement mem
      obtain rfl : placement = ⟨_, _⟩ := by simpa [clear] using mem
      rfl
    · intro placement mem
      obtain rfl : placement = ⟨_, _⟩ := by simpa [clear] using mem
      exact Nat.lt_succ_self _
  | refuse msg => exact sound_of_clear rfl
  | mark =>
    refine ⟨sound.kept, sound.numbered, nofun, ?_⟩
    intro _ placement _
    exact .inl rfl

theorem Sound.acceptControl (bytes : Bytes) : (reg.acceptControl bytes).Sound := by
  unfold SharedRegister.acceptControl
  split
  · split
    · split
      · split
        · exact sound.congr rfl rfl rfl rfl rfl rfl
        · exact sound
      · exact sound
    · exact sound
  · exact sound.congr rfl rfl rfl rfl rfl rfl

theorem Sound.readerAccess (careful : reg.Careful .reader) : reg.readerAccess.Sound := by
  unfold SharedRegister.readerAccess
  cases reader : reg.reader with
  | free => exact sound
  | answer resp => exact sound_of_clear (careful (by rw [reader]; rfl))
  | mark =>
    refine ⟨sound.kept, sound.numbered, sound.clear, ?_⟩
    intro _ placement _
    exact .inl rfl

/-- A whole read of an owed message has begun. -/
theorem Sound.readBegun (offset : Nat) (careful : reg.Careful (.readBegun offset)) :
    (reg.step (.readBegun offset)).Sound := by
  obtain clear | rfl := careful
  · exact sound_of_clear clear
  · refine ⟨sound.kept, sound.numbered, sound.clear, ?_⟩
    intro _ placement mem
    exact .inr ⟨_, mem_cons_self, rfl, sound.numbered _ mem⟩

/-- The whole read of an owed message returns it. -/
theorem Sound.readFetched (read : StatusRead) : (reg.step (.readFetched read)).Sound := by
  dsimp only [step]
  split
  · refine ⟨?_, ?_, ?_, ?_⟩
    · intro placement mem
      exact sound.kept _ (mem_filter.mp mem).1
    · intro placement mem
      exact sound.numbered _ (mem_filter.mp mem).1
    · intro exclusive
      rw [sound.clear exclusive, filter_nil]
    · intro shared placement mem
      obtain ⟨owing, missed⟩ := mem_filter.mp mem
      obtain raised | ⟨other, underWay, whole, began⟩ := sound.marked shared _ owing
      · exact .inl raised
      · refine .inr ⟨other, ?_, whole, began⟩
        apply (mem_erase_of_ne ?_).mpr underWay
        rintro rfl
        have returned := sound.kept _ owing
        simp [returns, fetched, whole, began, returned] at missed
  · exact sound

end

theorem takeMessage_register {svc : PairServiceState} {id : TransactionId} :
    (svc.takeMessage id).2.status = svc.status ∧
      (svc.takeMessage id).2.unread = svc.unread := by
  unfold PairServiceState.takeMessage
  split
  · exact ⟨rfl, rfl⟩
  · exact ⟨rfl, rfl⟩

theorem Sound.step (sound : reg.Sound) {ev : AccessEvent}
    (careful : reg.Careful ev) : (reg.step ev).Sound := by
  cases ev with
  | opened =>
    dsimp only [SharedRegister.step]
    split
    · next idle => exact sound_of_clear (sound.clear (by rw [idle]; rfl))
    · exact sound
  | paced msg | refused id refusal => exact sound.call rfl
  | remembered id status =>
    dsimp only [SharedRegister.step]
    split
    · exact sound.congr rfl rfl rfl rfl rfl rfl
    · exact sound
  | took id =>
    dsimp only [SharedRegister.step]
    split
    · obtain ⟨status, unread⟩ := takeMessage_register
      exact sound.congr status unread rfl rfl rfl rfl
    · exact sound
  | ended =>
    dsimp only [SharedRegister.step]
    split
    · exact sound_of_clear rfl
    · exact sound
  | engine late => exact sound.engineAccess _ careful
  | frame bytes =>
    dsimp only [SharedRegister.step]
    split
    · exact sound.acceptControl _
    · exact sound
  | reader => exact sound.readerAccess careful
  | readBegun offset => exact sound.readBegun _ careful
  | readFetched read => exact sound.readFetched _

end Steps

/--
In every interleaving whose accesses are careful, a message that was placed
stays in the register until a read that began after it has returned it whole.
-/
theorem keeps_of_careful (hostPubkey : Pubkey) (hostName : Bytes) (events : List AccessEvent)
    (careful : Along step Careful (new hostPubkey hostName) events) :
    Throughout step Keeps (new hostPubkey hostName) events := by
  have sound : Throughout step Sound (new hostPubkey hostName) events :=
    throughout_of_along (fun _ _ met sound => sound.step met) (sound_of_clear rfl) careful
  exact sound.imp fun _ sound => sound.kept

/-- An attempt up to its `CONFIRM`, whose `CAPABILITY` was read whole. -/
def confirming (id : TransactionId) : List AccessEvent :=
  [.opened, .engine false, .engine false, .engine false, .engine false,
    .paced ⟨id, .capability⟩, .engine false, .engine false, .engine false,
    .readBegun 0, .readFetched ⟨0, 1⟩, .frame (Message.encode ⟨id, .capability⟩), .took id,
    .remembered id .preCommit, .paced ⟨id, .confirm⟩, .engine false, .engine false, .engine false]

/-- A whole read returns the `CONFIRM` before the next message. -/
theorem confirm_kept :
    Along step Careful (new (.replicate 32 0) [])
        (confirming (.replicate 16 7) ++ [.readBegun 0, .readFetched ⟨0, 2⟩]) ∧
      Throughout step Keeps (new (.replicate 32 0) [])
        (confirming (.replicate 16 7) ++ [.readBegun 0, .readFetched ⟨0, 2⟩]) :=
  ⟨by decide +kernel, keeps_of_careful _ _ _ (by decide +kernel)⟩

/-- The answer to a status query replaces the `CONFIRM` that is owed. -/
theorem query_overwrites_confirm :
    ¬ (run step (new (.replicate 32 0) [])
        (confirming (.replicate 16 7) ++
          [.frame (StatusMessage.query (.replicate 16 7) 1).encode, .reader])).Keeps := by
  unfold Keeps
  decide +kernel

-- The same happens between the two accesses of a read: the flag is lowered,
-- the engine publishes PREPARED, and the read returns that.
example :
    ¬ (run step (new (.replicate 32 0) [])
        (confirming (.replicate 16 7) ++
          [.readBegun 0, .paced ⟨.replicate 16 7, .prepared⟩,
            .engine false, .engine false])).Keeps := by
  unfold Keeps
  decide +kernel

end SharedRegister

end DeskUnlock.Pairing
