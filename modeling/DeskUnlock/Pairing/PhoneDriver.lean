import DeskUnlock.Pairing.Snapshot

/-!
# The phone driver

`coordinateTransaction` of
`pair/impl/RealPairBackend.kt` in `syauth-android` and the helpers that it
calls.

The driver is a blocking function.  Everything it does to the world goes
through a read of the peer's register, a write to the peer's inbox or the
`persistCommitted` callback, so it is a tree of these three calls; its local
variables are arguments.  The stored copy of the snapshot, which only a later
recovery reads, is left out.
-/

namespace DeskUnlock.Pairing.Phone

open Texts

def TRANSACTION_MESSAGE_LEN : Nat := 18

def TRANSACTION_STATE_LEN : Nat := 27

def STATE_ID_OFFSET : Nat := 3

def STATE_ID_END : Nat := STATE_ID_OFFSET + 16

def TRANSACTION_VERSION : UInt8 := 2

def OP_CAPABILITY : UInt8 := 1

def OP_CONFIRM : UInt8 := 2

def OP_REJECT : UInt8 := 3

def OP_CANCEL : UInt8 := 4

def OP_TIMEOUT : UInt8 := 5

def OP_PREPARED : UInt8 := 6

def OP_COMMIT : UInt8 := 7

def OP_COMMIT_ACK : UInt8 := 8

def OP_COMMITTED : UInt8 := 9

def OP_ERROR : UInt8 := 11

def ROLE_PARTICIPANT : UInt8 := 1

def EVENT_CAPABILITY : UInt8 := 0

def EVENT_VERIFIED_EXCHANGE : UInt8 := 1

def EVENT_CONFIRM : UInt8 := 2

def EVENT_PREPARED : UInt8 := 3

def EVENT_COMMIT_ACK : UInt8 := 5

def EVENT_COMMITTED : UInt8 := 6

def MACHINE_WAIT_STEPS : Nat := 600

def OOB_WAIT_STEPS : Nat := 3600

def PEER_REJECTED_REASON : Text := "peer rejected the pairing transaction".toList

/-- The phone's driver, one call after the other. -/
inductive PhoneProgram (Value : Type) where
  | done (value : Value)
  /-- `readTransactionMessage`; a failed read gives nothing. -/
  | read (next : Option Bytes → PhoneProgram Value)
  /-- `writeTransactionMessage`, with the reported success. -/
  | write (bytes : Bytes) (next : Bool → PhoneProgram Value)
  /-- The `persistCommitted` callback. -/
  | persist (next : Bool → PhoneProgram Value)

namespace PhoneProgram

def bind {Value Result : Type} :
    PhoneProgram Value → (Value → PhoneProgram Result) → PhoneProgram Result
  | .done value, rest => rest value
  | .read next, rest => .read fun reply => (next reply).bind rest
  | .write bytes next, rest => .write bytes fun reply => (next reply).bind rest
  | .persist next, rest => .persist fun reply => (next reply).bind rest

instance : Monad PhoneProgram where
  pure := .done
  bind := bind

def result? {Value : Type} : PhoneProgram Value → Option Value
  | .done value => some value
  | _ => none

theorem eq_done_of_result? {Value : Type} {prog : PhoneProgram Value}
    {value : Value} (returned : prog.result? = some value) : prog = .done value := by
  cases prog with
  | done other => rw [Option.some.inj returned]
  | read next | write bytes next | persist next => cases returned

end PhoneProgram

abbrev PhoneM := ExceptT Text PhoneProgram

def readTransactionMessage : PhoneM (Option Bytes) :=
  PhoneProgram.read fun reply => .done (.ok reply)

def writeTransactionMessage (bytes : Bytes) : PhoneM Bool :=
  PhoneProgram.write bytes fun reply => .done (.ok reply)

def persistCommitted : PhoneM Bool := PhoneProgram.persist fun reply => .done (.ok reply)

def message (id : TransactionId) (operation : UInt8) : Bytes :=
  TRANSACTION_VERSION :: id.toList ++ [operation]

def operation (id : TransactionId) : Option Bytes → Option UInt8
  | none => none
  | some bytes =>
    if bytes.length ≠ TRANSACTION_MESSAGE_LEN ∨
        bytes.getD 0 0 ≠ TRANSACTION_VERSION ∨ (bytes.drop 1).take 16 ≠ id.toList then
      none
    else if OP_CAPABILITY ≤ bytes.getD 17 0 ∧
        bytes.getD 17 0 ≤ OP_ERROR then
      some (bytes.getD 17 0)
    else none

/--
Poll the register until it shows the expected operation; the second component
is the last operation that the peer sent.
-/
def waitFor (id : TransactionId) (expected : UInt8) :
    Nat → Option UInt8 → PhoneM (Option Bytes × Option UInt8)
  | 0, lastPeerOperation => return (none, lastPeerOperation)
  | steps + 1, lastPeerOperation => do
      let bytes ← readTransactionMessage
      let seen := operation id bytes
      let lastPeerOperation := seen.or lastPeerOperation
      if seen = some expected then
        return (bytes, lastPeerOperation)
      else if seen = some OP_REJECT ∨ seen = some OP_CANCEL ∨
          seen = some OP_TIMEOUT ∨ seen = some OP_ERROR ∨ seen = none then
        return (none, lastPeerOperation)
      else waitFor id expected steps lastPeerOperation

def transactionStateBelongsToAttempt (state : Option Bytes) (id : TransactionId) : Bool :=
  match state with
  | none => false
  | some state =>
    state.length = TRANSACTION_STATE_LEN &&
      (state.take STATE_ID_END).drop STATE_ID_OFFSET = id.toList

def confirmationFailureReason (lastPeerOperation : Option UInt8) : Text :=
  if lastPeerOperation = some OP_REJECT then PEER_REJECTED_REASON
  else "remote confirmation failed".toList

def failure {Value : Type} (reason : Text) (commitSeen : Bool) : PhoneM Value :=
  throw (if commitSeen then "UNCERTAIN: ".toList ++ reason else reason)

def openTransaction (id : TransactionId) (stored : Option Bytes) : Except MobileError Bytes :=
  match stored with
  | some state => if transactionStateBelongsToAttempt (some state) id then .ok state else fresh
  | none => fresh
where
  fresh : Except MobileError Bytes := do
    let state ← pairTransactionCreate id.toList ROLE_PARTICIPANT
    let state ← pairTransactionApplyRemote state (message id OP_CAPABILITY)
    let state ← pairTransactionApplyLocal state EVENT_CAPABILITY
    pairTransactionApplyLocal state EVENT_VERIFIED_EXCHANGE

def orFail {Value : Type} (res : Except MobileError Value)
    (reason : Text) (commitSeen : Bool) : PhoneM Value :=
  match res with
  | .ok value => return value
  | .error _ => failure reason commitSeen

def ensure (call : PhoneM Bool) (reason : Text) (commitSeen : Bool) :
    PhoneM Unit := do
  if ← call then
    return ()
  else failure reason commitSeen

section

variable (id : TransactionId)

/-- `waitFor(expected).let { it != null && remote(it) }`. -/
def awaitRemote (state : Bytes) (expected : UInt8) (steps : Nat)
    (reason : Option UInt8 → Text) (commitSeen : Bool) : PhoneM Bytes := do
  let (bytes, lastPeerOperation) ← waitFor id expected steps none
  match bytes with
  | none => failure (reason lastPeerOperation) commitSeen
  | some bytes =>
    orFail (pairTransactionApplyRemote state bytes) (reason lastPeerOperation) commitSeen

/-- `!local(event) || !writeTransactionMessage(message(operation))`. -/
def announce (state : Bytes) (ev operation : UInt8) (reason : Text)
    (commitSeen : Bool) : PhoneM Bytes := do
  let state ← orFail (pairTransactionApplyLocal state ev) reason commitSeen
  ensure (writeTransactionMessage (message id operation)) reason commitSeen
  return state

def coordinateTransaction (pickedName : Text) (stored : Option Bytes) :
    PhoneM Text := do
  let state ← orFail (openTransaction id stored) "Rust pairing transaction unavailable".toList false
  let state ←
    orFail (pairTransactionApplyLocal state EVENT_CONFIRM)
      "local confirmation transition rejected".toList false
  ensure (writeTransactionMessage (message id OP_CONFIRM))
    "DeskUnlock confirmation rejected".toList false
  let state ← awaitRemote id state OP_CONFIRM OOB_WAIT_STEPS confirmationFailureReason false
  let state ← announce id state EVENT_PREPARED OP_PREPARED "local prepare failed".toList false
  let state ←
    awaitRemote id state OP_PREPARED MACHINE_WAIT_STEPS
      (fun _ => "remote prepare failed".toList) false
  let state ←
    awaitRemote id state OP_COMMIT MACHINE_WAIT_STEPS
      (fun _ => "remote commit unavailable".toList) false
  ensure persistCommitted "local commit persistence failed".toList true
  let state ←
    announce id state EVENT_COMMIT_ACK OP_COMMIT_ACK
      "commit acknowledgement unavailable".toList true
  let state ←
    awaitRemote id state OP_COMMITTED MACHINE_WAIT_STEPS
      (fun _ => "remote completion unavailable".toList) true
  let _ ←
    announce id state EVENT_COMMITTED OP_COMMITTED "completion acknowledgement failed".toList true
  return pickedName

/-- What has happened to the driver so far. -/
structure Progress where
  /-- `persistCommitted` has returned true. -/
  persisted : Bool
  /-- The register has shown the peer's `Committed`. -/
  completed : Bool
deriving DecidableEq

def Progress.afterRead (progress : Progress) (reply : Option Bytes) :
    Progress :=
  { progress with completed := progress.completed || reply = some (message id OP_COMMITTED) }

def Progress.afterPersist (progress : Progress) (reply : Bool) : Progress :=
  { progress with persisted := progress.persisted || reply }

/-- A message of the attempt; the acknowledgement only once persisted. -/
def Permitted (progress : Progress) (bytes : Bytes) : Prop :=
  ∃ operation : Operation,
    bytes = Message.encode ⟨id, operation⟩ ∧
      operation ≠ .revoke ∧ (operation = .commitAck → progress.persisted = true)

end

/-- Every write is permitted, and the program ends as `post` says. -/
def Safe {Value : Type} (id : TransactionId) (post : Progress → Value → Prop) :
    Progress → PhoneProgram Value → Prop
  | progress, .done value => post progress value
  | progress, .read next => ∀ reply, Safe id post (progress.afterRead id reply) (next reply)
  | progress, .write bytes next =>
    Permitted id progress bytes ∧ ∀ reply, Safe id post progress (next reply)
  | progress, .persist next => ∀ reply, Safe id post (progress.afterPersist reply) (next reply)

theorem Safe.imp {Value : Type} {id : TransactionId} {post weaker : Progress → Value → Prop}
    {progress : Progress} {prog : PhoneProgram Value} (safe : Safe id post progress prog)
    (implies : ∀ progress value, post progress value → weaker progress value) :
    Safe id weaker progress prog := by
  induction prog generalizing progress with
  | done value => exact implies _ _ safe
  | read next induction => exact fun reply => induction reply (safe _)
  | write bytes next induction => exact ⟨safe.1, fun reply => induction reply (safe.2 _)⟩
  | persist next induction => exact fun reply => induction reply (safe _)

theorem Safe.bind {Value Result : Type} {id : TransactionId} {post : Progress → Result → Prop}
    {progress : Progress} {prog : PhoneProgram Value} {rest : Value → PhoneProgram Result}
    (safe : Safe id (fun progress value => Safe id post progress (rest value)) progress prog) :
    Safe id post progress (prog.bind rest) := by
  induction prog generalizing progress with
  | done value => exact safe
  | read next induction => exact fun reply => induction reply (safe _)
  | write bytes next induction => exact ⟨safe.1, fun reply => induction reply (safe.2 _)⟩
  | persist next induction => exact fun reply => induction reply (safe _)

def SafeM {Value : Type} (id : TransactionId) (post : Progress → Value → Prop)
    (progress : Progress) (prog : PhoneM Value) : Prop :=
  Safe id (fun progress reply => ∀ value, reply = .ok value →
    post progress value) progress (ExceptT.run prog)

section Rules

variable {Value Result : Type} {id : TransactionId}
  {post : Progress → Result → Prop} {progress : Progress}

theorem safe_bind {first : PhoneM Value} {rest : Value → PhoneM Result}
    (safe : SafeM id (fun progress value => SafeM id post progress (rest value)) progress first) :
    SafeM id post progress (first >>= rest) := by
  apply Safe.bind
  apply Safe.imp safe
  intro progress reply next
  cases reply with
  | ok value => exact next value rfl
  | error reason => exact nofun

theorem safe_pure {value : Result} (ended : post progress value) :
    SafeM id post progress (pure value) := by
  rintro _ ⟨⟩
  exact ended

theorem safe_failure {reason : Text} {commitSeen : Bool} :
    SafeM id post progress (failure reason commitSeen) :=
  nofun

variable {commitSeen : Bool} {reason : Text}

theorem safe_orFail {res : Except MobileError Value} {rest : Value → PhoneM Result}
    (next : ∀ value, SafeM id post progress (rest value)) :
    SafeM id post progress (orFail res reason commitSeen >>= rest) := by
  apply safe_bind
  cases res with
  | ok value => exact safe_pure (next value)
  | error _ => exact safe_failure

theorem eq_message_of_operation {bytes : Bytes} {expected : UInt8}
    (seen : operation id (some bytes) = some expected) : bytes = message id expected := by
  unfold operation at seen
  dsimp only at seen
  split_ifs at seen with mismatch _
  simp only [not_or, not_not] at mismatch
  obtain ⟨sized, version, identified⟩ := mismatch
  rw [frame_eq sized, version, identified, Option.some.inj seen]
  rfl

theorem safe_waitFor {expected : UInt8} {steps : Nat} {lastPeerOperation : Option UInt8} :
    SafeM id
      (fun after found =>
        after.persisted = progress.persisted ∧
          (found.1.isSome → expected = OP_COMMITTED → after.completed = true))
      progress (waitFor id expected steps lastPeerOperation) := by
  induction steps generalizing progress lastPeerOperation with
  | zero => exact safe_pure ⟨rfl, nofun⟩
  | succ steps induction =>
    intro reply
    change SafeM id _ _ (if _ then _ else if _ then _ else _)
    split_ifs with expectedSeen unexpected
    · refine safe_pure ⟨rfl, ?_⟩
      rintro _ rfl
      cases reply with
      | none => cases expectedSeen
      | some bytes =>
        rw [eq_message_of_operation expectedSeen]
        simp [Progress.afterRead]
    · exact safe_pure ⟨rfl, nofun⟩
    · exact @induction (progress.afterRead _ _) _

theorem safe_awaitRemote {state : Bytes} {expected : UInt8} {steps : Nat}
    {reason : Option UInt8 → Text} {rest : Bytes → PhoneM Result}
    (next :
      ∀ after state, after.persisted = progress.persisted →
        (expected = OP_COMMITTED → after.completed = true) → SafeM id post after (rest state)) :
    SafeM id post progress (awaitRemote id state expected steps reason commitSeen >>= rest) := by
  apply safe_bind
  apply safe_bind
  apply Safe.imp safe_waitFor
  rintro after reply found ⟨bytes, lastPeerOperation⟩ rfl
  obtain ⟨same, completed⟩ := found _ rfl
  cases bytes with
  | none => exact safe_failure
  | some bytes =>
    cases applied : pairTransactionApplyRemote state bytes with
    | error _ =>
      simp only [applied]
      exact safe_failure
    | ok state =>
      simp only [applied]
      exact safe_pure (next after _ same (completed rfl))

theorem safe_write (operation : Operation) {rest : Unit → PhoneM Result}
    (proper : operation ≠ .revoke)
    (acknowledging : operation = .commitAck → progress.persisted = true)
    (next : SafeM id post progress (rest ())) :
    SafeM id post progress
      (ensure (writeTransactionMessage (message id operation.toByte))
        reason commitSeen >>= rest) := by
  apply safe_bind
  refine ⟨⟨operation, rfl, proper, acknowledging⟩, ?_⟩
  intro reply
  cases reply with
  | true => exact safe_pure next
  | false => exact safe_failure

theorem safe_persist {rest : Unit → PhoneM Result}
    (next : SafeM id post (progress.afterPersist true) (rest ())) :
    SafeM id post progress (ensure persistCommitted reason commitSeen >>= rest) := by
  apply safe_bind
  intro reply
  cases reply with
  | true => exact safe_pure next
  | false => exact safe_failure

theorem safe_announce (operation : Operation) {state : Bytes} {ev : UInt8}
    {rest : Bytes → PhoneM Result} (proper : operation ≠ .revoke)
    (acknowledging : operation = .commitAck → progress.persisted = true)
    (next : ∀ state, SafeM id post progress (rest state)) :
    SafeM id post progress (announce id state ev operation.toByte reason commitSeen >>= rest) := by
  apply safe_bind
  apply safe_orFail
  intro state
  exact safe_write _ proper acknowledging (safe_pure (next state))

end Rules

/--
The driver writes only messages of its attempt, acknowledges the commit only
after it has persisted it, and succeeds only after it has read `Committed`.
-/
theorem coordinateTransaction_safe {id : TransactionId} {pickedName : Text}
    {stored : Option Bytes} {progress : Progress} :
    SafeM id
      (fun after _ => after.persisted = true ∧ after.completed = true)
      progress (coordinateTransaction id pickedName stored) := by
  apply safe_orFail
  intro state
  apply safe_orFail
  intro state
  apply safe_write .confirm nofun nofun
  apply safe_awaitRemote
  intro confirmed state _ _
  apply safe_announce .prepared nofun nofun
  intro state
  apply safe_awaitRemote
  intro prepared state _ _
  apply safe_awaitRemote
  intro decided state _ _
  apply safe_persist
  apply safe_announce .commitAck nofun
  · exact fun _ => Bool.or_true _
  intro state
  apply safe_awaitRemote
  intro completed state kept shown
  apply safe_announce .committed nofun nofun
  intro _
  exact safe_pure ⟨kept.trans (Bool.or_true _), shown rfl⟩

end DeskUnlock.Pairing.Phone
