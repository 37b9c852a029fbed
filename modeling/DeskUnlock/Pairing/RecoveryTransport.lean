import DeskUnlock.Pairing.PhoneRecovery
import DeskUnlock.Pairing.Register

/-!
# The connection of a recovery

`AndroidPairGattExchange` of `pair/impl/RealPairBackendWiring.kt`: a write or
a read of the transaction blocks on a latch that the callback of the
connection counts down.  `exchangePubkeys` installs a callback that does so.
The one of `reconnectStatus` overrides neither `onCharacteristicWrite` nor
`onCharacteristicRead`, so that a recovery never gets the answer.
-/

namespace DeskUnlock.Pairing.Phone

def GATT_SUCCESS : Int := 0

def GATT_FAILURE : Int := 257

/-- Which completions a `BluetoothGattCallback` handles; its own methods do nothing. -/
structure GattCallback where
  onCharacteristicWrite : Bool
  onCharacteristicRead : Bool

/-- The callback that `exchangePubkeys` passes to `connectGatt`. -/
def exchangeCallback : GattCallback := ⟨true, true⟩

/-- The callback that `reconnectStatus` passes to `connectGatt`. -/
def recoveryCallback : GattCallback := ⟨false, false⟩

/-- The connection with its callback, and each latch with whether it was counted down. -/
structure GattExchange where
  activeGatt : Option GattCallback
  controlCharacteristic : Bool
  statusCharacteristic : Bool
  statusValue : Option Bytes
  statusReadLatch : Option Bool
  controlWriteLatch : Option Bool
  controlWriteStatus : Int

/-- What becomes of a request to the stack before the timeout. -/
inductive Completion (Value : Type) where
  | refused
  | silent
  | completed (status : Int) (value : Value)

/-- The peer's characteristics. -/
structure GattPeer where
  write : Bytes → Completion Unit
  read : Completion (Option Bytes)

/-- What `connectGatt` and the discovery of the services come to. -/
inductive Reconnection where
  | unavailable
  | timedOut
  | discovered (control status : Bool)

namespace GattExchange

variable (callback : GattCallback) (peer : GattPeer) (exchange : GattExchange)

/-- The stack calls `onCharacteristicWrite`. -/
def characteristicWritten (status : Int) : GattExchange :=
  if callback.onCharacteristicWrite then
    { exchange with
      controlWriteStatus := status
      controlWriteLatch := exchange.controlWriteLatch.map fun _ => true }
  else exchange

/-- The stack calls `onCharacteristicRead`. -/
def characteristicRead (status : Int) (value : Option Bytes) : GattExchange :=
  if callback.onCharacteristicRead then
    { exchange with
      statusValue := if status = GATT_SUCCESS then value else exchange.statusValue
      statusReadLatch := exchange.statusReadLatch.map fun _ => true }
  else exchange

/-- Write, and wait for the latch. -/
def writeTransactionMessage (message : Bytes) : GattExchange × Bool :=
  match exchange.activeGatt with
  | none => (exchange, false)
  | some callback =>
    if !exchange.controlCharacteristic || message.length ≠ 18 && message.length ≠ 27 then
      (exchange, false)
    else
      let exchange := { exchange with controlWriteLatch := some false }
      let (started, exchange) :=
        match peer.write message with
        | .refused => (false, exchange)
        | .silent => (true, exchange)
        | .completed status () => (true, exchange.characteristicWritten callback status)
      let unlatched := { exchange with controlWriteLatch := none }
      if !started || exchange.controlWriteLatch ≠ some true then (unlatched, false)
      else (unlatched, exchange.controlWriteStatus = GATT_SUCCESS)

/-- Read, and wait for the latch. -/
def readTransactionMessage : GattExchange × Option Bytes :=
  match exchange.activeGatt with
  | none => (exchange, none)
  | some callback =>
    if !exchange.statusCharacteristic then (exchange, none)
    else
      let exchange := { exchange with statusValue := none, statusReadLatch := some false }
      match peer.read with
      | .refused => (exchange, none)
      | .silent => (exchange, none)
      | .completed status value =>
        let exchange := exchange.characteristicRead callback status value
        (exchange, if exchange.statusReadLatch = some true then exchange.statusValue else none)

/-- The answer is read once the query is known to be written. -/
def queryTransactionStatus (query : Bytes) : GattExchange × Option Bytes :=
  match exchange.writeTransactionMessage peer query with
  | (exchange, false) => (exchange, none)
  | (exchange, true) => exchange.readTransactionMessage peer

/-- Without a connection there is nothing to close. -/
def closeSession : GattExchange :=
  match exchange.activeGatt with
  | none => exchange
  | some _ =>
    { exchange with
      activeGatt := none, controlCharacteristic := false, statusCharacteristic := false }

/-- Connect anew, with the callback of the recovery. -/
def reconnectStatus : Reconnection → GattExchange × Bool
  | .discovered true true =>
    ({ exchange.closeSession with
        activeGatt := some recoveryCallback
        controlCharacteristic := true, statusCharacteristic := true }, true)
  | _ => (exchange.closeSession, false)

variable {peer exchange} {query : Bytes}

/-- The connection of `exchangePubkeys` would bring the answer. -/
theorem queryTransactionStatus_exchanged {answer : Bytes}
    (active : exchange.activeGatt = some exchangeCallback)
    (control : exchange.controlCharacteristic = true)
    (status : exchange.statusCharacteristic = true) (sized : query.length = STATUS_MESSAGE_LEN)
    (written : peer.write query = .completed GATT_SUCCESS ())
    (read : peer.read = .completed GATT_SUCCESS (some answer)) :
    (exchange.queryTransactionStatus peer query).2 = some answer := by
  simp [queryTransactionStatus, writeTransactionMessage, readTransactionMessage,
    characteristicWritten, characteristicRead, exchangeCallback, active, control, status, written,
    read, sized, STATUS_MESSAGE_LEN]

/-- The completion of the write is never seen, whatever the peer does. -/
theorem reconnectStatus_write_refused {reconnection : Reconnection}
    (connected : (exchange.reconnectStatus reconnection).2 = true) :
    ((exchange.reconnectStatus reconnection).1.writeTransactionMessage peer query).2 = false := by
  rcases reconnection with _ | _ | ⟨_ | _, _ | _⟩ <;> try cases connected
  unfold reconnectStatus writeTransactionMessage
  cases peer.write query with
  | refused | silent | completed status _ =>
    dsimp only
    split
    · rfl
    · rfl

theorem reconnectStatus_unanswered {reconnection : Reconnection}
    (connected : (exchange.reconnectStatus reconnection).2 = true) :
    ((exchange.reconnectStatus reconnection).1.queryTransactionStatus peer query).2 = none := by
  have refused := @reconnectStatus_write_refused peer _ query _ connected
  unfold queryTransactionStatus
  split
  · rfl
  · rename_i written
    rw [written] at refused
    cases refused

end GattExchange

section

variable (peer : GattPeer) (exchange : GattExchange) (reconnection : Reconnection)
  (back : Backend) (nonce : Int64)

/-- `recoverTransaction` over the connection of `reconnectStatus`. -/
def Backend.recoverOver : Backend × Except RecoveryFailure Bool :=
  let (exchange, reconnected) := exchange.reconnectStatus reconnection
  let query := back.transactionId.bind fun id => (pairTransactionStatusQuery id nonce).toOption
  back.recoverTransaction
    { nonce, reconnected
      response := query.bind fun query => (exchange.queryTransactionStatus peer query).2 }

/-- The phone has a transaction to ask for, and the connection for it stands. -/
structure Backend.Asks (query : Bytes) : Prop where
  stored : back.transactionState ≠ none
  asked : ∃ id, back.transactionId = some id ∧ pairTransactionStatusQuery id nonce = .ok query
  address : back.pickedAddress ≠ none
  connected : (exchange.reconnectStatus reconnection).2 = true

variable {peer exchange reconnection back nonce} {query : Bytes}

/--
For no desktop does a recovery get an answer: the query returns nothing, and
the recovery fails for want of a status and leaves the transaction as it was.
-/
theorem recoverOver_unanswered (asks : back.Asks exchange reconnection nonce query) :
    ((exchange.reconnectStatus reconnection).1.queryTransactionStatus peer query).2 = none ∧
    back.recoverOver peer exchange reconnection nonce =
      (back, .error (.illegalState "authenticated status unavailable".toList none)) := by
  have queried := @GattExchange.reconnectStatus_unanswered peer _ query _ asks.connected
  refine ⟨queried, ?_⟩
  obtain ⟨state, stored⟩ := Option.ne_none_iff_exists'.mp asks.stored
  obtain ⟨addr, address⟩ := Option.ne_none_iff_exists'.mp asks.address
  obtain ⟨id, known, asked⟩ := asks.asked
  have unanswered : back.queryStatus ⟨nonce, true, none⟩ =
      .error (.illegalState "authenticated status unavailable".toList none) := by
    unfold Backend.queryStatus
    rw [stored, known, address]
    change (pairTransactionStatusQuery id nonce).mapError _ >>= _ = _
    rw [asked]
    rfl
  simp only [Backend.recoverOver, known, asked, Option.bind_some, Except.toOption, queried,
    asks.connected]
  rw [Backend.recoverTransaction, unanswered]

end

/-- A desktop that takes every query and answers with this state. -/
def answeringPeer (state : StatusState) : GattPeer where
  write _ := .completed GATT_SUCCESS ()
  read :=
    .completed GATT_SUCCESS
      (some (StatusMessage.response pendingTransaction.id 1 state).encode)

/-- A phone that has to ask for its transaction. -/
def askingBackend : Backend := .init ⟨some pendingTransaction.serialize, some "AA:BB".toList⟩

def closedExchange : GattExchange := ⟨none, false, false, none, none, none, GATT_FAILURE⟩

theorem askingBackend_asks :
    askingBackend.Asks closedExchange (.discovered true true) 1
      (StatusMessage.query pendingTransaction.id 1).encode where
  stored := by decide
  asked := ⟨pendingTransaction.id.toList, by decide, by decide⟩
  address := by decide
  connected := rfl

theorem committedAnswer_unheard :
    (askingBackend.recoverOver (answeringPeer .committed) closedExchange
      (.discovered true true) 1).2 =
        .error (.illegalState "authenticated status unavailable".toList none) :=
  congrArg Prod.snd (recoverOver_unanswered askingBackend_asks).2

/-- The bond that the desktop reports would have ended the recovery. -/
theorem bondedAnswer_unheard :
    askingBackend.Asks closedExchange (.discovered true true) 1
        (StatusMessage.query pendingTransaction.id 1).encode ∧
      (askingBackend.recoverTransaction
        ⟨1, true, some (StatusMessage.response pendingTransaction.id 1 .bonded).encode⟩).2 =
          .ok true ∧
      (askingBackend.recoverOver (answeringPeer .bonded) closedExchange
        (.discovered true true) 1).2 =
          .error (.illegalState "authenticated status unavailable".toList none) :=
  ⟨askingBackend_asks, by decide, by decide⟩

end DeskUnlock.Pairing.Phone
