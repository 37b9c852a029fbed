import DeskUnlock.Foundation.BigEndian
import Mathlib.Data.Vector.Basic

/-!
# The versioned pairing transaction

`syauth-core/src/pair_transaction.rs`: the wire messages of the V2 pairing
protocol and the transition validator shared by the desktop (coordinator) and
the phone (participant).

A method on `&mut self` is a function that returns the transaction it leaves
behind together with its result, so a method that mutated its receiver before
failing would be visible as such.  The two-element flag arrays of the source
are indexed by `Side`: index `0` is the local side and index `1` the remote
side.
-/

namespace DeskUnlock.Pairing

open List

abbrev Bytes := List UInt8

abbrev TransactionId := List.Vector UInt8 16

abbrev Pubkey := List.Vector UInt8 32

def VERSION : UInt8 := 2

def MESSAGE_LEN : Nat := 18

def STATUS_MESSAGE_LEN : Nat := 27

def STATUS_QUERY_STATE : UInt8 := 0

/-- Messages carried inside the authenticated pairing connection. -/
inductive Operation where
  | capability
  | confirm
  | reject
  | cancel
  | timeout
  | prepared
  | commit
  | commitAck
  | committed
  | status
  | error
  | statusQuery
  | statusResponse
  | revoke
deriving DecidableEq

inductive TransactionError where
  | incompatible
  | wrongTransaction
  | invalidTransition
deriving DecidableEq

def Operation.toByte : Operation → UInt8
  | .capability => 1
  | .confirm => 2
  | .reject => 3
  | .cancel => 4
  | .timeout => 5
  | .prepared => 6
  | .commit => 7
  | .commitAck => 8
  | .committed => 9
  | .status => 10
  | .error => 11
  | .statusQuery => 12
  | .statusResponse => 13
  | .revoke => 14

def Operation.ofByte : UInt8 → Except TransactionError Operation
  | 1 => .ok .capability
  | 2 => .ok .confirm
  | 3 => .ok .reject
  | 4 => .ok .cancel
  | 5 => .ok .timeout
  | 6 => .ok .prepared
  | 7 => .ok .commit
  | 8 => .ok .commitAck
  | 9 => .ok .committed
  | 10 => .ok .status
  | 11 => .ok .error
  | 12 => .ok .statusQuery
  | 13 => .ok .statusResponse
  | 14 => .ok .revoke
  | _ => .error .incompatible

/-- An operation of one transaction. -/
structure Message where
  transaction : TransactionId
  operation : Operation
deriving DecidableEq

/-- Fixed size encoding, fitting the default ATT payload. -/
def Message.encode (msg : Message) : Bytes :=
  VERSION :: msg.transaction.toList ++ [msg.operation.toByte]

def transactionField (bytes : Bytes) (sized : 17 ≤ bytes.length) :
    TransactionId :=
  ⟨(bytes.drop 1).take 16, by
    rw [length_take, length_drop]
    omega⟩

/-- Strict decoding: reject legacy, truncated, extra and unknown input. -/
def Message.decode (bytes : Bytes) : Except TransactionError Message :=
  if sized : bytes.length = MESSAGE_LEN then
    if bytes.getD 0 0 ≠ VERSION then .error .incompatible
    else do
      let op ← Operation.ofByte (bytes.getD 17 0)
      return {
        transaction := transactionField bytes (by simp [sized, MESSAGE_LEN]), operation := op }
  else .error .incompatible

variable {bytes : Bytes}

theorem drop_eq_getD_cons {i : Nat} (inside : i < bytes.length) :
    bytes.drop i = bytes.getD i 0 :: bytes.drop (i + 1) := by
  simp [inside]

theorem header_eq (sized : 17 ≤ bytes.length) :
    bytes = bytes.getD 0 0 :: (bytes.drop 1).take 16 ++ bytes.drop 17 := by
  have first : bytes = bytes.getD 0 0 :: bytes.drop 1 :=
    @drop_eq_getD_cons _ 0 (Nat.zero_lt_of_lt sized)
  have field := take_append_drop 16 (bytes.drop 1)
  rw [drop_drop] at field
  rw [cons_append, field]
  exact first

theorem frame_eq (sized : bytes.length = MESSAGE_LEN) :
    bytes = bytes.getD 0 0 :: (bytes.drop 1).take 16 ++ [bytes.getD 17 0] := by
  have last : bytes.drop 18 = [] := drop_of_length_le (le_of_eq sized)
  have tag : bytes.drop 17 = [bytes.getD 17 0] := by
    rw [drop_eq_getD_cons (sized ▸ by decide), last]
  rw [← tag]
  exact header_eq (sized ▸ by decide)

theorem Operation.ofByte_toByte {op : Operation} : Operation.ofByte op.toByte = .ok op := by
  cases op <;> rfl

theorem Operation.toByte_of_ofByte {byte : UInt8} {op : Operation}
    (decoded : Operation.ofByte byte = .ok op) : byte = op.toByte := by
  unfold Operation.ofByte at decoded
  split at decoded <;> cases decoded <;> rfl

/-- Only the encoding of a message decodes to it. -/
theorem Message.decode_eq_ok_iff {msg : Message} :
    Message.decode bytes = .ok msg ↔ bytes = msg.encode := by
  constructor
  · intro decoded
    unfold Message.decode at decoded
    split_ifs at decoded with sized version
    cases read : Operation.ofByte (bytes.getD 17 0) with
    | error error =>
      rw [read] at decoded
      cases decoded
    | ok op =>
      simp only [read, bind, Except.bind, pure, Except.pure, Except.ok.injEq] at decoded
      have tag := Operation.toByte_of_ofByte read
      have head := not_not.mp version
      rw [frame_eq sized, head, tag, ← decoded]
      rfl
  · rintro rfl
    obtain ⟨⟨field, length⟩, op⟩ := msg
    have sized : (encode ⟨⟨field, length⟩, op⟩).length = MESSAGE_LEN := by
      simp [encode, length, MESSAGE_LEN]
    have tag : (encode ⟨⟨field, length⟩, op⟩).getD 17 0 = op.toByte := by simp [encode, length]
    have taken : ((encode ⟨⟨field, length⟩, op⟩).drop 1).take 16 = field := by simp [encode, length]
    unfold Message.decode
    rw [dif_pos sized, if_neg (by simp [encode]), tag, Operation.ofByte_toByte]
    simp only [bind, Except.bind, pure, Except.pure, transactionField, taken]

/-- Coarse, secret-free outcome exposed during authenticated recovery. -/
inductive StatusState where
  | preCommit
  | commitPending
  | committed
  | bonded
  | aborted
  | unknown
deriving DecidableEq

def StatusState.toByte : StatusState → UInt8
  | .preCommit => 1
  | .commitPending => 2
  | .committed => 3
  | .bonded => 4
  | .aborted => 5
  | .unknown => 6

def StatusState.decode : UInt8 → Except TransactionError StatusState
  | 1 => .ok .preCommit
  | 2 => .ok .commitPending
  | 3 => .ok .committed
  | 4 => .ok .bonded
  | 5 => .ok .aborted
  | 6 => .ok .unknown
  | _ => .error .incompatible

/-- Nonce-bound status query (`state = none`) or response. -/
structure StatusMessage where
  transaction : TransactionId
  nonce : UInt64
  state : Option StatusState
deriving DecidableEq

def StatusMessage.query (tx : TransactionId) (nonce : UInt64) : StatusMessage :=
  { transaction := tx, nonce, state := none }

def StatusMessage.response (tx : TransactionId) (nonce : UInt64)
    (state : StatusState) : StatusMessage :=
  { transaction := tx, nonce, state := some state }

/-- `u64::to_be_bytes`. -/
def toBeBytes (value : UInt64) : Bytes := BigEndian.encode 8 value.toNat

/-- `u64::from_be_bytes`. -/
def fromBeBytes (bytes : Bytes) : UInt64 := .ofNat (BigEndian.decode bytes)

def StatusMessage.encode (msg : StatusMessage) : Bytes :=
  VERSION :: msg.transaction.toList ++ toBeBytes msg.nonce ++
    [if msg.state.isSome then
        Operation.statusResponse.toByte
      else Operation.statusQuery.toByte, (msg.state.map StatusState.toByte).getD STATUS_QUERY_STATE]

def StatusMessage.decode (bytes : Bytes) : Except TransactionError StatusMessage :=
  if sized : bytes.length = STATUS_MESSAGE_LEN then
    if bytes.getD 0 0 ≠ VERSION then .error .incompatible
    else
      let tx := transactionField bytes (by simp [sized, STATUS_MESSAGE_LEN])
      let nonce := fromBeBytes ((bytes.drop 17).take 8)
      match bytes.getD 25 0, bytes.getD 26 0 with
      | 12, 0 => .ok (.query tx nonce)
      | 12, _ => .error .incompatible
      | 13, 0 => .error .incompatible
      | 13, value => do
          return .response tx nonce (← StatusState.decode value)
      | _, _ => .error .incompatible
  else .error .incompatible

theorem toBeBytes_length (value : UInt64) : (toBeBytes value).length = 8 := by simp [toBeBytes]

theorem fromBeBytes_toBeBytes (value : UInt64) : fromBeBytes (toBeBytes value) = value := by
  have small : value.toNat < 256 ^ 8 := value.toNat_lt
  rw [fromBeBytes, toBeBytes, BigEndian.decode_encode small, UInt64.ofNat_toNat]

theorem toBeBytes_fromBeBytes (sized : bytes.length = 8) :
    toBeBytes (fromBeBytes bytes) = bytes := by
  have small := BigEndian.decode_lt bytes
  rw [sized] at small
  rw [toBeBytes, fromBeBytes, UInt64.toNat_ofNat_of_lt' small, ← sized, BigEndian.encode_decode]

/-- A status message is read back as it was written. -/
theorem StatusMessage.decode_encode (msg : StatusMessage) :
    StatusMessage.decode msg.encode = .ok msg := by
  obtain ⟨⟨field, length⟩, nonce, state⟩ := msg
  have nonceLength := toBeBytes_length nonce
  generalize coded : encode ⟨⟨field, length⟩, nonce, state⟩ = bytes
  have sized : bytes.length = STATUS_MESSAGE_LEN := by
    simp [← coded, encode, length, nonceLength, STATUS_MESSAGE_LEN]
  have version : bytes.getD 0 0 = VERSION := by simp [← coded, encode]
  have taken : (bytes.drop 1).take 16 = field := by simp [← coded, encode, length]
  have number : (bytes.drop 17).take 8 = toBeBytes nonce := by
    simp [← coded, encode, length, nonceLength]
  have op : bytes.getD 25 0 = if state.isSome then 13 else 12 := by
    simp [← coded, encode, length, nonceLength]
    rfl
  have answer : bytes.getD 26 0 = (state.map StatusState.toByte).getD STATUS_QUERY_STATE := by
    simp [← coded, encode, length, nonceLength]
  unfold StatusMessage.decode
  rw [dif_pos sized, if_neg (not_not.mpr version), number, op, answer, fromBeBytes_toBeBytes]
  simp only [transactionField, taken]
  cases state with
  | none => rfl
  | some state => cases state <;> rfl

theorem StatusState.toByte_of_decode {byte : UInt8} {state : StatusState}
    (decoded : StatusState.decode byte = .ok state) : byte = state.toByte := by
  unfold StatusState.decode at decoded
  split at decoded <;> cases decoded <;> rfl

theorem statusFrame_eq (sized : bytes.length = STATUS_MESSAGE_LEN) :
    bytes =
      bytes.getD 0 0 :: (bytes.drop 1).take 16 ++ (bytes.drop 17).take 8 ++
        [bytes.getD 25 0, bytes.getD 26 0] := by
  have number := take_append_drop 8 (bytes.drop 17)
  rw [drop_drop] at number
  have last : bytes.drop 27 = [] := drop_of_length_le (le_of_eq sized)
  have tags : bytes.drop 25 = [bytes.getD 25 0, bytes.getD 26 0] := by
    rw [drop_eq_getD_cons (sized ▸ by decide), drop_eq_getD_cons (sized ▸ by decide), last]
  rw [← tags, append_assoc, number]
  exact header_eq (sized ▸ by decide)

/-- Only the encoding of a status message decodes to it. -/
theorem StatusMessage.decode_eq_ok_iff {msg : StatusMessage} :
    StatusMessage.decode bytes = .ok msg ↔ bytes = msg.encode := by
  constructor
  · intro decoded
    unfold StatusMessage.decode at decoded
    split_ifs at decoded with sized version
    have nonce : ((bytes.drop 17).take 8).length = 8 := by
      rw [length_take, length_drop, sized]
      rfl
    have whole := statusFrame_eq sized
    rw [not_not.mp version, ← toBeBytes_fromBeBytes nonce] at whole
    rw [whole]
    split at decoded
    · rename_i query none
      cases decoded
      rw [query, none]
      rfl
    · cases decoded
    · cases decoded
    · rename_i resp _
      cases read : StatusState.decode (bytes.getD 26 0) with
      | error error =>
        rw [read] at decoded
        cases decoded
      | ok state =>
        rw [read] at decoded
        cases decoded
        rw [resp, StatusState.toByte_of_decode read]
        rfl
    · cases decoded
  · rintro rfl
    exact msg.decode_encode

/-- Persistent transaction phase.  Only `bonded` authorizes a success UI. -/
inductive Phase where
  | negotiating
  | oobPending
  | preparing
  | prepared
  | commitPending
  | committed
  | bonded
  | aborted (op : Operation)
  | uncertain
deriving DecidableEq

/-- The desktop coordinates, the phone participates. -/
inductive Role where
  | coordinator
  | participant
deriving DecidableEq

/-- Facts asserted by the local transport, persistence and operator. -/
inductive LocalEvent where
  | verifiedExchange
  | capability
  | confirm
  | prepared
  | commit
  | commitAck
  | committed
  | disconnected
  | abort (op : Operation)
deriving DecidableEq

/-- The index of a `[bool; 2]` flag array. -/
inductive Side where
  | own
  | peer
deriving DecidableEq

/-- A `[bool; 2]` flag array. -/
structure Flags where
  own : Bool
  peer : Bool
deriving DecidableEq

namespace Flags

def all : Flags := ⟨true, true⟩

def none : Flags := ⟨false, false⟩

def get (flags : Flags) : Side → Bool
  | .own => flags.own
  | .peer => flags.peer

def set (flags : Flags) : Side → Flags
  | .own => { flags with own := true }
  | .peer => { flags with peer := true }

end Flags

/-- One attempt, as one side sees it. -/
structure Transaction where
  id : TransactionId
  role : Role
  phase : Phase
  capabilities : Flags
  confirmed : Flags
  prepared : Flags
  committed : Flags
deriving DecidableEq

/-- What a fallible method on `&mut self` leaves behind and returns. -/
abbrev Transition (Result : Type) := Transaction × Except TransactionError Result

def Operation.isAbort : Operation → Bool
  | .reject | .cancel | .timeout | .error => true
  | _ => false

namespace Transaction

def new (id : TransactionId) (role : Role) : Transaction where
  id := id
  role := role
  phase := .negotiating
  capabilities := .none
  confirmed := .none
  prepared := .none
  committed := .none

variable (tx : Transaction)

def status : StatusState :=
  match tx.phase with
  | .negotiating | .oobPending | .preparing | .prepared => .preCommit
  | .commitPending => .commitPending
  | .uncertain => .unknown
  | .committed => .committed
  | .bonded => .bonded
  | .aborted _ => .aborted

/-- Reconcile a validated peer status without downgrading a commit. -/
def reconcileStatus (remote : StatusState) : Transition Phase :=
  let reconciled :=
    match tx.status, remote with
    | .unknown, _ | _, .unknown => { tx with phase := .uncertain }
    | .preCommit, .aborted => { tx with phase := .aborted .error }
    | .preCommit, .preCommit => tx
    | .commitPending, .committed => { tx with phase := .committed }
    | .commitPending, .bonded => { tx with committed := .all, phase := .bonded }
    | .committed, .commitPending => tx
    | .committed, .committed
    | .committed, .bonded
    | .bonded, .committed
    | .bonded, .bonded => { tx with committed := .all, phase := .bonded }
    | .aborted, .aborted => tx
    | .aborted, .preCommit => tx
    | _, _ => { tx with phase := .uncertain }
  (reconciled, .ok reconciled.phase)

def applyStatusResponse (resp : StatusMessage) (nonce : UInt64) : Transition Phase :=
  match resp.state with
  | none => (tx, .error .wrongTransaction)
  | some remote =>
    if resp.transaction ≠ tx.id ∨ resp.nonce ≠ nonce then (tx, .error .wrongTransaction)
    else tx.reconcileStatus remote

def confirm (side : Side) : Transition Unit :=
  if tx.phase ≠ .oobPending ∨ tx.confirmed.get side then (tx, .error .invalidTransition)
  else
    let flagged := { tx with confirmed := tx.confirmed.set side }
    if flagged.confirmed = .all then ({ flagged with phase := .preparing }, .ok ())
    else (flagged, .ok ())

def prepare (side : Side) : Transition Unit :=
  if tx.phase ≠ .preparing ∨ tx.prepared.get side then (tx, .error .invalidTransition)
  else
    let flagged := { tx with prepared := tx.prepared.set side }
    if flagged.prepared = .all then ({ flagged with phase := .prepared }, .ok ())
    else (flagged, .ok ())

def recordCommitted (side : Side) : Transition Unit :=
  if tx.phase ≠ .committed ∨ tx.committed.get side then (tx, .error .invalidTransition)
  else
    let flagged := { tx with committed := tx.committed.set side }
    if flagged.committed = .all then ({ flagged with phase := .bonded }, .ok ())
    else (flagged, .ok ())

def disconnect : Transaction :=
  { tx with
    phase :=
      match tx.phase with
      | .commitPending | .committed | .uncertain => .uncertain
      | .bonded => .bonded
      | .aborted op => .aborted op
      | _ => .aborted .cancel }

def abort (op : Operation) : Transition Unit :=
  if !op.isAbort then (tx, .error .invalidTransition)
  else
    match tx.phase with
    | .bonded | .aborted _ => (tx, .error .invalidTransition)
    | .commitPending | .committed | .uncertain => ({ tx with phase := .uncertain }, .ok ())
    | _ => ({ tx with phase := .aborted op }, .ok ())

end Transaction

def Transaction.local (tx : Transaction) (ev : LocalEvent) : Transition Unit :=
  match ev with
  | .capability =>
    if tx.phase = .negotiating ∧
        ¬ tx.capabilities.own then
      ({ tx with capabilities := tx.capabilities.set .own }, .ok ())
    else (tx, .error .invalidTransition)
  | .verifiedExchange =>
    if tx.phase = .negotiating ∧
        tx.capabilities = .all then
      ({ tx with phase := .oobPending }, .ok ())
    else (tx, .error .invalidTransition)
  | .confirm => tx.confirm .own
  | .prepared => tx.prepare .own
  | .commit =>
    if tx.role = .coordinator ∧
        tx.phase = .prepared then
      ({ tx with phase := .commitPending }, .ok ())
    else (tx, .error .invalidTransition)
  | .commitAck =>
    if tx.role = .participant ∧
        tx.phase = .commitPending then
      ({ tx with phase := .committed }, .ok ())
    else (tx, .error .invalidTransition)
  | .committed => tx.recordCommitted .own
  | .disconnected => (tx.disconnect, .ok ())
  | .abort op => tx.abort op

def Transaction.remote (tx : Transaction) (msg : Message) : Transition Unit :=
  if msg.transaction ≠ tx.id then (tx, .error .wrongTransaction)
  else
    match msg.operation with
    | .capability =>
      if tx.phase = .negotiating ∧
          ¬ tx.capabilities.peer then
        ({ tx with capabilities := tx.capabilities.set .peer }, .ok ())
      else (tx, .error .invalidTransition)
    | .confirm => tx.confirm .peer
    | .prepared => tx.prepare .peer
    | .commit =>
      if tx.role = .participant ∧
          tx.phase = .prepared then
        ({ tx with phase := .commitPending }, .ok ())
      else (tx, .error .invalidTransition)
    | .commitAck =>
      if tx.role = .coordinator ∧
          tx.phase = .commitPending then
        ({ tx with phase := .committed }, .ok ())
      else (tx, .error .invalidTransition)
    | .committed => tx.recordCommitted .peer
    -- A status message never advances a commit.
    | .status | .statusQuery | .statusResponse => (tx, .ok ())
    | .reject => tx.abort .reject
    | .cancel => tx.abort .cancel
    | .timeout => tx.abort .timeout
    | .error => tx.abort .error
    | .revoke => (tx, .error .invalidTransition)

end DeskUnlock.Pairing
