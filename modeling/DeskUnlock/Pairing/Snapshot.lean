import DeskUnlock.Foundation.Results
import DeskUnlock.Foundation.Text
import DeskUnlock.Pairing.PairTransaction

/-!
# Snapshots of a transaction

`Transaction::serialize`, `restore`, `validate` and `from_recovery_status` of
`syauth-core/src/pair_transaction.rs`, and the functions that
`syauth-mobile/src/implementation.rs` builds on them: the phone holds its
transaction only as a snapshot and hands it over with every event.
-/

namespace DeskUnlock.Pairing

open Results Texts List

def phaseCode : Phase → UInt8
  | .negotiating => 0
  | .oobPending => 1
  | .preparing => 2
  | .prepared => 3
  | .commitPending => 4
  | .committed => 5
  | .bonded => 6
  | .aborted _ => 7
  | .uncertain => 8

/-- An aborted transaction is not restored. -/
def decodePhase : UInt8 → Except TransactionError Phase
  | 0 => .ok .negotiating
  | 1 => .ok .oobPending
  | 2 => .ok .preparing
  | 3 => .ok .prepared
  | 4 => .ok .commitPending
  | 5 => .ok .committed
  | 6 => .ok .bonded
  | 8 => .ok .uncertain
  | _ => .error .incompatible

def Role.toByte : Role → UInt8
  | .coordinator => 0
  | .participant => 1

def Flags.toBytes (flags : Flags) : Bytes := [flags.own.toUInt8, flags.peer.toUInt8]

namespace Transaction

def SNAPSHOT_LEN : Nat := 27

variable (tx : Transaction)

/-- Serialize only non-secret recovery metadata for restart. -/
def serialize : Bytes :=
  [VERSION, tx.role.toByte, phaseCode tx.phase] ++
    tx.id.toList ++ tx.capabilities.toBytes ++ tx.confirmed.toBytes ++ tx.prepared.toBytes ++
    tx.committed.toBytes

def valid : Bool :=
  let ready := tx.capabilities = .all && tx.confirmed = .all && tx.prepared = .all
  match tx.phase with
  | .negotiating => !tx.capabilities.own || tx.capabilities.peer
  | .oobPending => tx.capabilities = .all && tx.confirmed ≠ .all
  | .preparing => tx.capabilities = .all && tx.confirmed = .all && tx.prepared ≠ .all
  | .prepared => ready && tx.committed = .none
  | .commitPending => ready && tx.committed = .none
  | .committed => ready && tx.committed ≠ .all
  | .bonded => ready && tx.committed = .all
  | .aborted _ | .uncertain => true

def validate : Except TransactionError Unit :=
  if tx.valid then .ok () else .error .invalidTransition

def restoreFlags (bytes : Bytes) (offset : Nat) : Except TransactionError Flags :=
  let own := bytes.getD offset 0
  let peer := bytes.getD (offset + 1) 0
  if own ≤ 1 ∧ peer ≤ 1 then .ok ⟨own ≠ 0, peer ≠ 0⟩ else .error .incompatible

def restore (bytes : Bytes) : Except TransactionError Transaction :=
  if sized : bytes.length = SNAPSHOT_LEN then do
    if bytes.getD 0 0 ≠ VERSION then throw .incompatible
    let role ←
      match bytes.getD 1 0 with
      | 0 => .ok .coordinator
      | 1 => .ok .participant
      | _ => .error .incompatible
    let phase ← decodePhase (bytes.getD 2 0)
    let id : TransactionId :=
      ⟨(bytes.drop 3).take 16, by
        rw [length_take, length_drop, sized]
        decide⟩
    let capabilities ← restoreFlags bytes 19
    let confirmed ← restoreFlags bytes 21
    let prepared ← restoreFlags bytes 23
    let committed ← restoreFlags bytes 25
    let tx : Transaction := { id, role, phase, capabilities, confirmed, prepared, committed }
    tx.validate
    return tx
  else .error .incompatible

def fromRecoveryStatus (id : TransactionId) (role : Role)
    (status : StatusState) : Except TransactionError Transaction := do
  let phase : Phase :=
    match status with
    | .preCommit => .prepared
    | .commitPending => .commitPending
    | .committed => .committed
    | .bonded => .bonded
    | .aborted => .aborted .error
    | .unknown => .uncertain
  let committed : Flags :=
    match phase with
    | .bonded => .all
    | .committed => ⟨true, false⟩
    | _ => .none
  let tx : Transaction :=
    { id, role, phase, committed
      capabilities := .all, confirmed := .all, prepared := .all }
  tx.validate
  return tx

theorem serialize_length : tx.serialize.length = SNAPSHOT_LEN := by
  simp [serialize, Flags.toBytes, SNAPSHOT_LEN]

theorem restoreFlags_toBytes (front rest : Bytes) (flags : Flags) :
    restoreFlags (front ++ (flags.toBytes ++ rest)) front.length = .ok flags := by
  have own : (front ++ (flags.toBytes ++ rest)).getD front.length 0 = flags.own.toUInt8 := by
    simp [Flags.toBytes]
  have peer :
      (front ++ (flags.toBytes ++ rest)).getD (front.length + 1) 0 = flags.peer.toUInt8 := by
    simp [Flags.toBytes]
  rw [restoreFlags, own, peer]
  rcases flags with ⟨_ | _, _ | _⟩ <;> rfl

theorem decodePhase_phaseCode {phase : Phase}
    (restorable : ∀ op, phase ≠ .aborted op) : decodePhase (phaseCode phase) = .ok phase := by
  cases phase with
  | aborted op => exact (restorable _ rfl).elim
  | _ => rfl

theorem restore_serialize_eq : restore tx.serialize = do
      let phase ← decodePhase (phaseCode tx.phase)
      { tx with phase }.validate
      return { tx with phase } := by
  obtain ⟨⟨id, sized⟩, role, phase, capabilities, confirmed, prepared, committed⟩ := tx
  have capabilitiesRead := restoreFlags_toBytes ([VERSION, role.toByte, phaseCode phase] ++ id)
  have confirmedRead :=
    restoreFlags_toBytes ([VERSION, role.toByte, phaseCode phase] ++ id ++ capabilities.toBytes)
  have preparedRead :=
    restoreFlags_toBytes
      ([VERSION, role.toByte, phaseCode phase] ++ id ++ capabilities.toBytes ++ confirmed.toBytes)
  have committedRead :=
    restoreFlags_toBytes ([VERSION, role.toByte, phaseCode phase] ++ id ++
        capabilities.toBytes ++ confirmed.toBytes ++ prepared.toBytes) [] committed
  simp only [length_append, sized, Flags.toBytes, length_cons,
    length_nil, append_assoc,
    cons_append, nil_append] at capabilitiesRead confirmedRead preparedRead committedRead
  have length := serialize_length
    ⟨⟨id, sized⟩, role, phase, capabilities, confirmed, prepared, committed⟩
  rw [restore, dif_pos length]
  simp only [serialize, List.Vector.toList_mk, Flags.toBytes,
    append_assoc, cons_append, nil_append,
    capabilitiesRead, confirmedRead, preparedRead, committedRead]
  cases role <;> simp [Role.toByte, sized, bind, Except.bind]

theorem validate_eq_ok_iff : tx.validate = .ok () ↔ tx.valid = true := by
  unfold validate
  split_ifs with valid
  · exact ⟨fun _ => valid, fun _ => rfl⟩
  · exact ⟨nofun, fun holds => (valid holds).elim⟩

/-- Exactly the valid transactions that are not aborted are read back. -/
theorem restore_serialize_eq_ok_iff (tx restored : Transaction) : restore tx.serialize =
    .ok restored ↔ restored = tx ∧ tx.valid = true ∧ ∀ op, tx.phase ≠ .aborted op := by
  rw [restore_serialize_eq]
  by_cases restorable : ∀ op, tx.phase ≠ .aborted op
  · rw [decodePhase_phaseCode restorable]
    cases validated : tx.validate with
    | ok _ =>
      have valid := (validate_eq_ok_iff _).mp validated
      simp only [bind, Except.bind, pure, Except.pure, validated, valid, Except.ok.injEq]
      exact ⟨fun same => ⟨same.symm, trivial, restorable⟩, fun same => same.1.symm⟩
    | error error =>
      have invalid : ¬ tx.valid = true := by
        intro valid
        rw [(validate_eq_ok_iff _).mpr valid] at validated
        cases validated
      simp [bind, Except.bind, validated, invalid]
  · push Not at restorable
    obtain ⟨op, aborted⟩ := restorable
    simp [aborted, phaseCode, decodePhase, bind, Except.bind]

theorem phaseCode_of_decodePhase {code : UInt8} {phase : Phase}
    (decoded : decodePhase code = .ok phase) :
    code = phaseCode phase ∧ ∀ op, phase ≠ .aborted op := by
  unfold decodePhase at decoded
  split at decoded <;> cases decoded <;> exact ⟨rfl, nofun⟩

theorem bytes_of_restoreFlags {bytes : Bytes} {offset : Nat} {flags : Flags}
    (read : restoreFlags bytes offset = .ok flags) :
    bytes.getD offset 0 = flags.own.toUInt8 ∧ bytes.getD (offset + 1) 0 = flags.peer.toUInt8 := by
  have single (byte : UInt8) (small : byte ≤ 1) : byte = (decide (byte ≠ 0)).toUInt8 := by
    by_cases zero : byte = 0
    · rw [zero]
      rfl
    · have one : byte = 1 := by
        apply UInt8.toNat.inj
        have nonzero : byte.toNat ≠ 0 := fun h => zero (UInt8.toNat.inj h)
        have := UInt8.le_iff_toNat_le.mp small
        simp at this ⊢
        omega
      rw [one]
      rfl
  unfold restoreFlags at read
  dsimp only at read
  split_ifs at read with small
  cases read
  exact ⟨single _ small.1, single _ small.2⟩

theorem eq_serialize {bytes : Bytes} {tx : Transaction}
    (sized : bytes.length = SNAPSHOT_LEN) (version : bytes.getD 0 0 = VERSION)
    (role : bytes.getD 1 0 = tx.role.toByte) (phase : bytes.getD 2 0 = phaseCode tx.phase)
    (id : (bytes.drop 3).take 16 = tx.id.toList)
    (capabilities : restoreFlags bytes 19 = .ok tx.capabilities)
    (confirmed : restoreFlags bytes 21 = .ok tx.confirmed)
    (prepared : restoreFlags bytes 23 = .ok tx.prepared)
    (committed : restoreFlags bytes 25 = .ok tx.committed) : bytes = tx.serialize := by
  have next (i : Nat) (inside : i < SNAPSHOT_LEN) :
      bytes.drop i = bytes.getD i 0 :: bytes.drop (i + 1) :=
    drop_eq_getD_cons (sized ▸ inside)
  have front : bytes = [VERSION, tx.role.toByte, phaseCode tx.phase] ++ bytes.drop 3 := by
    rw [← version, ← role, ← phase]
    calc
      bytes = bytes.getD 0 0 :: bytes.drop 1 := next 0 (by decide)
      _ = [bytes.getD 0 0, bytes.getD 1 0, bytes.getD 2 0] ++ bytes.drop 3 := by
        rw [next 1 (by decide), next 2 (by decide)]
        rfl
  have flags (offset : Nat) (inside : offset + 1 < SNAPSHOT_LEN)
      {flags : Flags} (read : restoreFlags bytes offset = .ok flags) :
      bytes.drop offset = flags.toBytes ++ bytes.drop (offset + 2) := by
    obtain ⟨own, peer⟩ := bytes_of_restoreFlags read
    rw [next offset (Nat.lt_of_succ_lt inside), next (offset + 1) inside, own, peer]
    rfl
  have last : bytes.drop 27 = [] := drop_of_length_le (le_of_eq sized)
  rw [← take_append_drop 16 (bytes.drop 3), drop_drop, id,
    flags 19 (by decide) capabilities, flags 21 (by decide) confirmed,
    flags 23 (by decide) prepared, flags 25 (by decide) committed, last] at front
  simpa [serialize] using front

/-- Only the snapshot of a transaction is restored to it. -/
theorem restore_eq_ok_iff {bytes : Bytes} {tx : Transaction} : restore bytes =
    .ok tx ↔ bytes = tx.serialize ∧ tx.valid = true ∧ ∀ op, tx.phase ≠ .aborted op := by
  constructor
  · intro restored
    unfold restore at restored
    by_cases sized : bytes.length = SNAPSHOT_LEN
    case neg =>
      rw [dif_neg sized] at restored
      cases restored
    by_cases version : bytes.getD 0 0 = VERSION
    case neg =>
      rw [dif_pos sized, if_pos version] at restored
      cases restored
    rw [dif_pos sized, if_neg (not_not.mpr version)] at restored
    split at restored
    case h_3 => cases restored
    all_goals
      rename_i role
      obtain ⟨_, ⟨⟩, restored⟩ := bind_eq_ok restored
      obtain ⟨phase, phaseRead, restored⟩ := bind_eq_ok restored
      obtain ⟨capabilities, capabilitiesRead, restored⟩ := bind_eq_ok restored
      obtain ⟨confirmed, confirmedRead, restored⟩ := bind_eq_ok restored
      obtain ⟨prepared, preparedRead, restored⟩ := bind_eq_ok restored
      obtain ⟨committed, committedRead, restored⟩ := bind_eq_ok restored
      obtain ⟨_, validated, restored⟩ := bind_eq_ok restored
      cases restored
      obtain ⟨code, restorable⟩ := phaseCode_of_decodePhase phaseRead
      exact ⟨eq_serialize sized version role code rfl capabilitiesRead
            confirmedRead preparedRead committedRead,
          (validate_eq_ok_iff _).mp validated, restorable⟩
  · rintro ⟨rfl, readable⟩
    exact (restore_serialize_eq_ok_iff _ _).mpr ⟨rfl, readable⟩

end Transaction

/-- Only encodings are accepted, and each for one value. -/
structure StrictFormat {Value : Type} (decode : Bytes → Except TransactionError Value)
    (encode : Value → Bytes) : Prop where
  canonical : ∀ bytes value, decode bytes = .ok value → encode value = bytes
  distinct :
    ∀ first second value, decode first = .ok value → decode second = .ok value → first = second

theorem strictFormat_of_canonical {Value : Type}
    {decode : Bytes → Except TransactionError Value} {encode : Value → Bytes}
    (canonical : ∀ {bytes value}, decode bytes = .ok value →
      bytes = encode value) : StrictFormat decode encode where
  canonical _ _ decoded := (canonical decoded).symm
  distinct _ _ _ first second := (canonical first).trans (canonical second).symm

/-- Messages, status messages and snapshots have strict formats. -/
theorem formats_strict :
    StrictFormat Message.decode Message.encode ∧
      StrictFormat StatusMessage.decode StatusMessage.encode ∧
      StrictFormat Transaction.restore Transaction.serialize ∧
      (∀ msg : Message, Message.decode msg.encode = .ok msg) ∧
      ∀ msg : StatusMessage, StatusMessage.decode msg.encode = .ok msg := by
  refine ⟨?_, ?_, ?_, ?_, StatusMessage.decode_encode⟩
  · exact strictFormat_of_canonical Message.decode_eq_ok_iff.mp
  · exact strictFormat_of_canonical StatusMessage.decode_eq_ok_iff.mp
  · exact strictFormat_of_canonical fun restored => (Transaction.restore_eq_ok_iff.mp restored).1
  · exact fun msg => Message.decode_eq_ok_iff.mpr rfl

def TransactionError.text : TransactionError → Text
  | .incompatible => "incompatible pairing protocol".toList
  | .wrongTransaction => "different pairing transaction".toList
  | .invalidTransition => "invalid pairing transition".toList

inductive MobileError where
  | invalidKey (reason : Text)
  | badFrame (reason : Text)
  | verifyFailed (reason : Text)
deriving DecidableEq

def badFrame {Value : Type} (res : Except TransactionError Value) : Except MobileError Value :=
  res.mapError fun error => .badFrame error.text

def pairTransactionCreate (transactionId : Bytes) (role : UInt8) : Except MobileError Bytes :=
  if sized : transactionId.length = 16 then do
    let role ←
      match role with
      | 0 => .ok .coordinator
      | 1 => .ok .participant
      | _ => .error (.invalidKey "invalid transaction role".toList)
    return (Transaction.new ⟨transactionId, sized⟩ role).serialize
  else .error (.invalidKey "transaction id must be 16 bytes".toList)

def localEventOf : UInt8 → Except MobileError LocalEvent
  | 0 => .ok .capability
  | 1 => .ok .verifiedExchange
  | 2 => .ok .confirm
  | 3 => .ok .prepared
  | 4 => .ok .commit
  | 5 => .ok .commitAck
  | 6 => .ok .committed
  | 7 => .ok .disconnected
  | 8 => .ok (.abort .reject)
  | 9 => .ok (.abort .cancel)
  | 10 => .ok (.abort .timeout)
  | 11 => .ok (.abort .error)
  | _ => .error (.badFrame "invalid local transaction event".toList)

def pairTransactionApplyLocal (state : Bytes) (ev : UInt8) :
    Except MobileError Bytes := do
  let tx ← badFrame (Transaction.restore state)
  let ev ← localEventOf ev
  let (after, res) := tx.local ev
  badFrame res
  return after.serialize

def pairTransactionApplyRemote (state msg : Bytes) :
    Except MobileError Bytes := do
  let tx ← badFrame (Transaction.restore state)
  let msg ← badFrame (Message.decode msg)
  let (after, res) := tx.remote msg
  badFrame res
  return after.serialize

def pairTransactionRestore (state : Bytes) : Except MobileError Bytes := do
  let tx ← badFrame (Transaction.restore state)
  return tx.serialize

def pairTransactionStatusQuery (transactionId : Bytes) (nonce : Int64) : Except MobileError Bytes :=
  if sized : transactionId.length = 16 ∧ 0 ≤ nonce then
    .ok (StatusMessage.query ⟨transactionId, sized.1⟩ nonce.toUInt64).encode
  else .error (.invalidKey "invalid status query".toList)

def pairTransactionApplyStatus (state resp : Bytes) (nonce : Int64) :
    Except MobileError Bytes := do
  if nonce < 0 then throw (.invalidKey "invalid status nonce".toList)
  let tx ← badFrame (Transaction.restore state)
  let resp ← badFrame (StatusMessage.decode resp)
  if resp.state.isNone then throw (.badFrame "status query is not a response".toList)
  let (after, res) := tx.applyStatusResponse resp nonce.toUInt64
  let _ ← badFrame res
  return after.serialize

def pairTransactionPhase (state : Bytes) : Except MobileError UInt8 := do
  let tx ← badFrame (Transaction.restore state)
  return phaseCode tx.phase

end DeskUnlock.Pairing
