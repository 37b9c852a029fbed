import DeskUnlock.Pairing.PhoneDriver
import DeskUnlock.Pairing.SnapshotRefinement

/-!
# Recovery on the phone

`recoverTransaction` of `pair/impl/RealPairBackend.kt` in `syauth-android`,
with the `init` block that loads the stored snapshot.  Each recovery asks the
desktop for the status of the transaction and stores what the answer makes of
it; between two recoveries the app may be started again.

An answer that does not fit makes the stored transaction uncertain, and no
later answer changes that.  So a recovery that is told of the bond reports it
exactly if every answer before was a conclusive one.
-/

namespace DeskUnlock.Pairing.Phone

open Results Runs Texts Option

/-! ## The backend -/

/-- The `pairing-v2-recovery` preferences. -/
structure Preferences where
  state : Option Bytes
  peerAddress : Option Text

/-- What the backend keeps of a transaction. -/
structure Backend where
  transactionState : Option Bytes
  transactionId : Option Bytes
  pickedAddress : Option Text
  preferences : Preferences

/-- The `init` block: a stored snapshot belongs to some previous attempt. -/
def Backend.init (preferences : Preferences) : Backend :=
  match preferences.state with
  | some restored =>
    if restored.length = TRANSACTION_STATE_LEN then
      { transactionState := (pairTransactionRestore restored).toOption
        transactionId := some ((restored.take STATE_ID_END).drop STATE_ID_OFFSET)
        pickedAddress := preferences.peerAddress
        preferences }
    else ⟨none, none, none, preferences⟩
  | none => ⟨none, none, none, preferences⟩

inductive RecoveryFailure where
  | illegalState (msg : Text) (cause : Option MobileError)
  | uncaught (error : MobileError)
deriving DecidableEq

/-- The clock and the connection during one recovery. -/
structure StatusExchange where
  nonce : Int64
  reconnected : Bool
  response : Option Bytes

def available {Value : Type} (msg : String) :
    Option Value → Except RecoveryFailure Value
  | some value => .ok value
  | none => .error (.illegalState msg.toList none)

@[simp]
theorem toOption_available {Value : Type} (msg : String)
    (value : Option Value) : (available msg value).toOption = value := by
  cases value <;> rfl

def Backend.queryStatus (back : Backend) (exchange : StatusExchange) :
    Except RecoveryFailure Bytes := do
  let state ← available "no persisted transaction" back.transactionState
  let id ← available "transaction identity unavailable" back.transactionId
  let _query ← (pairTransactionStatusQuery id exchange.nonce).mapError .uncaught
  let _address ← available "recovery peer identity unavailable" back.pickedAddress
  let _connection ←
    available "authenticated recovery connection unavailable"
      (if exchange.reconnected then some () else none)
  let resp ← available "authenticated status unavailable" exchange.response
  (pairTransactionApplyStatus state resp exchange.nonce).mapError
    fun error => .illegalState "UNCERTAIN: authenticated status rejected".toList (some error)

def Backend.recoverTransaction (back : Backend)
    (exchange : StatusExchange) : Backend × Except RecoveryFailure Bool :=
  match back.queryStatus exchange with
  | .error failure => (back, .error failure)
  | .ok updated =>
    let phase := (pairTransactionPhase updated).toOption.getD 8
    let terminal := phase = 6 || phase = 7
    let preferences :=
      if terminal then ⟨none, none⟩ else { back.preferences with state := some updated }
    ({ back with transactionState := some updated, preferences }, .ok (phase = 6))

inductive RecoveryEvent where
  | recover (exchange : StatusExchange)
  | reopen

/-- A recovery, or a new start of the app. -/
def Backend.step (back : Backend) : RecoveryEvent → Backend
  | .recover exchange => (back.recoverTransaction exchange).1
  | .reopen => .init back.preferences

/-! ## What one recovery does -/

def StatusExchange.answer? (exchange : StatusExchange)
    (tx : Transaction) : Option StatusState :=
  if exchange.reconnected then
    exchange.response.bind fun resp =>
      (Input.status resp exchange.nonce).call?.bind fun call => call.answer? tx
  else none

/-- A backend that recovers this transaction. -/
structure Backend.Recovers (back : Backend) (tx : Transaction) : Prop where
  state : back.transactionState = some tx.serialize
  id : back.transactionId = some tx.id.toList
  address : back.pickedAddress.isSome = true
  saved :
    back.preferences =
      if tx.phase = .bonded then ⟨none, none⟩ else ⟨some tx.serialize, back.pickedAddress⟩
  regular : tx.Regular
  restorable : tx.Restorable
  decided : tx.phase.Decided
  certain : tx.phase ≠ .uncertain

theorem call_status_toOption (tx : Transaction)
    (resp : StatusMessage) (nonce : UInt64) :
    let call := TransactionCall.status resp nonce
    (tx.call call).2.toOption.map
        (fun _ => (tx.call call).1.serialize) =
      (call.answer? tx).map fun answer => (tx.reconcileStatus answer).1.serialize := by
  obtain ⟨bound, number, state⟩ := resp
  intro call
  cases state with
  | none => simp [call, TransactionCall.answer?, Transaction.call,
      Transaction.applyStatusResponse, Except.map, Except.toOption]
  | some answer =>
    by_cases foreign : bound ≠ tx.id ∨ number ≠ nonce
    · have unheard : ¬ (bound = tx.id ∧ number = nonce) := by
        tauto
      simp [call, TransactionCall.answer?, Transaction.call,
        Transaction.applyStatusResponse, if_pos foreign, if_neg unheard,
        Except.map, Except.toOption]
    · have heard : bound = tx.id ∧ number = nonce := by
        tauto
      simp [call, TransactionCall.answer?, Transaction.call,
        Transaction.applyStatusResponse, if_neg foreign, if_pos heard,
        Except.map, Except.toOption, Transaction.reconcileStatus]

variable {tx : Transaction} {back : Backend}
  {answer : StatusState} {exchange : StatusExchange}

theorem applyStatus_toOption (restorable : tx.Restorable) (resp : Bytes)
    (nonce : Int64) : (pairTransactionApplyStatus tx.serialize resp nonce).toOption =
    ((Input.status resp nonce).call?.bind fun call => call.answer? tx).map fun answer =>
    (tx.reconcileStatus answer).1.serialize := by
  have restored : Transaction.restore tx.serialize = .ok tx :=
    (Transaction.restore_serialize_eq_ok_iff _ _).mpr ⟨rfl, restorable⟩
  have stepped := snapshotStep_eq tx.serialize (.status resp nonce)
  rw [restored] at stepped
  refine stepped.trans ?_
  simp only [Input.call?]
  by_cases negative : nonce < 0
  · simp [negative]
  · rw [if_neg negative]
    cases StatusMessage.decode resp with
    | error error => rfl
    | ok resp => exact call_status_toOption _ _ _

theorem Backend.Recovers.queryStatus (recovers : back.Recovers tx)
    (exchange : StatusExchange) : (back.queryStatus exchange).toOption =
    (exchange.answer? tx).map fun answer => (tx.reconcileStatus answer).1.serialize := by
  obtain ⟨nonce, reconnected, resp⟩ := exchange
  obtain ⟨addr, picked⟩ := isSome_iff_exists.mp recovers.address
  have applied := applyStatus_toOption recovers.restorable
  unfold Backend.queryStatus StatusExchange.answer?
  simp only [recovers.state, recovers.id, picked, toOption_bind,
    toOption_mapError, toOption_available, bind_some, applied]
  by_cases negative : nonce < 0
  · have refused : (pairTransactionStatusQuery tx.id.toList nonce).toOption = none := by
      unfold pairTransactionStatusQuery
      rw [dif_neg (fun sized => Int64.not_le.mpr negative sized.2)]
      rfl
    cases reconnected <;> simp [Input.call?, negative]
  · have built : (pairTransactionStatusQuery tx.id.toList nonce).toOption =
        some (StatusMessage.query tx.id nonce.toUInt64).encode := by
      unfold pairTransactionStatusQuery
      rw [dif_pos ⟨tx.id.toList_length, Int64.not_lt.mp negative⟩]
      rfl
    rw [built]
    cases reconnected <;> cases resp <;> rfl

theorem reconcileStatus_id {tx : Transaction} {answer : StatusState} :
    (tx.reconcileStatus answer).1.id = tx.id := by
  rcases reconcileStatus_outcome _ with
    same | same | ⟨_, _, same⟩ | ⟨_, same⟩ | ⟨_, same⟩ <;> rw [same]

/-- After the commit decision every answer leaves a readable snapshot. -/
theorem reconcileStatus_restorable (regular : tx.Regular)
    (restorable : tx.Restorable) (decided : tx.phase.Decided)
    {answer : StatusState} : (tx.reconcileStatus answer).1.Restorable := by
  refine (after_restorable_iff regular restorable (.reconcile _)).mpr ?_
  refine ⟨nofun, fun early => ?_⟩
  exact absurd decided ((status_preCommit_iff _).mp early).1

theorem phaseCode_eq_iff {phase : Phase} (restorable : ∀ op, phase ≠ .aborted op) :
    (phaseCode phase = 6 ↔ phase = .bonded) ∧ phaseCode phase ≠ 7 := by
  cases phase with
  | aborted op => exact (restorable _ rfl).elim
  | _ => decide

/-- What a recovery stores and reports once it accepted an answer. -/
theorem Backend.Recovers.recoverTransaction (recovers : back.Recovers tx)
    (heard : exchange.answer? tx = some answer) :
    let after := (tx.reconcileStatus answer).1
    back.recoverTransaction exchange =
      ({ back with
          transactionState := some after.serialize
          preferences :=
            if after.phase = .bonded then ⟨none, none⟩
            else { back.preferences with state := some after.serialize } },
        .ok (decide (after.phase = .bonded))) := by
  intro after
  have restorable : after.Restorable :=
    reconcileStatus_restorable recovers.regular recovers.restorable recovers.decided
  have updated : back.queryStatus exchange = .ok after.serialize := by
    apply toOption_eq_some_iff.mp
    rw [recovers.queryStatus, heard]
    rfl
  obtain ⟨bonded, unaborted⟩ := phaseCode_eq_iff restorable.2
  unfold Backend.recoverTransaction
  rw [updated]
  simp [phase_serialize_iff.mpr restorable, Except.toOption, bonded, unaborted]

theorem Backend.Recovers.unanswered (recovers : back.Recovers tx)
    (unheard : exchange.answer? tx = none) : (back.recoverTransaction exchange).1 = back := by
  have failed : (back.queryStatus exchange).toOption = none := by
    rw [recovers.queryStatus, unheard]
    rfl
  unfold Backend.recoverTransaction
  cases asked : back.queryStatus exchange with
  | error failure => rfl
  | ok updated =>
    rw [asked] at failed
    cases failed

/-! ## Runs of recoveries -/

/-- The answers that take a transaction on, or confirm it. -/
def Conclusive : Phase → StatusState → Bool
  | .commitPending, answer => answer ∈ [.committed, .bonded]
  | .committed, answer => answer ∈ [.commitPending, .committed, .bonded]
  | .bonded, answer => answer ∈ [.committed, .bonded]
  | _, _ => false

theorem certain_iff_conclusive (decided : tx.phase.Decided)
    (certain : tx.phase ≠ .uncertain) {answer : StatusState} :
    (tx.reconcileStatus answer).1.phase ≠ .uncertain ↔ Conclusive tx.phase answer = true := by
  unfold Transaction.reconcileStatus Transaction.status
  cases phase : tx.phase <;> cases answer <;> simp_all [Phase.Decided, Conclusive]

theorem unbonded_of_conclusive (unbonded : (tx.reconcileStatus answer).1.phase ≠ .bonded)
    (conclusive : Conclusive tx.phase answer = true) : tx.phase ≠ .bonded := by
  intro bonded
  apply unbonded
  unfold Transaction.reconcileStatus Transaction.status
  cases answer <;> simp_all [Conclusive]

theorem Backend.Recovers.conclusive (recovers : back.Recovers tx)
    (heard : exchange.answer? tx = some answer) (conclusive : Conclusive tx.phase answer = true) :
    (back.recoverTransaction exchange).1.Recovers (tx.reconcileStatus answer).1 := by
  have certain := (certain_iff_conclusive recovers.decided recovers.certain).mpr conclusive
  rw [recovers.recoverTransaction heard]
  refine
    { state := rfl
      id := ?_, address := recovers.address, saved := ?_
      regular := reconcileStatus_regular recovers.regular
      restorable :=
        reconcileStatus_restorable recovers.regular recovers.restorable recovers.decided
      decided := reconcileStatus_decided recovers.decided, certain := certain }
  · rw [reconcileStatus_id]
    exact recovers.id
  · dsimp only
    by_cases bonded : (tx.reconcileStatus answer).1.phase = .bonded
    · rw [if_pos bonded, if_pos bonded]
    · rw [if_neg bonded, if_neg bonded, recovers.saved,
        if_neg (unbonded_of_conclusive bonded conclusive)]

theorem Backend.init_serialize (restorable : tx.Restorable) {addr : Option Text} :
    Backend.init ⟨some tx.serialize, addr⟩ =
      { transactionState := some tx.serialize
        transactionId := some tx.id.toList, pickedAddress := addr
        preferences := ⟨some tx.serialize, addr⟩ } := by
  have restored : Transaction.restore tx.serialize = .ok tx :=
    (Transaction.restore_serialize_eq_ok_iff _ _).mpr ⟨rfl, restorable⟩
  have loaded : (pairTransactionRestore tx.serialize).toOption = some tx.serialize := by
    unfold pairTransactionRestore
    rw [restored]
    rfl
  have field : (tx.serialize.take STATE_ID_END).drop STATE_ID_OFFSET = tx.id.toList := by
    obtain ⟨⟨id, sized⟩, role, phase, flags⟩ := tx
    simp [Transaction.serialize, STATE_ID_END, STATE_ID_OFFSET, sized]
  have sized : tx.serialize.length = TRANSACTION_STATE_LEN := tx.serialize_length
  unfold Backend.init
  dsimp only
  rw [if_pos sized, loaded, field]

theorem Backend.Recovers.reopen (recovers : back.Recovers tx)
    (unbonded : tx.phase ≠ .bonded) : (Backend.init back.preferences).Recovers tx := by
  rw [recovers.saved, if_neg unbonded, init_serialize recovers.restorable]
  exact { recovers with state := rfl, id := rfl, saved := (if_neg unbonded).symm }

/-- Nothing certain is left to be recovered. -/
def Backend.Lost (back : Backend) : Prop :=
  ∀ state,
    back.transactionState = some state ∨ back.preferences.state = some state →
      ∀ tx, Transaction.restore state = .ok tx → tx.phase = .uncertain

theorem Backend.init_preferences {preferences : Preferences} :
    (Backend.init preferences).preferences = preferences := by
  unfold Backend.init
  split
  · split_ifs <;> rfl
  · rfl

theorem Backend.init_transactionState {preferences : Preferences}
    {state : Bytes} (held : (Backend.init preferences).transactionState = some state) :
    ∃ snapshot tx, preferences.state = some snapshot ∧
    Transaction.restore snapshot = .ok tx ∧ state = tx.serialize := by
  unfold Backend.init at held
  cases stored : preferences.state with
  | none =>
    rw [stored] at held
    cases held
  | some snapshot =>
    rw [stored] at held
    dsimp only at held
    split_ifs at held
    obtain ⟨tx, restored, same⟩ := bind_eq_ok (toOption_eq_some_iff.mp held)
    refine ⟨snapshot, tx, rfl, ?_, ?_⟩
    · apply toOption_eq_some_iff.mp
      rw [← toOption_badFrame, restored]
      rfl
    · exact (Except.ok.inj same).symm

theorem queryStatus_eq_ok {updated : Bytes}
    (succeeded : back.queryStatus exchange = .ok updated) : ∃ state tx resp,
    back.transactionState = some state ∧ Transaction.restore state = .ok tx ∧
    updated = (tx.after (.status resp exchange.nonce.toUInt64)).serialize := by
  have taken {Value : Type} {msg : String} {source : Option Value}
      {value : Value} (found : available msg source = .ok value) : source = some value := by
    rw [← toOption_available _ source, found]
    rfl
  obtain ⟨state, held, succeeded⟩ := bind_eq_ok succeeded
  obtain ⟨_, _, succeeded⟩ := bind_eq_ok succeeded
  obtain ⟨_, _, succeeded⟩ := bind_eq_ok succeeded
  obtain ⟨_, _, succeeded⟩ := bind_eq_ok succeeded
  obtain ⟨_, _, succeeded⟩ := bind_eq_ok succeeded
  obtain ⟨resp, _, succeeded⟩ := bind_eq_ok succeeded
  have applied := toOption_eq_some_iff.mpr succeeded
  rw [toOption_mapError] at applied
  have stepped := snapshotStep_eq state (.status resp exchange.nonce)
  rw [snapshotStep, applied] at stepped
  obtain ⟨tx, restored, called⟩ := bind_eq_some_iff.mp stepped.symm
  obtain ⟨call, decoded, done⟩ := bind_eq_some_iff.mp called
  obtain ⟨_, _, same⟩ := map_eq_some_iff.mp done
  simp only [Input.call?] at decoded
  split_ifs at decoded
  obtain ⟨msg, _, rfl⟩ := map_eq_some_iff.mp decoded
  exact ⟨state, tx, msg, taken held, toOption_eq_some_iff.mp restored, same.symm⟩

theorem after_status_uncertain (uncertain : tx.phase = .uncertain)
    {resp : StatusMessage} {nonce : UInt64} : tx.after (.status resp nonce) = tx := by
  unfold Transaction.after
  rcases call_cases _ (.status _ _) with ⟨_, same⟩ | ⟨fact, isFact, _⟩ | ⟨answer, _, same⟩
  · exact same
  · cases isFact
  · rw [same]
    exact reconcileStatus_uncertain uncertain

theorem Backend.Lost.queryStatus (lost : back.Lost)
    {updated : Bytes} (succeeded : back.queryStatus exchange = .ok updated) : ∃ tx :
    Transaction, tx.phase = .uncertain ∧ updated = tx.serialize := by
  obtain ⟨state, tx, resp, held, restored, same⟩ := queryStatus_eq_ok succeeded
  have uncertain := lost _ (.inl held) _ restored
  rw [after_status_uncertain uncertain] at same
  exact ⟨tx, uncertain, same⟩

theorem Backend.Lost.step {back : Backend} (lost : back.Lost)
    (ev : RecoveryEvent) : (back.step ev).Lost := by
  have uncertain_serialize {tx : Transaction} (uncertain : tx.phase = .uncertain)
      {other : Transaction} (restored : Transaction.restore tx.serialize = .ok other) :
      other.phase = .uncertain := by
    rw [((Transaction.restore_serialize_eq_ok_iff _ _).mp restored).1]
    exact uncertain
  cases ev with
  | recover exchange =>
    simp only [Backend.step, recoverTransaction]
    cases asked : back.queryStatus exchange with
    | error failure => exact lost
    | ok updated =>
      obtain ⟨tx, uncertain, rfl⟩ := lost.queryStatus asked
      rintro state held other restored
      have same : state = tx.serialize := by
        rcases held with held | held
        · exact (some.inj held).symm
        · dsimp only at held
          split_ifs at held
          exact (some.inj held).symm
      rw [same] at restored
      exact uncertain_serialize uncertain restored
  | reopen =>
    rintro state held other restored
    rcases held with held | held
    · obtain ⟨snapshot, tx, stored, read, rfl⟩ := init_transactionState held
      have uncertain := lost _ (.inr stored) _ read
      exact uncertain_serialize uncertain restored
    · rw [Backend.step, init_preferences] at held
      exact lost _ (.inr held) _ restored

theorem Backend.Lost.unbonded (lost : back.Lost) {exchange : StatusExchange} :
    (back.recoverTransaction exchange).2 ≠ .ok true := by
  unfold Backend.recoverTransaction
  cases asked : back.queryStatus exchange with
  | error failure => exact nofun
  | ok updated =>
    obtain ⟨tx, uncertain, rfl⟩ := lost.queryStatus asked
    have restorable : tx.Restorable := by
      simp [Transaction.Restorable, Transaction.valid, uncertain]
    simp [phase_serialize_iff.mpr restorable, uncertain, phaseCode, Except.toOption]

theorem Backend.Recovers.not_lost (recovers : back.Recovers tx) : ¬ back.Lost := by
  intro lost
  apply recovers.certain
  apply lost _ (.inl recovers.state) _
  exact (Transaction.restore_serialize_eq_ok_iff _ _).mpr ⟨rfl, recovers.restorable⟩

def Backend.transaction? (back : Backend) : Option Transaction :=
  back.transactionState.bind fun state => (Transaction.restore state).toOption

theorem Backend.Recovers.transaction? (recovers : back.Recovers tx) :
    back.transaction? = some tx := by
  have restored : Transaction.restore tx.serialize = .ok tx :=
    (Transaction.restore_serialize_eq_ok_iff _ _).mpr ⟨rfl, recovers.restorable⟩
  unfold Backend.transaction?
  rw [recovers.state, bind_some, restored]
  rfl

/--
An accepted answer is conclusive, and the app is not started again after the
bond was reported and its snapshot removed.
-/
def Backend.Proceeds (back : Backend) : RecoveryEvent → Prop
  | .recover exchange =>
    ∀ tx, back.transaction? = some tx →
      ∀ answer, exchange.answer? tx = some answer → Conclusive tx.phase answer = true
  | .reopen => ∀ tx, back.transaction? = some tx → tx.phase ≠ .bonded

/-- A recovery can still end with the bond. -/
def Backend.Hopeful (id : TransactionId) (back : Backend) : Prop :=
  ∃ tx : Transaction, tx.id = id ∧ back.Recovers tx

/-- An answer that is not conclusive cannot be taken back. -/
theorem Backend.Recovers.inconclusive (recovers : back.Recovers tx)
    (heard : exchange.answer? tx = some answer)
    (inconclusive : ¬ Conclusive tx.phase answer = true) :
    (back.recoverTransaction exchange).1.Lost := by
  have uncertain : (tx.reconcileStatus answer).1.phase = .uncertain := by
    by_contra certain
    exact inconclusive ((certain_iff_conclusive recovers.decided recovers.certain).mp certain)
  rw [recovers.recoverTransaction heard]
  rintro state held other restored
  have same : state = (tx.reconcileStatus answer).1.serialize := by
    rcases held with held | held
    · exact (some.inj held).symm
    · dsimp only at held
      split_ifs at held
      exact (some.inj held).symm
  rw [same] at restored
  rw [((Transaction.restore_serialize_eq_ok_iff _ _).mp restored).1]
  exact uncertain

/-- One event keeps the recovery going, or it is lost. -/
theorem Backend.Hopeful.step {id : TransactionId} {back : Backend} (hopeful : back.Hopeful id)
    (ev : RecoveryEvent) : (back.Proceeds ev ∧ (back.step ev).Hopeful id) ∨
    (¬ back.Proceeds ev ∧ (back.step ev).Lost) := by
  obtain ⟨tx, bound, recovers⟩ := hopeful
  have found := recovers.transaction?
  cases ev with
  | recover exchange =>
    cases heard : exchange.answer? tx with
    | none =>
      left
      constructor
      · intro other held answer said
        obtain rfl := some.inj (found.symm.trans held)
        cases heard.symm.trans said
      · rw [Backend.step, recovers.unanswered heard]
        exact ⟨tx, bound, recovers⟩
    | some answer =>
      by_cases conclusive : Conclusive tx.phase answer = true
      · left
        constructor
        · intro other held replied said
          obtain rfl := some.inj (found.symm.trans held)
          obtain rfl := some.inj (heard.symm.trans said)
          exact conclusive
        · exact ⟨_, reconcileStatus_id.trans bound, recovers.conclusive heard conclusive⟩
      · right
        constructor
        · intro proceeds
          exact conclusive (proceeds _ found _ heard)
        · exact recovers.inconclusive heard conclusive
  | reopen =>
    by_cases bonded : tx.phase = .bonded
    · right
      constructor
      · intro proceeds
        exact proceeds _ found bonded
      · rw [Backend.step, recovers.saved, if_pos bonded]
        rintro state (held | held) <;> cases held
    · left
      constructor
      · intro other held
        obtain rfl := some.inj (found.symm.trans held)
        exact bonded
      · exact ⟨tx, bound, recovers.reopen bonded⟩

theorem answer?_response {nonce : Int64} (proper : 0 ≤ nonce)
    (tx : Transaction) (answer : StatusState) :
    StatusExchange.answer?
        ⟨nonce, true, some (StatusMessage.response tx.id nonce.toUInt64 answer).encode⟩
        tx = some answer := by
  simp [StatusExchange.answer?, Input.call?, Int64.not_lt.mpr proper,
    StatusMessage.decode_encode, Except.toOption, TransactionCall.answer?, StatusMessage.response]

theorem Backend.Recovers.reports_bonded (recovers : back.Recovers tx)
    (heard : exchange.answer? tx = some .bonded) :
    (back.recoverTransaction exchange).2 = .ok true := by
  rw [recovers.recoverTransaction heard]
  have decided := recovers.decided
  have certain := recovers.certain
  have bonded : (tx.reconcileStatus .bonded).1.phase = .bonded := by
    unfold Transaction.reconcileStatus Transaction.status
    cases phase : tx.phase <;> simp_all [Phase.Decided]
  simp [bonded]

/-- A stored snapshot with a commit decision is loaded for recovery. -/
theorem Backend.init_recovers {snapshot : Bytes} (persisted : Transaction.restore snapshot = .ok tx)
    (waiting : tx.phase = .commitPending ∨ tx.phase = .committed)
    {addr : Text} : (Backend.init ⟨some snapshot, some addr⟩).Recovers tx := by
  obtain ⟨rfl, restorable⟩ := Transaction.restore_eq_ok_iff.mp persisted
  rw [init_serialize restorable]
  have unbonded : tx.phase ≠ .bonded := by
    rcases waiting with phase | phase <;> rw [phase] <;> decide
  refine
    { state := rfl
      id := rfl, address := rfl, saved := (if_neg unbonded).symm, regular := ?_
      restorable := restorable, decided := ?_, certain := ?_ }
  · refine ⟨?_, fun _ => restorable.1⟩
    rcases waiting with phase | phase <;> simp_all [Transaction.Fresh, Transaction.valid]
  · rcases waiting with phase | phase <;> rw [phase] <;> exact trivial
  · rcases waiting with phase | phase <;> rw [phase] <;> decide

/--
A recovery that is told of the bond reports it exactly when every answer that
was accepted before was conclusive, however often the app was started again.
-/
theorem recovery_converges_iff {snapshot : Bytes} {tx : Transaction}
    (persisted : Transaction.restore snapshot = .ok tx)
    (waiting : tx.phase = .commitPending ∨ tx.phase = .committed)
    (addr : Text) (events : List RecoveryEvent) {nonce : Int64} (proper : 0 ≤ nonce) :
    let opened := Backend.init ⟨some snapshot, some addr⟩
    let bonded := StatusMessage.response tx.id nonce.toUInt64 .bonded
    ((run Backend.step opened events).recoverTransaction
        ⟨nonce, true, some bonded.encode⟩).2 = .ok true ↔
      Along Backend.step Backend.Proceeds opened events := by
  intro opened bonded
  have start : opened.Hopeful tx.id := ⟨tx, rfl, Backend.init_recovers persisted waiting⟩
  have preserved (back : Backend) (ev : RecoveryEvent)
      (either : back.Hopeful tx.id ∨ back.Lost) :
      (back.step ev).Hopeful tx.id ∨ (back.step ev).Lost := by
    rcases either with hopeful | lost
    · exact (hopeful.step _).imp And.right And.right
    · exact .inr (lost.step _)
  have not_lost {back : Backend} (hopeful : back.Hopeful tx.id) : ¬ back.Lost := by
    obtain ⟨held, _, recovers⟩ := hopeful
    exact recovers.not_lost
  have along : (run .step opened events).Hopeful tx.id ↔
      Along .step Backend.Proceeds opened events := by
    refine last_iff_along preserved ?_ ?_ (.inl start) start _
    · intro back ev _ hopeful
      rcases hopeful.step _ with ⟨proceeds, next⟩ | ⟨fails, lost⟩
      · exact ⟨fun _ => proceeds, fun _ => next⟩
      · constructor
        · exact fun next => (not_lost next lost).elim
        · exact fun proceeds => (fails proceeds).elim
    · intro back ev either hopeless next
      have lost := either.resolve_left hopeless
      exact not_lost next (lost.step _)
  rw [← along]
  have reached := run_invariant preserved (.inl start) events
  rcases reached with ⟨held, bound, recovers⟩ | lost
  · have heard := answer?_response proper held .bonded
    rw [bound] at heard
    exact ⟨fun _ => ⟨held, bound, recovers⟩, fun _ => recovers.reports_bonded heard⟩
  · constructor
    · exact fun reported => (lost.unbonded reported).elim
    · exact fun hopeful => (not_lost hopeful lost).elim

def pendingTransaction : Transaction where
  id := List.Vector.replicate 16 0
  role := .participant
  phase := .commitPending
  capabilities := .all
  confirmed := .all
  prepared := .all
  committed := .none

def answeredBy (nonce : Int64) (answer : StatusState) : StatusExchange where
  nonce := nonce
  reconnected := true
  response := some (StatusMessage.response pendingTransaction.id nonce.toUInt64 answer).encode

theorem pendingTransaction_converges :
    let opened := Backend.init ⟨some pendingTransaction.serialize, some "AA:BB".toList⟩
    let events := [.recover (answeredBy 1 .committed), .reopen]
    ((run Backend.step opened events).recoverTransaction
        (answeredBy 2 .bonded)).2 = .ok true ∧
      Along Backend.step Backend.Proceeds opened events := by
  have reported :
      ((run Backend.step
          (.init ⟨some pendingTransaction.serialize, some "AA:BB".toList⟩)
          [.recover (answeredBy 1 .committed), .reopen]).recoverTransaction
            (answeredBy 2 .bonded)).2 = .ok true := by
    decide
  exact ⟨reported, (@recovery_converges_iff _
        pendingTransaction (by decide) (.inl rfl) "AA:BB".toList _ 2 (by decide)).mp reported⟩

/-- Once the desktop could not decide, its later decision changes nothing. -/
theorem unknown_answer_final :
    let opened := Backend.init ⟨some pendingTransaction.serialize, some "AA:BB".toList⟩
    ((run Backend.step opened
        [.recover (answeredBy 1 .unknown)]).recoverTransaction
          (answeredBy 2 .bonded)).2 = .ok false := by
  decide

end DeskUnlock.Pairing.Phone
