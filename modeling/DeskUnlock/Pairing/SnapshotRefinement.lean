import DeskUnlock.Pairing.TransactionRuns

/-!
# The snapshot interface and the machine in memory

The phone holds its transaction as a snapshot and passes it through
`pair_transaction_apply_local`, `apply_remote` and `apply_status`, which
restore it, make one call and serialize the result.  Beside it the same inputs
are applied to one transaction in memory.

Two kinds of steps take the two apart.  A local capability that precedes the
peer's leaves flags that `validate` refuses, and an abort leaves a phase that
`decode_phase` refuses.  In every other run both accept the same inputs and
report the same phase.
-/

namespace DeskUnlock.Pairing

open Results Runs Option

/-- What is handed to the interface besides the snapshot. -/
inductive Input where
  | local (ev : UInt8)
  | remote (msg : Bytes)
  | status (resp : Bytes) (nonce : Int64)
deriving DecidableEq

def snapshotStep (state : Bytes) : Input → Except MobileError Bytes
  | .local ev => pairTransactionApplyLocal state ev
  | .remote msg => pairTransactionApplyRemote state msg
  | .status resp nonce => pairTransactionApplyStatus state resp nonce

def Input.call? : Input → Option TransactionCall
  | .local ev => (localEventOf ev).toOption.map fun ev => .fact (.local ev)
  | .remote msg => (Message.decode msg).toOption.map fun msg => .fact (.remote msg)
  | .status resp nonce =>
    if nonce < 0 then none
    else (StatusMessage.decode resp).toOption.map fun resp => .status resp nonce.toUInt64

def Transaction.accept (tx : Transaction) (input : Input) : Transaction × Bool :=
  match input.call? with
  | none => (tx, false)
  | some call =>
    let (after, res) := tx.call call
    (after, res.isOk)

theorem toOption_badFrame {Value : Type} {res : Except TransactionError Value} :
    (badFrame res).toOption = res.toOption :=
  toOption_mapError

/-- The interface is the machine between a restore and a serialization. -/
theorem snapshotStep_eq (state : Bytes) (input : Input) : (snapshotStep state input).toOption =
    (Transaction.restore state).toOption.bind fun tx => input.call?.bind fun call =>
    (tx.call call).2.toOption.map fun _ => (tx.call call).1.serialize := by
  cases input with
  | «local» ev =>
    simp only [snapshotStep, pairTransactionApplyLocal, toOption_bind, toOption_badFrame]
    congr 1
    funext tx
    simp only [Input.call?]
    cases localEventOf ev with
    | error error => rfl
    | ok ev =>
      simp only [Except.toOption, map_some, bind_some, Transaction.call, Transaction.record]
      cases (tx.local ev).2 <;> rfl
  | remote msg =>
    simp only [snapshotStep, pairTransactionApplyRemote, toOption_bind, toOption_badFrame]
    congr 1
    funext tx
    simp only [Input.call?]
    cases Message.decode msg with
    | error error => rfl
    | ok msg =>
      simp only [Except.toOption, map_some, bind_some, Transaction.call, Transaction.record]
      cases (tx.remote msg).2 <;> rfl
  | status resp nonce =>
    simp only [snapshotStep, pairTransactionApplyStatus, Input.call?]
    by_cases negative : nonce < 0
    · rw [if_pos negative, if_pos negative]
      cases Transaction.restore state <;> rfl
    · rw [if_neg negative, if_neg negative]
      simp only [toOption_bind, toOption_badFrame]
      congr 1
      funext tx
      cases StatusMessage.decode resp with
      | error error => rfl
      | ok resp =>
        obtain ⟨bound, number, state⟩ := resp
        cases state with
        | none => rfl
        | some answer =>
          simp only [Except.toOption, map_some, bind_some, Transaction.call]
          cases (tx.applyStatusResponse ⟨bound, number, some answer⟩ nonce.toUInt64).2 <;> rfl

/--
The flags fit the phase, except that a negotiating transaction may have its
own capability alone.
-/
def Transaction.Regular (tx : Transaction) : Prop :=
  tx.Fresh ∧ (tx.phase ≠ .negotiating → tx.valid = true)

theorem new_regular {id : TransactionId} {role : Role} : (Transaction.new id role).Regular :=
  ⟨⟨fun _ => rfl, fun _ => rfl, fun _ => rfl⟩, fun moved => (moved rfl).elim⟩

theorem Advances.regular {tx after : Transaction}
    {fact : Fact} (advances : Advances tx fact after) (regular : tx.Regular) : after.Regular := by
  refine ⟨advances.fresh regular.1, ?_⟩
  obtain ⟨fresh, valid⟩ := regular
  obtain ⟨id, role, phase, capabilities, confirmed, prepared, committed⟩ := tx
  cases advances with
  | capability side enabled =>
    obtain rfl : phase = .negotiating := enabled
    exact fun moved => (moved rfl).elim
  | exchanged enabled complete =>
    obtain rfl : phase = .negotiating := enabled
    obtain rfl : capabilities = .all := complete
    obtain rfl : confirmed = .none := fresh.1 rfl
    exact fun _ => rfl
  | confirm side enabled =>
    obtain rfl : phase = .oobPending := enabled
    obtain rfl : prepared = .none := fresh.2.1 (.inr rfl)
    intro _
    by_cases complete : confirmed.set side = .all <;>
      simp_all [Transaction.valid, Flags.all, Flags.none]
  | prepared side enabled =>
    obtain rfl : phase = .preparing := enabled
    obtain rfl : committed = .none := fresh.2.2 (by simp)
    intro _
    by_cases complete : prepared.set side = .all <;> simp_all [Transaction.valid]
  | decided own enabled =>
    obtain rfl : phase = .prepared := enabled
    exact fun _ => valid (by simp)
  | acknowledged own enabled =>
    obtain rfl : phase = .commitPending := enabled
    obtain rfl : committed = .none := fresh.2.2 (by simp)
    intro _
    simp_all [Transaction.valid, Flags.all, Flags.none]
  | committed side enabled =>
    intro _
    by_cases complete : committed.set side = .all <;> simp_all [Transaction.valid]
  | ignored fact idle bound => exact valid
  | broken fact breaks bound unbonded broken =>
    obtain ⟨phase, rfl, ⟨_, rfl⟩ | ⟨_, op, rfl⟩⟩ := broken
    · exact fun _ => rfl
    · exact fun _ => rfl

/-- Every entry of the reconciliation table. -/
theorem reconcileStatus_outcome {tx : Transaction} (answer : StatusState) :
    (tx.reconcileStatus answer).1 = tx ∨
      (tx.reconcileStatus answer).1 = { tx with phase := .uncertain } ∨
      (tx.status = .preCommit ∧ answer = .aborted ∧
        (tx.reconcileStatus answer).1 = { tx with phase := .aborted .error }) ∨
      (tx.phase = .commitPending ∧
        (tx.reconcileStatus answer).1 = { tx with phase := .committed }) ∨
      ((tx.phase = .commitPending ∨ tx.phase = .committed ∨ tx.phase = .bonded) ∧
        (tx.reconcileStatus answer).1 = { tx with committed := .all, phase := .bonded }) := by
  unfold Transaction.reconcileStatus Transaction.status
  cases phase : tx.phase <;> cases answer <;> simp

variable {tx : Transaction}

theorem reconcileStatus_regular (regular : tx.Regular) {answer : StatusState} :
    (tx.reconcileStatus answer).1.Regular := by
  obtain ⟨fresh, valid⟩ := regular
  rcases reconcileStatus_outcome _ with
    same | same | ⟨_, _, same⟩ | ⟨pending, same⟩ | ⟨claimed, same⟩
  · rw [same]
    exact ⟨fresh, valid⟩
  · rw [same]
    exact ⟨by simp [Transaction.Fresh], fun _ => rfl⟩
  · rw [same]
    exact ⟨by simp [Transaction.Fresh], fun _ => rfl⟩
  · rw [same]
    refine ⟨by simp [Transaction.Fresh], fun _ => ?_⟩
    have ready := valid (by simp [pending])
    simp only [Transaction.valid, pending, Bool.and_eq_true, decide_eq_true_eq] at ready ⊢
    exact ⟨ready.1, by rw [ready.2]; decide⟩
  · rw [same]
    refine ⟨by simp [Transaction.Fresh], fun _ => ?_⟩
    rcases claimed with phase | phase | phase <;> simp_all [Transaction.valid]

theorem after_regular (regular : tx.Regular) (call : TransactionCall) :
    (tx.after call).Regular := by
  unfold Transaction.after
  rcases call_cases _ _ with ⟨_, same⟩ | ⟨fact, _, _, advances⟩ | ⟨answer, _, same⟩
  · rw [same]
    exact regular
  · exact advances.regular regular
  · rw [same]
    exact reconcileStatus_regular regular

section

variable (tx : Transaction)

/-- Its snapshot is accepted. -/
def Transaction.Restorable : Prop := tx.valid = true ∧ ∀ op, tx.phase ≠ .aborted op

/-- A call that aborts a transaction without a commit decision. -/
def TransactionCall.aborts :
    TransactionCall → Bool
  | .fact given => given.breaks && decide (given.Bound tx.id)
  | call => call.answer? tx = some .aborted

/-- Neither a lone capability nor an abort before the commit decision. -/
def Survives (call : TransactionCall) : Prop :=
  (call = .fact (.local .capability) → tx.phase = .negotiating → tx.capabilities ≠ .none) ∧
    (tx.status = .preCommit → call.aborts tx = false)

theorem status_preCommit_iff : tx.status = .preCommit ↔
    ¬ tx.phase.Decided ∧ ∀ op, tx.phase ≠ .aborted op := by
  unfold Transaction.status
  cases tx.phase <;> simp [Phase.Decided]

end

theorem aborted_of_aborts {call : TransactionCall} (aborts : call.aborts tx = true)
    (undecided : tx.status = .preCommit) : ∃ op, (tx.after call).phase = .aborted op := by
  have aborted (op : Operation) (proper : op.isAbort = true) :
      (tx.abort op).1.phase = .aborted op := by
    have early := (status_preCommit_iff _).mp undecided
    unfold Transaction.abort
    cases phase : tx.phase <;> simp_all [Phase.Decided]
  cases call with
  | fact fact =>
    obtain ⟨breaks, bound⟩ := Bool.and_eq_true_iff.mp aborts
    cases fact with
    | «local» ev =>
      cases ev with
      | disconnected =>
        refine ⟨.cancel, ?_⟩
        have early := (status_preCommit_iff _).mp undecided
        change tx.disconnect.phase = _
        unfold Transaction.disconnect
        cases phase : tx.phase <;> simp_all [Phase.Decided]
      | abort op => exact ⟨op, aborted _ breaks⟩
      | _ => cases breaks
    | remote msg =>
      obtain ⟨id, op⟩ := msg
      obtain rfl : id = tx.id := of_decide_eq_true bound
      change ∃ reason, (tx.remote _).1.phase = .aborted reason
      unfold Transaction.remote
      rw [if_neg (not_not.mpr rfl)]
      cases op with
      | reject => exact ⟨_, aborted .reject rfl⟩
      | cancel => exact ⟨_, aborted .cancel rfl⟩
      | timeout => exact ⟨_, aborted .timeout rfl⟩
      | error => exact ⟨_, aborted .error rfl⟩
      | _ => cases breaks
  | reconcile answer =>
    obtain rfl : answer = .aborted := by
      simpa [TransactionCall.aborts, TransactionCall.answer?] using aborts
    refine ⟨.error, ?_⟩
    change (tx.reconcileStatus .aborted).1.phase = _
    simp [Transaction.reconcileStatus, undecided]
  | status resp nonce =>
    have answered : (TransactionCall.status resp nonce).answer? tx = some .aborted :=
      of_decide_eq_true aborts
    rcases call_cases _ (.status _ _) with ⟨silent, _⟩ | ⟨fact, isFact, _⟩ | ⟨answer, said, same⟩
    · cases silent.symm.trans answered
    · cases isFact
    · cases said.symm.trans answered
      unfold Transaction.after
      rw [same]
      simp [Transaction.reconcileStatus, undecided]
  | restart => cases aborts

/-- A capability on its own is accepted, but not read back. -/
theorem lone_capability_invalid (negotiating : tx.phase = .negotiating)
    (first : tx.capabilities = .none) : (tx.after (.fact (.local .capability))).valid = false := by
  obtain ⟨id, role, phase, capabilities, confirmed, prepared, committed⟩ := tx
  obtain rfl : phase = .negotiating := negotiating
  obtain rfl : capabilities = .none := first
  rfl

theorem Advances.restorable {tx after : Transaction}
    {fact : Fact} (advances : Advances tx fact after) (regular : tx.Regular)
    (restorable : tx.Restorable) (survives : Survives tx (.fact fact)) : after.Restorable := by
  have settled (moved : after.phase ≠ .negotiating)
      (going : ∀ op, after.phase ≠ .aborted op) : after.Restorable :=
    ⟨(advances.regular regular).2 moved, going⟩
  cases advances with
  | capability side enabled fresh =>
    refine ⟨?_, by simp [enabled]⟩
    have valid := restorable.1
    have accompanied : side = .own → tx.capabilities ≠ .none := by
      rintro rfl
      exact survives.1 rfl enabled
    simp only [Transaction.valid] at valid ⊢
    generalize tx.capabilities = capabilities at *
    obtain ⟨own, peer⟩ := capabilities
    cases side <;> cases own <;> simp_all [Flags.set, Flags.none]
  | exchanged => exact settled (by simp) (by simp)
  | confirm side | prepared side => apply settled <;> split_ifs <;> simp
  | decided | acknowledged => exact settled (by simp) (by simp)
  | committed side => apply settled <;> split_ifs <;> simp
  | ignored fact idle bound => exact restorable
  | broken fact breaks bound unbonded broken =>
    obtain ⟨phase, rfl, ⟨_, rfl⟩ | ⟨undecided, op, rfl⟩⟩ := broken
    · exact settled (by simp) (by simp)
    · have early := (status_preCommit_iff _).mpr ⟨undecided, restorable.2⟩
      have spared := survives.2 early
      simp [TransactionCall.aborts, breaks, bound] at spared

theorem after_restorable_iff (regular : tx.Regular) (restorable : tx.Restorable)
    (call : TransactionCall) : (tx.after call).Restorable ↔ Survives tx call := by
  constructor
  · rintro ⟨valid, going⟩
    constructor
    · rintro rfl negotiating first
      rw [lone_capability_invalid negotiating first] at valid
      cases valid
    · intro undecided
      by_contra aborts
      obtain ⟨op, aborted⟩ := aborted_of_aborts (Bool.eq_true_of_not_eq_false aborts) undecided
      exact going _ aborted
  · intro survives
    have laterRegular := after_regular regular call
    unfold Transaction.after at laterRegular ⊢
    rcases call_cases _ call with ⟨_, same⟩ | ⟨fact, rfl, _, advances⟩ | ⟨answer, answered, same⟩
    · rw [same]
      exact restorable
    · exact advances.restorable regular restorable survives
    · rw [same] at laterRegular ⊢
      rcases reconcileStatus_outcome answer with
        same | same | ⟨early, rfl, same⟩ | ⟨_, same⟩ | ⟨_, same⟩
      · rw [same]
        exact restorable
      · rw [same]
        exact ⟨rfl, nofun⟩
      · have spared := survives.2 early
        have aborting : call.aborts tx = true := by
          cases call with
          | fact fact => cases answered
          | _ => exact decide_eq_true answered
        rw [aborting] at spared
        cases spared
      · rw [same] at laterRegular ⊢
        exact ⟨laterRegular.2 nofun, nofun⟩
      · rw [same] at laterRegular ⊢
        exact ⟨laterRegular.2 nofun, nofun⟩

/-- The snapshot beside the machine in memory. -/
structure Paired where
  state : Bytes
  memory : Transaction
  /-- So far both accepted the same inputs. -/
  agreed : Bool

/-- A failed call of the interface keeps the old snapshot. -/
def Paired.step (paired : Paired) (input : Input) : Paired :=
  let out := snapshotStep paired.state input
  let (memory, accepted) := paired.memory.accept input
  { state := out.toOption.getD paired.state
    memory := memory, agreed := paired.agreed && out.toOption.isSome == accepted }

def Paired.Agrees (paired : Paired) : Prop :=
  paired.agreed = true ∧ pairTransactionPhase paired.state = .ok (phaseCode paired.memory.phase)

/-- The snapshot is that of the machine for as long as both agree. -/
structure Paired.Linked (paired : Paired) : Prop where
  regular : paired.memory.Regular
  same : paired.agreed = true → paired.state = paired.memory.serialize

theorem call_refused {call : TransactionCall}
    (refused : (tx.call call).2.toOption = none) : (tx.call call).1 = tx := by
  rcases call_cases _ _ with ⟨_, same⟩ | ⟨fact, _, succeeded, _⟩ | ⟨answer, _, same⟩
  · exact same
  · rw [succeeded] at refused
    cases refused
  · rw [same] at refused
    cases refused

variable {input : Input}

theorem accept_eq {tx : Transaction} : tx.accept input =
      match input.call? with
      | none => (tx, false)
      | some call => (tx.after call, (tx.call call).2.toOption.isSome) := by
  unfold Transaction.accept
  cases input.call? with
  | none => rfl
  | some call =>
    dsimp only
    cases (tx.call call).2 <;> rfl

theorem accept_refused (refused : (tx.accept input).2 = false) : (tx.accept input).1 = tx := by
  rw [accept_eq] at refused ⊢
  cases named : input.call? with
  | none => rfl
  | some call =>
    rw [named] at refused
    exact call_refused (isSome_eq_false_iff.mp refused |> isNone_iff_eq_none.mp)

/-- A snapshot that can be read back makes the step of the machine. -/
theorem snapshotStep_serialize (restorable : tx.Restorable) :
    (snapshotStep tx.serialize input).toOption =
    if (tx.accept input).2 then some (tx.accept input).1.serialize else none := by
  have restored : Transaction.restore tx.serialize = .ok tx :=
    (Transaction.restore_serialize_eq_ok_iff _ _).mpr ⟨rfl, restorable⟩
  rw [snapshotStep_eq, restored, accept_eq]
  cases input.call? with
  | none => rfl
  | some call =>
    change (tx.call call).2.toOption.map (fun _ => (tx.call _).1.serialize) =
      if (tx.call _).2.toOption.isSome then some (tx.call _).1.serialize else none
    cases (tx.call call).2.toOption <;> rfl

theorem snapshotStep_unrestorable (stuck : ¬ tx.Restorable) :
    (snapshotStep tx.serialize input).toOption = none := by
  rw [snapshotStep_eq]
  cases restored : Transaction.restore tx.serialize with
  | error error => rfl
  | ok other => exact (stuck ((Transaction.restore_serialize_eq_ok_iff _ _).mp restored).2).elim

theorem Paired.Linked.step {paired : Paired} (linked : paired.Linked)
    (input : Input) : (paired.step input).Linked := by
  obtain ⟨state, memory, agreed⟩ := paired
  obtain ⟨regular, same⟩ := linked
  constructor
  · change (memory.accept input).1.Regular
    rw [accept_eq]
    cases input.call? with
    | none => exact regular
    | some call => exact after_regular regular _
  · intro agrees
    obtain ⟨rfl, alike⟩ := Bool.and_eq_true_iff.mp agrees
    obtain rfl : state = memory.serialize := same rfl
    have alike := beq_iff_eq.mp alike
    change (snapshotStep memory.serialize input).toOption.getD memory.serialize =
        (memory.accept input).1.serialize
    by_cases restorable : memory.Restorable
    · rw [snapshotStep_serialize restorable]
      cases accepted : (memory.accept input).2 with
      | true => rfl
      | false => rw [accept_refused accepted]; rfl
    · rw [snapshotStep_unrestorable restorable] at alike ⊢
      rw [accept_refused alike.symm]
      rfl

theorem phase_serialize_iff {tx : Transaction} :
    pairTransactionPhase tx.serialize = .ok (phaseCode tx.phase) ↔ tx.Restorable := by
  have readable := Transaction.restore_serialize_eq_ok_iff tx tx
  constructor
  · intro reported
    unfold pairTransactionPhase at reported
    cases restored : Transaction.restore tx.serialize with
    | error error =>
      rw [restored] at reported
      cases reported
    | ok other => exact ((Transaction.restore_serialize_eq_ok_iff _ _).mp restored).2
  · intro restorable
    unfold pairTransactionPhase
    rw [readable.mpr ⟨rfl, restorable⟩]
    rfl

/-- Paired runs agree where the machine can still be read back. -/
theorem Paired.Linked.agrees_iff {paired : Paired} (linked : paired.Linked) :
    paired.Agrees ↔ paired.agreed = true ∧ paired.memory.Restorable := by
  unfold Paired.Agrees
  constructor
  · rintro ⟨agreed, reported⟩
    rw [linked.same agreed] at reported
    exact ⟨agreed, phase_serialize_iff.mp reported⟩
  · rintro ⟨agreed, restorable⟩
    rw [linked.same agreed]
    exact ⟨agreed, phase_serialize_iff.mpr restorable⟩

theorem Paired.Linked.step_agrees_iff {paired : Paired} (linked : paired.Linked)
    (agrees : paired.Agrees) :
    (paired.step input).Agrees ↔ ∀ call, input.call? = some call → Survives paired.memory call := by
  obtain ⟨agreed, restorable⟩ := linked.agrees_iff.mp agrees
  have stillAgreed : (paired.step input).agreed = true := by
    simp only [Paired.step, agreed, linked.same, snapshotStep_serialize restorable]
    cases (paired.memory.accept input).2 <;> rfl
  have memory : (paired.step input).memory = (paired.memory.accept input).1 := rfl
  rw [(linked.step _).agrees_iff, memory, accept_eq]
  cases input.call? with
  | none => simp [stillAgreed, restorable]
  | some call =>
    have kept := after_restorable_iff linked.regular restorable call
    simp [stillAgreed, kept]

/--
The snapshot interface follows the machine exactly in the runs in which no
local capability comes first and nothing aborts before the commit decision.
-/
theorem snapshot_refines_iff (id : TransactionId) (role : Role) (inputs : List Input) :
    ∃ state, pairTransactionCreate id.toList role.toByte = .ok state ∧
      (Throughout Paired.step Paired.Agrees
          ⟨state, .new id role, true⟩ inputs ↔
        Along Paired.step
          (fun paired input => ∀ call, input.call? = some call → Survives paired.memory call)
          ⟨state, .new id role, true⟩ inputs) := by
  have created :
      pairTransactionCreate id.toList role.toByte = .ok (Transaction.new id role).serialize := by
    unfold pairTransactionCreate
    rw [dif_pos]
    cases role <;> rfl
  refine ⟨_, created, ?_⟩
  have linked : Paired.Linked ⟨(Transaction.new id role).serialize, .new id role, true⟩ :=
    ⟨new_regular, fun _ => rfl⟩
  have agrees : Paired.Agrees ⟨(Transaction.new id role).serialize, .new id role, true⟩ :=
    linked.agrees_iff.mpr ⟨rfl, rfl, nofun⟩
  refine throughout_iff_along ?_ ?_ linked agrees _
  · exact fun _ input linked => linked.step _
  · exact fun _ input linked agrees => linked.step_agrees_iff agrees

/--
The participant's own capability comes first and both accept it, but the
coordinator's answer is taken by the machine alone.  After a cancellation the
machine is aborted and the snapshot reports no phase.
-/
theorem snapshot_diverges :
    let id : TransactionId := List.Vector.replicate 16 0
    let state := (Transaction.new id .participant).serialize
    let reached := run Paired.step ⟨state, .new id .participant, true⟩
    let answered := reached [.local 0, .remote (Message.encode ⟨id, .capability⟩)]
    let cancelled := reached [.local 9]
    pairTransactionCreate id.toList 1 = .ok state ∧
      (answered.memory.capabilities = .all ∧ answered.agreed = false) ∧
      (cancelled.memory.phase = .aborted .cancel ∧
        (pairTransactionPhase cancelled.state).isOk = false) := by
  decide

end DeskUnlock.Pairing
