import DeskUnlock.Recovery.Custody
import DeskUnlock.Recovery.Reconcile

/-!
# What the phone's status makes of the staging

`apply_status_decision` runs the reconciliation of the transaction twice, with
the recording of the local commit in between, and acts on the phase that is
left.  For a transaction recovered from a journal the net effect is a table
over the journal's state and the phone's.
-/

namespace DeskUnlock.Recovery

open FilePrograms
open Pairing

section

variable (libs : Primitives)

def applyStatusDecision (pending : Bond) (tx : Transaction)
    (resp : StatusMessage) (nonce : UInt64) : ReconcileM ReconcileResult := do
  let res ← ReconcileM.ofExcept id (statusDecision tx resp nonce)
  carryOut libs pending res

/-- `finalize`, which activates the staged bond. -/
def promoting (pending : Bond) : ReconcileM ReconcileResult := do
  finalize libs pending
  return .bonded

end

/-- `clear_recovery`, which drops the staged bond. -/
def removing (pending : Bond) : ReconcileM ReconcileResult := do
  clearRecovery pending.peerId
  return .aborted

/-- Whatever the system makes of its calls, every file stays as it was. -/
def LeavesDisk {Value : Type} (prog : ReconcileM Value) : Prop :=
  ∀ disk, Fallible.Holds (fun _ => True) (· = disk) (fun after _ => after = disk) prog disk

def Answers (id : TransactionId) (nonce : UInt64) (resp : StatusMessage)
    (remote : StatusState) : Prop :=
  resp.transaction = id ∧ resp.nonce = nonce ∧ resp.state = some remote

variable {remote : StatusState}

theorem Answers.iff {id : TransactionId} {nonce : UInt64} {resp : StatusMessage}
    (answers : Answers id nonce resp remote) (other : StatusState) :
    Answers id nonce resp other ↔ remote = other := by
  obtain ⟨same, fresh, known⟩ := answers
  simp [Answers, same, fresh, known]

/-- What a journal in this state and the phone's status amount to. -/
def JournalState.decide : JournalState → StatusState → ReconcileResult
  | .commitPending, .committed | .commitPending, .bonded => .bonded
  | .preCommit, .aborted => .aborted
  | _, _ => .uncertain

theorem JournalState.decide_eq_bonded_iff {state : JournalState} {remote : StatusState} :
    state.decide remote = .bonded ↔
      state = .commitPending ∧ (remote = .committed ∨ remote = .bonded) := by
  cases state <;> cases remote <;> simp [decide]

theorem JournalState.decide_eq_aborted_iff {state : JournalState} {remote : StatusState} :
    state.decide remote = .aborted ↔ state = .preCommit ∧ remote = .aborted := by
  cases state <;> cases remote <;> simp [decide]

def JournalState.recovered (state : JournalState) (id : TransactionId) :
    Transaction where
  id := id
  role := .coordinator
  phase :=
    match state with
    | .preCommit => .prepared
    | .commitPending => .commitPending
  capabilities := .all
  confirmed := .all
  prepared := .all
  committed := .none

theorem fromRecoveryStatus_status {state : JournalState} {id : TransactionId} :
    Transaction.fromRecoveryStatus id .coordinator state.status = .ok (state.recovered id) := by
  cases state <;> rfl

section

variable (state : JournalState) {id : TransactionId} {nonce : UInt64} {resp : StatusMessage}

/-- The two reconciliations and the event between them, as one table. -/
theorem statusDecision_of_answers (answers : Answers id nonce resp remote) :
    statusDecision (state.recovered id) resp nonce = .ok (state.decide remote) := by
  obtain ⟨rfl, rfl, known⟩ := answers
  have own :
      ¬ (resp.transaction ≠ (state.recovered resp.transaction).id ∨ resp.nonce ≠ resp.nonce) := by
    simp [JournalState.recovered]
  simp only [statusDecision, Transaction.applyStatusResponse, known, if_neg own]
  cases state <;> cases remote <;> rfl

theorem statusDecision_of_not_answers (unanswered : ∀ remote, ¬ Answers id nonce resp remote) :
    ∃ error, statusDecision (state.recovered id) resp nonce = .error error := by
  unfold statusDecision
  cases known : resp.state with
  | none => exact ⟨_, rfl⟩
  | some remote =>
    have other : resp.transaction ≠ (state.recovered id).id ∨ resp.nonce ≠ nonce := by
      by_contra same
      rw [not_or, not_not, not_not] at same
      exact unanswered _ ⟨same.1, same.2, known⟩
    simp only [Transaction.applyStatusResponse, known, if_pos other]
    exact ⟨_, rfl⟩

end

section

variable (libs : Primitives) (pending : Bond)

theorem leavesDisk_of_done {prog : ReconcileM ReconcileResult}
    {reply : Except ReconcileError ReconcileResult}
    (ended : ExceptT.run prog = Prog.done reply) : LeavesDisk prog := by
  intro disk
  rw [Fallible.Holds, ended]
  exact ⟨rfl, rfl⟩

theorem promoting_eq_read :
    ∃ next, ExceptT.run (promoting libs pending) = Prog.read .pendingBond next :=
  ⟨_, rfl⟩

theorem removing_eq_act :
    ∃ next, ExceptT.run (removing pending) = Prog.act (.remove .journal) next :=
  ⟨_, rfl⟩

theorem carryOut_eq_promoting_iff {res : ReconcileResult} :
    carryOut libs pending res = promoting libs pending ↔ res = .bonded := by
  obtain ⟨other, act⟩ := removing_eq_act _
  constructor
  · intro same
    have runs := congrArg ExceptT.run same
    cases res with
    | bonded => rfl
    | aborted => cases act.symm.trans runs
    | uncertain => cases runs
  · rintro rfl
    rfl

theorem carryOut_eq_removing_iff {res : ReconcileResult} :
    carryOut libs pending res = removing pending ↔ res = .aborted := by
  obtain ⟨next, read⟩ := promoting_eq_read _ _
  constructor
  · intro same
    have runs := congrArg ExceptT.run same
    cases res with
    | bonded => cases read.symm.trans runs
    | aborted => rfl
    | uncertain => cases runs
  · rintro rfl
    rfl

theorem exec_removing {disk : BondDisk} (files : StagingFiles pending.peerId disk)
    {path : BondPath} (staging : StagingPath pending.peerId path) :
    (Fallible.exec disk (removing pending)).1 path = none := by
  change (Fallible.exec disk (discard pending.peerId)).1 path = none
  rw [exec_discard files]
  cases path with
  | journal | pendingBond => simp
  | pendingKey other =>
    obtain rfl : other = pending.peerId := staging
    simp
  | _ => cases staging

theorem removing_holds (disk : BondDisk) :
    Fallible.Holds (fun _ => True) (SameButStaging pending.peerId disk)
      (fun _ reply => reply = .ok .aborted) (removing pending) disk := by
  apply Fallible.holds_bind
  apply Prog.Holds.bind
  apply discard_keeps.imp fun _ same => same
  rintro after _ same rfl
  exact ⟨same, same, rfl⟩

theorem promoting_holds (roundTrip : libs.RoundTrip) {ctx : PairCommitContext}
    (named : peerIdOf libs ctx = pending.peerId) {disk : BondDisk}
    (staged : Staged libs ctx .commitPending disk) :
    Fallible.Holds (fun _ => True) (Held libs ctx)
      (fun after reply => reply = .ok .bonded → Trusted libs ctx after)
      (promoting libs pending) disk := by
  unfold promoting finalize
  rw [← named]
  apply Fallible.holds_bind
  apply Prog.Holds.bind
  apply (promote_holds roundTrip staged).imp fun _ held => held
  intro after reply held trusted
  cases reply with
  | error error => exact ⟨held, nofun⟩
  | ok _ => exact ⟨held, held, fun _ => trusted rfl⟩

end

section

variable (libs : Primitives) (state : JournalState)
  (id : TransactionId) (pending : Bond) (resp : StatusMessage)
  (nonce : UInt64)

theorem applyStatusDecision_of_answers (answers : Answers id nonce resp remote) :
    applyStatusDecision libs pending (state.recovered id) resp nonce =
    carryOut libs pending (state.decide remote) := by
  rw [applyStatusDecision, statusDecision_of_answers _ answers]
  rfl

theorem applyStatusDecision_of_not_answers (unanswered : ∀ remote, ¬ Answers id nonce resp remote) :
    ∃ error, applyStatusDecision libs pending (state.recovered id) resp nonce = throw error := by
  obtain ⟨error, refused⟩ := statusDecision_of_not_answers _ unanswered
  refine ⟨error, ?_⟩
  rw [applyStatusDecision, refused]
  rfl

/--
What becomes of the staging under a status of the phone.  A promotion is the
run of `promote` itself, whatever the system makes of its calls.
-/
structure Settles (prog : ReconcileM ReconcileResult) : Prop where
  /-- A query, or the answer to another query, changes nothing. -/
  refuses :
    resp.state = none ∨ resp.transaction ≠ id ∨ resp.nonce ≠ nonce → LeavesDisk prog
  /-- The local commit decision is durable and the phone has committed. -/
  promotes :
    prog = promoting libs pending ↔
      state = .commitPending ∧ (Answers id nonce resp .committed ∨ Answers id nonce resp .bonded)
  /-- The staged attempt is promoted, or stays in custody. -/
  trusts :
    prog = promoting libs pending → libs.RoundTrip →
      ∀ ctx disk, peerIdOf libs ctx = pending.peerId → Staged libs ctx .commitPending disk →
        Fallible.Holds (fun _ => True) (Held libs ctx)
          (fun after reply => reply = .ok .bonded → Trusted libs ctx after) prog disk
  /-- There is no such decision and the phone has aborted. -/
  removes : prog = removing pending ↔ state = .preCommit ∧ Answers id nonce resp .aborted
  /-- A removal changes nothing but the staging of the peer. -/
  keepsTrust :
    prog = removing pending →
      ∀ disk,
        Fallible.Holds (fun _ => True) (SameButStaging pending.peerId disk)
          (fun _ reply => reply = .ok .aborted) prog disk
  /-- Without a fault the staging is gone after it. -/
  clears :
    prog = removing pending →
      ∀ disk, StagingFiles pending.peerId disk →
        ∀ path, StagingPath pending.peerId path → (Fallible.exec disk prog).1 path = none
  /-- In every other case all files stay as they were. -/
  retains : prog ≠ promoting libs pending → prog ≠ removing pending → LeavesDisk prog

theorem settles_of_answers (answers : Answers id nonce resp remote) :
    Settles libs state id pending resp nonce (carryOut libs pending (state.decide remote)) where
  refuses := by
    obtain ⟨same, fresh, known⟩ := answers
    rintro (query | other | stale)
    · rw [known] at query
      cases query
    · exact (other same).elim
    · exact (stale fresh).elim
  promotes := by
    rw [carryOut_eq_promoting_iff, JournalState.decide_eq_bonded_iff, answers.iff, answers.iff]
  trusts := by
    intro same roundTrip ctx disk named staged
    rw [same]
    exact promoting_holds _ _ roundTrip named staged
  removes := by rw [carryOut_eq_removing_iff, JournalState.decide_eq_aborted_iff, answers.iff]
  keepsTrust := by
    intro same
    rw [same]
    exact removing_holds _
  clears := by
    intro same disk files path staging
    rw [same]
    exact exec_removing _ files staging
  retains := by
    rw [Ne, carryOut_eq_promoting_iff, Ne, carryOut_eq_removing_iff]
    intro unpromoted unremoved
    cases decided : state.decide remote with
    | bonded => exact (unpromoted decided).elim
    | aborted => exact (unremoved decided).elim
    | uncertain => exact leavesDisk_of_done rfl

theorem settles_of_not_answers {error : ReconcileError}
    (unanswered : ∀ remote, ¬ Answers id nonce resp remote) :
    Settles libs state id pending resp nonce (throw error) := by
  obtain ⟨next, read⟩ := promoting_eq_read _ _
  obtain ⟨other, act⟩ := removing_eq_act _
  have unpromoted : throw error ≠ promoting libs pending := by
    intro same
    cases (congrArg ExceptT.run same).trans read
  have unremoved : throw error ≠ removing pending := by
    intro same
    cases (congrArg ExceptT.run same).trans act
  have left : LeavesDisk (throw error : ReconcileM ReconcileResult) := leavesDisk_of_done rfl
  exact
    { refuses := fun _ => left
      promotes := by simp [unpromoted, unanswered], removes := by simp [unremoved, unanswered]
      trusts := fun same => (unpromoted same).elim
      keepsTrust := fun same => (unremoved same).elim, clears := fun same => (unremoved same).elim
      retains := fun _ _ => left }

end

end DeskUnlock.Recovery
