import DeskUnlock.Recovery.Journal

/-!
# Two readers of one journal

`syauth-cli/src/reconcile.rs` does not use `read_journal`: `run_reconcile`
parses the journal text itself.  Both readers share the rules for fields and
identifiers.  They differ in the meaning of the `state` field: where it is
missing, and for the value `aborted`.
-/

namespace DeskUnlock.Recovery

open Results Texts Option
open Pairing (TransactionId StatusState)

/-- What `run_reconcile` takes from the journal. -/
structure RecoveredJournal where
  id : TransactionId
  peerId : Text
  address : Text
  localStatus : StatusState

def parseLocalStatus (value : Text) : Except JournalFault StatusState :=
  if value = "pre_commit".toList then .ok .preCommit
  else if value = "commit_pending".toList then .ok .commitPending
  else if value = "aborted".toList then .ok .aborted else .error .malformed

/-- The parts of `run_reconcile` that parse the text of the journal. -/
def reconcileJournalText (text : Text) :
    Except JournalFault RecoveredJournal := do
  let idText ← requiredField "transaction_id".toList text
  let id ← parseTransactionId idText
  let peerId ← requiredField "peer_id".toList text
  let addr ← requiredField "peer_address".toList text
  let localStatus ← parseLocalStatus ((field "state".toList text).getD "commit_pending".toList)
  return { id, peerId, address := addr, localStatus }

def JournalState.status : JournalState → StatusState
  | .preCommit => .preCommit
  | .commitPending => .commitPending

/-- Both readers reject the text, or both accept it with one meaning. -/
def ReadersAgree (text : Text) : Prop :=
  match readJournalText text, reconcileJournalText text with
  | .ok record, .ok recovered =>
    record.transaction = recovered.id ∧
      record.peerId = recovered.peerId ∧ record.peerAddress = recovered.address ∧
      record.state.status = recovered.localStatus
  | .error _, .error _ => True
  | _, _ => False

/-- The three fields that every journal has. -/
def Identified (text : Text) : Prop :=
  (∃ idText id,
      field "transaction_id".toList text = some idText ∧ parseTransactionId idText = .ok id) ∧
    (∃ peerId, field "peer_id".toList text = some peerId) ∧
    ∃ addr, field "peer_address".toList text = some addr

/-- With the rest in place, each reader depends on the state alone. -/
theorem readers_of_identified {text : Text} (identified : Identified text) :
    ∃ id peerId addr,
      readJournalText text =
          (do
            let state ← parseJournalState ((field "state".toList text).getD "pre_commit".toList)
            return ⟨id, peerId, addr, state⟩) ∧
        reconcileJournalText text =
          (do
            let status ← parseLocalStatus ((field "state".toList text).getD "commit_pending".toList)
            return ⟨id, peerId, addr, status⟩) := by
  obtain ⟨⟨idText, id, idField, parsed⟩, ⟨peerId, peerField⟩, addr, addressField⟩ := identified
  refine ⟨id, peerId, addr, ?_, ?_⟩
  · simp only [readJournalText, requiredField, idField, peerField, addressField]
    simp only [bind, Except.bind, parsed]
  · simp only [reconcileJournalText, requiredField, idField, peerField, addressField]
    simp only [bind, Except.bind, parsed]

/-- What an accepted text has in common for both readers. -/
theorem identified_of_read {text : Text}
    {record : JournalRecord} (accepted : readJournalText text = .ok record) : Identified text := by
  obtain ⟨idText, idField, accepted⟩ := bind_eq_ok accepted
  obtain ⟨id, parsed, accepted⟩ := bind_eq_ok accepted
  obtain ⟨state, _, accepted⟩ := bind_eq_ok accepted
  obtain ⟨peerId, peerField, accepted⟩ := bind_eq_ok accepted
  obtain ⟨addr, addressField, _⟩ := bind_eq_ok accepted
  exact ⟨⟨idText, id, requiredField_eq_ok idField, parsed⟩, ⟨peerId, requiredField_eq_ok peerField⟩,
      ⟨addr, requiredField_eq_ok addressField⟩⟩

theorem identified_of_reconcile {text : Text} {recovered : RecoveredJournal}
    (accepted : reconcileJournalText text = .ok recovered) : Identified text := by
  obtain ⟨idText, idField, accepted⟩ := bind_eq_ok accepted
  obtain ⟨id, parsed, accepted⟩ := bind_eq_ok accepted
  obtain ⟨peerId, peerField, accepted⟩ := bind_eq_ok accepted
  obtain ⟨addr, addressField, _⟩ := bind_eq_ok accepted
  exact ⟨⟨idText, id, requiredField_eq_ok idField, parsed⟩, ⟨peerId, requiredField_eq_ok peerField⟩,
      ⟨addr, requiredField_eq_ok addressField⟩⟩

def StatesAgree :
    Except JournalFault JournalState → Except JournalFault StatusState → Prop
  | .ok state, .ok status => state.status = status
  | .error _, .error _ => True
  | _, _ => False

/-- The two readings of a written state agree unless it is `aborted`. -/
theorem statesAgree_iff {value : Text} :
    StatesAgree (parseJournalState value) (parseLocalStatus value) ↔ value ≠ "aborted".toList := by
  unfold parseJournalState parseLocalStatus
  by_cases preCommit : value = "pre_commit".toList
  · rw [if_pos preCommit, preCommit]
    exact iff_of_true rfl (by decide)
  · rw [if_neg preCommit, if_neg preCommit]
    by_cases commitPending : value = "commit_pending".toList
    · rw [if_pos commitPending, commitPending]
      exact iff_of_true rfl (by decide)
    · rw [if_neg commitPending, if_neg commitPending]
      by_cases aborted : value = "aborted".toList
      · rw [if_pos aborted]
        exact iff_of_false id (not_not_intro aborted)
      · rw [if_neg aborted]
        exact iff_of_true trivial aborted

/-- On an identified text the readers agree when their states do. -/
theorem readersAgree_of_identified {text : Text} (identified : Identified text) :
    ReadersAgree text ↔
      StatesAgree
        (parseJournalState ((field "state".toList text).getD "pre_commit".toList))
        (parseLocalStatus ((field "state".toList text).getD "commit_pending".toList)) := by
  obtain ⟨id, peerId, addr, read, reconcile⟩ := readers_of_identified identified
  rw [ReadersAgree, read, reconcile]
  cases parseJournalState ((field "state".toList text).getD "pre_commit".toList) <;>
    cases parseLocalStatus ((field "state".toList text).getD "commit_pending".toList) <;>
    simp [StatesAgree, bind, Except.bind, pure, Except.pure]

/--
The two readers agree on a text exactly when it is not identified, or has a
`state` field whose first value is not `aborted`.
-/
theorem readersAgree_iff (text : Text) :
    ReadersAgree text ↔
      ¬ Identified text ∨
        ∃ value, field "state".toList text = some value ∧ value ≠ "aborted".toList := by
  by_cases identified : Identified text
  · rw [readersAgree_of_identified identified]
    cases found : field "state".toList text with
    | none =>
      -- The defaults differ: one reader says pre-commit, one commit-pending.
      exact iff_of_false nofun (by simp [identified])
    | some value =>
      rw [getD_some, getD_some, statesAgree_iff]
      simp [identified]
  · have rejected : ∀ record, readJournalText text ≠ .ok record :=
      fun record accepted => identified (identified_of_read accepted)
    have unrecovered : ∀ recovered, reconcileJournalText text ≠ .ok recovered :=
      fun recovered accepted => identified (identified_of_reconcile accepted)
    constructor
    · exact fun _ => .inl identified
    · intro _
      unfold ReadersAgree
      cases read : readJournalText text with
      | ok record => exact (rejected _ read).elim
      | error fault =>
        cases reconcile : reconcileJournalText text with
        | ok recovered => exact (unrecovered _ reconcile).elim
        | error fault => exact trivial

def statelessJournal : Text :=
  ("version=2\ntransaction_id=00000000000000000000000000000000\n" ++
    "peer_id=a1\npeer_address=AA:BB\n").toList

theorem statelessJournal_read_differently :
    (readJournalText statelessJournal).map (·.state) = .ok .preCommit ∧
      (reconcileJournalText statelessJournal).map (·.localStatus) = .ok .commitPending ∧
      ¬ ReadersAgree statelessJournal := by
  have read : (readJournalText statelessJournal).map (·.state) = .ok .preCommit := by decide +kernel
  have reconciled :
      (reconcileJournalText statelessJournal).map (·.localStatus) = .ok .commitPending := by
    decide +kernel
  refine ⟨read, reconciled, ?_⟩
  unfold ReadersAgree
  cases first : readJournalText statelessJournal with
  | error fault => simp [first, Except.map] at read
  | ok record =>
    cases second : reconcileJournalText statelessJournal with
    | error fault => simp
    | ok recovered =>
      simp only [first, Except.map, Except.ok.injEq] at read
      simp only [second, Except.map, Except.ok.injEq] at reconciled
      simp [read, reconciled, JournalState.status]

end DeskUnlock.Recovery
