import DeskUnlock.Pairing.PairTransaction

/-!
# What one call can do to a transaction

Every later argument about a transaction goes through the three inversion
theorems of this module, one for each way a transaction can move: a local
fact, a remote message and a reconciled status.  Each says that a call is
either `Quiet`, and then takes no part in the commit, or is one of the few
transitions that do, with the guard that enabled it.
-/

namespace DeskUnlock.Pairing

/--
The local commit decision is durable.  An uncertain attempt counts, since one
that was decided may have become uncertain.
-/
def Phase.Decided : Phase → Prop
  | .commitPending | .committed | .bonded | .uncertain => True
  | _ => False

/-- The peer has acknowledged the commit, or, `uncertain`, may have. -/
def Phase.Acknowledged : Phase → Prop
  | .committed | .bonded | .uncertain => True
  | _ => False

theorem Phase.Acknowledged.decided {phase : Phase}
    (acknowledged : phase.Acknowledged) : phase.Decided := by
  cases phase <;> simp_all [Acknowledged, Decided]

/--
A step that takes no part in the commit.  It keeps the identity, the role and
the record of verified bonds, and it moves the phase at most to `uncertain`
or between two phases without a commit decision.
-/
structure Quiet (before after : Transaction) : Prop where
  id : after.id = before.id
  role : after.role = before.role
  committed : after.committed = before.committed
  phase :
    after.phase = before.phase ∨
      after.phase = .uncertain ∨ (¬ before.phase.Decided ∧ ¬ after.phase.Decided)

section

variable (tx : Transaction)

theorem Quiet.refl : Quiet tx tx := ⟨rfl, rfl, rfl, .inl rfl⟩

theorem Quiet.decided {before after : Transaction} (quiet : Quiet before after)
    (decided : before.phase.Decided) : after.phase.Decided := by
  rcases quiet.phase with same | uncertain | ⟨undecided, _⟩
  · rwa [same]
  · rw [uncertain]
    trivial
  · exact absurd decided undecided

theorem Quiet.acknowledged {before after : Transaction} (quiet : Quiet before after)
    (acknowledged : before.phase.Acknowledged) : after.phase.Acknowledged := by
  rcases quiet.phase with same | uncertain | ⟨undecided, _⟩
  · rwa [same]
  · rw [uncertain]
    trivial
  · exact absurd acknowledged.decided undecided

/-- A quiet step does not lead into a phase that claims the commit. -/
theorem Quiet.phase_eq {before after : Transaction} (quiet : Quiet before after)
    (decided : after.phase.Decided) (certain : after.phase ≠ .uncertain) :
    after.phase = before.phase := by
  rcases quiet.phase with same | uncertain | ⟨_, undecided⟩
  · exact same
  · exact absurd uncertain certain
  · exact absurd decided undecided

theorem confirm_quiet (side : Side) : Quiet tx (tx.confirm side).1 := by
  unfold Transaction.confirm
  by_cases refused : tx.phase ≠ .oobPending ∨ tx.confirmed.get side
  · rw [if_pos refused]
    exact .refl _
  · rw [if_neg refused]
    have pending : tx.phase = .oobPending := by
      by_contra other
      exact refused (.inl other)
    dsimp only
    split
    · exact ⟨rfl, rfl, rfl, by simp [pending, Phase.Decided]⟩
    · exact ⟨rfl, rfl, rfl, .inl rfl⟩

theorem prepare_quiet (side : Side) : Quiet tx (tx.prepare side).1 := by
  unfold Transaction.prepare
  by_cases refused : tx.phase ≠ .preparing ∨ tx.prepared.get side
  · rw [if_pos refused]
    exact .refl _
  · rw [if_neg refused]
    have pending : tx.phase = .preparing := by
      by_contra other
      exact refused (.inl other)
    dsimp only
    split
    · exact ⟨rfl, rfl, rfl, by simp [pending, Phase.Decided]⟩
    · exact ⟨rfl, rfl, rfl, .inl rfl⟩

theorem disconnect_quiet : Quiet tx tx.disconnect := by
  refine ⟨rfl, rfl, rfl, ?_⟩
  unfold Transaction.disconnect
  cases phase : tx.phase <;> simp [Phase.Decided]

theorem abort_quiet (op : Operation) : Quiet tx (tx.abort op).1 := by
  unfold Transaction.abort
  split
  · exact .refl _
  · cases phase : tx.phase <;>
      first
      | exact .refl tx
      | exact ⟨rfl, rfl, rfl, by simp [phase, Phase.Decided]⟩

/-- Recording a verified bond needs, and keeps, an acknowledged decision. -/
structure Recorded (side : Side) (before after : Transaction) : Prop where
  id : after.id = before.id
  role : after.role = before.role
  enabled : before.phase = .committed
  committed : after.committed = before.committed.set side
  phase : after.phase = .committed ∨ (after.phase = .bonded ∧ after.committed = .all)

theorem recordCommitted_cases (side : Side) :
    tx.recordCommitted side = (tx, .error .invalidTransition) ∨
    (Recorded side tx (tx.recordCommitted side).1 ∧ (tx.recordCommitted side).2 = .ok ()) := by
  unfold Transaction.recordCommitted
  by_cases refused : tx.phase ≠ .committed ∨ tx.committed.get side
  · exact .inl (if_pos refused)
  · right
    have enabled : tx.phase = .committed := by
      by_contra other
      exact refused (.inl other)
    rw [if_neg refused]
    dsimp only
    split
    · rename_i complete
      exact ⟨⟨rfl, rfl, enabled, rfl, .inr ⟨rfl, complete⟩⟩, rfl⟩
    · exact ⟨⟨rfl, rfl, enabled, rfl, .inl enabled⟩, rfl⟩

theorem Recorded.acknowledged {side : Side} {before after : Transaction}
    (recorded : Recorded side before after) : after.phase.Acknowledged := by
  rcases recorded.phase with committed | ⟨bonded, _⟩
  · rw [committed]
    trivial
  · rw [bonded]
    trivial

theorem local_cases {ev : LocalEvent} :
    Quiet tx (tx.local ev).1 ∨
      (ev = .commit ∧ tx.role = .coordinator ∧
        tx.phase = .prepared ∧ (tx.local ev).1 = { tx with phase := .commitPending }) ∨
      (ev = .commitAck ∧ tx.role = .participant ∧
        tx.phase = .commitPending ∧ (tx.local ev).1 = { tx with phase := .committed }) ∨
      (ev = .committed ∧ Recorded .own tx (tx.local ev).1) := by
  cases ev with
  | verifiedExchange =>
    left
    unfold Transaction.local
    dsimp only
    split
    · rename_i enabled
      exact ⟨rfl, rfl, rfl, by simp [enabled.1, Phase.Decided]⟩
    · exact .refl _
  | capability =>
    left
    unfold Transaction.local
    dsimp only
    split
    · exact ⟨rfl, rfl, rfl, .inl rfl⟩
    · exact .refl _
  | confirm => exact .inl (confirm_quiet _ .own)
  | prepared => exact .inl (prepare_quiet _ .own)
  | commit =>
    unfold Transaction.local
    dsimp only
    split
    · rename_i enabled
      exact .inr (.inl ⟨rfl, enabled.1, enabled.2, rfl⟩)
    · exact .inl (.refl _)
  | commitAck =>
    unfold Transaction.local
    dsimp only
    split
    · rename_i enabled
      exact .inr (.inr (.inl ⟨rfl, enabled.1, enabled.2, rfl⟩))
    · exact .inl (.refl _)
  | committed =>
    rcases recordCommitted_cases _ .own with refused | ⟨recorded, _⟩
    · left
      unfold Transaction.local
      rw [refused]
      exact .refl _
    · exact .inr (.inr (.inr ⟨rfl, recorded⟩))
  | disconnected => exact .inl (disconnect_quiet _)
  | abort op => exact .inl (abort_quiet _ _)

theorem remote_cases (msg : Message) :
    Quiet tx (tx.remote msg).1 ∨
      (msg.transaction = tx.id ∧
        ((msg.operation = .commit ∧
            tx.role = .participant ∧ tx.phase = .prepared ∧
            (tx.remote msg).1 = { tx with phase := .commitPending }) ∨
          (msg.operation = .commitAck ∧
            tx.role = .coordinator ∧ tx.phase = .commitPending ∧
            (tx.remote msg).1 = { tx with phase := .committed }) ∨
          (msg.operation = .committed ∧ Recorded .peer tx (tx.remote msg).1))) := by
  unfold Transaction.remote
  by_cases foreign : msg.transaction ≠ tx.id
  · rw [if_pos foreign]
    exact .inl (.refl _)
  · rw [if_neg foreign]
    have bound : msg.transaction = tx.id := by simpa using foreign
    cases op : msg.operation with
    | capability =>
      left
      dsimp only
      split
      · exact ⟨rfl, rfl, rfl, .inl rfl⟩
      · exact .refl _
    | confirm => exact .inl (confirm_quiet _ .peer)
    | prepared => exact .inl (prepare_quiet _ .peer)
    | commit =>
      dsimp only
      split
      · rename_i enabled
        exact .inr ⟨bound, .inl ⟨rfl, enabled.1, enabled.2, rfl⟩⟩
      · exact .inl (.refl _)
    | commitAck =>
      dsimp only
      split
      · rename_i enabled
        exact .inr ⟨bound, .inr (.inl ⟨rfl, enabled.1, enabled.2, rfl⟩)⟩
      · exact .inl (.refl _)
    | committed =>
      rcases recordCommitted_cases _ .peer with refused | ⟨recorded, _⟩
      · rw [refused]
        exact .inl (.refl _)
      · exact .inr ⟨bound, .inr (.inr ⟨rfl, recorded⟩)⟩
    | reject => exact .inl (abort_quiet _ .reject)
    | cancel => exact .inl (abort_quiet _ .cancel)
    | timeout => exact .inl (abort_quiet _ .timeout)
    | error => exact .inl (abort_quiet _ .error)
    | status | statusQuery
    | statusResponse | revoke => exact .inl (.refl _)

def StatusState.Acknowledged : StatusState → Prop
  | .committed | .bonded => True
  | _ => False

theorem reconcileStatus_cases (answer : StatusState) :
    Quiet tx (tx.reconcileStatus answer).1 ∨
      (answer.Acknowledged ∧ tx.phase.Decided ∧
        ((tx.reconcileStatus answer).1 =
            { tx with phase := .committed } ∨
          (tx.reconcileStatus answer).1 = { tx with committed := .all, phase := .bonded })) := by
  unfold Transaction.reconcileStatus Transaction.status
  cases phase : tx.phase <;> cases answer <;>
    first
    | exact .inl (.refl tx)
    | exact .inr ⟨trivial, trivial, .inl rfl⟩
    | exact .inr ⟨trivial, trivial, .inr rfl⟩
    | exact .inl ⟨rfl, rfl, rfl, by simp [phase, Phase.Decided]⟩

end

/-- A failed call leaves the transaction as it was. -/
def Strict {Result : Type} (tx : Transaction) (call : Transition Result) : Prop :=
  ∀ error, call.2 = .error error → call.1 = tx

section

variable {Result : Type} (tx : Transaction)

theorem strict_ok {after : Transaction} {res : Result} : Strict tx (after, .ok res) := by
  rintro error ⟨⟩

theorem strict_error {error : TransactionError} :
    Strict tx ((tx, .error error) : Transition Result) :=
  fun _ _ => rfl

theorem strict_guarded {guard : Prop} [Decidable guard]
    {after : Transaction} {res : Result} {error : TransactionError} :
    Strict tx (if guard then (after, .ok res) else (tx, .error error)) := by
  split
  · exact strict_ok _
  · exact strict_error _

theorem confirm_strict (side : Side) : Strict tx (tx.confirm side) := by
  unfold Transaction.confirm
  split
  · exact strict_error _
  · dsimp only
    split <;> exact strict_ok _

theorem prepare_strict (side : Side) : Strict tx (tx.prepare side) := by
  unfold Transaction.prepare
  split
  · exact strict_error _
  · dsimp only
    split <;> exact strict_ok _

theorem recordCommitted_strict (side : Side) : Strict tx (tx.recordCommitted side) := by
  rcases recordCommitted_cases _ _ with refused | ⟨_, accepted⟩
  · rw [refused]
    exact strict_error _
  · intro error failed
    rw [accepted] at failed
    cases failed

theorem abort_strict {op : Operation} : Strict tx (tx.abort op) := by
  unfold Transaction.abort
  split
  · exact strict_error _
  · split
    · exact strict_error _
    · exact strict_error _
    all_goals exact strict_ok _

theorem local_strict (ev : LocalEvent) : Strict tx (tx.local ev) := by
  cases ev with
  | verifiedExchange | capability | commit | commitAck => exact strict_guarded _
  | confirm => exact confirm_strict _ .own
  | prepared => exact prepare_strict _ .own
  | committed => exact recordCommitted_strict _ .own
  | disconnected => exact strict_ok _
  | abort op => exact abort_strict _

theorem remote_strict (msg : Message) : Strict tx (tx.remote msg) := by
  unfold Transaction.remote
  split
  · exact strict_error _
  · cases msg.operation with
    | capability | commit | commitAck => exact strict_guarded _
    | confirm => exact confirm_strict _ .peer
    | prepared => exact prepare_strict _ .peer
    | committed => exact recordCommitted_strict _ .peer
    | status | statusQuery | statusResponse => exact strict_ok _
    | reject | cancel | timeout | error => exact abort_strict _
    | revoke => exact strict_error _

theorem applyStatusResponse_strict (resp : StatusMessage) (nonce : UInt64) :
    Strict tx (tx.applyStatusResponse resp nonce) := by
  unfold Transaction.applyStatusResponse
  split
  · exact strict_error _
  · split
    · exact strict_error _
    · exact strict_ok _

/--
Every call that fails leaves phase and flags as they were, and what belongs to
another transaction or answers another query fails.
-/
theorem calls_refuse_strictly :
    (∀ ev, Strict tx (tx.local ev)) ∧
      (∀ msg, Strict tx (tx.remote msg)) ∧
      (∀ resp nonce, Strict tx (tx.applyStatusResponse resp nonce)) ∧
      (∀ msg, msg.transaction ≠ tx.id → ∃ error, (tx.remote msg).2 = .error error) ∧
      ∀ (resp : StatusMessage) (nonce : UInt64),
        resp.transaction ≠ tx.id ∨ resp.nonce ≠ nonce →
          ∃ error, (tx.applyStatusResponse resp nonce).2 = .error error := by
  refine ⟨local_strict _, remote_strict _, applyStatusResponse_strict _, ?_, ?_⟩
  · intro msg foreign
    unfold Transaction.remote
    rw [if_pos foreign]
    exact ⟨_, rfl⟩
  · intro resp nonce foreign
    unfold Transaction.applyStatusResponse
    cases resp.state with
    | none => exact ⟨_, rfl⟩
    | some remote =>
      dsimp only
      rw [if_pos foreign]
      exact ⟨_, rfl⟩

end

end DeskUnlock.Pairing
