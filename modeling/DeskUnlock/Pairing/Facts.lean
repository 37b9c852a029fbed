import DeskUnlock.Foundation.Runs
import DeskUnlock.Pairing.Snapshot
import DeskUnlock.Pairing.Transitions

/-!
# Facts and calls of a transaction

A fact is a local event or a remote message.  A transaction that refuses a
fact stays as it is; one that accepts it makes one of the transitions of
`Advances`, which name the flags as well as the phase.  A call is a fact, a
status answer, or a restart from the snapshot.
-/

namespace DeskUnlock.Pairing

/-- A local event, or a message of the peer. -/
inductive Fact where
  | local (ev : LocalEvent)
  | remote (msg : Message)
deriving DecidableEq

variable (tx : Transaction)

def Transaction.record :
    Fact → Transition Unit
  | .local ev => tx.local ev
  | .remote msg => tx.remote msg

/-- The facts that both sides have to establish. -/
inductive Milestone where
  | capability
  | confirm
  | prepared
  | committed
deriving DecidableEq

variable (id : TransactionId)

def Milestone.fact : Milestone → Side → Fact
  | .capability, .own => .local .capability
  | .capability, .peer => .remote ⟨id, .capability⟩
  | .confirm, .own => .local .confirm
  | .confirm, .peer => .remote ⟨id, .confirm⟩
  | .prepared, .own => .local .prepared
  | .prepared, .peer => .remote ⟨id, .prepared⟩
  | .committed, .own => .local .committed
  | .committed, .peer => .remote ⟨id, .committed⟩

def decisionFact : Role → Fact
  | .coordinator => .local .commit
  | .participant => .remote ⟨id, .commit⟩

def acknowledgementFact : Role → Fact
  | .coordinator => .remote ⟨id, .commitAck⟩
  | .participant => .local .commitAck

def Fact.idle : Fact → Bool
  | .local .disconnected => true
  | .remote msg =>
    match msg.operation with
    | .status | .statusQuery | .statusResponse => true
    | _ => false
  | _ => false

def Fact.breaks : Fact → Bool
  | .local .disconnected => true
  | .local (.abort op) => op.isAbort
  | .remote msg => msg.operation.isAbort
  | _ => false

def Fact.Bound : Fact → Prop
  | .local _ => True
  | .remote msg => msg.transaction = id

instance (id : TransactionId) (fact : Fact) : Decidable (fact.Bound id) :=
  match fact with
  | .local _ => isTrue trivial
  | .remote msg => decEq msg.transaction id

/-- Without a commit decision an abort, with one an uncertain outcome. -/
def Transaction.Broken (before after : Transaction) : Prop :=
  ∃ phase,
    after = { before with phase } ∧
      ((before.phase.Decided ∧ phase = .uncertain) ∨
        (¬ before.phase.Decided ∧ ∃ op, phase = .aborted op))

/-- Everything that an accepted fact does. -/
inductive Advances (tx : Transaction) : Fact → Transaction → Prop
  | capability (side : Side)
      (enabled : tx.phase = .negotiating) (fresh : tx.capabilities.get side = false) :
      Advances tx (Milestone.capability.fact tx.id side)
        { tx with capabilities := tx.capabilities.set side }
  | exchanged (enabled : tx.phase = .negotiating)
      (complete : tx.capabilities = .all) :
      Advances tx (.local .verifiedExchange) { tx with phase := .oobPending }
  | confirm (side : Side)
      (enabled : tx.phase = .oobPending) (fresh : tx.confirmed.get side = false) :
      Advances tx (Milestone.confirm.fact tx.id side)
        { tx with
          confirmed := tx.confirmed.set side
          phase := if tx.confirmed.set side = .all then .preparing else .oobPending }
  | prepared (side : Side)
      (enabled : tx.phase = .preparing) (fresh : tx.prepared.get side = false) :
      Advances tx (Milestone.prepared.fact tx.id side)
        { tx with
          prepared := tx.prepared.set side
          phase := if tx.prepared.set side = .all then .prepared else .preparing }
  | decided {role : Role} (own : tx.role = role)
      (enabled : tx.phase = .prepared) :
      Advances tx (decisionFact tx.id role) { tx with phase := .commitPending }
  | acknowledged {role : Role} (own : tx.role = role)
      (enabled : tx.phase = .commitPending) :
      Advances tx (acknowledgementFact tx.id role) { tx with phase := .committed }
  | committed (side : Side)
      (enabled : tx.phase = .committed) (fresh : tx.committed.get side = false) :
      Advances tx (Milestone.committed.fact tx.id side)
        { tx with
          committed := tx.committed.set side
          phase := if tx.committed.set side = .all then .bonded else .committed }
  | ignored (fact : Fact) (idle : fact.idle = true) (bound : fact.Bound tx.id) : Advances tx fact tx
  | broken (fact : Fact) (breaks : fact.breaks = true)
      (bound : fact.Bound tx.id) (unbonded : tx.phase ≠ .bonded)
      {after : Transaction} (broken : tx.Broken after) : Advances tx fact after

/-- The call fails and changes nothing. -/
def Transaction.Refused {Result : Type} (tx : Transaction)
    (out : Transition Result) : Prop :=
  out.1 = tx ∧ ∃ error, out.2 = .error error

/-- The fact is refused, or advances the transaction. -/
def Transaction.Responds (fact : Fact) (out : Transition Unit) : Prop :=
  tx.Refused out ∨ (out.2 = .ok () ∧ Advances tx fact out.1)

theorem responds_ite {tx after : Transaction} {fact : Fact} {enabled : Prop}
    [Decidable enabled] {error : TransactionError} (advances : enabled → Advances tx fact after) :
    tx.Responds fact (if enabled then (after, .ok ()) else (tx, .error error)) := by
  split_ifs with holds
  · exact .inr ⟨rfl, advances holds⟩
  · exact .inl ⟨rfl, _, rfl⟩

/-- The first side to reach a milestone leaves the phase, the second ends it. -/
theorem responds_milestone {tx flagged : Transaction} {fact : Fact} {pending next : Phase}
    {taken : Bool} {completes : Prop} [Decidable completes] {error : TransactionError}
    (same : flagged.phase = tx.phase)
    (advances :
      tx.phase = pending → taken = false →
        Advances tx fact { flagged with phase := if completes then next else pending }) :
    tx.Responds fact
      (if tx.phase ≠ pending ∨ taken = true then (tx, .error error)
      else if completes then ({ flagged with phase := next }, .ok ()) else (flagged, .ok ())) := by
  split_ifs with refuses finishes
  · exact .inl ⟨rfl, _, rfl⟩
  all_goals
    obtain ⟨enabled, fresh⟩ := not_or.mp refuses
    have moved := advances (not_not.mp enabled) (Bool.eq_false_of_not_eq_true fresh)
  · rw [if_pos finishes] at moved
    exact .inr ⟨rfl, moved⟩
  · rw [if_neg finishes, ← not_not.mp enabled, ← same] at moved
    exact .inr ⟨rfl, moved⟩

theorem confirm_responds (side : Side) :
    tx.Responds (Milestone.confirm.fact tx.id side) (tx.confirm side) :=
  responds_milestone rfl (Advances.confirm side)

theorem prepare_responds (side : Side) :
    tx.Responds (Milestone.prepared.fact tx.id side) (tx.prepare side) :=
  responds_milestone rfl (Advances.prepared side)

theorem recordCommitted_responds (side : Side) :
    tx.Responds (Milestone.committed.fact tx.id side) (tx.recordCommitted side) :=
  responds_milestone rfl (Advances.committed side)

/-- An abort is refused, or breaks a transaction that is not bonded. -/
theorem abort_responds {tx : Transaction} {fact : Fact} {op : Operation}
    (breaks : fact.breaks = op.isAbort) (bound : fact.Bound tx.id) :
    tx.Responds fact (tx.abort op) := by
  unfold Transaction.abort
  split_ifs with proper
  · exact .inl ⟨rfl, _, rfl⟩
  · rw [Bool.not_eq_true', Bool.not_eq_false] at proper
    rw [proper] at breaks
    split
    · exact .inl ⟨rfl, _, rfl⟩
    · exact .inl ⟨rfl, _, rfl⟩
    all_goals refine .inr ⟨rfl, .broken _ breaks bound ?_ ⟨_, rfl, ?_⟩⟩
    all_goals simp_all [Phase.Decided]

theorem disconnect_advances : Advances tx (.local .disconnected) tx.disconnect := by
  unfold Transaction.disconnect
  cases phase : tx.phase with
  | bonded | aborted op =>
    dsimp only
    rw [← phase]
    exact .ignored _ rfl trivial
  | _ =>
    refine .broken (.local .disconnected) rfl trivial ?_ ⟨_, rfl, ?_⟩
    all_goals simp [phase, Phase.Decided]

/-- A fact is refused without effect, or advances the transaction. -/
theorem record_responds (fact : Fact) : tx.Responds fact (tx.record fact) := by
  cases fact with
  | «local» ev =>
    cases ev with
    | capability =>
      exact
        responds_ite fun enabled =>
          .capability .own enabled.1 (Bool.eq_false_of_not_eq_true enabled.2)
    | verifiedExchange => exact responds_ite fun enabled => .exchanged enabled.1 enabled.2
    | confirm => exact confirm_responds _ .own
    | prepared => exact prepare_responds _ .own
    | commit => exact responds_ite fun enabled => .decided enabled.1 enabled.2
    | commitAck => exact responds_ite fun enabled => .acknowledged enabled.1 enabled.2
    | committed => exact recordCommitted_responds _ .own
    | disconnected => exact .inr ⟨rfl, disconnect_advances _⟩
    | abort op =>
      refine abort_responds ?_ trivial
      rfl
  | remote msg =>
    obtain ⟨id, op⟩ := msg
    change tx.Responds _ (tx.remote ⟨id, op⟩)
    unfold Transaction.remote
    by_cases foreign : id ≠ tx.id
    · rw [if_pos foreign]
      exact .inl ⟨rfl, _, rfl⟩
    · rw [if_neg foreign]
      obtain rfl : id = tx.id := not_not.mp foreign
      cases op with
      | capability =>
        exact
          responds_ite fun enabled =>
            .capability .peer enabled.1 (Bool.eq_false_of_not_eq_true enabled.2)
      | confirm => exact confirm_responds _ .peer
      | prepared => exact prepare_responds _ .peer
      | commit => exact responds_ite fun enabled => .decided enabled.1 enabled.2
      | commitAck => exact responds_ite fun enabled => .acknowledged enabled.1 enabled.2
      | committed => exact recordCommitted_responds _ .peer
      | status | statusQuery
      | statusResponse => exact .inr ⟨rfl, .ignored _ rfl rfl⟩
      | reject | cancel | timeout
      | error => refine abort_responds ?_ ?_ <;> rfl
      | revoke => exact .inl ⟨rfl, _, rfl⟩

theorem Advances.bound {tx after : Transaction}
    {fact : Fact} (advances : Advances tx fact after) : fact.Bound tx.id := by
  cases advances with
  | capability side => cases side <;> trivial
  | exchanged => trivial
  | confirm side | prepared side => cases side <;> trivial
  | @decided role own | @acknowledged role own => cases role <;> trivial
  | committed side => cases side <;> trivial
  | ignored fact idle bound | broken fact breaks bound => exact bound

end DeskUnlock.Pairing
