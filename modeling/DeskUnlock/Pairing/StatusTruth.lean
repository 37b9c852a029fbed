import DeskUnlock.Pairing.CommitPoint
import DeskUnlock.Pairing.ControlNotices
import DeskUnlock.Pairing.Register

/-!
# What a status query is told

A status query is answered from what the service remembers of the attempt, and
the driver brings that up to date by `remember_session`.  It does so wherever
the coarse status of its transaction changes, except when the decision to
commit is made: the transaction is `CommitPending` as soon as the mark is
durable, and the service goes on saying `PreCommit` until the phone has
acknowledged.
-/

namespace DeskUnlock.Pairing

open Runs List PairSession

/-- Off the line, nothing but the answer to a discard is awaited. -/
theorem Left.advance_remembers {drive : Drive} {origin : Point}
    (exit : Left origin drive.attempt.point drive.attempt.history) (remembers : drive.Remembers)
    {resum : Resumption} : (drive.advance resum).Remembers := by
  by_cases ended : drive.attempt.point.ended = true
  · rw [Drive.advance_ended ended]
    exact remembers
  · obtain ⟨svc, commits, ctx, tx, point, history⟩ := drive
    cases exit with
    | noPrepared entry unfit
    | noCommitAck entry unfit => cases resum <;> exact remembers
    | _ => exact (ended rfl).elim

theorem Drive.Remembers.advance {drive : Drive} (remembers : drive.Remembers)
    (traced : Traced drive.attempt) (resum : Resumption) :
    (drive.advance resum).Remembers := by
  obtain ⟨svc, commits, att⟩ := drive
  cases traced with
  | onLine ctx point live => exact (advance_goes _ _ _ _ live _).remembers remembers
  | left origin exit => exact exit.advance_remembers remembers

/-- The service remembers nothing but the attempt that it serves. -/
def PairSession.Remembers (sess : PairSession) : Prop :=
  ∀ att, sess.attempt = some att → (sess.drive att).Remembers

theorem foldl_acceptFrame_remembered {sess : PairSession} {frames : List Bytes} :
    (frames.foldl PairSession.acceptFrame sess).service.session = sess.service.session := by
  induction frames generalizing sess with
  | nil => rfl
  | cons frame rest induction => rw [foldl_cons, induction, acceptFrame_remembered]

namespace PairSession

theorem Remembers.step {sess : PairSession} (remembers : sess.Remembers)
    (traced : sess.Traced) (ev : SessionEvent) : (sess.step ev).Remembers := by
  intro att present
  cases ev with
  | control payload =>
    rw [step_control_attempt] at present
    exact (remembers _ present).congr rfl foldl_acceptFrame_remembered
  | read offset | received => exact (remembers _ present).congr rfl rfl
  | opened phonePubkey addr id =>
    cases idle : sess.idle with
    | false =>
      rw [step_opened_busy idle] at present ⊢
      exact remembers _ present
    | true =>
      rw [step_opened_idle idle] at present ⊢
      cases id with
      | none => cases present
      | some id =>
        cases present
        exact Drive.Settled.remembers nofun rfl
  | resumed resum =>
    cases running : sess.attempt with
    | none =>
      rw [step_resumed_none running, running] at present
      cases present
    | some before =>
      rw [PairSession.step, resume_eq running] at present ⊢
      cases present
      exact (remembers _ running).advance (traced _ running) _

theorem remembers_run {hostPubkey : Pubkey} {hostName : Bytes} {events : List SessionEvent} :
    (run PairSession.step (.start hostPubkey hostName) events).Remembers := by
  have both :=
    @run_invariant _ _ step
      (fun sess => sess.Traced ∧ sess.Remembers)
      (fun sess ev known => ⟨known.1.step _, known.2.step known.1 _⟩)
      _ ⟨start_traced hostPubkey hostName, by rintro att ⟨⟩⟩ events
  exact both.2

end PairSession

theorem statusEncode_injective {first second : StatusMessage}
    (same : first.encode = second.encode) : first = second := by
  have decoded := StatusMessage.decode_encode first
  rw [same, StatusMessage.decode_encode] at decoded
  exact (Except.ok.inj decoded).symm

/-- A query about the remembered transaction is answered from the snapshot. -/
theorem step_query {sess : PairSession} {id : TransactionId} {status : StatusState}
    (remembered : sess.service.session = some (id, status)) (nonce : UInt64) :
    (sess.step (.control (StatusMessage.query id nonce).encode)).service.status =
    (StatusMessage.response id nonce status).encode := by
  rw [step, frameControlPayload_statusEncode, foldl_cons, foldl_nil, acceptFrame_statusEncode]
  simp [PairServiceState.acceptControl, StatusMessage.decode_encode,
    remembered, StatusMessage.query, PairServiceState.publishStatus]

/--
In every run of the pair service, once the attempt was remembered, a query
about it is answered with the status of its transaction exactly outside the
stretch from the commit decision to the acknowledgement of the phone.
-/
theorem query_truthful_iff (hostPubkey : Pubkey) (hostName : Bytes) (events : List SessionEvent)
    (att : Attempt)
    (running : (run PairSession.step (.start hostPubkey hostName) events).attempt = some att)
    (remembered :
      (run PairSession.step (.start hostPubkey hostName) events).service.session.isSome = true)
    (nonce : UInt64) :
    ((run PairSession.step (.start hostPubkey hostName) events).step
          (.control
            (StatusMessage.query att.context.transactionId nonce).encode)).service.status =
        (StatusMessage.response att.context.transactionId nonce
          att.transaction.status).encode ↔
      att.point.deciding = false := by
  obtain ⟨snapshot, known⟩ := Option.isSome_iff_exists.mp remembered
  have remembers := remembers_run _ running
  cases deciding : att.point.deciding with
  | false =>
    have same := remembers.settled deciding _ known
    rw [same] at known
    exact iff_of_true (step_query known _) rfl
  | true =>
    unfold Drive.Remembers at remembers
    rw [drive, deciding, if_pos rfl] at remembers
    have same := remembers.2 _ known
    rw [same] at known
    refine iff_of_false ?_ (by decide)
    rw [step_query known, remembers.1]
    intro alike
    have states := congrArg StatusMessage.state (statusEncode_injective alike)
    cases states

def exchanged (count : Nat) : PairSession :=
  run PairSession.step (.start (.replicate 32 0) [])
    ((lateAcknowledgement (.replicate 16 7)).take count)

/-- While the user is asked, a query is told that nothing is decided. -/
theorem query_truthful_before_decision :
    ∃ att,
      (exchanged 5).attempt = some att ∧
        att.point = .requestOob ∧
        ((exchanged 5).step
            (.control (StatusMessage.query (.replicate 16 7) 1).encode)).service.status =
          (StatusMessage.response (.replicate 16 7) 1 att.transaction.status).encode :=
  ⟨_, rfl, rfl,
    (query_truthful_iff _ [] ((lateAcknowledgement (.replicate 16 7)).take 5) _ rfl rfl 1).mpr rfl⟩

/-- After a durable commit decision, a query is told that there is none. -/
theorem query_preCommit_after_decision :
    ∃ att,
      (exchanged 18).attempt = some att ∧
        .answered .markCommit true ∈ att.history ∧ att.transaction.status = .commitPending ∧
        ((exchanged 18).step
            (.control (StatusMessage.query (.replicate 16 7) 1).encode)).service.status =
          (StatusMessage.response (.replicate 16 7) 1 .preCommit).encode := by
  refine ⟨_, rfl, ?_, ?_, ?_⟩
  · decide
  · decide
  · exact step_query rfl 1

end DeskUnlock.Pairing
