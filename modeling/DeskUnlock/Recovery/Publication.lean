import DeskUnlock.Recovery.PhonePairing

/-!
# What a publication is backed by

The driver of an attempt writes its operations to the status register, where
the phone reads them.  `Confirm`, `Prepared` and `Commit` repeat a local event
of the transaction.  `Committed` does not: it is published on the phone's
acknowledgement, before the promotion, when the disk has the attempt staged
with the decision to commit.  The phone, which takes it for success, is then
trusted or will be, by the promotion or by a recovery, unless it is revoked
after the promotion was asked for.
-/

namespace DeskUnlock.Recovery

open Texts List
open Pairing Pairing.Phone

/-- What an attempt has done before it publishes the operation. -/
def publicationBacking : Operation → List Entry
  | .confirm => [.localFact .confirm]
  | .prepared => [.localFact .prepared]
  | .commit => [.localFact .commit]
  | .committed => [.localFact .commit, .took .commitAck]
  | _ => []

theorem publicationBacking_precedes {op : Operation} : ∀ entry ∈
    publicationBacking op, entry ∈ successLine.takeWhile (· ≠ .published op) := by
  cases op <;> decide

variable {att : Attempt}

/-- A publication is preceded by what backs it. -/
theorem Traced.backed (traced : Traced att) {op : Operation} {before after : List Entry}
    (split : att.history = before ++ .published op :: after) :
    ∀ entry ∈ publicationBacking op, entry ∈ before := by
  by_cases abort : op.isAbort = true
  · intro entry mem
    cases op with
    | reject | cancel | timeout | error => cases mem
    | _ => cases abort
  · have proper : (Entry.published op).departing = false := eq_false_of_ne_true abort
    rw [traced.before_eq proper split]
    exact publicationBacking_precedes

theorem Onward.published_committed {origin : Point} (onward : Onward origin att)
    (fresh : .published .committed ∉ origin.past)
    (published : .published .committed ∈ att.history) :
    ∃ ctx, att = .atPoint ctx .waitCommitted := by
  cases onward with
  | stayed ctx live => exact (fresh published).elim
  | moved ctx live =>
    have reached : origin.next = .waitCommitted := by
      change .published .committed ∈ origin.next.past at published
      cases origin with
      | publishCommitted => rfl
      | requestDiscard error | failed error => cases live
      | _ =>
        first
        | exact absurd published (by decide)
        | exact absurd (by decide) fresh
    exact ⟨ctx, congrArg (Attempt.atPoint _) reached⟩
  | left exit => exact (fresh ((Left.mem_iff exit rfl).mp published)).elim

/-- `Committed` is published in one step, on the line. -/
theorem advance_published_committed {drive : Drive} (traced : Traced drive.attempt)
    {resum : Resumption} (fresh : .published .committed ∉ drive.attempt.history)
    (published : .published .committed ∈ (drive.advance resum).attempt.history) :
    ∃ ctx, (drive.advance resum).attempt = .atPoint ctx .waitCommitted := by
  obtain ⟨svc, commits, att⟩ := drive
  cases traced with
  | onLine ctx point live =>
    have onward := advance_onLine ctx svc commits _ live resum
    exact Onward.published_committed onward fresh published
  | left origin exit =>
    have earlier := (Left.mem_iff (exit.advance _) rfl).mp published
    exact (fresh ((Left.mem_iff exit rfl).mpr earlier)).elim

/-- The event makes the register show the operation of the attempt. -/
structure Places (libs : Primitives) (daemon : Daemon)
    (ev : DaemonEvent) (att : Attempt) (op : Operation) : Prop where
  running : (daemon.step libs ev).session.attempt = some att
  absent : daemon.session.service.status ≠ Message.encode ⟨att.context.transactionId, op⟩
  shown :
    (daemon.step libs ev).session.service.status =
      Message.encode ⟨att.context.transactionId, op⟩

/-- Only a resumption of the attempt that publishes places an operation. -/
theorem Places.resumed {libs : Primitives} {daemon : Daemon} {ev : DaemonEvent}
    {op : Operation} (places : Places libs daemon ev att op) :
    ∃ before resum suffix, daemon.session.attempt =
    some before ∧ att = ((daemon.session.drive before).advance resum).attempt ∧
    att.history = before.history ++ suffix ∧ .published op ∈ suffix := by
  obtain ⟨running, absent, shown⟩ := places
  rcases daemon.step_session with still | ⟨part, stepped, _⟩
  · rw [still] at shown
    exact (absent shown).elim
  rw [stepped] at running shown
  cases part with
  | control payload =>
    rcases (foldl_acceptFrame_service _ (frameControlPayload _)).1 with same | long
    · exact (absent (same.symm.trans shown)).elim
    · have sized := congrArg length shown
      rw [encode_length] at sized
      exact absurd (long.symm.trans sized) (by decide)
  | read offset => exact (absent shown).elim
  | opened phonePubkey addr id =>
    rw [PairSession.step] at shown
    split_ifs at shown
    · have sized := congrArg length shown
      cases sized
    · exact (absent shown).elim
  | received => exact (absent shown).elim
  | resumed resum =>
    rw [PairSession.step] at running shown
    cases ran : daemon.session.attempt with
    | none =>
      have same : daemon.session.resume resum = daemon.session := by
        simp [PairSession.resume, ran]
      rw [same] at shown
      exact (absent shown).elim
    | some before =>
      rw [PairSession.resume_eq ran] at running shown
      obtain rfl := Option.some.inj running
      obtain ⟨suffix, extended, _⟩ := advance_extends (daemon.session.drive _) _
      refine ⟨before, resum, suffix, rfl, rfl, extended.history, ?_⟩
      rcases extended.status with same | ⟨other, mem, written⟩
      · exact (absent (same.symm.trans shown)).elim
      · rw [extended.context] at shown
        have encoded := encode_injective (written.symm.trans shown)
        cases encoded
        exact mem

/-- When `Committed` appears in the register, the attempt is staged. -/
theorem Places.committed_staged {libs : Primitives} {named : Text → Prop}
    (roundTrip : libs.RoundTrip) {daemon : Daemon} (sound : daemon.Sound libs named)
    {ev : DaemonEvent}
    (names : daemon.promotionAsked = true → ∀ peerId ∈ ev.revocations, named peerId)
    (places : Places libs daemon ev att .committed) : .requested .promote ∉ att.history ∧
    Staged libs att.context .commitPending (daemon.step libs ev).disk := by
  have later := sound.step roundTrip names
  obtain ⟨before, resum, suffix, ran, advanced, history, published⟩ := places.resumed
  have traced := later.traced _ places.running
  have fresh : .published .committed ∉ before.history := by
    obtain ⟨first, rest, rfl⟩ := append_of_mem published
    rw [← append_assoc] at history
    have upTo := traced.before_eq rfl history
    intro mem
    have inside := mem_append_left first mem
    rw [upTo] at inside
    exact absurd inside (by decide)
  obtain ⟨ctx, reached⟩ : ∃ ctx, att = .atPoint ctx .waitCommitted := by
    rw [advanced]
    apply advance_published_committed (sound.traced _ ran) fresh
    rw [← advanced, history]
    exact mem_append_right _ published
  have kept := later.kept places.running (by rw [reached]; rfl)
  subst reached
  exact ⟨by change _ ∉ Point.past .waitCommitted; decide, kept⟩

def acknowledgedRun : List DaemonEvent :=
  let hear (op : Operation) : List DaemonEvent :=
    [.control (Message.encode ⟨.replicate 16 7, op⟩), .polled true]
  [.opened (.replicate 32 1) (.replicate 6 2) (some (.replicate 16 7)), .polled true] ++
  hear .capability ++ [.oobAnswered true, .polled true] ++ hear .confirm ++ servedRequest ++
  hear .prepared ++ [.polled true] ++ servedRequest ++ [.polled true] ++ hear .commitAck

def acknowledgedDaemon : Daemon :=
  Runs.run (Daemon.step singleStore) (.start (.replicate 32 0) [] fun _ => none) acknowledgedRun

end DeskUnlock.Recovery
