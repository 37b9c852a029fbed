import DeskUnlock.Pairing.AttemptTrace

/-!
# The register and the inbox of an attempt

What stands in the status register was published by the attempt, and what the
attempt takes from the inbox was sent to it.
-/

namespace DeskUnlock.Pairing

open List

theorem encode_length (msg : Message) : msg.encode.length = MESSAGE_LEN := by
  simp [Message.encode, MESSAGE_LEN]

theorem statusEncode_length (msg : StatusMessage) : msg.encode.length = STATUS_MESSAGE_LEN := by
  simp [StatusMessage.encode, toBeBytes, STATUS_MESSAGE_LEN]

theorem encode_injective {first second : Message}
    (same : first.encode = second.encode) : first = second := by
  have decoded := Message.decode_eq_ok_iff.mpr same
  rw [Message.decode_eq_ok_iff.mpr rfl] at decoded
  exact Except.ok.inj decoded

theorem frameControlPayloadFrom_consumed {skip : Nat} {rest : Bytes} (short : rest.length ≤ skip) :
    frameControlPayloadFrom skip rest = [] := by
  induction rest generalizing skip with
  | nil => rfl
  | cons byte rest induction =>
    cases skip with
    | zero => cases short
    | succ skip => exact induction (Nat.le_of_succ_le_succ short)

theorem frameControlPayload_encode {msg : Message} :
    frameControlPayload msg.encode = [msg.encode] := by
  have sized := encode_length msg
  have decoded : (Message.decode msg.encode).isOk = true := by
    rw [Message.decode_eq_ok_iff.mpr rfl]
    rfl
  generalize msg.encode = payload at sized decoded
  cases payload with
  | nil => cases sized
  | cons byte rest =>
    have whole : (byte :: rest).take MESSAGE_LEN = byte :: rest :=
      take_of_length_le (le_of_eq sized)
    have short : ¬ (byte :: rest).length ≥ STATUS_MESSAGE_LEN := by
      rw [sized]
      decide
    have remaining : rest.length ≤ MESSAGE_LEN - 1 := by
      rw [← sized]
      exact le_refl _
    rw [frameControlPayload, frameControlPayloadFrom]
    rw [if_neg fun both => short both.1]
    rw [if_pos ⟨le_of_eq sized.symm, by rw [whole]; exact decoded⟩]
    rw [whole, frameControlPayloadFrom_consumed remaining]

theorem frameControlPayload_statusEncode {msg : StatusMessage} :
    frameControlPayload msg.encode = [msg.encode] := by
  have sized := statusEncode_length msg
  have decoded : (StatusMessage.decode msg.encode).isOk = true := by
    rw [StatusMessage.decode_encode]
    rfl
  generalize msg.encode = payload at sized decoded
  cases payload with
  | nil => cases sized
  | cons byte rest =>
    have whole : (byte :: rest).take STATUS_MESSAGE_LEN = byte :: rest :=
      take_of_length_le (le_of_eq sized)
    have remaining : rest.length ≤ STATUS_MESSAGE_LEN - 1 := by
      rw [← sized]
      exact le_refl _
    rw [frameControlPayload, frameControlPayloadFrom]
    rw [if_pos ⟨le_of_eq sized.symm, by rw [whole]; exact decoded⟩]
    rw [whole, frameControlPayloadFrom_consumed remaining]

theorem acceptFrame_statusEncode {sess : PairSession} {msg : StatusMessage} :
    sess.acceptFrame msg.encode =
      { sess with service := sess.service.acceptControl msg.encode } := by
  unfold PairSession.acceptFrame
  split
  case h_1 other decoded =>
    have same := congrArg length (Message.decode_eq_ok_iff.mp decoded)
    rw [statusEncode_length, encode_length] at same
    cases same
  case h_2 => rfl

/-- A frame changes the register only to an answer about the status. -/
theorem acceptControl_status (svc : PairServiceState) (frame : Bytes) :
    (svc.acceptControl frame).status = svc.status ∨
      (svc.acceptControl frame).status.length = STATUS_MESSAGE_LEN := by
  unfold PairServiceState.acceptControl
  split
  · split_ifs
    · split
      · split_ifs
        · exact .inr (statusEncode_length _)
        · exact .inl rfl
      · exact .inl rfl
    · exact .inl rfl
  · exact .inl rfl

theorem acceptControl_inbox (svc : PairServiceState) (frame : Bytes) :
    (svc.acceptControl frame).inbox ⊆ svc.inbox ++ [frame] := by
  unfold PairServiceState.acceptControl
  split
  · split_ifs
    · split
      · split_ifs <;> exact subset_append_left _ _
      · exact subset_append_left _ _
    · exact subset_append_left _ _
  · exact Subset.refl _

theorem acceptFrame_service (sess : PairSession) (frame : Bytes) :
    (sess.acceptFrame frame).service = sess.service ∨
      (sess.acceptFrame frame).service = sess.service.acceptControl frame := by
  unfold PairSession.acceptFrame
  split
  · split_ifs
    · exact .inl rfl
    · exact .inl rfl
    · exact .inr rfl
  · exact .inr rfl

/-- What a payload does to the register and to the inbox. -/
theorem foldl_acceptFrame_service (sess : PairSession) (frames : List Bytes) :
    ((frames.foldl PairSession.acceptFrame sess).service.status = sess.service.status ∨
        (frames.foldl PairSession.acceptFrame sess).service.status.length = STATUS_MESSAGE_LEN) ∧
      (frames.foldl PairSession.acceptFrame sess).service.inbox ⊆ sess.service.inbox ++ frames := by
  induction frames generalizing sess with
  | nil => exact ⟨.inl rfl, subset_append_left _ _⟩
  | cons frame rest induction =>
    obtain ⟨status, inbox⟩ := induction (sess.acceptFrame _)
    have one :
        ((sess.acceptFrame frame).service.status = sess.service.status ∨
            (sess.acceptFrame frame).service.status.length = STATUS_MESSAGE_LEN) ∧
          (sess.acceptFrame frame).service.inbox ⊆ sess.service.inbox ++ [frame] := by
      rcases acceptFrame_service _ _ with same | same
      · rw [same]
        exact ⟨.inl rfl, subset_append_left _ _⟩
      · rw [same]
        exact ⟨acceptControl_status _ _, acceptControl_inbox _ _⟩
    rw [foldl_cons]
    constructor
    · rcases status with same | long
      · rw [same]
        exact one.1
      · exact .inr long
    · intro other mem
      rcases mem_append.mp (inbox mem) with old | new
      · have older := one.2 old
        simp only [mem_append, mem_cons] at older ⊢
        tauto
      · exact mem_append_right _ (mem_cons_of_mem _ new)

/-- Until the next opening the attempt only adds to its history. -/
theorem step_history {sess : PairSession} {att : Attempt}
    (running : sess.attempt = some att) {ev : SessionEvent}
    (closed : ∀ phonePubkey addr id, ev ≠ .opened phonePubkey addr id) :
    ∃ later,
      (sess.step ev).attempt = some later ∧
        later.context = att.context ∧ att.history <+: later.history := by
  obtain same | ⟨phonePubkey, addr, id, opens, -, -⟩ |
      ⟨resum, before, -, ran, same⟩ := step_attempt _ _
  · exact ⟨att, same.trans running, rfl, prefix_refl _⟩
  · exact (closed _ _ _ opens).elim
  · obtain rfl : att = before := Option.some.inj (running.symm.trans ran)
    obtain ⟨suffix, extended, _⟩ := advance_extends (sess.drive _) _
    refine ⟨_, same, extended.context, ?_⟩
    rw [extended.history]
    exact prefix_append _ _

/--
The register shows nothing of the attempt that it did not publish, and the
attempt hears nothing under its identifier that was not sent.
-/
structure PairSession.Attributed (sent : Bytes → Prop) (sess : PairSession) : Prop where
  published :
    ∀ att, sess.attempt = some att →
      ∀ op,
        sess.service.status = Message.encode ⟨att.context.transactionId, op⟩ →
          .published op ∈ att.history
  arrived :
    ∀ att, sess.attempt = some att →
      ∀ frame ∈ sess.service.inbox, isMessageOf att.context.transactionId frame = true → sent frame
  took :
    ∀ att, sess.attempt = some att →
      ∀ op, .took op ∈ att.history → sent (Message.encode ⟨att.context.transactionId, op⟩)

section

variable {sent : Bytes → Prop} {sess : PairSession}

theorem PairSession.Attributed.mono {more : Bytes → Prop} (attributed : sess.Attributed sent)
    (weaker : ∀ frame, sent frame → more frame) : sess.Attributed more where
  published := attributed.published
  arrived _ running _ mem own := weaker _ (attributed.arrived _ running _ mem own)
  took _ running _ mem := weaker _ (attributed.took _ running _ mem)

theorem PairSession.Attributed.control (attributed : sess.Attributed sent) {payload : Bytes}
    (foreign :
      ∀ att, sess.attempt = some att →
        ∀ frame ∈ frameControlPayload payload,
          isMessageOf att.context.transactionId frame = true → sent frame) :
    (sess.step (.control payload)).Attributed sent := by
  have running : (sess.step (.control payload)).attempt = sess.attempt :=
    foldl_acceptFrame_attempt _ _
  obtain ⟨status, inbox⟩ := foldl_acceptFrame_service _ (frameControlPayload _)
  refine ⟨?_, ?_, ?_⟩
  · rw [running]
    intro att ran op shown
    rcases status with same | long
    · exact attributed.published _ ran _ (same.symm.trans shown)
    · have sized := congrArg length shown
      rw [encode_length] at sized
      exact absurd (long.symm.trans sized) (by decide)
  · rw [running]
    intro att ran frame mem own
    rcases mem_append.mp (inbox mem) with old | new
    · exact attributed.arrived _ ran _ old own
    · exact foreign _ ran _ new own
  · rw [running]
    exact attributed.took

theorem PairSession.Attributed.resume (attributed : sess.Attributed sent)
    (resum : Resumption) : (sess.step (.resumed resum)).Attributed sent := by
  rw [step]
  cases running : sess.attempt with
  | none =>
    have same : sess.resume resum = sess := by simp [PairSession.resume, running]
    rw [same]
    exact attributed
  | some att =>
    obtain ⟨suffix, extended, _⟩ := advance_extends (sess.drive _) _
    rw [resume_eq running]
    refine ⟨?_, ?_, ?_⟩
    · rintro _ ⟨⟩ op shown
      rw [extended.context] at shown
      rw [extended.history]
      rcases extended.status with same | ⟨other, mem, written⟩
      · apply mem_append_left
        exact attributed.published _ running _ (same.symm.trans shown)
      · have encoded := encode_injective (written.symm.trans shown)
        cases encoded
        exact mem_append_right _ mem
    · rintro _ ⟨⟩ frame mem own
      rw [extended.context] at own
      exact attributed.arrived _ running _ (extended.inbox mem) own
    · rintro _ ⟨⟩ op mem
      rw [extended.context]
      rw [extended.history] at mem
      rcases mem_append.mp mem with old | new
      · exact attributed.took _ running _ old
      · obtain ⟨frame, inside, decoded⟩ := extended.taken _ new
        have own := isMessageOf_iff.mpr ⟨op, decoded⟩
        rw [← Message.decode_eq_ok_iff.mp decoded]
        exact attributed.arrived _ running _ inside own

/-- A new attempt finds a register and an inbox without messages. -/
theorem openAttempt_attributed {sess : PairSession} {phonePubkey : Pubkey} {addr : Address}
    {id : Option TransactionId} : (sess.openAttempt phonePubkey addr id).Attributed sent := by
  refine ⟨?_, ?_, ?_⟩
  · intro att running op shown
    have sized := congrArg length shown
    cases sized
  · intro att running frame mem
    cases mem
  · intro att running op mem
    obtain ⟨number, _, rfl⟩ := Option.map_eq_some_iff.mp running
    cases mem

theorem PairSession.Attributed.step (attributed : sess.Attributed sent) (ev : SessionEvent)
    (foreign :
      ∀ payload, ev = .control payload →
        ∀ att, sess.attempt = some att →
          ∀ frame ∈ frameControlPayload payload,
            isMessageOf att.context.transactionId frame = true → sent frame) :
    (sess.step ev).Attributed sent := by
  cases ev with
  | control payload => exact attributed.control (foreign _ rfl)
  | read offset => exact ⟨attributed.published, attributed.arrived, attributed.took⟩
  | opened phonePubkey addr id =>
    rw [PairSession.step]
    split_ifs
    · exact openAttempt_attributed
    · exact attributed
  | resumed resum => exact attributed.resume _
  | received => exact ⟨attributed.published, attributed.arrived, attributed.took⟩

end

end DeskUnlock.Pairing
