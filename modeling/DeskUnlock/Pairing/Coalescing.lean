import DeskUnlock.Pairing.Register

/-!
# Coalesced control writes

The control characteristic is a byte stream, so that one read may return
several frames.  `frame_control_payload` tells the two kinds of frames apart
by trying the longer one first.

A message of 18 bytes is followed by the version byte and the identifier of
the next frame.  The longer decoder then looks at the seventh and eighth byte
of that identifier, where it expects the operation and the state of a status
message.
-/

namespace DeskUnlock.Pairing

open List

inductive ControlFrame where
  | message (content : Message)
  | status (content : StatusMessage)

namespace ControlFrame

def encode : ControlFrame → Bytes
  | message content => content.encode
  | status content => content.encode

def transaction : ControlFrame → TransactionId
  | message content => content.transaction
  | status content => content.transaction

theorem encode_eq (frame : ControlFrame) :
    ∃ tail, frame.encode = VERSION :: (frame.transaction.toList ++ tail) := by
  cases frame with
  | message content => exact ⟨[content.operation.toByte], rfl⟩
  | status content => exact ⟨_, congrArg _ (append_assoc _ _ _)⟩

theorem encode_length_pos (frame : ControlFrame) : MESSAGE_LEN ≤ frame.encode.length := by
  cases frame with
  | message content => exact le_of_eq (encode_length _).symm
  | status content =>
    rw [encode, statusEncode_length]
    decide

end ControlFrame

def isStatusTail (operation state : UInt8) : Bool :=
  (operation = 12 ∧ state = 0) ∨ (operation = 13 ∧ (StatusState.decode state).isOk)

theorem statusDecode_isOk_iff {bytes : Bytes} :
    (StatusMessage.decode bytes).isOk = true ↔ bytes.length = STATUS_MESSAGE_LEN ∧
    bytes.getD 0 0 = VERSION ∧ isStatusTail (bytes.getD 25 0) (bytes.getD 26 0) = true := by
  unfold StatusMessage.decode
  by_cases sized : bytes.length = STATUS_MESSAGE_LEN
  · by_cases version : bytes.getD 0 0 = VERSION
    · rw [dif_pos sized, if_neg (not_not_intro version)]
      simp only [sized, version, true_and]
      generalize bytes.getD 25 0 = operation
      generalize bytes.getD 26 0 = state
      split
      · exact iff_of_true rfl rfl
      · next differs =>
          have unequal : ¬ state = 0 := differs
          simp [isStatusTail, unequal, Except.toBool]
      · exact iff_of_false (by decide) (by decide)
      · cases read : StatusState.decode state with
        | ok value => simp [isStatusTail, read, Except.toBool]
        | error error => simp [isStatusTail, read, Except.toBool]
      · next query other resp => simp_all [isStatusTail, Except.toBool]
    · rw [dif_pos sized, if_pos version]
      exact iff_of_false (by decide) fun accepted => version accepted.2.1
  · rw [dif_neg sized]
    exact iff_of_false (by decide) fun accepted => sized accepted.1

theorem frameControlPayloadFrom_append {front : Bytes} (rest : Bytes)
    {skip : Nat} (length : front.length = skip) :
    frameControlPayloadFrom skip (front ++ rest) = frameControlPayload rest := by
  induction front generalizing skip with
  | nil =>
    obtain rfl : 0 = skip := length
    rfl
  | cons byte front induction =>
    cases skip with
    | zero => cases length
    | succ skip => exact induction (Nat.succ.inj length)

theorem frameControlPayload_status {payload : Bytes} (sized : STATUS_MESSAGE_LEN ≤ payload.length)
    (decoded : (StatusMessage.decode (payload.take STATUS_MESSAGE_LEN)).isOk = true) :
    frameControlPayload payload =
      payload.take STATUS_MESSAGE_LEN :: frameControlPayload (payload.drop STATUS_MESSAGE_LEN) := by
  cases payload with
  | nil => cases sized
  | cons byte rest =>
    have split := take_append_drop (STATUS_MESSAGE_LEN - 1) rest
    have front : (rest.take (STATUS_MESSAGE_LEN - 1)).length = STATUS_MESSAGE_LEN - 1 :=
      length_take_of_le (Nat.le_of_succ_le_succ sized)
    have passed := frameControlPayloadFrom_append (rest.drop (STATUS_MESSAGE_LEN - 1)) front
    rw [split] at passed
    rw [frameControlPayload, frameControlPayloadFrom, if_pos ⟨sized, decoded⟩, passed]
    rfl

theorem frameControlPayload_status_append {content : StatusMessage} {rest : Bytes} :
    frameControlPayload (content.encode ++ rest) = content.encode :: frameControlPayload rest := by
  have length := statusEncode_length content
  have front : (content.encode ++ rest).take STATUS_MESSAGE_LEN = content.encode :=
    take_left' length
  have back : (content.encode ++ rest).drop STATUS_MESSAGE_LEN = rest := drop_left' length
  have framed := @frameControlPayload_status (content.encode ++ rest)
    (by rw [length_append, length]; exact Nat.le_add_right _ _)
    (by rw [front, StatusMessage.decode_encode]; rfl)
  rw [front, back] at framed
  exact framed

/--
A payload that begins with a message, unless the longer decoder accepts its
first bytes.
-/
theorem frameControlPayload_message_append {content : Message} {rest : Bytes}
    (undecoded :
      ¬ (STATUS_MESSAGE_LEN ≤ (content.encode ++ rest).length ∧
        (StatusMessage.decode ((content.encode ++ rest).take STATUS_MESSAGE_LEN)).isOk = true)) :
    frameControlPayload (content.encode ++ rest) = content.encode :: frameControlPayload rest := by
  have length := encode_length content
  have whole : (content.encode ++ rest).take MESSAGE_LEN = content.encode := take_left' length
  have sized : MESSAGE_LEN ≤ (content.encode ++ rest).length := by
    rw [length_append, length]
    exact Nat.le_add_right _ _
  have decoded : (Message.decode ((content.encode ++ rest).take MESSAGE_LEN)).isOk = true := by
    rw [whole, Message.decode_eq_ok_iff.mpr rfl]
    rfl
  generalize content.encode = frame at *
  cases frame with
  | nil => cases length
  | cons byte front =>
    have passed := frameControlPayloadFrom_append rest (Nat.succ.inj length)
    rw [cons_append] at undecoded sized decoded whole
    rw [cons_append, frameControlPayload, frameControlPayloadFrom,
      if_neg undecoded, if_pos ⟨sized, decoded⟩, whole]
    exact congrArg _ passed

namespace ControlFrame

/--
The seventh and eighth byte of the identifier look like the end of a status
message.
-/
def isLookalike (frame : ControlFrame) : Bool :=
  isStatusTail (frame.transaction.toList.getD 6 0) (frame.transaction.toList.getD 7 0)

def isMessage : ControlFrame → Bool
  | message _ => true
  | status _ => false

/-- What follows a message must not look like the end of a status message. -/
def Distinct (frame next : ControlFrame) : Prop := frame.isMessage = true → next.isLookalike = false

instance (frame next : ControlFrame) : Decidable (frame.Distinct next) :=
  inferInstanceAs (Decidable (_ → _))

/-- A message with the next frame behind it, as the longer decoder sees it. -/
theorem lookalike_iff {content : Message} (next : ControlFrame) (rest : Bytes) :
    (STATUS_MESSAGE_LEN ≤ (content.encode ++ (next.encode ++ rest)).length ∧
        (StatusMessage.decode
          ((content.encode ++ (next.encode ++ rest)).take STATUS_MESSAGE_LEN)).isOk = true) ↔
      next.isLookalike = true := by
  obtain ⟨⟨field, length⟩, operation⟩ := content
  obtain ⟨tail, begins⟩ := next.encode_eq
  have atLeast := next.encode_length_pos
  have nextLength : next.transaction.toList.length = 16 := next.transaction.toList_length
  have sized : STATUS_MESSAGE_LEN ≤
      (Message.encode ⟨⟨field, length⟩, operation⟩ ++ (next.encode ++ rest)).length := by
    simp only [length_append, encode_length, MESSAGE_LEN, STATUS_MESSAGE_LEN] at atLeast ⊢
    omega
  have head :
      ((Message.encode ⟨⟨field, length⟩, operation⟩ ++
          (next.encode ++ rest)).take STATUS_MESSAGE_LEN).getD 0 0 =
        VERSION := by
    simp [Message.encode, STATUS_MESSAGE_LEN]
  have seventh :
      ((Message.encode ⟨⟨field, length⟩, operation⟩ ++
          (next.encode ++ rest)).take STATUS_MESSAGE_LEN).getD 25 0 =
        next.transaction.toList.getD 6 0 := by
    simp [Message.encode, begins, getElem?_append, length, STATUS_MESSAGE_LEN]
  have eighth :
      ((Message.encode ⟨⟨field, length⟩, operation⟩ ++
          (next.encode ++ rest)).take STATUS_MESSAGE_LEN).getD 26 0 =
        next.transaction.toList.getD 7 0 := by
    simp [Message.encode, begins, getElem?_append, length, STATUS_MESSAGE_LEN]
  rw [statusDecode_isOk_iff, seventh, eighth, length_take_of_le sized]
  exact ⟨fun accepted => accepted.2.2.2, fun look => ⟨sized, rfl, rfl, look⟩⟩

theorem frameControlPayload_single (frame : ControlFrame) :
    frameControlPayload frame.encode = [frame.encode] := by
  cases frame with
  | message content => exact frameControlPayload_encode
  | status content => exact frameControlPayload_statusEncode

/-- A frame is split off if what follows is distinct from its end. -/
theorem frameControlPayload_append {frame next : ControlFrame} (distinct : frame.Distinct next)
    {rest : Bytes} : frameControlPayload (frame.encode ++ (next.encode ++ rest)) =
    frame.encode :: frameControlPayload (next.encode ++ rest) := by
  cases frame with
  | status content => exact frameControlPayload_status_append
  | message content =>
    apply frameControlPayload_message_append
    intro swallowed
    have look := (lookalike_iff next rest).mp swallowed
    rw [distinct rfl] at look
    cases look

/-- A message swallows the beginning of a lookalike. -/
theorem frameControlPayload_swallowed {frame next : ControlFrame}
    (merged : ¬ frame.Distinct next) {rest : Bytes} {frames : List Bytes} :
    frameControlPayload (frame.encode ++ (next.encode ++ rest)) ≠ frame.encode :: frames := by
  cases frame with
  | status content => exact (merged nofun).elim
  | message content =>
    have look : next.isLookalike = true := by simpa [Distinct, isMessage] using merged
    obtain ⟨sized, decoded⟩ := (lookalike_iff next rest).mpr look
    intro same
    rw [encode, frameControlPayload_status sized decoded] at same
    have lengths := congrArg length (cons.inj same).1
    rw [length_take_of_le sized, encode_length] at lengths
    cases lengths

/--
Coalesced frames are split as they were written exactly if no message has a
lookalike behind it.
-/
theorem frameControlPayload_flatMap_iff (frames : List ControlFrame) :
    frameControlPayload (frames.flatMap encode) = frames.map encode ↔ frames.IsChain Distinct := by
  induction frames with
  | nil => exact iff_of_true rfl .nil
  | cons frame rest induction =>
    cases rest with
    | nil =>
      refine iff_of_true ?_ (.singleton _)
      rw [flatMap_singleton]
      exact frame.frameControlPayload_single
    | cons next rest =>
      rw [isChain_cons_cons, ← induction]
      simp only [flatMap_cons, map_cons]
      by_cases distinct : frame.Distinct next
      · rw [frameControlPayload_append distinct, cons.injEq]
        simp only [distinct]
      · refine iff_of_false ?_ fun both => distinct both.1
        exact frameControlPayload_swallowed distinct

def lookalikeId : TransactionId := ⟨[0, 0, 0, 0, 0, 0, 12, 0, 0, 0, 0, 0, 0, 0, 0, 0], rfl⟩

/-- CONFIRM and PREPARED of this attempt are read as one status query. -/
theorem confirm_prepared_merged :
    frameControlPayload
        ([message ⟨lookalikeId, .confirm⟩, message ⟨lookalikeId, .prepared⟩].flatMap encode) =
      [(status (.query lookalikeId 144678138029277184)).encode] ∧
    frameControlPayload
        ([message ⟨lookalikeId, .confirm⟩, message ⟨lookalikeId, .prepared⟩].flatMap encode) ≠
      [message ⟨lookalikeId, .confirm⟩, message ⟨lookalikeId, .prepared⟩].map encode := by
  decide +kernel

end ControlFrame

end DeskUnlock.Pairing
