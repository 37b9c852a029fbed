import Mathlib.Data.List.GetD
import DeskUnlock.Pairing.PairTransaction

/-!
# The shared state of the pair service

`syauth-transport/src/pair_engine.rs`: `frame_control_payload` and
`PairServiceState`.  The GATT characteristics read and write this state from
the peer's side; the pair engine drives its transaction over it.

A method is one step here.  No method can panic while it holds a lock, so
the locks are never poisoned and a method is a function on the state.
-/

namespace DeskUnlock.Pairing

open List

/--
The frames of a payload after `skip` more of its bytes.  A recognised frame
consumes its own length; any other byte is skipped alone.
-/
def frameControlPayloadFrom : Nat → Bytes → List Bytes
  | _, [] => []
  | skip + 1, _ :: rest => frameControlPayloadFrom skip rest
  | 0, byte :: rest =>
    let payload := byte :: rest
    if payload.length ≥ STATUS_MESSAGE_LEN ∧
        (StatusMessage.decode (payload.take STATUS_MESSAGE_LEN)).isOk then
      payload.take STATUS_MESSAGE_LEN :: frameControlPayloadFrom (STATUS_MESSAGE_LEN - 1) rest
    else if payload.length ≥ MESSAGE_LEN ∧
        (Message.decode (payload.take MESSAGE_LEN)).isOk then
      payload.take MESSAGE_LEN :: frameControlPayloadFrom (MESSAGE_LEN - 1) rest
    else frameControlPayloadFrom 0 rest

/-- Split one incoming v2-control payload into complete V2 frames. -/
def frameControlPayload (payload : Bytes) : List Bytes := frameControlPayloadFrom 0 payload

/-- Shared state of the always-present DeskUnlock pair service. -/
structure PairServiceState where
  hostPubkey : Pubkey
  hostName : Bytes
  status : Bytes
  /-- True from a publish until the peer's next read of the register. -/
  unread : Bool
  inbox : List Bytes
  session : Option (TransactionId × StatusState)

def isMessageOf (id : TransactionId) (bytes : Bytes) : Bool :=
  match Message.decode bytes with
  | .ok msg => msg.transaction = id
  | .error _ => false

theorem isMessageOf_iff {id : TransactionId} {bytes : Bytes} :
    isMessageOf id bytes = true ↔ ∃ op, Message.decode bytes = .ok ⟨id, op⟩ := by
  unfold isMessageOf
  constructor
  · intro accepted
    split at accepted
    case h_1 msg decoded =>
      have same : msg.transaction = id := by simpa using accepted
      exact ⟨msg.operation, by rw [decoded, ← same]⟩
    case h_2 => cases accepted
  · rintro ⟨op, decoded⟩
    simp [decoded]

namespace PairServiceState

def new (hostPubkey : Pubkey) (hostName : Bytes) : PairServiceState where
  hostPubkey := hostPubkey
  hostName := hostName
  status := []
  unread := false
  inbox := []
  session := none

variable (svc : PairServiceState)

def publish (msg : Message) : PairServiceState :=
  { svc with status := msg.encode, unread := true }

def publishStatus (resp : StatusMessage) : PairServiceState :=
  { svc with status := resp.encode, unread := true }

/-- A read consumes the unread mark and returns the register. -/
def statusSnapshot (offset : Nat) : Bytes × PairServiceState :=
  (svc.status.drop offset, { svc with unread := false })

def beginSession : PairServiceState :=
  { svc with status := [], unread := false, inbox := [], session := none }

def rememberSession (id : TransactionId) (status : StatusState) :
    PairServiceState :=
  { svc with session := some (id, status) }

/--
Accept one authenticated V2 control write.  A status query is answered from
the current session snapshot and never enters the inbox.
-/
def acceptControl (bytes : Bytes) : PairServiceState :=
  match StatusMessage.decode bytes with
  | .ok query =>
    if query.state.isNone then
      match svc.session with
      | some (id, status) =>
        if id = query.transaction then svc.publishStatus (.response id query.nonce status)
        else svc
      | none => svc
    else svc
  | .error _ => { svc with inbox := svc.inbox ++ [bytes] }

def takeMessage (id : TransactionId) : Option Operation × PairServiceState :=
  match svc.inbox.findIdx? (isMessageOf id) with
  | none => (none, svc)
  | some i =>
    (((Message.decode (svc.inbox.getD i [])).toOption).map
        Message.operation,
      { svc with inbox := svc.inbox.eraseIdx i })

/-- Nothing is taken exactly when the inbox holds no message of `id`. -/
theorem takeMessage_none_iff (id : TransactionId) :
    (svc.takeMessage id).1 = none ↔ ∀ frame ∈ svc.inbox, isMessageOf id frame = false := by
  rw [← findIdx?_eq_none_iff, takeMessage]
  split
  case h_1 absent => simp [absent]
  case h_2 i found =>
    obtain ⟨bound, accepted, -⟩ := findIdx?_eq_some_iff_getElem.mp found
    obtain ⟨op, decoded⟩ := isMessageOf_iff.mp accepted
    simp [found, bound, decoded, Except.toOption]

/--
What `takeMessage` returns was an entry of the inbox: the oldest one that
decodes to a message of `id`.
-/
theorem takeMessage_some {svc taken : PairServiceState} {id : TransactionId}
    {op : Operation} (took : svc.takeMessage id = (some op, taken)) :
    ∃ before frame after,
      svc.inbox = before ++ frame :: after ∧
        Message.decode frame = .ok ⟨id, op⟩ ∧ (∀ older ∈ before, isMessageOf id older = false) ∧
        taken = { svc with inbox := before ++ after } := by
  rw [takeMessage] at took
  split at took
  case h_1 => cases took
  case h_2 i found =>
    obtain ⟨bound, accepted, older⟩ := findIdx?_eq_some_iff_getElem.mp found
    obtain ⟨operation', decoded⟩ := isMessageOf_iff.mp accepted
    rw [getD_eq_getElem _ _ bound, decoded] at took
    obtain ⟨same, rfl⟩ := Prod.mk.inj took
    obtain rfl : operation' = op := by simpa [Except.toOption] using same
    refine ⟨svc.inbox.take i, svc.inbox[i], svc.inbox.drop (i + 1), ?_, decoded, ?_, ?_⟩
    · rw [← drop_eq_getElem_cons, take_append_drop]
    · intro frame mem
      obtain ⟨pos, inside, rfl⟩ := mem_take_iff_getElem.mp mem
      simpa using older _ (by omega)
    · rw [eraseIdx_eq_take_drop_succ]

end PairServiceState

end DeskUnlock.Pairing
