import Mathlib.Data.List.ReduceOption
import DeskUnlock.Pairing.ControlNotices

/-!
# The inbox as one queue for each transaction

The inbox of the pair service is one list.  It holds frames of many
transactions and frames that are no messages at all, and `take_message`
removes from the middle of it.  To the attempt that calls it with its own
identifier it is a queue: what it returns are the operations of the messages
of this transaction, in the order of their arrival.
-/

namespace DeskUnlock.Pairing

open Runs List

/-- A call of the three methods that touch the inbox. -/
inductive InboxCall where
  | acceptControl (bytes : Bytes)
  | takeMessage (id : TransactionId)
  | beginSession

/-- A service, and what was called and returned since `begin_session`. -/
structure InboxLog where
  service : PairServiceState
  calls : List InboxCall
  replies : List (TransactionId × Option Operation)

namespace InboxLog

def start (svc : PairServiceState) : InboxLog where
  service := svc.beginSession
  calls := []
  replies := []

def step (log : InboxLog) : InboxCall → InboxLog
  | .acceptControl bytes =>
    { log with
      service := log.service.acceptControl bytes, calls := log.calls ++ [.acceptControl bytes] }
  | .takeMessage id =>
    { service := (log.service.takeMessage id).2
      calls := log.calls ++ [.takeMessage id]
      replies := log.replies ++ [(id, (log.service.takeMessage id).1)] }
  | .beginSession => start log.service

variable (id : TransactionId) (log : InboxLog)

/-- What a call is to the queue of `id`: an operation comes, or one goes. -/
def view : InboxCall → Option (Option Operation)
  | .acceptControl bytes => (operationOf id bytes).map some
  | .takeMessage other => if other = id then some none else none
  | .beginSession => none

def accepted : List Operation := (log.calls.filterMap (view id)).reduceOption

def answers : List (Option Operation) := (log.replies.filter (·.1 = id)).map Prod.snd

def taken : List Operation := (log.answers id).reduceOption

def waiting : List Operation := operationsOf id log.service.inbox

end InboxLog

/-- A queue: `some` operation enters it, `none` asks for the oldest one. -/
def fifo : List Operation → List (Option Operation) → List (Option Operation)
  | _, [] => []
  | queue, some op :: rest => fifo (queue ++ [op]) rest
  | queue, none :: rest => queue.head? :: fifo queue.tail rest

def fifoRest : List Operation → List (Option Operation) → List Operation
  | queue, [] => queue
  | queue, some op :: rest => fifoRest (queue ++ [op]) rest
  | queue, none :: rest => fifoRest queue.tail rest

theorem fifo_append (queue : List Operation) (first second : List (Option Operation)) :
    fifo queue (first ++ second) = fifo queue first ++ fifo (fifoRest queue first) second := by
  induction first generalizing queue with
  | nil => rfl
  | cons input first induction =>
    cases input with
    | some op => exact induction _
    | none => exact congrArg _ (induction _)

theorem fifoRest_append (queue : List Operation) (first second : List (Option Operation)) :
    fifoRest queue (first ++ second) = fifoRest (fifoRest queue first) second := by
  induction first generalizing queue with
  | nil => rfl
  | cons input first induction =>
    cases input with
    | some op | none => exact induction _

theorem fifo_conserves (queue : List Operation) {inputs : List (Option Operation)} :
    (fifo queue inputs).reduceOption ++ fifoRest queue inputs = queue ++ inputs.reduceOption := by
  induction inputs generalizing queue with
  | nil => exact (append_nil _).symm
  | cons input inputs induction =>
    cases input with
    | some op =>
      rw [fifo, fifoRest, induction, append_assoc]
      rfl
    | none =>
      cases queue with
      | nil => exact induction []
      | cons oldest queue => exact congrArg _ (induction queue)

variable {svc : PairServiceState}

section Inbox

variable {id : TransactionId} {bytes : Bytes}

theorem operationOf_status {query : StatusMessage}
    (decoded : StatusMessage.decode bytes = .ok query) : operationOf id bytes = none := by
  have sized : bytes.length = STATUS_MESSAGE_LEN := by
    by_contra differs
    rw [StatusMessage.decode, dif_neg differs] at decoded
    cases decoded
  have undecoded : Message.decode bytes = .error .incompatible := by
    rw [Message.decode, dif_neg (by rw [sized]; decide)]
  rw [operationOf, undecoded]

theorem acceptControl_operations : operationsOf id (svc.acceptControl bytes).inbox =
      operationsOf id svc.inbox ++ (operationOf id bytes).toList := by
  unfold PairServiceState.acceptControl
  cases decoded : StatusMessage.decode bytes with
  | ok query =>
    have unchanged (after : PairServiceState)
        (same : after.inbox = svc.inbox) :
        operationsOf id after.inbox =
          operationsOf id svc.inbox ++ (operationOf id bytes).toList := by
      rw [same, operationOf_status decoded, Option.toList_none, append_nil]
    apply unchanged
    dsimp only
    split_ifs
    · split
      · split_ifs <;> rfl
      · rfl
    · rfl
  | error error => cases read : operationOf _ _ <;> simp [operationsOf, read]

theorem takeMessage_other {other : TransactionId} (differs : other ≠ id) :
    operationsOf id (svc.takeMessage other).2.inbox = operationsOf id svc.inbox := by
  rcases took : svc.takeMessage _ with ⟨_ | op, after⟩
  · have foreign := (svc.takeMessage_none_iff _).mp (congrArg _ took)
    rw [PairServiceState.takeMessage, findIdx?_eq_none_iff.mpr foreign] at took
    rw [← congrArg Prod.snd took]
  · obtain ⟨older, frame, newer, inbox, decoded, -, rfl⟩ := PairServiceState.takeMessage_some took
    have unread : operationOf id frame = none := by simp [operationOf, decoded, differs]
    simp only [operationsOf, inbox, filterMap_append, filterMap_cons, unread]

end Inbox

namespace InboxLog

variable {id : TransactionId} {log : InboxLog}

/-- The inbox serves `id` as a queue does. -/
structure Serves (id : TransactionId) (log : InboxLog) : Prop where
  answers : log.answers id = fifo [] (log.calls.filterMap (view id))
  waiting : fifoRest [] (log.calls.filterMap (view id)) = log.waiting id

theorem serves_start : Serves id (start svc) := ⟨rfl, rfl⟩

theorem Serves.accept (serves : Serves id log) (bytes : Bytes) :
    Serves id (log.step (.acceptControl bytes)) := by
  obtain ⟨answers, waiting⟩ := serves
  have came : (log.step (.acceptControl bytes)).waiting id =
        log.waiting id ++ (operationOf id bytes).toList :=
    acceptControl_operations
  have seen : (log.step (.acceptControl bytes)).calls.filterMap (view id) =
      log.calls.filterMap (view id) ++ ((operationOf id bytes).map some).toList := by
    simp only [step]
    cases read : operationOf id bytes <;> simp [view, read]
  constructor
  · rw [seen, fifo_append, ← answers]
    cases operationOf id bytes with
    | none | some op => exact (append_nil _).symm
  · rw [seen, fifoRest_append, waiting, came]
    cases operationOf id bytes with
    | none => exact (append_nil _).symm
    | some op => rfl

theorem Serves.take (serves : Serves id log) (other : TransactionId) :
    Serves id (log.step (.takeMessage other)) := by
  obtain ⟨answers, waiting⟩ := serves
  by_cases own : other = id
  · obtain rfl := own
    obtain ⟨inbox, reply, left⟩ := log.service.takeMessage_operations other
    have seen : (log.step (.takeMessage other)).calls.filterMap (view other) =
        log.calls.filterMap (view other) ++ [none] := by
      simp [step, view]
    have answered : (log.step (.takeMessage other)).answers other =
        log.answers other ++ [(log.waiting other).head?] := by
      simp [step, InboxLog.answers, reply, InboxLog.waiting]
    constructor
    · rw [answered, seen, fifo_append, ← answers, waiting]
      rfl
    · rw [seen, fifoRest_append, waiting, step, reply]
      exact left.symm
  · have seen : (log.step (.takeMessage other)).calls.filterMap (view id) =
        log.calls.filterMap (view id) := by
      simp [step, view, own]
    have answered : (log.step (.takeMessage other)).answers id = log.answers id := by
      simp [step, InboxLog.answers, own]
    constructor
    · rw [answered, seen, answers]
    · rw [seen, waiting]
      exact (takeMessage_other own).symm

theorem Serves.step (serves : Serves id log) (call : InboxCall) : Serves id (log.step call) := by
  cases call with
  | acceptControl bytes => exact serves.accept _
  | takeMessage other => exact serves.take _
  | beginSession => exact serves_start

/--
Since `begin_session`, the operations taken for a transaction are a prefix of
those accepted for it, nothing is taken only if all were, and the answers are
those of a queue which sees nothing but these.
-/
theorem takeMessage_queue (svc : PairServiceState)
    (calls : List InboxCall) (id : TransactionId) :
    (run step (start svc) calls).taken id <+:
        (run step (start svc) calls).accepted id ∧
      (((run step (start svc) calls).service.takeMessage id).1 = none ↔
        (run step (start svc) calls).taken id = (run step (start svc) calls).accepted id) ∧
      (run step (start svc) calls).answers id =
        fifo [] ((run step (start svc) calls).calls.filterMap (view id)) := by
  have serves : Serves id (run step (start svc) calls) := by
    apply run_invariant
    · intro log call serves
      exact serves.step _
    · exact serves_start
  generalize run step (start svc) calls = log at serves
  have conserved : log.taken id ++ log.waiting id = log.accepted id := by
    rw [taken, serves.answers, ← serves.waiting]
    exact fifo_conserves []
  refine ⟨⟨_, conserved⟩, ?_, serves.answers⟩
  obtain ⟨inbox, reply, -⟩ := log.service.takeMessage_operations _
  rw [reply, head?_eq_none_iff, ← conserved, self_eq_append_right]
  rfl

end InboxLog

end DeskUnlock.Pairing
