import DeskUnlock.Pairing.AttemptTrace

/-!
# What a pair session takes notice of

Every phone with an authenticated link can write to `v2-control`, and the
reader keeps every complete frame that is neither a revocation nor a status
message.  Of the frames that it keeps, the driver only ever takes messages of
the transaction that is running, and a new attempt empties the inbox.

A session is therefore determined by its view: the session without its inbox,
and the operations that the running attempt can take from it.  A frame is a
notice if it changes the view.
-/

namespace DeskUnlock.Pairing

open List Option

/-! ## The messages of a transaction -/

def operationOf (id : TransactionId) (frame : Bytes) : Option Operation :=
  match Message.decode frame with
  | .ok msg => if msg.transaction = id then some msg.operation else none
  | .error _ => none

variable {id : TransactionId}

theorem operationOf_eq_some {frame : Bytes} {op : Operation}
    (decoded : Message.decode frame = .ok ⟨id, op⟩) : operationOf id frame = some op := by
  simp [operationOf, decoded]

theorem operationOf_eq_none {frame : Bytes} (foreign : isMessageOf id frame = false) :
    operationOf id frame = none := by
  unfold isMessageOf at foreign
  unfold operationOf
  split
  case h_1 msg decoded =>
    rw [decoded] at foreign
    simpa using foreign
  case h_2 => rfl

/-- The operations that an attempt of `id` can take, oldest first. -/
def operationsOf (id : TransactionId) (inbox : List Bytes) : List Operation :=
  inbox.filterMap (operationOf id)

theorem operationsOf_eq_nil {inbox : List Bytes}
    (foreign : ∀ frame ∈ inbox, isMessageOf id frame = false) : operationsOf id inbox = [] :=
  filterMap_eq_nil_iff.mpr fun _ mem => operationOf_eq_none (foreign _ mem)

namespace PairServiceState

def withInbox (svc : PairServiceState) (inbox : List Bytes) :
    PairServiceState :=
  { svc with inbox }

theorem takeMessage_operations (svc : PairServiceState) (id : TransactionId) : ∃ inbox,
    svc.takeMessage id = ((operationsOf id svc.inbox).head?, svc.withInbox inbox) ∧
    operationsOf id inbox = (operationsOf id svc.inbox).tail := by
  cases took : svc.takeMessage id with
  | mk op? taken =>
    cases op? with
    | none =>
      have absent : (svc.takeMessage id).1 = none := by rw [took]
      have foreign := (svc.takeMessage_none_iff _).mp absent
      have same : taken = svc := by
        rw [← findIdx?_eq_none_iff] at foreign
        simpa [takeMessage, foreign] using took.symm
      refine ⟨svc.inbox, ?_, ?_⟩
      · rw [operationsOf_eq_nil foreign, same]
        rfl
      · rw [operationsOf_eq_nil foreign]
        rfl
    | some op =>
      obtain ⟨before, frame, after, inbox, decoded, older, rfl⟩ := takeMessage_some took
      have skipped := operationsOf_eq_nil older
      unfold operationsOf at skipped
      refine ⟨before ++ after, ?_, ?_⟩
      · simp [operationsOf, inbox, skipped, operationOf_eq_some decoded, withInbox]
      · simp [operationsOf, inbox, skipped, operationOf_eq_some decoded]

end PairServiceState

/-! ## The driver and its inbox -/

def Drive.withInbox (drive : Drive) (inbox : List Bytes) : Drive :=
  { drive with service := drive.service.withInbox inbox }

def Inert (part : Drive → Drive) : Prop :=
  ∀ drive inbox, part (drive.withInbox inbox) = (part drive).withInbox inbox

def InertResult (part : Drive → Except PairEngineError Drive) : Prop :=
  ∀ drive inbox, part (drive.withInbox inbox) = (part drive).map (·.withInbox inbox)

theorem Inert.inbox {part : Drive → Drive} (inert : Inert part) (drive : Drive) :
    (part drive).service.inbox = drive.service.inbox := by
  have same : part drive = (part drive).withInbox drive.service.inbox := inert _ _
  rw [same]
  rfl

theorem Inert.comp {first second : Drive → Drive} (inert : Inert first) (next : Inert second) :
    Inert fun drive => second (first drive) := by
  intro drive inbox
  dsimp only
  rw [inert, next]

theorem InertResult.bind {first second : Drive → Except PairEngineError Drive}
    (inert : InertResult first) (next : InertResult second) :
    InertResult fun drive => first drive >>= second := by
  intro drive inbox
  dsimp only
  rw [inert]
  cases first drive with
  | error error => rfl
  | ok middle => exact next middle _

theorem Inert.pure {part : Drive → Drive} (inert : Inert part) :
    InertResult fun drive => pure (part drive) := by
  intro drive inbox
  dsimp only
  rw [inert]
  rfl

theorem InertResult.orFail {part : Drive → Except PairEngineError Drive}
    (inert : InertResult part) : Inert fun drive => drive.orFail (part drive) := by
  intro drive inbox
  dsimp only
  rw [inert]
  cases part drive <;> rfl

theorem tryLocal_inert (ev : LocalEvent) : Inert (·.tryLocal ev) := by
  intro drive inbox
  simp only [Drive.tryLocal, Drive.withInbox]
  split <;> rfl

theorem applyLocal_inert (ev : LocalEvent) (error : PairEngineError) :
    InertResult (·.applyLocal ev error) := by
  intro drive inbox
  simp only [Drive.applyLocal, Drive.withInbox]
  split <;> rfl

theorem applyRemote_inert (op : Operation) : InertResult (·.applyRemote op) := by
  intro drive inbox
  simp only [Drive.applyRemote, Drive.withInbox]
  split <;> rfl

theorem publishPaced_inert (late : Bool) (op : Operation) {resume : Drive → Drive}
    (inert : Inert resume) : Inert (·.publishPaced late op resume) := by
  intro drive inbox
  have same : (drive.withInbox inbox).service.unread = drive.service.unread := rfl
  dsimp only
  rw [Drive.publishPaced, Drive.publishPaced, same]
  split_ifs
  · rfl
  · exact inert (drive.publish _) _

theorem stretches_inert : Stretches (fun _ part => Inert part) InertResult where
  note _ _ _ _ := rfl
  suspend _ _ _ := rfl
  publish _ _ _ := rfl
  request _ _ _ := rfl
  rememberSession _ _ := rfl
  tryLocal := tryLocal_inert
  comp := .comp
  applyLocal := applyLocal_inert
  applyRemote := applyRemote_inert
  throw _ _ _ _ _ := rfl
  bind := .bind
  pure := Inert.pure
  orFail := InertResult.orFail
  publishPaced := publishPaced_inert

section Waiting

variable (drive : Drive) {id : TransactionId}
  (own : drive.attempt.context.transactionId = id) (late : Bool)
  (resume : Drive → Except PairEngineError Operation → Drive)

include own

theorem waitForOperation_silent (silent : operationsOf id drive.service.inbox = []) :
    drive.waitForOperation late resume =
    if late then resume (drive.note .timedOut) (.error .aborted) else drive := by
  obtain ⟨left, took, -⟩ := drive.service.takeMessage_operations _
  rw [silent] at took
  rw [Drive.waitForOperation, own, took]
  rfl

theorem waitForOperation_told {op : Operation} {later : List Operation}
    (told : operationsOf id drive.service.inbox = op :: later) : ∃ left, operationsOf id left =
    later ∧ drive.waitForOperation late resume = resume ((drive.note (.took op)).withInbox left)
    (if op.isAbort then .error .aborted else .ok op) := by
  obtain ⟨left, took, leftOf⟩ := drive.service.takeMessage_operations _
  rw [told] at took leftOf
  refine ⟨left, leftOf, ?_⟩
  rw [Drive.waitForOperation, own, took]
  dsimp only [head?_cons]
  split_ifs <;> rfl

/-- With the same operations in its inbox, the driver is told the same. -/
theorem waitForOperation_withInbox (inert : ∀ answer, Inert (resume · answer))
    {inbox : List Bytes} (same : operationsOf id inbox = operationsOf id drive.service.inbox) :
    ∃ rest,
      (drive.withInbox inbox).waitForOperation late resume =
          (drive.waitForOperation late resume).withInbox rest ∧
        operationsOf id rest =
          operationsOf id (drive.waitForOperation late resume).service.inbox := by
  cases waiting : operationsOf id drive.service.inbox with
  | nil =>
    rw [waiting] at same
    refine ⟨inbox, ?_, ?_⟩
    · rw [waitForOperation_silent _ own _ _ waiting,
        waitForOperation_silent (drive.withInbox inbox) own _ _ same]
      split_ifs
      · exact inert _ (drive.note .timedOut) _
      · rfl
    · rw [same, waitForOperation_silent _ own _ _ waiting]
      split_ifs
      · rw [(inert _).inbox]
        exact waiting.symm
      · exact waiting.symm
  | cons op later =>
    rw [waiting] at same
    obtain ⟨left, leftOf, resumed⟩ := waitForOperation_told _ own _ _ waiting
    obtain ⟨rest, restOf, resumedOther⟩ :=
      waitForOperation_told (drive.withInbox inbox) own _ _ same
    refine ⟨rest, ?_, ?_⟩
    · rw [resumed, resumedOther]
      exact inert _ ((drive.note (.took _)).withInbox left) _
    · rw [resumed, (inert _).inbox, restOf, ← leftOf]
      rfl

end Waiting

theorem Drive.advance_withInbox {drive : Drive}
    {id : TransactionId} (own : drive.attempt.context.transactionId = id) {inbox : List Bytes}
    (same : operationsOf id inbox = operationsOf id drive.service.inbox) (resum : Resumption) :
    ∃ rest, (drive.withInbox inbox).advance resum = (drive.advance resum).withInbox rest ∧
    operationsOf id rest = operationsOf id (drive.advance resum).service.inbox := by
  apply stretches_inert.advance _ _ (motive := fun _ after => ∃ rest,
      after (drive.service.withInbox inbox) = (after drive.service).withInbox rest ∧
        operationsOf id rest = operationsOf id (after drive.service).service.inbox)
  · exact ⟨inbox, rfl, same⟩
  · intro _ part inert
    exact ⟨inbox, inert _ _, by rw [inert.inbox, same]⟩
  · intro late resume inert
    exact waitForOperation_withInbox _ own _ _ inert same

/-! ## Views -/

variable (sess : PairSession)

/-- The transaction whose messages the driver still takes. -/
def PairSession.running : Option TransactionId :=
  match sess.attempt with
  | none => none
  | some att => if att.point.ended then none else some att.context.transactionId

def PairSession.withInbox (sess : PairSession) (inbox : List Bytes) :
    PairSession :=
  { sess with service := sess.service.withInbox inbox }

/-- What a session is determined by. -/
structure View where
  bare : PairSession
  /-- What the running attempt can take from the inbox. -/
  pending : List Operation

def PairSession.view : View where
  bare := sess.withInbox []
  pending := sess.running.elim [] (operationsOf · sess.service.inbox)

variable {first second : PairSession}

theorem PairSession.exists_withInbox_of_view (same : first.view = second.view) :
    ∃ inbox, second = first.withInbox inbox ∧
    ∀ id ∈ first.running, operationsOf id inbox = operationsOf id first.service.inbox := by
  have bare : first.withInbox [] = second.withInbox [] := congrArg View.bare same
  have equal : second = first.withInbox second.service.inbox :=
    calc
      second = (second.withInbox []).withInbox _ := rfl
      _ = (first.withInbox []).withInbox _ := by rw [bare]
  refine ⟨second.service.inbox, equal, ?_⟩
  intro id running
  have runningToo : second.running = some id := by
    rw [equal]
    exact running
  have pending : first.view.pending = second.view.pending := congrArg _ same
  simp only [view, mem_def.mp running, runningToo] at pending
  exact pending.symm

theorem PairSession.view_withInbox {sess : PairSession} {inbox : List Bytes}
    (same : ∀ id ∈ sess.running, operationsOf id inbox = operationsOf id sess.service.inbox) :
    (sess.withInbox inbox).view = sess.view := by
  have pending : sess.running.elim []
      (operationsOf · inbox) = sess.running.elim [] (operationsOf · sess.service.inbox) := by
    cases running : sess.running with
    | none => rfl
    | some id => exact same _ running
  exact congrArg (View.mk _) pending

/-! ## Notices -/

/-- What a frame on `v2-control` tells the session. -/
inductive Notice where
  | revocation (peerId : TransactionId)
  /-- A query about the transaction that the service remembers. -/
  | query (nonce : UInt64)
  /-- A message of the running transaction. -/
  | message (op : Operation)
deriving DecidableEq

def PairSession.controlNotice (frame : Bytes) : Option Notice :=
  match StatusMessage.decode frame with
  | .ok query =>
    if query.state.isNone ∧
        sess.service.session.map Prod.fst = some query.transaction then
      some (.query query.nonce)
    else none
  | .error _ => (sess.running.bind (operationOf · frame)).map .message

def PairSession.notice (frame : Bytes) : Option Notice :=
  match Message.decode frame with
  | .ok msg =>
    if msg.operation = .revoke then some (.revocation msg.transaction) else sess.controlNotice frame
  | .error _ => sess.controlNotice frame

def PairSession.notices (payload : Bytes) : List Notice :=
  (frameControlPayload payload).filterMap sess.notice

/-- `try_send` of a revocation: a full channel drops it. -/
def PairSession.requestRevocation (peerId : TransactionId) : PairSession :=
  if sess.commits.length < COMMIT_CHANNEL_CAPACITY then
    { sess with commits := sess.commits ++ [revokeRequest ⟨peerId, .revoke⟩] }
  else sess

def PairSession.answerQuery (nonce : UInt64) : PairSession :=
  match sess.service.session with
  | none => sess
  | some (id, status) =>
    { sess with service := sess.service.publishStatus (.response id nonce status) }

def View.hear (view : View) : Notice → View
  | .revocation peerId => { view with bare := view.bare.requestRevocation peerId }
  | .query nonce => { view with bare := view.bare.answerQuery nonce }
  | .message op => { view with pending := view.pending ++ [op] }

namespace PairSession

theorem view_requestRevocation (peerId : TransactionId) :
    (sess.requestRevocation peerId).view = sess.view.hear (.revocation peerId) := by
  have bare : (sess.withInbox []).requestRevocation peerId =
      (sess.requestRevocation peerId).withInbox [] := by
    have same : (sess.withInbox []).commits = sess.commits := rfl
    rw [requestRevocation, requestRevocation, same]
    split_ifs <;> rfl
  have kept : (sess.requestRevocation peerId).view.pending = sess.view.pending := by
    unfold requestRevocation
    split_ifs <;> rfl
  exact congrArg₂ View.mk bare.symm kept

theorem view_answerQuery (nonce : UInt64) :
    (sess.answerQuery nonce).view = sess.view.hear (.query nonce) := by
  obtain ⟨⟨hostPubkey, hostName, status, unread, inbox, remembered⟩, commits, att⟩ := sess
  cases remembered <;> rfl

theorem view_acceptControl (frame : Bytes) :
    { sess with
      service := sess.service.acceptControl frame }.view =
      (sess.controlNotice frame).elim sess.view sess.view.hear := by
  cases decoded : StatusMessage.decode frame with
  | ok query =>
    have answered :
        { sess with
          service := sess.service.acceptControl frame } =
          if query.state.isNone ∧
              sess.service.session.map Prod.fst = some query.transaction then
            sess.answerQuery query.nonce
          else sess := by
      simp only [PairServiceState.acceptControl, decoded, answerQuery]
      cases query.state.isNone with
      | false => simp
      | true =>
        cases sess.service.session with
        | none => simp
        | some remembered =>
          by_cases own : remembered.1 = query.transaction
          · simp [own]
          · simp [own]
    rw [answered, controlNotice, decoded]
    dsimp only
    split_ifs
    · exact sess.view_answerQuery _
    · rfl
  | error _ =>
    have kept : sess.service.acceptControl frame =
        sess.service.withInbox (sess.service.inbox ++ [frame]) := by
      simp [PairServiceState.acceptControl, decoded, PairServiceState.withInbox]
    have split : sess.running.elim [] (operationsOf · (sess.service.inbox ++ [frame])) =
        sess.view.pending ++ (sess.running.bind (operationOf · frame)).toList := by
      unfold view
      cases sess.running with
      | none => rfl
      | some id => cases found : operationOf id frame <;> simp [operationsOf, found]
    have arrived : (sess.withInbox (sess.service.inbox ++ [frame])).view =
          ⟨sess.withInbox [],
            sess.view.pending ++ (sess.running.bind (operationOf · frame)).toList⟩ :=
      congrArg _ split
    rw [kept, controlNotice, decoded]
    refine arrived.trans ?_
    cases sess.running.bind (operationOf · frame) with
    | none => exact congrArg _ (append_nil _)
    | some op => rfl

theorem view_acceptFrame {frame : Bytes} : (sess.acceptFrame frame).view =
    (sess.notice frame).elim sess.view sess.view.hear := by
  unfold acceptFrame notice
  cases Message.decode frame with
  | ok msg =>
    dsimp only
    by_cases revoked : msg.operation = .revoke
    · rw [if_pos revoked, if_pos revoked]
      exact sess.view_requestRevocation _
    · rw [if_neg revoked, if_neg revoked]
      exact sess.view_acceptControl _
  | error _ => exact sess.view_acceptControl _

theorem acceptFrame_remembered (frame : Bytes) :
    (sess.acceptFrame frame).service.session = sess.service.session := by
  have kept : (sess.service.acceptControl frame).session = sess.service.session := by
    unfold PairServiceState.acceptControl
    split
    · split_ifs
      · split
        · split_ifs <;> rfl
        · rfl
      · rfl
    · rfl
  unfold acceptFrame
  split
  · split_ifs
    · rfl
    · rfl
    · exact kept
  · exact kept

/-- Notices depend on the attempt and on what the service remembers. -/
theorem notice_congr (att : first.attempt = second.attempt)
    (remembered : first.service.session = second.service.session) :
    first.notice = second.notice := by
  funext frame
  simp only [notice, controlNotice, running, att, remembered]

theorem notice_acceptFrame {frame : Bytes} : (sess.acceptFrame frame).notice = sess.notice :=
  notice_congr (acceptFrame_attempt _) (sess.acceptFrame_remembered _)

/-- What a reader does to the view is what the notices among its frames do. -/
theorem view_foldl_acceptFrame {frames : List Bytes} : (frames.foldl acceptFrame sess).view =
    (frames.filterMap sess.notice).foldl View.hear sess.view := by
  induction frames generalizing sess with
  | nil => rfl
  | cons frame rest induction =>
    rw [foldl_cons, induction, notice_acceptFrame, view_acceptFrame]
    cases noticed : sess.notice frame with
    | none => rw [filterMap_cons_none noticed, elim_none]
    | some notice => rw [filterMap_cons_some noticed, foldl_cons, elim_some]

/-! ## A step depends on the view -/

theorem attempt_of_view (same : first.view = second.view) : first.attempt = second.attempt :=
  congrArg (fun view => view.bare.attempt) same

theorem notice_of_view (same : first.view = second.view) : first.notice = second.notice :=
  notice_congr (attempt_of_view same) (congrArg (fun view => view.bare.service.session) same)

theorem view_control (same : first.view = second.view) {payload other : Bytes}
    (alike : first.notices payload = first.notices other) :
    (first.step (.control payload)).view = (second.step (.control other)).view := by
  unfold notices at alike
  rw [step, step, view_foldl_acceptFrame, view_foldl_acceptFrame,
    ← notice_of_view same, ← same, alike]

theorem resume_idle {sess : PairSession} (idle : sess.idle = true)
    (resum : Resumption) : sess.resume resum = sess := by
  cases present : sess.attempt with
  | none => exact step_resumed_none present _
  | some att =>
    have ended : att.point.ended = true := by simpa [PairSession.idle, present] using idle
    rw [resume_eq present, Drive.advance_ended ended, drive, ← present]

theorem running_of_attempt {sess : PairSession} {att : Attempt}
    (present : sess.attempt = some att) (running : id ∈ sess.running) :
    att.context.transactionId = id := by
  simp only [PairSession.running, present, mem_def] at running
  split_ifs at running
  exact some.inj running

theorem view_resume (same : first.view = second.view) {resum : Resumption} :
    (first.resume resum).view = (second.resume resum).view := by
  obtain ⟨inbox, rfl, operations⟩ := exists_withInbox_of_view same
  cases idle : first.idle with
  | true => rw [resume_idle idle, @resume_idle (first.withInbox inbox) idle, same]
  | false =>
    obtain ⟨att, present, ongoing⟩ :
        ∃ att, first.attempt = some att ∧ att.point.ended = false := by
      unfold PairSession.idle at idle
      split at idle
      case h_1 => cases idle
      case h_2 att present => exact ⟨att, present, idle⟩
    have own : first.running = some att.context.transactionId := by
      simp [running, present, ongoing]
    obtain ⟨rest, moved, restOf⟩ :=
      @Drive.advance_withInbox (first.drive _) _ rfl inbox (operations _ own) _
    obtain ⟨suffix, extended, -⟩ := advance_extends (first.drive _) _
    have resumed := resume_eq present resum
    have changed :
        (first.withInbox inbox).resume resum = (first.resume resum).withInbox rest := by
      have apart : (first.withInbox inbox).drive att = (first.drive att).withInbox inbox :=
        rfl
      rw [@resume_eq (first.withInbox inbox) _ present, apart, moved, resumed]
      rfl
    rw [changed]
    refine (view_withInbox ?_).symm
    intro id running
    have current : att.context.transactionId = id := by
      have ctx := extended.context
      have latest := running_of_attempt (congrArg _ resumed) running
      rw [ctx] at latest
      exact latest
    rw [← current, resumed]
    exact restOf

/-- What a step makes of the view depends on nothing but the view. -/
theorem view_step (same : first.view = second.view) {ev : SessionEvent} :
    (first.step ev).view = (second.step ev).view := by
  cases ev with
  | control payload => exact view_control same rfl
  | read offset =>
    obtain ⟨inbox, rfl, operations⟩ := exists_withInbox_of_view same
    exact (@view_withInbox (first.step (.read _)) _ operations).symm
  | opened phonePubkey addr id =>
    obtain ⟨inbox, rfl, operations⟩ := exists_withInbox_of_view same
    have idle : (first.withInbox inbox).idle = first.idle := rfl
    unfold step
    rw [idle]
    split_ifs
    · rfl
    · exact same
  | resumed resum => exact view_resume same
  | received =>
    obtain ⟨inbox, rfl, operations⟩ := exists_withInbox_of_view same
    exact (@view_withInbox (first.step .received) _ operations).symm

end PairSession

end DeskUnlock.Pairing
