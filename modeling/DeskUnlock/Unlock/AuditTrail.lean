import DeskUnlock.Unlock.UnlockGrants

/-!
# The audit trail of challenges

`run_challenge` appends one audit record on every way out of it.  A task that
returns has therefore paid for every frame that it notified.  But
`handle_connection` races the dispatch against a read of the socket, and a
client that hangs up or sends another byte makes it drop the dispatch: a task
that is dropped between its frame and its record leaves the frame without
one.
-/

namespace DeskUnlock.Unlock

open Texts Dialogues Dialogue Runs List Option
open Pairing (Bytes)
open Rpc (Request Response)

/-! ## The account of a task -/

def account (entries : List (Bytes × List AuditRecord)) :
    DaemonTurn → List (Bytes × List AuditRecord)
  | ⟨.notifyChallenge _ frame, .ok ()⟩ => entries ++ [(frame, [])]
  | ⟨.audit record, _⟩ => entries.map fun entry => (entry.1, entry.2 ++ [record])
  | _ => entries

section

variable (past : List DaemonTurn)

/-- The notified frames, each with the records that were appended after it. -/
def notified : List (Bytes × List AuditRecord) := past.foldl account []

def AuditRecord.carries (record : AuditRecord) (frame : Bytes) : Bool :=
  match Frame.decode frame with
  | .ok challenge => record.nonceHex = hexText challenge.nonce.toList
  | .error _ => false

/-- Each notified frame is followed by one record with its nonce. -/
def Audited : Prop := ∀ entry ∈ notified past, (entry.2.filter (·.carries entry.1)).length = 1

/-- A challenge went out and has no line yet. -/
def Owing : Prop := ∃ entry ∈ notified past, entry.2 = []

@[simp]
theorem notified_snoc {turn : DaemonTurn} :
    notified (past ++ [turn]) = account (notified past) turn := by
  simp [notified]

end

theorem Audited.not_owing {past : List DaemonTurn} (audited : Audited past) : ¬ Owing past := by
  rintro ⟨entry, mem, unpaid⟩
  have once := audited _ mem
  rw [unpaid] at once
  cases once

variable {question : DaemonQuestion} {before after : Orchestrator}

namespace Server

/-! ## Every task keeps its account -/

def Unbilled (_ : List DaemonTurn) : DaemonQuestion → Prop
  | .notifyChallenge _ _ | .audit _ => False
  | _ => True

variable {past : List DaemonTurn}

theorem Unbilled.notified (unbilled : Unbilled past question) (answer : DaemonAnswer question) :
    notified (past ++ [⟨question, answer⟩]) = notified past := by
  rw [notified_snoc]
  cases question with
  | notifyChallenge peerId frame | audit record => exact unbilled.elim
  | _ => rfl

/-- At most one frame was notified, and no record is due for it. -/
def Paid (past : List DaemonTurn) : Prop :=
  notified past = [] ∨
    ∃ frame record, record.carries frame = true ∧ notified past = [(frame, [record])]

/-- At most one frame was notified, and a record with this nonce is due. -/
def Due (nonceHex : Text) (past : List DaemonTurn) : Prop :=
  notified past = [] ∨
    ∃ frame,
      notified past = [(frame, [])] ∧
        ∀ record : AuditRecord, record.nonceHex = nonceHex → record.carries frame = true

/-- What a dropped task may leave behind. -/
def Orderly (past : List DaemonTurn) (_ : DaemonQuestion) : Prop := Audited past ∨ Owing past

theorem Paid.audited (paid : Paid past) : Audited past := by
  intro entry mem
  rcases paid with none | ⟨frame, record, carries, single⟩
  · rw [none] at mem
    cases mem
  · rw [single, mem_singleton] at mem
    subst mem
    simp [carries]

theorem Paid.orderly (paid : Paid past) (question : DaemonQuestion) : Orderly past question :=
  .inl paid.audited

theorem Due.orderly {nonceHex : Text} (due : Due nonceHex past)
    (question : DaemonQuestion) : Orderly past question := by
  rcases due with none | ⟨frame, single, -⟩
  · exact (show Paid past from .inl none).orderly question
  · exact .inr ⟨(frame, []), by rw [single]; simp, rfl⟩

theorem Paid.turn (paid : Paid past) (question : DaemonQuestion) (unbilled : Unbilled past question)
    (answer : DaemonAnswer question) : Paid (past ++ [⟨question, answer⟩]) := by
  unfold Paid
  rw [unbilled.notified]
  exact paid

theorem Due.turn {nonceHex : Text} (due : Due nonceHex past) (question : DaemonQuestion)
    (unbilled : Unbilled past question) (answer : DaemonAnswer question) :
    Due nonceHex (past ++ [⟨question, answer⟩]) := by
  unfold Due
  rw [unbilled.notified]
  exact due

theorem Due.pay {record : AuditRecord} (due : Due record.nonceHex past) :
    Paid (past ++ [⟨.audit record, ()⟩]) := by
  unfold Paid
  rw [notified_snoc]
  rcases due with none | ⟨frame, single, fits⟩
  · exact .inl (by rw [none]; rfl)
  · exact .inr ⟨frame, record, fits _ rfl, by rw [single]; rfl⟩

section

variable {SigningKey : Type} {crypto : Crypto SigningKey} {past : List DaemonTurn}

theorem unnotified_turn (none : notified past = []) (unbilled : Unbilled past question) :
    Orderly past question ∧ ∀ answer, notified (past ++ [⟨question, answer⟩]) = [] := by
  have paid : Paid past := .inl none
  refine ⟨paid.orderly _, fun answer => ?_⟩
  rw [unbilled.notified, none]

theorem keeps_unnotified {Result : Type} {prog : DaemonM Result} (none : notified past = [])
    (unbilled : Keeps Unbilled (fun _ _ => True) past prog) :
    Keeps Orderly (fun past _ => notified past = []) past prog := by
  have known := unbilled.carry _ none fun _ _ answer allowed none =>
    (unnotified_turn none allowed).2 _
  refine (known.widen ?_).imp fun _ _ known => known.2
  exact fun _ _ known => (unnotified_turn known.2 known.1).1

theorem keeps_put_unbilled {Result : Type} {rest : DaemonAnswer question → DaemonM Result}
    {post : List DaemonTurn → Result → Prop} (none : notified past = [])
    (unbilled : Unbilled past question)
    (continues : ∀ past answer, notified past = [] → Keeps Orderly post past (rest answer)) :
    Keeps Orderly post past (put question >>= rest) := by
  obtain ⟨allowed, later⟩ := unnotified_turn none unbilled
  exact keeps_put allowed fun answer => continues _ _ (later _)

def Accounting : ChallengePoint → List DaemonTurn → Prop
  | .entered, past | .looked _, past | .drawn _ _, past => notified past = []
  | .told _ nonce _, past | .responded _ nonce _ _, past => Due (hexText nonce.toList) past
  | .due nonceHex _, past => Due nonceHex past
  | .settled _, past => Paid past

theorem accounting_outline {nonceSource : DaemonM (Except Text Nonce)}
    (draws : ∀ past, Keeps Unbilled (fun _ _ => True) past nonceSource)
    {peerId : Text} {deadlineMs : Nat} :
    Outline crypto nonceSource peerId deadlineMs Orderly Accounting where
  turn incidental held := by
    cases incidental with
    | finish => exact ⟨held.orderly _, held.turn _ trivial⟩
    | release => exact ⟨held.orderly _, held.turn _ trivial⟩
    | _ => exact unnotified_turn held trivial
  lookup held := by
    refine .imp_right (fun later found => ?_) (unnotified_turn held trivial)
    cases found with
    | none => exact .inl (later _)
    | some peerState => exact later _
  busy held := .inl held
  draw held := by
    refine (keeps_unnotified held (draws _)).imp fun past reply none => ?_
    cases reply with
    | error error => exact .inl none
    | ok nonce => exact none
  notify encoded held := by
    refine ⟨(show Paid _ from .inl held).orderly _, ?_⟩
    rintro (error | ⟨⟨⟩⟩)
    · refine .inl ?_
      rw [notified_snoc, held]
      rfl
    · refine .inr ⟨_, by rw [notified_snoc, held]; rfl, fun record same => ?_⟩
      have decoded := Frame.decode_eq_ok_iff.mpr ⟨rfl, encoded⟩
      simp [AuditRecord.carries, decoded, same, taggedChallenge]
  wait held := by
    refine ⟨held.orderly _, fun reply => ?_⟩
    cases reply with
    | error error => exact held.turn (.waitForResponse _ _) trivial _
    | ok responseBytes => exact held.turn (.waitForResponse _ _) trivial _
  refuse _ held := held
  check _ _ held := ⟨held.orderly _, held.turn _ trivial⟩
  audit held := by
    refine ⟨held.orderly _, Due.pay ?_⟩
    exact held

theorem issueChallengeFrom_orderly {nonceSource : DaemonM (Except Text Nonce)}
    (draws : ∀ past, Keeps Unbilled (fun _ _ => True) past nonceSource)
    (none : notified past = []) {peerId : Text} (deadlineMs : Nat) :
    Keeps Orderly (fun past _ => Paid past) past
      (issueChallengeFrom crypto nonceSource peerId deadlineMs) :=
  (accounting_outline draws).issueChallengeFrom none

theorem dispatch_orderly {cfg : ServeConfig} {req : Request}
    {back : BackendState} (none : notified past = []) :
    Keeps Orderly (fun past _ => Paid past) past (dispatch crypto cfg req back) := by
  have first : Paid past := .inl none
  have draws_pure (nonce : Nonce) (past : List DaemonTurn) :
      Keeps Unbilled (fun _ _ => True) past (pure (.ok nonce) : DaemonM (Except Text _)) :=
    trivial
  have draws_put (past : List DaemonTurn) : Keeps Unbilled (fun _ _ => True) past (put .random) :=
    ⟨trivial, fun _ => trivial⟩
  cases req with
  | challenge peerId nonce =>
    unfold dispatch
    dsimp only
    split_ifs
    · split
      · exact (issueChallengeFrom_orderly (draws_pure _) none
            DEFAULT_AUTH_TIMEOUT).bind fun _ _ paid => paid
      · exact (issueChallengeFrom_orderly draws_put none
            DEFAULT_AUTH_TIMEOUT).bind fun _ _ paid => paid
    · exact first
  | reload =>
    unfold dispatch
    dsimp only
    split_ifs
    · exact keeps_put (first.orderly _) fun answer => first.turn .sendReload trivial _
    · exact first
  | status =>
    unfold dispatch
    dsimp only
    split_ifs
    · exact keeps_put (first.orderly _) fun answer => first.turn .peersSnapshot trivial _
    · exact first

/-- A task that returns owes no record. -/
theorem handleConnection_orderly {crypto : Crypto SigningKey}
    {cfg : ServeConfig} {codecs : Codecs} :
    Keeps Orderly (fun past _ => Paid past) [] (handleConnection crypto cfg codecs) := by
  refine keeps_put_unbilled rfl trivial fun past credentials none => ?_
  cases credentials with
  | error errno => exact .inl none
  | ok uid =>
    refine keeps_put_unbilled none trivial fun past back none => ?_
    have reading :
        Keeps Unbilled (fun _ _ => True) past
          (Rpc.readFrame codecs.request fun count => put (.readExact count)) := by
      refine Rpc.readFrame_keeps (fun count reply => ⟨.readExact count, reply⟩) ?_
        (fun _ _ => trivial) (fun _ _ _ _ => trivial)
      intro count past post holds
      exact ⟨trivial, holds⟩
    refine (keeps_unnotified none reading).bind ?_
    intro past reply none
    cases reply with
    | error error => exact .inl none
    | ok req =>
      refine (dispatch_orderly none).bind ?_
      intro past resp paid
      have writing :
          Keeps Orderly (fun past _ => Paid past) past
            (Rpc.writeFrame codecs.response (fun bytes => put (.write bytes)) resp) := by
        refine Rpc.writeFrame_keeps (fun _ => paid) ?_
        intro framed encoded
        exact ⟨paid.orderly _, fun answer => paid.turn (.write _) trivial _⟩
      exact writing.bind fun _ _ paid => paid

end

end Server

/-! ## The log -/

def DaemonQuestion.record? : DaemonQuestion → Option AuditRecord
  | .audit record => some record
  | _ => none

def recordsOf (past : List DaemonTurn) : List AuditRecord :=
  past.flatMap fun turn => turn.1.record?.toList

theorem recordsOf_snoc {past : List DaemonTurn} {turn : DaemonTurn} :
    recordsOf (past ++ [turn]) = recordsOf past ++ turn.1.record?.toList := by
  simp [recordsOf]

theorem Orchestrator.answer_auditLog {conn : Nat} {choice answer : DaemonAnswer question}
    (answered : before.answer conn question choice = some (after, answer)) :
    after.auditLog = before.auditLog ++ question.record?.toList := by
  have nothing : before.auditLog = before.auditLog ++ [] := (append_nil _).symm
  cases question with
  | acquireSlot pos =>
    cases choice with
    | false => cases answered; exact nothing
    | true =>
      simp only [Orchestrator.answer] at answered
      split_ifs at answered
      cases answered
      exact nothing
  | checkNonce pos nonce =>
    simp only [Orchestrator.answer] at answered
    split_ifs at answered
    · cases answered
      exact nothing
    · cases answered
      exact nothing
  | audit record => cases answered; rfl
  | _ => cases answered; exact nothing

theorem Session.answerDaemon_auditLog {before after : Session}
    {orch orchestrator' : Orchestrator} {conn through : Nat} {choice answer : DaemonAnswer question}
    (answered :
      before.answerDaemon orch conn through question choice = some (orchestrator', after, answer)) :
    orchestrator'.auditLog = orch.auditLog ++ question.record?.toList := by
  obtain ⟨_, asked⟩ := answerDaemon_orchestrator answered
  exact Orchestrator.answer_auditLog asked

/-! ## Tasks that have ended -/

/-- The client is about to leave its connection for another one. -/
def Session.reconnects (sess : Session) (choice : Oracle ClientAnswer) : Bool :=
  match sess.client with
  | .ask (.connect socket) _ => (choice (.connect socket)).isOk
  | _ => false

namespace UnlockSystem

def taskAt (system : UnlockSystem) (i : Nat) : List HandlerTask :=
  (system.sessions[i]?.bind Session.task).toList

def interrupted (system : UnlockSystem) : Event → List HandlerTask
  | .taskDropped i => system.taskAt i
  | .clientAnswered i choice _ =>
    if system.sessions[i]?.any (·.reconnects choice) then system.taskAt i else []
  | _ => []

def returned (system : UnlockSystem) : Event → List HandlerTask
  | .taskAnswered i _ _ => (system.taskAt i).filter (·.program.result?.isSome)
  | _ => []

end UnlockSystem

/-- A system, with every task that has returned or was dropped. -/
structure WatchedSystem where
  system : UnlockSystem
  ended : List HandlerTask

namespace WatchedSystem

def start (orch : Orchestrator) : WatchedSystem where
  system := .start orch
  ended := []

section

variable {SigningKey : Type} (crypto : Crypto SigningKey)
  (cfg : ServeConfig) (codecs : Codecs) (debug : Response → Text)

/-- Keep the tasks that ended. -/
def step (watched : WatchedSystem) (ev : UnlockSystem.Event) :
    WatchedSystem where
  system := watched.system.step crypto cfg codecs debug ev
  ended :=
    watched.ended ++ watched.system.interrupted ev ++
      (watched.system.step crypto cfg codecs debug ev).returned ev

/-- Every frame that an ended task has notified has its one record. -/
def Complete (watched : WatchedSystem) : Prop :=
  ∀ task ∈ watched.ended,
    Audited task.past ∧ List.Sublist (recordsOf task.past) watched.system.orchestrator.auditLog

/-- No task is dropped between a frame and its record. -/
def Spared (watched : WatchedSystem) (ev : UnlockSystem.Event) : Prop :=
  ∀ task ∈ watched.system.interrupted ev, ¬ Owing task.past

end

end WatchedSystem

section

variable {SigningKey : Type} {crypto : Crypto SigningKey}
  {cfg : ServeConfig} {codecs : Codecs} {debug : Response → Text}

/-- A task got where it is by its own turns, and its records are in the log. -/
structure HandlerTask.Logged (crypto : Crypto SigningKey) (cfg : ServeConfig) (codecs : Codecs)
    (orch : Orchestrator) (task : HandlerTask) : Prop where
  reached : Reached (handleConnection crypto cfg codecs) task.past task.program
  logged : List.Sublist (recordsOf task.past) orch.auditLog

variable {task : HandlerTask} {orch : Orchestrator}

namespace HandlerTask

theorem logged_start (orch : Orchestrator) :
    Logged crypto cfg codecs orch (.start crypto cfg codecs) where
  reached := .start
  logged := nil_sublist _

theorem Logged.mono (logged : task.Logged crypto cfg codecs before)
    (grown : before.auditLog <+: after.auditLog) : task.Logged crypto cfg codecs after where
  reached := logged.reached
  logged := logged.logged.trans grown.sublist

/-- A task that has returned has paid; one that has not may owe. -/
theorem Logged.audited_iff (logged : task.Logged crypto cfg codecs orch) :
    Audited task.past ↔ ¬ Owing task.past := by
  have keeps := logged.reached.keeps Server.handleConnection_orderly
  refine ⟨Audited.not_owing, ?_⟩
  intro paid
  cases prog : task.program with
  | done res =>
    rw [prog] at keeps
    exact Server.Paid.audited keeps
  | ask question next =>
    rw [prog] at keeps
    exact keeps.1.resolve_right paid

theorem Logged.audited_of_returned (logged : task.Logged crypto cfg codecs orch)
    (returned : task.program.result?.isSome = true) : Audited task.past := by
  have keeps := logged.reached.keeps Server.handleConnection_orderly
  obtain ⟨res, found⟩ := isSome_iff_exists.mp returned
  rw [eq_done_of_result? found] at keeps
  exact Server.Paid.audited keeps

end HandlerTask

def Session.Logged (crypto : Crypto SigningKey) (cfg : ServeConfig)
    (codecs : Codecs) (orch : Orchestrator) (sess : Session) : Prop :=
  ∀ task, sess.task = some task → task.Logged crypto cfg codecs orch

theorem Session.Logged.mono {sess : Session} (logged : sess.Logged crypto cfg codecs before)
    (grown : before.auditLog <+: after.auditLog) : sess.Logged crypto cfg codecs after :=
  fun _ served => (logged _ served).mono grown

theorem Session.Logged.daemonStep {sess : Session}
    (logged : sess.Logged crypto cfg codecs orch) (conn : Nat)
    (choice : Oracle DaemonAnswer) (through : Nat) :
    orch.auditLog <+:
        (sess.daemonStep orch conn choice through).1.auditLog ∧
      (sess.daemonStep orch conn choice through).2.Logged
        crypto cfg codecs (sess.daemonStep orch conn choice through).1 := by
  obtain same | ⟨task, question, next, orchestrator', after, answer, served,
      asking, answered, same⟩ :=
    sess.daemonStep_cases
  · rw [same]
    exact ⟨prefix_refl _, logged⟩
  · rw [same]
    have log := answerDaemon_auditLog answered
    refine ⟨⟨_, log.symm⟩, ?_⟩
    rintro _ ⟨⟩
    have before := logged _ served
    have reached := before.reached
    rw [asking] at reached
    refine ⟨reached.turn _, ?_⟩
    rw [recordsOf_snoc, log]
    exact before.logged.append (Sublist.refl _)

namespace UnlockSystem

def Logged (crypto : Crypto SigningKey) (cfg : ServeConfig)
    (codecs : Codecs) (system : UnlockSystem) : Prop :=
  ∀ sess ∈ system.sessions, sess.Logged crypto cfg codecs system.orchestrator

/-- The log only grows, and every task stays accounted for. -/
theorem Logged.step {system : UnlockSystem}
    (logged : system.Logged crypto cfg codecs) (ev : Event) : system.orchestrator.auditLog <+:
    (system.step crypto cfg codecs debug ev).orchestrator.auditLog ∧
    (system.step crypto cfg codecs debug ev).Logged crypto cfg codecs := by
  cases ev with
  | clientStarted kind =>
    refine ⟨prefix_refl _, ?_⟩
    refine forall_mem_append.mpr ⟨logged, forall_mem_singleton.mpr ?_⟩
    exact nofun
  | clientAnswered i choice through =>
    refine ⟨prefix_refl _, ?_⟩
    intro sess mem
    rcases exists_mem_of_mem_modify mem with same | ⟨old, inside, rfl⟩
    · exact logged _ same
    · intro task served
      rcases (old.clientStep_task _ _).2 with kept | new
      · exact logged _ inside _ (kept.symm.trans served)
      · cases new.symm.trans served
        exact HandlerTask.logged_start _
  | taskAnswered i choice through =>
    simp only [UnlockSystem.step]
    split
    · exact ⟨prefix_refl _, logged⟩
    · next sess found =>
        obtain ⟨grown, stepped⟩ := (logged _ (mem_of_getElem? found)).daemonStep i _ _
        refine ⟨grown, ?_⟩
        intro other mem
        rcases mem_or_eq_of_mem_set mem with old | rfl
        · exact (logged _ old).mono grown
        · exact stepped
  | taskDropped i =>
    refine ⟨prefix_refl _, ?_⟩
    intro sess mem
    rcases exists_mem_of_mem_modify mem with same | ⟨old, inside, rfl⟩
    · exact (logged _ same).mono (prefix_refl _)
    · intro task served
      obtain ⟨running, before, rfl⟩ := map_eq_some_iff.mp served
      have task := logged _ inside _ before
      exact ⟨task.reached, task.logged⟩
  | peerAdded peerId key phonePubkey | peerRemoved peerId =>
    refine ⟨prefix_refl _, ?_⟩
    exact fun sess mem => (logged _ mem).mono (prefix_refl _)

variable {system : UnlockSystem}

theorem Logged.taskAt (logged : system.Logged crypto cfg codecs) {i : Nat}
    (mem : task ∈ system.taskAt i) : task.Logged crypto cfg codecs system.orchestrator := by
  obtain ⟨sess, found, served⟩ := bind_eq_some_iff.mp (mem_toList.mp mem)
  exact logged _ (mem_of_getElem? found) _ served

theorem Logged.interrupted (logged : system.Logged crypto cfg codecs) {ev : Event}
    (mem : task ∈ system.interrupted ev) : task.Logged crypto cfg codecs system.orchestrator := by
  cases ev with
  | taskDropped i => exact logged.taskAt mem
  | clientAnswered i choice through =>
    simp only [UnlockSystem.interrupted] at mem
    split_ifs at mem
    · exact logged.taskAt mem
    · cases mem
  | _ => cases mem

theorem Logged.returned (logged : system.Logged crypto cfg codecs)
    {ev : Event} (mem : task ∈ system.returned ev) :
    task.Logged crypto cfg codecs system.orchestrator ∧ task.program.result?.isSome = true := by
  cases ev with
  | taskAnswered i choice through =>
    obtain ⟨present, done⟩ := mem_filter.mp mem
    exact ⟨logged.taskAt present, done⟩
  | _ => cases mem

end UnlockSystem

namespace WatchedSystem

/-- All tasks are accounted for, the ended ones too. -/
structure Logged (crypto : Crypto SigningKey) (cfg : ServeConfig)
    (codecs : Codecs) (watched : WatchedSystem) : Prop where
  system : watched.system.Logged crypto cfg codecs
  ended : ∀ task ∈ watched.ended, task.Logged crypto cfg codecs watched.system.orchestrator

theorem logged_start (orch : Orchestrator) :
    (start orch).Logged crypto cfg codecs where
  system := fun _ mem => absurd mem not_mem_nil
  ended := fun _ mem => absurd mem not_mem_nil

theorem complete_start {orch : Orchestrator} : (start orch).Complete :=
  fun _ mem => absurd mem not_mem_nil

theorem Logged.step {watched : WatchedSystem}
    (logged : watched.Logged crypto cfg codecs) (ev : UnlockSystem.Event) :
    (watched.step crypto cfg codecs debug ev).Logged crypto cfg codecs := by
  obtain ⟨grown, stepped⟩ := @UnlockSystem.Logged.step _ _ _ _ _ _ logged.system _
  refine ⟨stepped, ?_⟩
  intro task mem
  rcases mem_append.mp mem with earlier | returned
  · rcases mem_append.mp earlier with old | dropped
    · exact (logged.ended _ old).mono grown
    · exact (logged.system.interrupted dropped).mono grown
  · exact (stepped.returned returned).1

/-- A step keeps the trail complete exactly if it drops no debtor. -/
theorem complete_step_iff {watched : WatchedSystem} {ev : UnlockSystem.Event}
    (logged : watched.Logged crypto cfg codecs) (complete : watched.Complete) :
    (watched.step crypto cfg codecs debug ev).Complete ↔ watched.Spared ev := by
  obtain ⟨grown, stepped⟩ := @UnlockSystem.Logged.step _ _ _ _ _ _ logged.system _
  have after := @Logged.step _ _ _ _ debug _ logged ev
  constructor
  · intro kept task mem
    have paid := kept _ (mem_append_left _ (mem_append_right _ mem))
    exact paid.1.not_owing
  · intro spared task mem
    refine ⟨?_, (after.ended _ mem).logged⟩
    rcases mem_append.mp mem with earlier | returned
    · rcases mem_append.mp earlier with old | dropped
      · exact (complete _ old).1
      · exact (logged.system.interrupted dropped).audited_iff.mpr (spared _ dropped)
    · obtain ⟨task, done⟩ := stepped.returned returned
      exact task.audited_of_returned done

end WatchedSystem

/--
In every run of the daemon, each frame that an ended task has notified is
followed by exactly one record with its nonce, exactly when no task is dropped
between a frame and its record.
-/
theorem audit_complete_iff (crypto : Crypto SigningKey) (cfg : ServeConfig) (codecs : Codecs)
    (debug : Response → Text) (orch : Orchestrator) (events : List UnlockSystem.Event) :
    Throughout (WatchedSystem.step crypto cfg codecs debug)
        WatchedSystem.Complete (.start orch) events ↔
      Along (WatchedSystem.step crypto cfg codecs debug)
        WatchedSystem.Spared (.start orch) events :=
  @throughout_iff_along _ _ _ _ (WatchedSystem.Logged _ _ _) _
    (fun _ _ logged => logged.step _)
    (fun _ _ logged complete => WatchedSystem.complete_step_iff logged complete)
    _ (WatchedSystem.logged_start _) WatchedSystem.complete_start _

end

/-- A phone is notified, and then the client of the challenge hangs up. -/
def hangUpRun : List UnlockSystem.Event :=
  [.peerAdded samplePeer (.replicate 32 5) Phone.sampleKey,
    .clientStarted (.pam ⟨[], [], 20000⟩)] ++
    List.replicate 6 (.clientAnswered 0 sampleClientChoice 0) ++
    List.replicate 11 (.taskAnswered 0 sampleTaskChoice 0) ++ [.taskDropped 0]

def hungUp : WatchedSystem :=
  run (WatchedSystem.step sampleCrypto sampleConfig sampleCodecs
    fun _ => []) (.start .vacant) hangUpRun

/-- A frame was notified for a client that hung up, and nothing is logged. -/
theorem hung_up_unaudited :
    ¬ Throughout
        (WatchedSystem.step sampleCrypto sampleConfig sampleCodecs fun _ => [])
        WatchedSystem.Complete (.start .vacant) hangUpRun ∧
      (hungUp.ended.map fun task => (notified task.past).map fun entry => entry.2) = [[[]]] ∧
      hungUp.system.orchestrator.auditLog = [] := by
  have owed :
      (hungUp.ended.map fun task => (notified task.past).map fun entry => entry.2) = [[[]]] := by
    decide +kernel
  refine ⟨?_, owed, by decide +kernel⟩
  intro throughout
  have complete : hungUp.Complete := throughout.last
  obtain ⟨task, ended, frames⟩ := map_eq_singleton_iff.mp owed
  obtain ⟨entry, single, unpaid⟩ := map_eq_singleton_iff.mp frames
  refine (complete task (by simp [ended])).1.not_owing ⟨entry, ?_, unpaid⟩
  simp [single]

end DeskUnlock.Unlock
