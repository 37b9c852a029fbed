import DeskUnlock.Recovery.CommitOrder
import DeskUnlock.Recovery.Custody

/-!
# Custody along the runs of the daemon

The attempt and the consumer of the commit channel take turns: the attempt
waits for the answer to its one request, and between two requests only
revocations are carried out.  So at each point of the driver it is known what
the disk holds of the attempt.
-/

namespace DeskUnlock.Recovery

open FilePrograms Texts List Option
open Pairing

/-! ## What is owed -/

/-- What the disk holds of an attempt. -/
inductive Custody where
  | nothing
  | undecided
  | decided
  | held
deriving DecidableEq

/--
The disk holds this much of the attempt.  What is promoted may be given up for
a peer that a `Revoke` has `named` since.
-/
def Custody.Kept (libs : Primitives) (ctx : PairCommitContext)
    (named : Text → Prop) : Custody → BondDisk → Prop
  | .nothing, _ => True
  | .undecided, disk => Staged libs ctx .preCommit disk
  | .decided, disk => Staged libs ctx .commitPending disk
  | .held, disk => named (peerIdOf libs ctx) ∨ Held libs ctx disk

/-- A disk that holds the first also holds the second. -/
def Custody.covers (strong weak : Custody) : Bool :=
  strong = weak || weak = .nothing || (strong = .decided && weak = .held)

theorem Custody.covers_refl {custody : Custody} : custody.covers custody = true := by
  cases custody <;> rfl

variable {ctx : PairCommitContext} {disk : BondDisk} {att : Attempt}
  {phase : PairCommitPhase} {resum : Resumption}

theorem Custody.Kept.mono {libs : Primitives} {named : Text → Prop} {strong weak : Custody}
    (kept : strong.Kept libs ctx named disk) (covers : strong.covers weak = true) :
    weak.Kept libs ctx named disk := by
  cases weak with
  | nothing => exact trivial
  | undecided | decided => cases strong <;> first | exact kept | cases covers
  | held =>
    cases strong with
    | held => exact kept
    | decided => exact .inr (.inl kept)
    | nothing | undecided => cases covers

variable {due : Custody} {origin : Point} {durable : Bool}

theorem Custody.Kept.widen {libs : Primitives} {named wider : Text → Prop}
    (kept : due.Kept libs ctx named disk) (wide : ∀ peerId, named peerId → wider peerId) :
    due.Kept libs ctx wider disk := by
  cases due with
  | held => exact kept.imp_left (wide _)
  | nothing | undecided | decided => exact kept

/-- What the disk holds while the attempt is at its point. -/
def custodyOf (att : Attempt) : Custody :=
  match att.point with
  | .waitPrepared | .publishPrepared | .requestMarkCommit => .undecided
  | .publishCommit | .waitCommitAck | .publishCommitted | .waitCommitted
  | .requestPromote => .decided
  | .notifyBonded | .succeeded => .held
  | .failed _ =>
    if .requested .promote ∈ att.history then .held
    else if .published .committed ∈ att.history then .decided
    else .nothing
  | _ => .nothing

/-- What the disk holds while the request is carried out. -/
def custodyDuring : PairCommitPhase → Custody
  | .promote => .held
  | _ => .nothing

/-- What the disk holds once the request is answered. -/
def custodyAfter : PairCommitPhase → Bool → Custody
  | .stage, true => .undecided
  | .markCommit, true => .decided
  | .promote, _ => .held
  | _, _ => .nothing

/-! ## The custody of an attempt that goes on -/

theorem Left.mem_iff {origin point : Point} {history : List Entry} {entry : Entry}
    (exit : Left origin point history) (proper : entry.departing = false) :
    entry ∈ history ↔ entry ∈ origin.past := by
  constructor
  · intro mem
    rcases exit.mem_past_or_departing _ mem with past | departs
    · exact past
    · rw [proper] at departs
      cases departs
  · exact fun mem => exit.past_prefix.subset mem

theorem Left.custodyOf_eq (exit : Left origin att.point att.history) : custodyOf att =
      if .requested .promote ∈ origin.past then .held
      else if .published .committed ∈ origin.past then .decided
      else .nothing := by
  have asked : .requested .promote ∈ att.history ↔ _ := mem_iff exit rfl
  have published : .published .committed ∈ att.history ↔ _ := mem_iff exit rfl
  obtain ⟨ctx, tx, point, history⟩ := att
  cases exit <;> simp only [custodyOf, asked, published] <;> rfl

theorem Left.covers (exit : Left origin att.point att.history) (ctx : PairCommitContext) :
    (custodyOf (.atPoint ctx origin)).covers (custodyOf att) = true := by
  rw [custodyOf_eq exit]
  obtain ⟨_, tx, point, history⟩ := att
  cases exit <;> rfl

theorem Onward.covers (onward : Onward origin att) (unawaited : origin.awaited = none)
    (ctx : PairCommitContext) :
    (custodyOf (.atPoint ctx origin)).covers (custodyOf att) = true := by
  cases onward with
  | stayed other live => exact Custody.covers_refl
  | moved other live =>
    cases origin with
    | requestStage | requestMarkCommit | requestPromote => cases unawaited
    | _ => rfl
  | left exit => exact Left.covers exit _

variable {drive : Drive}

/-- While its request is not answered, nothing resumes the driver. -/
theorem advance_unanswered (awaiting : drive.attempt.point.awaited = some phase)
    (unanswered : drive.answers resum = []) : drive.advance resum = drive := by
  obtain ⟨svc, commits, ctx, tx, point, history⟩ := drive
  cases resum with
  | reply durable =>
    change point.awaited.toList = [] at unanswered
    rw [awaiting] at unanswered
    cases unanswered
  | _ => cases point <;> first | rfl | cases awaiting

/-- An attempt that has left the line and waits for nothing has ended. -/
theorem Left.ended_of_unawaited {origin point : Point} {history : List Entry}
    (exit : Left origin point history) (unawaited : point.awaited = none) : point.ended = true := by
  cases exit <;> first | rfl | cases unawaited

theorem advance_covers (traced : Traced drive.attempt)
    (unanswered : drive.answers resum = []) :
    (custodyOf drive.attempt).covers (custodyOf (drive.advance resum).attempt) = true := by
  cases waiting : drive.attempt.point.awaited with
  | some phase =>
    rw [advance_unanswered waiting unanswered]
    exact Custody.covers_refl
  | none =>
    obtain ⟨svc, commits, att⟩ := drive
    cases traced with
    | onLine ctx point live => exact Onward.covers (advance_onLine _ _ _ _ live _) waiting _
    | left origin exit =>
      have ended := Left.ended_of_unawaited exit waiting
      rw [Drive.advance_ended ended]
      exact Custody.covers_refl

theorem advance_reply_onLine_covers {ctx : PairCommitContext} {svc : PairServiceState}
    {commits : List PairCommitRequest} {point : Point} (live : point.live = true)
    (awaiting : point.awaited = some phase) :
    (custodyAfter phase durable).covers
        (custodyOf
          (Drive.advance ⟨svc, commits, .atPoint ctx point⟩
            (.reply durable)).attempt) = true := by
  cases durable with
  | true =>
    cases point with
    | requestStage | requestMarkCommit | requestPromote => cases awaiting; rfl
    | requestDiscard error => cases live
    | _ => cases awaiting
  | false =>
    cases point with
    | requestStage | requestMarkCommit | requestPromote => cases awaiting; rfl
    | requestDiscard error => cases live
    | _ => cases awaiting

/-- After an answer the attempt has what the answer says. -/
theorem advance_reply_covers (traced : Traced drive.attempt)
    (awaiting : drive.attempt.point.awaited = some phase) :
    (custodyAfter phase durable).covers
        (custodyOf (drive.advance (.reply durable)).attempt) = true := by
  obtain ⟨svc, commits, att⟩ := drive
  cases traced with
  | onLine ctx point live => exact advance_reply_onLine_covers live awaiting
  | left origin exit =>
    rw [Left.custodyOf_eq (exit.advance (.reply _))]
    obtain ⟨ctx, tx, point, history⟩ := att
    cases exit <;> cases awaiting <;> rfl

/-! ## The invariant -/

/-- What the disk holds of the attempt, unless its request is under way. -/
def owed (reply : Option Bool) (att : Attempt) : Custody :=
  match reply, att.point.awaited with
  | some durable, some phase => custodyAfter phase durable
  | _, _ => custodyOf att

theorem owed_covers (traced : Traced drive.attempt) (unanswered : drive.answers resum = [])
    {reply : Option Bool} (awaited : reply ≠ none → drive.attempt.point.awaited ≠ none) :
    (owed reply drive.attempt).covers (owed reply (drive.advance resum).attempt) = true := by
  cases waiting : drive.attempt.point.awaited with
  | some phase =>
    rw [advance_unanswered waiting unanswered]
    exact Custody.covers_refl
  | none =>
    obtain rfl : reply = none := by
      by_contra replied
      exact awaited replied waiting
    exact advance_covers traced unanswered

/-! ### The revocations behind the promotion -/

/-- The desktop has asked for the promotion of its attempt. -/
def Daemon.promotionAsked (daemon : Daemon) : Bool :=
  daemon.session.attempt.any fun att => .requested .promote ∈ att.history

/-- The revocations behind every request of the attempt are of `named` peers. -/
def Behind (named : Text → Prop) (requests : List PairCommitRequest) : Prop :=
  ∀ suffix, suffix <:+ requests → (∀ req ∈ suffix, isAwaited req = false) →
    ∀ req ∈ suffix, named (hexText req.transaction.toList)

section

variable {named : Text → Prop} {requests added : List PairCommitRequest}

theorem Behind.append (behind : Behind named requests)
    (names : ∀ req ∈ added, named (hexText req.transaction.toList)) :
    Behind named (requests ++ added) := by
  rintro suffix ⟨front, split⟩ unawaited req mem
  rcases append_eq_append_iff.mp split with ⟨middle, earlier, rfl⟩ | ⟨middle, _, later⟩
  · rcases mem_append.mp mem with old | new
    · exact behind _ ⟨front, earlier.symm⟩
        (fun other inside => unawaited _ (mem_append_left _ inside)) _ old
    · exact names _ new
  · apply names
    rw [later]
    exact mem_append_right _ mem

/-- A request of the attempt stands behind all revocations before it. -/
theorem Behind.await (awaited : ∀ req ∈ added, isAwaited req = true)
    (behind : added = [] → Behind named requests) : Behind named (requests ++ added) := by
  rintro suffix ⟨front, split⟩ unawaited req mem
  rcases append_eq_append_iff.mp split with ⟨middle, earlier, rfl⟩ | ⟨middle, _, later⟩
  · cases added with
    | nil =>
      rw [append_nil] at unawaited mem
      exact behind rfl _ ⟨front, earlier.symm⟩ unawaited _ mem
    | cons first rest =>
      have own := awaited first mem_cons_self
      rw [unawaited _ (mem_append_right _ mem_cons_self)] at own
      cases own
  · have own := awaited req (by rw [later]; exact mem_append_right _ mem)
    rw [unawaited _ mem] at own
    cases own

end

/-- A resumption that asks for something queues the request. -/
theorem resume_requested {sess : PairSession} (running : sess.attempt = some att)
    {requests : List PairCommitRequest} {later : Attempt}
    (queued : (sess.resume resum).commits = sess.commits ++ requests)
    (ran : (sess.resume resum).attempt = some later) (asked : .requested phase ∈ later.history) :
    .requested phase ∈ att.history ∨ requests ≠ [] := by
  rw [PairSession.resume_eq running] at queued ran
  obtain rfl := some.inj ran
  obtain ⟨suffix, extended, _⟩ := advance_extends (sess.drive _) resum
  have same := append_cancel_left (queued.symm.trans extended.commits)
  rw [extended.history] at asked
  rcases mem_append.mp asked with old | new
  · exact .inl old
  · right
    rw [same]
    exact ne_nil_of_mem (mem_map.mpr ⟨phase, mem_filterMap.mpr ⟨_, new, rfl⟩, rfl⟩)

section

variable (libs : Primitives) (named : Text → Prop)

/-- The disk holds what is owed, or will when the consumer has answered. -/
def Keeps (ctx : PairCommitContext) (due : Custody)
    (consumer : Consumer) (disk : BondDisk) : Prop :=
  match consumer with
  | .serving req prog =>
    if isAwaited req then
      prog.Holds (fun _ => True)
        ((custodyDuring req.phase).Kept libs ctx named)
        (fun after reply => (custodyAfter req.phase reply.isOk).Kept libs ctx named after) disk
    else prog.Holds (fun _ => True) (due.Kept libs ctx named) (fun _ _ => True) disk
  | _ => due.Kept libs ctx named disk

/--
One request at most is under way for the attempt, it is the one that the
attempt waits for, and the disk holds what is owed.  The revocations that will
be carried out after the promotion are of `named` peers.
-/
structure Daemon.Sound (daemon : Daemon) : Prop where
  traced : daemon.session.Traced
  plain : ∀ att, daemon.session.attempt = some att → PlainPeer att.context
  names :
    ∀ att, daemon.session.attempt = some att →
      .requested .promote ∈ att.history → Behind named daemon.requests
  outstanding :
    daemon.reply = none ∧ daemon.requests.filter isAwaited = awaitedRequests daemon.session ∨
      daemon.reply ≠ none ∧ daemon.requests.filter isAwaited = [] ∧
        awaitedRequests daemon.session ≠ []
  keeps :
    ∀ att, daemon.session.attempt = some att →
      Keeps libs named att.context (owed daemon.reply att) daemon.consumer daemon.disk

end

section Steps

variable {libs : Primitives} {named : Text → Prop} {consumer : Consumer}

theorem Keeps.mono {strong weak : Custody} (keeps : Keeps libs named ctx strong consumer disk)
    (covers : strong.covers weak = true) : Keeps libs named ctx weak consumer disk := by
  cases consumer with
  | idle | stopped => exact Custody.Kept.mono keeps covers
  | serving req prog =>
    unfold Keeps at keeps ⊢
    dsimp only at keeps ⊢
    split_ifs at keeps ⊢
    · exact keeps
    · exact keeps.imp (fun _ kept => kept.mono covers) fun _ _ _ ended => ended

theorem Keeps.widen {wider : Text → Prop} (keeps : Keeps libs named ctx due consumer disk)
    (wide : ∀ peerId, named peerId → wider peerId) : Keeps libs wider ctx due consumer disk := by
  cases consumer with
  | idle | stopped => exact Custody.Kept.widen keeps wide
  | serving req prog =>
    unfold Keeps at keeps ⊢
    dsimp only at keeps ⊢
    split_ifs at keeps ⊢
    · exact keeps.imp (fun _ kept => kept.widen wide) fun _ _ _ kept => kept.widen wide
    · exact keeps.imp (fun _ kept => kept.widen wide) fun _ _ _ ended => ended

theorem keeps_nothing (unawaited : ∀ req ∈ consumer.requests, isAwaited req = false) :
    Keeps libs named ctx .nothing consumer disk := by
  cases consumer with
  | idle | stopped => exact trivial
  | serving req prog =>
    unfold Keeps
    dsimp only
    rw [unawaited _ mem_cons_self]
    exact Prog.holds_of_trivial _ _ (fun _ => trivial) fun _ _ => trivial

/-- The label of an address can stand in a line of the journal. -/
theorem peerLabel_plain {addr : Address} :
    ∀ char ∈ peerLabel addr.display, char ≠ '\n' ∧ char ≠ '\r' := by
  intro char mem
  obtain ⟨shown, displayed, rfl⟩ := mem_map.mp mem
  rcases mem_intercalate displayed with separator | ⟨part, inside, found⟩
  · rw [mem_singleton.mp separator]
    decide
  · obtain ⟨byte, _, rfl⟩ := mem_map.mp inside
    exact @hexByte_forall 'A' (fun shown => shown.toUpper ≠ '\n' ∧ shown.toUpper ≠ '\r') (by decide)
        byte _ found

/-! ### What the consumer carries out -/

/-- The attempt's own request brings the disk to the next custody. -/
theorem commitAction_holds (roundTrip : libs.RoundTrip) (plain : PlainPeer att.context)
    (awaiting : att.point.awaited = some phase)
    (kept : (custodyOf att).Kept libs att.context named disk)
    {displayName : Option Text} {now : OffsetDateTime} :
    Fallible.Holds (fun _ => True)
      ((custodyDuring phase).Kept libs att.context named)
      (fun after reply => (custodyAfter phase reply.isOk).Kept libs att.context named after)
      (commitAction libs (att.context.requestOf phase) displayName now) disk := by
  have answered (phase : PairCommitPhase) (refused : custodyAfter phase false = .nothing)
      (after : BondDisk) (reply : Except RecoveryError Unit)
      (ended : OnSuccess ((custodyAfter phase true).Kept libs att.context named) after reply) :
      (custodyAfter phase reply.isOk).Kept libs att.context named after := by
    cases reply with
    | error error =>
      change (custodyAfter phase false).Kept _ _ _ _
      rw [refused]
      exact trivial
    | ok _ => exact ended rfl
  obtain ⟨ctx, tx, point, history⟩ := att
  cases point with
  | requestStage =>
    obtain rfl : .stage = phase := some.inj awaiting
    apply (stagePairTrust_holds roundTrip).imp
    · exact fun _ _ => trivial
    · exact fun after reply _ ended => answered .stage rfl after _ ended
  | requestMarkCommit =>
    obtain rfl : .markCommit = phase := some.inj awaiting
    apply (markCommitPending_holds plain kept).imp
    · exact fun _ _ => trivial
    · exact fun after reply _ ended => answered .markCommit rfl after _ ended
  | requestPromote =>
    obtain rfl : .promote = phase := some.inj awaiting
    apply (promote_holds roundTrip kept).imp
    · exact fun _ held => .inr held
    · exact fun _ _ held _ => .inr held
  | requestDiscard error =>
    obtain rfl : .discard = phase := some.inj awaiting
    exact Prog.holds_of_trivial _ _ (fun _ => trivial) fun _ _ => trivial
  | _ => cases awaiting

theorem revoke_holds (roundTrip : libs.RoundTrip) {peerId : Text}
    (names : due = .held → named peerId) (kept : due.Kept libs ctx named disk) :
    Fallible.Holds (fun _ => True) (due.Kept libs ctx named) (fun _ _ => True)
      (revokeBondByPeerId libs peerId) disk := by
  cases due with
  | nothing => exact Prog.holds_of_trivial _ _ (fun _ => trivial) fun _ _ => trivial
  | undecided | decided => exact revoke_keeps_staged kept
  | held =>
    by_cases other : peerIdOf libs ctx = peerId
    · have given : named (peerIdOf libs ctx) := by
        rw [other]
        exact names rfl
      exact Prog.holds_of_trivial _ _ (fun _ => .inl given) fun _ _ => trivial
    · rcases kept with given | held
      · exact Prog.holds_of_trivial _ _ (fun _ => .inl given) fun _ _ => trivial
      · exact (revoke_keeps_held roundTrip other held).imp (fun _ => .inr) fun _ _ _ _ => trivial

/-! ### The steps -/

section

variable {daemon : Daemon}

section

variable (sound : daemon.Sound libs named)
include sound

theorem Daemon.Sound.orderly : daemon.Orderly := ⟨sound.traced, sound.outstanding⟩

theorem Daemon.Sound.widen {wider : Text → Prop}
    (wide : ∀ peerId, named peerId → wider peerId) : daemon.Sound libs wider where
  traced := sound.traced
  plain := sound.plain
  names _ running asked _ isSuffix unawaited _ mem :=
    wide _ (sound.names _ running asked _ isSuffix unawaited _ mem)
  outstanding := sound.outstanding
  keeps _ running := (sound.keeps _ running).widen wide

theorem Daemon.Sound.control {payload : Bytes}
    (names : daemon.promotionAsked = true →
      ∀ peerId ∈ (DaemonEvent.control payload).revocations, named peerId) :
    (daemon.advance (.control payload)).Sound libs named := by
  have orderly := sound.orderly.control payload
  have running := daemon.session.step_control_attempt payload
  obtain ⟨added, queued, revocations⟩ := foldl_acceptFrame_commits _ (frameControlPayload _)
  refine ⟨orderly.traced, ?_, ?_, orderly.outstanding, ?_⟩
  · exact fun att ran => sound.plain _ (running.symm.trans ran)
  · intro att ran asked
    have before := running.symm.trans ran
    rw [@requests_advance _ (.control payload) _ queued]
    apply (sound.names _ before asked).append
    intro req mem
    obtain ⟨frame, inside, msg, decoded, revoke, rfl⟩ := revocations _ mem
    apply names (by simp [promotionAsked, before, asked])
    refine mem_filterMap.mpr ⟨frame, inside, ?_⟩
    simp [revocation?, decoded, revoke, revokeRequest]
  · exact fun att ran => sound.keeps _ (running.symm.trans ran)

theorem Daemon.Sound.read (offset : ℕ) : (daemon.advance (.read offset)).Sound libs named := by
  have orderly := sound.orderly.read offset
  exact ⟨orderly.traced, sound.plain, sound.names, orderly.outstanding, sound.keeps⟩

/-- A new attempt is owed nothing and has asked for nothing. -/
theorem Daemon.Sound.begun (idle : daemon.session.idle = true) (phonePubkey : Pubkey)
    (addr : Address) (id : Option TransactionId) (others : Text → Prop) :
    (daemon.advance (.opened phonePubkey addr id)).Sound libs others := by
  have orderly := sound.orderly.opened phonePubkey addr id
  have quiet := sound.orderly.quiet (awaitedRequests_of_idle idle)
  have begins : ∀ att, (daemon.advance (.opened phonePubkey addr id)).session.attempt = some att →
      ∃ number, att = .atPoint ⟨number, daemon.session.service.hostPubkey,
        phonePubkey, peerLabel addr.display⟩ .publishCapability := by
    intro att running
    unfold Daemon.advance at running
    rw [PairSession.step_opened_idle idle] at running
    obtain ⟨number, _, rfl⟩ := map_eq_some_iff.mp running
    exact ⟨number, rfl⟩
  refine ⟨orderly.traced, ?_, ?_, orderly.outstanding, ?_⟩
  · intro att running
    obtain ⟨number, rfl⟩ := begins _ running
    exact peerLabel_plain
  · intro att running asked
    obtain ⟨number, rfl⟩ := begins _ running
    change _ ∈ Point.past .publishCapability at asked
    exact absurd asked (by decide)
  · intro att running
    obtain ⟨number, rfl⟩ := begins _ running
    have fresh : owed daemon.reply (.atPoint ⟨number, daemon.session.service.hostPubkey,
        phonePubkey, peerLabel addr.display⟩ .publishCapability) = .nothing := by
      rw [quiet.1]
      rfl
    change Keeps libs others _ (owed daemon.reply (.atPoint _ _)) daemon.consumer daemon.disk
    rw [fresh]
    apply keeps_nothing
    intro req mem
    have inside := filter_eq_nil_iff.mp quiet.2 req
    exact Bool.eq_false_of_not_eq_true (inside (mem_append_left _ mem))

theorem Daemon.Sound.opened (phonePubkey : Pubkey) (addr : Address) (id : Option TransactionId) :
    (daemon.advance (.opened phonePubkey addr id)).Sound libs named := by
  cases idle : daemon.session.idle with
  | false =>
    unfold Daemon.advance
    rw [PairSession.step_opened_busy idle]
    exact sound
  | true => exact sound.begun idle _ _ _ _

end

theorem Daemon.Sound.names_resumed (sound : daemon.Sound libs named)
    (running : daemon.session.attempt = some att) {requests : List PairCommitRequest}
    (queued : (daemon.session.resume resum).commits = daemon.session.commits ++ requests)
    (awaited : ∀ req ∈ requests, req ∈ awaitedRequests (daemon.session.resume resum)) :
    ∀ later, (daemon.session.resume resum).attempt = some later →
      .requested .promote ∈ later.history → Behind named (daemon.requests ++ requests) := by
  intro later ran asked
  refine Behind.await (fun req mem => isAwaited_of_mem_awaitedRequests (awaited _ mem)) ?_
  intro nothing
  rcases resume_requested running queued ran asked with old | new
  · exact sound.names _ running old
  · exact (new nothing).elim

/-- The attempt stays with the context in which it was opened. -/
theorem Daemon.Sound.plain_resumed (sound : daemon.Sound libs named)
    (running : daemon.session.attempt = some att) (resum : Resumption) :
    ∀ later, (daemon.session.resume resum).attempt = some later → PlainPeer later.context := by
  intro later ran
  rw [PairSession.resume_eq running] at ran
  obtain rfl := some.inj ran
  obtain ⟨suffix, extended, _⟩ := advance_extends (daemon.session.drive _) _
  rw [extended.context]
  exact sound.plain _ running

theorem Daemon.Sound.resumed (sound : daemon.Sound libs named)
    (unanswering : ∀ durable, resum ≠ .reply durable) :
    (daemon.advance (.resumed resum)).Sound libs named := by
  cases running : daemon.session.attempt with
  | none =>
    unfold Daemon.advance
    rw [PairSession.step_resumed_none running]
    exact sound
  | some att =>
    have traced := sound.traced _ running
    have silent := answers_eq_nil (daemon.session.drive att) unanswering
    have orderly := sound.orderly.resumed unanswering
    obtain ⟨requests, queued, quiet, _⟩ := resume_commits running traced _
    obtain ⟨suffix, extended, _⟩ := advance_extends (daemon.session.drive _) _
    refine ⟨orderly.traced, sound.plain_resumed running _, ?_, orderly.outstanding, ?_⟩
    · rw [@requests_advance _ (.resumed resum) _ queued]
      apply sound.names_resumed running queued
      intro req mem
      rw [← quiet silent]
      exact mem_append_right _ mem
    · intro later ran
      change (daemon.session.resume resum).attempt = _ at ran
      rw [PairSession.resume_eq running] at ran
      obtain rfl := some.inj ran
      rw [extended.context]
      apply (sound.keeps _ running).mono
      apply owed_covers traced silent
      intro replied unawaited
      obtain ⟨durable, awaited⟩ := ne_none_iff_exists'.mp replied
      obtain ⟨_, other, phase, ran, awaiting⟩ := sound.orderly.answering awaited
      obtain rfl : att = other := some.inj (running.symm.trans ran)
      change att.point.awaited = none at unawaited
      rw [awaiting] at unawaited
      cases unawaited

theorem Daemon.Sound.replied (sound : daemon.Sound libs named)
    {durable : Bool} (replied : daemon.reply = some durable) :
    Daemon.Sound libs named { daemon.advance (.resumed (.reply durable)) with reply := none } := by
  obtain ⟨_, att, phase, running, awaiting⟩ := sound.orderly.answering replied
  have traced := sound.traced _ running
  obtain ⟨requests, queued, _, requeued⟩ := resume_commits running traced (.reply durable)
  have awaited := requeued _ awaiting (answers_reply awaiting)
  have orderly := sound.orderly.replied replied
  obtain ⟨suffix, extended, _⟩ := advance_extends (daemon.session.drive _) (.reply _)
  refine ⟨orderly.traced, sound.plain_resumed running (.reply _), ?_, orderly.outstanding, ?_⟩
  · change ∀ later, _ → _ → Behind named (daemon.advance (.resumed (.reply durable))).requests
    rw [@requests_advance _ (.resumed (.reply durable)) _ queued]
    apply sound.names_resumed running queued
    intro req mem
    rwa [← awaited]
  · intro later ran
    change (daemon.session.resume _).attempt = _ at ran
    rw [PairSession.resume_eq running] at ran
    obtain rfl := some.inj ran
    have keeps := sound.keeps _ running
    have due : owed (some durable) att = custodyAfter phase durable := by
      simp only [owed, awaiting]
    rw [replied, due] at keeps
    rw [extended.context]
    exact keeps.mono (advance_reply_covers traced awaiting)

/-- What is promoted was asked for, and nothing of the attempt is under way. -/
theorem asked_of_owed_held (traced : Traced att) {reply : Option Bool}
    (held : owed reply att = .held) :
    .requested .promote ∈ att.history ∧ (reply ≠ none ∨ att.point.awaited = none) := by
  unfold owed at held
  split at held
  · rename_i durable phase awaiting
    refine ⟨?_, .inl nofun⟩
    obtain rfl : phase = .promote := by
      cases phase with
      | promote => rfl
      | _ => cases durable <;> cases held
    cases traced with
    | onLine ctx point live =>
      change _ ∈ point.past
      cases point <;> cases awaiting
      decide
    | left origin exit =>
      obtain ⟨ctx, tx, point, history⟩ := att
      cases exit <;> cases awaiting
  · constructor
    · cases traced with
      | onLine ctx point live =>
        change _ ∈ point.past
        cases point with
        | notifyBonded => decide
        | succeeded | failed error => cases live
        | _ => cases held
      | left origin exit =>
        rw [Left.custodyOf_eq exit] at held
        split_ifs at held with asked
        exact (Left.mem_iff exit rfl).mpr asked
    · obtain ⟨ctx, tx, point, history⟩ := att
      right
      cases point <;> first | rfl | cases held

theorem Daemon.Sound.named_of_held (sound : daemon.Sound libs named)
    (running : daemon.session.attempt = some att) (held : owed daemon.reply att = .held) :
    ∀ req ∈ daemon.requests, named (hexText req.transaction.toList) := by
  obtain ⟨asked, waiting⟩ := asked_of_owed_held (sound.traced _ running) held
  have done : daemon.requests.filter isAwaited = [] := by
    rcases waiting with replied | unawaited
    · rcases sound.outstanding with ⟨silent, _⟩ | ⟨_, done, _⟩
      · exact (replied silent).elim
      · exact done
    · exact (sound.orderly.quiet (by simp [awaitedRequests, running, unawaited])).2
  apply sound.names _ running asked _ suffix_rfl
  exact fun req mem => Bool.eq_false_of_not_eq_true (filter_eq_nil_iff.mp done _ mem)

variable {req : PairCommitRequest}

theorem Daemon.Sound.received (roundTrip : libs.RoundTrip)
    (sound : daemon.Sound libs named) {rest : List PairCommitRequest}
    (idle : daemon.consumer = .idle) (queued : daemon.session.commits = req :: rest)
    (displayName : Option Text) (now : OffsetDateTime) :
    Daemon.Sound libs named
      { daemon.advance .received with
        consumer := .serving req (commitAction libs req displayName now) } := by
  have orderly := sound.orderly.received idle queued (commitAction libs req displayName now)
  have inside : req ∈ daemon.requests := by simp [requests, queued]
  refine ⟨orderly.traced, sound.plain, ?_, orderly.outstanding, ?_⟩
  · rw [requests_received idle queued]
    exact sound.names
  · intro att running
    have kept := sound.keeps _ running
    rw [idle] at kept
    unfold Keeps
    dsimp only
    cases own : isAwaited req with
    | true =>
      obtain ⟨silent, other, phase, ran, awaiting, rfl⟩ := sound.orderly.awaiting inside own
      obtain rfl : att = other := some.inj (running.symm.trans ran)
      rw [silent] at kept
      exact commitAction_holds roundTrip (sound.plain _ running) awaiting kept
    | false =>
      have revoke : req.phase = .revoke := by simpa [isAwaited] using own
      simp only [commitAction, revoke]
      exact revoke_holds roundTrip (fun held => sound.named_of_held running held _ inside) kept

theorem Daemon.Sound.called (sound : daemon.Sound libs named) {prog : CommitProgram}
    (serving : daemon.consumer = .serving req prog) (out : Outcome) :
    Daemon.Sound libs named
      { daemon with
        disk := (prog.resume daemon.disk out).1
        consumer := .serving req (prog.resume daemon.disk out).2 } := by
  have orderly :=
    sound.orderly.called serving (prog.resume daemon.disk out).1 (prog.resume daemon.disk out).2
  refine ⟨orderly.traced, sound.plain, ?_, orderly.outstanding, ?_⟩
  · have names := sound.names
    unfold Daemon.requests at names ⊢
    rw [serving] at names
    exact names
  · intro att running
    have kept := sound.keeps _ running
    rw [serving] at kept
    unfold Keeps at kept ⊢
    dsimp only at kept ⊢
    split_ifs at kept ⊢
    · exact kept.resume trivial
    · exact kept.resume trivial

theorem keeps_of_resting (resting : consumer = .idle ∨ consumer = .stopped)
    (kept : due.Kept libs ctx named disk) : Keeps libs named ctx due consumer disk := by
  rcases resting with rfl | rfl
  · exact kept
  · exact kept

theorem Daemon.Sound.settled (sound : daemon.Sound libs named) {base : Daemon}
    (removed : daemon.requests = req :: base.requests)
    (same : base.session.attempt = daemon.session.attempt) (reply : base.reply = daemon.reply)
    (disk : base.disk = daemon.disk) (resting : base.consumer = .idle ∨ base.consumer = .stopped)
    (kept :
      ∀ att, daemon.session.attempt = some att →
        (if isAwaited req then custodyAfter req.phase durable else owed daemon.reply att).Kept libs
          att.context named daemon.disk) :
    (base.answer req durable).Sound libs named := by
  have orderly : (base.answer req durable).Orderly := sound.orderly.settled removed same reply
  have plain : ∀ att, base.session.attempt = some att → PlainPeer att.context := by
    rw [same]
    exact sound.plain
  have names : ∀ att, base.session.attempt = some att →
      .requested .promote ∈ att.history → Behind named base.requests := by
    intro att running asked suffix isSuffix
    rw [same] at running
    apply sound.names _ running asked
    rw [removed]
    exact isSuffix.trans (suffix_cons _ _)
  unfold Daemon.answer at orderly ⊢
  split_ifs at orderly ⊢ with revoke
  · have unawaited : isAwaited req = false := by
      simp [isAwaited, revoke]
    refine ⟨orderly.traced, plain, names, orderly.outstanding, ?_⟩
    intro att running
    rw [same] at running
    have here := kept _ running
    rw [unawaited] at here
    rw [reply, disk]
    exact keeps_of_resting resting here
  · have own : isAwaited req = true := by
      simpa [isAwaited] using revoke
    refine ⟨orderly.traced, plain, names, orderly.outstanding, ?_⟩
    intro att running
    rw [same] at running
    obtain ⟨_, other, phase, ran, awaiting, rfl⟩ :=
      sound.orderly.awaiting (removed ▸ mem_cons_self) own
    obtain rfl : att = other := some.inj (running.symm.trans ran)
    have here := kept _ running
    rw [own] at here
    have due : owed (some durable) att = custodyAfter phase durable := by
      simp only [owed, awaiting]
    rw [due]
    rw [disk]
    exact keeps_of_resting resting here

theorem Daemon.Sound.answered (sound : daemon.Sound libs named)
    {reply : Except RecoveryError Unit} (serving : daemon.consumer = .serving req (.done reply))
    (resting : consumer = .idle ∨ consumer = .stopped) :
    (Daemon.answer { daemon with consumer } req reply.isOk).Sound libs named := by
  refine sound.settled (requests_answered serving resting) rfl rfl rfl resting ?_
  intro att running
  have kept := sound.keeps _ running
  rw [serving] at kept
  unfold Keeps at kept
  dsimp only at kept
  split_ifs at kept ⊢
  · exact kept.2
  · exact kept.1

theorem Daemon.Sound.dropped (sound : daemon.Sound libs named) {rest : List PairCommitRequest}
    (stopped : daemon.consumer = .stopped) (queued : daemon.session.commits = req :: rest) :
    ((daemon.advance .received).answer req false).Sound libs named := by
  have removed := requests_dropped stopped queued
  refine sound.settled removed rfl rfl rfl (.inr stopped) ?_
  intro att running
  have kept := sound.keeps _ running
  rw [stopped] at kept
  split_ifs with own
  · obtain ⟨silent, other, phase, ran, awaiting, rfl⟩ :=
      sound.orderly.awaiting (removed ▸ mem_cons_self) own
    obtain rfl : att = other := some.inj (running.symm.trans ran)
    rw [silent] at kept
    apply Custody.Kept.mono kept
    obtain ⟨ctx, tx, point, history⟩ := att
    cases point <;> cases awaiting <;> rfl
  · exact kept

theorem Daemon.Sound.step (roundTrip : libs.RoundTrip) (sound : daemon.Sound libs named)
    {ev : DaemonEvent}
    (names : daemon.promotionAsked = true → ∀ peerId ∈ ev.revocations, named peerId) :
    (daemon.step libs ev).Sound libs named := by
  have moves := daemon.step_moves libs ev
  generalize daemon.step libs ev = after at moves ⊢
  cases moves with
  | ignored => exact sound
  | control payload => exact sound.control names
  | read offset => exact sound.read _
  | opened phonePubkey addr id => exact sound.opened _ _ _
  | polled | oobAnswered | notified => exact sound.resumed nofun
  | received displayName now idle queued => exact sound.received roundTrip idle queued _ _
  | called out serving => exact sound.called serving _
  | answered serving resting => exact sound.answered serving resting
  | replied replied => exact sound.replied replied
  | dropped stopped queued => exact sound.dropped stopped queued

theorem Daemon.start_sound (hostPubkey : Pubkey) (hostName : Bytes) (disk : BondDisk) :
    (Daemon.start hostPubkey hostName disk).Sound libs named where
  traced := start_traced _ _
  plain := by rintro att ⟨⟩
  names := by rintro att ⟨⟩
  outstanding := .inl ⟨rfl, rfl⟩
  keeps := by rintro att ⟨⟩

/-! ### What the invariant says of the disk -/

/-- An attempt that waits for nothing has what it is owed. -/
theorem Daemon.Sound.kept (sound : daemon.Sound libs named)
    (running : daemon.session.attempt = some att) (unawaited : att.point.awaited = none) :
    (custodyOf att).Kept libs att.context named daemon.disk := by
  have nobody : awaitedRequests daemon.session = [] := by simp [awaitedRequests, running, unawaited]
  obtain ⟨silent, done⟩ := sound.orderly.quiet nobody
  have keeps := sound.keeps _ running
  rw [silent] at keeps
  cases consumer : daemon.consumer with
  | idle | stopped =>
    rw [consumer] at keeps
    exact keeps
  | serving req prog =>
    have revoking : ¬ isAwaited req = true := by
      apply filter_eq_nil_iff.mp done
      simp [requests, Consumer.requests, consumer]
    rw [consumer] at keeps
    unfold Keeps at keeps
    dsimp only at keeps
    rw [if_neg revoking] at keeps
    exact keeps.here

theorem eq_promote_of_covers_held (awaiting : att.point.awaited = some phase)
    (covers : (custodyOf att).covers .held = true) : phase = .promote := by
  obtain ⟨ctx, tx, point, history⟩ := att
  cases point <;> cases awaiting <;> first | rfl | cases covers

theorem owed_covers_held (covers : (custodyOf att).covers .held = true) (reply : Option Bool) :
    (owed reply att).covers .held = true := by
  unfold owed
  split
  · rename_i durable phase awaiting
    obtain rfl := eq_promote_of_covers_held awaiting covers
    cases durable <;> rfl
  · exact covers

theorem covers_held_of_published (traced : Traced att)
    (published : .published .committed ∈ att.history) :
    (custodyOf att).covers .held = true := by
  cases traced with
  | onLine ctx point live =>
    change .published .committed ∈ point.past at published
    cases point with
    | requestDiscard error => cases live
    | succeeded => rfl
    | failed error => cases live
    | _ => first | rfl | exact absurd published (by decide)
  | left origin exit =>
    rw [Left.custodyOf_eq exit, if_pos ((Left.mem_iff exit rfl).mp published)]
    split_ifs <;> rfl

/--
Once `Committed` was published, the attempt is in custody, or its peer was
named.
-/
theorem Daemon.Sound.held (sound : daemon.Sound libs named)
    (running : daemon.session.attempt = some att)
    (published : .published .committed ∈ att.history) :
    named (peerIdOf libs att.context) ∨ Held libs att.context daemon.disk := by
  have covers := covers_held_of_published (sound.traced _ running) published
  have due := owed_covers_held covers daemon.reply
  have keeps := sound.keeps _ running
  cases consumer : daemon.consumer with
  | idle | stopped =>
    rw [consumer] at keeps
    exact Custody.Kept.mono keeps due
  | serving req prog =>
    rw [consumer] at keeps
    unfold Keeps at keeps
    dsimp only at keeps
    split_ifs at keeps with own
    · have inside : req ∈ daemon.requests := by
        simp [requests, Consumer.requests, consumer]
      obtain ⟨_, other, phase, ran, awaiting, rfl⟩ := sound.orderly.awaiting inside own
      obtain rfl : att = other := some.inj (running.symm.trans ran)
      obtain rfl := eq_promote_of_covers_held awaiting covers
      exact keeps.here
    · exact Custody.Kept.mono keeps.here due

end

end Steps

end DeskUnlock.Recovery
