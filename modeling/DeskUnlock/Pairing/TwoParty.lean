import Mathlib.Logic.Function.Basic
import DeskUnlock.Foundation.Runs
import DeskUnlock.Pairing.Transitions

/-!
# Agreement of the two sides of a pairing

One coordinator and one participant of the same attempt, joined by a channel
that may lose, duplicate, reorder and delay what is put on it.  Each side puts
a protocol message on the channel only once the local fact of the same name
succeeded on its own transaction.  Status answers are truthful when they are
given and may be read at any later time.

The joint invariant links every packet in flight to the history of its sender,
and the phase and flags of each side to the phase of the other.  Agreement on
the commit follows from it.
-/

namespace DeskUnlock.Pairing

open List Function

def Role.other : Role → Role
  | .coordinator => .participant
  | .participant => .coordinator

theorem Role.other_ne {role : Role} : role.other ≠ role := by cases role <;> simp [other]

@[simp]
theorem Role.other_other {role : Role} : role.other.other = role := by cases role <;> rfl

theorem Role.eq_or_eq_other (role party : Role) : party = role ∨ party = role.other := by
  cases role <;> cases party <;> simp [other]

namespace TwoParty

open Runs

/-! ## The joint system -/

/-- The local fact that a side must have established before it sends. -/
def sameNamed : Operation → Option LocalEvent
  | .capability => some .capability
  | .confirm => some .confirm
  | .prepared => some .prepared
  | .commit => some .commit
  | .commitAck => some .commitAck
  | .committed => some .committed
  | _ => none

/-- What travels between the two sides. -/
inductive Packet where
  | message (sender : Role) (msg : Message)
  | status (sender : Role) (answer : StatusState)

/--
Both transactions, the local facts that succeeded on each side, and the
packets in flight.
-/
structure Joint where
  transaction : Role → Transaction
  recorded : Role → List LocalEvent
  channel : List Packet

def Joint.start (id : TransactionId) : Joint where
  transaction := Transaction.new id
  recorded := fun _ => []
  channel := []

/-- A step of one side or of the channel. -/
inductive Event where
  /-- A local fact; `disconnected` and `abort` are among them. -/
  | localFact (party : Role) (ev : LocalEvent)
  | send (party : Role) (op : Operation)
  /-- `party` reports its current status. -/
  | answer (party : Role)
  | deliver (i : Nat)
  | lose (i : Nat)
  | duplicate (i : Nat)
  /--
  A message that no side put on the channel: a remote abort, or anything else
  that is not one of the six protocol messages of this attempt.
  -/
  | inject (party : Role) (msg : Message)

def Joint.move (joint : Joint) (party : Role) (tx : Transaction) : Joint :=
  { joint with transaction := update joint.transaction party tx }

def Joint.applyLocal (joint : Joint) (party : Role) (ev : LocalEvent) : Joint :=
  let out := (joint.transaction party).local ev
  let moved := joint.move party out.1
  match out.2 with
  | .ok () => { moved with recorded := update joint.recorded party (ev :: joint.recorded party) }
  | .error _ => moved

def Joint.receive (joint : Joint) : Packet → Joint
  | .message sender msg => joint.move sender.other ((joint.transaction sender.other).remote msg).1
  | .status sender answer =>
    joint.move sender.other ((joint.transaction sender.other).reconcileStatus answer).1

/-- What was not recorded is not sent. -/
def Joint.step (joint : Joint) : Event → Joint
  | .localFact party ev => joint.applyLocal party ev
  | .send party op =>
    match sameNamed op with
    | none => joint
    | some ev =>
      if ev ∈ joint.recorded party then
        { joint with
          channel :=
            .message party
                { transaction := (joint.transaction party).id, operation := op } ::
              joint.channel }
      else joint
  | .answer party =>
    { joint with channel := .status party (joint.transaction party).status :: joint.channel }
  | .deliver i =>
    match joint.channel[i]? with
    | none => joint
    | some packet => { joint with channel := joint.channel.eraseIdx i }.receive packet
  | .lose i => { joint with channel := joint.channel.eraseIdx i }
  | .duplicate i =>
    match joint.channel[i]? with
    | none => joint
    | some packet => { joint with channel := packet :: joint.channel }
  | .inject party msg =>
    if sameNamed msg.operation = none ∨
        msg.transaction ≠ (joint.transaction party).id then
      joint.move party ((joint.transaction party).remote msg).1
    else joint

/-! ## The linking invariant -/

/-- What the phase and flags of one side say about the phase of the other. -/
structure Linked (near peer : Transaction) : Prop where
  follows :
    near.role = .participant → near.phase.Decided → near.phase ≠ .uncertain → peer.phase.Decided
  acknowledged :
    near.role = .coordinator → near.phase.Acknowledged →
      near.phase ≠ .uncertain → peer.phase.Acknowledged
  verified : near.committed.peer = true → peer.phase.Acknowledged
  bonded : near.phase = .bonded → peer.phase.Acknowledged

/-- `after` kept the role and lost no decision that `before` had. -/
structure Advances (before after : Transaction) : Prop where
  role : after.role = before.role
  decided : before.phase.Decided → after.phase.Decided
  acknowledged : before.phase.Acknowledged → after.phase.Acknowledged

theorem Quiet.advances {before after : Transaction}
    (quiet : Quiet before after) : Advances before after :=
  ⟨quiet.role, quiet.decided, quiet.acknowledged⟩

theorem Recorded.advances {side : Side} {before after : Transaction}
    (recorded : Recorded side before after) : Advances before after :=
  ⟨recorded.role, fun _ => recorded.acknowledged.decided, fun _ => recorded.acknowledged⟩

theorem Linked.peer_advances {near before after : Transaction}
    (linked : Linked near before) (advances : Advances before after) : Linked near after where
  follows := fun role decided certain => advances.decided (linked.follows role decided certain)
  acknowledged := fun role acknowledged certain =>
    advances.acknowledged (linked.acknowledged role acknowledged certain)
  verified := fun flag => advances.acknowledged (linked.verified flag)
  bonded := fun phase => advances.acknowledged (linked.bonded phase)

theorem Linked.quiet {before after peer : Transaction}
    (linked : Linked before peer) (quiet : Quiet before after) : Linked after peer where
  follows := by
    intro role decided certain
    have same := quiet.phase_eq decided certain
    rw [same] at decided certain
    exact linked.follows (quiet.role ▸ role) decided certain
  acknowledged := by
    intro role acknowledged certain
    have same := quiet.phase_eq acknowledged.decided certain
    rw [same] at acknowledged certain
    exact linked.acknowledged (quiet.role ▸ role) acknowledged certain
  verified := by
    intro flag
    rw [quiet.committed] at flag
    exact linked.verified flag
  bonded := by
    intro phase
    have same : after.phase = before.phase :=
      quiet.phase_eq (by rw [phase]; trivial) (by simp [phase])
    exact linked.bonded (same ▸ phase)

/-- The evidence that lets a side treat the peer's bond as acknowledged. -/
theorem Linked.of_acknowledged {near peer : Transaction}
    (acknowledged : peer.phase.Acknowledged) : Linked near peer where
  follows := fun _ _ _ => acknowledged.decided
  acknowledged := fun _ _ _ => acknowledged
  verified := fun _ => acknowledged
  bonded := fun _ => acknowledged

/-- The joint invariant. -/
structure Consistent (joint : Joint) : Prop where
  role : ∀ party, (joint.transaction party).role = party
  commit : ∀ party, .commit ∈ joint.recorded party → (joint.transaction party).phase.Decided
  commitAck :
    ∀ party, .commitAck ∈ joint.recorded party → (joint.transaction party).phase.Acknowledged
  committed :
    ∀ party, .committed ∈ joint.recorded party → (joint.transaction party).phase.Acknowledged
  sent :
    ∀ party msg, .message party msg ∈ joint.channel →
      ∃ ev, sameNamed msg.operation = some ev ∧ ev ∈ joint.recorded party
  answered :
    ∀ party answer, .status party answer ∈ joint.channel →
      answer.Acknowledged → (joint.transaction party).phase.Acknowledged
  linked : ∀ party, Linked (joint.transaction party) (joint.transaction party.other)

theorem consistent_start {id : TransactionId} :
    Consistent (Joint.start id) where
  role := fun _ => rfl
  commit := by simp [Joint.start]
  commitAck := by simp [Joint.start]
  committed := by simp [Joint.start]
  sent := by simp [Joint.start]
  answered := by simp [Joint.start]
  linked := by
    intro party
    constructor <;> simp [Joint.start, Transaction.new, Flags.none]

@[simp]
theorem move_self {joint : Joint} {party : Role} {tx : Transaction} :
    (joint.move party tx).transaction party = tx := by
  simp [Joint.move]

@[simp]
theorem move_other {joint : Joint} {party : Role} {tx : Transaction} :
    (joint.move party tx).transaction party.other = joint.transaction party.other := by
  simp [Joint.move, Role.other_ne]

variable {tx : Transaction} {joint : Joint}

theorem move_advances {party : Role} (advances : Advances (joint.transaction party) tx)
    (role : Role) : Advances (joint.transaction role) ((joint.move party tx).transaction role) := by
  rcases Role.eq_or_eq_other party role with rfl | rfl
  · rw [move_self]
    exact advances
  · rw [move_other]
    exact ⟨rfl, id, id⟩

theorem Consistent.move {party : Role} (consistent : Consistent joint)
    (advances : Advances (joint.transaction party) tx)
    (linked : Linked tx (joint.transaction party.other)) : Consistent (joint.move party tx) where
  role := fun role => (move_advances advances role).role.trans (consistent.role role)
  commit := fun role mem => (move_advances advances role).decided (consistent.commit role mem)
  commitAck := fun role mem =>
    (move_advances advances role).acknowledged (consistent.commitAck role mem)
  committed := fun role mem =>
    (move_advances advances role).acknowledged (consistent.committed role mem)
  sent := consistent.sent
  answered := fun role answer mem acknowledged =>
    (move_advances advances role).acknowledged (consistent.answered role answer mem acknowledged)
  linked := by
    intro role
    rcases Role.eq_or_eq_other party role with rfl | rfl
    · rw [move_self, move_other]
      exact linked
    · have old := consistent.linked party.other
      rw [Role.other_other] at old ⊢
      rw [move_self, move_other]
      exact old.peer_advances advances

/-! ## One lemma for each way a side can move -/

theorem local_establishes {ev : LocalEvent} (succeeded : (tx.local ev).2 = .ok ()) :
    (ev = .commit → (tx.local ev).1.phase.Decided) ∧
      (ev = .commitAck → (tx.local ev).1.phase.Acknowledged) ∧
      (ev = .committed → (tx.local ev).1.phase.Acknowledged) := by
  refine ⟨?_, ?_, ?_⟩
  · rintro rfl
    unfold Transaction.local at succeeded ⊢
    dsimp only at succeeded ⊢
    split at succeeded
    · rw [if_pos ‹_›]
      trivial
    · simp at succeeded
  · rintro rfl
    unfold Transaction.local at succeeded ⊢
    dsimp only at succeeded ⊢
    split at succeeded
    · rw [if_pos ‹_›]
      trivial
    · simp at succeeded
  · rintro rfl
    rcases recordCommitted_cases _ .own with refused | ⟨recorded, _⟩
    · unfold Transaction.local at succeeded
      rw [refused] at succeeded
      simp at succeeded
    · exact recorded.acknowledged

theorem local_advances (tx : Transaction) (ev : LocalEvent) : Advances tx (tx.local ev).1 := by
  rcases local_cases _ with quiet | ⟨_, _, phase, moved⟩ | ⟨_, _, phase, moved⟩ | ⟨_, recorded⟩
  · exact Quiet.advances quiet
  · rw [moved]
    exact ⟨rfl, fun _ => trivial, by simp [phase, Phase.Acknowledged]⟩
  · rw [moved]
    exact ⟨rfl, fun _ => trivial, fun _ => trivial⟩
  · exact Recorded.advances recorded

theorem local_linked {tx peer : Transaction} (linked : Linked tx peer)
    (ev : LocalEvent) : Linked (tx.local ev).1 peer := by
  rcases local_cases _ with
    quiet | ⟨_, role, phase, moved⟩ | ⟨_, role, phase, moved⟩ | ⟨_, recorded⟩
  · exact linked.quiet quiet
  · rw [moved]
    constructor
    · simp [role]
    · simp [Phase.Acknowledged]
    · exact linked.verified
    · simp
  · rw [moved]
    have decided : peer.phase.Decided :=
      linked.follows role (by simp [phase, Phase.Decided]) (by simp [phase])
    constructor
    · exact fun _ _ _ => decided
    · simp [role]
    · exact linked.verified
    · simp
  · -- The own flag says nothing about the peer; only a complete record does.
    have enabled := recorded.enabled
    have flag : (tx.local ev).1.committed.peer = tx.committed.peer := by
      rw [recorded.committed]
      rfl
    constructor
    · intro role _ _
      rw [recorded.role] at role
      exact linked.follows role (by simp [enabled, Phase.Decided]) (by simp [enabled])
    · intro role _ _
      rw [recorded.role] at role
      exact linked.acknowledged role (by simp [enabled, Phase.Acknowledged]) (by simp [enabled])
    · intro verified
      exact linked.verified (flag ▸ verified)
    · intro bonded
      rcases recorded.phase with committed | ⟨_, complete⟩
      · simp [committed] at bonded
      · apply linked.verified
        rw [← flag, complete]
        rfl

section

variable (consistent : Consistent joint)
include consistent

theorem Consistent.applyLocal (party : Role) (ev : LocalEvent) :
    Consistent (joint.applyLocal party ev) := by
  have advances := local_advances (joint.transaction party) ev
  have linked := local_linked (consistent.linked party) ev
  have moved := consistent.move advances linked
  unfold Joint.applyLocal
  dsimp only
  cases out : ((joint.transaction party).local ev).2 with
  | error _ => exact moved
  | ok _ =>
    have established := local_establishes out
    have enlarged : ∀ role fact,
        fact ∈ update joint.recorded party (ev :: joint.recorded party) role →
        (fact = ev ∧ role = party) ∨ fact ∈ joint.recorded role := by
      intro role fact mem
      by_cases same : role = party
      · subst role
        simpa using mem
      · rw [update_of_ne same] at mem
        exact .inr mem
    refine ⟨moved.role, ?_, ?_, ?_, ?_, moved.answered, moved.linked⟩
    · intro role mem
      rcases enlarged _ _ mem with ⟨rfl, rfl⟩ | old
      · simpa using established.1 rfl
      · exact moved.commit _ old
    · intro role mem
      rcases enlarged _ _ mem with ⟨rfl, rfl⟩ | old
      · simpa using established.2.1 rfl
      · exact moved.commitAck _ old
    · intro role mem
      rcases enlarged _ _ mem with ⟨rfl, rfl⟩ | old
      · simpa using established.2.2 rfl
      · exact moved.committed _ old
    · intro role msg mem
      obtain ⟨fact, named, old⟩ := consistent.sent _ _ mem
      refine ⟨fact, named, ?_⟩
      by_cases same : role = party
      · subst role
        simpa using .inr old
      · simpa [update_of_ne same] using old

/--
A remote message keeps the invariant when the commit facts it carries hold of
the peer.
-/
theorem Consistent.remote (party : Role) (msg : Message)
    (commit :
      msg.operation = .commit →
        msg.transaction = (joint.transaction party).id →
          (joint.transaction party.other).phase.Decided)
    (acknowledged :
      msg.operation = .commitAck ∨ msg.operation = .committed →
        msg.transaction = (joint.transaction party).id →
          (joint.transaction party.other).phase.Acknowledged) :
    Consistent (joint.move party ((joint.transaction party).remote msg).1) := by
  have linked := consistent.linked party
  rcases remote_cases (joint.transaction _) _ with
    quiet | ⟨bound, ⟨op, role, phase, moved⟩ | ⟨op, role, phase, moved⟩ | ⟨op, recorded⟩⟩
  · exact consistent.move (Quiet.advances quiet) (linked.quiet quiet)
  · rw [moved]
    apply consistent.move
    · exact ⟨rfl, fun _ => trivial, by simp [phase, Phase.Acknowledged]⟩
    · constructor
      · exact fun _ _ _ => commit op bound
      · simp [role]
      · exact linked.verified
      · simp
  · rw [moved]
    apply consistent.move
    · exact ⟨rfl, fun _ => trivial, fun _ => trivial⟩
    · exact .of_acknowledged (acknowledged (.inl op) bound)
  · exact consistent.move (Recorded.advances recorded)
      (.of_acknowledged (acknowledged (.inr op) bound))

theorem Consistent.reconcile (party : Role) (answer : StatusState)
    (truthful : answer.Acknowledged → (joint.transaction party.other).phase.Acknowledged) :
    Consistent (joint.move party ((joint.transaction party).reconcileStatus answer).1) := by
  rcases reconcileStatus_cases (joint.transaction _) _ with quiet | ⟨acknowledged, _, moved | moved⟩
  · exact consistent.move (Quiet.advances quiet) ((consistent.linked _).quiet quiet)
  · rw [moved]
    exact consistent.move ⟨rfl, fun _ => trivial, fun _ => trivial⟩
      (.of_acknowledged (truthful acknowledged))
  · rw [moved]
    exact consistent.move ⟨rfl, fun _ => trivial, fun _ => trivial⟩
      (.of_acknowledged (truthful acknowledged))

/-- The channel may lose packets, and repeat and reorder them. -/
theorem Consistent.carry {channel : List Packet}
    (flying : ∀ packet, packet ∈ channel → packet ∈ joint.channel) :
    Consistent { joint with channel := channel } :=
  { consistent with
    sent := fun _ _ mem => consistent.sent _ _ (flying _ mem)
    answered := fun _ _ mem => consistent.answered _ _ (flying _ mem) }

/-- A recorded fact may be told to the peer. -/
theorem Consistent.tell {party : Role} {msg : Message} {ev : LocalEvent}
    (named : sameNamed msg.operation = some ev) (recorded : ev ∈ joint.recorded party) :
    Consistent { joint with channel := .message party msg :: joint.channel } := by
  refine { consistent with sent := ?_, answered := ?_ }
  · intro role other mem
    rcases mem_cons.mp mem with new | old
    · cases new
      exact ⟨ev, named, recorded⟩
    · exact consistent.sent _ _ old
  · intro role answer mem
    rcases mem_cons.mp mem with new | old
    · cases new
    · exact consistent.answered _ _ old

theorem Consistent.receive {packet : Packet} (flying : packet ∈ joint.channel)
    {rest : List Packet} (fewer : ∀ other, other ∈ rest → other ∈ joint.channel) :
    Consistent ({ joint with channel := rest }.receive packet) := by
  have trimmed : Consistent { joint with channel := rest } := consistent.carry fewer
  cases packet with
  | message sender msg =>
    obtain ⟨ev, named, recorded⟩ := consistent.sent _ _ flying
    apply trimmed.remote
    · intro op _
      rw [Role.other_other]
      rw [op] at named
      cases named
      exact consistent.commit _ recorded
    · intro op _
      rw [Role.other_other]
      rcases op with op | op
      · rw [op] at named
        cases named
        exact consistent.commitAck _ recorded
      · rw [op] at named
        cases named
        exact consistent.committed _ recorded
  | status sender answer =>
    apply trimmed.reconcile
    intro acknowledged
    rw [Role.other_other]
    exact consistent.answered _ _ flying acknowledged

end

theorem status_acknowledged (acknowledged : tx.status.Acknowledged) : tx.phase.Acknowledged := by
  unfold Transaction.status at acknowledged
  cases phase : tx.phase <;> simp_all [StatusState.Acknowledged, Phase.Acknowledged]

/-- A side may answer a query with its status. -/
theorem Consistent.answer (consistent : Consistent joint) (party : Role) :
    Consistent (joint.step (.answer party)) := by
  refine { consistent with sent := ?_, answered := ?_ }
  · intro role msg mem
    rcases mem_cons.mp mem with new | old
    · cases new
    · exact consistent.sent _ _ old
  · intro role answer mem acknowledged
    rcases mem_cons.mp mem with new | old
    · cases new
      exact status_acknowledged acknowledged
    · exact consistent.answered _ _ old acknowledged

theorem Consistent.step {joint : Joint} (consistent : Consistent joint) (ev : Event) :
    Consistent (joint.step ev) := by
  cases ev with
  | localFact party ev => exact consistent.applyLocal _ _
  | send party op =>
    cases named : sameNamed op with
    | none =>
      simp only [Joint.step, named]
      exact consistent
    | some ev =>
      simp only [Joint.step, named]
      by_cases recorded : ev ∈ joint.recorded party
      · rw [if_pos recorded]
        exact consistent.tell named recorded
      · rw [if_neg recorded]
        exact consistent
  | answer party => exact consistent.answer _
  | deliver i =>
    cases found : joint.channel[i]? with
    | none =>
      simp only [Joint.step, found]
      exact consistent
    | some packet =>
      simp only [Joint.step, found]
      exact consistent.receive (mem_of_getElem? found) (fun _ mem => mem_of_mem_eraseIdx mem)
  | lose i => exact consistent.carry fun _ mem => mem_of_mem_eraseIdx mem
  | duplicate i =>
    cases found : joint.channel[i]? with
    | none =>
      simp only [Joint.step, found]
      exact consistent
    | some packet =>
      simp only [Joint.step, found]
      apply consistent.carry
      intro other mem
      rcases mem_cons.mp mem with rfl | old
      · exact mem_of_getElem? found
      · exact old
  | inject party msg =>
    simp only [Joint.step]
    by_cases unforged :
        sameNamed msg.operation = none ∨ msg.transaction ≠ (joint.transaction party).id
    · rw [if_pos unforged]
      apply consistent.remote
      · intro op bound
        simp [op, sameNamed, bound] at unforged
      · intro op bound
        rcases op with op | op <;> simp [op, sameNamed, bound] at unforged
    · rw [if_neg unforged]
      exact consistent

/-! ## Agreement -/

/-- Neither side holds a commit that the other side may have given up. -/
def Agrees (near peer : Phase) : Prop :=
  (near = .committed ∨ near = .bonded →
      peer = .commitPending ∨ peer = .committed ∨ peer = .bonded ∨ peer = .uncertain) ∧
    (near = .bonded → peer = .committed ∨ peer = .bonded ∨ peer = .uncertain)

theorem Consistent.agrees (consistent : Consistent joint) (party : Role) :
    Agrees (joint.transaction party).phase (joint.transaction party.other).phase := by
  have linked := consistent.linked party
  have role := consistent.role party
  constructor
  · intro committed
    have decided : (joint.transaction party.other).phase.Decided := by
      cases party with
      | participant =>
        apply linked.follows role
        · rcases committed with phase | phase <;> rw [phase] <;> trivial
        · rcases committed with phase | phase <;> simp [phase]
      | coordinator =>
        apply Phase.Acknowledged.decided
        apply linked.acknowledged role
        · rcases committed with phase | phase <;> rw [phase] <;> trivial
        · rcases committed with phase | phase <;> simp [phase]
    cases phase : (joint.transaction party.other).phase <;> simp_all [Phase.Decided]
  · intro bonded
    have acknowledged := linked.bonded bonded
    cases phase : (joint.transaction party.other).phase <;> simp_all [Phase.Acknowledged]

/--
In every reachable joint state, a side that is committed or bonded faces a
side that recorded the commit decision or lost track of the outcome, and a
bonded side faces a side that acknowledged it.  In particular no side is
bonded while the other is aborted.
-/
theorem joint_agreement (id : TransactionId) (events : List Event) (party : Role) :
    Agrees
        ((run Joint.step (Joint.start id) events).transaction party).phase
        ((run Joint.step (Joint.start id) events).transaction party.other).phase ∧
      ¬ (((run Joint.step (Joint.start id) events).transaction party).phase = .bonded ∧
          ∃ op,
            ((run Joint.step (Joint.start id) events).transaction
              party.other).phase = .aborted op) := by
  have consistent : Consistent (run .step (.start id) events) :=
    run_invariant (fun _ ev consistent => consistent.step _) consistent_start _
  have agrees := consistent.agrees party
  refine ⟨agrees, ?_⟩
  rintro ⟨bonded, op, aborted⟩
  have peer := agrees.2 bonded
  rw [aborted] at peer
  simp at peer

/-- One side establishes a fact, sends it, and the message arrives. -/
private def exchange (party : Role) (ev : LocalEvent) (op : Operation) : List Event :=
  [.localFact party ev, .send party op, .deliver 0]

-- The complete exchange leaves both sides bonded.
example (party : Role) :
    ((run Joint.step (Joint.start (List.Vector.replicate 16 7))
        (exchange .coordinator .capability .capability ++
          exchange .participant .capability .capability ++
          [.localFact .coordinator .verifiedExchange, .localFact .participant .verifiedExchange] ++
          exchange .coordinator .confirm .confirm ++ exchange .participant .confirm .confirm ++
          exchange .coordinator .prepared .prepared ++ exchange .participant .prepared .prepared ++
          exchange .coordinator .commit .commit ++ exchange .participant .commitAck .commitAck ++
          exchange .coordinator .committed .committed ++
          exchange .participant .committed .committed)).transaction
        party).phase = .bonded := by
  cases party <;> decide +kernel

end TwoParty

end DeskUnlock.Pairing
