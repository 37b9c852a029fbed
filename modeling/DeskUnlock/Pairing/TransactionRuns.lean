import DeskUnlock.Pairing.Facts

/-!
# Runs of one transaction

Whole histories of a single transaction: what a bonded one must have gone
through, what a decided one can still become, and what a status answer can
bring about.  The history of a run is the list of the calls that were
accepted.
-/

namespace DeskUnlock.Pairing

open Runs List

/-! ## Histories of facts -/

/-- A transaction with the facts it has accepted, oldest first. -/
structure FactRun where
  transaction : Transaction
  accepted : List Fact

namespace FactRun

def start (id : TransactionId) (role : Role) : FactRun where
  transaction := .new id role
  accepted := []

def step (run : FactRun) (fact : Fact) : FactRun :=
  match run.transaction.record fact with
  | (tx, .ok _) => ⟨tx, run.accepted ++ [fact]⟩
  | (tx, .error _) => ⟨tx, run.accepted⟩

/-- A refused fact leaves no trace; an accepted one is recorded. -/
theorem step_cases (run : FactRun) (fact : Fact) : run.step fact = run ∨ ∃ after,
    Advances run.transaction fact after ∧ run.step fact = ⟨after, run.accepted ++ [fact]⟩ := by
  obtain ⟨tx, accepted⟩ := run
  have responds := record_responds tx fact
  unfold step
  cases out : tx.record fact with
  | mk after res =>
    rw [out] at responds
    rcases responds with ⟨same, error, refused⟩ | ⟨succeeded, advances⟩
    · dsimp only at same refused
      subst same refused
      exact .inl rfl
    · dsimp only at succeeded
      subst succeeded
      exact .inr ⟨after, advances, rfl⟩

end FactRun

/-! ## The stages of a pairing -/

/-- Everything that a bonded transaction has behind it, stage by stage. -/
def pairingStages (id : TransactionId) (role : Role) : List (List Fact) :=
  [[Milestone.capability.fact id .own, Milestone.capability.fact id .peer],
    [.local .verifiedExchange], [Milestone.confirm.fact id .own, Milestone.confirm.fact id .peer],
    [Milestone.prepared.fact id .own, Milestone.prepared.fact id .peer], [decisionFact id role],
    [acknowledgementFact id role],
    [Milestone.committed.fact id .own, Milestone.committed.fact id .peer]]

def Phase.passedStages : Phase → Nat
  | .oobPending => 2
  | .preparing => 3
  | .prepared => 4
  | .commitPending => 5
  | .committed => 6
  | .bonded => 7
  | _ => 0

def Flags.facts (flags : Flags) (id : TransactionId) (milestone : Milestone) : List Fact :=
  ([Side.own, Side.peer].filter flags.get).map (milestone.fact id)

theorem Flags.get_set {flags : Flags} {side other : Side}
    (recorded : (flags.set side).get other = true) : flags.get other = true ∨ other = side := by
  cases side <;> cases other <;>
    first
    | exact .inr rfl
    | exact .inl recorded

variable {fact : Fact} {id : TransactionId} {tx : Transaction}

theorem Flags.mem_facts_set {flags : Flags} {side : Side} {milestone : Milestone}
    (mem : fact ∈ (flags.set side).facts id milestone) :
    fact ∈ flags.facts id milestone ∨ fact ∈ [milestone.fact id side] := by
  obtain ⟨other, found, rfl⟩ := mem_map.mp mem
  obtain ⟨listed, recorded⟩ := mem_filter.mp found
  rcases get_set recorded with old | rfl
  · exact .inl (mem_map_of_mem (mem_filter.mpr ⟨listed, old⟩))
  · exact .inr mem_cons_self

def Transaction.underWay (tx : Transaction) : List Fact :=
  match tx.phase with
  | .negotiating => tx.capabilities.facts tx.id .capability
  | .oobPending => tx.confirmed.facts tx.id .confirm
  | .preparing => tx.prepared.facts tx.id .prepared
  | .committed => tx.committed.facts tx.id .committed
  | _ => []

/-- The flags of the milestones that the phase has not come to are unset. -/
def Transaction.Fresh (tx : Transaction) : Prop :=
  (tx.phase = .negotiating → tx.confirmed = .none) ∧
    (tx.phase = .negotiating ∨ tx.phase = .oobPending → tx.prepared = .none) ∧
    (tx.phase = .negotiating ∨ tx.phase = .oobPending ∨
        tx.phase = .preparing ∨ tx.phase = .prepared ∨ tx.phase = .commitPending →
      tx.committed = .none)

/-- The history accounts for the phase and the flags. -/
structure FactRun.Accounted (id : TransactionId) (role : Role) (run : FactRun) : Prop where
  id_eq : run.transaction.id = id
  role_eq : run.transaction.role = role
  bound : ∀ fact ∈ run.accepted, fact.Bound id
  fresh : run.transaction.Fresh
  passed :
    Passed
      ((pairingStages id role).take run.transaction.phase.passedStages)
      run.transaction.underWay run.accepted

theorem FactRun.start_accounted (id : TransactionId) (role : Role) :
    (FactRun.start id role).Accounted id role where
  id_eq := rfl
  role_eq := rfl
  bound := nofun
  fresh := ⟨fun _ => rfl, fun _ => rfl, fun _ => rfl⟩
  passed := ⟨[], [], rfl, trivial, nofun⟩

theorem Advances.fresh {tx after : Transaction}
    (advances : Advances tx fact after) (fresh : tx.Fresh) : after.Fresh := by
  unfold Transaction.Fresh at *
  cases advances with
  | ignored fact idle bound => exact fresh
  | broken fact breaks bound unbonded broken =>
    obtain ⟨phase, rfl, ⟨_, rfl⟩ | ⟨_, op, rfl⟩⟩ := broken <;> simp
  | _ => simp_all; try split <;> simp_all

theorem passed_milestone {milestone : Milestone} {flags : Flags}
    {stages : List (List Fact)} {history : List Fact}
    (passed : Passed stages (flags.facts id milestone) history) {side : Side} :
    (flags.set side = .all →
      Passed
        (stages ++ [[milestone.fact id .own, milestone.fact id .peer]]) []
        (history ++ [milestone.fact id side])) ∧
      Passed stages ((flags.set side).facts id milestone)
        (history ++ [milestone.fact id side]) := by
  have added : ∀ fact ∈ (flags.set side).facts id milestone,
      fact ∈ flags.facts id milestone ∨ fact ∈ [milestone.fact id side] :=
    fun _ => Flags.mem_facts_set
  refine ⟨fun complete => ?_, passed.append added⟩
  rw [complete] at added
  exact passed.finish added

/-- What an accepted fact adds to the stages that are behind. -/
theorem Advances.passed {tx after : Transaction}
    (advances : Advances tx fact after) (fresh : tx.Fresh) {history : List Fact}
    (passed :
      Passed ((pairingStages tx.id tx.role).take tx.phase.passedStages) tx.underWay history) :
    Passed
      ((pairingStages tx.id tx.role).take after.phase.passedStages)
      after.underWay (history ++ [fact]) := by
  obtain ⟨id, role, phase, capabilities, confirmed, prepared, committed⟩ := tx
  cases advances with
  | capability side enabled =>
    obtain rfl : phase = .negotiating := enabled
    exact (passed_milestone passed).2
  | exchanged enabled complete =>
    obtain rfl : phase = .negotiating := enabled
    obtain rfl : capabilities = .all := complete
    obtain rfl : confirmed = .none := fresh.1 rfl
    have exchanged :
        Passed ((pairingStages id role).take 2) [] (history ++ [.local .verifiedExchange]) :=
      passed.close.finish fun _ mem => .inr mem
    exact exchanged
  | confirm side enabled =>
    obtain rfl : phase = .oobPending := enabled
    obtain rfl : prepared = .none := fresh.2.1 (.inr rfl)
    obtain ⟨completes, continues⟩ := passed_milestone passed
    by_cases complete : confirmed.set side = .all
    · rw [if_pos complete]
      exact completes complete
    · rw [if_neg complete]
      exact continues
  | prepared side enabled =>
    obtain rfl : phase = .preparing := enabled
    obtain ⟨completes, continues⟩ := passed_milestone passed
    by_cases complete : prepared.set side = .all
    · rw [if_pos complete]
      exact completes complete
    · rw [if_neg complete]
      exact continues
  | decided own enabled =>
    obtain rfl : phase = .prepared := enabled
    obtain rfl : role = _ := own
    have decided : Passed ((pairingStages id role).take 5) [] (history ++ [decisionFact id role]) :=
      passed.finish fun _ mem => .inr mem
    exact decided
  | acknowledged own enabled =>
    obtain rfl : phase = .commitPending := enabled
    obtain rfl : role = _ := own
    obtain rfl : committed = .none := fresh.2.2 (by simp)
    have acknowledged :
        Passed ((pairingStages id role).take 6) [] (history ++ [acknowledgementFact id role]) :=
      passed.finish fun _ mem => .inr mem
    exact acknowledged
  | committed side enabled =>
    obtain rfl : phase = .committed := enabled
    obtain ⟨completes, continues⟩ := passed_milestone passed
    by_cases complete : committed.set side = .all
    · rw [if_pos complete]
      exact completes complete
    · rw [if_neg complete]
      exact continues
  | ignored fact idle bound => exact passed.append fun _ mem => .inl mem
  | broken fact breaks bound unbonded broken =>
    obtain ⟨phase, rfl, ⟨_, rfl⟩ | ⟨_, op, rfl⟩⟩ := broken
    · exact ⟨[], _, rfl, trivial, nofun⟩
    · exact ⟨[], _, rfl, trivial, nofun⟩

theorem Advances.id_role {tx after : Transaction}
    (advances : Advances tx fact after) : after.id = tx.id ∧ after.role = tx.role := by
  cases advances with
  | broken fact breaks bound unbonded broken =>
    obtain ⟨phase, rfl, _⟩ := broken
    exact ⟨rfl, rfl⟩
  | _ => exact ⟨rfl, rfl⟩

theorem FactRun.Accounted.step {id : TransactionId} {role : Role} {run : FactRun}
    (accounted : run.Accounted id role) (fact : Fact) : (run.step fact).Accounted id role := by
  rcases run.step_cases _ with same | ⟨after, advances, same⟩
  · rw [same]
    exact accounted
  · rw [same]
    obtain ⟨sameId, sameRole⟩ := advances.id_role
    have passed := accounted.passed
    rw [← accounted.id_eq, ← accounted.role_eq] at passed
    refine ⟨sameId.trans accounted.id_eq, sameRole.trans accounted.role_eq, ?_,
        advances.fresh accounted.fresh, ?_⟩
    · intro other mem
      rcases mem_append.mp mem with old | new
      · exact accounted.bound _ old
      · rw [mem_singleton.mp new, ← accounted.id_eq]
        exact advances.bound
    · rw [← accounted.id_eq, ← accounted.role_eq]
      exact advances.passed accounted.fresh passed

/--
A transaction that is bonded has accepted everything that a pairing consists
of, in order, and no message of another transaction.
-/
theorem bonded_passed_all_stages (id : TransactionId) (role : Role) (facts : List Fact)
    (bonded : (run FactRun.step (.start id role) facts).transaction.phase = .bonded) :
    InOrder (pairingStages id role)
        (run FactRun.step (.start id role) facts).accepted ∧
      ∀ msg,
        .remote msg ∈ (run FactRun.step (.start id role) facts).accepted →
          msg.transaction = id := by
  have accounted : (run FactRun.step (.start id role) facts).Accounted id role :=
    run_invariant (fun run fact accounted => accounted.step _) (FactRun.start_accounted _ _) _
  refine ⟨?_, fun msg mem => accounted.bound _ mem⟩
  have passed := accounted.passed.inOrder
  rw [bonded] at passed
  exact passed

/-- Both sides do their part; one message is foreign and one comes twice. -/
def completeFacts (id other : TransactionId) : List Fact :=
  [.remote ⟨id, .capability⟩, .remote ⟨other, .confirm⟩,
    .local .capability, .local .verifiedExchange, .local .confirm,
    .remote ⟨id, .confirm⟩, .remote ⟨id, .confirm⟩, .local .prepared,
    .remote ⟨id, .prepared⟩, .local .commit, .remote ⟨id, .commitAck⟩,
    .remote ⟨id, .committed⟩, .local .committed]

theorem completeFacts_passed_all_stages :
    let run :=
      run FactRun.step (.start (.replicate 16 7) .coordinator)
        (completeFacts (.replicate 16 7) (.replicate 16 8))
    run.transaction.phase = .bonded ∧
      InOrder (pairingStages (.replicate 16 7) .coordinator) run.accepted :=
  ⟨by decide, (bonded_passed_all_stages _ _ _ (by decide)).1⟩

/-! ## Calls -/

/-- The calls on a transaction. -/
inductive TransactionCall where
  | fact (fact : Fact)
  | reconcile (answer : StatusState)
  | status (resp : StatusMessage) (nonce : UInt64)
  /-- Serialize and restore; a snapshot that is refused changes nothing. -/
  | restart
deriving DecidableEq

section

variable (tx : Transaction)

def Transaction.call :
    TransactionCall → Transition Unit
  | .fact fact => tx.record fact
  | .reconcile answer =>
    let (after, res) := tx.reconcileStatus answer
    (after, res.map fun _ => ())
  | .status resp nonce =>
    let (after, res) := tx.applyStatusResponse resp nonce
    (after, res.map fun _ => ())
  | .restart =>
    match Transaction.restore tx.serialize with
    | .ok restored => (restored, .ok ())
    | .error error => (tx, .error error)

def TransactionCall.answer? :
    TransactionCall → Option StatusState
  | .reconcile answer => some answer
  | .status resp nonce => if resp.transaction = tx.id ∧ resp.nonce = nonce then resp.state else none
  | _ => none

theorem call_cases (call : TransactionCall) : (call.answer? tx = none ∧ (tx.call call).1 = tx) ∨
    (∃ fact, call = .fact fact ∧ (tx.call call).2 = .ok () ∧ Advances tx fact (tx.call call).1) ∨
    ∃ answer,
    call.answer? tx = some answer ∧ tx.call call = ((tx.reconcileStatus answer).1, .ok ()) := by
  cases call with
  | fact fact =>
    rcases record_responds _ _ with ⟨same, _⟩ | ⟨succeeded, advances⟩
    · exact .inl ⟨rfl, same⟩
    · exact .inr (.inl ⟨fact, rfl, succeeded, advances⟩)
  | reconcile answer => exact .inr (.inr ⟨answer, rfl, rfl⟩)
  | status resp nonce =>
    obtain ⟨bound, number, state⟩ := resp
    cases state with
    | none =>
      refine .inl ⟨?_, rfl⟩
      simp [TransactionCall.answer?]
    | some answer =>
      by_cases foreign : bound ≠ tx.id ∨ number ≠ nonce
      · left
        simp only [Transaction.call, Transaction.applyStatusResponse, if_pos foreign]
        exact ⟨if_neg (by tauto), trivial⟩
      · refine .inr (.inr ⟨answer, ?_, ?_⟩)
        · simp only [TransactionCall.answer?]
          exact if_pos (by tauto)
        · simp only [Transaction.call, Transaction.applyStatusResponse, if_neg foreign]
          rfl
  | restart =>
    refine .inl ⟨rfl, ?_⟩
    unfold Transaction.call
    dsimp only
    split
    · rename_i restored read
      exact ((Transaction.restore_serialize_eq_ok_iff _ _).mp read).1
    · rfl

def Transaction.after (call : TransactionCall) : Transaction := (tx.call call).1

end

theorem Advances.stays_decided {tx after : Transaction}
    (advances : Advances tx fact after) (decided : tx.phase.Decided) : after.phase.Decided := by
  cases advances with
  | capability side enabled => exact decided
  | exchanged enabled complete | confirm side enabled
  | prepared side enabled =>
    rw [enabled] at decided
    exact decided.elim
  | decided own enabled | acknowledged own enabled => exact trivial
  | committed side enabled => split_ifs <;> exact trivial
  | ignored fact idle bound => exact decided
  | broken fact breaks bound unbonded broken =>
    obtain ⟨phase, rfl, ⟨_, rfl⟩ | ⟨undecided, _⟩⟩ := broken
    · exact trivial
    · exact (undecided decided).elim

theorem reconcileStatus_decided (decided : tx.phase.Decided) {answer : StatusState} :
    (tx.reconcileStatus answer).1.phase.Decided := by
  rcases reconcileStatus_cases _ _ with quiet | ⟨_, _, same | same⟩
  · exact quiet.decided decided
  · rw [same]
    exact trivial
  · rw [same]
    exact trivial

/-- No call takes the commit decision back. -/
theorem after_decided {call : TransactionCall} (decided : tx.phase.Decided) :
    (tx.after call).phase.Decided := by
  unfold Transaction.after
  rcases call_cases _ _ with ⟨_, same⟩ | ⟨fact, _, _, advances⟩ | ⟨answer, _, same⟩
  · rw [same]
    exact decided
  · exact advances.stays_decided decided
  · rw [same]
    exact reconcileStatus_decided decided

/--
Once the commit is decided, nothing leads to an abort or back before the
decision.
-/
theorem decision_never_undone (tx : Transaction)
    (decided : tx.phase = .commitPending ∨ tx.phase = .committed ∨ tx.phase = .bonded)
    (calls : List TransactionCall) :
    (run Transaction.after tx calls).phase ≠ .negotiating ∧
      (run Transaction.after tx calls).phase ≠ .oobPending ∧
      (run Transaction.after tx calls).phase ≠ .preparing ∧
      (run Transaction.after tx calls).phase ≠ .prepared ∧
      ∀ op, (run Transaction.after tx calls).phase ≠ .aborted op := by
  have initial : tx.phase.Decided := by
    rcases decided with same | same | same <;> rw [same] <;> exact trivial
  have final : (run .after tx calls).phase.Decided :=
    @run_invariant Transaction _ _ (·.phase.Decided)
      (fun _ call decided => after_decided decided) _ initial _
  refine ⟨?_, ?_, ?_, ?_, fun op => ?_⟩
  all_goals
    intro same
    rw [same] at final
    exact final

theorem pendingCommit_never_undone :
    let tx :=
      (run FactRun.step (.start (.replicate 16 7) .coordinator)
        ((completeFacts (.replicate 16 7) (.replicate 16 8)).take 10)).transaction
    tx.phase = .commitPending ∧
      ∀ op,
        (run .after tx
          [.reconcile .aborted, .restart, .fact (.local .disconnected)]).phase ≠ .aborted op :=
  ⟨by decide, (decision_never_undone _ (by decide) _).2.2.2.2⟩

/-! ## What a status answer can bring about -/

theorem Advances.stays_bonded {tx after : Transaction}
    (advances : Advances tx fact after) (bonded : tx.phase = .bonded) : after.phase = .bonded := by
  cases advances with
  | ignored fact idle bound => exact bonded
  | broken fact breaks bound unbonded broken => exact (unbonded bonded).elim
  | capability side enabled => exact bonded
  | exchanged enabled
  | confirm side enabled
  | prepared side enabled
  | decided own enabled
  | acknowledged own enabled
  | committed side enabled => cases enabled.symm.trans bonded

/-- A bonded transaction stays bonded exactly under answers that agree. -/
theorem after_bonded_iff {call : TransactionCall}
    (bonded : tx.phase = .bonded) : (tx.after call).phase = .bonded ↔
    ∀ answer, call.answer? tx = some answer → answer = .committed ∨ answer = .bonded := by
  unfold Transaction.after
  rcases call_cases tx call with
    ⟨silent, same⟩ | ⟨fact, rfl, _, advances⟩ | ⟨answer, answered, same⟩
  · simp [silent, same, bonded]
  · exact ⟨fun _ => nofun, fun _ => advances.stays_bonded bonded⟩
  · rw [answered, same]
    unfold Transaction.reconcileStatus Transaction.status
    rw [bonded]
    cases answer <;> simp

/--
A bonded transaction stays bonded throughout a run exactly when every status
answer that it accepts is `Committed` or `Bonded`.
-/
theorem bonded_throughout_iff (tx : Transaction)
    (bonded : tx.phase = .bonded) (calls : List TransactionCall) :
    Throughout Transaction.after (·.phase = .bonded) tx calls ↔
      Along Transaction.after
        (fun state call =>
          ∀ answer, call.answer? state = some answer → answer = .committed ∨ answer = .bonded)
        tx calls := by
  refine @throughout_iff_along Transaction _ _ _ (fun _ => True)
      (·.phase = .bonded) ?_ ?_ _ trivial bonded _
  · exact fun _ _ _ => trivial
  · exact fun _ call _ held => after_bonded_iff held

theorem bonded_kept_by_agreement :
    let tx :=
      (run FactRun.step (.start (.replicate 16 7) .coordinator)
        (completeFacts (.replicate 16 7) (.replicate 16 8))).transaction
    tx.phase = .bonded ∧
      Throughout Transaction.after (·.phase = .bonded) tx
        [.reconcile .committed, .fact (.local (.abort .error)), .restart,
          .status (.response (.replicate 16 7) 5 .bonded) 5,
          .status (.response (.replicate 16 7) 5 .unknown) 6] := by
  have bonded :
      (run FactRun.step (.start (.replicate 16 7) .coordinator)
        (completeFacts (.replicate 16 7) (.replicate 16 8))).transaction.phase = .bonded := by
    decide
  refine ⟨bonded, (bonded_throughout_iff _ bonded _).mpr ?_⟩
  refine ⟨?_, nofun, nofun, ?_, nofun, trivial⟩
  · rintro _ ⟨⟩
    exact .inl rfl
  · rintro _ ⟨⟩
    exact .inr rfl

/-- A bonded transaction is left uncertain by an answer that knows nothing. -/
theorem bonded_lost_to_unknown :
    let tx :=
      (run FactRun.step (.start (.replicate 16 7) .coordinator)
        (completeFacts (.replicate 16 7) (.replicate 16 8))).transaction
    tx.phase = .bonded ∧ (tx.after (.reconcile .unknown)).phase = .uncertain := by
  decide

/-! ## How a transaction becomes bonded -/

/-- A transaction with the calls it has accepted, oldest first. -/
structure CallRun where
  transaction : Transaction
  accepted : List TransactionCall

namespace CallRun

def start (id : TransactionId) (role : Role) : CallRun where
  transaction := .new id role
  accepted := []

def step (run : CallRun) (call : TransactionCall) : CallRun :=
  match run.transaction.call call with
  | (tx, .ok _) => ⟨tx, run.accepted ++ [call]⟩
  | (tx, .error _) => ⟨tx, run.accepted⟩

end CallRun

def TransactionCall.reported : TransactionCall → Option StatusState
  | .reconcile answer => some answer
  | .status resp _ => resp.state
  | _ => none

/-- The peer reported its commit after the commit was decided here. -/
def AnsweredAfterDecision (decision : Fact) (accepted : List TransactionCall) : Prop :=
  ∃ before call after,
    accepted = before ++ call :: after ∧ .fact decision ∈ before ∧
      (call.reported = some .committed ∨ call.reported = some .bonded)

def Endorsed (decision : Fact) (accepted : List TransactionCall) : Prop :=
  .fact (.local .committed) ∈ accepted ∨ AnsweredAfterDecision decision accepted

theorem Endorsed.append {decision : Fact} {accepted : List TransactionCall}
    (endorsed : Endorsed decision accepted) (more : List TransactionCall) :
    Endorsed decision (accepted ++ more) := by
  rcases endorsed with recorded | ⟨before, call, after, rfl, decided, said⟩
  · exact .inl (mem_append_left _ recorded)
  · exact .inr ⟨before, call, after ++ more, by simp, decided, said⟩

/-- The history explains the decision and the own verified record. -/
structure CallRun.Explained (id : TransactionId) (role : Role) (run : CallRun) : Prop where
  id_eq : run.transaction.id = id
  role_eq : run.transaction.role = role
  decided :
    run.transaction.phase = .commitPending ∨
        run.transaction.phase = .committed ∨ run.transaction.phase = .bonded →
      .fact (decisionFact id role) ∈ run.accepted
  recorded : run.transaction.committed.own = true → Endorsed (decisionFact id role) run.accepted
  bonded : run.transaction.phase = .bonded → run.transaction.committed = .all

theorem CallRun.start_explained {id : TransactionId} {role : Role} :
    (CallRun.start id role).Explained id role where
  id_eq := rfl
  role_eq := rfl
  decided := by rintro (same | same | same) <;> cases same
  recorded := nofun
  bonded := nofun

theorem CallRun.Explained.remain {role : Role} {run : CallRun}
    (explained : run.Explained id role) (more : List TransactionCall) :
    CallRun.Explained id role ⟨run.transaction, run.accepted ++ more⟩ where
  id_eq := explained.id_eq
  role_eq := explained.role_eq
  decided phase := mem_append_left _ (explained.decided phase)
  recorded own := (explained.recorded own).append _
  bonded := explained.bonded

theorem CallRun.Explained.advance {role : Role} {run : CallRun} (explained : run.Explained id role)
    {after : Transaction} (advances : Advances run.transaction fact after) :
    CallRun.Explained id role ⟨after, run.accepted ++ [.fact fact]⟩ := by
  obtain ⟨⟨_, _, phase, capabilities, confirmed, prepared, committed⟩, accepted⟩ := run
  obtain ⟨rfl, rfl, decided, recorded, bonded⟩ := explained.remain [.fact fact]
  cases advances with
  | capability side enabled => exact ⟨rfl, rfl, decided, recorded, bonded⟩
  | exchanged enabled complete => exact ⟨rfl, rfl, by simp, recorded, nofun⟩
  | confirm side enabled | prepared side enabled =>
    refine ⟨rfl, rfl, ?_, recorded, ?_⟩ <;> (dsimp only; split_ifs <;> simp)
  | decided own enabled =>
    subst own
    exact ⟨rfl, rfl, fun _ => by simp, recorded, nofun⟩
  | acknowledged own enabled =>
    obtain rfl : phase = .commitPending := enabled
    exact ⟨rfl, rfl, fun _ => decided (.inl rfl), recorded, nofun⟩
  | committed side enabled =>
    obtain rfl : phase = .committed := enabled
    refine ⟨rfl, rfl, fun _ => decided (.inr (.inl rfl)), ?_, ?_⟩
    · cases side with
      | own => exact fun _ => .inl (by simp [Milestone.fact])
      | peer => exact recorded
    · dsimp only
      split_ifs with complete
      · exact fun _ => complete
      · exact nofun
  | ignored fact idle bound => exact ⟨rfl, rfl, decided, recorded, bonded⟩
  | broken fact breaks bound unbonded broken =>
    obtain ⟨phase, rfl, ⟨_, rfl⟩ | ⟨_, op, rfl⟩⟩ := broken
    · exact ⟨rfl, rfl, by simp, recorded, nofun⟩
    · exact ⟨rfl, rfl, by simp, recorded, nofun⟩

theorem reconcileStatus_uncertain (uncertain : tx.phase = .uncertain)
    {answer : StatusState} : (tx.reconcileStatus answer).1 = tx := by
  obtain ⟨id, role, phase, capabilities, confirmed, prepared, committed⟩ := tx
  obtain rfl : phase = .uncertain := uncertain
  cases answer <;> rfl

/-- A quiet step does not lead into a phase that knows of the decision. -/
theorem Quiet.eq_of_claimed {before after : Transaction} (quiet : Quiet before after)
    (claimed : after.phase = .commitPending ∨ after.phase = .committed ∨ after.phase = .bonded) :
    after.phase = before.phase := by
  apply quiet.phase_eq
  · rcases claimed with same | same | same <;> rw [same] <;> exact trivial
  · rcases claimed with same | same | same <;> rw [same] <;> exact nofun

theorem CallRun.Explained.answer {role : Role} {run : CallRun} (explained : run.Explained id role)
    {call : TransactionCall} {answer : StatusState} (reported : call.reported = some answer) :
    CallRun.Explained id role
      ⟨(run.transaction.reconcileStatus answer).1, run.accepted ++ [call]⟩ := by
  have remains := explained.remain [call]
  by_cases uncertain : run.transaction.phase = .uncertain
  · rw [reconcileStatus_uncertain uncertain]
    exact remains
  rcases reconcileStatus_cases _ _ with quiet | ⟨acknowledged, wasDecided, out⟩
  · refine ⟨quiet.id.trans explained.id_eq, quiet.role.trans explained.role_eq, ?_, ?_, ?_⟩
    · intro phase
      have same := quiet.eq_of_claimed phase
      rw [same] at phase
      exact remains.decided phase
    · simp only [quiet.committed]
      exact remains.recorded
    · intro phase
      have same := quiet.eq_of_claimed (.inr (.inr phase))
      rw [quiet.committed]
      exact explained.bonded (same.symm.trans phase)
  · have decision : .fact (decisionFact id role) ∈ run.accepted := by
      apply explained.decided
      revert wasDecided uncertain
      cases run.transaction.phase <;> simp [Phase.Decided]
    have endorsed : Endorsed (decisionFact id role) (run.accepted ++ [call]) := by
      refine .inr ⟨run.accepted, call, [], rfl, decision, ?_⟩
      rw [reported]
      cases answer with
      | committed => exact .inl rfl
      | bonded => exact .inr rfl
      | _ => exact acknowledged.elim
    have decisionKept : .fact (decisionFact id role) ∈ run.accepted ++ [call] :=
      mem_append_left _ decision
    rcases out with same | same <;> rw [same]
    · exact ⟨explained.id_eq, explained.role_eq, fun _ => decisionKept, fun _ => endorsed, by simp⟩
    · exact
        ⟨explained.id_eq, explained.role_eq, fun _ => decisionKept, fun _ => endorsed, fun _ => rfl⟩

theorem TransactionCall.reported_of_answer? {call : TransactionCall} {answer : StatusState}
    (answered : call.answer? tx = some answer) : call.reported = some answer := by
  cases call with
  | fact fact => cases answered
  | reconcile other => exact answered
  | status resp nonce =>
    unfold TransactionCall.answer? at answered
    dsimp only at answered
    split_ifs at answered
    exact answered
  | restart => cases answered

theorem CallRun.Explained.step {id : TransactionId} {role : Role} {run : CallRun}
    (explained : run.Explained id role) (call : TransactionCall) :
    (run.step call).Explained id role := by
  have stepped :
      run.step call = ⟨(run.transaction.call call).1, run.accepted ++ [call]⟩ ∨ run.step call =
      ⟨(run.transaction.call call).1, run.accepted⟩ ∧ (run.transaction.call call).2 ≠ .ok () := by
    unfold CallRun.step
    split
    · rename_i out
      rw [out]
      exact .inl rfl
    · rename_i out
      rw [out]
      exact .inr ⟨rfl, nofun⟩
  rcases call_cases _ call with
    ⟨_, same⟩ | ⟨fact, rfl, succeeded, advances⟩ | ⟨answer, answered, same⟩
  · rw [same] at stepped
    rcases stepped with recorded | ⟨unrecorded, _⟩
    · rw [recorded]
      exact explained.remain [call]
    · rw [unrecorded]
      exact explained
  · rcases stepped with recorded | ⟨_, refused⟩
    · rw [recorded]
      exact explained.advance advances
    · exact (refused succeeded).elim
  · rw [same] at stepped
    rcases stepped with recorded | ⟨_, refused⟩
    · rw [recorded]
      exact explained.answer (TransactionCall.reported_of_answer? answered)
    · exact (refused rfl).elim

/--
A bonded transaction has its commit decision behind it, and it has recorded its
own verified bond or was told of the peer's commit after that decision.
-/
theorem bonded_endorsed (id : TransactionId) (role : Role) (calls : List TransactionCall)
    (bonded : (run CallRun.step (.start id role) calls).transaction.phase = .bonded) :
    .fact (decisionFact id role) ∈ (run CallRun.step (.start id role) calls).accepted ∧
      (.fact (.local .committed) ∈ (run CallRun.step (.start id role) calls).accepted ∨
        AnsweredAfterDecision (decisionFact id role)
          (run CallRun.step (.start id role) calls).accepted) := by
  have explained : (run CallRun.step (.start id role) calls).Explained id role :=
    run_invariant (fun run call explained => explained.step _) CallRun.start_explained _
  refine ⟨explained.decided (.inr (.inr bonded)), explained.recorded ?_⟩
  rw [explained.bonded bonded]
  rfl

def decidedCalls (id : TransactionId) : List TransactionCall :=
  (completeFacts id (.replicate 16 8)).take 10 |>.map .fact

theorem decidedCalls_endorsed :
    let run :=
      run CallRun.step (.start (.replicate 16 7) .coordinator)
        (decidedCalls (.replicate 16 7) ++ [.reconcile .bonded])
    run.transaction.phase = .bonded ∧
      .fact (decisionFact (.replicate 16 7) .coordinator) ∈ run.accepted ∧
      (.fact (.local .committed) ∈ run.accepted ∨
        AnsweredAfterDecision (decisionFact (.replicate 16 7) .coordinator) run.accepted) :=
  ⟨by decide, bonded_endorsed _ _ _ (by decide)⟩

/-- An answer bonds a transaction that has no verified record of its own. -/
theorem decidedCalls_bonded_by_answer :
    let run :=
      run CallRun.step (.start (.replicate 16 7) .coordinator)
        (decidedCalls (.replicate 16 7) ++ [.reconcile .bonded])
    run.transaction.phase = .bonded ∧ .fact (.local .committed) ∉ run.accepted := by
  decide

end DeskUnlock.Pairing
