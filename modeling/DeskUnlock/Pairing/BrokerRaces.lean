import DeskUnlock.Foundation.Runs
import DeskUnlock.Pairing.PairingBroker
import Mathlib.Data.List.Induction

/-!
# Answers and timeouts of the broker

`request_via_gui` of `syauth-transport/src/pairing.rs`, at each point where
another task can take the lock.  A call whose wait is over has dropped the
receiving end of its channel, but its entry stays in the table until it gets
the lock again: the answer of the GUI can come between the two.
-/

namespace DeskUnlock.Pairing

open Runs Function

namespace Call

variable (call : Call)

/-- Pending under this id, without an answer. -/
@[simp]
def Waits (id : UInt64) : Prop :=
  (call.progress = .sending id ∨ call.progress = .awaiting id) ∧ call.slot = none

/-- Without an answer, or its wait is over. -/
@[simp]
def Owns (id : UInt64) : Prop := call.Waits id ∨ call.progress = .expired id

/-- The call has accepted, or will as soon as it reads its channel. -/
@[simp]
def Accepts : Prop := (call.listens = true ∧ call.slot = some true) ∨ call.progress = .returned true

variable {call}

theorem accepts_of_answer_false (accepts : (call.answer false).Accepts) : call.Accepts := by
  unfold answer at accepts
  split_ifs at accepts
  · exact .inr (by simpa using accepts)
  · exact accepts

end Call

namespace PairingBroker

/--
This event accepts the call: an answer with its own id while it waits, or the
response to a call that has turned to the socket.
-/
def ApprovedBy (broker : PairingBroker) (ev : BrokerEvent) (handle : Nat) : Prop :=
  ∃ call, broker.calls handle = some call ∧
    ((∃ id, ev = .respond id true ∧ (id, handle) ∈ broker.pending ∧ call.Waits id) ∨
      ∃ payload resp, ev = .hangUp handle resp ∧ call.progress = .exchanging payload ∧
        verdict call.request resp = true)

/-- One of the events has accepted the call. -/
def Approved (events : List BrokerEvent) (handle : Nat) : Prop :=
  ∃ before ev after, events = before ++ ev :: after ∧ (run step idle before).ApprovedBy ev handle

/-- What the events have left in the table is owned, and what is accepted approved. -/
structure Entered (events : List BrokerEvent) (broker : PairingBroker) : Prop where
  single : broker.pending.length ≤ 1
  owned : ∀ id handle, (id, handle) ∈ broker.pending →
    ∃ call, broker.calls handle = some call ∧ call.Owns id
  unopened : ∀ handle, broker.opened ≤ handle → broker.calls handle = none
  approved : ∀ handle call, broker.calls handle = some call → call.Accepts → Approved events handle

variable {events : List BrokerEvent} {broker : PairingBroker} {target : Nat} {call : Call}

theorem Approved.later (approved : Approved events target) (ev : BrokerEvent) :
    Approved (events ++ [ev]) target := by
  obtain ⟨before, own, after, rfl, accepted⟩ := approved
  exact ⟨before, own, after ++ [ev], by simp, accepted⟩

section

variable (entered : Entered events broker)
include entered

theorem Entered.later (ev : BrokerEvent) : Entered (events ++ [ev]) broker :=
  { entered with
    approved := fun _ _ found accepts => (entered.approved _ _ found accepts).later _ }

/-- The entries of a call must stay its own, and a new acceptance be approved. -/
theorem Entered.update {change : Call → Call}
    (owned : ∀ call id, broker.calls target = some call → (id, target) ∈ broker.pending →
      call.Owns id → (change call).Owns id)
    (approved : ∀ call, broker.calls target = some call → (change call).Accepts →
      call.Accepts ∨ Approved events target) :
    Entered events (broker.update target change) where
  single := entered.single
  owned id handle mem := by
    obtain ⟨call, found, owns⟩ := entered.owned id handle mem
    rw [update_calls]
    by_cases same : handle = target
    · subst same
      exact ⟨change call, by simp [found], owned _ _ found mem owns⟩
    · exact ⟨call, by simp [same, found], owns⟩
  unopened handle later := by simp [update_calls, entered.unopened _ later]
  approved handle call found accepts := by
    rw [update_calls] at found
    split_ifs at found with same
    · subst same
      obtain ⟨earlier, present, rfl⟩ := Option.map_eq_some_iff.mp found
      exact (approved _ present accepts).elim (entered.approved _ _ present) id
    · exact entered.approved _ _ found accepts

theorem Entered.proceed (found : broker.calls target = some call) {progress : CallProgress}
    (owned : ∀ id, (id, target) ∈ broker.pending → call.Owns id →
      Call.Owns { call with progress } id)
    (approved : Call.Accepts { call with progress } → call.Accepts ∨ Approved events target) :
    Entered events (broker.proceed target progress) := by
  refine entered.update (fun other id present mem owns => ?_) fun other present => ?_
  all_goals obtain rfl : call = other := Option.some.inj (found.symm.trans present)
  · exact owned _ mem owns
  · exact approved

theorem Entered.remove (id : UInt64) : Entered events (broker.remove id) :=
  { entered with
    single := Nat.le_trans (List.length_filter_le _ _) entered.single
    owned := fun _ _ mem => entered.owned _ _ (List.mem_of_mem_filter mem) }

theorem Entered.socket (socketActive : Bool) : Entered events { broker with socketActive } :=
  { entered with }

theorem Entered.unregisterGui : Entered events broker.unregisterGui where
  single := Nat.zero_le _
  owned := nofun
  unopened handle later := by simp [PairingBroker.unregisterGui, entered.unopened _ later]
  approved handle call found accepts := by
    unfold PairingBroker.unregisterGui at found
    dsimp only at found
    split_ifs at found
    · obtain ⟨earlier, present, rfl⟩ := Option.map_eq_some_iff.mp found
      exact entered.approved _ _ present (Call.accepts_of_answer_false accepts)
    · exact entered.approved _ _ found accepts

theorem Entered.begin (req : GuiEvent) : Entered events (broker.begin req) where
  single := entered.single
  owned id handle mem := by
    obtain ⟨call, found, owns⟩ := entered.owned id handle mem
    have older : handle ≠ broker.opened := by
      rintro rfl
      simp [entered.unopened _ (Nat.le_refl _)] at found
    exact ⟨call, by simpa [PairingBroker.begin, older] using found, owns⟩
  unopened handle later := by
    have newer : broker.opened < handle := later
    simp [PairingBroker.begin, newer.ne', entered.unopened _ newer.le]
  approved handle call found accepts := by
    by_cases own : handle = broker.opened
    · subst own
      simp only [PairingBroker.begin, update_self, Option.some.injEq] at found
      subst found
      cases req <;> simp at accepts
    · exact entered.approved _ _ (by simpa [PairingBroker.begin, own] using found) accepts

theorem Entered.alone {id : UInt64} (found : broker.pending.lookup id = some target) :
    broker.pending = [(id, target)] := by
  have single := entered.single
  rcases pending : broker.pending with _ | ⟨⟨other, owner⟩, _ | _⟩
  · simp [pending] at found
  · rw [pending, List.lookup_cons] at found
    split at found <;> simp_all
  · simp [pending] at single

theorem Entered.enter (found : broker.calls target = some call)
    (entering : call.progress = .entering) : Entered events (broker.enter target) := by
  unfold PairingBroker.enter
  split_ifs
  iterate 2 exact entered.proceed found (by simp [entering]) (by simp)
  have registered : Entered events { broker with pending := [], nextId := broker.nextId + 1 } :=
    { entered with single := Nat.zero_le 1, owned := nofun }
  have moved := @Entered.update _ _ target registered
    (fun state => ⟨state.request.withId broker.nextId, .sending broker.nextId, none⟩)
    (by simp) (by simp)
  refine { moved with single := Nat.le_refl 1, owned := fun id handle mem => ?_ }
  obtain ⟨rfl, rfl⟩ := Prod.mk.inj (List.mem_singleton.mp mem)
  exact ⟨_, by rw [update_calls, if_pos rfl, found]; rfl, .inl ⟨.inl rfl, rfl⟩⟩

end

/-- An answer reaches the call that waits under its id, and it alone. -/
theorem Entered.respond (entered : Entered events (run step idle events)) (id : UInt64)
    (accepted : Bool) :
    Entered (events ++ [.respond id accepted])
      ((run step idle events).respond id accepted).1 := by
  have later := entered.later (.respond id accepted)
  unfold PairingBroker.respond
  split
  · exact later
  · rename_i target found
    have mem : (id, target) ∈ (run step idle events).pending := by simp [entered.alone found]
    refine (later.remove _).update (by simp [PairingBroker.remove, entered.alone found]) ?_
    intro call present accepts
    obtain ⟨other, same, waits | gone⟩ := entered.owned _ _ mem
    all_goals obtain rfl : call = other := Option.some.inj (present.symm.trans same)
    · cases accepted with
      | false => exact .inl (Call.accepts_of_answer_false accepts)
      | true => exact .inr ⟨events, _, [], rfl, call, present, .inl ⟨id, rfl, mem, waits⟩⟩
    · simp [Call.answer, gone] at accepts

theorem Entered.step (entered : Entered events (run step idle events)) (ev : BrokerEvent) :
    Entered (events ++ [ev]) ((run step idle events).step ev) := by
  have later := entered.later ev
  cases ev with dsimp only [PairingBroker.step]
  | registerGui => exact { later with }
  | unregisterGui => exact later.unregisterGui
  | begin req => exact later.begin _
  | enter target =>
    split
    · rename_i running
      exact later.enter running rfl
    · exact later
  | send target delivered =>
    split
    · rename_i running
      split_ifs
      · exact later.proceed running (by simp) (by simp +contextual)
      · exact later.unregisterGui.update (by simp [PairingBroker.unregisterGui]) (by simp)
    · exact later
  | respond id accepted => exact entered.respond _ _
  | resolve target | timeout target =>
    split
    · rename_i running
      exact later.proceed running (by simp) (by simp +contextual)
    · exact later
  | forget target =>
    split
    · rename_i id _ running
      refine (later.remove id).proceed running (fun other mem owns => ?_) (by simp)
      have ne : other ≠ id := by simpa using (List.mem_filter.mp mem).2
      exact absurd owns (by simp [ne.symm])
    · exact later
  | dial target =>
    split
    · rename_i running
      unfold PairingBroker.dial
      split
      · exact later.proceed running (by simp) (by simp)
      · split_ifs
        · exact later.proceed running (by simp) (by simp)
        · exact (later.socket true).proceed running (by simp) (by simp)
    · exact later
  | hangUp target resp =>
    split
    · rename_i running
      refine (later.socket false).proceed running (by simp) fun accepts => .inr ?_
      exact ⟨events, _, [], rfl, _, running, .inr ⟨_, resp, rfl, rfl, by simpa using accepts⟩⟩
    · exact later

theorem entered_run (events : List BrokerEvent) : Entered events (run step idle events) := by
  induction events using List.reverseRecOn with
  | nil => exact ⟨Nat.zero_le 1, nofun, fun _ _ => rfl, nofun⟩
  | append_singleton events ev induction =>
    rw [run_append]
    exact induction.step ev

/--
In every interleaving at most one call is pending, and a call is accepted only
by an answer with its own id while it waits, or over the socket.  Any other
answer returns `false`, and no call hears of it; it may only remove the entry of
a call whose wait is over.  A call that finds another one pending is rejected
and changes nothing else.
-/
theorem requests_exclusive (events : List BrokerEvent) :
    let broker := run step idle events
    broker.pending.length ≤ 1 ∧
      (∀ handle call, broker.calls handle = some call → call.progress = .returned true →
        Approved events handle) ∧
      (∀ id accepted, (∀ handle call, broker.calls handle = some call → ¬ call.Waits id) →
        broker.respond id accepted = (broker, false) ∨
          ∃ handle call, broker.calls handle = some call ∧ call.progress = .expired id ∧
            broker.respond id accepted = ({ broker with pending := [] }, false)) ∧
      ∀ handle call, broker.gui = true → broker.calls handle = some call →
        call.progress = .entering → broker.pending ≠ [] →
          broker.step (.enter handle) = broker.proceed handle (.returned false) := by
  intro broker
  have entered : Entered events broker := entered_run events
  refine ⟨entered.single, ?_, ?_, ?_⟩
  · exact fun handle call found returned => entered.approved _ _ found (.inr returned)
  · intro id accepted unheard
    unfold PairingBroker.respond
    split
    · exact .inl rfl
    · rename_i target found
      have alone := entered.alone found
      obtain ⟨call, present, waits | gone⟩ := entered.owned id target (by simp [alone])
      · exact absurd waits (unheard _ _ present)
      · refine .inr ⟨target, call, present, gone, ?_⟩
        have deaf : call.answer accepted = call := by simp [Call.answer, gone]
        simp [PairingBroker.update, PairingBroker.remove, alone, present, deaf, gone]
  · rintro handle ⟨req, progress, slot⟩ listening found rfl busy
    simp [step, PairingBroker.enter, listening, found, busy]

/-- The answer to a call that has just expired removes the entry. -/
theorem late_answer_removes_entry :
    let broker := run step idle
      [.registerGui, .begin (.lesc ⟨0, [], 123456⟩), .enter 0, .send 0 true, .timeout 0]
    (broker.calls 0).map Call.progress = some (.expired 0) ∧ broker.pending = [(0, 0)] ∧
      (broker.respond 0 true).1.pending = [] ∧ (broker.respond 0 true).2 = false := by
  decide

end PairingBroker

end DeskUnlock.Pairing
