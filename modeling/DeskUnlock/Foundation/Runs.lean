import Mathlib.Data.List.Basic

/-!
# Runs of a total state machine

A machine is a total step function.  An event that is not enabled in a state
leaves that state unchanged, so every list of events is a run and the runs of
a machine are exactly the interleavings of its events.

The rules below are the only inductions over runs used by the development:
an invariant of one step is an invariant of every run, and a property which
holds of every step taken along a run gives a property of every state the run
visits.
-/

namespace Runs

open List

universe u v

variable {State : Type u} {Event : Type v}

/-- The state reached from `start` after all `events`. -/
def run (step : State → Event → State) (start : State) (events : List Event) : State :=
  events.foldl step start

/-- Every step taken along the run meets `condition` in the state before it. -/
def Along (step : State → Event → State) (condition : State → Event → Prop) :
    State → List Event → Prop
  | _, [] => True
  | state, ev :: rest => condition state ev ∧ Along step condition (step state ev) rest

/-- `property` holds of every state the run visits, both ends included. -/
def Throughout (step : State → Event → State) (property : State → Prop) :
    State → List Event → Prop
  | state, [] => property state
  | state, ev :: rest => property state ∧ Throughout step property (step state ev) rest

variable {step : State → Event → State}

instance decidableAlong {condition : State → Event → Prop}
    [∀ state ev, Decidable (condition state ev)] :
    (start : State) → (events : List Event) → Decidable (Along step condition start events)
  | _, [] => .isTrue trivial
  | start, ev :: rest => @instDecidableAnd _ _ inferInstance (decidableAlong (step start ev) rest)

@[simp]
theorem run_nil (start : State) : run step start [] = start := rfl

@[simp]
theorem run_cons {start : State} {ev : Event} {rest : List Event} :
    run step start (ev :: rest) = run step (step start ev) rest :=
  rfl

theorem run_append {start : State} {first second : List Event} :
    run step start (first ++ second) = run step (run step start first) second :=
  foldl_append

variable {start : State}

theorem along_append {condition : State → Event → Prop} {first second : List Event} :
    Along step condition start (first ++ second) ↔
      Along step condition start first ∧ Along step condition (run step start first) second := by
  induction first generalizing start with
  | nil => exact ⟨fun along => ⟨trivial, along⟩, fun both => both.2⟩
  | cons ev rest induction => exact (and_congr_right fun _ => induction).trans and_assoc.symm

/-- An invariant of one step is an invariant of every run. -/
theorem run_invariant {invariant : State → Prop}
    (preserved : ∀ state ev, invariant state → invariant (step state ev)) {start : State}
    (initial : invariant start) (events : List Event) : invariant (run step start events) := by
  induction events generalizing start with
  | nil => exact initial
  | cons ev rest induction => exact induction (preserved _ _ initial)

variable {events : List Event}

/-- An invariant that the events of a run preserve holds where it ends. -/
theorem run_invariant_of_mem {invariant : State → Prop}
    (preserved : ∀ ev ∈ events, ∀ state, invariant state → invariant (step state ev))
    (initial : invariant start) : invariant (run step start events) := by
  induction events generalizing start with
  | nil => exact initial
  | cons ev rest induction =>
    apply induction
    · intro other mem
      exact preserved _ (mem_cons_of_mem _ mem)
    · exact preserved _ mem_cons_self _ initial

/--
A view of the state that only the events of one key change is changed at most
once by events with distinct keys.
-/
theorem run_view {Key View : Type} {key : Event → Key} {target : Key} {view : State → View}
    (frame : ∀ state ev, key ev ≠ target → view (step state ev) = view state)
    (distinct : (events.map key).Nodup) : (∀ ev ∈ events, key ev ≠ target) ∧
    view (run step start events) = view start ∨ ∃ ev ∈ events, key ev = target ∧
    ∃ state, view state = view start ∧ view (run step start events) = view (step state ev) := by
  induction events generalizing start with
  | nil => exact .inl ⟨nofun, rfl⟩
  | cons ev rest induction =>
    obtain ⟨fresh, distinct⟩ := nodup_cons.mp distinct
    obtain ⟨others, kept⟩ | ⟨later, mem, same, state, seen, changed⟩ :=
      @induction (step _ _) distinct
    · by_cases own : key ev = target
      · exact .inr ⟨ev, mem_cons_self, own, start, rfl, kept⟩
      · exact .inl ⟨forall_mem_cons.mpr ⟨own, others⟩, kept.trans (frame _ _ own)⟩
    · have other : key ev ≠ target := fun own =>
        fresh (own.trans same.symm ▸ mem_map_of_mem mem)
      exact .inr ⟨later, mem_cons_of_mem _ mem, same, state, seen.trans (frame _ _ other), changed⟩

/--
An invariant preserved by the steps that meet a condition holds throughout
every run whose steps all meet that condition.
-/
theorem throughout_of_along {condition : State → Event → Prop} {invariant : State → Prop}
    (preserved : ∀ state ev, condition state ev → invariant state → invariant (step state ev))
    {start : State} (initial : invariant start) {events : List Event}
    (along : Along step condition start events) : Throughout step invariant start events := by
  induction events generalizing start with
  | nil => exact initial
  | cons ev rest induction =>
    obtain ⟨met, restAlong⟩ := along
    exact ⟨initial, induction (preserved _ _ met initial) restAlong⟩

/-- Under such an invariant each of these steps may promise more. -/
theorem along_of_along {condition promise : State → Event → Prop} {invariant : State → Prop}
    (preserved : ∀ state ev, condition state ev → invariant state → invariant (step state ev))
    (promised : ∀ state ev, condition state ev → invariant state → promise state ev)
    (initial : invariant start) (along : Along step condition start events) :
    Along step promise start events := by
  induction events generalizing start with
  | nil => exact trivial
  | cons ev rest induction =>
    obtain ⟨met, restAlong⟩ := along
    exact ⟨promised _ _ met initial, induction (preserved _ _ met initial) restAlong⟩

/--
If, from the states of an invariant, one step keeps a property exactly under a
condition, then the property holds throughout a run exactly when all steps of
the run meet the condition.
-/
theorem throughout_iff_along {condition : State → Event → Prop}
    {invariant property : State → Prop}
    (preserved : ∀ state ev, invariant state → invariant (step state ev))
    (precise :
      ∀ state ev, invariant state → property state →
        (property (step state ev) ↔ condition state ev))
    {start : State} (initial : invariant start) (holds : property start) (events : List Event) :
    Throughout step property start events ↔ Along step condition start events := by
  induction events generalizing start with
  | nil => exact ⟨fun _ => trivial, fun _ => holds⟩
  | cons ev rest induction =>
    have next := preserved _ ev initial
    constructor
    · rintro ⟨-, kept⟩
      have after : property (step start ev) := by
        cases rest with
        | nil => exact kept
        | cons _ _ => exact kept.1
      exact ⟨(precise _ _ initial holds).mp after, (induction next after).mp kept⟩
    · rintro ⟨met, along⟩
      have after := (precise _ _ initial holds).mpr met
      exact ⟨holds, (induction next after).mpr along⟩

/--
If a lost property is never regained, it holds where a run ends exactly when
all steps of the run meet the condition.
-/
theorem last_iff_along {condition : State → Event → Prop} {invariant property : State → Prop}
    (preserved : ∀ state ev, invariant state → invariant (step state ev))
    (precise :
      ∀ state ev, invariant state → property state →
        (property (step state ev) ↔ condition state ev))
    (lost : ∀ state ev, invariant state → ¬ property state → ¬ property (step state ev))
    {start : State} (initial : invariant start) (holds : property start) (events : List Event) :
    property (run step start events) ↔ Along step condition start events := by
  induction events generalizing start with
  | nil => exact ⟨fun _ => trivial, fun _ => holds⟩
  | cons ev rest induction =>
    have next := preserved _ ev initial
    by_cases after : property (step start ev)
    · have met := (precise _ _ initial holds).mp after
      exact (induction next after).trans ⟨fun along => ⟨met, along⟩, fun along => along.2⟩
    · have gone : invariant (run step (step start ev) rest) ∧
          ¬ property (run step (step start ev) rest) :=
        @run_invariant _ _ _
          (fun state => invariant state ∧ ¬ property state)
          (fun state ev both => ⟨preserved _ _ both.1, lost _ _ both.1 both.2⟩) _ ⟨next, after⟩ _
      constructor
      · intro kept
        exact (gone.2 kept).elim
      · rintro ⟨met, -⟩
        exact (after ((precise _ _ initial holds).mpr met)).elim

theorem Throughout.imp {weak strong : State → Prop} (implies : ∀ state, strong state → weak state)
    (holds : Throughout step strong start events) : Throughout step weak start events := by
  induction events generalizing start with
  | nil => exact implies _ holds
  | cons ev rest induction => exact ⟨implies _ holds.1, induction holds.2⟩

/-- What is known of all events of a run is known at each of its steps. -/
theorem Along.and_mem {condition : State → Event → Prop} {fact : Event → Prop}
    (along : Along step condition start events) (known : ∀ ev ∈ events, fact ev) :
    Along step (fun state ev => fact ev ∧ condition state ev) start events := by
  induction events generalizing start with
  | nil => exact trivial
  | cons ev rest induction =>
    obtain ⟨met, along⟩ := along
    have later : ∀ ev ∈ rest, fact ev := fun ev mem => known _ (mem_cons_of_mem _ mem)
    exact ⟨⟨known _ mem_cons_self, met⟩, induction along later⟩

theorem Throughout.last {property : State → Prop} (holds : Throughout step property start events) :
    property (run step start events) := by
  induction events generalizing start with
  | nil => exact holds
  | cons ev rest induction => exact induction holds.2

/-- Two copies of a machine, each with an event of its own. -/
def paired (step : State → Event → State)
    (states : State × State) (events : Event × Event) : State × State :=
  (step states.1 events.1, step states.2 events.2)

theorem exists_getElem?_of_mem_modify {Element : Type} {entries : List Element} {i : Nat}
    {change : Element → Element} {entry : Element} (mem : entry ∈ entries.modify i change) :
    entry ∈ entries ∨ ∃ old, entries[i]? = some old ∧ entry = change old := by
  obtain ⟨place, found⟩ := mem_iff_getElem?.mp mem
  rw [getElem?_modify] at found
  obtain ⟨old, standing, changed⟩ := Option.map_eq_some_iff.mp found
  split_ifs at changed with same
  · subst same
    exact .inr ⟨old, standing, changed.symm⟩
  · exact .inl (changed ▸ mem_of_getElem? standing)

theorem exists_mem_of_mem_modify {Element : Type} {entries : List Element} {i : Nat}
    {change : Element → Element} {entry : Element} (mem : entry ∈ entries.modify i change) :
    entry ∈ entries ∨ ∃ old ∈ entries, entry = change old := by
  refine (exists_getElem?_of_mem_modify mem).imp_right ?_
  rintro ⟨old, standing, changed⟩
  exact ⟨old, mem_of_getElem? standing, changed⟩

section Stages

universe w

variable {Entry : Type w}

/--
The history falls into consecutive parts, each of which has all entries of
its stage, in any order.
-/
def InOrder : List (List Entry) → List Entry → Prop
  | [], _ => True
  | stage :: rest, history =>
    ∃ before after,
      history = before ++ after ∧ (∀ entry ∈ stage, entry ∈ before) ∧ InOrder rest after

variable {stages : List (List Entry)} {current history : List Entry}

theorem InOrder.append {history : List Entry}
    (ordered : InOrder stages history) (more : List Entry) : InOrder stages (history ++ more) := by
  induction stages generalizing history with
  | nil => exact trivial
  | cons stage rest induction =>
    obtain ⟨before, after, rfl, complete, further⟩ := ordered
    exact ⟨before, after ++ more, append_assoc _ _ _, complete, induction further⟩

theorem InOrder.snoc {stages : List (List Entry)}
    {history : List Entry} (ordered : InOrder stages history) {stage next : List Entry}
    (complete : ∀ entry ∈ stage, entry ∈ next) : InOrder (stages ++ [stage]) (history ++ next) := by
  induction stages generalizing history with
  | nil =>
    refine ⟨history ++ next, [], (append_nil _).symm, ?_, trivial⟩
    exact fun entry mem => mem_append_right _ (complete _ mem)
  | cons first rest induction =>
    obtain ⟨before, after, rfl, finished, further⟩ := ordered
    exact ⟨before, after ++ next, append_assoc _ _ _, finished, induction further⟩

/-- The stages are done, and after them these entries of the next one. -/
def Passed (stages : List (List Entry)) (current history : List Entry) :
    Prop :=
  ∃ before after,
    history = before ++ after ∧ InOrder stages before ∧ ∀ entry ∈ current, entry ∈ after

theorem Passed.append (passed : Passed stages current history) {more next : List Entry}
    (known : ∀ entry ∈ next, entry ∈ current ∨ entry ∈ more) :
    Passed stages next (history ++ more) := by
  obtain ⟨before, after, rfl, ordered, present⟩ := passed
  refine ⟨before, after ++ more, append_assoc _ _ _, ordered, ?_⟩
  intro entry mem
  rcases known _ mem with old | new
  · exact mem_append_left _ (present _ old)
  · exact mem_append_right _ new

/-- A stage whose entries are all there is done. -/
theorem Passed.close {stage history : List Entry} (passed : Passed stages stage history) :
    Passed (stages ++ [stage]) [] history := by
  obtain ⟨before, after, rfl, ordered, present⟩ := passed
  exact ⟨before ++ after, [], (append_nil _).symm, ordered.snoc present, nofun⟩

theorem Passed.finish (passed : Passed stages current history) {more stage : List Entry}
    (known : ∀ entry ∈ stage, entry ∈ current ∨ entry ∈ more) :
    Passed (stages ++ [stage]) [] (history ++ more) :=
  (passed.append known).close

theorem Passed.inOrder (passed : Passed stages current history) : InOrder stages history := by
  obtain ⟨before, after, rfl, ordered, _⟩ := passed
  exact ordered.append _

end Stages

end Runs
