import Mathlib.Tactic.Common
import DeskUnlock.Foundation.Dialogue
import DeskUnlock.Foundation.Runs

/-!
# Tasks that share locks

A task is a program that acquires and releases locks and, in between, performs
what the environment answers.  A task may wait for a lock in such a way that
it gives up, and a task may be dropped; then its locks are released.

Which locks a task holds can be read from its past alone.  A program is
balanced if it ends with the locks it began with; what a balanced program may
do under the locks it holds is proved from its parts, before any other task is
considered.
-/

namespace LockedTasks

open Dialogues Dialogue Runs List

inductive Action (Lock Query : Type) where
  | acquire (lock : Lock)
  /-- Wait for the lock, or give up. -/
  | tryAcquire (lock : Lock)
  | release (lock : Lock)
  | perform (query : Query)

abbrev Reply {Lock Query : Type} (Answer : Query → Type) :
    Action Lock Query → Type
  | .acquire _ => Unit
  | .tryAcquire _ => Bool
  | .release _ => Unit
  | .perform query => Answer query

def Action.wants {Lock Query : Type} : Action Lock Query → Option Lock
  | .acquire lock => some lock
  | .tryAcquire lock => some lock
  | .release _ => none
  | .perform _ => none

abbrev LockProgram (Lock : Type) {Query : Type} (Answer : Query → Type) :=
  Dialogue (Action Lock Query) (Reply Answer)

abbrev LockTurn (Lock : Type) {Query : Type} (Answer : Query → Type) :=
  Turn (Action Lock Query) (Reply Answer)

section Programs

variable {Lock Query : Type} {Answer : Query → Type} {Result Other Failure : Type}

def acquire (lock : Lock) : LockProgram Lock Answer Unit := .ask (.acquire lock) .done

def tryAcquire (lock : Lock) : LockProgram Lock Answer Bool := .ask (.tryAcquire lock) .done

def release (lock : Lock) : LockProgram Lock Answer Unit := .ask (.release lock) .done

def effect (query : Query) : LockProgram Lock Answer (Answer query) := .ask (.perform query) .done

/-- The guard of the lock lives as long as the body runs. -/
def holding (lock : Lock) (body : LockProgram Lock Answer Result) :
    LockProgram Lock Answer Result := do
  acquire lock
  let res ← body
  release lock
  return res

section

variable (oracle : (action : Action Lock Query) → Reply Answer action)

@[simp]
theorem resolve_effect {query : Query} :
    (effect query : LockProgram Lock Answer _).resolve oracle = oracle (.perform query) :=
  rfl

/-- Where nobody else holds the lock, the guard makes no difference. -/
@[simp]
theorem resolve_holding {lock : Lock} {body : LockProgram Lock Answer Result} :
    (holding lock body).resolve oracle = body.resolve oracle := by
  simp [holding]

end

/-- As `holding`; a caller that may give up waiting fails then. -/
def guarded (givenUp : Option Failure) (lock : Lock)
    (body : LockProgram Lock Answer (Except Failure Result)) :
    LockProgram Lock Answer (Except Failure Result) :=
  match givenUp with
  | none => holding lock body
  | some failure => do
      if ← tryAcquire lock then
        let res ← body
        release lock
        return res
      else
        return .error failure

/-- The lock that a turn has granted. -/
def granted : LockTurn Lock Answer → Option Lock
  | ⟨.acquire lock, _⟩ => some lock
  | ⟨.tryAcquire lock, given⟩ => if given then some lock else none
  | ⟨.release _, _⟩ => none
  | ⟨.perform _, _⟩ => none

variable [DecidableEq Lock]

def settle (locks : List Lock) : LockTurn Lock Answer → List Lock
  | ⟨.acquire lock, _⟩ => lock :: locks
  | ⟨.tryAcquire lock, given⟩ => if given then lock :: locks else locks
  | ⟨.release lock, _⟩ => locks.erase lock
  | ⟨.perform _, _⟩ => locks

def held (past : List (LockTurn Lock Answer)) : List Lock := past.foldl settle []

@[simp]
theorem held_snoc {past : List (LockTurn Lock Answer)} {turn : LockTurn Lock Answer} :
    held (past ++ [turn]) = settle (held past) turn := by
  simp [held]

theorem mem_settle {locks : List Lock} {turn : LockTurn Lock Answer}
    {lock : Lock} (holds : lock ∈ settle locks turn) : lock ∈ locks ∨ granted turn = some lock := by
  obtain ⟨action, reply⟩ := turn
  cases action with
  | acquire other =>
    rcases mem_cons.mp holds with rfl | holds
    · exact .inr rfl
    · exact .inl holds
  | tryAcquire other =>
    cases reply with
    | true =>
      rcases mem_cons.mp holds with rfl | holds
      · exact .inr rfl
      · exact .inl holds
    | false => exact .inl holds
  | release other => exact .inl (mem_of_mem_erase holds)
  | perform query => exact .inl holds

variable {guard : List Lock → Action Lock Query → Prop} {locks : List Lock}

/--
From these locks, every action is allowed under the locks held at that moment,
and in the end the locks are the same.
-/
def Balanced (guard : List Lock → Action Lock Query → Prop)
    (locks : List Lock) (prog : LockProgram Lock Answer Result) : Prop :=
  ∀ past, held past = locks →
    Keeps (fun past action => guard (held past) action) (fun past _ => held past = locks) past prog

theorem balanced_pure (res : Result) :
    Balanced guard locks (pure res : LockProgram Lock Answer Result) :=
  fun _ same => same

theorem Balanced.bind {prog : LockProgram Lock Answer Result}
    {rest : Result → LockProgram Lock Answer Other} (first : Balanced guard locks prog)
    (second : ∀ res, Balanced guard locks (rest res)) : Balanced guard locks (prog >>= rest) := by
  intro past same
  exact (first _ same).bind fun past res same => second _ _ same

theorem balanced_effect {query : Query} (allowed : guard locks (.perform query)) :
    Balanced guard locks (effect query : LockProgram Lock Answer (Answer query)) := by
  rintro past rfl
  refine ⟨allowed, fun answer => ?_⟩
  rw [Keeps, held_snoc]
  rfl

/-- A program whose guard over one lock is dropped at its end. -/
theorem Balanced.released {lock : Lock} {body : LockProgram Lock Answer Result}
    (inner : Balanced guard (lock :: locks) body) (released : guard (lock :: locks) (.release lock))
    {past : List (LockTurn Lock Answer)} (holds : held past = lock :: locks) :
    Keeps (fun past action => guard (held past) action)
      (fun past _ => held past = locks) past
      (do
        let res ← body
        release lock
        return res) := by
  apply (inner _ holds).bind
  intro past res holds
  refine ⟨?_, fun _ => ?_⟩
  · dsimp only
    rw [holds]
    exact released
  · show held (past ++ _) = locks
    rw [held_snoc, holds]
    exact erase_cons_head _ _

theorem balanced_holding {lock : Lock} {body : LockProgram Lock Answer Result}
    (acquired : guard locks (.acquire lock)) (released : guard (lock :: locks) (.release lock))
    (inner : Balanced guard (lock :: locks) body) : Balanced guard locks (holding lock body) := by
  rintro past rfl
  refine ⟨acquired, fun _ => ?_⟩
  exact inner.released released held_snoc

theorem balanced_guarded {givenUp : Option Failure} {lock : Lock}
    {body : LockProgram Lock Answer (Except Failure Result)}
    (acquired : guard locks (.acquire lock)) (awaited : guard locks (.tryAcquire lock))
    (released : guard (lock :: locks) (.release lock))
    (inner : Balanced guard (lock :: locks) body) :
    Balanced guard locks (guarded givenUp lock body) := by
  cases givenUp with
  | none => exact balanced_holding acquired released inner
  | some failure =>
    rintro past rfl
    refine ⟨awaited, fun granted => ?_⟩
    cases granted with
    | true => exact inner.released released held_snoc
    | false => exact held_snoc

theorem balanced_foldlM {Item State : Type} {round : State → Item → LockProgram Lock Answer State}
    (rounds : ∀ state item, Balanced guard locks (round state item))
    (items : List Item) (state : State) : Balanced guard locks (items.foldlM round state) := by
  induction items generalizing state with
  | nil => exact balanced_pure _
  | cons item rest induction => exact (rounds _ _).bind induction

end Programs

/-- A spawned job, with what is left of it and its past. -/
structure Task (Job Lock : Type) {Query : Type} (Answer : Query → Type) (Result : Type) where
  job : Job
  program : LockProgram Lock Answer Result
  past : List (LockTurn Lock Answer)
  /-- It was not dropped. -/
  running : Bool

section Tasks

variable {Job Lock Query : Type} {Answer : Query → Type} {Result : Type} [DecidableEq Lock]

namespace Task

def holds (task : Task Job Lock Answer Result) (lock : Lock) : Bool :=
  task.running && lock ∈ held task.past

def wants (task : Task Job Lock Answer Result) : Option Lock :=
  if task.running then task.program.question?.bind Action.wants else none

/-- The next step of a task waits for a lock that the other holds. -/
def blockedBy (task other : Task Job Lock Answer Result) : Bool := task.wants.any other.holds

end Task

variable (start : Job → LockProgram Lock Answer Result)

inductive Event (Job Lock : Type) {Query : Type} (Answer : Query → Type) where
  | spawned (job : Job)
  /-- The next action of a task is answered; a refused one is not. -/
  | answered (i : Nat) (choice : (action : Action Lock Query) → Reply Answer action)
  | dropped (i : Nat)

section

variable (tasks : List (Task Job Lock Answer Result))

def free (lock : Lock) : Bool := tasks.all fun task => !task.holds lock

/-- A lock is granted only while it is free. -/
def permits (turn : LockTurn Lock Answer) : Bool := (granted turn).all (free tasks)

def Task.turn (choice : (action : Action Lock Query) → Reply Answer action)
    (task : Task Job Lock Answer Result) : Task Job Lock Answer Result :=
  match task.program with
  | .done _ => task
  | .ask action next =>
    if task.running && permits tasks ⟨action, choice action⟩ then
      { task with program := next (choice action), past := task.past ++ [⟨action, choice action⟩] }
    else task

end

/-- One action of one task, a new task, or a dropped one. -/
def step (tasks : List (Task Job Lock Answer Result)) :
    Event Job Lock Answer → List (Task Job Lock Answer Result)
  | .spawned job => tasks ++ [⟨job, start job, [], true⟩]
  | .answered i choice => tasks.modify i (Task.turn tasks choice)
  | .dropped i => tasks.modify i fun task => { task with running := false }

/-- What is left of a task is a rest of the program of its job. -/
def Genuine (task : Task Job Lock Answer Result) : Prop :=
  Reached (start task.job) task.past task.program

variable {task : Task Job Lock Answer Result}

theorem Genuine.turn (genuine : Genuine start task) (tasks : List (Task Job Lock Answer Result))
    (choice : (action : Action Lock Query) → Reply Answer action) :
    Genuine start (task.turn tasks choice) := by
  unfold Task.turn
  split
  · exact genuine
  · next action next_ found =>
      split
      · unfold Genuine at genuine
        rw [found] at genuine
        exact genuine.turn (choice _)
      · exact genuine

theorem genuine_step {tasks : List (Task Job Lock Answer Result)}
    (genuine : ∀ task ∈ tasks, Genuine start task) (ev : Event Job Lock Answer) :
    ∀ task ∈ step start tasks ev, Genuine start task := by
  intro task mem
  cases ev with
  | spawned job =>
    rcases mem_append.mp mem with old | new
    · exact genuine _ old
    · rw [mem_singleton.mp new]
      exact .start
  | answered i choice =>
    obtain old | ⟨before, old, rfl⟩ := exists_mem_of_mem_modify mem
    · exact genuine _ old
    · exact (genuine _ old).turn _ _ _
  | dropped i =>
    obtain old | ⟨before, old, rfl⟩ := exists_mem_of_mem_modify mem
    · exact genuine _ old
    · exact genuine before old

/-- No lock is held by two tasks. -/
def Exclusive (tasks : List (Task Job Lock Answer Result)) : Prop :=
  ∀ (first second : Nat) (task other : Task Job Lock Answer Result),
    tasks[first]? = some task → tasks[second]? = some other →
      ∀ lock, task.holds lock = true → other.holds lock = true → first = second

variable {tasks : List (Task Job Lock Answer Result)}

theorem not_holds_of_free {lock : Lock} (unheld : free tasks lock = true)
    {i : Nat} (found : tasks[i]? = some task) : task.holds lock = false := by
  have none_holds := all_eq_true.mp unheld _ (mem_of_getElem? found)
  simpa using none_holds

/-- A change of one task that adds no lock but free ones. -/
theorem Exclusive.modify (exclusive : Exclusive tasks)
    {change : Task Job Lock Answer Result → Task Job Lock Answer Result}
    (added : ∀ task lock, (change task).holds lock = true →
      task.holds lock = true ∨ free tasks lock = true)
    (i : Nat) : Exclusive (tasks.modify i change) := by
  -- Of a task after the change: it held the lock before, or it is the task
  -- that has changed, and the lock was free.
  have origin : ∀ (pos : Nat) (task : Task Job Lock Answer Result), (tasks.modify i change)[pos]? =
      some task → ∀ lock, task.holds lock = true → ∃ before, tasks[pos]? =
      some before ∧ (before.holds lock = true ∨ (i = pos ∧ free tasks lock = true)) := by
    intro pos task found lock holds
    rw [getElem?_modify] at found
    obtain ⟨before, old, rfl⟩ := Option.map_eq_some_iff.mp found
    refine ⟨before, old, ?_⟩
    split at holds
    · next moved =>
        obtain kept | unheld := added _ _ holds
        · exact .inl kept
        · exact .inr ⟨moved, unheld⟩
    · exact .inl holds
  intro first second task other foundTask foundOther lock holds alsoHolds
  obtain ⟨taskBefore, taskOld, heldFirst | ⟨moved, unheld⟩⟩ := origin _ _ foundTask _ holds
  · obtain ⟨otherBefore, otherOld, heldSecond | ⟨_, unheld⟩⟩ :=
      origin _ _ foundOther _ alsoHolds
    · exact exclusive _ _ _ _ taskOld otherOld _ heldFirst heldSecond
    · rw [not_holds_of_free unheld taskOld] at heldFirst
      cases heldFirst
  · obtain ⟨otherBefore, otherOld, heldSecond | ⟨alsoMoved, _⟩⟩ :=
      origin _ _ foundOther _ alsoHolds
    · rw [not_holds_of_free unheld otherOld] at heldSecond
      cases heldSecond
    · exact moved.symm.trans alsoMoved

theorem Task.holds_turn {choice : (action : Action Lock Query) → Reply Answer action}
    {lock : Lock} (holds : (task.turn tasks choice).holds lock = true) :
    task.holds lock = true ∨ free tasks lock = true := by
  unfold Task.turn at holds
  split at holds
  · exact .inl holds
  · next action next_ found =>
      split at holds
      · next permitted =>
          obtain ⟨running, permitted⟩ := Bool.and_eq_true_iff.mp permitted
          simp only [Task.holds, running, held_snoc, Bool.true_and, decide_eq_true_eq] at holds ⊢
          refine (mem_settle holds).imp_right fun given => ?_
          simpa [permits, given] using permitted
      · exact .inl holds

theorem Exclusive.step (exclusive : Exclusive tasks) (ev : Event Job Lock Answer) :
    Exclusive (step start tasks ev) := by
  cases ev with
  | spawned job =>
    -- The new task holds nothing.
    have old : ∀ (pos : Nat) (task : Task Job Lock Answer Result),
        (tasks ++ [⟨job, start job, [], true⟩])[pos]? = some task →
        ∀ lock, task.holds lock = true → tasks[pos]? = some task := by
      intro pos task found lock holds
      rw [getElem?_append] at found
      split at found
      · exact found
      · obtain ⟨bound, same⟩ := List.getElem?_eq_some_iff.mp found
        rw [getElem_singleton] at same
        rw [← same] at holds
        cases holds
    intro first second task other foundTask foundOther lock holds again
    exact exclusive _ _ _ _ (old _ _ foundTask _ holds) (old _ _ foundOther _ again) _ holds again
  | answered i choice => exact exclusive.modify (fun _ _ => Task.holds_turn) i
  | dropped i =>
    apply exclusive.modify
    intro task lock holds
    cases holds

/-- In every run, a task is genuine and its locks are its own. -/
theorem run_sound (events : List (Event Job Lock Answer)) :
    (∀ task ∈ run (step start) [] events, Genuine start task) ∧
      Exclusive (run (step start) [] events) := by
  apply @run_invariant _ _ (step _) fun tasks =>
    (∀ task ∈ tasks, Genuine start task) ∧ Exclusive tasks
  · rintro tasks ev ⟨genuine, exclusive⟩
    exact ⟨genuine_step _ genuine _, exclusive.step _ _⟩
  · exact ⟨nofun, fun first second task other found => nomatch found⟩

end Tasks

end LockedTasks
