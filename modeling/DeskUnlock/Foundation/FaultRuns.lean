import DeskUnlock.Foundation.FileLogic

/-!
# Runs with faults

A whole run of a file program under outcomes that are given in advance: one
for each call that can fail, in the order of the calls.  When the list is
used up, the remaining calls are performed.
-/

namespace FilePrograms

variable {Path Error Value Result : Type} [DecidableEq Path]

namespace Prog

/-- The disk, the outcomes that were not used, and the value. -/
def runUnder (disk : Disk Path) (outcomes : List Outcome) :
    Prog Path Value → Disk Path × List Outcome × Value
  | .done value => (disk, outcomes, value)
  | .read path next =>
    runUnder disk outcomes.tail (next (readReply disk path (outcomes.headD .performed)))
  | .probe path next => runUnder disk outcomes (next (probeReply disk path))
  | .metadata path next =>
    runUnder disk outcomes.tail (next (metadataReply disk path (outcomes.headD .performed)))
  | .act action next =>
    let (after, reply) := action.perform disk (outcomes.headD .performed)
    runUnder after outcomes.tail (next reply)

theorem runUnder_bind (prog : Prog Path Value) (rest : Value → Prog Path Result)
    (disk : Disk Path) (outcomes : List Outcome) :
    runUnder disk outcomes (prog.bind rest) =
      runUnder (prog.runUnder disk outcomes).1
        (prog.runUnder disk outcomes).2.1 (rest (prog.runUnder disk outcomes).2.2) := by
  induction prog generalizing disk outcomes with
  | done value => rfl
  | read path next induction
  | probe path next induction
  | metadata path next induction
  | act action next induction => exact induction _ _ _

theorem Holds.runUnder {always : Disk Path → Prop} {ends : Disk Path → Value → Prop}
    {prog : Prog Path Value} {disk : Disk Path}
    (holds : Holds (fun _ => True) always ends prog disk) (outcomes : List Outcome) :
    always (prog.runUnder disk outcomes).1 ∧
      ends (prog.runUnder disk outcomes).1 (prog.runUnder disk outcomes).2.2 := by
  induction prog generalizing disk outcomes with
  | done value => exact holds
  | read path next induction => exact induction _ (holds.2 _ trivial) _
  | probe path next induction => exact induction _ holds.2 _
  | metadata path next induction => exact induction _ (holds.2 _ trivial) _
  | act action next induction => exact induction _ (holds.2.2 _ trivial) _

end Prog

def Performed (count : ℕ) (outcomes : List Outcome) : Prop :=
  ∀ out ∈ outcomes.take count, out = .performed

theorem performed_succ_iff {count : ℕ} {outcomes : List Outcome} : Performed (count + 1) outcomes ↔
    outcomes.headD .performed = .performed ∧ Performed count outcomes.tail := by
  cases outcomes with
  | nil | cons out rest => simp [Performed]

omit [DecidableEq Path] in
theorem performed_of_readReply {disk : Disk Path} {path : Path} {out : Outcome}
    {bytes : List UInt8} (reply : readReply disk path out = .ok bytes) : out = .performed := by
  cases out with
  | performed => rfl
  | refused | torn count => cases reply

theorem Action.perform_failed {disk : Disk Path} {action : Action Path}
    {out : Outcome} (whole : ∀ target bytes, action ≠ .write target bytes)
    (unapplied : out = .performed → action.apply disk = none) :
    (action.perform disk out).1 = disk := by
  cases out with
  | performed => simp [perform, unapplied rfl]
  | refused => rfl
  | torn count =>
    cases action with
    | write target bytes => exact (whole _ _ rfl).elim
    | _ => rfl

namespace Fallible

abbrev execUnder (disk : Disk Path) (outcomes : List Outcome)
    (prog : Fallible Path Error Value) : Disk Path × List Outcome × Except Error Value :=
  Prog.runUnder disk outcomes (ExceptT.run prog)

/-- What holds at the end of a run with these outcomes. -/
def Ends (disk : Disk Path) (outcomes : List Outcome)
    (ends : Disk Path → List Outcome → Except Error Value → Prop)
    (prog : Fallible Path Error Value) : Prop :=
  ends (execUnder disk outcomes prog).1
    (execUnder disk outcomes prog).2.1 (execUnder disk outcomes prog).2.2

variable {disk : Disk Path} {outcomes : List Outcome}

section Rules

variable {ends : Disk Path → List Outcome → Except Error Result → Prop}
  {prog : Fallible Path Error Result}

theorem Ends.imp {later : Disk Path → List Outcome → Except Error Result → Prop}
    (ended : Ends disk outcomes ends prog)
    (weaker : ∀ after left reply, ends after left reply → later after left reply) :
    Ends disk outcomes later prog :=
  weaker _ _ _ ended

theorem Ends.and {other : Disk Path → List Outcome → Except Error Result → Prop}
    (first : Ends disk outcomes ends prog) (second : Ends disk outcomes other prog) :
    Ends disk outcomes
      (fun after left reply => ends after left reply ∧ other after left reply) prog :=
  ⟨first, second⟩

theorem Ends.of_holds {always : Disk Path → Prop} {ends : Disk Path → Except Error Result → Prop}
    (holds : Holds (fun _ => True) always ends prog disk) :
    Ends disk outcomes (fun after _ reply => always after ∧ ends after reply) prog :=
  Prog.Holds.runUnder holds _

/-- The rule of composition: an error skips the rest. -/
theorem ends_bind {first : Fallible Path Error Value} {rest : Value → Fallible Path Error Result}
    (ended :
      Ends disk outcomes
        (fun after left reply =>
          match reply with
          | .ok value => Ends after left ends (rest value)
          | .error error => ends after left (.error error))
        first) :
    Ends disk outcomes ends (first >>= rest) := by
  have parts : execUnder disk outcomes (first >>= rest) =
        Prog.runUnder (execUnder disk outcomes first).1 (execUnder disk outcomes first).2.1
          (ExceptT.bindCont rest (execUnder disk outcomes first).2.2) :=
    Prog.runUnder_bind _ _ _ _
  unfold Ends at ended ⊢
  rw [parts]
  generalize execUnder disk outcomes first = res at ended ⊢
  obtain ⟨after, left, error | value⟩ := res
  · exact ended
  · exact ended

theorem ends_pathExists {path : Path} {rest : Bool → Fallible Path Error Result}
    (next : Ends disk outcomes ends (rest (probeReply disk path))) :
    Ends disk outcomes ends (pathExists path >>= rest) :=
  next

theorem ends_readFile {path : Path}
    {rest : Except IoError (List UInt8) → Fallible Path Error Result}
    (next : Ends disk outcomes.tail ends (rest (readReply disk path (outcomes.headD .performed)))) :
    Ends disk outcomes ends (readFile path >>= rest) :=
  next

/-- A call that must succeed either does, or ends the program. -/
theorem ends_last_call {action : Action Path} {convert : IoError → Error}
    {ends : Disk Path → List Outcome → Except Error Unit → Prop}
    (failed :
      ∀ error,
        (outcomes.headD .performed = .performed → action.apply disk = none) →
        ends (action.perform disk (outcomes.headD .performed)).1 outcomes.tail (.error error))
    (performed :
      ∀ after, outcomes.headD .performed = .performed →
        action.apply disk = some after → ends after outcomes.tail (.ok ())) :
    Ends disk outcomes ends (call action convert) := by
  change ends (action.perform disk (outcomes.headD .performed)).1 outcomes.tail
      ((action.perform disk (outcomes.headD .performed)).2.mapError convert)
  generalize outcomes.headD .performed = out at failed performed ⊢
  cases out with
  | performed =>
    cases applied : action.apply disk with
    | some after =>
      simp only [Action.perform, applied]
      exact performed _ rfl applied
    | none =>
      have ended (error : IoError) := failed (convert error) fun _ => applied
      simp only [Action.perform, applied] at ended ⊢
      exact ended _
  | refused => exact failed _ (by simp)
  | torn count =>
    have ended := failed (convert .failed) (by simp)
    cases action <;> exact ended

theorem ends_call {action : Action Path} {convert : IoError → Error}
    {rest : Unit → Fallible Path Error Result}
    (failed :
      ∀ error,
        (outcomes.headD .performed = .performed → action.apply disk = none) →
        ends (action.perform disk (outcomes.headD .performed)).1 outcomes.tail (.error error))
    (performed :
      ∀ after, outcomes.headD .performed = .performed →
        action.apply disk = some after → Ends after outcomes.tail ends (rest ())) :
    Ends disk outcomes ends (call action convert >>= rest) :=
  ends_bind (ends_last_call failed performed)

end Rules

end Fallible

end FilePrograms
