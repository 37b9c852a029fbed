import DeskUnlock.Foundation.FileProgram

/-!
# Reasoning about file programs

`Holds may always ends program disk` says that the program, started on the disk
and answered as `may` allows, passes only through disks that satisfy `always`,
also when it is cut off inside a plain write, and that it ends as `ends` says.
With `may` the one outcome `performed` this is the logic of crashes; with all
outcomes it is the logic of a program whose calls may fail at any time.
-/

namespace FilePrograms

open List Function Option Action

variable {Path Value Result Error : Type}

/-! ## Frames -/

theorem content_congr {disk after : Disk Path} {path : Path} (same : after path = disk path) :
    content after path = content disk path := by
  rw [content, same, content]

variable {bytes : List UInt8} {action : Action Path}

theorem exists_file_of_content {disk : Disk Path} {path : Path}
    (found : content disk path = some bytes) : ∃ mode, disk path = some (.file bytes mode) := by
  unfold content at found
  split at found
  · rename_i _ mode standing
    exact ⟨mode, by rw [standing, some.inj found]⟩
  · cases found

variable {out : Outcome}

section Frames

variable [DecidableEq Path] {disk after : Disk Path} {path : Path} {target : Path}

theorem overwrite_frame (written : overwrite disk target bytes = some after)
    (differs : path ≠ target) : after path = disk path := by
  unfold overwrite at written
  split at written
  · cases written
  · rw [← some.inj written, update_of_ne differs]
  · rw [← some.inj written, update_of_ne differs]

theorem Action.apply_frame (applied : action.apply disk = some after)
    (outside : path ∉ action.touches) : after path = disk path := by
  cases action with
  | createDirAll target =>
    simp only [touches, mem_singleton] at outside
    simp only [apply] at applied
    split at applied
    · rw [some.inj applied]
    · cases applied
    · rw [← some.inj applied, update_of_ne outside]
  | setPermissions target mode =>
    simp only [touches, mem_singleton] at outside
    obtain ⟨node, _, rfl⟩ := map_eq_some_iff.mp applied
    rw [update_of_ne outside]
  | write target bytes =>
    simp only [touches, mem_singleton] at outside
    exact overwrite_frame applied outside
  | rename source target =>
    simp only [touches, mem_cons, not_mem_nil, or_false, not_or] at outside
    simp only [apply] at applied
    split at applied
    · rw [← some.inj applied, update_of_ne outside.2, update_of_ne outside.1]
    · rw [← some.inj applied, update_of_ne outside.2, update_of_ne outside.1]
    · cases applied
  | remove target =>
    simp only [touches, mem_singleton] at outside
    simp only [apply] at applied
    split at applied
    · rw [← some.inj applied, update_of_ne outside]
    · cases applied
  | persist target bytes mode =>
    simp only [touches, mem_singleton] at outside
    simp only [apply] at applied
    split at applied
    · cases applied
    · rw [← some.inj applied, update_of_ne outside]

theorem Action.touches_of_altered (altered : path ∈ action.altered disk out) :
    path ∈ action.touches := by
  cases out with
  | performed =>
    simp only [Action.altered] at altered
    split at altered
    · exact altered
    · cases altered
  | refused => cases altered
  | torn count =>
    cases action with
    | write target bytes => exact altered
    | _ => cases altered

/-- A call changes nothing but what it has written. -/
theorem Action.perform_unaltered (outside : path ∉ action.altered disk out) :
    (action.perform disk out).1 path = disk path := by
  cases out with
  | performed =>
    cases applied : action.apply disk with
    | none => simp [perform, applied]
    | some after =>
      simp only [altered, applied] at outside
      simpa [perform, applied] using apply_frame applied outside
  | refused => rfl
  | torn count =>
    cases action with
    | write target bytes =>
      simp only [altered, mem_singleton] at outside
      simp only [perform]
      cases written : overwrite disk target (bytes.take count) with
      | none => rfl
      | some left => exact overwrite_frame written outside
    | _ => rfl

theorem Action.perform_frame {action : Action Path} (outside : path ∉ action.touches) :
    (action.perform disk out).1 path = disk path :=
  perform_unaltered fun altered => outside (touches_of_altered altered)

/-- Anything but a plain write is done whole or not at all. -/
theorem Action.perform_whole (disk : Disk Path) (action : Action Path)
    (whole : ∀ target bytes, action ≠ .write target bytes) : (action.perform disk out).1 =
    disk ∨ action.apply disk = some (action.perform disk out).1 := by
  cases out with
  | performed =>
    cases applied : action.apply disk with
    | none => exact .inl (by simp [perform, applied])
    | some after => exact .inr (by simp [perform, applied])
  | refused => exact .inl rfl
  | torn count =>
    cases action with
    | write target bytes => exact (whole _ _ rfl).elim
    | _ => exact .inl rfl

/-! What stands where after a call that applied. -/

theorem Action.apply_setPermissions {mode : ℕ}
    (applied : (Action.setPermissions target mode).apply disk = some after) : ∃ node,
    disk target = some node ∧ after = update disk target (some (node.withMode mode)) := by
  obtain ⟨node, standing, rfl⟩ := map_eq_some_iff.mp applied
  exact ⟨node, standing, rfl⟩

theorem Action.apply_write (applied : (Action.write target bytes).apply disk = some after) :
    ∃ mode, after = update disk target (some (.file bytes mode)) := by
  simp only [apply, overwrite] at applied
  split at applied
  · cases applied
  · exact ⟨_, (some.inj applied).symm⟩
  · exact ⟨_, (some.inj applied).symm⟩

theorem Action.apply_rename {source target : Path}
    (applied : (Action.rename source target).apply disk = some after) :
    ∃ bytes mode,
      disk source = some (.file bytes mode) ∧
        after = update (update disk source none) target (some (.file bytes mode)) := by
  simp only [apply] at applied
  split at applied
  · rename_i standing _
    exact ⟨_, _, standing, (some.inj applied).symm⟩
  · rename_i standing _
    exact ⟨_, _, standing, (some.inj applied).symm⟩
  · cases applied

theorem Action.apply_persist {mode : ℕ}
    (applied : (Action.persist target bytes mode).apply disk = some after) :
    after = update disk target (some (.file bytes mode)) := by
  simp only [apply] at applied
  split at applied
  · cases applied
  · exact (some.inj applied).symm

theorem Action.rename_onto_directory {source target : Path} {mode : ℕ}
    (directory : disk target = some (.directory mode)) :
    (Action.rename source target).apply disk = none := by
  simp only [apply, directory]
  rcases disk _ with _ | ⟨bytes, mode⟩ | mode <;> rfl

end Frames

def Faultless (out : Outcome) : Prop := out = .performed

namespace Prog

/-! ## The monad laws -/

theorem bind_done (prog : Prog Path Value) : prog.bind .done = prog := by
  induction prog with
  | done value => rfl
  | read path next induction => exact congrArg (read _) (funext induction)
  | probe path next induction => exact congrArg (probe _) (funext induction)
  | metadata path next induction => exact congrArg (metadata _) (funext induction)
  | act action next induction => exact congrArg (act _) (funext induction)

theorem bind_bind {Final : Type} (prog : Prog Path Value)
    (first : Value → Prog Path Result) (second : Result → Prog Path Final) :
    (prog.bind first).bind second = prog.bind fun value => (first value).bind second := by
  induction prog with
  | done value => rfl
  | read path next induction => exact congrArg (read _) (funext induction)
  | probe path next induction => exact congrArg (probe _) (funext induction)
  | metadata path next induction => exact congrArg (metadata _) (funext induction)
  | act action next induction => exact congrArg (act _) (funext induction)

instance : LawfulMonad (Prog Path) :=
  LawfulMonad.mk' (Prog Path) bind_done (fun _ _ => rfl) bind_bind

/-! ## The footprint -/

/-- Every file that the program reads and every call it makes is allowed. -/
def Within (reads : Path → Prop) (acts : Action Path → Prop) :
    Prog Path Value → Prop
  | .done _ => True
  | .read path next => reads path ∧ ∀ reply, Within reads acts (next reply)
  | .probe _ next => ∀ reply, Within reads acts (next reply)
  | .metadata _ next => ∀ reply, Within reads acts (next reply)
  | .act action next => acts action ∧ ∀ reply, Within reads acts (next reply)

def Touches (allowed : Path → Prop) : Prog Path Value → Prop
  | .done _ => True
  | .read _ next => ∀ reply, Touches allowed (next reply)
  | .probe _ next => ∀ reply, Touches allowed (next reply)
  | .metadata _ next => ∀ reply, Touches allowed (next reply)
  | .act action next =>
    (∀ path ∈ action.touches, allowed path) ∧ ∀ reply, Touches allowed (next reply)

section

variable {reads : Path → Prop} {acts : Action Path → Prop} {prog : Prog Path Value}

section

variable (within : Within reads acts prog)
include within

theorem Within.bind {rest : Value → Prog Path Result}
    (further : ∀ value, Within reads acts (rest value)) : Within reads acts (prog.bind rest) := by
  induction prog with
  | done value => exact further _
  | read path next induction => exact ⟨within.1, fun reply => induction reply (within.2 _)⟩
  | probe path next induction | metadata path next induction =>
    exact fun reply => induction reply (within _)
  | act action next induction => exact ⟨within.1, fun reply => induction reply (within.2 _)⟩

theorem Within.imp {more : Path → Prop} {further : Action Path → Prop}
    (wider : ∀ path, reads path → more path) (looser : ∀ action, acts action → further action) :
    Within more further prog := by
  induction prog with
  | done value => exact trivial
  | read path next induction => exact ⟨wider _ within.1, fun reply => induction reply (within.2 _)⟩
  | probe path next induction | metadata path next induction =>
    exact fun reply => induction reply (within _)
  | act action next induction =>
    exact ⟨looser _ within.1, fun reply => induction reply (within.2 _)⟩

theorem Within.touches {allowed : Path → Prop}
    (inside : ∀ action, acts action → ∀ path ∈ action.touches, allowed path) :
    Touches allowed prog := by
  induction prog with
  | done value => exact trivial
  | read path next induction => exact fun reply => induction reply (within.2 _)
  | probe path next induction | metadata path next induction =>
    exact fun reply => induction reply (within _)
  | act action next induction =>
    exact ⟨inside _ within.1, fun reply => induction reply (within.2 _)⟩

theorem Within.resume [DecidableEq Path] (disk : Disk Path) (out : Outcome) :
    Within reads acts (prog.resume disk out).2 := by
  cases prog with
  | done value => exact within
  | read path next => exact within.2 _
  | probe path next | metadata path next => exact within _
  | act action next => exact within.2 _

/-- What no allowed call touches stays as it is. -/
theorem Within.resume_frame [DecidableEq Path]
    {path : Path} (outside : ∀ action, acts action → path ∉ action.touches)
    (disk : Disk Path) (out : Outcome) : (prog.resume disk out).1 path = disk path := by
  cases prog with
  | act action next => exact perform_frame (outside _ within.1)
  | _ => rfl

end

end

/-! ## The judgement -/

variable [DecidableEq Path]

def Holds (may : Outcome → Prop) (always : Disk Path → Prop) (ends : Disk Path → Value → Prop) :
    Prog Path Value → Disk Path → Prop
  | .done value, disk => always disk ∧ ends disk value
  | .read path next, disk =>
    always disk ∧ ∀ out, may out → Holds may always ends (next (readReply disk path out)) disk
  | .probe path next, disk => always disk ∧ Holds may always ends (next (probeReply disk path)) disk
  | .metadata path next, disk =>
    always disk ∧ ∀ out, may out → Holds may always ends (next (metadataReply disk path out)) disk
  | .act action next, disk =>
    always disk ∧
      (∀ count, always (action.perform disk (.torn count)).1) ∧
        ∀ out, may out →
          Holds may always ends (next (action.perform disk out).2) (action.perform disk out).1

variable {may : Outcome → Prop} {always later : Disk Path → Prop}
  {ends after : Disk Path → Value → Prop} {prog : Prog Path Value}
  {disk : Disk Path}

theorem Holds.here (holds : Holds may always ends prog disk) : always disk := by
  cases prog <;> exact holds.1

theorem Holds.imp (holds : Holds may always ends prog disk)
    (weaker : ∀ disk, always disk → later disk)
    (further : ∀ disk value, always disk → ends disk value → after disk value) :
    Holds may later after prog disk := by
  induction prog generalizing disk with
  | done value => exact ⟨weaker _ holds.1, further _ _ holds.1 holds.2⟩
  | read path next induction =>
    exact ⟨weaker _ holds.1, fun out allowed => induction _ (holds.2 _ allowed)⟩
  | probe path next induction => exact ⟨weaker _ holds.1, induction _ holds.2⟩
  | metadata path next induction =>
    exact ⟨weaker _ holds.1, fun out allowed => induction _ (holds.2 _ allowed)⟩
  | act action next induction =>
    exact
      ⟨weaker _ holds.1, fun count => weaker _ (holds.2.1 _),
        fun out allowed => induction _ (holds.2.2 _ allowed)⟩

theorem holds_of_trivial (prog : Prog Path Value) (disk : Disk Path) (kept : ∀ disk, always disk)
    (ended : ∀ disk value, ends disk value) : Holds may always ends prog disk := by
  induction prog generalizing disk with
  | done value => exact ⟨kept _, ended _ _⟩
  | read path next induction => exact ⟨kept _, fun out _ => induction _ _⟩
  | probe path next induction => exact ⟨kept _, induction _ _⟩
  | metadata path next induction => exact ⟨kept _, fun out _ => induction _ _⟩
  | act action next induction => exact ⟨kept _, fun _ => kept _, fun out _ => induction _ _⟩

theorem Holds.bind {rest : Value → Prog Path Result} {final : Disk Path → Result → Prop}
    (holds :
      Holds may always (fun disk value => Holds may always final (rest value) disk) prog disk) :
    Holds may always final (prog.bind rest) disk := by
  induction prog generalizing disk with
  | done value => exact holds.2
  | read path next induction => exact ⟨holds.1, fun out allowed => induction _ (holds.2 _ allowed)⟩
  | probe path next induction => exact ⟨holds.1, induction _ holds.2⟩
  | metadata path next induction =>
    exact ⟨holds.1, fun out allowed => induction _ (holds.2 _ allowed)⟩
  | act action next induction =>
    exact ⟨holds.1, holds.2.1, fun out allowed => induction _ (holds.2.2 _ allowed)⟩

/-- Outside its footprint a program changes nothing. -/
theorem Touches.holds {allowed : Path → Prop} {before : Disk Path}
    (touches : Touches allowed prog) (same : ∀ path, ¬ allowed path → disk path = before path) :
    Holds may
      (fun left => ∀ path, ¬ allowed path → left path = before path)
      (fun _ _ => True) prog disk := by
  induction prog generalizing disk with
  | done value => exact ⟨same, trivial⟩
  | read path next induction => exact ⟨same, fun out _ => induction _ (touches _) same⟩
  | probe path next induction => exact ⟨same, induction _ (touches _) same⟩
  | metadata path next induction => exact ⟨same, fun out _ => induction _ (touches _) same⟩
  | act action next induction =>
    have kept (out : Outcome) :
        ∀ path, ¬ allowed path → (action.perform disk out).1 path = before path := by
      intro path outside
      rw [perform_frame fun inside => outside (touches.1 _ inside)]
      exact same _ outside
    exact ⟨same, fun count => kept (.torn _), fun out _ => induction _ (touches.2 _) (kept _)⟩

/-! ## What it says about executions -/

theorem run_bind (prog : Prog Path Value) (rest : Value → Prog Path Result) (disk : Disk Path) :
    Prog.run disk (prog.bind rest) = Prog.run (prog.run disk).1 (rest (prog.run disk).2) := by
  induction prog generalizing disk with
  | done value => rfl
  | read path next induction
  | probe path next induction
  | metadata path next induction => exact induction _ _
  | act action next induction => exact induction _ _

section

variable (holds : Holds may always ends prog disk)
include holds

theorem Holds.resume (allowed : may out) :
    Holds may always ends (prog.resume disk out).2 (prog.resume disk out).1 := by
  cases prog with
  | done value => exact holds
  | read path next => exact holds.2 _ allowed
  | probe path next => exact holds.2
  | metadata path next => exact holds.2 _ allowed
  | act action next => exact holds.2.2 _ allowed

/-- The judgement about an uninterrupted run without faults. -/
theorem Holds.run (performs : may .performed) :
    always (prog.run disk).1 ∧ ends (prog.run disk).1 (prog.run disk).2 := by
  induction prog generalizing disk with
  | done value => exact holds
  | read path next induction => exact induction _ (holds.2 _ performs)
  | probe path next induction => exact induction _ holds.2
  | metadata path next induction => exact induction _ (holds.2 _ performs)
  | act action next induction => exact induction _ (holds.2.2 _ performs)

/-- A crash leaves a disk that satisfies the invariant. -/
theorem Holds.crash (performs : may .performed) (point : CrashPoint) :
    always (prog.crash disk point) := by
  induction prog generalizing disk point with
  | done value => exact holds.1
  | read path next induction => exact induction _ (holds.2 _ performs) _
  | probe path next induction => exact induction _ holds.2 _
  | metadata path next induction => exact induction _ (holds.2 _ performs) _
  | act action next induction =>
    match point with
    | ⟨0, none⟩ => exact holds.1
    | ⟨0, some count⟩ => exact holds.2.1 _
    | ⟨calls + 1, cut⟩ => exact induction _ (holds.2.2 _ performs) ⟨calls, cut⟩

end

end Prog

/-! ## Fallible programs -/

namespace Fallible

abbrev Within (reads : Path → Prop) (acts : Action Path → Prop)
    (prog : Fallible Path Error Value) : Prop :=
  Prog.Within reads acts (ExceptT.run prog)

variable {first : Fallible Path Error Value} {convert : IoError → Error} {after : Disk Path}
  {rest : Value → Fallible Path Error Result}

section Footprint

variable {reads : Path → Prop} {acts : Action Path → Prop}

theorem within_bind (within : Within reads acts first)
    (further : ∀ value, Within reads acts (rest value)) : Within reads acts (first >>= rest) := by
  apply Prog.Within.bind within
  intro reply
  cases reply with
  | ok value => exact further _
  | error error => exact trivial

theorem within_call (allowed : acts action) : Within reads acts (call action convert) :=
  ⟨allowed, fun _ => trivial⟩

theorem within_call_bind {rest : Unit → Fallible Path Error Result} (allowed : acts action)
    (further : Within reads acts (rest ())) : Within reads acts (call action convert >>= rest) :=
  within_bind (within_call allowed) fun _ => further

theorem within_callIgnored (allowed : acts action) :
    Within reads acts (callIgnored action : Fallible Path Error Unit) :=
  ⟨allowed, fun _ => trivial⟩

end Footprint

variable [DecidableEq Path]

abbrev Holds (may : Outcome → Prop) (always : Disk Path → Prop)
    (ends : Disk Path → Except Error Value → Prop)
    (prog : Fallible Path Error Value) (disk : Disk Path) : Prop :=
  Prog.Holds may always ends (ExceptT.run prog) disk

variable {may : Outcome → Prop} {always : Disk Path → Prop} {disk : Disk Path}

theorem holds_bind {ends : Disk Path → Except Error Result → Prop}
    (holds :
      Holds may always
        (fun disk reply =>
          match reply with
          | .ok value => Holds may always ends (rest value) disk
          | .error error => ends disk (.error error))
        first disk) : Holds may always ends (first >>= rest) disk := by
  apply Prog.Holds.bind
  apply holds.imp (fun _ kept => kept)
  intro after reply kept ended
  cases reply with
  | ok value => exact ended
  | error error => exact ⟨kept, ended⟩

section Rules

variable {ends : Disk Path → Except Error Result → Prop}

section

variable (here : always disk)
include here

theorem holds_pure {ends : Disk Path → Except Error Value → Prop}
    {value : Value} (ended : ends disk (.ok value)) : Holds may always ends (pure value) disk :=
  ⟨here, ended⟩

theorem holds_throw {ends : Disk Path → Except Error Value → Prop}
    {error : Error} (ended : ends disk (.error error)) : Holds may always ends (throw error) disk :=
  ⟨here, ended⟩

theorem holds_readFile {path : Path}
    {rest : Except IoError (List UInt8) → Fallible Path Error Result}
    (next : ∀ out, may out → Holds may always ends (rest (readReply disk path out)) disk) :
    Holds may always ends (readFile path >>= rest) disk :=
  ⟨here, next⟩

theorem holds_pathExists {path : Path} {rest : Bool → Fallible Path Error Result}
    (next : Holds may always ends (rest (probeReply disk path)) disk) :
    Holds may always ends (pathExists path >>= rest) disk :=
  ⟨here, next⟩

theorem holds_pathMetadata {path : Path} {rest : Except IoError Node → Fallible Path Error Result}
    (next : ∀ out, may out → Holds may always ends (rest (metadataReply disk path out)) disk) :
    Holds may always ends (pathMetadata path >>= rest) disk :=
  ⟨here, next⟩

end

variable {rest : Unit → Fallible Path Error Result}

theorem holds_callIgnored (here : always disk)
    (torn : ∀ count, always (action.perform disk (.torn count)).1)
    (next : ∀ out, may out → Holds may always ends (rest ()) (action.perform disk out).1) :
    Holds may always ends (callIgnored action >>= rest) disk :=
  ⟨here, torn, next⟩

/--
A call that must succeed.  It does where it applies; every failure of it
ends the program on the same disk or inside a plain write.
-/
theorem holds_call (here : always disk)
    (torn : ∀ count, always (action.perform disk (.torn count)).1)
    (failed :
      ∀ out error, may out →
        (action.perform disk out).2 = .error error →
          ends (action.perform disk out).1 (.error (convert error)))
    (performed : ∀ after, action.apply disk = some after → Holds may always ends (rest ()) after) :
    Holds may always ends (call action convert >>= rest) disk := by
  refine ⟨here, torn, fun out allowed => ?_⟩
  cases out with
  | performed =>
    cases applied : action.apply disk with
    | some after =>
      have reply : action.perform disk .performed = (after, .ok ()) := by simp [perform, applied]
      rw [reply]
      exact performed _ applied
    | none =>
      have same : (action.perform disk .performed).1 = disk := by simp [perform, applied]
      cases reply : (action.perform disk .performed).2 with
      | ok value => simp [perform, applied] at reply
      | error error =>
        have ended := failed .performed _ allowed reply
        rw [same] at ended ⊢
        exact ⟨here, ended⟩
  | refused => exact ⟨here, failed .refused .failed allowed rfl⟩
  | torn count =>
    have reply : (action.perform disk (.torn count)).2 = .error .failed := by cases action <;> rfl
    rw [reply]
    exact ⟨torn _, failed (.torn _) .failed allowed reply⟩

theorem holds_call_faultless (applied : action.apply disk = some after) (here : always disk)
    (torn : ∀ count, always (action.perform disk (.torn count)).1)
    (next : Holds Faultless always ends (rest ()) after) :
    Holds Faultless always ends (call action convert >>= rest) disk := by
  apply holds_call here torn
  · rintro _ error rfl reply
    simp [perform, applied] at reply
  · intro other same
    obtain rfl : after = other := some.inj (applied.symm.trans same)
    exact next

theorem holds_last_call_faultless {ends : Disk Path → Except Error Unit → Prop}
    (applied : action.apply disk = some after) (here : always disk)
    (torn : ∀ count, always (action.perform disk (.torn count)).1) (there : always after)
    (ended : ends after (.ok ())) : Holds Faultless always ends (call action convert) disk := by
  rw [← bind_pure (call _ convert)]
  exact holds_call_faultless applied here torn (holds_pure there ended)

/-- A call under whose failure nothing is left to show. -/
theorem holds_call_kept (kept : ∀ out, always (action.perform disk out).1)
    (failed : ∀ disk error, always disk → ends disk (.error error))
    (performed : ∀ after, action.apply disk = some after → Holds may always ends (rest ()) after) :
    Holds may always ends (call action convert >>= rest) disk :=
  holds_call (kept .refused) (fun _ => kept (.torn _))
    (fun _ _ _ _ => failed _ _ (kept _)) performed

theorem holds_last_call_kept {ends : Disk Path → Except Error Unit → Prop}
    (kept : ∀ out, always (action.perform disk out).1)
    (failed : ∀ disk error, always disk → ends disk (.error error))
    (performed : ∀ after, action.apply disk = some after → always after ∧ ends after (.ok ())) :
    Holds may always ends (call action convert) disk := by
  rw [← bind_pure (call _ convert)]
  apply holds_call_kept kept failed
  intro after applied
  exact holds_pure (performed _ applied).1 (performed _ applied).2

end Rules

/-! ### Runs without faults -/

theorem exec_readFile_bind {path : Path}
    {rest : Except IoError (List UInt8) → Fallible Path Error Result} :
    Fallible.exec disk (readFile path >>= rest) =
      Fallible.exec disk (rest (readReply disk path .performed)) :=
  rfl

theorem exec_pathExists_bind {path : Path} {rest : Bool → Fallible Path Error Result} :
    Fallible.exec disk (pathExists path >>= rest) =
      Fallible.exec disk (rest (probeReply disk path)) :=
  rfl

theorem exec_pathMetadata_bind {path : Path}
    {rest : Except IoError Node → Fallible Path Error Result} :
    Fallible.exec disk (pathMetadata path >>= rest) =
      Fallible.exec disk (rest (metadataReply disk path .performed)) :=
  rfl

theorem exec_bind {value : Value} (executed : Fallible.exec disk first = (after, .ok value))
    {rest : Value → Fallible Path Error Result} :
    Fallible.exec disk (first >>= rest) = Fallible.exec after (rest value) := by
  have parts : exec disk (first >>= rest) = Prog.run (exec disk first).1
          (ExceptT.bindCont rest (exec disk first).2) :=
    Prog.run_bind _ _ _
  rw [parts, executed]
  rfl

theorem exec_call (applied : action.apply disk = some after) (convert : IoError → Error) :
    Fallible.exec disk (call action convert) = (after, .ok ()) := by
  change ((action.perform _ .performed).1, (action.perform _ .performed).2.mapError convert) = _
  rw [show action.perform disk .performed = (after, .ok ()) by simp [perform, applied]]
  rfl

theorem exec_bind_ok {res : Result}
    (succeeded : (Fallible.exec disk (first >>= rest)).2 = .ok res) :
    ∃ after value,
      Fallible.exec disk first = (after, .ok value) ∧
        (Fallible.exec after (rest value)).2 = .ok res := by
  have parts : exec disk (first >>= rest) = Prog.run (exec disk first).1
          (ExceptT.bindCont rest (exec disk first).2) :=
    Prog.run_bind _ _ _
  rw [parts] at succeeded
  rcases executed : exec _ _ with ⟨after, error | value⟩
  · rw [executed] at succeeded
    cases succeeded
  · rw [executed] at succeeded
    exact ⟨after, value, rfl, succeeded⟩

theorem exec_call_ok (succeeded : Fallible.exec disk (call action convert) = (after, .ok ())) :
    action.apply disk = some after := by
  change ((action.perform disk .performed).1,
      (action.perform disk .performed).2.mapError convert) = (after, .ok ()) at succeeded
  cases applied : action.apply disk with
  | none =>
    have reply := congrArg Prod.snd succeeded
    simp only [perform, applied] at reply
    cases reply
  | some other =>
    simp only [perform, applied, Prod.mk.injEq] at succeeded
    rw [succeeded.1]

theorem exec_last_call_ok (succeeded : (Fallible.exec disk (call action convert)).2 = .ok ()) :
    ∃ after, action.apply disk = some after :=
  ⟨_, exec_call_ok (Prod.ext rfl succeeded)⟩

/-! ### Crashes -/

theorem crash_readFile_bind {path : Path}
    {rest : Except IoError (List UInt8) → Fallible Path Error Result} {point : CrashPoint} :
    Fallible.crash disk (readFile path >>= rest) point =
      Fallible.crash disk (rest (readReply disk path .performed)) point :=
  rfl

/-- A crash after a call is a crash of the rest. -/
theorem crash_call_bind (applied : action.apply disk = some after)
    {rest : Unit → Fallible Path Error Result} {calls : ℕ} {cut : Option ℕ} :
    Fallible.crash disk (call action convert >>= rest)
        ⟨calls + 1, cut⟩ =
      Fallible.crash after (rest ()) ⟨calls, cut⟩ := by
  have reply : action.perform disk .performed = (after, .ok ()) := by simp [perform, applied]
  change Prog.crash (action.perform disk .performed).1 (.bind
        (.done ((action.perform disk .performed).2.mapError convert))
        (ExceptT.bindCont rest)) ⟨calls, cut⟩ = _
  rw [reply]
  rfl

theorem crash_call (applied : action.apply disk = some after) {calls : ℕ} {cut : Option ℕ} :
    Fallible.crash disk (call action convert) ⟨calls + 1, cut⟩ = after := by
  change (action.perform disk .performed).1 = _
  simp [perform, applied]

end Fallible

end FilePrograms
