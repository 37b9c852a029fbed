import DeskUnlock.Foundation.FileLogic
import DeskUnlock.Foundation.Runs

/-!
# Programs that share a file

Several programs are interleaved call by call on one disk.  Each has a key of
its own, and what stands under the keys is kept in one file that every program
reads whole and replaces whole.  Nothing locks the file between the two.

`Tracks` is the contract of one program: judged by the file as the program last
saw it, a replacement leaves alone what stands under the other keys.  If every
replacement finds the file as its program last saw it, the contracts of the
programs make up an invariant of all their interleavings.
-/

namespace FilePrograms

open List Action

variable {Path Value Result Error Key Observation : Type} [DecidableEq Path]

def Prog.result? : Prog Path Value → Option Value
  | .done value => some value
  | _ => none

omit [DecidableEq Path] in
theorem Prog.eq_done_of_result? {prog : Prog Path Value} {value : Value}
    (ended : prog.result? = some value) : prog = .done value := by
  cases prog with
  | done other => exact congrArg _ (Option.some.inj ended)
  | _ => cases ended

/-- A program among others, with the file as it last saw or left it. -/
structure Sharer (Path Key Value : Type) where
  key : Key
  program : Prog Path Value
  view : Option (Option Node)

structure Shared (Path Key Value : Type) where
  disk : Disk Path
  sharers : List (Sharer Path Key Value)

/-- Whose call is next, and what the system makes of it. -/
structure Turn where
  index : ℕ
  outcome : Outcome

section

variable (file : Path)

def Prog.seen (disk : Disk Path) (out : Outcome) (view : Option (Option Node)) :
    Prog Path Value → Option (Option Node)
  | .read path _ => if path = file then some (disk file) else view
  | .act action _ =>
    if file ∈ action.altered disk out then some ((action.perform disk out).1 file) else view
  | _ => view

/-- The next call of the program replaces the file. -/
def Prog.Replaces (disk : Disk Path) (out : Outcome) :
    Prog Path Value → Prop
  | .act action _ => file ∈ action.altered disk out
  | _ => False

instance (disk : Disk Path) (out : Outcome) :
    (prog : Prog Path Value) → Decidable (prog.Replaces file disk out)
  | .done _ | .read _ _ | .probe _ _ | .metadata _ _ => .isFalse id
  | .act action _ => inferInstanceAs (Decidable (file ∈ action.altered disk out))

def Sharer.resume (disk : Disk Path) (out : Outcome)
    (sharer : Sharer Path Key Value) : Sharer Path Key Value where
  key := sharer.key
  program := (sharer.program.resume disk out).2
  view := sharer.program.seen file disk out sharer.view

/-- The next call of one sharer. -/
def Shared.step (system : Shared Path Key Value) (turn : Turn) : Shared Path Key Value :=
  match system.sharers[turn.index]? with
  | none => system
  | some sharer =>
    { disk := (sharer.program.resume system.disk turn.outcome).1
      sharers := system.sharers.set turn.index (sharer.resume file system.disk turn.outcome) }

/-- A replacement finds the file as its program last saw it. -/
def Shared.Fresh (system : Shared Path Key Value) (turn : Turn) : Prop :=
  ∀ sharer ∈ system.sharers[turn.index]?,
    sharer.program.Replaces file system.disk turn.outcome → sharer.view = some (system.disk file)

instance (system : Shared Path Key Value) (turn : Turn) : Decidable (system.Fresh file turn) :=
  Option.decidableForallMem _

end

variable {out : Outcome} {disk : Disk Path}

/-- What the program sees of the file after a call is what stands there. -/
theorem Prog.current_of_seen {file : Path} {observe : Option Node → Observation}
    {prog : Prog Path Value} {view : Option (Option Node)}
    (current : ∀ node, view = some node → observe (disk file) = observe node) {node : Option Node}
    (seen : prog.seen file disk out view = some node) :
    observe ((prog.resume disk out).1 file) = observe node := by
  cases prog with
  | done value => exact current _ seen
  | read path next =>
    simp only [Prog.seen] at seen
    split at seen
    · rw [← Option.some.inj seen]
      rfl
    · exact current _ seen
  | probe path next | metadata path next => exact current _ seen
  | act action next =>
    simp only [Prog.seen] at seen
    split at seen
    · rw [← Option.some.inj seen]
      rfl
    · rename_i unaltered
      have same : ((act action next).resume disk out).1 file = disk file :=
        perform_unaltered unaltered
      rw [same]
      exact current _ seen

section

variable (file : Path) (observe : Key → Option Node → Observation) (key : Key)

/-- What stands under other keys is the same before and after. -/
def OthersKept (before after : Option Node) : Prop :=
  ∀ other, other ≠ key → observe other after = observe other before

/--
The program with this view of the file keeps what stands under other keys and
ends as `ends` says, whatever the disk is at each of its calls.
-/
def Prog.Tracks (ends : Option (Option Node) → Value → Prop) :
    Option (Option Node) → Prog Path Value → Prop
  | view, .done value => ends view value
  | view, .read path next =>
    ∀ disk out,
      Tracks ends (if path = file then some (disk file) else view) (next (readReply disk path out))
  | view, .probe _ next => ∀ reply, Tracks ends view (next reply)
  | view, .metadata _ next => ∀ reply, Tracks ends view (next reply)
  | view, .act action next =>
    ∀ disk out,
      (file ∈ action.altered disk out → view = some (disk file)) →
      (file ∈ action.altered disk out →
        OthersKept observe key (disk file) ((action.perform disk out).1 file)) ∧
      Tracks ends
        (if file ∈ action.altered disk out then some ((action.perform disk out).1 file)
        else view) (next (action.perform disk out).2)

end

namespace Prog.Tracks

variable {file : Path} {observe : Key → Option Node → Observation} {key : Key}
  {view : Option (Option Node)} {prog : Prog Path Value}
  {ends : Option (Option Node) → Value → Prop}

theorem resume (tracks : prog.Tracks file observe key ends view)
    (fresh : prog.Replaces file disk out → view = some (disk file)) :
    (prog.resume disk out).2.Tracks file observe key ends (prog.seen file disk out view) := by
  cases prog with
  | done value => exact tracks
  | read path next => exact tracks _ _
  | probe path next | metadata path next => exact tracks _
  | act action next => exact (tracks _ _ fresh).2

/-- One call of the program keeps what stands under other keys. -/
theorem othersKept (tracks : prog.Tracks file observe key ends view)
    (fresh : prog.Replaces file disk out → view = some (disk file)) :
    OthersKept observe key (disk file) ((prog.resume disk out).1 file) := by
  cases prog with
  | act action next =>
    by_cases altered : file ∈ action.altered disk out
    · exact (tracks _ _ fresh).1 altered
    · have same : ((act action next).resume disk out).1 file = disk file :=
        perform_unaltered altered
      rw [same]
      exact fun _ _ => rfl
  | _ => exact fun _ _ => rfl

theorem imp {weak strong : Option (Option Node) → Value → Prop}
    (implies : ∀ view value, strong view value → weak view value)
    (tracks : prog.Tracks file observe key strong view) :
    prog.Tracks file observe key weak view := by
  induction prog generalizing view with
  | done value => exact implies _ _ tracks
  | read path next induction => exact fun disk out => induction _ (tracks _ _)
  | probe path next induction | metadata path next induction =>
    exact fun reply => induction _ (tracks _)
  | act action next induction =>
    intro disk out fresh
    obtain ⟨kept, further⟩ := tracks _ _ fresh
    exact ⟨kept, induction _ further⟩

theorem bind {ends : Option (Option Node) → Result → Prop} {rest : Value → Prog Path Result}
    (tracks :
      prog.Tracks file observe key
        (fun view value => (rest value).Tracks file observe key ends view) view) :
    (prog.bind rest).Tracks file observe key ends view := by
  induction prog generalizing view with
  | done value => exact tracks
  | read path next induction => exact fun disk out => induction _ (tracks _ _)
  | probe path next induction | metadata path next induction =>
    exact fun reply => induction _ (tracks _)
  | act action next induction =>
    intro disk out fresh
    obtain ⟨kept, further⟩ := tracks _ _ fresh
    exact ⟨kept, induction _ further⟩

/-- A program that neither reads nor replaces the file keeps its view. -/
theorem of_within (within : prog.Within (· ≠ file) fun action => file ∉ action.touches)
    (ended : ∀ value, ends view value) : prog.Tracks file observe key ends view := by
  induction prog with
  | done value => exact ended _
  | read path next induction =>
    intro disk out
    rw [if_neg within.1]
    exact induction _ (within.2 _)
  | probe path next induction | metadata path next induction =>
    exact fun reply => induction reply (within _)
  | act action next induction =>
    intro disk out _
    have unaltered : file ∉ action.altered disk out :=
      fun altered => within.1 (touches_of_altered altered)
    rw [if_neg unaltered]
    exact ⟨fun altered => (unaltered altered).elim, induction _ (within.2 _)⟩

end Prog.Tracks

namespace Fallible

abbrev Tracks (file : Path) (observe : Key → Option Node → Observation) (key : Key)
    (ends : Option (Option Node) → Except Error Value → Prop) (view : Option (Option Node))
    (prog : Fallible Path Error Value) : Prop :=
  Prog.Tracks file observe key ends view (ExceptT.run prog)

variable {file : Path} {observe : Key → Option Node → Observation}
  {key : Key} {view : Option (Option Node)}
  {ends : Option (Option Node) → Except Error Result → Prop}

theorem tracks_bind {first : Fallible Path Error Value}
    {rest : Value → Fallible Path Error Result}
    (tracks :
      Tracks file observe key
        (fun view reply =>
          match reply with
          | .ok value => Tracks file observe key ends view (rest value)
          | .error error => ends view (.error error))
        view first) :
    Tracks file observe key ends view (first >>= rest) := by
  apply Prog.Tracks.bind
  refine Prog.Tracks.imp ?_ tracks
  intro view reply ended
  cases reply with
  | ok value | error error => exact ended

theorem tracks_bind_of_within {first : Fallible Path Error Value}
    {rest : Value → Fallible Path Error Result}
    (within : Within (· ≠ file) (fun action => file ∉ action.touches) first)
    (failed : ∀ error, ends view (.error error))
    (next : ∀ value, Tracks file observe key ends view (rest value)) :
    Tracks file observe key ends view (first >>= rest) := by
  apply tracks_bind
  apply Prog.Tracks.of_within within
  intro reply
  cases reply with
  | ok value => exact next value
  | error error => exact failed _

theorem tracks_persist {bytes : List UInt8} {mode : ℕ} {convert : IoError → Error}
    {node : Option Node} {ends : Option (Option Node) → Except Error Unit → Prop}
    (kept : OthersKept observe key node (some (.file bytes mode)))
    (failed : ∀ error, ends (some node) (.error error))
    (replaced : ends (some (some (.file bytes mode))) (.ok ())) :
    Tracks file observe key ends (some node) (call (.persist file bytes mode) convert) := by
  intro disk out fresh
  cases out with
  | performed =>
    cases applied : (persist file bytes mode).apply disk with
    | none =>
      simp only [altered, perform, applied]
      exact ⟨fun changed => absurd changed not_mem_nil, failed _⟩
    | some after =>
      have altered : file ∈ (persist file bytes mode).altered disk .performed := by
        simp [altered, applied, touches]
      obtain rfl := Option.some.inj (fresh altered)
      have left : after file = some (.file bytes mode) := by
        rw [apply_persist applied, Function.update_self]
      simp only [if_pos altered, perform, applied, left]
      exact ⟨fun _ => kept, replaced⟩
  | refused | torn count => exact ⟨fun changed => absurd changed not_mem_nil, failed _⟩

end Fallible

namespace Shared

variable {file : Path} {observe : Key → Option Node → Observation}
  {ends : Key → Option (Option Node) → Value → Prop}

/--
Every program has its contract, and under its key the file stands as the
program last saw it.
-/
structure Coherent (file : Path) (observe : Key → Option Node → Observation)
    (ends : Key → Option (Option Node) → Value → Prop) (system : Shared Path Key Value) : Prop where
  apart : (system.sharers.map (·.key)).Nodup
  tracks :
    ∀ sharer ∈ system.sharers,
      sharer.program.Tracks file observe sharer.key (ends sharer.key) sharer.view
  current :
    ∀ sharer ∈ system.sharers, ∀ node, sharer.view = some node →
      observe sharer.key (system.disk file) = observe sharer.key node

/-- A sharer after a step is the one that moved, or stands elsewhere. -/
theorem getElem?_step {system : Shared Path Key Value}
    {turn : Turn} {mover : Sharer Path Key Value} (found : system.sharers[turn.index]? = some mover)
    {place : ℕ} : (system.step file turn).sharers[place]? = if turn.index =
    place then some (mover.resume file system.disk turn.outcome) else system.sharers[place]? := by
  obtain ⟨inside, rfl⟩ := List.getElem?_eq_some_iff.mp found
  simp [step, getElem?_set, inside]

theorem keys_step {system : Shared Path Key Value} {turn : Turn} :
    (system.step file turn).sharers.map (·.key) = system.sharers.map (·.key) := by
  cases found : system.sharers[turn.index]? with
  | none => simp [step, found]
  | some mover =>
    apply ext_getElem?
    intro place
    rw [getElem?_map, getElem?_step found, getElem?_map]
    split_ifs with moved
    · rw [← moved, found]
      rfl
    · rfl

omit [DecidableEq Path] in
theorem keys_ne {sharers : List (Sharer Path Key Value)} (apart : (sharers.map (·.key)).Nodup)
    {i place : ℕ} {mover sharer : Sharer Path Key Value} (found : sharers[i]? = some mover)
    (standing : sharers[place]? = some sharer) (differs : i ≠ place) : sharer.key ≠ mover.key := by
  intro same
  obtain ⟨inside, _⟩ := List.getElem?_eq_some_iff.mp found
  have equal : (sharers.map (·.key))[i]? = (sharers.map (·.key))[place]? := by
    rw [List.getElem?_map, List.getElem?_map, found, standing]
    exact congrArg some same.symm
  exact differs ((List.getElem?_inj (by rwa [length_map]) apart).mp equal)

/-- A step in which no replacement is based on an old view. -/
theorem Coherent.step {system : Shared Path Key Value}
    (coherent : system.Coherent file observe ends) {turn : Turn} (fresh : system.Fresh file turn) :
    (system.step file turn).Coherent file observe ends := by
  have apart := coherent.apart
  rw [← keys_step] at apart
  cases found : system.sharers[turn.index]? with
  | none =>
    have idle : system.step file turn = system := by simp [Shared.step, found]
    rw [idle]
    exact coherent
  | some mover =>
    have present := mem_of_getElem? found
    have tracks := coherent.tracks _ present
    have kept := tracks.othersKept (fresh _ found)
    have after :
        (system.step file turn).disk = (mover.program.resume system.disk turn.outcome).1 := by
      simp [Shared.step, found]
    refine ⟨apart, ?_, ?_⟩
    · intro sharer mem
      obtain ⟨place, standing⟩ := getElem?_of_mem mem
      rw [getElem?_step found] at standing
      split_ifs at standing
      · obtain rfl := Option.some.inj standing
        exact tracks.resume (fresh _ found)
      · exact coherent.tracks _ (mem_of_getElem? standing)
    · intro sharer mem node viewed
      obtain ⟨place, standing⟩ := getElem?_of_mem mem
      rw [getElem?_step found] at standing
      rw [after]
      split_ifs at standing with moved
      · obtain rfl := Option.some.inj standing
        exact Prog.current_of_seen (coherent.current _ present) viewed
      · have differs : sharer.key ≠ mover.key := keys_ne coherent.apart found standing moved
        rw [kept _ differs]
        exact coherent.current _ (mem_of_getElem? standing) _ viewed

end Shared

end FilePrograms
