import Mathlib.Logic.Function.Basic
import Mathlib.Data.Nat.Notation

/-!
# Programs over a file system

A program is a tree of file-system calls: a node makes one call and continues
with its reply.  This is the shape in which a program can be interleaved with
others call by call, can be refused any of its calls, and can be cut off at
any point.

A plain write is not atomic: when it is cut off, any initial part of the new
content may be on disk and the old content is gone.  A rename is atomic.  A
`persist` writes and flushes an anonymous temporary file and renames it over
its target; what the temporary file held is never visible under a path.
-/

namespace FilePrograms

open Function

inductive Node where
  | file (bytes : List UInt8) (mode : ℕ)
  | directory (mode : ℕ)
deriving DecidableEq

abbrev Disk (Path : Type) := Path → Option Node

inductive IoError where
  | notFound
  | failed
deriving DecidableEq

def content {Path : Type} (disk : Disk Path) (path : Path) : Option (List UInt8) :=
  match disk path with
  | some (.file bytes _) => some bytes
  | _ => none

/-- A call that changes the disk. -/
inductive Action (Path : Type) where
  | createDirAll (path : Path)
  | setPermissions (path : Path) (mode : ℕ)
  | write (path : Path) (bytes : List UInt8)
  | rename (source target : Path)
  | remove (path : Path)
  | persist (path : Path) (bytes : List UInt8) (mode : ℕ)
deriving DecidableEq

/-- What the system makes of a call. -/
inductive Outcome where
  | performed
  | refused
  /-- A plain write that stopped after `count` bytes. -/
  | torn (count : ℕ)
deriving DecidableEq

variable {Path : Type} [DecidableEq Path]

def Node.withMode (mode : ℕ) : Node → Node
  | .file bytes _ => .file bytes mode
  | .directory _ => .directory mode

section

variable (disk : Disk Path)

/-- The content of a file replaced, with the mode it has or a fresh one. -/
def overwrite (path : Path) (bytes : List UInt8) : Option (Disk Path) :=
  match disk path with
  | some (.directory _) => none
  | some (.file _ mode) => some (update disk path (some (.file bytes mode)))
  | none => some (update disk path (some (.file bytes 0o644)))

/-- The disk after a call, unless the call does not apply to it. -/
def Action.apply : Action Path → Option (Disk Path)
  | .createDirAll path =>
    match disk path with
    | some (.directory _) => some disk
    | some (.file _ _) => none
    | none => some (update disk path (some (.directory 0o755)))
  | .setPermissions path mode =>
    (disk path).map fun node => update disk path (some (node.withMode mode))
  | .write path bytes => overwrite disk path bytes
  | .rename source target =>
    match disk source, disk target with
    | some (.file bytes mode), some (.file _ _)
    | some (.file bytes mode), none =>
      some (update (update disk source none) target (some (.file bytes mode)))
    | _, _ => none
  | .remove path =>
    match disk path with
    | some (.file _ _) => some (update disk path none)
    | _ => none
  | .persist path bytes mode =>
    match disk path with
    | some (.directory _) => none
    | _ => some (update disk path (some (.file bytes mode)))

/-- The path whose absence makes a call fail with `notFound`. -/
def Action.subject : Action Path → Path
  | .createDirAll path | .setPermissions path _ | .write path _
  | .rename path _ | .remove path | .persist path _ _ => path

def Action.touches : Action Path → List Path
  | .createDirAll path | .setPermissions path _ | .write path _
  | .remove path | .persist path _ _ => [path]
  | .rename source target => [source, target]

def Action.perform (action : Action Path) :
    Outcome → Disk Path × Except IoError Unit
  | .performed =>
    match action.apply disk with
    | some after => (after, .ok ())
    | none => (disk, .error (if (disk action.subject).isNone then .notFound else .failed))
  | .refused => (disk, .error .failed)
  | .torn count =>
    match action with
    | .write path bytes => ((overwrite disk path (bytes.take count)).getD disk, .error .failed)
    | _ => (disk, .error .failed)

/-- The paths that a call has written, under the outcome it was given. -/
def Action.altered (action : Action Path) :
    Outcome → List Path
  | .performed => if (action.apply disk).isSome then action.touches else []
  | .refused => []
  | .torn _ =>
    match action with
    | .write path _ => [path]
    | _ => []

def readReply (path : Path) :
    Outcome → Except IoError (List UInt8)
  | .performed =>
    match disk path with
    | some (.file bytes _) => .ok bytes
    | some (.directory _) => .error .failed
    | none => .error .notFound
  | _ => .error .failed

/-- Whether something stands under the path; this does not fail. -/
def probeReply (path : Path) : Bool := (disk path).isSome

def metadataReply (path : Path) :
    Outcome → Except IoError Node
  | .performed =>
    match disk path with
    | some node => .ok node
    | none => .error .notFound
  | _ => .error .failed

end

section

variable {disk : Disk Path} {path : Path} {node : Node}
  {bytes : List UInt8} {mode : ℕ} {out : Outcome}

omit [DecidableEq Path]

theorem probeReply_of_some (standing : disk path = some node) : probeReply disk path = true := by
  rw [probeReply, standing]
  rfl

theorem probeReply_of_none (absent : disk path = none) : probeReply disk path = false := by
  rw [probeReply, absent]
  rfl

theorem readReply_of_file (standing : disk path = some (.file bytes mode)) :
    readReply disk path .performed = .ok bytes := by
  rw [readReply, standing]

theorem exists_file_of_readReply (reply : readReply disk path out = .ok bytes) :
    ∃ mode, disk path = some (.file bytes mode) := by
  cases out with
  | performed =>
    rcases standing : disk _ with _ | ⟨other, mode⟩ | mode
    · simp [readReply, standing] at reply
    · rw [readReply_of_file standing] at reply
      exact ⟨mode, by rw [Except.ok.inj reply]⟩
    · simp [readReply, standing] at reply
  | refused | torn count => cases reply

theorem eq_none_of_readReply (reply : readReply disk path out = .error .notFound) :
    disk path = none := by
  cases out with
  | performed =>
    rcases standing : disk _ with _ | ⟨bytes, mode⟩ | mode
    · rfl
    · simp [readReply, standing] at reply
    · simp [readReply, standing] at reply
  | refused | torn count => cases reply

end

/-- Where a program is cut off. -/
structure CrashPoint where
  /-- How many changes of the disk were completed. -/
  calls : ℕ
  /-- How many bytes the next call wrote, if it was under way. -/
  cut : Option ℕ

/-- Programs, one file-system call after the other. -/
inductive Prog (Path Value : Type) where
  | done (value : Value)
  | read (path : Path) (next : Except IoError (List UInt8) → Prog Path Value)
  | probe (path : Path) (next : Bool → Prog Path Value)
  | metadata (path : Path) (next : Except IoError Node → Prog Path Value)
  | act (action : Action Path) (next : Except IoError Unit → Prog Path Value)

namespace Prog

variable {Value Result : Type}

def bind : Prog Path Value → (Value → Prog Path Result) → Prog Path Result
  | .done value, rest => rest value
  | .read path next, rest => .read path fun reply => (next reply).bind rest
  | .probe path next, rest => .probe path fun reply => (next reply).bind rest
  | .metadata path next, rest => .metadata path fun reply => (next reply).bind rest
  | .act action next, rest => .act action fun reply => (next reply).bind rest

instance : Monad (Prog Path) where
  pure := .done
  bind := bind

/-- One call of the program, under the outcome the system gives it. -/
def resume (disk : Disk Path) (out : Outcome) :
    Prog Path Value → Disk Path × Prog Path Value
  | .done value => (disk, .done value)
  | .read path next => (disk, next (readReply disk path out))
  | .probe path next => (disk, next (probeReply disk path))
  | .metadata path next => (disk, next (metadataReply disk path out))
  | .act action next =>
    let (after, reply) := action.perform disk out
    (after, next reply)

/-- The whole program, when every call is performed and nothing interferes. -/
def run (disk : Disk Path) : Prog Path Value → Disk Path × Value
  | .done value => (disk, value)
  | .read path next => run disk (next (readReply disk path .performed))
  | .probe path next => run disk (next (probeReply disk path))
  | .metadata path next => run disk (next (metadataReply disk path .performed))
  | .act action next =>
    let (after, reply) := action.perform disk .performed
    run after (next reply)

/--
The disk that a crash leaves when every call is performed: after
`point.calls` changes of the disk, and inside the next one if `point.cut` is
given.
-/
def crash (disk : Disk Path) :
    Prog Path Value → CrashPoint → Disk Path
  | .done _, _ => disk
  | .read path next, point => crash disk (next (readReply disk path .performed)) point
  | .probe path next, point => crash disk (next (probeReply disk path)) point
  | .metadata path next, point => crash disk (next (metadataReply disk path .performed)) point
  | .act action next, point =>
    match point with
    | ⟨0, none⟩ => disk
    | ⟨0, some count⟩ => (action.perform disk (.torn count)).1
    | ⟨calls + 1, cut⟩ =>
      crash (action.perform disk .performed).1
        (next (action.perform disk .performed).2) ⟨calls, cut⟩

end Prog

abbrev Fallible (Path Error Value : Type) := ExceptT Error (Prog Path) Value

variable {Error Value : Type}

def call (action : Action Path) (convert : IoError → Error) : Fallible Path Error Unit :=
  Prog.act action fun reply => Prog.done (reply.mapError convert)

def callIgnored (action : Action Path) : Fallible Path Error Unit :=
  Prog.act action fun _ => Prog.done (.ok ())

def readFile (path : Path) : Fallible Path Error (Except IoError (List UInt8)) :=
  Prog.read path fun reply => Prog.done (.ok reply)

def pathExists (path : Path) : Fallible Path Error Bool :=
  Prog.probe path fun reply => Prog.done (.ok reply)

def pathMetadata (path : Path) : Fallible Path Error (Except IoError Node) :=
  Prog.metadata path fun reply => Prog.done (.ok reply)

abbrev Fallible.exec (disk : Disk Path) (prog : Fallible Path Error Value) :
    Disk Path × Except Error Value :=
  Prog.run disk (ExceptT.run prog)

abbrev Fallible.crash (disk : Disk Path)
    (prog : Fallible Path Error Value) (point : CrashPoint) : Disk Path :=
  Prog.crash disk (ExceptT.run prog) point

end FilePrograms
