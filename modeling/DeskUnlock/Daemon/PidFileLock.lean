import DeskUnlock.Foundation.Runs
import DeskUnlock.Foundation.Text

/-!
# The pidfile lock

`PidFileLock::acquire` and its `Drop` in `syauth-presenced/src/lock.rs`, run by
any number of processes on one path.

The lock belongs to the inode that a process has opened, and the name of that
inode is removed before the lock is released.  A process that has opened the
file before it was unlinked can lock an inode that no path names any more,
while the next process creates and locks another one.
-/

namespace DeskUnlock.Daemon

open Runs Texts List Option

inductive LockError where
  | alreadyRunning (path : Text)
  | parentDir (path source : Text)
  | openFile (path source : Text)
  | fcntl (path source : Text)
  | write (path source : Text)
deriving DecidableEq

/-- The path of the pidfile, with its parent directory if it has one. -/
structure PidFilePath where
  path : Text
  parent : Option Text

abbrev Inode := Nat

/-- Where a process is in `acquire` or in the drop of its guard. -/
inductive Place where
  | starting
  | ready
  | opened (inode : Inode)
  /-- The lock is taken, and the PID not yet written. -/
  | locked (inode : Inode)
  /-- `acquire` has returned the guard. -/
  | holding (inode : Inode)
  /-- The drop has unlinked the path, and not yet closed the file. -/
  | unlinked (inode : Inode)
  | closed
  | failed (error : LockError)
deriving DecidableEq

def Place.lockedInode : Place → Option Inode
  | .locked inode | .holding inode | .unlinked inode => some inode
  | _ => none

def Place.dropping : Place → Bool
  | .unlinked _ => true
  | _ => false

def Place.holds : Place → Bool
  | .holding _ | .unlinked _ => true
  | _ => false

/-- The inode that the path names, and the processes. -/
structure PidFileHost where
  named : Option Inode
  nextInode : Inode
  processes : List Place

namespace PidFileHost

inductive Event where
  | started
  /-- `ensure_parent_dir`, with what fails of it. -/
  | parentDir (i : Nat) (failure : Option Text)
  | openFile (i : Nat) (failure : Option Text)
  /-- `F_OFD_SETLK`, with an errno other than that of a conflict. -/
  | lock (i : Nat) (failure : Option Text)
  | write (i : Nat) (failure : Option Text)
  /-- `remove_file`; a failure is only logged. -/
  | unlink (i : Nat) (fails : Bool)
  | close (i : Nat)
  /-- The kernel closes the file of a process that is killed. -/
  | killed (i : Nat)

/-- A host with or without a stale pidfile. -/
def start (stale : Bool) : PidFileHost where
  named := if stale then some 0 else none
  nextInode := 1
  processes := []

def put (host : PidFileHost) (i : Nat) (place : Place) : PidFileHost :=
  { host with processes := host.processes.set i place }

def inodeAt (host : PidFileHost) (i : Nat) : Option Inode :=
  host.processes[i]?.bind Place.lockedInode

def contended (host : PidFileHost) (i : Nat) (inode : Inode) : Bool :=
  (List.range host.processes.length).any fun other =>
    decide (other ≠ i) && decide (host.inodeAt other = some inode)

/-- `ensure_parent_dir`; a path without a parent needs none. -/
def ensureParentDir (file : PidFilePath) (failure : Option Text) : Place :=
  match file.parent, failure with
  | some parent, some source => .failed (.parentDir parent source)
  | _, _ => .ready

/-- `open_pidfile` creates the file if the path names none. -/
def openPidfile (file : PidFilePath) (host : PidFileHost) (i : Nat)
    (failure : Option Text) : PidFileHost :=
  match failure, host.named with
  | some source, _ => host.put i (.failed (.openFile file.path source))
  | none, some inode => host.put i (.opened inode)
  | none, none =>
    { host with
      named := some host.nextInode, nextInode := host.nextInode + 1 }.put i (.opened host.nextInode)

def tryLockExclusive (file : PidFilePath) (host : PidFileHost) (i : Nat)
    (inode : Inode) (failure : Option Text) : Place :=
  match failure with
  | some source => .failed (.fcntl file.path source)
  | none => if host.contended i inode then .failed (.alreadyRunning file.path) else .locked inode

def writePid (file : PidFilePath) (inode : Inode) (failure : Option Text) :
    Place :=
  match failure with
  | some source => .failed (.write file.path source)
  | none => .holding inode

/-- One system call of one process. -/
def step (file : PidFilePath) (host : PidFileHost) : Event → PidFileHost
  | .started => { host with processes := host.processes ++ [.starting] }
  | .parentDir i failure =>
    match host.processes[i]? with
    | some .starting => host.put i (ensureParentDir file failure)
    | _ => host
  | .openFile i failure =>
    match host.processes[i]? with
    | some .ready => openPidfile file host i failure
    | _ => host
  | .lock i failure =>
    match host.processes[i]? with
    | some (.opened inode) => host.put i (tryLockExclusive file host i inode failure)
    | _ => host
  | .write i failure =>
    match host.processes[i]? with
    | some (.locked inode) => host.put i (writePid file inode failure)
    | _ => host
  | .unlink i fails =>
    match host.processes[i]? with
    | some (.holding inode) =>
      { host with named := if fails then host.named else none }.put i (.unlinked inode)
    | _ => host
  | .close i =>
    match host.processes[i]? with
    | some (.unlinked _) => host.put i .closed
    | _ => host
  | .killed i => host.put i .closed

/-- No two processes hold the daemon's lock. -/
def Exclusive (host : PidFileHost) : Prop :=
  ∀ (first second : Nat) (place other : Place),
    host.processes[first]? = some place → place.holds = true →
      host.processes[second]? = some other → other.holds = true → first = second

def taken (host : PidFileHost) : Event → Option Inode
  | .lock i none =>
    match host.processes[i]? with
    | some (.opened inode) => if host.contended i inode then none else some inode
    | _ => none
  | _ => none

/--
A lock is only taken on the inode that the path names, and not while a
process is between its unlink and its close.
-/
def LocksNamed (host : PidFileHost) (ev : Event) : Prop :=
  ∀ inode ∈ host.taken ev,
    host.named = some inode ∧ ∀ place ∈ host.processes, place.dropping = false

instance (host : PidFileHost) (ev : Event) : Decidable (host.LocksNamed ev) :=
  @Option.decidableForallMem _ _
    (fun _ => @instDecidableAnd _ _ inferInstance (List.decidableBAll _ _)) _

/-- One process has a lock; unless it is dropping, the path names its inode. -/
structure Guarded (host : PidFileHost) : Prop where
  single :
    ∀ first second, (host.inodeAt first).isSome = true →
      (host.inodeAt second).isSome = true → first = second
  current :
    ∀ (i : Nat) (place : Place) (inode : Inode),
      host.processes[i]? = some place →
      place = .locked inode ∨ place = .holding inode → host.named = some inode

section

variable {file : PidFilePath} {host : PidFileHost} {i : Nat} {old place : Place}

theorem inodeAt_put (found : host.processes[i]? = some old) (other : Nat) :
    (host.put i place).inodeAt other =
      if other = i then place.lockedInode else host.inodeAt other := by
  have bound := (List.getElem?_eq_some_iff.mp found).1
  split_ifs with same
  · subst same
    simp [inodeAt, put, bound]
  · simp [inodeAt, put, getElem?_set_ne (.symm same)]

theorem getElem?_put (found : host.processes[i]? = some old) (other : Nat) :
    (host.put i place).processes[other]? =
      if other = i then some place else host.processes[other]? := by
  have bound := (List.getElem?_eq_some_iff.mp found).1
  split_ifs with same
  · subst same
    simp [put, bound]
  · simp [put, getElem?_set_ne (.symm same)]

theorem contended_eq_false {inode : Inode} (free : host.contended i inode = false)
    {other : Nat} (differs : other ≠ i) : host.inodeAt other ≠ some inode := by
  intro locked
  have inside : other < host.processes.length := by
    by_contra outside
    have absent : host.processes[other]? = none := getElem?_eq_none (Nat.le_of_not_lt outside)
    rw [inodeAt, absent] at locked
    cases locked
  have found :
      (range host.processes.length).any (fun other =>
        decide (other ≠ i) && decide (host.inodeAt other = some inode)) = true :=
    any_eq_true.mpr ⟨other, mem_range.mpr inside, by simp [differs, locked]⟩
  rw [contended, found] at free
  cases free

/-- A process that takes no lock leaves one lock at most. -/
theorem Guarded.move (guarded : host.Guarded) (found : host.processes[i]? = some old)
    (kept : place.lockedInode.isSome = true → old.lockedInode.isSome = true)
    {named : Option Inode} {nextInode : Inode}
    (current : ∀ inode, place = .locked inode ∨ place = .holding inode → named = some inode)
    (others : ∀ (other : Nat) (process : Place) (inode : Inode),
      other ≠ i → host.processes[other]? = some process →
        process = .locked inode ∨ process = .holding inode → named = some inode) :
    ({ host with named, nextInode }.put i place).Guarded where
  single := by
    have before (other : Nat)
        (locked : (({ host with named, nextInode }.put i place).inodeAt other).isSome = true) :
        (host.inodeAt other).isSome = true := by
      rw [@inodeAt_put { host with named, nextInode } i _ _ found] at locked
      split_ifs at locked with same
      · subst same
        simpa [inodeAt, found] using kept locked
      · exact locked
    intro first second firstLocked secondLocked
    exact guarded.single _ _ (before _ firstLocked) (before _ secondLocked)
  current := by
    intro other process inode present locking
    rw [@getElem?_put { host with named, nextInode } i _ _ found] at present
    split_ifs at present with same
    · cases present
      exact current _ locking
    · exact others _ _ _ same present locking

theorem Guarded.put (guarded : host.Guarded) (found : host.processes[i]? = some old)
    (kept : place.lockedInode.isSome = true → old.lockedInode.isSome = true)
    (current : ∀ inode, place = .locked inode ∨ place = .holding inode → host.named = some inode) :
    (host.put i place).Guarded :=
  guarded.move found kept current fun _ _ _ _ => guarded.current _ _ _

theorem Guarded.put_unlocked (guarded : host.Guarded) (found : host.processes[i]? = some old)
    (unlocked : place.lockedInode = none) : (host.put i place).Guarded := by
  refine guarded.put found ?_ ?_
  · rw [unlocked]
    exact nofun
  · rintro inode (rfl | rfl)
    · cases unlocked
    · cases unlocked

theorem ensureParentDir_unlocked (failure : Option Text) :
    (ensureParentDir file failure).lockedInode = none := by
  unfold ensureParentDir
  split <;> rfl

section

variable (guarded : host.Guarded)
include guarded

theorem Guarded.started : Guarded { host with processes := host.processes ++ [.starting] } := by
  have before {i : Nat} {place : Place} (present : (host.processes ++ [.starting])[i]? = some place)
      (busy : place ≠ .starting) : host.processes[i]? = some place := by
    rcases Nat.lt_or_ge i _ with inside | outside
    · rwa [getElem?_append_left inside] at present
    · rw [getElem?_append_right outside] at present
      have same := mem_singleton.mp (mem_of_getElem? present)
      exact (busy same).elim
  constructor
  · intro first second firstLocked secondLocked
    have lockedBefore (i : Nat)
        (locked :
          (inodeAt { host with processes := host.processes ++ [.starting] } i).isSome = true) :
        (host.inodeAt i).isSome = true := by
      obtain ⟨inode, found⟩ := isSome_iff_exists.mp locked
      obtain ⟨place, present, locks⟩ := bind_eq_some_iff.mp found
      have busy : place ≠ .starting := by
        rintro rfl
        cases locks
      simp [inodeAt, before present busy, locks]
    exact guarded.single _ _ (lockedBefore _ firstLocked) (lockedBefore _ secondLocked)
  · intro i place inode present locking
    refine guarded.current i _ _ (before present ?_) locking
    rintro rfl
    rcases locking with same | same <;> cases same

theorem Guarded.openPidfile (found : host.processes[i]? = some .ready) (failure : Option Text) :
    (PidFileHost.openPidfile file host i failure).Guarded := by
  unfold PidFileHost.openPidfile
  split
  · exact guarded.put_unlocked found rfl
  · exact guarded.put_unlocked found rfl
  · next unnamed =>
      refine guarded.move found ?_ ?_ ?_
      · intro locked
        cases locked
      · rintro inode (same | same) <;> cases same
      · intro other process inode _ present locking
        cases unnamed.symm.trans (guarded.current other process inode present locking)

/-- A lock of the named inode, while nobody is dropping one, is the only one. -/
theorem Guarded.locked {inode : Inode} (found : host.processes[i]? = some (.opened inode))
    (free : host.contended i inode = false) (named : host.named = some inode)
    (dropping : ∀ place ∈ host.processes, place.dropping = false) :
    (host.put i (.locked inode)).Guarded := by
  have alone (other : Nat) (differs : other ≠ i) : host.inodeAt other = none := by
    cases locks : host.inodeAt other with
    | none => rfl
    | some held =>
      obtain ⟨place, present, inside⟩ := bind_eq_some_iff.mp locks
      have current : host.named = some held := by
        cases place with
        | locked other =>
          cases inside
          exact guarded.current _ _ _ present (.inl rfl)
        | holding other =>
          cases inside
          exact guarded.current _ _ _ present (.inr rfl)
        | unlinked other => cases dropping _ (mem_of_getElem? present)
        | _ => cases inside
      cases named.symm.trans current
      exact (contended_eq_false free differs locks).elim
  constructor
  · have here (other : Nat)
        (locked : ((host.put i (.locked inode)).inodeAt other).isSome = true) : other = i := by
      by_contra differs
      rw [inodeAt_put found, if_neg differs, alone _ differs] at locked
      cases locked
    intro first second firstLocked secondLocked
    rw [here _ firstLocked, here _ secondLocked]
  · intro other process held present locking
    rw [getElem?_put found] at present
    split_ifs at present
    · cases present
      rcases locking with same | same <;> cases same
      exact named
    · exact guarded.current _ _ _ present locking

theorem Guarded.unlink {inode : Inode}
    (found : host.processes[i]? = some (.holding inode)) (fails : Bool) :
    ({ host with named := if fails then host.named else none }.put i
      (.unlinked inode)).Guarded := by
  refine guarded.move found (fun _ => rfl) ?_ ?_
  · rintro inode (same | same) <;> cases same
  · intro other process held differs present locking
    have here : (host.inodeAt i).isSome = true := by simp [inodeAt, found, Place.lockedInode]
    have there : (host.inodeAt other).isSome = true := by
      rcases locking with rfl | rfl <;> simp [inodeAt, present, Place.lockedInode]
    exact (differs (guarded.single _ i there here)).elim

theorem Guarded.lock (i : Nat) (failure : Option Text)
    (met : host.LocksNamed (.lock i failure)) : (host.step file (.lock i failure)).Guarded := by
  simp only [step]
  split
  · next inode found =>
      cases failure with
      | some source => exact guarded.put_unlocked found rfl
      | none =>
        cases free : host.contended i inode with
        | true =>
          simp only [tryLockExclusive, free]
          exact guarded.put_unlocked found rfl
        | false =>
          have takes : inode ∈ host.taken (.lock i none) := by simp [taken, found, free]
          obtain ⟨named, dropping⟩ := met _ takes
          simp only [tryLockExclusive, free]
          exact guarded.locked found free named dropping
  · exact guarded

theorem Guarded.write (i : Nat) (failure : Option Text) :
    (host.step file (.write i failure)).Guarded := by
  simp only [step]
  split
  · next inode found =>
      cases failure with
      | some source => exact guarded.put_unlocked found rfl
      | none =>
        refine guarded.put found (fun _ => rfl) ?_
        rintro held (same | same)
        · cases same
        · cases same
          exact guarded.current _ _ _ found (.inl rfl)
  · exact guarded

end

theorem Guarded.step (guarded : host.Guarded) (ev : Event)
    (met : host.LocksNamed ev) : (host.step file ev).Guarded := by
  cases ev with
  | started => exact guarded.started
  | parentDir i failure =>
    simp only [PidFileHost.step]
    split
    · next found => exact guarded.put_unlocked found (ensureParentDir_unlocked failure)
    · exact guarded
  | openFile i failure =>
    simp only [PidFileHost.step]
    split
    · next found => exact guarded.openPidfile found failure
    · exact guarded
  | lock i failure => exact guarded.lock i _ met
  | write i failure => exact guarded.write i _
  | unlink i fails =>
    simp only [PidFileHost.step]
    split
    · next inode found => exact guarded.unlink found fails
    · exact guarded
  | close i =>
    simp only [PidFileHost.step]
    split
    · next inode found => exact guarded.put_unlocked found rfl
    · exact guarded
  | killed i =>
    simp only [PidFileHost.step]
    cases found : host.processes[i]? with
    | some old => exact guarded.put_unlocked found rfl
    | none =>
      have same : host.put i .closed = host := by
        rw [PidFileHost.put, set_eq_of_length_le (getElem?_eq_none_iff.mp found)]
      rw [same]
      exact guarded

theorem Guarded.exclusive (guarded : host.Guarded) : host.Exclusive := by
  have locks (i : Nat) (place : Place) (present : host.processes[i]? = some place)
      (holds : place.holds = true) : (host.inodeAt i).isSome = true := by
    cases place with
    | holding inode
    | unlinked inode => simp [inodeAt, present, Place.lockedInode]
    | _ => cases holds
  intro first second place other firstAt firstHolds secondAt secondHolds
  exact guarded.single _ _ (locks _ _ firstAt firstHolds) (locks _ _ secondAt secondHolds)

end

theorem start_guarded {stale : Bool} : (start stale).Guarded where
  single := by
    intro first second locked
    simp [start, inodeAt] at locked
  current := by
    intro i place inode present
    simp [start] at present

/--
In every run in which locks are only taken on the inode that the path names,
and not while a process is between its unlink and its close, at most one
process has a guard.
-/
theorem exclusive_of_locksNamed (file : PidFilePath) (stale : Bool) (events : List Event)
    (along : Along (step file) LocksNamed (start stale) events) :
    Throughout (step file) Exclusive (start stale) events := by
  have guarded :=
    @throughout_of_along _ _ _ _ _ (fun _ ev met guarded => guarded.step _ met)
      _ start_guarded _ along
  exact guarded.imp fun _ guarded => guarded.exclusive

def acquisition (i : Nat) : List Event :=
  [.parentDir i none, .openFile i none, .lock i none, .write i none]

def secondDaemon : List Event := [.started] ++ acquisition 0 ++ [.started] ++ acquisition 1

def sampleFile : PidFilePath where
  path := "presenced.pid".toList
  parent := none

/-- The second daemon is refused, and the first one stays the only one. -/
theorem second_daemon_refused :
    (run (step sampleFile) (start false) secondDaemon).processes =
        [.holding 1, .failed (.alreadyRunning "presenced.pid".toList)] ∧
      Throughout (step sampleFile) Exclusive (start false) secondDaemon := by
  refine ⟨by decide, exclusive_of_locksNamed _ _ _ ?_⟩
  decide

/--
A second daemon opens the pidfile of the first one, which then ends; the
second one locks the unlinked inode, and a third one creates another.
-/
def unlinkedRun : List Event :=
  [.started] ++ acquisition 0 ++
    [.started, .parentDir 1 none, .openFile 1 none] ++
    [.unlink 0 false, .close 0] ++ [.lock 1 none, .write 1 none] ++ [.started] ++ acquisition 2

/-- Two daemons have the lock, each of an inode of its own. -/
theorem two_daemons_hold :
    (run (step sampleFile) (start false) unlinkedRun).processes =
        [.closed, .holding 1, .holding 2] ∧
      ¬ Throughout (step sampleFile) Exclusive (start false) unlinkedRun := by
  have places : (run (step sampleFile) (start false) unlinkedRun).processes =
      [.closed, .holding 1, .holding 2] := by
    decide
  refine ⟨places, ?_⟩
  intro throughout
  have exclusive := throughout.last
  have same := exclusive 1 2 _ _ (by rw [places]; rfl) rfl (by rw [places]; rfl) rfl
  cases same

end PidFileHost

end DeskUnlock.Daemon
