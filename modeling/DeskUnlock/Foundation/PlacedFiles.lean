import DeskUnlock.Foundation.FileLogic

/-!
# Putting directories and files in place

The groups of calls with which programs create a directory with a mode, and
write a file beside its place before it is renamed into it.
-/

namespace FilePrograms.Fallible

open Function

variable {Path Error Result : Type} [DecidableEq Path] {disk : Disk Path} {path tmp target : Path}

theorem exec_directory (unoccupied : ∀ bytes mode, disk path ≠ some (.file bytes mode)) (mode : ℕ)
    (first second : IoError → Error) (rest : Unit → Fallible Path Error Result) :
    Fallible.exec disk
        (do
          call (.createDirAll path) first
          let made ← call (.setPermissions path mode) second
          rest made) =
      Fallible.exec (update disk path (some (.directory mode))) (rest ()) := by
  rcases standing : disk path with _ | ⟨bytes, other⟩ | other
  · have created : (Action.createDirAll path).apply disk =
        some (update disk path (some (.directory 0o755))) := by
      simp [Action.apply, standing]
    have limited :
        (Action.setPermissions path mode).apply
            (update disk path (some (.directory 0o755))) =
          some (update disk path (some (.directory mode))) := by
      simp [Action.apply, Node.withMode]
    rw [exec_bind (exec_call created _), exec_bind (exec_call limited _)]
  · exact (unoccupied _ _ standing).elim
  · have created : (Action.createDirAll path).apply disk = some disk := by
      simp [Action.apply, standing]
    have limited : (Action.setPermissions path mode).apply disk =
        some (update disk path (some (.directory mode))) := by
      simp [Action.apply, standing, Node.withMode]
    rw [exec_bind (exec_call created _), exec_bind (exec_call limited _)]

theorem apply_write_file (free : ∀ mode, disk path ≠ some (.directory mode))
    (bytes : List UInt8) : ∃ mode, (Action.write path bytes).apply disk =
    some (update disk path (some (.file bytes mode))) := by
  rcases standing : disk path with _ | ⟨old, mode⟩ | mode
  · exact ⟨0o644, by simp [Action.apply, overwrite, standing]⟩
  · exact ⟨mode, by simp [Action.apply, overwrite, standing]⟩
  · exact (free _ standing).elim

theorem exec_placed (apart : target ≠ tmp) (free : ∀ mode, disk tmp ≠ some (.directory mode))
    (vacant : ∀ mode, disk target ≠ some (.directory mode)) (bytes : List UInt8) (mode : ℕ)
    (convert : IoError → Error) (rest : Unit → Fallible Path Error Result) :
    Fallible.exec disk
        (do
          call (.write tmp bytes) convert
          call (.setPermissions tmp mode) convert
          let placed ← call (.rename tmp target) convert
          rest placed) =
      Fallible.exec (update (update disk tmp none) target (some (.file bytes mode))) (rest ()) := by
  obtain ⟨other, written⟩ := apply_write_file free _
  have limited :
      (Action.setPermissions tmp mode).apply
          (update disk tmp (some (.file bytes other))) =
        some (update disk tmp (some (.file bytes mode))) := by
    simp [Action.apply, Node.withMode]
  have renamed : (Action.rename tmp target).apply (update disk tmp (some (.file bytes mode))) =
      some (update (update disk tmp none) target (some (.file bytes mode))) := by
    rcases standing : disk target with _ | ⟨old, given⟩ | old
    · simp [Action.apply, update_of_ne apart, standing]
    · simp [Action.apply, update_of_ne apart, standing]
    · exact (vacant _ standing).elim
  rw [exec_bind (exec_call written convert), exec_bind (exec_call limited convert),
    exec_bind (exec_call renamed convert)]

end FilePrograms.Fallible
