import Scaffold.Proofs.Store.PathMap
import Scaffold.Store.Memory

/-!
# What the operations of a file system in memory depend on

Reading looks at the files only. Whether a file may be written depends on the directories only
(`Memory.permits`), and writing changes the files only. Making a directory leaves the files alone.
-/

namespace Scaffold.Memory

variable {m m' : Memory} {p : Path}

/-- What a file system says when a file is to be written. -/
def permits (m : Memory) (p : Path) : Except Fault Unit :=
  if m.directories.has p then .error (refusal (p.text ++ " is a directory") p)
  else if m.hasParent p then .ok ()
  else .error (refusal ("Parent directory missing for " ++ p.text) p)

/-- What a file system permits depends on its directories. -/
theorem permits_congr (h : m.directories = m'.directories) (p : Path) :
    m.permits p = m'.permits p := by
  unfold permits hasParent
  rw [h]

/-- A file that may be written is written. -/
theorem run_write_of_permits (h : m.permits p = .ok ()) (content : String) :
    (FileSystem.write p content : StateM Memory _).run m =
      (.ok (), { m with files := m.files.put p content }) := by
  change m.outcome (m.write p content) = _
  unfold permits at h
  split at h
  · cases h
  · split at h
    · simp [write, outcome, *]
    · cases h

/-- A file that may not be written is refused, and nothing changes. -/
theorem run_write_of_refuses {f : Fault} (h : m.permits p = .error f) (content : String) :
    (FileSystem.write p content : StateM Memory _).run m = (.error f, m) := by
  change m.outcome (m.write p content) = _
  unfold permits at h
  split at h
  · cases h
    simp [write, outcome, *]
  · split at h
    · cases h
    · cases h
      simp [write, outcome, *]

/-- A directory is made where there is no file. -/
theorem run_makeDirectory (h : m.files.has p = false) :
    (FileSystem.makeDirectory p : StateM Memory _).run m =
      (.ok (), { m with directories := addDirectories m.directories p }) := by
  change m.outcome (m.makeDirectory p) = _
  simp [makeDirectory, outcome, h]

/-- A directory that can be made is made. -/
theorem run_makeDirectory_of_ok (h : m.makeDirectory p = .ok m') :
    (FileSystem.makeDirectory p : StateM Memory _).run m = (.ok (), m') := by
  change m.outcome (m.makeDirectory p) = _
  rw [h]
  rfl

/-- A directory that cannot be made is refused, and nothing changes. -/
theorem run_makeDirectory_of_error {f : Fault} (h : m.makeDirectory p = .error f) :
    (FileSystem.makeDirectory p : StateM Memory _).run m = (.error f, m) := by
  change m.outcome (m.makeDirectory p) = _
  rw [h]
  rfl

/-- Making a directory leaves the files alone. -/
theorem files_of_run_makeDirectory {answer : Except Fault Unit}
    (h : (FileSystem.makeDirectory p : StateM Memory _).run m = (answer, m')) :
    m'.files = m.files := by
  change m.outcome (m.makeDirectory p) = _ at h
  unfold makeDirectory at h
  split at h <;> cases h <;> rfl

end Scaffold.Memory
