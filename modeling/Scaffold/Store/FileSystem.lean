import Scaffold.Fault

/-!
# File systems

What a run asks of a file system. A refused operation is a value, so a run goes on after it.
-/

namespace Scaffold

/-- The operations on files that a run needs, as actions of a monad. -/
class FileSystem (m : Type → Type) where
  /-- The text of a file. -/
  read : Path → m (Except Fault String)
  /-- Replaces the text of a file, or makes the file. -/
  write : Path → String → m (Except Fault Unit)
  /-- Makes a directory and all directories that it is in. -/
  makeDirectory : Path → m (Except Fault Unit)
  /-- Whether there is a file. -/
  isFile : Path → m Bool

end Scaffold
