import Scaffold.Store.FileSystem

/-!
# Files of a system

The refusals of an operating system and the wording that a run gives them. Whatever offers the
operations of `System` is a file system for runs.
-/

namespace Scaffold

/-- Why a system refuses an operation on a path. -/
inductive Refusal where
  | noEntry
  | alreadyExists
  | notDirectory
  | isDirectory
  | nameTooLong
  /-- The content of a file is no text. -/
  | notText
  /-- The path has a character that no file name has. -/
  | nullCharacter
  | other (text : String)
deriving DecidableEq, Repr

namespace Refusal

/-- The words of the system. -/
def text : Refusal → String
  | noEntry => "No such file or directory (os error 2)"
  | alreadyExists => "File exists (os error 17)"
  | notDirectory => "Not a directory (os error 20)"
  | isDirectory => "Is a directory (os error 21)"
  | nameTooLong => "File name too long (os error 36)"
  | notText => "stream did not contain valid UTF-8"
  | nullCharacter => "file name contained an unexpected NUL byte"
  | other text => text

/-- The fault of an activity on a path that the system refuses. -/
def fault (activity : String) (p : Path) (r : Refusal) : Fault :=
  .fileSystem ("Failed to " ++ activity ++ " " ++ p.text ++ ": " ++ r.text) (some p) (some r.text)

end Refusal

/-- The operations of a system on its files, as actions of a monad. -/
class System (m : Type → Type) where
  /-- The text of a file. -/
  read : Path → m (Except Refusal String)
  /-- Replaces the content of a file by a text, or makes the file. -/
  write : Path → String → m (Except Refusal Unit)
  /-- Makes a directory and all directories that it is in. -/
  makeDirectory : Path → m (Except Refusal Unit)
  /-- Whether there is a file. -/
  isFile : Path → m Bool

instance {m : Type → Type} [Monad m] [System m] : FileSystem m where
  read p := return (← System.read p).mapError (Refusal.fault "read" p)
  write p content := return (← System.write p content).mapError (Refusal.fault "write" p)
  makeDirectory p := return (← System.makeDirectory p).mapError (Refusal.fault "create directory" p)
  isFile p := System.isFile p

end Scaffold
