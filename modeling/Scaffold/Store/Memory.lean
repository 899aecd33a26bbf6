import Scaffold.Store.FileSystem
import Scaffold.Store.PathMap

/-!
# A file system in memory

Files and directories are kept by place. A file can be written where its parent directory is
recorded, or where its path has no parent but the empty one; making a directory records all its
ancestors. Nothing here looks at what an ancestor of a directory is: a directory may be made beneath
a file.
-/

namespace Scaffold

/-- A file system in memory. -/
structure Memory where
  files : PathMap String
  directories : PathMap Unit
deriving DecidableEq, Repr

namespace Memory

/-- The file system without files and directories. -/
def empty : Memory := ⟨.empty, .empty⟩

/-- The refusal of an operation on a path. -/
def refusal (text : String) (p : Path) : Fault :=
  .fileSystem text (some p) none

/-- The directories with a path and its ancestors, except the empty path. -/
def addDirectories (directories : PathMap Unit) (p : Path) : PathMap Unit :=
  (p.ancestors.takeWhile fun a => !a.isEmpty).foldl (fun ds a => ds.put a ()) directories

/-- The file system with a file and the directories that it is in. -/
def seed (m : Memory) (p : Path) (content : String) : Memory :=
  { files := m.files.put p content
    directories :=
      match p.parent? with
      | some parent => addDirectories m.directories parent
      | none => m.directories }

/-- The content of a file. -/
def read (m : Memory) (p : Path) : Except Fault String :=
  match m.files.get? p with
  | some content => .ok content
  | none => .error (refusal ("No such file: " ++ p.text) p)

/-- Whether a file can be written beside the recorded directories: its parent is one of them, or it
has none but the empty path. -/
def hasParent (m : Memory) (p : Path) : Bool :=
  match p.parent? with
  | some parent => parent.isEmpty || m.directories.has parent
  | none => true

/-- The file system after a file is written. -/
def write (m : Memory) (p : Path) (content : String) : Except Fault Memory :=
  if m.directories.has p then .error (refusal (p.text ++ " is a directory") p)
  else if m.hasParent p then .ok { m with files := m.files.put p content }
  else .error (refusal ("Parent directory missing for " ++ p.text) p)

/-- The file system after a directory is made. -/
def makeDirectory (m : Memory) (p : Path) : Except Fault Memory :=
  if m.files.has p then .error (refusal (p.text ++ " exists and is a file") p)
  else .ok { m with directories := addDirectories m.directories p }

/-- Whether there is a file. -/
def isFile (m : Memory) (p : Path) : Bool :=
  m.files.has p

/-- The number of files. -/
def fileCount (m : Memory) : Nat :=
  m.files.size

/-- The outcome of an operation that changes a file system, and the file system after it: a refused
operation changes nothing. -/
def outcome (m : Memory) : Except Fault Memory → Except Fault Unit × Memory
  | .ok m' => (.ok (), m')
  | .error f => (.error f, m)

instance : FileSystem (StateM Memory) where
  read p := fun m => (m.read p, m)
  write p content := fun m => m.outcome (m.write p content)
  makeDirectory p := fun m => m.outcome (m.makeDirectory p)
  isFile p := fun m => (m.isFile p, m)

end Memory

end Scaffold
