import Scaffold.Store.System
import Scaffold.Text.Pieces

/-!
# A disk

A tree of directories and files with a working directory, as a system resolves paths in it: name by
name, each from a directory that is there, `.` for the directory itself and `..` for the one above.
A separator at the end of a path asks for a directory.
-/

namespace Scaffold

/-- What stands at a place of a disk. -/
inductive DiskNode where
  | directory
  | file (content : ByteArray)

/-- A place on a disk: the names on the way from the root. -/
abbrev Place := List String

/-- The nodes of a disk below the root, and the working directory. -/
structure Disk where
  nodes : List (Place × DiskNode)
  home : Place

namespace Disk

/-- The most bytes of a name. -/
def longestName : Nat := 255

/-- The most bytes of a path. -/
def longestPath : Nat := 4095

/-- What stands at a place; the root is a directory. -/
def get? (d : Disk) (place : Place) : Option DiskNode :=
  if place.isEmpty then some .directory
  else (d.nodes.find? fun n => n.1 = place).map (·.2)

/-- The disk with a node at a place, instead of what stands there. -/
def put (d : Disk) (place : Place) (node : DiskNode) : Disk :=
  { d with nodes := d.nodes.filter (fun n => n.1 ≠ place) ++ [(place, node)] }

/-! ## Resolving paths -/

/-- The names in a path, with `.` and `..`. -/
def names (p : Path) : List String :=
  ((Text.pieces Path.isSeparator p.text).filter fun s => !s.isEmpty)

/-- Whether a path asks for a directory. -/
def asksForDirectory (p : Path) : Bool :=
  p.text.toList.getLast?.any Path.isSeparator

/-- Goes on from a place by a name. The place must be a directory; what it leads to need not be
there. -/
def step (d : Disk) (place : Place) (name : String) : Except Refusal Place :=
  match d.get? place with
  | none => .error .noEntry
  | some (.file _) => .error .notDirectory
  | some .directory =>
    if name = "." then .ok place
    else if name = ".." then .ok place.dropLast
    else if longestName < name.utf8ByteSize then .error .nameTooLong
    else .ok (place ++ [name])

/-- Goes on from a place by names. -/
def walk (d : Disk) (place : Place) (names : List String) : Except Refusal Place :=
  names.foldlM d.step place

/-- Where a path starts, if it is a path at all. -/
def origin (d : Disk) (p : Path) : Except Refusal Place :=
  if p.text.contains '\x00' then .error .nullCharacter
  else if p.isEmpty then .error .noEntry
  else if longestPath < p.text.utf8ByteSize then .error .nameTooLong
  else .ok (if p.isAbsolute then [] else d.home)

/-- What a path leads to, or why it leads nowhere. -/
def resolve (d : Disk) (p : Path) : Except Refusal DiskNode := do
  let start ← d.origin p
  let place ← d.walk start (names p ++ if asksForDirectory p then ["."] else [])
  match d.get? place with
  | some node => return node
  | none => .error .noEntry

/-- The directory that the last name of a path is in, and that name; a path to a directory by `.`,
`..` or the root has no last name. -/
def resolveParent (d : Disk) (p : Path) : Except Refusal (Place × Option String) := do
  let start ← d.origin p
  match (names p).getLast? with
  | none => return (start, none)
  | some last =>
    let parent ← d.walk start ((names p).dropLast ++ ["."])
    return (parent, if last = "." || last = ".." then none else some last)

/-! ## Operations -/

/-- The text of a file. -/
def read (d : Disk) (p : Path) : Except Refusal String := do
  match ← d.resolve p with
  | .directory => .error .isDirectory
  | .file content =>
    match String.fromUTF8? content with
    | some text => return text
    | none => .error .notText

/-- Whether there is a file. -/
def isFile (d : Disk) (p : Path) : Bool :=
  match d.resolve p with
  | .ok (.file _) => true
  | _ => false

/-- Whether there is a directory. -/
def isDirectory (d : Disk) (p : Path) : Bool :=
  match d.resolve p with
  | .ok .directory => true
  | _ => false

/-- The disk with a content for a file. -/
def writeBytes (d : Disk) (p : Path) (content : ByteArray) : Except Refusal Disk := do
  match ← d.resolveParent p with
  | (_, none) => .error .isDirectory
  | (parent, some last) =>
    if asksForDirectory p then .error .isDirectory
    else
      let place ← d.step parent last
      match d.get? place with
      | some .directory => .error .isDirectory
      | _ => return d.put place (.file content)

/-- The disk with one more directory. -/
def addDirectory (d : Disk) (p : Path) : Except Refusal Disk := do
  match ← d.resolveParent p with
  | (_, none) => .error .alreadyExists
  | (parent, some last) =>
    let place ← d.step parent last
    match d.get? place with
    | some _ => .error .alreadyExists
    | none => return d.put place .directory

/-- Makes the first directory of a list, nearest first, that can be made or is there, and lists
those before it, farthest first. -/
def foundation (d : Disk) : List Path → Except Refusal (Disk × List Path)
  | [] => .ok (d, [])
  | p :: rest =>
    match d.addDirectory p with
    | .ok d => .ok (d, [])
    | .error .noEntry => do
      let (d, missing) ← foundation d rest
      return (d, missing ++ [p])
    | .error .alreadyExists => if d.isDirectory p then .ok (d, []) else .error .alreadyExists
    | .error refusal => .error refusal

/-- Makes directories one after another, until one is refused. -/
def addDirectories (d : Disk) : List Path → Except Refusal Unit × Disk
  | [] => (.ok (), d)
  | p :: rest =>
    match d.addDirectory p with
    | .ok d => addDirectories d rest
    | .error refusal =>
      if refusal = .alreadyExists && d.isDirectory p then addDirectories d rest
      else (.error refusal, d)

/-- Makes a directory and all directories that it is in. The empty path and the root are always
there. -/
def makeDirectory (d : Disk) (p : Path) : Except Refusal Unit × Disk :=
  let chain := p.ancestors.takeWhile fun a => !a.isEmpty && a.parent?.isSome
  match d.foundation chain with
  | .ok (d, missing) => d.addDirectories missing
  | .error refusal => (.error refusal, d)

/-- The nodes below the working directory, by their paths from there; a directory's path ends with a
separator. The paths are in order. -/
def listing (d : Disk) : List (String × Option ByteArray) :=
  let below := d.nodes.filterMap fun (place, node) =>
    if d.home.isPrefixOf place && place ≠ d.home then
      let text := "/".intercalate (place.drop d.home.length)
      match node with
      | .directory => some (text ++ "/", none)
      | .file content => some (text, some content)
    else none
  below.mergeSort fun a b => (compare a.1 b.1).isLE

instance : System (StateM Disk) where
  read p := fun d => (d.read p, d)
  write p content := fun d =>
    match d.writeBytes p content.toUTF8 with
    | .ok d' => (.ok (), d')
    | .error refusal => (.error refusal, d)
  makeDirectory p := fun d => d.makeDirectory p
  isFile p := fun d => (d.isFile p, d)

end Disk

end Scaffold
