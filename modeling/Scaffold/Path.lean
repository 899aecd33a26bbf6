import Scaffold.Text.Pieces

/-!
# Paths

A path is kept as it was written; its identity is its list of components. Repeated and trailing
separators and `.` components say nothing, except a `.` that opens a relative path, and `..` is
never resolved. Two paths name the same place when their components are equal (`Path.Same`), and
paths are ordered by their components.

`parent?` drops the last component, `ancestors` lists a path and all that `parent?` reaches from it,
and `join` writes one path after another.
-/

namespace Scaffold

open Text (piecesOf)

/-- A path, as written. -/
structure Path where
  text : String
deriving DecidableEq, Repr, Inhabited

namespace Path

/-- What a path consists of. -/
inductive Component where
  /-- The leading separator of an absolute path. -/
  | root
  /-- The `.` that opens a relative path. -/
  | current
  /-- A `..`. -/
  | up
  /-- Any other name between separators. -/
  | name (text : String)
deriving DecidableEq, Repr

namespace Component

/-- The place of a component's form in the order: root, current, up, names. -/
def rank : Component → Nat
  | root => 0
  | current => 1
  | up => 2
  | name _ => 3

/-- Components are ordered by form, and names by their code points. -/
instance : Ord Component where
  compare
    | name s, name t => compare s t
    | a, b => compare a.rank b.rank

end Component

/-- Whether a character separates components. -/
def isSeparator (c : Char) : Bool :=
  c == '/'

/-- The component that a segment after the first stands for, if any. -/
def componentOf? (segment : List Char) : Option Component :=
  match segment with
  | [] | ['.'] => none
  | ['.', '.'] => some .up
  | cs => some (.name (String.ofList cs))

/-- The components of the first segment of a relative path. -/
def openingOf (segment : List Char) : List Component :=
  if segment = ['.'] then [.current] else (componentOf? segment).toList

/-- The components of a path, in order. -/
def components (p : Path) : List Component :=
  match p.text.toList with
  | [] => []
  | c :: cs =>
    if isSeparator c then .root :: (piecesOf isSeparator cs).filterMap componentOf?
    else match piecesOf isSeparator (c :: cs) with
      | [] => []
      | first :: rest => openingOf first ++ rest.filterMap componentOf?

/-- Two paths are the same place when their components are equal. -/
def Same (p q : Path) : Prop :=
  p.components = q.components

instance : DecidableRel Same := fun p q => inferInstanceAs (Decidable (p.components = q.components))

/-- Paths are ordered by their components. -/
def order (p q : Path) : Ordering :=
  compare p.components q.components

/-- Whether a path begins at the root. -/
def isAbsolute (p : Path) : Bool :=
  p.text.toList.head?.any isSeparator

/-- Whether the path is written as the empty text. -/
def isEmpty (p : Path) : Bool :=
  p.text.isEmpty

/-- Whether a segment, with the segments before it, says nothing. -/
def isIdle (absolute : Bool) (segment : List Char) (before : List (List Char)) : Bool :=
  segment = [] || (segment = ['.'] && (absolute || before ≠ []))

/-- The segments, last first, without the idle ones at the end. -/
def settle (absolute : Bool) : List (List Char) → List (List Char)
  | [] => []
  | s :: before => if isIdle absolute s before then settle absolute before else s :: before

/-- The path written with the given segments, last first. -/
def ofSegments (absolute : Bool) (reversed : List (List Char)) : Path :=
  let body := ['/'].intercalate reversed.reverse
  ⟨String.ofList (if absolute then '/' :: body else body)⟩

/-- What is left after the last component, the last two and so on are dropped from the segments,
which are given last first. -/
def parentsOf (absolute : Bool) : List (List Char) → List Path
  | [] => []
  | s :: before =>
    if isIdle absolute s before then parentsOf absolute before
    else ofSegments absolute (settle absolute before) :: parentsOf absolute before

/-- The proper ancestors of a path, nearest first; the last is the root or the empty path. -/
def parents (p : Path) : List Path :=
  match p.text.toList with
  | [] => []
  | c :: cs =>
    if isSeparator c then parentsOf true (piecesOf isSeparator cs).reverse
    else parentsOf false (piecesOf isSeparator (c :: cs)).reverse

/-- The path without its last component. The root and the empty path have no parent. -/
def parent? (p : Path) : Option Path :=
  p.parents.head?

/-- A path and its proper ancestors, nearest first. -/
def ancestors (p : Path) : List Path :=
  p :: p.parents

/-- The path `q` read from `p`: an absolute `q` stands alone, and a separator goes between them
unless `p` is empty or ends with one. -/
def join (p q : Path) : Path :=
  if q.isAbsolute then q
  else match p.text.toList.getLast? with
    | none => q
    | some c => if isSeparator c then ⟨p.text ++ q.text⟩ else ⟨p.text ++ "/" ++ q.text⟩

/-- The path made of one text read from `p`. -/
def child (p : Path) (name : String) : Path :=
  p.join ⟨name⟩

end Path

end Scaffold
