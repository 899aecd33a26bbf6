import Scaffold.Path

/-!
# Maps from paths

A map whose keys are places: paths with equal components are one key, and a key keeps the spelling
under which it was first put. Entries are in the order of their keys.
-/

namespace Scaffold

/-- A map from places, as entries in the order of their keys. -/
structure PathMap (α : Type) where
  entries : List (Path × α)
deriving DecidableEq, Repr

namespace PathMap

variable {α : Type}

/-- The map without entries. -/
def empty : PathMap α := ⟨[]⟩

/-- The value at a place. -/
def get? (m : PathMap α) (p : Path) : Option α :=
  (m.entries.find? fun e => e.1.components = p.components).map (·.2)

/-- Whether there is a value at a place. -/
def has (m : PathMap α) (p : Path) : Bool :=
  m.entries.any fun e => e.1.components = p.components

/-- The entries with the value `f old` at a place, where `old` is the value there, if any. -/
def alterEntries (p : Path) (f : Option α → α) : List (Path × α) → List (Path × α)
  | [] => [(p, f none)]
  | (q, a) :: rest =>
    match p.order q with
    | .lt => (p, f none) :: (q, a) :: rest
    | .eq => (q, f (some a)) :: rest
    | .gt => (q, a) :: alterEntries p f rest

/-- The map with the value `f old` at a place, where `old` is the value there, if any. -/
def alter (m : PathMap α) (p : Path) (f : Option α → α) : PathMap α :=
  ⟨alterEntries p f m.entries⟩

/-- The map with a value at a place. -/
def put (m : PathMap α) (p : Path) (a : α) : PathMap α :=
  m.alter p fun _ => a

/-- The number of places with a value. -/
def size (m : PathMap α) : Nat :=
  m.entries.length

end PathMap

end Scaffold
