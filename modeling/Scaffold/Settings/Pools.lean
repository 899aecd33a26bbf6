import Scaffold.Fault

/-!
# Sizes of worker pools

A run has three pools of workers, one per stage. A pool needs a worker, or its stage never ends, and
has at most `Pools.most`, because every worker is a thread. Sizes given on a command line are
brought into that range; sizes from settings are checked.
-/

namespace Scaffold

/-- A stage of a run. -/
inductive Stage where
  | reading
  | processing
  | writing
deriving DecidableEq, Repr

namespace Stage

/-- All stages, in order. -/
def all : List Stage := [reading, processing, writing]

/-- The name of the setting for the pool of a stage. -/
def setting : Stage → String
  | reading => "max_reading_tasks"
  | processing => "max_processing_tasks"
  | writing => "max_writing_tasks"

end Stage

/-- The number of workers of each stage. -/
structure Pools where
  reading : Nat
  processing : Nat
  writing : Nat
deriving DecidableEq, Repr

namespace Pools

/-- The number of workers of a stage when nothing is set. -/
def usual : Nat := 5

/-- The greatest number of workers of a stage. -/
def most : Nat := 256

/-- The same number of workers for each stage. -/
def uniform (n : Nat) : Pools := ⟨n, n, n⟩

/-- The pools when nothing is set. -/
def default : Pools := uniform usual

/-- The number of workers of a stage. -/
def size (p : Pools) : Stage → Nat
  | .reading => p.reading
  | .processing => p.processing
  | .writing => p.writing

/-- The pools with the sizes that are given. -/
def override (p : Pools) (reading processing writing : Option Nat) : Pools :=
  ⟨reading.getD p.reading, processing.getD p.processing, writing.getD p.writing⟩

/-- A pool size out of range. -/
inductive Problem where
  | tooSmall (stage : Stage)
  | tooLarge (stage : Stage) (size : Nat)
deriving DecidableEq, Repr

/-- The fault that a pool size out of range is. -/
def Problem.fault : Problem → Fault
  | tooSmall stage => .validation (stage.setting ++ " must be at least 1")
  | tooLarge stage size =>
    .validation
      (stage.setting ++ " must be at most " ++ toString most ++ ", got " ++ toString size)

/-- What is wrong with the size of a stage, if something is. -/
def problemAt? (p : Pools) (stage : Stage) : Option Problem :=
  if p.size stage = 0 then some (.tooSmall stage)
  else if most < p.size stage then some (.tooLarge stage (p.size stage))
  else none

/-- The first size out of range, if there is one. -/
def problem? (p : Pools) : Option Problem :=
  Stage.all.findSome? p.problemAt?

/-- Refuses pools with a size out of range. -/
def validate (p : Pools) : Except Fault Unit :=
  match p.problem? with
  | some problem => .error problem.fault
  | none => .ok ()

/-- The size that a number on the command line asks for: zero asks for the usual size, and a number
beyond the greatest size for that size. -/
def requested (n : Nat) : Nat :=
  if n = 0 then usual else min n most

/-- The pools with the sizes that are asked for on the command line. -/
def request (p : Pools) (reading processing writing : Option Nat) : Pools :=
  p.override (reading.map requested) (processing.map requested) (writing.map requested)

end Pools

end Scaffold
