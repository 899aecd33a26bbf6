import Scaffold.Fault
import Scaffold.Text.Pieces

/-!
# Failures of a run

A failure says which operation on which file failed, and how. A failure summary counts failures by
operation and groups their files by kind; the kind is read off the wording of the failure.
-/

namespace Scaffold

/-- An operation of a run that can fail. -/
inductive Operation where
  | read
  | parse
  | synthesize
  | write
deriving DecidableEq, Repr, Inhabited

namespace Operation

/-- All operations, in order. -/
def all : List Operation := [read, parse, synthesize, write]

/-- The place of an operation in the order. -/
def rank : Operation → Nat
  | read => 0
  | parse => 1
  | synthesize => 2
  | write => 3

instance : Ord Operation where
  compare a b := compare a.rank b.rank

/-- The name of an operation. -/
def title : Operation → String
  | read => "File read"
  | parse => "File parse"
  | synthesize => "Synthesis"
  | write => "File write"

end Operation

/-- An operation on a file that failed. -/
structure Failure where
  path : Path
  operation : Operation
  /-- The wording of the fault. -/
  error : String
deriving DecidableEq, Repr, Inhabited

/-- A failure by a fault. -/
def Failure.ofFault (path : Path) (operation : Operation) (f : Fault) : Failure :=
  ⟨path, operation, f.message⟩

/-- The kind of failure that a wording tells of. -/
def errorKind (error : String) : String :=
  if Text.mentions error "Permission denied" then "Permission denied"
  else if Text.mentions error "No such file" || Text.mentions error "not found" then
    "File not found"
  else if Text.begins error "Parse error" then "Parse error"
  else if Text.begins error "No default value" then "Unresolved default"
  else (Text.firstLine? error).getD "Unknown error"

/-- Failures, counted and grouped. -/
structure FailureSummary where
  total : Nat
  /-- The operations that failed with the number of their failures, in the order of operations. -/
  byOperation : List (Operation × Nat)
  /-- The kinds of failure with the files of their failures, in the order of the kinds' names. -/
  byKind : List (String × List Path)
deriving DecidableEq, Repr

namespace FailureSummary

/-- The kinds of some failures, each once, in order. -/
def kinds (failures : List Failure) : List String :=
  ((failures.map fun f => errorKind f.error).eraseDups).mergeSort fun a b => !(b < a)

/-- The summary of some failures. -/
def ofFailures (failures : List Failure) : FailureSummary where
  total := failures.length
  byOperation :=
    (Operation.all.map fun o => (o, failures.countP (·.operation = o))).filter (·.2 ≠ 0)
  byKind := (kinds failures).map fun kind =>
    (kind, (failures.filter fun f => errorKind f.error = kind).map (·.path))

/-- The most files that a report lists for a kind. -/
def listedPaths : Nat := 3

/-- The lines of a report on a kind of failure. -/
def kindLines (kind : String) (paths : List Path) : List String :=
  ("  " ++ kind ++ ": " ++ toString paths.length ++ " file(s)\n") ::
    (paths.take listedPaths).map (fun p => "    - " ++ p.text ++ "\n") ++
    if listedPaths < paths.length then
      ["    ... and " ++ toString (paths.length - listedPaths) ++ " more\n"]
    else []

/-- The report of a summary. -/
def report (s : FailureSummary) : String :=
  String.join (
    "\nFailure breakdown:\n" ::
    s.byOperation.map (fun (o, n) => "  " ++ o.title ++ ": " ++ toString n ++ "\n") ++
    "\nError categories:\n" ::
    s.byKind.flatMap fun (kind, paths) => kindLines kind paths)

end FailureSummary

end Scaffold
