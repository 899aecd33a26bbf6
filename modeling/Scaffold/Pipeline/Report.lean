import Scaffold.Decimal
import Scaffold.Pipeline.Failure
import Scaffold.Store.PathMap
import Scaffold.Total

/-!
# Reports of runs

A report is made of the events of a run. Its lists are sorted, so that the order in which workers
happened to finish does not show.
-/

namespace Scaffold

/-- What happened in a run. -/
inductive Event where
  /-- A source was generated from, with so many classes. -/
  | generated (source : Path) (classes : Nat)
  | written (source output : Path)
  | failed (failure : Failure)
deriving DecidableEq, Repr

/-- A test file that was written. -/
structure Written where
  source : Path
  output : Path
deriving DecidableEq, Repr

/-- The order of written files: by source, then by output. -/
def Written.order (a b : Written) : Ordering :=
  (a.source.order b.source).then (a.output.order b.output)

/-- The order of failures: by file, then by operation, then by wording. -/
def Failure.order (a b : Failure) : Ordering :=
  ((a.path.order b.path).then (compare a.operation b.operation)).then (compare a.error b.error)

/-- The outcome of a run. -/
structure Report where
  /-- The number of sources that were handed to the readers. -/
  submitted : Nat
  /-- The number of sources that were generated from. -/
  generated : Nat
  /-- The number of classes that a test file was generated for. -/
  classes : Nat
  written : List Written
  failures : List Failure
deriving DecidableEq, Repr

namespace Event

/-- The number of classes of a source that was generated from. -/
def classes? : Event → Option Nat
  | generated _ n => some n
  | _ => none

/-- The file that was written. -/
def written? : Event → Option Written
  | written source output => some ⟨source, output⟩
  | _ => none

/-- The failure that happened. -/
def failure? : Event → Option Failure
  | failed f => some f
  | _ => none

end Event

namespace Report

/-- The report on events. -/
def ofEvents (submitted : Nat) (events : List Event) : Report :=
  let generated := events.filterMap Event.classes?
  { submitted
    generated := generated.length
    classes := total id generated
    written := (events.filterMap Event.written?).mergeSort fun a b => (a.order b).isLE
    failures := (events.filterMap Event.failure?).mergeSort fun a b => (a.order b).isLE }

/-- The number of written files. -/
def successCount (r : Report) : Nat := r.written.length

/-- The number of failures. -/
def failureCount (r : Report) : Nat := r.failures.length

/-- The number of written files and failures. -/
def totalCount (r : Report) : Nat := r.successCount + r.failureCount

/-- Whether nothing failed. -/
def isCompleteSuccess (r : Report) : Bool := r.failures.isEmpty

/-- The part of successes among all outcomes; one if there is no outcome. -/
def successRate (r : Report) : Float :=
  if r.totalCount = 0 then 1.0
  else Float.ofNat r.successCount / Float.ofNat r.totalCount

/-- How often each output was written. -/
def writeCounts (r : Report) : PathMap Nat :=
  r.written.foldl (fun counts w => counts.alter w.output fun n => n.getD 0 + 1) .empty

/-- The outputs that were written more than once, with the number of times. -/
def duplicateOutputs (r : Report) : List (Path × Nat) :=
  r.writeCounts.entries.filter fun e => 1 < e.2

/-- The summary of a run, with the summary of its failures if there are any. -/
def summary (r : Report) : String :=
  String.join [
    "\nGeneration Summary:\n",
    "  Source files submitted: " ++ toString r.submitted ++ "\n",
    "  Source files generated: " ++ toString r.generated ++ "\n",
    "  Test files written: " ++ toString r.successCount ++ "\n",
    "  Failures: " ++ toString r.failureCount ++ "\n",
    "  Success rate: " ++ fixedDecimal 1 (r.successRate * 100.0) ++ "%\n",
    if r.isCompleteSuccess then "" else (FailureSummary.ofFailures r.failures).report]

/-- A text in a colour of the terminal. -/
def coloured (code text : String) : String :=
  "\x1b[" ++ code ++ "m" ++ text ++ "\x1b[0m"

/-- The outcome in one line: green for a complete success and yellow otherwise, if colour is
wanted. -/
def brief (r : Report) (colour : Bool) : String :=
  let wrote := " Wrote " ++ toString r.successCount ++ " test files"
  let (code, text) :=
    if r.isCompleteSuccess then ("32", "✓" ++ wrote)
    else ("33", "⚠" ++ wrote ++ " (" ++ toString r.failureCount ++ " failed)")
  if colour then coloured code text else text

end Report

end Scaffold
