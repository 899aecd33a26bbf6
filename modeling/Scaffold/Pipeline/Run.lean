import Scaffold.Pipeline.Load
import Scaffold.Store.FileSystem

/-!
# Runs

A run on a file system: the sizes of the pools are checked, the output directory is made, and the
actors take turns until none can do anything. Whatever fails after that is an event of the run and
no fault: `run` refuses only a run that cannot start.
-/

namespace Scaffold.Pipeline

variable {m : Type → Type} [Monad m] [FileSystem m]

/-- Takes a turn on a file system. -/
def Turn.perform {σ : Type} : Turn σ → m σ
  | step next => pure next
  | read path next => return next (← FileSystem.read path)
  | generate _ _ next => pure next
  | write item target next => return next (← FileSystem.write target item.file.content)

namespace Plan

variable (plan : Plan)

/-- The turn of the first actor that can do something. -/
def nextTurn? (s : Progress) : Option (Turn Progress) :=
  s.actors.findSome? (plan.turn? s)

/-- The turn that comes next is a turn of some actor. -/
theorem next_of_nextTurn? {s t : Progress} {turn : Turn Progress} {deed : Option Deed}
    (h : plan.nextTurn? s = some turn) (ht : turn.LeadsTo deed t) : plan.Next s t := by
  obtain ⟨actor, -, h⟩ := List.exists_of_findSome?_eq_some h
  exact ⟨deed, actor, turn, h, ht⟩

/-- Takes turns until no actor can do anything. -/
def drain (s : Progress) : m Progress :=
  match h : plan.nextTurn? s with
  | none => return s
  | some (.step t) =>
    have : t.Lighter s := (plan.next_of_nextTurn? h (.step t)).lowers
    drain t
  | some (.read path next) => do
    let answer ← FileSystem.read path
    have : (next answer).Lighter s := (plan.next_of_nextTurn? h (.read path next answer)).lowers
    drain (next answer)
  | some (.generate text outcome t) =>
    have : t.Lighter s := (plan.next_of_nextTurn? h (.generate text outcome t)).lowers
    drain t
  | some (.write item target next) => do
    let answer ← FileSystem.write target item.file.content
    have : (next answer).Lighter s :=
      (plan.next_of_nextTurn? h (.write item target next answer)).lowers
    drain (next answer)
termination_by s.load
decreasing_by all_goals exact this

end Plan

/-- What came of a run. -/
structure Conclusion where
  report : Report
  journal : Journal
deriving Repr

/-- The record of an output that was written more than once. -/
def overwriteRecord (output : Path) (count : Nat) : LogRecord :=
  .plain .warn "testgen::pipeline::report"
    (output.text ++ " was written " ++ toString count ++
      " times in one run; the last write wins")

/-- The report of a run at its end, and its journal with the records on the report. -/
def Progress.conclusion (s : Progress) : Conclusion :=
  let report := Report.ofEvents s.submitted s.events
  { report
    journal := s.journal ++
      report.duplicateOutputs.map (fun (output, count) => overwriteRecord output count) ++
      [.plain .debug "testgen::pipeline" "pipeline drained" [
        ("written", toString report.successCount), ("failed", toString report.failureCount)]] }

/-- What is being done when the output directory cannot be made. -/
def preparation : String := "Failed to prepare output directory"

/-- Runs a plan on some sources. -/
def Plan.run (plan : Plan) (pools : Pools) (sources : List Path) : m (Except Fault Conclusion) := do
  match pools.validate with
  | .error f => return .error f
  | .ok () =>
    match ← FileSystem.makeDirectory plan.outputDirectory with
    | .error f => return .error (f.whileDoing preparation)
    | .ok () => return .ok (← plan.drain (Progress.start pools sources)).conclusion

end Scaffold.Pipeline
