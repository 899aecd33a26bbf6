import Scaffold.CommandLine.Options
import Scaffold.Pipeline.Run
import Scaffold.Settings.Loading

/-!
# Sessions

What the command does on a system: it finds its settings, passes over sources that are not there,
runs, and ends with an exit code, a journal and what it says.
-/

namespace Scaffold

open CommandLine (Options)

/-- How a session ends. -/
structure Ending where
  exitCode : Nat
  journal : Journal
  /-- What is said beside the journal. -/
  message : String
deriving Repr

namespace Session

variable {m : Type → Type} [Monad m] [System m]

/-- A record of the session itself. -/
def record (severity : Severity) (message : String) (fields : List (String × String) := []) :
    LogRecord :=
  .plain severity "testgen" message fields

/-! ## Failing -/

/-- A cause, each of its lines behind a margin and the first one behind a heading. -/
def indented (heading margin : String) (cause : String) : String :=
  heading ++ ("\n" ++ margin).intercalate (Text.pieces (· = '\n') cause)

/-- The causes below a failure: numbered, if there are several. -/
def causeLines (causes : List String) : List String :=
  match causes with
  | [cause] => [indented "    " "    " cause]
  | causes => causes.zipIdx.map fun (cause, i) =>
    indented ("    " ++ toString i ++ ": ") "       " cause

/-- What is said of a fault that ends a session. -/
def failureMessage (activity : String) (f : Fault) : String :=
  "Error: " ++ activity ++ "\n\nCaused by:\n" ++
    "\n".intercalate (causeLines (f.message :: f.cause?.toList)) ++ "\n"

/-- The ending by a fault. -/
def fail (journal : Journal) (activity : String) (f : Fault) : Ending :=
  ⟨1, journal, failureMessage activity f⟩

/-! ## Settings -/

/-- The settings of a session before the command line is applied: from the named file, or from the
nearest one to the working directory. -/
def loadSettings (o : Options) (workingDirectory : Except String Path) :
    m (Except Fault (Settings × Journal)) := do
  match o.config, workingDirectory with
  | some p, _ => return (← Settings.load p).map fun s => (s, [])
  | none, .ok directory => return .ok (← Settings.loadNear directory)
  | none, .error problem =>
    return .ok (.default, [.plain .warn Settings.component
      ("Failed to get current directory: " ++ problem ++ ". Using default config.")])

/-- The record of a requested pool size that is too great. -/
def clampRecord? (size : Nat) : Option LogRecord :=
  if Pools.most < size then
    some (.plain .warn "testgen::cli::setup"
      ("Pool size " ++ toString size ++ " is above " ++ toString Pools.most ++ "; using " ++
        toString Pools.most))
  else none

/-- The pools in a record. -/
def poolsText (p : Pools) : String :=
  "PipelineConfig \x7b " ++
    ", ".intercalate (Stage.all.map fun stage => stage.setting ++ ": " ++ toString (p.size stage)) ++
    " \x7d"

/-- Settings with the pool sizes that the command line asks for. -/
def applyRequests (o : Options) (s : Settings) : Settings :=
  { s with pools := s.pools.request o.reading o.processing o.writing }

/-- The settings of a session, and the records of finding them. -/
def resolveSettings (o : Options) (workingDirectory : Except String Path) :
    m (Except Fault (Settings × Journal)) := do
  match ← loadSettings o workingDirectory with
  | .error f => return .error f
  | .ok (loaded, journal) =>
    let s := applyRequests o loaded
    let clamps := ([o.reading, o.processing, o.writing].filterMap id).filterMap clampRecord?
    return .ok (s, journal ++ clamps ++
      [record .info "resolved configuration" [("pipeline", poolsText s.pools)]])

/-! ## Sources -/

/-- The record of a source that is not there. -/
def missingRecord (p : Path) : LogRecord :=
  record .warn ("Source file " ++ p.text ++ " does not exist, skipping")

/-- The sources that are there, and the records of those that are not. -/
def existingSources : List Path → m (List Path × Journal)
  | [] => return ([], [])
  | p :: rest => do
    let isThere ← System.isFile p
    let (sources, journal) ← existingSources rest
    return if isThere then (p :: sources, journal) else (sources, missingRecord p :: journal)

/-! ## The session -/

/-- What is said of a report. The summary is left out of a quiet success. -/
def reportMessage (o : Options) (r : Report) (colour : Bool) : String :=
  (if 0 < o.verbosity || !r.isCompleteSuccess then r.summary else "") ++ r.brief colour ++ "\n"

/-- Does what a command asks for. -/
def run (o : Options) (workingDirectory : Except String Path) (colour : Bool) : m Ending := do
  match ← resolveSettings o workingDirectory with
  | .error f =>
    return fail [] ("Failed to load config from " ++ (o.config.map Path.text).getD "") f
  | .ok (settings, resolved) =>
    let (sources, missing) ← existingSources o.sourcePaths
    let plan := Pipeline.Plan.ofSettings settings.synthesis o.outputDirectory
    match ← plan.run settings.pools sources with
    | .error f =>
      return fail (resolved ++ missing) ("Failed to generate into " ++ o.outputDirectory.text) f
    | .ok c =>
      return ⟨0, resolved ++ missing ++ c.journal, reportMessage o c.report colour⟩

end Session

end Scaffold
