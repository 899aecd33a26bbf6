import Scaffold.Journal.Record
import Scaffold.Pipeline.Stations
import Scaffold.Settings.Pools

/-!
# The machine of a run

A run is a submitter, which hands over the sources, and three stations that are joined by channels.
Each of these actors takes turns; `Plan.turn?` says what an actor does at its next turn, or that it
can do nothing now. A turn is a step, does the job of generating, or asks the file system for one
thing and goes on with the answer, whatever that is. So the behaviour of a run is stated for every
file system and for every order of turns: `Plan.Does` relates a state to the states that some turn
can lead to, with the job that is done on the way.

No order of turns goes on for ever: each turn takes work away from the first stage that it touches
(`Plan.Next.lowers`).
-/

namespace Scaffold.Pipeline

/-- What a run does with its sources. -/
structure Plan where
  generate : SourceText → Except Fault Generated
  outputDirectory : Path

/-- The plan with settings of synthesis. -/
def Plan.ofSettings (s : SynthesisSettings) (outputDirectory : Path) : Plan where
  generate t := Scaffold.generate s t.text (some t.path)
  outputDirectory := outputDirectory

/-- The place of a generated file. -/
def Plan.target (plan : Plan) (file : GeneratedFile) : Path :=
  plan.outputDirectory.child file.name

/-! ## States -/

/-- A run in the middle of its work. -/
structure Progress where
  /-- The sources that are not handed over. -/
  pending : List Path
  /-- The number of sources that were handed over. -/
  submitted : Nat
  /-- Whether the submitter is there. -/
  submitting : Bool
  paths : Channel Path
  readers : List Reader
  texts : Channel SourceText
  generators : List Generator
  items : Channel WriteItem
  writers : List Writer
  events : List Event
  journal : Journal
deriving Repr

namespace Progress

/-- A run before its first turn: no more readers and generators than sources. Whoever starts the run
makes the channels and gives every worker its ends, and then keeps only the end by which it submits.
Until then no worker can move, since its channel is empty and not closed. -/
def start (pools : Pools) (sources : List Path) : Progress :=
  let readers := min pools.reading sources.length
  let generators := min pools.processing sources.length
  { pending := sources
    submitted := 0
    submitting := true
    paths := ((Channel.ofCapacity (max readers 1)).share 0 readers).dropReceiver
    readers := .replicate readers .waiting
    texts :=
      ((Channel.ofCapacity (max generators 1)).share readers generators).dropSender.dropReceiver
    generators := .replicate generators .waiting
    items :=
      ((Channel.ofCapacity pools.writing).share generators pools.writing).dropSender.dropReceiver
    writers := .replicate pools.writing .waiting
    events := []
    journal := [.plain .info "testgen::pipeline" "starting pipeline" [
      ("sources", toString sources.length), ("readers", toString readers),
      ("generators", toString generators), ("writers", toString pools.writing)]] }

/-- Whether everybody has left. -/
def isFinished (s : Progress) : Bool :=
  !s.submitting && s.readers.all Worker.isGone && s.generators.all Worker.isGone &&
    s.writers.all Worker.isGone

/-- The station that reads. -/
def reading (s : Progress) : Station Path SourceText := ⟨s.paths, s.readers, s.texts⟩

/-- The station that generates. -/
def generating (s : Progress) : Station SourceText WriteItem := ⟨s.texts, s.generators, s.items⟩

/-- The station that writes. Nothing comes out of it, so its output has no ends. -/
def writing (s : Progress) : Station WriteItem Empty := ⟨s.items, s.writers, ⟨[], 0, 0, 0⟩⟩

/-- The state with another station that reads, after more events. -/
def withReading (s : Progress) (st : Station Path SourceText) (events : List Event) : Progress :=
  { s with paths := st.input, readers := st.pool, texts := st.output, events := s.events ++ events }

/-- The state with another station that generates, after more events. -/
def withGenerating (s : Progress) (st : Station SourceText WriteItem) (events : List Event) :
    Progress :=
  { s with
    texts := st.input, generators := st.pool, items := st.output, events := s.events ++ events }

/-- The state with another station that writes, after more events. -/
def withWriting (s : Progress) (st : Station WriteItem Empty) (events : List Event) : Progress :=
  { s with items := st.input, writers := st.pool, events := s.events ++ events }

/-- The state with more records. -/
def note (s : Progress) (journal : Journal) : Progress :=
  { s with journal := s.journal ++ journal }

/-- The state after the submitter has left and dropped its end. -/
def stopSubmitting (s : Progress) : Progress :=
  { s with submitting := false, paths := s.paths.dropSender }

end Progress

/-! ## Jobs -/

/-- A record of a worker about a file. -/
def record (activity : String) (path : Path) (severity : Severity) (message : String)
    (fields : List (String × String) := []) : LogRecord :=
  ⟨severity, "testgen::pipeline::stages", some ⟨activity, path⟩, message, fields⟩

/-- Why a type has no placeholder, in a record. -/
def reasonText : Fixture.Unresolved → String
  | .empty => "Empty"
  | .undeclarable type => "Undeclarable(" ++ Text.quoted type ++ ")"
  | .genericParameter name => "GenericParameter(" ++ Text.quoted name ++ ")"

/-- The record of an omission from a fixture for a class in a file. -/
def omissionRecord (path : Path) (o : Fixture.Omission) : LogRecord :=
  ⟨.warn, "testgen::synthesis", some ⟨"generate", path⟩,
    "skipping member without a default value strategy", [
      ("class", o.className), ("member", Text.quoted o.member),
      ("type_name", Text.quoted o.type), ("reason", reasonText o.reason)]⟩

/-- The record of a source that is given up. -/
def skipRecord (activity : String) (path : Path) (f : Fault) : LogRecord :=
  record activity path .warn ("Skipping " ++ path.text ++ ": " ++ f.message)

/-- What a reader is at after it has asked for the text of a file. -/
def Reader.after (path : Path) : Except Fault String → Reader
  | .ok text => .passing [] [⟨path, text⟩]
  | .error f => .passing [.failed (.ofFault path .read f)] []

/-- The records of a reader about a file that it has asked for. -/
def readRecords (path : Path) : Except Fault String → Journal
  | .ok text =>
    [record "read" path .debug "read source" [("bytes", toString text.utf8ByteSize)]]
  | .error f => [skipRecord "read" path f]

/-- The events of a successful generation. -/
def generationEvents (path : Path) (g : Generated) : List Event :=
  (g.omissions.map fun o => .failed (.ofFault path .synthesize o.fault)) ++
    [.generated path g.files.length]

/-- What a generator is at after it has worked on the text of a file. -/
def Generator.after (path : Path) : Except Fault Generated → Generator
  | .ok g => .passing (generationEvents path g) (g.files.map (WriteItem.mk path))
  | .error f => .passing [.failed (.ofFault path .parse f)] []

/-- The records of a generator about a file that it has worked on. -/
def generationRecords (path : Path) : Except Fault Generated → Journal
  | .ok g =>
    ⟨.debug, "testgen::generator", some ⟨"generate", path⟩, "collected class declarations",
        [("classes", toString g.files.length)]⟩ ::
      g.omissions.map (omissionRecord path) ++
      [record "generate" path .debug "generated test files" [("files", toString g.files.length)]]
  | .error f => [skipRecord "generate" path f]

/-- What a writer is at after it has asked for a file to be written. -/
def Writer.after (source target : Path) : Except Fault Unit → Writer
  | .ok () => .passing [.written source target] []
  | .error f => .passing [.failed (.ofFault target .write f)] []

/-- The record of a writer about a file that it has asked to be written. -/
def writeRecord (target : Path) : Except Fault Unit → LogRecord
  | .ok () => record "write" target .debug "wrote test file"
  | .error f => record "write" target .warn ("Failed to write " ++ target.text ++ ": " ++ f.message)

namespace Progress

/-- The state after reader `i` has asked for the text of a file. -/
def afterRead (s : Progress) (i : Nat) (path : Path) (answer : Except Fault String) : Progress :=
  { s with readers := s.readers.set i (Reader.after path answer) }.note (readRecords path answer)

/-- The state after generator `i` has worked on a text. -/
def afterGeneration (s : Progress) (i : Nat) (path : Path) (outcome : Except Fault Generated) :
    Progress :=
  { s with generators := s.generators.set i (Generator.after path outcome) }.note
    (generationRecords path outcome)

/-- The state after writer `i` has asked for a file to be written. -/
def afterWrite (s : Progress) (i : Nat) (source target : Path) (answer : Except Fault Unit) :
    Progress :=
  { s with writers := s.writers.set i (Writer.after source target answer) }.note
    [writeRecord target answer]

end Progress

/-! ## Turns -/

/-- An actor of a run. Workers are told apart by their number in their pool. -/
inductive Actor where
  | submitter
  | reader (i : Nat)
  | generator (i : Nat)
  | writer (i : Nat)
deriving DecidableEq, Repr

/-- The actors of a run. Those near the end of the line come first. -/
def Progress.actors (s : Progress) : List Actor :=
  (List.range s.writers.length).map .writer ++
    ((List.range s.generators.length).map .generator ++
      ((List.range s.readers.length).map .reader ++ [.submitter]))

/-- What an actor does at its turn. -/
inductive Turn (σ : Type) where
  | step (next : σ)
  /-- Asks for the text of a file. -/
  | read (path : Path) (next : Except Fault String → σ)
  /-- Generates from a text, with the given outcome. -/
  | generate (text : SourceText) (outcome : Except Fault Generated) (next : σ)
  /-- Asks for a generated file to be written to its place. -/
  | write (item : WriteItem) (target : Path) (next : Except Fault Unit → σ)

/-- A job that was done, with what came of it. -/
inductive Deed where
  | read (path : Path) (answer : Except Fault String)
  | generate (text : SourceText) (outcome : Except Fault Generated)
  | write (item : WriteItem) (target : Path) (answer : Except Fault Unit)

/-- A turn can lead to a state, over all answers of the file system, and does the job that is given,
if any. -/
inductive Turn.LeadsTo {σ : Type} : Turn σ → Option Deed → σ → Prop where
  | step (next : σ) : LeadsTo (.step next) none next
  | read (path : Path) (next : Except Fault String → σ) (answer : Except Fault String) :
    LeadsTo (.read path next) (some (.read path answer)) (next answer)
  | generate (text : SourceText) (outcome : Except Fault Generated) (next : σ) :
    LeadsTo (.generate text outcome next) (some (.generate text outcome)) next
  | write (item : WriteItem) (target : Path) (next : Except Fault Unit → σ)
      (answer : Except Fault Unit) :
    LeadsTo (.write item target next) (some (.write item target answer)) (next answer)

namespace Plan

variable (plan : Plan)

/-- The turn of the submitter: it hands over the next source, and leaves after the last one or when
nobody is there to take it. -/
def submitterTurn? (s : Progress) : Option (Turn Progress) :=
  if !s.submitting then none
  else match s.pending with
    | [] => some (.step s.stopSubmitting)
    | p :: rest =>
      match s.paths.send p with
      | .done paths => some (.step { s with pending := rest, submitted := s.submitted + 1, paths })
      | .closed => some (.step s.stopSubmitting)
      | .blocked => none

/-- The turn of reader `i`. -/
def readerTurn? (s : Progress) (i : Nat) : Option (Turn Progress) :=
  (s.reading.move? i).map fun
    | .step st events => .step (s.withReading st events)
    | .work path => .read path (s.afterRead i path)

/-- The turn of generator `i`. -/
def generatorTurn? (s : Progress) (i : Nat) : Option (Turn Progress) :=
  (s.generating.move? i).map fun
    | .step st events => .step (s.withGenerating st events)
    | .work t => .generate t (plan.generate t) (s.afterGeneration i t.path (plan.generate t))

/-- The turn of writer `i`. -/
def writerTurn? (s : Progress) (i : Nat) : Option (Turn Progress) :=
  (s.writing.move? i).map fun
    | .step st events => .step (s.withWriting st events)
    | .work item =>
      let target := plan.target item.file
      .write item target (s.afterWrite i item.source target)

/-- What an actor does at its next turn; nothing while it is blocked or after it has left. -/
def turn? (s : Progress) : Actor → Option (Turn Progress)
  | .submitter => submitterTurn? s
  | .reader i => readerTurn? s i
  | .generator i => plan.generatorTurn? s i
  | .writer i => plan.writerTurn? s i

/-- Some actor's turn leads from one state to the other and does the job that is given, if any. -/
def Does (s : Progress) (deed : Option Deed) (t : Progress) : Prop :=
  ∃ actor turn, plan.turn? s actor = some turn ∧ turn.LeadsTo deed t

/-- Some actor's turn leads from one state to the other. -/
def Next (s t : Progress) : Prop :=
  ∃ deed, plan.Does s deed t

end Plan

end Scaffold.Pipeline
