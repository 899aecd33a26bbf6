import Scaffold.Journal.Record
import Scaffold.Settings.Document
import Scaffold.Store.System

/-!
# Finding settings

A settings file that is named must be readable and say nothing wrong. Without a name the settings
file is searched in a directory and those above it; there, a file that cannot be used is noted in
the journal and passed over.
-/

namespace Scaffold.Settings

variable {m : Type → Type} [Monad m] [System m]

/-- The part of the program that finds settings, in a journal. -/
def component : String := "testgen::config::loader"

/-- The number of directories in which settings are searched. -/
def searchDepth : Nat := 10

/-- The fault of a settings file that cannot be read. -/
def unreadable (p : Path) (refusal : Refusal) : Fault :=
  .fileSystem "Failed to read config file" (some p) (some refusal.text)

/-- The settings in a named file. -/
def load (p : Path) : m (Except Fault Settings) := do
  match ← System.read p with
  | .error refusal => return .error (unreadable p refusal)
  | .ok text => return (ofText text).mapError (Fault.whileDoing p.text)

/-- What a search came to, and its records. -/
structure Search where
  found : Option Settings
  journal : Journal
deriving Repr

/-- The outcome of looking at one file: the settings in it, if there is a file that can be used. -/
def look (p : Path) : Except Refusal String → Search
  | .error .noEntry => ⟨none, []⟩
  | .error refusal =>
    ⟨none, [.plain .warn component
      ("Failed to read config file " ++ p.text ++ ": " ++ refusal.text)]⟩
  | .ok text =>
    match ofText text with
    | .ok s => ⟨some s, [.plain .debug component ("Loaded config from " ++ p.text)]⟩
    | .error f =>
      ⟨none, [.plain .warn component (f.message ++ " (" ++ p.text ++ "). Using defaults.")]⟩

/-- The settings in the first of some files that can be used. -/
def search : List Path → m Search
  | [] => return ⟨none, []⟩
  | p :: rest => do
    let first := look p (← System.read p)
    match first.found with
    | some _ => return first
    | none =>
      let later ← search rest
      return ⟨later.found, first.journal ++ later.journal⟩

/-- The settings files for a directory, nearest first. -/
def candidates (start : Path) : List Path :=
  (start.ancestors.take searchDepth).map (·.child fileName)

/-- The settings for a directory: those of the nearest file that can be used, or the default. -/
def loadNear (start : Path) : m (Settings × Journal) := do
  let outcome ← search (candidates start)
  match outcome.found with
  | some s => return (s, outcome.journal)
  | none =>
    return (default, outcome.journal ++ [.plain .debug component
      ("No config found after checking " ++ toString searchDepth ++
        " directories. Using default config.")])

end Scaffold.Settings
