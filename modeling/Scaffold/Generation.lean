import Scaffold.CSharp.Parse
import Scaffold.Collection
import Scaffold.Fixture.Render
import Scaffold.Fixture.Synthesis

/-!
# Generating test files

The test files of one source: one file for each class, named for its fixture. Members that were left
out of a fixture are listed beside the files.
-/

namespace Scaffold

open Fixture (Synthesizer Classifier Omission)

/-- The settings of synthesis. -/
structure SynthesisSettings where
  /-- The message of the assertion that ends every test. -/
  failureMessage : String
  /-- The extension of the generated files, without its dot. -/
  extension : String
  /-- The beginnings of the names of types that are mocked; without them, interfaces are. -/
  abstractions : Option (List String)
deriving DecidableEq, Repr

namespace SynthesisSettings

/-- The settings when none are given. -/
def default : SynthesisSettings :=
  ⟨Synthesizer.defaultFailureMessage, "cs", none⟩

/-- The synthesizer with these settings. -/
def synthesizer (s : SynthesisSettings) : Synthesizer :=
  ⟨(s.abstractions.map Classifier.beginnings).getD .interfaceConvention, s.failureMessage⟩

end SynthesisSettings

/-- A test file that is not written anywhere yet. -/
structure GeneratedFile where
  name : String
  content : String
deriving DecidableEq, Repr, Inhabited

/-- What was generated from one source. -/
structure Generated where
  /-- One file for each class, in the order of the classes. -/
  files : List GeneratedFile
  omissions : List Omission
deriving DecidableEq, Repr, Inhabited

/-- The file of a fixture. -/
def GeneratedFile.ofFixture (extension : String) (f : Fixture) : GeneratedFile :=
  ⟨f.name ++ "." ++ extension, Fixture.render f⟩

/-- What is generated from classes. -/
def Generated.ofClasses (s : SynthesisSettings) (classes : List ClassDeclaration) : Generated :=
  let outcomes := classes.map s.synthesizer.synthesize
  ⟨outcomes.map fun o => .ofFixture s.extension o.fixture, outcomes.flatMap (·.omissions)⟩

/-- What is generated from a source text, or why the text cannot be read. -/
def generate (s : SynthesisSettings) (text : String) (path : Option Path) :
    Except Fault Generated := do
  let unit ← CSharp.outline text path
  return .ofClasses s (collect unit)

end Scaffold
