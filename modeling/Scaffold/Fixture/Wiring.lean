import Scaffold.Fixture.Mocking
import Scaffold.Fixture.Naming
import Scaffold.Fixture.Placeholder

/-!
# Wiring an instance under test

The fields of a fixture for an instance class and the routine that fills them. The smallest
constructor of the class is called; a parameter that is an abstraction gets a mock in a field, and
any other parameter gets a local with a placeholder.
-/

namespace Scaffold.Fixture

/-- The name of the setup routine. -/
def setupName : String := "SetUp"

/-- The `n`-th name to try for a field that should be called `wanted`: `wanted`, `wantedMock`,
`wantedMock2`, `wantedMock3` and so on. -/
def candidate (wanted : String) : Nat → String
  | 0 => wanted
  | 1 => wanted ++ "Mock"
  | n => wanted ++ "Mock" ++ toString n

/-- The first candidate from number `n` on that is not taken, among `tries` candidates. -/
def firstFree (taken : List String) (wanted : String) (n : Nat) : Nat → String
  | 0 => candidate wanted n
  | tries + 1 =>
    if candidate wanted n ∈ taken then firstFree taken wanted (n + 1) tries else candidate wanted n

/-- A name for a field that should be called `wanted`, when other fields have the names `taken`: one
of the first `taken.length + 1` candidates is free. -/
def freeName (taken : List String) (wanted : String) : String :=
  firstFree taken wanted 0 taken.length

/-- How an argument passes on the local of a parameter. -/
def passOn (p : Parameter) : Argument :=
  ⟨p.passing.callKeyword?, .identifier p.name⟩

/-- What has been wired after some parameters of the constructor. -/
structure Wiring where
  fields : List Field
  /-- The assignments of new mocks. -/
  mocks : List Statement
  /-- The locals of the other parameters. -/
  locals : List Statement
  arguments : List Argument
  /-- The first parameter without a placeholder. -/
  failure : Option (Parameter × Unresolved)
deriving Repr

namespace Wiring

/-- The wiring before any parameter: only the field of the object under test. -/
def start (field : Field) : Wiring :=
  ⟨[field], [], [], [], none⟩

/-- The wiring with one more parameter, whose argument is a mock. -/
def addMock (w : Wiring) (p : Parameter) : Wiring :=
  let name := freeName (w.fields.map (·.name)) (fieldName p.name)
  { w with
    fields := w.fields ++ [⟨name, p.type, true⟩]
    mocks := w.mocks ++ [.assign name (.createMock p.type)]
    arguments := w.arguments ++ [⟨none, .mockObject name⟩] }

/-- The wiring with one more parameter, whose argument is a local. -/
def addLocal (w : Wiring) (p : Parameter) : Wiring :=
  let passed := { w with arguments := w.arguments ++ [passOn p] }
  match placeholder p.type [] with
  | .ok value =>
    { passed with locals := w.locals ++ [.declare (some p.type) p.name (.placeholder value)] }
  | .error reason => { passed with failure := w.failure.or (some (p, reason)) }

/-- The wiring with one more parameter. -/
def add (classifier : Classifier) (w : Wiring) (p : Parameter) : Wiring :=
  if classifier.isAbstraction p.type then w.addMock p else w.addLocal p

/-- The wiring of a class: the parameters of its smallest constructor, in order. -/
def ofClass (classifier : Classifier) (c : ClassDeclaration) : Wiring :=
  let parameters := (c.smallestConstructor?.map (·.parameters)).getD []
  parameters.foldl (add classifier) (start ⟨fieldName c.simpleName, c.qualifiedName, false⟩)

/-- The setup routine of a wiring, or the parameter that has no placeholder. -/
def setup (w : Wiring) (c : ClassDeclaration) : Except (Parameter × Unresolved) Setup :=
  match w.failure with
  | some failure => .error failure
  | none =>
    let create := .assign (fieldName c.simpleName) (.create c.qualifiedName w.arguments)
    .ok ⟨setupName, w.mocks ++ w.locals ++ [create]⟩

end Wiring

end Scaffold.Fixture
