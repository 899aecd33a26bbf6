import Scaffold.Fault
import Scaffold.Fixture.Wiring

/-!
# Synthesising a fixture

One fixture for one class: a test for every public method whose types have placeholders, and for an
instance class the wiring of its constructor. A member that cannot be tested is left out and
reported; it changes nothing else.
-/

namespace Scaffold.Fixture

/-- A member that was left out of a fixture. -/
structure Omission where
  /-- The qualified name of the class. -/
  className : String
  member : String
  type : String
  reason : Unresolved
deriving DecidableEq, Repr

/-- The fault that an omission is reported as. -/
def Omission.fault (o : Omission) : Fault :=
  .unresolvedDefault o.className o.member o.type

/-- The local for a parameter of a method under test, or the type that has no placeholder. -/
def arrange (typeParameters : List String) (p : Parameter) : Except (String × Unresolved) Statement :=
  match placeholder p.type typeParameters with
  | .ok value => .ok (.declare (some p.type) p.name (.placeholder value))
  | .error reason => .error (p.type, reason)

/-- What a method of a class is called on: the class for what is static, and the field of the object
under test otherwise. -/
def callTarget (c : ClassDeclaration) (m : Method) : String :=
  if c.isStatic || m.isStatic then c.qualifiedName else fieldName c.simpleName

/-- The call of a method under test with one local per parameter. -/
def call (c : ClassDeclaration) (m : Method) : Expr :=
  .invoke (callTarget c m) m.name (m.parameters.map passOn)

/-- The test of a method, or the type that has no placeholder. -/
def test (failureMessage name : String) (c : ClassDeclaration) (m : Method) :
    Except (String × Unresolved) Test := do
  let locals ← m.parameters.mapM (arrange m.typeParameters)
  if m.returnsValue then
    match placeholder m.returnType m.typeParameters with
    | .error reason => .error (m.returnType, reason)
    | .ok value =>
      .ok {
        name
        arrange := locals
        act := .declare none "actual" (call c m)
        assert := [
          .declare (some m.returnType) "expected" (.placeholder value),
          .assertEqual "actual" "expected",
          .assertFail failureMessage] }
  else
    .ok {
      name
      arrange := locals
      act := .expression (call c m)
      assert := [.assertFail failureMessage] }

/-- How fixtures are made. -/
structure Synthesizer where
  classifier : Classifier
  /-- The message of the assertion that ends every test. -/
  failureMessage : String

/-- A fixture and the members that were left out of it. -/
structure Outcome where
  fixture : Fixture
  omissions : List Omission
deriving Repr

namespace Synthesizer

/-- The default message of the assertion that ends every test. -/
def defaultFailureMessage : String := "autogenerated"

/-- The public methods of a class with the names of their tests, in the order of the tests. -/
def namedMethods (c : ClassDeclaration) : List (Method × String) :=
  let sorted := sortByName c.publicMethods
  sorted.zip (testNames sorted)

/-- The tests of a class, each made or left out. -/
def attempts (s : Synthesizer) (c : ClassDeclaration) : List (Except Omission Test) :=
  (namedMethods c).map fun (m, name) =>
    match test s.failureMessage name c m with
    | .ok t => .ok t
    | .error (type, reason) => .error ⟨c.qualifiedName, m.name, type, reason⟩

/-- The fields of the fixture of a class; none for a static class. -/
def fields (s : Synthesizer) (c : ClassDeclaration) : List Field :=
  if c.isStatic then [] else (Wiring.ofClass s.classifier c).fields

/-- The setup of the fixture of a class, or why it is left out; none for a static class. -/
def setup? (s : Synthesizer) (c : ClassDeclaration) : Option (Except Omission Setup) :=
  if c.isStatic then none
  else match (Wiring.ofClass s.classifier c).setup c with
    | .ok setup => some (.ok setup)
    | .error (p, reason) => some (.error ⟨c.qualifiedName, setupName, p.type, reason⟩)

/-- What was made, of what was made or left out. -/
def made {α : Type} : Except Omission α → Option α
  | .ok a => some a
  | .error _ => none

/-- What was left out, of what was made or left out. -/
def leftOut {α : Type} : Except Omission α → Option Omission
  | .ok _ => none
  | .error o => some o

/-- The fixture of a class. -/
def synthesize (s : Synthesizer) (c : ClassDeclaration) : Outcome where
  fixture := {
    name := fixtureName c.simpleName
    namespacePath := testNamespace c.namespacePath
    sourceNamespace := c.namespacePath
    imports := c.imports
    fields := s.fields c
    setup := (s.setup? c).bind made
    tests := (s.attempts c).filterMap made }
  omissions := ((s.setup? c).bind leftOut).toList ++ (s.attempts c).filterMap leftOut

end Synthesizer

end Scaffold.Fixture
