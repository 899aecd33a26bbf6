import Scaffold.Declaration
import Scaffold.Text.Lowercase
import Scaffold.Text.Pieces

/-!
# Names in a fixture

How the names in a fixture follow from the names in the class under test, and how the tests of
overloads are told apart: methods are put in the order of their names, and in each run of one name
the second and later ones are numbered.
-/

namespace Scaffold.Fixture

/-- The name with its first character in lower case. -/
def camelCase (name : String) : String :=
  match name.toList with
  | [] => ""
  | c :: cs => String.ofList (Text.lowercase c ++ cs)

/-- The name of the field for an identifier. -/
def fieldName (identifier : String) : String :=
  "_" ++ camelCase identifier

/-- The name of the fixture for a class. -/
def fixtureName (className : String) : String :=
  className ++ "Tests"

/-- The namespace of the fixtures for a namespace: `Tests` goes behind its first dot, or behind its
end if it has no dot. -/
def testNamespace (path : String) : String :=
  if path = "" then "Tests"
  else match Text.splitFirst? '.' path with
    | some (first, rest) => first ++ "." ++ "Tests" ++ "." ++ rest
    | none => path ++ "." ++ "Tests"

/-- Methods in the order of their names; overloads keep their order. -/
def sortByName (methods : List Method) : List Method :=
  methods.mergeSort fun a b => !(b.name < a.name)

/-- The name of the test for the overload number `k` of a method. -/
def testName (methodName : String) (k : Nat) : String :=
  methodName ++ "Test" ++ (if k = 0 then "" else toString k)

/-- The names of the tests for methods that follow a run of `k` methods called `previous`. -/
def testNamesAfter (previous : Option String) (k : Nat) : List Method → List String
  | [] => []
  | m :: ms =>
    let k' := if previous = some m.name then k + 1 else 0
    testName m.name k' :: testNamesAfter (some m.name) k' ms

/-- The names of the tests for methods in the given order. -/
def testNames (methods : List Method) : List String :=
  testNamesAfter none 0 methods

end Scaffold.Fixture
