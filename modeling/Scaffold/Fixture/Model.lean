/-!
# Test fixtures

The description of a generated test fixture: fields, a setup routine and tests, made of statements
and expressions. Nothing here is text yet.
-/

namespace Scaffold.Fixture

/-- A value that stands in for one that nobody knows. -/
inductive Placeholder where
  /-- The literal `default` of the target type. -/
  | typeDefault
  /-- A literal, as written. -/
  | literal (text : String)
deriving DecidableEq, Repr, Inhabited

mutual

/-- An expression of a generated statement. -/
inductive Expr where
  | placeholder (value : Placeholder)
  | identifier (name : String)
  /-- A call of a method of `target`. -/
  | invoke (target method : String) (arguments : List Argument)
  /-- A new object of a type. -/
  | create (type : String) (arguments : List Argument)
  /-- A new mock of a type. -/
  | createMock (type : String)
  /-- The object that the mock in a field stands for. -/
  | mockObject (field : String)

/-- An argument of a call. -/
inductive Argument where
  /-- A value with the passing keyword before it, if there is one. -/
  | mk (keyword : Option String) (value : Expr)

end

deriving instance Repr, Inhabited for Expr, Argument

/-- The passing keyword of an argument. -/
def Argument.keyword : Argument → Option String
  | mk keyword _ => keyword

/-- The value of an argument. -/
def Argument.value : Argument → Expr
  | mk _ value => value

/-- A statement of a generated routine. -/
inductive Statement where
  /-- The declaration of a local; without a type, the compiler finds it. -/
  | declare (type : Option String) (name : String) (value : Expr)
  | assign (target : String) (value : Expr)
  | expression (value : Expr)
  /-- The assertion that two locals are equal. -/
  | assertEqual (actual expected : String)
  /-- The assertion that always fails, with a message. -/
  | assertFail (message : String)
deriving Repr

/-- A field of a fixture. -/
structure Field where
  name : String
  /-- The type of the field, or for a mock the type that is mocked. -/
  type : String
  isMock : Bool
deriving DecidableEq, Repr, Inhabited

/-- The routine that runs before every test. -/
structure Setup where
  name : String
  statements : List Statement
deriving Repr

/-- A test. -/
structure Test where
  name : String
  arrange : List Statement
  act : Statement
  assert : List Statement
deriving Repr

/-- The statements of a test, in order. -/
def Test.body (t : Test) : List Statement :=
  t.arrange ++ t.act :: t.assert

end Scaffold.Fixture

namespace Scaffold

open Fixture in
/-- The tests of one class. -/
structure Fixture where
  name : String
  /-- The namespace of the fixture. -/
  namespacePath : String
  /-- The namespace of the class under test; empty for the global namespace. -/
  sourceNamespace : String
  /-- The usings of the class under test. -/
  imports : List String
  fields : List Field
  setup : Option Setup
  tests : List Test
deriving Repr

/-- The fields of a fixture that hold mocks. -/
def Fixture.mockFields (f : Fixture) : List Fixture.Field :=
  f.fields.filter (·.isMock)

end Scaffold
