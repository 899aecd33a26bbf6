import Scaffold.Fixture.Model
import Scaffold.Text.Pieces

/-!
# The text of a fixture

A fixture is written as lines, each at a depth of blocks; a depth is four spaces, and every line
ends with a line feed. Fields, setup and tests follow each other with an empty line between them.
-/

namespace Scaffold.Fixture

/-- The usings of every fixture. -/
def standardUsings : List String := [
  "System",
  "System.Collections.Generic",
  "System.Linq",
  "System.Text",
  "NUnit.Framework",
  "Moq"]

/-- The elements of a list without those that occur earlier in it. -/
def firstOccurrences (xs : List String) : List String :=
  xs.foldl (fun seen x => if x ∈ seen then seen else seen ++ [x]) []

/-- The usings of a fixture: the standard ones, those of the class under test, and the namespace of
the class, each where it first occurs. -/
def usings (f : Fixture) : List String :=
  firstOccurrences
    (standardUsings ++ f.imports ++ if f.sourceNamespace = "" then [] else [f.sourceNamespace])

/-- A character inside a string literal. -/
def escapeChar : Char → List Char
  | '\\' => ['\\', '\\']
  | '"' => ['\\', '"']
  | c => [c]

/-- A text inside a string literal. -/
def escape (text : String) : String :=
  Text.expand escapeChar text

mutual

/-- The text of an expression. -/
def Expr.render : Expr → String
  | .placeholder .typeDefault => "default"
  | .placeholder (.literal text) => text
  | .identifier name => name
  | .invoke target method arguments =>
    target ++ "." ++ method ++ "(" ++ ", ".intercalate (Argument.renderAll arguments) ++ ")"
  | .create type arguments =>
    "new " ++ type ++ "(" ++ ", ".intercalate (Argument.renderAll arguments) ++ ")"
  | .createMock type => "new Mock<" ++ type ++ ">()"
  | .mockObject field => field ++ ".Object"

/-- The text of an argument. -/
def Argument.render : Argument → String
  | ⟨some keyword, value⟩ => keyword ++ " " ++ value.render
  | ⟨none, value⟩ => value.render

/-- The texts of arguments. -/
def Argument.renderAll : List Argument → List String
  | [] => []
  | a :: as => a.render :: Argument.renderAll as

end

/-- The text of a statement. -/
def Statement.render : Statement → String
  | declare type name value => type.getD "var" ++ " " ++ name ++ " = " ++ value.render ++ ";"
  | assign target value => target ++ " = " ++ value.render ++ ";"
  | expression value => value.render ++ ";"
  | assertEqual actual expected =>
    "Assert.That(" ++ actual ++ ", Is.EqualTo(" ++ expected ++ "));"
  | assertFail message => "Assert.Fail(\"" ++ escape message ++ "\");"

/-- The text of a field. -/
def Field.render (f : Field) : String :=
  let type := if f.isMock then "Mock<" ++ f.type ++ ">" else f.type
  "private " ++ type ++ " " ++ f.name ++ ";"

/-- A line at a depth of blocks; an empty line has none. -/
inductive Line where
  | empty
  | text (depth : Nat) (content : String)
deriving DecidableEq, Repr

/-- The characters of a line, with its line feed. -/
def Line.render : Line → String
  | empty => "\n"
  | text depth content => String.join (List.replicate depth "    ") ++ content ++ "\n"

/-- A block at a depth, with what is inside it. -/
def block (depth : Nat) (inside : List Line) : List Line :=
  .text depth "\x7b" :: inside ++ [.text depth "\x7d"]

/-- A routine at a depth: its marker, the header and the block of its statements. -/
def routine (depth : Nat) (marker name : String) (statements : List Statement) : List Line :=
  .text depth marker :: .text depth ("public void " ++ name ++ "()") ::
    block depth (statements.map fun s => .text (depth + 1) s.render)

/-- The groups of lines with an empty line between two groups. -/
def spaced : List (List Line) → List Line
  | [] => []
  | [group] => group
  | group :: groups => group ++ .empty :: spaced groups

/-- The groups of lines in the body of a fixture: its fields, if it has any, its setup, if it has
one, and its tests. -/
def memberGroups (f : Fixture) : List (List Line) :=
  (if f.fields.isEmpty then [] else [f.fields.map fun field => .text 2 field.render]) ++
    (f.setup.toList.map fun s => routine 2 "[SetUp]" s.name s.statements) ++
    f.tests.map fun t => routine 2 "[Test]" t.name t.body

/-- The lines of a fixture. -/
def lines (f : Fixture) : List Line :=
  (usings f).map (fun name => .text 0 ("using " ++ name ++ ";")) ++
    .empty :: .text 0 ("namespace " ++ f.namespacePath) ::
    block 0 (.text 1 "[TestFixture]" :: .text 1 ("public class " ++ f.name) ::
      block 1 (spaced (memberGroups f)))

/-- The text of a fixture. -/
def render (f : Fixture) : String :=
  String.join ((lines f).map Line.render)

end Scaffold.Fixture
