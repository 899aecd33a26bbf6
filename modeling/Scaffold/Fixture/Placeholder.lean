import Scaffold.Fixture.Model
import Scaffold.Text.Alphanumeric
import Scaffold.Text.Blank

/-!
# Placeholder values

The value that stands in for a parameter or an expected result of a type, or the reason why no test
can declare a variable of the type.
-/

namespace Scaffold.Fixture

open Text

/-- Why a type has no placeholder. -/
inductive Unresolved where
  | empty
  /-- The text names no type. -/
  | undeclarable (type : String)
  /-- The type mentions a type parameter of the method under test. -/
  | genericParameter (name : String)
deriving DecidableEq, Repr

/-- The characters of the identifiers in a type. -/
def isTypeIdentifier (c : Char) : Bool :=
  isAlphanumeric c || c == '_'

/-- The identifiers in a type, in order. -/
def typeIdentifiers (type : List Char) : List String :=
  (runsOf (fun c => !isTypeIdentifier c) type).map String.ofList

/-- The spellings of the string type. -/
def stringTypes : List String := ["string", "String", "System.String"]

/-- The placeholder for a type in a method with the given type parameters. -/
def placeholder (type : String) (typeParameters : List String) : Except Unresolved Placeholder :=
  let type := trim type
  if type = "" then .error .empty
  else if type = "var" then .error (.undeclarable type)
  else match typeParameters.find? (· ∈ typeIdentifiers type.toList) with
    | some name => .error (.genericParameter name)
    | none => .ok (if type ∈ stringTypes then .literal "\"\"" else .typeDefault)

end Scaffold.Fixture
