import Scaffold.Path

/-!
# Declarations of a source unit

What is read of a C# source unit: its namespaces, classes, methods and constructors, each with the
names and types as they were written. `SourceUnit` is the nested form, and `ClassDeclaration` is one
class with all that its place in the unit says about it.
-/

namespace Scaffold

/-- How an argument is passed to a parameter. -/
inductive Passing where
  | byValue
  | byRef
  | byOut
  | byIn
  /-- The parameter takes all further arguments. -/
  | variadic
deriving DecidableEq, Repr, Inhabited

namespace Passing

/-- The passing mode that a keyword of a parameter selects. -/
def ofKeyword? : String → Option Passing
  | "ref" => some byRef
  | "out" => some byOut
  | "in" => some byIn
  | "params" => some variadic
  | _ => none

/-- The keyword that an argument has to repeat, if there is one. -/
def callKeyword? : Passing → Option String
  | byRef => some "ref"
  | byOut => some "out"
  | byIn => some "in"
  | byValue | variadic => none

end Passing

/-- A parameter of a method or constructor. -/
structure Parameter where
  name : String
  type : String
  passing : Passing
deriving DecidableEq, Repr, Inhabited

/-- The signature of a method. -/
structure Method where
  name : String
  parameters : List Parameter
  returnType : String
  /-- The names of the method's own type parameters. -/
  typeParameters : List String
  isStatic : Bool
  isPublic : Bool
deriving DecidableEq, Repr, Inhabited

/-- The return type of a method that returns nothing. -/
def voidType : String := "void"

/-- Whether a call of the method has a value. -/
def Method.returnsValue (m : Method) : Bool :=
  m.returnType != voidType

/-- The signature of a constructor. -/
structure Constructor where
  parameters : List Parameter
deriving DecidableEq, Repr, Inhabited

/-- The number of parameters. -/
def Constructor.arity (c : Constructor) : Nat :=
  c.parameters.length

/-- A class with the classes declared in its body. -/
structure ClassNode where
  name : String
  isStatic : Bool
  methods : List Method
  constructors : List Constructor
  nested : List ClassNode
deriving Repr, Inhabited

/-- What a source unit or a namespace block holds. -/
inductive Member where
  | namespaceBlock (name : String) (usings : List String) (members : List Member)
  | classNode (node : ClassNode)
deriving Repr, Inhabited

namespace ClassNode

mutual

/-- The number of classes in a class, itself included. -/
def count (c : ClassNode) : Nat :=
  match c with
  | ⟨_, _, _, _, nested⟩ => countAll nested + 1

/-- The number of classes in a list of classes, nested ones included. -/
def countAll : List ClassNode → Nat
  | [] => 0
  | c :: cs => c.count + countAll cs

end

end ClassNode

namespace Member

mutual

/-- The number of classes in a member, nested ones included. -/
def classCount : Member → Nat
  | namespaceBlock _ _ members => classCountAll members
  | classNode node => node.count

/-- The number of classes in a list of members, nested ones included. -/
def classCountAll : List Member → Nat
  | [] => 0
  | m :: ms => m.classCount + classCountAll ms

end

end Member

/-- A source unit. -/
structure SourceUnit where
  path : Option Path
  usings : List String
  /-- The name that a file-scoped namespace gives to the whole unit. -/
  fileNamespace : Option String
  members : List Member
deriving Repr

/-- The number of classes in a unit, nested ones included. -/
def SourceUnit.classCount (u : SourceUnit) : Nat :=
  Member.classCountAll u.members

/-- A class with its place in the unit. -/
structure ClassDeclaration where
  simpleName : String
  /-- The names of the enclosing classes and the simple name, joined by dots. -/
  qualifiedName : String
  /-- The names of the enclosing namespaces, joined by dots; empty in the global namespace. -/
  namespacePath : String
  isStatic : Bool
  methods : List Method
  constructors : List Constructor
  /-- The usings in scope. -/
  imports : List String
deriving DecidableEq, Repr, Inhabited

namespace ClassDeclaration

/-- The methods that a test can call from outside the class, in declaration order. -/
def publicMethods (c : ClassDeclaration) : List Method :=
  c.methods.filter (·.isPublic)

/-- The first of two constructors unless the second has fewer parameters. -/
def smaller (a b : Constructor) : Constructor :=
  if b.arity < a.arity then b else a

/-- The first declared constructor among those with the fewest parameters. -/
def smallestConstructor? (c : ClassDeclaration) : Option Constructor :=
  match c.constructors with
  | [] => none
  | first :: rest => some (rest.foldl smaller first)

end ClassDeclaration

end Scaffold
