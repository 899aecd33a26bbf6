import Scaffold.Declaration

/-!
# Collecting the classes of a unit

`SourceUnit.declarations` lists the classes of a unit in preorder, each with what its ancestors say
about it: the scope passed down holds the enclosing namespaces and classes and the usings in scope.
`collect` then merges the declarations of one identity, which are the parts of a partial class, into
the first of them.
-/

namespace Scaffold

/-- The elements of `ys` that are not yet there, added to `xs` at the end. -/
def addMissing (xs ys : List String) : List String :=
  ys.foldl (fun seen y => if y ∈ seen then seen else seen ++ [y]) xs

/-- What the ancestors of a class say about it. -/
structure Scope where
  /-- The names of the enclosing namespace blocks, outermost first. -/
  namespaces : List String
  /-- The names of the enclosing classes, outermost first. -/
  classes : List String
  /-- The usings in scope. -/
  imports : List String
  /-- The namespace of the whole file, which overrides the blocks. -/
  fileNamespace : Option String
deriving DecidableEq, Repr

namespace Scope

/-- The scope of the members of a unit. -/
def ofUnit (u : SourceUnit) : Scope :=
  ⟨[], [], u.usings, u.fileNamespace⟩

/-- The scope inside a namespace block. -/
def enterNamespace (s : Scope) (name : String) (usings : List String) : Scope :=
  { s with namespaces := s.namespaces ++ [name], imports := addMissing s.imports usings }

/-- The scope inside a class. -/
def enterClass (s : Scope) (name : String) : Scope :=
  { s with classes := s.classes ++ [name] }

/-- The namespace of a class declared in the scope. -/
def namespacePath (s : Scope) : String :=
  s.fileNamespace.getD (".".intercalate s.namespaces)

/-- The qualified name of a class declared in the scope. -/
def qualifiedName (s : Scope) (name : String) : String :=
  ".".intercalate (s.classes ++ [name])

/-- The declaration of a class node in the scope. -/
def declaration (s : Scope) (c : ClassNode) : ClassDeclaration where
  simpleName := c.name
  qualifiedName := s.qualifiedName c.name
  namespacePath := s.namespacePath
  isStatic := c.isStatic
  methods := c.methods
  constructors := c.constructors
  imports := s.imports

end Scope

namespace ClassNode

mutual

/-- The declarations of a class and its nested classes, outer before inner. -/
def declarations (s : Scope) (c : ClassNode) : List ClassDeclaration :=
  match c with
  | ⟨name, isStatic, methods, constructors, nested⟩ =>
    s.declaration ⟨name, isStatic, methods, constructors, nested⟩ ::
      declarationsAll (s.enterClass name) nested

/-- The declarations of a list of classes and their nested classes. -/
def declarationsAll (s : Scope) : List ClassNode → List ClassDeclaration
  | [] => []
  | c :: cs => c.declarations s ++ declarationsAll s cs

end

end ClassNode

namespace Member

mutual

/-- The declarations under a member. -/
def declarations (s : Scope) : Member → List ClassDeclaration
  | namespaceBlock name usings members => declarationsAll (s.enterNamespace name usings) members
  | classNode node => node.declarations s

/-- The declarations under a list of members. -/
def declarationsAll (s : Scope) : List Member → List ClassDeclaration
  | [] => []
  | m :: ms => m.declarations s ++ declarationsAll s ms

end

end Member

/-- The declarations of a unit, one per class node, in preorder. -/
def SourceUnit.declarations (u : SourceUnit) : List ClassDeclaration :=
  Member.declarationsAll (Scope.ofUnit u) u.members

namespace ClassDeclaration

/-- What tells two classes of a unit apart: the namespace and the qualified name. -/
def identity (c : ClassDeclaration) : String × String :=
  (c.namespacePath, c.qualifiedName)

/-- The declaration `c` with a further part of the same class. -/
def merge (c part : ClassDeclaration) : ClassDeclaration :=
  { c with
    isStatic := c.isStatic || part.isStatic
    methods := c.methods ++ part.methods
    constructors := c.constructors ++ part.constructors
    imports := addMissing c.imports part.imports }

/-- The list with one more declaration: merged into the one of its identity if there is one, and at
the end if there is none. -/
def insert (part : ClassDeclaration) : List ClassDeclaration → List ClassDeclaration
  | [] => [part]
  | c :: cs => if c.identity = part.identity then c.merge part :: cs else c :: insert part cs

end ClassDeclaration

/-- The classes of a unit, one per identity, in the order in which the identities first occur. -/
def collect (u : SourceUnit) : List ClassDeclaration :=
  u.declarations.foldl (fun classes part => part.insert classes) []

end Scaffold
