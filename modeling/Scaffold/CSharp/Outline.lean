import Scaffold.CSharp.Tree
import Scaffold.Declaration
import Scaffold.Text.Blank

/-!
# The outline of a tree

What a tree declares: usings, namespaces, classes, methods and constructors. Classes count in the
unit, in namespace blocks and in classes; what stands in a structure, an interface, a record, an
enumeration or a conditional directive does not. Types and names of namespaces are compacted, names
of members are kept as written.

Some trees that the grammar does not make are read as well: a file namespace around the members of
its unit (`items`), a type in place of what a method returns (`returnType`), a type parameter
without a name (`typeParameterName`), and a node for the parameter that takes all further arguments
(`isParameter`), whose parts the grammar puts into the parameter list itself.
-/

namespace Scaffold.CSharp

open Text

namespace Node

/-- The keywords that count as modifiers where they stand outside a modifier node. -/
def looseModifiers : List String := [
  "public", "private", "protected", "internal", "static", "abstract", "sealed", "partial",
  "virtual", "override", "async", "extern", "new", "readonly", "unsafe"]

/-- Whether a part of a declaration is a modifier. -/
def isModifier (n : Node) : Bool :=
  match n.kind with
  | .phrase .modifier => true
  | .token (.word text) => text ∈ looseModifiers
  | _ => false

/-- The texts of the modifiers of a declaration. -/
def modifiers (n : Node) : List String :=
  (n.parts.filter isModifier).map (·.text)

/-- Whether a declaration has a modifier. -/
def hasModifier (n : Node) (text : String) : Bool :=
  text ∈ n.modifiers

/-! ## Parameters -/

/-- Whether a part of a parameter is its type or its name. -/
def isTypeOrName (n : Node) : Bool :=
  n.role = some .type || n.role = some .name

/-- The passing mode that a text names: that of the first of its words that names one. -/
def passingIn? (text : String) : Option Passing :=
  (words text).findSome? Passing.ofKeyword?

/-- Whether a node declares a parameter. -/
def isParameter (n : Node) : Bool :=
  n.is .parameter || n.is .variadicParameter

/-- The passing mode of a parameter if no part of it names one. -/
def plainPassing (n : Node) : Passing :=
  if n.is .variadicParameter then .variadic else .byValue

/-- The passing mode of a parameter: of the parts before its type and name, the last that names a
mode decides. -/
def passing (n : Node) : Passing :=
  (n.parts.takeWhile (!·.isTypeOrName)).foldl
    (fun mode part => (passingIn? part.text).getD mode) n.plainPassing

/-- The parameter that a parameter node declares. -/
def parameter (n : Node) : Parameter :=
  ⟨n.partText .name, compact (n.partText .type), n.passing⟩

/-- Whether a node says nothing about a parameter that takes all further arguments. -/
def isAside (n : Node) : Bool :=
  n.is .attributeList || n.kind = .comment

/-- The parameter in a slot of a parameter list: a parameter node, or the keyword, type and name of
a parameter that takes all further arguments. -/
def slotParameter? (slot : List Node) : Option Parameter :=
  match slot.find? isParameter with
  | some n => some n.parameter
  | none =>
    match slot.filter (!·.isAside) with
    | keyword :: type :: name :: more =>
      if keyword.text = "params" then
        some ⟨((name :: more).getLastD name).text, compact type.text, .variadic⟩
      else none
    | _ => none

/-- Whether a node separates the slots of a parameter list. -/
def isSlotMark (n : Node) : Bool :=
  n.isMark "(" || n.isMark ")" || n.isMark ","

/-- The groups of nodes between those that satisfy `p`; there is at least one group. -/
def groups (p : Node → Bool) : List Node → List (List Node)
  | [] => [[]]
  | n :: ns =>
    if p n then [] :: groups p ns
    else match groups p ns with
      | [] => [[n]]
      | g :: gs => (n :: g) :: gs

/-- The parameters that a list declares. -/
def listParameters (n : Node) : List Parameter :=
  (groups isSlotMark n.parts).filterMap slotParameter?

/-- The parameters of a method or constructor. -/
def parameters (n : Node) : List Parameter :=
  match n.part? .parameters with
  | some list => list.listParameters
  | none => []

/-! ## Members of a class -/

/-- The name that a type parameter declares: the text of its name, or its last word. -/
def typeParameterName (n : Node) : String :=
  ((n.part? .name).map (·.text)).getD ((words n.text).getLast?.getD "")

/-- The names that a list of type parameters declares. -/
def typeParameterNames (n : Node) : List String :=
  (n.parts.filter (·.is .typeParameter)).map typeParameterName

/-- What a method returns. -/
def returnType (n : Node) : String :=
  compact ((((n.part? .returns).or (n.part? .type)).map (·.text)).getD "")

/-- The method that a method node declares. -/
def method (n : Node) : Method where
  name := n.partText .name
  parameters := n.parameters
  returnType := n.returnType
  typeParameters := ((n.part? .typeParameters).map typeParameterNames).getD []
  isStatic := n.hasModifier "static"
  isPublic := n.hasModifier "public"

/-- The method that a member of a class declares, if it is a method. -/
def method? (n : Node) : Option Method :=
  if n.is .methodDeclaration then some n.method else none

/-- The constructor that a member of a class declares, if it is a constructor of instances. -/
def constructor? (n : Node) : Option Constructor :=
  if n.is .constructorDeclaration && !n.hasModifier "static" then some ⟨n.parameters⟩ else none

/-! ## Usings -/

/-- The text without a beginning, if it has that beginning. -/
def without (beginning text : String) : String :=
  (dropBeginning? text beginning).getD text

/-- What a using directive makes visible, given the text of the directive. -/
def usingTarget (text : String) : String :=
  let body := trim (String.ofList (dropEndWhile (· == ';') (compact text).toList))
  trim (without "using " (without "global " body))

/-- What a member of a unit or namespace block makes visible, if it is a using directive. -/
def using? (n : Node) : Option String :=
  if n.is .usingDirective then some (usingTarget n.text) else none

/-- What the members of a unit or namespace block make visible. -/
def usings (ns : List Node) : List String :=
  ns.filterMap using?

/-- The name of the namespace that a member of a unit gives to the whole unit. -/
def fileNamespace? (n : Node) : Option String :=
  if n.is .fileNamespace then (n.part? .name).map (compact ·.text) else none

/-! ## Classes and namespaces -/

/-- The parts of the body of a declaration. -/
def bodyParts (n : Node) : List Node :=
  ((n.part? .body).map (·.parts)).getD []

/-- The class that a class node declares, given the classes nested in it. -/
def classWith (n : Node) (nested : List ClassNode) : ClassNode where
  name := n.partText .name
  isStatic := n.hasModifier "static"
  methods := n.bodyParts.filterMap method?
  constructors := n.bodyParts.filterMap constructor?
  nested := nested

/-- The block that a namespace node declares, given the members in it. -/
def namespaceWith (n : Node) (members : List Member) : Member :=
  .namespaceBlock (compact (n.partText .name)) (usings n.bodyParts) members

mutual

/-- The class that a class node declares. -/
def classNode : Node → ClassNode
  | ⟨kind, role, start, text, isFlawed, parts⟩ =>
    classWith ⟨kind, role, start, text, isFlawed, parts⟩ (bodyClasses parts)

/-- The classes in the body among the parts of a declaration. -/
def bodyClasses : List Node → List ClassNode
  | [] => []
  | ⟨_, role, _, _, _, parts⟩ :: ns => if role = some .body then classes parts else bodyClasses ns

/-- The classes among nodes. -/
def classes : List Node → List ClassNode
  | [] => []
  | n :: ns => if n.is .classDeclaration then n.classNode :: classes ns else classes ns

end

mutual

/-- The block that a namespace node declares. -/
def namespaceNode : Node → Member
  | ⟨kind, role, start, text, isFlawed, parts⟩ =>
    namespaceWith ⟨kind, role, start, text, isFlawed, parts⟩ (bodyMembers parts)

/-- The members in the body among the parts of a namespace. -/
def bodyMembers : List Node → List Member
  | [] => []
  | ⟨_, role, _, _, _, parts⟩ :: ns => if role = some .body then members parts else bodyMembers ns

/-- The namespace blocks and classes among nodes. -/
def members : List Node → List Member
  | [] => []
  | n :: ns =>
    if n.is .namespaceDeclaration then n.namespaceNode :: members ns
    else if n.is .classDeclaration then .classNode n.classNode :: members ns
    else members ns

end

mutual

/-- The members of a unit that a node is read as: the node, and what a file namespace is around. -/
def items : Node → List Node
  | ⟨kind, role, start, text, isFlawed, parts⟩ =>
    ⟨kind, role, start, text, isFlawed, parts⟩ ::
      if kind = .phrase .fileNamespace then itemsAmong parts else []

/-- The members of a unit that nodes are read as. -/
def itemsAmong : List Node → List Node
  | [] => []
  | n :: ns => n.items ++ itemsAmong ns

end

/-- The unit that a tree declares. -/
def outline (n : Node) (path : Option Path) : SourceUnit where
  path := path
  usings := usings (itemsAmong n.parts)
  fileNamespace := ((itemsAmong n.parts).filterMap fileNamespace?).getLast?
  members := members (itemsAmong n.parts)

end Node

end Scaffold.CSharp
