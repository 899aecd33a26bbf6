import Scaffold.CSharp.Outline
import Scaffold.Proofs.Collection.Site
import Scaffold.Proofs.CSharp.Places

/-!
# The classes of a tree

The places of the class declarations of a tree, and the places in a class that are its own: those
whose nearest type declaration is the class. A place is reached unless a conditional directive is
around it, or a namespace in a class is.

Whether a class is reached depends on all that is around it, while an outline is made from the
outside in. So there are three views: that of a unit or namespace (`Place.seenSite?`), that of a
class (`Place.nestedSite?`), and that of a class on its members (`Place.member?`). For each kind of
node it is said what becomes of a view when it is taken from outside of the node.
-/

namespace Scaffold.CSharp

open Text

namespace Node

/-- Whether a node declares a type that is not a class. -/
def isOtherType (n : Node) : Bool :=
  n.is .structDeclaration || n.is .interfaceDeclaration || n.is .recordDeclaration ||
    n.is .enumDeclaration

/-- Whether a node declares a type with members. -/
def isTypeDeclaration (n : Node) : Bool :=
  n.is .classDeclaration || n.isOtherType

/-- Whether a node is a conditional directive with what stands in its branches. -/
def isConditional (n : Node) : Bool :=
  n.is .conditionalItems || n.is .conditionalDeclarations

/-- The name and the usings of a namespace block. -/
def block? (n : Node) : Option (String × List String) :=
  if n.is .namespaceDeclaration then some (compact (n.partText .name), usings n.bodyParts) else none

/-- The name of a class. -/
def className? (n : Node) : Option String :=
  if n.is .classDeclaration then some (n.partText .name) else none

end Node

namespace Place

/-- The site that a class has at a place. -/
def site (place : Place) : Site :=
  ⟨place.around.filterMap Node.block?, place.around.filterMap Node.className?,
    place.node.classNode⟩

/-- Whether no conditional directive is around the place, and no namespace in a class is. -/
def isReached (place : Place) : Bool :=
  !place.around.any Node.isConditional &&
    !(place.around.dropWhile (!·.is .classDeclaration)).any (·.is .namespaceDeclaration)

end Place

namespace Node

/-- The places of the classes that are in no type of another sort. -/
def classPlaces (n : Node) : List Place :=
  n.places.filter fun place => place.node.is .classDeclaration && !place.around.any isOtherType

/-- The places in a type whose nearest type declaration it is. -/
def ownPlaces (n : Node) : List Place :=
  ((placesAmong n.parts).filter (!·.around.any isTypeDeclaration)).map (Place.inside n)

end Node

/-! ## Views -/

/-- A phrase in which nothing is kept, wherever it stands. -/
def Phrase.hides : Phrase → Bool
  | structDeclaration | interfaceDeclaration | recordDeclaration | enumDeclaration
  | conditionalItems | conditionalDeclarations => true
  | _ => false

namespace Place

/-- Whether a class can be seen from the unit or from a namespace. -/
def isSeen (place : Place) : Bool :=
  place.node.is .classDeclaration && !place.around.any Node.isOtherType && place.isReached

/-- Whether a class can be seen from a class around it. -/
def isNested (place : Place) : Bool :=
  place.node.is .classDeclaration && !place.around.any Node.isOtherType &&
    (!place.around.any Node.isConditional && !place.around.any (·.is .namespaceDeclaration))

/-- Whether a member can be seen from the class that it is in. -/
def isMember (place : Place) : Bool :=
  !place.around.any Node.isTypeDeclaration &&
    (!place.around.any Node.isConditional && !place.around.any (·.is .namespaceDeclaration))

/-- The site of a class that can be seen from the unit or from a namespace. -/
def seenSite? (place : Place) : Option Site :=
  if place.isSeen then some place.site else none

/-- The site of a class that can be seen from a class around it. -/
def nestedSite? (place : Place) : Option Site :=
  if place.isNested then some place.site else none

/-- The member that can be seen from the class that it is in. -/
def member? {α : Type} (declared? : Node → Option α) (place : Place) : Option α :=
  if place.isMember then declared? place.node else none

/-! ## Views from outside of a node -/

section Inside

variable {n : Node} (place : Place) {α : Type} (declared? : Node → Option α)

/-- From outside of a class, its classes are seen in it, and its members are not seen. -/
theorem inside_class (h : n.kind = .phrase .classDeclaration) :
    (place.inside n).seenSite? = place.nestedSite?.map (Site.inClass (n.partText .name)) ∧
      (place.inside n).nestedSite? = place.nestedSite?.map (Site.inClass (n.partText .name)) ∧
      (place.inside n).member? declared? = none := by
  have hclass : n.is .classDeclaration = true := by simp [Node.is, h]
  have hblock : n.is .namespaceDeclaration = false := by simp [Node.is, h]
  have hother : n.isOtherType = false := by simp [Node.isOtherType, Node.is, h]
  have hcond : n.isConditional = false := by simp [Node.isConditional, Node.is, h]
  have hsite : (place.inside n).site = place.site.inClass (n.partText .name) := by
    simp [site, inside, Site.inClass, Node.block?, Node.className?, hclass, hblock]
  have hseen : (place.inside n).isSeen = place.isNested := by
    simp [isSeen, isNested, isReached, inside, hclass, hblock, hother, hcond]
  have hnested : (place.inside n).isNested = place.isNested := by
    simp [isNested, inside, hblock, hother, hcond]
  have hmember : (place.inside n).isMember = false := by
    simp [isMember, inside, Node.isTypeDeclaration, hclass]
  have hmap : (if place.isNested then some (place.site.inClass (n.partText .name)) else none) =
      place.nestedSite?.map (Site.inClass (n.partText .name)) :=
    (apply_ite (Option.map _) _ (some _) none).symm
  refine ⟨?_, ?_, ?_⟩
  · rw [seenSite?, hseen, hsite, hmap]
  · rw [nestedSite?, hnested, hsite, hmap]
  · rw [member?, hmember]
    rfl

/-- From outside of a namespace, its classes are seen in its block, but not from a class. -/
theorem inside_namespace (h : n.kind = .phrase .namespaceDeclaration) :
    (place.inside n).seenSite? =
        place.seenSite?.map (Site.inBlock (compact (n.partText .name)) (Node.usings n.bodyParts)) ∧
      (place.inside n).nestedSite? = none ∧ (place.inside n).member? declared? = none := by
  have hclass : n.is .classDeclaration = false := by simp [Node.is, h]
  have hblock : n.is .namespaceDeclaration = true := by simp [Node.is, h]
  have hother : n.isOtherType = false := by simp [Node.isOtherType, Node.is, h]
  have hcond : n.isConditional = false := by simp [Node.isConditional, Node.is, h]
  have hsite : (place.inside n).site =
      place.site.inBlock (compact (n.partText .name)) (Node.usings n.bodyParts) := by
    simp [site, inside, Site.inBlock, Node.block?, Node.className?, hclass, hblock]
  have hseen : (place.inside n).isSeen = place.isSeen := by
    simp [isSeen, isReached, inside, hclass, hother, hcond]
  have hnested : (place.inside n).isNested = false := by simp [isNested, inside, hblock]
  have hmember : (place.inside n).isMember = false := by simp [isMember, inside, hblock]
  refine ⟨?_, ?_, ?_⟩
  · rw [seenSite?, hseen, hsite]
    exact (apply_ite (Option.map _) _ (some _) none).symm
  · rw [nestedSite?, hnested]
    rfl
  · rw [member?, hmember]
    rfl

/-- Another type and a conditional directive hide everything. -/
theorem inside_hiding {p : Phrase} (h : n.kind = .phrase p) (hp : p.hides = true) :
    (place.inside n).seenSite? = none ∧ (place.inside n).nestedSite? = none ∧
      (place.inside n).member? declared? = none := by
  have hides : n.isOtherType = true ∨ n.isConditional = true := by
    simp only [Node.isOtherType, Node.isConditional, Node.is, h]
    revert hp
    cases p <;> decide
  have hseen : (place.inside n).isSeen = false := by
    rcases hides with hides | hides <;> simp [isSeen, isReached, inside, hides]
  have hnested : (place.inside n).isNested = false := by
    rcases hides with hides | hides <;> simp [isNested, inside, hides]
  have hmember : (place.inside n).isMember = false := by
    rcases hides with hides | hides <;> simp [isMember, inside, Node.isTypeDeclaration, hides]
  rw [seenSite?, nestedSite?, member?, hseen, hnested, hmember]
  exact ⟨rfl, rfl, rfl⟩

/-- Any other phrase can be looked through. -/
theorem inside_other {p : Phrase} (h : n.kind = .phrase p) (hhides : p.hides = false)
    (hp : p ≠ .classDeclaration ∧ p ≠ .namespaceDeclaration) :
    (place.inside n).seenSite? = place.seenSite? ∧
      (place.inside n).nestedSite? = place.nestedSite? ∧
      (place.inside n).member? declared? = place.member? declared? := by
  have hclass : n.is .classDeclaration = false := by simp [Node.is, h, hp.1]
  have hblock : n.is .namespaceDeclaration = false := by simp [Node.is, h, hp.2]
  have hides : n.isOtherType = false ∧ n.isConditional = false := by
    simp only [Node.isOtherType, Node.isConditional, Node.is, h]
    revert hhides
    cases p <;> decide
  have hsite : (place.inside n).site = place.site := by
    simp [site, inside, Node.block?, Node.className?, hclass, hblock]
  have hseen : (place.inside n).isSeen = place.isSeen := by
    simp [isSeen, isReached, inside, hclass, hides]
  have hnested : (place.inside n).isNested = place.isNested := by
    simp [isNested, inside, hblock, hides]
  have hmember : (place.inside n).isMember = place.isMember := by
    simp [isMember, inside, Node.isTypeDeclaration, hclass, hblock, hides]
  rw [seenSite?, nestedSite?, member?, hseen, hnested, hmember, hsite]
  exact ⟨rfl, rfl, rfl⟩

end Inside

end Place

end Scaffold.CSharp
