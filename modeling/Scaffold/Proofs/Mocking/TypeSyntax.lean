import Scaffold.Text.Blank

/-!
# The syntax of types

A type is a dotted name whose segments may have generic arguments, the nullable type or the pointer
of a type, or a tuple. Its text is written with any number of spaces behind commas. Arrays are left
out: the text of a type has no square brackets (`TypeSyntax.bracket_notMem`).
-/

namespace Scaffold.Fixture

open Text

/-! ## Types and their texts -/

/-- The characters with a meaning of their own in types. -/
def typeMarks : List Char := ['.', ',', '<', '>', '?', '*', '(', ')', '[', ']']

/-- Whether a character can stand in a name: it is neither a blank nor one of the marks. -/
def isNameCharacter (c : Char) : Bool :=
  !isBlank c && !typeMarks.contains c

/-- A name in a type: an identifier or the keyword of a type. -/
structure TypeName where
  chars : List Char
  ne_nil : chars ≠ []
  all_isNameCharacter : chars.all isNameCharacter = true

mutual

/-- A type. -/
inductive TypeSyntax where
  /-- A dotted name: its first segment and the segments behind dots. -/
  | dotted (first : Segment) (more : List Segment)
  | nullable (type : TypeSyntax)
  | pointer (type : TypeSyntax)
  /-- A tuple: its first element and the elements behind commas. -/
  | tuple (first : Element) (more : List Element)

/-- A segment of a dotted name, with its generic arguments. -/
inductive Segment where
  | mk (name : TypeName) (arguments : List TypeSyntax)

/-- An element of a tuple, with its name if it has one. -/
inductive Element where
  | mk (type : TypeSyntax) (name : Option TypeName)

end

theorem TypeName.isNameCharacter_of_mem (name : TypeName) {c : Char} (h : c ∈ name.chars) :
    isNameCharacter c = true :=
  List.all_eq_true.1 name.all_isNameCharacter c h

def Segment.name : Segment → TypeName
  | ⟨name, _⟩ => name

/-- Whether a segment has generic arguments. -/
def Segment.isGeneric : Segment → Bool
  | ⟨_, arguments⟩ => !arguments.isEmpty

/-- A comma with spaces behind it. -/
def comma (spaces : Nat) : List Char :=
  ',' :: List.replicate spaces ' '

mutual

/-- The characters of a type, with some spaces behind every comma. -/
def TypeSyntax.chars (spaces : Nat) : TypeSyntax → List Char
  | .dotted first more => first.chars spaces ++ Segment.charsRest spaces more
  | .nullable type => type.chars spaces ++ ['?']
  | .pointer type => type.chars spaces ++ ['*']
  | .tuple first more => '(' :: (first.chars spaces ++ Element.charsRest spaces more ++ [')'])

/-- The characters of further types, each behind a comma. -/
def TypeSyntax.charsRest (spaces : Nat) : List TypeSyntax → List Char
  | [] => []
  | type :: types => comma spaces ++ type.chars spaces ++ TypeSyntax.charsRest spaces types

/-- The characters of a segment. -/
def Segment.chars (spaces : Nat) : Segment → List Char
  | ⟨name, []⟩ => name.chars
  | ⟨name, type :: types⟩ => name.chars ++
      '<' :: (type.chars spaces ++ (TypeSyntax.charsRest spaces types ++ ['>']))

/-- The characters of further segments, each behind a dot. -/
def Segment.charsRest (spaces : Nat) : List Segment → List Char
  | [] => []
  | segment :: segments => '.' :: (segment.chars spaces ++ Segment.charsRest spaces segments)

/-- The characters of an element. -/
def Element.chars (spaces : Nat) : Element → List Char
  | ⟨type, none⟩ => type.chars spaces
  | ⟨type, some name⟩ => type.chars spaces ++ ' ' :: name.chars

/-- The characters of further elements, each behind a comma. -/
def Element.charsRest (spaces : Nat) : List Element → List Char
  | [] => []
  | element :: elements =>
    comma spaces ++ (element.chars spaces ++ Element.charsRest spaces elements)

end

/-- The text of a type. -/
def TypeSyntax.text (spaces : Nat) (type : TypeSyntax) : String :=
  String.ofList (type.chars spaces)

/-! ## No arrays -/

theorem TypeName.bracket_notMem (name : TypeName) : ']' ∉ name.chars := fun h =>
  absurd (name.isNameCharacter_of_mem h) (by decide)

theorem bracket_notMem_comma (spaces : Nat) : ']' ∉ comma spaces := by
  simp [comma]

mutual

/-- There are no arrays among the types. -/
theorem TypeSyntax.bracket_notMem (spaces : Nat) : ∀ type : TypeSyntax, ']' ∉ type.chars spaces
  | .dotted first more => by
    simp [TypeSyntax.chars, first.bracket_notMem, Segment.bracket_notMem_rest spaces more]
  | .nullable type => by simp [TypeSyntax.chars, type.bracket_notMem]
  | .pointer type => by simp [TypeSyntax.chars, type.bracket_notMem]
  | .tuple first more => by
    simp [TypeSyntax.chars, first.bracket_notMem, Element.bracket_notMem_rest spaces more]

theorem TypeSyntax.bracket_notMem_rest (spaces : Nat) :
    ∀ types, ']' ∉ TypeSyntax.charsRest spaces types
  | [] => List.not_mem_nil
  | type :: types => by
    simp [TypeSyntax.charsRest, bracket_notMem_comma, type.bracket_notMem,
      TypeSyntax.bracket_notMem_rest spaces types]

theorem Segment.bracket_notMem (spaces : Nat) : ∀ segment : Segment, ']' ∉ segment.chars spaces
  | ⟨name, []⟩ => name.bracket_notMem
  | ⟨name, type :: types⟩ => by
    simp [Segment.chars, name.bracket_notMem, type.bracket_notMem,
      TypeSyntax.bracket_notMem_rest spaces types]

theorem Segment.bracket_notMem_rest (spaces : Nat) :
    ∀ segments, ']' ∉ Segment.charsRest spaces segments
  | [] => List.not_mem_nil
  | segment :: segments => by
    simp [Segment.charsRest, segment.bracket_notMem, Segment.bracket_notMem_rest spaces segments]

theorem Element.bracket_notMem (spaces : Nat) : ∀ element : Element, ']' ∉ element.chars spaces
  | ⟨type, none⟩ => type.bracket_notMem spaces
  | ⟨type, some name⟩ => by simp [Element.chars, type.bracket_notMem, name.bracket_notMem]

theorem Element.bracket_notMem_rest (spaces : Nat) :
    ∀ elements, ']' ∉ Element.charsRest spaces elements
  | [] => List.not_mem_nil
  | element :: elements => by
    simp [Element.charsRest, bracket_notMem_comma, element.bracket_notMem,
      Element.bracket_notMem_rest spaces elements]

end

end Scaffold.Fixture
