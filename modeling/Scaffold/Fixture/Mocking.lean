import Scaffold.Text.Blank

/-!
# Which types are mocked

Types are known by name only, so a convention on names decides which constructor parameters are
abstractions. Any function of the type text is a classifier; the two that are used here look at the
base name of a type: its last dotted segment, without generic arguments and nullability. An array
has no base name.
-/

namespace Scaffold.Fixture

open Text

/-- The type text up to its generic arguments or its nullability mark, trimmed. -/
def withoutArguments (type : List Char) : List Char :=
  trimmed (type.takeWhile fun c => c != '<' && c != '?')

/-- The base name of a type; none for an array. -/
def baseName? (type : List Char) : Option (List Char) :=
  if (dropEndWhile (· == '?') (trimmed type)).getLast? = some ']' then none
  else (piecesOf (· == '.') (withoutArguments type)).getLast?

/-- Decides whether a type, given as it was written, is an abstraction. -/
structure Classifier where
  isAbstraction : String → Bool

/-- Whether a base name follows the convention for interfaces. -/
def isInterfaceName : List Char → Bool
  | 'I' :: c :: _ => c.isUpper
  | _ => false

namespace Classifier

/-- The classifier that decides on the base name; a type without one is no abstraction. -/
def ofBaseName (p : List Char → Bool) : Classifier :=
  ⟨fun type => (baseName? type.toList).any p⟩

/-- The convention for interfaces: `I`, then a capital letter. -/
def interfaceConvention : Classifier :=
  ofBaseName isInterfaceName

/-- The types whose base name begins with one of the given texts; the empty text matches nothing. -/
def beginnings (texts : List String) : Classifier :=
  ofBaseName fun base => texts.any fun text => text != "" && text.toList.isPrefixOf base

end Classifier

end Scaffold.Fixture
