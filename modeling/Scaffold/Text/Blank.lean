import Scaffold.Text.Pieces
import Scaffold.Text.Ranges

/-!
# Blank characters

A character is blank when it has the Unicode property `White_Space`. This file trims blanks from the
ends of a text, splits a text into its words (the maximal runs without a blank) and joins the words
again with single spaces. `trim`, `words` and `compact` are the same functions on strings.
-/

namespace Scaffold.Text

/-- The code points with the property `White_Space`. -/
def blankRanges : Ranges := [
  (0x09, 0x0D), (0x20, 0x20), (0x85, 0x85), (0xA0, 0xA0), (0x1680, 0x1680), (0x2000, 0x200A),
  (0x2028, 0x2029), (0x202F, 0x202F), (0x205F, 0x205F), (0x3000, 0x3000)]

/-- The property `White_Space`. -/
def isBlank (c : Char) : Bool :=
  blankRanges.has c

/-- The text without its last characters that satisfy `p`. -/
def dropEndWhile (p : Char → Bool) (cs : List Char) : List Char :=
  (cs.reverse.dropWhile p).reverse

/-- The text without the blanks at its two ends. -/
def trimmed (cs : List Char) : List Char :=
  dropEndWhile isBlank (cs.dropWhile isBlank)

/-- The maximal runs of characters that are not blank, in order. -/
def wordsOf (cs : List Char) : List (List Char) :=
  runsOf isBlank cs

/-- The words of a text, joined by single spaces. -/
def compacted (cs : List Char) : List Char :=
  [' '].intercalate (wordsOf cs)

/-- A string without the blanks at its two ends. -/
def trim (s : String) : String :=
  String.ofList (trimmed s.toList)

/-- The words of a string. -/
def words (s : String) : List String :=
  (wordsOf s.toList).map String.ofList

/-- The words of a string, joined by single spaces: layout inside a type or a name is one space. -/
def compact (s : String) : String :=
  String.ofList (compacted s.toList)

end Scaffold.Text
