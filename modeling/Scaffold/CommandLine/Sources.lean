import Scaffold.Path
import Scaffold.Text.Blank

/-!
# Lists of sources

Several paths in one argument, between separators. Blanks around a path do not belong to it, and
what is blank is no path.
-/

namespace Scaffold

/-- The paths in a text, in order. -/
def splitSources (separator : Char) (text : String) : List Path :=
  (((Text.pieces (· = separator) text).map Text.trim).filter fun s => !s.isEmpty).map Path.mk

end Scaffold
