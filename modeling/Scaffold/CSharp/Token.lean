/-!
# Tokens of C#

The terminal symbols of the grammar. A token is a form, not an occurrence: which token stands at a
place of a text depends on the tokens that the grammar allows there, so `class` is a keyword where a
class may begin and an identifier where only a name is allowed.
-/

namespace Scaffold.CSharp

/-- A terminal symbol. -/
inductive Token where
  /-- A keyword. -/
  | word (text : String)
  /-- An operator or a punctuation mark. -/
  | mark (text : String)
  /-- A mark that stands directly after the token before it. -/
  | tightMark (text : String)
  | identifier
  | integer
  | real
  /-- The quote that opens a regular string. -/
  | openQuote
  /-- A run of ordinary characters of a regular string. -/
  | stringText
  /-- The one ordinary character of a character literal. -/
  | characterText
  /-- A backslash and what it escapes in a string or character. -/
  | escape
  /-- A string in which only the quote is special. -/
  | verbatimString
  /-- A string between runs of three or more quotes. -/
  | rawString
  /-- The encoding mark of a string. -/
  | encoding
  /-- The opening of an interpolated string. -/
  | interpolationStart
  /-- The opening of an interpolated string in which only quotes and braces are special. -/
  | verbatimInterpolationStart
  /-- A run of ordinary characters of an interpolated string. -/
  | interpolationText
  /-- A run of ordinary characters of a verbatim interpolated string. -/
  | verbatimInterpolationText
  /-- The brace that opens a hole of an interpolated string. -/
  | holeStart
  /-- The format of a hole. -/
  | holeFormat
  /-- An interpolated string between runs of three or more quotes. -/
  | rawInterpolation
  /-- A conditional directive: `if`, `elif`, `else` or `endif` after a number sign. -/
  | directive (name : String)
  /-- The end of the line of a directive. -/
  | lineEnd
  /-- The first line of a script. -/
  | shebang
deriving DecidableEq, Repr, Hashable, Inhabited

end Scaffold.CSharp
