import Scaffold.Text.Pieces
import Scaffold.Total
import Scaffold.Toml.Value

/-!
# Showing a problem

A problem with the line that it is on: where it is, the line with carets beneath the stretch of
text, and what is wrong. Lines and columns count from one, columns in characters; the carets are as
many as the stretch has bytes, and at least one.
-/

namespace Scaffold.Toml

/-- The number of bytes of characters. -/
def byteCount (cs : List Char) : Nat :=
  total Char.utf8Size cs

/-- The line that a place is on, up to the place, from all that stands before the place. -/
def lastLine (before : List Char) : List Char :=
  (before.reverse.takeWhile (· ≠ '\n')).reverse

/-- A row of equal characters. -/
def row (n : Nat) (c : Char) : String :=
  String.ofList (List.replicate n c)

/-- A problem with the text that it is in. The place behind the last character is on the line of
that character. -/
def Problem.report (p : Problem) (text : String) : String :=
  let cs := text.toList
  let place := cs.length - p.span.start
  let anchor := min place (cs.length - 1)
  let before := cs.take anchor
  let line := before.count '\n'
  let column := (lastLine before).length + (place - anchor)
  let content := (Text.piecesOf (· = '\n') cs).getD line []
  let stretch := byteCount ((cs.drop place).take (p.span.start - p.span.stop))
  let carets := max 1 (min stretch (byteCount content))
  let number := toString (line + 1)
  let gutter := row (number.length + 1) ' '
  String.join [
    "TOML parse error at line ", number, ", column ", toString (column + 1), "\n",
    gutter, "|\n",
    number, " | ", String.ofList content, "\n",
    gutter, "|", row (column + 1) ' ', row carets '^', "\n",
    p.message, "\n"]

end Scaffold.Toml
