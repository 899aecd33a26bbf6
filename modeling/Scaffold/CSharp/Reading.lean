import Scaffold.CSharp.Lexeme

/-!
# Which tokens stand at a place

The tokens at a place depend on those that the grammar expects there. A word that is an expected
keyword is that keyword, and any other word is an identifier. Of the expected marks the longest
stands, except that a closing angle bracket may stand alone where a longer operator could: two of
them close two lists of type arguments.
-/

namespace Scaffold.CSharp

/-- An occurrence of a token: where it begins and ends, counted in characters. -/
structure Occurrence where
  token : Token
  start : Nat
  stop : Nat
deriving DecidableEq, Repr, Inhabited

/-- The length of an expected token that stands directly after the token before it. -/
def Token.tightLength? (t : Token) (cs : List Char) : Option Nat :=
  match t with
  | tightMark text => if opens text cs then some text.length else none
  | stringText =>
    match cs with
    | '\\' :: c :: _ => if isEscapable c then none else some 2
    | _ => unlessZero (span (fun c => c != '"' && c != '\\' && c != '\n') cs)
  | characterText =>
    match cs with
    | c :: _ => if c == '\'' || c == '\\' then none else some 1
    | [] => none
  | escape => unlessZero (escapeLength cs)
  | encoding => unlessZero (encodingLength cs)
  | interpolationText => unlessZero (run plainInterpolationStep cs)
  | verbatimInterpolationText => unlessZero (run verbatimInterpolationStep cs)
  | holeStart => if opens "\x7b" cs && !opens "\x7b\x7b" cs then some 1 else none
  | lineEnd => lineEndLength? cs
  | _ => none

/-- The length of an expected token that trivia may precede and that is neither word nor mark. -/
def Token.looseLength? (t : Token) (cs : List Char) : Option Nat :=
  match t with
  | integer =>
    match realLength? cs with
    | none => integerLength? cs
    | some n => if n ≤ (integerLength? cs).getD 0 then integerLength? cs else none
  | real =>
    match realLength? cs with
    | none => none
    | some n => if n ≤ (integerLength? cs).getD 0 then none else some n
  | openQuote => if opens "\"" cs && !opens "\"\"\"" cs then some 1 else none
  | verbatimString =>
    match cs with
    | '@' :: '"' :: rest => (verbatimBody? rest).map fun n => n + 2 + encodingLength (rest.drop n)
    | _ => none
  | rawString => rawStringLength? cs
  | interpolationStart => if opens "$\"" cs && !opens "$\"\"\"" cs then some 2 else none
  | verbatimInterpolationStart => if opens "$@\"" cs || opens "@$\"" cs then some 3 else none
  | holeFormat => unlessZero (span (fun c => c != '\x7d' && c != '"') cs)
  | rawInterpolation => rawInterpolationLength? cs
  | directive name => directiveLength? name cs
  | shebang => if opens "#!" cs then some (span (· != '\n') cs) else none
  | _ => none

/-- Whether a word may stand as an identifier also where it is an expected keyword. -/
def isSoftWord (text : String) : Bool :=
  text == "_"

/-- The expected tokens that the word at the front of a text may be, with the word's length. -/
def wordsAt (expected : List Token) (cs : List Char) : List (Token × Nat) :=
  match identifierLength cs with
  | 0 => []
  | n =>
    let text := String.ofList (cs.take n)
    let keyword : Token := .word text
    let identifiers : List (Token × Nat) := if .identifier ∈ expected then [(.identifier, n)] else []
    if keyword ∈ expected then
      if isSoftWord text then (keyword, n) :: identifiers else [(keyword, n)]
    else identifiers

/-- Whether a mark begins with a closing angle bracket. -/
def isAngled (text : String) : Bool :=
  opens ">" text.toList

/-- The expected marks at the front of a text. -/
def marksAt (expected : List Token) (cs : List Char) : List (Token × Nat) :=
  let here := expected.filterMap fun t =>
    match t with
    | .mark text => if opens text cs then some text else none
    | _ => none
  let longest := here.foldl (fun n text => max n text.length) 0
  (here.filter fun text => text.length = longest || isAngled text).map fun text =>
    (.mark text, text.length)

/-- The occurrences of the expected tokens after the place `place`, where the rest of the source is
`cs`. The end of a directive's line excludes every other token. -/
def occurrencesAt (expected : List Token) (place : Nat) (cs : List Char) : List Occurrence :=
  let tight := expected.filterMap fun t =>
    (t.tightLength? cs).map fun n => (⟨t, place, place + n⟩ : Occurrence)
  if tight.any (·.token = .lineEnd) then tight.filter (·.token = .lineEnd)
  else
    let (_, skipped) := triviaOf cs
    let rest := cs.drop skipped
    let loose := expected.filterMap fun t => (t.looseLength? rest).map fun n => (t, n)
    tight ++ (wordsAt expected rest ++ marksAt expected rest ++ loose).map fun (t, n) =>
      ⟨t, place + skipped, place + skipped + n⟩

end Scaffold.CSharp
