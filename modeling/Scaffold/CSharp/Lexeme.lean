import Scaffold.CSharp.Token
import Scaffold.Text.Blank
import Scaffold.Text.Identifier

/-!
# Occurrences of tokens

How far a token reaches at the front of a text. `lengthOf?` answers for the tokens whose form does
not depend on their neighbours; words and marks are read first and compared afterwards, in
`Scaffold.CSharp.Reading`.

Between tokens stands trivia: blanks, comments and the directives that carry no structure.
`triviaOf` reads it.
-/

namespace Scaffold.CSharp

/-- The length of the longest run of steps at the front of a text, each of the length that `step`
gives; a step of length zero ends the run. At most `fuel` steps are taken. -/
def runLength (step : List Char → Nat) : Nat → List Char → Nat
  | 0, _ => 0
  | fuel + 1, cs =>
    match step cs with
    | 0 => 0
    | k + 1 => k + 1 + runLength step fuel (cs.drop (k + 1))

/-- The length of the longest run of steps at the front of a text. -/
def run (step : List Char → Nat) (cs : List Char) : Nat :=
  runLength step cs.length cs

/-- The number of characters at the front of a text that satisfy `p`. -/
def span (p : Char → Bool) (cs : List Char) : Nat :=
  (cs.takeWhile p).length

/-- Whether a text begins with `t`. -/
def opens (t : String) (cs : List Char) : Bool :=
  t.toList.isPrefixOf cs

/-- The length, unless it is zero. -/
def unlessZero (n : Nat) : Option Nat :=
  if n = 0 then none else some n

/-! ## Identifiers -/

/-- A hexadecimal digit. -/
def isHexDigit (c : Char) : Bool :=
  c.isDigit || ('a' ≤ c && c ≤ 'f') || ('A' ≤ c && c ≤ 'F')

/-- The length of a character of an identifier written by its code point, if one stands there. -/
def codePointLength (cs : List Char) : Nat :=
  match cs with
  | '\\' :: 'u' :: rest => if span isHexDigit (rest.take 4) = 4 then 6 else 0
  | '\\' :: 'U' :: rest => if span isHexDigit (rest.take 8) = 8 then 10 else 0
  | _ => 0

/-- The length of the first character of an identifier. -/
def identifierStartLength (cs : List Char) : Nat :=
  match cs with
  | [] => 0
  | c :: _ => if c == '_' || Text.isIdentifierStart c then 1 else codePointLength cs

/-- The length of a further character of an identifier. -/
def identifierContinueLength (cs : List Char) : Nat :=
  match cs with
  | [] => 0
  | c :: _ => if Text.isIdentifierContinue c then 1 else codePointLength cs

/-- The length of an identifier without a mark before it, or zero. -/
def plainIdentifierLength (cs : List Char) : Nat :=
  match identifierStartLength cs with
  | 0 => 0
  | k => k + run identifierContinueLength (cs.drop k)

/-- The length of an identifier, or zero. -/
def identifierLength (cs : List Char) : Nat :=
  match cs with
  | '@' :: rest =>
    match plainIdentifierLength rest with
    | 0 => 0
    | k => k + 1
  | _ => plainIdentifierLength cs

/-! ## Numbers -/

/-- The length of a run of digits of the given kind, with underscores between them, or zero. -/
def digitsLength (isDigit : Char → Bool) (cs : List Char) : Nat :=
  match cs with
  | [] => 0
  | c :: _ =>
    if isDigit c then
      (Text.dropEndWhile (· == '_') (cs.takeWhile fun c => isDigit c || c == '_')).length
    else 0

/-- The length of the digits after the sign of a base, underscores before them included. -/
def basedDigitsLength (isDigit : Char → Bool) (cs : List Char) : Nat :=
  let k := span (· == '_') cs
  match digitsLength isDigit (cs.drop k) with
  | 0 => 0
  | n => k + n

/-- The length of an integer without its suffix, or zero. -/
def integerBodyLength (cs : List Char) : Nat :=
  let based (isDigit : Char → Bool) (rest : List Char) :=
    match basedDigitsLength isDigit rest with
    | 0 => 1
    | n => n + 2
  match cs with
  | '0' :: 'x' :: rest | '0' :: 'X' :: rest => based isHexDigit rest
  | '0' :: 'b' :: rest | '0' :: 'B' :: rest => based (fun c => c == '0' || c == '1') rest
  | _ => digitsLength Char.isDigit cs

/-- The length of the suffix of an integer. -/
def integerSuffixLength (cs : List Char) : Nat :=
  let isU (c : Char) := c == 'u' || c == 'U'
  let isL (c : Char) := c == 'l' || c == 'L'
  match cs with
  | a :: b :: _ =>
    if (isU a && isL b) || (isL a && isU b) then 2 else if isU a || isL a then 1 else 0
  | [a] => if isU a || isL a then 1 else 0
  | [] => 0

/-- The length of an integer. -/
def integerLength? (cs : List Char) : Option Nat :=
  match integerBodyLength cs with
  | 0 => none
  | k => some (k + integerSuffixLength (cs.drop k))

/-- The length of an exponent, or zero. -/
def exponentLength (cs : List Char) : Nat :=
  let digits (k : Nat) (rest : List Char) :=
    match span (fun c => c.isDigit || c == '_') rest with
    | 0 => 0
    | n => if rest.head? = some '_' then 0 else k + n
  match cs with
  | c :: rest =>
    if c == 'e' || c == 'E' then
      match rest with
      | '+' :: rest | '-' :: rest => digits 2 rest
      | _ => digits 1 rest
    else 0
  | [] => 0

/-- The length of the suffix of a real number. -/
def realSuffixLength (cs : List Char) : Nat :=
  match cs with
  | c :: _ => if c ∈ ['f', 'F', 'd', 'D', 'm', 'M'] then 1 else 0
  | [] => 0

/-- The length of a fraction with its point, or zero. -/
def fractionLength (cs : List Char) : Nat :=
  match cs with
  | '.' :: rest =>
    match digitsLength Char.isDigit rest with
    | 0 => 0
    | n => n + 1
  | _ => 0

/-- The length of a real number: digits with a fraction, an exponent or a suffix. -/
def realLength? (cs : List Char) : Option Nat :=
  let whole := digitsLength Char.isDigit cs
  let fraction := fractionLength (cs.drop whole)
  let exponent := exponentLength (cs.drop (whole + fraction))
  let suffix := realSuffixLength (cs.drop (whole + fraction + exponent))
  if fraction + exponent + suffix = 0 || whole + fraction = 0 then none
  else some (whole + fraction + exponent + suffix)

/-! ## Strings and characters -/

/-- Whether a character after a backslash stands for another one. -/
def isEscapable (c : Char) : Bool :=
  c ∈ ['a', 'b', 'e', 'f', 'n', 'r', 't', 'v', '\'', '"', '\\', '?', '0']

/-- The length of a backslash and what it escapes, or zero. -/
def escapeLength (cs : List Char) : Nat :=
  match cs with
  | '\\' :: 'x' :: rest =>
    let n := span isHexDigit (rest.take 4)
    if 2 ≤ n then n + 2 else 0
  | '\\' :: c :: _ => if isEscapable c then 2 else codePointLength cs
  | _ => 0

/-- The length of the encoding mark after a string, or zero. -/
def encodingLength (cs : List Char) : Nat :=
  match cs with
  | 'u' :: '8' :: _ | 'U' :: '8' :: _ => 2
  | _ => 0

/-- The length of an ordinary run in quotes where a doubled quote stands for one, with the quote
that ends it; none if no quote ends it. -/
def verbatimBody? : List Char → Option Nat
  | [] => none
  | '"' :: '"' :: rest => (verbatimBody? rest).map (· + 2)
  | '"' :: _ => some 1
  | _ :: rest => (verbatimBody? rest).map (· + 1)

/-- The length of a text up to and with the next run of exactly `quotes` quotes. -/
def rawBody? (quotes : Nat) : Nat → List Char → Option Nat
  | 0, _ => none
  | fuel + 1, cs =>
    match cs with
    | [] => none
    | c :: rest =>
      if c == '"' then
        let k := span (· == '"') cs
        if k = quotes then some k else (rawBody? quotes fuel (cs.drop k)).map (· + k)
      else (rawBody? quotes fuel rest).map (· + 1)

/-- The length of a string between runs of at least three quotes. -/
def rawStringLength? (cs : List Char) : Option Nat :=
  let quotes := span (· == '"') cs
  if quotes < 3 then none
  else (rawBody? quotes (cs.length + 1) (cs.drop quotes)).map fun n =>
    let k := quotes + n
    k + encodingLength (cs.drop k)

/-- The length of an interpolated string between runs of at least three quotes. -/
def rawInterpolationLength? (cs : List Char) : Option Nat :=
  match span (· == '$') cs with
  | 0 => none
  | k => (rawStringLength? (cs.drop k)).map (· + k)

/-- The step of an ordinary run of an interpolated string whose special characters are the quote,
the brace and those that satisfy `isSpecial`; a doubled brace is ordinary. -/
def interpolationStep (isSpecial : Char → Bool) (cs : List Char) : Nat :=
  match cs with
  | '\x7b' :: '\x7b' :: _ => 2
  | c :: _ => if c == '\x7b' || c == '"' || isSpecial c then 0 else 1
  | [] => 0

/-- The step of an ordinary run of an interpolated string on one line. -/
def plainInterpolationStep (cs : List Char) : Nat :=
  match cs with
  | '\\' :: _ :: _ => if escapeLength cs = 0 then 2 else 0
  | _ => interpolationStep (fun c => c == '\\' || c == '\n') cs

/-- The step of an ordinary run of a verbatim interpolated string: a doubled quote is ordinary. -/
def verbatimInterpolationStep (cs : List Char) : Nat :=
  match cs with
  | '"' :: '"' :: _ => 2
  | _ => interpolationStep (fun _ => false) cs

/-- The length of a directive with its number sign, or none. -/
def directiveLength? (name : String) (cs : List Char) : Option Nat :=
  match cs with
  | '#' :: rest =>
    let k := span (fun c => c == ' ' || c == '\t') rest
    if opens name (rest.drop k) then some (1 + k + name.length) else none
  | _ => none

/-! ## Trivia -/

/-- What trivia is kept in a tree. -/
inductive Trivia where
  | comment
  | directive
deriving DecidableEq, Repr

/-- The blank characters between tokens. -/
def isSpace (c : Char) : Bool :=
  c == ' ' || (9 ≤ c.toNat && c.toNat ≤ 13) || c.toNat == 0xA0 || c.toNat == 0xFEFF ||
    c.toNat == 0x3000

/-- The length of a text up to and with the end of a comment between stars. -/
def starCommentBody? : List Char → Option Nat
  | [] => none
  | '*' :: '/' :: _ => some 2
  | _ :: rest => (starCommentBody? rest).map (· + 1)

/-- The length of a comment. -/
def commentLength? (cs : List Char) : Option Nat :=
  match cs with
  | '/' :: '/' :: rest => some (2 + span (fun c => c != '\n' && c != '\r') rest)
  | '/' :: '*' :: rest => (starCommentBody? rest).map (· + 2)
  | _ => none

/-- The step of the free text after a directive: no line feed unless a backslash is before it, and
no opening of a comment between stars. -/
def directiveTextStep (cs : List Char) : Nat :=
  match cs with
  | '\\' :: '\n' :: _ => 2
  | '\\' :: '\r' :: '\n' :: _ => 3
  | '/' :: '*' :: _ => 0
  | '/' :: _ :: _ => 2
  | ['/'] => 0
  | '\n' :: _ => 0
  | _ :: _ => 1
  | [] => 0

/-- The length of the blanks of one line. -/
def lineSpace (cs : List Char) : Nat :=
  span (fun c => isSpace c && c != '\n') cs

/-- The length of the blanks and comments of one line. -/
def lineTrivia (cs : List Char) : Nat :=
  run (fun cs => lineSpace cs + ((commentLength? (cs.drop (lineSpace cs))).getD 0)) cs

/-- The length of the end of a directive's line, with what may stand before it. -/
def lineEndLength? (cs : List Char) : Option Nat :=
  let k := lineTrivia cs
  if (cs.drop k).head? = some '\n' then some (k + 1) else none

/-- The length of a free text after a directive, with the blanks before it, or zero. -/
def directiveTextLength (cs : List Char) : Nat :=
  let k := lineTrivia cs
  match cs.drop k with
  | [] | '\n' :: _ => 0
  | _ :: rest => k + 1 + run directiveTextStep rest

/-- The pieces of a directive's line. -/
inductive LinePiece where
  | words (options : List String)
  | name
  | number
  | text
  | symbol (c : Char)

/-- The length of a string in quotes without escapes looked at, or none. -/
def quotedLength? (cs : List Char) : Option Nat :=
  match cs with
  | '"' :: rest =>
    let k := span (fun c => c != '"' && c != '\n') rest
    if (rest.drop k).head? = some '"' then some (k + 2) else none
  | _ => none

/-- The length of a piece of a directive's line, with the blanks before it. -/
def LinePiece.length? (piece : LinePiece) (cs : List Char) : Option Nat :=
  let k := lineTrivia cs
  let cs := cs.drop k
  (match piece with
    | words options =>
      let n := plainIdentifierLength cs
      if String.ofList (cs.take n) ∈ options then some n else none
    | name => unlessZero (identifierLength cs)
    | number => integerLength? cs
    | text => quotedLength? cs
    | symbol c => if cs.head? = some c then some 1 else none).map (k + ·)

/-- The length of pieces that follow each other. -/
def piecesLength? : List LinePiece → List Char → Option Nat
  | [], _ => some 0
  | piece :: pieces, cs => do
    let n ← piece.length? cs
    let m ← piecesLength? pieces (cs.drop n)
    return n + m

/-- The length of the first of some alternatives that is there. -/
def firstLength? (alternatives : List (List LinePiece)) (cs : List Char) : Option Nat :=
  alternatives.findSome? (piecesLength? · cs)

/-- The length of a list of warnings: names or numbers with commas between. -/
def warningsLength (cs : List Char) : Nat :=
  match firstLength? [[.name], [.number]] cs with
  | none => 0
  | some n =>
    n + run (fun cs => (firstLength? [[.symbol ',', .name], [.symbol ',', .number]] cs).getD 0)
      (cs.drop n)

/-- The positions of a `line` directive. -/
def positionPieces : List LinePiece := [
  .symbol '(', .number, .symbol ',', .number, .symbol ')', .symbol '-', .symbol '(', .number,
  .symbol ',', .number, .symbol ')']

/-- The length of what stands after the name of a directive that carries no structure. -/
def directiveBodyLength? (name : String) (cs : List Char) : Option Nat :=
  match name with
  | "region" | "endregion" => some (directiveTextLength cs)
  | "error" | "warning" | "define" | "undef" => unlessZero (directiveTextLength cs)
  | "line" =>
    firstLength? [
      [.words ["default", "hidden"]], positionPieces ++ [.number, .text], positionPieces ++ [.text],
      [.number, .text], [.number]] cs
  | "nullable" => do
    let n ← firstLength? [[.words ["enable", "disable", "restore"]]] cs
    let m := firstLength? [[.words ["annotations", "warnings"]]] (cs.drop n)
    return n + m.getD 0
  | "pragma" =>
    match firstLength? [[.words ["warning"], .words ["disable", "restore"]]] cs with
    | some n => some (n + warningsLength (cs.drop n))
    | none => firstLength? [[.words ["checksum"], .text, .text, .text]] cs
  | _ => none

/-- The directives that carry no structure. -/
def plainDirectives : List String := [
  "region", "endregion", "line", "pragma", "nullable", "error", "warning", "define", "undef"]

/-- The length of a directive that carries no structure, with its line end. -/
def plainDirectiveLength? (cs : List Char) : Option Nat :=
  if cs.head? = some '#' then
    plainDirectives.findSome? fun name => do
      let n ← directiveLength? name cs
      let m ← directiveBodyLength? name (cs.drop n)
      let k ← lineEndLength? (cs.drop (n + m))
      return n + m + k
  else none

/-- The trivia at the front of a text with its place and length, and where the first token begins.
Places count from `at'`. -/
def triviaFrom (at' : Nat) : Nat → List Char → List (Trivia × Nat × Nat) × Nat
  | 0, _ => ([], at')
  | fuel + 1, cs =>
    let k := span isSpace cs
    let rest := cs.drop k
    let place := at' + k
    match commentLength? rest with
    | some n =>
      let (found, stop) := triviaFrom (place + n) fuel (rest.drop n)
      ((.comment, place, n) :: found, stop)
    | none =>
      match plainDirectiveLength? rest with
      | some n =>
        let (found, stop) := triviaFrom (place + n) fuel (rest.drop n)
        ((.directive, place, n) :: found, stop)
      | none => ([], place)

/-- The trivia at the front of a text, and the place of the first token. -/
def triviaOf (cs : List Char) : List (Trivia × Nat × Nat) × Nat :=
  triviaFrom 0 (cs.length + 1) cs

end Scaffold.CSharp
