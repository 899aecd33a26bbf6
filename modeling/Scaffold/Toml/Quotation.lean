import Scaffold.Toml.Scalar

/-!
# Quoted texts of TOML

The four kinds of strings. A basic string, between double quotes, has escapes; a literal string,
between single quotes, has none; each kind may also stand between triple quotes and then go over
several lines. The readers get the text after the opening quote and answer the content with what
follows the closing quote.
-/

namespace Scaffold.Toml

/-- The characters that may stand in strings and comments: no control character but the tab. -/
def isPlain (c : Char) : Bool :=
  c = '\t' || (0x20 ≤ c.toNat && c.toNat ≠ 0x7F)

/-- The character with a code point in hexadecimal digits. -/
def charOfHex? (digits : List Char) : Option Char :=
  if digits.all (isDigitOf 16) then
    let n := numeral 16 digits
    if n.isValidChar then some (Char.ofNat n) else none
  else none

/-- The character that a letter after a backslash stands for. -/
def escaped? : Char → Option Char
  | 'b' => some '\x08'
  | 't' => some '\t'
  | 'n' => some '\n'
  | 'f' => some '\x0c'
  | 'r' => some '\r'
  | 'e' => some '\x1b'
  | '"' => some '"'
  | '\\' => some '\\'
  | _ => none

/-- A content and what follows it. -/
abbrev Quotation := Option (List Char × List Char)

/-- The content with one more character at its front. -/
def Quotation.cons (c : Char) (q : Quotation) : Quotation :=
  q.map fun (content, rest) => (c :: content, rest)

/-- The content with a character at its front, if there is that character. -/
def Quotation.cons? (c : Option Char) (q : Quotation) : Quotation :=
  match c with
  | some c => Quotation.cons c q
  | none => none

/-- A basic string on one line. -/
def basicString : List Char → Quotation
  | [] => none
  | '"' :: rest => some ([], rest)
  | '\\' :: 'x' :: a :: b :: rest => Quotation.cons? (charOfHex? [a, b]) (basicString rest)
  | '\\' :: 'u' :: a :: b :: c :: d :: rest =>
    Quotation.cons? (charOfHex? [a, b, c, d]) (basicString rest)
  | '\\' :: 'U' :: a :: b :: c :: d :: e :: f :: g :: h :: rest =>
    Quotation.cons? (charOfHex? [a, b, c, d, e, f, g, h]) (basicString rest)
  | '\\' :: c :: rest => Quotation.cons? (escaped? c) (basicString rest)
  | c :: rest => if c ≠ '\\' && isPlain c then Quotation.cons c (basicString rest) else none

/-- A literal string on one line. -/
def literalString : List Char → Quotation
  | [] => none
  | '\'' :: rest => some ([], rest)
  | c :: rest => if isPlain c then Quotation.cons c (literalString rest) else none

/-- The content of a string over lines that ends before `n` closing quotes; two quotes more may
stand directly before them. -/
def closing? (quote : Char) (cs : List Char) : Quotation :=
  let run := cs.takeWhile (· = quote)
  if run.length < 3 then none
  else
    let extra := min (run.length - 3) 2
    some (List.replicate extra quote, cs.drop (extra + 3))

/-- Where a basic string over lines is at. -/
inductive Fold where
  | none
  /-- After a backslash, on the line that it ends. -/
  | opening
  /-- After a backslash and the end of its line. -/
  | running
deriving DecidableEq

/-- A basic string over lines. A backslash at the end of a line leaves out the line break and all
blanks and line breaks that follow. -/
def basicBlock (fold : Fold) : List Char → Quotation
  | [] => .none
  | '\r' :: '\n' :: rest =>
    if fold = .none then Quotation.cons '\r' (Quotation.cons '\n' (basicBlock .none rest))
    else basicBlock .running rest
  | '\n' :: rest =>
    if fold = .none then Quotation.cons '\n' (basicBlock .none rest) else basicBlock .running rest
  | c :: rest =>
    if fold ≠ .none && (c = ' ' || c = '\t') then basicBlock fold rest
    else if fold = .opening then .none
    else match closing? '"' (c :: rest) with
      | some closed => some closed
      | .none =>
        if c ≠ '\\' then
          if isPlain c then Quotation.cons c (basicBlock .none rest) else .none
        else match rest with
          | 'x' :: a :: b :: rest => Quotation.cons? (charOfHex? [a, b]) (basicBlock .none rest)
          | 'u' :: a :: b :: c :: d :: rest =>
            Quotation.cons? (charOfHex? [a, b, c, d]) (basicBlock .none rest)
          | 'U' :: a :: b :: c :: d :: e :: f :: g :: h :: rest =>
            Quotation.cons? (charOfHex? [a, b, c, d, e, f, g, h]) (basicBlock .none rest)
          | '\r' :: '\n' :: rest => basicBlock .running rest
          | '\n' :: rest => basicBlock .running rest
          | c :: rest =>
            if c = ' ' || c = '\t' then basicBlock .opening rest
            else Quotation.cons? (escaped? c) (basicBlock .none rest)
          | [] => .none

/-- A literal string over lines. -/
def literalBlock : List Char → Quotation
  | [] => none
  | '\r' :: '\n' :: rest => Quotation.cons '\r' (Quotation.cons '\n' (literalBlock rest))
  | '\n' :: rest => Quotation.cons '\n' (literalBlock rest)
  | c :: rest =>
    match closing? '\'' (c :: rest) with
    | some closed => some closed
    | none => if isPlain c then Quotation.cons c (literalBlock rest) else none

/-- A text without the line break that it begins with. -/
def dropLineBreak : List Char → List Char
  | '\r' :: '\n' :: rest => rest
  | '\n' :: rest => rest
  | cs => cs

/-- A string of any kind, from its opening quote; nothing if the text begins with no quote. -/
def quotation? : List Char → Option Quotation
  | '"' :: '"' :: '"' :: rest => some (basicBlock .none (dropLineBreak rest))
  | '\'' :: '\'' :: '\'' :: rest => some (literalBlock (dropLineBreak rest))
  | '"' :: rest => some (basicString rest)
  | '\'' :: rest => some (literalString rest)
  | _ => none

end Scaffold.Toml
