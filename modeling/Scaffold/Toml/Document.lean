import Scaffold.Toml.Quotation
import Scaffold.Toml.Table

/-!
# TOML documents

Reading a document: first its lines as statements, then the table that they make. Every reader
answers with what follows. Values nest at most `nestingLimit` deep.
-/

namespace Scaffold.Toml

/-- The number of brackets and braces that a value may stand in. -/
def nestingLimit : Nat := 80

/-- The stretch of text between two places, given by what follows them. -/
def between (start stop : List Char) : Span :=
  ⟨start.length, stop.length⟩

/-- A problem with the character that a text begins with. -/
def problemAt (cs : List Char) (message : String) : Problem :=
  ⟨⟨cs.length, cs.length - 1⟩, message⟩

/-- A text without the blanks at its front. -/
def dropBlanks (cs : List Char) : List Char :=
  cs.dropWhile fun c => c = ' ' || c = '\t'

/-- A text without the blanks, line breaks and comments at its front. -/
def dropLayout (inComment : Bool) : List Char → List Char
  | [] => []
  | '\r' :: '\n' :: rest => dropLayout false rest
  | '\n' :: rest => dropLayout false rest
  | c :: rest =>
    if inComment then if isPlain c then dropLayout true rest else c :: rest
    else if c = ' ' || c = '\t' then dropLayout false rest
    else if c = '#' then dropLayout true rest
    else c :: rest

/-- What follows the end of a line: blanks, a comment, and a line break or the end of the text. -/
def afterLine (cs : List Char) : Except Problem (List Char) :=
  let rest := dropBlanks cs
  let rest := if rest.head? = some '#' then rest.dropWhile isPlain else rest
  match rest with
  | [] => .ok []
  | '\n' :: rest => .ok rest
  | '\r' :: '\n' :: rest => .ok rest
  | rest => .error (problemAt rest "unexpected key or value, expected newline, `#`")

/-! ## Keys -/

/-- The characters of keys without quotes. -/
def isBareKey (c : Char) : Bool :=
  c.isAlphanum || c = '_' || c = '-'

/-- A key without dots. -/
def simpleKey (cs : List Char) : Except Problem (Key × List Char) :=
  let quoted (q : Quotation) : Except Problem (Key × List Char) :=
    match q with
    | some (content, rest) => .ok (⟨between cs rest, String.ofList content⟩, rest)
    | none => .error (problemAt cs "invalid quoted key")
  match cs with
  | '"' :: rest => quoted (basicString rest)
  | '\'' :: rest => quoted (literalString rest)
  | cs =>
    let bare := cs.takeWhile isBareKey
    let rest := cs.dropWhile isBareKey
    if bare.isEmpty then .error (problemAt cs "missing key")
    else .ok (⟨between cs rest, String.ofList bare⟩, rest)

/-- A key with the dotted keys on its way. -/
def dottedKey (cs : List Char) : Except Problem ((List Key × Key) × List Char) := do
  let (key, rest) ← simpleKey cs
  match dropBlanks rest with
  | '.' :: more =>
    let next := dropBlanks more
    if next.length < cs.length then
      let ((path, last), rest) ← dottedKey next
      return ((key :: path, last), rest)
    else .error (problemAt more "missing key")
  | rest => return (([], key), rest)
termination_by cs.length

/-! ## Values -/

/-- Items between commas up to a closing bracket, with layout around them; a comma may follow the
last item. -/
def series {α : Type} (item : List Char → Except Problem (α × List Char)) (close : Char) (cs : List Char) :
    Except Problem (List α × List Char) :=
  match dropLayout false cs with
  | [] => .error ⟨⟨1, 0⟩, "unclosed array or inline table"⟩
  | c :: rest =>
    if c = close then .ok ([], rest)
    else do
      let (a, after) ← item (c :: rest)
      match dropLayout false after with
      | [] => .error ⟨⟨1, 0⟩, "unclosed array or inline table"⟩
      | d :: next =>
        if d = close then return ([a], next)
        else if d = ',' then
          if next.length < cs.length then
            let (as, rest) ← series item close next
            return (a :: as, rest)
          else .error (problemAt next "missing value")
        else .error (problemAt (d :: next) "missing comma between items, expected `,`")
termination_by cs.length

/-- A key, the sign after it, and the value that the key gets. -/
def keyValue (value : List Char → Except Problem (Located Value × List Char)) (cs : List Char) :
    Except Problem ((List Key × Key × Located Value) × List Char) := do
  let ((path, key), rest) ← dottedKey cs
  match rest with
  | '=' :: rest =>
    let (v, rest) ← value (dropBlanks rest)
    return ((path, key, v), rest)
  | rest => .error (problemAt rest "key with no value, expected `=`")

/-- A value without brackets and braces. -/
def plainValue (cs : List Char) : Except Problem (Located Value × List Char) :=
  match quotation? cs with
  | some (some (content, rest)) =>
    .ok (⟨between cs rest, .string (String.ofList content)⟩, rest)
  | some none => .error (problemAt cs "invalid string")
  | none =>
    let (w, rest) := word cs
    match scalar? w with
    | some v => .ok (⟨between cs rest, v⟩, rest)
    | none => .error (problemAt cs "invalid value")

/-- A value with brackets and braces at most so deep. -/
def value : Nat → List Char → Except Problem (Located Value × List Char)
  | 0, '[' :: rest | 0, '\x7b' :: rest => .error (problemAt rest "recursion limit exceeded")
  | 0, cs => plainValue cs
  | depth + 1, '[' :: rest => do
    let (elements, after) ← series (value depth) ']' rest
    return (⟨between ('[' :: rest) after, .array .listed elements⟩, after)
  | depth + 1, '\x7b' :: rest => do
    let (values, after) ← series (keyValue (value depth)) '\x7d' rest
    let entries ← inlineEntries values
    return (⟨between ('\x7b' :: rest) after, .table .inline entries⟩, after)
  | _ + 1, cs => plainValue cs

/-! ## Lines -/

/-- A header, from its opening brackets. -/
def header (cs : List Char) : Except Problem (Statement × List Char) :=
  match cs with
  | '[' :: '[' :: rest => do
    let ((path, key), after) ← dottedKey (dropBlanks rest)
    match after with
    | ']' :: ']' :: after => return (.openElement path key (between cs after), after)
    | after => .error (problemAt after "unclosed array table, expected `]]`")
  | cs => do
    let ((path, key), after) ← dottedKey (dropBlanks (cs.drop 1))
    match after with
    | ']' :: after => return (.openTable path key (between cs after), after)
    | after => .error (problemAt after "unclosed table, expected `]`")

/-- A line that says something. -/
def statement (cs : List Char) : Except Problem (Statement × List Char) :=
  if cs.head? = some '[' then header cs
  else do
    let ((path, key, v), rest) ← keyValue (value nestingLimit) cs
    return (.assign path key v, rest)

/-- The statements of a text. -/
def statements (cs : List Char) : Except Problem (List Statement) :=
  match dropLayout false cs with
  | [] => .ok []
  | c :: rest => do
    let (s, after) ← statement (c :: rest)
    let next ← afterLine after
    if next.length < cs.length then
      let more ← statements next
      return s :: more
    else .error (problemAt next "missing key")
termination_by cs.length

/-- The mark that may open a text. -/
def byteOrderMark : Char := '\uFEFF'

/-- The table of a document. -/
def read (text : String) : Except Problem Entries := do
  let cs := text.toList
  let cs := if cs.head? = some byteOrderMark then cs.drop 1 else cs
  let lines ← statements cs
  entriesOf lines

end Scaffold.Toml
