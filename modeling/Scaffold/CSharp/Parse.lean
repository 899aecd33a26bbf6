import Scaffold.CSharp.Outline
import Scaffold.CSharp.Repair
import Scaffold.Fault

/-!
# Reading a source

A source is read into a tree; a tree with a fault is refused with the place of its first fault, and
any other is outlined.
-/

namespace Scaffold.CSharp

/-- The network of the grammar of C#. -/
def network : Network := Network.ofGrammar

/-- The tree of a source that does not fit the grammar: its parts are its faults. -/
def flawedTree (s : Source) : Node :=
  ⟨.phrase .compilationUnit, none, 0, String.ofList s.characters, true, Repair.faults network s⟩

/-- The tree of a text. -/
def parse (text : String) : Node :=
  let s := Source.ofCharacters text.toList
  ((Chart.ofSource network s.characters).tree? network s).getD (flawedTree s)

namespace Node

/-- Whether a node itself is a fault. -/
def isFault (n : Node) : Bool :=
  match n.kind with
  | .unread | .missing _ => true
  | _ => false

mutual

/-- The first fault in a node; only flawed nodes are looked into. -/
def firstFault? : Node → Option Node
  | ⟨kind, role, start, text, isFlawed, parts⟩ =>
    let n : Node := ⟨kind, role, start, text, isFlawed, parts⟩
    if n.isFault then some n else if isFlawed then firstFaultAmong? parts else none

/-- The first fault in nodes. -/
def firstFaultAmong? : List Node → Option Node
  | [] => none
  | n :: ns => n.firstFault?.or (firstFaultAmong? ns)

end

end Node

/-- Where a place of a text is: the line and the column in bytes, both from one. -/
def lineAndColumn (text : List Char) (place : Nat) : Nat × Nat :=
  (text.take place).foldl
    (fun (line, column) c => if c = '\n' then (line + 1, 1) else (line, column + c.utf8Size)) (1, 1)

/-- The spelling of a token in a message. -/
def Token.spelling : Token → String
  | .word text | .mark text | .tightMark text => text
  | .identifier => "identifier"
  | _ => "token"

/-- The most characters of a source that a message quotes. -/
def quotedLength : Nat := 40

/-- What a message says about the first fault of a tree. -/
def faultText (fault : Option Node) : String :=
  match fault with
  | some ⟨.missing t, _, _, _, _, _⟩ => "missing `" ++ t.spelling ++ "`"
  | some n => "unexpected `" ++ Text.trim (String.ofList (n.text.toList.take quotedLength)) ++ "`"
  | none => "syntax error"

/-- The path that stands for a source without a file. -/
def anonymousPath : Path := ⟨"<source>"⟩

/-- The outline of a source, or the place of its first fault. -/
def outline (text : String) (path : Option Path) : Except Fault SourceUnit :=
  let tree := parse text
  if tree.isFlawed then
    let fault := tree.firstFault?
    let (line, column) := (fault.map fun n => lineAndColumn text.toList n.start).getD (1, 1)
    .error (.parse (path.getD anonymousPath) line column (faultText fault))
  else .ok (tree.outline path)

end Scaffold.CSharp
