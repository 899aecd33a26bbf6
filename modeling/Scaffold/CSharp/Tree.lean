import Scaffold.CSharp.Chart

/-!
# Trees

A tree shows how a source is made of phrases. A node keeps the text that it covers, from its first
token to its last, and where that text begins; comments and directives between its parts are nodes
among the parts. Every character of the source that is not blank is in a leaf of the tree.

A source that has no tree without faults has one with nodes for what could not be read and for
tokens that are missing; `isFlawed` says of a node whether there is such a node in it.
-/

namespace Scaffold.CSharp

/-- What a node of a tree is. -/
inductive Kind where
  | phrase (p : Phrase)
  | token (t : Token)
  | comment
  | directive
  /-- A text that fits no phrase. -/
  | unread
  /-- A token that is not there and should be. -/
  | missing (t : Token)
deriving DecidableEq, Repr, Inhabited

/-- A node of a tree. -/
structure Node where
  kind : Kind
  /-- What the node is to the node that it is a part of. -/
  role : Option Role
  /-- Where the node begins, counted in characters. -/
  start : Nat
  /-- The text that the node covers. -/
  text : String
  /-- Whether something in the node is unread or missing. -/
  isFlawed : Bool
  /-- The parts of the node, in order. -/
  parts : List Node
deriving Repr, Inhabited

namespace Node

/-- Whether the node is a phrase of the given form. -/
def is (n : Node) (p : Phrase) : Bool :=
  n.kind = .phrase p

/-- Whether the node is the given mark. -/
def isMark (n : Node) (text : String) : Bool :=
  n.kind = .token (.mark text)

/-- The first part that plays a role. -/
def part? (n : Node) (role : Role) : Option Node :=
  n.parts.find? (·.role = some role)

/-- The text of the first part that plays a role, or no text. -/
def partText (n : Node) (role : Role) : String :=
  ((n.part? role).map (·.text)).getD ""

end Node

namespace Trivia

/-- The kind of node that trivia is. -/
def kind : Trivia → Kind
  | comment => .comment
  | directive => .directive

end Trivia

/-- A source with what is left of it at each of its places. -/
structure Source where
  characters : List Char
  rests : Array (List Char)

namespace Source

/-- All that is left of a text at its places. -/
def restsOf : List Char → List (List Char)
  | [] => [[]]
  | c :: cs => (c :: cs) :: restsOf cs

/-- The source with the given characters. -/
def ofCharacters (cs : List Char) : Source :=
  ⟨cs, (restsOf cs).toArray⟩

/-- What is left of the source at a place. -/
def rest (s : Source) (place : Nat) : List Char :=
  s.rests.getD place []

/-- The text between two places. -/
def slice (s : Source) (start stop : Nat) : String :=
  String.ofList ((s.rest start).take (stop - start))

/-- The nodes for the trivia at a place, up to the next token. -/
def trivia (s : Source) (place : Nat) : List Node :=
  (triviaOf (s.rest place)).1.map fun (t, skipped, n) =>
    ⟨t.kind, none, place + skipped, s.slice (place + skipped) (place + skipped + n), false, []⟩

end Source

/-- A node with where it ends. -/
structure Span where
  node : Node
  stop : Nat
deriving Inhabited

namespace Span

/-- The nodes of spans, with the trivia between two spans. -/
def interleave (s : Source) : List Span → List Node
  | [] => []
  | [last] => [last.node]
  | a :: b :: rest =>
    let gap := if a.stop < b.node.start then s.trivia a.stop else []
    a.node :: gap.filter (fun t => t.start < b.node.start) ++ interleave s (b :: rest)

/-- The phrase made of spans. -/
def ofParts (s : Source) (p : Phrase) (parts : List Span) : Span :=
  let start := (parts.head?.map (·.node.start)).getD 0
  let stop := (parts.getLast?.map (·.stop)).getD start
  let nodes := interleave s parts
  ⟨⟨.phrase p, none, start, s.slice start stop, nodes.any (·.isFlawed), nodes⟩, stop⟩

/-- The span with a role, if one is given. -/
def play (role : Option Role) (s : Span) : Span :=
  if role.isSome then { s with node := { s.node with role := role } } else s

end Span

namespace Chart

/-- The spans of the parts of an entry, read off a chart backwards and put before `later`. A hidden
phrase gives its own parts. At most `fuel` entries are looked at on a way. -/
def parts (net : Network) (s : Source) (chart : Chart) :
    Nat → Nat → Nat → List Span → List Span
  | 0, _, _, later => later
  | fuel + 1, column, i, later =>
    let e := (chart.getD column Column.empty).entries.getD i default
    match e.step with
    | none => later
    | some step =>
      let role := (net.getD e.state default).role
      let here : List Span :=
        match step.part with
        | .token o =>
          [⟨⟨.token o.token, none, o.start, s.slice o.start o.stop, false, []⟩, o.stop⟩]
        | .phrase j =>
          let inner := parts net s chart fuel column j []
          let last := (chart.getD column Column.empty).entries.getD j default
          let p := (net.getD last.state default).owner
          if p.isHidden then inner else [Span.ofParts s p inner]
      parts net s chart fuel step.column step.entry (here.map (Span.play role) ++ later)

/-- The number of entries of a chart. -/
def entryCount (chart : Chart) : Nat :=
  chart.foldl (fun n c => n + c.entries.size) 0

/-- The tree of a unit that ends in entry `i` of a column: the trivia around the unit is in it. -/
def unit (net : Network) (s : Source) (chart : Chart) (column i : Nat) : Node :=
  let spans := parts net s chart (chart.entryCount + 1) column i []
  let stop := (spans.getLast?.map (·.stop)).getD 0
  let nodes := (if spans.isEmpty then [] else s.trivia 0) ++ Span.interleave s spans ++ s.trivia stop
  ⟨.phrase .compilationUnit, none, 0, String.ofList s.characters, false, nodes⟩

/-- The tree of a source that a finished chart reads to its end, if it does. -/
def tree? (net : Network) (s : Source) (chart : Chart) : Option Node :=
  let column := chart.reach
  let (_, skipped) := triviaOf (s.rest column)
  if column + skipped = s.characters.length then
    (chart.unitAt? net column).map fun i => chart.unit net s column i
  else none

end Chart

end Scaffold.CSharp
