import Scaffold.CSharp.Grammar

/-!
# The grammar as a network

A pattern is a regular expression, so a phrase is a finite automaton. Its states are the places of
the pattern where a token or a phrase stands, each reached by reading what stands there, and one
entry before all places. `Network.ofGrammar` numbers the states of all phrases: the entry of a
phrase has the number of the phrase.
-/

namespace Scaffold.CSharp

/-- What is read to reach a state. -/
inductive Label where
  | token (t : Token)
  | phrase (p : Phrase)
deriving DecidableEq, Repr, Inhabited

/-- A state of the network. -/
structure State where
  /-- What is read to reach the state; nothing is read to reach an entry. -/
  label : Option Label
  role : Option Role
  /-- The phrase that the state is in. -/
  owner : Phrase
  /-- The states that can follow. -/
  next : List Nat
  /-- Whether the phrase may end in the state. -/
  isFinal : Bool
deriving Repr, Inhabited

/-- The states of all phrases. -/
abbrev Network := Array State

/-- A part of a pattern in a network: the states that it may begin and end with. -/
structure Fragment where
  nullable : Bool
  first : List Nat
  last : List Nat
deriving Repr

namespace Fragment

/-- The fragment of nothing. -/
def nothing : Fragment := ⟨true, [], []⟩

/-- One fragment after another. -/
def followedBy (a b : Fragment) : Fragment where
  nullable := a.nullable && b.nullable
  first := if a.nullable then a.first ++ b.first else a.first
  last := if b.nullable then a.last ++ b.last else b.last

/-- One fragment or another. -/
def orElse (a b : Fragment) : Fragment :=
  ⟨a.nullable || b.nullable, a.first ++ b.first, a.last ++ b.last⟩

end Fragment

namespace Network

/-- The network in which the states `after` can follow the state `s`. -/
def connectOne (net : Network) (after : List Nat) (s : Nat) : Network :=
  net.modify s fun state => { state with next := state.next ++ after }

/-- The network in which the states `after` can follow all the states `before`. -/
def connect (net : Network) (before after : List Nat) : Network :=
  before.foldl (connectOne · after) net

/-- The network with one more state, and its fragment. -/
def place (net : Network) (owner : Phrase) (role : Option Role) (label : Label) :
    Network × Fragment :=
  (net.push ⟨some label, role, owner, [], false⟩, ⟨false, [net.size], [net.size]⟩)

mutual

/-- The network with the states of a pattern, and the fragment of the pattern. -/
def embed (net : Network) (owner : Phrase) (role : Option Role) : Pattern → Network × Fragment
  | .token t => net.place owner role (.token t)
  | .phrase p => net.place owner role (.phrase p)
  | .sequence parts => embedSequence net owner role parts
  | .choice parts => embedChoice net owner role parts
  | .repeated part =>
    let (net, f) := embed net owner role part
    (net.connect f.last f.first, { f with nullable := true })
  | .optional part =>
    let (net, f) := embed net owner role part
    (net, { f with nullable := true })
  | .labelled role part => embed net owner (some role) part

/-- The network with the states of patterns that follow each other. -/
def embedSequence (net : Network) (owner : Phrase) (role : Option Role) :
    List Pattern → Network × Fragment
  | [] => (net, .nothing)
  | part :: parts =>
    let (net, f) := embed net owner role part
    let (net, g) := embedSequence net owner role parts
    (net.connect f.last g.first, f.followedBy g)

/-- The network with the states of patterns that exclude each other. -/
def embedChoice (net : Network) (owner : Phrase) (role : Option Role) :
    List Pattern → Network × Fragment
  | [] => (net, ⟨false, [], []⟩)
  | part :: parts =>
    let (net, f) := embed net owner role part
    let (net, g) := embedChoice net owner role parts
    (net, f.orElse g)

end

/-- The network with the states of one more phrase. -/
def addPhrase (net : Network) (p : Phrase) : Network :=
  let (net, f) := net.embed p none p.pattern
  let net := net.modify p.index fun state =>
    { state with next := f.first, isFinal := f.nullable }
  f.last.foldl (fun net s => net.modify s fun state => { state with isFinal := true }) net

/-- The network of the grammar. -/
def ofGrammar : Network :=
  let entries : Network := (Phrase.all.map fun p => ⟨none, none, p, [], false⟩).toArray
  Phrase.all.foldl addPhrase entries

end Network

end Scaffold.CSharp
