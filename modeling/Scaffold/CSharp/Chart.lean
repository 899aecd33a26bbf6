import Scaffold.CSharp.Network
import Scaffold.CSharp.Reading
import Std.Data.HashMap

/-!
# Charts

A chart holds, for every place of a source, the states of phrases that reading up to that place may
be in. An entry says that a phrase begun at `origin` has been read up to a state; the first way in
which the state was reached is kept with it, so that a tree can be read off a finished chart.

Column `k` is complete once the columns before it are: `Column.close` adds the phrases that may
begin and those that end at the place, and `Chart.scan` reads the tokens that follow.
-/

namespace Scaffold.CSharp

/-- What was read last to reach an entry. -/
inductive Part where
  | token (occurrence : Occurrence)
  /-- A phrase, by the number of its last entry, which is in the same column. -/
  | phrase (entry : Nat)
deriving Repr, Inhabited

/-- A step from an earlier entry. -/
structure Step where
  /-- The column of the earlier entry. -/
  column : Nat
  /-- The number of the earlier entry in its column. -/
  entry : Nat
  part : Part
deriving Repr, Inhabited

/-- A phrase that was begun at a place and read up to a state. -/
structure Entry where
  state : Nat
  origin : Nat
  /-- The step that led to the entry; none at the beginning of a phrase. -/
  step : Option Step
deriving Repr, Inhabited

/-- The entries at one place. -/
structure Column where
  entries : Array Entry
  /-- The states and origins of the entries. -/
  known : Std.HashMap (Nat × Nat) Unit
  /-- The entries that wait for a phrase, with the state that the phrase leads to. -/
  waiting : Std.HashMap Phrase (List (Nat × Nat))
  /-- The entries that wait for a token, with the state that the token leads to. -/
  expecting : Std.HashMap Token (List (Nat × Nat))
  /-- The tokens that entries wait for, each once. -/
  expected : List Token

namespace Column

/-- A column without entries. -/
def empty : Column := ⟨#[], ∅, ∅, ∅, []⟩

/-- The column with one more entry, unless its state and origin are known. -/
def add (c : Column) (e : Entry) : Column :=
  if c.known.contains (e.state, e.origin) then c
  else { c with entries := c.entries.push e, known := c.known.insert (e.state, e.origin) () }

/-- The column with an entry that waits for a phrase, and with the beginning of that phrase. -/
def awaitPhrase (c : Column) (place entry state : Nat) (p : Phrase) : Column :=
  let c := { c with waiting := c.waiting.insert p ((entry, state) :: c.waiting.getD p []) }
  c.add ⟨p.index, place, none⟩

/-- The column with an entry that waits for a token. -/
def awaitToken (c : Column) (entry state : Nat) (t : Token) : Column :=
  let seen := c.expecting.getD t []
  { c with
    expecting := c.expecting.insert t ((entry, state) :: seen)
    expected := if seen.isEmpty then t :: c.expected else c.expected }

/-- The column with all that the entry `entry` waits for. -/
def await (net : Network) (place entry : Nat) (e : Entry) (c : Column) : Column :=
  (net.getD e.state default).next.foldl (fun c s =>
    match (net.getD s default).label with
    | some (.phrase p) => c.awaitPhrase place entry s p
    | some (.token t) => c.awaitToken entry s t
    | none => c) c

/-- The column with the steps over a phrase that ends in the entry `entry`. -/
def complete (net : Network) (columns : Array Column) (entry : Nat) (e : Entry) (c : Column) :
    Column :=
  let state := net.getD e.state default
  if state.isFinal && e.step.isSome then
    let before := columns.getD e.origin empty
    (before.waiting.getD state.owner []).foldl (fun c (i, s) =>
      c.add ⟨s, (before.entries.getD i default).origin, some ⟨e.origin, i, .phrase entry⟩⟩) c
  else c

/-- The column at a place with all that follows from its entries, from entry number `i` on. -/
def closeFrom (net : Network) (columns : Array Column) (place : Nat) (i : Nat) :
    Nat → Column → Column
  | 0, c => c
  | fuel + 1, c =>
    match c.entries[i]? with
    | none => c
    | some e =>
      closeFrom net columns place (i + 1) fuel
        ((c.await net place i e).complete net columns i e)

/-- The column at a place with all that follows from its entries. There are at most as many entries
as there are pairs of a state and an origin. -/
def close (net : Network) (columns : Array Column) (place : Nat) (c : Column) : Column :=
  closeFrom net columns place 0 (net.size * (place + 1) + 1) c

end Column

/-- The columns of a source, one for each place. -/
abbrev Chart := Array Column

namespace Chart

/-- The chart of a source of the given length before anything is read. -/
def start (length : Nat) : Chart :=
  (Array.replicate (length + 1) Column.empty).modify 0 fun c =>
    c.add ⟨Phrase.compilationUnit.index, 0, none⟩

/-- The chart with an occurrence of a token after a place. -/
def shift (chart : Chart) (place : Nat) (expecting : List (Nat × Nat)) (o : Occurrence) : Chart :=
  let origins := (chart.getD place Column.empty).entries
  expecting.foldl (fun chart (i, s) =>
    chart.modify o.stop fun c =>
      c.add ⟨s, (origins.getD i default).origin, some ⟨place, i, .token o⟩⟩) chart

/-- The chart with the closed column of a place and the tokens after it, where the rest of the
source is `cs`. -/
def readAt (net : Network) (chart : Chart) (place : Nat) (cs : List Char) : Chart :=
  let c := chart.getD place Column.empty
  if c.entries.isEmpty then chart
  else
    let c := c.close net chart place
    let chart := chart.modify place fun _ => c
    (occurrencesAt c.expected place cs).foldl (fun chart o =>
      chart.shift place (c.expecting.getD o.token []) o) chart

/-- The chart after the places from `place` on, where the rest of the source is `cs`. -/
def readFrom (net : Network) (place : Nat) (cs : List Char) (chart : Chart) : Chart :=
  match cs with
  | [] => chart.readAt net place []
  | c :: rest => readFrom net (place + 1) rest (chart.readAt net place (c :: rest))

/-- The finished chart of a source. -/
def ofSource (net : Network) (cs : List Char) : Chart :=
  readFrom net 0 cs (start cs.length)

/-- The last place that a chart reaches. -/
def reach (chart : Chart) : Nat :=
  (chart.size - 1) - (chart.toList.reverse.takeWhile (·.entries.isEmpty)).length

/-- The number of an entry that ends a whole unit at a place, if there is one. -/
def unitAt? (net : Network) (chart : Chart) (place : Nat) : Option Nat :=
  (chart.getD place Column.empty).entries.findIdx? fun e =>
    let state := net.getD e.state default
    e.origin = 0 && state.isFinal && state.owner = .compilationUnit

end Chart

end Scaffold.CSharp
