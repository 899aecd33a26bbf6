import Scaffold.CSharp.Tree
import Scaffold.Total

/-!
# Repairs

A source that does not fit the grammar is mended where reading it comes to a halt: a stretch of text
around that place is taken out, or one missing token is put in before it, and what is left is read
again. Every repair has a price. A stretch costs more the more parts it has, so one that makes up a
phrase is cheap; a missing token has a fixed price. `Repair.cheapest` finds the repairs of the least
total price, at most `mostRepairs` of them; without any, the whole text is the fault.

Places stay valid after a repair: a stretch is replaced by spaces, and a missing token is put in
behind everything that a later repair touches.
-/

namespace Scaffold.CSharp

/-- A change of a source that does not fit the grammar. -/
structure Repair where
  /-- The node that shows the fault. A missing name leaves none. -/
  fault : Option Node
  price : Nat
  /-- The source after the change. -/
  mended : List Char
deriving Inhabited

namespace Repair

/-- The price of every repair. -/
def basePrice : Nat := 500

/-- The price of a missing token. -/
def missingPrice : Nat := basePrice + 110

/-- The price of a part of a stretch. -/
def partPrice : Nat := 100

/-- The price of a line break in a stretch. -/
def linePrice : Nat := 30

/-- The price of a stretch with so many parts. -/
def stretchPrice (stretch : List Char) (parts : Nat) : Nat :=
  basePrice + total Char.utf8Size stretch + linePrice * stretch.count '\n' + partPrice * parts

/-- The tokens that may be missing, in the order in which they are tried. -/
def missable : List Token :=
  [.identifier, .mark ";", .mark ")", .mark "]", .mark "\x7d", .mark ">"]

/-- The text that is put in for a missing token. -/
def spelling : Token → List Char
  | .mark text | .tightMark text | .word text => text.toList
  | _ => [' ', '_', ' ']

/-! ## The parts of a text -/

/-- The length of a text's first word, or one for a character that is in no word. -/
def roughLength (cs : List Char) : Nat :=
  max (max (identifierLength cs) ((integerLength? cs).getD 0)) 1

/-- Where the first words of a text end, at most so many; the text begins at a place. -/
def roughStops (place : Nat) : Nat → List Char → List Nat
  | 0, _ => []
  | n + 1, cs =>
    let (_, skipped) := triviaOf cs
    let rest := cs.drop skipped
    if rest.isEmpty then []
    else
      let stop := place + skipped + roughLength rest
      stop :: roughStops stop n (rest.drop (roughLength rest))

/-- The lesser of two counts of parts, where a count may be missing. -/
def lesser (known : Option Nat) (n : Nat) : Option Nat :=
  some (min (known.getD n) n)

/-- Whether a phrase that begins at a place is one part of a stretch. The declaration of a field's
variables is not: it counts as the parts that it has. -/
def isPart (net : Network) (chart : Chart) (place : Nat) (p : Phrase) : Bool :=
  ((chart.getD place Column.empty).waiting.getD p []).any fun (_, state) =>
    (net.getD state default).owner ≠ .fieldDeclaration

/-- The fewest parts, tokens or phrases, that lead from each place to the last place of a chart. -/
def partCounts (net : Network) (chart : Chart) (last : Nat) : Array (Option Nat) :=
  let start := (Array.replicate (last + 1) none).setIfInBounds last (some 0)
  ((List.range (last + 1)).reverse).foldl (fun counts column =>
    match counts.getD column none with
    | none => counts
    | some n =>
      (chart.getD column Column.empty).entries.foldl (fun counts e =>
        let counts := match e.step with
          | some ⟨from_, _, .token _⟩ => counts.modify from_ fun known => lesser known (n + 1)
          | _ => counts
        let state := net.getD e.state default
        if state.isFinal && e.origin < column && isPart net chart e.origin state.owner then
          counts.modify e.origin fun known => lesser known (n + 1)
        else counts) counts) start

/-! ## Candidates -/

/-- Whether a text can follow a column of a chart at once. -/
def canFollow (net : Network) (chart : Chart) (column stop : Nat) (cs : List Char) : Bool :=
  let (_, skipped) := triviaOf cs
  if (cs.drop skipped).isEmpty then (chart.unitAt? net column).isSome
  else !(occurrencesAt (chart.getD column Column.empty).expected stop cs).isEmpty

/-- The repair that takes out a stretch of a source. -/
def takeOut (s : Source) (start stop parts : Nat) : Repair where
  fault := some ⟨.unread, none, start, s.slice start stop, true, []⟩
  price := stretchPrice ((s.rest start).take (stop - start)) parts
  mended := s.characters.take start ++ List.replicate (stop - start) ' ' ++ s.rest stop

/-- The repair that puts in a missing token. -/
def putIn (s : Source) (place : Nat) (t : Token) : Repair where
  fault := if t = .identifier then none else some ⟨.missing t, none, place, "", true, []⟩
  price := missingPrice
  mended := s.characters.take place ++ spelling t ++ s.rest place

/-- The stretches that may be taken out: they begin at a place that was read and end where reading
came to a halt or after some words more, and what follows them can follow their beginning. -/
def stretches (net : Network) (s : Source) (chart : Chart) (last : Nat) : List Repair :=
  let counts := partCounts net chart last
  let stops := roughStops last s.characters.length (s.rest last)
  (List.range (last + 1)).reverse.flatMap fun place =>
    match counts.getD place none with
    | none => []
    | some before =>
      let (_, skipped) := triviaOf (s.rest place)
      ((last :: stops).zipIdx.filter fun (stop, _) =>
          place + skipped < stop && canFollow net chart place stop (s.rest stop)).map
        fun (stop, after) => takeOut s (place + skipped) stop (before + after)

/-- The missing tokens that may be put in. Nothing is put in at the end of a source. -/
def insertions (s : Source) (chart : Chart) (last : Nat) : List Repair :=
  let (_, skipped) := triviaOf (s.rest last)
  if ((s.rest last).drop skipped).isEmpty then []
  else
    let expected := (chart.getD last Column.empty).expected
    (missable.filter (· ∈ expected)).map (putIn s last)

/-- The repairs for a source whose chart comes to a halt, cheapest first; of equally cheap ones, the
stretch that begins later comes first. -/
def candidates (net : Network) (s : Source) (chart : Chart) : List Repair :=
  let last := chart.reach
  (stretches net s chart last ++ insertions s chart last).mergeSort fun a b => a.price ≤ b.price

/-! ## The cheapest repairs -/

/-- The greatest number of repairs of a source. -/
def mostRepairs : Nat := 3

/-- The greatest length of a source that repairs are looked for in. -/
def longestMended : Nat := 400

/-- The repairs of the least total price below a limit that make a source fit the grammar, with that
price; at most so many. -/
def cheapest (net : Network) : Nat → Nat → List Char → Option (Nat × List Repair)
  | repairs, limit, cs =>
    let s := Source.ofCharacters cs
    let chart := Chart.ofSource net cs
    if (chart.tree? net s).isSome then some (0, [])
    else match repairs with
      | 0 => none
      | repairs + 1 =>
        (candidates net s chart).foldl (fun best r =>
          let limit := (best.map (·.1)).getD limit
          if limit ≤ r.price then best
          else match cheapest net repairs (limit - r.price) r.mended with
            | some (price, more) =>
              if r.price + price < limit then some (r.price + price, r :: more) else best
            | none => best) none

/-- The price of giving up the whole of a source. -/
def wholePrice (s : Source) : Nat :=
  stretchPrice s.characters (roughStops 0 s.characters.length s.characters).length

/-- The faults of a source that does not fit the grammar, in order of their places. -/
def faults (net : Network) (s : Source) : List Node :=
  let blank := (s.characters.takeWhile fun c => isSpace c).length
  let whole : Node := ⟨.unread, none, blank, String.ofList (s.characters.drop blank), true, []⟩
  if longestMended < s.characters.length then [whole]
  else match cheapest net mostRepairs (wholePrice s) s.characters with
    | some (_, repairs) =>
      (repairs.filterMap (·.fault)).mergeSort fun a b => a.start ≤ b.start
    | none => [whole]

end Repair

end Scaffold.CSharp
