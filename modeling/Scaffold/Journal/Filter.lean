import Scaffold.Journal.Record
import Scaffold.Text.Alphanumeric
import Scaffold.Text.Pieces

/-!
# Filters of records

A record is shown when the filter of the session admits it, and its scope is shown when debugging is
admitted. A filter is a list of rules, the most specific first; the first rule whose component
begins the component of a record decides. A filter can be written as rules between commas
(`LogFilter.ofText?`).
-/

namespace Scaffold

/-- What a rule of a filter lets through: records from a severity on, or none at all. -/
abbrev Threshold := Option Severity

/-- A rule of a filter. -/
structure LogRule where
  /-- The beginning of the components that the rule is for; all components, if there is none. -/
  component : Option String
  threshold : Threshold
deriving DecidableEq, Repr

/-- A filter of records, the most specific rule first. -/
structure LogFilter where
  rules : List LogRule
deriving DecidableEq, Repr

namespace LogRule

/-- Whether a rule is for a component. -/
def concerns (rule : LogRule) (component : String) : Bool :=
  rule.component.all fun beginning => Text.begins component beginning

/-- A rule is more specific the longer its beginning is; equally long beginnings are in descending
order, and a rule for all components comes last. -/
def order (a b : LogRule) : Ordering :=
  match a.component, b.component with
  | none, none => .eq
  | none, some _ => .gt
  | some _, none => .lt
  | some s, some t => (compare t.utf8ByteSize s.utf8ByteSize).then (compare t s)

/-- The name of what a rule lets through. -/
def thresholdWord : Threshold → String
  | none => "off"
  | some severity => severity.word

/-- A rule as text. -/
def text (rule : LogRule) : String :=
  match rule.component with
  | none => thresholdWord rule.threshold
  | some component => component ++ "=" ++ thresholdWord rule.threshold

end LogRule

namespace LogFilter

/-- The rules with one more rule in its place, instead of a rule for the same components. -/
def insert (rule : LogRule) : List LogRule → List LogRule
  | [] => [rule]
  | r :: rest =>
    match rule.order r with
    | .lt => rule :: r :: rest
    | .eq => rule :: rest
    | .gt => r :: insert rule rest

/-- The filter with some rules, of which the last for its components counts. Without rules, only
errors are admitted. -/
def ofRules (rules : List LogRule) : LogFilter :=
  if rules.isEmpty then ⟨[⟨none, some .error⟩]⟩
  else ⟨rules.foldl (fun all rule => insert rule all) []⟩

/-- Whether a filter admits what a component says with a severity. -/
def admits (f : LogFilter) (component : String) (severity : Severity) : Bool :=
  match f.rules.find? (·.concerns component) with
  | some ⟨_, some least⟩ => least.rank ≤ severity.rank
  | _ => false

/-- The filter for a number of requests to say more. -/
def ofVerbosity : Nat → LogFilter
  | 0 => ⟨[⟨none, some .warn⟩]⟩
  | 1 => ⟨[⟨none, some .info⟩]⟩
  | 2 => ⟨[⟨none, some .debug⟩]⟩
  | _ => ⟨[⟨none, some .trace⟩]⟩

/-- A filter as text. -/
def text (f : LogFilter) : String :=
  ",".intercalate (f.rules.map LogRule.text)

/-- The threshold with a name or a number, in any case. -/
def threshold? (word : String) : Option Threshold :=
  match String.ofList (word.toList.map Char.toLower) with
  | "off" | "0" => some none
  | "" | "error" | "1" => some (some .error)
  | "warn" | "2" => some (some .warn)
  | "info" | "3" => some (some .info)
  | "debug" | "4" => some (some .debug)
  | "trace" | "5" => some (some .trace)
  | _ => none

/-- Whether a rule may begin with a character. -/
def opensRule (c : Char) : Bool :=
  Text.isAlphanumeric c || c = '_' || c = '-' || c = ':'

/-- A rule: a threshold, a component, or both with a sign between them. A component alone lets
everything through. -/
def rule? (text : String) : Option LogRule :=
  let cs := text.toList
  let left := String.ofList (cs.takeWhile (· ≠ '='))
  if !cs.head?.any opensRule || cs.contains '[' then none
  else match cs.dropWhile (· ≠ '=') with
    | [] =>
      match threshold? text with
      | some threshold => some ⟨none, threshold⟩
      | none => some ⟨some text, some .trace⟩
    | [_] => some ⟨some left, some .trace⟩
    | _ :: right => (threshold? (String.ofList right)).map fun t => ⟨some left, t⟩

/-- The filter that a text describes, if every part of the text is a rule. -/
def ofText? (text : String) : Option LogFilter :=
  let parts := (Text.pieces (· = ',') text).filter fun s => !s.isEmpty
  (parts.mapM rule?).map ofRules

end LogFilter

namespace LogRecord

/-- A scope as text. -/
def scopeText (s : LogScope) : String :=
  s.activity ++ "\x7bpath=" ++ s.path.text ++ "\x7d: "

/-- The line for a record. Scopes are opened for debugging, so a filter that does not admit
debugging hides them. -/
def line (f : LogFilter) (r : LogRecord) : String :=
  r.severity.title ++ " " ++
    (match r.scope with
      | some s => if f.admits r.component .debug then scopeText s else ""
      | none => "") ++
    r.message ++ String.join (r.fields.map fun (name, value) => " " ++ name ++ "=" ++ value)

/-- The lines of a journal that a filter admits. -/
def lines (f : LogFilter) (journal : Journal) : List String :=
  (journal.filter fun r => f.admits r.component r.severity).map (line f)

end LogRecord

end Scaffold
