import Scaffold.Decimal.Shortest
import Scaffold.Generation
import Scaffold.Settings.Pools
import Scaffold.Text.Quoted
import Scaffold.Toml.Document
import Scaffold.Toml.Excerpt

/-!
# Settings from a text

The settings of a run and the TOML documents that give them. A setting that is not given has its
default, and what is not a setting says nothing, unless it holds a number beyond all ranges. A group
of settings may also be written as an array of its settings in their order. Settings are read in the
order of their names, so of several mistakes the first in that order is told.
-/

namespace Scaffold

open Toml (Value Located Entries Problem)

/-- The settings of a run. -/
structure Settings where
  pools : Pools
  synthesis : SynthesisSettings
deriving DecidableEq, Repr

namespace Settings

/-- The settings when none are given. -/
def default : Settings := ⟨.default, .default⟩

/-! ## What a value is and what is expected -/

/-- Whether a number is between two powers of two, the lower one negated. -/
def isBetween (low high : Nat) (n : Int) : Bool :=
  -(Nat.pow 2 low : Int) ≤ n && n < (Nat.pow 2 high : Int)

/-- The problem with a number beyond all ranges; none for any other value. -/
def outOfRange? (v : Located Value) : Option Problem :=
  match v.value with
  | .integer n =>
    if isBetween 127 128 n then none
    else some ⟨v.span, "integer value was too large"⟩
  | .vastFloat => some ⟨v.span, "floating-point value was too large"⟩
  | _ => none

/-- What a value is, in a message. -/
def description : Value → String
  | .string text => "string " ++ Text.quoted text
  | .integer n =>
    let plain := "integer `" ++ toString n ++ "`"
    if isBetween 63 64 n then plain
    else if isBetween 127 127 n then plain ++ " as i128"
    else plain ++ " as u128"
  | .float x => "floating point `" ++ shortestText x ++ "`"
  | .vastFloat => "floating point"
  | .boolean b => "boolean `" ++ toString b ++ "`"
  | .array .. => "sequence"
  | .moment | .table .. => "map"

/-- The problem with a value of another kind than what is expected. -/
def mismatch (expected : String) (v : Located Value) : Problem :=
  (outOfRange? v).getD
    ⟨v.span, "invalid type: " ++ description v.value ++ ", expected " ++ expected⟩

/-- A text. -/
def readText (v : Located Value) : Except Problem String :=
  match v.value with
  | .string text => .ok text
  | _ => .error (mismatch "a string" v)

/-- A size. -/
def readSize (v : Located Value) : Except Problem Nat :=
  match v.value with
  | .integer n =>
    if 0 ≤ n && n.toNat < Nat.pow 2 64 then .ok n.toNat
    else if isBetween 63 63 n then
      .error ⟨v.span, "invalid value: integer `" ++ toString n ++ "`, expected usize"⟩
    else .error (mismatch "usize" v)
  | _ => .error (mismatch "usize" v)

/-- Texts in an array. -/
def readTexts (v : Located Value) : Except Problem (List String) :=
  match v.value with
  | .array _ elements => elements.mapM readText
  | _ => .error (mismatch "a sequence" v)

/-! ## Values that are no settings -/

mutual

/-- The first number beyond all ranges in a value, if there is one. -/
def vastNumber? : Value → Option Problem
  | .array _ elements => vastInElements elements
  | .table _ entries => vastInEntries entries
  | _ => none

/-- The first number beyond all ranges in some values. -/
def vastInElements : List (Located Value) → Option Problem
  | [] => none
  | ⟨span, v⟩ :: rest =>
    ((outOfRange? ⟨span, v⟩).or (vastNumber? v)).or (vastInElements rest)

/-- The first number beyond all ranges in the entries of a table. -/
def vastInEntries : List (String × Located Value) → Option Problem
  | [] => none
  | (_, ⟨span, v⟩) :: rest =>
    ((outOfRange? ⟨span, v⟩).or (vastNumber? v)).or (vastInEntries rest)

end

/-- Passes over a value that is no setting. -/
def passOver (v : Located Value) : Except Problem Unit :=
  match vastInElements [v] with
  | some problem => .error problem
  | none => .ok ()

/-! ## Groups -/

/-- A setting of a group: its name, and what its value does to the group. -/
structure Slot (γ : Type) where
  name : String
  fill : γ → Located Value → Except Problem γ

/-- The entries of a table in the order of their keys. -/
def inKeyOrder (entries : Entries) : Entries :=
  entries.mergeSort fun a b => (compare a.1 b.1).isLE

/-- A group of settings from the entries of a table. -/
def readEntries {γ : Type} (slots : List (Slot γ)) (start : γ) (entries : Entries) :
    Except Problem γ :=
  (inKeyOrder entries).foldlM
    (fun group (key, v) =>
      match slots.find? (·.name = key) with
      | some slot => slot.fill group v
      | none => do passOver v; return group)
    start

/-- A group of settings from its values in their order. -/
def readElements {γ : Type} (slots : List (Slot γ)) (start : γ) (elements : List (Located Value)) :
    Except Problem γ :=
  (slots.zip elements).foldlM (fun group (slot, v) => slot.fill group v) start

/-- A group of settings. A date or a time gives none of them. -/
def readGroup {γ : Type} (expected : String) (slots : List (Slot γ)) (start : γ) (v : Located Value) :
    Except Problem γ :=
  match v.value with
  | .table _ entries => readEntries slots start entries
  | .array _ elements => readElements slots start elements
  | .moment => .ok start
  | _ => .error (mismatch expected v)

/-- A setting with values of type `α`. -/
def slot {γ α : Type} (name : String) (read : Located Value → Except Problem α)
    (put : γ → α → γ) : Slot γ :=
  ⟨name, fun group v => do return put group (← read v)⟩

/-- The settings of the pools. -/
def poolSlots : List (Slot Pools) := [
  slot Stage.reading.setting readSize fun p n => { p with reading := n },
  slot Stage.processing.setting readSize fun p n => { p with processing := n },
  slot Stage.writing.setting readSize fun p n => { p with writing := n }]

/-- The settings of synthesis. -/
def synthesisSlots : List (Slot SynthesisSettings) := [
  slot "failure_message" readText fun s t => { s with failureMessage := t },
  slot "output_extension" readText fun s t => { s with extension := t },
  slot "abstraction_prefixes" readTexts fun s ts => { s with abstractions := some ts }]

/-- The groups of settings. -/
def slots : List (Slot Settings) := [
  slot "pipeline" (readGroup "struct PipelineConfig" poolSlots .default)
    fun s p => { s with pools := p },
  slot "synthesis" (readGroup "struct SynthesisConfig" synthesisSlots .default)
    fun s t => { s with synthesis := t }]

/-! ## Documents -/

/-- The name of a settings file. -/
def fileName : String := ".testgen.toml"

/-- The settings that a text gives. -/
def read (text : String) : Except Problem Settings := do
  let entries ← Toml.read text
  readEntries slots default entries

/-- Settings that are in their ranges. -/
def validate (s : Settings) : Except Fault Unit :=
  s.pools.validate

/-- The settings that a text gives, if they are in their ranges. -/
def ofText (text : String) : Except Fault Settings :=
  match read text with
  | .error problem =>
    .error (.configuration ("Failed to parse " ++ fileName ++ ": " ++ problem.report text))
  | .ok s => do s.validate; return s

end Settings

end Scaffold
