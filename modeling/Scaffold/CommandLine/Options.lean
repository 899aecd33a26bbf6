import Scaffold.CommandLine.Sources
import Scaffold.Settings.Pools

/-!
# Arguments of the command

The arguments of the command are read from left to right. Two positional arguments must be there and
three more may be: the sources, the output directory, and a pool size for each stage. The options
`--separator` and `--config` take a value, behind a sign or as the next argument; `-v` and
`--verbose` may be repeated; `--` makes all that follows positional. A value is looked at only when
the next argument has been recognised, so a mistake in the spelling of an argument is told before a
mistake in the value before it.
-/

namespace Scaffold.CommandLine

/-- Why a command is not carried out. -/
inductive Stop where
  | missingArgument
  | unknownArgument
  /-- A value that is not of its argument's form. -/
  | malformedValue
  /-- An option without a value, or an empty path. -/
  | missingValue
  /-- A value for an option that takes none. -/
  | needlessValue
  | repeatedOption
  /-- Help is asked for. -/
  | help
  /-- The version is asked for. -/
  | version
deriving DecidableEq, Repr

/-- What a command asks for. -/
structure Options where
  sources : String
  outputDirectory : Path
  /-- The requested number of workers of a stage. -/
  reading : Option Nat
  processing : Option Nat
  writing : Option Nat
  separator : Char
  /-- The settings file to use. -/
  config : Option Path
  /-- How often more records were asked for. -/
  verbosity : Nat
deriving DecidableEq, Repr

/-- The paths of the sources, in order. -/
def Options.sourcePaths (o : Options) : List Path :=
  splitSources o.separator o.sources

/-- The separator when none is given. -/
def usualSeparator : Char := '|'

/-- The greatest verbosity. -/
def greatestVerbosity : Nat := 255

/-! ## Arguments and their values -/

/-- An argument with a value. -/
inductive Slot where
  | sources
  | outputDirectory
  | pool (stage : Stage)
  | separator
  | config
deriving DecidableEq, Repr

/-- The positional arguments, in order. -/
def positional : List Slot :=
  [.sources, .outputDirectory, .pool .reading, .pool .processing, .pool .writing]

/-- The value of an argument. -/
inductive SlotValue where
  | text (s : String)
  | path (p : Path)
  | size (n : Nat)
  | character (c : Char)
deriving DecidableEq, Repr

/-- A number of workers: decimal digits, perhaps after a plus sign, below `2 ^ 64`. -/
def size? (s : String) : Option Nat :=
  let digits := match s.toList with
    | '+' :: rest => rest
    | cs => cs
  if digits.isEmpty || !digits.all Char.isDigit then none
  else
    let n := digits.foldl (fun n c => n * 10 + (c.toNat - '0'.toNat)) 0
    if n < Nat.pow 2 64 then some n else none

/-- The value that a text is for an argument. -/
def Slot.value (slot : Slot) (s : String) : Except Stop SlotValue :=
  match slot with
  | sources => .ok (.text s)
  | outputDirectory | config => if s.isEmpty then .error .missingValue else .ok (.path ⟨s⟩)
  | pool _ =>
    match size? s with
    | some n => .ok (.size n)
    | none => .error .malformedValue
  | separator =>
    match s.toList with
    | [c] => .ok (.character c)
    | _ => .error .malformedValue

/-! ## Reading the arguments -/

/-- How an argument is spelled. -/
inductive Spelling where
  | escape
  /-- Two hyphens and a name, perhaps with a sign and a value. -/
  | long (name : String) (value : Option String)
  /-- A hyphen and letters. -/
  | short (letters : List Char)
  | plain
deriving DecidableEq, Repr

/-- The spelling of an argument. A single hyphen is a plain argument. -/
def Spelling.ofText (s : String) : Spelling :=
  match s.toList with
  | ['-', '-'] => escape
  | '-' :: '-' :: rest =>
    long (String.ofList (rest.takeWhile (· ≠ '=')))
      (match rest.dropWhile (· ≠ '=') with
        | [] => none
        | _ :: value => some (String.ofList value))
  | '-' :: c :: rest => short (c :: rest)
  | _ => plain

/-- A command in the middle of its arguments. -/
structure Draft where
  /-- The values of the arguments so far. -/
  values : List (Slot × SlotValue)
  /-- The last argument, with its value if it is there, before the value is looked at. -/
  pending : Option (Slot × Option String)
  /-- The positional arguments that are still to come. -/
  toCome : List Slot
  verbosity : Nat
  /-- Whether all that follows is positional. -/
  escaped : Bool
deriving Repr

namespace Draft

/-- The draft before any argument. -/
def empty : Draft := ⟨[], none, positional, 0, false⟩

/-- The value of an argument. -/
def get? (d : Draft) (slot : Slot) : Option SlotValue :=
  d.values.lookup slot

/-- Looks at the value of the last argument. -/
def settle (d : Draft) : Except Stop Draft :=
  match d.pending with
  | none => .ok d
  | some (_, none) => .error .missingValue
  | some (slot, some s) =>
    if (d.get? slot).isSome then .error .repeatedOption
    else do
      let v ← slot.value s
      return { d with values := d.values ++ [(slot, v)], pending := none }

/-- An option that takes a value. -/
def option (d : Draft) (slot : Slot) (value : Option String) : Except Stop Draft := do
  let d ← d.settle
  let d := { d with pending := some (slot, value) }
  if value.isSome then d.settle else return d

/-- An option without a value. -/
def flag (d : Draft) (act : Draft → Except Stop Draft) (value : Option String) :
    Except Stop Draft := do
  if value.isSome then .error .needlessValue
  else act (← d.settle)

/-- One more request for more records. -/
def louder (d : Draft) : Except Stop Draft :=
  .ok { d with verbosity := min (d.verbosity + 1) greatestVerbosity }

/-- An argument of two hyphens and a name. -/
def long (d : Draft) (name : String) (value : Option String) : Except Stop Draft :=
  match name with
  | "separator" => d.option .separator value
  | "config" => d.option .config value
  | "verbose" => d.flag louder value
  | "help" => d.flag (fun _ => .error .help) value
  | "version" => d.flag (fun _ => .error .version) value
  | _ => .error .unknownArgument

/-- A letter after a hyphen. -/
def letter (d : Draft) (c : Char) : Except Stop Draft :=
  match c with
  | 'v' => d.flag louder none
  | 'h' => d.flag (fun _ => .error .help) none
  | 'V' => d.flag (fun _ => .error .version) none
  | _ => .error .unknownArgument

/-- A plain argument: the value that the option before it waits for, or a positional argument. -/
def plain (d : Draft) (s : String) : Except Stop Draft :=
  match d.escaped, d.pending with
  | false, some (slot, none) => .ok { d with pending := some (slot, some s) }
  | _, _ =>
    match d.toCome with
    | [] => .error .unknownArgument
    | slot :: rest => do
      let d ← d.settle
      return { d with pending := some (slot, some s), toCome := rest }

/-- The draft with one more argument. -/
def add (d : Draft) (s : String) : Except Stop Draft :=
  match if d.escaped then .plain else Spelling.ofText s with
  | .escape => .ok { d with escaped := true }
  | .long name value => d.long name value
  | .short letters => letters.foldlM letter d
  | .plain => d.plain s

/-- The text of an argument that has a text. -/
def text? (d : Draft) (slot : Slot) : Option String :=
  match d.get? slot with
  | some (.text s) => some s
  | _ => none

/-- The path of an argument that has a path. -/
def path? (d : Draft) (slot : Slot) : Option Path :=
  match d.get? slot with
  | some (.path p) => some p
  | _ => none

/-- The number of workers of a stage. -/
def size? (d : Draft) (stage : Stage) : Option Nat :=
  match d.get? (.pool stage) with
  | some (.size n) => some n
  | _ => none

/-- The separator. -/
def separator (d : Draft) : Char :=
  match d.get? .separator with
  | some (.character c) => c
  | _ => usualSeparator

/-- What the arguments ask for, if none is missing. -/
def options (d : Draft) : Except Stop Options :=
  match d.text? .sources, d.path? .outputDirectory with
  | some sources, some outputDirectory =>
    .ok {
      sources
      outputDirectory
      reading := d.size? .reading
      processing := d.size? .processing
      writing := d.size? .writing
      separator := d.separator
      config := d.path? .config
      verbosity := d.verbosity }
  | _, _ => .error .missingArgument

end Draft

/-- What a command asks for. The settings file of the environment counts when the arguments name
none. -/
def Options.ofArguments (arguments : List String) (environmentConfig : Option String) :
    Except Stop Options := do
  let d ← arguments.foldlM Draft.add Draft.empty
  let d ← d.settle
  let d ← match d.get? .config, environmentConfig with
    | none, some s => d.option .config (some s)
    | _, _ => pure d
  d.options

end Scaffold.CommandLine
