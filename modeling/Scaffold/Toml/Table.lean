import Scaffold.Toml.Value

/-!
# Building tables

How the lines of a document make its table. A table is opened by a header at most once; a header may
open a table that was only named on the way to another; a dotted key never reaches into a table that
a header opened; nothing is added to an inline table or to a listed array; a key has one value.
-/

namespace Scaffold.Toml

/-- A line of a document that says something. -/
inductive Statement where
  /-- Gives a value to a key, on the way of the keys before it. -/
  | assign (path : List Key) (key : Key) (value : Located Value)
  /-- Opens a table. -/
  | openTable (path : List Key) (key : Key) (span : Span)
  /-- Opens one more table of an array. -/
  | openElement (path : List Key) (key : Key) (span : Span)
deriving Repr

/-- What is wrong with a key that has a value. -/
def Key.duplicate (key : Key) : Problem :=
  ⟨key.span, "duplicate key"⟩

/-- What is wrong with a key on the way whose value cannot be added to. -/
def Key.closed (key : Key) : Problem :=
  ⟨key.span, "cannot extend value of `" ++ key.value ++ "`"⟩

namespace Entries

/-- Whether the keys on the way may lead through a table. -/
def admits (byHeader : Bool) : TableForm → Bool
  | .implied | .dotted => true
  | .headed => byHeader
  | .inline => false

/-- The form of a table that keys on the way make. -/
def formOfNew (byHeader : Bool) : TableForm :=
  if byHeader then .implied else .dotted

/-- Changes the table at the end of a path, from a table of some form. Missing tables on the way are
made; an array of tables stands for its last table. -/
def edit (byHeader : Bool) (change : TableForm → Entries → Except Problem Entries) :
    List Key → TableForm → Entries → Except Problem Entries
  | [], form, entries => change form entries
  | key :: path, _, entries =>
    match entries.get? key.value with
    | none => do
      let form := formOfNew byHeader
      let inner ← edit byHeader change path form []
      return entries ++ [(key.value, ⟨key.span, .table form inner⟩)]
    | some ⟨span, .table form inner⟩ =>
      if admits byHeader form then do
        let inner ← edit byHeader change path form inner
        return entries.set key.value ⟨span, .table form inner⟩
      else .error key.closed
    | some ⟨span, .array .headed elements⟩ =>
      match elements.getLast? with
      | some ⟨last, .table form inner⟩ => do
        let inner ← edit byHeader change path form inner
        return entries.set key.value
          ⟨span, .array .headed (elements.dropLast ++ [⟨last, .table form inner⟩])⟩
      | _ => .error key.closed
    | some _ => .error key.closed

/-- Gives a value to a key. -/
def assign (key : Key) (value : Located Value) (entries : Entries) : Except Problem Entries :=
  if (entries.get? key.value).isSome then .error key.duplicate
  else .ok (entries ++ [(key.value, value)])

/-- Gives a value to a key on the way of dotted keys. -/
def assignAt (path : List Key) (key : Key) (value : Located Value) (form : TableForm)
    (entries : Entries) : Except Problem Entries :=
  edit false
    (fun reached inner =>
      if !path.isEmpty && reached ≠ .dotted then .error key.duplicate else assign key value inner)
    path form entries

/-- Opens the table of a key. -/
def openTable (key : Key) (span : Span) (entries : Entries) : Except Problem Entries :=
  match entries.get? key.value with
  | none => .ok (entries ++ [(key.value, ⟨span, .table .headed []⟩)])
  | some ⟨_, .table .implied inner⟩ => .ok (entries.set key.value ⟨span, .table .headed inner⟩)
  | some _ => .error key.duplicate

/-- Opens one more table of the array of a key. -/
def openElement (key : Key) (span : Span) (entries : Entries) : Except Problem Entries :=
  let element : Located Value := ⟨span, .table .headed []⟩
  match entries.get? key.value with
  | none => .ok (entries ++ [(key.value, ⟨span, .array .headed [element]⟩)])
  | some ⟨first, .array .headed elements⟩ =>
    .ok (entries.set key.value ⟨first, .array .headed (elements ++ [element])⟩)
  | some _ => .error key.duplicate

end Entries

/-- A document in the middle of its lines. -/
structure Draft where
  entries : Entries
  /-- The way to the table that values are given in. -/
  path : List Key
deriving Repr

namespace Draft

/-- The draft before any line. -/
def empty : Draft := ⟨[], []⟩

/-- The draft after one more line. -/
def add (d : Draft) : Statement → Except Problem Draft
  | .assign path key value => do
    let entries ← Entries.edit true (Entries.assignAt path key value) d.path .headed d.entries
    return { d with entries }
  | .openTable path key span => do
    let change : TableForm → Entries → Except Problem Entries := fun _ => Entries.openTable key span
    let entries ← Entries.edit true change path .headed d.entries
    return ⟨entries, path ++ [key]⟩
  | .openElement path key span => do
    let change : TableForm → Entries → Except Problem Entries := fun _ => Entries.openElement key span
    let entries ← Entries.edit true change path .headed d.entries
    return ⟨entries, path ++ [key]⟩

end Draft

/-- The table that the lines of a document make. -/
def entriesOf (statements : List Statement) : Except Problem Entries := do
  let d ← statements.foldlM Draft.add Draft.empty
  return d.entries

/-- The inline table with some values in it. -/
def inlineEntries (values : List (List Key × Key × Located Value)) : Except Problem Entries :=
  values.foldlM (fun entries (path, key, value) => Entries.assignAt path key value .inline entries) []

end Scaffold.Toml
