/-!
# TOML values

What a TOML document says: a table of values, each with the stretch of text that it was read from. A
table remembers how it came to be, because that decides whether later text may add to it.
-/

namespace Scaffold.Toml

/-- A stretch of a text, by the numbers of characters that follow its first character's place and
its end. -/
structure Span where
  start : Nat
  stop : Nat
deriving DecidableEq, Repr

/-- Something with its stretch of text. -/
structure Located (α : Type) where
  span : Span
  value : α
deriving Repr

/-- How a table came to be. -/
inductive TableForm where
  /-- Named on the way to another table by a header. -/
  | implied
  /-- Opened by a header. -/
  | headed
  /-- Named on the way to a value by a dotted key. -/
  | dotted
  /-- Written between braces. -/
  | inline
deriving DecidableEq, Repr

/-- How an array came to be. -/
inductive ArrayForm where
  /-- Written between brackets. -/
  | listed
  /-- Made of tables that were opened by headers. -/
  | headed
deriving DecidableEq, Repr

/-- A value. -/
inductive Value where
  | string (text : String)
  | integer (n : Int)
  | float (x : Float)
  /-- A number with a fraction or an exponent that is beyond the range of floats. -/
  | vastFloat
  | boolean (b : Bool)
  /-- A date, a time, or both. -/
  | moment
  | array (form : ArrayForm) (elements : List (Located Value))
  | table (form : TableForm) (entries : List (String × Located Value))
deriving Repr, Inhabited

/-- The entries of a table, in the order in which they were made. -/
abbrev Entries := List (String × Located Value)

/-- A key with its stretch of text. -/
abbrev Key := Located String

/-- Why a text is not a document, or a document not what was asked for. -/
structure Problem where
  span : Span
  message : String
deriving Repr

namespace Entries

/-- The value of a key. -/
def get? (entries : Entries) (key : String) : Option (Located Value) :=
  (entries.find? fun e => e.1 = key).map (·.2)

/-- The entries with another value for a key that they have. -/
def set (entries : Entries) (key : String) (value : Located Value) : Entries :=
  entries.map fun e => if e.1 = key then (key, value) else e

end Entries

end Scaffold.Toml
