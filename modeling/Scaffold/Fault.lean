import Scaffold.Path

/-!
# Faults

Everything that can go wrong, by cause. `Fault.message` is the one place that words a fault.
-/

namespace Scaffold

/-- The cause of a failure. -/
inductive Fault where
  /-- A file operation was refused; `cause` is the system's own words, if the system was asked. -/
  | fileSystem (text : String) (path : Option Path) (cause : Option String)
  /-- A source text has no clean parse; `line` and `column` count from one. -/
  | parse (file : Path) (line column : Nat) (text : String)
  /-- A type in the signature of a member has no placeholder value. -/
  | unresolvedDefault (className member type : String)
  /-- A settings text cannot be read. -/
  | configuration (text : String)
  /-- A setting has a value out of its range. -/
  | validation (text : String)
  /-- A fault, told by its message, with what was being done. -/
  | during (activity text : String)
  /-- A fault of a component outside. -/
  | external (text : String)
  /-- A fault of the system. -/
  | system (text : String)
deriving DecidableEq, Repr

namespace Fault

/-- The wording of a fault. -/
def message : Fault → String
  | fileSystem text _ _ => "File system error: " ++ text
  | parse file line column text =>
    "Parse error in " ++ file.text ++ ":" ++ toString line ++ ":" ++ toString column ++ ": " ++ text
  | unresolvedDefault className member type =>
    "No default value for `" ++ type ++ "` in " ++ className ++ "." ++ member
  | configuration text => "Configuration error: " ++ text
  | validation text => "Validation error: " ++ text
  | during activity text => activity ++ ": " ++ text
  | external text => text
  | system text => text

/-- What the system said, for a fault that comes from the system. -/
def cause? : Fault → Option String
  | fileSystem _ _ cause => cause
  | _ => none

/-- A fault of `activity`: only the message of the fault itself is kept. -/
def whileDoing (activity : String) (f : Fault) : Fault :=
  during activity f.message

end Fault

end Scaffold
