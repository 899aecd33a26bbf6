import Scaffold.Path
import Scaffold.Text.Quoted

/-!
# Records of a journal

What a run says about itself while it works. A record has a severity, the component that speaks, and
perhaps a scope: the activity on a file that it belongs to.
-/

namespace Scaffold

/-- How much a record matters, least first. -/
inductive Severity where
  | trace
  | debug
  | info
  | warn
  | error
deriving DecidableEq, Repr

namespace Severity

/-- The place of a severity in the order. -/
def rank : Severity → Nat
  | trace => 0
  | debug => 1
  | info => 2
  | warn => 3
  | error => 4

/-- The name of a severity in a journal. -/
def title : Severity → String
  | trace => "TRACE"
  | debug => "DEBUG"
  | info => "INFO"
  | warn => "WARN"
  | error => "ERROR"

/-- The name of a severity in a filter. -/
def word : Severity → String
  | trace => "trace"
  | debug => "debug"
  | info => "info"
  | warn => "warn"
  | error => "error"

end Severity

/-- An activity on a file. -/
structure LogScope where
  activity : String
  path : Path
deriving DecidableEq, Repr

/-- A record of a journal. -/
structure LogRecord where
  severity : Severity
  /-- The part of the program that speaks. -/
  component : String
  scope : Option LogScope
  message : String
  /-- Names and values that go with the message. -/
  fields : List (String × String)
deriving DecidableEq, Repr

/-- Records in the order in which they were made. -/
abbrev Journal := List LogRecord

namespace LogRecord

/-- A record without a scope. -/
def plain (severity : Severity) (component message : String)
    (fields : List (String × String) := []) : LogRecord :=
  ⟨severity, component, none, message, fields⟩

end LogRecord

end Scaffold
