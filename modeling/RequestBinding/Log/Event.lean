/-!
# Log events

What is reported while requests are read and bound: a level, the part of the library that reports,
a message and named details.
-/

namespace RequestBinding

/-- How much an event matters, the weightiest first. -/
inductive LogLevel where
  | error
  | warn
  | info
  | debug
  | trace
  deriving DecidableEq, Repr

/-- The rank of a level; a larger one is more detailed. -/
def LogLevel.rank : LogLevel → Nat
  | error => 1
  | warn => 2
  | info => 3
  | debug => 4
  | trace => 5

/-- The name of a level. -/
def LogLevel.name : LogLevel → String
  | error => "error"
  | warn => "warn"
  | info => "info"
  | debug => "debug"
  | trace => "trace"

/-- A detail of an event. -/
inductive LogValue where
  | number (n : Nat)
  | flag (b : Bool)
  | text (s : String)
  deriving DecidableEq, Repr

/-- The part of the library that reports an event. -/
inductive LogSource where
  | request
  | registry
  | build
  | adHoc
  deriving DecidableEq, Repr

/-- The name of the part as filters and log lines write it. -/
def LogSource.target : LogSource → String
  | request => "parambind::request"
  | registry => "parambind::schema::registry"
  | build => "parambind::schema::build"
  | adHoc => "parambind::adhoc"

/-- An event. -/
structure Event where
  level : LogLevel
  source : LogSource
  message : String
  fields : List (String × LogValue) := []
  deriving DecidableEq, Repr

end RequestBinding
