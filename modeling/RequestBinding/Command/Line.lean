import RequestBinding.Command.Arguments
import RequestBinding.Command.Inspect
import RequestBinding.Json.Printer
import RequestBinding.Log.Config
import RequestBinding.Pattern.Dialect

/-!
# The command line

Two commands: `tags` shows what a tag says, `bind` shows what a key of a query binds to. What is
shown is JSON over several lines. Arguments that no command takes are refused. This is where the
engine for patterns is chosen, which is that of `Pattern.dialect`.
-/

namespace RequestBinding.Command

/-- A command with its arguments. -/
inductive Invocation where
  | tags (tag : String) (pattern : Option String)
  | bind (query key : String) (asMap : Bool) (maxIndex : Option Nat)
  deriving DecidableEq, Repr

/-- The options of `tags`. -/
def tagsOptions : List OptionSpec :=
  [{ long := "regexp" }]

/-- The options of `bind`. -/
def bindOptions : List OptionSpec :=
  [{ long := "query", short := some 'q' }, { long := "key", short := some 'k' },
    { long := "map", valued := false }, { long := "max-array-index" }]

/-- Reads the arguments of `tags`. -/
def readTags? (args : List String) : Option Invocation := do
  let args ← (Arguments.read? tagsOptions args).filter (·.isDistinct)
  match args.positional with
  | [tag] => return .tags tag (args.option? "regexp")
  | _ => none

/-- Reads the arguments of `bind`. An index that is not given is that of the variable, which must
be a decimal number if it is set. -/
def readBind? (lookup : Settings.Lookup) (args : List String) : Option Invocation := do
  let args ← (Arguments.read? bindOptions args).filter (·.isDistinct)
  if !args.positional.isEmpty then none
  let query ← args.option? "query"
  let key ← args.option? "key"
  let asMap := (args.option? "map").isSome
  match (args.option? "max-array-index").or (lookup Settings.indexVariable) with
  | none => return .bind query key asMap none
  | some text =>
    let n ← Numeral.readWord? text.toList
    return .bind query key asMap (some n)

/-- Reads a command line; `none` when it is refused. -/
def read? (lookup : Settings.Lookup) : List String → Option Invocation
  | [] => none
  | command :: args =>
    if command == "tags" then readTags? args
    else if command == "bind" then readBind? lookup args
    else none

/-- What a command shows, and what was reported on the way. -/
def run (lookup : Settings.Lookup) : Invocation → Except Failure Json × List Event
  | .tags tag pattern => (inspectTag tag pattern, [])
  | .bind query key asMap maxIndex =>
    let settings := Settings.ofLookup lookup
    bindQuery query key asMap { settings with maxIndex := maxIndex.getD settings.maxIndex }

/-- The text in which a command shows a value. -/
def display (shown : Json) : String :=
  shown.pretty ++ "\n"

/-! ## The whole program -/

/-- A text with four spaces in front of each line. -/
def indented (s : String) : String :=
  "\n".intercalate ((s.toList.splitOn '\n').map fun line => "    " ++ String.ofList line)

/-- The report on a failed command. -/
def report (f : Failure) : String :=
  let text :=
    match f.messages with
    | [] => "Error: "
    | [message] => "Error: " ++ message
    | message :: causes =>
      "Error: " ++ message ++ "\n\nCaused by:\n" ++ "\n".intercalate (causes.map indented)
  if f.isCut then text else text ++ "\n"

/-- What a run of the program comes to: its exit status, what it shows, the events that pass the
filter, and what else it tells on the error stream. -/
structure Outcome where
  status : Nat
  output : String := ""
  events : List Event := []
  complaints : String := ""

/-- Runs the program with some arguments in some environment. -/
def program (lookup : Settings.Lookup) (args : List String) : Outcome :=
  let config := LogConfig.ofLookup lookup
  let warnings := String.join (config.warnings.map (· ++ "\n"))
  match read? lookup args with
  | none => { status := 2, complaints := warnings }
  | some command =>
    let (result, events) := run lookup command
    let events := events.filter (config.filter lookup).passes
    match result with
    | .ok shown => { status := 0, output := display shown, events, complaints := warnings }
    | .error f => { status := 1, events, complaints := warnings ++ report f }

end RequestBinding.Command
