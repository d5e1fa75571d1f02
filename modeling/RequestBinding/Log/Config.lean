import RequestBinding.Log.Directive
import RequestBinding.Settings

/-!
# Log configuration

Which events are written and in which form, as environment variables say it. Directives that
cannot be read are named in warnings and count as not given.
-/

namespace RequestBinding

/-- The form of log lines. -/
inductive LogFormat where
  | json
  | pretty
  deriving DecidableEq, Repr

namespace LogFormat

/-- The name of the form. -/
def name : LogFormat → String
  | json => "Json"
  | pretty => "Pretty"

/-- The form of a name; anything unknown means JSON. -/
def ofName (s : String) : LogFormat :=
  if Text.lowerChars s.toList == "pretty".toList then pretty else json

end LogFormat

/-- The configuration of the log. -/
structure LogConfig where
  /-- The name of the level as it was given. -/
  level : String := "info"
  format : LogFormat := .json
  /-- Directives between commas. -/
  targetFilter : Option String := none
  /-- Log lines tell where in the program they come from. -/
  location : Bool := false
  deriving DecidableEq, Repr

namespace LogConfig

/-- The configuration that variables set. -/
def ofLookup (lookup : Settings.Lookup) : LogConfig :=
  { level := (lookup "PARAMBIND_LOG_LEVEL").getD "info"
    format := .ofName ((lookup "PARAMBIND_LOG_FORMAT").getD "json")
    targetFilter := lookup "PARAMBIND_LOG_TARGET_FILTER"
    location := lookup "PARAMBIND_LOG_INCLUDE_LOCATION" == some "true" }

/-- The configuration for development. -/
def development : LogConfig :=
  { level := "debug", format := .pretty, location := true }

/-- The configuration for production. -/
def production : LogConfig := {}

/-- The level of the name; anything unknown means `info`. -/
def levelLimit (config : LogConfig) : LevelLimit :=
  let name := String.ofList (Text.lowerChars config.level.toList)
  let known : List LevelLimit := [some .trace, some .debug, some .warn, some .error]
  (known.find? (·.name == name)).getD (some .info)

/-- The directives for targets, each as a text without space around it. -/
def directiveTexts (config : LogConfig) : List String :=
  let pieces := (config.targetFilter.getD "").toList.splitOn ','
  ((pieces.map Text.trimChars).filter (!·.isEmpty)).map String.ofList

/-- The filter of the configuration: that of the variable `RUST_LOG` if it can be read and else the
level, together with the directives for targets. -/
def filter (config : LogConfig) (lookup : Settings.Lookup) : LogFilter :=
  let byLevel := LogFilter.ofDirectives [{ limit := config.levelLimit }]
  let base := ((lookup "RUST_LOG").bind LogFilter.parse?).getD byLevel
  (config.directiveTexts.filterMap Directive.parse?).foldl LogFilter.add base

/-- The warnings about directives that cannot be read. -/
def warnings (config : LogConfig) : List String :=
  (config.directiveTexts.filter fun text => (Directive.parse? text).isNone).map fun text =>
    "Warning: Invalid log filter directive: " ++ text

end LogConfig

/-- Why logging cannot be set up: it already is. -/
def LogConfig.alreadySet : String := "Failed to initialize logging"

end RequestBinding
