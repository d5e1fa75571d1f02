import RequestBinding.Settings

/-!
# Command-line arguments

Options and positional arguments. An option is written `--name value`, `--name=value`, `-n value`,
`-nvalue` or `-n=value`, and a flag has no value. A single hyphen is a value; other arguments that
begin with a hyphen are options, until two hyphens end the options. No option may be repeated.
-/

namespace RequestBinding.Command

/-- An option of a command. -/
structure OptionSpec where
  long : String
  short : Option Char := none
  /-- The option has a value. -/
  valued : Bool := true

/-- The arguments of a command: options with their values, and the others. -/
structure Arguments where
  options : List (String × String) := []
  positional : List String := []
  deriving DecidableEq, Repr

namespace Arguments

/-- The arguments with one more option in front. -/
def withOption (args : Arguments) (name value : String) : Arguments :=
  { args with options := (name, value) :: args.options }

/-- The arguments with one more positional one in front. -/
def withPositional (args : Arguments) (value : String) : Arguments :=
  { args with positional := value :: args.positional }

/-- An option as an argument begins it: its name, and the value that is attached to it. -/
structure Opening where
  spec : OptionSpec
  attached : Option String

/-- The option that an argument begins; `none` when no such option exists. -/
def opening? (specs : List OptionSpec) : List Char → Option Opening
  | '-' :: '-' :: rest =>
    let (name, attached) :=
      match Text.cutAt '=' rest with
      | some (name, value) => (name, some (String.ofList value))
      | none => (rest, none)
    (specs.find? (·.long.toList == name)).map fun spec => ⟨spec, attached⟩
  | '-' :: c :: rest =>
    let attached :=
      match rest with
      | [] => none
      | '=' :: value => some (String.ofList value)
      | value => some (String.ofList value)
    (specs.find? (·.short == some c)).map fun spec => ⟨spec, attached⟩
  | _ => none

/-- The argument stands for itself. -/
def isValue (arg : String) : Bool :=
  match arg.toList with
  | '-' :: _ :: _ => false
  | _ => true

/-- Reads arguments; `none` when they are refused. -/
def read? (specs : List OptionSpec) : List String → Option Arguments
  | [] => some {}
  | [arg] =>
    if arg == "--" then some {}
    else if isValue arg then some { positional := [arg] }
    else
      match opening? specs arg.toList with
      | none => none
      | some ⟨spec, some value⟩ =>
        if spec.valued then some { options := [(spec.long, value)] } else none
      | some ⟨spec, none⟩ =>
        if spec.valued then none else some { options := [(spec.long, "")] }
  | arg :: next :: rest =>
    if arg == "--" then some { positional := next :: rest }
    else if isValue arg then (read? specs (next :: rest)).map (·.withPositional arg)
    else
      match opening? specs arg.toList with
      | none => none
      | some ⟨spec, some value⟩ =>
        if spec.valued then (read? specs (next :: rest)).map (·.withOption spec.long value)
        else none
      | some ⟨spec, none⟩ =>
        if spec.valued then
          if isValue next then (read? specs rest).map (·.withOption spec.long next) else none
        else (read? specs (next :: rest)).map (·.withOption spec.long "")

/-- No option is repeated. -/
def isDistinct (args : Arguments) : Bool :=
  (args.options.map (·.1)).Nodup

/-- The value of an option. -/
def option? (args : Arguments) (name : String) : Option String :=
  args.options.lookup name

end Arguments

end RequestBinding.Command
