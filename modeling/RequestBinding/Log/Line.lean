import RequestBinding.Json.Value
import RequestBinding.Log.Event
import RequestBinding.Text.Letters

/-!
# Log lines

An event as a line of structured data. When it happened and where it came from is for whoever
writes the line to add.
-/

namespace RequestBinding

/-- The level as lines write it. -/
def LogLevel.label (level : LogLevel) : String :=
  String.ofList (level.name.toList.map Text.asciiUpper)

/-- A detail as structured data. -/
def LogValue.toJson : LogValue → Json
  | number n => .int n
  | flag b => .bool b
  | text s => .text s

/-- The event as structured data; the message is one of its fields. -/
def Event.toJson (e : Event) : Json :=
  .ofMembers
    [("level", .text e.level.label), ("target", .text e.source.target),
      ("fields",
        .ofMembers (("message", .text e.message) :: e.fields.map fun (k, v) => (k, v.toJson)))]

end RequestBinding
