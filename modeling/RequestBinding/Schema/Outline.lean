import RequestBinding.Json.Printer
import RequestBinding.Schema.Registry
import RequestBinding.Text.Quoted

/-!
# Outlines

One-line texts that show everything a registered record consists of: the name of a structure before
its parts in braces, the name of an alternative before its content in parentheses, lists in square
brackets, texts quoted.
-/

namespace RequestBinding.Outline

/-- A structure with its named parts. -/
def structureOf (name : String) (parts : List (String × String)) : String :=
  name ++ " \x7b " ++ ", ".intercalate (parts.map fun (key, value) => key ++ ": " ++ value)
    ++ " \x7d"

/-- An alternative with its content. -/
def wrap (name content : String) : String :=
  name ++ "(" ++ content ++ ")"

/-- A list. -/
def list (items : List String) : String :=
  "[" ++ ", ".intercalate items ++ "]"

/-- A mapping from texts. -/
def mapping (entries : List (String × String)) : String :=
  "\x7b" ++ ", ".intercalate (entries.map fun (key, value) => Text.quoted key ++ ": " ++ value)
    ++ "\x7d"

/-- Something that may be missing. -/
def option (x : Option String) : String :=
  x.elim "None" (wrap "Some")

/-- A truth value. -/
def flag (b : Bool) : String :=
  if b then "true" else "false"

/-- A position. -/
def position : Position → String
  | .path => "Path"
  | .query => "Query"
  | .formData => "FormData"
  | .body => "Body"
  | .header => "Header"
  | .cookie => "Cookie"

/-- A kind. -/
def kind : Kind → String
  | .scalar c => wrap "Scalar" c.name
  | .bytes => "Bytes"
  | .seq item => wrap "Seq" (kind item)
  | .map key value => wrap "Map" (kind key ++ ", " ++ kind value)
  | .record name => wrap "Record" (Text.quoted name)
  | .pointer inner => wrap "Pointer" (kind inner)
  | .file => "File"
  | .cookie => "Cookie"
  | .body target => wrap "Body" (Text.quoted target)

/-- Bounds whose numbers are shown by `number`. -/
def bounds {α : Type} (number : α → String) (b : Bounds α) : String :=
  structureOf "Bounds" [("min", option (b.least.map number)), ("max", option (b.most.map number))]

/-- A pattern. -/
def pattern (p : FullMatch) : String :=
  structureOf "Pattern"
    [("source", Text.quoted p.source),
      ("compiled", wrap "Regex" (Text.quoted (FullMatch.anchored p.source)))]

/-- Limits from `1e-4` to below `1e16` are shown without exponent; a positive exponent has no
sign, and a half goes up. -/
def limitStyle : FloatStyle := ⟨-4, 15, false, .up⟩

/-- A limit of a range. -/
def limit (x : Float) : String :=
  (FloatClass.ofFloat x).descriptive limitStyle

/-- The constraints of a field. -/
def validator (v : Validator) : String :=
  structureOf "Validator"
    [("range", option (v.range.map (bounds limit))),
      ("nonzero", flag v.nonzero), ("len", option (v.length.map (bounds toString))),
      ("regexp", option (v.pattern.map pattern))]

mutual

/-- A documentation example. -/
def json : Json → String
  | .null => "Null"
  | .bool b => wrap "Bool" (flag b)
  | .int n => wrap "Number" (toString n)
  | .float x => wrap "Number" (Json.Printer.floatForm x)
  | .text s => wrap "String" (Text.quoted s)
  | .array items => "Array " ++ list (jsonItems items)
  | .object members => "Object " ++ mapping (jsonMembers members)

/-- The items of an array. -/
def jsonItems : List Json → List String
  | [] => []
  | item :: rest => json item :: jsonItems rest

/-- The members of an object. -/
def jsonMembers : List (String × Json) → List (String × String)
  | [] => []
  | (key, value) :: rest => (key, json value) :: jsonMembers rest

end

/-- The description of a field. -/
def descriptor (d : ParamDescriptor) : String :=
  structureOf "ParamDescriptor"
    [("api_name", Text.quoted d.api), ("name", Text.quoted d.name),
      ("field_name", Text.quoted d.field), ("position", position d.position),
      ("required", flag d.required), ("is_file", flag d.isFile),
      ("field_path", list (d.path.map toString)),
      ("tags", mapping (d.tags.entries.map fun (key, value) => (key, Text.quoted value))),
      ("custom_error", option (d.customError.map Text.quoted)),
      ("validator", validator d.validator), ("kind", kind d.kind),
      ("example", option (d.sample.map json))]

/-- A registered record. Its decoder and its limit on indices are left out. -/
def api (a : ParamsApi) : String :=
  "ParamsApi \x7b name: " ++ Text.quoted a.name ++ ", params: " ++ list (a.params.map descriptor)
    ++ ", max_memory: " ++ toString a.maxMemory ++ ", .. \x7d"

/-- The choices of a registration, of which nothing can be shown. -/
def options (_ : RegisterOptions) : String :=
  "RegisterOptions \x7b .. \x7d"

/-- A registry. -/
def registry (r : Registry) : String :=
  structureOf "Registry"
    [("types", toString r.size),
      ("config",
        structureOf "BindConfig"
          [("default_max_memory", toString r.settings.maxMemory),
            ("max_array_index", toString r.settings.maxIndex)])]

end RequestBinding.Outline
