import RequestBinding.Constraint.Validator
import RequestBinding.Record.Path
import RequestBinding.Schema.Position

/-!
# Parameter descriptors

What registration keeps of a field: where its value comes from, under which name, and what is
demanded of it.
-/

namespace RequestBinding

/-- The description of one bound field. -/
structure ParamDescriptor where
  /-- The name of the record. -/
  api : String
  /-- The wire name. -/
  name : String
  /-- The name of the field in its declaration. -/
  field : String
  position : Position
  required : Bool
  isFile : Bool
  path : FieldPath
  tags : TagMap
  /-- The text that replaces a generated error. -/
  customError : Option String
  validator : Validator
  kind : Kind
  /-- The documentation example. -/
  sample : Option Json := none

/-- The description that the tag gives. -/
def ParamDescriptor.description (d : ParamDescriptor) : Option String :=
  d.tags.get? Tag.descriptionKey

end RequestBinding
