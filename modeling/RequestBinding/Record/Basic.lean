import RequestBinding.Tag
import RequestBinding.Value.Basic
import RequestBinding.Wire.Type
import RequestBinding.Wire.Kind

/-!
# Records

A record is a table of fields. A field either takes a value of some type or takes no part in
binding; the fields of a flattened record stand among those of the record that contains it. A
declaration also says what the record holds before anything is bound.
-/

namespace RequestBinding

/-- The part that a field plays. -/
inductive FieldRole where
  /-- The field takes a value. -/
  | bound (type : WireType)
  /-- The field is left alone; its type is known only where somebody looks at its value. -/
  | unbound (type : Option WireType)

/-- A field of a record. -/
structure Field where
  /-- The name in the declaration. -/
  name : String
  /-- The binding tag. -/
  tag : Option String := none
  /-- A pattern that is declared beside the tag. -/
  pattern : Option String := none
  /-- An error text that is declared beside the tag. -/
  errorText : Option String := none
  /-- The field can be reached from outside of its module. -/
  exported : Bool := true
  role : FieldRole
  /-- The field has a handle when the record is bound as a whole. -/
  handled : Bool := true

namespace Field

/-- The field of an annotation: one whose tag is the mark for exclusion takes no part. -/
def annotated (name : String) (type : WireType) (tag : String) (exported : Bool := true) : Field :=
  if Tag.isIgnored tag then { name, tag := some tag, exported, role := .unbound type }
  else { name, tag := some tag, exported, role := .bound type }

/-- A field without annotation. -/
def plain (name : String) (type : WireType) (exported : Bool := true) : Field :=
  { name, exported, role := .unbound type }

/-- The type of the values that the field takes. -/
def boundType? (f : Field) : Option WireType :=
  match f.role with
  | .bound type => some type
  | .unbound _ => none

end Field

/-- The fields of a record in order. -/
inductive FieldTable where
  | nil
  | field (f : Field) (rest : FieldTable)
  /-- A field whose record is flattened: the name of the field, the identity of its record, and
  the fields of that record. -/
  | flattened (name : String) (ident : String) (inner : FieldTable) (rest : FieldTable)

/-- A declared record. -/
structure Record where
  /-- What tells the record from all others. -/
  ident : String
  /-- The name in messages; two records may share it. -/
  name : String
  fields : FieldTable
  /-- The values of the fields before anything is bound. -/
  zero : List Value

/-- The declared records. -/
structure Records where
  declared : List Record := []

/-- The record of an identity. -/
def Records.find? (recs : Records) (ident : String) : Option Record :=
  recs.declared.find? (·.ident == ident)

/-- What the record of an identity holds before anything is bound. -/
def Records.zeroOf (recs : Records) (ident : String) : List Value :=
  (recs.find? ident).elim [] (·.zero)

/-- What a value of a type is before anything is bound. -/
def WireType.zero (recs : Records) : WireType → Value
  | .scalar .bool => .bool false
  | .scalar (.int _) => .int 0
  | .scalar .float32 => .float32 0
  | .scalar .float64 => .float64 0
  | .scalar .text => .text ""
  | .bytes => .bytes []
  | .file => .file {}
  | .cookie => .cookie {}
  | .seq _ => .seq []
  | .map _ _ _ => .dict []
  | .option _ => .absent
  | .box inner => inner.zero recs
  | .body target => .body target.shape.zero
  | .record ident => .record (recs.zeroOf ident)

/-- What a field holds before anything is bound. -/
def FieldRole.zero (recs : Records) : FieldRole → Value
  | .bound type => type.zero recs
  | .unbound (some type) => type.zero recs
  | .unbound none => .absent

/-- What the fields hold before anything is bound. -/
def FieldTable.zero (recs : Records) : FieldTable → List Value
  | .nil => []
  | .field f rest => f.role.zero recs :: rest.zero recs
  | .flattened _ _ inner rest => .record (inner.zero recs) :: rest.zero recs

namespace Records

/-- Adds the declaration of a record whose fields all start at the zero values of their types. -/
def declare (recs : Records) (ident name : String) (fields : FieldTable) : Records :=
  ⟨{ ident, name, fields, zero := fields.zero recs } :: recs.declared⟩

/-- The kind of a type. -/
def kindOf (recs : Records) : WireType → Kind
  | .scalar s => .scalar s.toClass
  | .bytes => .bytes
  | .file => .file
  | .cookie => .cookie
  | .seq item => .seq (recs.kindOf item)
  | .map _ key value => .map (recs.kindOf key) (recs.kindOf value)
  | .option inner => .pointer (recs.kindOf inner)
  | .box inner => .pointer (recs.kindOf inner)
  | .body target => .body target.name
  | .record ident => .record ((recs.find? ident).elim ident (·.name))

end Records

end RequestBinding
