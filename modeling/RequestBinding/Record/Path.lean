import RequestBinding.Record.Basic

/-!
# Paths to fields

A field is reached from the record by the places of the fields on the way: one number for a field
of the record itself, more for a field of a flattened record. Main operations: the leaves of a
table with their paths, the handles of a record, and reading and replacing the value at a path.
-/

namespace RequestBinding

/-- The places of the fields on the way to a field. -/
abbrev FieldPath := List Nat

/-- A field that takes values, with its path and its type. -/
structure Leaf where
  path : FieldPath
  field : Field
  type : WireType

namespace FieldTable

/-- The leaves of a table whose first field has the place `index` below `lead`. -/
def leavesFrom (lead : FieldPath) : (index : Nat) → FieldTable → List Leaf
  | _, .nil => []
  | index, .field f rest =>
    match f.role with
    | .bound type => ⟨lead ++ [index], f, type⟩ :: leavesFrom lead (index + 1) rest
    | .unbound _ => leavesFrom lead (index + 1) rest
  | index, .flattened _ _ inner rest =>
    leavesFrom (lead ++ [index]) 0 inner ++ leavesFrom lead (index + 1) rest

/-- The fields that take values, in order, those of flattened records where the record stands. -/
def leaves (table : FieldTable) : List Leaf :=
  table.leavesFrom [] 0

/-- The handles of a table whose first field has the place `index` below `lead`. -/
def handlesFrom (lead : FieldPath) : (index : Nat) → FieldTable → List Leaf
  | _, .nil => []
  | index, .field f rest =>
    match f.handled, f.role with
    | true, .bound type => ⟨lead ++ [index], f, type⟩ :: handlesFrom lead (index + 1) rest
    | _, _ => handlesFrom lead (index + 1) rest
  | index, .flattened _ _ inner rest =>
    handlesFrom (lead ++ [index]) 0 inner ++ handlesFrom lead (index + 1) rest

/-- The fields through which the record is bound as a whole, in order. -/
def handles (table : FieldTable) : List Leaf :=
  table.handlesFrom [] 0

/-- The type of the field at a path, if there is one that takes values. -/
def typeAt? : FieldTable → FieldPath → Option WireType
  | .field f _, [0] => f.boundType?
  | .field _ rest, (n + 1) :: path => rest.typeAt? (n :: path)
  | .flattened _ _ inner _, 0 :: path => inner.typeAt? path
  | .flattened _ _ _ rest, (n + 1) :: path => rest.typeAt? (n :: path)
  | _, _ => none

end FieldTable

namespace Value

/-- The value at a path. -/
def part? : FieldPath → Value → Option Value
  | [], v => some v
  | n :: path, record fields => fields[n]?.bind (part? path)
  | _ :: _, _ => none

/-- The value with another one at a path. -/
def setPart (whole : Value) (path : FieldPath) (new : Value) : Value :=
  match path, whole with
  | [], _ => new
  | n :: path, record fields => record (fields.modify n fun part => part.setPart path new)
  | _ :: _, other => other

end Value

end RequestBinding
