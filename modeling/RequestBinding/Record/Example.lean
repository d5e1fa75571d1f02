import RequestBinding.Record.WireName
import RequestBinding.Value.View

/-!
# Documentation examples

A value as the documentation of a parameter shows it. Records show the fields they bind under the
names of their parts; maps without order, optional values that are not there and structured bodies
have no example, which is written as `null`.
-/

namespace RequestBinding

/-- A float as an example; numbers that are not finite have none. -/
def Json.ofFloat (x : Float) : Json :=
  if x.isNaN || x.isInf then .null else .float x

/-- The type without the pointers around it. -/
def WireType.unboxed : WireType → WireType
  | .box inner => inner.unboxed
  | type => type

/-- The fields of the record that a type stands for. -/
def WireType.table (recs : Records) (type : WireType) : FieldTable :=
  match type.unboxed with
  | .record ident => (recs.find? ident).elim .nil (·.fields)
  | _ => .nil

mutual

/-- The example of a value of some type. -/
def Value.example (recs : Records) (type : WireType) : Value → Json
  | .bool b => .bool b
  | .int n => .int n
  | .float32 x => .ofFloat (widen x)
  | .float64 x => .ofFloat x
  | .text s => .text s
  | .bytes octets => .text (Text.Utf8.decode octets)
  | .file f => .text f.name
  | .cookie c => .text c.value
  | .seq items =>
    match type.unboxed with
    | .seq item => .array (Value.exampleItems recs item items)
    | _ => .null
  | .dict entries =>
    match type.unboxed with
    | .map true _ value => .ofMembers (Value.exampleEntries recs value entries)
    | _ => .null
  | .absent => .null
  | .present v =>
    match type.unboxed with
    | .option inner => v.example recs inner
    | _ => .null
  | .body _ => .null
  | .record fields => .ofMembers (Value.exampleFields recs (type.table recs) fields)

/-- The examples of the items of a sequence. -/
def Value.exampleItems (recs : Records) (item : WireType) : List Value → List Json
  | [] => []
  | v :: rest => v.example recs item :: Value.exampleItems recs item rest

/-- The examples of the entries of a map, each under the text that shows its key. -/
def Value.exampleEntries (recs : Records) (value : WireType) :
    List (Value × Value) → List (String × Json)
  | [] => []
  | (k, v) :: rest =>
    (k.view.display, v.example recs value) :: Value.exampleEntries recs value rest

/-- The examples of the fields that a record binds itself, each under the name of its part. -/
def Value.exampleFields (recs : Records) (table : FieldTable) :
    List Value → List (String × Json)
  | [] => []
  | v :: values =>
    match table with
    | .nil => []
    | .field f rest =>
      match f.role with
      | .bound type => (f.partName, v.example recs type) :: Value.exampleFields recs rest values
      | .unbound _ => Value.exampleFields recs rest values
    | .flattened _ _ _ rest => Value.exampleFields recs rest values

end

end RequestBinding
