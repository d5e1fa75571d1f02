import RequestBinding.Json.Shape
import RequestBinding.Wire.Scalar

/-!
# Bindable types

The types that values are bound to. A record stands in a type by its identity; what it consists of
is declared elsewhere, so records may contain themselves behind lists, maps and optional values.
-/

namespace RequestBinding

/-- A bindable type. -/
inductive WireType where
  | scalar (s : Scalar)
  /-- The octets of a raw text. -/
  | bytes
  | file
  | cookie
  | seq (item : WireType)
  /-- A map; only a map that keeps its entries sorted has an example. -/
  | map (sorted : Bool) (key value : WireType)
  | option (inner : WireType)
  /-- A value behind a pointer, which binds like the value itself. -/
  | box (inner : WireType)
  /-- A structured body. -/
  | body (target : BodyTarget)
  /-- A record by its identity. -/
  | record (ident : String)

namespace WireType

/-- The name of the type in messages. -/
def name : WireType → String
  | scalar s => s.name
  | bytes => "RawBytes"
  | file => "UploadedFile"
  | cookie => "Cookie"
  | seq item => "Vec<" ++ item.name ++ ">"
  | map sorted key value =>
    (if sorted then "BTreeMap<" else "HashMap<") ++ key.name ++ "," ++ value.name ++ ">"
  | option inner => "Option<" ++ inner.name ++ ">"
  | box inner => "Box<" ++ inner.name ++ ">"
  | body target => "Body<" ++ target.name ++ ">"
  | record ident => ident

/-- One raw text holds a value of the type, so a list of them may be a repeated key. -/
def isFlat : WireType → Bool
  | scalar _ => true
  | bytes => true
  | option inner => inner.isFlat
  | box inner => inner.isFlat
  | _ => false

/-- The type is that of uploaded files. -/
def isFile : WireType → Bool
  | file => true
  | _ => false

end WireType

end RequestBinding
