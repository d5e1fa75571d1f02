import RequestBinding.Json.Value
import RequestBinding.Number.Integer

/-!
# Shapes of structured bodies

What a body target expects of a JSON value. Reading a value into a shape checks it and leaves the
value as the target holds it: members that the shape does not name are gone, and members that may
be left away have their default.
-/

namespace RequestBinding

mutual

/-- The structure that a target expects. -/
inductive Shape where
  /-- Any value. -/
  | any
  /-- An integer of a type. -/
  | int (k : IntKind)
  | text
  | list (item : Shape)
  /-- An object with free keys. -/
  | dict (value : Shape)
  /-- An object with given keys. -/
  | record (members : Members)

/-- The members of a record in order, each with the value it has when it may be left away. -/
inductive Members where
  | nil
  | cons (key : String) (shape : Shape) (default : Option Json) (rest : Members)

end

mutual

/-- The value of a target that nothing has been read into. -/
def Shape.zero : Shape → Json
  | .any => .null
  | .int _ => .int 0
  | .text => .text ""
  | .list _ => .array []
  | .dict _ => .object []
  | .record members => .ofMembers members.zero

/-- The members of a record that nothing has been read into. -/
def Members.zero : Members → List (String × Json)
  | .nil => []
  | .cons key shape _ rest => (key, shape.zero) :: rest.zero

end

mutual

/-- Reads a value into the shape; nothing when it does not fit. A record may also be written as
the array of its members. -/
def Shape.read : Shape → Json → Option Json
  | .any, value => some value
  | .int k, .int n => if k.holds n then some (.int n) else none
  | .text, .text s => some (.text s)
  | .list item, .array items => (items.mapM item.read).map .array
  | .dict value, .object members =>
    (members.mapM fun member => (value.read member.2).map fun v => (member.1, v)).map .object
  | .record members, .object given => (members.readObject given).map .ofMembers
  | .record members, .array given => (members.readArray given).map .ofMembers
  | _, _ => none

/-- Reads the members of a record out of an object. -/
def Members.readObject : Members → List (String × Json) → Option (List (String × Json))
  | .nil, _ => some []
  | .cons key shape default rest, given => do
    let value ←
      match given.lookup key with
      | some value => shape.read value
      | none => default
    let others ← rest.readObject given
    return (key, value) :: others

/-- Reads the members of a record out of an array, which may not have more items. -/
def Members.readArray : Members → List Json → Option (List (String × Json))
  | .nil, [] => some []
  | .nil, _ :: _ => none
  | .cons key shape default rest, given => do
    let value ←
      match given with
      | value :: _ => shape.read value
      | [] => default
    let others ← rest.readArray given.tail
    return (key, value) :: others

end

/-- What a structured body is read into: a shape and the name that messages give it. -/
structure BodyTarget where
  name : String
  shape : Shape

end RequestBinding
