import RequestBinding.Wire.Scalar

/-!
# Kinds

The shape of a bindable type as far as declarations are checked against it. Integer types of
different widths have one kind, and so have an optional value and a value behind a pointer.
-/

namespace RequestBinding

/-- The kind of a type. -/
inductive Kind where
  | scalar (c : ScalarClass)
  | bytes
  | seq (item : Kind)
  | map (key value : Kind)
  /-- A record of some name. -/
  | record (name : String)
  /-- An optional value, or one behind a pointer. -/
  | pointer (inner : Kind)
  | file
  | cookie
  /-- A structured body for the target of some name. -/
  | body (target : String)
  deriving DecidableEq, Repr

namespace Kind

/-- Texts, the kind whose length and pattern can be constrained. -/
def isText : Kind → Bool
  | scalar .text => true
  | _ => false

/-- Numbers, the kind whose range can be constrained. -/
def isNumeric : Kind → Bool
  | scalar .int => true
  | scalar .uint => true
  | scalar .float => true
  | _ => false

/-- A value of the kind is held by one raw text, so a list of them may be a repeated key. -/
def isFlat : Kind → Bool
  | scalar _ => true
  | bytes => true
  | pointer inner => inner.isFlat
  | _ => false

/-- The kind of the items of a sequence. -/
def item? : Kind → Option Kind
  | seq item => some item
  | _ => none

/-- The kind that constraints on single values look at: that of the items for a sequence. -/
def constrained (k : Kind) : Kind :=
  k.item?.getD k

/-- A file or a list of files. -/
def isFile : Kind → Bool
  | file => true
  | seq file => true
  | _ => false

/-- A structured body. -/
def isBody : Kind → Bool
  | body _ => true
  | _ => false

/-- A value behind a pointer. -/
def isPointer : Kind → Bool
  | pointer _ => true
  | _ => false

/-- A record or a map, whose parts have keys of their own. -/
def isCompound : Kind → Bool
  | record _ => true
  | map _ _ => true
  | _ => false

/-- The text that messages show for the kind. -/
def display : Kind → String
  | scalar c => c.name
  | bytes => "Bytes"
  | seq item => "Vec<" ++ item.display ++ ">"
  | map key value => "Map<" ++ key.display ++ ", " ++ value.display ++ ">"
  | record name => name
  | pointer inner => "Option<" ++ inner.display ++ ">"
  | file => "UploadedFile"
  | cookie => "Cookie"
  | body target => "Body<" ++ target ++ ">"

end Kind

end RequestBinding
