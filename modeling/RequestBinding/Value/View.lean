import RequestBinding.Value.Basic
import RequestBinding.Number.Shortest
import RequestBinding.Number.Widening

/-!
# Views

What constraints can see of a value: numbers, truth values, texts, octets and sequences of these.
Of everything else a view only tells whether it is zero.
-/

namespace RequestBinding

/-- The view of a value. -/
inductive View where
  | number (x : Float)
  | bool (b : Bool)
  | text (s : String)
  | bytes (octets : Text.Bytes)
  | seq (items : List View)
  | absent
  /-- A value without parts that a constraint could look at. -/
  | sealed (zero : Bool)

namespace View

/-- The value is the zero value of its type. -/
def isZero : View → Bool
  | number x => x == 0.0
  | bool b => !b
  | text s => s.isEmpty
  | bytes octets => octets.isEmpty
  | seq items => items.isEmpty
  | absent => true
  | sealed zero => zero

mutual

/-- The text that messages show for the value. -/
def display : View → String
  | .number x => floatText x
  | .bool b => if b then "true" else "false"
  | .text s => s
  | .bytes octets => Text.Utf8.decode octets
  | .seq items => "[" ++ " ".intercalate (displayItems items) ++ "]"
  | .absent => "<nil>"
  | .sealed _ => "\x7b...\x7d"

/-- The texts of the items of a sequence. -/
def displayItems : List View → List String
  | [] => []
  | item :: rest => item.display :: displayItems rest

end

end View

mutual

/-- What constraints see of the value. -/
def Value.view : Value → View
  | .bool b => .bool b
  | .int n => .number (Float.ofInt n)
  | .float32 x => .number (widen x)
  | .float64 x => .number x
  | .text s => .text s
  | .bytes octets => .bytes octets
  | .file f => .sealed (f.name.isEmpty && f.data.isEmpty)
  | .cookie c => .sealed (c.name.isEmpty && c.value.isEmpty)
  | .seq items => .seq (Value.views items)
  | .dict entries => .sealed entries.isEmpty
  | .absent => .absent
  | .present v => v.view
  | .body _ => .sealed false
  | .record _ => .sealed false

/-- The views of the items of a sequence. -/
def Value.views : List Value → List View
  | [] => []
  | item :: rest => item.view :: Value.views rest

end

end RequestBinding
