import RequestBinding.Convert.Error
import RequestBinding.Record.Basic

/-!
# Values from single texts, files and bodies

The conversions that need no source: one raw text into a value of a flat type, an uploaded file,
and a structured body.
-/

namespace RequestBinding

/-- The number that was read; in lenient mode the zero value when there is none. -/
def orZero (mode : Mode) (target raw : String) (zero : Value) :
    Except NumberError Value → Except ConvertError Value
  | .ok v => .ok v
  | .error reason =>
    match mode with
    | .lenient => .ok zero
    | .strict => .error (.invalid target raw reason)

namespace Scalar

/-- A text that says yes: `true` or `on` in any case, or `1`, with space around it. -/
def isTrue (raw : String) : Bool :=
  let word := Text.trimChars raw.toList
  Text.eqIgnoringAsciiCase word "true".toList || Text.eqIgnoringAsciiCase word "on".toList
    || word == ['1']

/-- Reads a number; the other scalars take every text. -/
def read (s : Scalar) (raw : String) : Except NumberError Value :=
  match s with
  | .bool => .ok (.bool (isTrue raw))
  | .text => .ok (.text raw)
  | .int k =>
    match Numeral.readInt k raw.toList with
    | .ok n => .ok (.int n)
    | .error e => .error (.integer e)
  | .float32 =>
    match DecimalLiteral.read raw.toList with
    | .ok l => .ok (.float32 l.toFloat32)
    | .error e => .error (.float e)
  | .float64 =>
    match DecimalLiteral.read raw.toList with
    | .ok l => .ok (.float64 l.toFloat)
    | .error e => .error (.float e)

/-- The zero value of the scalar type. -/
def zero : Scalar → Value
  | bool => .bool false
  | int _ => .int 0
  | float32 => .float32 0
  | float64 => .float64 0
  | text => .text ""

/-- The value that a raw text holds. -/
def ofRaw (mode : Mode) (s : Scalar) (raw : String) : Except ConvertError Value :=
  orZero mode s.name raw s.zero (s.read raw)

end Scalar

namespace WireType

/-- The value of a type that one raw text holds. -/
def ofRaw (mode : Mode) (type : WireType) (raw : String) : Except ConvertError Value :=
  match type with
  | .scalar s => s.ofRaw mode raw
  | .bytes => .ok (.bytes (Text.utf8Bytes raw))
  | .option inner => (inner.ofRaw mode raw).map .present
  | .box inner => inner.ofRaw mode raw
  | _ => .error (.unsupported type.name .text)

/-- The value of a type that is made from an uploaded file. -/
def ofFile? (f : UploadedFile) : WireType → Option Value
  | .file => some (.file f)
  | .seq item => (item.ofFile? f).map fun v => .seq [v]
  | .option inner => (inner.ofFile? f).map .present
  | _ => none

/-- The value of a type that is made from a structured body. -/
def ofBody (type : WireType) (content : Json) : Except ConvertError Value :=
  match type with
  | .body target =>
    match target.shape.read content with
    | some held => .ok (.body held)
    | none => .error (.body target.name)
  | _ => .error (.unsupported type.name .body)

end WireType

end RequestBinding
