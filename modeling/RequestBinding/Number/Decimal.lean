import RequestBinding.Text.Letters

/-!
# Reading decimal fractions

A decimal literal is a sign, digits around an optional point, and an optional exponent; the words
for infinity and for "not a number" are literals too. A literal denotes the float nearest to its
exact value, an exact half going to the even neighbour.
-/

namespace RequestBinding

/-- Why a text is no decimal literal. -/
inductive LiteralError where
  | empty
  | malformed
  deriving DecidableEq, Repr

namespace LiteralError

/-- The wording of the reason. -/
def message : LiteralError → String
  | empty => "cannot parse float from empty string"
  | malformed => "invalid float literal"

end LiteralError

/-- The magnitude that a literal denotes. -/
inductive Magnitude where
  | infinite
  | undefined
  /-- The number `digits * 10 ^ exponent`. -/
  | finite (digits : Nat) (exponent : Int)
  deriving Repr, DecidableEq

/-- A literal: its sign and its magnitude. -/
structure DecimalLiteral where
  negative : Bool
  magnitude : Magnitude
  deriving Repr, DecidableEq

namespace DecimalLiteral

/-- The number that decimal digits write. -/
def digitsValue (cs : List Char) : Nat :=
  cs.foldl (fun n c => n * 10 + (c.toNat - '0'.toNat)) 0

/-- Reads a sign, plus being optional: whether it is a minus, and what follows. -/
def readSign : List Char → Bool × List Char
  | '-' :: rest => (true, rest)
  | '+' :: rest => (false, rest)
  | cs => (false, cs)

/-- Reads what follows the digits of a literal: nothing, or an exponent. -/
def readExponent : List Char → Option Int
  | [] => some 0
  | c :: rest =>
    if c == 'e' || c == 'E' then
      let (negative, digits) := readSign rest
      if digits.isEmpty || !digits.all Text.isDigit then none
      else
        let n := digitsValue digits
        some (if negative then -(n : Int) else n)
    else none

/-- Reads digits, a point and an exponent; a digit must stand before or after the point. -/
def readFinite (cs : List Char) : Option Magnitude :=
  let whole := cs.takeWhile Text.isDigit
  let afterWhole := cs.dropWhile Text.isDigit
  let (fraction, rest) :=
    match afterWhole with
    | '.' :: afterPoint => (afterPoint.takeWhile Text.isDigit, afterPoint.dropWhile Text.isDigit)
    | other => ([], other)
  if whole.isEmpty && fraction.isEmpty then none
  else
    (readExponent rest).map fun e =>
      .finite (digitsValue (whole ++ fraction)) (e - fraction.length)

/-- Reads a magnitude: one of the words, whatever its case, or digits. -/
def readMagnitude (cs : List Char) : Option Magnitude :=
  let word := String.ofList (cs.map Text.asciiLower)
  if word == "inf" || word == "infinity" then some .infinite
  else if word == "nan" then some .undefined
  else readFinite cs

/-- Reads a decimal literal. -/
def read (cs : List Char) : Except LiteralError DecimalLiteral :=
  if cs.isEmpty then .error .empty
  else
    let (negative, rest) := readSign cs
    match readMagnitude rest with
    | some m => .ok ⟨negative, m⟩
    | none => .error .malformed

/-- A finite magnitude whose size is far outside every float format is moved to the format's
edge: the second component is then nothing. Otherwise mantissa and exponent are kept. -/
def scale (digits : Nat) (exponent : Int) : Except Magnitude (Nat × Int) :=
  let size : Int := (Nat.toDigits 10 digits).length + exponent
  if digits == 0 then .ok (0, 0)
  else if size > 400 then .error .infinite
  else if size < -400 then .ok (0, 0)
  else .ok (digits, exponent)

/-- The nearest binary64 number. -/
def toFloat (l : DecimalLiteral) : Float :=
  let size : Float :=
    match l.magnitude with
    | .infinite => 1.0 / 0.0
    | .undefined => 0.0 / 0.0
    | .finite digits exponent =>
      match scale digits exponent with
      | .error _ => 1.0 / 0.0
      | .ok (m, e) => Float.ofScientific m (e < 0) e.natAbs
  if l.negative then -size else size

/-- The nearest binary32 number. -/
def toFloat32 (l : DecimalLiteral) : Float32 :=
  let size : Float32 :=
    match l.magnitude with
    | .infinite => 1.0 / 0.0
    | .undefined => 0.0 / 0.0
    | .finite digits exponent =>
      match scale digits exponent with
      | .error _ => 1.0 / 0.0
      | .ok (m, e) => Float32.ofScientific m (e < 0) e.natAbs
  if l.negative then -size else size

end DecimalLiteral

end RequestBinding
