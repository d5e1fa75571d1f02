import RequestBinding.Json.Value
import RequestBinding.Number.Decimal
import RequestBinding.Number.Integer
import RequestBinding.Text.Blank
import RequestBinding.Text.Split

/-!
# Plain scalars

What a scalar without quotes stands for: nothing, a truth value, an integer, a float, or else its
text. A number with superfluous zeros in front is a text.
-/

namespace RequestBinding.Yaml

/-- The spellings of a missing value. -/
def nullWords : List String := ["~", "null", "Null", "NULL"]

/-- The spellings of the truth values. -/
def boolWords : List (String × Bool) :=
  [("true", true), ("True", true), ("TRUE", true), ("false", false), ("False", false),
    ("FALSE", false)]

/-- The spellings of infinity, and of what is not a number; there is no example of either. -/
def unboundedWords : List String :=
  [".inf", ".Inf", ".INF", ".nan", ".NaN", ".NAN"]

/-- The beginnings of numerals, each with its base. -/
def bases : List (String × Nat) := [("0x", 16), ("0o", 8), ("0b", 2)]

/-- A numeral without sign: digits, in another base behind the beginning for it. -/
def readMagnitude? (cs : List Char) : Option Nat :=
  let based := bases.findSome? fun (lead, base) =>
    (Text.dropLead? lead.toList cs).map fun digits => (base, digits)
  match based with
  | some (base, digits) => (Numeral.readMagnitude base wordMax .tooLarge digits).toOption
  | none => (Numeral.readMagnitude 10 wordMax .tooLarge cs).toOption

/-- Digits that no number begins with: a zero and more behind it. -/
def isPadded (cs : List Char) : Bool :=
  match cs with
  | '0' :: rest => !rest.isEmpty && rest.all Text.isDigit
  | _ => false

/-- Reads an integer of 64 bits. -/
def readInteger? (negative : Bool) (cs : List Char) : Option Int := do
  let n ← readMagnitude? cs
  if negative then
    if n ≤ IntKind.int64.minMagnitude then some (-(n : Int)) else none
  else some n

/-- Reads a finite float. -/
def readFloat? (negative : Bool) (cs : List Char) : Option Float :=
  match DecimalLiteral.readMagnitude cs with
  | some (.finite digits exponent) =>
    let x := (DecimalLiteral.mk negative (.finite digits exponent)).toFloat
    if x.isInf then none else some x
  | _ => none

/-- What a plain scalar stands for. -/
def ofPlain (cs : List Char) : Json :=
  let text := String.ofList cs
  let (negative, rest) := DecimalLiteral.readSign cs
  if cs.isEmpty || nullWords.contains text then .null
  else
    match boolWords.lookup text with
    | some b => .bool b
    | none =>
      if isPadded rest then .text text
      else if unboundedWords.contains (String.ofList rest) then .null
      else
        match readInteger? negative rest with
        | some n => .int n
        | none =>
          match readFloat? negative rest with
          | some x => .float x
          | none => .text text

end RequestBinding.Yaml
