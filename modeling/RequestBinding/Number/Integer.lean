import RequestBinding.Text.Letters

/-!
# Fixed-width integers in text

The integer types of wire values with their bounds, and the reading of a decimal numeral into one
of them. A numeral is read digit by digit, so of two faults the one further left is reported.
-/

namespace RequestBinding

/-- An integer type: signed or unsigned, of a given width. The two `size` types are as wide as an
address, which is 64 bits. -/
inductive IntKind where
  | int8 | int16 | int32 | int64 | intSize
  | uint8 | uint16 | uint32 | uint64 | uintSize
  deriving DecidableEq, Repr

namespace IntKind

/-- The name under which values and messages show the type. -/
def name : IntKind → String
  | int8 => "i8" | int16 => "i16" | int32 => "i32" | int64 => "i64" | intSize => "isize"
  | uint8 => "u8" | uint16 => "u16" | uint32 => "u32" | uint64 => "u64" | uintSize => "usize"

/-- The type has negative values. -/
def isSigned : IntKind → Bool
  | int8 | int16 | int32 | int64 | intSize => true
  | uint8 | uint16 | uint32 | uint64 | uintSize => false

/-- The number of bits of a value. -/
def bits : IntKind → Nat
  | int8 | uint8 => 8
  | int16 | uint16 => 16
  | int32 | uint32 => 32
  | int64 | uint64 | intSize | uintSize => 64

/-- The largest value. -/
def maxValue (k : IntKind) : Nat :=
  if k.isSigned then Nat.pow 2 (k.bits - 1) - 1 else Nat.pow 2 k.bits - 1

/-- How far below zero the smallest value lies. -/
def minMagnitude (k : IntKind) : Nat :=
  if k.isSigned then Nat.pow 2 (k.bits - 1) else 0

/-- The values of the type. -/
def holds (k : IntKind) (n : Int) : Prop :=
  -(k.minMagnitude : Int) ≤ n ∧ n ≤ (k.maxValue : Int)

instance (k : IntKind) (n : Int) : Decidable (k.holds n) :=
  inferInstanceAs (Decidable (_ ∧ _))

end IntKind

/-- The largest number that fits 64 bits without sign. -/
def wordMax : Nat := Nat.pow 2 64 - 1

/-- Why a text is no numeral of an integer type. -/
inductive NumeralError where
  | empty
  | invalidDigit
  | tooLarge
  | tooSmall
  deriving DecidableEq, Repr

namespace NumeralError

/-- The wording of the reason. -/
def message : NumeralError → String
  | empty => "cannot parse integer from empty string"
  | invalidDigit => "invalid digit found in string"
  | tooLarge => "number too large to fit in target type"
  | tooSmall => "number too small to fit in target type"

end NumeralError

namespace Numeral

/-- The value of a digit in a base of at most sixteen. -/
def digitValue? (base : Nat) (c : Char) : Option Nat :=
  let value :=
    if Text.isDigit c then c.toNat - '0'.toNat
    else if 'a' ≤ c ∧ c ≤ 'f' then c.toNat - 'a'.toNat + 10
    else if 'A' ≤ c ∧ c ≤ 'F' then c.toNat - 'A'.toNat + 10
    else base
  if value < base then some value else none

/-- Reads digits onto `value`, as long as the number stays within `limit`; `overflow` is the
complaint when it does not. -/
def readDigits (base limit : Nat) (overflow : NumeralError) :
    Nat → List Char → Except NumeralError Nat
  | value, [] => .ok value
  | value, c :: rest =>
    match digitValue? base c with
    | none => .error .invalidDigit
    | some d =>
      let value := value * base + d
      if value ≤ limit then readDigits base limit overflow value rest else .error overflow

/-- Reads digits, at least one, as a number within `limit`. -/
def readMagnitude (base limit : Nat) (overflow : NumeralError) (cs : List Char) :
    Except NumeralError Nat :=
  if cs.isEmpty then .error .invalidDigit else readDigits base limit overflow 0 cs

/-- Reads a natural number within `limit`, with an optional plus sign. -/
def readNat (base limit : Nat) (cs : List Char) : Except NumeralError Nat :=
  match cs with
  | [] => .error .empty
  | '+' :: digits => readMagnitude base limit .tooLarge digits
  | digits => readMagnitude base limit .tooLarge digits

/-- Reads a decimal numeral of an integer type. A minus sign belongs to the signed types only. -/
def readInt (k : IntKind) (cs : List Char) : Except NumeralError Int :=
  match cs with
  | '-' :: digits =>
    if k.isSigned then
      (readMagnitude 10 k.minMagnitude .tooSmall digits).map fun n => -(n : Int)
    else .error .invalidDigit
  | cs => (readNat 10 k.maxValue cs).map Int.ofNat

/-- Reads a decimal number that fits 64 bits without sign. -/
def readWord? (cs : List Char) : Option Nat :=
  (readNat 10 wordMax cs).toOption

end Numeral

end RequestBinding
