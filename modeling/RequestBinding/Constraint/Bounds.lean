import RequestBinding.Text.Blank
import RequestBinding.Text.Split
import RequestBinding.Number.Decimal
import RequestBinding.Number.Integer

/-!
# Bounds

A closed interval as a tag declares it: `least:most`, where either side may be left open, or one
number that is both.
-/

namespace RequestBinding

/-- An interval whose sides may be open. -/
structure Bounds (α : Type) where
  least : Option α
  most : Option α
  deriving DecidableEq, Repr

namespace Bounds

/-- The two sides of a declaration as texts. A single number stands for both sides; there must be
something on one of two. -/
def sides? (tuple : String) : Option (List Char × List Char) :=
  let blank (cs : List Char) : Bool := (Text.trimChars cs).isEmpty
  match tuple.toList.splitOn ':' with
  | [a] => if blank a then none else some (a, a)
  | [a, b] => if blank a && blank b then none else some (a, b)
  | _ => none

/-- Reads one side; a blank one is open. -/
def readSide {α : Type} (read : List Char → Option α) (side : List Char) : Option (Option α) :=
  let cs := Text.trimChars side
  if cs.isEmpty then some none else (read cs).map some

/-- Reads a declaration whose numbers are read by `read`. -/
def parse? {α : Type} (read : List Char → Option α) (tuple : String) : Option (Bounds α) := do
  let (a, b) ← sides? tuple
  let least ← readSide read a
  let most ← readSide read b
  return ⟨least, most⟩

/-- Bounds on numbers. -/
def ofNumbers? (tuple : String) : Option (Bounds Float) :=
  parse? (fun cs => (DecimalLiteral.read cs).toOption.map (·.toFloat)) tuple

/-- Bounds on lengths. -/
def ofLengths? (tuple : String) : Option (Bounds Nat) :=
  parse? Numeral.readWord? tuple

end Bounds

end RequestBinding
