import RequestBinding.Source.Basic
import RequestBinding.Number.Integer

/-!
# Bracket addressing

The keys `key[…]` of a source, each with what its brackets say: an index, nothing, or a name. What
follows the closing bracket belongs to the part, so `key[2].x` speaks about the part `key[2]`.
-/

namespace RequestBinding

/-- One key that goes on with a bracket. -/
inductive Bracket where
  /-- `key[2]`: an index, its digits, and the key of the part. -/
  | index (n : Nat) (digits : Key) (part : Key)
  /-- `key[]`: raw texts without an index. -/
  | unindexed (values : List String)
  /-- `key[name]`: a name and the key of the part. -/
  | named (name : Key) (part : Key)
  deriving DecidableEq, Repr

namespace Bracket

/-- The number that digits write. Numbers that do not fit 64 bits become the largest that does. -/
def indexOf (digits : Key) : Nat :=
  (Numeral.readWord? digits).getD wordMax

/-- Reads the key of an entry as `key[…]`. Empty brackets with something behind them say nothing. -/
def read? (key : Key) (entry : Key × List String) : Option Bracket :=
  match Text.dropLead? (key ++ ['[']) entry.1 with
  | none => none
  | some rest =>
    match Text.cutAt ']' rest with
    | none => none
    | some ([], after) => if after.isEmpty then some (.unindexed entry.2) else none
    | some (inner, _) =>
      if inner.all Text.isDigit then some (.index (indexOf inner) inner (key.bracketed inner))
      else some (.named inner (key.bracketed inner))

/-- What the bracket says as the key of a map entry, and the key of the part. -/
def mapKey? : Bracket → Option (Key × Key)
  | index _ digits part => some (digits, part)
  | named name part => some (name, part)
  | unindexed _ => none

/-- The index of the bracket and the key of the part. -/
def index? : Bracket → Option (Nat × Key)
  | index n _ part => some (n, part)
  | unindexed _ => none
  | named _ _ => none

/-- The raw texts of empty brackets. -/
def appended : Bracket → List String
  | unindexed values => values
  | index _ _ _ => []
  | named _ _ => []

/-- Of the keys of parts the first for each index or name; `seen` holds those that came before. -/
def firsts {α : Type} [BEq α] (seen : List α) : List (α × Key) → List (α × Key)
  | [] => []
  | (label, part) :: rest =>
    if seen.contains label then firsts seen rest
    else (label, part) :: firsts (label :: seen) rest

end Bracket

/-- The keys `key[…]` of a source in order. -/
def KeySource.brackets (src : KeySource) (key : Key) : List Bracket :=
  src.entries.filterMap (Bracket.read? key)

end RequestBinding
