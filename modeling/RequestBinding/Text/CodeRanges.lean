/-!
# Sets and mappings of code points

Two ways to write down a property of characters: a set of code points as closed ranges, and a
mapping as runs of code points that share one offset.
-/

namespace RequestBinding.Text

/-- A set of code points, written as closed ranges. -/
abbrev CodeRanges := List (Nat × Nat)

/-- `c` lies in one of the ranges. -/
def CodeRanges.holds (ranges : CodeRanges) (c : Char) : Bool :=
  ranges.any fun r => r.1 ≤ c.toNat && c.toNat ≤ r.2

/-- Every `stride`-th code point from `first` to `last` is moved by `offset`. -/
structure CaseRun where
  first : Nat
  last : Nat
  stride : Nat
  offset : Int

namespace CaseRun

/-- The run moves this code point. -/
def moves (run : CaseRun) (n : Nat) : Bool :=
  run.first ≤ n && n ≤ run.last && (n - run.first) % run.stride == 0

/-- Where the run takes a code point. -/
def target (run : CaseRun) (n : Nat) : Nat :=
  (n + run.offset).toNat

/-- The code point that the run takes to `n`, if there is one. -/
def origin? (run : CaseRun) (n : Nat) : Option Nat :=
  let m := (n - run.offset).toNat
  if run.moves m && run.target m == n then some m else none

end CaseRun

/-- The code point that the first run moving `n` gives, or `n` when none does. -/
def applyRuns (runs : List CaseRun) (n : Nat) : Nat :=
  match runs.find? (·.moves n) with
  | some run => run.target n
  | none => n

end RequestBinding.Text
