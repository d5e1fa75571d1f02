import RequestBinding.Pattern.CharSet

/-!
# Regular expressions

The expressions that patterns denote, and what it means that one matches a piece of a text. A
piece is seen together with the text before and after it, because assertions look at both.
-/

namespace RequestBinding.Pattern

/-- A condition on a place in a text. -/
inductive Assertion where
  | textStart
  | textEnd
  | lineStart
  | lineEnd
  | wordEdge
  | noWordEdge
  deriving DecidableEq, Repr

namespace Assertion

/-- The condition holds between the character before and the character after a place. -/
def holds (a : Assertion) (before after : Option Char) : Bool :=
  match a with
  | textStart => before.isNone
  | textEnd => after.isNone
  | lineStart => before.all (· == '\n')
  | lineEnd => after.all (· == '\n')
  | wordEdge => before.any isWord != after.any isWord
  | noWordEdge => before.any isWord == after.any isWord

end Assertion

/-- A regular expression. -/
inductive Regex where
  /-- The empty text. -/
  | empty
  | set (ignoreCase : Bool) (s : CharSet)
  | assertion (a : Assertion)
  | seq (first second : Regex)
  | alt (first second : Regex)
  /-- At least `least` and, when there is a bound, at most `most` repetitions. -/
  | repeated (r : Regex) (least : Nat) (most : Option Nat)
  deriving DecidableEq, Repr

namespace Regex

/-- `Matches r before piece after`: the expression matches `piece` where it stands between `before`
and `after`. -/
inductive Matches : Regex → List Char → List Char → List Char → Prop where
  | empty {before after} : Matches .empty before [] after
  | set {ignoreCase s c before after} : s.holds ignoreCase c = true →
      Matches (.set ignoreCase s) before [c] after
  | assertion {a before after} : a.holds before.getLast? after.head? = true →
      Matches (.assertion a) before [] after
  | seq {r₁ r₂ before piece₁ piece₂ after} : Matches r₁ before piece₁ (piece₂ ++ after) →
      Matches r₂ (before ++ piece₁) piece₂ after →
      Matches (.seq r₁ r₂) before (piece₁ ++ piece₂) after
  | first {r₁ r₂ before piece after} : Matches r₁ before piece after →
      Matches (.alt r₁ r₂) before piece after
  | second {r₁ r₂ before piece after} : Matches r₂ before piece after →
      Matches (.alt r₁ r₂) before piece after
  | stop {r most before after} : Matches (.repeated r 0 most) before [] after
  | again {r least most before piece₁ piece₂ after} : most ≠ some 0 →
      Matches r before piece₁ (piece₂ ++ after) →
      Matches (.repeated r (least - 1) (most.map (· - 1))) (before ++ piece₁) piece₂ after →
      Matches (.repeated r least most) before (piece₁ ++ piece₂) after

/-- The expression matches the whole of a text. -/
def MatchesWhole (r : Regex) (text : List Char) : Prop :=
  Matches r [] text []

/-- The expression matches some piece of a text. -/
def MatchesWithin (r : Regex) (text : List Char) : Prop :=
  ∃ before piece after, text = before ++ piece ++ after ∧ Matches r before piece after

end Regex

end RequestBinding.Pattern
