import RequestBinding.Pattern.Regex

/-!
# Matching by partial derivatives

A text is read once from left to right. The state is a set of expressions of which one has to match
the rest of the text; a character turns each into the expressions that are left after it. Only the
characters on either side of a place decide its assertions.
-/

namespace RequestBinding.Pattern.Regex

/-- The expression matches the empty piece between two characters. -/
def acceptsEmpty (before after : Option Char) : Regex → Bool
  | empty => true
  | set _ _ => false
  | assertion a => a.holds before after
  | seq r₁ r₂ => r₁.acceptsEmpty before after && r₂.acceptsEmpty before after
  | alt r₁ r₂ => r₁.acceptsEmpty before after || r₂.acceptsEmpty before after
  | repeated r least _ => least == 0 || r.acceptsEmpty before after

/-- The sequence of two expressions, where an empty first one is left away. -/
def andThen (r₁ r₂ : Regex) : Regex :=
  match r₁ with
  | empty => r₂
  | r₁ => .seq r₁ r₂

/-- The expressions that are left after the character `c`, when `before` comes in front of it.
Repetitions that match the empty piece here count towards the least number, so none are owed
after it. -/
def derive (before : Option Char) (c : Char) : Regex → List Regex
  | empty => []
  | set ignoreCase s => if s.holds ignoreCase c then [empty] else []
  | assertion _ => []
  | seq r₁ r₂ =>
    (r₁.derive before c).map (·.andThen r₂)
      ++ if r₁.acceptsEmpty before (some c) then r₂.derive before c else []
  | alt r₁ r₂ => r₁.derive before c ++ r₂.derive before c
  | repeated r least most =>
    if most == some 0 then []
    else
      let owed := if r.acceptsEmpty before (some c) then 0 else least - 1
      (r.derive before c).map (·.andThen (.repeated r owed (most.map (· - 1))))

/-- Adds expressions to a set, each only once. -/
def gather (found : List Regex) : List Regex → List Regex
  | [] => found
  | r :: rest => gather (if found.contains r then found else r :: found) rest

/-- One of the expressions matches the rest of the text, which stands behind `before`. -/
def run : (before : Option Char) → List Regex → List Char → Bool
  | before, states, [] => states.any (·.acceptsEmpty before none)
  | before, states, c :: rest =>
    run (some c) (gather [] (states.flatMap (·.derive before c))) rest

/-- The expression matches the whole text. -/
def acceptsWhole (r : Regex) (text : List Char) : Bool :=
  run none [r] text

/-- Any text. -/
def anything : Regex :=
  .repeated (.set false .any) 0 none

/-- The expression matches some piece of the text. -/
def acceptsWithin (r : Regex) (text : List Char) : Bool :=
  acceptsWhole (.seq anything (.seq r anything)) text

end RequestBinding.Pattern.Regex
