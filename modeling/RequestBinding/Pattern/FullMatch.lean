import RequestBinding.Pattern.Engine

/-!
# Patterns for whole texts

A declared pattern is meant for the whole of a value. Its text is put into a group between the two
anchors of a text, and what comes out is read as one pattern and searched for.
-/

namespace RequestBinding

/-- A pattern with its text and the search for its anchored form. -/
structure FullMatch where
  source : String
  finds : String → Bool

namespace FullMatch

/-- The anchored form of a pattern. -/
def anchored (source : String) : String :=
  "^(?:" ++ source ++ ")$"

/-- Reads the anchored form of a pattern; nothing when it is malformed. -/
def compile? [Pattern.Engine] (source : String) : Option FullMatch :=
  (Pattern.Engine.read? (anchored source)).map fun finds => ⟨source, finds⟩

/-- The anchored form is found in the text. -/
def accepts (p : FullMatch) (text : String) : Bool :=
  p.finds text

end FullMatch

end RequestBinding
