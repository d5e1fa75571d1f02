import RequestBinding.Pattern.Engine
import RequestBinding.Pattern.Matcher
import RequestBinding.Pattern.Reader

/-!
# A dialect of patterns

An engine to run with. It knows literals, classes, groups, alternation, repetition, anchors, edges
of words, and the flags for letter case, lines and the dot. Other engines may know more.
-/

namespace RequestBinding.Pattern

/-- The engine that reads patterns of the dialect and searches for them by partial derivatives. -/
instance dialect : Engine where
  read? pattern := (Regex.parse? pattern.toList).map fun r text => r.acceptsWithin text.toList

end RequestBinding.Pattern
