/-!
# Engines for patterns

Patterns are read and searched for by an engine that is not described here. All that is asked of it
is that it refuses a pattern, or gives a search for it.
-/

namespace RequestBinding.Pattern

/-- An engine for patterns. -/
class Engine where
  /-- The search for a pattern in a text; nothing when the pattern is malformed. -/
  read? : (pattern : String) → Option (String → Bool)

end RequestBinding.Pattern
