import RequestBinding.Text.Blank
import RequestBinding.Text.Letters
import RequestBinding.Text.WordRanges

/-!
# Character sets of patterns

The sets that a pattern names: single characters and ranges, digits, blanks and word characters of
any script, and what brackets build from them. When case is ignored, a bracket first takes in every
character that differs from a member in case alone, and is negated after that.
-/

namespace RequestBinding.Pattern

/-- A decimal digit of any script. -/
def isDecimal (c : Char) : Bool :=
  if Text.isAscii c then Text.isDigit c else Text.decimalRanges.holds c

/-- A character of a word: a letter, a mark, a digit, or a connector such as the underscore. -/
def isWord (c : Char) : Bool :=
  if Text.isAscii c then Text.isAsciiUpper c || Text.isAsciiLower c || Text.isDigit c || c == '_'
  else Text.wordRanges.holds c

/-- A set of characters as a pattern writes it. -/
inductive CharSet where
  /-- No character. -/
  | none
  | range (low high : Char)
  | decimal
  | blank
  | word
  /-- The complement of a named set; case plays no part. -/
  | except (s : CharSet)
  | union (a b : CharSet)
  | inter (a b : CharSet)
  /-- A bracket around a set, negated or not. -/
  | bracket (negated : Bool) (s : CharSet)
  deriving DecidableEq, Repr

namespace CharSet

/-- The set of one character. -/
def single (c : Char) : CharSet :=
  range c c

/-- The set of every character. -/
def any : CharSet :=
  except none

/-- A property that the character, or with case ignored one of its case variants, has. -/
def upToCase (ignoreCase : Bool) (p : Char → Bool) (c : Char) : Bool :=
  if ignoreCase then (Text.caseOrbit c).any p else p c

/-- The character belongs to the set. -/
def holds (ignoreCase : Bool) : CharSet → Char → Bool
  | none, _ => false
  | range low high, c => low ≤ c && c ≤ high
  | decimal, c => isDecimal c
  | blank, c => Text.isBlank c
  | word, c => isWord c
  | except s, c => !s.holds ignoreCase c
  | union a b, c => a.holds ignoreCase c || b.holds ignoreCase c
  | inter a b, c =>
    upToCase ignoreCase (a.holds ignoreCase) c && upToCase ignoreCase (b.holds ignoreCase) c
  | bracket negated s, c => negated != upToCase ignoreCase (s.holds ignoreCase) c

/-- What the first set has beyond the second. -/
def diff (a b : CharSet) : CharSet :=
  inter a (bracket true b)

/-- What exactly one of the two sets has. -/
def symmDiff (a b : CharSet) : CharSet :=
  union (diff a b) (diff b a)

/-- The ASCII sets that have a name inside brackets. -/
def named? : String → Option CharSet
  | "alnum" => some (union alpha (range '0' '9'))
  | "alpha" => some alpha
  | "ascii" => some (range '\x00' '\x7f')
  | "blank" => some (union (single ' ') (single '\t'))
  | "cntrl" => some (union (range '\x00' '\x1f') (single '\x7f'))
  | "digit" => some (range '0' '9')
  | "graph" => some (range '!' '~')
  | "lower" => some (range 'a' 'z')
  | "print" => some (range ' ' '~')
  | "punct" => some (union (union (range '!' '/') (range ':' '@'))
      (union (range '[' (Char.ofNat 96)) (range '\x7b' '~')))
  | "space" => some (union (range '\t' '\r') (single ' '))
  | "upper" => some (range 'A' 'Z')
  | "word" => some (union alpha (union (range '0' '9') (single '_')))
  | "xdigit" => some (union (range '0' '9') (union (range 'a' 'f') (range 'A' 'F')))
  | _ => Option.none
where
  alpha : CharSet := union (range 'a' 'z') (range 'A' 'Z')

end CharSet

end RequestBinding.Pattern
